/-
Schedules of a labelled transition system, and the two rules every run-level
result of this development is proved with.

A system is a partial step function `step : σ → α → Option σ`: `none` says the
action is not enabled in that state. A schedule is a list of actions, and two
predicates read it:

* [`Always`] -- a property of states holds in the first state and in every
  state the schedule passes through;
* [`Steps`] -- a condition on *the state before a step and the action taken*
  holds at every step of the schedule.

A schedule that asks for a disabled action stops there; what it executed so
far is what both predicates talk about. So no statement needs a "this schedule
is executable" hypothesis, and quantifying over all action lists is quantifying
over all interleavings.

[`always_of_steps`] is the conditioned invariant rule. [`always_iff_steps`]
adds the converse: when a step outside the condition breaks the property at
once, the condition is exact.

[`Refines`] is a map from one system to another that takes steps to steps, or to nothing;
what the other system keeps, the image keeps.

[`Settles`] is about runs that end: every run whose steps meet a condition is finite, and
where it can go no further a property holds. [`settles_of_measure`] is its rule.
-/
import Mathlib.Data.List.Basic

set_option autoImplicit false

namespace Lts

variable {σ α : Type*} (step : σ → α → Option σ)

/-! ## Schedules -/

/-- The state a schedule ends in, if every action of it is enabled in turn. -/
def run : σ → List α → Option σ
  | s, [] => some s
  | s, a :: as =>
      match step s a with
      | some s' => run s' as
      | none => none

/-- `P` holds in `s` and in every state the schedule passes through. -/
def Always (P : σ → Prop) : σ → List α → Prop
  | s, [] => P s
  | s, a :: as => P s ∧ ∀ s', step s a = some s' → Always P s' as

/-- `C` holds of the state before the step and the action, at every step taken. -/
def Steps (C : σ → α → Prop) : σ → List α → Prop
  | _, [] => True
  | s, a :: as => ∀ s', step s a = some s' → C s a ∧ Steps C s' as

variable {step}

@[simp] theorem run_nil (s : σ) : run step s [] = some s := rfl

theorem run_cons_of_step {s s' : σ} {a : α} (as : List α) (h : step s a = some s') :
    run step s (a :: as) = run step s' as := by
  simp only [run, h]

theorem steps_cons_of_step {C : σ → α → Prop} {s s' : σ} {a : α} (as : List α)
    (h : step s a = some s') : Steps step C s (a :: as) ↔ C s a ∧ Steps step C s' as := by
  simp only [Steps, h, Option.some.injEq, forall_eq']

/-- A condition on the actions alone holds at every step if it holds of every action. -/
theorem steps_of_forall_mem {C : α → Prop} {as : List α} (h : ∀ a ∈ as, C a) (s : σ) :
    Steps step (fun _ a => C a) s as := by
  induction as generalizing s with
  | nil => trivial
  | cons a as ih =>
      intro s' _
      exact ⟨h a List.mem_cons_self, ih (fun b hb => h b (List.mem_cons_of_mem a hb)) s'⟩

theorem Always.head {P : σ → Prop} {s : σ} {as : List α} (h : Always step P s as) : P s := by
  cases as with
  | nil => exact h
  | cons a as => exact h.1

/-! ## Reading `Always` at one state

`Always` is recursive so that proofs follow the schedule; this is what it says
without the recursion. -/

/-- `Always` is the statement about every executable prefix of the schedule. -/
theorem always_iff_prefix {P : σ → Prop} {s : σ} {as : List α} :
    Always step P s as ↔
      ∀ pre suf s', as = pre ++ suf → run step s pre = some s' → P s' := by
  induction as generalizing s with
  | nil =>
      constructor
      · intro h pre suf s' heq hrun
        obtain ⟨rfl, rfl⟩ := List.nil_eq_append_iff.mp heq
        rw [run_nil, Option.some.injEq] at hrun
        exact hrun ▸ h
      · intro h
        exact h [] [] s rfl rfl
  | cons a as ih =>
      constructor
      · rintro ⟨h0, hrest⟩ pre suf s' heq hrun
        cases pre with
        | nil =>
            rw [run_nil, Option.some.injEq] at hrun
            exact hrun ▸ h0
        | cons b pre =>
            rw [List.cons_append, List.cons.injEq] at heq
            obtain ⟨rfl, rfl⟩ := heq
            cases hs : step s a with
            | none => simp only [run, hs, reduceCtorEq] at hrun
            | some t =>
                rw [run_cons_of_step pre hs] at hrun
                exact ih.mp (hrest t hs) pre suf s' rfl hrun
      · intro h
        refine ⟨h [] (a :: as) s rfl rfl, fun t ht => ih.mpr ?_⟩
        intro pre suf s' heq hrun
        refine h (a :: pre) suf s' (by rw [heq, List.cons_append]) ?_
        rw [run_cons_of_step pre ht]
        exact hrun

/-- The last state of a schedule satisfies what always holds along it. -/
theorem Always.last {P : σ → Prop} {s s' : σ} {as : List α} (h : Always step P s as)
    (hrun : run step s as = some s') : P s' :=
  always_iff_prefix.mp h as [] s' (List.append_nil as).symm hrun

/-- A schedule that ends in a state outside `P` is a counterexample to `Always P`. -/
theorem not_always_of_run {P : σ → Prop} {s s' : σ} {as : List α}
    (hrun : run step s as = some s') (hP : ¬ P s') : ¬ Always step P s as :=
  fun h => hP (h.last hrun)

/-! ## The two rules -/

/-- **Conditioned invariant.** `Inv` holds first, and every step that meets `C`
keeps it; so along a schedule all of whose steps meet `C`, everything `Inv`
implies always holds. -/
theorem always_of_steps {Inv P : σ → Prop} {C : σ → α → Prop} {s : σ} {as : List α}
    (hinit : Inv s)
    (hstep : ∀ {s s' : σ} {a : α}, Inv s → C s a → step s a = some s' → Inv s')
    (hP : ∀ {s : σ}, Inv s → P s) (hC : Steps step C s as) : Always step P s as := by
  induction as generalizing s with
  | nil => exact hP hinit
  | cons a as ih =>
      refine ⟨hP hinit, fun s' hs => ?_⟩
      obtain ⟨hca, hrest⟩ := hC s' hs
      exact ih (hstep hinit hca hs) hrest

/-- The unconditioned invariant rule: what every step keeps holds in every
state a schedule reaches. -/
theorem always_of_invariant {Inv P : σ → Prop} {s : σ} {as : List α} (hinit : Inv s)
    (hstep : ∀ {s s' : σ} {a : α}, Inv s → step s a = some s' → Inv s')
    (hP : ∀ {s : σ}, Inv s → P s) : Always step P s as := by
  induction as generalizing s with
  | nil => exact hP hinit
  | cons a as ih => exact ⟨hP hinit, fun s' hs => ih (hstep hinit hs)⟩

/-- **Exact condition.** When moreover a step outside `C` leaves `P` at once, the
schedules along which `P` always holds are those all of whose steps meet `C`. -/
theorem always_iff_steps {Inv P : σ → Prop} {C : σ → α → Prop} {s : σ} {as : List α}
    (hinit : Inv s)
    (hstep : ∀ {s s' : σ} {a : α}, Inv s → C s a → step s a = some s' → Inv s')
    (hP : ∀ {s : σ}, Inv s → P s)
    (hbreak : ∀ {s s' : σ} {a : α}, Inv s → ¬ C s a → step s a = some s' → ¬ P s') :
    Always step P s as ↔ Steps step C s as := by
  constructor
  · intro h
    induction as generalizing s with
    | nil => trivial
    | cons a as ih =>
        intro s' hs
        have hrest := h.2 s' hs
        have hca : C s a := by
          by_contra hca
          exact hbreak hinit hca hs hrest.head
        exact ⟨hca, ih (hstep hinit hca hs) hrest⟩
  · exact always_of_steps hinit hstep hP

/-! ## Refinement -/

section Refinement

variable {τ β : Type*}

/-- Under `f` every step is a step of the other system, or leaves it where it is. -/
def Refines (step : σ → α → Option σ) (step' : τ → β → Option τ) (f : σ → τ) : Prop :=
  ∀ s a s', step s a = some s' → f s' = f s ∨ ∃ b, step' (f s) b = some (f s')

/-- What the steps of the other system keep, the image keeps. -/
theorem Refines.keeps {step' : τ → β → Option τ} {f : σ → τ} (h : Refines step step' f)
    {P : τ → Prop} (hP : ∀ {t t' : τ} {b : β}, P t → step' t b = some t' → P t') {s s' : σ}
    {a : α} (hs : P (f s)) (hstep : step s a = some s') : P (f s') := by
  rcases h s a s' hstep with heq | ⟨b, hb⟩
  · rwa [heq]
  · exact hP hs hb

end Refinement

/-! ## Runs that end -/

/-- Every run from a state whose steps meet `C` is finite, and `P` holds where it can go no
further. -/
inductive Settles (step : σ → α → Option σ) (C : σ → α → Prop) (P : σ → Prop) : σ → Prop where
  | intro {s : σ} (next : ∀ a s', C s a → step s a = some s' → Settles step C P s')
      (stuck : (∀ a, C s a → step s a = none) → P s) : Settles step C P s

/-- **Termination by a measure.** Every step that meets `C` keeps the invariant and decreases
the measure, and a state that allows no such step is one where `P` holds. -/
theorem settles_of_measure {Inv P : σ → Prop} {C : σ → α → Prop} {β : Type*} {r : β → β → Prop}
    (hwf : WellFounded r) (measure : σ → β)
    (hstep : ∀ {s s' : σ} {a : α}, Inv s → C s a → step s a = some s' →
      Inv s' ∧ r (measure s') (measure s))
    (hstuck : ∀ {s : σ}, Inv s → (∀ a, C s a → step s a = none) → P s) {s : σ} (hs : Inv s) :
    Settles step C P s := by
  have hall : ∀ b s, measure s = b → Inv s → Settles step C P s := by
    intro b
    induction b using hwf.induction with
    | _ b ih =>
        rintro s rfl hs
        refine .intro (fun a s' hc hs' => ?_) (hstuck hs)
        obtain ⟨hinv, hless⟩ := hstep hs hc hs'
        exact ih (measure s') hless s' rfl hinv
  exact hall (measure s) s rfl hs

/-- So there is a run to where `P` holds. -/
theorem Settles.exists_run {C : σ → α → Prop} {P : σ → Prop} {s : σ}
    (h : Settles step C P s) : ∃ as s', run step s as = some s' ∧ P s' := by
  induction h with
  | @intro s next stuck ih =>
      by_cases hgo : ∃ a s', C s a ∧ step s a = some s'
      · obtain ⟨a, s', hc, hs'⟩ := hgo
        obtain ⟨as, t, hrun, hP⟩ := ih a s' hc hs'
        exact ⟨a :: as, t, by rw [run_cons_of_step as hs', hrun], hP⟩
      · refine ⟨[], s, rfl, stuck fun a hc => ?_⟩
        by_contra hne
        obtain ⟨s', hs'⟩ := Option.ne_none_iff_exists'.mp hne
        exact hgo ⟨a, s', hc, hs'⟩

/-! ## Monitors

A property that speaks of the past of a run, and not only of its states, is stated over the
system with a monitor beside it: a ghost that watches each step and is never read by one. -/

section Monitor

variable {γ : Type*} (step) (observe : σ → α → σ → γ → γ)

/-- The system with a monitor: the same steps, each observed. -/
def monitored (x : σ × γ) (a : α) : Option (σ × γ) :=
  (step x.1 a).map fun s' => (s', observe x.1 a s' x.2)

variable {step} {observe}

theorem monitored_eq_some {x x' : σ × γ} {a : α} :
    monitored step observe x a = some x' ↔
      ∃ s', step x.1 a = some s' ∧ x' = (s', observe x.1 a s' x.2) := by
  unfold monitored
  rw [Option.map_eq_some_iff]
  constructor
  · rintro ⟨s', hs, rfl⟩
    exact ⟨s', hs, rfl⟩
  · rintro ⟨s', hs, rfl⟩
    exact ⟨s', hs, rfl⟩

/-- The monitor stops no run: whatever the system does, it does under observation. -/
theorem run_monitored {as : List α} {s s' : σ} (g : γ) (hrun : run step s as = some s') :
    ∃ g', run (monitored step observe) (s, g) as = some (s', g') := by
  induction as generalizing s g with
  | nil =>
      rw [run_nil, Option.some.injEq] at hrun
      exact ⟨g, by rw [run_nil, hrun]⟩
  | cons a as ih =>
      rcases hs : step s a with _ | t
      · simp only [run, hs, reduceCtorEq] at hrun
      · rw [run_cons_of_step as hs] at hrun
        obtain ⟨g', hg'⟩ := ih (observe s a t g) hrun
        refine ⟨g', ?_⟩
        rw [run_cons_of_step as (monitored_eq_some.mpr ⟨t, hs, rfl⟩)]
        exact hg'

/-- A property of the system's states holds under observation exactly as it does without. -/
theorem always_monitored {P : σ → Prop} {s : σ} {as : List α} (g : γ) :
    Always (monitored step observe) (fun x => P x.1) (s, g) as ↔ Always step P s as := by
  induction as generalizing s g with
  | nil => exact Iff.rfl
  | cons a as ih =>
      constructor
      · rintro ⟨h0, hrest⟩
        refine ⟨h0, fun s' hs => ?_⟩
        exact (ih (observe s a s' g)).mp (hrest _ (monitored_eq_some.mpr ⟨s', hs, rfl⟩))
      · rintro ⟨h0, hrest⟩
        refine ⟨h0, fun x hx => ?_⟩
        obtain ⟨s', hs, rfl⟩ := monitored_eq_some.mp hx
        exact (ih (observe s a s' g)).mpr (hrest s' hs)

end Monitor

end Lts

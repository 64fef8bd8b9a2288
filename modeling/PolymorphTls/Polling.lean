/-
Sources that are polled dry, and the stream they are merged into.

A source answers a poll with the next item or with nothing, and is left in a new state
either way. A loop takes items until there are none ([`drain`]); it is run on fuel, and a
source whose polls come to an end is dry when a loop with enough fuel stops
([`drain_dry`]).

A multiplexer appends what its sources produce to one output as it comes. [`Merges`] says
what that makes of the output: nothing is lost, nothing is added or doubled, and the items
of each source stand in their order. The rules follow a multiplexer's moves: a source is
added, a source produces, a loop over all sources lets each produce, the sources are kept
in another order.
-/
import Mathlib.Data.List.Basic

set_option autoImplicit false

namespace Polling

variable {σ α β : Type*}

/-! ## Polling dry -/

/-- `while let Some(item) = source.poll() { .. }`: the items and the source after them. The
loop has no bound of its own, so it runs on fuel here, and `drain_dry` says how much is
enough. -/
def drain (poll : σ → Option α × σ) : ℕ → σ → List α × σ
  | 0, s => ([], s)
  | fuel + 1, s =>
      match poll s with
      | (some item, s') => (item :: (drain poll fuel s').1, (drain poll fuel s').2)
      | (none, s') => ([], s')

variable {poll : σ → Option α × σ}

/-- A turn of the loop that takes an item. -/
theorem drain_succ_of_some {fuel : ℕ} {s s' : σ} {item : α} (h : poll s = (some item, s')) :
    drain poll (fuel + 1) s = (item :: (drain poll fuel s').1, (drain poll fuel s').2) := by
  rw [drain, h]

/-- A turn that ends it. -/
theorem drain_succ_of_none {fuel : ℕ} {s s' : σ} (h : poll s = (none, s')) :
    drain poll (fuel + 1) s = ([], s') := by
  rw [drain, h]

/-- A loop that took nothing polled once. -/
theorem poll_of_drain_nil {fuel : ℕ} {s : σ} (h : (drain poll (fuel + 1) s).1 = []) :
    poll s = (none, (drain poll (fuel + 1) s).2) := by
  rcases hpoll : poll s with ⟨_ | item, s'⟩
  · rw [drain_succ_of_none hpoll]
  · rw [drain_succ_of_some hpoll] at h
    exact absurd h (List.cons_ne_nil _ _)

/-- What every poll keeps, the loop keeps. By induction on the fuel, for any source. -/
theorem drain_keeps {P : σ → Prop} (hpoll : ∀ s, P s → P (poll s).2) (fuel : ℕ) {s : σ}
    (hs : P s) : P (drain poll fuel s).2 := by
  induction fuel generalizing s with
  | zero => exact hs
  | succ fuel ih =>
      have hnext := hpoll s hs
      rcases heq : poll s with ⟨_ | item, s'⟩
      · rw [drain_succ_of_none heq]
        rwa [heq] at hnext
      · rw [drain_succ_of_some heq]
        rw [heq] at hnext
        exact ih hnext

/-- The loop takes what the source's record of its answers gains. -/
theorem drain_history {history : σ → List α}
    (hsome : ∀ s item s', poll s = (some item, s') → history s' = history s ++ [item])
    (hnone : ∀ s s', poll s = (none, s') → history s' = history s) (fuel : ℕ) (s : σ) :
    history (drain poll fuel s).2 = history s ++ (drain poll fuel s).1 := by
  induction fuel generalizing s with
  | zero => exact (List.append_nil _).symm
  | succ fuel ih =>
      rcases heq : poll s with ⟨_ | item, s'⟩
      · rw [drain_succ_of_none heq, hnone s s' heq, List.append_nil]
      · rw [drain_succ_of_some heq]
        show history (drain poll fuel s').2 = history s ++ item :: (drain poll fuel s').1
        rw [ih, hsome s item s' heq, List.append_assoc, List.singleton_append]

/-- Where every item leaves less to come, a loop with fuel for all of it stops at a poll that
answers nothing. -/
theorem drain_dry {left : σ → ℕ}
    (hless : ∀ s item s', poll s = (some item, s') → left s' < left s) {fuel : ℕ} {s : σ}
    (hfuel : left s < fuel) : ∃ s₀, poll s₀ = (none, (drain poll fuel s).2) := by
  induction fuel generalizing s with
  | zero => exact absurd hfuel (Nat.not_lt_zero _)
  | succ fuel ih =>
      rcases heq : poll s with ⟨_ | item, s'⟩
      · rw [drain_succ_of_none heq]
        exact ⟨s, heq⟩
      · rw [drain_succ_of_some heq]
        have := hless s item s' heq
        exact ih (by omega)

/-- An item after which the source has nothing more is the last one: what is taken before it
is not it. -/
theorem drain_last {last : α → Prop}
    (hlast : ∀ s item s', poll s = (some item, s') → last item → (poll s').1 = none)
    (fuel : ℕ) (s : σ) : (drain poll fuel s).1.Pairwise fun item _ => ¬ last item := by
  induction fuel generalizing s with
  | zero => exact List.Pairwise.nil
  | succ fuel ih =>
      rcases heq : poll s with ⟨_ | item, s'⟩
      · rw [drain_succ_of_none heq]
        exact List.Pairwise.nil
      · rw [drain_succ_of_some heq]
        refine List.Pairwise.cons (fun later hlater hend => ?_) (ih s')
        -- the next poll would have stopped the loop
        have hdry := hlast s item s' heq hend
        cases fuel with
        | zero => exact absurd hlater (by simp [drain])
        | succ fuel =>
            rcases hnext : poll s' with ⟨_ | more, s''⟩
            · rw [drain_succ_of_none hnext] at hlater
              exact absurd hlater (by simp)
            · rw [hnext] at hdry
              exact absurd hdry (by simp)

/-! ## Merging -/

/-- `out` is made of the parts: nothing is lost, nothing is added or doubled, and each part
stands in it in order. In which order the parts take turns is left open, as a map that is
iterated leaves it. -/
structure Merges (parts : List (List α)) (out : List α) : Prop where
  perm : out.Perm parts.flatten
  order : ∀ part ∈ parts, part.Sublist out

/-- Nothing is made of nothing. -/
theorem Merges.nil : Merges ([] : List (List α)) [] :=
  ⟨List.Perm.refl _, fun _ h => absurd h (by simp)⟩

/-- A source that has produced nothing yet. -/
theorem Merges.add {parts : List (List α)} {out : List α} (h : Merges parts out) :
    Merges ([] :: parts) out := by
  refine ⟨h.perm, fun part hmem => ?_⟩
  rcases List.mem_cons.mp hmem with rfl | hmem
  · exact List.nil_sublist _
  · exact h.order part hmem

/-- The order the sources are kept in does not matter. -/
theorem Merges.reorder {parts parts' : List (List α)} {out : List α} (h : Merges parts out)
    (hperm : parts'.Perm parts) : Merges parts' out :=
  ⟨h.perm.trans hperm.flatten.symm, fun part hmem => h.order part (hperm.mem_iff.mp hmem)⟩

/-- A source produces. -/
theorem Merges.extend {part : List α} {parts : List (List α)} {out : List α}
    (h : Merges (part :: parts) out) (new : List α) :
    Merges ((part ++ new) :: parts) (out ++ new) := by
  refine ⟨?_, fun p hmem => ?_⟩
  · rw [List.flatten_cons, List.append_assoc]
    have hswap : (new ++ parts.flatten).Perm (parts.flatten ++ new) := List.perm_append_comm
    refine List.Perm.trans ?_ (List.Perm.append_left part hswap.symm)
    rw [← List.append_assoc]
    exact h.perm.append_right new
  · rcases List.mem_cons.mp hmem with rfl | hmem
    · exact (h.order part List.mem_cons_self).append_right new
    · exact List.sublist_append_of_sublist_left (h.order p (List.mem_cons_of_mem _ hmem))

/-- A loop lets each source produce in turn. -/
theorem Merges.extend_all {history history' new : β → List α} {sources : List β}
    {others : List (List α)} {out : List α} (hnew : ∀ x ∈ sources, history' x = history x ++ new x)
    (h : Merges (sources.map history ++ others) out) :
    Merges (sources.map history' ++ others) (out ++ sources.flatMap new) := by
  induction sources generalizing others out with
  | nil =>
      rw [List.flatMap_nil, List.append_nil]
      exact h
  | cons x rest ih =>
      have hx : Merges ((history x ++ new x) :: (rest.map history ++ others)) (out ++ new x) :=
        Merges.extend h (new x)
      -- the source that has produced joins the others
      have hrest : Merges (rest.map history ++ ((history x ++ new x) :: others)) (out ++ new x) :=
        hx.reorder List.perm_middle
      have hall := ih (fun y hy => hnew y (List.mem_cons_of_mem _ hy)) hrest
      rw [List.append_assoc, ← List.flatMap_cons] at hall
      refine hall.reorder ?_
      rw [List.map_cons, List.cons_append, hnew x List.mem_cons_self]
      exact List.perm_middle.symm

end Polling

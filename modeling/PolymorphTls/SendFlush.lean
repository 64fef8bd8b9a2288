/-
A flush that is reported done was done.

The writer task works on a *snapshot* of the flags: `next_work` reads them together with the
queue, and the round that follows writes, flushes and shuts down as the snapshot says. The
guest may ask for a flush while a round is running, and such a round has not flushed what
the guest means; it must leave the request to a later one. So a round clears the flag only if
its snapshot had it, and then the queue is empty: `check-write` gives no budget while a flush
is pending, so that no byte is accepted until the flag is cleared.

No *byte*: a `write` of no bytes asks for no budget and is accepted at any time. That is all
that separates this from "no write is accepted while a flush is pending".

## Shape

The property speaks of the past of a run -- what was accepted since the call, which round the
call fell into, whether the half's flush completed -- so the system runs under a monitor
([`observe`]). The monitor numbers the rounds; the pending flush is marked with the number of
rounds begun when it was asked for, and a call that falls into a round is marked with the
number of that round.
-/
import PolymorphTls.SendOrder

set_option autoImplicit false

namespace PolymorphTls.SendFlush

open PolymorphTls.WriteTask
open PolymorphTls.SendOrder (held finish_queued)

/-! ## The monitor -/

/-- What the monitor keeps of the flush that is pending: the rounds begun since it was asked
for, what was accepted since, and what was asked of the half. -/
structure Ghost where
  /-- I/O rounds begun so far; the number of the round that is running. -/
  rounds : ℕ
  /-- Rounds begun when the pending flush was asked for. -/
  asked : ℕ
  /-- The bytes accepted since then, and the number of `write` calls. -/
  since : List UInt8
  writes : ℕ
  /-- `half.flush()` completed, with success, after the last `half.write_all()`. -/
  flushed : Bool
  deriving DecidableEq, Repr

/-- No flush was asked for. -/
def Ghost.init : Ghost := ⟨0, 0, [], 0, false⟩

/-- What the monitor notes of a step. -/
def observe (s : Sys) (a : Act) (s' : Sys) (g : Ghost) : Ghost :=
  match a with
  | .task =>
      match s.task, s'.task with
      | .look, .holding _ _ _ => { g with rounds := g.rounds + 1 }
      | .holding _ _ _, _ => { g with flushed := false }
      | _, _ => g
  | .io (.ok ()) =>
      match s.task with
      | .flush _ => { g with flushed := true }
      | _ => g
  | .flush =>
      -- a call that finds a flush pending changes nothing
      if s.inner.flushing = false ∧ s'.inner.flushing = true then
        { g with asked := g.rounds, since := [], writes := 0 }
      else g
  | .write bytes =>
      if s.stream = .idle ∧ s'.stream = .notify (.write bytes) then
        { g with since := g.since ++ bytes, writes := g.writes + 1 }
      else g
  | _ => g

/-- The send direction under the monitor. -/
def stepM : Sys × Ghost → Act → Option (Sys × Ghost) := Lts.monitored step observe

/-- It watches every run. -/
theorem watched {acts : List Act} {s : Sys} (hrun : Lts.run step Sys.init acts = some s) :
    ∃ g, Lts.run stepM (Sys.init, Ghost.init) acts = some (s, g) :=
  Lts.run_monitored Ghost.init hrun

/-! ## The property -/

/-- What a flush that is over means, between the state `s` and the step to `s'`. -/
structure Flushed (s : Sys) (g : Ghost) (s' : Sys) : Prop where
  queue_empty : s'.inner.queued = []
  none_accepted : g.since = []
  nothing_held : held s.task = [] ∧ held s'.task = []
  half_flushed : g.flushed = true
  /-- The round that clears the flush began after the call. -/
  later_round : g.asked < g.rounds

/-- Of whatever the system does next. -/
structure FlushMeansFlushed (x : Sys × Ghost) : Prop where
  /-- Only the task clears the flag, and then the flush was done. -/
  cleared : ∀ a s', step x.1 a = some s' → x.1.inner.flushing = true →
    s'.inner.flushing = false → a = .task ∧ Flushed x.1 x.2 s'
  /-- A round that ends well clears a pending flush exactly if it began after the call. -/
  round_end : ∀ flushing shutdown s', x.1.task = .finish (.ok ()) flushing shutdown →
    x.1.inner.flushing = true → step x.1 .task = some s' →
      (s'.inner.flushing = false ↔ x.2.asked < x.2.rounds)

/-! ## The invariant -/

/-- The flush flag the running round works on. -/
def snapshot : TaskPc → Option Bool
  | .holding _ flushing _ => some flushing
  | .writing flushing _ => some flushing
  | .flush _ => some true
  | .shutdown flushing => some flushing
  | .finish _ flushing _ => some flushing
  | _ => none

/-- The round is past its flush of the half. -/
def PastFlush : TaskPc → Prop
  | .shutdown flushing => flushing = true
  | .finish (.ok ()) flushing _ => flushing = true
  | _ => False

/-- Where a pending flush is: not in a round yet, in the snapshot of the running one, or
past the flush of the half. -/
structure Inv (x : Sys × Ghost) : Prop where
  asked_le : x.2.asked ≤ x.2.rounds
  since : x.1.inner.flushing = true → x.2.since = []
  /-- A round with the flag in its snapshot serves a call made before it. -/
  serving : snapshot x.1.task = some true →
    x.1.inner.flushing = true ∧ x.1.inner.queued = [] ∧ x.2.asked < x.2.rounds
  /-- A flush pending in a round without it was asked for in that round. -/
  missed : snapshot x.1.task = some false → x.1.inner.flushing = true →
    x.2.asked = x.2.rounds
  past : PastFlush x.1.task → x.2.flushed = true

/-- None is pending. -/
theorem inv_init : Inv (Sys.init, Ghost.init) where
  asked_le := Nat.le_refl 0
  since := by
    intro _
    rfl
  serving := by
    intro h
    exact absurd h (by simp [Sys.init, snapshot])
  missed := by
    intro h
    exact absurd h (by simp [Sys.init, snapshot])
  past := by
    intro h
    exact absurd h (by simp [Sys.init, PastFlush])

/-! ## Preservation -/

/-- A step that leaves the shared state alone, within a round or out of one. -/
theorem inv_frame {s s' : Sys} {g : Ghost} {flushed : Bool} (hi : Inv (s, g))
    (hinner : s'.inner = s.inner)
    (hsnap : snapshot s'.task = none ∨ snapshot s'.task = snapshot s.task)
    (hpast : PastFlush s'.task → flushed = true) : Inv (s', { g with flushed := flushed }) := by
  refine ⟨hi.asked_le, ?_, ?_, ?_, hpast⟩
  · rw [hinner]
    exact hi.since
  · intro h
    rw [hinner]
    rcases hsnap with hnone | heq
    · rw [hnone] at h
      exact absurd h (by simp)
    · rw [heq] at h
      exact hi.serving h
  · intro h
    rw [hinner]
    rcases hsnap with hnone | heq
    · rw [hnone] at h
      exact absurd h (by simp)
    · rw [heq] at h
      exact hi.missed h

/-- A guest's update of the other flag, or of nothing. -/
theorem inv_guest {s s' : Sys} {g : Ghost} (hi : Inv (s, g))
    (hflushing : s'.inner.flushing = s.inner.flushing)
    (hqueued : s.inner.flushing = true → s'.inner.queued = s.inner.queued)
    (htask : s'.task = s.task) : Inv (s', g) := by
  refine ⟨hi.asked_le, ?_, ?_, ?_, ?_⟩
  · rw [hflushing]
    exact hi.since
  · intro h
    rw [htask] at h
    obtain ⟨hf, hq, hlt⟩ := hi.serving h
    rw [hflushing, hqueued hf]
    exact ⟨hf, hq, hlt⟩
  · rw [htask, hflushing]
    exact hi.missed
  · rw [htask]
    exact hi.past

/-- A call that only looks, or fails, is observed as nothing. -/
theorem observe_self {s : Sys} {g : Ghost} {a : Act} (ha : a ≠ .task) :
    observe s a s g = g ∨ observe s a s g = { g with flushed := true } := by
  unfold observe
  split
  · exact absurd rfl ha
  · split
    · exact .inr rfl
    · exact .inl rfl
  · left
    rw [if_neg]
    rintro ⟨h₁, h₂⟩
    rw [h₁] at h₂
    exact absurd h₂ (by simp)
  · left
    rw [if_neg]
    rintro ⟨h₁, h₂⟩
    rw [h₁] at h₂
    exact absurd h₂ (by simp)
  · exact .inl rfl

/-- The end of a round sets no flag, and clears it only as its snapshot says. -/
theorem finish_flushing (inner : WriteInner) (result : Except String Unit)
    (flushing shutdown : Bool) :
    (finish inner result flushing shutdown).flushing =
      if result.isOk ∧ flushing = true ∧ inner.queued = [] then false else inner.flushing := by
  unfold finish
  rcases result with e | u
  · simp [Except.isOk, Except.toBool]
  · dsimp only
    split_ifs with h₁ h₂ h₃ h₄ h₅
    all_goals simp_all [Except.isOk, Except.toBool]

/-- A round begins, after every call made so far: a pending flush is in its snapshot. -/
theorem inv_begins {s : Sys} {g : Ghost} (hi : Inv (s, g)) :
    Inv ({ s with
      inner := { s.inner with queued := [] }
      task := .holding s.inner.queued s.inner.flushing s.inner.shutdown },
      { g with rounds := g.rounds + 1 }) := by
  have hasked : g.asked ≤ g.rounds := hi.asked_le
  refine ⟨?_, hi.since, ?_, ?_, ?_⟩
  · show g.asked ≤ g.rounds + 1
    omega
  · intro hsnap
    rw [snapshot, Option.some.injEq] at hsnap
    exact ⟨hsnap, rfl, Nat.lt_succ_of_le hasked⟩
  · intro hsnap hflushing
    rw [snapshot, Option.some.injEq] at hsnap
    rw [hsnap] at hflushing
    exact absurd hflushing (by simp)
  · intro hpast
    exact absurd hpast (by simp [PastFlush])

/-- A round ends; the task looks again, or returns. -/
theorem inv_ends {s s' : Sys} {g : Ghost} {result : Except String Unit}
    {flushing shutdown : Bool} (hi : Inv (s, g))
    (hinner : s'.inner = finish s.inner result flushing shutdown)
    (htask : s'.task = .look ∨ s'.task = .returned) : Inv (s', g) := by
  have hsnap : snapshot s'.task = none := by
    rcases htask with ht | ht
    · rw [ht]
      rfl
    · rw [ht]
      rfl
  refine ⟨hi.asked_le, ?_, ?_, ?_, ?_⟩
  · intro hflushing
    rw [hinner, finish_flushing] at hflushing
    split_ifs at hflushing
    exact hi.since hflushing
  · intro h
    rw [hsnap] at h
    exact absurd h (by simp)
  · intro h
    rw [hsnap] at h
    exact absurd h (by simp)
  · intro hpast
    rcases htask with ht | ht
    · rw [ht] at hpast
      exact absurd hpast (by simp [PastFlush])
    · rw [ht] at hpast
      exact absurd hpast (by simp [PastFlush])

/-- An accepted `write`. While a flush is pending there is no budget, so it is empty then. -/
theorem inv_write {s s' : Sys} {g : Ghost} {bytes : List UInt8} {writes : ℕ} (hi : Inv (s, g))
    (hb : bytes.length ≤ s.inner.permitted)
    (hinner : s'.inner = { s.inner with queued := s.inner.queued ++ bytes })
    (htask : s'.task = s.task) :
    Inv (s', { g with since := g.since ++ bytes, writes := writes }) := by
  have hnil : s.inner.flushing = true → bytes = [] := by
    intro hf
    unfold WriteInner.permitted at hb
    rw [if_pos hf] at hb
    exact List.length_eq_zero_iff.mp (Nat.le_zero.mp hb)
  have hguest : Inv (s', g) := by
    refine inv_guest hi (by rw [hinner]) ?_ htask
    intro hf
    rw [hinner, hnil hf, List.append_nil]
  refine ⟨hguest.asked_le, ?_, hguest.serving, hguest.missed, hguest.past⟩
  intro hf
  rw [hinner] at hf
  show g.since ++ bytes = []
  rw [hnil hf, List.append_nil]
  exact hi.since hf

/-- A `flush` that found none pending. A running round does not have it in its snapshot. -/
theorem inv_asked {s s' : Sys} {g : Ghost} (hi : Inv (s, g)) (hf : s.inner.flushing = false)
    (htask : s'.task = s.task) :
    Inv (s', { g with asked := g.rounds, since := [], writes := 0 }) := by
  refine ⟨Nat.le_refl _, fun _ => rfl, ?_, fun _ _ => rfl, ?_⟩
  · intro hsnap
    rw [htask] at hsnap
    rw [(hi.serving hsnap).1] at hf
    exact absurd hf (by simp)
  · rw [htask]
    exact hi.past

/-- Every transition, by who makes it. -/
theorem inv_trans {s s' : Sys} {g : Ghost} {a : Act} (hi : Inv (s, g)) (h : Trans s a s') :
    Inv (s', observe s a s' g) := by
  cases h with
  | look_end ht ho =>
      simp only [observe, ht]
      exact inv_frame hi rfl (.inl rfl) (by simp [PastFlush])
  | look_wait ht ho hp =>
      simp only [observe, ht]
      exact inv_frame hi rfl (.inl rfl) (by simp [PastFlush])
  | look_io ht ho hp =>
      simp only [observe, ht]
      exact inv_begins hi
  | register ht =>
      simp only [observe, ht]
      exact inv_frame hi rfl (.inl rfl) (by simp [PastFlush])
  | recheck_wait ht ho hp =>
      simp only [observe, ht]
      exact inv_frame hi rfl (.inl rfl) (by simp [PastFlush])
  | recheck_end ht ho =>
      simp only [observe, ht]
      exact inv_frame hi rfl (.inl rfl) (by simp [PastFlush])
  | recheck_io ht ho hp =>
      simp only [observe, ht]
      exact ⟨hi.asked_le, hi.since, by simp [snapshot], by simp [snapshot], by simp [PastFlush]⟩
  | resume ht hr =>
      simp only [observe, ht]
      exact inv_frame hi rfl (.inl rfl) (by simp [PastFlush])
  | call ht =>
      simp only [observe, ht]
      exact inv_frame hi rfl (.inr (by rw [ht]; rfl)) (by simp [PastFlush])
  | finish ht =>
      simp only [observe, ht]
      apply inv_ends hi rfl
      dsimp only
      split_ifs
      · exact .inl rfl
      · exact .inr rfl
  | io_flush ht =>
      simp only [observe, ht]
      exact inv_frame hi rfl (.inr (by rw [ht]; rfl)) (by simp [PastFlush])
  | io_shutdown ht =>
      rcases ht with ⟨ht, rfl⟩ | ⟨ht, rfl⟩
      · simp only [observe, ht]
        exact inv_frame hi rfl (.inr (by rw [ht]; rfl)) (by simp [PastFlush])
      · simp only [observe, ht]
        exact inv_frame hi rfl (.inr (by rw [ht]; rfl)) fun _ => rfl
  | io_ok ht =>
      rcases ht with ⟨ht, rfl, rfl⟩ | ⟨ht, rfl, rfl⟩ | ⟨ht, rfl⟩
      · simp only [observe, ht]
        exact inv_frame hi rfl (.inr (by rw [ht]; rfl)) (by simp [PastFlush])
      · simp only [observe, ht]
        exact inv_frame hi rfl (.inr (by rw [ht]; rfl)) fun _ => rfl
      · simp only [observe, ht]
        exact inv_frame hi rfl (.inr (by rw [ht]; rfl)) fun h => hi.past (by rw [ht]; exact h)
  | @io_err e flushing shutdown ht =>
      have hsnap : snapshot s.task = some flushing := by
        rcases ht with ht | ⟨ht, rfl⟩ | ⟨ht, -⟩ <;> rw [ht] <;> rfl
      exact inv_frame hi rfl (.inr hsnap.symm) (by simp [PastFlush])
  | write hs ho hd hb =>
      simp only [observe, hs, and_self, if_true]
      exact inv_write hi hb rfl rfl
  | flush hs ho hd =>
      rcases hf : s.inner.flushing with _ | _
      · simp only [observe, hf, and_self, if_true]
        exact inv_asked hi hf rfl
      · simp only [observe, hf, Bool.true_eq_false, false_and, if_false]
        exact inv_guest hi hf.symm (fun _ => rfl) rfl
  | drop hs ho hd => exact inv_guest hi rfl (fun _ => rfl) rfl
  | shutdown ho hd => exact inv_guest hi rfl (fun _ => rfl) rfl
  | drop_ended hs hd => exact inv_guest hi rfl (fun _ => rfl) rfl
  | ready hs => exact inv_guest hi rfl (fun _ => rfl) rfl
  | notify_write hs => exact inv_guest hi rfl (fun _ => rfl) rfl
  | notify_flush hs => exact inv_guest hi rfl (fun _ => rfl) rfl
  | notify_drop hs => exact inv_guest hi rfl (fun _ => rfl) rfl
  | ready_return hs hr => exact inv_guest hi rfl (fun _ => rfl) rfl
  | ready_await hs hr => exact inv_guest hi rfl (fun _ => rfl) rfl
  | ready_again hs hr => exact inv_guest hi rfl (fun _ => rfl) rfl
  | abandon hs => exact inv_guest hi rfl (fun _ => rfl) rfl
  | sock hn => exact inv_guest hi rfl (fun _ => rfl) rfl
  | refused ha =>
      rcases observe_self ha with heq | heq
      · rw [heq]
        exact hi
      · rw [heq]
        exact inv_frame hi rfl (.inr rfl) fun _ => rfl

/-- And so every step. -/
theorem inv_step {x x' : Sys × Ghost} {a : Act} (hi : Inv x) (h : stepM x a = some x') :
    Inv x' := by
  obtain ⟨s', hstep, rfl⟩ := Lts.monitored_eq_some.mp h
  exact inv_trans hi (trans_of_step hstep)

/-! ## What a step does to the flag -/

/-- Only the end of a round clears it. -/
theorem trans_clears {s s' : Sys} {a : Act} (h : Trans s a s') (hset : s.inner.flushing = true)
    (hclear : s'.inner.flushing = false) :
    a = .task ∧ ∃ result flushing shutdown, s.task = .finish result flushing shutdown ∧
      s'.inner = finish s.inner result flushing shutdown ∧ held s'.task = [] := by
  cases h with
  | @finish result flushing shutdown ht =>
      refine ⟨rfl, result, flushing, shutdown, ht, rfl, ?_⟩
      dsimp only
      split_ifs <;> rfl
  | flush => exact absurd hclear (by simp)
  | _ => exact absurd (hset.symm.trans hclear) (by simp)

/-- A flag that is cleared is cleared by a round past its flush, with nothing accepted
since. -/
theorem flushMeansFlushed_of_inv {x : Sys × Ghost} (hi : Inv x) : FlushMeansFlushed x where
  cleared := by
    intro a s' hstep hset hclear
    obtain ⟨rfl, result, flushing, shutdown, ht, hinner, hheld⟩ :=
      trans_clears (trans_of_step hstep) hset hclear
    have hflag := finish_flushing x.1.inner result flushing shutdown
    rw [← hinner, hclear, hset] at hflag
    split_ifs at hflag with hdone
    obtain ⟨hok, rfl, hqueued⟩ := hdone
    have hresult : result = .ok () := by
      rcases result with e | u
      · exact absurd hok (by simp [Except.isOk, Except.toBool])
      · rfl
    obtain ⟨-, -, hlater⟩ := hi.serving (by rw [ht]; rfl)
    refine ⟨rfl, ?_, hi.since hset, ⟨?_, hheld⟩, ?_, hlater⟩
    · rw [hinner, finish_queued]
      exact hqueued
    · rw [ht]
      rfl
    · apply hi.past
      rw [ht, hresult]
      exact rfl
  round_end := by
    intro flushing shutdown s' ht hset hstep
    have hinner : s'.inner = finish x.1.inner (.ok ()) flushing shutdown := by
      simp only [step, step_task, ht, Option.some.injEq] at hstep
      rw [← hstep]
    rw [hinner, finish_flushing]
    rcases flushing with _ | _
    · -- the round began without the flag: the call fell into it
      have hmissed := hi.missed (by rw [ht]; rfl) hset
      rw [if_neg (by simp), hset]
      constructor
      · intro h
        exact absurd h (by simp)
      · intro h
        omega
    · obtain ⟨-, hqueued, hlater⟩ := hi.serving (by rw [ht]; rfl)
      rw [if_pos ⟨rfl, rfl, hqueued⟩]
      exact ⟨fun _ => hlater, fun _ => rfl⟩

/-- **Flush completion means flushed.** For every interleaving of guest calls, shutdown
requests, I/O completions and task steps: when the flag is cleared the queue is empty, no
byte was accepted since the call, nothing is held, and the half was flushed after the last
write; and a round that ends well clears a pending flush if and only if it began after the
call. -/
theorem flush_means_flushed (acts : List Act) :
    Lts.Always stepM FlushMeansFlushed (Sys.init, Ghost.init) acts :=
  Lts.always_of_invariant inv_init inv_step flushMeansFlushed_of_inv

/-! ## The empty write -/

/-- A flush, a `write` of no bytes, and the round that serves the flush. -/
def emptyWriteSchedule : List Act :=
  [.flush, .stream, .write [], .stream, .task, .task, .io (.ok ()), .io (.ok ())]

/-- A `write` was accepted since the call, and the next step reports the flush done. -/
theorem empty_write_is_accepted_while_flushing :
    ¬ ∀ acts, Lts.Always stepM
      (fun x => ∀ a s', step x.1 a = some s' → x.1.inner.flushing = true →
        s'.inner.flushing = false → x.2.writes = 0)
      (Sys.init, Ghost.init) acts := by
  intro hall
  have hrun : Lts.run stepM (Sys.init, Ghost.init) emptyWriteSchedule
      = some ({ Sys.init with
          inner := ⟨[], true, false, .Open⟩
          wake := ⟨true, .init⟩
          task := .finish (.ok ()) true false
          half := [.write_all [], .flush] }, ⟨1, 0, [], 1, true⟩) := by
    decide
  have hzero := (hall emptyWriteSchedule).last hrun .task
  exact absurd (hzero _ rfl rfl rfl) (by decide)

end PolymorphTls.SendFlush

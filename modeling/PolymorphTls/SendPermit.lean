/-
A `check-write` permit stays good until it is used.

`check_write` and `write` compute the same budget under two different locks, and the writer
task runs in between: it drains the queue, it clears the flush flag, and it may end the
direction. A write that exceeds the budget traps and kills the guest, so the budget the
guest was told must not shrink while only the task moves.

It does not, because each thing the task does to the shared state is in the guest's favour:
the queue only empties, and the flag is only cleared. What remains is that the task does not
*close* the direction under the guest's permit. A round closes it only when its snapshot
asked for the shutdown, the request is never withdrawn, and with the request made
`check_write` gives no permit.
-/
import PolymorphTls.SendOrder

set_option autoImplicit false

namespace PolymorphTls.SendPermit

open PolymorphTls.WriteTask
open PolymorphTls.SendOrder (Closing finish_queued finish_shutdown)

/-! ## The property -/

/-- A step of `write_task`: its own, or the completion of what it awaits. -/
def OfTask (a : Act) : Prop := a = .task ∨ ∃ result, a = .io result

/-- What a permit and the queue's bound promise, in one state. A permit is a number the
guest has in its hands while the task runs on, so the promise is over any number of the
task's steps. -/
structure PermitsHold (s : Sys) : Prop where
  bounded : s.inner.queued.length ≤ CHUNK
  /-- No budget while a flush is pending. -/
  flushing : ∀ n, s.inner.flushing = true → check_write s.inner = .ok n → n = 0
  /-- After whatever the task does, a write within the permit is taken, or meets the failure
  of the direction. -/
  permit : ∀ n, check_write s.inner = .ok n →
    ∀ acts s', (∀ a ∈ acts, OfTask a) → Lts.run step s acts = some s' →
      ∀ bytes : List UInt8, bytes.length ≤ n →
        (∃ inner, write s'.inner bytes = .ok inner) ∨
        ∃ message, s'.inner.state = .Failed message ∧
          write s'.inner bytes = .error (.LastOperationFailed message)

/-! ## The lock sections -/

/-- A permit is the budget, of a direction that is open. -/
theorem check_write_eq_ok {inner : WriteInner} {n : ℕ} (h : check_write inner = .ok n) :
    inner.state = .Open ∧ inner.shutdown = false ∧ n = inner.permitted := by
  unfold check_write at h
  rcases hc : inner.check with e | u
  · simp [hc, bind, Except.bind] at h
  · obtain ⟨ho, hd⟩ := check_eq_ok hc
    simp only [hc, bind, Except.bind, Except.ok.injEq] at h
    exact ⟨ho, hd, h.symm⟩

/-- Before the shutdown request, a write within the budget is taken or meets the failure. -/
theorem write_within {inner : WriteInner} {bytes : List UInt8} (hd : inner.shutdown = false)
    (hc : inner.state ≠ .Closed) (hb : bytes.length ≤ inner.permitted) :
    (∃ inner', write inner bytes = .ok inner') ∨
      ∃ message, inner.state = .Failed message ∧
        write inner bytes = .error (.LastOperationFailed message) := by
  have hlt : ¬ inner.permitted < bytes.length := by omega
  unfold write WriteInner.check
  rcases ho : inner.state with _ | _ | message
  · left
    simp [StreamState.check, hd, hlt, bind, Except.bind, pure, Except.pure]
  · exact absurd ho hc
  · right
    refine ⟨message, rfl, ?_⟩
    simp [StreamState.check, bind, Except.bind]

/-! ## The invariant -/

/-- The queue is within its bound, and a round that will close the direction was asked
to. -/
structure Inv (s : Sys) : Prop where
  bounded : s.inner.queued.length ≤ CHUNK
  /-- A round that will shut down was asked to. -/
  closing : Closing s.task → s.inner.shutdown = true
  closed : s.inner.state = .Closed → s.inner.shutdown = true

/-- An empty queue is within any bound. -/
theorem inv_init : Inv Sys.init where
  bounded := by simp [Sys.init, WriteInner.new]
  closing := by
    intro h
    exact absurd h (by simp [Sys.init, Closing])
  closed := by
    intro h
    exact absurd h (by simp [Sys.init, WriteInner.new])

/-- A step that leaves the shared state as it is and starts no closing round. -/
theorem inv_frame {s s' : Sys} (hi : Inv s) (hinner : s'.inner = s.inner)
    (hclosing : Closing s'.task → Closing s.task) : Inv s' := by
  refine ⟨?_, ?_, ?_⟩
  · rw [hinner]
    exact hi.bounded
  · intro hcl
    rw [hinner]
    exact hi.closing (hclosing hcl)
  · rw [hinner]
    exact hi.closed

/-- A shutdown request. -/
theorem inv_requested {s s' : Sys} (hi : Inv s)
    (hinner : s'.inner = { s.inner with shutdown := true }) : Inv s' := by
  refine ⟨?_, ?_, ?_⟩
  · rw [hinner]
    exact hi.bounded
  · intro _
    rw [hinner]
  · intro _
    rw [hinner]

/-- The end of a round closes the direction only for a shutdown it was asked for. -/
theorem finish_state_eq_closed {inner : WriteInner} {result : Except String Unit}
    {flushing shutdown : Bool} (h : (finish inner result flushing shutdown).state = .Closed) :
    shutdown = true ∨ inner.state = .Closed := by
  rcases result with e | u
  · exact absurd h (by simp [finish])
  · rcases shutdown with _ | _
    · right
      simp only [finish, Bool.false_eq_true, if_false] at h
      split_ifs at h <;> exact h
    · exact .inl rfl

/-- The end of a round. -/
theorem inv_finish {s s' : Sys} {result : Except String Unit} {flushing shutdown : Bool}
    (hi : Inv s) (ht : s.task = .finish result flushing shutdown)
    (hinner : s'.inner = finish s.inner result flushing shutdown)
    (hclosing : ¬ Closing s'.task) : Inv s' := by
  refine ⟨?_, fun hcl => absurd hcl hclosing, ?_⟩
  · rw [hinner, finish_queued]
    exact hi.bounded
  · intro hclosed
    rw [hinner] at hclosed ⊢
    rw [finish_shutdown]
    rcases finish_state_eq_closed hclosed with hsd | hst
    · exact hi.closing (by simp [ht, Closing, hsd])
    · exact hi.closed hst

/-- Bytes within the budget fit the queue. -/
theorem permitted_fits {inner : WriteInner} {bytes : List UInt8}
    (hbounded : inner.queued.length ≤ CHUNK) (hb : bytes.length ≤ inner.permitted) :
    (inner.queued ++ bytes).length ≤ CHUNK := by
  have hroom : bytes.length ≤ CHUNK - inner.queued.length := by
    unfold WriteInner.permitted at hb
    split_ifs at hb <;> omega
  rw [List.length_append]
  omega

/-- A step accepts no more than the budget of its state. -/
theorem inv_step {s s' : Sys} {a : Act} (hi : Inv s) (h : step s a = some s') : Inv s' := by
  cases trans_of_step h with
  | look_end ht ho => exact inv_frame hi rfl (by simp [Closing])
  | look_wait ht ho hp => exact inv_frame hi rfl (by simp [Closing])
  | look_io ht ho hp =>
      refine ⟨by simp, fun hcl => ?_, ?_⟩
      · exact hcl
      · exact hi.closed
  | register ht => exact inv_frame hi rfl (by simp [Closing])
  | recheck_wait ht ho hp => exact inv_frame hi rfl (by simp [Closing])
  | recheck_end ht ho => exact inv_frame hi rfl (by simp [Closing])
  | recheck_io ht ho hp =>
      refine ⟨by simp, ?_, hi.closed⟩
      intro hcl
      exact absurd hcl (by simp [Closing])
  | resume ht hr => exact inv_frame hi rfl (by simp [Closing])
  | call ht => exact inv_frame hi rfl (by simp [ht, Closing])
  | @finish result flushing shutdown ht =>
      apply inv_finish hi ht rfl
      intro hcl
      dsimp only at hcl
      split_ifs at hcl <;> exact absurd hcl (by simp [Closing])
  | io_flush ht => exact inv_frame hi rfl (by simp [ht, Closing])
  | io_shutdown ht =>
      refine inv_frame hi rfl fun _ => ?_
      rcases ht with ⟨ht, -⟩ | ⟨ht, -⟩ <;> simp [ht, Closing]
  | io_ok ht =>
      refine inv_frame hi rfl fun hcl => ?_
      rcases ht with ⟨ht, -, hsd⟩ | ⟨ht, -, hsd⟩ | ⟨ht, -⟩
      · simp [Closing, hsd] at hcl
      · simp [Closing, hsd] at hcl
      · simp [ht, Closing]
  | io_err ht =>
      refine inv_frame hi rfl fun hcl => ?_
      rcases ht with ht | ⟨ht, -⟩ | ⟨ht, -⟩
      · rw [ht]
        exact hcl
      · rw [ht]
        exact hcl
      · simp [ht, Closing]
  | write hs ho hd hb => exact ⟨permitted_fits hi.bounded hb, hi.closing, hi.closed⟩
  | flush hs ho hd => exact ⟨hi.bounded, hi.closing, hi.closed⟩
  | drop hs ho hd => exact inv_requested hi rfl
  | drop_ended hs hd => exact inv_frame hi rfl id
  | ready hs => exact inv_frame hi rfl id
  | notify_write hs => exact inv_frame hi rfl id
  | notify_flush hs => exact inv_frame hi rfl id
  | notify_drop hs => exact inv_frame hi rfl id
  | ready_return hs hr => exact inv_frame hi rfl id
  | ready_await hs hr => exact inv_frame hi rfl id
  | ready_again hs hr => exact inv_frame hi rfl id
  | abandon hs => exact inv_frame hi rfl id
  | shutdown ho hd => exact inv_requested hi rfl
  | sock hn => exact inv_frame hi rfl id
  | refused ha => exact hi

/-! ## The task moves in the guest's favour -/

/-- What a step may do to the budget: it grows, and no shutdown is requested. -/
def Favours (inner inner' : WriteInner) : Prop :=
  inner'.shutdown = inner.shutdown ∧ inner.permitted ≤ inner'.permitted

/-- Draining the queue leaves more room. -/
theorem favours_drained (inner : WriteInner) : Favours inner { inner with queued := [] } := by
  refine ⟨rfl, ?_⟩
  unfold WriteInner.permitted
  split_ifs
  · exact Nat.le_refl 0
  · simp

/-- So does the end of a round, whatever its result. -/
theorem favours_finish (inner : WriteInner) (result : Except String Unit)
    (flushing shutdown : Bool) : Favours inner (finish inner result flushing shutdown) := by
  refine ⟨finish_shutdown _ _ _ _, ?_⟩
  have hflag : (finish inner result flushing shutdown).flushing = true →
      inner.flushing = true := by
    unfold finish
    rcases result with e | u
    · exact id
    · dsimp only
      split_ifs <;> simp
  unfold WriteInner.permitted
  rw [finish_queued]
  split_ifs with h₁ h₂ h₃
  · exact Nat.le_refl 0
  · exact Nat.zero_le _
  · exact absurd (hflag h₃) h₁
  · exact Nat.le_refl _

/-- No step of the task takes budget away: only the guest fills the queue. -/
theorem favours_of_task_step {s s' : Sys} {a : Act} (ha : OfTask a) (h : step s a = some s') :
    Favours s.inner s'.inner := by
  have hsame : Favours s.inner s.inner := ⟨rfl, Nat.le_refl _⟩
  cases trans_of_step h with
  | look_end ht ho => exact hsame
  | look_wait ht ho hp => exact hsame
  | look_io ht ho hp => exact favours_drained s.inner
  | register ht => exact hsame
  | recheck_wait ht ho hp => exact hsame
  | recheck_end ht ho => exact hsame
  | recheck_io ht ho hp => exact favours_drained s.inner
  | resume ht hr => exact hsame
  | call ht => exact hsame
  | finish ht => exact favours_finish _ _ _ _
  | io_flush ht => exact hsame
  | io_shutdown ht => exact hsame
  | io_ok ht => exact hsame
  | io_err ht => exact hsame
  | refused _ => exact hsame
  -- the other transitions are not the task's
  | write => simp [OfTask] at ha
  | flush => simp [OfTask] at ha
  | drop => simp [OfTask] at ha
  | drop_ended => simp [OfTask] at ha
  | ready => simp [OfTask] at ha
  | notify_write => simp [OfTask] at ha
  | notify_flush => simp [OfTask] at ha
  | notify_drop => simp [OfTask] at ha
  | ready_return => simp [OfTask] at ha
  | ready_await => simp [OfTask] at ha
  | ready_again => simp [OfTask] at ha
  | abandon => simp [OfTask] at ha
  | shutdown => simp [OfTask] at ha
  | sock => simp [OfTask] at ha

/-- A run of the task alone: the invariant holds at its end, and the budget grew. -/
theorem favours_of_task_run {acts : List Act} {s s' : Sys} (hi : Inv s)
    (hacts : ∀ a ∈ acts, OfTask a) (hrun : Lts.run step s acts = some s') :
    Inv s' ∧ Favours s.inner s'.inner := by
  induction acts generalizing s with
  | nil =>
      rw [Lts.run_nil, Option.some.injEq] at hrun
      rw [← hrun]
      exact ⟨hi, rfl, Nat.le_refl _⟩
  | cons a acts ih =>
      rcases hstep : step s a with _ | t
      · simp [Lts.run, hstep] at hrun
      · rw [Lts.run_cons_of_step acts hstep] at hrun
        obtain ⟨hd, hb⟩ := favours_of_task_step (hacts a List.mem_cons_self) hstep
        obtain ⟨hi', hd', hb'⟩ := ih (inv_step hi hstep)
          (fun b hmem => hacts b (List.mem_cons_of_mem a hmem)) hrun
        exact ⟨hi', hd'.trans hd, Nat.le_trans hb hb'⟩

/-- The promises, from the invariant and the task's runs. -/
theorem permitsHold_of_inv {s : Sys} (hi : Inv s) : PermitsHold s where
  bounded := hi.bounded
  flushing := by
    intro n hf h
    obtain ⟨-, -, rfl⟩ := check_write_eq_ok h
    unfold WriteInner.permitted
    rw [if_pos hf]
  permit := by
    intro n h acts s' hacts hrun bytes hb
    obtain ⟨-, hd, rfl⟩ := check_write_eq_ok h
    obtain ⟨hi', hd', hgrow⟩ := favours_of_task_run hi hacts hrun
    rw [hd] at hd'
    apply write_within hd'
    · intro hclosed
      rw [hi'.closed hclosed] at hd'
      exact absurd hd' (by simp)
    · omega

/-- **A permit stays valid until used**, in every state any interleaving reaches. -/
theorem permits_hold (acts : List Act) : Lts.Always step PermitsHold Sys.init acts :=
  Lts.always_of_invariant inv_init inv_step permitsHold_of_inv

end PolymorphTls.SendPermit

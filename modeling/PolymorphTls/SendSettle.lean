/-
Requests on the WASI 0.2 send direction are carried out.

`SendWakeups.lean` shows that the writer task does not sleep on work. Here the other half of
progress: it also does not go round in circles. From every state the guest and the task can
reach, let the requests made so far be notified, the task run and the operations on the TLS
half succeed: in whatever order, that comes to a stop, and where it stops nothing is queued
and no flush is pending, or the direction has ended (`requests_are_carried_out`). A shutdown
that was requested has then been performed. A write has then been taken from the queue, which
is not the same: the re-check may take a chunk and drop it (`SendOrder.lean` has the exact
condition). The flags survive the re-check, so flushes and shutdowns are really performed.

The measure counts notifications first: each of them wakes the task at most once. Between
two of them the task has at most one round to make, because `next_work` takes the queue and
both flags at once; one more if the guest wrote while a round was running.
-/
import PolymorphTls.SendWakeups

set_option autoImplicit false

namespace PolymorphTls.SendSettle

open PolymorphTls.WriteTask PolymorphTls.SendWakeups

/-! ## The property -/

/-- The guest makes no new request, and the half's operations succeed. -/
def Undisturbed (_ : Sys) : Act → Prop
  | .task | .stream | .sock => True
  | .io result => result = .ok ()
  | _ => False

/-- The same with no word on what the operations return. -/
def Runs : Act → Prop
  | .task | .stream | .sock | .io _ => True
  | _ => False

/-- Nothing is left to do: the task waits with nothing pending, or the direction is over. A
chunk that the re-check took and dropped is not pending any more. -/
structure Settled (s : Sys) : Prop where
  notified : NoneNotifying s
  carried_out : s.task = .await ∧ NothingPending s ∨ s.task = .returned ∧ s.inner.state ≠ .Open

/-- No operation on the half has failed. -/
def Healthy (s : Sys) : Prop :=
  (∀ e, s.inner.state ≠ .Failed e) ∧
    ∀ e flushing shutdown, s.task ≠ .finish (.error e) flushing shutdown

/-! ## Notifications -/

/-- The notifications a `Notify` holds for its consumer. -/
def stored (n : Notify) : ℕ := (if n.permit then 1 else 0) + (if n.is_ready then 1 else 0)

/-- A notification is one more, at most. -/
theorem stored_notify_one (n : Notify) : stored n.notify_one ≤ stored n + 1 := by
  obtain ⟨permit, waiter⟩ := n
  cases waiter <;> cases permit <;> decide

/-- So is a notification of the waiters. -/
theorem stored_notify_waiters (n : Notify) : stored n.notify_waiters ≤ stored n + 1 := by
  obtain ⟨permit, waiter⟩ := n
  cases waiter <;> cases permit <;> decide

/-- Registering makes none. -/
theorem stored_enable (n : Notify) : stored n.enable ≤ stored n := by
  obtain ⟨permit, waiter⟩ := n
  cases waiter <;> cases permit <;> decide

/-- Neither does dropping the future: one that is passed on was there. -/
theorem stored_drop (n : Notify) : stored n.drop ≤ stored n := by
  obtain ⟨permit, waiter⟩ := n
  cases waiter <;> cases permit <;> decide

/-- A completed await has used one up. -/
theorem stored_finish {n : Notify} (h : n.is_ready = true) : stored n.finish < stored n := by
  obtain ⟨permit, waiter⟩ := n
  cases waiter <;> cases permit <;> revert h <;> decide

/-! ## The measure -/

/-- There is something for the task to do. -/
def outstanding (inner : WriteInner) : Bool :=
  inner.state = .Open && (inner.queued ≠ [] || inner.flushing || inner.shutdown)

/-- There is, exactly where an open direction has something pending. -/
theorem outstanding_iff (inner : WriteInner) :
    outstanding inner = true ↔ inner.state = .Open ∧ inner.Pending := by
  simp [outstanding, WriteInner.Pending, or_assoc]

/-- What a round that succeeds leaves for the next one: requests that came after its
snapshot. -/
def leftover (inner : WriteInner) (flushing shutdown : Bool) : ℕ :=
  if outstanding (finish inner (.ok ()) flushing shutdown) then 20 else 0

/-- How far the task is from its await, or from its end. A round is counted from where it
is, and with what it will leave. -/
def phase (inner : WriteInner) : TaskPc → ℕ
  | .returned => 0
  | .await => 1
  | .recheck => if outstanding inner then 31 else 2
  | .register => if outstanding inner then 32 else 3
  | .look => if outstanding inner then 30 else if inner.state = .Open then 4 else 1
  | .holding _ flushing shutdown => 15 + leftover inner flushing shutdown
  | .writing flushing shutdown => 14 + leftover inner flushing shutdown
  | .flush shutdown => 13 + leftover inner true shutdown
  | .shutdown flushing => 12 + leftover inner flushing true
  | .finish _ flushing shutdown => 11 + leftover inner flushing shutdown

/-- A call that will still notify the task, and a `ready` that may still look. -/
def calls : StreamPc → ℕ
  | .notify _ => 2000
  | .readyCheck => 2
  | .readyAwait => 1
  | .idle | .gone => 0

/-- All there is to do without new requests: the task's way, the calls that are under way,
and the notifications that may still send the task round. Their weights are apart, since a
call becomes a notification and a notification a round. -/
def measure (s : Sys) : ℕ :=
  calls s.stream + (if s.sockNotify then 2000 else 0) + 1000 * stored s.wake
    + 10 * phase s.inner s.task + 3 * stored s.ready

/-- A round takes everything there is. -/
theorem leftover_drained {inner : WriteInner} :
    leftover { inner with queued := [] } inner.flushing inner.shutdown = 0 := by
  obtain ⟨queued, flushing, shutdown, state⟩ := inner
  cases flushing <;> cases shutdown <;> simp [leftover, outstanding, finish]

/-- A look costs a round at most. -/
theorem phase_look_le (inner : WriteInner) : phase inner .look ≤ 30 := by
  rw [phase]
  split
  · omega
  · split <;> omega

/-- A round that ends leads back to the look only with what it left over. -/
theorem phase_after_finish (inner : WriteInner) (flushing shutdown : Bool) :
    phase (finish inner (.ok ()) flushing shutdown) .look
      < 11 + leftover inner flushing shutdown := by
  rw [phase, leftover]
  split
  · omega
  · split <;> omega

/-! ## Every step counts -/

/-- A step of the task lowers it. -/
theorem measure_task {s s' : Sys} (h : step_task s = some s') : measure s' < measure s := by
  cases trans_of_step_task h with
  | look_end ht ho =>
      have hout : outstanding s.inner = false := by simp [outstanding, ho]
      simp only [measure, ht, phase, hout, ho, if_false, Bool.false_eq_true]
      omega
  | look_wait ht ho hp =>
      have hout : outstanding s.inner = false := by
        rw [← Bool.not_eq_true, outstanding_iff]
        exact fun h => hp h.2
      simp only [measure, ht, phase, hout, ho, if_false, if_true, Bool.false_eq_true]
      omega
  | look_io ht ho hp =>
      have hout : outstanding s.inner = true := (outstanding_iff s.inner).mpr ⟨ho, hp⟩
      simp only [measure, ht, phase, hout, if_true, leftover_drained]
      omega
  | register ht =>
      have hwake := stored_enable s.wake
      simp only [measure, ht, phase]
      by_cases hout : outstanding s.inner = true
      · rw [if_pos hout, if_pos hout]
        omega
      · rw [if_neg hout, if_neg hout]
        omega
  | recheck_wait ht ho hp =>
      have hout : ¬ outstanding s.inner = true := by
        rw [outstanding_iff]
        exact fun h => hp h.2
      simp only [measure, ht, phase]
      rw [if_neg hout]
      omega
  | recheck_end ht ho =>
      have hwake := stored_drop s.wake
      have hout : outstanding s.inner = false := by simp [outstanding, ho]
      simp only [measure, ht, phase, hout, ho, if_false, Bool.false_eq_true]
      omega
  | recheck_io ht ho hp =>
      have hwake := stored_drop s.wake
      have hout : outstanding s.inner = true := (outstanding_iff s.inner).mpr ⟨ho, hp⟩
      have hlook := phase_look_le ⟨[], s.inner.flushing, s.inner.shutdown, s.inner.state⟩
      have hold : phase s.inner .recheck = 31 := by rw [phase, if_pos hout]
      simp only [measure, ht, hold]
      omega
  | resume ht hr =>
      have hwake := stored_finish hr
      have hlook := phase_look_le s.inner
      simp only [measure, ht]
      omega
  | call ht =>
      simp only [measure, ht, phase]
      omega
  | @finish result flushing shutdown ht =>
      have hready := stored_notify_waiters s.ready
      cases result with
      | error e =>
          simp only [measure, ht, phase, Except.isOk, Except.toBool, Bool.false_and,
            Bool.false_eq_true, if_false]
          omega
      | ok u =>
          cases shutdown with
          | true =>
              simp only [measure, ht, phase, Bool.not_true, Bool.and_false, Bool.false_eq_true,
                if_false]
              omega
          | false =>
              have hafter : phase (finish s.inner (.ok u) flushing false) .look
                  < 11 + leftover s.inner flushing false :=
                phase_after_finish s.inner flushing false
              have hold : phase s.inner (.finish (.ok u) flushing false)
                  = 11 + leftover s.inner flushing false := rfl
              simp only [measure, ht, hold, Except.isOk, Except.toBool, Bool.not_false,
                Bool.and_true, if_true]
              omega
  | refused ha => exact absurd rfl ha

/-- Whatever the operation on the half returns. -/
theorem measure_io {s s' : Sys} {result : Except String Unit} (h : step_io s result = some s') :
    measure s' < measure s := by
  unfold step_io after_io at h
  cases ht : s.task with
  | writing flushing shutdown =>
      cases result with
      | ok u =>
          cases flushing <;> cases shutdown <;>
            simp only [ht, Bool.false_eq_true, if_false, if_true, Option.some.injEq] at h <;>
            subst h <;> simp only [measure, ht, phase] <;> omega
      | error e =>
          simp only [ht, Option.some.injEq] at h
          subst h
          simp only [measure, ht, phase]
          omega
  | flush shutdown =>
      cases result with
      | ok u =>
          cases shutdown <;>
            simp only [ht, Bool.false_eq_true, if_false, if_true, Option.some.injEq] at h <;>
            subst h <;> simp only [measure, ht, phase] <;> omega
      | error e =>
          simp only [ht, Option.some.injEq] at h
          subst h
          simp only [measure, ht, phase]
          omega
  | shutdown flushing =>
      cases result <;> simp only [ht, Option.some.injEq] at h <;> subst h <;>
        simp only [measure, ht, phase] <;> omega
  | look => simp [ht] at h
  | register => simp [ht] at h
  | recheck => simp [ht] at h
  | await => simp [ht] at h
  | holding _ _ _ => simp [ht] at h
  | finish _ _ _ => simp [ht] at h
  | returned => simp [ht] at h

/-- So does a call of the guest that goes on. -/
theorem measure_stream {s s' : Sys} (h : step_stream s = some s') : measure s' < measure s := by
  have hone := stored_notify_one s.wake
  unfold step_stream at h
  cases hs : s.stream with
  | notify call =>
      cases call <;> simp only [hs, Option.some.injEq] at h <;> subst h <;>
        simp only [measure, hs, calls] <;> omega
  | readyCheck =>
      have hdrop := stored_drop s.ready
      cases hr : s.inner.is_ready <;>
        simp only [hs, hr, Bool.false_eq_true, if_false, if_true, Option.some.injEq] at h <;>
        subst h <;> simp only [measure, hs, calls] <;> omega
  | readyAwait =>
      cases hr : s.ready.is_ready <;>
        simp only [hs, hr, Bool.false_eq_true, if_false, if_true, Option.some.injEq,
          reduceCtorEq] at h
      subst h
      -- one notification is used up, and registering again takes none that was not there
      have hused := stored_finish hr
      have hagain := stored_enable s.ready.finish
      simp only [measure, hs, calls]
      omega
  | idle => simp [hs] at h
  | gone => simp [hs] at h

/-- So does every step without new requests. -/
theorem measure_step {s s' : Sys} {a : Act} (ha : Runs a) (h : step s a = some s') :
    measure s' < measure s := by
  cases a with
  | task => exact measure_task h
  | io result => exact measure_io h
  | stream => exact measure_stream h
  | sock =>
      have hone := stored_notify_one s.wake
      cases hn : s.sockNotify with
      | false => simp [step, hn] at h
      | true =>
          simp only [step, hn, if_true, Option.some.injEq] at h
          subst h
          simp only [measure, hn, if_true, Bool.false_eq_true, if_false]
          omega
  | _ => exact False.elim ha

/-- The condition with a word on the operations implies the one without. -/
theorem runs_of_undisturbed {s : Sys} {a : Act} (h : Undisturbed s a) : Runs a := by
  cases a with
  | task | stream | sock | io => trivial
  | _ => exact h

/-! ## Where it stops -/

/-- What every run keeps: the task sleeps on nothing, is registered where it awaits, and has
returned only from a direction that is over. -/
structure Inv (s : Sys) : Prop where
  idle : TaskParked s → Idle s
  registered : s.task = .recheck ∨ s.task = .await →
    s.wake.waiter ≠ .init ∧ (s.wake.waiter = .waiting → s.wake.permit = false)
  returned : s.task = .returned → s.inner.state ≠ .Open

/-- A new task has not looked yet. -/
theorem inv_init : Inv Sys.init where
  idle := by rintro ⟨ht, -⟩; exact absurd ht (by simp [Sys.init])
  registered := by simp [Sys.init]
  returned := by simp [Sys.init]

/-- Being notified does not unregister the task. -/
theorem registered_notify_one {n : Notify}
    (h : n.waiter ≠ .init ∧ (n.waiter = .waiting → n.permit = false)) :
    n.notify_one.waiter ≠ .init ∧
      (n.notify_one.waiter = .waiting → n.notify_one.permit = false) := by
  obtain ⟨permit, waiter⟩ := n
  cases waiter <;> simp_all [Notify.notify_one]

/-- Registering registers. -/
theorem registered_enable (n : Notify) :
    n.enable.waiter ≠ .init ∧ (n.enable.waiter = .waiting → n.enable.permit = false) := by
  unfold Notify.enable
  split <;> simp

/-- A round that failed, or was asked to shut down, ends the direction. -/
theorem finish_state {inner : WriteInner} {result : Except String Unit} {flushing shutdown : Bool}
    (h : (result.isOk && !shutdown) = false) :
    (finish inner result flushing shutdown).state ≠ .Open := by
  cases result with
  | error e => simp [finish]
  | ok u =>
      cases shutdown with
      | true => simp [finish]
      | false => simp [Except.isOk, Except.toBool] at h

/-- Every step, whoever makes it. -/
theorem inv_step {s s' : Sys} {a : Act} (hi : Inv s) (h : step s a = some s') : Inv s' := by
  refine ⟨idle_step hi.idle h, ?_, ?_⟩
  · cases trans_of_step h with
    | register ht => exact fun _ => registered_enable s.wake
    | recheck_wait ht ho hp => exact fun _ => hi.registered (.inl ht)
    | @finish result flushing shutdown ht =>
        intro hpc
        dsimp only at hpc
        split_ifs at hpc <;> simp at hpc
    | notify_write hs => exact fun hpc => registered_notify_one (hi.registered hpc)
    | notify_flush hs => exact fun hpc => registered_notify_one (hi.registered hpc)
    | notify_drop hs => exact fun hpc => registered_notify_one (hi.registered hpc)
    | sock hn => exact fun hpc => registered_notify_one (hi.registered hpc)
    | look_end | look_wait | look_io | recheck_end | recheck_io | resume | call | io_flush
    | io_shutdown | io_ok | io_err => exact fun hpc => absurd hpc (by simp)
    | write | flush | drop | drop_ended | ready | ready_return | ready_await | ready_again
    | abandon | shutdown | refused => exact hi.registered
  · cases trans_of_step h with
    | look_end ht ho => exact fun _ => ho
    | @finish result flushing shutdown ht =>
        intro hpc
        dsimp only at hpc ⊢
        cases hgo : (result.isOk && !shutdown) with
        | true => simp [hgo] at hpc
        | false => exact finish_state hgo
    | register | recheck_wait | look_wait | look_io | recheck_end | recheck_io | resume | call
    | io_flush | io_shutdown | io_ok | io_err => exact fun hpc => absurd hpc (by simp)
    | write | flush | drop | drop_ended | ready | ready_return | ready_await | ready_again
    | abandon | shutdown | refused | notify_write | notify_flush | notify_drop | sock =>
        exact hi.returned

/-- A task that cannot go on has carried out everything it was told. -/
theorem settled_of_stuck {s : Sys} (hi : Inv s) (hstuck : ∀ a, Undisturbed s a → step s a = none) :
    Settled s := by
  have htask : step_task s = none := hstuck .task trivial
  have hio : step_io s (.ok ()) = none := hstuck (.io (.ok ())) rfl
  have hnone : NoneNotifying s := by
    constructor
    · intro call hs
      have hstream : step_stream s = none := hstuck .stream trivial
      cases call <;> simp [step_stream, hs] at hstream
    · have hsock := hstuck .sock trivial
      simpa [step] using hsock
  refine ⟨hnone, ?_⟩
  cases ht : s.task with
  | await =>
      left
      -- registered and not woken, so the task is asleep
      have hready : s.wake.is_ready = false := by simpa [step_task, ht] using htask
      obtain ⟨hinit, hpermit⟩ := hi.registered (.inr ht)
      have hwaiting : s.wake.waiter = .waiting := by
        unfold Notify.is_ready at hready
        cases hw : s.wake.waiter <;> simp [hw] at hready hinit ⊢
      have hparked : TaskParked s := ⟨ht, hwaiting, hpermit hwaiting⟩
      exact ⟨rfl, nothingPending_of_idle (hi.idle hparked) hnone⟩
  | returned => exact .inr ⟨rfl, hi.returned ht⟩
  | look =>
      exfalso
      rcases next_work_cases s.inner with ⟨-, hn⟩ | ⟨-, -, hn⟩ | ⟨-, -, hn⟩ <;>
        simp [step_task, ht, hn] at htask
  | recheck =>
      exfalso
      rcases next_work_cases s.inner with ⟨-, hn⟩ | ⟨-, -, hn⟩ | ⟨-, -, hn⟩ <;>
        simp [step_task, ht, hn] at htask
  | register => simp [step_task, ht] at htask
  | holding _ _ _ => simp [step_task, ht] at htask
  | finish _ _ _ => simp [step_task, ht] at htask
  | writing _ _ => simp [step_io, ht] at hio
  | flush _ => simp [step_io, ht] at hio
  | shutdown _ => simp [step_io, ht] at hio

/-! ## A requested shutdown -/

/-- A request to shut down stays, and no operation fails. So a run that settles has carried
it out. -/
structure Closing (s : Sys) : Prop where
  requested : s.inner.shutdown = true
  healthy : Healthy s

/-- A round of operations that succeed ends well. -/
theorem finish_healthy {inner : WriteInner} (flushing shutdown : Bool)
    (h : ∀ e, inner.state ≠ .Failed e) :
    (finish inner (.ok ()) flushing shutdown).shutdown = inner.shutdown ∧
    ∀ e, (finish inner (.ok ()) flushing shutdown).state ≠ .Failed e := by
  unfold finish
  cases flushing <;> cases shutdown <;> cases hq : decide (inner.queued = []) <;>
    simp_all

/-- The task's steps keep the request, or carry it out. -/
theorem closing_task {s s' : Sys} (hc : Closing s) (h : step_task s = some s') : Closing s' := by
  obtain ⟨hreq, hstate, hfinish⟩ := hc
  cases trans_of_step_task h with
  | @finish result flushing shutdown ht =>
      cases result with
      | error e => exact absurd ht (hfinish e flushing shutdown)
      | ok u =>
          obtain ⟨hkeep, hok⟩ := finish_healthy flushing shutdown hstate
          refine ⟨hkeep.trans hreq, hok, fun e f d => ?_⟩
          dsimp only
          split <;> simp
  | look_end | look_wait | look_io | register | recheck_wait | recheck_end | recheck_io | resume
  | call => exact ⟨hreq, hstate, by simp⟩
  | refused ha => exact absurd rfl ha

/-- So do the operations it awaits. -/
theorem closing_io {s s' : Sys} (hc : Closing s) (h : step_io s (.ok ()) = some s') :
    Closing s' := by
  obtain ⟨hreq, hstate, -⟩ := hc
  unfold step_io after_io at h
  cases ht : s.task with
  | writing flushing shutdown =>
      cases flushing <;> cases shutdown <;>
        simp only [ht, Bool.false_eq_true, if_false, if_true, Option.some.injEq] at h <;>
        subst h <;> exact ⟨hreq, hstate, by simp⟩
  | flush shutdown =>
      cases shutdown <;>
        simp only [ht, Bool.false_eq_true, if_false, if_true, Option.some.injEq] at h <;>
        subst h <;> exact ⟨hreq, hstate, by simp⟩
  | shutdown flushing =>
      simp only [ht, Option.some.injEq] at h
      subst h
      exact ⟨hreq, hstate, by simp⟩
  | look => simp [ht] at h
  | register => simp [ht] at h
  | recheck => simp [ht] at h
  | await => simp [ht] at h
  | holding _ _ _ => simp [ht] at h
  | finish _ _ _ => simp [ht] at h
  | returned => simp [ht] at h

/-- And the guest's calls do not take it back. -/
theorem closing_step {s s' : Sys} {a : Act} (hc : Closing s) (ha : Undisturbed s a)
    (h : step s a = some s') : Closing s' := by
  cases a with
  | task => exact closing_task hc h
  | io result =>
      have hok : result = .ok () := ha
      subst hok
      exact closing_io hc h
  | stream =>
      -- the guest's call goes on, or its `ready` looks; the task's side does not move
      obtain ⟨hreq, hstate, hfinish⟩ := hc
      cases trans_of_step_stream h <;> exact ⟨hreq, hstate, hfinish⟩
  | sock =>
      obtain ⟨hreq, hstate, hfinish⟩ := hc
      cases hn : s.sockNotify with
      | false => simp [step, hn] at h
      | true =>
          simp only [step, hn, if_true, Option.some.injEq] at h
          subst h
          exact ⟨hreq, hstate, hfinish⟩
  | _ => exact False.elim ha

/-- The invariant of the runs from `s₀` on. -/
structure Since (s₀ s : Sys) : Prop where
  inv : Inv s
  closing : s₀.inner.shutdown = true → Healthy s₀ → Closing s

/-- **Requests are carried out.** From every state the guest and the task can reach, every
run in which no new request is made and the half's operations succeed is finite; where it
stops nothing is queued, flushing or to be shut down, or the direction is over. A shutdown
that was requested, and was not preceded by a failure, has closed it. Of a queued chunk this
says that the task has taken it: what the re-check takes counts, and is lost. -/
theorem requests_are_carried_out (acts : List Act) (s : Sys)
    (hrun : Lts.run step Sys.init acts = some s) :
    Lts.Settles step Undisturbed
      (fun t => Settled t ∧ (s.inner.shutdown = true → Healthy s → t.inner.state = .Closed)) s := by
  have hinv : Inv s := Lts.Always.last (Lts.always_of_invariant inv_init inv_step id) hrun
  have hstart : Since s s := ⟨hinv, fun hreq hhealthy => ⟨hreq, hhealthy⟩⟩
  refine Lts.settles_of_measure Nat.lt_wfRel.wf measure ?_ ?_ hstart
  · intro t t' a hi ha h
    exact ⟨⟨inv_step hi.inv h, fun hreq hh => closing_step (hi.closing hreq hh) ha h⟩,
      measure_step (runs_of_undisturbed ha) h⟩
  · intro t hi hstuck
    have hsettled := settled_of_stuck hi.inv hstuck
    refine ⟨hsettled, fun hreq hh => ?_⟩
    obtain ⟨hrequested, hok, -⟩ := hi.closing hreq hh
    rcases hsettled.carried_out with ⟨-, -, -, hshut, -⟩ | ⟨-, hover⟩
    · rw [hrequested] at hshut
      exact absurd hshut (by decide)
    · cases hstate : t.inner.state with
      | Open => exact absurd hstate hover
      | Closed => rfl
      | Failed e => exact absurd hstate (hok e)

/-- Two bytes written, a flush and a drop of the stream, before the task has run at all. -/
theorem requests_of_a_dropped_stream :
    ∃ s, Lts.run step Sys.init [.write [1, 2], .stream, .flush, .stream, .drop] = some s ∧
      ∃ acts t, Lts.run step s acts = some t ∧ t.inner.state = .Closed := by
  obtain ⟨s, hrun, hshut, hhealthy⟩ : ∃ s,
      Lts.run step Sys.init [.write [1, 2], .stream, .flush, .stream, .drop] = some s ∧
        s.inner.shutdown = true ∧ Healthy s :=
    ⟨_, rfl, rfl, by simp [Healthy, Sys.init, WriteInner.new]⟩
  obtain ⟨acts, t, hrun', -, hclosed⟩ := (requests_are_carried_out _ s hrun).exists_run
  exact ⟨s, hrun, acts, t, hrun', hclosed hshut hhealthy⟩

end PolymorphTls.SendSettle

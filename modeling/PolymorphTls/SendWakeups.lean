/-
Missed wakeups between the guest's `ready` and the writer task.

Two condition variables meet here. The guest parks on `WriteCtl::ready` when the
stream has no budget (queue full, or a flush pending), the task parks on
`WriteCtl::wake` when there is nothing to do, and both follow the same
register-then-look discipline. The argument that they never sleep on each other has
two halves:

* the task does not sleep on work: while it is parked, whatever is queued, flushing or
  shut down belongs to a request that has not notified it yet ([`Inv.idle`]);
* a parked guest is owed a notification: a round of the task is running or due
  ([`Responsive.served`]), and every round ends with `notify_waiters`.

The first half holds of every run. The second is where the code slips. A re-check that
drains a full queue drops the work without a round, so the debt is forgotten: no
`notify_waiters` follows, the task parks, and both sides sleep. With a flush or a shutdown
requested as well the flags survive the re-check and the round still happens; so the exact
condition is that no re-check runs, with neither requested, while a guest is parked.
-/
import PolymorphTls.WriteTask

set_option autoImplicit false

namespace PolymorphTls.SendWakeups

open PolymorphTls.WriteTask

/-! ## The property -/

/-- `write_task` sleeps: parked on `wake`, not notified, and no permit is stored. -/
def TaskParked (s : Sys) : Prop := s.task = .await ∧ s.wake.Parked

/-- A guest `ready` call sleeps: parked on `ready`, not notified. -/
def GuestParked (s : Sys) : Prop := s.stream = .readyAwait ∧ s.ready.waiter = .waiting

/-- The task is inside an I/O round, which ends with `notify_waiters`. -/
def InRound : TaskPc → Prop
  | .holding _ _ _ | .writing _ _ | .flush _ | .shutdown _ | .finish _ _ _ => True
  | _ => False

/-- No request is between its locked update and its `notify_one`. -/
def NoneNotifying (s : Sys) : Prop :=
  (∀ call, s.stream ≠ .notify call) ∧ s.sockNotify = false

/-- **Guest and task never sleep on each other.** A guest that sleeps has a round to wait
for, and a task that sleeps has nothing to do that was not going to be notified. -/
structure Responsive (s : Sys) : Prop where
  no_deadlock : ¬ (TaskParked s ∧ GuestParked s)
  /-- A parked task leaves the stream writable, shut down or terminal. -/
  parked_ready : TaskParked s → NoneNotifying s →
    s.inner.writable = true ∨ s.inner.shutdown = true ∨ s.inner.state ≠ .Open
  /-- A parked guest is owed the notification that ends a running or a due round. -/
  served : GuestParked s →
    InRound s.task ∨ (s.inner.state = .Open ∧ s.inner.Pending ∧ ¬ TaskParked s)

/-- The re-check keeps the round a parked guest waits for: a flush or a shutdown is
requested besides the bytes it drops. A condition on the state before the step. -/
def RecheckKeepsRound (s : Sys) (a : Act) : Prop :=
  a = .task → s.task = .recheck → s.inner.state = .Open → GuestParked s →
    s.inner.flushing = true ∨ s.inner.shutdown = true

/-! ## The invariant -/

/-- What a parked task may leave undone: bytes and flushes only for the guest call
that is about to notify it, a shutdown only for it or for the socket. -/
structure Idle (s : Sys) : Prop where
  state : s.inner.state = .Open
  work : s.inner.queued ≠ [] ∨ s.inner.flushing = true → ∃ call, s.stream = .notify call
  shutdown : s.inner.shutdown = true →
    (∃ call, s.stream = .notify call) ∨ s.sockNotify = true

/-- The task's half, the guest's half, and where the two notifies stand. -/
structure Inv (s : Sys) : Prop where
  idle : TaskParked s → Idle s
  served : GuestParked s →
    InRound s.task ∨ (s.inner.state = .Open ∧ s.inner.Pending ∧ ¬ TaskParked s)

/-- Nobody sleeps yet. -/
theorem inv_init : Inv Sys.init where
  idle := by rintro ⟨ht, -⟩; exact absurd ht (by simp [Sys.init])
  served := by rintro ⟨hs, -⟩; exact absurd hs (by simp [Sys.init])

/-- Outside `wake.await` the task is not parked. -/
theorem not_taskParked {s : Sys} (h : s.task ≠ .await) : ¬ TaskParked s :=
  fun hp => h hp.1

/-- Outside `notified.await` the guest is not parked. -/
theorem not_guestParked {s : Sys} (h : s.stream ≠ .readyAwait) : ¬ GuestParked s :=
  fun hp => h hp.1

/-- What a parked task leaves undone once every request has notified it: nothing. -/
def NothingPending (s : Sys) : Prop :=
  s.inner.queued = [] ∧ s.inner.flushing = false ∧ s.inner.shutdown = false ∧
    s.inner.state = .Open

/-- With no request on its way to notify, nothing is left undone. -/
theorem nothingPending_of_idle {s : Sys} (hi : Idle s) (hn : NoneNotifying s) :
    NothingPending s := by
  have hwork : ¬ (s.inner.queued ≠ [] ∨ s.inner.flushing = true) := by
    intro hw
    obtain ⟨call, hcall⟩ := hi.work hw
    exact hn.1 call hcall
  have hshut : s.inner.shutdown ≠ true := by
    intro hd
    rcases hi.shutdown hd with ⟨call, hcall⟩ | hs
    · exact hn.1 call hcall
    · rw [hn.2] at hs
      exact absurd hs (by simp)
  simp only [not_or, ne_eq, not_not, Bool.not_eq_true] at hwork hshut
  exact ⟨hwork.1, hwork.2, hshut, hi.state⟩

/-- The property is read off both halves. -/
theorem responsive_of_inv {s : Sys} (hi : Inv s) : Responsive s where
  no_deadlock := by
    rintro ⟨ht, hg⟩
    rcases hi.served hg with hr | ⟨-, -, hn⟩
    · rw [ht.1] at hr
      exact hr
    · exact hn ht
  parked_ready := by
    intro ht hn
    obtain ⟨hqueued, hflushing, -, -⟩ := nothingPending_of_idle (hi.idle ht) hn
    left
    simp [WriteInner.writable, hqueued, hflushing, CHUNK]
  served := hi.served

/-! ## Preservation

A step of the guest's side leaves the task and its notify alone. Either it changes the
shared state and is then about to notify ([`idle_of_call`]), or it changes nothing the
task reads ([`idle_of_frame`]). -/

/-- A step of the guest that keeps the task's side as it is. The guest's side of the
shared state may only be changed by a call that is then about to notify. -/
theorem idle_of_call {s s' : Sys} (hi : TaskParked s → Idle s)
    (hstate : s'.inner.state = s.inner.state) (htask : s'.task = s.task) (hwake : s'.wake = s.wake)
    (hcall : ∃ call, s'.stream = .notify call) : TaskParked s' → Idle s' := by
  rintro ⟨ht, hw⟩
  have hp : TaskParked s := ⟨htask ▸ ht, hwake ▸ hw⟩
  exact ⟨hstate ▸ (hi hp).state, fun _ => hcall, fun _ => .inl hcall⟩

/-- A step that leaves the shared state, the task and the notify alone, and is not the
notification of a request. -/
theorem idle_of_frame {s s' : Sys} (hi : TaskParked s → Idle s)
    (hinner : s'.inner = s.inner) (htask : s'.task = s.task) (hwake : s'.wake = s.wake)
    (hsock : s'.sockNotify = s.sockNotify) (hn : ∀ call, s.stream ≠ .notify call) :
    TaskParked s' → Idle s' := by
  rintro ⟨ht, hw⟩
  obtain ⟨hstate, hwork, hshut⟩ := hi ⟨htask ▸ ht, hwake ▸ hw⟩
  refine ⟨hinner ▸ hstate, fun h => ?_, fun h => ?_⟩
  · obtain ⟨call, hcall⟩ := hwork (hinner ▸ h)
    exact absurd hcall (hn call)
  · rcases hshut (hinner ▸ h) with ⟨call, hcall⟩ | hs
    · exact absurd hcall (hn call)
    · exact .inr (hsock ▸ hs)

/-- **The task's half.** No step lets the task sleep on work whose request has already
notified it, whatever the re-check drops. -/
theorem idle_step {s s' : Sys} {a : Act} (hi : TaskParked s → Idle s)
    (h : step s a = some s') : TaskParked s' → Idle s' := by
  cases trans_of_step h with
  | look_end ht ho => exact fun hp => absurd hp (not_taskParked (by simp))
  | look_wait ht ho hp => exact fun hp => absurd hp (not_taskParked (by simp))
  | look_io ht ho hp => exact fun hp => absurd hp (not_taskParked (by simp))
  | register ht => exact fun hp => absurd hp (not_taskParked (by simp))
  | recheck_wait ht ho hp =>
      -- the re-check saw no work, and the task registered before it looked
      intro _
      simp only [WriteInner.Pending, not_or, ne_eq, not_not, Bool.not_eq_true] at hp
      refine ⟨ho, fun hw => ?_, fun hd => ?_⟩
      · simp [hp.1, hp.2.1] at hw
      · simp [hp.2.2] at hd
  | recheck_end ht ho => exact fun hp => absurd hp (not_taskParked (by simp))
  | recheck_io ht ho hp => exact fun hp => absurd hp (not_taskParked (by simp))
  | resume ht hr => exact fun hp => absurd hp (not_taskParked (by simp))
  | call ht => exact fun hp => absurd hp (not_taskParked (by simp))
  | finish ht =>
      intro hp
      refine absurd hp (not_taskParked ?_)
      dsimp only
      split_ifs <;> simp
  | io_flush ht => exact fun hp => absurd hp (not_taskParked (by simp))
  | io_shutdown ht => exact fun hp => absurd hp (not_taskParked (by simp))
  | io_ok ht => exact fun hp => absurd hp (not_taskParked (by simp))
  | io_err ht => exact fun hp => absurd hp (not_taskParked (by simp))
  | write hs ho hd hb => exact idle_of_call hi rfl rfl rfl ⟨_, rfl⟩
  | flush hs ho hd => exact idle_of_call hi rfl rfl rfl ⟨_, rfl⟩
  | drop hs ho hd => exact idle_of_call hi rfl rfl rfl ⟨_, rfl⟩
  | drop_ended hs hd => exact idle_of_frame hi rfl rfl rfl rfl (by simp [hs])
  | ready hs => exact idle_of_frame hi rfl rfl rfl rfl (by simp [hs])
  | notify_write hs => exact fun hp => absurd hp.2 (Notify.not_parked_notify_one _)
  | notify_flush hs => exact fun hp => absurd hp.2 (Notify.not_parked_notify_one _)
  | notify_drop hs => exact fun hp => absurd hp.2 (Notify.not_parked_notify_one _)
  | ready_return hs hr => exact idle_of_frame hi rfl rfl rfl rfl (by simp [hs])
  | ready_await hs hr => exact idle_of_frame hi rfl rfl rfl rfl (by simp [hs])
  | ready_again hs hr => exact idle_of_frame hi rfl rfl rfl rfl (by simp [hs])
  | abandon hs => exact idle_of_frame hi rfl rfl rfl rfl (by simp [hs])
  | shutdown ho hd =>
      intro hp
      obtain ⟨hstate, hwork, -⟩ := hi hp
      exact ⟨hstate, hwork, fun _ => .inr rfl⟩
  | sock hn => exact fun hp => absurd hp.2 (Notify.not_parked_notify_one _)
  | refused ha => exact hi

/-- **The writer task never sleeps on pending work.** For every interleaving of the guest's
requests, each a locked update and a later notification, with the task's look, register,
re-check and await: while the task is parked and no request is about to notify it, there is
nothing to do. -/
theorem parked_task_has_nothing_pending (acts : List Act) :
    Lts.Always step (fun s => TaskParked s → NoneNotifying s → NothingPending s)
      Sys.init acts := by
  apply @Lts.always_of_invariant _ _ step (fun s => TaskParked s → Idle s)
  · rintro ⟨ht, -⟩
    exact absurd ht (by simp [Sys.init])
  · intro s s' a hi h
    exact idle_step hi h
  · intro s hi hp hn
    exact nothingPending_of_idle (hi hp) hn

/-- The task parks, a write of the guest wakes it, and after its round it parks again, on
nothing. -/
theorem served_task_parks_on_nothing :
    let acts : List Act := [.task, .task, .task, .write [1, 2], .stream, .task, .task, .task,
      .io (.ok ()), .task, .task, .task, .task]
    ∃ s, Lts.run step Sys.init acts = some s ∧ s.half = [.write_all [1, 2]] ∧
      TaskParked s ∧ NoneNotifying s ∧ NothingPending s := by
  intro acts
  obtain ⟨s, hrun, hhalf, hparked, hidle, hsock⟩ : ∃ s, Lts.run step Sys.init acts = some s ∧
      s.half = [.write_all [1, 2]] ∧ TaskParked s ∧ s.stream = .idle ∧ s.sockNotify = false :=
    ⟨_, rfl, rfl, ⟨rfl, rfl, rfl⟩, rfl, rfl⟩
  have hnone : NoneNotifying s := ⟨fun call => by rw [hidle]; simp, hsock⟩
  exact ⟨s, hrun, hhalf, hparked, hnone,
    (parked_task_has_nothing_pending acts).last hrun hparked hnone⟩

/-! ## The guest's half -/

/-- What a parked guest waits for, as [`Inv.served`] says it. -/
def Served (s : Sys) : Prop :=
  InRound s.task ∨ (s.inner.state = .Open ∧ s.inner.Pending ∧ ¬ TaskParked s)

/-- A step of the task outside a round, which leaves a parked guest its request. -/
theorem served_of_look {s s' : Sys} (hi : Inv s) (hout : ¬ InRound s.task)
    (htask : s'.task ≠ .await) (hparked : GuestParked s' → GuestParked s)
    (hdue : s.inner.state = .Open → s.inner.Pending →
      s'.inner.state = .Open ∧ s'.inner.Pending) : GuestParked s' → Served s' := by
  intro hg
  rcases hi.served (hparked hg) with hr | ⟨ho, hp, -⟩
  · exact absurd hr hout
  · obtain ⟨ho', hp'⟩ := hdue ho hp
    exact .inr ⟨ho', hp', not_taskParked htask⟩

/-- Not ready is no budget: a flush is pending, or the queue is full and so not empty. -/
theorem work_of_not_ready {inner : WriteInner} (h : inner.is_ready = false) :
    inner.state = .Open ∧ (inner.queued ≠ [] ∨ inner.flushing = true) := by
  simp only [WriteInner.is_ready, WriteInner.writable, ne_eq, decide_not, Bool.or_eq_false_iff,
    Bool.and_eq_false_iff, Bool.not_eq_false', decide_eq_false_iff_not, decide_eq_true_eq] at h
  obtain ⟨⟨hw, ho⟩, -⟩ := h
  refine ⟨ho, ?_⟩
  rcases hw with hf | hlen
  · exact .inr hf
  · left
    intro hnil
    rw [hnil] at hlen
    exact hlen (by simp [CHUNK])

/-- A guest that parks or stays parked is served, unless a re-check dropped its work. -/
theorem served_step {s s' : Sys} {a : Act} (hi : Inv s) (hc : RecheckKeepsRound s a)
    (h : step s a = some s') : GuestParked s' → Served s' := by
  cases trans_of_step h with
  | look_end ht ho =>
      exact served_of_look hi (by simp [ht, InRound]) (by simp) id fun ho' => absurd ho' ho
  | look_wait ht ho hp =>
      exact served_of_look hi (by simp [ht, InRound]) (by simp) id fun _ hp' => absurd hp' hp
  | look_io ht ho hp => exact fun _ => .inl trivial
  | register ht =>
      exact served_of_look hi (by simp [ht, InRound]) (by simp) id fun ho hp => ⟨ho, hp⟩
  | recheck_wait ht ho hp =>
      intro hg
      rcases hi.served hg with hr | ⟨-, hp', -⟩
      · simp [ht, InRound] at hr
      · exact absurd hp' hp
  | recheck_end ht ho =>
      exact served_of_look hi (by simp [ht, InRound]) (by simp) id fun ho' => absurd ho' ho
  | recheck_io ht ho hp =>
      -- the queue is gone; what keeps the round due is the other request
      intro hg
      exact .inr ⟨ho, .inr (hc rfl ht ho hg), not_taskParked (by simp)⟩
  | resume ht hr =>
      exact served_of_look hi (by simp [ht, InRound]) (by simp) id fun ho hp => ⟨ho, hp⟩
  | call ht => exact fun _ => .inl trivial
  | finish ht => exact fun hg => absurd hg.2 (Notify.notify_waiters_waiter s.ready)
  | io_flush ht => exact fun _ => .inl trivial
  | io_shutdown ht => exact fun _ => .inl trivial
  | io_ok ht => exact fun _ => .inl trivial
  | io_err ht => exact fun _ => .inl trivial
  | ready_await hs hr =>
      intro _
      obtain ⟨ho, hwork⟩ := work_of_not_ready hr
      refine .inr ⟨ho, ?_, fun hp => ?_⟩
      · rcases hwork with hq | hf
        · exact .inl hq
        · exact .inr (.inl hf)
      · obtain ⟨call, hcall⟩ := (hi.idle hp).work hwork
        simp [hs] at hcall
  | shutdown ho hd =>
      intro hg
      rcases hi.served hg with hr | ⟨ho, -, hn⟩
      · exact .inl hr
      · exact .inr ⟨ho, .inr (.inr rfl), hn⟩
  | sock hn =>
      intro hg
      rcases hi.served hg with hr | ⟨ho, hp, -⟩
      · exact .inl hr
      · exact .inr ⟨ho, hp, fun hp => absurd hp.2 (Notify.not_parked_notify_one _)⟩
  | refused ha => exact hi.served
  -- after any other step of the guest it is not parked
  | write hs ho hd hb => exact fun hg => absurd hg (not_guestParked (by simp))
  | flush hs ho hd => exact fun hg => absurd hg (not_guestParked (by simp))
  | drop hs ho hd => exact fun hg => absurd hg (not_guestParked (by simp))
  | drop_ended hs hd => exact fun hg => absurd hg (not_guestParked (by simp))
  | ready hs => exact fun hg => absurd hg (not_guestParked (by simp))
  | notify_write hs => exact fun hg => absurd hg (not_guestParked (by simp))
  | notify_flush hs => exact fun hg => absurd hg (not_guestParked (by simp))
  | notify_drop hs => exact fun hg => absurd hg (not_guestParked (by simp))
  | ready_return hs hr => exact fun hg => absurd hg (not_guestParked (by simp))
  | ready_again hs hr => exact fun hg => absurd hg (not_guestParked (by simp))
  | abandon hs => exact fun hg => absurd hg (not_guestParked (by simp))

/-- A step under the condition: the halves side by side. -/
theorem inv_step {s s' : Sys} {a : Act} (hi : Inv s) (hc : RecheckKeepsRound s a)
    (h : step s a = some s') : Inv s' :=
  ⟨idle_step hi.idle h, served_step hi hc h⟩

/-! ## The forgotten round -/

/-- A re-check outside the condition leaves a parked guest with no round to come. -/
theorem not_responsive_of_recheck {s s' : Sys} {a : Act} (hi : Inv s)
    (hc : ¬ RecheckKeepsRound s a) (h : step s a = some s') : ¬ Responsive s' := by
  unfold RecheckKeepsRound at hc
  push Not at hc
  obtain ⟨rfl, ht, ho, hg, hflush, hshut⟩ := hc
  have hpend : s.inner.Pending := by
    rcases hi.served hg with hr | ⟨-, hp, -⟩
    · simp [ht, InRound] at hr
    · exact hp
  intro hresp
  cases trans_of_step h with
  | recheck_io ht' ho' hp =>
      rcases hresp.served hg with hr | ⟨-, hp', -⟩
      · exact hr
      · rcases hp' with hq | hf | hd
        · exact hq rfl
        · exact hflush hf
        · exact hshut hd
  | recheck_wait _ _ hp => exact hp hpend
  | recheck_end _ ho' => exact ho' ho
  | refused ha => exact ha rfl
  | look_end ht' => simp [ht] at ht'
  | look_wait ht' => simp [ht] at ht'
  | look_io ht' => simp [ht] at ht'
  | register ht' => simp [ht] at ht'
  | resume ht' => simp [ht] at ht'
  | call ht' => simp [ht] at ht'
  | finish ht' => simp [ht] at ht'

/-- **No deadlock between guest and writer task -- exactly when no re-check drops the
work a parked guest waits for.** For every interleaving of guest calls (`ready`
included, run to its end or abandoned), shutdown requests, I/O completions and task
steps. -/
theorem responsive_iff_recheck_keeps_round (acts : List Act) :
    Lts.Always step Responsive Sys.init acts ↔
      Lts.Steps step RecheckKeepsRound Sys.init acts :=
  Lts.always_iff_steps inv_init inv_step responsive_of_inv not_responsive_of_recheck

/-! ## The schedule that deadlocks -/

/-- The task looks and finds nothing; the guest fills the queue and parks in `ready`;
the task registers, re-checks, and goes back to sleep. -/
def deadlockSchedule (bytes : List UInt8) : List Act :=
  [.task, .write bytes, .stream, .ready, .stream, .task, .task, .task, .task, .task]

/-- Where it ends: both sides parked, on an empty queue. -/
def deadlocked (bytes : List UInt8) : Sys :=
  { Sys.init with
    wake := ⟨false, .waiting⟩
    ready := ⟨false, .waiting⟩
    task := .await
    stream := .readyAwait
    accepted := bytes }

/-- The schedule runs to its end. -/
theorem run_deadlockSchedule {bytes : List UInt8} (hlen : bytes.length = CHUNK) :
    Lts.run step Sys.init (deadlockSchedule bytes) = some (deadlocked bytes) := by
  have hne : bytes ≠ [] := by
    rintro rfl
    exact absurd hlen (by simp [CHUNK])
  simp [deadlockSchedule, deadlocked, Lts.run, step, step_task, step_stream, next_work,
    write, WriteInner.check, StreamState.check, WriteInner.permitted, WriteInner.is_ready,
    WriteInner.writable, Sys.init, WriteInner.new, Notify.new, Notify.enable,
    Notify.notify_one, Notify.drop, hlen, hne, bind, Except.bind, pure, Except.pure]

/-- Filling the queue in the window between the first look and the re-check, then
waiting for budget, puts both sides to sleep. -/
theorem full_queue_in_recheck_window_deadlocks :
    ¬ Lts.Always step (fun s => ¬ (TaskParked s ∧ GuestParked s)) Sys.init
      (deadlockSchedule (List.replicate CHUNK 0)) := by
  refine Lts.not_always_of_run (run_deadlockSchedule List.length_replicate) ?_
  rw [not_not]
  exact ⟨⟨rfl, rfl, rfl⟩, rfl, rfl⟩

end PolymorphTls.SendWakeups

/-
The WASI 0.2 send direction (`tls-virt-wasmtime/src/p2.rs`): the guest-facing
`TlsOutputStream`, the socket's `shutdown(send)`, and the writer task that owns the
TLS write half, as one transition system.

# What a step is

The guest thread and the writer task run in parallel, so the model interleaves them
at every point where the other side can observe a difference: each lock section of
`WriteCtl::inner`, each `next_work` call, each call on a notify and each await is a
step of its own. In particular a guest request is *two* steps -- the locked update,
then `wake.notify_one()` -- and the `Work::Wait` arm of the task is three: the first
look, `enable`, and the re-check.

The methods of `TlsOutputStream` take `&mut self`, so at most one of them is in
progress at a time ([`StreamPc`]); `shutdown(send)` reaches the shared state through
the socket and may fall anywhere, also inside another call ([`Sys.sockNotify`]).

# Ghosts

`Sys.half` records the calls made on the TLS write half, oldest first, and
`Sys.accepted` the bytes of the `write` calls that returned `Ok`, in order. Neither
is read by a transition.
-/
import PolymorphTls.Lts
import PolymorphTls.Notify
import PolymorphTls.StreamState

set_option autoImplicit false

namespace PolymorphTls.WriteTask

/-! ## The shared state -/

/-- `WriteInner`: what the stream, the socket and the task share under one lock. -/
structure WriteInner where
  /-- Guest-written bytes the task has not yet taken. -/
  queued : List UInt8
  /-- `check-write` reports no budget until the requested flush completes. -/
  flushing : Bool
  /-- close_notify requested; the task performs it after draining the queue. -/
  shutdown : Bool
  state : StreamState
  deriving DecidableEq, Repr

/-- The fields `WriteCtl::new` starts with. -/
def WriteInner.new : WriteInner := ⟨[], false, false, .Open⟩

/-! ## The guest's lock sections -/

/-- The budget `write` and `check_write` compute. A pending flush makes it nothing, which is
how the guest is held back until the flush is done. -/
def WriteInner.permitted (inner : WriteInner) : ℕ :=
  if inner.flushing then 0 else CHUNK - inner.queued.length

/-- The checks `write`, `flush` and `check_write` share. -/
def WriteInner.check (inner : WriteInner) : Except StreamError Unit := do
  inner.state.check
  if inner.shutdown then .error .Closed

/-- The lock section of `TlsOutputStream::write`. -/
def write (inner : WriteInner) (bytes : List UInt8) : Except StreamError WriteInner := do
  inner.check
  if bytes.length > inner.permitted then
    .error (.Trap "write exceeds check-write permit")
  .ok { inner with queued := inner.queued ++ bytes }

/-- The lock section of `TlsOutputStream::flush`. It sets a flag; the flush itself is the
task's. -/
def flush (inner : WriteInner) : Except StreamError WriteInner := do
  inner.check
  .ok { inner with flushing := true }

/-- `TlsOutputStream::check_write`. -/
def check_write (inner : WriteInner) : Except StreamError ℕ := do
  inner.check
  .ok inner.permitted

/-- The lock section of `request_shutdown`; `none` is its early return. Both the stream's
drop and the socket come here. -/
def request_shutdown (inner : WriteInner) : Option WriteInner :=
  if inner.state ≠ .Open ∨ inner.shutdown then none
  else some { inner with shutdown := true }

/-- `writable` of `<TlsOutputStream as Pollable>::ready`. -/
def WriteInner.writable (inner : WriteInner) : Bool :=
  !inner.flushing && inner.queued.length < CHUNK

/-- The condition under which `ready` returns. -/
def WriteInner.is_ready (inner : WriteInner) : Bool :=
  inner.writable || inner.state ≠ .Open || inner.shutdown

/-! ## The task's lock sections -/

/-- What `next_work` finds to do. -/
inductive Work where
  | Io (chunk : List UInt8) (flushing shutdown : Bool)
  | Wait
  | End
  deriving DecidableEq, Repr

/-- `next_work`: what to do next, and the queue *drained into it*. -/
def next_work (inner : WriteInner) : Work × WriteInner :=
  if inner.state ≠ .Open then (.End, inner)
  else if inner.queued = [] ∧ inner.flushing = false ∧ inner.shutdown = false then
    (.Wait, inner)
  -- `split_to(len)` leaves the queue empty, whoever called
  else (.Io inner.queued inner.flushing inner.shutdown, { inner with queued := [] })

/-- The lock section that ends an I/O round. It writes down what became of the round, for
the requests it had in its snapshot. -/
def finish (inner : WriteInner) (result : Except String Unit) (flushing shutdown : Bool) :
    WriteInner :=
  match result with
  | .ok () =>
      -- bytes written during the round keep the flush pending
      let inner :=
        if flushing ∧ inner.queued = [] then { inner with flushing := false } else inner
      if shutdown then { inner with state := .Closed } else inner
  | .error e => { inner with state := .Failed ("TLS send failed: " ++ e) }

/-! ## The system -/

/-- Where `write_task` is. Between its first look and its await it registers with the notify
and looks again, and each of these is a step of its own: the guest's calls come in
between. -/
inductive TaskPc where
  /-- At the head of the loop, before `next_work`. -/
  | look
  /-- `next_work` said `Wait`; before `notified().enable()`. -/
  | register
  /-- Enabled; before the second `next_work`. -/
  | recheck
  /-- In `wake.await`. -/
  | await
  /-- Holding a chunk, before `half.write_all(&chunk)`. -/
  | holding (chunk : List UInt8) (flushing shutdown : Bool)
  /-- In `half.write_all(..).await`. -/
  | writing (flushing shutdown : Bool)
  /-- In `half.flush().await`. -/
  | flush (shutdown : Bool)
  /-- In `half.shutdown().await`. -/
  | shutdown (flushing : Bool)
  /-- I/O over; before the lock section that ends the round. -/
  | finish (result : Except String Unit) (flushing shutdown : Bool)
  | returned
  deriving DecidableEq

/-- A call of the guest that has made its locked update and will notify the task. The two
are not one step, and the notify is outside the lock. -/
inductive GuestCall where
  | write (bytes : List UInt8)
  | flush
  | drop
  deriving DecidableEq, Repr

/-- Where the guest is in its current call on the stream. -/
inductive StreamPc where
  | idle
  /-- Between the locked update and `wake.notify_one()`. -/
  | notify (call : GuestCall)
  /-- In `ready`: enabled, before the locked look. -/
  | readyCheck
  /-- In `ready`: at `notified.await`. -/
  | readyAwait
  /-- The stream was dropped. -/
  | gone
  deriving DecidableEq, Repr

/-- A call on the TLS write half. -/
inductive HalfCall where
  | write_all (chunk : List UInt8)
  | flush
  | shutdown
  deriving DecidableEq, Repr

/-- The shared state, the two notifies, where the task and the guest are, and the ghosts. -/
structure Sys where
  inner : WriteInner
  wake : Notify
  ready : Notify
  task : TaskPc
  stream : StreamPc
  /-- A `shutdown(send)` is between its locked update and `wake.notify_one()`. -/
  sockNotify : Bool
  half : List HalfCall
  accepted : List UInt8
  deriving DecidableEq

/-- The state `finish_connect` sets up: the task spawned, the stream handed out. -/
def Sys.init : Sys where
  inner := .new
  wake := .new
  ready := .new
  task := .look
  stream := .idle
  sockNotify := false
  half := []
  accepted := []

/-- What the guest, the socket and the runtime do. -/
inductive Act where
  /-- `write_task` runs to its next observable point. -/
  | task
  /-- The operation on the half that the task awaits completes. -/
  | io (result : Except String Unit)
  /-- The guest's calls on the stream, up to and including their lock section. -/
  | write (bytes : List UInt8)
  | flush
  | check_write
  | drop
  | ready
  /-- The guest's current call goes on: its notify, or the next point of `ready`. -/
  | stream
  /-- A pending `ready` is dropped at its await. -/
  | abandon
  /-- The socket's `shutdown(send)`: its lock section, then its notify. -/
  | shutdown
  | sock
  deriving DecidableEq

/-! ## The transitions -/

/-- What the task does once an awaited operation of the half has returned `Ok`:
`flush` and `shutdown` say which operations of the round are still to come,
`flushing` is the flag the round started with. -/
def after_io (s : Sys) (flush shutdown flushing : Bool) : Sys :=
  if flush then { s with task := .flush shutdown, half := s.half ++ [.flush] }
  else if shutdown then
    { s with task := .shutdown flushing, half := s.half ++ [.shutdown] }
  else { s with task := .finish (.ok ()) flushing false }

/-- One step of `write_task` other than the completion of an await on the half. The second
look throws away what it takes, as the source does. -/
def step_task (s : Sys) : Option Sys :=
  match s.task with
  | .look =>
      match next_work s.inner with
      | (.End, inner) => some { s with inner, task := .returned }
      | (.Wait, inner) => some { s with inner, task := .register }
      | (.Io chunk flushing shutdown, inner) =>
          some { s with inner, task := .holding chunk flushing shutdown }
  | .register => some { s with wake := s.wake.enable, task := .recheck }
  | .recheck =>
      -- `matches!(next_work(&ctl), Work::Wait)`: any other result is dropped, and
      -- with it the chunk that `next_work` drained
      match next_work s.inner with
      | (.Wait, inner) => some { s with inner, task := .await }
      | (_, inner) => some { s with inner, wake := s.wake.drop, task := .look }
  | .await =>
      if s.wake.is_ready then some { s with wake := s.wake.finish, task := .look } else none
  | .holding chunk flushing shutdown =>
      -- also with an empty chunk, in a round that only flushes or shuts down
      some { s with task := .writing flushing shutdown, half := s.half ++ [.write_all chunk] }
  | .finish result flushing shutdown =>
      -- every way out of the round notifies, still under the lock
      some { s with
        inner := finish s.inner result flushing shutdown
        ready := s.ready.notify_waiters
        task := if result.isOk && !shutdown then .look else .returned }
  | .writing _ _ | .flush _ | .shutdown _ | .returned => none

/-- The completion of the operation on the half that the task awaits. -/
def step_io (s : Sys) (result : Except String Unit) : Option Sys :=
  match s.task, result with
  | .writing flushing shutdown, .ok () => some (after_io s flushing shutdown flushing)
  | .flush shutdown, .ok () => some (after_io s false shutdown true)
  | .shutdown flushing, .ok () => some { s with task := .finish (.ok ()) flushing true }
  | .writing flushing shutdown, .error e =>
      some { s with task := .finish (.error e) flushing shutdown }
  | .flush shutdown, .error e => some { s with task := .finish (.error e) true shutdown }
  | .shutdown flushing, .error e => some { s with task := .finish (.error e) flushing true }
  | _, _ => none

/-- The guest's call on the stream goes on. -/
def step_stream (s : Sys) : Option Sys :=
  match s.stream with
  | .notify (.write bytes) =>
      some { s with
        wake := s.wake.notify_one
        stream := .idle
        accepted := s.accepted ++ bytes }
  | .notify .flush => some { s with wake := s.wake.notify_one, stream := .idle }
  | .notify .drop => some { s with wake := s.wake.notify_one, stream := .gone }
  | .readyCheck =>
      -- returning drops the enabled waiter
      if s.inner.is_ready then some { s with ready := s.ready.drop, stream := .idle }
      else some { s with stream := .readyAwait }
  | .readyAwait =>
      if s.ready.is_ready then
        some { s with ready := s.ready.finish.enable, stream := .readyCheck }
      else none
  | .idle | .gone => none

/-- The whole system. A guest call that fails returns to the guest and changes
nothing, so it is a step that leaves the state as it is. -/
def step (s : Sys) : Act → Option Sys
  | .task => step_task s
  | .io result => step_io s result
  | .write bytes =>
      if s.stream = .idle then
        match write s.inner bytes with
        | .ok inner => some { s with inner, stream := .notify (.write bytes) }
        | .error _ => some s
      else none
  | .flush =>
      if s.stream = .idle then
        match flush s.inner with
        | .ok inner => some { s with inner, stream := .notify .flush }
        | .error _ => some s
      else none
  | .check_write => if s.stream = .idle then some s else none
  | .drop =>
      if s.stream = .idle then
        -- `Drop` ends at once when the direction already ended
        match request_shutdown s.inner with
        | some inner => some { s with inner, stream := .notify .drop }
        | none => some { s with stream := .gone }
      else none
  | .ready =>
      if s.stream = .idle then some { s with ready := s.ready.enable, stream := .readyCheck }
      else none
  | .stream => step_stream s
  | .abandon =>
      if s.stream = .readyAwait then some { s with ready := s.ready.drop, stream := .idle }
      else none
  | .shutdown =>
      match request_shutdown s.inner with
      | some inner => some { s with inner, sockNotify := true }
      | none => some s
  | .sock =>
      if s.sockNotify then some { s with wake := s.wake.notify_one, sockNotify := false }
      else none

/-! ## What a step can do

One constructor per transition, guards included. Every invariant below and in the
modules above is a case analysis on [`Trans`], never on `step`. -/

/-- There is something for the task to do, or to lose. -/
def WriteInner.Pending (inner : WriteInner) : Prop :=
  inner.queued ≠ [] ∨ inner.flushing = true ∨ inner.shutdown = true

/-- Every step with its guard, one line of the source each. -/
inductive Trans (s : Sys) : Act → Sys → Prop where
  | look_end (ht : s.task = .look) (ho : s.inner.state ≠ .Open) :
      Trans s .task { s with task := .returned }
  | look_wait (ht : s.task = .look) (ho : s.inner.state = .Open) (hp : ¬ s.inner.Pending) :
      Trans s .task { s with task := .register }
  | look_io (ht : s.task = .look) (ho : s.inner.state = .Open) (hp : s.inner.Pending) :
      Trans s .task { s with
        inner := { s.inner with queued := [] }
        task := .holding s.inner.queued s.inner.flushing s.inner.shutdown }
  | register (ht : s.task = .register) :
      Trans s .task { s with wake := s.wake.enable, task := .recheck }
  | recheck_wait (ht : s.task = .recheck) (ho : s.inner.state = .Open)
      (hp : ¬ s.inner.Pending) : Trans s .task { s with task := .await }
  | recheck_end (ht : s.task = .recheck) (ho : s.inner.state ≠ .Open) :
      Trans s .task { s with wake := s.wake.drop, task := .look }
  | recheck_io (ht : s.task = .recheck) (ho : s.inner.state = .Open) (hp : s.inner.Pending) :
      Trans s .task { s with
        inner := { s.inner with queued := [] }
        wake := s.wake.drop
        task := .look }
  | resume (ht : s.task = .await) (hr : s.wake.is_ready = true) :
      Trans s .task { s with wake := s.wake.finish, task := .look }
  | call {chunk : List UInt8} {flushing shutdown : Bool}
      (ht : s.task = .holding chunk flushing shutdown) :
      Trans s .task { s with
        task := .writing flushing shutdown
        half := s.half ++ [.write_all chunk] }
  | finish {result : Except String Unit} {flushing shutdown : Bool}
      (ht : s.task = .finish result flushing shutdown) :
      Trans s .task { s with
        inner := WriteTask.finish s.inner result flushing shutdown
        ready := s.ready.notify_waiters
        task := if result.isOk && !shutdown then .look else .returned }
  | io_flush {shutdown : Bool} (ht : s.task = .writing true shutdown) :
      Trans s (.io (.ok ())) { s with task := .flush shutdown, half := s.half ++ [.flush] }
  | io_shutdown {flushing : Bool}
      (ht : s.task = .writing false true ∧ flushing = false
        ∨ s.task = .flush true ∧ flushing = true) :
      Trans s (.io (.ok ())) { s with
        task := .shutdown flushing
        half := s.half ++ [.shutdown] }
  | io_ok {flushing shutdown : Bool}
      (ht : s.task = .writing false false ∧ flushing = false ∧ shutdown = false
        ∨ s.task = .flush false ∧ flushing = true ∧ shutdown = false
        ∨ s.task = .shutdown flushing ∧ shutdown = true) :
      Trans s (.io (.ok ())) { s with task := .finish (.ok ()) flushing shutdown }
  | io_err {e : String} {flushing shutdown : Bool}
      (ht : s.task = .writing flushing shutdown ∨ s.task = .flush shutdown ∧ flushing = true
        ∨ s.task = .shutdown flushing ∧ shutdown = true) :
      Trans s (.io (.error e)) { s with task := .finish (.error e) flushing shutdown }
  | write {bytes : List UInt8} (hs : s.stream = .idle) (ho : s.inner.state = .Open)
      (hd : s.inner.shutdown = false) (hb : bytes.length ≤ s.inner.permitted) :
      Trans s (.write bytes) { s with
        inner := { s.inner with queued := s.inner.queued ++ bytes }
        stream := .notify (.write bytes) }
  | flush (hs : s.stream = .idle) (ho : s.inner.state = .Open)
      (hd : s.inner.shutdown = false) :
      Trans s .flush { s with inner := { s.inner with flushing := true }, stream := .notify .flush }
  | drop (hs : s.stream = .idle) (ho : s.inner.state = .Open) (hd : s.inner.shutdown = false) :
      Trans s .drop { s with inner := { s.inner with shutdown := true }, stream := .notify .drop }
  | drop_ended (hs : s.stream = .idle)
      (hd : s.inner.state ≠ .Open ∨ s.inner.shutdown = true) :
      Trans s .drop { s with stream := .gone }
  | ready (hs : s.stream = .idle) :
      Trans s .ready { s with ready := s.ready.enable, stream := .readyCheck }
  | notify_write {bytes : List UInt8} (hs : s.stream = .notify (.write bytes)) :
      Trans s .stream { s with
        wake := s.wake.notify_one
        stream := .idle
        accepted := s.accepted ++ bytes }
  | notify_flush (hs : s.stream = .notify .flush) :
      Trans s .stream { s with wake := s.wake.notify_one, stream := .idle }
  | notify_drop (hs : s.stream = .notify .drop) :
      Trans s .stream { s with wake := s.wake.notify_one, stream := .gone }
  | ready_return (hs : s.stream = .readyCheck) (hr : s.inner.is_ready = true) :
      Trans s .stream { s with ready := s.ready.drop, stream := .idle }
  | ready_await (hs : s.stream = .readyCheck) (hr : s.inner.is_ready = false) :
      Trans s .stream { s with stream := .readyAwait }
  | ready_again (hs : s.stream = .readyAwait) (hr : s.ready.is_ready = true) :
      Trans s .stream { s with ready := s.ready.finish.enable, stream := .readyCheck }
  | abandon (hs : s.stream = .readyAwait) :
      Trans s .abandon { s with ready := s.ready.drop, stream := .idle }
  | shutdown (ho : s.inner.state = .Open) (hd : s.inner.shutdown = false) :
      Trans s .shutdown { s with
        inner := { s.inner with shutdown := true }
        sockNotify := true }
  | sock (hn : s.sockNotify = true) :
      Trans s .sock { s with wake := s.wake.notify_one, sockNotify := false }
  /-- A guest call that fails, or only looks, leaves everything as it is. -/
  | refused {a : Act} (ha : a ≠ .task) : Trans s a s

/-- The three results of `next_work`. -/
theorem next_work_cases (inner : WriteInner) :
    (inner.state ≠ .Open ∧ next_work inner = (.End, inner))
      ∨ (inner.state = .Open ∧ ¬ inner.Pending ∧ next_work inner = (.Wait, inner))
      ∨ (inner.state = .Open ∧ inner.Pending ∧ next_work inner
          = (.Io inner.queued inner.flushing inner.shutdown, { inner with queued := [] })) := by
  unfold next_work WriteInner.Pending
  by_cases ho : inner.state = .Open
  · by_cases hw : inner.queued = [] ∧ inner.flushing = false ∧ inner.shutdown = false
    · right; left
      exact ⟨ho, by simp [hw.1, hw.2.1, hw.2.2], by simp [ho, hw]⟩
    · right; right
      refine ⟨ho, ?_, by simp [ho, hw]⟩
      by_contra hp
      simp only [not_or, ne_eq, not_not, Bool.not_eq_true] at hp
      exact hw hp
  · left
    exact ⟨ho, by simp [ho]⟩

/-- The shared checks pass exactly on an open, not shut down stream. -/
theorem check_eq_ok {inner : WriteInner} {u : Unit} (h : inner.check = .ok u) :
    inner.state = .Open ∧ inner.shutdown = false := by
  unfold WriteInner.check StreamState.check at h
  cases ho : inner.state <;> cases hd : inner.shutdown <;>
    simp [ho, hd, bind, Except.bind] at h ⊢

/-- `write` accepts only on an open, not shut down stream and within the budget. -/
theorem write_eq_ok {inner inner' : WriteInner} {bytes : List UInt8}
    (h : write inner bytes = .ok inner') :
    inner.state = .Open ∧ inner.shutdown = false ∧ bytes.length ≤ inner.permitted
      ∧ inner' = { inner with queued := inner.queued ++ bytes } := by
  unfold write at h
  cases hc : inner.check with
  | error e => simp [hc, bind, Except.bind] at h
  | ok u =>
      obtain ⟨ho, hd⟩ := check_eq_ok hc
      by_cases hb : inner.permitted < bytes.length
      · simp [hc, hb, bind, Except.bind] at h
      · simp only [hc, hb, bind, Except.bind, if_false, Except.ok.injEq] at h
        exact ⟨ho, hd, by omega, h.symm⟩

/-- `flush` accepts only on an open, not shut down stream. -/
theorem flush_eq_ok {inner inner' : WriteInner} (h : flush inner = .ok inner') :
    inner.state = .Open ∧ inner.shutdown = false
      ∧ inner' = { inner with flushing := true } := by
  unfold flush at h
  cases hc : inner.check with
  | error e => simp [hc, bind, Except.bind] at h
  | ok u =>
      obtain ⟨ho, hd⟩ := check_eq_ok hc
      simp only [hc, bind, Except.bind, Except.ok.injEq] at h
      exact ⟨ho, hd, h.symm⟩

/-- `request_shutdown` takes effect once, on an open stream. -/
theorem request_shutdown_eq_some {inner inner' : WriteInner}
    (h : request_shutdown inner = some inner') :
    inner.state = .Open ∧ inner.shutdown = false
      ∧ inner' = { inner with shutdown := true } := by
  unfold request_shutdown at h
  by_cases hc : inner.state ≠ .Open ∨ inner.shutdown
  · simp [hc] at h
  · rw [if_neg hc, Option.some.injEq] at h
    simp only [not_or, ne_eq, not_not, Bool.not_eq_true] at hc
    exact ⟨hc.1, hc.2, h.symm⟩

/-- It returns early where the direction is over, or was asked before. -/
theorem request_shutdown_eq_none {inner : WriteInner} (h : request_shutdown inner = none) :
    inner.state ≠ .Open ∨ inner.shutdown = true := by
  unfold request_shutdown at h
  by_contra hc
  rw [if_neg hc] at h
  exact absurd h (by simp)

/-- The task's own steps are among the transitions. -/
theorem trans_of_step_task {s s' : Sys} (h : step_task s = some s') : Trans s .task s' := by
  unfold step_task at h
  cases ht : s.task with
  | look =>
      rcases next_work_cases s.inner with ⟨ho, hn⟩ | ⟨ho, hp, hn⟩ | ⟨ho, hp, hn⟩ <;>
        simp only [ht, hn, Option.some.injEq] at h <;> subst h
      · exact .look_end ht ho
      · exact .look_wait ht ho hp
      · exact .look_io ht ho hp
  | register =>
      simp only [ht, Option.some.injEq] at h
      subst h
      exact .register ht
  | recheck =>
      rcases next_work_cases s.inner with ⟨ho, hn⟩ | ⟨ho, hp, hn⟩ | ⟨ho, hp, hn⟩ <;>
        simp only [ht, hn, Option.some.injEq] at h <;> subst h
      · exact .recheck_end ht ho
      · exact .recheck_wait ht ho hp
      · exact .recheck_io ht ho hp
  | await =>
      by_cases hr : s.wake.is_ready = true
      · simp only [ht, hr, if_true, Option.some.injEq] at h
        subst h
        exact .resume ht hr
      · simp [ht, hr] at h
  | holding chunk flushing shutdown =>
      simp only [ht, Option.some.injEq] at h
      subst h
      exact .call ht
  | finish result flushing shutdown =>
      simp only [ht, Option.some.injEq] at h
      subst h
      exact .finish ht
  | writing _ _ => simp [ht] at h
  | flush _ => simp [ht] at h
  | shutdown _ => simp [ht] at h
  | returned => simp [ht] at h

/-- The completions of the half's operations are among the transitions. -/
theorem trans_of_step_io {s s' : Sys} {result : Except String Unit}
    (h : step_io s result = some s') : Trans s (.io result) s' := by
  unfold step_io after_io at h
  cases ht : s.task with
  | writing flushing shutdown =>
      cases result with
      | error e =>
          simp only [ht, Option.some.injEq] at h
          subst h
          exact .io_err (.inl ht)
      | ok u =>
          cases flushing <;> cases shutdown <;>
            simp only [ht, Bool.false_eq_true, if_false, if_true, Option.some.injEq] at h <;>
            subst h
          · exact .io_ok (.inl ⟨ht, rfl, rfl⟩)
          · exact .io_shutdown (.inl ⟨ht, rfl⟩)
          · exact .io_flush ht
          · exact .io_flush ht
  | flush shutdown =>
      cases result with
      | error e =>
          simp only [ht, Option.some.injEq] at h
          subst h
          exact .io_err (.inr (.inl ⟨ht, rfl⟩))
      | ok u =>
          cases shutdown <;>
            simp only [ht, Bool.false_eq_true, if_false, if_true, Option.some.injEq] at h <;>
            subst h
          · exact .io_ok (.inr (.inl ⟨ht, rfl, rfl⟩))
          · exact .io_shutdown (.inr ⟨ht, rfl⟩)
  | shutdown flushing =>
      cases result with
      | error e =>
          simp only [ht, Option.some.injEq] at h
          subst h
          exact .io_err (.inr (.inr ⟨ht, rfl⟩))
      | ok u =>
          simp only [ht, Option.some.injEq] at h
          subst h
          exact .io_ok (.inr (.inr ⟨ht, rfl⟩))
  | look => simp [ht] at h
  | register => simp [ht] at h
  | recheck => simp [ht] at h
  | await => simp [ht] at h
  | holding _ _ _ => simp [ht] at h
  | finish _ _ _ => simp [ht] at h
  | returned => simp [ht] at h

/-- The continuations of the guest's calls are among the transitions. -/
theorem trans_of_step_stream {s s' : Sys} (h : step_stream s = some s') :
    Trans s .stream s' := by
  unfold step_stream at h
  cases hs : s.stream with
  | notify call =>
      cases call <;> simp only [hs, Option.some.injEq] at h <;> subst h
      · exact .notify_write hs
      · exact .notify_flush hs
      · exact .notify_drop hs
  | readyCheck =>
      cases hr : s.inner.is_ready <;>
        simp only [hs, hr, Bool.false_eq_true, if_false, if_true, Option.some.injEq] at h <;>
        subst h
      · exact .ready_await hs hr
      · exact .ready_return hs hr
  | readyAwait =>
      cases hr : s.ready.is_ready <;>
        simp only [hs, hr, Bool.false_eq_true, if_false, if_true, Option.some.injEq,
          reduceCtorEq] at h
      subst h
      exact .ready_again hs hr
  | idle => simp [hs] at h
  | gone => simp [hs] at h

/-- **Inversion.** Every step of the system is one of the listed transitions. -/
theorem trans_of_step {s s' : Sys} {a : Act} (h : step s a = some s') : Trans s a s' := by
  cases a with
  | task => exact trans_of_step_task h
  | io result => exact trans_of_step_io h
  | stream => exact trans_of_step_stream h
  | write bytes =>
      by_cases hs : s.stream = .idle
      · cases hw : write s.inner bytes with
        | error e =>
            simp only [step, hs, hw, if_true, Option.some.injEq] at h
            subst h
            exact .refused (by simp)
        | ok inner =>
            obtain ⟨ho, hd, hb, rfl⟩ := write_eq_ok hw
            simp only [step, hs, hw, if_true, Option.some.injEq] at h
            subst h
            exact .write hs ho hd hb
      · simp [step, hs] at h
  | flush =>
      by_cases hs : s.stream = .idle
      · cases hw : flush s.inner with
        | error e =>
            simp only [step, hs, hw, if_true, Option.some.injEq] at h
            subst h
            exact .refused (by simp)
        | ok inner =>
            obtain ⟨ho, hd, rfl⟩ := flush_eq_ok hw
            simp only [step, hs, hw, if_true, Option.some.injEq] at h
            subst h
            exact .flush hs ho hd
      · simp [step, hs] at h
  | check_write =>
      by_cases hs : s.stream = .idle
      · simp only [step, hs, if_true, Option.some.injEq] at h
        subst h
        exact .refused (by simp)
      · simp [step, hs] at h
  | drop =>
      by_cases hs : s.stream = .idle
      · cases hq : request_shutdown s.inner with
        | none =>
            simp only [step, hs, hq, if_true, Option.some.injEq] at h
            subst h
            exact .drop_ended hs (request_shutdown_eq_none hq)
        | some inner =>
            obtain ⟨ho, hd, rfl⟩ := request_shutdown_eq_some hq
            simp only [step, hs, hq, if_true, Option.some.injEq] at h
            subst h
            exact .drop hs ho hd
      · simp [step, hs] at h
  | ready =>
      by_cases hs : s.stream = .idle
      · simp only [step, hs, if_true, Option.some.injEq] at h
        subst h
        exact .ready hs
      · simp [step, hs] at h
  | abandon =>
      by_cases hs : s.stream = .readyAwait
      · simp only [step, hs, if_true, Option.some.injEq] at h
        subst h
        exact .abandon hs
      · simp [step, hs] at h
  | shutdown =>
      cases hq : request_shutdown s.inner with
      | none =>
          simp only [step, hq, Option.some.injEq] at h
          subst h
          exact .refused (by simp)
      | some inner =>
          obtain ⟨ho, hd, rfl⟩ := request_shutdown_eq_some hq
          simp only [step, hq, Option.some.injEq] at h
          subst h
          exact .shutdown ho hd
  | sock =>
      by_cases hn : s.sockNotify = true
      · simp only [step, hn, if_true, Option.some.injEq] at h
        subst h
        exact .sock hn
      · simp [step, hn] at h

end PolymorphTls.WriteTask

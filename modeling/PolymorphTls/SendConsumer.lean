/-
The WASI 0.3 send stream (`tls-virt-wasmtime/src/main.rs`): `TlsSendConsumer`, polled by the
host for as long as the guest writes, the task that shuts the TLS half down, and the oneshot
that carries the direction's verdict.

Three parties may decide the verdict: a poll whose write fails, the consumer's `Drop`, and
the task that `Drop` spawns. They are kept apart by two options, `result` and `write`, which
`close` takes *together*: whoever finds the sender gone does nothing, and whoever takes it
takes the half with it, into the shutdown task or to be dropped.

## What is proved, and how

What happens to the half is watched by a monitor: the calls are those of the polls and of the
shutdown task, and a half that leaves the consumer without a task to hold it was dropped. A
consumer is in one of five phases ([`Phase`]): open, failed, and, once dropped, waiting for
the shutdown, in it, or past it. Each phase fixes the calls made on the half, the verdicts
sent and what is still running, and every step goes from a phase to a phase; [`Exact`] is
read off them.

The error type of the half's operations and `ErrorCode::from` on it are parameters.
-/
import PolymorphTls.ReceiveProducer

set_option autoImplicit false

namespace PolymorphTls.SendConsumer

open PolymorphTls.ReceiveProducer (StreamResult)

/-! ## The consumer -/

section

variable {E : Type}

/-- The outcome of `poll_write` on the TLS half: on success, how many bytes it accepted. A
TLS half may accept a part of what it is offered, which is why the consumer reports a
count. -/
inductive PollWrite (E : Type) where
  | Pending
  | Ready (result : Except E ℕ)

/-- What one `poll_consume` call is given. -/
structure Input (E : Type) where
  /-- `src.remaining()`: the bytes the guest's write offers. -/
  buf : List UInt8
  finish : Bool
  write : PollWrite E

/-- The consumer as its fields stand between two calls: the half it still holds, the
verdict's sender, and the task that `Drop` may have spawned. -/
structure Sys where
  /-- `write`: whether the consumer holds the half. -/
  write : Bool
  /-- `result`: whether it holds the sender of the verdict. -/
  result : Bool
  /-- The consumer was dropped. -/
  gone : Bool
  /-- Shutdown tasks spawned on the runtime, and not run yet. -/
  spawned : ℕ
  /-- Shutdown tasks in `write.shutdown().await`. -/
  shutting : ℕ
  /-- The values sent on the verdict channel. -/
  verdicts : List (Except ErrorCode Unit)
  /-- The sender was dropped without a value. -/
  unsent : Bool
  /-- The bytes marked as read from the guest's stream. -/
  marked : List UInt8

/-- What `VirtSockets::send` hands to the host. -/
def Sys.init : Sys := ⟨true, true, false, 0, 0, [], false, []⟩

/-- `TlsSendConsumer::close`. Both fields are taken, so a second close finds nothing to
do. -/
def close (s : Sys) (res : Except ErrorCode Unit) : Sys :=
  if s.result then
    match res, s.write with
    | .ok (), true => { s with result := false, write := false, spawned := s.spawned + 1 }
    | res, _ =>
        -- no clean close is possible: the half, if there is one, is dropped
        { s with result := false, write := false, verdicts := s.verdicts ++ [res] }
  else s

variable (from_error : E → ErrorCode)

/-- `TlsSendConsumer::poll_consume`; no result is `Poll::Pending`. A closed consumer answers
`Dropped` without looking at the input, and an empty input is a readiness probe, which must
not write. -/
def poll_consume (s : Sys) (i : Input E) : Option StreamResult × Sys :=
  if s.write then
    if i.buf = [] then
      -- zero-length write: a readiness probe
      (some .Completed, s)
    else
      match i.write with
      | .Ready (.ok n) => (some .Completed, { s with marked := s.marked ++ i.buf.take n })
      | .Ready (.error e) => (some .Dropped, close s (.error (from_error e)))
      | .Pending => if i.finish then (some .Cancelled, s) else (none, s)
  else (some .Dropped, s)

/-- `Drop` for the consumer: `close`, and then what it still holds is dropped. The close
spawns a task for the half instead of dropping it, since a TLS half that is dropped sends no
close_notify. -/
def drop_consumer (s : Sys) : Sys :=
  let s := close s (.ok ())
  { s with gone := true, write := false, result := false, unsent := s.unsent || s.result }

/-! ## The system -/

inductive Act (E : Type) where
  | poll (i : Input E)
  /-- The consumer is dropped: the guest's stream ended, or the host is done with it. -/
  | drop
  /-- A spawned task starts, up to `write.shutdown().await`. -/
  | start
  /-- The shutdown completes, and its task with it. -/
  | finish (result : Except E Unit)

/-- `poll_write` accepts no more than it is offered. -/
def Input.within (i : Input E) : Bool :=
  match i.write with
  | .Ready (.ok n) => n ≤ i.buf.length
  | _ => true

/-- `map_err(ErrorCode::from)`: the verdict of the direction is the half's own error,
converted. -/
def verdict (result : Except E Unit) : Except ErrorCode Unit := result.mapError from_error

def step (s : Sys) : Act E → Option Sys
  | .poll i => if !s.gone && i.within then some (poll_consume from_error s i).2 else none
  | .drop => if s.gone then none else some (drop_consumer s)
  | .start =>
      if s.spawned = 0 then none
      else some { s with spawned := s.spawned - 1, shutting := s.shutting + 1 }
  | .finish result =>
      if s.shutting = 0 then none
      else some { s with
        shutting := s.shutting - 1
        verdicts := s.verdicts ++ [verdict from_error result] }

/-! ## The monitor -/

/-- What happens to the TLS half, in order. The code keeps no such record; the monitor does,
and the contract is a statement about it and the verdict. -/
inductive HalfEvent (E : Type) where
  /-- `poll_write` accepted these bytes. -/
  | write (bytes : List UInt8)
  /-- `poll_write` failed. -/
  | failed (error : E)
  /-- `shutdown` was called. -/
  | shutdown
  /-- It completed. -/
  | closed (result : Except E Unit)
  /-- The half was dropped without it. -/
  | drop

/-- A half that the consumer does not hold any more and no new task holds was dropped. -/
def dropped (s s' : Sys) : List (HalfEvent E) :=
  if s.write = true ∧ s'.write = false ∧ s'.spawned = s.spawned then [.drop] else []

/-- The call of `poll_write` that a poll makes, with what came of it: none on a readiness
probe, and none without the half. -/
def polled (s : Sys) (i : Input E) : List (HalfEvent E) :=
  if s.write = true ∧ i.buf ≠ [] then
    match i.write with
    | .Ready (.ok n) => [.write (i.buf.take n)]
    | .Ready (.error e) => [.failed e]
    | .Pending => []
  else []

/-- What the monitor adds for a step: the calls on the half that the step made, read off the
state before and after. -/
def observe (s : Sys) (a : Act E) (s' : Sys) (half : List (HalfEvent E)) :
    List (HalfEvent E) :=
  match a with
  | .poll i => half ++ polled s i ++ dropped s s'
  | .drop => half ++ dropped s s'
  | .start => half ++ [.shutdown]
  | .finish result => half ++ [.closed result]

/-- The consumer and its task under the monitor. -/
def stepM : Sys × List (HalfEvent E) → Act E → Option (Sys × List (HalfEvent E)) :=
  Lts.monitored (step from_error) observe

/-- It watches every run. -/
theorem watched {acts : List (Act E)} {s : Sys}
    (hrun : Lts.run (step from_error) Sys.init acts = some s) :
    ∃ half, Lts.run (stepM from_error) (Sys.init, []) acts = some (s, half) :=
  Lts.run_monitored [] hrun

/-! ## The contract -/

/-- The bytes the half accepted, in order. -/
def accepted : List (HalfEvent E) → List UInt8
  | [] => []
  | .write bytes :: events => bytes ++ accepted events
  | _ :: events => accepted events

/-- A half that did nothing but accept: these writes. -/
def writes (ws : List (List UInt8)) : List (HalfEvent E) := ws.map .write

/-- **The send verdict is exact**, of a state and what has happened to its half. -/
structure Exact (x : Sys × List (HalfEvent E)) : Prop where
  /-- What is marked as read from the guest is what the half accepted. -/
  marked : x.1.marked = accepted x.2
  at_most_once : x.1.verdicts.length ≤ 1
  /-- Once the consumer is gone and no task is left, the verdict was sent. -/
  delivered : x.1.gone = true → x.1.spawned = 0 → x.1.shutting = 0 →
    ∃ v, x.1.verdicts = [v]
  sender_used : x.1.unsent = false
  /-- The half is shut down once, after the last byte it accepted. -/
  shutdown_last : .shutdown ∈ x.2 → ∃ ws,
    x.2 = writes ws ++ [.shutdown] ∨ ∃ result, x.2 = writes ws ++ [.shutdown, .closed result]
  /-- `Ok` says that no write failed and that the shutdown succeeded. -/
  ok_verdict : x.1.verdicts = [.ok ()] →
    ∃ ws, x.2 = writes ws ++ [.shutdown, .closed (.ok ())]
  /-- After a failed write: the half was dropped without a shutdown, the verdict is that
  error, and no shutdown is running or to come; -/
  failed : ∀ e, .failed e ∈ x.2 →
    (∃ ws, x.2 = writes ws ++ [.failed e, .drop]) ∧
    x.1.verdicts = [.error (from_error e)] ∧ x.1.spawned = 0 ∧ x.1.shutting = 0
  /-- and whatever comes then, the drop of the consumer too, no byte is consumed, no verdict
  sent and no shutdown started. -/
  settled : ∀ e, .failed e ∈ x.2 → ∀ a x', stepM from_error x a = some x' →
    x'.1.marked = x.1.marked ∧ x'.2 = x.2 ∧ x'.1.verdicts = x.1.verdicts ∧
      x'.1.spawned = x.1.spawned

/-! ## The phases -/

/-- A consumer whose half has accepted these writes. -/
def opened (ws : List (List UInt8)) : Sys × List (HalfEvent E) :=
  (⟨true, true, false, 0, 0, [], false, ws.flatten⟩, writes ws)

/-- A consumer whose write failed, dropped or not yet. -/
def failedWith (ws : List (List UInt8)) (e : E) (gone : Bool) : Sys × List (HalfEvent E) :=
  (⟨false, false, gone, 0, 0, [.error (from_error e)], false, ws.flatten⟩,
    writes ws ++ [.failed e, .drop])

/-- A consumer that was dropped open: its task, and what the task has done to the half. -/
def dropping (ws : List (List UInt8)) (spawned shutting : ℕ)
    (verdicts : List (Except ErrorCode Unit)) (events : List (HalfEvent E)) :
    Sys × List (HalfEvent E) :=
  (⟨false, false, true, spawned, shutting, verdicts, false, ws.flatten⟩, writes ws ++ events)

/-- Where a consumer is, with everything that then holds of it. -/
inductive Phase (x : Sys × List (HalfEvent E)) : Prop where
  | active (ws : List (List UInt8)) (hx : x = opened ws)
  | failed (ws : List (List UInt8)) (e : E) (gone : Bool)
      (hx : x = failedWith from_error ws e gone)
  | spawned (ws : List (List UInt8)) (hx : x = dropping ws 1 0 [] [])
  | shutting (ws : List (List UInt8)) (hx : x = dropping ws 0 1 [] [.shutdown])
  | finished (ws : List (List UInt8)) (result : Except E Unit)
      (hx : x = dropping ws 0 0 [verdict from_error result] [.shutdown, .closed result])

/-- A new consumer has accepted nothing yet. -/
theorem phase_init : Phase from_error (Sys.init, ([] : List (HalfEvent E))) := .active [] rfl

variable {from_error}

/-- Accepting more bytes in one call. -/
theorem writes_append (ws : List (List UInt8)) (bytes : List UInt8) :
    (writes ws : List (HalfEvent E)) ++ [.write bytes] = writes (ws ++ [bytes]) := by
  unfold writes
  rw [List.map_append, List.map_singleton]

/-- A poll of an open consumer: more bytes, or the failure that ends it. -/
theorem phase_poll {ws : List (List UInt8)} (i : Input E) :
    let s := (opened ws : Sys × List (HalfEvent E)).1
    let s' := (poll_consume from_error s i).2
    Phase from_error (s', observe s (.poll i) s' (writes ws)) := by
  intro s s'
  by_cases hbuf : i.buf = []
  · refine .active ws ?_
    simp [s', s, opened, poll_consume, observe, polled, dropped, hbuf]
  · rcases hwrite : i.write with _ | (e | n)
    · refine .active ws ?_
      have hsame : s' = s := by
        simp only [s', s, opened, poll_consume, hbuf, hwrite, if_true, if_false]
        split_ifs <;> rfl
      simp [hsame, s, opened, observe, polled, dropped, hwrite]
    · -- `close` takes the half from the consumer and has no task for it
      refine .failed ws e false ?_
      simp [s', s, opened, failedWith, poll_consume, close, observe, polled, dropped, hbuf,
        hwrite]
    · refine .active (ws ++ [i.buf.take n]) ?_
      simp [s', s, opened, poll_consume, observe, polled, dropped, hbuf, hwrite,
        ← writes_append]

/-- Nothing more happens to a consumer whose write failed but that it is dropped. -/
theorem step_failed {x' : Sys × List (HalfEvent E)} {ws : List (List UInt8)} {e : E}
    {gone : Bool} {a : Act E}
    (h : stepM from_error (failedWith from_error ws e gone) a = some x') :
    ∃ gone', x' = failedWith from_error ws e gone' := by
  obtain ⟨s', hstep, rfl⟩ := Lts.monitored_eq_some.mp h
  rcases a with i | _ | _ | result
  · simp only [step, failedWith, poll_consume, Bool.false_eq_true, if_false] at hstep
    split_ifs at hstep
    refine ⟨gone, ?_⟩
    simp [← Option.some.inj hstep, failedWith, observe, polled, dropped]
  · -- what `close` took, `Drop` does not find again
    simp only [step, failedWith, drop_consumer, close, Bool.false_eq_true, if_false] at hstep
    split_ifs at hstep
    refine ⟨true, ?_⟩
    simp [← Option.some.inj hstep, failedWith, observe, dropped]
  · simp [step, failedWith] at hstep
  · simp [step, failedWith] at hstep

/-- A consumer that was dropped is not polled or dropped again. -/
theorem step_dropping {s' : Sys} {ws : List (List UInt8)} {spawned shutting : ℕ}
    {verdicts : List (Except ErrorCode Unit)} {events : List (HalfEvent E)} {a : Act E}
    (h : step from_error (dropping ws spawned shutting verdicts events).1 a = some s') :
    (a = .start ∧ spawned ≠ 0) ∨ ∃ result, a = .finish result ∧ shutting ≠ 0 := by
  rcases a with i | _ | _ | result
  · simp [step, dropping] at h
  · simp [step, dropping] at h
  · refine .inl ⟨rfl, fun hzero => ?_⟩
    simp [step, dropping, hzero] at h
  · refine .inr ⟨result, rfl, fun hzero => ?_⟩
    simp [step, dropping, hzero] at h

/-- Every step leads from one phase to the next. From the two ends no step leads back: the
verdict's sender is gone. -/
theorem phase_step {x x' : Sys × List (HalfEvent E)} {a : Act E} (hi : Phase from_error x)
    (h : stepM from_error x a = some x') : Phase from_error x' := by
  rcases hi with ⟨ws, rfl⟩ | ⟨ws, e, gone, rfl⟩ | ⟨ws, rfl⟩ | ⟨ws, rfl⟩ | ⟨ws, result, rfl⟩
  · obtain ⟨s', hstep, rfl⟩ := Lts.monitored_eq_some.mp h
    rcases a with i | _ | _ | result
    · simp only [step] at hstep
      split_ifs at hstep
      rw [← Option.some.inj hstep]
      exact phase_poll i
    · -- the consumer is dropped open: the half goes into the shutdown task
      refine .spawned ws ?_
      simp only [step, opened, drop_consumer, close, Bool.false_eq_true, if_false, if_true,
        Option.some.injEq] at hstep
      simp [← hstep, opened, dropping, observe, dropped]
    · simp [step, opened] at hstep
    · simp [step, opened] at hstep
  · obtain ⟨gone', hx⟩ := step_failed h
    exact .failed ws e gone' hx
  · obtain ⟨s', hstep, rfl⟩ := Lts.monitored_eq_some.mp h
    rcases step_dropping hstep with ⟨rfl, -⟩ | ⟨-, -, hnone⟩
    · refine .shutting ws ?_
      simp only [step, dropping, Nat.one_ne_zero, if_false, Option.some.injEq] at hstep
      simp [← hstep, dropping, observe]
    · exact absurd rfl hnone
  · obtain ⟨s', hstep, rfl⟩ := Lts.monitored_eq_some.mp h
    rcases step_dropping hstep with ⟨-, hnone⟩ | ⟨result, rfl, -⟩
    · exact absurd rfl hnone
    · refine .finished ws result ?_
      simp only [step, dropping, Nat.one_ne_zero, if_false, Option.some.injEq] at hstep
      simp [← hstep, dropping, observe]
  · obtain ⟨s', hstep, rfl⟩ := Lts.monitored_eq_some.mp h
    rcases step_dropping hstep with ⟨-, hnone⟩ | ⟨-, -, hnone⟩ <;> exact absurd rfl hnone

/-! ## What the phases say -/

theorem accepted_append (l₁ l₂ : List (HalfEvent E)) :
    accepted (l₁ ++ l₂) = accepted l₁ ++ accepted l₂ := by
  induction l₁ with
  | nil => rfl
  | cons event l ih =>
      rcases event with _ | _ | _ | _ | _ <;> simp [accepted, ih]

theorem accepted_writes (ws : List (List UInt8)) :
    accepted (writes ws : List (HalfEvent E)) = ws.flatten := by
  induction ws with
  | nil => rfl
  | cons bytes ws ih =>
      show bytes ++ accepted (writes ws) = bytes ++ ws.flatten
      rw [ih]

/-- A half that did nothing but accept did not fail, and was not shut down. -/
theorem not_mem_writes {event : HalfEvent E} (hevent : ∀ bytes, event ≠ .write bytes)
    (ws : List (List UInt8)) : event ∉ writes ws := by
  intro hmem
  obtain ⟨bytes, -, heq⟩ := List.mem_map.mp hmem
  exact hevent bytes heq.symm

/-- The phase of a consumer whose write failed. -/
theorem failed_of_mem {x : Sys × List (HalfEvent E)} {e : E} (hi : Phase from_error x)
    (h : .failed e ∈ x.2) : ∃ ws gone, x = failedWith from_error ws e gone := by
  have hnot := @not_mem_writes E (.failed e) (by simp)
  rcases hi with ⟨ws, rfl⟩ | ⟨ws, e', gone, rfl⟩ | ⟨ws, rfl⟩ | ⟨ws, rfl⟩ | ⟨ws, result, rfl⟩
  · exact absurd h (hnot ws)
  · have heq : e = e' := by
      simpa [failedWith, hnot] using h
    rw [heq]
    exact ⟨ws, gone, rfl⟩
  · exact absurd h (by simp [dropping, hnot])
  · exact absurd h (by simp [dropping, hnot])
  · exact absurd h (by simp [dropping, hnot])

theorem shutdown_last_of_phase {x : Sys × List (HalfEvent E)} (hi : Phase from_error x)
    (h : .shutdown ∈ x.2) : ∃ ws, x.2 = writes ws ++ [.shutdown] ∨
      ∃ result, x.2 = writes ws ++ [.shutdown, .closed result] := by
  have hnot := @not_mem_writes E .shutdown (by simp)
  rcases hi with ⟨ws, rfl⟩ | ⟨ws, e, gone, rfl⟩ | ⟨ws, rfl⟩ | ⟨ws, rfl⟩ | ⟨ws, result, rfl⟩
  · exact absurd h (hnot ws)
  · exact absurd h (by simp [failedWith, hnot])
  · exact absurd h (by simp [dropping, hnot])
  · exact ⟨ws, .inl rfl⟩
  · exact ⟨ws, .inr ⟨result, rfl⟩⟩

/-- Each phase says what the verdict is and what became of the half, which is the
contract. -/
theorem exact_of_phase {x : Sys × List (HalfEvent E)} (hi : Phase from_error x) :
    Exact from_error x where
  marked := by
    rcases hi with ⟨ws, rfl⟩ | ⟨ws, e, gone, rfl⟩ | ⟨ws, rfl⟩ | ⟨ws, rfl⟩ | ⟨ws, result, rfl⟩ <;>
      simp [opened, failedWith, dropping, accepted_append, accepted_writes, accepted]
  at_most_once := by
    rcases hi with ⟨ws, rfl⟩ | ⟨ws, e, gone, rfl⟩ | ⟨ws, rfl⟩ | ⟨ws, rfl⟩ | ⟨ws, result, rfl⟩ <;>
      simp [opened, failedWith, dropping]
  delivered := by
    rcases hi with ⟨ws, rfl⟩ | ⟨ws, e, gone, rfl⟩ | ⟨ws, rfl⟩ | ⟨ws, rfl⟩ | ⟨ws, result, rfl⟩ <;>
      simp [opened, failedWith, dropping]
  sender_used := by
    rcases hi with ⟨ws, rfl⟩ | ⟨ws, e, gone, rfl⟩ | ⟨ws, rfl⟩ | ⟨ws, rfl⟩ | ⟨ws, result, rfl⟩ <;>
      rfl
  shutdown_last := shutdown_last_of_phase hi
  ok_verdict := by
    intro hok
    rcases hi with ⟨ws, rfl⟩ | ⟨ws, e, gone, rfl⟩ | ⟨ws, rfl⟩ | ⟨ws, rfl⟩ | ⟨ws, result, rfl⟩
    · exact absurd hok (by simp [opened])
    · exact absurd hok (by simp [failedWith])
    · exact absurd hok (by simp [dropping])
    · exact absurd hok (by simp [dropping])
    · rcases result with e | u
      · exact absurd hok (by simp [dropping, verdict, Except.mapError])
      · exact ⟨ws, rfl⟩
  failed := by
    intro e h
    obtain ⟨ws, gone, rfl⟩ := failed_of_mem hi h
    exact ⟨⟨ws, rfl⟩, rfl, rfl, rfl⟩
  settled := by
    intro e h a x' hstep
    obtain ⟨ws, gone, rfl⟩ := failed_of_mem hi h
    obtain ⟨gone', rfl⟩ := step_failed hstep
    exact ⟨rfl, rfl, rfl, rfl⟩

end

/-- **The send verdict is exact**, for every sequence of polls with any results of the half,
finish flags and probes, wherever the consumer is dropped, and every way its shutdown task
runs. -/
theorem send_verdict_is_exact {E : Type} (from_error : E → ErrorCode) (acts : List (Act E)) :
    Lts.Always (stepM from_error) (Exact from_error) (Sys.init, []) acts :=
  Lts.always_of_invariant (phase_init from_error) phase_step exact_of_phase

end PolymorphTls.SendConsumer

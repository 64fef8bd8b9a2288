/-
The two-phase connect of a WASI 0.2 tunnel (`tls-virt-wasmtime/src/p2.rs`): the handshake
task `start_connect` spawns, `finish_connect`, and the pollables `subscribe` gives out.

The outcome travels in two steps. The task puts it in a slot behind a mutex and only then
sets a watch; a pollable waits for the watch, `finish_connect` looks into the slot. So a
ready pollable means a stored outcome, and the outcome is either still in the slot or was
taken by an earlier `finish_connect`, which also left the tunnel connected or failed. A
second taker is turned away by the tunnel's state before it looks into the slot.

`HostSocket` folds slot and watch into the tunnel's entry. Here they are cells of their own,
since a pollable keeps its receiver when the entry is replaced; [`Sys.toSocket`] folds them
back, and the calls are those of `HostSocket` on what it gives (the section at the end).

## What would-block means

`finish_connect` reports would-block for an empty slot, and it reports the handshake's own
error code as it is. The code may itself be would-block, if the conversion of an I/O error
gives that; then a call that consumes the outcome says would-block too, and a later one
not-in-progress. This is the one reading of would-block that survives a ready pollable.
-/
import PolymorphTls.Store

set_option autoImplicit false

namespace PolymorphTls.TunnelConnect

open HostSocket (Socket P2Tunnel Answer answer)

/-! ## The handshake task -/

/-- What the task delivers, of `TlsParts` the local address: the halves are there once. -/
abbrev HandshakeOutcome := Except ErrorCode (Option SocketAddr)

/-- The body of the task: the address check, the transport's connect, the server name and
the TLS handshake, each with what it answered. -/
def handshake {E : Type} (from_error : E → ErrorCode) (allowed : Bool)
    (dialed : Except E (Option SocketAddr)) (validName : Bool) (tls : Except E Unit) :
    HandshakeOutcome :=
  if !allowed then .error .AccessDenied
  else
    match dialed with
    | .error e => .error (from_error e)
    | .ok local_addr =>
        if !validName then .error .InvalidArgument
        else
          match tls with
          | .error _ => .error .ConnectionReset
          | .ok () => .ok local_addr

/-- Where the task is. The outcome is stored before the watch is set, and the two are
separate steps on another thread: the property below stands or falls with their order. -/
inductive Task where
  /-- Not spawned yet. -/
  | idle
  | running
  /-- The outcome is in the slot. -/
  | stored
  /-- The watch is set. -/
  | signalled
  /-- Ended; its sender is dropped. -/
  | ended
  deriving DecidableEq, Repr

/-! ## The socket -/

/-- The socket's entry in `p2_tunnels`; its slot and its watch are in [`Sys`], since the
task holds them too. -/
inductive Tunnel where
  | Connecting (remote : IpSocketAddress)
  | Connected (remote : IpSocketAddress) (local_addr : Option SocketAddr)
  | Failed
  deriving DecidableEq

/-- A pollable, by the watch its receiver is of. It outlives the phase it was given out
in. -/
inductive Pollable where
  /-- The task's. -/
  | task
  /-- A fresh one, set from the start. -/
  | fresh
  deriving DecidableEq, Repr

inductive ShutdownType where
  | Send
  | Receive
  | Both
  deriving DecidableEq, Repr

/-- A socket with its task and what was handed out for it. -/
structure Sys where
  /-- `p2_tunnels[rep]`. -/
  tunnel : Option Tunnel
  task : Task
  /-- `result`: the slot the task and the entry share. -/
  slot : Option HandshakeOutcome
  /-- The value of the watch. -/
  done : Bool
  pollables : List Pollable
  /-- The writer tasks spawned, and the stream pairs handed out. -/
  write_tasks : ℕ
  pairs : ℕ
  /-- The shutdowns passed on to the streams. -/
  shutdowns : List ShutdownType
  /-- Ghost: the outcome the task stored. -/
  outcome : Option HandshakeOutcome
  /-- Ghost: what the `finish_connect` calls of the tunnel returned, oldest first. -/
  finishes : List (Except ErrorCode Unit)
  deriving DecidableEq

/-- A socket just created. -/
def Sys.init : Sys := ⟨none, .idle, none, false, [], 0, 0, [], none, []⟩

/-! ## The calls

A call on a socket without an entry is delegated; its result is then `none` here. -/

/-- `start_connect` to a handle. It spawns the task and inserts the entry in one step;
nothing of the handshake has happened when it returns. -/
def start_connect (names : HandleTable) (s : Sys) (remote : IpSocketAddress) :
    Option (Except ErrorCode Unit) × Sys :=
  match lookup_handle names remote with
  | none => (none, s)
  | some (_, addrs, port) =>
      if s.tunnel.isSome then (some (.error .InvalidState), s)
      else
        match pick_addr addrs port with
        | none => (some (.error .RemoteUnreachable), s)
        | some _ =>
            (some (.ok ()), { s with
              tunnel := some (.Connecting remote)
              task := .running
              slot := none
              done := false })

/-- `finish_connect`. What the slot holds decides, never the watch: a guest that does not
wait is told to. -/
def finish_connect (s : Sys) : Option (Except ErrorCode Unit) × Sys :=
  match s.tunnel with
  | none => (none, s)
  | some (.Connecting remote) =>
      match s.slot with
      | none => (some (.error .WouldBlock), s)
      -- `take()`: the slot is empty from here on
      | some (.error code) =>
          (some (.error code), { s with slot := none, tunnel := some .Failed })
      | some (.ok local_addr) =>
          (some (.ok ()), { s with
            slot := none
            tunnel := some (.Connected remote local_addr)
            write_tasks := s.write_tasks + 1
            pairs := s.pairs + 1 })
  | some _ => (some (.error .NotInProgress), s)

/-- `subscribe`. A failed tunnel has no watch any more and gives out one that is set. -/
def subscribe (s : Sys) : Option Pollable :=
  match s.tunnel with
  | none => none
  | some (.Connecting _) => some .task
  | some (.Connected _ _) => some .task
  | some .Failed => some .fresh

/-- `TunnelReady::ready` returns: the watch is set, or its sender is gone. -/
def Pollable.is_ready (s : Sys) : Pollable → Bool
  | .task => s.done || s.task = .ended
  | .fresh => true

/-- `shutdown`, which only a connected tunnel passes on. -/
def shutdown (s : Sys) (how : ShutdownType) : Option (Except ErrorCode Unit) × Sys :=
  match s.tunnel with
  | none => (none, s)
  | some (.Connected _ _) => (some (.ok ()), { s with shutdowns := s.shutdowns ++ [how] })
  | some _ => (some (.error .InvalidState), s)

/-! ## The system -/

/-- The calls on the socket, and the steps of the task. -/
inductive Act (E : Type) where
  /-- `start_connect`, under the handles there are by then. -/
  | start_connect (names : HandleTable) (remote : IpSocketAddress)
  /-- The handshake is over, and its outcome stored. -/
  | store (allowed : Bool) (dialed : Except E (Option SocketAddr)) (validName : Bool)
      (tls : Except E Unit)
  /-- `done_tx.send(true)`. -/
  | signal
  | exit
  | finish_connect
  | subscribe
  /-- A wait on a pollable that was given out returns. -/
  | ready (p : Pollable)
  | local_address
  | remote_address
  | shutdown (how : ShutdownType)

section

variable {E : Type} (from_error : E → ErrorCode)

def step (s : Sys) : Act E → Option Sys
  | .start_connect names remote => some (start_connect names s remote).2
  | .store allowed dialed validName tls =>
      if s.task = .running then
        let outcome := handshake from_error allowed dialed validName tls
        some { s with task := .stored, slot := some outcome, outcome := some outcome }
      else none
  | .signal => if s.task = .stored then some { s with task := .signalled, done := true } else none
  | .exit => if s.task = .signalled then some { s with task := .ended } else none
  | .finish_connect =>
      let (result, s') := finish_connect s
      some { s' with finishes := s.finishes ++ result.toList }
  | .subscribe => some { s with pollables := s.pollables ++ (subscribe s).toList }
  | .ready p => if p ∈ s.pollables ∧ p.is_ready s then some s else none
  -- `Store.local_address` and `Store.remote_address`: they read the entry
  | .local_address => some s
  | .remote_address => some s
  | .shutdown how => some (shutdown s how).2

end

/-! ## The contract -/

/-- What `finish_connect` makes of an outcome. -/
def result (outcome : HandshakeOutcome) : Except ErrorCode Unit := outcome.map fun _ => ()

/-- No outcome was taken: each `finish_connect` so far was told to wait. -/
structure Waiting (s : Sys) : Prop where
  finishes : ∀ r ∈ s.finishes, r = .error .WouldBlock
  write_tasks : s.write_tasks = 0
  pairs : s.pairs = 0

/-- The outcome was taken by one `finish_connect`: those before it were told to wait, those
after it that nothing is in progress. A success gave the guest its streams and started their
writer task. -/
structure Consumed (s : Sys) (outcome : HandshakeOutcome) : Prop where
  stored : s.outcome = some outcome
  finishes : ∃ before after, s.finishes = before ++ result outcome :: after ∧
    (∀ r ∈ before, r = .error .WouldBlock) ∧ ∀ r ∈ after, r = .error .NotInProgress
  write_tasks : s.write_tasks = if outcome.isOk then 1 else 0
  pairs : s.pairs = if outcome.isOk then 1 else 0

/-- **The two-phase connect**, in one state. That an outcome was consumed is seen in what
the calls before returned, so each state carries their list. -/
structure TwoPhase (s : Sys) : Prop where
  /-- Before the outcome is stored, `finish_connect` says would-block and changes nothing. -/
  waits : s.task = .running → finish_connect s = (some (.error .WouldBlock), s)
  /-- The outcome waits for one `finish_connect`, or was taken by one and every other finds
  nothing in progress. -/
  once : Waiting s ∧ (∀ outcome, s.outcome = some outcome →
        (finish_connect s).1 = some (result outcome))
    ∨ ∃ outcome, Consumed s outcome ∧
        finish_connect s = (some (.error .NotInProgress), s)
  /-- A further `start_connect` to a handle is refused. -/
  one_start : s.tunnel.isSome = true → ∀ names remote, HostSocket.isHandle names remote = true →
    start_connect names s remote = (some (.error .InvalidState), s)
  /-- A ready pollable means an outcome: would-block is then the handshake's own code. -/
  ready : ∀ p ∈ s.pollables, p.is_ready s = true →
    (finish_connect s).1 = some (.error .WouldBlock) →
      s.outcome = some (.error .WouldBlock) ∧ (finish_connect s).2.tunnel = some .Failed

/-! ## The calls, case by case -/

theorem finish_connect_unstarted {s : Sys} (ht : s.tunnel = none) :
    finish_connect s = (none, s) := by
  unfold finish_connect
  rw [ht]

/-- An empty slot is a would-block, and nothing changes. -/
theorem finish_connect_waits {s : Sys} {remote : IpSocketAddress}
    (ht : s.tunnel = some (.Connecting remote)) (hslot : s.slot = none) :
    finish_connect s = (some (.error .WouldBlock), s) := by
  unfold finish_connect
  rw [ht, hslot]

/-- An error is handed on as it is, once. -/
theorem finish_connect_fails {s : Sys} {remote : IpSocketAddress} {code : ErrorCode}
    (ht : s.tunnel = some (.Connecting remote)) (hslot : s.slot = some (.error code)) :
    finish_connect s = (some (.error code), { s with slot := none, tunnel := some .Failed }) := by
  unfold finish_connect
  rw [ht, hslot]

/-- A success starts the writer task, and hands the streams out. -/
theorem finish_connect_connects {s : Sys} {remote : IpSocketAddress}
    {local_addr : Option SocketAddr} (ht : s.tunnel = some (.Connecting remote))
    (hslot : s.slot = some (.ok local_addr)) :
    finish_connect s = (some (.ok ()), { s with
      slot := none
      tunnel := some (.Connected remote local_addr)
      write_tasks := s.write_tasks + 1
      pairs := s.pairs + 1 }) := by
  unfold finish_connect
  rw [ht, hslot]

/-- The other two phases have nothing in progress. -/
theorem finish_connect_late {s : Sys}
    (ht : (∃ remote l, s.tunnel = some (.Connected remote l)) ∨ s.tunnel = some .Failed) :
    finish_connect s = (some (.error .NotInProgress), s) := by
  unfold finish_connect
  rcases ht with ⟨remote, l, ht⟩ | ht
  · rw [ht]
  · rw [ht]

/-- A `start_connect` on a socket that has its entry changes nothing. -/
theorem start_connect_of_some {names : HandleTable} {s : Sys} {remote : IpSocketAddress}
    (hsome : s.tunnel.isSome = true) : (start_connect names s remote).2 = s := by
  unfold start_connect
  split
  · rfl
  · rw [if_pos hsome]

/-- On one that has none it begins, or changes nothing. -/
theorem start_connect_of_none {names : HandleTable} {s : Sys} {remote : IpSocketAddress}
    (hnone : s.tunnel = none) :
    (start_connect names s remote).2 = s ∨
      (start_connect names s remote).2 = { s with
        tunnel := some (.Connecting remote)
        task := .running
        slot := none
        done := false } := by
  unfold start_connect
  split
  · exact .inl rfl
  · rw [if_neg (by rw [hnone]; simp)]
    split
    · exact .inl rfl
    · exact .inr rfl

/-! ## The invariant -/

/-- The task's steps, as its cells show them. -/
structure TaskInv (s : Sys) : Prop where
  outcome : s.outcome = none ↔ s.task = .idle ∨ s.task = .running
  done : s.done = true → s.task = .signalled ∨ s.task = .ended

/-- Where the connect is, with everything that then holds of it. -/
inductive Phase (s : Sys) : Prop where
  | unstarted (htunnel : s.tunnel = none) (htask : s.task = .idle) (hwaiting : Waiting s)
      (hpoll : s.pollables = [])
  /-- The slot holds the outcome from when it is stored. -/
  | waiting (remote : IpSocketAddress) (htunnel : s.tunnel = some (.Connecting remote))
      (htask : s.task ≠ .idle) (hslot : s.slot = s.outcome) (hwaiting : Waiting s)
      (hpoll : .fresh ∉ s.pollables)
  | connected (remote : IpSocketAddress) (local_addr : Option SocketAddr)
      (htunnel : s.tunnel = some (.Connected remote local_addr))
      (hconsumed : Consumed s (.ok local_addr))
  | failed (code : ErrorCode) (htunnel : s.tunnel = some .Failed)
      (hconsumed : Consumed s (.error code))

/-- The task and the phase, beside each other. -/
structure Inv (s : Sys) : Prop where
  task : TaskInv s
  phase : Phase s

/-- Nothing was started. -/
theorem inv_init : Inv Sys.init where
  task := ⟨by simp [Sys.init], by simp [Sys.init]⟩
  phase := .unstarted rfl rfl ⟨by simp [Sys.init], rfl, rfl⟩ rfl

/-! ## Preservation -/

/-- A step that leaves the counts and the answers. -/
theorem Waiting.frame {s s' : Sys} (h : Waiting s) (hfinishes : s'.finishes = s.finishes)
    (htasks : s'.write_tasks = s.write_tasks) (hpairs : s'.pairs = s.pairs) : Waiting s' := by
  refine ⟨?_, ?_, ?_⟩
  · rw [hfinishes]
    exact h.finishes
  · rw [htasks]
    exact h.write_tasks
  · rw [hpairs]
    exact h.pairs

/-- The same after the outcome was taken. -/
theorem Consumed.frame {s s' : Sys} {o : HandshakeOutcome} (h : Consumed s o)
    (houtcome : s'.outcome = s.outcome) (hfinishes : s'.finishes = s.finishes)
    (htasks : s'.write_tasks = s.write_tasks) (hpairs : s'.pairs = s.pairs) : Consumed s' o := by
  refine ⟨?_, ?_, ?_, ?_⟩
  · rw [houtcome]
    exact h.stored
  · rw [hfinishes]
    exact h.finishes
  · rw [htasks]
    exact h.write_tasks
  · rw [hpairs]
    exact h.pairs

/-- What was taken had been stored. -/
theorem Consumed.stored_ne_none {s : Sys} {o : HandshakeOutcome} (h : Consumed s o) :
    s.outcome ≠ none := by
  rw [h.stored]
  simp

/-- A step that touches neither the entry nor the slot, and no count: at most the task moves
on, or a pollable that fits the entry is given out. -/
theorem Phase.frame {s s' : Sys} (hi : Phase s) (htunnel : s'.tunnel = s.tunnel)
    (hslot : s'.slot = s.slot) (houtcome : s'.outcome = s.outcome)
    (hfinishes : s'.finishes = s.finishes) (htasks : s'.write_tasks = s.write_tasks)
    (hpairs : s'.pairs = s.pairs) (htask : s'.task = .idle ↔ s.task = .idle)
    (hpoll : s'.pollables = s.pollables ++ (subscribe s).toList ∨ s'.pollables = s.pollables) :
    Phase s' := by
  rcases hi with ⟨ht, hidle, hw, hp⟩ | ⟨remote, ht, hidle, hs, hw, hp⟩ | ⟨remote, l, ht, hc⟩ |
    ⟨code, ht, hc⟩
  · refine .unstarted (htunnel.trans ht) (htask.mpr hidle) (hw.frame hfinishes htasks hpairs) ?_
    rcases hpoll with hpoll | hpoll
    · rw [hpoll, subscribe, ht, hp]
      rfl
    · rw [hpoll, hp]
  · refine .waiting remote (htunnel.trans ht) (fun h => hidle (htask.mp h))
      (hslot.trans (hs.trans houtcome.symm)) (hw.frame hfinishes htasks hpairs) ?_
    rcases hpoll with hpoll | hpoll
    · rw [hpoll, subscribe, ht]
      simp [hp]
    · rw [hpoll]
      exact hp
  · exact .connected remote l (htunnel.trans ht) (hc.frame houtcome hfinishes htasks hpairs)
  · exact .failed code (htunnel.trans ht) (hc.frame houtcome hfinishes htasks hpairs)

/-- Before an outcome is stored the connect is waiting for it. -/
theorem waiting_of_running {s : Sys} (hi : Inv s) (hrun : s.task = .running) :
    ∃ remote, s.tunnel = some (.Connecting remote) ∧ s.slot = none ∧ Waiting s ∧
      .fresh ∉ s.pollables := by
  have hnone : s.outcome = none := hi.task.outcome.mpr (.inr hrun)
  rcases hi.phase with ⟨-, hidle, -, -⟩ | ⟨remote, ht, -, hs, hw, hp⟩ | ⟨_, _, -, hc⟩ |
    ⟨_, -, hc⟩
  · rw [hrun] at hidle
    exact absurd hidle (by simp)
  · exact ⟨remote, ht, hs.trans hnone, hw, hp⟩
  · exact absurd hnone hc.stored_ne_none
  · exact absurd hnone hc.stored_ne_none

/-- A `finish_connect` that comes too late adds one more refusal. -/
theorem Consumed.again {s : Sys} {o : HandshakeOutcome} (h : Consumed s o) :
    Consumed { s with finishes := s.finishes ++ [.error .NotInProgress] } o := by
  obtain ⟨before, after, hsplit, hbefore, hafter⟩ := h.finishes
  refine ⟨h.stored, ⟨before, after ++ [.error .NotInProgress], ?_, hbefore, ?_⟩, h.write_tasks,
    h.pairs⟩
  · show s.finishes ++ _ = _
    rw [hsplit, List.append_assoc, List.cons_append]
  · intro r hr
    rcases List.mem_append.mp hr with hr | hr
    · exact hafter r hr
    · exact List.mem_singleton.mp hr

/-- The `finish_connect` that takes the outcome: the phase ends with its answer. -/
theorem Waiting.takes {s s' : Sys} {o : HandshakeOutcome} (h : Waiting s)
    (houtcome : s'.outcome = some o) (hfinishes : s'.finishes = s.finishes ++ [result o])
    (htasks : s'.write_tasks = if o.isOk then 1 else 0)
    (hpairs : s'.pairs = if o.isOk then 1 else 0) : Consumed s' o :=
  ⟨houtcome, ⟨s.finishes, [], hfinishes, h.finishes, by simp⟩, htasks, hpairs⟩

/-- A `finish_connect`, by the phase it is called in. -/
theorem inv_finish_connect {s : Sys} (hi : Inv s) :
    Inv { (finish_connect s).2 with
      finishes := s.finishes ++ (finish_connect s).1.toList } := by
  have htask := hi.task
  rcases hi.phase with ⟨ht, hidle, hw, hp⟩ | ⟨remote, ht, hidle, hs, hw, hp⟩ |
    ⟨remote, l, ht, hc⟩ | ⟨code, ht, hc⟩
  · rw [finish_connect_unstarted ht, Option.toList_none, List.append_nil]
    exact hi
  · rcases hslot : s.slot with _ | (code | l)
    · rw [finish_connect_waits ht hslot]
      refine ⟨⟨htask.outcome, htask.done⟩,
        .waiting remote ht hidle hs ⟨?_, hw.write_tasks, hw.pairs⟩ hp⟩
      intro r hr
      rcases List.mem_append.mp hr with hr | hr
      · exact hw.finishes r hr
      · exact List.mem_singleton.mp hr
    · rw [finish_connect_fails ht hslot]
      refine ⟨⟨htask.outcome, htask.done⟩, .failed code rfl (hw.takes ?_ rfl ?_ ?_)⟩
      · exact hs.symm.trans hslot
      · exact hw.write_tasks
      · exact hw.pairs
    · rw [finish_connect_connects ht hslot]
      refine ⟨⟨htask.outcome, htask.done⟩, .connected remote l rfl (hw.takes ?_ rfl ?_ ?_)⟩
      · exact hs.symm.trans hslot
      · show s.write_tasks + 1 = 1
        rw [hw.write_tasks]
      · show s.pairs + 1 = 1
        rw [hw.pairs]
  · rw [finish_connect_late (.inl ⟨remote, l, ht⟩)]
    exact ⟨⟨htask.outcome, htask.done⟩, .connected remote l ht hc.again⟩
  · rw [finish_connect_late (.inr ht)]
    exact ⟨⟨htask.outcome, htask.done⟩, .failed code ht hc.again⟩

/-- A `start_connect`, which is refused in every phase but the first. -/
theorem inv_start_connect {s : Sys} (names : HandleTable) (remote : IpSocketAddress)
    (hi : Inv s) : Inv (start_connect names s remote).2 := by
  rcases hi.phase with ⟨ht, hidle, hw, hp⟩ | ⟨_, ht, -⟩ | ⟨_, _, ht, -⟩ | ⟨_, ht, -⟩
  · have hnone : s.outcome = none := hi.task.outcome.mpr (.inl hidle)
    rcases @start_connect_of_none names s remote ht with heq | heq
    · rw [heq]
      exact hi
    · rw [heq]
      refine ⟨⟨by simp [hnone], by simp⟩,
        .waiting remote rfl (by simp) hnone.symm (hw.frame rfl rfl rfl) ?_⟩
      show .fresh ∉ s.pollables
      rw [hp]
      exact List.not_mem_nil
  · rw [start_connect_of_some (by rw [ht]; rfl)]
    exact hi
  · rw [start_connect_of_some (by rw [ht]; rfl)]
    exact hi
  · rw [start_connect_of_some (by rw [ht]; rfl)]
    exact hi

/-- A `shutdown` changes no more than what it passes on. -/
theorem shutdown_frame (s : Sys) (how : ShutdownType) :
    ∃ shutdowns, (shutdown s how).2 = { s with shutdowns } := by
  unfold shutdown
  split
  · exact ⟨s.shutdowns, rfl⟩
  · exact ⟨_, rfl⟩
  · exact ⟨s.shutdowns, rfl⟩

/-- Every step, by what it is of the task and of the calls. -/
theorem inv_step {E : Type} {from_error : E → ErrorCode} {s s' : Sys} {a : Act E} (hi : Inv s)
    (h : step from_error s a = some s') : Inv s' := by
  have htask := hi.task
  rcases a with ⟨names, remote⟩ | ⟨allowed, dialed, validName, tls⟩ | _ | _ | _ | _ | p | _ | _ |
    how
  · rw [← Option.some.inj h]
    exact inv_start_connect names remote hi
  · simp only [step] at h
    split_ifs at h with hrun
    obtain ⟨remote, ht, -, hw, hp⟩ := waiting_of_running hi hrun
    rw [← Option.some.inj h]
    refine ⟨⟨by simp, ?_⟩, .waiting remote ht (by simp) rfl (hw.frame rfl rfl rfl) hp⟩
    intro hdone
    rcases htask.done hdone with hbad | hbad
    · rw [hrun] at hbad
      exact absurd hbad (by simp)
    · rw [hrun] at hbad
      exact absurd hbad (by simp)
  · simp only [step] at h
    split_ifs at h with hstored
    rw [← Option.some.inj h]
    refine ⟨⟨?_, fun _ => .inl rfl⟩,
      hi.phase.frame rfl rfl rfl rfl rfl rfl (by simp [hstored]) (.inr rfl)⟩
    simpa [hstored] using htask.outcome
  · simp only [step] at h
    split_ifs at h with hsignalled
    rw [← Option.some.inj h]
    refine ⟨⟨?_, fun _ => .inr rfl⟩,
      hi.phase.frame rfl rfl rfl rfl rfl rfl (by simp [hsignalled]) (.inr rfl)⟩
    simpa [hsignalled] using htask.outcome
  · rw [← Option.some.inj h]
    exact inv_finish_connect hi
  · rw [← Option.some.inj h]
    exact ⟨⟨htask.outcome, htask.done⟩,
      hi.phase.frame rfl rfl rfl rfl rfl rfl Iff.rfl (.inl rfl)⟩
  · simp only [step] at h
    split_ifs at h
    rw [← Option.some.inj h]
    exact hi
  · rw [← Option.some.inj h]
    exact hi
  · rw [← Option.some.inj h]
    exact hi
  · obtain ⟨shutdowns, heq⟩ := shutdown_frame s how
    rw [← Option.some.inj h, heq]
    exact ⟨⟨htask.outcome, htask.done⟩,
      hi.phase.frame rfl rfl rfl rfl rfl rfl Iff.rfl (.inr rfl)⟩

/-! ## What it gives -/

/-- While the outcome waits, the next `finish_connect` answers with it. -/
theorem finish_connect_of_stored {s : Sys} {remote : IpSocketAddress} {o : HandshakeOutcome}
    (ht : s.tunnel = some (.Connecting remote)) (hslot : s.slot = some o) :
    (finish_connect s).1 = some (result o) := by
  rcases o with code | l
  · rw [finish_connect_fails ht hslot]
    rfl
  · rw [finish_connect_connects ht hslot]
    rfl

/-- Either the outcome waits, or it was taken. -/
theorem once_of_inv {s : Sys} (hi : Inv s) :
    Waiting s ∧ (∀ outcome, s.outcome = some outcome →
        (finish_connect s).1 = some (result outcome))
      ∨ ∃ outcome, Consumed s outcome ∧
        finish_connect s = (some (.error .NotInProgress), s) := by
  rcases hi.phase with ⟨ht, hidle, hw, -⟩ | ⟨remote, ht, -, hs, hw, -⟩ | ⟨remote, l, ht, hc⟩ |
    ⟨code, ht, hc⟩
  · refine .inl ⟨hw, ?_⟩
    intro outcome houtcome
    rw [hi.task.outcome.mpr (.inl hidle)] at houtcome
    exact absurd houtcome (by simp)
  · refine .inl ⟨hw, ?_⟩
    intro outcome houtcome
    exact finish_connect_of_stored ht (hs.trans houtcome)
  · exact .inr ⟨_, hc, finish_connect_late (.inl ⟨remote, l, ht⟩)⟩
  · exact .inr ⟨_, hc, finish_connect_late (.inr ht)⟩

/-- The signal comes after the outcome, so whoever sees it finds the outcome stored. -/
theorem TaskInv.stored {s : Sys} (h : TaskInv s) (hdone : s.done = true ∨ s.task = .ended) :
    s.outcome ≠ none := by
  have htask : s.task = .signalled ∨ s.task = .ended := by
    rcases hdone with hd | he
    · exact h.done hd
    · exact .inr he
  rw [ne_eq, h.outcome]
  rcases htask with ht | ht
  · rw [ht]
    simp
  · rw [ht]
    simp

/-- A pollable that is ready was signalled. -/
theorem stored_of_ready {s : Sys} (hi : Inv s) {p : Pollable} (hp : p ∈ s.pollables)
    (hready : p.is_ready s = true) : s.outcome ≠ none := by
  rcases p with _ | _
  · apply hi.task.stored
    simpa [Pollable.is_ready] using hready
  · rcases hi.phase with ⟨-, -, -, hnil⟩ | ⟨_, -, -, -, -, hno⟩ | ⟨_, _, -, hc⟩ | ⟨_, -, hc⟩
    · rw [hnil] at hp
      exact absurd hp List.not_mem_nil
    · exact absurd hp hno
    · exact hc.stored_ne_none
    · exact hc.stored_ne_none

/-- The contract, clause by clause from the phase. -/
theorem twoPhase_of_inv {s : Sys} (hi : Inv s) : TwoPhase s where
  waits := by
    intro hrun
    obtain ⟨remote, ht, hslot, -⟩ := waiting_of_running hi hrun
    exact finish_connect_waits ht hslot
  once := once_of_inv hi
  one_start := by
    intro hsome names remote hhandle
    unfold start_connect
    unfold HostSocket.isHandle at hhandle
    rcases hlookup : lookup_handle names remote with _ | ⟨hostname, addrs, port⟩
    · rw [hlookup] at hhandle
      exact absurd hhandle (by simp)
    · simp only [hsome, if_true]
  ready := by
    intro p hp hready hblock
    have hstored := stored_of_ready hi hp hready
    rcases hi.phase with ⟨ht, -, -, -⟩ | ⟨remote, ht, -, hs, -, -⟩ | ⟨remote, l, ht, -⟩ |
      ⟨code, ht, -⟩
    · rw [finish_connect_unstarted ht] at hblock
      exact absurd hblock (by simp)
    · rcases hslot : s.slot with _ | (code | l)
      · exact absurd (hs.symm.trans hslot) hstored
      · rw [finish_connect_fails ht hslot] at hblock ⊢
        simp only [Option.some.injEq, Except.error.injEq] at hblock
        rw [← hs, hslot, hblock]
        exact ⟨rfl, rfl⟩
      · rw [finish_connect_connects ht hslot] at hblock
        exact absurd hblock (by simp)
    · rw [finish_connect_late (.inl ⟨remote, l, ht⟩)] at hblock
      exact absurd hblock (by simp)
    · rw [finish_connect_late (.inr ht)] at hblock
      exact absurd hblock (by simp)

/-- **The two-phase connect.** For every interleaving of the handshake task with the calls on
the socket: would-block and nothing else before the outcome is stored, one taker of it, the
streams handed out and their writer task started once, refusals ever after, and a ready
pollable that means an outcome. -/
theorem two_phase_connect {E : Type} (from_error : E → ErrorCode) (acts : List (Act E)) :
    Lts.Always (step from_error) TwoPhase Sys.init acts :=
  Lts.always_of_invariant inv_init inv_step twoPhase_of_inv

/-! ### A handshake that says would-block itself -/

/-- Two ways the transport's connect can fail, and the codes they convert to. -/
inductive Errno where
  | AGAIN
  | CONNREFUSED
  deriving DecidableEq, Repr

/-- Their conversion, as wasmtime-wasi's goes: `EAGAIN` becomes would-block. -/
def from_errno : Errno → ErrorCode
  | .AGAIN => .WouldBlock
  | .CONNREFUSED => .ConnectionRefused

/-- A table under which every address with its prefix is a handle. -/
def one_name : HandleTable where
  pfx := fun _ => 0
  entries := fun _ => some ⟨"host.example", [.V4 fun _ => 127]⟩

/-- A connect to a handle, a pollable, and a transport that gives up with `EAGAIN`. -/
def againSchedule : List (Act Errno) :=
  [.start_connect one_name (.Ipv6 443 0 (fun _ => 0) 0), .subscribe,
   .store true (.error .AGAIN) true (.ok ()), .signal]

/-- The pollable is ready, and `finish_connect` says would-block: the handshake's code. -/
theorem ready_pollable_then_would_block :
    ¬ ∀ (E : Type) (from_error : E → ErrorCode) (acts : List (Act E)),
      Lts.Always (step from_error) (fun s => ∀ p ∈ s.pollables, p.is_ready s = true →
        (finish_connect s).1 ≠ some (.error .WouldBlock)) Sys.init acts := by
  intro hall
  have hrun : Lts.run (step from_errno) Sys.init againSchedule
      = some { Sys.init with
          tunnel := some (.Connecting (.Ipv6 443 0 (fun _ => 0) 0))
          task := .signalled
          slot := some (.error .WouldBlock)
          done := true
          pollables := [.task]
          outcome := some (.error .WouldBlock) } := by
    decide
  exact (hall Errno from_errno againSchedule).last hrun .task List.mem_cons_self rfl rfl

/-! ## The folded socket -/

/-- The socket of `HostSocket`, with slot and watch in its entry. -/
def Sys.toSocket (s : Sys) (underlying : HostSocket.Underlying) : Socket where
  tunnel := none
  p2_tunnel := s.tunnel.map fun
    | .Connecting remote => .Connecting remote s.done s.slot
    | .Connected remote local_addr => .Connected remote local_addr s.done
    | .Failed => .Failed
  underlying := underlying

/-- `finish_connect` on a tunnel is that of the folded socket. -/
theorem toSocket_finish_connect {s : Sys} {underlying : HostSocket.Underlying}
    {r : Except ErrorCode Unit} (host : Answer) (h : (finish_connect s).1 = some r) :
    HostSocket.finish_connect (s.toSocket underlying) host
      = answer ((finish_connect s).2.toSocket underlying) r := by
  obtain ⟨tunnel, task, slot, done, pollables, write_tasks, pairs, shutdowns, outcome,
    finishes⟩ := s
  rcases tunnel with _ | (remote | ⟨remote, l⟩ | _)
  · exact absurd h (by simp [finish_connect])
  · rcases slot with _ | (code | l)
    · simp only [finish_connect, Option.some.injEq] at h
      rw [← h]
      rfl
    · simp only [finish_connect, Option.some.injEq] at h
      rw [← h]
      rfl
    · simp only [finish_connect, Option.some.injEq] at h
      rw [← h]
      rfl
  · simp only [finish_connect, Option.some.injEq] at h
    rw [← h]
    rfl
  · simp only [finish_connect, Option.some.injEq] at h
    rw [← h]
    rfl

/-- and so are `start_connect` to a handle and the two steps of the task. -/
theorem toSocket_start_connect {s : Sys} {underlying : HostSocket.Underlying}
    {names : HandleTable} {remote : IpSocketAddress} {r : Except ErrorCode Unit} (host : Answer)
    (h : (start_connect names s remote).1 = some r) :
    HostSocket.start_connect names (s.toSocket underlying) remote host
      = answer ((start_connect names s remote).2.toSocket underlying) r := by
  have hentry : (s.toSocket underlying).p2_tunnel.isSome = s.tunnel.isSome := by
    simp [Sys.toSocket]
  rcases hlookup : lookup_handle names remote with _ | ⟨hostname, addrs, port⟩
  · exact absurd h (by simp [start_connect, hlookup])
  · unfold HostSocket.start_connect
    unfold start_connect at h ⊢
    simp only [hlookup, hentry] at h ⊢
    rcases hsome : s.tunnel.isSome with _ | _
    · rcases hpick : pick_addr addrs port with _ | addr
      · simp only [hsome, hpick, Bool.false_eq_true, if_false, Option.some.injEq] at h ⊢
        rw [← h]
      · simp only [hsome, hpick, Bool.false_eq_true, if_false, Option.some.injEq] at h ⊢
        rw [← h]
        rfl
    · simp only [hsome, if_true, Option.some.injEq] at h ⊢
      rw [← h]

/-- The task stores, -/
theorem toSocket_store {E : Type} {from_error : E → ErrorCode} {s s' : Sys}
    {underlying : HostSocket.Underlying} {allowed validName : Bool}
    {dialed : Except E (Option SocketAddr)} {tls : Except E Unit} (hi : Inv s)
    (h : step from_error s (.store allowed dialed validName tls) = some s') :
    (s'.toSocket underlying).p2_tunnel
      = (s.toSocket underlying).p2_tunnel.map (HostSocket.store_outcome
          (handshake from_error allowed dialed validName tls)) := by
  simp only [step] at h
  split_ifs at h with hrun
  obtain ⟨remote, ht, -⟩ := waiting_of_running hi hrun
  rw [← Option.some.inj h]
  simp only [Sys.toSocket, ht, Option.map_some, HostSocket.store_outcome]

/-- and signals. -/
theorem toSocket_signal {E : Type} {from_error : E → ErrorCode} {s s' : Sys}
    {underlying : HostSocket.Underlying} (h : step from_error s .signal = some s') :
    (s'.toSocket underlying).p2_tunnel
      = (s.toSocket underlying).p2_tunnel.map HostSocket.signal_ready := by
  simp only [step] at h
  split_ifs at h
  rw [← Option.some.inj h]
  simp only [Sys.toSocket, Option.map_map]
  congr 1
  funext tunnel
  rcases tunnel with _ | _ | _ <;> rfl

end PolymorphTls.TunnelConnect

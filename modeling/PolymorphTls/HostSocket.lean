/-
The host provider's TCP socket (`tls-virt-wasmtime`): the connect and listen paths of
both `wasi:sockets` generations over one socket (`main.rs` for 0.3, `p2.rs` for 0.2).

A socket is split in two. wasmtime-wasi owns the real one and its phases; the provider
keeps a side map and treats a socket with an entry there as a tunnel. Nothing keeps the
two exclusive: an ordinary connect or a listen is delegated without looking at the map,
a connect to a handle never asks the underlying socket, and only 0.2's `start_connect`
asks the map. The 0.3 `connect` is moreover suspended three times before it inserts.

What wasmtime-wasi answers is chosen by the schedule, and so is every move its own
socket makes once a call was delegated to it. The results below therefore hold for any
underlying implementation.
-/
import PolymorphTls.Lts
import PolymorphTls.Sockets

set_option autoImplicit false

namespace PolymorphTls.HostSocket

/-! ## The socket -/

/-- The phases of wasmtime-wasi's own socket. -/
inductive Underlying where
  | Unconnected
  | Bound
  | Connecting
  | Connected
  | Listening
  | Closed
  deriving DecidableEq, Repr

/-- The underlying socket is in use: it has a mode. A bound one has none yet, `bind` comes
before both `connect` and `listen`. -/
def Underlying.engaged : Underlying → Bool
  | .Connecting | .Connected | .Listening => true
  | .Unconnected | .Bound | .Closed => false

/-- A 0.3 tunnel; of the TLS halves it is kept whether they are still there. `send` and
`receive` take them, so a tunnel may be connected and hold nothing. -/
structure Tunnel where
  /-- The handle address the guest dialed, for `get-remote-address`. -/
  remote : IpSocketAddress
  local_addr : Option SocketAddr
  read : Bool
  write : Bool
  deriving DecidableEq

/-- A 0.2 tunnel. Only in its first phase has `finish-connect` anything to do. -/
inductive P2Tunnel where
  /-- The handshake task is in flight; `finish-connect` polls the slot. `ready` is the
  watch and `result` the slot, which hold the task's outcome. -/
  | Connecting (remote : IpSocketAddress) (ready : Bool)
      (result : Option (Except ErrorCode (Option SocketAddr)))
  | Connected (remote : IpSocketAddress) (local_addr : Option SocketAddr) (ready : Bool)
  /-- `finish-connect` already reported the handshake failure. -/
  | Failed
  deriving DecidableEq

/-- One socket resource: its entries in the provider's side maps, and wasmtime-wasi's
socket. -/
structure Socket where
  /-- `tunnels[rep]`. -/
  tunnel : Option Tunnel
  /-- `p2_tunnels[rep]`. -/
  p2_tunnel : Option P2Tunnel
  underlying : Underlying
  deriving DecidableEq

/-- The socket is a tunnel. -/
def Socket.hasEntry (s : Socket) : Bool := s.tunnel.isSome || s.p2_tunnel.isSome

/-- What wasmtime-wasi answers to a delegated call, and the phase it leaves its socket
in. -/
structure Answer where
  result : Except ErrorCode Unit
  underlying : Underlying
  deriving DecidableEq

/-- What a provider call did: its result (`none` while it is suspended), whether it was
delegated, and the socket afterwards. -/
structure Outcome where
  result : Option (Except ErrorCode Unit)
  delegated : Bool
  socket : Socket
  deriving DecidableEq

/-- A call handed to wasmtime-wasi. Whatever the provider's own maps hold is left as it
is. -/
def delegate (s : Socket) (host : Answer) : Outcome :=
  ⟨some host.result, true, { s with underlying := host.underlying }⟩

/-- A call the provider answers itself. -/
def answer (s : Socket) (result : Except ErrorCode Unit) : Outcome := ⟨some result, false, s⟩

/-! ## The 0.2 calls -/

/-- `start_connect`. Here alone a side map is asked before a tunnel is made. -/
def start_connect (names : HandleTable) (s : Socket) (remote : IpSocketAddress)
    (host : Answer) : Outcome :=
  match lookup_handle names remote with
  -- delegated whatever the side map holds
  | none => delegate s host
  | some (_, addrs, port) =>
      if s.p2_tunnel.isSome then answer s (.error .InvalidState)
      else
        match pick_addr addrs port with
        | none => answer s (.error .RemoteUnreachable)
        -- the handshake task is spawned here
        | some _ => answer { s with p2_tunnel := some (.Connecting remote false none) } (.ok ())

/-- `finish_connect`. The slot is emptied by the call that finds it filled, so the next one
finds the tunnel connected or failed. -/
def finish_connect (s : Socket) (host : Answer) : Outcome :=
  match s.p2_tunnel with
  | none => delegate s host
  | some (.Connecting remote ready result) =>
      -- `take()` on the slot: a stored outcome is consumed by this call
      match result with
      | none => answer s (.error .WouldBlock)
      | some (.ok local_addr) =>
          answer { s with p2_tunnel := some (.Connected remote local_addr ready) } (.ok ())
      | some (.error code) => answer { s with p2_tunnel := some .Failed } (.error code)
  | some _ => answer s (.error .NotInProgress)

/-- The handshake task stores its outcome, in the slot it shares with the entry; an entry
that is not connecting any more has none. -/
def store_outcome (outcome : Except ErrorCode (Option SocketAddr)) : P2Tunnel → P2Tunnel
  | .Connecting remote ready _ => .Connecting remote ready (some outcome)
  | other => other

/-- The handshake task signals the watch, after the outcome is in the slot. Every pollable
of the socket has a receiver of it. -/
def signal_ready : P2Tunnel → P2Tunnel
  | .Connecting remote _ result => .Connecting remote true result
  | .Connected remote local_addr _ => .Connected remote local_addr true
  | .Failed => .Failed

/-- `listen`, and 0.2's `start_listen` and `finish_listen`: pure delegation. -/
def listen (s : Socket) (host : Answer) : Outcome := delegate s host

/-- `bind`, and 0.2's `start_bind` and `finish_bind`: pure delegation. -/
def bind (s : Socket) (host : Answer) : Outcome := delegate s host

/-! ## The 0.3 connect, from await to await -/

/-- A 0.3 `connect` call: where it is suspended, and what it has in its hands there. -/
inductive Call where
  | idle
  /-- Inside wasmtime-wasi's connect. -/
  | delegated
  /-- At `check(addr, TcpConnect).await`. -/
  | checking (remote : IpSocketAddress) (hostname : String) (addr : SocketAddr)
  /-- At `TcpStream::connect(addr).await`. -/
  | dialing (remote : IpSocketAddress) (hostname : String) (addr : SocketAddr)
  /-- At `connector.connect(server_name, stream).await`. -/
  | handshaking (remote : IpSocketAddress) (local_addr : Option SocketAddr)
  | returned (result : Except ErrorCode Unit)
  | dropped

/-- `connect` up to its first await; a delegated connect leaves the underlying socket in
the given phase when it first suspends. -/
def connect (names : HandleTable) (s : Socket) (remote : IpSocketAddress)
    (host : Underlying) : Call × Outcome :=
  match lookup_handle names remote with
  | none => (.delegated, ⟨none, true, { s with underlying := host }⟩)
  | some (hostname, addrs, port) =>
      -- neither the side map nor the underlying socket is asked
      match pick_addr addrs port with
      | none => (.returned (.error .RemoteUnreachable), answer s (.error .RemoteUnreachable))
      | some addr => (.checking remote hostname addr, ⟨none, false, s⟩)

/-- `connect` after the address check. The check sees the address that is then dialed. -/
def connect_checked (remote : IpSocketAddress) (hostname : String) (addr : SocketAddr)
    (allowed : Bool) : Call :=
  if allowed then .dialing remote hostname addr else .returned (.error .AccessDenied)

/-- `connect` after the transport's connect; `validName` is whether
`ServerName::try_from(hostname)` succeeds. -/
def connect_dialed (remote : IpSocketAddress) (validName : Bool)
    (result : Except ErrorCode (Option SocketAddr)) : Call :=
  match result with
  | .error e => .returned (.error e)
  | .ok local_addr =>
      if validName then .handshaking remote local_addr else .returned (.error .InvalidArgument)

/-- `connect` after the handshake. The socket may have changed since the call began, and is
not looked at. -/
def connect_handshaken (s : Socket) (remote : IpSocketAddress)
    (local_addr : Option SocketAddr) (result : Except String Unit) : Call × Outcome :=
  match result with
  | .error _ => (.returned (.error .ConnectionReset), answer s (.error .ConnectionReset))
  | .ok () =>
      -- `HashMap::insert`: an entry that is there is replaced
      (.returned (.ok ()),
        answer { s with tunnel := some { remote, local_addr, read := true, write := true } }
          (.ok ()))

/-! ## The system -/

/-- The sockets generation a socket was created through. -/
inductive Generation where
  | P2
  | P3
  deriving DecidableEq, Repr

/-- The guest-visible moments the contract speaks of. -/
inductive Op where
  /-- A connect or start-connect is called; `handle` says to what kind of address. -/
  | connect (handle : Bool)
  | listen
  /-- A suspended 0.3 connect to a handle has its connection. -/
  | complete
  deriving DecidableEq, Repr

/-- A ghost record of one such moment. -/
structure Event where
  op : Op
  before : Socket
  outcome : Outcome

/-- The 0.2 handshake task. Storing and signalling are two steps, and calls may come between
them. -/
inductive Task where
  | none
  | running
  | stored
  | done
  deriving DecidableEq, Repr

/-- A socket of either generation, the calls made on it, and what becomes of the socket
beneath. -/
structure Sys where
  generation : Generation
  names : HandleTable
  socket : Socket
  calls : ℕ → Call
  task : Task
  /-- A call was delegated: from now on the underlying socket moves by itself. -/
  touched : Bool
  /-- The socket was dropped. -/
  gone : Bool
  /-- Ghost: how often an entry was inserted for the socket. -/
  inserts : ℕ
  /-- Ghost: the connect and listen calls made so far. -/
  history : List Event

/-- A socket just created. -/
def Sys.init (generation : Generation) (names : HandleTable) : Sys :=
  { generation
    names
    socket := ⟨none, none, .Unconnected⟩
    calls := fun _ => .idle
    task := .none
    touched := false
    gone := false
    inserts := 0
    history := [] }

/-- What the guest, the provider's tasks and wasmtime-wasi do. -/
inductive Act where
  /-- Some resolution mints a handle. -/
  | mint (suffix : Fin 8 → UInt8) (entry : Entry)
  | start_connect (remote : IpSocketAddress) (host : Answer)
  | finish_connect (host : Answer)
  | store_outcome (outcome : Except ErrorCode (Option SocketAddr))
  | signal_ready
  | listen (host : Answer)
  | bind (host : Answer)
  | connect (i : ℕ) (remote : IpSocketAddress) (host : Underlying)
  | checked (i : ℕ) (allowed : Bool)
  | dialed (i : ℕ) (validName : Bool) (result : Except ErrorCode (Option SocketAddr))
  | handshaken (i : ℕ) (result : Except String Unit)
  /-- The delegated connect of call `i` returns. -/
  | returns (i : ℕ) (host : Answer)
  /-- A suspended 0.3 connect is dropped. -/
  | cancel (i : ℕ)
  /-- The underlying socket moves. -/
  | moves (phase : Underlying)
  | drop

/-- A call has done something: the socket is updated and the moment recorded. -/
def Sys.record (s : Sys) (op : Op) (outcome : Outcome) : Sys :=
  { s with
    socket := outcome.socket
    touched := s.touched || outcome.delegated
    history := ⟨op, s.socket, outcome⟩ :: s.history }

/-- A 0.3 call moves on. -/
def Sys.advance (s : Sys) (i : ℕ) (next : Call) : Sys :=
  { s with calls := Function.update s.calls i next }

/-- Whether the address is a handle. -/
def isHandle (names : HandleTable) (remote : IpSocketAddress) : Bool :=
  (lookup_handle names remote).isSome

/-- The steps of the 0.2 calls and of the handshake task. -/
def stepP2 (s : Sys) : Act → Option Sys
  | .start_connect remote host =>
      let outcome := start_connect s.names s.socket remote host
      let s' := s.record (.connect (isHandle s.names remote)) outcome
      if outcome.result = some (.ok ()) ∧ outcome.delegated = false then
        some { s' with task := .running, inserts := s.inserts + 1 }
      else some s'
  | .finish_connect host =>
      let outcome := finish_connect s.socket host
      some { s with
        socket := outcome.socket
        touched := s.touched || outcome.delegated }
  | .store_outcome outcome =>
      if s.task = .running then
        some { s with
          task := .stored
          socket.p2_tunnel := s.socket.p2_tunnel.map (store_outcome outcome) }
      else none
  | .signal_ready =>
      if s.task = .stored then
        some { s with
          task := .done
          socket.p2_tunnel := s.socket.p2_tunnel.map signal_ready }
      else none
  | _ => none

/-- The steps of the 0.3 connects. -/
def stepP3 (s : Sys) : Act → Option Sys
  | .connect i remote host =>
      match s.calls i with
      | .idle =>
          let (call, outcome) := connect s.names s.socket remote host
          some ((s.record (.connect (isHandle s.names remote)) outcome).advance i call)
      | _ => none
  | .checked i allowed =>
      match s.calls i with
      | .checking remote hostname addr =>
          some (s.advance i (connect_checked remote hostname addr allowed))
      | _ => none
  | .dialed i validName result =>
      match s.calls i with
      | .dialing remote _ _ => some (s.advance i (connect_dialed remote validName result))
      | _ => none
  | .handshaken i result =>
      match s.calls i with
      | .handshaking remote local_addr =>
          let (call, outcome) := connect_handshaken s.socket remote local_addr result
          if result = .ok () then
            some { (s.record .complete outcome).advance i call with inserts := s.inserts + 1 }
          else some (s.advance i call)
      | _ => none
  | .returns i host =>
      match s.calls i with
      | .delegated =>
          some { s.advance i (.returned host.result) with
            socket.underlying := host.underlying }
      | _ => none
  | .cancel i =>
      match s.calls i with
      | .idle | .returned _ | .dropped => none
      | _ => some (s.advance i .dropped)
  | _ => none

/-- A step. What both generations have comes first, then the calls of the socket's own. -/
def step (s : Sys) (a : Act) : Option Sys :=
  if s.gone then none
  else
    match a with
    | .mint suffix entry => some { s with names := (s.names.mint suffix entry).2 }
    | .listen host => some (s.record .listen (listen s.socket host))
    -- the contract says nothing of a bind, so no moment is recorded
    | .bind host => some { s with socket := (bind s.socket host).socket, touched := true }
    | .moves phase => if s.touched then some { s with socket.underlying := phase } else none
    | .drop => some { s with gone := true, socket.tunnel := none, socket.p2_tunnel := none }
    | a =>
        match s.generation with
        | .P2 => stepP2 s a
        | .P3 => stepP3 s a

/-! ## The contract -/

/-- The call asks for a second mode: it connects or listens on a tunnel, or would make a
tunnel of a socket that is in use. -/
def Event.conflicts (e : Event) : Prop :=
  e.before.hasEntry = true ∨
    (e.op = .connect true ∨ e.op = .complete) ∧ e.before.underlying.engaged = true

/-- The call failed with invalid-state, was not delegated, and changed nothing. -/
def Event.refused (e : Event) : Prop :=
  e.outcome = answer e.before (.error .InvalidState)

/-- **A socket connects once and in one mode.** A tunnel entry, once inserted, stays and
is never replaced, and every call that asks for a second mode was refused: none was
delegated from a tunnel, and none made a tunnel of a socket in use. -/
structure OneMode (s : Sys) : Prop where
  never_replaced : s.inserts ≤ 1
  stays : s.gone = false → 0 < s.inserts → s.socket.hasEntry = true
  refused : ∀ e ∈ s.history, e.conflicts → e.refused

/-- No call asks for a second mode, apart from the one case the provider checks: a
`start_connect` to a handle on a 0.2 tunnel. -/
def NoConflict (s : Sys) : Act → Prop
  | .start_connect remote _ =>
      if isHandle s.names remote then
        s.socket.hasEntry = true ∨ s.socket.underlying.engaged = false
      else s.socket.hasEntry = false
  | .connect _ remote _ => s.socket.hasEntry = false ∧
      (isHandle s.names remote = true → s.socket.underlying.engaged = false)
  | .handshaken _ result => result = .ok () →
      s.socket.hasEntry = false ∧ s.socket.underlying.engaged = false
  | .listen _ => s.socket.hasEntry = false
  | _ => True

/-- A 0.2 socket has no 0.3 entry, and the insertions are counted by the entry: at most one,
while the socket is there. The records so far are in order. -/
structure Inv (s : Sys) : Prop where
  own_map : s.generation = .P2 → s.socket.tunnel = none
  once : s.inserts ≤ 1
  counted : s.gone = false → s.inserts = s.socket.hasEntry.toNat
  refused : ∀ e ∈ s.history, e.conflicts → e.refused

/-! ## What a step can do -/

/-- The effects of a step: a move the contract does not speak of, a connect or listen
call (or the end of one) with its record, or the drop. For a call, the record is in
order exactly if the call met the condition. -/
inductive Trans (s : Sys) : Act → Sys → Prop where
  | quiet {a : Act} {s' : Sys} (hgone : s'.gone = s.gone)
      (hgen : s'.generation = s.generation) (htunnel : s'.socket.tunnel = s.socket.tunnel)
      (hentry : s'.socket.hasEntry = s.socket.hasEntry) (hins : s'.inserts = s.inserts)
      (hhist : s'.history = s.history) (hclear : NoConflict s a) : Trans s a s'
  | call {a : Act} {s' : Sys} {e : Event} (inserted : Bool) (hgone : s'.gone = s.gone)
      (hgen : s'.generation = s.generation)
      (htunnel : s.generation = .P2 → s'.socket.tunnel = s.socket.tunnel)
      (hentry : s'.socket.hasEntry = (s.socket.hasEntry || inserted))
      (hfree : inserted = true → NoConflict s a → s.socket.hasEntry = false)
      (hins : s'.inserts = s.inserts + inserted.toNat) (hhist : s'.history = e :: s.history)
      (hrec : (e.conflicts → e.refused) ↔ NoConflict s a) : Trans s a s'
  | drop {s' : Sys} (hgone : s'.gone = true) (hgen : s'.generation = s.generation)
      (htunnel : s'.socket.tunnel = none) (hins : s'.inserts = s.inserts)
      (hhist : s'.history = s.history) : Trans s .drop s'

/-- A delegated call was not refused by the provider. -/
theorem not_refused_of_delegated {e : Event} (h : e.outcome.delegated = true) :
    ¬ e.refused := by
  intro href
  unfold Event.refused at href
  rw [href] at h
  exact absurd h (by simp [answer])

/-- Nor was a call with another result than invalid-state. -/
theorem not_refused_of_result {e : Event}
    (h : e.outcome.result ≠ some (.error .InvalidState)) : ¬ e.refused := by
  intro href
  unfold Event.refused at href
  rw [href] at h
  exact h rfl

/-- A record that is not a refusal is in order exactly if there was no conflict. -/
theorem in_order_iff {e : Event} {C : Prop} (hno : ¬ e.refused) (hC : ¬ e.conflicts ↔ C) :
    (e.conflicts → e.refused) ↔ C := by
  rw [← hC]
  exact ⟨fun h hconf => hno (h hconf), fun h hconf => absurd hconf h⟩

/-- For a connect the conflict is read off the socket before it. -/
theorem not_conflicts_connect {handle : Bool} {before : Socket} {outcome : Outcome} :
    ¬ Event.conflicts ⟨.connect handle, before, outcome⟩ ↔
      before.hasEntry = false ∧ (handle = true → before.underlying.engaged = false) := by
  simp [Event.conflicts]

/-- 0.2's `start_connect`, by the address and the side map. It is the one call that refuses
anything. -/
theorem trans_of_start_connect {s : Sys} {remote : IpSocketAddress} {host : Answer}
    (hmap : s.socket.tunnel = none) {s' : Sys}
    (h : stepP2 s (.start_connect remote host) = some s') :
    Trans s (.start_connect remote host) s' := by
  have hsome : s.socket.hasEntry = s.socket.p2_tunnel.isSome := by
    simp [Socket.hasEntry, hmap]
  cases hlook : lookup_handle s.names remote with
  | none =>
      -- an ordinary address is delegated, so it is in order only without an entry
      have hplain : isHandle s.names remote = false := by simp [isHandle, hlook]
      have hrec : (Event.conflicts ⟨.connect false, s.socket, delegate s.socket host⟩ →
            Event.refused ⟨.connect false, s.socket, delegate s.socket host⟩)
          ↔ NoConflict s (.start_connect remote host) := by
        refine in_order_iff (not_refused_of_delegated rfl) ?_
        rw [not_conflicts_connect]
        simp [NoConflict, hplain]
      simp only [stepP2, start_connect, hlook, hplain, delegate, Bool.true_eq_false, and_false,
        if_false, Option.some.injEq] at h
      subst h
      exact .call false rfl rfl (fun _ => rfl) (by simp [Sys.record, Socket.hasEntry])
        (by simp) rfl rfl hrec
  | some dest =>
      obtain ⟨hostname, addrs, port⟩ := dest
      have hhandle : isHandle s.names remote = true := by simp [isHandle, hlook]
      by_cases hp2 : s.socket.p2_tunnel.isSome = true
      · -- the one conflict the code refuses
        simp only [stepP2, start_connect, hlook, hp2, if_true, answer, hhandle] at h
        simp only [Option.some.injEq, reduceCtorEq, false_and, if_false] at h
        subst h
        refine .call false rfl rfl (fun _ => rfl) (by simp [Sys.record]) (by simp) rfl rfl ?_
        simp [NoConflict, hhandle, hsome, hp2, Event.refused, answer]
      · -- without an entry, the only conflict left is an engaged underlying socket
        have hp2' : s.socket.p2_tunnel.isSome = false := by simpa using hp2
        have hcond : ∀ outcome, ¬ Event.conflicts ⟨.connect true, s.socket, outcome⟩
            ↔ NoConflict s (.start_connect remote host) := by
          intro outcome
          rw [not_conflicts_connect]
          simp [NoConflict, hhandle, hsome, hp2']
        cases hpick : pick_addr addrs port with
        | none =>
            simp only [stepP2, start_connect, hlook, hp2', hpick, answer, hhandle] at h
            simp only [Bool.false_eq_true, if_false, Option.some.injEq, reduceCtorEq, false_and]
              at h
            subst h
            exact .call false rfl rfl (fun _ => rfl) (by simp [Sys.record]) (by simp) rfl rfl
              (in_order_iff (not_refused_of_result (by simp)) (hcond _))
        | some addr =>
            simp only [stepP2, start_connect, hlook, hp2', hpick, answer, hhandle] at h
            simp only [Bool.false_eq_true, if_false, true_and, if_true,
              Option.some.injEq] at h
            subst h
            exact .call true rfl rfl (fun _ => rfl) (by simp [Sys.record, Socket.hasEntry])
              (fun _ _ => by rw [hsome, hp2']) rfl rfl
              (in_order_iff (not_refused_of_result (by simp)) (hcond _))

/-- `finish_connect` moves an entry on and neither makes nor removes one. -/
theorem hasEntry_finish_connect (s : Socket) (host : Answer) :
    (finish_connect s host).socket.tunnel = s.tunnel ∧
      (finish_connect s host).socket.hasEntry = s.hasEntry := by
  unfold finish_connect
  split
  case h_1 => exact ⟨rfl, rfl⟩
  case h_2 hp2 =>
      -- the entry changes its phase, never its presence
      split
      · exact ⟨rfl, rfl⟩
      · exact ⟨rfl, by simp [answer, Socket.hasEntry, hp2]⟩
      · exact ⟨rfl, by simp [answer, Socket.hasEntry, hp2]⟩
  case h_3 => exact ⟨rfl, rfl⟩

/-- The 0.2 steps. -/
theorem trans_of_stepP2 {s s' : Sys} {a : Act} (hmap : s.socket.tunnel = none)
    (h : stepP2 s a = some s') : Trans s a s' := by
  cases a with
  | start_connect remote host => exact trans_of_start_connect hmap h
  | finish_connect host =>
      rw [stepP2, Option.some.injEq] at h
      subst h
      obtain ⟨htunnel, hentry⟩ := hasEntry_finish_connect s.socket host
      exact .quiet rfl rfl htunnel hentry rfl rfl trivial
  | store_outcome outcome =>
      by_cases hrun : s.task = .running
      · rw [stepP2, if_pos hrun, Option.some.injEq] at h
        subst h
        exact .quiet rfl rfl rfl (by simp [Socket.hasEntry]) rfl rfl trivial
      · simp [stepP2, hrun] at h
  | signal_ready =>
      by_cases hst : s.task = .stored
      · rw [stepP2, if_pos hst, Option.some.injEq] at h
        subst h
        exact .quiet rfl rfl rfl (by simp [Socket.hasEntry]) rfl rfl trivial
      · simp [stepP2, hst] at h
  | _ => simp [stepP2] at h

/-- A 0.3 call that only moves on. -/
theorem trans_advance {s : Sys} {a : Act} (i : ℕ) (next : Call) (hclear : NoConflict s a) :
    Trans s a (s.advance i next) :=
  .quiet rfl rfl rfl rfl rfl rfl hclear

/-- 0.3's `connect`, up to its first await. It inserts nothing yet. -/
theorem trans_of_connect {s : Sys} (hgen : s.generation = .P3) (i : ℕ)
    (remote : IpSocketAddress) (host : Underlying) :
    Trans s (.connect i remote host)
      ((s.record (.connect (isHandle s.names remote))
        (connect s.names s.socket remote host).2).advance i
          (connect s.names s.socket remote host).1) := by
  have hother : s.generation = .P2 → (connect s.names s.socket remote host).2.socket.tunnel
      = s.socket.tunnel := by simp [hgen]
  have hrec : ∀ outcome : Outcome,
      (outcome.delegated = true ∨ outcome.result ≠ some (.error .InvalidState)) →
      ((Event.conflicts ⟨.connect (isHandle s.names remote), s.socket, outcome⟩ →
          Event.refused ⟨.connect (isHandle s.names remote), s.socket, outcome⟩)
        ↔ NoConflict s (.connect i remote host)) := by
    -- this path answers invalid-state to nobody
    intro outcome hout
    refine in_order_iff ?_ not_conflicts_connect
    rcases hout with hdel | hres
    · exact not_refused_of_delegated hdel
    · exact not_refused_of_result hres
  refine .call false rfl rfl hother ?_ (by simp) rfl rfl (hrec _ ?_)
  · unfold connect
    split
    · simp [Sys.advance, Sys.record, Socket.hasEntry]
    · split <;> simp [Sys.advance, Sys.record, answer]
  · unfold connect
    split
    · exact .inl rfl
    · split <;> exact .inr (by simp [answer])

/-- An inserting completion: the record is in order if there was neither an entry nor an
engaged underlying socket to replace. -/
theorem trans_of_handshaken {s : Sys} (hgen : s.generation = .P3) (i : ℕ)
    (remote : IpSocketAddress) (local_addr : Option SocketAddr) :
    Trans s (.handshaken i (.ok ()))
      { (s.record .complete (connect_handshaken s.socket remote local_addr (.ok ())).2).advance
          i (.returned (.ok ())) with inserts := s.inserts + 1 } := by
  refine .call true rfl rfl (by simp [hgen]) ?_ ?_ rfl rfl
    (in_order_iff (not_refused_of_result (by simp [connect_handshaken, answer])) ?_)
  · simp [connect_handshaken, answer, Sys.advance, Sys.record, Socket.hasEntry]
  · intro _ hclear
    exact (hclear rfl).1
  · simp [Event.conflicts, NoConflict]

/-- The 0.3 steps. -/
theorem trans_of_stepP3 {s s' : Sys} {a : Act} (hgen : s.generation = .P3)
    (h : stepP3 s a = some s') : Trans s a s' := by
  cases a with
  | connect i remote host =>
      cases hc : s.calls i with
      | idle =>
          simp only [stepP3, hc, Option.some.injEq] at h
          subst h
          exact trans_of_connect hgen i remote host
      | _ => simp [stepP3, hc] at h
  | checked i allowed =>
      cases hc : s.calls i with
      | checking remote hostname addr =>
          simp only [stepP3, hc, Option.some.injEq] at h
          subst h
          exact trans_advance i _ trivial
      | _ => simp [stepP3, hc] at h
  | dialed i validName result =>
      cases hc : s.calls i with
      | dialing remote hostname addr =>
          simp only [stepP3, hc, Option.some.injEq] at h
          subst h
          exact trans_advance i _ trivial
      | _ => simp [stepP3, hc] at h
  | handshaken i result =>
      cases hc : s.calls i with
      | handshaking remote local_addr =>
          cases result with
          | ok u =>
              simp only [stepP3, hc, if_true, Option.some.injEq] at h
              subst h
              exact trans_of_handshaken hgen i remote local_addr
          | error e =>
              simp only [stepP3, hc, reduceCtorEq, if_false, Option.some.injEq] at h
              subst h
              exact trans_advance i _ (by simp [NoConflict])
      | _ => simp [stepP3, hc] at h
  | returns i host =>
      cases hc : s.calls i with
      | delegated =>
          simp only [stepP3, hc, Option.some.injEq] at h
          subst h
          exact .quiet rfl rfl rfl rfl rfl rfl trivial
      | _ => simp [stepP3, hc] at h
  | cancel i =>
      cases hc : s.calls i with
      | idle => simp [stepP3, hc] at h
      | returned result => simp [stepP3, hc] at h
      | dropped => simp [stepP3, hc] at h
      | _ =>
          simp only [stepP3, hc, Option.some.injEq] at h
          subst h
          exact trans_advance i .dropped trivial
  | _ => simp [stepP3] at h

/-- A listen, which is delegated from any socket. -/
theorem trans_of_listen (s : Sys) (host : Answer) :
    Trans s (.listen host) (s.record .listen (listen s.socket host)) := by
  refine .call false rfl rfl (fun _ => rfl) ?_ (by simp) rfl rfl
    (in_order_iff (not_refused_of_delegated rfl) ?_)
  · simp [Sys.record, listen, delegate, Socket.hasEntry]
  · simp [Event.conflicts, NoConflict]

/-- **Inversion.** Every step is one of the three effects, and is made on a socket that is
there. -/
theorem trans_of_step {s s' : Sys} {a : Act} (hi : Inv s) (h : step s a = some s') :
    Trans s a s' ∧ s.gone = false := by
  by_cases hg : s.gone = true
  · simp [step, hg] at h
  · refine ⟨?_, by simpa using hg⟩
    unfold step at h
    rw [if_neg hg] at h
    cases a with
    | mint suffix entry =>
        rw [Option.some.injEq] at h
        subst h
        exact .quiet rfl rfl rfl rfl rfl rfl trivial
    | listen host =>
        rw [Option.some.injEq] at h
        subst h
        exact trans_of_listen s host
    | bind host =>
        rw [Option.some.injEq] at h
        subst h
        exact .quiet rfl rfl rfl rfl rfl rfl trivial
    | moves phase =>
        by_cases ht : s.touched = true
        · simp only [ht, if_true, Option.some.injEq] at h
          subst h
          exact .quiet rfl rfl rfl rfl rfl rfl trivial
        · simp [ht] at h
    | drop =>
        rw [Option.some.injEq] at h
        subst h
        exact .drop rfl rfl rfl rfl rfl
    | _ =>
        cases hgen : s.generation with
        | P2 =>
            simp only [hgen] at h
            exact trans_of_stepP2 (hi.own_map hgen) h
        | P3 =>
            simp only [hgen] at h
            exact trans_of_stepP3 hgen h

/-! ## The exact condition -/

/-- No entry and no record. -/
theorem inv_init (generation : Generation) (names : HandleTable) :
    Inv (Sys.init generation names) :=
  ⟨fun _ => rfl, Nat.zero_le 1, fun _ => rfl, by simp [Sys.init]⟩

/-- A step under the condition: its record, if it makes one, is in order, and what it
inserts is the first entry. -/
theorem inv_step {s s' : Sys} {a : Act} (hi : Inv s) (hc : NoConflict s a)
    (h : step s a = some s') : Inv s' := by
  obtain ⟨htrans, hopen⟩ := trans_of_step hi h
  have hcount := hi.counted hopen
  cases htrans with
  | quiet hgone hgen htunnel hentry hins hhist _ =>
      refine ⟨?_, by rw [hins]; exact hi.once, ?_, by rw [hhist]; exact hi.refused⟩
      · rw [hgen, htunnel]
        exact hi.own_map
      · intro _
        rw [hins, hentry, hcount]
  | call inserted hgone hgen htunnel hentry hfree hins hhist hrec =>
      -- an insertion that meets the condition finds no entry, so it is the first one
      have hcounted : s'.inserts = s'.socket.hasEntry.toNat := by
        rw [hins, hentry, hcount]
        cases inserted with
        | false => simp
        | true => simp [hfree rfl hc]
      refine ⟨?_, ?_, fun _ => hcounted, ?_⟩
      · intro hp2
        rw [hgen] at hp2
        rw [htunnel hp2]
        exact hi.own_map hp2
      · rw [hcounted]
        exact Bool.toNat_le _
      · rw [hhist]
        intro e he
        rcases List.mem_cons.mp he with rfl | hold
        · exact hrec.mpr hc
        · exact hi.refused e hold
  | drop hgone hgen htunnel hins hhist =>
      refine ⟨fun _ => htunnel, by rw [hins]; exact hi.once, ?_, by rw [hhist]; exact hi.refused⟩
      intro hno
      rw [hgone] at hno
      exact absurd hno (by simp)

/-- The insertions are counted by the entry, so there is at most one, and it stays. -/
theorem oneMode_of_inv {s : Sys} (hi : Inv s) : OneMode s where
  never_replaced := hi.once
  stays hopen hpos := by
    by_contra hne
    rw [hi.counted hopen, Bool.not_eq_true _ |>.mp hne] at hpos
    exact absurd hpos (by decide)
  refused := hi.refused

/-- A step outside the condition makes a record that is out of order, and records stay. -/
theorem not_oneMode_of_step {s s' : Sys} {a : Act} (hi : Inv s) (hc : ¬ NoConflict s a)
    (h : step s a = some s') : ¬ OneMode s' := by
  intro hone
  cases (trans_of_step hi h).1 with
  | quiet _ _ _ _ _ _ hclear => exact hc hclear
  | call inserted _ _ _ _ _ _ hhist hrec =>
      -- the record this step made is the one out of order
      refine hc (hrec.mp (hone.refused _ ?_))
      rw [hhist]
      exact List.mem_cons_self
  | drop => exact hc trivial

/-- **A provider socket connects once and in one mode -- exactly when no call asks it for
a second one.** In either generation, for every handle table, every sequence of calls,
every interleaving of suspended 0.3 connects and of the 0.2 handshake task, and anything
the underlying socket does. -/
theorem one_mode_iff_no_conflict (generation : Generation) (names : HandleTable)
    (acts : List Act) :
    Lts.Always step OneMode (Sys.init generation names) acts
      ↔ Lts.Steps step NoConflict (Sys.init generation names) acts :=
  Lts.always_iff_steps (inv_init generation names) inv_step oneMode_of_inv not_oneMode_of_step

/-- The address the handle minted by the schedules below is dialed at. -/
def dialedHandle : IpSocketAddress := .Ipv6 5432 0 (fun i => if i.val = 0 then 0xfd00 else 0) 0

/-- A 0.3 guest connects one socket to a handle twice. -/
def connectTwice : List Act :=
  [.mint (fun _ => 0) ⟨"db.internal", [.V4 fun _ => 10]⟩,
    .connect 0 dialedHandle .Unconnected, .checked 0 true, .dialed 0 true (.ok none),
    .handshaken 0 (.ok ()), .connect 1 dialedHandle .Unconnected, .checked 1 true,
    .dialed 1 true (.ok none), .handshaken 1 (.ok ())]

/-- A 0.2 guest binds a socket, connects it to a handle and then listens on it. An unbound
socket would do for the provider, which delegates the listen either way; bound, it is one
that wasmtime-wasi lets listen. -/
def connectThenListen : List Act :=
  [.mint (fun _ => 0) ⟨"db.internal", [.V4 fun _ => 10]⟩, .bind ⟨.ok (), .Bound⟩,
    .start_connect dialedHandle ⟨.ok (), .Bound⟩, .listen ⟨.ok (), .Listening⟩]

/-- The second connect replaces the tunnel, and the listen is delegated. -/
theorem second_mode_is_not_refused :
    ¬ Lts.Always step OneMode (Sys.init .P3 (HandleTable.new fun _ => 0)) connectTwice ∧
    ¬ Lts.Always step OneMode (Sys.init .P2 (HandleTable.new fun _ => 0))
        connectThenListen := by
  constructor
  · have hrun : ∃ s, Lts.run step (Sys.init .P3 (HandleTable.new fun _ => 0)) connectTwice
        = some s ∧ s.inserts = 2 := ⟨_, rfl, rfl⟩
    obtain ⟨s, hrun, htwo⟩ := hrun
    refine Lts.not_always_of_run hrun fun hone => ?_
    have honce := hone.never_replaced
    omega
  · have hrun : ∃ s, Lts.run step (Sys.init .P2 (HandleTable.new fun _ => 0))
        connectThenListen = some s ∧ ∃ e ∈ s.history, e.before.hasEntry = true
          ∧ e.outcome.delegated = true :=
      ⟨_, rfl, _, List.mem_cons_self, rfl, rfl⟩
    obtain ⟨s, hrun, e, hmem, hentry, hdel⟩ := hrun
    exact Lts.not_always_of_run hrun fun hone =>
      not_refused_of_delegated hdel (hone.refused e hmem (.inl hentry))

end PolymorphTls.HostSocket

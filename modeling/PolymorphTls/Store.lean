/-
The provider's side maps over a resource table that reuses its indices (`VirtCtx` in
`main.rs`, and `p2.rs`).

`tunnels`, `p2_tunnels` and `p2_resolves` are keyed by a resource's index, and the table
gives an index out again once its resource is dropped. So an entry that outlived its
resource would turn an unrelated socket into a tunnel. Every resource gets a number of its
own here when it is created, and every entry remembers the number of the resource whose
connect inserted it.

An entry is inserted late: by a 0.3 `connect` after three awaits, under the index it was
called with. That a resource is not dropped while an async call borrows it, as wasmtime has
it, is what makes this the index of the same resource still. A 0.2 handshake task is
different: it outlives its socket, but it writes to the slot it shares with the entry it
was spawned for, and to no index.

The contract (`no_entry_is_inherited`): every key is a live resource, the one that inserted
the entry; and a socket that was never dialed to a handle delegates every call.
-/
import PolymorphTls.HostSocket
import PolymorphTls.Resolve

set_option autoImplicit false

namespace PolymorphTls.Store

open HostSocket (Socket Tunnel P2Tunnel Call Task)

/-! ## The calls that ask the side maps -/

/-- Who serves a call: wasmtime-wasi, or the provider with its own result. -/
inductive Served (α : Type) where
  | delegated
  | answered (result : α)
  deriving DecidableEq

/-- Whether the provider left the call to wasmtime-wasi. -/
def Served.isDelegated {α : Type} : Served α → Bool
  | .delegated => true
  | .answered _ => false

/-- 0.3's `get_local_address`. -/
def get_local_address (s : Socket) : Served (Except ErrorCode SocketAddr) :=
  match s.tunnel with
  | some t =>
      match t.local_addr with
      | some addr => .answered (.ok addr)
      | none => .answered (.error .InvalidState)
  | none => .delegated

/-- 0.3's `get_remote_address`. -/
def get_remote_address (s : Socket) : Served (Except ErrorCode IpSocketAddress) :=
  match s.tunnel with
  -- preserve the illusion: the guest dialed the handle
  | some t => .answered (.ok t.remote)
  | none => .delegated

/-- 0.3's `send`: whether the tunnel's write half is there to pipe into. -/
def send (s : Socket) : Served (Except ErrorCode Unit) × Socket :=
  match s.tunnel with
  | some t =>
      (.answered (if t.write then .ok () else .error .InvalidState),
        { s with tunnel := some { t with write := false } })
  | none => (.delegated, s)

/-- 0.3's `receive`: whether the tunnel's read half is there to read from. -/
def receive (s : Socket) : Served (Except ErrorCode Unit) × Socket :=
  match s.tunnel with
  | some t =>
      (.answered (if t.read then .ok () else .error .InvalidState),
        { s with tunnel := some { t with read := false } })
  | none => (.delegated, s)

/-- 0.2's `local_address`. -/
def local_address (s : Socket) : Served (Except ErrorCode SocketAddr) :=
  match s.p2_tunnel with
  | some (.Connected _ local_addr _) =>
      match local_addr with
      | some addr => .answered (.ok addr)
      | none => .answered (.error .InvalidState)
  | some _ => .answered (.error .InvalidState)
  | none => .delegated

/-- 0.2's `remote_address`. -/
def remote_address (s : Socket) : Served (Except ErrorCode IpSocketAddress) :=
  match s.p2_tunnel with
  | some (.Connected remote _ _) => .answered (.ok remote)
  | some _ => .answered (.error .InvalidState)
  | none => .delegated

/-- 0.2's `subscribe`: whether the pollable is ready. -/
def subscribe (s : Socket) : Served Bool :=
  match s.p2_tunnel with
  | some (.Connecting _ ready _) => .answered ready
  | some (.Connected _ _ ready) => .answered ready
  | some .Failed => .answered true
  | none => .delegated

/-- 0.2's `shutdown`. -/
def shutdown (s : Socket) : Served (Except ErrorCode Unit) :=
  match s.p2_tunnel with
  | none => .delegated
  | some (.Connected _ _ _) => .answered (.ok ())
  | some _ => .answered (.error .InvalidState)

/-- The calls of both generations that look into a side map, the connects apart. -/
inductive Op where
  | get_local_address
  | get_remote_address
  | send
  | receive
  | local_address
  | remote_address
  | subscribe
  | shutdown
  | finish_connect (host : HostSocket.Answer)

/-- The call goes to wasmtime-wasi. -/
def delegates (s : Socket) : Op → Bool
  | .get_local_address => (get_local_address s).isDelegated
  | .get_remote_address => (get_remote_address s).isDelegated
  | .send => (send s).1.isDelegated
  | .receive => (receive s).1.isDelegated
  | .local_address => (local_address s).isDelegated
  | .remote_address => (remote_address s).isDelegated
  | .subscribe => (subscribe s).isDelegated
  | .shutdown => (shutdown s).isDelegated
  | .finish_connect host => (HostSocket.finish_connect s host).delegated

/-! ## The store -/

/-- What a resource of the table is, as far as the side maps distinguish. -/
inductive Kind where
  | TcpSocket
  | ResolveAddressStream (name : String)
  /-- Any other resource of the table: a stream, a pollable, a network, a UDP socket. -/
  | other
  deriving DecidableEq

/-- A live resource; its number is not given out again. The code has indices only: the
number is what the contract is stated with. -/
structure Live where
  number : ℕ
  kind : Kind
  deriving DecidableEq

/-- An entry of `tunnels`. -/
structure P3Entry where
  tunnel : Tunnel
  /-- Ghost: the resource whose connect inserted it. -/
  owner : ℕ

/-- An entry of `p2_tunnels`. -/
structure P2Entry where
  tunnel : P2Tunnel
  /-- The handshake task that shares the entry's slot and watch. -/
  task : ℕ
  /-- Ghost: the resource whose connect inserted it. -/
  owner : ℕ

/-- A 0.3 connect with the resource it borrows. It inserts under the index it was called
with, whatever happened in its awaits. -/
structure Pending where
  rep : ℕ
  owner : ℕ
  call : Call

/-- The call is suspended. -/
def Pending.outstanding (p : Pending) : Bool :=
  match p.call with
  | .delegated | .checking _ _ _ | .dialing _ _ _ | .handshaking _ _ => true
  | .idle | .returned _ | .dropped => false

/-- The provider's state: wasmtime's resource table, the side maps, and what is under
way. -/
structure Sys where
  /-- The resource table. -/
  table : ℕ → Option Live
  /-- How many resources were created. -/
  created : ℕ
  /-- `names` and `p2_resolves`. -/
  virt : Resolve.Virt
  tunnels : ℕ → Option P3Entry
  p2_tunnels : ℕ → Option P2Entry
  calls : List Pending
  tasks : List Task
  /-- Ghost: the sockets dialed to a handle. -/
  dialed : List ℕ

def Sys.init (random : Fin 8 → UInt8) : Sys :=
  { table := fun _ => none
    created := 0
    virt := ⟨.new random, fun _ => none⟩
    tunnels := fun _ => none
    p2_tunnels := fun _ => none
    calls := []
    tasks := []
    dialed := [] }

/-- The socket at an index; its phase is wasmtime-wasi's and no call here reads it. -/
def Sys.socketAt (s : Sys) (rep : ℕ) : Socket where
  tunnel := (s.tunnels rep).map P3Entry.tunnel
  p2_tunnel := (s.p2_tunnels rep).map P2Entry.tunnel
  underlying := .Unconnected

/-- A resource is pushed to the table. -/
def Sys.push (s : Sys) (rep : ℕ) (kind : Kind) : Sys :=
  { s with
    table := Function.update s.table rep (some ⟨s.created, kind⟩)
    created := s.created + 1 }

/-- Ghost: the socket is dialed. -/
def Sys.dial (s : Sys) (number : ℕ) (remote : IpSocketAddress) : Sys :=
  if HostSocket.isHandle s.virt.names remote then { s with dialed := number :: s.dialed } else s

/-- What the guests do through both generations, and what the runtime does for them. All
sockets share one store. -/
inductive Act where
  /-- `create` in either generation, or a socket that is accepted. -/
  | create (rep : ℕ)
  /-- Any other resource is created. -/
  | push (rep : ℕ)
  /-- A 0.3 lookup. -/
  | resolve (suffix : Fin 8 → UInt8) (name : String)
      (host : Except ErrorCode (List IpAddress))
  /-- A 0.2 lookup, whose stream gets the index `rep` if it is opened. -/
  | lookup (rep : ℕ) (name : String) (host : Except ErrorCode Unit)
  | next (rep : ℕ) (suffix : Fin 8 → UInt8) (delegated : List Resolve.Next)
  | connect (rep : ℕ) (remote : IpSocketAddress)
  | checked (i : ℕ) (allowed : Bool)
  | dialed (i : ℕ) (validName : Bool) (result : Except ErrorCode (Option SocketAddr))
  | handshaken (i : ℕ) (result : Except String Unit)
  /-- The delegated connect of call `i` returns. -/
  | returns (i : ℕ) (result : Except ErrorCode Unit)
  /-- A suspended 0.3 connect is dropped. -/
  | cancel (i : ℕ)
  | start_connect (rep : ℕ) (remote : IpSocketAddress) (host : HostSocket.Answer)
  | store_outcome (t : ℕ) (outcome : Except ErrorCode (Option SocketAddr))
  | signal_ready (t : ℕ)
  | finish_connect (rep : ℕ) (host : HostSocket.Answer)
  | send (rep : ℕ)
  | receive (rep : ℕ)
  /-- The resource is dropped; the delegated drop may fail and leave it in the table. -/
  | drop (rep : ℕ) (ok : Bool)

/-- An entry after a call on its socket, which leaves it the entry it was. -/
def P3Entry.after (e : P3Entry) (socket : Socket) : P3Entry :=
  match socket.tunnel with
  | some tunnel => { e with tunnel }
  | none => e

/-- The same of a 0.2 entry. -/
def P2Entry.after (e : P2Entry) (socket : Socket) : P2Entry :=
  match socket.p2_tunnel with
  | some tunnel => { e with tunnel }
  | none => e

/-- The steps of a 0.3 connect after its first await. They are made on the call, and name no
resource: only the last touches a map. -/
def stepCall (s : Sys) (i : ℕ) (p : Pending) : Act → Option Sys
  | .checked _ allowed =>
      match p.call with
      | .checking remote hostname addr =>
          let call := HostSocket.connect_checked remote hostname addr allowed
          some { s with calls := s.calls.set i { p with call } }
      | _ => none
  | .dialed _ validName result =>
      match p.call with
      | .dialing remote _ _ =>
          let call := HostSocket.connect_dialed remote validName result
          some { s with calls := s.calls.set i { p with call } }
      | _ => none
  | .handshaken _ result =>
      match p.call with
      | .handshaking remote local_addr =>
          let (call, outcome) :=
            HostSocket.connect_handshaken (s.socketAt p.rep) remote local_addr result
          let s' := { s with calls := s.calls.set i { p with call } }
          match result, outcome.socket.tunnel with
          -- inserted under the index, whatever is there by now
          | .ok (), some tunnel =>
              some { s' with tunnels := Function.update s.tunnels p.rep (some ⟨tunnel, p.owner⟩) }
          | _, _ => some s'
      | _ => none
  | .returns _ result =>
      match p.call with
      | .delegated => some { s with calls := s.calls.set i { p with call := .returned result } }
      | _ => none
  | .cancel _ =>
      if p.outstanding then some { s with calls := s.calls.set i { p with call := .dropped } }
      else none
  | _ => none

/-- The steps on a live socket with the given number. -/
def stepSocket (s : Sys) (rep number : ℕ) : Act → Option Sys
  | .connect _ remote =>
      let (call, _) := HostSocket.connect s.virt.names (s.socketAt rep) remote .Unconnected
      some { s.dial number remote with calls := s.calls ++ [⟨rep, number, call⟩] }
  | .start_connect _ remote host =>
      let outcome := HostSocket.start_connect s.virt.names (s.socketAt rep) remote host
      match s.p2_tunnels rep, outcome.socket.p2_tunnel with
      | none, some tunnel =>
          some { s.dial number remote with
            p2_tunnels :=
              Function.update s.p2_tunnels rep (some ⟨tunnel, s.tasks.length, number⟩)
            tasks := s.tasks ++ [.running] }
      | _, _ => some (s.dial number remote)
  | .finish_connect _ host =>
      let outcome := HostSocket.finish_connect (s.socketAt rep) host
      some { s with
        p2_tunnels := Function.update s.p2_tunnels rep
          ((s.p2_tunnels rep).map (P2Entry.after · outcome.socket)) }
  | .send _ =>
      some { s with
        tunnels := Function.update s.tunnels rep
          ((s.tunnels rep).map (P3Entry.after · (send (s.socketAt rep)).2)) }
  | .receive _ =>
      some { s with
        tunnels := Function.update s.tunnels rep
          ((s.tunnels rep).map (P3Entry.after · (receive (s.socketAt rep)).2)) }
  | _ => none

/-- The steps of the handshake task `t`: it knows its slot, not the socket. -/
def stepTask (s : Sys) (t : ℕ) (f : P2Tunnel → P2Tunnel) (before after : Task) : Option Sys :=
  if s.tasks[t]? = some before then
    some { s with
      tasks := s.tasks.set t after
      p2_tunnels := fun rep =>
        (s.p2_tunnels rep).map fun e => if e.task = t then { e with tunnel := f e.tunnel } else e }
  else none

/-- The provider's own part of a drop. It comes before wasmtime-wasi's, which may fail and
leave the resource in the table without its entry. -/
def Sys.forget (s : Sys) (rep : ℕ) : Kind → Sys
  | .TcpSocket =>
      { s with
        tunnels := Function.update s.tunnels rep none
        p2_tunnels := Function.update s.p2_tunnels rep none }
  | .ResolveAddressStream _ => { s with virt := s.virt.setResolve rep none }
  | .other => s

/-- The index an action is about, if it is about a socket. -/
def Act.socket : Act → Option ℕ
  | .connect rep _ | .start_connect rep _ _ | .finish_connect rep _ | .send rep
  | .receive rep => some rep
  | _ => none

/-- A step. A resource is created only at a free index, and which one is the schedule's
choice: nothing is said of how the table reuses them. -/
def step (s : Sys) (a : Act) : Option Sys :=
  match a with
  | .create rep => if s.table rep = none then some (s.push rep .TcpSocket) else none
  | .push rep => if s.table rep = none then some (s.push rep .other) else none
  | .resolve suffix name host =>
      let (_, names) := Resolve.resolve_addresses s.virt.names suffix name fun _ => host
      some { s with virt.names := names }
  | .lookup rep name host =>
      if s.table rep = none then
        match Resolve.P2.resolve_addresses s.virt name fun _ => host.map fun _ => rep with
        | (.error _, virt) => some { s with virt }
        | (.ok rep, virt) => some { s.push rep (.ResolveAddressStream name) with virt }
      else none
  | .next rep suffix delegated =>
      match s.table rep with
      | some ⟨_, .ResolveAddressStream _⟩ =>
          (Resolve.resolve_next_address s.virt rep suffix delegated).map
            fun r => { s with virt := r.2 }
      | _ => none
  | .checked i _ | .dialed i _ _ | .handshaken i _ | .returns i _ | .cancel i =>
      (s.calls[i]?).bind fun p => stepCall s i p a
  | .store_outcome t outcome => stepTask s t (HostSocket.store_outcome outcome) .running .stored
  | .signal_ready t => stepTask s t HostSocket.signal_ready .stored .done
  | .drop rep ok =>
      match s.table rep with
      | none => none
      | some live =>
          -- a resource an async call borrows cannot be dropped
          if s.calls.any fun p => p.rep = rep && p.outstanding then none
          else if ok then
            some { s.forget rep live.kind with table := Function.update s.table rep none }
          else some (s.forget rep live.kind)
  | a =>
      match a.socket with
      | none => none
      | some rep =>
          match s.table rep with
          | some ⟨number, .TcpSocket⟩ => stepSocket s rep number a
          | _ => none

/-! ## The contract -/

/-- **No socket or stream inherits another one's state.** -/
structure NoInheritance (s : Sys) : Prop where
  /-- A key is a live socket, and it is its own connect that inserted the entry. -/
  tunnels : ∀ rep e, s.tunnels rep = some e → s.table rep = some ⟨e.owner, .TcpSocket⟩
  p2_tunnels : ∀ rep e, s.p2_tunnels rep = some e → s.table rep = some ⟨e.owner, .TcpSocket⟩
  /-- A key is a live stream that was opened for a suffixed name. -/
  p2_resolves : ∀ rep state, s.virt.p2_resolves rep = some state → ∃ number name real,
    s.table rep = some ⟨number, .ResolveAddressStream name⟩ ∧ strip_suffix name = some real
  /-- A socket that was not dialed to a handle delegates every call. -/
  socket_delegates : ∀ rep number, s.table rep = some ⟨number, .TcpSocket⟩ →
    number ∉ s.dialed → ∀ op, delegates (s.socketAt rep) op = true
  /-- The resources created from now on are new. -/
  numbered : ∀ rep live, s.table rep = some live → live.number < s.created
  not_dialed : s.created ∉ s.dialed
  /-- An unsuffixed lookup returns what the delegated one does. -/
  lookup_delegates : ∀ rep number name,
    s.table rep = some ⟨number, .ResolveAddressStream name⟩ → strip_suffix name = none →
    ∀ suffix next, Resolve.resolve_next_address s.virt rep suffix [next] = some (next, s.virt)

/-- The socket at an index has the given number and was dialed to a handle. -/
def Dialed (s : Sys) (rep number : ℕ) : Prop :=
  s.table rep = some ⟨number, .TcpSocket⟩ ∧ number ∈ s.dialed

/-- The contract's parts in terms of the dials, with what suspended calls will insert: a
call borrows the socket it was made on, so what it inserts finds that socket there. -/
structure Inv (s : Sys) : Prop where
  tunnels : ∀ rep e, s.tunnels rep = some e → Dialed s rep e.owner
  p2_tunnels : ∀ rep e, s.p2_tunnels rep = some e → Dialed s rep e.owner
  p2_resolves : ∀ rep state, s.virt.p2_resolves rep = some state → ∃ number name real,
    s.table rep = some ⟨number, .ResolveAddressStream name⟩ ∧ strip_suffix name = some real
  /-- A suspended connect borrows the socket it was called on. -/
  calls : ∀ p ∈ s.calls, p.outstanding = true →
    s.table p.rep = some ⟨p.owner, .TcpSocket⟩ ∧ (p.call ≠ .delegated → p.owner ∈ s.dialed)
  numbered : ∀ rep live, s.table rep = some live → live.number < s.created
  dialed : ∀ number ∈ s.dialed, number < s.created

/-- An empty table has no entries. -/
theorem inv_init (random : Fin 8 → UInt8) : Inv (.init random) where
  tunnels _ _ h := absurd h (by simp [Sys.init])
  p2_tunnels _ _ h := absurd h (by simp [Sys.init])
  p2_resolves _ _ h := absurd h (by simp [Sys.init])
  calls _ h := absurd h List.not_mem_nil
  numbered _ _ h := absurd h (by simp [Sys.init])
  dialed _ h := absurd h List.not_mem_nil

/-- Without entries every call is delegated. -/
theorem delegates_of_none {s : Socket} (htunnel : s.tunnel = none) (hp2 : s.p2_tunnel = none)
    (op : Op) : delegates s op = true := by
  cases op with
  | get_local_address => simp only [delegates, get_local_address, htunnel, Served.isDelegated]
  | get_remote_address => simp only [delegates, get_remote_address, htunnel, Served.isDelegated]
  | send => simp only [delegates, send, htunnel, Served.isDelegated]
  | receive => simp only [delegates, receive, htunnel, Served.isDelegated]
  | local_address => simp only [delegates, local_address, hp2, Served.isDelegated]
  | remote_address => simp only [delegates, remote_address, hp2, Served.isDelegated]
  | subscribe => simp only [delegates, subscribe, hp2, Served.isDelegated]
  | shutdown => simp only [delegates, shutdown, hp2, Served.isDelegated]
  | finish_connect host =>
      simp only [delegates, HostSocket.finish_connect, hp2, HostSocket.delegate]

/-- A socket that was not dialed to a handle has no tunnel entry, and nothing but a socket
has one. -/
theorem no_tunnels {s : Sys} {rep : ℕ} {live : Live} (hi : Inv s)
    (hlive : s.table rep = some live)
    (hnot : live.kind = .TcpSocket → live.number ∉ s.dialed) :
    s.tunnels rep = none ∧ s.p2_tunnels rep = none := by
  have hdialed : ∀ owner, ¬ Dialed s rep owner := by
    rintro owner ⟨hsocket, hmem⟩
    rw [hlive, Option.some.injEq] at hsocket
    rw [hsocket] at hnot
    exact hnot rfl hmem
  constructor
  · by_contra hsome
    obtain ⟨e, he⟩ := Option.ne_none_iff_exists'.mp hsome
    exact hdialed _ (hi.tunnels rep e he)
  · by_contra hsome
    obtain ⟨e, he⟩ := Option.ne_none_iff_exists'.mp hsome
    exact hdialed _ (hi.p2_tunnels rep e he)

/-- Only a stream that was opened for a suffixed name is being drained. -/
theorem no_resolve {s : Sys} {rep : ℕ} {live : Live} (hi : Inv s)
    (hlive : s.table rep = some live)
    (hnot : ∀ name, live.kind = .ResolveAddressStream name → strip_suffix name = none) :
    s.virt.p2_resolves rep = none := by
  by_contra hsome
  obtain ⟨state, hstate⟩ := Option.ne_none_iff_exists'.mp hsome
  obtain ⟨number, name, real, hstream, hname⟩ := hi.p2_resolves rep state hstate
  rw [hlive, Option.some.injEq] at hstream
  rw [hnot name (by rw [hstream])] at hname
  exact absurd hname (by simp)

/-- The contract from the invariant: an entry needs a dial, and a number that is not out yet
has none. -/
theorem noInheritance_of_inv {s : Sys} (hi : Inv s) : NoInheritance s := by
  refine ⟨fun rep e h => (hi.tunnels rep e h).1, fun rep e h => (hi.p2_tunnels rep e h).1,
    hi.p2_resolves, fun rep number hlive hnot op => ?_, hi.numbered, fun h => ?_,
    fun rep number name hlive hname suffix next => ?_⟩
  · -- an entry would be the socket's own, and then it was dialed
    obtain ⟨htunnel, hp2⟩ := no_tunnels hi hlive fun _ => hnot
    refine delegates_of_none ?_ ?_ op
    · rw [Sys.socketAt, htunnel]
      rfl
    · rw [Sys.socketAt, hp2]
      rfl
  · exact absurd (hi.dialed _ h) (Nat.lt_irrefl _)
  · have hnone := no_resolve hi hlive fun name' hkind => by
      rw [← Kind.ResolveAddressStream.inj hkind]
      exact hname
    simp only [Resolve.resolve_next_address, hnone]

/-! ## The steps -/

/-- An entry of a map that was changed at one index. -/
theorem update_eq_some {α : Type} {m : ℕ → Option α} {rep r : ℕ} {v : Option α} {e : α}
    (h : Function.update m rep v r = some e) :
    r = rep ∧ v = some e ∨ r ≠ rep ∧ m r = some e := by
  by_cases hr : r = rep
  · rw [hr, Function.update_self] at h
    exact .inl ⟨hr, h⟩
  · rw [Function.update_of_ne hr] at h
    exact .inr ⟨hr, h⟩

/-- A step that leaves the table: what is in the maps afterwards was there before, or is
the entry of a live socket that was dialed. -/
theorem inv_frame {s s' : Sys} (hi : Inv s) (htable : s'.table = s.table)
    (hcreated : s'.created = s.created) (hmono : ∀ n ∈ s.dialed, n ∈ s'.dialed)
    (hdialed : ∀ n ∈ s'.dialed, n < s.created)
    (htunnels : ∀ rep e, s'.tunnels rep = some e →
      (∃ e₀, s.tunnels rep = some e₀ ∧ e₀.owner = e.owner) ∨ Dialed s' rep e.owner)
    (hp2 : ∀ rep e, s'.p2_tunnels rep = some e →
      (∃ e₀, s.p2_tunnels rep = some e₀ ∧ e₀.owner = e.owner) ∨ Dialed s' rep e.owner)
    (hresolves : ∀ rep, (s'.virt.p2_resolves rep).isSome → (s.virt.p2_resolves rep).isSome)
    (hcalls : ∀ p ∈ s'.calls, p.outstanding = true → p ∈ s.calls ∨
      s.table p.rep = some ⟨p.owner, .TcpSocket⟩ ∧ (p.call ≠ .delegated → p.owner ∈ s'.dialed)) :
    Inv s' := by
  have hlift : ∀ {rep n}, Dialed s rep n → Dialed s' rep n := by
    rintro rep n ⟨hlive, hn⟩
    exact ⟨htable ▸ hlive, hmono n hn⟩
  refine ⟨fun rep e h => ?_, fun rep e h => ?_, fun rep state h => ?_, fun p hp hout => ?_, ?_, ?_⟩
  · rcases htunnels rep e h with ⟨e₀, h₀, howner⟩ | hnew
    · exact howner ▸ hlift (hi.tunnels rep e₀ h₀)
    · exact hnew
  · rcases hp2 rep e h with ⟨e₀, h₀, howner⟩ | hnew
    · exact howner ▸ hlift (hi.p2_tunnels rep e₀ h₀)
    · exact hnew
  · obtain ⟨state₀, h₀⟩ := Option.isSome_iff_exists.mp (hresolves rep (by rw [h]; rfl))
    rw [htable]
    exact hi.p2_resolves rep state₀ h₀
  · rw [htable]
    rcases hcalls p hp hout with hold | hnew
    · obtain ⟨hlive, hn⟩ := hi.calls p hold hout
      exact ⟨hlive, fun hne => hmono _ (hn hne)⟩
    · exact hnew
  · rw [htable, hcreated]
    exact hi.numbered
  · rw [hcreated]
    exact hdialed

/-- A resource is created at a free index. -/
theorem inv_push {s : Sys} {rep : ℕ} (kind : Kind) (hi : Inv s) (hfree : s.table rep = none) :
    Inv (s.push rep kind) := by
  have hkeep : ∀ {r live}, s.table r = some live → (s.push rep kind).table r = some live := by
    intro r live hlive
    have hne : r ≠ rep := by
      rintro rfl
      rw [hfree] at hlive
      exact absurd hlive (by simp)
    show Function.update s.table rep _ r = some live
    rw [Function.update_of_ne hne]
    exact hlive
  refine ⟨fun r e h => ?_, fun r e h => ?_, fun r state h => ?_, fun p hp hout => ?_,
    fun r live h => ?_, fun n hn => Nat.lt_succ_of_lt (hi.dialed n hn)⟩
  · obtain ⟨hlive, hn⟩ := hi.tunnels r e h
    exact ⟨hkeep hlive, hn⟩
  · obtain ⟨hlive, hn⟩ := hi.p2_tunnels r e h
    exact ⟨hkeep hlive, hn⟩
  · obtain ⟨number, name, real, hlive, hname⟩ := hi.p2_resolves r state h
    exact ⟨number, name, real, hkeep hlive, hname⟩
  · obtain ⟨hlive, hn⟩ := hi.calls p hp hout
    exact ⟨hkeep hlive, hn⟩
  · show live.number < s.created + 1
    rcases update_eq_some h with ⟨-, hnew⟩ | ⟨-, hold⟩
    · rw [← Option.some.inj hnew]
      exact Nat.lt_succ_self _
    · exact Nat.lt_succ_of_lt (hi.numbered r live hold)

/-- A suffixed 0.2 lookup opens its stream at a free index. -/
theorem inv_opened {s : Sys} {rep : ℕ} {name real : String} {state : Resolve.P2Resolve}
    (hi : Inv s) (hfree : s.table rep = none) (hname : strip_suffix name = some real) :
    Inv { s.push rep (.ResolveAddressStream name) with
      virt := s.virt.setResolve rep (some state) } := by
  have hpushed := inv_push (.ResolveAddressStream name) hi hfree
  refine ⟨hpushed.tunnels, hpushed.p2_tunnels, fun r state' h => ?_, hpushed.calls,
    hpushed.numbered, hpushed.dialed⟩
  by_cases hr : r = rep
  · refine ⟨s.created, name, real, ?_, hname⟩
    rw [hr]
    exact Function.update_self _ _ _
  · replace h : (s.virt.setResolve rep (some state)).p2_resolves r = some state' := h
    rw [s.virt.setResolve_of_ne _ hr] at h
    exact hpushed.p2_resolves r state' h

/-- A call on a stream makes no key. -/
theorem next_keys {rep : ℕ} {suffix : Fin 8 → UInt8} {virt virt' : Resolve.Virt}
    {delegated : List Resolve.Next} {result : Resolve.Next}
    (h : Resolve.resolve_next_address virt rep suffix delegated = some (result, virt')) (r : ℕ)
    (hsome : (virt'.p2_resolves r).isSome) : (virt.p2_resolves r).isSome := by
  cases hstate : virt.p2_resolves rep with
  | none =>
      obtain ⟨-, rfl⟩ := Resolve.resolve_next_address_plain hstate h
      exact hsome
  | some state =>
      by_cases hr : r = rep
      · rw [hr, hstate]
        rfl
      · have hloop := Resolve.resolve_next_address_wrapped hstate h
        cases state with
        | Yielded =>
            obtain ⟨-, -, -, rfl⟩ := Resolve.nextLoop_yielded hstate hloop
            exact hsome
        | Draining hostname addrs =>
            cases Resolve.nextLoop_draining hstate hloop with
            | interrupted hend hvisible => rwa [virt.setResolve_of_ne _ hr] at hsome
            | ended hend hvisible hyields => rwa [hyields.state.2 r hr] at hsome

/-- A suspended 0.3 connect to a handle goes on, or any one is over. -/
theorem inv_setCall {s : Sys} {i : ℕ} {p : Pending} (call : Call) (hi : Inv s)
    (hp : s.calls[i]? = some p) (hout : p.outstanding = true)
    (hcall : p.call ≠ .delegated ∨ Pending.outstanding { p with call } = false) :
    Inv { s with calls := s.calls.set i { p with call } } := by
  have hmem : p ∈ s.calls := List.mem_of_getElem? hp
  refine inv_frame hi rfl rfl (fun n hn => hn) hi.dialed (fun rep e h => .inl ⟨e, h, rfl⟩)
    (fun rep e h => .inl ⟨e, h, rfl⟩) (fun rep h => h) fun q hq hqout => ?_
  rcases List.mem_or_eq_of_mem_set hq with hq | rfl
  · exact .inl hq
  · obtain ⟨hlive, hn⟩ := hi.calls p hmem hout
    rcases hcall with hcall | hcall
    · exact .inr ⟨hlive, fun _ => hn hcall⟩
    · rw [hcall] at hqout
      exact absurd hqout (by simp)

/-- The entry of a socket that was dialed is inserted. -/
theorem inv_inserted {s : Sys} {rep owner : ℕ} (tunnel : Tunnel) (hi : Inv s)
    (hdialed : Dialed s rep owner) :
    Inv { s with tunnels := Function.update s.tunnels rep (some ⟨tunnel, owner⟩) } := by
  refine inv_frame hi rfl rfl (fun n hn => hn) hi.dialed (fun r e he => ?_)
    (fun r e he => .inl ⟨e, he, rfl⟩) (fun r hr => hr) fun q hq _ => .inl hq
  rcases update_eq_some he with ⟨rfl, hnew⟩ | ⟨-, hold⟩
  · rw [← Option.some.inj hnew]
    exact .inr hdialed
  · exact .inl ⟨e, hold, rfl⟩

/-- A suspended connect goes on. The case with content is the last: the socket it borrows is
still there, since it borrows it. -/
theorem inv_stepCall {s s' : Sys} {i : ℕ} {p : Pending} {a : Act} (hi : Inv s)
    (hp : s.calls[i]? = some p) (h : stepCall s i p a = some s') : Inv s' := by
  cases a with
  | checked _ allowed =>
      cases hcall : p.call with
      | checking remote hostname addr =>
          simp only [stepCall, hcall, Option.some.injEq] at h
          rw [← h]
          exact inv_setCall _ hi hp (by simp [Pending.outstanding, hcall]) (.inl (by simp [hcall]))
      | _ => simp [stepCall, hcall] at h
  | dialed _ validName result =>
      cases hcall : p.call with
      | dialing remote hostname addr =>
          simp only [stepCall, hcall, Option.some.injEq] at h
          rw [← h]
          exact inv_setCall _ hi hp (by simp [Pending.outstanding, hcall]) (.inl (by simp [hcall]))
      | _ => simp [stepCall, hcall] at h
  | handshaken _ result =>
      cases hcall : p.call with
      | handshaking remote local_addr =>
          have hout : p.outstanding = true := by simp [Pending.outstanding, hcall]
          have hne : p.call ≠ .delegated := by simp [hcall]
          have hset := fun call => inv_setCall call hi hp hout (.inl hne)
          simp only [stepCall, hcall] at h
          split at h
          · -- the socket the call borrows is still the one it was called on
            obtain ⟨hlive, hn⟩ := hi.calls p (List.mem_of_getElem? hp) hout
            rw [Option.some.injEq] at h
            rw [← h]
            exact inv_inserted _ (hset _) ⟨hlive, hn hne⟩
          · rw [Option.some.injEq] at h
            rw [← h]
            exact hset _
      | _ => simp [stepCall, hcall] at h
  | returns _ result =>
      cases hcall : p.call with
      | delegated =>
          simp only [stepCall, hcall, Option.some.injEq] at h
          rw [← h]
          exact inv_setCall _ hi hp (by simp [Pending.outstanding, hcall]) (.inr rfl)
      | _ => simp [stepCall, hcall] at h
  | cancel _ =>
      cases hout : p.outstanding with
      | true =>
          simp only [stepCall, hout, if_true, Option.some.injEq] at h
          rw [← h]
          exact inv_setCall _ hi hp hout (.inr rfl)
      | false => simp [stepCall, hout] at h
  | _ => simp [stepCall] at h

/-- A handshake task changes no key and no owner. -/
theorem inv_stepTask {s s' : Sys} {t : ℕ} {f : P2Tunnel → P2Tunnel} {before after : Task}
    (hi : Inv s) (h : stepTask s t f before after = some s') : Inv s' := by
  unfold stepTask at h
  split at h
  case isFalse => exact absurd h (by simp)
  case isTrue =>
      rw [Option.some.injEq] at h
      rw [← h]
      refine inv_frame hi rfl rfl (fun n hn => hn) hi.dialed (fun r e he => .inl ⟨e, he, rfl⟩)
        (fun r e he => .inl ?_) (fun r hr => hr) fun q hq _ => .inl hq
      obtain ⟨e₀, h₀, heq⟩ := Option.map_eq_some_iff.mp he
      refine ⟨e₀, h₀, ?_⟩
      rw [← heq]
      split <;> rfl

/-- A live socket is dialed. -/
theorem inv_dial {s : Sys} {rep number : ℕ} (remote : IpSocketAddress) (hi : Inv s)
    (hlive : s.table rep = some ⟨number, .TcpSocket⟩) : Inv (s.dial number remote) := by
  unfold Sys.dial
  split
  · refine inv_frame hi rfl rfl (fun n hn => List.mem_cons_of_mem _ hn) (fun n hn => ?_)
      (fun r e he => .inl ⟨e, he, rfl⟩) (fun r e he => .inl ⟨e, he, rfl⟩) (fun r hr => hr)
      fun q hq _ => .inl hq
    rcases List.mem_cons.mp hn with rfl | hn
    · exact hi.numbered rep _ hlive
    · exact hi.dialed n hn
  · exact hi

/-- What a dial adds is that socket. -/
theorem mem_dial {s : Sys} {number : ℕ} {remote : IpSocketAddress}
    (h : lookup_handle s.virt.names remote ≠ none) :
    number ∈ (s.dial number remote).dialed := by
  have hhandle : HostSocket.isHandle s.virt.names remote = true :=
    Option.isSome_iff_ne_none.mpr h
  rw [Sys.dial, if_pos hhandle]
  exact List.mem_cons_self

/-- Dialing changes no resource. -/
theorem dial_table (s : Sys) (number : ℕ) (remote : IpSocketAddress) :
    (s.dial number remote).table = s.table := by
  unfold Sys.dial
  split <;> rfl

/-- A 0.3 connect is called. -/
theorem inv_connect {s : Sys} {rep number : ℕ} (remote : IpSocketAddress) (hi : Inv s)
    (hlive : s.table rep = some ⟨number, .TcpSocket⟩) :
    Inv { s.dial number remote with
      calls := s.calls ++ [⟨rep, number,
        (HostSocket.connect s.virt.names (s.socketAt rep) remote .Unconnected).1⟩] } := by
  have hcalls : (s.dial number remote).calls = s.calls := by
    unfold Sys.dial
    split <;> rfl
  refine inv_frame (inv_dial remote hi hlive) rfl rfl (fun n hn => hn)
    (inv_dial remote hi hlive).dialed (fun r e he => .inl ⟨e, he, rfl⟩)
    (fun r e he => .inl ⟨e, he, rfl⟩) (fun r hr => hr) fun q hq hout => ?_
  rw [List.mem_append, List.mem_singleton] at hq
  rcases hq with hq | rfl
  · rw [hcalls]
    exact .inl hq
  · refine .inr ⟨?_, fun hne => mem_dial fun hnone => hne ?_⟩
    · rw [dial_table]
      exact hlive
    · simp only [HostSocket.connect, hnone]

/-- A 0.2 connect is called: the entry it inserts is for a handle. -/
theorem inv_start_connect {s : Sys} {rep number task : ℕ} {tasks : List Task}
    {remote : IpSocketAddress} {host : HostSocket.Answer} {tunnel : P2Tunnel} (hi : Inv s)
    (hlive : s.table rep = some ⟨number, .TcpSocket⟩) (hnone : s.p2_tunnels rep = none)
    (hsome : (HostSocket.start_connect s.virt.names (s.socketAt rep) remote host).socket.p2_tunnel
      = some tunnel) :
    Inv { s.dial number remote with
      p2_tunnels := Function.update s.p2_tunnels rep (some ⟨tunnel, task, number⟩)
      tasks } := by
  have hp2 : (s.dial number remote).p2_tunnels = s.p2_tunnels := by
    unfold Sys.dial
    split <;> rfl
  have hhandle : lookup_handle s.virt.names remote ≠ none := by
    intro hlook
    simp only [HostSocket.start_connect, hlook, HostSocket.delegate, Sys.socketAt, hnone,
      Option.map_none] at hsome
    exact absurd hsome (by simp)
  refine inv_frame (inv_dial remote hi hlive) rfl rfl (fun n hn => hn)
    (inv_dial remote hi hlive).dialed (fun r e he => .inl ⟨e, he, rfl⟩) (fun r e he => ?_)
    (fun r hr => hr) fun q hq _ => .inl hq
  rcases update_eq_some he with ⟨rfl, hnew⟩ | ⟨-, hold⟩
  · rw [← Option.some.inj hnew]
    refine .inr ⟨?_, mem_dial hhandle⟩
    show (s.dial number remote).table r = _
    rw [dial_table]
    exact hlive
  · rw [hp2]
    exact .inl ⟨e, hold, rfl⟩

/-- A call on a socket changes its 0.3 entry, not whose it is. -/
theorem inv_p3_after {s : Sys} {rep : ℕ} (socket : Socket) (hi : Inv s) :
    Inv { s with
      tunnels := Function.update s.tunnels rep
        ((s.tunnels rep).map (P3Entry.after · socket)) } := by
  refine inv_frame hi rfl rfl (fun n hn => hn) hi.dialed (fun r e he => .inl ?_)
    (fun r e he => .inl ⟨e, he, rfl⟩) (fun r hr => hr) fun q hq _ => .inl hq
  rcases update_eq_some he with ⟨rfl, hnew⟩ | ⟨-, hold⟩
  · obtain ⟨e₀, h₀, heq⟩ := Option.map_eq_some_iff.mp hnew
    refine ⟨e₀, h₀, ?_⟩
    rw [← heq, P3Entry.after]
    split <;> rfl
  · exact ⟨e, hold, rfl⟩

/-- A call on a socket changes its 0.2 entry, not whose it is. -/
theorem inv_p2_after {s : Sys} {rep : ℕ} (socket : Socket) (hi : Inv s) :
    Inv { s with
      p2_tunnels := Function.update s.p2_tunnels rep
        ((s.p2_tunnels rep).map (P2Entry.after · socket)) } := by
  refine inv_frame hi rfl rfl (fun n hn => hn) hi.dialed (fun r e he => .inl ⟨e, he, rfl⟩)
    (fun r e he => .inl ?_) (fun r hr => hr) fun q hq _ => .inl hq
  rcases update_eq_some he with ⟨rfl, hnew⟩ | ⟨-, hold⟩
  · obtain ⟨e₀, h₀, heq⟩ := Option.map_eq_some_iff.mp hnew
    refine ⟨e₀, h₀, ?_⟩
    rw [← heq, P2Entry.after]
    split <;> rfl
  · exact ⟨e, hold, rfl⟩

/-- A call on a live socket. -/
theorem inv_stepSocket {s s' : Sys} {rep number : ℕ} {a : Act} (hi : Inv s)
    (hlive : s.table rep = some ⟨number, .TcpSocket⟩)
    (h : stepSocket s rep number a = some s') : Inv s' := by
  cases a with
  | connect _ remote =>
      simp only [stepSocket, Option.some.injEq] at h
      rw [← h]
      exact inv_connect remote hi hlive
  | start_connect _ remote host =>
      simp only [stepSocket] at h
      split at h
      case h_1 hnone hsome =>
          rw [Option.some.injEq] at h
          rw [← h]
          exact inv_start_connect hi hlive hnone hsome
      case h_2 =>
          rw [Option.some.injEq] at h
          rw [← h]
          exact inv_dial remote hi hlive
  | finish_connect _ host =>
      simp only [stepSocket, Option.some.injEq] at h
      rw [← h]
      exact inv_p2_after _ hi
  | send _ =>
      simp only [stepSocket, Option.some.injEq] at h
      rw [← h]
      exact inv_p3_after _ hi
  | receive _ =>
      simp only [stepSocket, Option.some.injEq] at h
      rw [← h]
      exact inv_p3_after _ hi
  | _ => simp [stepSocket] at h

/-! ## Dropping -/

/-- The provider forgets a resource that is being dropped: no map has its index then. -/
theorem forget_keys {s : Sys} {rep : ℕ} {live : Live} (hi : Inv s)
    (hlive : s.table rep = some live) :
    (s.forget rep live.kind).tunnels rep = none ∧
    (s.forget rep live.kind).p2_tunnels rep = none ∧
    (s.forget rep live.kind).virt.p2_resolves rep = none := by
  cases hkind : live.kind with
  | TcpSocket =>
      have hstream := no_resolve hi hlive (by simp [hkind])
      exact ⟨Function.update_self _ _ _, Function.update_self _ _ _, hstream⟩
  | ResolveAddressStream name =>
      obtain ⟨ht, hp2⟩ := no_tunnels hi hlive (by simp [hkind])
      exact ⟨ht, hp2, s.virt.setResolve_self _ _⟩
  | other =>
      obtain ⟨ht, hp2⟩ := no_tunnels hi hlive (by simp [hkind])
      exact ⟨ht, hp2, no_resolve hi hlive (by simp [hkind])⟩

/-- Entries only go. -/
theorem inv_forget {s : Sys} (rep : ℕ) (kind : Kind) (hi : Inv s) : Inv (s.forget rep kind) := by
  cases kind with
  | TcpSocket =>
      refine inv_frame hi rfl rfl (fun n hn => hn) hi.dialed (fun r e he => .inl ⟨e, ?_, rfl⟩)
        (fun r e he => .inl ⟨e, ?_, rfl⟩) (fun r hr => hr) fun q hq _ => .inl hq
      · rcases update_eq_some he with ⟨-, hnew⟩ | ⟨-, hold⟩
        · exact absurd hnew (by simp)
        · exact hold
      · rcases update_eq_some he with ⟨-, hnew⟩ | ⟨-, hold⟩
        · exact absurd hnew (by simp)
        · exact hold
  | ResolveAddressStream name =>
      refine inv_frame hi rfl rfl (fun n hn => hn) hi.dialed (fun r e he => .inl ⟨e, he, rfl⟩)
        (fun r e he => .inl ⟨e, he, rfl⟩) (fun r hsome => ?_) fun q hq _ => .inl hq
      replace hsome : ((s.virt.setResolve rep none).p2_resolves r).isSome := hsome
      by_cases hr : r = rep
      · rw [hr, Resolve.Virt.setResolve_self] at hsome
        exact absurd hsome (by simp)
      · rwa [s.virt.setResolve_of_ne _ hr] at hsome
  | other => exact hi

/-- A resource without entries and without an outstanding call leaves the table. -/
theorem inv_dropped {s : Sys} {rep : ℕ} (hi : Inv s) (htunnel : s.tunnels rep = none)
    (hp2 : s.p2_tunnels rep = none) (hresolve : s.virt.p2_resolves rep = none)
    (hcalls : ∀ p ∈ s.calls, p.outstanding = true → p.rep ≠ rep) :
    Inv { s with table := Function.update s.table rep none } := by
  have hkeep : ∀ {r live}, r ≠ rep → s.table r = some live →
      Function.update s.table rep none r = some live := by
    intro r live hne hlive
    rwa [Function.update_of_ne hne]
  refine ⟨fun r e h => ?_, fun r e h => ?_, fun r state h => ?_, fun p hp hout => ?_,
    fun r live h => ?_, hi.dialed⟩
  · have hne : r ≠ rep := by
      rintro rfl
      exact absurd (h.symm.trans htunnel) (by simp)
    obtain ⟨hlive, hn⟩ := hi.tunnels r e h
    exact ⟨hkeep hne hlive, hn⟩
  · have hne : r ≠ rep := by
      rintro rfl
      exact absurd (h.symm.trans hp2) (by simp)
    obtain ⟨hlive, hn⟩ := hi.p2_tunnels r e h
    exact ⟨hkeep hne hlive, hn⟩
  · have hne : r ≠ rep := by
      rintro rfl
      exact absurd (h.symm.trans hresolve) (by simp)
    obtain ⟨number, name, real, hlive, hname⟩ := hi.p2_resolves r state h
    exact ⟨number, name, real, hkeep hne hlive, hname⟩
  · obtain ⟨hlive, hn⟩ := hi.calls p hp hout
    exact ⟨hkeep (hcalls p hp hout) hlive, hn⟩
  · rcases update_eq_some h with ⟨-, hnew⟩ | ⟨-, hold⟩
    · exact absurd hnew (by simp)
    · exact hi.numbered r live hold

/-- A drop: the entries go first, and then the index is free, unless wasmtime-wasi's part
failed. -/
theorem inv_drop {s s' : Sys} {rep : ℕ} {ok : Bool} (hi : Inv s)
    (h : step s (.drop rep ok) = some s') : Inv s' := by
  cases hlive : s.table rep with
  | none => simp [step, hlive] at h
  | some live =>
      by_cases hbusy : s.calls.any fun p => p.rep = rep && p.outstanding
      · simp [step, hlive, hbusy] at h
      · have hforget := inv_forget rep live.kind hi
        cases ok with
        | false =>
            simp only [step, hlive, if_neg hbusy, Bool.false_eq_true, if_false,
              Option.some.injEq] at h
            rw [← h]
            exact hforget
        | true =>
            simp only [step, hlive, if_neg hbusy, if_true, Option.some.injEq] at h
            rw [← h]
            obtain ⟨htunnel, hp2, hresolve⟩ := forget_keys hi hlive
            have htable : (s.forget rep live.kind).table = s.table := by
              cases live.kind <;> rfl
            have hcalls : (s.forget rep live.kind).calls = s.calls := by
              cases live.kind <;> rfl
            rw [← htable]
            refine inv_dropped hforget htunnel hp2 hresolve fun p hp hout heq => hbusy ?_
            rw [hcalls] at hp
            rw [List.any_eq_true]
            exact ⟨p, hp, by rw [heq, hout]; simp⟩

/-! ## The contract holds -/

/-- The steps, each by its own lemma. -/
theorem inv_step {s s' : Sys} {a : Act} (hi : Inv s) (h : step s a = some s') : Inv s' := by
  cases a with
  | create rep =>
      by_cases hfree : s.table rep = none
      · simp only [step, if_pos hfree, Option.some.injEq] at h
        rw [← h]
        exact inv_push _ hi hfree
      · simp [step, hfree] at h
  | push rep =>
      by_cases hfree : s.table rep = none
      · simp only [step, if_pos hfree, Option.some.injEq] at h
        rw [← h]
        exact inv_push _ hi hfree
      · simp [step, hfree] at h
  | resolve suffix name host =>
      simp only [step, Option.some.injEq] at h
      rw [← h]
      exact inv_frame hi rfl rfl (fun n hn => hn) hi.dialed (fun r e he => .inl ⟨e, he, rfl⟩)
        (fun r e he => .inl ⟨e, he, rfl⟩) (fun r hr => hr) fun q hq _ => .inl hq
  | lookup rep name host =>
      by_cases hfree : s.table rep = none
      · cases host with
        | error e =>
            -- the delegated lookup failed: there is no stream
            cases hname : strip_suffix name <;>
            · simp only [step, if_pos hfree, Resolve.P2.resolve_addresses, hname, Except.map,
                Option.some.injEq] at h
              rwa [← h]
        | ok u =>
            cases hname : strip_suffix name with
            | none =>
                simp only [step, if_pos hfree, Resolve.P2.resolve_addresses, hname, Except.map,
                  Option.some.injEq] at h
                rw [← h]
                exact inv_push _ hi hfree
            | some real =>
                simp only [step, if_pos hfree, Resolve.P2.resolve_addresses, hname, Except.map,
                  Option.some.injEq] at h
                rw [← h]
                exact inv_opened hi hfree hname
      · simp [step, hfree] at h
  | next rep suffix delegated =>
      simp only [step] at h
      split at h
      · obtain ⟨⟨result, virt⟩, hcall, rfl⟩ := Option.map_eq_some_iff.mp h
        exact inv_frame hi rfl rfl (fun n hn => hn) hi.dialed (fun r e he => .inl ⟨e, he, rfl⟩)
          (fun r e he => .inl ⟨e, he, rfl⟩) (next_keys hcall) fun q hq _ => .inl hq
      · exact absurd h (by simp)
  | checked i _ | dialed i _ _ | handshaken i _ | returns i _ | cancel i =>
      obtain ⟨p, hp, hcall⟩ := Option.bind_eq_some_iff.mp h
      exact inv_stepCall hi hp hcall
  | store_outcome t outcome => exact inv_stepTask hi h
  | signal_ready t => exact inv_stepTask hi h
  | drop rep ok => exact inv_drop hi h
  | connect rep _ | start_connect rep _ _ | finish_connect rep _ | send rep | receive rep =>
      simp only [step, Act.socket] at h
      split at h
      case h_1 number hlive => exact inv_stepSocket hi hlive h
      case h_2 => exact absurd h (by simp)

/-- **No socket or resolve stream inherits another one's tunnel state through index reuse.**
For every prefix, every sequence of calls of both generations, every reuse of free indices,
and every outcome of what is delegated. -/
theorem no_entry_is_inherited (random : Fin 8 → UInt8) (acts : List Act) :
    Lts.Always step NoInheritance (.init random) acts :=
  Lts.always_of_invariant (inv_init random) inv_step noInheritance_of_inv

end PolymorphTls.Store

/-
The guest virtualizer's TCP socket (`tls-virt-guest/src/lib.rs`): `VTcp`, its
`TcpState`, and any number of `connect` calls outstanding on it.

A `connect` runs from await to await. To an ordinary address it takes the host socket
out (leaving `Busy`), awaits the host's connect and writes the socket back over
whatever the state is then. To a handle address it reads nothing of the state, awaits
the transport's connect and the TLS handshake, and overwrites the state with its
tunnel. A call dropped at an await keeps what it took.

The socket contract -- one connect succeeds, and its state stays -- therefore holds
only along schedules whose connects do not overlap in one of four ways. They are the
cases of `NoOverlap`, and the equivalence below says there is no fifth.

The host's results are chosen by the schedule, with one rule of the host's own
contract: a connected host socket does not connect again.
-/
import PolymorphTls.Lts
import PolymorphTls.Sockets

set_option autoImplicit false

namespace PolymorphTls.GuestSocket

/-! ## The socket -/

/-- An imported `host::TcpSocket`. Of the host's state only one thing matters here:
the `connect` call that connected it, if one did. -/
structure HostSocket where
  connectedBy : Option ℕ
  deriving DecidableEq

/-- `host::TcpSocket::create`. -/
def HostSocket.create : HostSocket := ⟨none⟩

/-- The host socket after its connect, made by call `i`, returned. -/
def HostSocket.finish (socket : HostSocket) (i : ℕ) (result : Except ErrorCode Unit) :
    HostSocket :=
  match result with
  | .ok () => ⟨some i⟩
  | .error _ => socket

/-- The tunnel's endpoints are created at connect time and handed out once: of each
`Option` it is kept whether it is still there. -/
structure Tunnel where
  /-- The handle address the application dialed, for `get-remote-address`. -/
  remote : IpSocketAddress
  /-- The real connection under the tunnel. -/
  host : HostSocket
  app_stream_tx : Bool
  send_verdict : Bool
  cleartext : Bool
  deriving DecidableEq

/-- The socket's state, as `lib.rs` has it. `Busy` is where a pass-through connect has taken
the host socket out. -/
inductive TcpState where
  /-- Pass-through: every operation delegates to this host socket. -/
  | Host (socket : HostSocket)
  /-- TLS tunnel to a handle address. -/
  | Tunnel (tunnel : Tunnel)
  /-- Transitional state during `connect`. -/
  | Busy
  deriving DecidableEq

/-- Where a verdict the guest is given comes from. -/
inductive Verdict where
  | host
  | tunnel
  | invalid_state_verdict
  deriving DecidableEq

/-- `VTcp::send`. Both endpoints are taken before either is looked at. -/
def send : TcpState → Verdict × TcpState
  | .Host socket => (.host, .Host socket)
  | .Tunnel t =>
      let taken := { t with app_stream_tx := false, send_verdict := false }
      if t.app_stream_tx ∧ t.send_verdict then (.tunnel, .Tunnel taken)
      else (.invalid_state_verdict, .Tunnel taken)
  | .Busy => (.invalid_state_verdict, .Busy)

/-- `VTcp::receive`. -/
def receive : TcpState → Verdict × TcpState
  | .Host socket => (.host, .Host socket)
  | .Tunnel t =>
      if t.cleartext then (.tunnel, .Tunnel { t with cleartext := false })
      else (.invalid_state_verdict, .Tunnel t)
  | .Busy => (.invalid_state_verdict, .Busy)

/-- `VTcp::get_remote_address`, given what the host socket would answer. -/
def get_remote_address (host : HostSocket → Except ErrorCode IpSocketAddress) :
    TcpState → Except ErrorCode IpSocketAddress
  -- preserve the illusion: the application dialed the handle
  | .Tunnel t => .ok t.remote
  | .Host socket => host socket
  | .Busy => .error .InvalidState

/-! ## `connect`, from await to await -/

/-- A `connect` call: not made, suspended at one of its awaits, or over. -/
inductive Call where
  | idle
  /-- At `socket.connect(remote_address).await`. -/
  | passThrough (socket : HostSocket) (remote : IpSocketAddress)
  /-- At `real.connect(..).await`. -/
  | dialing (remote : IpSocketAddress) (hostname : String) (real_addr : SocketAddr)
  /-- At `connector.connect(hostname, ..).await`. -/
  | handshaking (remote : IpSocketAddress) (hostname : String) (real : HostSocket)
  | returned (result : Except ErrorCode Unit)
  | dropped

/-- `connect` up to its first await; `created` is what `host::TcpSocket::create`
returns if it is called. -/
def connect (table : HandleTable) (state : TcpState) (remote : IpSocketAddress)
    (created : Except ErrorCode Unit) : Call × TcpState :=
  match lookup_handle table remote with
  | none =>
      -- take the socket out so the borrow does not span the await
      match state with
      | .Host socket => (.passThrough socket remote, .Busy)
      | state => (.returned (.error .InvalidState), state)
  | some (hostname, addrs, port) =>
      match pick_addr addrs port with
      | none => (.returned (.error .RemoteUnreachable), state)
      | some real_addr =>
          match created with
          | .error e => (.returned (.error e), state)
          | .ok () => (.dialing remote hostname real_addr, state)

/-- The pass-through path after its await. -/
def connect_passed_through (i : ℕ) (socket : HostSocket) (result : Except ErrorCode Unit) :
    Call × TcpState :=
  (.returned result, .Host (socket.finish i result))

/-- The tunnel path between its awaits. Nothing is installed before the handshake succeeded,
so a failure up to here costs the socket nothing. -/
def connect_dialed (i : ℕ) (remote : IpSocketAddress) (hostname : String)
    (result : Except ErrorCode Unit) : Call :=
  match result with
  | .ok () => .handshaking remote hostname (HostSocket.create.finish i result)
  | .error e => .returned (.error e)

/-- The tunnel path after its second await. It installs the tunnel over whatever the state
is by then. -/
def connect_handshaken (state : TcpState) (remote : IpSocketAddress) (real : HostSocket)
    (result : Except String Unit) : Call × TcpState :=
  match result with
  | .ok () =>
      (.returned (.ok ()),
        .Tunnel
          { remote
            host := real
            app_stream_tx := true
            send_verdict := true
            cleartext := true })
  | .error _ => (.returned (.error .ConnectionReset), state)

/-! ## The system -/

/-- A socket and the `connect` calls made on it. Calls are numbered, since several may be
outstanding at once: nothing in the code keeps a second one out. -/
structure Sys where
  table : HandleTable
  state : TcpState
  /-- The `connect` calls on this socket, by the order they are numbered in. -/
  calls : ℕ → Call

/-- `VTcp::create`. -/
def Sys.init (table : HandleTable) : Sys :=
  ⟨table, .Host HostSocket.create, fun _ => .idle⟩

/-- What the guest and the runtime do, from await to await. -/
inductive Act where
  /-- Some `resolve_addresses` mints a handle. -/
  | mint (suffix : Fin 8 → UInt8) (entry : Entry)
  | connect (i : ℕ) (remote : IpSocketAddress) (created : Except ErrorCode Unit)
  /-- The host's connect of a pass-through call returns. -/
  | passedThrough (i : ℕ) (result : Except ErrorCode Unit)
  /-- The transport's connect of a tunnel call returns. -/
  | dialed (i : ℕ) (result : Except ErrorCode Unit)
  /-- The TLS handshake of a tunnel call ends. -/
  | handshaken (i : ℕ) (result : Except String Unit)
  /-- A suspended call is dropped. -/
  | drop (i : ℕ)
  | send
  | receive
  | get_remote_address

/-- Call `i` moves on, and the socket's state with it. -/
def Sys.advance (s : Sys) (i : ℕ) (next : Call × TcpState) : Sys :=
  { s with calls := Function.update s.calls i next.1, state := next.2 }

def step (s : Sys) : Act → Option Sys
  | .mint suffix entry => some { s with table := (s.table.mint suffix entry).2 }
  | .connect i remote created =>
      match s.calls i with
      | .idle => some (s.advance i (connect s.table s.state remote created))
      | _ => none
  | .passedThrough i result =>
      match s.calls i with
      | .passThrough socket _ =>
          -- a connected host socket does not connect again
          if result = .ok () ∧ socket.connectedBy ≠ none then none
          else some (s.advance i (connect_passed_through i socket result))
      | _ => none
  | .dialed i result =>
      match s.calls i with
      | .dialing remote hostname _ =>
          some (s.advance i (connect_dialed i remote hostname result, s.state))
      | _ => none
  | .handshaken i result =>
      match s.calls i with
      | .handshaking remote _ real =>
          some (s.advance i (connect_handshaken s.state remote real result))
      | _ => none
  | .drop i =>
      match s.calls i with
      | .passThrough _ _ | .dialing _ _ _ | .handshaking _ _ _ =>
          some (s.advance i (.dropped, s.state))
      | _ => none
  | .send => some { s with state := (send s.state).2 }
  | .receive => some { s with state := (receive s.state).2 }
  | .get_remote_address => some s

/-! ## The contract -/

/-- The `connect` call that made the socket what it is: the one that connected the host
socket the state delegates to or tunnels over. -/
def TcpState.installed : TcpState → Option ℕ
  | .Host socket => socket.connectedBy
  | .Tunnel t => t.host.connectedBy
  | .Busy => none

/-- Call `i` is suspended in the host's connect. -/
def Sys.passesThrough (s : Sys) (i : ℕ) : Prop :=
  ∃ socket remote, s.calls i = .passThrough socket remote

/-- **A socket connects once.** At most one `connect` has returned `Ok`, the socket is
in the state that call installed, and it is `Busy` only while a pass-through call is
outstanding. -/
structure ConnectsOnce (s : Sys) : Prop where
  at_most_one : ∀ i j, s.calls i = .returned (.ok ()) → s.calls j = .returned (.ok ()) → i = j
  stays : ∀ i, s.calls i = .returned (.ok ()) → s.state.installed = some i
  busy : s.state = .Busy → ∃ i, s.passesThrough i

/-- The connects do not overlap: no pass-through starts on a socket that is connected,
none comes back to a socket that is no longer `Busy` or is dropped while it is, and no
tunnel is finished for a socket that another call has connected. -/
def NoOverlap (s : Sys) : Act → Prop
  | .connect _ remote _ => lookup_handle s.table remote = none →
      ∀ socket, s.state = .Host socket → socket.connectedBy = none
  | .passedThrough _ _ => s.state = .Busy
  | .handshaken _ result => result = .ok () → s.state.installed = none
  | .drop i => s.passesThrough i → s.state ≠ .Busy
  | _ => True

/-- The host socket is in one place: in the state, in the one pass-through call while
`Busy`, or lost under a tunnel; and exactly the call the state says has returned `Ok`. -/
structure Inv (s : Sys) : Prop where
  ok_iff : ∀ i, s.calls i = .returned (.ok ()) ↔ s.state.installed = some i
  fresh : ∀ i socket remote, s.calls i = .passThrough socket remote → socket.connectedBy = none
  dialed : ∀ i remote hostname real, s.calls i = .handshaking remote hostname real →
    real.connectedBy = some i
  tunnel : ∀ t, s.state = .Tunnel t → t.host.connectedBy ≠ none
  host_free : ∀ socket, s.state = .Host socket → ∀ i, ¬ s.passesThrough i
  busy : s.state = .Busy → ∃ i, s.passesThrough i ∧ ∀ j, s.passesThrough j → j = i

/-! ## What a step can do

The nine actions have six effects. Every lemma about a step below is a case analysis
over them. -/

/-- The state afterwards is the same, up to endpoints a tunnel handed out. -/
def TcpState.SameMode (a b : TcpState) : Prop :=
  b = a ∨ ∃ t t', a = .Tunnel t ∧ b = .Tunnel t' ∧ t'.host = t.host

/-- `send` hands endpoints out and leaves the mode. -/
theorem sameMode_send (a : TcpState) : a.SameMode (send a).2 := by
  cases a with
  | Tunnel t =>
      refine .inr ⟨t, { t with app_stream_tx := false, send_verdict := false }, rfl, ?_, rfl⟩
      by_cases hboth : t.app_stream_tx ∧ t.send_verdict <;> simp [send, hboth]
  | Host socket => exact .inl rfl
  | Busy => exact .inl rfl

/-- So does `receive`. -/
theorem sameMode_receive (a : TcpState) : a.SameMode (receive a).2 := by
  cases a with
  | Tunnel t =>
      by_cases hclear : t.cleartext = true
      · refine .inr ⟨t, { t with cleartext := false }, rfl, ?_, rfl⟩
        simp [receive, hclear]
      · exact .inl (by simp [receive, hclear])
  | Host socket => exact .inl rfl
  | Busy => exact .inl rfl

/-- Where a call can move to without touching the socket's state. -/
def Call.Quiet (i : ℕ) : Call → Prop
  | .passThrough _ _ => False
  | .returned result => result ≠ .ok ()
  | .handshaking _ _ real => real.connectedBy = some i
  | _ => True

/-- What a step can do, said once: the property and the invariant below are read off
this. -/
inductive Trans (s : Sys) : Act → Sys → Prop where
  /-- No call moves. -/
  | rest {a : Act} {s' : Sys} (hcalls : s'.calls = s.calls)
      (hmode : s.state.SameMode s'.state) (hclear : NoOverlap s a) : Trans s a s'
  /-- A call moves on by itself. -/
  | move {a : Act} {i : ℕ} {c : Call} (hfrom : ¬ s.passesThrough i)
      (hopen : s.calls i ≠ .returned (.ok ())) (hto : c.Quiet i) (hclear : NoOverlap s a) :
      Trans s a (s.advance i (c, s.state))
  /-- A pass-through call takes the host socket. -/
  | start {i : ℕ} {remote : IpSocketAddress} {created : Except ErrorCode Unit}
      {socket : HostSocket} (hidle : s.calls i = .idle)
      (hplain : lookup_handle s.table remote = none) (hhost : s.state = .Host socket) :
      Trans s (.connect i remote created) (s.advance i (.passThrough socket remote, .Busy))
  /-- A pass-through call puts it back. -/
  | comeBack {i : ℕ} {socket : HostSocket} {remote : IpSocketAddress}
      {result : Except ErrorCode Unit} (hcall : s.calls i = .passThrough socket remote) :
      Trans s (.passedThrough i result) (s.advance i (connect_passed_through i socket result))
  /-- A tunnel call installs its tunnel. -/
  | install {i : ℕ} {remote : IpSocketAddress} {hostname : String} {real : HostSocket}
      (hcall : s.calls i = .handshaking remote hostname real) :
      Trans s (.handshaken i (.ok ()))
        (s.advance i (connect_handshaken s.state remote real (.ok ())))
  /-- A pass-through call is dropped with the socket it holds. -/
  | abandon {i : ℕ} (hcall : s.passesThrough i) :
      Trans s (.drop i) (s.advance i (.dropped, s.state))

/-- A call that returns an error leaves the state alone. -/
theorem Trans.fail {s : Sys} {a : Act} {i : ℕ} (hfrom : ¬ s.passesThrough i)
    (hopen : s.calls i ≠ .returned (.ok ())) (hclear : NoOverlap s a) (e : ErrorCode) :
    Trans s a (s.advance i (.returned (.error e), s.state)) := by
  have hto : (Call.returned (.error e)).Quiet i := by simp [Call.Quiet]
  exact .move hfrom hopen hto hclear

/-- A call that starts: it is refused, takes the host socket, or leaves for the tunnel
path. -/
theorem trans_of_connect {s : Sys} {i : ℕ} (hidle : s.calls i = .idle)
    (remote : IpSocketAddress) (created : Except ErrorCode Unit) :
    Trans s (.connect i remote created)
      (s.advance i (connect s.table s.state remote created)) := by
  have hfrom : ¬ s.passesThrough i := by
    rintro ⟨socket, r, hpass⟩
    simp [hidle] at hpass
  have hopen : s.calls i ≠ .returned (.ok ()) := by simp [hidle]
  unfold connect
  cases hlook : lookup_handle s.table remote with
  | none =>
      -- without a host socket to take, the state is put back and the call fails
      cases hstate : s.state with
      | Host socket => exact .start hidle hlook hstate
      | Tunnel t =>
          have hclear : NoOverlap s (.connect i remote created) := by simp [NoOverlap, hstate]
          simpa [hstate] using Trans.fail hfrom hopen hclear .InvalidState
      | Busy =>
          have hclear : NoOverlap s (.connect i remote created) := by simp [NoOverlap, hstate]
          simpa [hstate] using Trans.fail hfrom hopen hclear .InvalidState
  | some dest =>
      obtain ⟨hostname, addrs, port⟩ := dest
      have hclear : NoOverlap s (.connect i remote created) := by simp [NoOverlap, hlook]
      cases hpick : pick_addr addrs port with
      | none => simpa [hpick] using Trans.fail hfrom hopen hclear .RemoteUnreachable
      | some real_addr =>
          cases created with
          | error e => simpa [hpick] using Trans.fail hfrom hopen hclear e
          | ok u =>
              simpa [hpick] using
                Trans.move (c := .dialing remote hostname real_addr) hfrom hopen trivial hclear

/-- **Inversion.** Every step of the system is one of the listed effects. -/
theorem trans_of_step {s s' : Sys} {a : Act} (h : step s a = some s') : Trans s a s' := by
  cases a with
  | mint suffix entry =>
      rw [step, Option.some.injEq] at h
      subst h
      exact .rest rfl (.inl rfl) trivial
  | send =>
      rw [step, Option.some.injEq] at h
      subst h
      exact .rest rfl (sameMode_send s.state) trivial
  | receive =>
      rw [step, Option.some.injEq] at h
      subst h
      exact .rest rfl (sameMode_receive s.state) trivial
  | get_remote_address =>
      rw [step, Option.some.injEq] at h
      subst h
      exact .rest rfl (.inl rfl) trivial
  | connect i remote created =>
      cases hc : s.calls i with
      | idle =>
          simp only [step, hc, Option.some.injEq] at h
          subst h
          exact trans_of_connect hc remote created
      | _ => simp [step, hc] at h
  | passedThrough i result =>
      cases hc : s.calls i with
      | passThrough socket remote =>
          by_cases hagain : result = .ok () ∧ socket.connectedBy ≠ none
          · simp [step, hc, hagain] at h
          · simp only [step, hc, if_neg hagain, Option.some.injEq] at h
            subst h
            exact .comeBack hc
      | _ => simp [step, hc] at h
  | dialed i result =>
      cases hc : s.calls i with
      | dialing remote hostname real_addr =>
          simp only [step, hc, Option.some.injEq] at h
          subst h
          refine .move ?_ (by simp [hc]) ?_ trivial
          · rintro ⟨socket, r, hpass⟩
            simp [hc] at hpass
          · cases result with
            | ok u => simp [connect_dialed, Call.Quiet, HostSocket.finish]
            | error e => simp [connect_dialed, Call.Quiet]
      | _ => simp [step, hc] at h
  | handshaken i result =>
      cases hc : s.calls i with
      | handshaking remote hostname real =>
          simp only [step, hc, Option.some.injEq] at h
          subst h
          cases result with
          | ok u => exact .install hc
          | error e =>
              refine .fail ?_ (by simp [hc]) (by simp [NoOverlap]) .ConnectionReset
              rintro ⟨socket, r, hpass⟩
              simp [hc] at hpass
      | _ => simp [step, hc] at h
  | drop i =>
      -- only a pass-through call takes something of the socket with it
      by_cases hpass : s.passesThrough i
      · obtain ⟨socket, remote, hc⟩ := hpass
        simp only [step, hc, Option.some.injEq] at h
        subst h
        exact .abandon ⟨socket, remote, hc⟩
      · have hclear : NoOverlap s (.drop i) := fun hno => absurd hno hpass
        cases hc : s.calls i with
        | passThrough socket remote => exact absurd ⟨socket, remote, hc⟩ hpass
        | dialing remote hostname real_addr =>
            simp only [step, hc, Option.some.injEq] at h
            subst h
            exact .move hpass (by simp [hc]) trivial hclear
        | handshaking remote hostname real =>
            simp only [step, hc, Option.some.injEq] at h
            subst h
            exact .move hpass (by simp [hc]) trivial hclear
        | _ => simp [step, hc] at h

/-! ## The invariant is kept -/

section Advance

variable {s : Sys} {i j : ℕ} {next : Call × TcpState}

@[simp] theorem advance_state : (s.advance i next).state = next.2 := rfl

@[simp] theorem advance_calls_self : (s.advance i next).calls i = next.1 := by
  simp [Sys.advance]

theorem advance_calls_of_ne (hne : j ≠ i) : (s.advance i next).calls j = s.calls j := by
  simp [Sys.advance, hne]

/-- Another call's move is not this one's. -/
theorem advance_passesThrough_of_ne (hne : j ≠ i) :
    (s.advance i next).passesThrough j ↔ s.passesThrough j := by
  unfold Sys.passesThrough
  rw [advance_calls_of_ne hne]

/-- A quiet move adds no pass-through call. -/
theorem passesThrough_of_advance {c : Call} {state : TcpState} (hto : c.Quiet i)
    (h : (s.advance i (c, state)).passesThrough j) : j ≠ i ∧ s.passesThrough j := by
  have hne : j ≠ i := by
    rintro rfl
    obtain ⟨socket, remote, hpass⟩ := h
    rw [advance_calls_self] at hpass
    subst hpass
    exact hto
  exact ⟨hne, (advance_passesThrough_of_ne hne).mp h⟩

end Advance

/-- A new socket has a host socket and no call. -/
theorem inv_init (table : HandleTable) : Inv (Sys.init table) where
  ok_iff := by simp [Sys.init, TcpState.installed, HostSocket.create]
  fresh := by simp [Sys.init]
  dialed := by simp [Sys.init]
  tunnel := by simp [Sys.init]
  host_free := by
    rintro socket - i ⟨held, remote, hpass⟩
    simp [Sys.init] at hpass
  busy := by simp [Sys.init]

/-- A step that leaves the calls and the mode alone. -/
theorem inv_rest {s s' : Sys} (hi : Inv s) (hcalls : s'.calls = s.calls)
    (hmode : s.state.SameMode s'.state) : Inv s' := by
  have hpass : ∀ i, s'.passesThrough i ↔ s.passesThrough i := fun i => by
    unfold Sys.passesThrough
    rw [hcalls]
  rcases hmode with hsame | ⟨t, t', ht, ht', hhost⟩
  · exact ⟨by rw [hcalls, hsame]; exact hi.ok_iff, by rw [hcalls]; exact hi.fresh,
      by rw [hcalls]; exact hi.dialed, by rw [hsame]; exact hi.tunnel,
      by simp only [hsame, hpass]; exact hi.host_free,
      by simp only [hsame, hpass]; exact hi.busy⟩
  · refine ⟨fun i => ?_, by rw [hcalls]; exact hi.fresh, by rw [hcalls]; exact hi.dialed,
      fun u hu => ?_, by simp [ht'], by simp [ht']⟩
    · have hok := hi.ok_iff i
      rw [ht] at hok
      rw [hcalls, ht', hok, TcpState.installed, TcpState.installed, hhost]
    · rw [ht', TcpState.Tunnel.injEq] at hu
      rw [← hu, hhost]
      exact hi.tunnel t ht

/-- A quiet move of call `i` that leaves the state alone. It may end a pass-through
call only if the state is not `Busy`. -/
theorem inv_move {s : Sys} {i : ℕ} {c : Call} (hi : Inv s) (hto : c.Quiet i)
    (hopen : s.calls i ≠ .returned (.ok ())) (hfrom : s.passesThrough i → s.state ≠ .Busy) :
    Inv (s.advance i (c, s.state)) where
  ok_iff j := by
    by_cases hj : j = i
    · subst hj
      rw [advance_calls_self, advance_state, ← hi.ok_iff j]
      have hc : c ≠ .returned (.ok ()) := by
        rintro rfl
        exact hto rfl
      simp [hc, hopen]
    · rw [advance_calls_of_ne hj]
      exact hi.ok_iff j
  fresh j socket remote hcall := by
    obtain ⟨hj, -⟩ := passesThrough_of_advance hto ⟨socket, remote, hcall⟩
    rw [advance_calls_of_ne hj] at hcall
    exact hi.fresh j socket remote hcall
  dialed j remote hostname real hcall := by
    by_cases hj : j = i
    · subst hj
      rw [advance_calls_self] at hcall
      dsimp only at hcall
      subst hcall
      exact hto
    · rw [advance_calls_of_ne hj] at hcall
      exact hi.dialed j remote hostname real hcall
  tunnel := hi.tunnel
  host_free socket hstate j hpass :=
    hi.host_free socket hstate j (passesThrough_of_advance hto hpass).2
  busy hstate := by
    obtain ⟨k, hk, huniq⟩ := hi.busy hstate
    have hne : k ≠ i := by
      rintro rfl
      exact hfrom hk hstate
    exact ⟨k, (advance_passesThrough_of_ne hne).mpr hk,
      fun j hj => huniq j (passesThrough_of_advance hto hj).2⟩

/-- A pass-through call takes the host socket out of a state that has one nobody
connected. -/
theorem inv_start {s : Sys} {i : ℕ} {socket : HostSocket} {remote : IpSocketAddress}
    (hi : Inv s) (hidle : s.calls i = .idle) (hhost : s.state = .Host socket)
    (hunconnected : socket.connectedBy = none) :
    Inv (s.advance i (.passThrough socket remote, .Busy)) where
  ok_iff j := by
    have hnone : s.calls j ≠ .returned (.ok ()) := by
      rw [Ne, hi.ok_iff j, hhost, TcpState.installed, hunconnected]
      simp
    by_cases hj : j = i
    · subst hj
      simp [TcpState.installed]
    · rw [advance_calls_of_ne hj]
      simp [hnone, TcpState.installed]
  fresh j held remote' hcall := by
    by_cases hj : j = i
    · subst hj
      rw [advance_calls_self, Call.passThrough.injEq] at hcall
      rw [← hcall.1, hunconnected]
    · rw [advance_calls_of_ne hj] at hcall
      exact hi.fresh j held remote' hcall
  dialed j remote' hostname real hcall := by
    by_cases hj : j = i
    · subst hj
      simp at hcall
    · rw [advance_calls_of_ne hj] at hcall
      exact hi.dialed j remote' hostname real hcall
  tunnel := by simp
  host_free := by simp
  busy _ := by
    -- the state was `Host`, so no other pass-through call is outstanding
    refine ⟨i, ⟨socket, remote, advance_calls_self⟩, fun j hpass => ?_⟩
    by_contra hj
    exact hi.host_free socket hhost j ((advance_passesThrough_of_ne hj).mp hpass)

/-- A call that returns with the state it installs, when no call has returned `Ok`. -/
theorem inv_return {s : Sys} {i : ℕ} {result : Except ErrorCode Unit} {state : TcpState}
    (hi : Inv s) (hnone : s.state.installed = none)
    (hinst : state.installed = if result = .ok () then some i else none)
    (hnotBusy : state ≠ .Busy) (htunnel : ∀ t, state = .Tunnel t → t.host.connectedBy ≠ none)
    (hlast : ∀ socket, state = .Host socket → ∀ j, s.passesThrough j → j = i) :
    Inv (s.advance i (.returned result, state)) where
  ok_iff j := by
    by_cases hj : j = i
    · subst hj
      by_cases hres : result = .ok ()
      · simp [hinst, hres]
      · simp [hinst, hres]
    · -- no call had returned `Ok` before this one
      have hj' : s.calls j ≠ .returned (.ok ()) := by
        rw [Ne, hi.ok_iff j, hnone]
        simp
      have hij : i ≠ j := Ne.symm hj
      rw [advance_calls_of_ne hj, advance_state, hinst]
      by_cases hres : result = .ok ()
      · simp [hres, hj', hij]
      · simp [hres, hj']
  fresh j socket remote hcall := by
    by_cases hj : j = i
    · subst hj
      simp at hcall
    · rw [advance_calls_of_ne hj] at hcall
      exact hi.fresh j socket remote hcall
  dialed j remote hostname real hcall := by
    by_cases hj : j = i
    · subst hj
      simp at hcall
    · rw [advance_calls_of_ne hj] at hcall
      exact hi.dialed j remote hostname real hcall
  tunnel := htunnel
  host_free socket hstate j hpass := by
    have hj : j ≠ i := by
      rintro rfl
      obtain ⟨held, remote, hcall⟩ := hpass
      simp at hcall
    exact hj (hlast socket hstate j ((advance_passesThrough_of_ne hj).mp hpass))
  busy hbusy := absurd hbusy hnotBusy

/-- A pass-through call comes back to the `Busy` it left, with the host socket it took. -/
theorem inv_comeBack {s : Sys} {i : ℕ} {socket : HostSocket} {remote : IpSocketAddress}
    (hi : Inv s) (hcall : s.calls i = .passThrough socket remote) (hbusy : s.state = .Busy)
    (result : Except ErrorCode Unit) :
    Inv (s.advance i (connect_passed_through i socket result)) := by
  have hfresh := hi.fresh i socket remote hcall
  refine inv_return hi (by rw [hbusy, TcpState.installed]) ?_ (by simp) (by simp) ?_
  · cases result with
    | ok u => simp [TcpState.installed, HostSocket.finish]
    | error e => simp [TcpState.installed, HostSocket.finish, hfresh]
  · -- the socket came from the only pass-through call there is
    intro _ _ j hj
    obtain ⟨k, -, huniq⟩ := hi.busy hbusy
    rw [huniq j hj, huniq i ⟨socket, remote, hcall⟩]

/-- A tunnel call that succeeds installs its tunnel, over a socket no other call has
connected. -/
theorem inv_install {s : Sys} {i : ℕ} {remote : IpSocketAddress} {hostname : String}
    {real : HostSocket} (hi : Inv s) (hcall : s.calls i = .handshaking remote hostname real)
    (hnone : s.state.installed = none) :
    Inv (s.advance i (connect_handshaken s.state remote real (.ok ()))) := by
  have hreal := hi.dialed i remote hostname real hcall
  refine inv_return hi hnone ?_ (by simp) ?_ (by simp)
  · simp [TcpState.installed, hreal]
  · intro t ht
    rw [TcpState.Tunnel.injEq] at ht
    simp [← ht, hreal]

/-- A step under the condition. -/
theorem inv_step {s s' : Sys} {a : Act} (hi : Inv s) (hc : NoOverlap s a)
    (h : step s a = some s') : Inv s' := by
  cases trans_of_step h with
  | rest hcalls hmode _ => exact inv_rest hi hcalls hmode
  | move hfrom hopen hto _ => exact inv_move hi hto hopen fun hpass => absurd hpass hfrom
  | start hidle hplain hhost => exact inv_start hi hidle hhost (hc hplain _ hhost)
  | comeBack hcall => exact inv_comeBack hi hcall hc _
  | install hcall => exact inv_install hi hcall (hc rfl)
  | abandon hcall =>
      obtain ⟨socket, remote, hpass⟩ := hcall
      exact inv_move hi trivial (by simp [hpass]) hc

/-- The invariant counts the calls that returned `Ok`; the property is a part of it. -/
theorem connectsOnce_of_inv {s : Sys} (hi : Inv s) : ConnectsOnce s where
  at_most_one i j hok hok' := by
    rw [hi.ok_iff] at hok hok'
    exact Option.some.inj (hok.symm.trans hok')
  stays i hok := (hi.ok_iff i).mp hok
  busy hbusy := by
    obtain ⟨i, hpass, -⟩ := hi.busy hbusy
    exact ⟨i, hpass⟩

/-! ## The condition is exact -/

/-- A step outside the condition is one of four, and the state it leaves breaks a clause of
the property at once. -/
theorem not_connectsOnce_of_step {s s' : Sys} {a : Act} (hi : Inv s) (hc : ¬ NoOverlap s a)
    (h : step s a = some s') : ¬ ConnectsOnce s' := by
  intro honce
  cases trans_of_step h with
  | rest _ _ hclear => exact hc hclear
  | move _ _ _ hclear => exact hc hclear
  | @start i remote created socket hidle hplain hhost =>
      -- the connected socket is taken out from under the call that connected it
      cases hby : socket.connectedBy with
      | none =>
          refine hc fun _ other hother => ?_
          rw [hhost, TcpState.Host.injEq] at hother
          rw [← hother, hby]
      | some k =>
          have hok : s.calls k = .returned (.ok ()) := by
            rw [hi.ok_iff, hhost, TcpState.installed, hby]
          have hk : k ≠ i := by
            rintro rfl
            simp [hidle] at hok
          have hstays := honce.stays k (by rw [advance_calls_of_ne hk, hok])
          simp [TcpState.installed] at hstays
  | @comeBack i socket remote result hcall =>
      -- a tunnel was installed meanwhile: it is replaced, or a second call succeeds
      have htunnel : ∃ k, s.calls k = .returned (.ok ()) := by
        cases hstate : s.state with
        | Host held => exact absurd ⟨socket, remote, hcall⟩ (hi.host_free held hstate i)
        | Busy => exact absurd hstate hc
        | Tunnel t =>
            obtain ⟨k, hk⟩ := Option.ne_none_iff_exists'.mp (hi.tunnel t hstate)
            exact ⟨k, by rw [hi.ok_iff, hstate, TcpState.installed, hk]⟩
      obtain ⟨k, hok⟩ := htunnel
      have hk : k ≠ i := by
        rintro rfl
        simp [hcall] at hok
      have hok' : (s.advance i (connect_passed_through i socket result)).calls k
          = .returned (.ok ()) := by rw [advance_calls_of_ne hk, hok]
      have hstays := honce.stays k hok'
      cases result with
      | ok u => exact hk (honce.at_most_one k i hok' (by simp [connect_passed_through]))
      | error e =>
          have hfresh := hi.fresh i socket remote hcall
          simp [connect_passed_through, TcpState.installed, HostSocket.finish, hfresh] at hstays
  | @install i remote hostname real hcall =>
      -- a second call succeeds
      cases hinst : s.state.installed with
      | none => exact hc fun _ => hinst
      | some k =>
          have hok : s.calls k = .returned (.ok ()) := (hi.ok_iff k).mpr hinst
          have hk : k ≠ i := by
            rintro rfl
            simp [hcall] at hok
          refine hk (honce.at_most_one k i (by rw [advance_calls_of_ne hk, hok]) ?_)
          simp [connect_handshaken]
  | @abandon i hcall =>
      -- the socket is lost and the state stays `Busy`
      have hbusy : s.state = .Busy := by
        by_contra hne
        exact hc fun _ => hne
      obtain ⟨j, hj⟩ := honce.busy hbusy
      obtain ⟨hne, hj'⟩ := passesThrough_of_advance (c := .dropped) trivial hj
      obtain ⟨k, -, huniq⟩ := hi.busy hbusy
      exact hne ((huniq j hj').trans (huniq i hcall).symm)

/-- **A virtualized socket connects once, and stays what it connected to -- exactly when
its connects do not overlap.** For every handle table, every set of `connect` calls,
every order of their starts, completions and drops, every result, and `send`, `receive`
and `get_remote_address` in between. -/
theorem connects_once_iff_no_overlap (table : HandleTable) (acts : List Act) :
    Lts.Always step ConnectsOnce (Sys.init table) acts
      ↔ Lts.Steps step NoOverlap (Sys.init table) acts :=
  Lts.always_iff_steps (inv_init table) inv_step connectsOnce_of_inv not_connectsOnce_of_step

/-- A pass-through call and a tunnel call, outstanding together: the tunnel is installed,
then the pass-through comes back over it. The first action resolves the handle the second
call dials. -/
def overlapping : List Act :=
  let handle := .Ipv6 5432 0 (fun i => if i.val = 0 then 0xfd00 else 0) 0
  [.mint (fun _ => 0) ⟨"db.internal", [.V4 fun _ => 10]⟩,
    .connect 0 (.Ipv4 80 fun _ => 10) (.ok ()), .connect 1 handle (.ok ()),
    .dialed 1 (.ok ()), .handshaken 1 (.ok ()), .passedThrough 0 (.ok ())]

/-- Both calls return `Ok`. -/
theorem overlapping_connects_both_succeed :
    ¬ Lts.Always step ConnectsOnce (Sys.init (HandleTable.new fun _ => 0)) overlapping := by
  have hrun : ∃ s, Lts.run step (Sys.init (HandleTable.new fun _ => 0)) overlapping = some s
      ∧ s.calls 0 = .returned (.ok ()) ∧ s.calls 1 = .returned (.ok ()) :=
    ⟨_, rfl, rfl, rfl⟩
  obtain ⟨s, hrun, h0, h1⟩ := hrun
  exact Lts.not_always_of_run hrun fun honce =>
    absurd (honce.at_most_one 0 1 h0 h1) (by decide)

end PolymorphTls.GuestSocket

/-
The QUIC implementation under the driver of `quic-loopback` (`noq_proto`), as far as the
driver calls it: a record of its functions, which take and return the endpoint or the
connection they work on. Addresses are the ones of `std::net`, with the conversions of
`quic-loopback/src/addr.rs`.

What the driver relies on is stated as laws, each about what the documentation says: the
record of its own answers it could keep ([`Noq.Records`]), which connections the endpoint
routes to ([`Noq.Routes`]), when a connection has to be polled again ([`Noq.Quiets`]), and
that a poll that is repeated comes to its end ([`Noq.Finite`]).
-/
import PolymorphTls.Handles

set_option autoImplicit false

namespace PolymorphTls.Quic

/-! ## Addresses -/

/-- `std::net::SocketAddr`, with the fields `SocketAddrV6::new` takes. -/
inductive SocketAddr where
  | V4 (octets : Fin 4 → UInt8) (port : UInt16)
  | V6 (ip : Ipv6Addr) (port : UInt16) (flowinfo scope_id : UInt32)
  deriving DecidableEq

/-- `to_wasi`: IPv6 keeps its flow info and scope. -/
def to_wasi : SocketAddr → IpSocketAddress
  | .V4 octets port => .Ipv4 port octets
  | .V6 ip port flowinfo scope_id => .Ipv6 port flowinfo ip.segments scope_id

/-- `from_wasi`. -/
def from_wasi : IpSocketAddress → SocketAddr
  | .Ipv4 port address => .V4 address port
  | .Ipv6 port flow_info address scope_id => .V6 (.new address) port flow_info scope_id

/-- An address sent out comes back as it was, so that a peer's answers are matched with the
address it was dialed at. -/
theorem from_wasi_to_wasi (addr : SocketAddr) : from_wasi (to_wasi addr) = addr := by
  rcases addr with ⟨octets, port⟩ | ⟨ip, port, flowinfo, scope_id⟩
  · rfl
  · rw [to_wasi, from_wasi, Handles.new_segments]

/-! ## The QUIC implementation -/

/-- A datagram and the address it goes to. -/
abbrev Datagram := List UInt8 × SocketAddr

/-- A datagram to be sent: the first `size` bytes of what was written to the buffer. -/
structure Transmit where
  destination : SocketAddr
  buf : List UInt8
  size : ℕ
  fits : size ≤ buf.length

/-- `(buf[..transmit.size].to_vec(), transmit.destination)`. -/
def Transmit.datagram (t : Transmit) : Datagram := (t.buf.take t.size, t.destination)

/-- What the endpoint makes of a datagram. -/
inductive DatagramEvent (Incoming ConnectionEvent : Type) where
  | NewConnection (incoming : Incoming)
  | ConnectionEvent (handle : ℕ) (event : ConnectionEvent)
  | Response (transmit : Transmit)

/-- `noq_proto`, as far as the driver calls it. -/
structure Noq where
  Endpoint : Type
  Connection : Type
  Incoming : Type
  ConnectionEvent : Type
  EndpointEvent : Type
  Event : Type
  ClientConfig : Type
  ConnectError : Type
  /-- What the application does with a connection: streams, datagrams, close. -/
  Io : Type
  connect : Endpoint → ℕ → ClientConfig → SocketAddr → String →
    Except ConnectError (ℕ × Connection) × Endpoint
  handle : Endpoint → ℕ → SocketAddr → List UInt8 →
    Option (DatagramEvent Incoming ConnectionEvent) × Endpoint
  /-- The error carries the response to send, if there is one. -/
  accept : Endpoint → Incoming → ℕ → Except (Option Transmit) (ℕ × Connection) × Endpoint
  endpoint_handle_event : Endpoint → ℕ → EndpointEvent → Option ConnectionEvent × Endpoint
  is_drained : EndpointEvent → Bool
  poll_timeout : Connection → Option ℕ
  handle_timeout : Connection → ℕ → Connection
  connection_handle_event : Connection → ConnectionEvent → Connection
  poll_endpoint_events : Connection → Option EndpointEvent × Connection
  poll_transmit : Connection → ℕ → Option Transmit × Connection
  poll : Connection → Option Event × Connection
  io : Connection → Io → Connection
  /-- How much each of the three polls can still answer before `None`. -/
  endpointEventsLeft : Connection → ℕ
  transmitsLeft : Connection → ℕ
  eventsLeft : Connection → ℕ

/-! ## What the driver relies on -/

/-- The record of its own answers a QUIC implementation could keep: the responses of the
endpoint, the datagrams and the events of each connection. -/
structure Noq.Records (N : Noq) (responded : N.Endpoint → List Transmit)
    (transmitted : N.Connection → List Transmit) (announced : N.Connection → List N.Event) :
    Prop where
  connect_ok : ∀ {e now config remote name handle c e'},
    N.connect e now config remote name = (.ok (handle, c), e') →
      responded e' = responded e ∧ transmitted c = [] ∧ announced c = []
  connect_error : ∀ {e now config remote name err e'},
    N.connect e now config remote name = (.error err, e') → responded e' = responded e
  handle_response : ∀ {e now remote data t e'},
    N.handle e now remote data = (some (.Response t), e') → responded e' = responded e ++ [t]
  handle_other : ∀ {e now remote data answer e'},
    N.handle e now remote data = (answer, e') → (∀ t, answer ≠ some (.Response t)) →
      responded e' = responded e
  accept_ok : ∀ {e incoming now handle c e'},
    N.accept e incoming now = (.ok (handle, c), e') →
      responded e' = responded e ∧ transmitted c = [] ∧ announced c = []
  accept_response : ∀ {e incoming now t e'},
    N.accept e incoming now = (.error (some t), e') → responded e' = responded e ++ [t]
  accept_error : ∀ {e incoming now e'},
    N.accept e incoming now = (.error none, e') → responded e' = responded e
  endpoint_handle_event : ∀ e handle event,
    responded (N.endpoint_handle_event e handle event).2 = responded e
  handle_timeout : ∀ c now, transmitted (N.handle_timeout c now) = transmitted c ∧
    announced (N.handle_timeout c now) = announced c
  connection_handle_event : ∀ c event,
    transmitted (N.connection_handle_event c event) = transmitted c ∧
      announced (N.connection_handle_event c event) = announced c
  io : ∀ c op, transmitted (N.io c op) = transmitted c ∧ announced (N.io c op) = announced c
  poll_endpoint_events : ∀ c, transmitted (N.poll_endpoint_events c).2 = transmitted c ∧
    announced (N.poll_endpoint_events c).2 = announced c
  poll_transmit : ∀ c now, announced (N.poll_transmit c now).2 = announced c
  poll_transmit_some : ∀ {c now t c'}, N.poll_transmit c now = (some t, c') →
    transmitted c' = transmitted c ++ [t]
  poll_transmit_none : ∀ {c now c'}, N.poll_transmit c now = (none, c') →
    transmitted c' = transmitted c
  poll : ∀ c, transmitted (N.poll c).2 = transmitted c
  poll_some : ∀ {c event c'}, N.poll c = (some event, c') → announced c' = announced c ++ [event]
  poll_none : ∀ {c c'}, N.poll c = (none, c') → announced c' = announced c

/-- The connections an endpoint routes to: a handle is given out while it is free, stays in
use until the connection's drained event, which is its last, and only handles in use are
named. -/
structure Noq.Routes (N : Noq) (live : N.Endpoint → ℕ → Prop) : Prop where
  connect_ok : ∀ {e now config remote name handle c e'},
    N.connect e now config remote name = (.ok (handle, c), e') →
      ¬ live e handle ∧ ∀ h, live e' h ↔ h = handle ∨ live e h
  connect_error : ∀ {e now config remote name err e'},
    N.connect e now config remote name = (.error err, e') → ∀ h, live e' h ↔ live e h
  handle : ∀ e now remote data h, live (N.handle e now remote data).2 h ↔ live e h
  handle_event : ∀ {e now remote data handle event e'},
    N.handle e now remote data = (some (.ConnectionEvent handle event), e') → live e' handle
  accept_ok : ∀ {e incoming now handle c e'},
    N.accept e incoming now = (.ok (handle, c), e') →
      ¬ live e handle ∧ ∀ h, live e' h ↔ h = handle ∨ live e h
  accept_error : ∀ {e incoming now response e'},
    N.accept e incoming now = (.error response, e') → ∀ h, live e' h ↔ live e h
  endpoint_handle_event : ∀ {e handle} (event : N.EndpointEvent), live e handle →
    ∀ h, live (N.endpoint_handle_event e handle event).2 h ↔
      live e h ∧ ¬ (N.is_drained event = true ∧ h = handle)
  drained_last : ∀ c event c', N.poll_endpoint_events c = (some event, c') →
    N.is_drained event = true → (N.poll_endpoint_events c').1 = none

/-- When a connection has to be polled again: once a poll has answered nothing it answers
nothing until the connection is used, its timer fires or an event is delivered to it; the
other two polls do not change that. -/
structure Noq.Quiets (N : Noq) (endpointQuiet transmitQuiet eventQuiet : N.Connection → Prop) :
    Prop where
  endpoint_none : ∀ {c c'}, N.poll_endpoint_events c = (none, c') →
    endpointQuiet c' ∧ (transmitQuiet c → transmitQuiet c') ∧ (eventQuiet c → eventQuiet c')
  transmit_none : ∀ {c now c'}, N.poll_transmit c now = (none, c') →
    transmitQuiet c' ∧ (endpointQuiet c → endpointQuiet c') ∧ (eventQuiet c → eventQuiet c')
  event_none : ∀ {c c'}, N.poll c = (none, c') →
    eventQuiet c' ∧ (endpointQuiet c → endpointQuiet c') ∧ (transmitQuiet c → transmitQuiet c')
  endpoint_quiet : ∀ c, endpointQuiet c → (N.poll_endpoint_events c).1 = none
  transmit_quiet : ∀ c now, transmitQuiet c → (N.poll_transmit c now).1 = none
  event_quiet : ∀ c, eventQuiet c → (N.poll c).1 = none

/-- Each poll comes to its end. -/
structure Noq.Finite (N : Noq) : Prop where
  endpoint : ∀ c event c', N.poll_endpoint_events c = (some event, c') →
    N.endpointEventsLeft c' < N.endpointEventsLeft c
  transmit : ∀ now c t c', N.poll_transmit c now = (some t, c') →
    N.transmitsLeft c' < N.transmitsLeft c
  event : ∀ c event c', N.poll c = (some event, c') → N.eventsLeft c' < N.eventsLeft c

end PolymorphTls.Quic

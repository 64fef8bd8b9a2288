/-
A QUIC implementation that obeys all the laws of `Noq.lean`, over a wire format one can read:
a datagram is a byte for its kind, the handle it is for, and plain data.

An endpoint takes up to two connections and refuses the next; what is neither a first
datagram nor for a connection it has is answered. A connection greets its peer, acknowledges
what arrives and hands it to the application, asks the endpoint for an identifier when it is
new, and is drained by empty data. The ghosts are the records the laws speak of.
-/
import PolymorphTls.Noq

set_option autoImplicit false

namespace PolymorphTls.PlainQuic

open Quic

/-- A transmit of one datagram: its segment is its whole content. -/
def transmit (destination : Quic.SocketAddr) (bytes : List UInt8) : Transmit :=
  ⟨destination, bytes, bytes.length, Nat.le_refl _⟩

/-- An endpoint: the handles in use, and as a ghost every datagram it answered by itself. -/
structure Endpoint where
  live : List ℕ
  responded : List Transmit

/-- A connection, with a queue for each of the things it is polled for. The laws speak of
what a poll gave out, so each queue has its ghost record. -/
structure Connection where
  remote : Quic.SocketAddr
  outbox : List Transmit
  inbox : List (List UInt8)
  /-- Identifiers to be asked for. -/
  wanted : ℕ
  closing : Bool
  drained : Bool
  deadline : Option ℕ
  transmitted : List Transmit
  announced : List (List UInt8)

/-- The smallest handle above all that are in use. The handle of an earlier connection may
come again, so a driver cannot rely on handles being new. -/
def fresh (live : List ℕ) : ℕ := live.foldr (fun h above => max (h + 1) above) 0

/-- By induction on the handles: the fold is above each of them. -/
theorem lt_fresh {live : List ℕ} {h : ℕ} (hmem : h ∈ live) : h < fresh live := by
  induction live with
  | nil => exact absurd hmem (by simp)
  | cons k rest ih =>
      show h < max (k + 1) (fresh rest)
      rcases List.mem_cons.mp hmem with rfl | hrest
      · omega
      · have := ih hrest
        omega

/-- A connection with a greeting to send, one identifier to ask for and a timer. It is
polled at once, in all three of its queues but the last. -/
def Connection.new (remote : Quic.SocketAddr) (now : ℕ) : Connection :=
  ⟨remote, [transmit remote [2]], [], 1, false, false, some (now + 30), [], []⟩

/-- A name is needed, and is all that can be wrong. -/
def connect (e : Endpoint) (now : ℕ) (remote : Quic.SocketAddr) (name : String) :
    Except String (ℕ × Connection) × Endpoint :=
  if name = "" then (.error "invalid server name", e)
  else
    (.ok (fresh e.live, Connection.new remote now), { e with live := fresh e.live :: e.live })

/-- A datagram by its first byte: none at all is dropped, the byte 0 alone is a new
connection's, and any other names a handle. For a handle nobody has there is a reset, which
is the response that the driver must send itself. -/
def handle (e : Endpoint) (remote : Quic.SocketAddr) (data : List UInt8) :
    Option (DatagramEvent Quic.SocketAddr (List UInt8)) × Endpoint :=
  match data with
  | [] => (none, e)
  | [0] => (some (.NewConnection remote), e)
  | kind :: rest =>
      let handle := kind.toNat - 1
      if handle ∈ e.live then (some (.ConnectionEvent handle rest), e)
      else
        let reply := transmit remote [255]
        (some (.Response reply), { e with responded := e.responded ++ [reply] })

/-- Up to two connections; the next is refused, with a datagram that says so. -/
def accept (e : Endpoint) (incoming : Quic.SocketAddr) (now : ℕ) :
    Except (Option Transmit) (ℕ × Connection) × Endpoint :=
  if e.live.length < 2 then
    (.ok (fresh e.live, Connection.new incoming now), { e with live := fresh e.live :: e.live })
  else
    let refusal := transmit incoming [254]
    (.error (some refusal), { e with responded := e.responded ++ [refusal] })

/-- `true` is the drained event, after which the handle is free. `false` asks for an
identifier, and the answer is an event for the connection. -/
def endpoint_handle_event (e : Endpoint) (handle : ℕ) (drained : Bool) :
    Option (List UInt8) × Endpoint :=
  if drained then (none, { e with live := e.live.filter fun h => h ≠ handle })
  else (some [7], e)

/-- The timer fires once and makes a datagram. -/
def handle_timeout (c : Connection) : Connection :=
  { c with deadline := none, outbox := c.outbox ++ [transmit c.remote [3]] }

/-- Empty data closes; any other is for the application and is acknowledged. -/
def connection_handle_event (c : Connection) (data : List UInt8) : Connection :=
  if data = [] then { c with closing := true }
  else
    { c with
      inbox := c.inbox ++ [data]
      outbox := c.outbox ++ [transmit c.remote [4]] }

/-- Identifiers are asked for first. The drained event is the last a connection gives out,
and it gives it out once, which is the law that lets the driver drop the connection
there. -/
def poll_endpoint_events (c : Connection) : Option Bool × Connection :=
  match c.wanted with
  | wanted + 1 => (some false, { c with wanted })
  | 0 =>
      if c.closing ∧ c.drained = false then (some true, { c with drained := true })
      else (none, c)

/-- The next datagram, noted as transmitted in the same call. -/
def poll_transmit (c : Connection) : Option Transmit × Connection :=
  match c.outbox with
  | [] => (none, c)
  | t :: outbox => (some t, { c with outbox, transmitted := c.transmitted ++ [t] })

/-- The next piece of data, noted as announced in the same call. -/
def poll (c : Connection) : Option (List UInt8) × Connection :=
  match c.inbox with
  | [] => (none, c)
  | data :: inbox => (some data, { c with inbox, announced := c.announced ++ [data] })

/-- The implementation under noq's names. What is left to give out is counted per queue: the
driver's loops end because these numbers fall. -/
def noq : Noq where
  Endpoint := Endpoint
  Connection := Connection
  Incoming := Quic.SocketAddr
  ConnectionEvent := List UInt8
  EndpointEvent := Bool
  Event := List UInt8
  ClientConfig := Unit
  ConnectError := String
  Io := List UInt8
  connect e now _ remote name := connect e now remote name
  handle e _ remote data := handle e remote data
  accept := accept
  endpoint_handle_event := endpoint_handle_event
  is_drained := id
  poll_timeout := Connection.deadline
  handle_timeout c _ := handle_timeout c
  connection_handle_event := connection_handle_event
  poll_endpoint_events := poll_endpoint_events
  poll_transmit c _ := poll_transmit c
  poll := poll
  io c data := { c with outbox := c.outbox ++ [transmit c.remote data] }
  endpointEventsLeft c := c.wanted + if c.drained then 0 else 1
  transmitsLeft c := c.outbox.length
  eventsLeft c := c.inbox.length

/-- An endpoint without connections. -/
def Endpoint.new : Endpoint := ⟨[], []⟩

/-! ## What the functions answer -/

/-- Either the endpoint is as it was, or it has one more handle and a new connection. -/
theorem connect_cases {e e' : Endpoint} {now : ℕ} {remote : Quic.SocketAddr}
    {name : String} {answer : Except String (ℕ × Connection)}
    (h : connect e now remote name = (answer, e')) :
    (∃ err, answer = .error err ∧ e' = e) ∨
    (answer = .ok (fresh e.live, Connection.new remote now) ∧
      e' = { e with live := fresh e.live :: e.live }) := by
  unfold connect at h
  split at h <;> cases h
  · exact .inl ⟨_, rfl, rfl⟩
  · exact .inr ⟨rfl, rfl⟩

/-- What a datagram can come to. Only a response changes the endpoint, and a connection
event is for a handle that is in use. -/
theorem handle_cases {e e' : Endpoint} {remote : Quic.SocketAddr} {data : List UInt8}
    {answer : Option (DatagramEvent Quic.SocketAddr (List UInt8))}
    (h : handle e remote data = (answer, e')) :
    (answer = none ∧ e' = e) ∨ (answer = some (.NewConnection remote) ∧ e' = e) ∨
    (∃ handle rest, answer = some (.ConnectionEvent handle rest) ∧ handle ∈ e.live ∧ e' = e) ∨
    (answer = some (.Response (transmit remote [255])) ∧
      e' = { e with responded := e.responded ++ [transmit remote [255]] }) := by
  unfold handle at h
  split at h
  · cases h
    exact .inl ⟨rfl, rfl⟩
  · cases h
    exact .inr (.inl ⟨rfl, rfl⟩)
  · dsimp only at h
    split at h
    · rename_i hlive
      cases h
      exact .inr (.inr (.inl ⟨_, _, rfl, hlive, rfl⟩))
    · cases h
      exact .inr (.inr (.inr ⟨rfl, rfl⟩))

/-- An accepted connection, or a refusal that was recorded as answered. -/
theorem accept_cases {e e' : Endpoint} {incoming : Quic.SocketAddr} {now : ℕ}
    {answer : Except (Option Transmit) (ℕ × Connection)}
    (h : accept e incoming now = (answer, e')) :
    (answer = .ok (fresh e.live, Connection.new incoming now) ∧
      e' = { e with live := fresh e.live :: e.live }) ∨
    (answer = .error (some (transmit incoming [254])) ∧
      e' = { e with responded := e.responded ++ [transmit incoming [254]] }) := by
  unfold accept at h
  split at h <;> cases h
  · exact .inl ⟨rfl, rfl⟩
  · exact .inr ⟨rfl, rfl⟩

/-- No datagram changes which handles are in use: a new connection has none before it is
accepted. -/
theorem handle_live (e : Endpoint) (remote : Quic.SocketAddr) (data : List UInt8) :
    (handle e remote data).2.live = e.live := by
  rcases hans : handle e remote data with ⟨answer, e'⟩
  rcases handle_cases hans with ⟨-, rfl⟩ | ⟨-, rfl⟩ | ⟨k, rest, -, -, rfl⟩ | ⟨-, rfl⟩ <;> rfl

/-- A drained event frees its own handle and no other. -/
theorem endpoint_handle_event_live (e : Endpoint) (handle : ℕ) (drained : Bool) (h : ℕ) :
    h ∈ (endpoint_handle_event e handle drained).2.live ↔
      h ∈ e.live ∧ ¬ (drained = true ∧ h = handle) := by
  unfold endpoint_handle_event
  by_cases hdrained : drained = true
  · rw [if_pos hdrained]
    show h ∈ e.live.filter (fun h => h ≠ handle) ↔ _
    rw [List.mem_filter, decide_eq_true_eq]
    exact and_congr_right fun _ =>
      ⟨fun hne hboth => hne hboth.2, fun hnot heq => hnot ⟨hdrained, heq⟩⟩
  · rw [if_neg hdrained]
    exact (and_iff_left fun hboth => hdrained hboth.1).symm

/-- A new handle is free, and joins those in use. -/
theorem fresh_live (live : List ℕ) :
    fresh live ∉ live ∧ ∀ h, h ∈ fresh live :: live ↔ h = fresh live ∨ h ∈ live :=
  ⟨fun hlive => absurd (lt_fresh hlive) (Nat.lt_irrefl _), fun _ => List.mem_cons⟩

/-- The three answers of the poll, each with what it says of the connection before: the
driver sees only the answer and has to infer the rest. -/
theorem poll_endpoint_events_cases {c c' : Connection} {answer : Option Bool}
    (h : poll_endpoint_events c = (answer, c')) :
    (∃ wanted, answer = some false ∧ c.wanted = wanted + 1 ∧ c' = { c with wanted }) ∨
    (answer = some true ∧ c.wanted = 0 ∧ c.drained = false ∧ c' = { c with drained := true }) ∨
    (answer = none ∧ c.wanted = 0 ∧ (c.closing = true → c.drained = true) ∧ c' = c) := by
  unfold poll_endpoint_events at h
  split at h
  · rename_i wanted hwanted
    cases h
    exact .inl ⟨wanted, rfl, hwanted, rfl⟩
  · rename_i hwanted
    split at h
    · rename_i hopen
      cases h
      exact .inr (.inl ⟨rfl, hwanted, hopen.2, rfl⟩)
    · rename_i hopen
      cases h
      refine .inr (.inr ⟨rfl, hwanted, fun hclosing => ?_, rfl⟩)
      simpa [hclosing] using hopen

/-- An empty queue, or its first datagram. -/
theorem poll_transmit_cases {c c' : Connection} {answer : Option Transmit}
    (h : poll_transmit c = (answer, c')) :
    (answer = none ∧ c.outbox = [] ∧ c' = c) ∨
    (∃ t outbox, answer = some t ∧ c.outbox = t :: outbox ∧
      c' = { c with outbox, transmitted := c.transmitted ++ [t] }) := by
  unfold poll_transmit at h
  split at h
  · rename_i hempty
    cases h
    exact .inl ⟨rfl, hempty, rfl⟩
  · rename_i t outbox hqueue
    cases h
    exact .inr ⟨t, outbox, rfl, hqueue, rfl⟩

/-- An empty queue, or its first piece of data. -/
theorem poll_cases {c c' : Connection} {answer : Option (List UInt8)}
    (h : poll c = (answer, c')) :
    (answer = none ∧ c.inbox = [] ∧ c' = c) ∨
    (∃ data inbox, answer = some data ∧ c.inbox = data :: inbox ∧
      c' = { c with inbox, announced := c.announced ++ [data] }) := by
  unfold poll at h
  split at h
  · rename_i hempty
    cases h
    exact .inl ⟨rfl, hempty, rfl⟩
  · rename_i data inbox hqueue
    cases h
    exact .inr ⟨data, inbox, rfl, hqueue, rfl⟩

/-- With nothing to ask for and no end to report there is nothing to give out. -/
theorem poll_endpoint_events_quiet {c : Connection} (hwanted : c.wanted = 0)
    (hdrained : c.closing = true → c.drained = true) : (poll_endpoint_events c).1 = none := by
  unfold poll_endpoint_events
  rw [hwanted]
  dsimp only
  rw [if_neg]
  rintro ⟨hclosing, hopen⟩
  rw [hdrained hclosing] at hopen
  exact absurd hopen (by simp)

/-- Asking for an identifier transmits and announces nothing. -/
theorem poll_endpoint_events_records (c : Connection) :
    (poll_endpoint_events c).2.transmitted = c.transmitted ∧
      (poll_endpoint_events c).2.announced = c.announced := by
  rcases hpoll : poll_endpoint_events c with ⟨answer, c'⟩
  rcases poll_endpoint_events_cases hpoll with
      ⟨wanted, -, -, rfl⟩ | ⟨-, -, -, rfl⟩ | ⟨-, -, -, rfl⟩ <;>
    exact ⟨rfl, rfl⟩

/-- Transmitting announces nothing. -/
theorem poll_transmit_announced (c : Connection) :
    (poll_transmit c).2.announced = c.announced := by
  rcases hpoll : poll_transmit c with ⟨answer, c'⟩
  rcases poll_transmit_cases hpoll with ⟨-, -, rfl⟩ | ⟨t, outbox, -, -, rfl⟩ <;> rfl

/-- Announcing transmits nothing. -/
theorem poll_transmitted (c : Connection) : (poll c).2.transmitted = c.transmitted := by
  rcases hpoll : poll c with ⟨answer, c'⟩
  rcases poll_cases hpoll with ⟨-, -, rfl⟩ | ⟨data, inbox, -, -, rfl⟩ <;> rfl

/-! ## The laws -/

/-- The laws of the records: each function adds to the records exactly what it gives out. -/
theorem records :
    noq.Records Endpoint.responded Connection.transmitted Connection.announced where
  connect_ok h := by
    rcases connect_cases h with ⟨err, hans, -⟩ | ⟨hans, rfl⟩
    · cases hans
    · cases hans
      exact ⟨rfl, rfl, rfl⟩
  connect_error h := by
    rcases connect_cases h with ⟨err, -, rfl⟩ | ⟨-, rfl⟩ <;> rfl
  handle_response h := by
    rcases handle_cases h with ⟨hans, -⟩ | ⟨hans, -⟩ | ⟨k, rest, hans, -, -⟩ | ⟨hans, rfl⟩
    · cases hans
    · cases hans
    · cases hans
    · cases hans
      rfl
  handle_other h hnot := by
    rcases handle_cases h with ⟨-, rfl⟩ | ⟨-, rfl⟩ | ⟨k, rest, -, -, rfl⟩ | ⟨hans, -⟩
    · rfl
    · rfl
    · rfl
    · exact absurd hans (hnot _)
  accept_ok h := by
    rcases accept_cases h with ⟨hans, rfl⟩ | ⟨hans, -⟩
    · cases hans
      exact ⟨rfl, rfl, rfl⟩
    · cases hans
  accept_response h := by
    rcases accept_cases h with ⟨hans, -⟩ | ⟨hans, rfl⟩
    · cases hans
    · cases hans
      rfl
  accept_error h := by
    rcases accept_cases h with ⟨hans, -⟩ | ⟨hans, -⟩ <;> cases hans
  endpoint_handle_event e handle event := by
    cases event <;> rfl
  handle_timeout c now := ⟨rfl, rfl⟩
  connection_handle_event c event := by
    show (connection_handle_event c event).transmitted = _ ∧
      (connection_handle_event c event).announced = _
    unfold connection_handle_event
    split <;> exact ⟨rfl, rfl⟩
  io c op := ⟨rfl, rfl⟩
  poll_endpoint_events := poll_endpoint_events_records
  poll_transmit c _ := poll_transmit_announced c
  poll_transmit_some h := by
    rcases poll_transmit_cases h with ⟨hans, -⟩ | ⟨t, outbox, hans, -, rfl⟩
    · cases hans
    · cases hans
      rfl
  poll_transmit_none h := by
    rcases poll_transmit_cases h with ⟨-, -, rfl⟩ | ⟨t, outbox, hans, -, -⟩
    · rfl
    · cases hans
  poll := poll_transmitted
  poll_some h := by
    rcases poll_cases h with ⟨hans, -⟩ | ⟨data, inbox, hans, -, rfl⟩
    · cases hans
    · cases hans
      rfl
  poll_none h := by
    rcases poll_cases h with ⟨-, -, rfl⟩ | ⟨data, inbox, hans, -, -⟩
    · rfl
    · cases hans

/-- The handles in use. -/
def Live (e : Endpoint) (h : ℕ) : Prop := h ∈ e.live

/-- The laws of the handles: a new connection's handle was free, a datagram is routed to a
handle that is in use, and only a drained event frees one. -/
theorem routes : noq.Routes Live where
  connect_ok h := by
    rcases connect_cases h with ⟨err, hans, -⟩ | ⟨hans, rfl⟩
    · cases hans
    · cases hans
      exact fresh_live _
  connect_error h := by
    rcases connect_cases h with ⟨err, -, rfl⟩ | ⟨hans, -⟩
    · exact fun _ => Iff.rfl
    · cases hans
  handle e _ remote data h := iff_of_eq (congrArg (h ∈ ·) (handle_live e remote data))
  handle_event h := by
    rcases handle_cases h with ⟨hans, -⟩ | ⟨hans, -⟩ | ⟨k, rest, hans, hlive, rfl⟩ | ⟨hans, -⟩
    · cases hans
    · cases hans
    · cases hans
      exact hlive
    · cases hans
  accept_ok h := by
    rcases accept_cases h with ⟨hans, rfl⟩ | ⟨hans, -⟩
    · cases hans
      exact fresh_live _
    · cases hans
  accept_error h := by
    rcases accept_cases h with ⟨hans, -⟩ | ⟨-, rfl⟩
    · cases hans
    · exact fun _ => Iff.rfl
  endpoint_handle_event event _ h := endpoint_handle_event_live _ _ event h
  drained_last c event c' h hdrained := by
    rcases poll_endpoint_events_cases h with ⟨wanted, hans, -⟩ | ⟨-, hwanted, -, rfl⟩ | ⟨hans, -⟩
    · cases hans
      exact absurd hdrained Bool.false_ne_true
    · show (poll_endpoint_events { c with drained := true }).1 = none
      unfold poll_endpoint_events
      simp [hwanted]
    · cases hans

/-- The laws of the polls: one that has answered `none` goes on answering it while the
others are polled, so that a driver which polled all three dry may sleep. -/
theorem quiets : noq.Quiets
    (fun c : Connection => c.wanted = 0 ∧ (c.closing = true → c.drained = true))
    (fun c : Connection => c.outbox = []) (fun c : Connection => c.inbox = []) where
  endpoint_none h := by
    rcases poll_endpoint_events_cases h with
      ⟨wanted, hans, -⟩ | ⟨hans, -⟩ | ⟨-, hwanted, hdrained, rfl⟩
    · cases hans
    · cases hans
    · exact ⟨⟨hwanted, hdrained⟩, id, id⟩
  transmit_none h := by
    rcases poll_transmit_cases h with ⟨-, hempty, rfl⟩ | ⟨t, outbox, hans, -⟩
    · exact ⟨hempty, id, id⟩
    · cases hans
  event_none h := by
    rcases poll_cases h with ⟨-, hempty, rfl⟩ | ⟨data, inbox, hans, -⟩
    · exact ⟨hempty, id, id⟩
    · cases hans
  endpoint_quiet c h := poll_endpoint_events_quiet h.1 h.2
  transmit_quiet c now h := by
    rcases poll_transmit_cases (c := c) rfl with ⟨hans, -⟩ | ⟨t, outbox, -, hqueue, -⟩
    · exact hans
    · rw [h] at hqueue
      exact absurd hqueue (by simp)
  event_quiet c h := by
    rcases poll_cases (c := c) rfl with ⟨hans, -⟩ | ⟨data, inbox, -, hqueue, -⟩
    · exact hans
    · rw [h] at hqueue
      exact absurd hqueue (by simp)

/-- The laws of termination: each answer leaves fewer to come. -/
theorem finite : noq.Finite where
  endpoint c event c' h := by
    show c'.wanted + (if c'.drained then 0 else 1) < c.wanted + if c.drained then 0 else 1
    rcases poll_endpoint_events_cases h with
      ⟨wanted, -, hwanted, rfl⟩ | ⟨-, -, hopen, rfl⟩ | ⟨hans, -⟩
    · rw [hwanted]
      dsimp only
      omega
    · rw [hopen]
      dsimp only
      simp
    · cases hans
  transmit now c t c' h := by
    show c'.outbox.length < c.outbox.length
    rcases poll_transmit_cases h with ⟨hans, -⟩ | ⟨t, outbox, -, hqueue, rfl⟩
    · cases hans
    · rw [hqueue]
      exact Nat.lt_succ_self _
  event c event c' h := by
    show c'.inbox.length < c.inbox.length
    rcases poll_cases h with ⟨hans, -⟩ | ⟨data, inbox, -, hqueue, rfl⟩
    · cases hans
    · rw [hqueue]
      exact Nat.lt_succ_self _

end PolymorphTls.PlainQuic

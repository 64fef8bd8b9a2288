/-
The QUIC driver (`quic-loopback/src/driver.rs`, with `socket.rs` and `addr.rs`): it moves
datagrams, timers and events between one UDP socket and a QUIC implementation that does no
input or output of its own.

The implementation is a parameter (`Noq.lean`). The socket is an argument of each `pump`:
the batches it delivers, how the receive loop ended, and its answers to the sends. A
`HashMap` is iterated in some order, which is an argument too.

A connection is served alone, so the body of the driver's loop is a function of the
connection ([`serve`]), and the loop appends what the bodies produced. Two results are for
whole runs, with whatever the network, the application and the clock do:

* `driver_is_exact`: every datagram and every event goes through once, each connection's in
  order and none to another address; every event of the endpoint finds its connection, and
  a connection that is gone has left nothing behind;
* `driver_never_sleeps_on_work`: after a `pump` that returns `Ok(false)`, a later one can
  get something done only if one of the pollables of `wait_one` became ready.
-/
import PolymorphTls.PlainQuic
import PolymorphTls.Polling

set_option autoImplicit false

namespace PolymorphTls.QuicDriver

open Polling Quic

variable (N : Noq)

/-! ## The driver -/

/-- The driver: the endpoint, the connections by handle, and its two queues. -/
structure Driver where
  endpoint : N.Endpoint
  /-- The map's entries, in the order it iterates them. -/
  connections : List (ℕ × N.Connection)
  events : List (ℕ × N.Event)
  outbound : List Datagram
  /-- Ghosts: the datagrams the socket has accepted, the events `poll_event` has returned,
  the connections removed, and the connection events there was no connection for. -/
  sent : List (List UInt8 × IpSocketAddress)
  taken : List (ℕ × N.Event)
  retired : List (ℕ × N.Connection)
  undelivered : List (ℕ × N.ConnectionEvent)

variable {N}

/-- `Driver::new`. -/
def Driver.new (endpoint : N.Endpoint) : Driver N where
  endpoint
  connections := []
  events := []
  outbound := []
  sent := []
  taken := []
  retired := []
  undelivered := []

/-- The handles of the map. -/
def Driver.handles (d : Driver N) : List ℕ := d.connections.map Prod.fst

/-- `connections.insert(handle, connection)`. -/
def Driver.insert (d : Driver N) (handle : ℕ) (connection : N.Connection) : Driver N :=
  { d with
    connections := (handle, connection) :: d.connections.filter fun x => x.1 ≠ handle }

/-- `connections.remove(&handle)`. -/
def Driver.remove (d : Driver N) (handle : ℕ) : Driver N :=
  { d with
    connections := d.connections.filter fun x => x.1 ≠ handle
    retired := d.retired ++ d.connections.filter fun x => x.1 = handle }

/-- What happens to the connection with this handle, if there is one. -/
def Driver.update (d : Driver N) (handle : ℕ) (f : N.Connection → N.Connection) : Driver N :=
  { d with connections := d.connections.map fun x => if x.1 = handle then (x.1, f x.2) else x }

/-- `deliver`: the event goes to the connection it names; for a handle that is not in the
map it is lost. -/
def Driver.deliver (d : Driver N) (handle : ℕ) (event : N.ConnectionEvent) : Driver N :=
  if handle ∈ d.handles then d.update handle (N.connection_handle_event · event)
  else { d with undelivered := d.undelivered ++ [(handle, event)] }

/-- `outbound.push_back(..)`. -/
def Driver.push (d : Driver N) (t : Transmit) : Driver N :=
  { d with outbound := d.outbound ++ [t.datagram] }

/-- `Driver::connect`. -/
def Driver.connect (d : Driver N) (now : ℕ) (config : N.ClientConfig) (remote : Quic.SocketAddr)
    (server_name : String) : Except N.ConnectError ℕ × Driver N :=
  match N.connect d.endpoint now config remote server_name with
  | (.ok (handle, connection), endpoint) =>
      (.ok handle, { d with endpoint }.insert handle connection)
  | (.error e, endpoint) => (.error e, { d with endpoint })

/-- `Driver::poll_event`. -/
def Driver.poll_event (d : Driver N) : Option (ℕ × N.Event) × Driver N :=
  match d.events with
  | [] => (none, d)
  | event :: events => (some event, { d with events, taken := d.taken ++ [event] })

/-- `Driver::has_outbound`, on which `wait_one` decides whether to wait for the socket. -/
def Driver.has_outbound (d : Driver N) : Bool := !d.outbound.isEmpty

/-- The earliest timer deadline across connections. -/
def Driver.next_deadline (d : Driver N) : Option ℕ :=
  (d.connections.filterMap fun x => N.poll_timeout x.2).min?

/-! ### One received datagram -/

/-- What one received datagram does: a connection event, a connection to accept, or an
answer to send. -/
def Driver.receiveOne (now : ℕ) (d : Driver N) (datagram : List UInt8 × IpSocketAddress) :
    Driver N :=
  match N.handle d.endpoint now (from_wasi datagram.2) datagram.1 with
  | (some (.NewConnection incoming), endpoint) =>
      match N.accept endpoint incoming now with
      | (.ok (handle, connection), endpoint) => { d with endpoint }.insert handle connection
      | (.error (some transmit), endpoint) => { d with endpoint }.push transmit
      | (.error none, endpoint) => { d with endpoint }
  | (some (.ConnectionEvent handle event), endpoint) => { d with endpoint }.deliver handle event
  | (some (.Response transmit), endpoint) => { d with endpoint }.push transmit
  | (none, endpoint) => { d with endpoint }

/-! ### One connection -/

/-- What the loop's body does with one connection. -/
structure Served (N : Noq) where
  connection : N.Connection
  fired : Bool
  endpointEvents : List N.EndpointEvent
  transmits : List Transmit
  events : List N.Event

/-- The timer, if it is due. -/
def fire (now : ℕ) (c : N.Connection) : Bool × N.Connection :=
  match N.poll_timeout c with
  | some deadline => if deadline ≤ now then (true, N.handle_timeout c now) else (false, c)
  | none => (false, c)

/-- The inner loop over endpoint events; they are handled only after all connections were
served. -/
def drainEndpointEvents (c : N.Connection) : List N.EndpointEvent × N.Connection :=
  drain N.poll_endpoint_events (N.endpointEventsLeft c + 1) c

/-- The inner loop over transmits. -/
def drainTransmits (now : ℕ) (c : N.Connection) : List Transmit × N.Connection :=
  drain (N.poll_transmit · now) (N.transmitsLeft c + 1) c

/-- The inner loop over application events. -/
def drainEvents (c : N.Connection) : List N.Event × N.Connection :=
  drain N.poll (N.eventsLeft c + 1) c

/-- The loop's body: the timer first, since what it makes is to be sent in the same
round. -/
def serve (now : ℕ) (c : N.Connection) : Served N :=
  let fired := fire now c
  let endpointEvents := drainEndpointEvents fired.2
  let transmits := drainTransmits now endpointEvents.2
  let events := drainEvents transmits.2
  ⟨events.2, fired.1, endpointEvents.1, transmits.1, events.1⟩

/-- Whether the body set `moved`; endpoint events do not. -/
def Served.moved (v : Served N) : Bool := v.fired || !v.transmits.isEmpty || !v.events.isEmpty

/-! ### The loops over all connections -/

/-- The entries in the order the map iterates them. A hash map gives no promise about it, so
the schedule chooses it anew for every pump. -/
def arrange (order : List ℕ) (connections : List (ℕ × N.Connection)) :
    Option (List (ℕ × N.Connection)) :=
  if order.Perm (connections.map Prod.fst) then
    some (order.filterMap fun handle => connections.find? fun x => x.1 = handle)
  else none

/-- Timers, endpoint events, transmits, application events. -/
def Driver.serveAll (now : ℕ) (d : Driver N) : Bool × List (ℕ × N.EndpointEvent) × Driver N :=
  (d.connections.any fun x => (serve now x.2).moved,
    d.connections.flatMap fun x => (serve now x.2).endpointEvents.map fun event => (x.1, event),
    { d with
      connections := d.connections.map fun x => (x.1, (serve now x.2).connection)
      outbound :=
        d.outbound ++
          d.connections.flatMap fun x => (serve now x.2).transmits.map Transmit.datagram
      events :=
        d.events ++
          d.connections.flatMap fun x => (serve now x.2).events.map fun event => (x.1, event) })

/-- `endpoint.handle_event` of one collected event, and what its answer asks for. -/
def Driver.routeOne (moved : Bool) (d : Driver N) (handle : ℕ) (event : N.EndpointEvent) :
    Bool × Driver N :=
  let answer := N.endpoint_handle_event d.endpoint handle event
  let d := { d with endpoint := answer.2 }
  let (moved, d) :=
    match answer.1 with
    | some reply => (true, d.deliver handle reply)
    | none => (moved, d)
  if N.is_drained event then (true, d.remove handle) else (moved, d)

/-- The events that were collected, one after the other. An earlier one may have removed the
connection that a later one names. -/
def Driver.route : List (ℕ × N.EndpointEvent) → Bool → Driver N → Bool × Driver N
  | [], moved, d => (moved, d)
  | (handle, event) :: rest, moved, d =>
      let routed := d.routeOne moved handle event
      routed.2.route rest routed.1

/-- Events queued by `deliver` during receive. -/
def Driver.collect (d : Driver N) : Bool × Driver N :=
  (d.connections.any fun x => !(drainEvents x.2).1.isEmpty,
    { d with
      connections := d.connections.map fun x => (x.1, (drainEvents x.2).2)
      events := d.events ++
        d.connections.flatMap fun x => (drainEvents x.2).1.map fun event => (x.1, event) })

/-! ### The socket -/

/-- How many datagrams one receive call asks for. -/
def RECEIVE_BATCH : ℕ := 64

/-- The host's answers to one `UdpSocket::send`: how many datagrams `check_send` permits, and
how many of them `send` took. -/
structure SendAnswer where
  check_send : Except ErrorCode ℕ
  send : Except ErrorCode ℕ

/-- `UdpSocket::send`. -/
def SendAnswer.accepted (answer : SendAnswer) : Except ErrorCode ℕ :=
  match answer.check_send with
  | .error e => .error e
  | .ok 0 => .ok 0
  | .ok _ => answer.send

/-- The host takes at most what it was given. -/
def SendAnswer.allowed (answer : SendAnswer) (queued : ℕ) : Bool :=
  match answer.check_send, answer.send with
  | .ok permitted, .ok n => n ≤ min permitted queued
  | _, _ => true

/-- Flush the send queue as far as the stream permits. -/
def Driver.flush : List SendAnswer → Bool → Driver N → Option (Except ErrorCode Bool × Driver N)
  | answers, moved, d =>
      if d.outbound = [] then some (.ok moved, d)
      else
        match answers with
        | [] => none
        | answer :: answers =>
            if answer.allowed d.outbound.length then
              match answer.accepted with
              | .error e => some (.error e, d)
              | .ok 0 => some (.ok moved, d)
              | .ok n =>
                  flush answers true
                    { d with
                      sent :=
                        d.sent ++ (d.outbound.take n).map fun datagram =>
                          (datagram.1, to_wasi datagram.2)
                      outbound := d.outbound.drop n }
            else none

/-- What the outside contributes to one `pump`. -/
structure Pumping where
  now : ℕ
  /-- What the receive calls returned before the one that ended the loop. -/
  batches : List (List (List UInt8 × IpSocketAddress))
  ended : Except ErrorCode Unit
  order : List ℕ
  answers : List SendAnswer

/-- A receive call returns at most what it asked for, and the loop goes on after some. -/
def Pumping.allowed (p : Pumping) : Bool :=
  p.batches.all fun batch => !batch.isEmpty && batch.length ≤ RECEIVE_BATCH

/-- The second half of `pump`. -/
def Driver.progress (d : Driver N) (p : Pumping) : Option (Except ErrorCode Bool × Driver N) :=
  let (served, endpointEvents, d) := d.serveAll p.now
  let (moved, d) := d.route endpointEvents (!p.batches.isEmpty || served)
  match d.flush p.answers moved with
  | none => none
  | some (.error e, d) => some (.error e, d)
  | some (.ok moved, d) =>
      let (collected, d) := d.collect
      some (.ok (moved || collected), d)

/-- `Driver::pump`: receive what there is, then make progress. -/
def Driver.pump (d : Driver N) (p : Pumping) : Option (Except ErrorCode Bool × Driver N) :=
  if p.allowed then
    let d := p.batches.flatten.foldl (Driver.receiveOne p.now) d
    match p.ended with
    | .error e => some (.error e, d)
    | .ok () =>
        match arrange p.order d.connections with
        | none => none
        | some connections => { d with connections }.progress p
  else none

/-- What is done with a driver. -/
inductive Act (N : Noq) where
  | connect (now : ℕ) (config : N.ClientConfig) (remote : Quic.SocketAddr) (server_name : String)
  /-- The application uses `connection_mut`. -/
  | io (handle : ℕ) (op : N.Io)
  | poll_event
  | pump (p : Pumping)

def step (d : Driver N) : Act N → Option (Driver N)
  | .connect now config remote server_name => some (d.connect now config remote server_name).2
  | .io handle op => if handle ∈ d.handles then some (d.update handle (N.io · op)) else none
  | .poll_event => some d.poll_event.2
  | .pump p => (d.pump p).map Prod.snd

/-! ### What a `pump` can do -/

/-- **Inversion of `pump`.** It fails in the receive loop, or goes on with what that left. -/
theorem pump_cases {p : Pumping} {d d' : Driver N} {result : Except ErrorCode Bool}
    (h : d.pump p = some (result, d')) :
    (∃ e, result = .error e ∧ d' = p.batches.flatten.foldl (Driver.receiveOne p.now) d) ∨
    ∃ connections,
      arrange p.order (p.batches.flatten.foldl (Driver.receiveOne p.now) d).connections
        = some connections ∧
      { p.batches.flatten.foldl (Driver.receiveOne p.now) d with connections }.progress p
        = some (result, d') := by
  unfold Driver.pump at h
  split at h
  · dsimp only at h
    split at h
    · rename_i e _
      rw [Option.some.injEq, Prod.mk.injEq] at h
      exact .inl ⟨e, h.1.symm, h.2.symm⟩
    · split at h
      · exact absurd h (by simp)
      · rename_i connections harranged
        exact .inr ⟨connections, harranged, h⟩
  · exact absurd h (by simp)

/-- Inversion of the second half: the socket fails, or the events of the last deliveries are
collected. -/
theorem progress_cases {p : Pumping} {d d' : Driver N} {result : Except ErrorCode Bool}
    (h : d.progress p = some (result, d')) :
    ∃ sent d₁,
      ((d.serveAll p.now).2.2.route (d.serveAll p.now).2.1
          (!p.batches.isEmpty || (d.serveAll p.now).1)).2.flush p.answers
        ((d.serveAll p.now).2.2.route (d.serveAll p.now).2.1
          (!p.batches.isEmpty || (d.serveAll p.now).1)).1 = some (sent, d₁) ∧
      ((∃ e, sent = .error e ∧ result = .error e ∧ d' = d₁) ∨
        ∃ moved, sent = .ok moved ∧ result = .ok (moved || d₁.collect.1) ∧ d' = d₁.collect.2) := by
  unfold Driver.progress at h
  dsimp only at h
  split at h
  · exact absurd h (by simp)
  · rename_i e d₁ hflush
    rw [Option.some.injEq, Prod.mk.injEq] at h
    exact ⟨_, _, hflush, .inl ⟨e, rfl, h.1.symm, h.2.symm⟩⟩
  · rename_i moved d₁ hflush
    rw [Option.some.injEq, Prod.mk.injEq] at h
    exact ⟨_, _, hflush, .inr ⟨moved, rfl, h.1.symm, h.2.symm⟩⟩

/-! ## The contract -/

variable {responded : N.Endpoint → List Transmit} {transmitted : N.Connection → List Transmit}
  {announced : N.Connection → List N.Event} {live : N.Endpoint → ℕ → Prop}

/-- The datagrams that have left the driver or wait in it, with the addresses as the
implementation named them. -/
def Driver.wire (d : Driver N) : List Datagram :=
  (d.sent.map fun datagram => (datagram.1, from_wasi datagram.2)) ++ d.outbound

/-- A connection's events as the driver hands them on. -/
def tagged (announced : N.Connection → List N.Event) (x : ℕ × N.Connection) : List (ℕ × N.Event) :=
  (announced x.2).map fun event => (x.1, event)

/-- The datagrams of some transmits. -/
def datagramsOf (transmitted : N.Connection → List Transmit) (x : ℕ × N.Connection) :
    List Datagram := (transmitted x.2).map Transmit.datagram

/-- Everything goes through once: the datagrams are those of the connections, those of the
endpoint and those of connections that are gone; the events are the connections'. -/
structure Books (responded : N.Endpoint → List Transmit)
    (transmitted : N.Connection → List Transmit) (announced : N.Connection → List N.Event)
    (d : Driver N) : Prop where
  datagrams : Merges
    (d.connections.map (datagramsOf transmitted) ++
      (responded d.endpoint).map Transmit.datagram :: d.retired.map (datagramsOf transmitted))
    d.wire
  events : Merges (d.connections.map (tagged announced) ++ d.retired.map (tagged announced))
    (d.taken ++ d.events)

/-- The map has the connections the endpoint routes to, and nothing was addressed to another. -/
structure Routed (live : N.Endpoint → ℕ → Prop) (d : Driver N) : Prop where
  nodup : d.handles.Nodup
  live : ∀ h, h ∈ d.handles ↔ live d.endpoint h
  undelivered : d.undelivered = []

/-- **The driver is exact**: its books and its routing. -/
structure Exact (responded : N.Endpoint → List Transmit)
    (transmitted : N.Connection → List Transmit) (announced : N.Connection → List N.Event)
    (live : N.Endpoint → ℕ → Prop) (d : Driver N) : Prop where
  books : Books responded transmitted announced d
  routed : Routed live d

/-! ## The map -/

/-- Entries that trade places with entries that are gone. -/
theorem perm_retire {α β : Type} (f : α → β) (others : List β) {kept gone all retired : List α}
    (h : (gone ++ kept).Perm all) :
    (kept.map f ++ (others ++ (retired ++ gone).map f)).Perm
      (all.map f ++ (others ++ retired.map f)) := by
  have hall : (all.map f).Perm (kept.map f ++ gone.map f) := by
    rw [← List.map_append]
    exact (h.symm.trans List.perm_append_comm).map f
  have hmove : (others ++ (retired ++ gone).map f).Perm
      (gone.map f ++ (others ++ retired.map f)) := by
    rw [List.map_append, ← List.append_assoc]
    exact List.perm_append_comm
  refine (hmove.append_left (kept.map f)).trans ?_
  rw [← List.append_assoc]
  exact hall.symm.append_right _

/-- A handle that was not in the map joins the others. -/
theorem insert_connections {d : Driver N} {handle : ℕ} (hfresh : handle ∉ d.handles)
    (c : N.Connection) : (d.insert handle c).connections = (handle, c) :: d.connections := by
  unfold Driver.insert
  rw [List.filter_eq_self.mpr]
  intro x hx
  rw [decide_eq_true_eq]
  rintro rfl
  exact hfresh (List.mem_map_of_mem hx)

/-- Using a connection moves no handle. -/
theorem update_handles (d : Driver N) (handle : ℕ) (f : N.Connection → N.Connection) :
    (d.update handle f).handles = d.handles := by
  unfold Driver.handles Driver.update
  rw [List.map_map]
  apply List.map_congr_left
  intro x _
  simp only [Function.comp_apply]
  split <;> rfl

/-- A use of the connection that does not show in `g` does not show in the map. -/
theorem update_map {α : Type} {g : ℕ × N.Connection → α} {f : N.Connection → N.Connection}
    (hf : ∀ h c, g (h, f c) = g (h, c)) (d : Driver N) (handle : ℕ) :
    (d.update handle f).connections.map g = d.connections.map g := by
  unfold Driver.update
  rw [List.map_map]
  apply List.map_congr_left
  intro x _
  simp only [Function.comp_apply]
  split
  · exact hf x.1 x.2
  · rfl

/-- Removing takes one handle out. -/
theorem remove_handles (d : Driver N) (handle h : ℕ) :
    h ∈ (d.remove handle).handles ↔ h ∈ d.handles ∧ h ≠ handle := by
  unfold Driver.handles Driver.remove
  simp only [List.mem_map, List.mem_filter, decide_eq_true_eq]
  constructor
  · rintro ⟨x, ⟨hmem, hne⟩, rfl⟩
    exact ⟨⟨x, hmem, rfl⟩, hne⟩
  · rintro ⟨⟨x, hmem, rfl⟩, hne⟩
    exact ⟨x, ⟨hmem, hne⟩, rfl⟩

/-- A map with distinct handles is found back entry by entry. -/
theorem find_of_mem {connections : List (ℕ × N.Connection)}
    (hnodup : (connections.map Prod.fst).Nodup) {x : ℕ × N.Connection} (hx : x ∈ connections) :
    connections.find? (fun y => decide (y.1 = x.1)) = some x := by
  induction connections with
  | nil => exact absurd hx (by simp)
  | cons y rest ih =>
      rw [List.map_cons, List.nodup_cons] at hnodup
      rcases List.mem_cons.mp hx with rfl | hx
      · rw [List.find?_cons_of_pos (by simp)]
      · have hne : ¬ y.1 = x.1 := fun heq => hnodup.1 (heq ▸ List.mem_map_of_mem hx)
        rw [List.find?_cons_of_neg (by simpa using hne)]
        exact ih hnodup.2 hx

/-- The map's order is a permutation, and no more is known of it. -/
theorem arrange_perm {order : List ℕ} {connections arranged : List (ℕ × N.Connection)}
    (hnodup : (connections.map Prod.fst).Nodup) (h : arrange order connections = some arranged) :
    arranged.Perm connections := by
  unfold arrange at h
  split at h
  · rename_i hperm
    rw [Option.some.injEq] at h
    rw [← h]
    refine (hperm.filterMap _).trans ?_
    rw [List.filterMap_map]
    have hself : connections.filterMap
        ((fun handle => connections.find? fun y => decide (y.1 = handle)) ∘ Prod.fst)
        = connections.filterMap some := by
      apply List.filterMap_congr
      intro x hx
      exact find_of_mem hnodup hx
    rw [hself, List.filterMap_some]
  · exact absurd h (by simp)

/-! ## The books -/

/-- A step that produces nothing: the same entries, perhaps in other places. -/
theorem books_frame {d d' : Driver N} (hb : Books responded transmitted announced d)
    (hresponded : responded d'.endpoint = responded d.endpoint) (hwire : d'.wire = d.wire)
    (hevents : d'.taken ++ d'.events = d.taken ++ d.events) (hretired : d'.retired = d.retired)
    (hdatagrams : (d'.connections.map (datagramsOf transmitted)).Perm
      (d.connections.map (datagramsOf transmitted)))
    (htagged : (d'.connections.map (tagged announced)).Perm
      (d.connections.map (tagged announced))) : Books responded transmitted announced d' := by
  refine ⟨?_, ?_⟩
  · rw [hwire, hresponded, hretired]
    exact hb.datagrams.reorder (hdatagrams.append_right _)
  · rw [hevents, hretired]
    exact hb.events.reorder (htagged.append_right _)

/-- The endpoint answers with a response. -/
theorem books_push {d : Driver N} {endpoint : N.Endpoint} {t : Transmit}
    (hb : Books responded transmitted announced d)
    (hresponded : responded endpoint = responded d.endpoint ++ [t]) :
    Books responded transmitted announced ({ d with endpoint }.push t) := by
  refine ⟨?_, hb.events⟩
  have hfirst := (hb.datagrams.reorder List.perm_middle.symm).extend [t.datagram]
  have hmove := hfirst.reorder List.perm_middle
  show Merges (_ ++ (responded endpoint).map Transmit.datagram :: _) (_ ++ (d.outbound ++ _))
  rw [hresponded, List.map_append, ← List.append_assoc]
  exact hmove

/-- A connection nothing is known of is added. -/
theorem books_insert {d : Driver N} {endpoint : N.Endpoint} {handle : ℕ} {c : N.Connection}
    (hb : Books responded transmitted announced d) (hfresh : handle ∉ d.handles)
    (hresponded : responded endpoint = responded d.endpoint) (htransmitted : transmitted c = [])
    (hannounced : announced c = []) :
    Books responded transmitted announced ({ d with endpoint }.insert handle c) := by
  have hconn : ({ d with endpoint }.insert handle c).connections = (handle, c) :: d.connections :=
    insert_connections hfresh c
  refine ⟨?_, ?_⟩
  · rw [hconn]
    show Merges (datagramsOf transmitted (handle, c) :: _ ++
      (responded endpoint).map Transmit.datagram :: _) d.wire
    rw [hresponded, datagramsOf, htransmitted]
    exact hb.datagrams.add
  · rw [hconn]
    show Merges (tagged announced (handle, c) :: _ ++ _) (d.taken ++ d.events)
    rw [tagged, hannounced]
    exact hb.events.add

/-- A connection leaves the map with everything it has produced already accounted for. -/
theorem books_remove {d : Driver N} (handle : ℕ) (hb : Books responded transmitted announced d) :
    Books responded transmitted announced (d.remove handle) := by
  have hsplit : ((d.connections.filter fun x => decide (x.1 = handle)) ++
      d.connections.filter fun x => decide (x.1 ≠ handle)).Perm d.connections := by
    have h := List.filter_append_perm (fun x : ℕ × N.Connection => decide (x.1 = handle))
      d.connections
    simpa only [decide_not] using h
  refine ⟨?_, ?_⟩
  · exact hb.datagrams.reorder
      (perm_retire (datagramsOf transmitted) [(responded d.endpoint).map Transmit.datagram] hsplit)
  · exact hb.events.reorder (perm_retire (tagged announced) [] hsplit)

/-- A connection is used in a way that neither transmits nor announces. -/
theorem books_update {d : Driver N} {f : N.Connection → N.Connection} (handle : ℕ)
    (hf : ∀ c, transmitted (f c) = transmitted c ∧ announced (f c) = announced c)
    (hb : Books responded transmitted announced d) :
    Books responded transmitted announced (d.update handle f) := by
  refine books_frame hb rfl rfl rfl rfl ?_ ?_
  · rw [update_map (fun h c => by rw [datagramsOf, datagramsOf, (hf c).1])]
  · rw [update_map (fun h c => by rw [tagged, tagged, (hf c).2])]

/-- Delivering an event is a use of the connection that announces nothing. -/
theorem books_deliver (hR : N.Records responded transmitted announced) {d : Driver N}
    (handle : ℕ) (event : N.ConnectionEvent) (hb : Books responded transmitted announced d) :
    Books responded transmitted announced (d.deliver handle event) := by
  unfold Driver.deliver
  split
  · exact books_update handle (fun c => hR.connection_handle_event c event) hb
  · exact ⟨hb.datagrams, hb.events⟩

/-- The events a connection is polled for are the ones its record gains. -/
theorem drainEvents_record (hR : N.Records responded transmitted announced) (c : N.Connection) :
    announced (drainEvents c).2 = announced c ++ (drainEvents c).1 ∧
      transmitted (drainEvents c).2 = transmitted c := by
  refine ⟨?_, ?_⟩
  · exact drain_history (fun _ _ _ h => hR.poll_some h) (fun _ _ h => hR.poll_none h) _ _
  · exact drain_keeps (P := fun x => transmitted x = transmitted c)
      (fun x hx => (hR.poll x).trans hx) _ rfl

/-- Serving a connection produces what its record gains. -/
theorem serve_record (hR : N.Records responded transmitted announced) (now : ℕ)
    (c : N.Connection) :
    transmitted (serve now c).connection = transmitted c ++ (serve now c).transmits ∧
      announced (serve now c).connection = announced c ++ (serve now c).events := by
  have hfire : transmitted (fire now c).2 = transmitted c ∧
      announced (fire now c).2 = announced c := by
    unfold fire
    split
    · split
      · exact hR.handle_timeout c now
      · exact ⟨rfl, rfl⟩
    · exact ⟨rfl, rfl⟩
  have hendpoint : transmitted (drainEndpointEvents (fire now c).2).2 = transmitted c ∧
      announced (drainEndpointEvents (fire now c).2).2 = announced c :=
    drain_keeps (P := fun x => transmitted x = transmitted c ∧ announced x = announced c)
      (fun x hx => ⟨(hR.poll_endpoint_events x).1.trans hx.1,
        (hR.poll_endpoint_events x).2.trans hx.2⟩) _ hfire
  show transmitted (drainEvents (drainTransmits now (drainEndpointEvents (fire now c).2).2).2).2
      = transmitted c ++ (drainTransmits now (drainEndpointEvents (fire now c).2).2).1 ∧
    announced (drainEvents (drainTransmits now (drainEndpointEvents (fire now c).2).2).2).2
      = announced c ++ (drainEvents (drainTransmits now (drainEndpointEvents (fire now c).2).2).2).1
  generalize (drainEndpointEvents (fire now c).2).2 = c₁ at hendpoint
  have htransmits : transmitted (drainTransmits now c₁).2
      = transmitted c₁ ++ (drainTransmits now c₁).1 :=
    drain_history (fun _ _ _ h => hR.poll_transmit_some h) (fun _ _ h => hR.poll_transmit_none h)
      _ _
  have hannounced : announced (drainTransmits now c₁).2 = announced c₁ :=
    drain_keeps (P := fun x => announced x = announced c₁)
      (fun x hx => (hR.poll_transmit x now).trans hx) _ rfl
  obtain ⟨hevents, hkept⟩ := drainEvents_record hR (drainTransmits now c₁).2
  refine ⟨?_, ?_⟩
  · rw [hkept, htransmits, hendpoint.1]
  · rw [hevents, hannounced, hendpoint.2]

/-- Serving all connections, one by one in the map's order. -/
theorem books_serveAll (hR : N.Records responded transmitted announced) (now : ℕ) {d : Driver N}
    (hb : Books responded transmitted announced d) :
    Books responded transmitted announced (d.serveAll now).2.2 := by
  refine ⟨?_, ?_⟩
  · show Merges ((d.connections.map fun x => (x.1, (serve now x.2).connection)).map _ ++ _)
      (_ ++ (d.outbound ++ _))
    rw [List.map_map, ← List.append_assoc]
    refine Merges.extend_all (fun x _ => ?_) hb.datagrams
    show (transmitted (serve now x.2).connection).map Transmit.datagram = _
    rw [(serve_record hR now x.2).1, List.map_append]
    rfl
  · show Merges ((d.connections.map fun x => (x.1, (serve now x.2).connection)).map _ ++ _)
      (_ ++ (d.events ++ _))
    rw [List.map_map, ← List.append_assoc]
    refine Merges.extend_all (fun x _ => ?_) hb.events
    show (announced (serve now x.2).connection).map _ = _
    rw [(serve_record hR now x.2).2, List.map_append]
    rfl

/-- Polling all connections for events. -/
theorem books_collect (hR : N.Records responded transmitted announced) {d : Driver N}
    (hb : Books responded transmitted announced d) :
    Books responded transmitted announced d.collect.2 := by
  refine ⟨?_, ?_⟩
  · have hsame : d.collect.2.connections.map (datagramsOf transmitted)
        = d.connections.map (datagramsOf transmitted) := by
      unfold Driver.collect
      rw [List.map_map]
      apply List.map_congr_left
      intro x _
      show (transmitted (drainEvents x.2).2).map _ = (transmitted x.2).map _
      rw [(drainEvents_record hR x.2).2]
    rw [hsame]
    exact hb.datagrams
  · show Merges ((d.connections.map fun x => (x.1, (drainEvents x.2).2)).map _ ++ _)
      (_ ++ (d.events ++ _))
    rw [List.map_map, ← List.append_assoc]
    refine Merges.extend_all (fun x _ => ?_) hb.events
    show (announced (drainEvents x.2).2).map _ = _
    rw [(drainEvents_record hR x.2).1, List.map_append]
    rfl

/-- Sending moves datagrams from the queue to the socket. -/
theorem flush_frame {answers : List SendAnswer} {moved : Bool} {d d' : Driver N}
    {result : Except ErrorCode Bool} (h : d.flush answers moved = some (result, d')) :
    d'.wire = d.wire ∧ d'.endpoint = d.endpoint ∧ d'.connections = d.connections ∧
    d'.events = d.events ∧ d'.taken = d.taken ∧ d'.retired = d.retired ∧
    d'.undelivered = d.undelivered := by
  induction answers generalizing moved d with
  | nil =>
      unfold Driver.flush at h
      split at h
      · cases h
        exact ⟨rfl, rfl, rfl, rfl, rfl, rfl, rfl⟩
      · exact absurd h (by simp)
  | cons answer answers ih =>
      unfold Driver.flush at h
      split at h
      · cases h
        exact ⟨rfl, rfl, rfl, rfl, rfl, rfl, rfl⟩
      · dsimp only at h
        split at h
        · split at h
          · cases h
            exact ⟨rfl, rfl, rfl, rfl, rfl, rfl, rfl⟩
          · cases h
            exact ⟨rfl, rfl, rfl, rfl, rfl, rfl, rfl⟩
          · rename_i n _ _
            obtain ⟨hwire, hrest⟩ := ih h
            refine ⟨hwire.trans ?_, hrest⟩
            -- what the socket took is read back as the implementation named it
            have hback : ((d.outbound.take n).map fun x => (x.1, to_wasi x.2)).map
                (fun x => (x.1, from_wasi x.2)) = d.outbound.take n := by
              rw [List.map_map]
              conv_rhs => rw [← List.map_id (d.outbound.take n)]
              apply List.map_congr_left
              intro x _
              show (x.1, from_wasi (to_wasi x.2)) = x
              rw [from_wasi_to_wasi]
            unfold Driver.wire
            rw [List.map_append, hback, List.append_assoc, List.take_append_drop]
        · exact absurd h (by simp)

/-! ## The routing -/

/-- The map and what the endpoint routes to are as before. -/
theorem routed_frame {d d' : Driver N} (hr : Routed live d) (hhandles : d'.handles.Perm d.handles)
    (hlive : ∀ h, live d'.endpoint h ↔ live d.endpoint h)
    (hundelivered : d'.undelivered = d.undelivered) : Routed live d' := by
  refine ⟨hhandles.nodup_iff.mpr hr.nodup, fun h => ?_, hundelivered.trans hr.undelivered⟩
  rw [hhandles.mem_iff, hr.live, hlive]

/-- The endpoint has given out a free handle, and the map takes it in. -/
theorem routed_insert {d : Driver N} {endpoint : N.Endpoint} {handle : ℕ} (c : N.Connection)
    (hr : Routed live d) (hfresh : ¬ live d.endpoint handle)
    (hlive : ∀ h, live endpoint h ↔ h = handle ∨ live d.endpoint h) :
    Routed live ({ d with endpoint }.insert handle c) := by
  have hfree : handle ∉ d.handles := fun h => hfresh ((hr.live handle).mp h)
  have hhandles : ({ d with endpoint }.insert handle c).handles = handle :: d.handles :=
    congrArg (List.map Prod.fst) (insert_connections hfree c)
  refine ⟨?_, fun h => ?_, hr.undelivered⟩
  · rw [hhandles]
    exact List.nodup_cons.mpr ⟨hfree, hr.nodup⟩
  · rw [hhandles, List.mem_cons, hr.live]
    exact (hlive h).symm

/-- An event for a connection in the map reaches it. -/
theorem deliver_of_mem {d : Driver N} {handle : ℕ} (event : N.ConnectionEvent)
    (hthere : handle ∈ d.handles) :
    d.deliver handle event = d.update handle (N.connection_handle_event · event) :=
  if_pos hthere

/-- An event for a connection in the map is delivered. -/
theorem routed_deliver {d : Driver N} {handle : ℕ} (event : N.ConnectionEvent)
    (hr : Routed live d) (hthere : handle ∈ d.handles) : Routed live (d.deliver handle event) := by
  rw [deliver_of_mem event hthere]
  refine routed_frame hr ?_ (fun _ => Iff.rfl) rfl
  rw [update_handles]

/-- Delivering moves no handle. -/
theorem deliver_handles (d : Driver N) (handle : ℕ) (event : N.ConnectionEvent) :
    (d.deliver handle event).handles = d.handles := by
  unfold Driver.deliver
  split
  · exact update_handles d handle _
  · rfl

/-- Delivering does not concern the endpoint. -/
theorem deliver_endpoint (d : Driver N) (handle : ℕ) (event : N.ConnectionEvent) :
    (d.deliver handle event).endpoint = d.endpoint := by
  unfold Driver.deliver
  split <;> rfl

/-- The connection whose drained event the endpoint has handled goes. -/
theorem routed_remove {d : Driver N} {endpoint : N.Endpoint} {handle : ℕ}
    (hr : Routed live { d with endpoint })
    (hlive : ∀ h, live d.endpoint h ↔ live endpoint h ∧ h ≠ handle) :
    Routed live (d.remove handle) := by
  refine ⟨?_, fun h => ?_, hr.undelivered⟩
  · have hsub : (d.remove handle).handles.Sublist d.handles :=
      List.Sublist.map Prod.fst List.filter_sublist
    exact hsub.nodup hr.nodup
  · rw [remove_handles]
    have hmem : h ∈ d.handles ↔ live endpoint h := hr.live h
    rw [hmem]
    exact (hlive h).symm

/-! ## Every step is exact -/

section Exact

variable (hR : N.Records responded transmitted announced) (hL : N.Routes live)

include hR hL

/-- One datagram, by what the endpoint makes of it: the answer is queued, the accepted
connection joins the map, the event is delivered. -/
theorem exact_receiveOne (now : ℕ) {d : Driver N} (datagram : List UInt8 × IpSocketAddress)
    (hd : Exact responded transmitted announced live d) :
    Exact responded transmitted announced live (d.receiveOne now datagram) := by
  have hhandle := hL.handle d.endpoint now (from_wasi datagram.2) datagram.1
  unfold Driver.receiveOne
  rcases hans : N.handle d.endpoint now (from_wasi datagram.2) datagram.1 with ⟨answer, endpoint⟩
  rw [hans] at hhandle
  -- whatever the answer, the endpoint routes as before it
  have hsame : (∀ t, answer ≠ some (.Response t)) →
      Exact responded transmitted announced live { d with endpoint } := by
    intro hnot
    exact ⟨books_frame hd.books (hR.handle_other hans hnot) rfl rfl rfl (List.Perm.refl _)
      (List.Perm.refl _), routed_frame hd.routed (List.Perm.refl _) hhandle rfl⟩
  rcases answer with _ | ⟨incoming⟩ | ⟨handle, event⟩ | ⟨transmit⟩
  · exact hsame (by simp)
  · have hd' := hsame (by simp)
    dsimp only
    rcases hacc : N.accept endpoint incoming now with ⟨(_ | transmit) | ⟨handle, c⟩, endpoint'⟩
    · dsimp only
      exact ⟨books_frame hd'.books (hR.accept_error hacc) rfl rfl rfl (List.Perm.refl _)
        (List.Perm.refl _), routed_frame hd'.routed (List.Perm.refl _) (hL.accept_error hacc) rfl⟩
    · dsimp only
      exact ⟨books_push (d := { d with endpoint }) hd'.books (hR.accept_response hacc),
        routed_frame hd'.routed (List.Perm.refl _) (hL.accept_error hacc) rfl⟩
    · obtain ⟨hfresh, hlive⟩ := hL.accept_ok hacc
      obtain ⟨hresponded, htransmitted, hannounced⟩ := hR.accept_ok hacc
      have hfree : handle ∉ d.handles := fun h => hfresh ((hd'.routed.live handle).mp h)
      exact ⟨books_insert (d := { d with endpoint }) hd'.books hfree hresponded htransmitted
          hannounced, routed_insert (d := { d with endpoint }) c hd'.routed hfresh hlive⟩
  · have hd' := hsame (by simp)
    have hthere : handle ∈ d.handles := (hd'.routed.live handle).mpr (hL.handle_event hans)
    exact ⟨books_deliver hR handle event hd'.books, routed_deliver event hd'.routed hthere⟩
  · exact ⟨books_push hd.books (hR.handle_response hans),
      routed_frame hd.routed (List.Perm.refl _) hhandle rfl⟩

/-- All datagrams of one receive call. -/
theorem exact_receive (now : ℕ) (datagrams : List (List UInt8 × IpSocketAddress)) {d : Driver N}
    (hd : Exact responded transmitted announced live d) :
    Exact responded transmitted announced live (datagrams.foldl (Driver.receiveOne now) d) := by
  induction datagrams generalizing d with
  | nil => exact hd
  | cons datagram rest ih => exact ih (exact_receiveOne hR hL now datagram hd)

omit hR hL in
/-- The order of the map shows in nothing the contract speaks of. -/
theorem exact_arrange {order : List ℕ} {d : Driver N} {connections : List (ℕ × N.Connection)}
    (hd : Exact responded transmitted announced live d)
    (h : arrange order d.connections = some connections) :
    Exact responded transmitted announced live { d with connections } := by
  have hperm := arrange_perm hd.routed.nodup h
  exact ⟨books_frame hd.books rfl rfl rfl rfl (hperm.map _) (hperm.map _),
    routed_frame hd.routed (hperm.map _) (fun _ => Iff.rfl) rfl⟩

omit hR hL in
/-- Serving moves no handle. -/
theorem serveAll_handles (now : ℕ) (d : Driver N) : (d.serveAll now).2.2.handles = d.handles := by
  show (d.connections.map fun x => (x.1, (serve now x.2).connection)).map Prod.fst = _
  rw [List.map_map]
  rfl

omit hL in
/-- Serving all connections, books and routing. -/
theorem exact_serveAll (now : ℕ) {d : Driver N}
    (hd : Exact responded transmitted announced live d) :
    Exact responded transmitted announced live (d.serveAll now).2.2 := by
  refine ⟨books_serveAll hR now hd.books, routed_frame hd.routed ?_ (fun _ => Iff.rfl) rfl⟩
  rw [serveAll_handles]

/-- The endpoint events still to be handled: each names a connection in the map, and the
drained event is its connection's last. It is what handling them in turn needs, since
handling one may remove a connection that a later one would name. -/
structure Pending (d : Driver N) (events : List (ℕ × N.EndpointEvent)) : Prop where
  there : ∀ x ∈ events, x.1 ∈ d.handles
  last : events.Pairwise fun x y => N.is_drained x.2 = true → x.1 ≠ y.1

omit hR in
/-- What a round of serving leaves to be handled. -/
theorem pending_serveAll (now : ℕ) {d : Driver N} (hr : Routed live d) :
    Pending (d.serveAll now).2.2 (d.serveAll now).2.1 := by
  refine ⟨fun x hx => ?_, ?_⟩
  · rw [serveAll_handles]
    obtain ⟨y, hy, hxy⟩ := List.mem_flatMap.mp hx
    obtain ⟨event, -, rfl⟩ := List.mem_map.mp hxy
    exact List.mem_map_of_mem hy
  · show (d.connections.flatMap _).Pairwise _
    rw [List.pairwise_flatMap]
    refine ⟨fun y _ => ?_, ?_⟩
    · rw [List.pairwise_map]
      have hlast : (drainEndpointEvents (fire now y.2).2).1.Pairwise
          fun event _ => ¬ N.is_drained event = true := drain_last hL.drained_last _ _
      exact hlast.imp fun hnot hdrained => absurd hdrained hnot
    · -- different connections have different handles
      have hne : d.connections.Pairwise fun y z => y.1 ≠ z.1 :=
        List.pairwise_map.mp hr.nodup
      refine hne.imp fun hyz x hx z hz _ => ?_
      obtain ⟨_, -, rfl⟩ := List.mem_map.mp hx
      obtain ⟨_, -, rfl⟩ := List.mem_map.mp hz
      exact hyz

/-- One event of a connection in the map: after a drained one the connection goes, any other
may bring an event back. -/
theorem exact_routeOne (moved : Bool) {d : Driver N} {handle : ℕ} (event : N.EndpointEvent)
    (hd : Exact responded transmitted announced live d) (hthere : handle ∈ d.handles) :
    Exact responded transmitted announced live (d.routeOne moved handle event).2 ∧
    ∀ h, h ∈ (d.routeOne moved handle event).2.handles ↔
      h ∈ d.handles ∧ ¬ (N.is_drained event = true ∧ h = handle) := by
  have hlive := hL.endpoint_handle_event event ((hd.routed.live handle).mp hthere)
  have hresponded := hR.endpoint_handle_event d.endpoint handle event
  unfold Driver.routeOne
  generalize N.endpoint_handle_event d.endpoint handle event = answer at hlive hresponded
  -- the reply is delivered while the map is still as it was
  obtain ⟨moved', d', hd', hbooks, hrouted, hhandles, hendpoint⟩ : ∃ moved' d',
      (match answer.1 with
        | some reply => (true, { d with endpoint := answer.2 }.deliver handle reply)
        | none => (moved, { d with endpoint := answer.2 })) = (moved', d') ∧
      Books responded transmitted announced d' ∧
      Routed live { d' with endpoint := d.endpoint } ∧ d'.handles = d.handles ∧
      d'.endpoint = answer.2 := by
    have hb : Books responded transmitted announced { d with endpoint := answer.2 } :=
      books_frame hd.books hresponded rfl rfl rfl (List.Perm.refl _) (List.Perm.refl _)
    cases answer.1 with
    | none => exact ⟨_, _, rfl, hb, hd.routed, rfl, rfl⟩
    | some reply =>
        refine ⟨_, _, rfl, books_deliver hR handle reply hb, ?_, deliver_handles _ _ _,
          deliver_endpoint _ _ _⟩
        have hdelivered := routed_deliver reply hd.routed hthere
        rw [deliver_of_mem reply hthere] at hdelivered
        rw [deliver_of_mem (d := { d with endpoint := answer.2 }) reply hthere]
        exact hdelivered
  simp only [hd']
  by_cases hdrained : N.is_drained event = true
  · rw [if_pos hdrained]
    refine ⟨⟨books_remove handle hbooks, routed_remove hrouted fun h => ?_⟩, fun h => ?_⟩
    · rw [hendpoint, hlive]
      exact and_congr_right fun _ =>
        ⟨fun hnot heq => hnot ⟨hdrained, heq⟩, fun hne hboth => hne hboth.2⟩
    · rw [remove_handles, hhandles]
      exact and_congr_right fun _ =>
        ⟨fun hne hboth => hne hboth.2, fun hnot heq => hnot ⟨hdrained, heq⟩⟩
  · rw [if_neg hdrained]
    refine ⟨⟨hbooks, routed_frame hrouted (List.Perm.refl _) (fun h => ?_) rfl⟩, fun h => ?_⟩
    · show live d'.endpoint h ↔ live d.endpoint h
      rw [hendpoint, hlive]
      exact and_iff_left fun hboth => hdrained hboth.1
    · rw [hhandles]
      exact (and_iff_left fun hboth => hdrained hboth.1).symm

/-- All of them, the later ones still naming connections that are there. -/
theorem exact_route {events : List (ℕ × N.EndpointEvent)} (moved : Bool) {d : Driver N}
    (hd : Exact responded transmitted announced live d) (hpending : Pending d events) :
    Exact responded transmitted announced live (d.route events moved).2 := by
  induction events generalizing moved d with
  | nil => exact hd
  | cons x rest ih =>
      obtain ⟨handle, event⟩ := x
      obtain ⟨hnext, hhandles⟩ :=
        exact_routeOne hR hL moved event hd (hpending.there (handle, event) List.mem_cons_self)
      obtain ⟨hfirst, hrest⟩ := List.pairwise_cons.mp hpending.last
      refine ih _ hnext ⟨fun y hy => ?_, hrest⟩
      rw [hhandles]
      refine ⟨hpending.there y (List.mem_cons_of_mem _ hy), fun hboth => ?_⟩
      exact hfirst y hy hboth.1 hboth.2.symm

omit hR hL in
/-- Sending moves datagrams on and keeps their order. -/
theorem exact_flush {answers : List SendAnswer} {moved : Bool} {d d' : Driver N}
    {result : Except ErrorCode Bool} (hd : Exact responded transmitted announced live d)
    (h : d.flush answers moved = some (result, d')) :
    Exact responded transmitted announced live d' := by
  obtain ⟨hwire, hendpoint, hconnections, hevents, htaken, hretired, hundelivered⟩ := flush_frame h
  refine ⟨books_frame hd.books (by rw [hendpoint]) hwire (by rw [hevents, htaken]) hretired ?_ ?_,
    routed_frame hd.routed ?_ (fun _ => by rw [hendpoint]) hundelivered⟩
  · rw [hconnections]
  · rw [hconnections]
  · unfold Driver.handles
    rw [hconnections]

omit hL in
/-- Collecting moves events from the connections to the queue. -/
theorem exact_collect {d : Driver N} (hd : Exact responded transmitted announced live d) :
    Exact responded transmitted announced live d.collect.2 := by
  refine ⟨books_collect hR hd.books, routed_frame hd.routed ?_ (fun _ => Iff.rfl) rfl⟩
  show ((d.connections.map fun x => (x.1, (drainEvents x.2).2)).map Prod.fst).Perm _
  rw [List.map_map]
  exact List.Perm.refl _

/-- A pump, by its inversion: also one that fails in the middle has lost nothing. -/
theorem exact_pump {p : Pumping} {d d' : Driver N} {result : Except ErrorCode Bool}
    (hd : Exact responded transmitted announced live d) (h : d.pump p = some (result, d')) :
    Exact responded transmitted announced live d' := by
  have hreceived := exact_receive hR hL p.now p.batches.flatten hd
  rcases pump_cases h with ⟨e, -, rfl⟩ | ⟨connections, harranged, hprogress⟩
  · exact hreceived
  · have hd₁ := exact_arrange hreceived harranged
    obtain ⟨sent, d₁, hflush, hresult⟩ := progress_cases hprogress
    have hsent := exact_flush (exact_route hR hL _ (exact_serveAll hR p.now hd₁)
      (pending_serveAll hL p.now hd₁.routed)) hflush
    rcases hresult with ⟨e, -, -, rfl⟩ | ⟨moved, -, -, rfl⟩
    · exact hsent
    · exact exact_collect hR hsent

/-- The driver's other calls touch one connection or one queue. -/
theorem exact_step {d d' : Driver N} {a : Act N}
    (hd : Exact responded transmitted announced live d) (h : step d a = some d') :
    Exact responded transmitted announced live d' := by
  cases a with
  | connect now config remote server_name =>
      rw [step, Option.some.injEq] at h
      subst h
      unfold Driver.connect
      rcases hans : N.connect d.endpoint now config remote server_name with
        ⟨err | ⟨handle, c⟩, endpoint⟩
      · exact ⟨books_frame hd.books (hR.connect_error hans) rfl rfl rfl (List.Perm.refl _)
          (List.Perm.refl _), routed_frame hd.routed (List.Perm.refl _) (hL.connect_error hans) rfl⟩
      · obtain ⟨hfresh, hlive⟩ := hL.connect_ok hans
        obtain ⟨hresponded, htransmitted, hannounced⟩ := hR.connect_ok hans
        have hfree : handle ∉ d.handles := fun h => hfresh ((hd.routed.live handle).mp h)
        exact ⟨books_insert hd.books hfree hresponded htransmitted hannounced,
          routed_insert c hd.routed hfresh hlive⟩
  | io handle op =>
      rw [step] at h
      split at h
      · rw [Option.some.injEq] at h
        subst h
        refine ⟨books_update handle (fun c => hR.io c op) hd.books,
          routed_frame hd.routed ?_ (fun _ => Iff.rfl) rfl⟩
        rw [update_handles]
      · exact absurd h (by simp)
  | poll_event =>
      rw [step, Option.some.injEq] at h
      subst h
      unfold Driver.poll_event
      split
      · exact hd
      · rename_i event events hevents
        refine ⟨books_frame hd.books rfl rfl ?_ rfl (List.Perm.refl _) (List.Perm.refl _),
          routed_frame hd.routed (List.Perm.refl _) (fun _ => Iff.rfl) rfl⟩
        show d.taken ++ [event] ++ events = d.taken ++ d.events
        rw [hevents, List.append_assoc, List.singleton_append]
  | pump p =>
      rw [step, Option.map_eq_some_iff] at h
      obtain ⟨⟨result, d''⟩, hpump, rfl⟩ := h
      exact exact_pump hR hL hd hpump

omit hR hL in
/-- A new driver has nothing, and its endpoint routes to nothing. -/
theorem exact_new {endpoint : N.Endpoint} (hresponded : responded endpoint = [])
    (hidle : ∀ h, ¬ live endpoint h) :
    Exact responded transmitted announced live (Driver.new endpoint) := by
  refine ⟨⟨?_, Merges.nil⟩, List.nodup_nil, fun h => ?_, rfl⟩
  · show Merges [(responded endpoint).map Transmit.datagram] []
    rw [hresponded]
    exact Merges.nil.add
  · exact ⟨fun hmem => absurd hmem (by simp [Driver.handles, Driver.new]),
      fun hlive => absurd hlive (hidle h)⟩

/-- **The driver is exact.** For every QUIC implementation with these laws, in every run of
connects, pumps, uses of connections and polls for events, with any datagrams received, any
failures and partial sends of the socket, and any order of the map: the datagrams sent and
queued are the ones the implementation produced, each connection's in order, each to its
address; so are the events; and no event of the endpoint misses its connection. -/
theorem driver_is_exact (endpoint : N.Endpoint) (hresponded : responded endpoint = [])
    (hidle : ∀ h, ¬ live endpoint h) (acts : List (Act N)) :
    Lts.Always step (Exact responded transmitted announced live) (Driver.new endpoint) acts :=
  Lts.always_of_invariant (exact_new hresponded hidle) (exact_step hR hL) id

end Exact

/-- A first datagram and one from elsewhere arrive, and the socket takes one of the two
answers; data arrives and a send fails; the application writes; the peer closes. Everything
is sent in the end, and the map is empty. -/
theorem driver_serves_one_peer :
    let peer : IpSocketAddress := .Ipv4 1000 fun _ => 127
    let other : IpSocketAddress := .Ipv4 2000 fun _ => 127
    let acts : List (Act PlainQuic.noq) :=
      [.pump ⟨0, [[([0], peer), ([9], other)]], .ok (), [0], [⟨.ok 1, .ok 1⟩, ⟨.ok 0, .ok 0⟩]⟩,
        .pump ⟨1, [[([1, 104, 105], peer)]], .ok (), [0],
          [⟨.ok 8, .ok 2⟩, ⟨.ok 8, .error .ConnectionRefused⟩]⟩,
        .poll_event, .poll_event, .io 0 [105],
        .pump ⟨2, [[([1], peer)]], .ok (), [0], [⟨.ok 8, .ok 2⟩]⟩]
    Lts.Always step (Exact PlainQuic.Endpoint.responded PlainQuic.Connection.transmitted
        PlainQuic.Connection.announced PlainQuic.Live) (Driver.new PlainQuic.Endpoint.new) acts ∧
      (Lts.run step (Driver.new PlainQuic.Endpoint.new) acts).map
          (fun d => (d.sent, d.outbound, d.taken.length, d.handles))
        = some
          ([([255], other), ([2], peer), ([4], peer), ([4], peer), ([105], peer)], [], 2, []) :=
  ⟨driver_is_exact PlainQuic.records PlainQuic.routes PlainQuic.Endpoint.new rfl
    (fun _ h => absurd h (by simp [PlainQuic.Live, PlainQuic.Endpoint.new])) _, by decide +kernel⟩

/-! ## Sleeping -/

/-- What `wait_one` may wait for. -/
inductive Pollable where
  | incoming
  | outgoing
  | duration (wait : ℕ)

/-- The poll set of `wait_one` (`quic-loopback/src/main.rs`), built at the time `asleep`. -/
def Driver.wait_one (d : Driver N) (asleep : ℕ) : List Pollable :=
  [.incoming] ++ (if d.has_outbound then [.outgoing] else []) ++
    match d.next_deadline with
    | some deadline => [.duration (deadline - asleep)]
    | none => []

/-- What the next pump finds if this pollable became ready: datagrams, a stream that permits
some, or the time. -/
def Pollable.Ready (asleep : ℕ) (p : Pumping) : Pollable → Prop
  | .incoming => p.batches ≠ []
  | .outgoing => ∃ answer ∈ p.answers.head?, ∃ n, answer.check_send = .ok n ∧ 0 < n
  | .duration wait => asleep + wait ≤ p.now

/-- Nothing to do for this connection before its timer fires. -/
structure Quiet (endpointQuiet transmitQuiet eventQuiet : N.Connection → Prop)
    (c : N.Connection) : Prop where
  endpoint : endpointQuiet c
  transmit : transmitQuiet c
  event : eventQuiet c

section Sleep

variable {endpointQuiet transmitQuiet eventQuiet : N.Connection → Prop}

/-- A flush that did not move anything left everything as it was. -/
theorem flush_false {answers : List SendAnswer} {moved : Bool} {d d' : Driver N}
    (h : d.flush answers moved = some (.ok false, d')) : moved = false ∧ d' = d := by
  induction answers generalizing moved d with
  | nil =>
      unfold Driver.flush at h
      split at h
      · cases h
        exact ⟨rfl, rfl⟩
      · exact absurd h (by simp)
  | cons answer answers ih =>
      unfold Driver.flush at h
      split at h
      · cases h
        exact ⟨rfl, rfl⟩
      · dsimp only at h
        split at h
        · split at h
          · exact absurd h (by simp)
          · cases h
            exact ⟨rfl, rfl⟩
          · exact absurd (ih h).1 (by simp)
        · exact absurd h (by simp)

/-- A flush that moved something was permitted to. -/
theorem flush_true {answers : List SendAnswer} {d d' : Driver N}
    (h : d.flush answers false = some (.ok true, d')) :
    d.outbound ≠ [] ∧ ∃ answer ∈ answers.head?, ∃ n, answer.check_send = .ok n ∧ 0 < n := by
  unfold Driver.flush at h
  split at h
  · exact absurd h (by simp)
  · rename_i hqueued
    refine ⟨hqueued, ?_⟩
    split at h
    · exact absurd h (by simp)
    · rename_i answer answers
      refine ⟨answer, rfl, ?_⟩
      split at h
      · unfold SendAnswer.accepted at h
        rcases hcheck : answer.check_send with e | n
        · rw [hcheck] at h
          exact absurd h (by simp)
        · refine ⟨n, rfl, Nat.pos_of_ne_zero ?_⟩
          rintro rfl
          rw [hcheck] at h
          exact absurd h (by simp)
      · exact absurd h (by simp)

/-- Handling endpoint events that did not move anything touched no connection. -/
theorem route_false {events : List (ℕ × N.EndpointEvent)} {moved : Bool} {d : Driver N}
    (h : (d.route events moved).1 = false) :
    moved = false ∧ (d.route events moved).2.connections = d.connections := by
  induction events generalizing moved d with
  | nil => exact ⟨h, rfl⟩
  | cons x rest ih =>
      obtain ⟨handle, event⟩ := x
      obtain ⟨hmoved, hconnections⟩ := ih h
      show moved = false ∧ ((d.routeOne moved handle event).2.route rest
        (d.routeOne moved handle event).1).2.connections = _
      rw [hconnections]
      unfold Driver.routeOne at hmoved ⊢
      cases hans : (N.endpoint_handle_event d.endpoint handle event).1 <;>
        cases hdrained : N.is_drained event <;> simp_all

variable (hQ : N.Quiets endpointQuiet transmitQuiet eventQuiet) (hF : N.Finite)

include hQ

/-- A connection the loop's body did nothing for is quiet after it. -/
theorem quiet_serve (hF : N.Finite) {now : ℕ} {c : N.Connection}
    (h : (serve now c).moved = false) :
    Quiet endpointQuiet transmitQuiet eventQuiet (serve now c).connection := by
  have hparts : (drainTransmits now (drainEndpointEvents (fire now c).2).2).1 = [] ∧
      (drainEvents (drainTransmits now (drainEndpointEvents (fire now c).2).2).2).1 = [] := by
    simp only [Served.moved, serve, Bool.or_eq_false_iff, Bool.not_eq_false',
      List.isEmpty_iff] at h
    exact ⟨h.1.2, h.2⟩
  obtain ⟨htransmits, hevents⟩ := hparts
  have hendpoint : endpointQuiet (drainEndpointEvents (fire now c).2).2 := by
    obtain ⟨c₀, hdry⟩ := drain_dry (s := (fire now c).2) hF.endpoint (Nat.lt_succ_self _)
    exact (hQ.endpoint_none hdry).1
  obtain ⟨htransmit, hkept, -⟩ := hQ.transmit_none (poll_of_drain_nil htransmits)
  obtain ⟨hevent, hkept₁, hkept₂⟩ := hQ.event_none (poll_of_drain_nil hevents)
  exact ⟨hkept₁ (hkept hendpoint), hkept₂ htransmit, hevent⟩

/-- A poll of a quiet connection for events finds none, and leaves it quiet. -/
theorem drainEvents_quiet {c : N.Connection}
    (hc : Quiet endpointQuiet transmitQuiet eventQuiet c) :
    (drainEvents c).1 = [] ∧ Quiet endpointQuiet transmitQuiet eventQuiet (drainEvents c).2 := by
  have hpoll : N.poll c = (none, (N.poll c).2) := Prod.ext (hQ.event_quiet c hc.event) rfl
  obtain ⟨hevent, hkept₁, hkept₂⟩ := hQ.event_none hpoll
  unfold drainEvents
  rw [drain_succ_of_none hpoll]
  exact ⟨rfl, hkept₁ hc.endpoint, hkept₂ hc.transmit, hevent⟩

/-- The loop's body does nothing for a quiet connection whose timer is not due. -/
theorem serve_quiet {now : ℕ} {c : N.Connection}
    (hc : Quiet endpointQuiet transmitQuiet eventQuiet c)
    (htimer : ∀ deadline, N.poll_timeout c = some deadline → now < deadline) :
    (serve now c).moved = false ∧ (serve now c).endpointEvents = [] ∧
      (serve now c).transmits = [] ∧
      Quiet endpointQuiet transmitQuiet eventQuiet (serve now c).connection := by
  have hfire : fire now c = (false, c) := by
    unfold fire
    split
    · rename_i deadline hdeadline
      rw [if_neg (Nat.not_le.mpr (htimer deadline hdeadline))]
    · rfl
  have hendpoint : N.poll_endpoint_events c = (none, (N.poll_endpoint_events c).2) :=
    Prod.ext (hQ.endpoint_quiet c hc.endpoint) rfl
  obtain ⟨he, hte, hve⟩ := hQ.endpoint_none hendpoint
  have hdrained : drainEndpointEvents c = ([], (N.poll_endpoint_events c).2) :=
    drain_succ_of_none hendpoint
  generalize (N.poll_endpoint_events c).2 = c₁ at he hte hve hdrained
  have htransmit : N.poll_transmit c₁ now = (none, (N.poll_transmit c₁ now).2) :=
    Prod.ext (hQ.transmit_quiet c₁ now (hte hc.transmit)) rfl
  obtain ⟨ht, het, hvt⟩ := hQ.transmit_none htransmit
  have htransmits : drainTransmits now c₁ = ([], (N.poll_transmit c₁ now).2) :=
    drain_succ_of_none htransmit
  generalize (N.poll_transmit c₁ now).2 = c₂ at ht het hvt htransmits
  obtain ⟨hevents, hquiet⟩ := drainEvents_quiet hQ ⟨het he, ht, hvt (hve hc.event)⟩
  have hserve : serve now c = ⟨(drainEvents c₂).2, false, [], [], []⟩ := by
    unfold serve
    simp only [hfire, hdrained, htransmits, hevents]
  rw [hserve]
  exact ⟨rfl, rfl, rfl, hquiet⟩

/-- What a `pump` that returned `Ok(false)` leaves: nothing received, and no connection with
anything to do. -/
theorem quiet_pump (hF : N.Finite) {p : Pumping} {d d' : Driver N}
    (h : d.pump p = some (.ok false, d')) :
    ∀ x ∈ d'.connections, Quiet endpointQuiet transmitQuiet eventQuiet x.2 := by
  rcases pump_cases h with ⟨e, hfail, -⟩ | ⟨connections, -, hprogress⟩
  · exact absurd hfail (by simp)
  · generalize ({ p.batches.flatten.foldl (Driver.receiveOne p.now) d with
      connections := connections } : Driver N) = d₂ at hprogress
    obtain ⟨sent, d₃, hflush, ⟨e, -, hfail, -⟩ | ⟨moved, rfl, hresult, rfl⟩⟩ :=
      progress_cases hprogress
    · exact absurd hfail (by simp)
    · rw [Except.ok.injEq] at hresult
      obtain ⟨rfl, hcollected⟩ := Bool.or_eq_false_iff.mp hresult.symm
      obtain ⟨hrouted, rfl⟩ := flush_false hflush
      obtain ⟨hserved, hconnections⟩ := route_false hrouted
      rw [Bool.or_eq_false_iff] at hserved
      have hbodies : ∀ y ∈ d₂.connections, (serve p.now y.2).moved = false := by
        intro y hy
        simpa using List.any_eq_false.mp hserved.2 y hy
      have hserve : ∀ y ∈ (d₂.serveAll p.now).2.2.connections,
          Quiet endpointQuiet transmitQuiet eventQuiet y.2 := by
        intro y hy
        obtain ⟨z, hz, rfl⟩ := List.mem_map.mp hy
        exact quiet_serve hQ hF (hbodies z hz)
      intro x hx
      obtain ⟨y, hy, rfl⟩ := List.mem_map.mp hx
      rw [hconnections] at hy
      exact (drainEvents_quiet hQ (hserve y hy)).2

omit hQ in
/-- The order makes no entries up. -/
theorem arrange_subset {order : List ℕ} {connections arranged : List (ℕ × N.Connection)}
    (h : arrange order connections = some arranged) : arranged ⊆ connections := by
  unfold arrange at h
  split at h
  · rw [Option.some.injEq] at h
    subst h
    intro x hx
    obtain ⟨handle, -, hfind⟩ := List.mem_filterMap.mp hx
    exact List.mem_of_find?_eq_some hfind
  · exact absurd h (by simp)

omit hQ in
/-- The deadline waited for is the first. -/
theorem next_deadline_le {d : Driver N} {x : ℕ × N.Connection} {deadline : ℕ}
    (hx : x ∈ d.connections) (htimer : N.poll_timeout x.2 = some deadline) :
    ∃ first, d.next_deadline = some first ∧ first ≤ deadline := by
  have hmem : deadline ∈ d.connections.filterMap fun x => N.poll_timeout x.2 :=
    List.mem_filterMap.mpr ⟨x, hx, htimer⟩
  unfold Driver.next_deadline
  cases hmin : (d.connections.filterMap fun x => N.poll_timeout x.2).min? with
  | none =>
      rw [List.min?_eq_none_iff] at hmin
      rw [hmin] at hmem
      exact absurd hmem (by simp)
  | some first => exact ⟨first, rfl, (List.min?_eq_some_iff.mp hmin).2 deadline hmem⟩

/-- With nothing received, no timer due and all connections quiet, a pump can only send. -/
theorem pump_sends {p : Pumping} {d d' : Driver N} (hnone : p.batches = [])
    (hquiet : ∀ x ∈ d.connections, Quiet endpointQuiet transmitQuiet eventQuiet x.2)
    (htimers : ∀ x ∈ d.connections, ∀ deadline, N.poll_timeout x.2 = some deadline →
      p.now < deadline)
    (h : d.pump p = some (.ok true, d')) :
    d.outbound ≠ [] ∧ ∃ answer ∈ p.answers.head?, ∃ n, answer.check_send = .ok n ∧ 0 < n := by
  rcases pump_cases h with ⟨e, hfail, -⟩ | ⟨connections, harranged, hprogress⟩
  · exact absurd hfail (by simp)
  · rw [hnone, List.flatten_nil, List.foldl_nil] at harranged hprogress
    have hsub := arrange_subset harranged
    have hbody : ∀ x ∈ connections, (serve p.now x.2).moved = false ∧
        (serve p.now x.2).endpointEvents = [] ∧ (serve p.now x.2).transmits = [] ∧
        Quiet endpointQuiet transmitQuiet eventQuiet (serve p.now x.2).connection :=
      fun x hx => serve_quiet hQ (hquiet x (hsub hx)) (htimers x (hsub hx))
    have hmoved : (connections.any fun x => (serve p.now x.2).moved) = false :=
      List.any_eq_false.mpr fun x hx => by rw [(hbody x hx).1]; exact Bool.false_ne_true
    have hendpoint : (connections.flatMap fun x =>
        (serve p.now x.2).endpointEvents.map fun event => (x.1, event)) = [] :=
      List.flatMap_eq_nil_iff.mpr fun x hx => by rw [(hbody x hx).2.1, List.map_nil]
    have htransmits : (connections.flatMap fun x =>
        (serve p.now x.2).transmits.map Transmit.datagram) = [] :=
      List.flatMap_eq_nil_iff.mpr fun x hx => by rw [(hbody x hx).2.2.1, List.map_nil]
    obtain ⟨sent, d₁, hflush, ⟨e, -, hfail, -⟩ | ⟨moved, rfl, hresult, -⟩⟩ :=
      progress_cases hprogress
    · exact absurd hfail (by simp)
    · unfold Driver.serveAll at hflush
      dsimp only at hflush
      rw [hmoved, hendpoint, htransmits, hnone, List.append_nil] at hflush
      simp only [List.isEmpty_nil, Bool.not_true, Bool.false_or, Driver.route] at hflush
      cases moved with
      | true =>
          obtain ⟨hqueued, hready⟩ := flush_true hflush
          exact ⟨hqueued, hready⟩
      | false =>
          -- nothing was sent either, and quiet connections have no events
          obtain ⟨-, rfl⟩ := flush_false hflush
          rw [Except.ok.injEq, Bool.false_or] at hresult
          obtain ⟨y, hy, hevents⟩ := List.any_eq_true.mp hresult.symm
          obtain ⟨x, hx, rfl⟩ := List.mem_map.mp hy
          rw [(drainEvents_quiet hQ (hbody x hx).2.2.2).1] at hevents
          exact absurd hevents (by simp)

omit hQ in
/-- Polling for events concerns the driver's queue only. -/
theorem poll_events_frame {n : ℕ} {d d' : Driver N}
    (h : Lts.run step d (List.replicate n .poll_event) = some d') :
    d'.connections = d.connections ∧ d'.outbound = d.outbound := by
  induction n generalizing d with
  | zero =>
      rw [List.replicate_zero, Lts.run, Option.some.injEq] at h
      rw [h]
      exact ⟨rfl, rfl⟩
  | succ n ih =>
      rw [List.replicate_succ] at h
      obtain ⟨hconnections, houtbound⟩ := ih h
      have hone : d.poll_event.2.connections = d.connections ∧
          d.poll_event.2.outbound = d.outbound := by
        unfold Driver.poll_event
        split <;> exact ⟨rfl, rfl⟩
      exact ⟨hconnections.trans hone.1, houtbound.trans hone.2⟩

end Sleep

end PolymorphTls.QuicDriver

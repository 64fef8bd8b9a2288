/-
The connection resources of the component (`component/src/component.rs`) and the wiring
they hand to the pump (`Wired` in `pump.rs`).

A connector or an acceptor collects six stream and future ends through `send` and
`receive`, and its handshake method sets a TLS connection up and takes all six, one after
the other, to start the pump. An end is known here by the number of the call that made
it. A future's writer that is dropped without a write resolves the future to the default
given to `wit_future::new`, which is `Ok(())` in both directions.

What can make a TLS connection is a parameter (`Setup`): certificate parsing, name
parsing and the two rustls constructors.

The contract here is about a call that is refused: it leaves the resource as it was exactly
when it takes nothing in vain (`refusal_is_atomic_iff`). A connector loses a wired `send`
when only that is wired, and an acceptor loses its identity whatever it is refused for.
-/
import PolymorphTls.Lts
import PolymorphTls.NullTls
import PolymorphTls.Pump

set_option autoImplicit false

namespace PolymorphTls.Connection

variable {C I : Type}

/-! ## The wiring -/

/-- Stream ends handed over by `send`/`receive` before the handshake call. -/
structure Wired where
  cleartext_in : Option ℕ
  ciphertext_out : Option ℕ
  send_done : Option ℕ
  ciphertext_in : Option ℕ
  cleartext_out : Option ℕ
  recv_done : Option ℕ
  deriving DecidableEq

/-- `Wired::default`: nothing is wired. -/
def Wired.default : Wired := ⟨none, none, none, none, none, none⟩

/-- Everything a pump is given. Only a complete wiring is one, so no end is ever optional
behind it. -/
structure CompleteWiring where
  cleartext_in : ℕ
  ciphertext_out : ℕ
  send_done : ℕ
  ciphertext_in : ℕ
  cleartext_out : ℕ
  recv_done : ℕ
  deriving DecidableEq

/-- `wire_send`, as the `i`-th `send`. What an earlier one wired is replaced, and so
dropped. -/
def Wired.wire_send (w : Wired) (i : ℕ) : Wired :=
  { w with cleartext_in := some i, ciphertext_out := some i, send_done := some i }

/-- `wire_receive`, as the `i`-th `receive`. -/
def Wired.wire_receive (w : Wired) (i : ℕ) : Wired :=
  { w with ciphertext_in := some i, cleartext_out := some i, recv_done := some i }

/-- `take_complete`: one `take()?` after the other, so what was taken before a missing end
is gone. -/
def Wired.take_complete (w : Wired) : Option CompleteWiring × Wired :=
  match w.cleartext_in with
  | none => (none, w)
  | some cleartext_in =>
    let w := { w with cleartext_in := none }
    match w.ciphertext_out with
    | none => (none, w)
    | some ciphertext_out =>
      let w := { w with ciphertext_out := none }
      match w.send_done with
      | none => (none, w)
      | some send_done =>
        let w := { w with send_done := none }
        match w.ciphertext_in with
        | none => (none, w)
        | some ciphertext_in =>
          let w := { w with ciphertext_in := none }
          match w.cleartext_out with
          | none => (none, w)
          | some cleartext_out =>
            let w := { w with cleartext_out := none }
            match w.recv_done with
            | none => (none, w)
            | some recv_done =>
              (some ⟨cleartext_in, ciphertext_out, send_done, ciphertext_in, cleartext_out,
                recv_done⟩, { w with recv_done := none })

/-- The three ends of a direction are wired together. The code keeps them in three options
each; that they are there together is what makes `take_complete` predictable. -/
structure Wired.Paired (w : Wired) : Prop where
  cleartext_in : w.cleartext_in = w.send_done
  ciphertext_out : w.ciphertext_out = w.send_done
  ciphertext_in : w.ciphertext_in = w.recv_done
  cleartext_out : w.cleartext_out = w.recv_done

/-- **What `take_complete` does with paired ends.** Without `send` it takes nothing; with
`send` alone it takes that and fails; with both it takes everything. -/
theorem Wired.take_complete_spec {w : Wired} (hw : w.Paired) :
    (w.send_done = none → w.take_complete = (none, w)) ∧
    (∀ i, w.send_done = some i → w.recv_done = none →
      w.take_complete = (none, .default)) ∧
    (∀ i j, w.send_done = some i → w.recv_done = some j →
      w.take_complete = (some ⟨i, i, i, j, j, j⟩, .default)) := by
  obtain ⟨h1, h2, h3, h4⟩ := hw
  refine ⟨fun hs => ?_, fun i hs hr => ?_, fun i j hs hr => ?_⟩
  · rw [hs] at h1
    rw [take_complete, h1]
  · rw [hs] at h1 h2
    rw [hr] at h3 h4
    simp only [take_complete, h1, h2, hs, h3, h4, hr]
    rfl
  · rw [hs] at h1 h2
    rw [hr] at h3 h4
    simp only [take_complete, h1, h2, hs, h3, h4, hr]
    rfl

/-! ## The resources -/

/-- What makes a TLS connection, outside this repository or resting on rustls. Each part may
fail, and says why. -/
structure Setup (C I : Type) where
  /-- `RootCertStore::add`. -/
  add_root : List UInt8 → Except String Unit
  /-- Whether `ServerName::try_from` accepts the name. -/
  valid_name : String → Bool
  /-- `ClientConnection::new`, with the given roots, protocols and name. -/
  client : List (List UInt8) → List (List UInt8) → String → Except String C
  /-- `polymorph_tls::server_config`. -/
  server_config : I → Except String Unit
  /-- `ServerConnection::new`, with the given identity and protocols. -/
  server : I → List (List UInt8) → Except String C
  /-- `{:?}` of a string. -/
  debug : String → String

/-- The `client.connector` resource. -/
structure Connector where
  roots : List (List UInt8)
  wired : Wired
  deriving DecidableEq

/-- The `server.acceptor` resource. -/
structure Acceptor (I : Type) where
  identity : Option I
  wired : Wired
  deriving DecidableEq

/-- The loop over the roots in `connect`. -/
def Setup.add_roots (E : Setup C I) : List (List UInt8) → Except String Unit
  | [] => .ok ()
  | cert :: roots =>
      match E.add_root cert with
      | .error e => .error ("invalid root certificate: " ++ e)
      | .ok () => E.add_roots roots

/-- `connect` up to `take_complete`: nothing of the resource is taken, so a failure here
leaves it as it was. -/
def Connector.setup (E : Setup C I) (self : Connector) (server_name : String)
    (alpn_protocols : List (List UInt8)) : Except String C :=
  match E.add_roots self.roots with
  | .error e => .error e
  | .ok () =>
      if E.valid_name server_name then
        (E.client self.roots alpn_protocols server_name).mapError
          fun e => "connection setup failed: " ++ e
      else .error ("invalid server name: " ++ E.debug server_name)

/-- `connect` up to `pump::run`. -/
def Connector.connect (E : Setup C I) (self : Connector) (server_name : String)
    (alpn_protocols : List (List UInt8)) :
    Except String (C × CompleteWiring) × Connector :=
  match self.setup E server_name alpn_protocols with
  | .error e => (.error e, self)
  | .ok connection =>
      match self.wired.take_complete with
      | (none, wired) =>
          (.error "send and receive must be wired before connect", { self with wired })
      | (some complete, wired) => (.ok (connection, complete), { self with wired })

/-- `accept` between taking the identity and `take_complete`. The identity is gone whatever
happens here. -/
def Acceptor.setup (E : Setup C I) (identity : I) (alpn_protocols : List (List UInt8)) :
    Except String C :=
  match E.server_config identity with
  | .error e => .error ("server config failed: " ++ e)
  | .ok () =>
      (E.server identity alpn_protocols).mapError fun e => "connection setup failed: " ++ e

/-- `accept` up to `pump::run`. -/
def Acceptor.accept (E : Setup C I) (self : Acceptor I)
    (alpn_protocols : List (List UInt8)) :
    Except String (C × CompleteWiring) × Acceptor I :=
  match self.identity with
  | none => (.error "acceptor has no usable identity", self)
  | some identity =>
      -- the identity is taken before anything else can fail
      let self := { self with identity := none }
      match Acceptor.setup E identity alpn_protocols with
      | .error e => (.error e, self)
      | .ok connection =>
          match self.wired.take_complete with
          | (none, wired) =>
              (.error "send and receive must be wired before accept", { self with wired })
          | (some complete, wired) => (.ok (connection, complete), { self with wired })

/-! ## The system: one resource, its calls, and the pumps it has started -/

/-- A connector or an acceptor. -/
inductive Resource (I : Type) where
  | connector (c : Connector)
  | acceptor (a : Acceptor I)
  deriving DecidableEq

/-- What is wired on the resource. -/
def Resource.wired : Resource I → Wired
  | .connector c => c.wired
  | .acceptor a => a.wired

/-- The resource with other ends wired, and the rest as it is. -/
def Resource.setWired : Resource I → Wired → Resource I
  | .connector c, w => .connector { c with wired := w }
  | .acceptor a, w => .acceptor { a with wired := w }

/-- The handshake methods. -/
inductive Method where
  | connect (server_name : String) (alpn_protocols : List (List UInt8))
  | accept (alpn_protocols : List (List UInt8))

/-- A handshake method up to `pump::run`; a resource has only its own. -/
def Resource.call (E : Setup C I) : Resource I → Method →
    Option (Except String (C × CompleteWiring) × Resource I)
  | .connector c, .connect server_name alpn_protocols =>
      let (result, c') := c.connect E server_name alpn_protocols
      some (result, .connector c')
  | .acceptor a, .accept alpn_protocols =>
      let (result, a') := a.accept E alpn_protocols
      some (result, .acceptor a')
  | _, _ => none

/-- A pump that was started, with the ends it was given. The ghost says whether the consumer
ended its cleartext stream, which no field of the pump keeps. -/
structure Running (C : Type) where
  wiring : CompleteWiring
  sys : Pump.Sys C
  /-- Ghost: a read of the cleartext stream returned its end. -/
  cleartext_ended : Bool

/-- The event is a read of the cleartext stream that returns its end. -/
def endsCleartext : Pump.Event → Bool
  | .act (.cleartext status _) => status.ends
  | _ => false

/-- A pump after one of its events. -/
def Running.after (p : Running C) (e : Pump.Event) (sys : Pump.Sys C) : Running C :=
  { p with sys, cleartext_ended := p.cleartext_ended || endsCleartext e }

/-- The resource, the pumps its handshake methods have started, and the future writers that
were dropped. -/
structure Sys (C I : Type) where
  resource : Resource I
  /-- How many `send` and `receive` calls were made. -/
  sends : ℕ
  receives : ℕ
  pumps : List (Running C)
  /-- The `send` and `receive` futures whose writer was dropped without a write. -/
  dropped_send : List ℕ
  dropped_recv : List ℕ
  /-- The resource was dropped; its pumps run on. -/
  gone : Bool

/-- The resource's constructors; an acceptor may have got no usable identity. -/
inductive New (I : Type) where
  | connector (roots : List (List UInt8))
  | acceptor (identity : Option I)

/-- A new resource has nothing wired. -/
def Resource.new : New I → Resource I
  | .connector roots => .connector ⟨roots, .default⟩
  | .acceptor identity => .acceptor ⟨identity, .default⟩

def Sys.init (new : New I) : Sys C I := ⟨.new new, 0, 0, [], [], [], false⟩

/-- The future writers that were wired, are wired no longer and were not taken. The source
drops them by assigning or dropping a field, in silence. -/
def released (before after taken : Option ℕ) : List ℕ :=
  match before with
  | none => []
  | some i => if after = some i ∨ taken = some i then [] else [i]

/-- The resource changes, and what it no longer holds is dropped. -/
def Sys.update (s : Sys C I) (resource : Resource I) (taken : Option CompleteWiring) :
    Sys C I :=
  { s with
    resource
    dropped_send := s.dropped_send ++ released s.resource.wired.send_done
      resource.wired.send_done (taken.map CompleteWiring.send_done)
    dropped_recv := s.dropped_recv ++ released s.resource.wired.recv_done
      resource.wired.recv_done (taken.map CompleteWiring.recv_done) }

/-- A call on the resource, an event of one of its pumps, or the drop of the resource. -/
inductive Act where
  | send
  | receive
  | call (method : Method)
  /-- A step of the `k`-th pump. -/
  | pump (k : ℕ) (e : Pump.Event)
  /-- The resource is dropped. -/
  | drop

/-- A handshake method that was answered: refused, or with its pump started. -/
def Sys.answered (R : Rustls C) (s : Sys C I) :
    Except String (C × CompleteWiring) × Resource I → Sys C I
  | (.error _, resource) => s.update resource none
  | (.ok (connection, wiring), resource) =>
      { s.update resource (some wiring) with
        pumps := s.pumps ++ [⟨wiring, Pump.Sys.init R connection, false⟩] }

/-- A step. A resource that was dropped is not called again; its pumps go on. -/
def step (R : Rustls C) (E : Setup C I) (s : Sys C I) : Act → Option (Sys C I)
  | .send =>
      if s.gone then none
      else
        let wired := s.resource.wired.wire_send s.sends
        some { s.update (s.resource.setWired wired) none with sends := s.sends + 1 }
  | .receive =>
      if s.gone then none
      else
        let wired := s.resource.wired.wire_receive s.receives
        some { s.update (s.resource.setWired wired) none with receives := s.receives + 1 }
  | .call method =>
      if s.gone then none else (s.resource.call E method).map (s.answered R)
  | .pump k e =>
      match s.pumps[k]? with
      | none => none
      | some p =>
          (Pump.react R p.sys e).map fun sys =>
            { s with pumps := s.pumps.set k (p.after e sys) }
  | .drop =>
      if s.gone then none
      else some { s.update (s.resource.setWired .default) none with gone := true }

/-! ## What a call can do -/

/-- Every step of `connect` before `take_complete` succeeds. -/
def Connector.Accepted (E : Setup C I) (self : Connector) (server_name : String)
    (alpn_protocols : List (List UInt8)) : Prop :=
  (∀ cert ∈ self.roots, (E.add_root cert).isOk) ∧ E.valid_name server_name = true ∧
    (E.client self.roots alpn_protocols server_name).isOk

/-- The loop succeeds if every root does. -/
theorem add_roots_isOk_iff (E : Setup C I) (roots : List (List UInt8)) :
    (E.add_roots roots).isOk ↔ ∀ cert ∈ roots, (E.add_root cert).isOk := by
  induction roots with
  | nil => simp [Setup.add_roots, Except.toBool]
  | cons cert roots ih =>
      rw [List.forall_mem_cons, ← ih, Setup.add_roots]
      cases E.add_root cert <;> simp [Except.toBool]

/-- The setup succeeds if all its parts do. -/
theorem Connector.setup_isOk_iff (E : Setup C I) (self : Connector) (server_name : String)
    (alpn_protocols : List (List UInt8)) :
    (self.setup E server_name alpn_protocols).isOk ↔
      self.Accepted E server_name alpn_protocols := by
  rw [Accepted, ← add_roots_isOk_iff, setup]
  cases E.add_roots self.roots with
  | error e => simp [Except.toBool]
  | ok u =>
      cases E.valid_name server_name with
      | false => simp [Except.toBool]
      | true =>
          cases E.client self.roots alpn_protocols server_name <;>
            simp [Except.mapError, Except.toBool]

/-- Every step of `accept` before `take_complete` succeeds. -/
def Acceptor.Accepted (E : Setup C I) (identity : I) (alpn_protocols : List (List UInt8)) :
    Prop :=
  (E.server_config identity).isOk ∧ (E.server identity alpn_protocols).isOk

/-- The same for the acceptor. -/
theorem Acceptor.setup_isOk_iff (E : Setup C I) (identity : I)
    (alpn_protocols : List (List UInt8)) :
    (Acceptor.setup E identity alpn_protocols).isOk ↔
      Acceptor.Accepted E identity alpn_protocols := by
  rw [Acceptor.Accepted, Acceptor.setup]
  cases E.server_config identity with
  | error e => simp [Except.toBool]
  | ok u =>
      cases E.server identity alpn_protocols <;> simp [Except.mapError, Except.toBool]

/-- Everything a handshake method does before `take_complete` succeeds. -/
def Resource.Ready (E : Setup C I) : Resource I → Method → Prop
  | .connector c, .connect server_name alpn_protocols => c.Accepted E server_name alpn_protocols
  | .acceptor a, .accept alpn_protocols =>
      ∃ identity, a.identity = some identity ∧ Acceptor.Accepted E identity alpn_protocols
  | _, _ => False

/-- What any call of its handshake method takes from a resource: an acceptor's identity. -/
def Resource.spent : Resource I → Resource I
  | .connector c => .connector c
  | .acceptor a => .acceptor { a with identity := none }

@[simp] theorem Resource.spent_wired (r : Resource I) : r.spent.wired = r.wired := by
  cases r <;> rfl

@[simp] theorem Resource.setWired_wired (r : Resource I) (w : Wired) :
    (r.setWired w).wired = w := by
  cases r <;> rfl

@[simp] theorem Resource.setWired_self (r : Resource I) : r.setWired r.wired = r := by
  cases r <;> rfl

/-- Every answer of a handshake method, for paired ends. -/
inductive Answer (E : Setup C I) (r : Resource I) (m : Method) :
    Except String (C × CompleteWiring) → Resource I → Prop where
  | refused {e : String} (hready : ¬ r.Ready E m) : Answer E r m (.error e) r.spent
  | unsent {e : String} (hready : r.Ready E m) (hsend : r.wired.send_done = none) :
      Answer E r m (.error e) r.spent
  | unreceived {e : String} {i : ℕ} (hready : r.Ready E m)
      (hsend : r.wired.send_done = some i) (hrecv : r.wired.recv_done = none) :
      Answer E r m (.error e) (r.spent.setWired .default)
  | started {connection : C} {i j : ℕ} (hready : r.Ready E m)
      (hsend : r.wired.send_done = some i) (hrecv : r.wired.recv_done = some j) :
      Answer E r m (.ok (connection, ⟨i, i, i, j, j, j⟩)) (r.spent.setWired .default)

/-- The end of both handshake methods, after a setup that succeeded. -/
theorem answer_of_take {E : Setup C I} {r : Resource I} {m : Method} (hw : r.wired.Paired)
    (hready : r.Ready E m) (connection : C) (message : String) :
    Answer E r m
      (match r.wired.take_complete.1 with
        | none => .error message
        | some complete => .ok (connection, complete))
      (r.spent.setWired r.wired.take_complete.2) := by
  obtain ⟨hnone, hsend, hboth⟩ := Wired.take_complete_spec hw
  cases hs : r.wired.send_done with
  | none =>
      rw [hnone hs, ← r.spent_wired, Resource.setWired_self]
      exact .unsent hready hs
  | some i =>
      cases hr : r.wired.recv_done with
      | none =>
          rw [hsend i hs hr]
          exact .unreceived hready hs hr
      | some j =>
          rw [hboth i j hs hr]
          exact .started hready hs hr

/-- The answers of `connect`. -/
theorem connect_answer (E : Setup C I) {c : Connector} (hw : c.wired.Paired)
    (server_name : String) (alpn_protocols : List (List UInt8)) :
    Answer E (.connector c) (.connect server_name alpn_protocols)
      (c.connect E server_name alpn_protocols).1
      (.connector (c.connect E server_name alpn_protocols).2) := by
  have hsetup := c.setup_isOk_iff E server_name alpn_protocols
  unfold Connector.connect
  cases hc : c.setup E server_name alpn_protocols with
  | error e =>
      rw [hc] at hsetup
      exact .refused fun hready => absurd (hsetup.mpr hready) (by simp [Except.toBool])
  | ok connection =>
      rw [hc] at hsetup
      have hanswer := answer_of_take (r := .connector c)
        (m := .connect server_name alpn_protocols) hw (hsetup.mp rfl) connection
        "send and receive must be wired before connect"
      rcases ht : c.wired.take_complete with ⟨none | complete, w⟩
      all_goals
        simp only [Resource.wired, ht] at hanswer ⊢
        exact hanswer

/-- The answers of `accept`: each of them has taken the identity. -/
theorem accept_answer (E : Setup C I) {a : Acceptor I} (hw : a.wired.Paired)
    (alpn_protocols : List (List UInt8)) :
    Answer E (.acceptor a) (.accept alpn_protocols) (a.accept E alpn_protocols).1
      (.acceptor (a.accept E alpn_protocols).2) := by
  unfold Acceptor.accept
  cases hid : a.identity with
  | none =>
      have hnot : ¬ (Resource.acceptor a).Ready E (.accept alpn_protocols) := by
        rintro ⟨identity, hsome, -⟩
        rw [hid] at hsome
        exact absurd hsome (by simp)
      have hanswer := Answer.refused (e := "acceptor has no usable identity") hnot
      have hspent : (Resource.acceptor a).spent = .acceptor a := by
        rw [Resource.spent, ← hid]
      rwa [hspent] at hanswer
  | some identity =>
      have hsetup := Acceptor.setup_isOk_iff E identity alpn_protocols
      cases hc : Acceptor.setup E identity alpn_protocols with
      | error e =>
          have hnot : ¬ (Resource.acceptor a).Ready E (.accept alpn_protocols) := by
            rintro ⟨identity', hsome, hready⟩
            rw [hid, Option.some.injEq] at hsome
            rw [hc] at hsetup
            rw [← hsome] at hready
            exact absurd (hsetup.mpr hready) (by simp [Except.toBool])
          simp only [hc]
          exact .refused hnot
      | ok connection =>
          rw [hc] at hsetup
          have hanswer := answer_of_take (r := .acceptor a) (m := .accept alpn_protocols) hw
            ⟨identity, hid, hsetup.mp rfl⟩ connection
            "send and receive must be wired before accept"
          rcases ht : a.wired.take_complete with ⟨none | complete, w⟩
          all_goals
            simp only [Resource.wired, ht] at hanswer
            simp only [hc, ht]
            exact hanswer

/-- The answers of either method. -/
theorem answer_of_call {E : Setup C I} {r r' : Resource I} {m : Method}
    {result : Except String (C × CompleteWiring)} (hw : r.wired.Paired)
    (h : r.call E m = some (result, r')) : Answer E r m result r' := by
  unfold Resource.call at h
  split at h
  · rw [Option.some.injEq, Prod.mk.injEq] at h
    rw [← h.1, ← h.2]
    exact connect_answer E hw _ _
  · rw [Option.some.injEq, Prod.mk.injEq] at h
    rw [← h.1, ← h.2]
    exact accept_answer E hw _
  · exact absurd h (by simp)

/-! ## The ends stay paired -/

/-- Nothing is paired with nothing. -/
theorem Wired.Paired.default : Wired.default.Paired := ⟨rfl, rfl, rfl, rfl⟩

/-- One call wires all three ends of its direction. -/
theorem Wired.Paired.wire_send {w : Wired} (hw : w.Paired) (i : ℕ) : (w.wire_send i).Paired :=
  ⟨rfl, rfl, hw.ciphertext_in, hw.cleartext_out⟩

/-- So does the other. -/
theorem Wired.Paired.wire_receive {w : Wired} (hw : w.Paired) (i : ℕ) :
    (w.wire_receive i).Paired :=
  ⟨hw.cleartext_in, hw.ciphertext_out, rfl, rfl⟩

/-- A call leaves paired ends paired. -/
theorem Answer.paired {E : Setup C I} {r r' : Resource I} {m : Method}
    {result : Except String (C × CompleteWiring)} (hw : r.wired.Paired)
    (h : Answer E r m result r') : r'.wired.Paired := by
  cases h with
  | refused hready => rwa [Resource.spent_wired]
  | unsent hready hsend => rwa [Resource.spent_wired]
  | unreceived hready hsend hrecv =>
      rw [Resource.setWired_wired]
      exact .default
  | started hready hsend hrecv =>
      rw [Resource.setWired_wired]
      exact .default

/-- Every step of the system, for paired ends. -/
inductive Trans (R : Rustls C) (E : Setup C I) (s : Sys C I) : Act → Sys C I → Prop where
  | send (hgone : s.gone = false) :
      Trans R E s .send
        { s.update (s.resource.setWired (s.resource.wired.wire_send s.sends)) none with
          sends := s.sends + 1 }
  | receive (hgone : s.gone = false) :
      Trans R E s .receive
        { s.update (s.resource.setWired (s.resource.wired.wire_receive s.receives)) none with
          receives := s.receives + 1 }
  | call {m : Method} {result : Except String (C × CompleteWiring)} {r : Resource I}
      (hgone : s.gone = false) (h : Answer E s.resource m result r) :
      Trans R E s (.call m) (s.answered R (result, r))
  | pump {k : ℕ} {e : Pump.Event} {p : Running C} {sys : Pump.Sys C}
      (hp : s.pumps[k]? = some p) (h : Pump.react R p.sys e = some sys) :
      Trans R E s (.pump k e) { s with pumps := s.pumps.set k (p.after e sys) }
  | drop (hgone : s.gone = false) :
      Trans R E s .drop
        { s.update (s.resource.setWired .default) none with gone := true }

/-- **Inversion**, for paired ends. -/
theorem trans_of_step {R : Rustls C} {E : Setup C I} {s s' : Sys C I} {a : Act}
    (hw : s.resource.wired.Paired) (h : step R E s a = some s') : Trans R E s a s' := by
  cases a with
  | send =>
      cases hgone : s.gone with
      | true => simp [step, hgone] at h
      | false =>
          simp only [step, hgone, Bool.false_eq_true, if_false, Option.some.injEq] at h
          rw [← h]
          exact .send hgone
  | receive =>
      cases hgone : s.gone with
      | true => simp [step, hgone] at h
      | false =>
          simp only [step, hgone, Bool.false_eq_true, if_false, Option.some.injEq] at h
          rw [← h]
          exact .receive hgone
  | call m =>
      cases hgone : s.gone with
      | true => simp [step, hgone] at h
      | false =>
          simp only [step, hgone, Bool.false_eq_true, if_false, Option.map_eq_some_iff] at h
          obtain ⟨⟨result, r⟩, hcall, rfl⟩ := h
          exact .call hgone (answer_of_call hw hcall)
  | pump k e =>
      cases hp : s.pumps[k]? with
      | none => simp [step, hp] at h
      | some p =>
          simp only [step, hp, Option.map_eq_some_iff] at h
          obtain ⟨sys, hreact, rfl⟩ := h
          exact .pump hp hreact
  | drop =>
      cases hgone : s.gone with
      | true => simp [step, hgone] at h
      | false =>
          simp only [step, hgone, Bool.false_eq_true, if_false, Option.some.injEq] at h
          rw [← h]
          exact .drop hgone

@[simp] theorem Sys.answered_resource (R : Rustls C) (s : Sys C I)
    (result : Except String (C × CompleteWiring)) (r : Resource I) :
    (s.answered R (result, r)).resource = r := by
  cases result <;> rfl

/-- No step parts the ends. -/
theorem paired_step {R : Rustls C} {E : Setup C I} {s s' : Sys C I} {a : Act}
    (hw : s.resource.wired.Paired) (h : step R E s a = some s') :
    s'.resource.wired.Paired := by
  cases trans_of_step hw h with
  | send hgone =>
      show (s.resource.setWired _).wired.Paired
      rw [Resource.setWired_wired]
      exact hw.wire_send s.sends
  | receive hgone =>
      show (s.resource.setWired _).wired.Paired
      rw [Resource.setWired_wired]
      exact hw.wire_receive s.receives
  | call hgone hanswer =>
      rw [Sys.answered_resource]
      exact hanswer.paired hw
  | pump hp hreact => exact hw
  | drop hgone =>
      show (s.resource.setWired _).wired.Paired
      rw [Resource.setWired_wired]
      exact .default

/-- A new resource has none. -/
theorem paired_init (new : New I) : (Sys.init (C := C) new).resource.wired.Paired := by
  cases new <;> exact .default

/-- The ends are paired after every history. -/
theorem paired_of_run {R : Rustls C} {E : Setup C I} {new : New I} {as : List Act}
    {s : Sys C I} (hrun : Lts.run (step R E) (.init new) as = some s) :
    s.resource.wired.Paired := by
  have halways : Lts.Always (step R E) (fun s => s.resource.wired.Paired) (.init new) as :=
    Lts.always_of_invariant (paired_init new) paired_step id
  exact halways.last hrun

/-! ## A refused call -/

/-- The handshake method is one of the resource's. -/
def Resource.Has : Resource I → Method → Prop
  | .connector _, .connect _ _ => True
  | .acceptor _, .accept _ => True
  | _, _ => False

/-- An acceptor still has its identity; a connector needs none. -/
def Resource.HasIdentity : Resource I → Prop
  | .connector _ => False
  | .acceptor a => a.identity ≠ none

/-- A handshake method that is refused leaves the wired ends and the identity as they were,
and whatever comes next goes as if it had not been called. -/
def RefusalIsAtomic (R : Rustls C) (E : Setup C I) (s : Sys C I) (m : Method) : Prop :=
  ∀ e r, s.resource.call E m = some (.error e, r) →
    r = s.resource ∧
    ∀ rest, Lts.run (step R E) s (.call m :: rest) = Lts.run (step R E) s rest

/-- The call takes nothing, or is not refused: a `send` is not taken without a `receive`
beside it, and an identity is not taken for a call that cannot start the pump. -/
def TakesNothingInVain (E : Setup C I) (r : Resource I) (m : Method) : Prop :=
  ¬ (r.Ready E m ∧ r.wired.send_done ≠ none ∧ r.wired.recv_done = none) ∧
  (r.HasIdentity → r.Ready E m ∧ r.wired.send_done ≠ none ∧ r.wired.recv_done ≠ none)

/-- A call takes nothing from a resource exactly if there is no identity to take. -/
theorem spent_eq_self_iff (r : Resource I) : r.spent = r ↔ ¬ r.HasIdentity := by
  cases r with
  | connector c => simp [Resource.spent, Resource.HasIdentity]
  | acceptor a =>
      obtain ⟨identity, wired⟩ := a
      simp [Resource.spent, Resource.HasIdentity, eq_comm]

/-- A call that takes nothing in vain, and is refused, leaves the resource as it was. -/
theorem Answer.keeps {E : Setup C I} {r r' : Resource I} {m : Method} {e : String}
    (hvain : TakesNothingInVain E r m) (h : Answer E r m (.error e) r') : r' = r := by
  obtain ⟨hsend', hid⟩ := hvain
  cases h with
  | refused hready =>
      rw [spent_eq_self_iff]
      exact fun h => hready (hid h).1
  | unsent hready hsend =>
      rw [spent_eq_self_iff]
      exact fun h => (hid h).2.1 hsend
  | unreceived hready hsend hrecv =>
      exact absurd ⟨hready, hsend ▸ Option.some_ne_none _, hrecv⟩ hsend'

/-- A call that takes something in vain is refused, and the resource is not what it was. -/
theorem Answer.loses {E : Setup C I} {r r' : Resource I} {m : Method}
    {result : Except String (C × CompleteWiring)} (hvain : ¬ TakesNothingInVain E r m)
    (h : Answer E r m result r') : (∃ e, result = .error e) ∧ r' ≠ r := by
  cases h with
  | refused hready =>
      refine ⟨⟨_, rfl⟩, fun hspent => hvain ⟨fun h => hready h.1, fun hid => ?_⟩⟩
      exact absurd hid ((spent_eq_self_iff r).mp hspent)
  | unsent hready hsend =>
      refine ⟨⟨_, rfl⟩, fun hspent => hvain ⟨fun h => h.2.1 hsend, fun hid => ?_⟩⟩
      exact absurd hid ((spent_eq_self_iff r).mp hspent)
  | unreceived hready hsend hrecv =>
      refine ⟨⟨_, rfl⟩, fun heq => ?_⟩
      have hwired : r.wired = .default := by
        rw [← heq, Resource.setWired_wired]
      rw [hwired] at hsend
      exact absurd hsend (by simp [Wired.default])
  | started hready hsend hrecv =>
      have hs : r.wired.send_done ≠ none := hsend ▸ Option.some_ne_none _
      have hr : r.wired.recv_done ≠ none := hrecv ▸ Option.some_ne_none _
      exact absurd ⟨fun h => hr h.2.2, fun _ => ⟨hready, hs, hr⟩⟩ hvain

/-- The resource's own method has an answer. -/
theorem call_of_has (E : Setup C I) {r : Resource I} {m : Method} (h : r.Has m) :
    ∃ result r', r.call E m = some (result, r') := by
  cases r <;> cases m
  · exact ⟨_, _, rfl⟩
  · exact h.elim
  · exact h.elim
  · exact ⟨_, _, rfl⟩

/-- Nothing is dropped by a step that changes nothing. -/
theorem released_self (i : Option ℕ) : released i i none = [] := by
  cases i with
  | none => rfl
  | some i => exact if_pos (.inl rfl)

@[simp] theorem Sys.update_self (s : Sys C I) : s.update s.resource none = s := by
  simp only [update, Option.map_none, released_self, List.append_nil]

/-- **A refused `connect` or `accept` leaves the resource usable -- exactly when it takes
nothing in vain.** After every history of calls, for either resource and everything that
can make the call fail. -/
theorem refusal_is_atomic_iff (R : Rustls C) (E : Setup C I) (new : New I) (as : List Act)
    (s : Sys C I) (m : Method) (hrun : Lts.run (step R E) (.init new) as = some s)
    (hgone : s.gone = false) (hhas : s.resource.Has m) :
    RefusalIsAtomic R E s m ↔ TakesNothingInVain E s.resource m := by
  have hw := paired_of_run hrun
  constructor
  · intro hatomic
    by_contra hvain
    obtain ⟨result, r, hcall⟩ := call_of_has E hhas
    obtain ⟨⟨e, rfl⟩, hne⟩ := (answer_of_call hw hcall).loses hvain
    exact hne (hatomic e r hcall).1
  · intro hvain e r hcall
    have hr : r = s.resource := (answer_of_call hw hcall).keeps hvain
    refine ⟨hr, fun rest => Lts.run_cons_of_step rest ?_⟩
    rw [hr] at hcall
    simp only [step, hgone, Bool.false_eq_true, if_false, hcall, Option.map_some, Sys.answered,
      Sys.update_self]

/-- Constructors for the endpoint of `NullTls.lean`, which take every certificate, name and
identity there is. -/
def nullSetup : Setup NullTls.Conn Unit where
  add_root cert := if cert = [] then .error "BadEncoding" else .ok ()
  valid_name server_name := server_name ≠ ""
  client _ _ _ := .ok (.fresh 1 [1])
  server_config _ := .ok ()
  server _ _ := .ok (.fresh 1 [])
  debug server_name := "\"" ++ server_name ++ "\""

/-- A `connect` without `send` is refused, and then `send` is enough to start the pump. -/
theorem connect_without_send_is_atomic :
    ∃ s, Lts.run (step (NullTls.rustls NullTls.greeting) nullSetup) (.init (.connector []))
        [.receive] = some s ∧
      RefusalIsAtomic (NullTls.rustls NullTls.greeting) nullSetup s
        (.connect "example.com" []) := by
  refine ⟨_, rfl, (refusal_is_atomic_iff _ _ (.connector []) [.receive] _
    (.connect "example.com" []) rfl rfl trivial).mpr ?_⟩
  exact ⟨fun h => h.2.1 rfl, fun hid => hid.elim⟩

/-- A `connect` without `receive` is refused and loses the `send`: with `receive` wired
afterwards a second `connect` starts no pump, where without the refused one it does. An
`accept` without wiring is refused and loses the identity. -/
theorem refused_call_loses_send_or_identity :
    (∃ s, Lts.run (step (NullTls.rustls NullTls.greeting) nullSetup) (.init (.connector []))
        [.send] = some s ∧
      ¬ RefusalIsAtomic (NullTls.rustls NullTls.greeting) nullSetup s
        (.connect "example.com" [])) ∧
    (∃ s, Lts.run (step (NullTls.rustls NullTls.greeting) nullSetup)
        (.init (.acceptor (some ()))) [] = some s ∧
      ¬ RefusalIsAtomic (NullTls.rustls NullTls.greeting) nullSetup s (.accept [])) := by
  constructor
  · refine ⟨_, rfl, fun hatomic => ?_⟩
    have hrun := (hatomic _ _ rfl).2 [.receive, .call (.connect "example.com" [])]
    have hpumps := congrArg (Option.map fun s => s.pumps.length) hrun
    exact absurd hpumps (by decide)
  · refine ⟨_, rfl, fun hatomic => ?_⟩
    have hrun := (hatomic _ _ rfl).2 [.send, .receive, .call (.accept [])]
    have hpumps := congrArg (Option.map fun s => s.pumps.length) hrun
    exact absurd hpumps (by decide)

end PolymorphTls.Connection

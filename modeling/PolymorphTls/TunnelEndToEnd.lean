/-
A tunnel of the guest virtualizer and the server it dialed: from one application's stream to
the other one's.

The client is the tunnel of `GuestTunnel.lean`, the server a pump that its application
drives itself, as the acceptor of the component does, and between them lies the network of
`Loopback.lean`. Forgetting the tunnel's tasks leaves the two pumps and the network
(`ends_refines`), so what was proved of these holds here; what is added is which of the
application's bytes the pump has been given, and when the tunnel lets it close.

A pump on its own may be asked to close before its handshake is over, and then the peer gets
a clean end in front of data that was already accepted. The tunnel rules that out: `connect`
holds the pipe's writer until the handshake is done, and drops it unused when that fails
(`Ready`). So a clean end means everything, without a condition on the handshake
(`tunnel_delivers`).
-/
import PolymorphTls.GuestTunnel
import PolymorphTls.PumpHandshake

set_option autoImplicit false

namespace PolymorphTls.TunnelEndToEnd

open Pump Loopback
open GuestTunnel (AppDone mapVerdict)

variable {C : Type} (R : Rustls C)

/-! ## The system -/

/-- The tunnel of a guest, the pump of the server it dialed, and the network between. -/
structure Sys (C : Type) where
  tunnel : GuestTunnel.Sys C
  /-- The network's books of the client, as in `Loopback.End`. -/
  read : ℕ
  consumerLeft : Bool
  transportLeft : Bool
  server : End C

/-- The two pumps and the network, with the tunnel's tasks forgotten. -/
def Sys.ends (s : Sys C) : Loopback.Sys C
  | .Client => ⟨s.tunnel.pump, s.read, s.consumerLeft, s.transportLeft⟩
  | .Server => s.server

def Sys.init (client server : C) : Sys C where
  tunnel := GuestTunnel.Sys.init R client
  read := 0
  consumerLeft := false
  transportLeft := false
  server := ⟨Pump.Sys.init R server, 0, false, false⟩

/-- A step of the tunnel, of the server, or of the network. -/
inductive Act where
  | client (a : GuestTunnel.Act)
  | server (e : Event)

/-- The tunnel after a step, with the network's books of it. -/
def Sys.withClient (s : Sys C) (tunnel : GuestTunnel.Sys C) (x : End C) : Sys C :=
  { s with
    tunnel
    read := x.read
    consumerLeft := x.consumerLeft
    transportLeft := x.transportLeft }

variable (remote : IpSocketAddress) (host : GuestSocket.HostSocket)

def step (s : Sys C) : Act → Option (Sys C)
  | .client a =>
      match GuestTunnel.event a with
      | none => (GuestTunnel.step R remote host s.tunnel a).map fun tunnel => { s with tunnel }
      | some e =>
          let x := s.ends .Client
          if x.allows s.server.pump.ciphertext_out e then
            (GuestTunnel.step R remote host s.tunnel a).map fun tunnel =>
              s.withClient tunnel (x.after tunnel.pump e)
          else none
  | .server e =>
      (s.server.step R s.tunnel.pump.ciphertext_out e).map fun server => { s with server }

variable {R} {remote} {host}

/-- A step of the system is one of the tunnel or one of the server; the network's are inside
both, as what the ends are given. -/
theorem step_cases {s s' : Sys C} {a : Act} (h : step R remote host s a = some s') :
    (∃ a', a = .client a' ∧ GuestTunnel.step R remote host s.tunnel a' = some s'.tunnel ∧
      s'.server = s.server) ∨ s'.tunnel = s.tunnel := by
  cases a with
  | client a =>
      refine .inl ⟨a, rfl, ?_⟩
      simp only [step] at h
      split at h
      · obtain ⟨tunnel, htunnel, rfl⟩ := Option.map_eq_some_iff.mp h
        exact ⟨htunnel, rfl⟩
      · split at h
        · obtain ⟨tunnel, htunnel, rfl⟩ := Option.map_eq_some_iff.mp h
          exact ⟨htunnel, rfl⟩
        · exact absurd h (by simp)
  | server e =>
      obtain ⟨server, -, rfl⟩ := Option.map_eq_some_iff.mp h
      exact .inr rfl

theorem ends_withClient (s : Sys C) {tunnel : GuestTunnel.Sys C} {x : End C}
    (hx : x.pump = tunnel.pump) :
    (s.withClient tunnel x).ends = Function.update s.ends .Client x := by
  funext side
  cases side with
  | Client =>
      rw [Function.update_self]
      show (⟨tunnel.pump, x.read, x.consumerLeft, x.transportLeft⟩ : End C) = x
      rw [← hx]
  | Server =>
      rw [Function.update_of_ne (by simp)]
      rfl

theorem ends_withServer (s : Sys C) (server : End C) :
    Sys.ends { s with server } = Function.update s.ends .Server server := by
  funext side
  cases side with
  | Client =>
      rw [Function.update_of_ne (by simp)]
      rfl
  | Server =>
      rw [Function.update_self]
      rfl

/-- **Refinement.** Without the tunnel's tasks this is two pumps and the network. So the
books of both pumps and the links between them are kept as they are by every step here, and
are not proved again. -/
theorem ends_refines : Lts.Refines (step R remote host) (Loopback.step R) (Sys.ends (C := C)) := by
  intro s a s' h
  cases a with
  | client a =>
      simp only [step] at h
      split at h
      · rename_i hevent
        -- a step of the virtualizer alone: the pump stutters
        obtain ⟨tunnel, htunnel, rfl⟩ := Option.map_eq_some_iff.mp h
        have hpump := GuestTunnel.pump_of_step htunnel
        rw [hevent] at hpump
        left
        show (s.withClient tunnel (s.ends .Client)).ends = s.ends
        rw [ends_withClient s (Eq.symm hpump), Function.update_eq_self]
      · rename_i e hevent
        split at h
        · rename_i hallows
          obtain ⟨tunnel, htunnel, rfl⟩ := Option.map_eq_some_iff.mp h
          have hpump := GuestTunnel.pump_of_step htunnel
          rw [hevent] at hpump
          right
          refine ⟨(.Client, e), ?_⟩
          rw [ends_withClient s (End.after_pump _ _ _)]
          show ((s.ends .Client).step R s.server.pump.ciphertext_out e).map _ = _
          rw [End.step, if_pos hallows]
          show ((react R s.tunnel.pump e).map _).map _ = _
          rw [hpump]
          rfl
        · exact absurd h (by simp)
  | server e =>
      obtain ⟨server, hserver, rfl⟩ := Option.map_eq_some_iff.mp h
      right
      refine ⟨(.Server, e), ?_⟩
      rw [ends_withServer s server]
      show (s.server.step R s.tunnel.pump.ciphertext_out e).map _ = _
      rw [hserver]
      rfl

/-! ## When the tunnel lets its connection close -/

section Ready

variable {valid : C → Prop}

/-- The pipe's writer reaches the application only over a completed handshake: `send` waits
for `connect`, and `connect` for the handshake's signal. This is what takes the place of a
condition on the handshake in what follows. -/
structure Ready (R : Rustls C) (valid : C → Prop) (t : GuestTunnel.Sys C) : Prop where
  pump : PumpHandshake.Inv R valid t.pump
  ready : t.send ≠ .connecting → t.send ≠ .abandoned → R.is_handshaking t.pump.conn = false
  close : t.send ≠ .abandoned → ∀ c, t.pump.closeNotifyAt = some c → R.is_handshaking c = false

/-- The connection that is asked to close is one the writer has reached by calls, so a
handshake that was complete before the pass is complete at the close. -/
theorem writer_pass_close_calls (h : Handshake) (c : C) (status : StreamResult)
    (buf : List UInt8) {c₁ : C}
    (hclose : (writer_pass R h c status buf).closeNotifyAt = some c₁) : Calls R c c₁ := by
  have hstatus : ∀ p : WriterPass C, p.closeNotifyAt = none →
      (writer_status R p status).closeNotifyAt = some c₁ → p.conn = c₁ := by
    intro p hnone h
    unfold writer_status at h
    split at h
    · exact Option.some.inj h
    · rw [hnone] at h
      exact absurd h (by simp)
  have hwrite : Calls R c (write_all R c buf).2 :=
    write_all_keeps (P := Calls R c) (fun _ buf hc => hc.tail (.write buf)) buf .refl
  unfold writer_pass at hclose
  split at hclose
  · rw [← hstatus _ rfl hclose]
  · split at hclose
    case h_1 => exact absurd hclose (by simp)
    case h_2 c' heq =>
        rw [heq] at hwrite
        rw [← hstatus _ rfl hclose]
        exact hwrite.trans (drain_calls c')

theorem ready_frame {t t' : GuestTunnel.Sys C} (hi : Ready R valid t) (hpump : t'.pump = t.pump)
    (hsend : t'.send ≠ .connecting → t'.send ≠ .abandoned →
      t.send ≠ .connecting ∧ t.send ≠ .abandoned)
    (habandoned : t.send = .abandoned → t'.send = .abandoned) : Ready R valid t' := by
  refine ⟨hpump ▸ hi.pump, fun h1 h2 => ?_, fun hne c hc => ?_⟩
  · obtain ⟨h1', h2'⟩ := hsend h1 h2
    rw [hpump]
    exact hi.ready h1' h2'
  · exact hi.close (fun h => hne (habandoned h)) c (hpump ▸ hc)

theorem ready_init {c : C} (hH : R.Handshakes valid) (hc : valid c) :
    Ready R valid (GuestTunnel.Sys.init R c) :=
  ⟨PumpHandshake.inv_init hH hc, fun h => absurd rfl h,
    fun _ c hc => absurd hc (by simp [GuestTunnel.Sys.init, Pump.Sys.init])⟩

/-- The pump's writer reads the pipe. It can read data, or an end that comes from the
application, only once the pipe's other end was handed out. -/
theorem ready_pipe (hH : R.Handshakes valid) {t : GuestTunnel.Sys C} {status : StreamResult}
    {buf : List UInt8} {pump : Pump.Sys C} {send : GuestTunnel.SendPc} (hi : Ready R valid t)
    (hstep : Pump.step R t.pump (.cleartext status buf) = some pump)
    (hpast : t.send ≠ .connecting) (habandoned : t.send = .abandoned → send = .abandoned) :
    Ready R valid { t with pump, send } := by
  have hreact : react R t.pump (.act (.cleartext status buf)) = some pump := hstep
  refine ⟨PumpHandshake.inv_step hH hi.pump hreact, fun _ hne => ?_, fun hne c hc => ?_⟩
  · have hready := hi.ready hpast fun h => hne (habandoned h)
    exact (PumpHandshake.completed_calls hH (react_calls hreact) hi.pump.valid hready).1
  · have hready := hi.ready hpast fun h => hne (habandoned h)
    cases Pump.trans_of_step hstep with
    | cleartext hpc hlen =>
        have hcalls := writer_pass_close_calls t.pump.handshake t.pump.conn status buf hc
        exact (PumpHandshake.completed_calls hH hcalls hi.pump.valid hready).1

theorem ready_step (hH : R.Handshakes valid) {t t' : GuestTunnel.Sys C} {a : GuestTunnel.Act}
    (hi : Ready R valid t) (h : GuestTunnel.step R remote host t a = some t') :
    Ready R valid t' := by
  cases GuestTunnel.trans_of_step h with
  | pump hnot hreact =>
      obtain ⟨-, -, hclose, -⟩ := GuestTunnel.react_writer_frame hnot hreact
      refine ⟨PumpHandshake.inv_step hH hi.pump hreact, fun h1 h2 => ?_, fun hne c hc => ?_⟩
      · exact (PumpHandshake.completed_calls hH (react_calls hreact) hi.pump.valid
          (hi.ready h1 h2)).1
      · exact hi.close hne c (hclose.symm.trans hc)
  | piece hpc hbuf hstep => exact ready_pipe hH hi hstep (by simp [hpc]) (by simp [hpc])
  | lastPiece hpc hends hstep => exact ready_pipe hH hi hstep (by simp [hpc]) (by simp [hpc])
  | pipeEnd hpc hstep =>
      refine ready_pipe hH hi hstep ?_ id
      rcases hpc with hpc | hpc | hpc <;> simp [hpc]
  | connected hpc hsent =>
      -- the signal is `Ok` only over a completed handshake
      obtain ⟨outcome, hmem⟩ := hsent
      have hready := ((PumpHandshake.signalled_of_inv hi.pump).ok_completed outcome hmem).1
      exact ⟨hi.pump, fun _ _ => hready, fun _ => hi.close (by simp [hpc])⟩
  | refused hpc => exact ⟨hi.pump, fun _ h => absurd rfl h, fun h => absurd rfl h⟩
  | send ht hboth => exact ready_frame hi rfl (fun h1 h2 => ⟨h1, h2⟩) id
  | sendAgain ht hboth => exact ready_frame hi rfl (fun h1 h2 => ⟨h1, h2⟩) id
  | receive ht hthere => exact ready_frame hi rfl (fun h1 h2 => ⟨h1, h2⟩) id
  | receiveAgain ht hgone => exact ready_frame hi rfl (fun h1 h2 => ⟨h1, h2⟩) id
  | drop ht => exact ready_frame hi rfl (fun h1 h2 => ⟨h1, h2⟩) id
  | recvDone hdone hopen => exact ready_frame hi rfl (fun h1 h2 => ⟨h1, h2⟩) id
  | claimed hpc | unclaimed hpc | appRead hpc | spliced hpc | leftOver hpc | sendDone hpc =>
      exact ready_frame hi rfl (fun _ _ => by simp [hpc]) (by simp [hpc])

end Ready

/-! ## From one application to the other -/

section Delivers

variable {produced early appdata decrypted : C → List UInt8} {closed : C → Bool}
  {finished : C → Option (List UInt8)} {Linked : C → C → ℕ → Prop} {processed valid : C → Prop}

/-- **What a tunnel delivers.** -/
structure Delivers (R : Rustls C) (appdata : C → List UInt8) (s : Sys C) : Prop where
  /-- The server gets the beginning of what the application sent. -/
  sent_in_order : s.server.pump.cleartext_out <+: s.tunnel.appSent
  /-- A clean end at the server: the application is done, and all of it has arrived. -/
  sent_whole : .ok () ∈ s.server.pump.recv_done → AppDone s.tunnel ∧
    (s.server.consumerLeft = false → s.server.pump.cleartext_out = s.tunnel.appSent)
  /-- Nothing is stuck, except a piece in the hands of the splice, unless the application's
  direction failed. -/
  sent_promptly : Quiet (s.ends .Client) s.server →
    (∀ pending status, s.tunnel.send ≠ .writing pending status) →
    s.server.consumerLeft = false → s.server.pump.cleartext_out = s.tunnel.appSent ∨
      ∃ message, s.tunnel.pump.send_done = [.error message]
  /-- The application gets the beginning of what the server wrote. -/
  received_in_order : s.tunnel.pump.cleartext_out <+: s.server.pump.accepted
  /-- `Ok` of `receive`: the server has asked for the close, behind everything the
  application got, which is all it wrote if its handshake was over. -/
  received_whole : .ok () ∈ s.tunnel.recv_verdict → .ok () ∈ s.server.pump.send_done ∧
    ∃ c, s.server.pump.closeNotifyAt = some c ∧ (s.consumerLeft = false →
      s.tunnel.pump.cleartext_out = appdata c ∧ (R.is_handshaking c = false →
        s.tunnel.pump.cleartext_out = s.server.pump.accepted))

/-- The tunnel's own invariant, that of the two pumps it is refined to, and what joins the
pipe to the handshake. -/
structure Inv (R : Rustls C) (produced early appdata decrypted : C → List UInt8)
    (closed : C → Bool) (finished : C → Option (List UInt8)) (Linked : C → C → ℕ → Prop)
    (processed valid : C → Prop) (s : Sys C) : Prop where
  ends : Loopback.Inv R produced early appdata decrypted closed finished Linked processed s.ends
  tunnel : GuestTunnel.Inv s.tunnel
  ready : Ready R valid s.tunnel

variable (hR : R.Receives decrypted closed) (hS : R.Sends early appdata)
  (hO : R.Outputs produced) (hF : R.Finishes appdata finished) (hT : R.Takes closed)
  (hC : R.Channel produced appdata decrypted closed finished Linked processed)
  (hA : R.Arrives produced appdata decrypted closed finished Linked processed)
  (hH : R.Handshakes valid)

include hS hC hA in
/-- Between an application that has sent its last byte and a server that has read what there
is: what is missing was refused by a writer that has ended. -/
theorem nothing_stuck_of_inv {s : Sys C}
    (hi : Inv R produced early appdata decrypted closed finished Linked processed valid s)
    (hquiet : Quiet (s.ends .Client) s.server) (hstays : s.server.consumerLeft = false)
    (hpast : s.tunnel.send ≠ .connecting) (hout : s.tunnel.send ≠ .abandoned)
    (hall : s.tunnel.pump.writer = .reading → s.tunnel.pump.accepted = s.tunnel.appSent) :
    s.server.pump.cleartext_out = s.tunnel.appSent ∨
      ∃ message, s.tunnel.pump.send_done = [.error message] := by
  obtain ⟨hclosed, hdelivered⟩ := (endToEnd_of_books hS hC hA (hi.ends.books .Client)
    (hi.ends.books .Server) (hi.ends.link .Client)).nothing_stuck hquiet
  cases hwriter : s.tunnel.pump.writer with
  | reading =>
      left
      rw [← hall hwriter]
      exact hdelivered hstays hwriter (hi.ready.ready hpast hout)
  | ended =>
      right
      obtain ⟨verdict, hone, hverdict⟩ := hi.tunnel.writer.ended hwriter
      cases verdict with
      | error message => exact ⟨message, hone⟩
      | ok u =>
          -- the tunnel closes only after the handshake, and such a close would have arrived
          obtain ⟨c, hclose⟩ := Option.ne_none_iff_exists'.mp (hverdict.mp rfl)
          have hready := hi.ready.close hout c hclose
          rw [hclosed c hclose] at hready
          exact absurd hready (by decide)

include hS hC hA in
/-- The books of the tunnel say what became of the application's data up to the pump, those
of the pumps what became of it from there. -/
theorem delivers_of_inv {s : Sys C}
    (hi : Inv R produced early appdata decrypted closed finished Linked processed valid s) :
    Delivers R appdata s := by
  have hout := endToEnd_of_books hS hC hA (hi.ends.books .Client) (hi.ends.books .Server)
    (hi.ends.link .Client)
  have hback := endToEnd_of_books hS hC hA (hi.ends.books .Server) (hi.ends.books .Client)
    (hi.ends.link .Server)
  have htruth := GuestTunnel.truthful_of_inv hi.tunnel (hi.ends.books .Client).receiving.flagged
  have hin : s.server.pump.cleartext_out <+: s.tunnel.pump.accepted := hout.in_order
  have hflow := hi.tunnel.flow
  unfold GuestTunnel.Flow at hflow
  refine ⟨hin.trans htruth.in_order, fun hok => ?_, fun hquiet hidle hstays => ?_,
    hback.in_order, fun hok => ?_⟩
  · -- the server's clean end: the pump had sent its close, after everything the pump accepted
    obtain ⟨-, c, hclose, -, hready⟩ := hout.clean_close hok
    have hasked : s.tunnel.pump.closeNotifyAt ≠ none := by
      rw [show s.tunnel.pump.closeNotifyAt = some c from hclose]
      simp
    obtain ⟨hall, hdone⟩ := htruth.close_last hasked
    refine ⟨hdone, fun hstays => ?_⟩
    by_cases habandoned : s.tunnel.send = .abandoned
    · -- a tunnel that was never handed out has nothing to deliver
      rw [habandoned] at hflow
      obtain ⟨hnone, hsent⟩ := hflow
      rw [hnone, List.prefix_nil] at hin
      rw [hin, hsent]
    · rw [← hall]
      exact hready hstays (hi.ready.close habandoned c hclose)
  · -- before the splice has read a piece, and where it never does, there is nothing to send
    have hnothing : s.tunnel.pump.accepted = [] → s.tunnel.appSent = [] →
        s.server.pump.cleartext_out = s.tunnel.appSent := by
      intro hnone hsent
      rw [hnone, List.prefix_nil] at hin
      rw [hin, hsent]
    cases hpc : s.tunnel.send with
    | connecting | waiting =>
        rw [hpc] at hflow
        exact .inl (hnothing hflow.1 hflow.2.1)
    | abandoned =>
        rw [hpc] at hflow
        exact .inl (hnothing hflow.1 hflow.2)
    | reading =>
        rw [hpc] at hflow
        exact nothing_stuck_of_inv hS hC hA hi hquiet hstays (by simp [hpc]) (by simp [hpc])
          fun _ => hflow.1
    | writing pending status => exact absurd hpc (hidle pending status)
    | closed | ended =>
        rw [hpc] at hflow
        exact nothing_stuck_of_inv hS hC hA hi hquiet hstays (by simp [hpc]) (by simp [hpc])
          fun hwriter => (hflow.2 (.inl hwriter)).1
  · obtain ⟨verdict, hmem, heq⟩ := hi.tunnel.mapped.recv _ hok
    have hverdict : verdict = .ok () := by
      cases verdict with
      | ok u => rfl
      | error message => exact absurd heq (by simp [mapVerdict])
    rw [hverdict] at hmem
    obtain ⟨hsent, c, hclose, hdata, hready⟩ := hback.clean_close hmem
    exact ⟨hsent, c, hclose, fun hstays => ⟨hdata hstays, hready hstays⟩⟩

include hR hS hO hF hT hC hH

/-- One step, by the parts: the tunnel's invariant and `Ready` from its own steps, the
pumps' through the refinement. -/
theorem inv_step {s s' : Sys C} {a : Act}
    (hi : Inv R produced early appdata decrypted closed finished Linked processed valid s)
    (h : step R remote host s a = some s') :
    Inv R produced early appdata decrypted closed finished Linked processed valid s' := by
  refine ⟨ends_refines.keeps (Loopback.inv_step hR hS hO hF hT hC) hi.ends h, ?_, ?_⟩
  · rcases step_cases h with ⟨a', -, htunnel, -⟩ | hsame
    · exact GuestTunnel.inv_step hi.tunnel htunnel
    · exact hsame ▸ hi.tunnel
  · rcases step_cases h with ⟨a', -, htunnel, -⟩ | hsame
    · exact ready_step hH hi.ready htunnel
    · exact hsame ▸ hi.ready

include hA in
/-- **A tunnel delivers, from one application to the other.** For two connections that behave
as rustls documents, any network that delivers a beginning of what each side transmits, and
every interleaving of the tunnel's tasks and calls, the two pumps, the network and the server:
what arrives is the beginning of what was sent, a clean end at the server means that all of it
has arrived and the application was done, in a quiet network nothing is on its way but a piece
in the hands of the splice, and an `Ok` of `receive` is the server's own close. -/
theorem tunnel_delivers (client server : C)
    (hc : Fresh R produced early appdata decrypted closed finished client)
    (hs : Fresh R produced early appdata decrypted closed finished server)
    (hcs : Linked client server 0) (hsc : Linked server client 0)
    (hpc : processed client) (hps : processed server) (hvalid : valid client)
    (acts : List Act) :
    Lts.Always (step R remote host) (Delivers R appdata) (Sys.init R client server) acts := by
  have hends : (Sys.init R client server).ends = Loopback.Sys.init R client server := by
    funext x
    cases x <;> rfl
  have hinit : Inv R produced early appdata decrypted closed finished Linked processed valid
      (Sys.init R client server) := by
    refine ⟨?_, GuestTunnel.inv_init client, ready_init hH hvalid⟩
    rw [hends]
    exact Loopback.inv_init hR hS hO hF hC hc hs hcs hsc hpc hps
  exact Lts.always_of_invariant hinit (inv_step hR hS hO hF hT hC hH)
    (delivers_of_inv hS hC hA)

end Delivers

/-- The application sends "hi" through the tunnel and ends its stream; the server gets both
bytes and a clean end. -/
theorem tunnel_delivers_hi :
    let remote : IpSocketAddress := .Ipv6 443 0 (fun i => if i = 0 then 0xfd00 else 0) 0
    let acts : List Act :=
      [.server (.act .dequeue), .server (.act (.transmit 1)),
        .client (.pump (.act (.transport .Complete [2]))), .client .connected, .client .send,
        .client .claimed, .client (.appRead .Complete [104, 105]),
        .client (.pipe .Complete [104, 105]), .client .spliced, .client (.appRead .Dropped []),
        .client (.pipe .Dropped []), .client (.pump (.act .dequeue)),
        .client (.pump (.act (.transmit 1))), .client (.pump (.act .transmitted)),
        .client (.pump (.act .dequeue)), .client (.pump (.act (.transmit 4))),
        .client (.pump (.act .transmitted)), .client (.pump (.act .dequeue)),
        .client (.pump (.act (.transmit 1))), .server (.act (.transport .Complete [2, 0, 104, 0])),
        .server (.act (.consume 1)), .server (.act .written),
        .server (.act (.transport .Complete [105, 1])), .server (.act (.consume 1)),
        .server (.act .written)]
    Lts.Always (step PlainTls.rustls remote .create)
        (Delivers PlainTls.rustls PlainTls.Conn.appdata)
        (Sys.init PlainTls.rustls .fresh .fresh) acts ∧
      ∃ s, Lts.run (step PlainTls.rustls remote .create)
          (Sys.init PlainTls.rustls .fresh .fresh) acts = some s ∧
        s.server.pump.cleartext_out = [104, 105] ∧ s.server.pump.recv_done = [.ok ()] := by
  have hfresh : Fresh PlainTls.rustls PlainTls.Conn.produced PlainTls.Conn.early
      PlainTls.Conn.appdata PlainTls.Conn.decrypted PlainTls.Conn.closed PlainTls.Conn.finished
      .fresh := ⟨rfl, rfl, rfl, rfl, rfl, rfl⟩
  refine ⟨tunnel_delivers PlainTls.receives PlainTls.sends PlainTls.outputs PlainTls.finishes
    PlainTls.takes PlainTls.channel PlainTls.arrives PlainTls.handshakes .fresh .fresh hfresh hfresh
    PlainTls.linked_fresh PlainTls.linked_fresh PlainTls.processed_fresh
    PlainTls.processed_fresh PlainTls.processed_fresh.greeted _, _, rfl, rfl, rfl⟩

end PolymorphTls.TunnelEndToEnd

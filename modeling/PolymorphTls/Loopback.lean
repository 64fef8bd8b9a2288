/-
Two pumps joined by a network (`conformance/guest-ct/src/support.rs`, `examples/tls-tcp`):
each side's ciphertext stream is the other side's transport input.

The network delivers the bytes of a side in order and may stop anywhere: a read returns a
piece of what the other side's transport has taken, with any status. The consumer of a side
may drop the cleartext stream and the transport the ciphertext stream, for good. Everything
else is interleaved freely, so a schedule is a list of events, each with the side it happens
on.

In every state of every schedule and in both directions (`delivered_end_to_end`):

* what one consumer has taken is the beginning of what the other one has written;
* a clean end is a close the other side's writer asked for, and a consumer that is still
  there has taken everything that was encrypted before it. That is everything that was
  written if the close was asked for after the handshake; a close in the middle of it
  leaves what was buffered behind;
* when the network is quiet no close that was asked for after the handshake is stuck in
  between; nor is data, once the handshake is over, while the writer still reads and the
  consumer is there. A writer that has failed, as it does past the early-data buffer, has
  lost what it was writing.

The argument joins the books of the three tasks. The sender's pump hands rustls what it
reads (`Sending`) and transmits what rustls produces (`Wired`); the network delivers a
beginning of that; the receiver's pump feeds its connection without a gap as long as it
reads on (`Link`), and delivers what that decrypts (`Receiving`). In the middle stands the
channel between the two connections.
-/
import Mathlib.Data.List.Infix
import PolymorphTls.Channel
import PolymorphTls.Lts
import PolymorphTls.PlainTls
import PolymorphTls.PumpReceive
import PolymorphTls.PumpSend
import PolymorphTls.PumpTransmit

set_option autoImplicit false

namespace PolymorphTls

/-- The other end of a connection. -/
def Side.peer : Side → Side
  | .Client => .Server
  | .Server => .Client

theorem Side.peer_peer (x : Side) : x.peer.peer = x := by cases x <;> rfl

/-- Two ends, so a step of one is never a step of its peer: the frame conditions below are
stated through this. -/
theorem Side.peer_ne (x : Side) : x.peer ≠ x := by cases x <;> decide

namespace Loopback

open Pump PumpSend

variable {C : Type} (R : Rustls C)

/-! ## The system -/

/-- One end: its pump, how much of the other side's ciphertext its reader has been given,
and who has dropped its streams. -/
structure End (C : Type) where
  pump : Pump.Sys C
  read : ℕ
  consumerLeft : Bool
  transportLeft : Bool

/-- What the outside lets happen. `ciphertext` is what the other side's transport has
taken. -/
def End.allows (ciphertext : List UInt8) (x : End C) : Event → Bool
  | .act (.transport _ buf) => buf.isPrefixOf (ciphertext.drop x.read)
  | .act (.consume _) => !x.consumerLeft
  | .act (.transmit _) => !x.transportLeft
  | _ => true

/-- What the outside keeps of an event. Only three events concern it: what the network gave
to the reader, and who has gone. -/
def End.after (x : End C) (pump : Pump.Sys C) : Event → End C
  | .act (.transport _ buf) => { x with pump, read := x.read + buf.length }
  | .consumerGone => { x with pump, consumerLeft := true }
  | .transportGone => { x with pump, transportLeft := true }
  | _ => { x with pump }

/-- A step of one end: an event the outside lets happen, on the pump as it is. The pump
itself never sees the other side. -/
def End.step (ciphertext : List UInt8) (x : End C) (e : Event) : Option (End C) :=
  if x.allows ciphertext e then (react R x.pump e).map fun pump => x.after pump e else none

/-- The two ends. There is no third component: the network is what each end's transport has
taken and how much of it the other end has been given. -/
abbrev Sys (C : Type) := Side → End C

def Sys.init (client server : C) : Sys C
  | .Client => ⟨Pump.Sys.init R client, 0, false, false⟩
  | .Server => ⟨Pump.Sys.init R server, 0, false, false⟩

/-- One end moves, and sees of the other only what its transport has taken. -/
def step (s : Sys C) (e : Side × Event) : Option (Sys C) :=
  ((s e.1).step R (s e.1.peer).pump.ciphertext_out e.2).map (Function.update s e.1)

/-- A step of an end is a step of its pump that the outside allows. -/
theorem End.step_eq_some {R : Rustls C} {ciphertext : List UInt8} {x x' : End C} {e : Event}
    (h : x.step R ciphertext e = some x') :
    x.allows ciphertext e = true ∧ ∃ pump, react R x.pump e = some pump ∧ x' = x.after pump e := by
  unfold End.step at h
  split at h
  · rename_i hallows
    rw [Option.map_eq_some_iff] at h
    obtain ⟨pump, hreact, rfl⟩ := h
    exact ⟨hallows, pump, hreact, rfl⟩
  · exact absurd h (by simp)

@[simp] theorem End.after_pump (x : End C) (pump : Pump.Sys C) (e : Event) :
    (x.after pump e).pump = pump := by
  unfold End.after
  split <;> rfl

/-- The end keeps the book of its consumer as the receive direction does. -/
theorem End.after_consumerLeft (x : End C) (pump : Pump.Sys C) (e : Event) :
    (x.after pump e).consumerLeft = PumpReceive.noteLeft x.pump e pump x.consumerLeft := by
  cases e with
  | act a => cases a <;> rfl
  | consumerGone => rfl
  | transportGone => rfl

/-- A transport that is still there was there before. -/
theorem End.after_transportLeft (x : End C) (pump : Pump.Sys C) (e : Event)
    (h : (x.after pump e).transportLeft = false) :
    x.transportLeft = false ∧ e ≠ .transportGone := by
  unfold End.after at h
  split at h <;> simp_all

/-! ## The sending side -/

section Sending

variable {R} {early appdata : C → List UInt8} {finished : C → Option (List UInt8)}

/-- What rustls was handed is the beginning of what was read from the consumer, and all of
it where `close_notify` was asked for. -/
structure Sending (R : Rustls C) (early appdata : C → List UInt8)
    (finished : C → Option (List UInt8)) (s : Pump.Sys C) : Prop where
  books : PumpSend.Inv R early appdata s
  handed : handed early appdata s.conn <+: s.accepted
  asked : ∀ c, s.closeNotifyAt = some c → finished s.conn = some (appdata c) ∧
    PumpSend.handed early appdata c = s.accepted ∧ .ok () ∈ s.send_done
  closing : ∀ c, s.closeNotifyAt = some c → finished c = none ∧
    Calls R (R.send_close_notify c) s.conn
  unasked : s.closeNotifyAt = none → finished s.conn = none

/-- One `write` takes a beginning of its bytes. -/
theorem write_handed (hS : R.Sends early appdata) (c : C) (buf : List UInt8) :
    ∃ k, (R.write c buf).1 = .ok k ∧
      handed early appdata (R.write c buf).2 = handed early appdata c ++ buf.take k := by
  cases hhand : R.is_handshaking c with
  | true =>
      obtain ⟨hok, hearly, happ, -, -⟩ := hS.write_early c buf hhand
      refine ⟨_, hok, ?_⟩
      rw [PumpSend.handed, PumpSend.handed, hearly, happ, List.append_assoc]
  | false =>
      obtain ⟨hok, happ, hhand'⟩ := hS.write_ready c buf hhand
      refine ⟨_, hok, ?_⟩
      rw [PumpSend.handed, PumpSend.handed, happ, hS.flushed _ hhand, hS.flushed _ hhand',
        List.append_nil, List.append_nil]

/-- Also a `write_all` that fails has taken a beginning of its bytes. -/
theorem write_all_handed (hS : R.Sends early appdata) (c : C) (buf : List UInt8) :
    ∃ taken, taken <+: buf ∧
      handed early appdata (write_all R c buf).2 = handed early appdata c ++ taken := by
  have hloop : ∀ n c (buf : List UInt8), ∃ taken, taken <+: buf ∧
      handed early appdata (writeAllLoop R n c buf).2 = handed early appdata c ++ taken := by
    intro n
    induction n with
    | zero => exact fun c buf => ⟨[], List.nil_prefix, (List.append_nil _).symm⟩
    | succ n ih =>
        intro c buf
        obtain ⟨k, hok, hk⟩ := write_handed hS c buf
        have heq : R.write c buf = (.ok k, (R.write c buf).2) := by rw [← hok]
        unfold writeAllLoop
        split
        · exact ⟨[], List.nil_prefix, (List.append_nil _).symm⟩
        · rw [heq]
          cases k with
          | zero =>
              rw [List.take_zero] at hk
              exact ⟨[], List.nil_prefix, hk⟩
          | succ k =>
              obtain ⟨taken, htaken, hrest⟩ := ih (R.write c buf).2 (buf.drop (k + 1))
              refine ⟨buf.take (k + 1) ++ taken, ?_, ?_⟩
              · have hprefix := (List.prefix_append_right_inj (buf.take (k + 1))).mpr htaken
                rwa [List.take_append_drop] at hprefix
              · show handed early appdata (writeAllLoop R n _ _).2 = _
                rw [hrest, hk, List.append_assoc]
  exact hloop _ c buf

/-- Draining moves output that is there, so it does not ask for a close. -/
theorem drain_finished (hF : R.Finishes appdata finished) (c : C) :
    finished (drain_tls_writes R c).2 = finished c :=
  drain_keeps (P := fun c' => finished c' = finished c)
    (fun c' hc' => (hF.write_tls_keeps c').trans hc') rfl

/-- The pass that asks for `close_notify` asks an open connection, and then only moves its
output out. -/
theorem writer_pass_closing (hF : R.Finishes appdata finished) (h : Handshake) {c : C}
    (status : StreamResult) (buf : List UInt8) (hopen : finished c = none) :
    (∀ c₁, (writer_pass R h c status buf).closeNotifyAt = some c₁ → finished c₁ = none ∧
      (writer_pass R h c status buf).conn = (drain_tls_writes R (R.send_close_notify c₁)).2) ∧
    ((writer_pass R h c status buf).closeNotifyAt = none →
      finished (writer_pass R h c status buf).conn = none) := by
  have hstatus : ∀ p : WriterPass C, finished p.conn = none → p.closeNotifyAt = none →
      (∀ c₁, (writer_status R p status).closeNotifyAt = some c₁ → finished c₁ = none ∧
        (writer_status R p status).conn = (drain_tls_writes R (R.send_close_notify c₁)).2) ∧
      ((writer_status R p status).closeNotifyAt = none →
        finished (writer_status R p status).conn = none) := by
    intro p hp hnone
    unfold writer_status
    split
    · refine ⟨fun c₁ hc₁ => ?_, fun h => absurd h (by simp)⟩
      rw [Option.some.injEq] at hc₁
      rw [← hc₁]
      exact ⟨hp, rfl⟩
    · exact ⟨fun c₁ hc₁ => absurd (hnone.symm.trans hc₁) (by simp), fun _ => hp⟩
  have hwrite : finished (write_all R c buf).2 = none :=
    write_all_keeps (P := fun c' => finished c' = none)
      (fun c' buf' hc' => (hF.write_keeps c' buf').trans hc') buf hopen
  unfold writer_pass
  split
  · exact hstatus ⟨c, [], h, none, none⟩ hopen rfl
  · split
    case h_1 heq =>
        rw [heq] at hwrite
        exact ⟨fun c₁ hc₁ => absurd hc₁ (by simp), fun _ => hwrite⟩
    case h_2 c' heq =>
        rw [heq] at hwrite
        exact hstatus ⟨(drain_tls_writes R c').2, (drain_tls_writes R c').1,
          h.check R (drain_tls_writes R c').2, none, none⟩ ((drain_finished hF c').trans hwrite)
          rfl

/-- Only the writer finishes. The reader drains too, and it is there that it might have. -/
theorem react_finished (hF : R.Finishes appdata finished) {s s' : Pump.Sys C} {e : Event}
    (hnot : ∀ status buf, e ≠ .act (.cleartext status buf)) (h : react R s e = some s') :
    finished s'.conn = finished s.conn := by
  cases moves_of_step h with
  | emptyRead hpc => rw [Sys.readerNext_conn]
  | @read status buf hpc =>
      have hkeep := reader_pass_keeps (R := R) (P := fun c => finished c = finished s.conn)
        (fun c cursor hc => (hF.read_tls_keeps c cursor).trans hc)
        (fun c hc => (hF.process_keeps c).trans hc)
        (fun c hc => (hF.write_tls_keeps c).trans hc)
        (fun c size hc => (hF.read_keeps c size).trans hc)
        s.handshake s.clean_close buf rfl
      obtain ⟨_, _, _, heq⟩ :=
        s.readerPassed_eq (reader_pass R s.handshake s.conn s.clean_close buf) status
      rw [heq]
      exact hkeep
  | consume hpc => rfl
  | decide hpc => rw [Sys.readerNext_conn]
  | cleartext hpc hlen => exact absurd rfl (hnot _ _)
  | transmit => rfl

/-- Nothing was read, so nothing was handed on. -/
theorem sending_init (hS : R.Sends early appdata) (hF : R.Finishes appdata finished) {c : C}
    (hfresh : handed early appdata c = []) (hopen : finished c = none) :
    Sending R early appdata finished (Pump.Sys.init R c) := by
  refine ⟨PumpSend.inv_init hS hfresh, ?_, fun c' h => absurd h (by simp [Pump.Sys.init]),
    fun c' h => absurd h (by simp [Pump.Sys.init]), ?_⟩
  · show handed early appdata (drain_tls_writes R c).2 <+: []
    rw [handed_of_same (drain_spec hS c).1, hfresh]
  · exact fun _ => drain_keeps (P := fun c' => finished c' = none)
      (fun c' hc' => (hF.write_tls_keeps c').trans hc') hopen

/-- A read of the writer, whether it fits or not. -/
theorem sending_writerPassed (hS : R.Sends early appdata) (hF : R.Finishes appdata finished)
    {s : Pump.Sys C} (status : StreamResult) {buf : List UInt8}
    (hi : Sending R early appdata finished s) (hpc : s.writer = .reading)
    (hlen : buf.length ≤ CHUNK) : Sending R early appdata finished
      (s.writerPassed (writer_pass R s.handshake s.conn status buf) buf) := by
  have hopen := hi.unasked (hi.books.asked hpc)
  have haccepted := hi.books.handed hpc
  obtain ⟨hclosing, hnofin⟩ := writer_pass_closing hF s.handshake status buf hopen
  have hcalls : ∀ c, (writer_pass R s.handshake s.conn status buf).closeNotifyAt = some c →
      finished c = none ∧
        Calls R (R.send_close_notify c) (writer_pass R s.handshake s.conn status buf).conn := by
    intro c hc
    obtain ⟨hnone, hconn⟩ := hclosing c hc
    rw [hconn]
    exact ⟨hnone, drain_calls _⟩
  by_cases hover : Overflows R early s.conn buf
  · obtain ⟨-, hnone⟩ := writer_pass_overflows hS s.handshake status hover
    refine ⟨inv_overflow hS hover, ?_, fun c hc => absurd (hnone.symm.trans hc) (by simp),
      hcalls, hnofin⟩
    -- what was taken before the error stays with rustls
    obtain ⟨taken, htaken, hhanded⟩ := write_all_handed hS s.conn buf
    have herr := write_all_overflows hS hover
    have heq : write_all R s.conn buf
        = (.error "failed to write whole buffer", (write_all R s.conn buf).2) := by rw [← herr]
    have hconn : (writer_pass R s.handshake s.conn status buf).conn
        = (write_all R s.conn buf).2 := by
      rw [writer_pass, if_neg hover.2.1, heq]
    show PumpSend.handed early appdata (writer_pass R s.handshake s.conn status buf).conn
      <+: s.accepted ++ buf
    rw [hconn, hhanded, haccepted, List.prefix_append_right_inj]
    exact htaken
  · obtain ⟨hhanded, -, -, hverdict, hnone, hsome⟩ :=
      writer_pass_fits hS s.handshake status hover (hi.books.drained hpc) hlen
    rw [haccepted] at hhanded hsome
    refine ⟨inv_writerPassed hS hi.books hpc hlen hover, ?_, fun c hc => ?_, hcalls, hnofin⟩
    · show PumpSend.handed early appdata (writer_pass R s.handshake s.conn status buf).conn
        <+: s.accepted ++ buf
      rw [hhanded]
    · have hc' : (writer_pass R s.handshake s.conn status buf).closeNotifyAt = some c := hc
      by_cases hends : status.ends = true
      · obtain ⟨c₁, hat, -, hhanded₁⟩ := hsome hends
        rw [hc', Option.some.injEq] at hat
        subst hat
        -- the close records the data in front of it
        obtain ⟨hnone₁, hconn⟩ := hclosing c hc'
        have hfin : finished (writer_pass R s.handshake s.conn status buf).conn
            = some (appdata c) := by
          rw [hconn, drain_finished hF, hF.close_records c hnone₁]
        refine ⟨hfin, hhanded₁, ?_⟩
        simp [Sys.writerPassed, hverdict, hends]
      · rw [hnone (by simpa using hends)] at hc'
        exact absurd hc' (by simp)

/-- The send books are kept by every step: the writer's own are the case with content, and
what the reader flushes was handed on before. -/
theorem sending_react (hS : R.Sends early appdata) (hF : R.Finishes appdata finished)
    {s s' : Pump.Sys C} {e : Event} (hi : Sending R early appdata finished s)
    (h : react R s e = some s') : Sending R early appdata finished s' := by
  rcases react_frame_or_cleartext hS h with ⟨hf, hnot⟩ | ⟨status, buf, -, hpc, hlen, rfl⟩
  · have hfin := react_finished hF hnot h
    refine ⟨hi.books.frame hf, ?_, fun c hc => ?_, fun c hc => ?_, fun hc => ?_⟩
    · rw [hf.handed, hf.accepted]
      exact hi.handed
    · rw [hfin, hf.accepted, hf.send_done]
      exact hi.asked c (hf.closeNotifyAt.symm.trans hc)
    · obtain ⟨hopen, hcalls⟩ := hi.closing c (hf.closeNotifyAt.symm.trans hc)
      exact ⟨hopen, hcalls.trans (react_calls h)⟩
    · exact hfin.trans (hi.unasked (hf.closeNotifyAt.symm.trans hc))
  · exact sending_writerPassed hS hF status hi hpc hlen

end Sending

/-! ## The ciphertext stream -/

section Wired

variable {R} {produced early appdata : C → List UInt8}

/-- The transport has taken a beginning of what rustls produced; while it is there, the
transmit task's books are right. -/
structure Wired (R : Rustls C) (produced : C → List UInt8) (x : End C) : Prop where
  taken : x.pump.ciphertext_out <+: produced x.pump.conn
  books : x.transportLeft = false → PumpTransmit.Inv R produced x.pump

/-- Output is only added to. -/
theorem produced_calls (hO : R.Outputs produced) {c c' : C} (h : Calls R c c') :
    produced c <+: produced c' := by
  induction h with
  | refl => exact List.prefix_refl _
  | tail _ hcall ih =>
      refine ih.trans ?_
      cases hcall with
      | read_tls cursor => exact ⟨_, (hO.read_tls_emits _ cursor).1.symm⟩
      | process_new_packets =>
          obtain ⟨new, hnew⟩ := hO.process_emits _
          exact ⟨new, hnew.1.symm⟩
      | read size => exact ⟨_, (hO.read_emits _ size).1.symm⟩
      | write buf =>
          obtain ⟨new, hnew⟩ := hO.write_emits _ buf
          exact ⟨new, hnew.1.symm⟩
      | write_tls =>
          rw [hO.write_tls_keeps]
      | send_close_notify =>
          obtain ⟨new, hnew⟩ := hO.close_emits _
          exact ⟨new, hnew.1.symm⟩

/-- What the transport has taken is a beginning of the output, read off the transmit task's
books. -/
theorem taken_of_books {s : Pump.Sys C} (h : PumpTransmit.Inv R produced s) :
    s.ciphertext_out <+: produced s.conn := by
  rw [← h.in_order, List.append_assoc]
  exact List.prefix_append _ _

/-- Only the transport takes ciphertext. -/
theorem react_ciphertext_out {s s' : Pump.Sys C} {e : Event}
    (hnot : ∀ n, e ≠ .act (.transmit n)) (h : react R s e = some s') :
    s'.ciphertext_out = s.ciphertext_out := by
  cases react_of_step h with
  | act h =>
      cases h with
      | emptyRead hpc => rw [Sys.readerNext_eq]
      | @read status buf hpc hne hlen =>
          obtain ⟨_, _, _, heq⟩ :=
            s.readerPassed_eq (reader_pass R s.handshake s.conn s.clean_close buf) status
          rw [heq]
      | consume hpc => rfl
      | written hpc => rw [Sys.readerNext_eq]
      | cleartext hpc hlen => rfl
      | dequeue hpc hqueue => rfl
      | close hpc hqueue hr hw => rfl
      | transmit hpc => exact absurd rfl (hnot _)
      | transmitted hpc => rfl
  | consumerGone hpc => rw [Sys.readerNext_eq]
  | transportGone hpc => rfl

/-- The wire is kept: a transport that stays keeps the books exact, and one that leaves
takes nothing more, so what it has taken remains a beginning. -/
theorem wired_step (hO : R.Outputs produced) (hS : R.Sends early appdata) {x : End C}
    {e : Event} {ciphertext : List UInt8} {pump : Pump.Sys C} (hi : Wired R produced x)
    (hallows : x.allows ciphertext e = true) (h : react R x.pump e = some pump) :
    Wired R produced (x.after pump e) := by
  have hbooks : (x.after pump e).transportLeft = false → PumpTransmit.Inv R produced pump := by
    intro hstays
    obtain ⟨hthere, hnot⟩ := x.after_transportLeft pump e hstays
    exact PumpTransmit.inv_step hO hS (hi.books hthere) hnot h
  refine ⟨?_, by rwa [End.after_pump]⟩
  rw [End.after_pump]
  by_cases htransmit : ∃ n, e = .act (.transmit n)
  · -- the transport takes bytes only while it is there
    obtain ⟨n, rfl⟩ := htransmit
    have hthere : x.transportLeft = false := by simpa [End.allows] using hallows
    exact taken_of_books (hbooks hthere)
  · rw [react_ciphertext_out (fun n hn => htransmit ⟨n, hn⟩) h]
    exact hi.taken.trans (produced_calls hO (react_calls h))

end Wired

/-! ## The receiving side -/

section Receiving

variable {R} {decrypted : C → List UInt8} {closed : C → Bool}

/-- The part of the receive books that does not depend on the consumer: the reader's flag is
the connection's, and an `Ok` verdict needs it. -/
structure Flagged (R : Rustls C) (closed : C → Bool) (s : Pump.Sys C) : Prop where
  drained : R.received_plaintext s.conn = []
  flag : s.clean_close = closed s.conn
  reading : s.reader = .reading → s.clean_close = false
  verdict : .ok () ∈ s.recv_done → s.clean_close = true

/-- The consumer has taken a beginning of what was decrypted, and the reader's books are
right. -/
structure Receiving (R : Rustls C) (decrypted : C → List UInt8) (closed : C → Bool)
    (x : End C) : Prop where
  flagged : Flagged R closed x.pump
  taken : x.pump.cleartext_out <+: decrypted x.pump.conn
  books : PumpReceive.Inv R decrypted closed (x.pump, x.consumerLeft)

/-- The flag after one read is the connection's. -/
theorem reader_pass_flag (hR : R.Receives decrypted closed) (h : Handshake) (c : C)
    (clean_close : Bool) (buf : List UInt8) (hclean : clean_close = true → closed c = true) :
    (reader_pass R h c clean_close buf).clean_close
      = closed (reader_pass R h c clean_close buf).conn := by
  obtain ⟨-, hcl⟩ := PumpReceive.feedLoop_spec hR buf.length buf ⟨c, [], clean_close, none⟩ hclean
  unfold reader_pass
  generalize feedLoop R buf.length buf ⟨c, [], clean_close, none⟩ = f at hcl
  obtain ⟨hres, -, -, hclo⟩ := PumpReceive.read_available_plaintext_spec hR f.conn
  simp only [hres]
  rw [hclo]
  cases hflag : f.clean_close with
  | false => rfl
  | true => rw [hcl hflag]; rfl

/-- The reader reads on only without a failure and without a close, and it reports `Ok` only
on a close. -/
theorem reader_decide_next (h : Handshake) (failed : Option String) (clean_close : Bool)
    (status : StreamResult) :
    ((reader_decide h failed clean_close status).1 = none →
      failed = none ∧ clean_close = false) ∧
    ((reader_decide h failed clean_close status).1 = some (.ok ()) → clean_close = true) := by
  unfold reader_decide reader_status
  cases failed with
  | some message => simp
  | none => cases clean_close <;> cases status <;> simp [StreamResult.ends]

/-- No close has been seen. -/
theorem flagged_init (hR : R.Receives decrypted closed) {c : C}
    (hdrained : R.received_plaintext c = []) (hopen : closed c = false) :
    Flagged R closed (Pump.Sys.init R c) := by
  obtain ⟨-, hrec, hclo⟩ := PumpReceive.drain_same hR c
  exact ⟨hrec.trans hdrained, (hclo.trans hopen).symm, fun _ => rfl,
    fun h => absurd h (by simp [Pump.Sys.init])⟩

theorem flagged_readerNext {s : Pump.Sys C} {next : Option Verdict × Handshake}
    (hdrained : R.received_plaintext s.conn = []) (hflag : s.clean_close = closed s.conn)
    (hverdict : .ok () ∈ s.recv_done → s.clean_close = true)
    (hon : next.1 = none → s.clean_close = false)
    (hok : next.1 = some (.ok ()) → s.clean_close = true) :
    Flagged R closed (s.readerNext next) := by
  obtain ⟨_ | verdict, h⟩ := next
  · exact ⟨hdrained, hflag, fun _ => hon rfl, hverdict⟩
  · refine ⟨hdrained, hflag, fun hpc => absurd hpc (by simp [Sys.readerNext]), fun hmem => ?_⟩
    have hmem' : .ok () ∈ s.recv_done ++ [verdict] := hmem
    rw [List.mem_append, List.mem_singleton] at hmem'
    rcases hmem' with hold | hnew
    · exact hverdict hold
    · exact hok (by rw [← hnew])

/-- A decision of the reader. The flag it decides on is not touched by it. -/
theorem flagged_decide {s : Pump.Sys C} (failed : Option String) (status : StreamResult)
    (h : Handshake) (hdrained : R.received_plaintext s.conn = [])
    (hflag : s.clean_close = closed s.conn)
    (hverdict : .ok () ∈ s.recv_done → s.clean_close = true) :
    Flagged R closed (s.readerNext (reader_decide h failed s.clean_close status)) := by
  obtain ⟨hnone, hok⟩ := reader_decide_next h failed s.clean_close status
  exact flagged_readerNext hdrained hflag hverdict (fun hn => (hnone hn).2) hok

/-- The flag is kept by every step, whoever has left: the writer shares the connection with
the reader and must not close it from the peer's side. -/
theorem flagged_react (hR : R.Receives decrypted closed) {s s' : Pump.Sys C} {e : Event}
    (hi : Flagged R closed s) (h : react R s e = some s') : Flagged R closed s' := by
  cases moves_of_step h with
  | @emptyRead status hpc =>
      have hclean := hi.reading hpc
      refine flagged_readerNext hi.drained hi.flag hi.verdict (fun _ => hclean) ?_
      rw [hclean]
      unfold reader_status
      split <;> simp
  | @read status buf hpc =>
      have hopen : s.clean_close = true → closed s.conn = true := fun hc => hi.flag.symm.trans hc
      obtain ⟨-, hnone, -⟩ := PumpReceive.reader_pass_spec hR s.handshake s.conn s.clean_close
        buf hi.drained hopen
      have hflag := reader_pass_flag hR s.handshake s.conn s.clean_close buf hopen
      -- no verdict has been written yet: one would have needed the flag
      have hno : .ok () ∈ s.recv_done → False := fun hmem =>
        absurd ((hi.verdict hmem).symm.trans (hi.reading hpc)) (by decide)
      generalize reader_pass R s.handshake s.conn s.clean_close buf = p at hnone hflag
      unfold Sys.readerPassed
      split
      · exact flagged_decide (s := { s with
            conn := p.conn
            handshake := p.handshake
            clean_close := p.clean_close
            queue := s.queue ++ p.sent }) p.failed status p.handshake hnone hflag
          fun hmem => (hno hmem).elim
      · exact ⟨hnone, hflag, fun hr => absurd hr (by simp), fun hmem => (hno hmem).elim⟩
  | consume hpc => exact ⟨hi.drained, hi.flag, fun hr => absurd hr (by simp), hi.verdict⟩
  | @decide _ pending failed status hpc =>
      exact flagged_decide failed status s.handshake hi.drained hi.flag hi.verdict
  | @cleartext status buf hpc hlen =>
      obtain ⟨-, hrec, hclo⟩ := PumpReceive.writer_pass_keeps hR s.handshake s.conn status buf
      exact ⟨hrec.trans hi.drained, hi.flag.trans hclo.symm, hi.reading, hi.verdict⟩
  | transmit => exact ⟨hi.drained, hi.flag, hi.reading, hi.verdict⟩

/-- What was decrypted stays decrypted. -/
theorem react_decrypted (hR : R.Receives decrypted closed) {s s' : Pump.Sys C} {e : Event}
    (hi : Flagged R closed s) (h : react R s e = some s') :
    decrypted s.conn <+: decrypted s'.conn := by
  cases moves_of_step h with
  | emptyRead hpc =>
      rw [Sys.readerNext_conn]
  | @read status buf hpc =>
      obtain ⟨hdec, -⟩ := PumpReceive.reader_pass_spec hR s.handshake s.conn s.clean_close buf
        hi.drained fun hc => hi.flag.symm.trans hc
      obtain ⟨_, _, _, heq⟩ :=
        s.readerPassed_eq (reader_pass R s.handshake s.conn s.clean_close buf) status
      rw [heq]
      exact ⟨_, hdec.symm⟩
  | consume hpc => exact List.prefix_refl _
  | decide hpc =>
      rw [Sys.readerNext_conn]
  | @cleartext status buf hpc hlen =>
      obtain ⟨hdec, -⟩ := PumpReceive.writer_pass_keeps hR s.handshake s.conn status buf
      show decrypted s.conn <+: decrypted (writer_pass R s.handshake s.conn status buf).conn
      rw [hdec]
  | transmit => exact List.prefix_refl _

/-- Only the consumer takes cleartext. -/
theorem react_cleartext_out {s s' : Pump.Sys C} {e : Event}
    (hnot : ∀ n, e ≠ .act (.consume n)) (h : react R s e = some s') :
    s'.cleartext_out = s.cleartext_out := by
  cases react_of_step h with
  | act h =>
      cases h with
      | emptyRead hpc => rw [Sys.readerNext_eq]
      | @read status buf hpc hne hlen =>
          obtain ⟨_, _, _, heq⟩ :=
            s.readerPassed_eq (reader_pass R s.handshake s.conn s.clean_close buf) status
          rw [heq]
      | consume hpc => exact absurd rfl (hnot _)
      | written hpc => rw [Sys.readerNext_eq]
      | cleartext hpc hlen => rfl
      | dequeue hpc hqueue => rfl
      | close hpc hqueue hr hw => rfl
      | transmit hpc => rfl
      | transmitted hpc => rfl
  | consumerGone hpc => rw [Sys.readerNext_eq]
  | transportGone hpc => rfl

/-- The receive books, over a pump whose consumer may have left: then only what it had taken
by then is spoken of. -/
theorem receiving_step (hR : R.Receives decrypted closed) {x : End C} {e : Event}
    {ciphertext : List UInt8} {pump : Pump.Sys C} (hi : Receiving R decrypted closed x)
    (hallows : x.allows ciphertext e = true) (h : react R x.pump e = some pump) :
    Receiving R decrypted closed (x.after pump e) := by
  have hbooks : PumpReceive.Inv R decrypted closed (pump, (x.after pump e).consumerLeft) := by
    rw [x.after_consumerLeft]
    exact PumpReceive.inv_react hR hi.books h
  refine ⟨by rw [End.after_pump]; exact flagged_react hR hi.flagged h, ?_,
    by rwa [End.after_pump]⟩
  rw [End.after_pump]
  by_cases hconsume : ∃ n, e = .act (.consume n)
  · -- the consumer takes bytes only while it is there
    obtain ⟨n, rfl⟩ := hconsume
    have hthere : x.consumerLeft = false := by simpa [End.allows] using hallows
    exact (PumpReceive.truthful_of_inv hbooks).in_order hthere
  · rw [react_cleartext_out (fun n hn => hconsume ⟨n, hn⟩) h]
    exact hi.taken.trans (react_decrypted hR hi.flagged h)

end Receiving

/-! ## The link -/

section Link

variable {R} {produced appdata decrypted : C → List UInt8} {closed : C → Bool}
  {finished : C → Option (List UInt8)} {Linked : C → C → ℕ → Prop} {processed : C → Prop}

/-- The reader has not failed and has not seen a close. Past that it leaves input unread on
purpose, and the link speaks only of what has been fed. -/
def ReadsOn (s : Pump.Sys C) : Prop :=
  match s.reader with
  | .reading => True
  | .writing _ failed _ => failed = none ∧ s.clean_close = false
  | .ended => False

/-- The connections stay linked, and as long as the reader reads on it has fed everything it
was given. This is the invariant that joins the ends: each end's books speak of its own
connection alone. -/
structure Link (Linked : C → C → ℕ → Prop) (processed : C → Prop) (x y : End C) : Prop where
  linked : ∃ n, Linked x.pump.conn y.pump.conn n
  synced : ReadsOn y.pump → Linked x.pump.conn y.pump.conn y.read ∧ processed y.pump.conn

theorem readsOn_readerNext {s : Pump.Sys C} {next : Option Verdict × Handshake}
    (h : ReadsOn (s.readerNext next)) : next.1 = none := by
  obtain ⟨_ | verdict, handshake⟩ := next
  · rfl
  · exact False.elim h

variable (hC : R.Channel produced appdata decrypted closed finished Linked processed)
include hC

/-- Whatever the sender calls, the receiver stays linked to it. -/
theorem linked_sender {a a' b : C} {n : ℕ} (h : Linked a b n) (hcalls : Calls R a a') :
    Linked a' b n := by
  induction hcalls with
  | refl => exact h
  | tail _ hcall ih => exact hC.sender ih hcall

/-- **Feeding one read.** A read that continues the sender's output is fed completely,
unless the loop fails or meets the close. -/
theorem feedLoop_linked (hR : R.Receives decrypted closed) (hT : R.Takes closed) {a : C} {n : ℕ}
    (fuel : ℕ) (cursor : List UInt8) (f : Feed C) (hfuel : cursor.length ≤ fuel)
    (hlinked : Linked a f.conn n) (hproc : processed f.conn)
    (hcursor : cursor <+: (produced a).drop n) (hnofail : f.failure = none) :
    (∃ m, Linked a (feedLoop R fuel cursor f).conn m) ∧
    ((feedLoop R fuel cursor f).failure = none →
      closed (feedLoop R fuel cursor f).conn = false →
      Linked a (feedLoop R fuel cursor f).conn (n + cursor.length) ∧
        processed (feedLoop R fuel cursor f).conn) := by
  -- every turn feeds at least one byte, so the bound is enough
  induction fuel generalizing cursor f n with
  | zero =>
      have hnil : cursor = [] := List.length_eq_zero_iff.mp (Nat.le_zero.mp hfuel)
      rw [hnil]
      exact ⟨⟨n, hlinked⟩, fun _ _ => ⟨hlinked, hproc⟩⟩
  | succ fuel ih =>
      have hread := hC.reads hlinked hcursor
      obtain ⟨-, -, hclo⟩ := hR.read_tls_keeps f.conn cursor
      unfold feedLoop
      split
      case isTrue hnil =>
          rw [hnil]
          exact ⟨⟨n, hlinked⟩, fun _ _ => ⟨hlinked, hproc⟩⟩
      case isFalse hne =>
          split
          case h_1 c heq =>
              -- nothing more is taken: the peer has closed
              rw [heq] at hread hclo
              have hclosed := hT.none_closed f.conn cursor hne (by rw [heq])
              refine ⟨⟨_, hread⟩, fun _ hopen => ?_⟩
              have hopen' : closed c = false := hopen
              rw [hclo, hclosed] at hopen'
              exact absurd hopen' (by decide)
          case h_2 e c heq =>
              rw [heq] at hread
              exact ⟨⟨_, hread⟩, fun hfail => absurd hfail (by simp)⟩
          case h_3 k c hk heq =>
              have hle := hT.at_most f.conn cursor k (by rw [heq])
              rw [heq] at hread
              have hfed : Linked a c (n + k) := hread
              have hdone := hC.process hfed
              have hok : ∀ {b}, (R.process_new_packets c).1 = .ok b →
                  processed (R.process_new_packets c).2 := fun h => hC.process_processed h
              have hdrain : ∀ {c'}, Linked a c' (n + k) →
                  Linked a (drain_tls_writes R c').2 (n + k) :=
                fun h => drain_keeps (P := fun c' => Linked a c' (n + k))
                  (fun _ h => hC.write_tls h) h
              split
              case h_1 b c' heq' =>
                  rw [heq'] at hdone hok
                  have hlen : (cursor.drop k).length ≤ fuel := by
                    have hpos : k ≠ 0 := fun h => hk h
                    rw [List.length_drop]
                    omega
                  have hrest : cursor.drop k <+: (produced a).drop (n + k) := by
                    rw [← List.drop_drop]
                    exact List.IsPrefix.drop hcursor k
                  have hnext := ih (cursor.drop k)
                    { f with
                      conn := (drain_tls_writes R c').2
                      sent := f.sent ++ (drain_tls_writes R c').1
                      clean_close := f.clean_close || b } hlen (hdrain hdone)
                    (drain_keeps (fun _ h => hC.write_tls_processed h) (hok rfl)) hrest hnofail
                  have hsum : n + k + (cursor.drop k).length = n + cursor.length := by
                    rw [List.length_drop]
                    omega
                  rwa [hsum] at hnext
              case h_2 e c' heq' =>
                  rw [heq'] at hdone
                  exact ⟨⟨_, hdrain hdone⟩, fun hfail => absurd hfail (by simp)⟩

/-- One pass of the reader over a piece of the sender's output. It feeds, reads and checks;
only feeding moves the position. -/
theorem reader_pass_linked (hR : R.Receives decrypted closed) (hT : R.Takes closed)
    (h : Handshake) {a c : C} {n : ℕ} (clean_close : Bool) (buf : List UInt8)
    (hlinked : Linked a c n) (hproc : processed c) (hbuf : buf <+: (produced a).drop n)
    (hclean : clean_close = true → closed c = true) :
    (∃ m, Linked a (reader_pass R h c clean_close buf).conn m) ∧
    ((reader_pass R h c clean_close buf).failed = none →
      (reader_pass R h c clean_close buf).clean_close = false →
      Linked a (reader_pass R h c clean_close buf).conn (n + buf.length) ∧
        processed (reader_pass R h c clean_close buf).conn) := by
  have hflag := reader_pass_flag hR h c clean_close buf hclean
  obtain ⟨⟨m, hm⟩, hfed⟩ := feedLoop_linked hC hR hT buf.length buf ⟨c, [], clean_close, none⟩
    (Nat.le_refl _) hlinked hproc hbuf rfl
  unfold reader_pass at hflag ⊢
  generalize feedLoop R buf.length buf ⟨c, [], clean_close, none⟩ = f at hflag hm hfed
  obtain ⟨-, -, -, hclo⟩ := PumpReceive.read_available_plaintext_spec hR f.conn
  refine ⟨⟨m, readLoop_keeps (P := fun c' => Linked a c' m)
    (fun _ size h => hC.read size h) _ f.conn hm⟩, ?_⟩
  intro hnofail hopen
  have hopen' := hflag.symm.trans hopen
  rw [hclo] at hopen'
  obtain ⟨hl, hp⟩ := hfed hnofail hopen'
  exact ⟨readLoop_keeps (P := fun c' => Linked a c' (n + buf.length))
      (fun _ size h => hC.read size h) _ f.conn hl,
    readLoop_keeps (P := processed) (fun _ size h => hC.read_processed size h) _ f.conn hp⟩

omit hC in
/-- A step other than a read of the transport: the reader reads on afterwards only if it did
before. The converse fails, a decision may end it. -/
theorem readsOn_of_react {s s' : Pump.Sys C} {e : Event}
    (hnot : ∀ status buf, e ≠ .act (.transport status buf)) (h : react R s e = some s')
    (hon : ReadsOn s') : ReadsOn s := by
  cases moves_of_step h with
  | emptyRead hpc => exact absurd rfl (hnot _ _)
  | read hpc => exact absurd rfl (hnot _ _)
  | consume hpc =>
      unfold ReadsOn
      rw [hpc]
      exact hon
  | @decide _ pending failed status hpc =>
      unfold ReadsOn
      rw [hpc]
      exact (reader_decide_next s.handshake failed s.clean_close status).1 (readsOn_readerNext hon)
  | cleartext hpc hlen => exact hon
  | transmit => exact hon

/-- A step of the receiver other than a read of its transport keeps the link. -/
theorem linked_receiver {a : C} {n : ℕ} {s s' : Pump.Sys C} {e : Event}
    (hnot : ∀ status buf, e ≠ .act (.transport status buf)) (h : react R s e = some s') :
    (Linked a s.conn n → Linked a s'.conn n) ∧ (processed s.conn → processed s'.conn) := by
  cases moves_of_step h with
  | emptyRead hpc => exact absurd rfl (hnot _ _)
  | read hpc => exact absurd rfl (hnot _ _)
  | consume hpc => exact ⟨id, id⟩
  | decide hpc =>
      rw [Sys.readerNext_conn]
      exact ⟨id, id⟩
  | @cleartext status buf hpc hlen =>
      constructor
      · exact writer_pass_preserves (P := fun c => Linked a c n) (fun _ buf h => hC.write buf h)
          (fun _ h => hC.write_tls h) (fun _ h => hC.close h) s.handshake status buf
      · exact writer_pass_preserves (P := processed) (fun _ buf h => hC.write_processed buf h)
          (fun _ h => hC.write_tls_processed h) (fun _ h => hC.close_processed h) s.handshake
          status buf
  | transmit => exact ⟨id, id⟩

/-- A step of the sender: more output behind what the receiver was given. -/
theorem link_sender {x y : End C} {e : Event} {pump : Pump.Sys C}
    (hi : Link Linked processed x y) (h : react R x.pump e = some pump) :
    Link Linked processed (x.after pump e) y := by
  have hcalls := react_calls h
  obtain ⟨n, hn⟩ := hi.linked
  refine ⟨⟨n, ?_⟩, fun hon => ?_⟩
  · rw [End.after_pump]
    exact linked_sender hC hn hcalls
  · obtain ⟨hl, hp⟩ := hi.synced hon
    rw [End.after_pump]
    exact ⟨linked_sender hC hl hcalls, hp⟩

/-- A nonempty read of the receiver: the network may give any next piece of what the
transport has taken, and the pass feeds it. -/
theorem link_read (hR : R.Receives decrypted closed) (hT : R.Takes closed) {x y : End C}
    {status : StreamResult} {buf : List UInt8} (hi : Link Linked processed x y)
    (hflagged : Flagged R closed y.pump) (hpc : y.pump.reader = .reading)
    (hbuf : buf <+: (produced x.pump.conn).drop y.read) :
    Link Linked processed x
      ⟨y.pump.readerPassed (reader_pass R y.pump.handshake y.pump.conn y.pump.clean_close buf)
        status, y.read + buf.length, y.consumerLeft, y.transportLeft⟩ := by
  have hon : ReadsOn y.pump := by
    unfold ReadsOn
    rw [hpc]
    trivial
  obtain ⟨hl, hp⟩ := hi.synced hon
  obtain ⟨hsome, hfed⟩ := reader_pass_linked hC hR hT y.pump.handshake y.pump.clean_close buf hl
    hp hbuf fun hc => hflagged.flag.symm.trans hc
  generalize reader_pass R y.pump.handshake y.pump.conn y.pump.clean_close buf = p at hsome hfed
  unfold Sys.readerPassed
  split
  · refine ⟨?_, fun hon' => ?_⟩
    · show ∃ n, Linked x.pump.conn (Sys.readerNext _ _).conn n
      rw [Sys.readerNext_conn]
      exact hsome
    · obtain ⟨hnofail, hopen⟩ := (reader_decide_next p.handshake p.failed p.clean_close
        status).1 (readsOn_readerNext hon')
      show Linked x.pump.conn (Sys.readerNext _ _).conn _ ∧ processed (Sys.readerNext _ _).conn
      rw [Sys.readerNext_conn]
      exact hfed hnofail hopen
  · exact ⟨hsome, fun hon' => hfed hon'.1 hon'.2⟩

/-- A step of the receiver, of either kind. -/
theorem link_receiver (hR : R.Receives decrypted closed) (hT : R.Takes closed) {x y : End C}
    {e : Event} {pump : Pump.Sys C} (hi : Link Linked processed x y)
    (hflagged : Flagged R closed y.pump) (hwire : x.pump.ciphertext_out <+: produced x.pump.conn)
    (hallows : y.allows x.pump.ciphertext_out e = true) (h : react R y.pump e = some pump) :
    Link Linked processed x (y.after pump e) := by
  by_cases htransport : ∃ status buf, e = .act (.transport status buf)
  · obtain ⟨status, buf, rfl⟩ := htransport
    have hbuf : buf <+: (produced x.pump.conn).drop y.read := by
      refine List.IsPrefix.trans ?_ (List.IsPrefix.drop hwire y.read)
      exact List.isPrefixOf_iff_prefix.mp hallows
    cases react_of_step h with
    | act htrans =>
        cases htrans with
        | emptyRead hpc =>
            -- nothing was read, so nothing moved
            have hon : ReadsOn y.pump := by
              unfold ReadsOn
              rw [hpc]
              trivial
            refine ⟨?_, fun _ => ?_⟩
            · show ∃ n, Linked x.pump.conn (Sys.readerNext _ _).conn n
              rw [Sys.readerNext_conn]
              exact hi.linked
            · show Linked x.pump.conn (Sys.readerNext _ _).conn y.read ∧
                processed (Sys.readerNext _ _).conn
              rw [Sys.readerNext_conn]
              exact hi.synced hon
        | read hpc hne hlen => exact link_read hC hR hT hi hflagged hpc hbuf
  · have hnot : ∀ status buf, e ≠ .act (.transport status buf) :=
      fun status buf he => htransport ⟨status, buf, he⟩
    have hread : (y.after pump e).read = y.read := by
      unfold End.after
      split
      · exact absurd rfl (hnot _ _)
      all_goals rfl
    obtain ⟨n, hn⟩ := hi.linked
    refine ⟨⟨n, ?_⟩, fun hon => ?_⟩
    · rw [End.after_pump]
      exact (linked_receiver hC hnot h).1 hn
    · rw [End.after_pump] at hon
      obtain ⟨hl, hp⟩ := hi.synced (readsOn_of_react hnot h hon)
      rw [End.after_pump, hread]
      exact ⟨(linked_receiver hC hnot h).1 hl, (linked_receiver hC (a := x.pump.conn)
        (n := 0) hnot h).2 hp⟩

end Link

/-! ## The two ends together -/

section EndToEnd

variable {R} {produced early appdata decrypted : C → List UInt8} {closed : C → Bool}
  {finished : C → Option (List UInt8)} {Linked : C → C → ℕ → Prop} {processed : C → Prop}

/-- The network is quiet between a sender and a receiver: nothing is queued, in flight or
being handled. -/
structure Quiet (x y : End C) : Prop where
  transmitted : x.pump.transmit = .next
  queue : x.pump.queue = []
  there : x.transportLeft = false
  delivered : y.read = x.pump.ciphertext_out.length
  idle : y.pump.reader = .reading

/-- **One direction of the connection**, from the consumer of `x` to the consumer of `y`. -/
structure EndToEnd (R : Rustls C) (appdata : C → List UInt8) (x y : End C) : Prop where
  /-- What arrives was written, in order, once, from the beginning. -/
  in_order : y.pump.cleartext_out <+: x.pump.accepted
  /-- A clean end was asked for, behind everything that had been encrypted; after the
  handshake that is everything written. -/
  clean_close : .ok () ∈ y.pump.recv_done → .ok () ∈ x.pump.send_done ∧
    ∃ c, x.pump.closeNotifyAt = some c ∧
      (y.consumerLeft = false → y.pump.cleartext_out = appdata c) ∧
      (y.consumerLeft = false → R.is_handshaking c = false →
        y.pump.cleartext_out = x.pump.accepted)
  /-- Nothing is stuck after the handshake: no close, and no byte of a writer that still
  reads. -/
  nothing_stuck : Quiet x y →
    (∀ c, x.pump.closeNotifyAt = some c → R.is_handshaking c = true) ∧
    (y.consumerLeft = false → x.pump.writer = .reading → R.is_handshaking x.pump.conn = false →
      y.pump.cleartext_out = x.pump.accepted)

/-- The books of one end. They are kept by its own steps and do not mention the peer. -/
structure Books (R : Rustls C) (produced early appdata decrypted : C → List UInt8)
    (closed : C → Bool) (finished : C → Option (List UInt8)) (x : End C) : Prop where
  sending : Sending R early appdata finished x.pump
  wired : Wired R produced x
  receiving : Receiving R decrypted closed x

/-- The books of both ends, and the links between them. -/
structure Inv (R : Rustls C) (produced early appdata decrypted : C → List UInt8)
    (closed : C → Bool) (finished : C → Option (List UInt8)) (Linked : C → C → ℕ → Prop)
    (processed : C → Prop) (s : Sys C) : Prop where
  books : ∀ x, Books R produced early appdata decrypted closed finished (s x)
  link : ∀ x : Side, Link Linked processed (s x) (s x.peer)

/-- A connection no pump has driven yet: nothing was read, written or received over it. -/
structure Fresh (R : Rustls C) (produced early appdata decrypted : C → List UInt8)
    (closed : C → Bool) (finished : C → Option (List UInt8)) (c : C) : Prop where
  decrypted : decrypted c = []
  received : R.received_plaintext c = []
  closed : closed c = false
  handed : handed early appdata c = []
  finished : finished c = none
  produced : produced c = R.sendable_tls c

variable (hR : R.Receives decrypted closed) (hS : R.Sends early appdata)
  (hO : R.Outputs produced) (hF : R.Finishes appdata finished) (hT : R.Takes closed)
  (hC : R.Channel produced appdata decrypted closed finished Linked processed)

include hR hS hO hF

theorem books_init {c : C}
    (hc : Fresh R produced early appdata decrypted closed finished c) :
    Books R produced early appdata decrypted closed finished
      ⟨Pump.Sys.init R c, 0, false, false⟩ := by
  refine ⟨sending_init hS hF hc.handed hc.finished, ⟨List.nil_prefix, fun _ => ?_⟩,
    ⟨flagged_init hR hc.received hc.closed, List.nil_prefix,
      PumpReceive.inv_init hR hc.decrypted hc.received⟩⟩
  exact PumpTransmit.inv_init hO hS hc.produced

/-- One step of one end keeps its books; the four parts were shown for themselves. -/
theorem books_step {x : End C} {e : Event} {ciphertext : List UInt8} {pump : Pump.Sys C}
    (hi : Books R produced early appdata decrypted closed finished x)
    (hallows : x.allows ciphertext e = true) (h : react R x.pump e = some pump) :
    Books R produced early appdata decrypted closed finished (x.after pump e) := by
  refine ⟨?_, wired_step hO hS hi.wired hallows h, receiving_step hR hi.receiving hallows h⟩
  rw [End.after_pump]
  exact sending_react hS hF hi.sending h

omit hR hS hO hF in
include hC in
/-- Two fresh connections are linked at the first byte. -/
theorem link_init {a b : C} (hlinked : Linked a b 0) (hproc : processed b) :
    Link Linked processed (⟨Pump.Sys.init R a, 0, false, false⟩ : End C)
      ⟨Pump.Sys.init R b, 0, false, false⟩ := by
  have ha := linked_sender hC hlinked (drain_calls (R := R) a)
  have hb : Linked (drain_tls_writes R a).2 (drain_tls_writes R b).2 0 :=
    drain_keeps (P := fun c => Linked (drain_tls_writes R a).2 c 0) (fun _ h => hC.write_tls h) ha
  exact ⟨⟨0, hb⟩, fun _ => ⟨hb, drain_keeps (fun _ h => hC.write_tls_processed h) hproc⟩⟩

include hC

theorem inv_init {client server : C}
    (hc : Fresh R produced early appdata decrypted closed finished client)
    (hs : Fresh R produced early appdata decrypted closed finished server)
    (hcs : Linked client server 0) (hsc : Linked server client 0)
    (hpc : processed client) (hps : processed server) :
    Inv R produced early appdata decrypted closed finished Linked processed
      (Sys.init R client server) := by
  refine ⟨fun x => ?_, fun x => ?_⟩
  · cases x with
    | Client => exact books_init hR hS hO hF hc
    | Server => exact books_init hR hS hO hF hs
  · cases x with
    | Client => exact link_init hC hcs hps
    | Server => exact link_init hC hsc hpc

include hT

/-- A step of one end keeps its own books, and both links: it is the sender of one and the
receiver of the other. -/
theorem inv_step {s s' : Sys C} {e : Side × Event}
    (hi : Inv R produced early appdata decrypted closed finished Linked processed s)
    (h : step R s e = some s') :
    Inv R produced early appdata decrypted closed finished Linked processed s' := by
  obtain ⟨me, e⟩ := e
  unfold step at h
  rw [Option.map_eq_some_iff] at h
  obtain ⟨x', hstep, rfl⟩ := h
  obtain ⟨hallows, pump, hreact, rfl⟩ := End.step_eq_some hstep
  have hpeer : Function.update s me ((s me).after pump e) me.peer = s me.peer :=
    Function.update_of_ne me.peer_ne _ _
  refine ⟨fun x => ?_, fun x => ?_⟩
  · by_cases hx : x = me
    · rw [hx, Function.update_self]
      exact books_step hR hS hO hF (hi.books me) hallows hreact
    · rw [Function.update_of_ne hx]
      exact hi.books x
  · -- the side that moved is the sender of one direction and the receiver of the other
    by_cases hx : x = me
    · rw [hx, Function.update_self, hpeer]
      exact link_sender hC (hi.link me) hreact
    · have hback : x.peer = me := by
        cases x <;> cases me <;> first | rfl | exact absurd rfl hx
      rw [hback, Function.update_self, Function.update_of_ne hx]
      have hxme : x = me.peer := by rw [← hback, Side.peer_peer]
      have hlink := hi.link x
      rw [hback] at hlink
      rw [← hxme] at hallows
      exact link_receiver hC hR hT hlink (hi.books me).receiving.flagged
        (hi.books x).wired.taken hallows hreact

variable (hA : R.Arrives produced appdata decrypted closed finished Linked processed)
include hA

omit hR hO hF hT in
/-- What the books and the link say about one direction. Each clause is a chain of
beginnings, from what was written over what was encrypted, transmitted, fed and decrypted to
what was taken. -/
theorem endToEnd_of_books {x y : End C}
    (hx : Books R produced early appdata decrypted closed finished x)
    (hy : Books R produced early appdata decrypted closed finished y)
    (hlink : Link Linked processed x y) : EndToEnd R appdata x y := by
  obtain ⟨n, hn⟩ := hlink.linked
  have hauthentic := hC.authentic hn
  refine ⟨?_, fun hok => ?_, fun hquiet => ?_⟩
  · -- consumer ← decrypted ← encrypted ← handed to rustls ← written
    calc y.pump.cleartext_out
        <+: decrypted y.pump.conn := hy.receiving.taken
      _ <+: appdata x.pump.conn := hauthentic
      _ <+: handed early appdata x.pump.conn := List.prefix_append _ _
      _ <+: x.pump.accepted := hx.sending.handed
  · have hclosed : closed y.pump.conn = true :=
      hy.receiving.flagged.flag.symm.trans (hy.receiving.flagged.verdict hok)
    have hfin := hC.close_authentic hn hclosed
    -- the sender has finished, so its writer asked for the close
    obtain ⟨c, hc⟩ : ∃ c, x.pump.closeNotifyAt = some c := by
      by_contra hnone
      have hunasked := hx.sending.unasked
        (Option.eq_none_iff_forall_ne_some.mpr fun c hc => hnone ⟨c, hc⟩)
      rw [hfin] at hunasked
      exact absurd hunasked (by simp)
    obtain ⟨hdata, haccepted, hsent⟩ := hx.sending.asked c hc
    rw [hfin, Option.some.injEq] at hdata
    have hdelivered : y.consumerLeft = false → y.pump.cleartext_out = appdata c := by
      intro hstays
      have htruth := PumpReceive.truthful_of_inv hy.receiving.books
      exact (htruth.delivered hstays (List.ne_nil_of_mem hok)).trans hdata
    refine ⟨hsent, c, hc, hdelivered, fun hstays hready => ?_⟩
    rw [hdelivered hstays, ← haccepted, handed, hS.flushed c hready, List.append_nil]
  · -- everything produced has been read and processed
    have hon : ReadsOn y.pump := by
      unfold ReadsOn
      rw [hquiet.idle]
      trivial
    have hall : x.pump.ciphertext_out = produced x.pump.conn := by
      have hbooks := (hx.wired.books hquiet.there).in_order
      rw [hquiet.transmitted, hquiet.queue, PumpTransmit.inflight, List.flatten_nil,
        List.append_nil, List.append_nil] at hbooks
      exact hbooks
    obtain ⟨hl, hp⟩ := hlink.synced hon
    rw [hquiet.delivered, hall] at hl
    have hopen : closed y.pump.conn = false :=
      hy.receiving.flagged.flag.symm.trans (hy.receiving.flagged.reading hquiet.idle)
    refine ⟨fun c hat => ?_, fun hstays hpc hready => ?_⟩
    · by_contra hhand
      -- a close asked for after the handshake would have arrived
      obtain ⟨hnone, hcalls⟩ := hx.sending.closing c hat
      rw [Bool.not_eq_true] at hhand
      rw [hA.close hhand hnone hcalls hl hp] at hopen
      exact absurd hopen (by decide)
    · have hdata := hA.data hl hp (hx.sending.unasked (hx.sending.books.asked hpc))
      have hbal := hy.receiving.books.balanced
      unfold PumpReceive.Balanced at hbal
      rw [hquiet.idle] at hbal
      obtain ⟨-, -, hout⟩ := hbal
      rw [hout hstays, hdata, ← hx.sending.books.handed hpc, handed, hS.flushed _ hready,
        List.append_nil]

/-- **Delivery end to end.** For two connections that behave as rustls documents, joined by
any network that delivers a beginning of what each side transmits, and for every
interleaving of the two pumps with their consumers and the network, in both directions and
in every state: what arrives is the beginning of what was written; a clean end is an
authenticated close behind everything that was encrypted, which is everything that was
written if the close was asked for after the handshake; and once the handshake is over,
nothing of a writer that still reads is stuck on its way to a consumer that is there. -/
theorem delivered_end_to_end (client server : C)
    (hc : Fresh R produced early appdata decrypted closed finished client)
    (hs : Fresh R produced early appdata decrypted closed finished server)
    (hcs : Linked client server 0) (hsc : Linked server client 0)
    (hpc : processed client) (hps : processed server) (events : List (Side × Event)) :
    Lts.Always (step R) (fun s => ∀ x : Side, EndToEnd R appdata (s x) (s x.peer))
      (Sys.init R client server) events :=
  Lts.always_of_invariant (inv_init hR hS hO hF hC hc hs hcs hsc hpc hps)
    (inv_step hR hS hO hF hT hC)
    fun hi x => endToEnd_of_books hS hC hA (hi.books x) (hi.books x.peer) (hi.link x)

end EndToEnd

/-- Both sides greet, the client writes "hi" and closes, and the network delivers one byte
at a time: the server's consumer gets both bytes and a clean end. -/
theorem delivered_hi :
    let events : List (Side × Event) :=
      [(.Server, .act .dequeue), (.Server, .act (.transmit 1)),
        (.Client, .act (.transport .Complete [2])),
        (.Client, .act (.cleartext .Complete [104, 105])), (.Client, .act (.cleartext .Dropped [])),
        (.Client, .act .dequeue), (.Client, .act (.transmit 1)), (.Client, .act .transmitted),
        (.Server, .act (.transport .Complete [2])),
        (.Client, .act .dequeue), (.Client, .act (.transmit 4)), (.Client, .act .transmitted),
        (.Client, .act .dequeue), (.Client, .act (.transmit 1)),
        (.Server, .act (.transport .Complete [0])), (.Server, .act (.transport .Complete [104])),
        (.Server, .act (.consume 1)), (.Server, .act .written),
        (.Server, .act (.transport .Complete [0, 105])), (.Server, .act (.consume 1)),
        (.Server, .act .written), (.Server, .act (.transport .Dropped [1]))]
    Lts.Always (step PlainTls.rustls)
        (fun s => ∀ x : Side, EndToEnd PlainTls.rustls PlainTls.Conn.appdata (s x) (s x.peer))
        (Sys.init PlainTls.rustls .fresh .fresh) events ∧
      ∃ s, Lts.run (step PlainTls.rustls) (Sys.init PlainTls.rustls .fresh .fresh) events = some s ∧
        (s .Server).pump.cleartext_out = [104, 105] ∧ (s .Server).pump.recv_done = [.ok ()] := by
  have hfresh : Fresh PlainTls.rustls PlainTls.Conn.produced PlainTls.Conn.early
      PlainTls.Conn.appdata PlainTls.Conn.decrypted PlainTls.Conn.closed PlainTls.Conn.finished
      .fresh := ⟨rfl, rfl, rfl, rfl, rfl, rfl⟩
  refine ⟨delivered_end_to_end PlainTls.receives PlainTls.sends PlainTls.outputs
    PlainTls.finishes PlainTls.takes PlainTls.channel PlainTls.arrives .fresh .fresh hfresh hfresh
    PlainTls.linked_fresh PlainTls.linked_fresh PlainTls.processed_fresh
    PlainTls.processed_fresh _, _, rfl, rfl, rfl⟩

end Loopback

end PolymorphTls

/-
The ciphertext stream of the pump: what is transmitted, and when it is closed.

The reader and the writer both make rustls produce TLS output, and each drains it into the
transmit queue before its next await; the transmit task writes the queue to the ciphertext
stream. TLS records carry sequence numbers, so a record that is left behind or overtaken
breaks the connection.

* At every await rustls has nothing pending, and what was transmitted, what is being
  written and what is queued is, in this order, all output rustls ever produced
  (`output_is_transmitted_in_order`). The one place where a drain is missing, the writer's
  error path, is reached only when rustls has produced nothing.
* The stream is closed when the last producer is gone, so the consumer's close closes it
  only once the reader has ended too (`closes_with_cleartext_iff_reader_ended`).
-/
import PolymorphTls.NullTls
import PolymorphTls.Pump
import PolymorphTls.PumpSend

set_option autoImplicit false

namespace PolymorphTls.PumpTransmit

open Pump

variable {C : Type} {R : Rustls C}

/-! ## Producing and draining -/

/-- The output since `base` was handed on as the chunks `sent`, and none of it is left. -/
def Flushed (R : Rustls C) (produced : C → List UInt8) (base : List UInt8)
    (sent : List (List UInt8)) (c : C) : Prop :=
  produced c = base ++ sent.flatten ∧ R.sendable_tls c = []

section Output

variable {produced early appdata : C → List UInt8} (hO : R.Outputs produced)
  (hS : R.Sends early appdata)
include hO hS

/-- Draining hands on exactly what is pending. -/
theorem drain_moves (c : C) : (drain_tls_writes R c).1.flatten = R.sendable_tls c ∧
    produced (drain_tls_writes R c).2 = produced c ∧
    R.sendable_tls (drain_tls_writes R c).2 = [] := by
  -- every turn of the loop moves at least one byte
  have hloop : ∀ n c, (R.sendable_tls c).length ≤ n →
      (drainLoop R n c).1.flatten = R.sendable_tls c := by
    intro n
    induction n with
    | zero =>
        intro c hlen
        rw [List.length_eq_zero_iff.mp (Nat.le_zero.mp hlen)]
        rfl
    | succ n ih =>
        intro c hlen
        by_cases hwants : R.wants_write c = true
        · obtain ⟨bytes, hne, hok, hsplit⟩ := hS.write_tls_moves c hwants
          have heq : R.write_tls c = (.ok bytes, (R.write_tls c).2) := by rw [← hok]
          have hpos := List.length_pos_iff.mpr hne
          obtain ⟨b, bs, rfl⟩ := List.exists_cons_of_ne_nil hne
          have hrest := ih (R.write_tls c).2 (by
            rw [hsplit, List.length_append] at hlen
            omega)
          rw [drainLoop, if_pos hwants, heq]
          show ((b :: bs) :: (drainLoop R n (R.write_tls c).2).1).flatten = _
          rw [List.flatten_cons, hrest, ← hsplit]
        · rw [drainLoop, if_neg hwants, List.flatten_nil]
          by_contra hne
          exact hwants ((hS.wants_write_iff c).mpr (Ne.symm hne))
  refine ⟨hloop _ c (Nat.le_refl _), ?_, (PumpSend.drain_spec hS c).2⟩
  refine drain_keeps (P := fun c' => produced c' = produced c) ?_ rfl
  intro c' hc'
  rw [hO.write_tls_keeps, hc']

/-- Output that is produced and then drained is handed on behind what was. Every task drains
before its next await, so between two awaits nothing of another task's can come in
between. -/
theorem flushed_drain {base : List UInt8} {sent : List (List UInt8)} {c c' : C}
    (hf : Flushed R produced base sent c) (he : ∃ new, R.Emits produced new c c') :
    Flushed R produced base (sent ++ (drain_tls_writes R c').1) (drain_tls_writes R c').2 := by
  obtain ⟨new, hprod, hpend⟩ := he
  obtain ⟨hmoved, hkeep, hempty⟩ := drain_moves hO hS c'
  refine ⟨?_, hempty⟩
  rw [hkeep, hprod, hf.1, List.flatten_append, hmoved, hpend, hf.2, List.nil_append,
    List.append_assoc]

omit hO hS in
/-- A call that produces nothing. -/
theorem flushed_of_emits_nil {base : List UInt8} {sent : List (List UInt8)} {c c' : C}
    (hf : Flushed R produced base sent c) (he : R.Emits produced [] c c') :
    Flushed R produced base sent c' := by
  obtain ⟨hprod, hpend⟩ := he
  rw [List.append_nil] at hprod hpend
  exact ⟨hprod.trans hf.1, hpend.trans hf.2⟩

omit hO hS in
/-- Two calls in a row produce one piece of output. -/
theorem emits_trans {new new' : List UInt8} {a b c : C} (h : R.Emits produced new a b)
    (h' : R.Emits produced new' b c) : R.Emits produced (new ++ new') a c := by
  refine ⟨?_, ?_⟩
  · rw [h'.1, h.1, List.append_assoc]
  · rw [h'.2, h.2, List.append_assoc]

/-! ## The reader's output -/

/-- The reader drains after every call that may have produced output, inside its loop:
alerts and key updates leave in the order rustls made them. -/
theorem feedLoop_flushed {base : List UInt8} (n : ℕ) (cursor : List UInt8) (f : Feed C)
    (hf : Flushed R produced base f.sent f.conn) :
    Flushed R produced base (feedLoop R n cursor f).sent (feedLoop R n cursor f).conn := by
  induction n generalizing cursor f with
  | zero => exact hf
  | succ n ih =>
      have hread := hO.read_tls_emits f.conn cursor
      unfold feedLoop
      split
      · exact hf
      · split
        case h_1 heq =>
            rw [heq] at hread
            exact flushed_of_emits_nil hf hread
        case h_2 heq =>
            rw [heq] at hread
            exact flushed_of_emits_nil hf hread
        case h_3 k c _ heq =>
            rw [heq] at hread
            have hproc := hO.process_emits c
            have hf' := flushed_of_emits_nil hf hread
            split
            case h_1 b c' heq' =>
                rw [heq'] at hproc
                exact ih (cursor.drop k)
                  { f with
                    conn := (drain_tls_writes R c').2
                    sent := f.sent ++ (drain_tls_writes R c').1
                    clean_close := f.clean_close || b } (flushed_drain hO hS hf' hproc)
            case h_2 e c' heq' =>
                rw [heq'] at hproc
                exact flushed_drain hO hS hf' hproc

omit hS in
/-- Reading plaintext produces no output, so there is nothing to drain behind the plaintext
loop. -/
theorem readLoop_emits (n : ℕ) (c : C) : R.Emits produced [] c (readLoop R n c).2 := by
  induction n generalizing c with
  | zero => exact ⟨(List.append_nil _).symm, (List.append_nil _).symm⟩
  | succ n ih =>
      have hread := hO.read_emits c CHUNK
      unfold readLoop
      split
      case h_1 heq => rwa [heq] at hread
      case h_2 c' _ heq =>
          rw [heq] at hread
          exact emits_trans hread (ih c')
      case h_3 heq => rwa [heq] at hread

/-- The reader's output in one pass. -/
theorem reader_pass_flushed (h : Handshake) (c : C) (clean_close : Bool) (buf : List UInt8)
    (hempty : R.sendable_tls c = []) :
    Flushed R produced (produced c) (reader_pass R h c clean_close buf).sent
      (reader_pass R h c clean_close buf).conn := by
  have hfed := feedLoop_flushed hO hS buf.length buf ⟨c, [], clean_close, none⟩
    ⟨(List.append_nil _).symm, hempty⟩
  unfold reader_pass
  generalize feedLoop R buf.length buf ⟨c, [], clean_close, none⟩ = f at hfed
  exact flushed_of_emits_nil hfed (readLoop_emits hO _ f.conn)

/-! ## The writer's output -/

/-- The output of a close, if one is asked for. -/
theorem writer_status_flushed {base : List UInt8} (p : WriterPass C) (status : StreamResult)
    (hf : Flushed R produced base p.sent p.conn) :
    Flushed R produced base (writer_status R p status).sent
      (writer_status R p status).conn := by
  unfold writer_status
  split
  · exact flushed_drain hO hS hf (hO.close_emits p.conn)
  · exact hf

/-- **The writer's output.** Its error path does not drain, and has nothing to drain: only
an early write fails, and early writes produce no output. -/
theorem writer_pass_flushed (h : Handshake) (c : C) (status : StreamResult)
    (buf : List UInt8) (hempty : R.sendable_tls c = []) (hlen : buf.length ≤ CHUNK) :
    Flushed R produced (produced c) (writer_pass R h c status buf).sent
      (writer_pass R h c status buf).conn := by
  have hstart : Flushed R produced (produced c) [] c := ⟨(List.append_nil _).symm, hempty⟩
  have hwrite : ∃ new, R.Emits produced new c (write_all R c buf).2 := by
    refine write_all_keeps (P := fun c' => ∃ new, R.Emits produced new c c') ?_ buf
      ⟨[], (List.append_nil _).symm, (List.append_nil _).symm⟩
    rintro c' buf' ⟨new, hnew⟩
    obtain ⟨new', hnew'⟩ := hO.write_emits c' buf'
    exact ⟨new ++ new', emits_trans hnew hnew'⟩
  by_cases hnil : buf = []
  · rw [writer_pass, if_pos hnil]
    exact writer_status_flushed hO hS ⟨c, [], h, none, none⟩ status hstart
  · by_cases hover : PumpSend.Overflows R early c buf
    · have herr := PumpSend.write_all_overflows hS hover
      have heq : write_all R c buf
          = (.error "failed to write whole buffer", (write_all R c buf).2) := by rw [← herr]
      -- the handshake still runs, and nothing became pending
      have hkeep : R.is_handshaking (write_all R c buf).2 = true ∧
          R.sendable_tls (write_all R c buf).2 = [] := by
        refine write_all_keeps
          (P := fun c' => R.is_handshaking c' = true ∧ R.sendable_tls c' = []) ?_ buf
          ⟨hover.1, hempty⟩
        rintro c' buf' ⟨hhand, hnone⟩
        obtain ⟨-, -, -, hhand', hout⟩ := hS.write_early c' buf' hhand
        exact ⟨hhand', hout.trans hnone⟩
      obtain ⟨new, hprod, hpend⟩ := hwrite
      rw [hkeep.2, hempty, List.nil_append] at hpend
      rw [← hpend, List.append_nil] at hprod
      rw [writer_pass, if_neg hnil, heq]
      exact ⟨hprod.trans (List.append_nil _).symm, hkeep.2⟩
    · obtain ⟨hok, -⟩ := PumpSend.write_all_fits hS hover hempty hlen hnil
      have heq : write_all R c buf = (.ok (), (write_all R c buf).2) := by rw [← hok]
      have hdrained := flushed_drain hO hS hstart hwrite
      rw [writer_pass, if_neg hnil, heq]
      exact writer_status_flushed hO hS
        ⟨(drain_tls_writes R (write_all R c buf).2).2,
          (drain_tls_writes R (write_all R c buf).2).1,
          h.check R (drain_tls_writes R (write_all R c buf).2).2, none, none⟩ status hdrained

end Output

/-! ## The books of the ciphertext stream -/

/-- The chunk the transmit task is writing. -/
def inflight : TransmitPc → List UInt8
  | .writing pending => pending
  | .next | .ended => []

/-- **TLS output is transmitted once and in order.** At every await rustls has nothing
pending; what the transport has taken, what is being written and what is queued is all
output rustls produced, in the order it produced it; and the ciphertext stream is closed
only when the transport has taken all of it. -/
structure InOrder (R : Rustls C) (produced : C → List UInt8) (s : Sys C) : Prop where
  drained : R.wants_write s.conn = false
  in_order : s.ciphertext_out ++ inflight s.transmit ++ s.queue.flatten = produced s.conn
  closed_last : s.transmit = .ended → s.ciphertext_out = produced s.conn

/-- Order and flush, at every await: the property with the queue spelled out. -/
structure Inv (R : Rustls C) (produced : C → List UInt8) (s : Sys C) : Prop where
  drained : R.sendable_tls s.conn = []
  in_order : s.ciphertext_out ++ inflight s.transmit ++ s.queue.flatten = produced s.conn
  closed : s.transmit = .ended → s.queue = [] ∧ s.reader = .ended ∧ s.writer = .ended

section Steps

variable {produced early appdata : C → List UInt8} (hO : R.Outputs produced)
  (hS : R.Sends early appdata)
include hS

/-- The property is a part of the invariant. -/
theorem inOrder_of_inv {s : Sys C} (hi : Inv R produced s) : InOrder R produced s := by
  refine ⟨?_, hi.in_order, fun hended => ?_⟩
  · rw [← Bool.not_eq_true, hS.wants_write_iff, not_not]
    exact hi.drained
  · have hbooks := hi.in_order
    rw [hended, (hi.closed hended).1, inflight, List.flatten_nil, List.append_nil,
      List.append_nil] at hbooks
    exact hbooks

include hO

/-- The first flight is drained before the tasks start. -/
theorem inv_init {c : C} (hfresh : produced c = R.sendable_tls c) :
    Inv R produced (Sys.init R c) := by
  obtain ⟨hmoved, hkeep, hempty⟩ := drain_moves hO hS c
  refine ⟨hempty, ?_, fun h => absurd h (by simp [Sys.init])⟩
  show [] ++ [] ++ (drain_tls_writes R c).1.flatten = produced (drain_tls_writes R c).2
  rw [hmoved, hkeep, hfresh, List.nil_append, List.nil_append]

omit hO hS in
/-- A task used the connection and queued what that produced. -/
theorem inv_flushed {s s' : Sys C} {sent : List (List UInt8)} (hi : Inv R produced s)
    (hf : Flushed R produced (produced s.conn) sent s'.conn)
    (hqueue : s'.queue = s.queue ++ sent) (hpc : s'.transmit = s.transmit)
    (hout : s'.ciphertext_out = s.ciphertext_out) (hopen : s.transmit ≠ .ended) :
    Inv R produced s' := by
  refine ⟨hf.2, ?_, fun h => absurd (hpc.symm.trans h) hopen⟩
  rw [hqueue, hpc, hout, List.flatten_append, hf.1, ← hi.in_order]
  simp only [List.append_assoc]

omit hO hS in
/-- The reader goes on or ends: nothing moves. -/
theorem inv_readerNext {s : Sys C} (hi : Inv R produced s) (hopen : s.transmit ≠ .ended)
    (next : Option Verdict × Handshake) : Inv R produced (s.readerNext next) := by
  obtain ⟨verdict, h⟩ := next
  cases verdict with
  | none => exact ⟨hi.drained, hi.in_order, fun h => absurd h hopen⟩
  | some verdict => exact ⟨hi.drained, hi.in_order, fun h => absurd h hopen⟩

/-- The reader's pass queues its output before it awaits anything. -/
theorem inv_readerPassed {s : Sys C} (status : StreamResult) (buf : List UInt8)
    (hi : Inv R produced s) (hopen : s.transmit ≠ .ended) : Inv R produced
      (s.readerPassed (reader_pass R s.handshake s.conn s.clean_close buf) status) := by
  have hf := reader_pass_flushed hO hS s.handshake s.conn s.clean_close buf hi.drained
  generalize reader_pass R s.handshake s.conn s.clean_close buf = p at hf
  unfold Sys.readerPassed
  split
  · have hi' : Inv R produced
        { s with
          conn := p.conn
          handshake := p.handshake
          clean_close := p.clean_close
          queue := s.queue ++ p.sent } := inv_flushed hi hf rfl rfl rfl hopen
    exact inv_readerNext hi' hopen _
  · exact inv_flushed hi hf rfl rfl rfl hopen

/-- Each step either queues new output behind the old or moves a chunk one place on. -/
theorem inv_step {s s' : Sys C} {e : Event} (hi : Inv R produced s)
    (hopen : e ≠ .transportGone) (h : react R s e = some s') : Inv R produced s' := by
  -- the transmit task has not ended while a producer is still there
  have hreader : s.reader ≠ .ended → s.transmit ≠ .ended :=
    fun hr h => hr (hi.closed h).2.1
  have hwriter : s.writer ≠ .ended → s.transmit ≠ .ended :=
    fun hw h => hw (hi.closed h).2.2
  cases react_of_step h with
  | act h =>
      cases h with
      | emptyRead hpc => exact inv_readerNext hi (hreader (by simp [hpc])) _
      | read hpc hne hlen => exact inv_readerPassed hO hS _ _ hi (hreader (by simp [hpc]))
      | consume hpc =>
          exact ⟨hi.drained, hi.in_order, fun h => absurd h (hreader (by simp [hpc]))⟩
      | written hpc => exact inv_readerNext hi (hreader (by simp [hpc])) _
      | @cleartext status buf hpc hlen =>
          exact inv_flushed hi
            (writer_pass_flushed hO hS s.handshake s.conn status buf hi.drained hlen)
            rfl rfl rfl (hwriter (by simp [hpc]))
      | @dequeue bytes rest hpc hqueue =>
          refine ⟨hi.drained, ?_, fun h => absurd h (by simp)⟩
          have hbooks := hi.in_order
          rw [hpc, hqueue, inflight, List.append_nil, List.flatten_cons] at hbooks
          show s.ciphertext_out ++ bytes ++ rest.flatten = produced s.conn
          rw [List.append_assoc, hbooks]
      | close hpc hqueue hr hw =>
          have hbooks := hi.in_order
          rw [hpc] at hbooks
          exact ⟨hi.drained, hbooks, fun _ => ⟨hqueue, hr, hw⟩⟩
      | @transmit pending n hpc =>
          refine ⟨hi.drained, ?_, fun h => absurd h (by simp)⟩
          have hbooks := hi.in_order
          rw [hpc] at hbooks
          show s.ciphertext_out ++ pending.take n ++ pending.drop n ++ s.queue.flatten = _
          rw [List.append_assoc s.ciphertext_out, List.take_append_drop]
          exact hbooks
      | transmitted hpc =>
          refine ⟨hi.drained, ?_, fun h => absurd h (by simp)⟩
          have hbooks := hi.in_order
          rw [hpc] at hbooks
          exact hbooks
  | consumerGone hpc => exact inv_readerNext hi (hreader (by simp [hpc])) _
  | transportGone hpc => exact absurd rfl hopen

/-- **All TLS output is transmitted, once and in order, on every path.** For every
connection that behaves as rustls documents and every interleaving of the three tasks,
with a consumer that may go away and a transport that keeps taking bytes. -/
theorem output_is_transmitted_in_order (c : C) (hfresh : produced c = R.sendable_tls c)
    (events : List Event) (hopen : .transportGone ∉ events) :
    Lts.Always (react R) (InOrder R produced) (Sys.init R c) events := by
  refine Lts.always_of_steps (C := fun _ e => e ≠ .transportGone) (inv_init hO hS hfresh)
    (inv_step hO hS) (inOrder_of_inv hS) ?_
  refine Lts.steps_of_forall_mem ?_ _
  rintro e he rfl
  exact hopen he

end Steps

/-- A client whose consumer closes during the handshake, up to the transmission of its
hello and of its `close_notify`. -/
theorem hello_and_close_are_transmitted :
    let events : List Event := [.act (.cleartext .Dropped []), .act .dequeue,
      .act (.transmit 1), .act .transmitted, .act .dequeue, .act (.transmit 7)]
    Lts.Always (react (NullTls.rustls NullTls.greeting))
        (InOrder (NullTls.rustls NullTls.greeting) NullTls.Conn.produced)
        (Sys.init (NullTls.rustls NullTls.greeting) (.fresh 1 [1])) events ∧
      ∃ s, Lts.run (react (NullTls.rustls NullTls.greeting))
          (Sys.init (NullTls.rustls NullTls.greeting) (.fresh 1 [1])) events = some s ∧
        s.ciphertext_out = [1, 21, 3, 3, 0, 2, 1, 0] :=
  ⟨output_is_transmitted_in_order (NullTls.outputs NullTls.greeting)
      (NullTls.sends NullTls.greeting) (.fresh 1 [1]) rfl _ (by simp), _, rfl, rfl⟩

/-! ## Closing the ciphertext stream -/

/-- The writer has ended because the consumer closed its stream. -/
def ConsumerClosed (s : Sys C) : Prop := s.writer = .ended ∧ s.closeNotifyAt ≠ none

/-- The steps of the transmit task. -/
def ofTransmit : Event → Prop
  | .act .dequeue | .act (.transmit _) | .act .transmitted | .transportGone => True
  | _ => False

/-- **Closing the cleartext stream closes the ciphertext stream**: once the consumer's
close has ended the writer, the queue is drained and the transmit task cannot go on, the
ciphertext stream is closed. -/
def ClosesWithCleartext (R : Rustls C) (s : Sys C) : Prop :=
  ConsumerClosed s → s.queue = [] → (∀ e, ofTransmit e → react R s e = none) →
    s.transmit = .ended

/-- The reader has ended by the time the ciphertext stream runs dry after the consumer's
close: when the transmit task is through with the last chunk, and when the close itself
leaves nothing to transmit. -/
def ReaderEndsFirst (R : Rustls C) (s : Sys C) : Event → Prop
  | .act .transmitted | .transportGone => ConsumerClosed s → s.queue = [] → s.reader = .ended
  | .act (.cleartext status buf) =>
      (writer_pass R s.handshake s.conn status buf).closeNotifyAt ≠ none →
      s.transmit = .next →
      s.queue ++ (writer_pass R s.handshake s.conn status buf).sent = [] → s.reader = .ended
  | _ => True

/-- The transmit task waits for a chunk that no producer will queue. -/
def DryAfterReader (s : Sys C) : Prop :=
  ConsumerClosed s → s.queue = [] → s.transmit = .next → s.reader = .ended

/-- What the contract asks: a transmit task that waits on an empty queue is stuck exactly
while the reader is still there. -/
theorem closesWithCleartext_iff (s : Sys C) :
    ClosesWithCleartext R s ↔ DryAfterReader s := by
  constructor
  · intro hcloses hclosed hqueue hpc
    by_contra hreader
    have hended := hcloses hclosed hqueue (fun e he => by
      cases e with
      | act a =>
          cases a with
          | dequeue => simp [react, step, hpc, hqueue, hreader]
          | transmit n => simp [react, step, hpc]
          | transmitted => simp [react, step, hpc]
          | _ => exact absurd he id
      | consumerGone => exact absurd he id
      | transportGone => simp [react, hpc])
    rw [hpc] at hended
    exact absurd hended (by simp)
  · intro hdry hclosed hqueue hstuck
    cases hpc : s.transmit with
    | next =>
        have hgone : s.reader = .ended ∧ s.writer = .ended :=
          ⟨hdry hclosed hqueue hpc, hclosed.1⟩
        have hnone := hstuck (.act .dequeue) trivial
        simp [react, step, hpc, hqueue, hgone] at hnone
    | writing pending =>
        have hnone := hstuck (.act (.transmit 0)) trivial
        simp [react, step, hpc] at hnone
    | ended => rfl

/-- At the start both are still there. -/
theorem dry_init (c : C) : DryAfterReader (Sys.init R c) :=
  fun hclosed => absurd hclosed.1 (by simp [Sys.init])

/-- While the reader is there, the writer and the transmit task have not run dry. -/
theorem dry_of_reader {s s' : Sys C} (hi : DryAfterReader s) (hreader : s.reader ≠ .ended)
    (hwriter : s'.writer = s.writer) (hask : s'.closeNotifyAt = s.closeNotifyAt)
    (hqueue : s'.queue = [] → s.queue = []) (hpc : s'.transmit = s.transmit) :
    DryAfterReader s' := by
  intro hclosed hempty hnext
  have hclosed' : ConsumerClosed s := by
    rw [ConsumerClosed, hwriter, hask] at hclosed
    exact hclosed
  exact absurd (hi hclosed' (hqueue hempty) (hpc.symm.trans hnext)) hreader

theorem dry_readerNext {s : Sys C} (hi : DryAfterReader s) (hreader : s.reader ≠ .ended)
    (next : Option Verdict × Handshake) : DryAfterReader (s.readerNext next) := by
  obtain ⟨verdict, h⟩ := next
  cases verdict with
  | none => exact dry_of_reader hi hreader rfl rfl id rfl
  | some verdict => exact dry_of_reader hi hreader rfl rfl id rfl

theorem dry_readerPassed {s : Sys C} (hi : DryAfterReader s) (hreader : s.reader ≠ .ended)
    (p : Pass C) (status : StreamResult) : DryAfterReader (s.readerPassed p status) := by
  have hqueue : s.queue ++ p.sent = [] → s.queue = [] :=
    fun h => (List.append_eq_nil_iff.mp h).1
  unfold Sys.readerPassed
  split
  · have hi' : DryAfterReader
        { s with
          conn := p.conn
          handshake := p.handshake
          clean_close := p.clean_close
          queue := s.queue ++ p.sent } := dry_of_reader hi hreader rfl rfl hqueue rfl
    exact dry_readerNext hi' hreader _
  · exact dry_of_reader hi hreader rfl rfl hqueue rfl

/-- A step under the condition: the transmit task is left waiting only for a reader that is
there. -/
theorem dry_step {s s' : Sys C} {e : Event} (hi : DryAfterReader s)
    (hc : ReaderEndsFirst R s e) (h : react R s e = some s') : DryAfterReader s' := by
  cases react_of_step h with
  | act h =>
      cases h with
      | emptyRead hpc => exact dry_readerNext hi (by simp [hpc]) _
      | read hpc hne hlen => exact dry_readerPassed hi (by simp [hpc]) _ _
      | consume hpc => exact dry_of_reader hi (by simp [hpc]) rfl rfl id rfl
      | written hpc => exact dry_readerNext hi (by simp [hpc]) _
      | @cleartext status buf hpc hlen =>
          intro hclosed hempty hidle
          exact hc hclosed.2 hidle hempty
      | dequeue hpc hqueue => exact fun _ _ hidle => absurd hidle (by simp)
      | close hpc hqueue hr hw => exact fun _ _ hidle => absurd hidle (by simp)
      | transmit hpc => exact fun _ _ hidle => absurd hidle (by simp)
      | transmitted hpc => exact fun hclosed hempty _ => hc hclosed hempty
  | consumerGone hpc => exact dry_readerNext hi (by simp [hpc]) _
  | transportGone hpc => exact fun hclosed hempty _ => hc hclosed hempty

/-- A step outside the condition leaves the transmit task waiting for a chunk nobody will
queue, with the reader still reading, and that is the failure. -/
theorem not_dry_of_step {s s' : Sys C} {e : Event} (hc : ¬ ReaderEndsFirst R s e)
    (h : react R s e = some s') : ¬ DryAfterReader s' := by
  intro hdry
  apply hc
  cases react_of_step h with
  | act h =>
      cases h with
      | @cleartext status buf hpc hlen =>
          intro hask hidle hempty
          have hverdict := (writer_pass_ends (R := R) s.handshake s.conn status buf).ok_iff.mpr hask
          refine hdry ⟨?_, hask⟩ hempty hidle
          rw [Sys.writerPassed, hverdict]
          rfl
      | transmitted hpc => exact fun hclosed hempty => hdry hclosed hempty rfl
      | _ => trivial
  | consumerGone hpc => trivial
  | transportGone hpc => exact fun hclosed hempty => hdry hclosed hempty rfl

/-- **The consumer's close closes the ciphertext stream -- exactly when the reader has
ended by the time that stream runs dry.** For every connection, every interleaving of the
three tasks, and peers that may go away. -/
theorem closes_with_cleartext_iff_reader_ended (R : Rustls C) (c : C) (events : List Event) :
    Lts.Always (react R) (ClosesWithCleartext R) (Sys.init R c) events
      ↔ Lts.Steps (react R) (ReaderEndsFirst R) (Sys.init R c) events :=
  Lts.always_iff_steps (dry_init c) dry_step
    (closesWithCleartext_iff _).mpr
    (fun _ hc h hP => not_dry_of_step hc h ((closesWithCleartext_iff _).mp hP))

/-- After the handshake the consumer closes its stream and everything is transmitted, but
the peer has neither sent nor closed anything: the ciphertext stream stays open. -/
theorem close_waits_for_the_peer :
    ¬ Lts.Always (react (NullTls.rustls NullTls.greeting))
      (ClosesWithCleartext (NullTls.rustls NullTls.greeting))
      (Sys.init (NullTls.rustls NullTls.greeting) .connected)
      [.act (.cleartext .Dropped []), .act .dequeue, .act (.transmit 7), .act .transmitted] := by
  have hrun : ∃ s, Lts.run (react (NullTls.rustls NullTls.greeting))
        (Sys.init (NullTls.rustls NullTls.greeting) .connected)
        [.act (.cleartext .Dropped []), .act .dequeue, .act (.transmit 7), .act .transmitted]
        = some s
      ∧ s.writer = .ended ∧ s.closeNotifyAt.isSome = true ∧ s.queue = [] ∧
        s.transmit = .next ∧ s.reader = .reading :=
    ⟨_, rfl, rfl, rfl, rfl, rfl, rfl⟩
  obtain ⟨s, hrun, hwriter, hask, hqueue, hidle, hreader⟩ := hrun
  refine Lts.not_always_of_run hrun fun hcloses => ?_
  have hended := (closesWithCleartext_iff s).mp hcloses
    ⟨hwriter, Option.isSome_iff_ne_none.mp hask⟩ hqueue hidle
  rw [hreader] at hended
  exact absurd hended (by simp)

end PolymorphTls.PumpTransmit

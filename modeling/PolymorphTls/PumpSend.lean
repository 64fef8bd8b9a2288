/-
The send direction of the pump: data and `close_notify` before the handshake completes.

The writer runs from the moment `connect` is called and does not wait for the handshake.
What it reads goes to rustls, which buffers it until the handshake completes and then
encrypts it (`writer_pass_fits`). Two things go wrong while the handshake is still
running, and nothing else does:

* the consumer closes its stream: `send_close_notify` is called at once;
* the reads add up to more than rustls buffers: `write_all` fails, and with it the
  direction (`writer_pass_overflows`).

Both contracts are proved as equivalences over every schedule.
-/
import PolymorphTls.NullTls
import PolymorphTls.Pump

set_option autoImplicit false

namespace PolymorphTls.PumpSend

open Pump

variable {C : Type} {R : Rustls C} {early appdata : C → List UInt8}

/-- The plaintext handed to rustls: encrypted, then still buffered. -/
def handed (early appdata : C → List UInt8) (c : C) : List UInt8 := appdata c ++ early c

/-- What was handed on depends on the send side alone. -/
theorem handed_of_same {c c' : C} (h : R.SameSent early appdata c c') :
    handed early appdata c' = handed early appdata c := by
  unfold handed
  rw [h.1, h.2.1]

section Sends

variable (hR : R.Sends early appdata)
include hR

/-! ## Draining -/

/-- **Draining empties the output.** Each pass of its loop moves at least a byte, so the
bound of the model is never the reason it stops. -/
theorem drain_spec (c : C) : R.SameSent early appdata c (drain_tls_writes R c).2 ∧
    R.sendable_tls (drain_tls_writes R c).2 = [] := by
  constructor
  · refine drain_keeps (P := R.SameSent early appdata c) ?_ ⟨rfl, rfl, rfl⟩
    rintro c' ⟨h1, h2, h3⟩
    obtain ⟨h1', h2', h3'⟩ := hR.write_tls_keeps c'
    exact ⟨h1'.trans h1, h2'.trans h2, h3'.trans h3⟩
  · have hloop : ∀ n c, (R.sendable_tls c).length ≤ n →
        R.sendable_tls (drainLoop R n c).2 = [] := by
      intro n
      induction n with
      | zero =>
          intro c hlen
          exact List.length_eq_zero_iff.mp (Nat.le_zero.mp hlen)
      | succ n ih =>
          intro c hlen
          by_cases hwants : R.wants_write c = true
          · obtain ⟨bytes, hne, hok, hsplit⟩ := hR.write_tls_moves c hwants
            have heq : R.write_tls c = (.ok bytes, (R.write_tls c).2) := by rw [← hok]
            have hpos := List.length_pos_iff.mpr hne
            obtain ⟨b, bs, rfl⟩ := List.exists_cons_of_ne_nil hne
            rw [drainLoop, if_pos hwants, heq]
            refine ih _ ?_
            rw [hsplit, List.length_append] at hlen
            omega
          · rw [drainLoop, if_neg hwants]
            by_contra hne
            exact hwants ((hR.wants_write_iff c).mpr hne)
    exact hloop _ c (Nat.le_refl _)

/-! ## Writing -/

/-- The read does not fit into what rustls still buffers before the handshake completes. -/
def Overflows (R : Rustls C) (early : C → List UInt8) (c : C) (buf : List UInt8) : Prop :=
  R.is_handshaking c = true ∧ buf ≠ [] ∧ Rustls.BUFFER_LIMIT < (early c).length + buf.length

instance (c : C) (buf : List UInt8) : Decidable (Overflows R early c buf) :=
  inferInstanceAs (Decidable (_ ∧ _ ∧ _))

omit hR in
/-- One `write` that takes everything is a `write_all` that does. -/
theorem write_all_of_write {c : C} {buf : List UInt8} (hne : buf ≠ [])
    (hok : (R.write c buf).1 = .ok buf.length) :
    write_all R c buf = (.ok (), (R.write c buf).2) := by
  have heq : R.write c buf = (.ok buf.length, (R.write c buf).2) := by rw [← hok]
  obtain ⟨n, hn⟩ : ∃ n, buf.length = n + 1 :=
    Nat.exists_eq_succ_of_ne_zero (by simpa using hne)
  unfold write_all
  rw [hn, writeAllLoop, if_neg hne, heq, hn]
  -- what is left to write is empty
  have hnil : buf.drop (n + 1) = [] := List.drop_eq_nil_iff.mpr (by omega)
  cases n with
  | zero => simp [writeAllLoop]
  | succ n => simp [writeAllLoop, hnil]

/-- In the handshake rustls takes what its buffer has room for, in one call. -/
theorem write_all_fits {c : C} {buf : List UInt8} (hfits : ¬ Overflows R early c buf)
    (hdrained : R.sendable_tls c = []) (hlen : buf.length ≤ CHUNK) (hne : buf ≠ []) :
    (write_all R c buf).1 = .ok () ∧
    handed early appdata (write_all R c buf).2 = handed early appdata c ++ buf ∧
    R.is_handshaking (write_all R c buf).2 = R.is_handshaking c := by
  -- before the handshake completes the early buffer has room, after it the drained
  -- output buffer has
  cases hhand : R.is_handshaking c with
  | true =>
      have hroom : (early c).length + buf.length ≤ Rustls.BUFFER_LIMIT := by
        by_contra hover
        exact hfits ⟨hhand, hne, by omega⟩
      obtain ⟨hok, hearly, happ, hhand', -⟩ := hR.write_early c buf hhand
      have hmin : min buf.length (Rustls.BUFFER_LIMIT - (early c).length) = buf.length := by
        omega
      rw [hmin] at hok hearly
      rw [write_all_of_write hne hok]
      refine ⟨rfl, ?_, hhand'⟩
      rw [handed, handed, hearly, happ, List.take_length, List.append_assoc]
  | false =>
      obtain ⟨hok, happ, hhand'⟩ := hR.write_ready c buf hhand
      have hmin : min buf.length (Rustls.BUFFER_LIMIT - (R.sendable_tls c).length)
          = buf.length := by
        rw [hdrained]
        have : CHUNK ≤ Rustls.BUFFER_LIMIT := by decide
        simp only [List.length_nil]
        omega
      rw [hmin] at hok happ
      rw [write_all_of_write hne hok]
      refine ⟨rfl, ?_, hhand'⟩
      rw [handed, handed, happ, hR.flushed _ hhand', hR.flushed _ hhand, List.take_length]
      simp

/-- Past the buffer rustls takes nothing, and `write_all` reads a write of zero bytes as a
failure. -/
theorem write_all_overflows {c : C} {buf : List UInt8} (hover : Overflows R early c buf) :
    (write_all R c buf).1 = .error "failed to write whole buffer" := by
  obtain ⟨hhand, hne, hlong⟩ := hover
  obtain ⟨hok, hearly, -, hhand', -⟩ := hR.write_early c buf hhand
  have hmin : min buf.length (Rustls.BUFFER_LIMIT - (early c).length)
      = Rustls.BUFFER_LIMIT - (early c).length := by omega
  rw [hmin] at hok hearly
  -- a `write` into the full buffer takes nothing
  have hfull : ∀ c' n rest, R.is_handshaking c' = true →
      Rustls.BUFFER_LIMIT ≤ (early c').length → rest ≠ [] →
      (writeAllLoop R (n + 1) c' rest).1 = .error "failed to write whole buffer" := by
    intro c' n rest hhand'' hfull hrest
    obtain ⟨hok', -⟩ := hR.write_early c' rest hhand''
    have hzero : min rest.length (Rustls.BUFFER_LIMIT - (early c').length) = 0 := by omega
    rw [hzero] at hok'
    have heq : R.write c' rest = (.ok 0, (R.write c' rest).2) := by rw [← hok']
    rw [writeAllLoop, if_neg hrest, heq]
    rfl
  obtain ⟨n, hn⟩ : ∃ n, buf.length = n + 1 :=
    Nat.exists_eq_succ_of_ne_zero (by simpa using hne)
  unfold write_all
  rw [hn]
  cases hroom : Rustls.BUFFER_LIMIT - (early c).length with
  | zero => exact hfull c n buf hhand (by omega) hne
  | succ k =>
      -- the first `write` fills it, and there is more to write
      rw [hroom] at hok hearly
      have heq : R.write c buf = (.ok (k + 1), (R.write c buf).2) := by rw [← hok]
      have hrest : buf.drop (k + 1) ≠ [] := by
        rw [Ne, List.drop_eq_nil_iff]
        omega
      obtain ⟨m, rfl⟩ : ∃ m, n = m + 1 := Nat.exists_eq_succ_of_ne_zero (by omega)
      rw [writeAllLoop, if_neg hne, heq]
      refine hfull _ m _ hhand' ?_ hrest
      rw [hearly, List.length_append, List.length_take]
      omega

/-! ## One pass of the writer -/

/-- The end of a pass: `close_notify` is asked for exactly if the stream ended. -/
theorem writer_status_spec (p : WriterPass C) (status : StreamResult)
    (hdrained : R.sendable_tls p.conn = []) :
    R.SameSent early appdata p.conn (writer_status R p status).conn ∧
    R.sendable_tls (writer_status R p status).conn = [] ∧
    (writer_status R p status).verdict = (if status.ends then some (.ok ()) else p.verdict) ∧
    (writer_status R p status).closeNotifyAt
      = (if status.ends then some p.conn else p.closeNotifyAt) := by
  unfold writer_status
  split
  · obtain ⟨⟨h1, h2, h3⟩, hempty⟩ := drain_spec hR (R.send_close_notify p.conn)
    obtain ⟨h1', h2', h3'⟩ := hR.close_keeps p.conn
    exact ⟨⟨h1.trans h1', h2.trans h2', h3.trans h3'⟩, hempty, rfl, rfl⟩
  · exact ⟨⟨rfl, rfl, rfl⟩, hdrained, rfl, rfl⟩

/-- **A read that fits.** Its bytes are handed to rustls, the output is drained, and the
direction ends exactly if the stream did. `close_notify` is then asked for in the
handshake state the read found. -/
theorem writer_pass_fits (h : Handshake) {c : C} (status : StreamResult) {buf : List UInt8}
    (hfits : ¬ Overflows R early c buf) (hdrained : R.sendable_tls c = [])
    (hlen : buf.length ≤ CHUNK) :
    handed early appdata (writer_pass R h c status buf).conn
      = handed early appdata c ++ buf ∧
    R.is_handshaking (writer_pass R h c status buf).conn = R.is_handshaking c ∧
    R.sendable_tls (writer_pass R h c status buf).conn = [] ∧
    (writer_pass R h c status buf).verdict = (if status.ends then some (.ok ()) else none) ∧
    (status.ends = false → (writer_pass R h c status buf).closeNotifyAt = none) ∧
    (status.ends = true → ∃ c₁, (writer_pass R h c status buf).closeNotifyAt = some c₁ ∧
      R.is_handshaking c₁ = R.is_handshaking c ∧
      handed early appdata c₁ = handed early appdata c ++ buf) := by
  -- the pass with its bytes written
  obtain ⟨p, hp, hhanded, hhand, hempty, hverdict, hclose⟩ : ∃ p : WriterPass C,
      writer_pass R h c status buf = writer_status R p status ∧
      handed early appdata p.conn = handed early appdata c ++ buf ∧
      R.is_handshaking p.conn = R.is_handshaking c ∧ R.sendable_tls p.conn = [] ∧
      p.verdict = none ∧ p.closeNotifyAt = none := by
    by_cases hne : buf = []
    · exact ⟨⟨c, [], h, none, none⟩, by rw [writer_pass, if_pos hne], by simp [hne], rfl,
        hdrained, rfl, rfl⟩
    · obtain ⟨hok, hhanded, hhand⟩ := write_all_fits hR hfits hdrained hlen hne
      have heq : write_all R c buf = (.ok (), (write_all R c buf).2) := by rw [← hok]
      obtain ⟨hsame, hempty⟩ := drain_spec hR (write_all R c buf).2
      refine ⟨⟨(drain_tls_writes R (write_all R c buf).2).2,
        (drain_tls_writes R (write_all R c buf).2).1,
        h.check R (drain_tls_writes R (write_all R c buf).2).2, none, none⟩, ?_,
        (handed_of_same hsame).trans hhanded, hsame.2.2.trans hhand, hempty, rfl, rfl⟩
      rw [writer_pass, if_neg hne, heq]
  obtain ⟨hsame, hdrained', hv, hc⟩ := writer_status_spec hR p status hempty
  rw [hp]
  refine ⟨(handed_of_same hsame).trans hhanded, hsame.2.2.trans hhand, hdrained', ?_, ?_, ?_⟩
  · rw [hv, hverdict]
  · intro hends
    rw [hc, hends, hclose]
    rfl
  · intro hends
    exact ⟨p.conn, by rw [hc, hends]; rfl, hhand, hhanded⟩

/-- **A read that does not fit.** The direction ends with a write error, and without
`close_notify`. -/
theorem writer_pass_overflows (h : Handshake) {c : C} (status : StreamResult)
    {buf : List UInt8} (hover : Overflows R early c buf) :
    (writer_pass R h c status buf).verdict
      = some (.error "write failed: failed to write whole buffer") ∧
    (writer_pass R h c status buf).closeNotifyAt = none := by
  have herr := write_all_overflows hR hover
  have heq : write_all R c buf
      = (.error "failed to write whole buffer", (write_all R c buf).2) := by rw [← herr]
  rw [writer_pass, if_neg hover.2.1, heq]
  exact ⟨rfl, rfl⟩

/-! ## The reader, seen from the send side -/

/-- Reading plaintext does not touch the send side. -/
theorem readLoop_sends (n : ℕ) (c : C) :
    handed early appdata (readLoop R n c).2 = handed early appdata c ∧
    R.sendable_tls (readLoop R n c).2 = R.sendable_tls c := by
  induction n generalizing c with
  | zero => exact ⟨rfl, rfl⟩
  | succ n ih =>
      obtain ⟨hsame, hout⟩ := hR.read_keeps c CHUNK
      have hhanded := handed_of_same hsame
      unfold readLoop
      split
      case h_1 heq =>
          rw [heq] at hhanded hout
          exact ⟨hhanded, hout⟩
      case h_2 c' _ heq =>
          rw [heq] at hhanded hout
          obtain ⟨ih1, ih2⟩ := ih c'
          exact ⟨ih1.trans hhanded, ih2.trans hout⟩
      case h_3 heq =>
          rw [heq] at hhanded hout
          exact ⟨hhanded, hout⟩

/-- Feeding rustls may flush what it buffered, and leaves its output drained. -/
theorem feedLoop_sends (n : ℕ) (cursor : List UInt8) (f : Feed C) :
    handed early appdata (feedLoop R n cursor f).conn = handed early appdata f.conn ∧
    (R.sendable_tls f.conn = [] → R.sendable_tls (feedLoop R n cursor f).conn = []) := by
  induction n generalizing cursor f with
  | zero => exact ⟨rfl, id⟩
  | succ n ih =>
      obtain ⟨hsame, hout⟩ := hR.read_tls_keeps f.conn cursor
      have hhanded := handed_of_same hsame
      unfold feedLoop
      split
      · exact ⟨rfl, id⟩
      · split
        case h_1 heq =>
            rw [heq] at hhanded hout
            exact ⟨hhanded, hout.trans⟩
        case h_2 heq =>
            rw [heq] at hhanded hout
            exact ⟨hhanded, hout.trans⟩
        case h_3 k c _ heq =>
            rw [heq] at hhanded hout
            have hflush := hR.process_flushes c
            split
            case h_1 b c' hproc =>
                rw [hproc] at hflush
                obtain ⟨hsame', hempty⟩ := drain_spec hR c'
                obtain ⟨ih1, ih2⟩ := ih (cursor.drop k)
                  { f with
                    conn := (drain_tls_writes R c').2
                    sent := f.sent ++ (drain_tls_writes R c').1
                    clean_close := f.clean_close || b }
                refine ⟨ih1.trans ?_, fun _ => ih2 hempty⟩
                exact (handed_of_same hsame').trans (hflush.trans hhanded)
            case h_2 e c' hproc =>
                rw [hproc] at hflush
                obtain ⟨hsame', hempty⟩ := drain_spec hR c'
                exact ⟨(handed_of_same hsame').trans (hflush.trans hhanded), fun _ => hempty⟩

/-- The reader's pass, for the send side: at most what was buffered is flushed, and the
output is drained again. -/
theorem reader_pass_sends (h : Handshake) (c : C) (clean_close : Bool) (buf : List UInt8) :
    handed early appdata (reader_pass R h c clean_close buf).conn = handed early appdata c ∧
    (R.sendable_tls c = [] →
      R.sendable_tls (reader_pass R h c clean_close buf).conn = []) := by
  obtain ⟨hfeed, hfeed'⟩ := feedLoop_sends hR buf.length buf ⟨c, [], clean_close, none⟩
  unfold reader_pass
  generalize feedLoop R buf.length buf ⟨c, [], clean_close, none⟩ = f at hfeed hfeed'
  obtain ⟨hread, hread'⟩ := readLoop_sends hR ((R.received_plaintext f.conn).length + 1) f.conn
  exact ⟨hread.trans hfeed, fun hempty => hread'.trans (hfeed' hempty)⟩

end Sends

/-! ## The writer's books

While the writer runs, rustls has been handed exactly what was read from the cleartext
stream, and its output is drained at every await. The rest of the system keeps that; the
two contracts differ in which reads of the writer they allow. -/

/-- The send books at an await of the writer: what it read was handed on, and nothing of the
output is left. -/
structure Inv (R : Rustls C) (early appdata : C → List UInt8) (s : Sys C) : Prop where
  handed : s.writer = .reading → handed early appdata s.conn = s.accepted
  drained : s.writer = .reading → R.sendable_tls s.conn = []
  asked : s.writer = .reading → s.closeNotifyAt = none
  open_done : s.writer = .reading → s.send_done = []

/-- What a step that is not the writer's leaves alone. -/
structure WriterFrame (R : Rustls C) (early appdata : C → List UInt8) (s s' : Sys C) :
    Prop where
  writer : s'.writer = s.writer
  accepted : s'.accepted = s.accepted
  closeNotifyAt : s'.closeNotifyAt = s.closeNotifyAt
  send_done : s'.send_done = s.send_done
  handed : PumpSend.handed early appdata s'.conn = PumpSend.handed early appdata s.conn
  drained : R.sendable_tls s.conn = [] → R.sendable_tls s'.conn = []

/-- Another task's step keeps them, by the frame. -/
theorem Inv.frame {s s' : Sys C} (hi : Inv R early appdata s)
    (hf : WriterFrame R early appdata s s') : Inv R early appdata s' where
  handed hpc := by
    rw [hf.handed, hf.accepted]
    exact hi.handed (hf.writer ▸ hpc)
  drained hpc := hf.drained (hi.drained (hf.writer ▸ hpc))
  asked hpc := hf.closeNotifyAt.trans (hi.asked (hf.writer ▸ hpc))
  open_done hpc := hf.send_done.trans (hi.open_done (hf.writer ▸ hpc))

theorem frame_readerNext (s : Sys C) (next : Option Verdict × Handshake) :
    WriterFrame R early appdata s (s.readerNext next) := by
  obtain ⟨verdict, h⟩ := next
  cases verdict with
  | none => exact ⟨rfl, rfl, rfl, rfl, rfl, id⟩
  | some verdict => exact ⟨rfl, rfl, rfl, rfl, rfl, id⟩

theorem frame_readerPassed (hR : R.Sends early appdata) (s : Sys C) (buf : List UInt8)
    (status : StreamResult) : WriterFrame R early appdata s
      (s.readerPassed (reader_pass R s.handshake s.conn s.clean_close buf) status) := by
  obtain ⟨hhanded, hdrained⟩ := reader_pass_sends hR s.handshake s.conn s.clean_close buf
  generalize reader_pass R s.handshake s.conn s.clean_close buf = p at hhanded hdrained
  unfold Sys.readerPassed
  split
  · obtain ⟨h1, h2, h3, h4, h5, h6⟩ := frame_readerNext (R := R)
      { s with
        conn := p.conn
        handshake := p.handshake
        clean_close := p.clean_close
        queue := s.queue ++ p.sent }
      (reader_decide p.handshake p.failed p.clean_close status)
    exact ⟨h1, h2, h3, h4, h5.trans hhanded, fun hempty => h6 (hdrained hempty)⟩
  · exact ⟨rfl, rfl, rfl, rfl, hhanded, hdrained⟩

/-- **Only the writer's own steps concern it.** -/
theorem step_frame_or_cleartext (hR : R.Sends early appdata) {s s' : Sys C} {a : Act}
    (h : step R s a = some s') :
    (WriterFrame R early appdata s s' ∧ ∀ status buf, a ≠ .cleartext status buf) ∨
    ∃ status buf, a = .cleartext status buf ∧ s.writer = .reading ∧ buf.length ≤ CHUNK ∧
      s' = s.writerPassed (writer_pass R s.handshake s.conn status buf) buf := by
  cases trans_of_step h with
  | emptyRead hpc => exact .inl ⟨frame_readerNext s _, by simp⟩
  | read hpc hne hlen => exact .inl ⟨frame_readerPassed hR s _ _, by simp⟩
  | consume hpc => exact .inl ⟨⟨rfl, rfl, rfl, rfl, rfl, id⟩, by simp⟩
  | written hpc => exact .inl ⟨frame_readerNext s _, by simp⟩
  | cleartext hpc hlen => exact .inr ⟨_, _, rfl, hpc, hlen, rfl⟩
  | dequeue hpc hqueue => exact .inl ⟨⟨rfl, rfl, rfl, rfl, rfl, id⟩, by simp⟩
  | close hpc hqueue hreader hwriter => exact .inl ⟨⟨rfl, rfl, rfl, rfl, rfl, id⟩, by simp⟩
  | transmit hpc => exact .inl ⟨⟨rfl, rfl, rfl, rfl, rfl, id⟩, by simp⟩
  | transmitted hpc => exact .inl ⟨⟨rfl, rfl, rfl, rfl, rfl, id⟩, by simp⟩

/-- The same with peers that may go away. -/
theorem react_frame_or_cleartext (hR : R.Sends early appdata) {s s' : Sys C} {e : Event}
    (h : react R s e = some s') :
    (WriterFrame R early appdata s s' ∧ ∀ status buf, e ≠ .act (.cleartext status buf)) ∨
    ∃ status buf, e = .act (.cleartext status buf) ∧ s.writer = .reading ∧
      buf.length ≤ CHUNK ∧
      s' = s.writerPassed (writer_pass R s.handshake s.conn status buf) buf := by
  cases react_of_step h with
  | @act a _ htrans =>
      rcases step_frame_or_cleartext hR (a := a) h with ⟨hf, hnot⟩ | ⟨status, buf, rfl, hrest⟩
      · refine .inl ⟨hf, fun status buf heq => ?_⟩
        rw [Event.act.injEq] at heq
        exact hnot status buf heq
      · exact .inr ⟨status, buf, rfl, hrest⟩
  | consumerGone hpc => exact .inl ⟨frame_readerNext s _, by simp⟩
  | transportGone hpc => exact .inl ⟨⟨rfl, rfl, rfl, rfl, rfl, id⟩, by simp⟩

/-- Before the first read the pump drains the client's first flight. -/
theorem inv_init (hR : R.Sends early appdata) {c : C} (hfresh : handed early appdata c = []) :
    Inv R early appdata (Sys.init R c) := by
  obtain ⟨hsame, hempty⟩ := drain_spec hR c
  exact ⟨fun _ => (handed_of_same hsame).trans hfresh, fun _ => hempty, fun _ => rfl,
    fun _ => rfl⟩

/-- A read that fits keeps the books, whether the stream goes on or ends. -/
theorem inv_writerPassed (hR : R.Sends early appdata) {s : Sys C} {status : StreamResult}
    {buf : List UInt8} (hi : Inv R early appdata s) (hpc : s.writer = .reading)
    (hlen : buf.length ≤ CHUNK) (hfits : ¬ Overflows R early s.conn buf) :
    Inv R early appdata
      (s.writerPassed (writer_pass R s.handshake s.conn status buf) buf) := by
  obtain ⟨hhanded, -, hempty, hverdict, hnone, -⟩ :=
    writer_pass_fits hR s.handshake status hfits (hi.drained hpc) hlen
  cases hends : status.ends with
  | true =>
      -- the writer has ended; the books say nothing about it any more
      have hover : (s.writerPassed (writer_pass R s.handshake s.conn status buf) buf).writer
          ≠ .reading := by simp [Sys.writerPassed, hverdict, hends]
      exact ⟨fun h => absurd h hover, fun h => absurd h hover, fun h => absurd h hover,
        fun h => absurd h hover⟩
  | false =>
      refine ⟨fun _ => ?_, fun _ => hempty, fun _ => hnone hends, fun _ => ?_⟩
      · rw [Sys.writerPassed, hhanded, hi.handed hpc]
      · simp [Sys.writerPassed, hverdict, hends, hi.open_done hpc]

/-- A read that does not fit ends the writer. -/
theorem inv_overflow (hR : R.Sends early appdata) {s : Sys C} {status : StreamResult}
    {buf : List UInt8} (hover : Overflows R early s.conn buf) :
    Inv R early appdata
      (s.writerPassed (writer_pass R s.handshake s.conn status buf) buf) := by
  obtain ⟨hverdict, -⟩ := writer_pass_overflows hR s.handshake status hover
  have hended : (s.writerPassed (writer_pass R s.handshake s.conn status buf) buf).writer
      ≠ .reading := by simp [Sys.writerPassed, hverdict]
  exact ⟨fun h => absurd h hended, fun h => absurd h hended, fun h => absurd h hended,
    fun h => absurd h hended⟩

/-! ## `close_notify` comes last -/

/-- **`close_notify` is asked for last**: in a state where the handshake has completed
and every byte read from the consumer has become application data. -/
def CloseLast (R : Rustls C) (appdata : C → List UInt8) (s : Sys C) : Prop :=
  ∀ c, s.closeNotifyAt = some c → R.is_handshaking c = false ∧ appdata c = s.accepted

/-- The writer sees the end of the cleartext stream only once the handshake has
completed. (A last read that does not fit fails the direction before its end counts.) -/
def ClosesAfterHandshake (R : Rustls C) (early : C → List UInt8) (s : Sys C) : Event → Prop
  | .act (.cleartext status buf) => status.ends = true →
      R.is_handshaking s.conn = false ∨ Overflows R early s.conn buf
  | _ => True

/-- The books, and that a close that was asked for came last so far. -/
structure CloseInv (R : Rustls C) (early appdata : C → List UInt8) (s : Sys C) : Prop where
  books : Inv R early appdata s
  last : CloseLast R appdata s

section CloseLast

variable (hR : R.Sends early appdata)
include hR

/-- A step under the condition. Only the writer's pass asks for the close, and it does so
once. -/
theorem closeInv_step {s s' : Sys C} {e : Event} (hi : CloseInv R early appdata s)
    (hc : ClosesAfterHandshake R early s e) (h : react R s e = some s') :
    CloseInv R early appdata s' := by
  rcases react_frame_or_cleartext hR h with ⟨hf, -⟩ | ⟨status, buf, rfl, hpc, hlen, rfl⟩
  · refine ⟨hi.books.frame hf, fun c hask => ?_⟩
    rw [hf.accepted]
    rw [hf.closeNotifyAt] at hask
    exact hi.last c hask
  · by_cases hover : Overflows R early s.conn buf
    · refine ⟨inv_overflow hR hover, fun c hask => ?_⟩
      rw [Sys.writerPassed, (writer_pass_overflows hR s.handshake status hover).2] at hask
      exact absurd hask (by simp)
    · refine ⟨inv_writerPassed hR hi.books hpc hlen hover, fun c hask => ?_⟩
      obtain ⟨-, -, -, -, hnone, hsome⟩ :=
        writer_pass_fits hR s.handshake status hover (hi.books.drained hpc) hlen
      have hask' : (writer_pass R s.handshake s.conn status buf).closeNotifyAt = some c := hask
      by_cases hends : status.ends = true
      · obtain ⟨c₁, hat, hhand, hhanded⟩ := hsome hends
        have hready : R.is_handshaking s.conn = false :=
          (hc hends).resolve_right hover
        rw [hask', Option.some.injEq] at hat
        subst hat
        rw [hready] at hhand
        -- nothing is buffered any more, so what was handed over is encrypted
        rw [handed, hR.flushed c hhand, List.append_nil, hi.books.handed hpc] at hhanded
        exact ⟨hhand, hhanded⟩
      · rw [hnone (by simpa using hends)] at hask'
        exact absurd hask' (by simp)

/-- A step outside the condition is a writer's pass that ends in the handshake, and the
state after it shows the close in front of what is buffered. -/
theorem not_closeLast_of_step {s s' : Sys C} {e : Event} (hi : CloseInv R early appdata s)
    (hc : ¬ ClosesAfterHandshake R early s e) (h : react R s e = some s') :
    ¬ CloseLast R appdata s' := by
  intro hlast
  rcases react_frame_or_cleartext hR h with ⟨-, hnot⟩ | ⟨status, buf, rfl, hpc, hlen, rfl⟩
  · unfold ClosesAfterHandshake at hc
    split at hc
    · exact hnot _ _ rfl
    · exact hc trivial
  · unfold ClosesAfterHandshake at hc
    push Not at hc
    obtain ⟨hends, hhand, hfits⟩ := hc
    obtain ⟨-, -, -, -, -, hsome⟩ :=
      writer_pass_fits hR s.handshake status hfits (hi.books.drained hpc) hlen
    -- the state `close_notify` was asked in is still handshaking
    obtain ⟨c₁, hat, hhand', -⟩ := hsome hends
    have hdone := (hlast c₁ hat).1
    rw [hhand'] at hdone
    exact hhand hdone

/-- **`close_notify` comes last -- exactly when the consumer does not close before the
handshake completes.** For every connection that behaves as rustls documents, every
interleaving of the consumer's writes and close with the handshake, and a consumer and a
transport that may go away. -/
theorem close_last_iff_after_handshake (c : C) (hfresh : handed early appdata c = [])
    (events : List Event) :
    Lts.Always (react R) (CloseLast R appdata) (Sys.init R c) events
      ↔ Lts.Steps (react R) (ClosesAfterHandshake R early) (Sys.init R c) events :=
  Lts.always_iff_steps
    ⟨inv_init hR hfresh, fun _ hask => absurd hask (by simp [Sys.init])⟩
    (closeInv_step hR) (fun hi => hi.last) (not_closeLast_of_step hR)

end CloseLast

/-- A consumer that writes two bytes and closes after a one-byte handshake. -/
theorem close_last_after_handshake :
    Lts.Always (react (NullTls.rustls NullTls.greeting))
      (CloseLast (NullTls.rustls NullTls.greeting) NullTls.Conn.appdata)
      (Sys.init (NullTls.rustls NullTls.greeting) (.fresh 1 [1]))
      [.act (.transport .Complete [2]), .act (.cleartext .Complete [1, 2]),
        .act (.cleartext .Dropped [])] := by
  refine (close_last_iff_after_handshake (NullTls.sends NullTls.greeting) (.fresh 1 [1]) rfl
    _).mpr ?_
  rw [Lts.steps_cons_of_step _ rfl, Lts.steps_cons_of_step _ rfl, Lts.steps_cons_of_step _ rfl]
  exact ⟨trivial, by simp [ClosesAfterHandshake, StreamResult.ends], fun _ => .inl rfl, trivial⟩

/-- A consumer that closes before the handshake completes has `close_notify` sent in the
middle of it. -/
theorem early_close_interrupts_handshake :
    ¬ Lts.Always (react (NullTls.rustls NullTls.greeting))
      (CloseLast (NullTls.rustls NullTls.greeting) NullTls.Conn.appdata)
      (Sys.init (NullTls.rustls NullTls.greeting) (.fresh 1 [1]))
      [.act (.cleartext .Dropped [])] := by
  have hrun : ∃ s, Lts.run (react (NullTls.rustls NullTls.greeting))
        (Sys.init (NullTls.rustls NullTls.greeting) (.fresh 1 [1]))
        [.act (.cleartext .Dropped [])] = some s
      ∧ ∃ c, s.closeNotifyAt = some c ∧ c.is_handshaking = true :=
    ⟨_, rfl, _, rfl, rfl⟩
  obtain ⟨s, hrun, c, hask, hhand⟩ := hrun
  refine Lts.not_always_of_run hrun fun hlast => ?_
  have hdone : c.is_handshaking = false := (hlast c hask).1
  rw [hhand] at hdone
  exact absurd hdone (by simp)

/-! ## Early data is buffered -/

/-- **Early data is buffered without failing.** The direction has not ended with an
error; what was read from the consumer is, in order and once, what rustls encrypted
followed by what it buffers; and once the handshake has completed, all of it is
encrypted. -/
structure Buffered (R : Rustls C) (early appdata : C → List UInt8) (s : Sys C) : Prop where
  no_error : ∀ verdict ∈ s.send_done, verdict = .ok ()
  kept : handed early appdata s.conn = s.accepted
  encrypted : R.is_handshaking s.conn = false → appdata s.conn = s.accepted

/-- No read overflows what rustls buffers before the handshake completes. -/
def FitsEarlyBuffer (R : Rustls C) (early : C → List UInt8) (s : Sys C) : Event → Prop
  | .act (.cleartext _ buf) => ¬ Overflows R early s.conn buf
  | _ => True

/-- The books, and that no write has failed. -/
structure BufferInv (R : Rustls C) (early appdata : C → List UInt8) (s : Sys C) : Prop where
  books : Inv R early appdata s
  no_error : ∀ verdict ∈ s.send_done, verdict = .ok ()
  kept : handed early appdata s.conn = s.accepted

section Buffered

variable (hR : R.Sends early appdata)
include hR

/-- The property is a part of the books. -/
theorem buffered_of_inv {s : Sys C} (hi : BufferInv R early appdata s) :
    Buffered R early appdata s := by
  refine ⟨hi.no_error, hi.kept, fun hready => ?_⟩
  have hkept := hi.kept
  rwa [handed, hR.flushed _ hready, List.append_nil] at hkept

/-- A step under the condition: every read fits, so no write fails, and what was buffered
stays in order until it is flushed. -/
theorem bufferInv_step {s s' : Sys C} {e : Event} (hi : BufferInv R early appdata s)
    (hc : FitsEarlyBuffer R early s e) (h : react R s e = some s') :
    BufferInv R early appdata s' := by
  rcases react_frame_or_cleartext hR h with ⟨hf, -⟩ | ⟨status, buf, rfl, hpc, hlen, rfl⟩
  · exact ⟨hi.books.frame hf, by rw [hf.send_done]; exact hi.no_error,
      by rw [hf.handed, hf.accepted]; exact hi.kept⟩
  · obtain ⟨hhanded, -, -, hverdict, -, -⟩ :=
      writer_pass_fits hR s.handshake status hc (hi.books.drained hpc) hlen
    refine ⟨inv_writerPassed hR hi.books hpc hlen hc, ?_, ?_⟩
    · intro verdict hmem
      rw [Sys.writerPassed, hverdict, hi.books.open_done hpc] at hmem
      cases hends : status.ends <;> simp_all
    · rw [Sys.writerPassed, hhanded, hi.kept]

/-- A read that does not fit fails the direction at once. -/
theorem not_buffered_of_step {s s' : Sys C} {e : Event} (_ : BufferInv R early appdata s)
    (hc : ¬ FitsEarlyBuffer R early s e) (h : react R s e = some s') :
    ¬ Buffered R early appdata s' := by
  intro hbuf
  rcases react_frame_or_cleartext hR h with ⟨-, hnot⟩ | ⟨status, buf, rfl, hpc, hlen, rfl⟩
  · unfold FitsEarlyBuffer at hc
    split at hc
    · exact hnot _ _ rfl
    · exact hc trivial
  · obtain ⟨hverdict, -⟩ := writer_pass_overflows hR s.handshake status (not_not.mp hc)
    have herr := hbuf.no_error (.error "write failed: failed to write whole buffer")
      (by simp [Sys.writerPassed, hverdict])
    exact absurd herr (by simp)

/-- **Early data is buffered, encrypted in order and never fails -- exactly when no read
overflows rustls's 64 KiB early buffer.** For every connection that behaves as rustls
documents, every amount and chunking of early data, every interleaving with the handshake,
and a consumer and a transport that may go away. -/
theorem early_data_buffered_iff_fits (c : C) (hfresh : handed early appdata c = [])
    (events : List Event) :
    Lts.Always (react R) (Buffered R early appdata) (Sys.init R c) events
      ↔ Lts.Steps (react R) (FitsEarlyBuffer R early) (Sys.init R c) events := by
  have hinit : BufferInv R early appdata (Sys.init R c) :=
    ⟨inv_init hR hfresh, by simp [Sys.init],
      (handed_of_same (drain_spec hR c).1).trans hfresh⟩
  exact Lts.always_iff_steps hinit (bufferInv_step hR) (buffered_of_inv hR)
    (not_buffered_of_step hR)

end Buffered

/-- Two bytes written before the handshake completes. -/
theorem early_data_buffered :
    Lts.Always (react (NullTls.rustls NullTls.greeting))
      (Buffered (NullTls.rustls NullTls.greeting) NullTls.Conn.early NullTls.Conn.appdata)
      (Sys.init (NullTls.rustls NullTls.greeting) (.fresh 1 [1]))
      [.act (.cleartext .Complete [1, 2]), .act (.transport .Complete [2])] := by
  refine (early_data_buffered_iff_fits (NullTls.sends NullTls.greeting) (.fresh 1 [1]) rfl
    _).mpr ?_
  rw [Lts.steps_cons_of_step _ rfl, Lts.steps_cons_of_step _ rfl]
  refine ⟨?_, trivial, trivial⟩
  rintro ⟨-, -, hlong⟩
  exact absurd hlong (by decide)

/-! ### More early data than the buffer holds -/

/-- The consumer writes the same bytes `k` times. -/
def flood (chunk : List UInt8) (k : ℕ) : List Event :=
  List.replicate k (.act (.cleartext .Complete chunk))

theorem react_cleartext {s : Sys C} {chunk : List UInt8} (hpc : s.writer = .reading)
    (hlen : chunk.length ≤ CHUNK) : react R s (.act (.cleartext .Complete chunk))
      = some (s.writerPassed (writer_pass R s.handshake s.conn .Complete chunk) chunk) := by
  rw [react, step, if_pos ⟨hpc, hlen⟩]

/-- While the handshake runs, chunks that fit are accepted one by one. -/
theorem steps_flood (hR : R.Sends early appdata) {chunk : List UInt8}
    (hlen : chunk.length ≤ CHUNK) (k : ℕ) (es : List Event) {s : Sys C}
    (hi : BufferInv R early appdata s) (hpc : s.writer = .reading)
    (hhand : R.is_handshaking s.conn = true)
    (hsteps : Lts.Steps (react R) (FitsEarlyBuffer R early) s (flood chunk k ++ es)) :
    ∃ s', Lts.Steps (react R) (FitsEarlyBuffer R early) s' es ∧
      BufferInv R early appdata s' ∧ s'.writer = .reading ∧
      R.is_handshaking s'.conn = true ∧
      s'.accepted.length = s.accepted.length + k * chunk.length := by
  induction k generalizing s with
  | zero => exact ⟨s, hsteps, hi, hpc, hhand, by omega⟩
  | succ k ih =>
      have hstep := react_cleartext (R := R) hpc hlen
      rw [flood, List.replicate_succ, List.cons_append,
        Lts.steps_cons_of_step _ hstep] at hsteps
      obtain ⟨hfits, hrest⟩ := hsteps
      obtain ⟨-, hhand', -, hverdict, -, -⟩ := writer_pass_fits hR s.handshake .Complete hfits
        (hi.books.drained hpc) hlen
      obtain ⟨s', hsteps', hi', hpc', hhand'', hacc⟩ := ih (bufferInv_step hR hi hfits hstep)
        (by simp [Sys.writerPassed, hverdict, StreamResult.ends]) (hhand'.trans hhand) hrest
      refine ⟨s', hsteps', hi', hpc', hhand'', ?_⟩
      rw [hacc, Sys.writerPassed, List.length_append, Nat.succ_mul]
      omega

/-- Five full chunks before the handshake completes: the fifth does not fit, and the
direction fails. -/
theorem eighty_kib_of_early_data_fail :
    ¬ Lts.Always (react (NullTls.rustls NullTls.greeting))
      (Buffered (NullTls.rustls NullTls.greeting) NullTls.Conn.early NullTls.Conn.appdata)
      (Sys.init (NullTls.rustls NullTls.greeting) (.fresh 1 [1]))
      (flood (List.replicate CHUNK 0) 5) := by
  intro halways
  have hR := NullTls.sends NullTls.greeting
  have hinit : BufferInv (NullTls.rustls NullTls.greeting) NullTls.Conn.early
      NullTls.Conn.appdata (Sys.init (NullTls.rustls NullTls.greeting) (.fresh 1 [1])) :=
    ⟨inv_init hR rfl, by simp [Sys.init], rfl⟩
  have hsteps := (Lts.always_iff_steps hinit (bufferInv_step hR) (buffered_of_inv hR)
    (not_buffered_of_step hR)).mp halways
  have hchunk : (List.replicate CHUNK (0 : UInt8)).length = CHUNK := List.length_replicate
  generalize List.replicate CHUNK (0 : UInt8) = chunk at hsteps hchunk
  have hsplit : flood chunk 5 = flood chunk 4 ++ flood chunk 1 := by
    unfold flood
    rw [← List.replicate_add]
  rw [hsplit] at hsteps
  -- four chunks fill the buffer
  obtain ⟨s, hlast, hi, hpc, hhand, hacc⟩ :=
    steps_flood hR (Nat.le_of_eq hchunk) 4 _ hinit rfl rfl hsteps
  have hfits : ¬ Overflows (NullTls.rustls NullTls.greeting) NullTls.Conn.early s.conn chunk :=
    ((Lts.steps_cons_of_step [] (react_cleartext hpc (Nat.le_of_eq hchunk))).mp hlast).1
  have hearly : s.conn.early = s.accepted := by
    have hkept := hi.kept
    have hnone : s.conn.appdata = [] := by
      have hhand' : s.conn.is_handshaking = true := hhand
      unfold NullTls.Conn.is_handshaking at hhand'
      unfold NullTls.Conn.appdata
      cases hsend : s.conn.send with
      | handshaking early => rfl
      | ready appdata => simp [hsend] at hhand'
    rwa [handed, hnone, List.nil_append] at hkept
  have hcap : Rustls.BUFFER_LIMIT < 4 * CHUNK + CHUNK := by decide
  refine hfits ⟨hhand, ?_, ?_⟩
  · rintro rfl
    exact absurd hchunk (by decide)
  · rw [hearly, hacc, hchunk]
    simp only [Sys.init, List.length_nil]
    omega

end PolymorphTls.PumpSend

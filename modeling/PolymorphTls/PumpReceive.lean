/-
The receive direction of the pump: truncation is never reported as a clean close.

Whatever bytes arrive, however they are cut and however the stream ends, the reader
delivers one verdict when its loop ends, `Ok` only after an authenticated
`close_notify`, and by then the consumer has taken exactly the plaintext rustls
decrypted.

The argument is a bookkeeping one. Between two awaits the reader drains rustls's
plaintext completely (`reader_pass_spec`), so at every await the decrypted plaintext is
what the consumer has taken followed by what the reader is writing; and the flag
`clean_close` is never set without a `close_notify`. The writer's steps do not touch the
receive side (`writer_pass_keeps`).
-/
import PolymorphTls.NullTls
import PolymorphTls.Pump

set_option autoImplicit false

namespace PolymorphTls.PumpReceive

open Pump

variable {C : Type} {R : Rustls C} {decrypted : C → List UInt8} {closed : C → Bool}

/-! ## The loops -/

section Receive

variable (hR : R.Receives decrypted closed)
include hR

/-- Draining does not touch the receive side. -/
theorem drain_same (c : C) :
    R.SameReceived decrypted closed c (drain_tls_writes R c).2 := by
  refine drain_keeps (P := R.SameReceived decrypted closed c) ?_ ⟨rfl, rfl, rfl⟩
  rintro c' ⟨h1, h2, h3⟩
  obtain ⟨h1', h2', h3'⟩ := hR.write_tls_keeps c'
  exact ⟨h1'.trans h1, h2'.trans h2, h3'.trans h3⟩

/-- **The plaintext reader drains rustls.** Its bound is enough, it returns all unread
plaintext, and its flag says whether `close_notify` has been received. -/
theorem readLoop_spec (n : ℕ) (c : C) (hn : (R.received_plaintext c).length < n) :
    (readLoop R n c).1 = (R.received_plaintext c, closed c) ∧
    R.received_plaintext (readLoop R n c).2 = [] ∧
    decrypted (readLoop R n c).2 = decrypted c ∧ closed (readLoop R n c).2 = closed c := by
  -- every turn but the last reads at least one byte
  induction n generalizing c with
  | zero => omega
  | succ n ih =>
      by_cases hempty : R.received_plaintext c = []
      · obtain ⟨hread, hdec, hrec, hclo⟩ := hR.read_none c CHUNK hempty (by decide)
        rcases hread with ⟨hok, hclosed⟩ | ⟨⟨e, herr⟩, hclosed⟩
        · have heq : R.read c CHUNK = (.ok [], (R.read c CHUNK).2) := by rw [← hok]
          rw [readLoop, heq]
          exact ⟨by rw [hempty, hclosed], by rw [hrec, hempty], hdec, hclo⟩
        · have heq : R.read c CHUNK = (.error e, (R.read c CHUNK).2) := by rw [← herr]
          rw [readLoop, heq]
          exact ⟨by rw [hempty, hclosed], by rw [hrec, hempty], hdec, hclo⟩
      · obtain ⟨bytes, hne, hok, hsplit, hdec, hclo⟩ :=
          hR.read_some c CHUNK hempty (by decide)
        have heq : R.read c CHUNK = (.ok bytes, (R.read c CHUNK).2) := by rw [← hok]
        have hlen : (R.received_plaintext (R.read c CHUNK).2).length < n := by
          have hpos := List.length_pos_iff.mpr hne
          rw [hsplit, List.length_append] at hn
          omega
        obtain ⟨hres, hrest, hdec', hclo'⟩ := ih _ hlen
        have hcons : ∃ b bs, bytes = b :: bs := List.exists_cons_of_ne_nil hne
        obtain ⟨b, bs, rfl⟩ := hcons
        rw [readLoop, heq]
        refine ⟨?_, hrest, hdec'.trans hdec, hclo'.trans hclo⟩
        simp only [hres, hclo, hsplit]

/-- What the reader gets out of rustls in one go: everything unread, and whether the end
behind it is a close. -/
theorem read_available_plaintext_spec (c : C) :
    (read_available_plaintext R c).1 = (R.received_plaintext c, closed c) ∧
    R.received_plaintext (read_available_plaintext R c).2 = [] ∧
    decrypted (read_available_plaintext R c).2 = decrypted c ∧
    closed (read_available_plaintext R c).2 = closed c :=
  readLoop_spec hR _ c (Nat.lt_succ_self _)

/-- The reader's loop over one read: what it decrypts becomes readable, and it does not
claim a close that did not happen. The loop may stop early, on an error or because rustls
takes no more; what was decrypted by then is still handed on. -/
theorem feedLoop_spec (n : ℕ) (cursor : List UInt8) (f : Feed C)
    (hclean : f.clean_close = true → closed f.conn = true) :
    (∃ new, decrypted (feedLoop R n cursor f).conn = decrypted f.conn ++ new ∧
      R.received_plaintext (feedLoop R n cursor f).conn
        = R.received_plaintext f.conn ++ new) ∧
    ((feedLoop R n cursor f).clean_close = true →
      closed (feedLoop R n cursor f).conn = true) := by
  induction n generalizing cursor f with
  | zero => exact ⟨⟨[], by simp [feedLoop], by simp [feedLoop]⟩, hclean⟩
  | succ n ih =>
      obtain ⟨hdec, hrec, hclo⟩ := hR.read_tls_keeps f.conn cursor
      unfold feedLoop
      split
      · exact ⟨⟨[], by simp, by simp⟩, hclean⟩
      · -- only `process_new_packets` changes the receive side
        split
        case h_1 heq =>
            rw [heq] at hdec hrec hclo
            exact ⟨⟨[], by simpa using hdec, by simpa using hrec⟩,
              fun h => hclo.trans (hclean h)⟩
        case h_2 heq =>
            rw [heq] at hdec hrec hclo
            exact ⟨⟨[], by simpa using hdec, by simpa using hrec⟩,
              fun h => hclo.trans (hclean h)⟩
        case h_3 k c _ heq =>
            rw [heq] at hdec hrec hclo
            obtain ⟨new, hnew, hnew'⟩ := hR.process_releases c
            have hmono := hR.process_closed c
            have hreport := hR.peer_has_closed c
            split
            case h_1 b c' hproc =>
                rw [hproc] at hnew hnew' hmono hreport
                obtain ⟨hd, hr, hc⟩ := drain_same hR c'
                -- the flag is set by this call, or was set and a close stays received
                have hcl : (f.clean_close || b) = true →
                    closed (drain_tls_writes R c').2 = true := by
                  intro h
                  rw [hc]
                  rcases Bool.or_eq_true_iff.mp h with h | h
                  · exact hmono (hclo.trans (hclean h))
                  · rw [← hreport b rfl, h]
                obtain ⟨⟨more, hm, hm'⟩, hcl'⟩ := ih (cursor.drop k)
                  { f with
                    conn := (drain_tls_writes R c').2
                    sent := f.sent ++ (drain_tls_writes R c').1
                    clean_close := f.clean_close || b } hcl
                refine ⟨⟨new ++ more, ?_, ?_⟩, hcl'⟩
                · rw [hm, hd, hnew, hdec, List.append_assoc]
                · rw [hm', hr, hnew', hrec, List.append_assoc]
            case h_2 e c' hproc =>
                rw [hproc] at hnew hnew' hmono
                obtain ⟨hd, hr, hc⟩ := drain_same hR c'
                refine ⟨⟨new, ?_, ?_⟩, fun h => ?_⟩
                · rw [hd, hnew, hdec]
                · rw [hr, hnew', hrec]
                · exact hc.trans (hmono (hclo.trans (hclean h)))

/-- **One pass of the reader.** Starting with nothing unread, it hands on exactly what
was decrypted in it, leaves nothing unread, and sets `clean_close` only on a close. -/
theorem reader_pass_spec (h : Handshake) (c : C) (clean_close : Bool) (buf : List UInt8)
    (hempty : R.received_plaintext c = []) (hclean : clean_close = true → closed c = true) :
    decrypted (reader_pass R h c clean_close buf).conn
      = decrypted c ++ (reader_pass R h c clean_close buf).plaintext ∧
    R.received_plaintext (reader_pass R h c clean_close buf).conn = [] ∧
    ((reader_pass R h c clean_close buf).clean_close = true →
      closed (reader_pass R h c clean_close buf).conn = true) := by
  obtain ⟨⟨new, hdec, hrec⟩, hcl⟩ :=
    feedLoop_spec hR buf.length buf ⟨c, [], clean_close, none⟩ hclean
  unfold reader_pass
  generalize feedLoop R buf.length buf ⟨c, [], clean_close, none⟩ = f at hdec hrec hcl
  obtain ⟨hres, hnone, hdec', hclo'⟩ := read_available_plaintext_spec hR f.conn
  rw [hempty, List.nil_append] at hrec
  refine ⟨?_, hnone, fun h => ?_⟩
  · simp only [hres]
    rw [hdec', hdec, hrec]
  · simp only [hres] at h
    rw [hclo']
    rcases Bool.or_eq_true_iff.mp h with h | h
    · exact hcl h
    · exact h

/-- The writer does not touch the receive side. It shares the connection with the reader, so
this has to be said: none of the calls it makes decrypts or reads. -/
theorem writer_pass_keeps (h : Handshake) (c : C) (status : StreamResult)
    (buf : List UInt8) :
    R.SameReceived decrypted closed c (writer_pass R h c status buf).conn := by
  have htrans : ∀ {a b d : C}, R.SameReceived decrypted closed a b →
      R.SameReceived decrypted closed b d → R.SameReceived decrypted closed a d := by
    rintro a b d ⟨h1, h2, h3⟩ ⟨h1', h2', h3'⟩
    exact ⟨h1'.trans h1, h2'.trans h2, h3'.trans h3⟩
  have hstatus : ∀ p : WriterPass C,
      R.SameReceived decrypted closed p.conn (writer_status R p status).conn := by
    intro p
    unfold writer_status
    split
    · exact htrans (hR.close_keeps p.conn) (drain_same hR _)
    · exact ⟨rfl, rfl, rfl⟩
  have hwrite : R.SameReceived decrypted closed c (write_all R c buf).2 :=
    write_all_keeps (P := R.SameReceived decrypted closed c)
      (fun c' buf' hc' => htrans hc' (hR.write_keeps c' buf')) buf ⟨rfl, rfl, rfl⟩
  unfold writer_pass
  split
  · exact hstatus _
  · split
    case h_1 heq => rwa [heq] at hwrite
    case h_2 heq =>
        rw [heq] at hwrite
        exact htrans (htrans hwrite (drain_same hR _)) (hstatus _)

end Receive

/-! ## The contract -/

/-- The monitor: whether the consumer has dropped its end of the cleartext stream. -/
def noteLeft (_ : Sys C) (e : Event) (_ : Sys C) (left : Bool) : Bool :=
  match e with
  | .consumerGone => true
  | .act _ | .transportGone => left

/-- **The verdict of the receive direction is true.** There is at most one, it is there
exactly when the loop has ended, and it is `Ok` only after a `close_notify`. With it a
consumer that keeps its end open has taken exactly what was decrypted; before it, what that
consumer has taken is the beginning of that. -/
structure Truthful (decrypted : C → List UInt8) (closed : C → Bool) (x : Sys C × Bool) :
    Prop where
  at_most_once : x.1.recv_done.length ≤ 1
  resolves : x.1.reader = .ended ↔ x.1.recv_done ≠ []
  ok_closed : .ok () ∈ x.1.recv_done → closed x.1.conn = true
  delivered : x.2 = false → x.1.recv_done ≠ [] → x.1.cleartext_out = decrypted x.1.conn
  in_order : x.2 = false → x.1.cleartext_out <+: decrypted x.1.conn

/-- The books of the receive side at an await of the reader. What a consumer that has left
was to take is not in them. -/
def Balanced (decrypted : C → List UInt8) (closed : C → Bool) (s : Sys C) (left : Bool) :
    Prop :=
  match s.reader with
  | .reading =>
      s.recv_done = [] ∧ s.clean_close = false ∧
        (left = false → s.cleartext_out = decrypted s.conn)
  | .writing pending _ _ =>
      s.recv_done = [] ∧ (s.clean_close = true → closed s.conn = true) ∧
        (left = false → s.cleartext_out ++ pending = decrypted s.conn)
  | .ended => ∃ verdict, s.recv_done = [verdict] ∧
      (verdict = .ok () → closed s.conn = true) ∧
        (left = false → s.cleartext_out = decrypted s.conn)

/-- The books at every await of the reader. Its three awaits differ in what of the last pass
is still to be handed on. -/
structure Inv (R : Rustls C) (decrypted : C → List UInt8) (closed : C → Bool)
    (x : Sys C × Bool) : Prop where
  drained : R.received_plaintext x.1.conn = []
  balanced : Balanced decrypted closed x.1 x.2

/-! ## Every step keeps the books -/

section Steps

variable (hR : R.Receives decrypted closed)
include hR

/-- A connection nothing was decrypted over. -/
theorem inv_init {c : C} (hdec : decrypted c = []) (hrec : R.received_plaintext c = []) :
    Inv R decrypted closed (Sys.init R c, false) := by
  obtain ⟨hd, hr, -⟩ := drain_same hR c
  exact ⟨hr.trans hrec, rfl, rfl, fun _ => (hd.trans hdec).symm⟩

omit hR in
/-- The reader decides: it ends with a verdict the books allow, or reads on. Only the flag
makes the verdict `Ok`, and the flag is the connection's. -/
theorem inv_readerNext {s : Sys C} {left : Bool} {next : Option Verdict × Handshake}
    (hdrained : R.received_plaintext s.conn = []) (hnil : s.recv_done = [])
    (hout : left = false → s.cleartext_out = decrypted s.conn)
    (hok : next.1 = some (.ok ()) → closed s.conn = true)
    (hon : next.1 = none → s.clean_close = false) :
    Inv R decrypted closed (s.readerNext next, left) := by
  obtain ⟨verdict, h⟩ := next
  cases verdict with
  | none => exact ⟨hdrained, hnil, hon rfl, hout⟩
  | some verdict =>
      refine ⟨hdrained, verdict, ?_, ?_, hout⟩
      · simp [Sys.readerNext, hnil]
      · rintro rfl
        exact hok rfl

omit hR in
/-- `Ok` is decided only from `clean_close`, and reading on only without it. -/
theorem reader_decide_cases (h : Handshake) (failed : Option String) (clean_close : Bool)
    (status : StreamResult) :
    ((reader_decide h failed clean_close status).1 = some (.ok ()) → clean_close = true) ∧
    ((reader_decide h failed clean_close status).1 = none → clean_close = false) := by
  unfold reader_decide reader_status
  cases failed with
  | some message => simp
  | none => cases clean_close <;> cases status <;> simp [StreamResult.ends]

/-- One nonempty read, up to the reader's next await: the write of its plaintext, or the
decision if there is none. -/
theorem inv_readerPassed {s : Sys C} {left : Bool} (status : StreamResult) (buf : List UInt8)
    (hdrained : R.received_plaintext s.conn = []) (hnil : s.recv_done = [])
    (hclean : s.clean_close = false)
    (hout : left = false → s.cleartext_out = decrypted s.conn) :
    Inv R decrypted closed
      (s.readerPassed (reader_pass R s.handshake s.conn s.clean_close buf) status, left) := by
  obtain ⟨hdec, hnone, hcl⟩ := reader_pass_spec hR s.handshake s.conn s.clean_close buf
    hdrained (by simp [hclean])
  generalize reader_pass R s.handshake s.conn s.clean_close buf = p at hdec hnone hcl
  unfold Sys.readerPassed
  split
  case isTrue hempty =>
      rw [hempty, List.append_nil] at hdec
      obtain ⟨hok, hon⟩ := reader_decide_cases p.handshake p.failed p.clean_close status
      exact inv_readerNext hnone hnil (fun hstays => (hout hstays).trans hdec.symm)
        (fun hv => hcl (hok hv)) hon
  case isFalse =>
      exact ⟨hnone, hnil, hcl, fun hstays => by rw [hdec, ← hout hstays]⟩

omit hR in
/-- A step that leaves the reader and its side of the connection alone: the writer's and the
transmit task's. -/
theorem inv_of_frame {s s' : Sys C} {left : Bool} (hi : Inv R decrypted closed (s, left))
    (hsame : R.SameReceived decrypted closed s.conn s'.conn) (hpc : s'.reader = s.reader)
    (hclean : s'.clean_close = s.clean_close) (hdone : s'.recv_done = s.recv_done)
    (hout : s'.cleartext_out = s.cleartext_out) : Inv R decrypted closed (s', left) := by
  obtain ⟨hdrained, hbal⟩ := hi
  obtain ⟨hdec, hrec, hclo⟩ := hsame
  refine ⟨hrec.trans hdrained, ?_⟩
  unfold Balanced at hbal ⊢
  rw [hpc, hclean, hdone, hout, hdec, hclo]
  exact hbal

/-- What the tasks do between two awaits. -/
theorem inv_step {s s' : Sys C} {left : Bool} {a : Act} (hi : Inv R decrypted closed (s, left))
    (h : step R s a = some s') : Inv R decrypted closed (s', left) := by
  obtain ⟨hdrained, hbal⟩ := id hi
  unfold Balanced at hbal
  cases trans_of_step h with
  | emptyRead hpc =>
      -- nothing was read: only the status counts
      rw [hpc] at hbal
      obtain ⟨hnil, hclean, hout⟩ := hbal
      refine inv_readerNext hdrained hnil hout ?_ fun _ => hclean
      rw [hclean]
      unfold reader_status
      split <;> simp
  | read hpc hne hlen =>
      rw [hpc] at hbal
      obtain ⟨hnil, hclean, hout⟩ := hbal
      exact inv_readerPassed hR _ _ hdrained hnil hclean hout
  | consume hpc =>
      -- bytes move from the pending write to the consumer
      rw [hpc] at hbal
      obtain ⟨hnil, hclean, hout⟩ := hbal
      refine ⟨hdrained, hnil, hclean, fun hstays => ?_⟩
      rw [List.append_assoc, List.take_append_drop, hout hstays]
  | @written failed status hpc =>
      rw [hpc] at hbal
      obtain ⟨hnil, hclean, hout⟩ := hbal
      obtain ⟨hok, hon⟩ := reader_decide_cases s.handshake failed s.clean_close status
      rw [List.append_nil] at hout
      exact inv_readerNext hdrained hnil hout (fun hv => hclean (hok hv)) hon
  | cleartext hpc hlen =>
      exact inv_of_frame hi (writer_pass_keeps hR s.handshake s.conn _ _) rfl rfl rfl rfl
  | dequeue hpc hqueue => exact inv_of_frame hi ⟨rfl, rfl, rfl⟩ rfl rfl rfl rfl
  | close hpc hqueue hreader hwriter =>
      exact inv_of_frame hi ⟨rfl, rfl, rfl⟩ rfl rfl rfl rfl
  | transmit hpc => exact inv_of_frame hi ⟨rfl, rfl, rfl⟩ rfl rfl rfl rfl
  | transmitted hpc => exact inv_of_frame hi ⟨rfl, rfl, rfl⟩ rfl rfl rfl rfl

/-- The same with peers that may go away: a write that the consumer's leaving cut short is
decided on like a complete one. -/
theorem inv_react {s s' : Sys C} {left : Bool} {e : Event}
    (hi : Inv R decrypted closed (s, left)) (h : react R s e = some s') :
    Inv R decrypted closed (s', noteLeft s e s' left) := by
  cases react_of_step h with
  | act => exact inv_step hR hi h
  | @consumerGone pending failed status hpc =>
      obtain ⟨hdrained, hbal⟩ := hi
      rw [Balanced, hpc] at hbal
      obtain ⟨hnil, hclean, -⟩ := hbal
      obtain ⟨hok, hon⟩ := reader_decide_cases s.handshake failed s.clean_close status
      exact inv_readerNext hdrained hnil (fun hstays => absurd hstays (by simp [noteLeft]))
        (fun hv => hclean (hok hv)) hon
  | transportGone hpc => exact inv_of_frame hi ⟨rfl, rfl, rfl⟩ rfl rfl rfl rfl

omit hR in
theorem truthful_of_inv {x : Sys C × Bool} (hi : Inv R decrypted closed x) :
    Truthful decrypted closed x := by
  obtain ⟨-, hbal⟩ := hi
  unfold Balanced at hbal
  cases hpc : x.1.reader with
  | reading =>
      rw [hpc] at hbal
      obtain ⟨hnil, -, hout⟩ := hbal
      exact ⟨by simp [hnil], by simp [hpc, hnil], by simp [hnil], fun hstays _ => hout hstays,
        fun hstays => by simp [hout hstays]⟩
  | writing pending failed status =>
      rw [hpc] at hbal
      obtain ⟨hnil, -, hout⟩ := hbal
      exact ⟨by simp [hnil], by simp [hpc, hnil], by simp [hnil], by simp [hnil],
        fun hstays => ⟨pending, hout hstays⟩⟩
  | ended =>
      rw [hpc] at hbal
      obtain ⟨verdict, hone, hok, hout⟩ := hbal
      refine ⟨by simp [hone], by simp [hpc, hone], ?_, fun hstays _ => hout hstays,
        fun hstays => by simp [hout hstays]⟩
      intro hmem
      rw [hone, List.mem_singleton] at hmem
      exact hok hmem.symm

/-- **Truncation is never reported as a clean close.** For every connection that behaves
as rustls documents, every input, every way it is cut, every final status, every
interleaving of the three tasks with the consumer and the transport, and peers that may go
away. -/
theorem truncation_is_never_clean (c : C) (hdec : decrypted c = [])
    (hrec : R.received_plaintext c = []) (events : List Event) :
    Lts.Always (Lts.monitored (react R) noteLeft) (Truthful decrypted closed)
      (Sys.init R c, false) events := by
  refine Lts.always_of_invariant (inv_init hR hdec hrec) (fun hi h => ?_) truthful_of_inv
  obtain ⟨s', hreact, rfl⟩ := Lts.monitored_eq_some.mp h
  exact inv_react hR hi hreact

end Steps

/-- A transport that ends after the greeting and before the close: the greeting is
delivered, and the direction fails. -/
theorem cut_greeting_is_not_clean :
    let events : List Event := [.act (.transport .Complete [23, 3, 3, 0, 2, 104, 105]),
      .act (.consume 2), .act .written, .act (.transport .Dropped [])]
    Lts.Always (Lts.monitored (react (NullTls.rustls NullTls.greeting)) noteLeft)
        (Truthful NullTls.Conn.decrypted NullTls.Conn.closed)
        (Sys.init (NullTls.rustls NullTls.greeting) .connected, false) events ∧
      ∃ s, Lts.run (Lts.monitored (react (NullTls.rustls NullTls.greeting)) noteLeft)
          (Sys.init (NullTls.rustls NullTls.greeting) .connected, false) events
            = some (s, false) ∧
        s.cleartext_out = [104, 105] ∧
        s.recv_done
          = [.error "transport closed without TLS close_notify (possible truncation)"] :=
  ⟨truncation_is_never_clean (NullTls.receives NullTls.greeting) .connected rfl rfl _,
    _, rfl, rfl, rfl⟩

end PolymorphTls.PumpReceive

/-
The handshake signal of the pump, and what a failed handshake does to the send direction.

The pending `connect` or `accept` waits on a oneshot that the reader and the writer share.
Both look at it after they have used the connection (`Handshake::check`), and the reader
fails it on every exit of its loop that is not a clean close (`Handshake::fail`).

* The signal is sent at most once, `Ok` only from a completed handshake, and it has been
  sent whenever the reader has ended (`signal_is_sent_by_the_reader`). A clean close needs
  no signal of its own: rustls reports a close only after the handshake, and the check
  comes after the report.
* The send direction never hears of it. The writer ends with `Ok` when the consumer closes
  its stream, also when the handshake has failed before or fails afterwards
  (`send_fails_with_handshake_iff`).
-/
import PolymorphTls.NullTls
import PolymorphTls.Pump
import PolymorphTls.PumpSend

set_option autoImplicit false

namespace PolymorphTls.PumpHandshake

open Pump

variable {C : Type} {R : Rustls C}

/-! ## The signal and the connection -/

/-- The oneshot's books against a connection: nothing was sent while the sender is there,
and what was sent is one signal, `Ok` only with what a completed handshake reports. -/
structure Signal (R : Rustls C) (h : Handshake) (c : C) : Prop where
  pending : h.sender = true → h.sent = []
  sent : h.sender = false → ∃ signal, h.sent = [signal] ∧ ∀ outcome, signal = .ok outcome →
    R.is_handshaking c = false ∧ outcome = handshakeOutcome R c

/-- Before the first use of the connection nothing was sent. -/
theorem signal_fresh (c : C) : Signal R ⟨true, []⟩ c :=
  ⟨fun _ => rfl, fun h => absurd h (by simp)⟩

/-- After a check on a completed handshake the signal has been sent. -/
theorem signal_check {h : Handshake} {c : C} (hs : Signal R h c) :
    Signal R (h.check R c) c ∧
    (R.is_handshaking c = false → (h.check R c).sender = false) ∧
    (h.sender = false → (h.check R c).sender = false) := by
  unfold Handshake.check
  by_cases hhand : R.is_handshaking c = true
  · rw [if_pos hhand]
    exact ⟨hs, fun h => absurd hhand (by rw [h]; decide), id⟩
  · have hready : R.is_handshaking c = false := by rwa [Bool.not_eq_true] at hhand
    rw [if_neg hhand]
    by_cases hsender : h.sender = true
    · rw [if_pos hsender, hs.pending hsender, List.nil_append]
      refine ⟨⟨fun h => absurd h (by simp), fun _ => ⟨_, rfl, ?_⟩⟩, fun _ => rfl, fun _ => rfl⟩
      intro outcome heq
      rw [Except.ok.injEq] at heq
      exact ⟨hready, heq.symm⟩
    · rw [if_neg hsender]
      rw [Bool.not_eq_true] at hsender
      exact ⟨hs, fun _ => hsender, id⟩

/-- After a failure the signal has been sent: by this failure, or before it. -/
theorem signal_fail {h : Handshake} {c : C} (hs : Signal R h c) (message : String) :
    Signal R (h.fail message) c ∧ (h.fail message).sender = false := by
  unfold Handshake.fail
  by_cases hsender : h.sender = true
  · rw [if_pos hsender, hs.pending hsender, List.nil_append]
    refine ⟨⟨fun h => absurd h (by simp), fun _ => ⟨_, rfl, ?_⟩⟩, rfl⟩
    intro outcome heq
    exact absurd heq (by simp)
  · rw [if_neg hsender]
    rw [Bool.not_eq_true] at hsender
    exact ⟨hs, hsender⟩

section Calls

variable {valid : C → Prop} (hR : R.Handshakes valid)
include hR

/-- Calls lead from a valid connection to a valid one. -/
theorem valid_calls {c c' : C} (h : Calls R c c') (hc : valid c) : valid c' := by
  induction h with
  | refl => exact hc
  | tail _ hcall ih => exact hR.valid_call hcall ih

/-- A completed handshake stays completed, with what it reports. -/
theorem completed_calls {c c' : C} (h : Calls R c c') (hc : valid c)
    (hready : R.is_handshaking c = false) :
    R.is_handshaking c' = false ∧ handshakeOutcome R c' = handshakeOutcome R c := by
  induction h with
  | refl => exact ⟨hready, rfl⟩
  | tail hcalls hcall ih =>
      obtain ⟨hready', hout⟩ := ih
      obtain ⟨hready'', halpn, hname, hside⟩ :=
        hR.completed hcall (valid_calls hR hcalls hc) hready'
      refine ⟨hready'', ?_⟩
      rw [← hout, handshakeOutcome, handshakeOutcome, halpn, hname, hside]

/-- The signal that was sent keeps being right: a completed handshake reports the same ever
after. -/
theorem signal_calls {h : Handshake} {c c' : C} (hs : Signal R h c) (hcalls : Calls R c c')
    (hc : valid c) : Signal R h c' := by
  refine ⟨hs.pending, fun hsender => ?_⟩
  obtain ⟨signal, hsent, hok⟩ := hs.sent hsender
  refine ⟨signal, hsent, fun outcome heq => ?_⟩
  obtain ⟨hready, hout⟩ := hok outcome heq
  obtain ⟨hready', hout'⟩ := completed_calls hR hcalls hc hready
  exact ⟨hready', hout.trans hout'.symm⟩

/-! ## The reader's flag -/

/-- The plaintext reader finds a clean end only after the handshake, since rustls reports
one only then. -/
theorem readLoop_ready (n : ℕ) (c : C) (hc : valid c) (heof : (readLoop R n c).1.2 = true) :
    R.is_handshaking c = false := by
  induction n generalizing c with
  | zero => exact absurd heof (by simp [readLoop])
  | succ n ih =>
      have hkeep := hR.read_keeps c CHUNK
      have hvalid := hR.valid_call (.read CHUNK) hc
      unfold readLoop at heof
      split at heof
      case h_1 c' heq => exact hR.clean_eof hc (by decide) (congrArg Prod.fst heq)
      case h_2 c' _ heq =>
          rw [heq] at hkeep hvalid
          rw [← hkeep]
          exact ih c' hvalid heof
      case h_3 heq => exact absurd heof (by simp)

/-- The loop over one read sets `clean_close` only after the handshake. -/
theorem feedLoop_ready (n : ℕ) (cursor : List UInt8) (f : Feed C) (hc : valid f.conn)
    (hclean : f.clean_close = true → R.is_handshaking f.conn = false) :
    (feedLoop R n cursor f).clean_close = true →
      R.is_handshaking (feedLoop R n cursor f).conn = false := by
  induction n generalizing cursor f with
  | zero => exact hclean
  | succ n ih =>
      have hread : Calls R f.conn (R.read_tls f.conn cursor).2 := .single (.read_tls cursor)
      unfold feedLoop
      split
      · exact hclean
      · split
        case h_1 heq =>
            rw [heq] at hread
            exact fun h => (completed_calls hR hread hc (hclean h)).1
        case h_2 heq =>
            rw [heq] at hread
            exact fun h => (completed_calls hR hread hc (hclean h)).1
        case h_3 k c _ heq =>
            rw [heq] at hread
            have hvalid := valid_calls hR hread hc
            have hproc : R.Call c (R.process_new_packets c).2 := .process_new_packets
            have hreport := hR.peer_has_closed hvalid
            split
            case h_1 b c' heq' =>
                rw [heq'] at hproc hreport
                have hcalls : Calls R c (drain_tls_writes R c').2 :=
                  .head hproc (drain_calls c')
                apply ih (cursor.drop k)
                  { f with
                    conn := (drain_tls_writes R c').2
                    sent := f.sent ++ (drain_tls_writes R c').1
                    clean_close := f.clean_close || b } (valid_calls hR hcalls hvalid)
                intro h
                rcases Bool.or_eq_true_iff.mp h with h | h
                · exact (completed_calls hR (hread.trans hcalls) hc (hclean h)).1
                · have hready : R.is_handshaking c' = false := hreport (by rw [h])
                  exact (completed_calls hR (drain_calls c') (hR.valid_call hproc hvalid)
                    hready).1
            case h_2 e c' heq' =>
                rw [heq'] at hproc
                have hcalls : Calls R f.conn (drain_tls_writes R c').2 :=
                  hread.trans (.head hproc (drain_calls c'))
                exact fun h => (completed_calls hR hcalls hc (hclean h)).1

/-- **One pass of the reader.** It leaves the signal consistent with the connection, and
with `clean_close` set it leaves it sent. -/
theorem reader_pass_signal {h : Handshake} {c : C} (clean_close : Bool) (buf : List UInt8)
    (hc : valid c) (hs : Signal R h c)
    (hclean : clean_close = true → R.is_handshaking c = false) :
    valid (reader_pass R h c clean_close buf).conn ∧
    Signal R (reader_pass R h c clean_close buf).handshake
      (reader_pass R h c clean_close buf).conn ∧
    ((reader_pass R h c clean_close buf).clean_close = true →
      (reader_pass R h c clean_close buf).handshake.sender = false ∧
      R.is_handshaking (reader_pass R h c clean_close buf).conn = false) := by
  obtain ⟨hfed, hread⟩ := reader_pass_calls (R := R) h c clean_close buf
  have hready := feedLoop_ready hR buf.length buf ⟨c, [], clean_close, none⟩ hc hclean
  have heof := readLoop_ready hR
    ((R.received_plaintext (feedLoop R buf.length buf ⟨c, [], clean_close, none⟩).conn).length
      + 1) (feedLoop R buf.length buf ⟨c, [], clean_close, none⟩).conn
  have hvalid := valid_calls hR hfed hc
  obtain ⟨hchecked, hsent, -⟩ := signal_check (signal_calls hR hs hfed hc)
  refine ⟨valid_calls hR hread hvalid, signal_calls hR hchecked hread hvalid, fun h => ?_⟩
  -- the flag was set by a close that rustls reported, and the check came after it
  have hdone : R.is_handshaking
      (feedLoop R buf.length buf ⟨c, [], clean_close, none⟩).conn = false := by
    rcases Bool.or_eq_true_iff.mp h with h | h
    · exact hready h
    · exact heof hvalid h
  exact ⟨hsent hdone, (completed_calls hR hread hvalid hdone).1⟩

/-- One pass of the writer. It may complete nothing, but it checks, and may be the first to
see what the reader's last pass completed. -/
theorem writer_pass_signal {h : Handshake} {c : C} (status : StreamResult)
    (buf : List UInt8) (hc : valid c) (hs : Signal R h c) :
    valid (writer_pass R h c status buf).conn ∧
    Signal R (writer_pass R h c status buf).handshake
      (writer_pass R h c status buf).conn ∧
    (h.sender = false → (writer_pass R h c status buf).handshake.sender = false) ∧
    (R.is_handshaking c = false →
      R.is_handshaking (writer_pass R h c status buf).conn = false) := by
  obtain ⟨c₁, hcalls, hcalls', hcheck⟩ := writer_pass_calls (R := R) h c status buf
  have hvalid := valid_calls hR hcalls hc
  have hs₁ := signal_calls hR hs hcalls hc
  obtain ⟨hchecked, -, hstays⟩ := signal_check hs₁
  refine ⟨valid_calls hR hcalls' hvalid, ?_, fun hsender => ?_, fun hready => ?_⟩
  · rcases hcheck with hsame | hcheck
    · rw [hsame]
      exact signal_calls hR hs₁ hcalls' hvalid
    · rw [hcheck]
      exact signal_calls hR hchecked hcalls' hvalid
  · rcases hcheck with hsame | hcheck
    · rwa [hsame]
    · rw [hcheck]
      exact hstays hsender
  · exact (completed_calls hR (hcalls.trans hcalls') hc hready).1

end Calls

/-- The end of the transport: the reader ends only with the signal sent. -/
theorem reader_status_signal {h : Handshake} {c : C} {clean_close : Bool}
    (status : StreamResult) (hs : Signal R h c)
    (hclean : clean_close = true → h.sender = false) :
    Signal R (reader_status h clean_close status).2 c ∧
    ((reader_status h clean_close status).1 ≠ none →
      (reader_status h clean_close status).2.sender = false) ∧
    (h.sender = false → (reader_status h clean_close status).2.sender = false) := by
  unfold reader_status
  by_cases hends : status.ends = true
  · rw [if_pos hends]
    by_cases hcl : clean_close = true
    · rw [if_pos hcl]
      exact ⟨hs, fun _ => hclean hcl, id⟩
    · rw [if_neg hcl]
      obtain ⟨hfail, hsent⟩ := signal_fail hs "transport closed during handshake"
      exact ⟨hfail, fun _ => hsent, fun _ => hsent⟩
  · rw [if_neg hends]
    exact ⟨hs, fun h => absurd rfl h, id⟩

/-- The reader's decision after a nonempty read: the same. -/
theorem reader_decide_signal {h : Handshake} {c : C} (failed : Option String)
    {clean_close : Bool} (status : StreamResult) (hs : Signal R h c)
    (hclean : clean_close = true → h.sender = false) :
    Signal R (reader_decide h failed clean_close status).2 c ∧
    ((reader_decide h failed clean_close status).1 ≠ none →
      (reader_decide h failed clean_close status).2.sender = false) ∧
    (h.sender = false → (reader_decide h failed clean_close status).2.sender = false) := by
  unfold reader_decide
  split
  · rename_i message
    obtain ⟨hfail, hsent⟩ := signal_fail hs message
    exact ⟨hfail, fun _ => hsent, fun _ => hsent⟩
  · by_cases hcl : clean_close = true
    · rw [if_pos hcl]
      exact ⟨hs, fun _ => hclean hcl, id⟩
    · rw [if_neg hcl]
      exact reader_status_signal status hs hclean

/-! ## The contract of the signal -/

/-- **The signal of `connect` and `accept`.** It is sent at most once; `Ok` says that
rustls has left the handshake, and carries the ALPN protocol and, on a server, the SNI
that rustls reports; and once the reader has ended it has been sent. -/
structure Signalled (R : Rustls C) (s : Sys C) : Prop where
  at_most_once : s.handshake.sent.length ≤ 1
  ok_completed : ∀ outcome, .ok outcome ∈ s.handshake.sent →
    R.is_handshaking s.conn = false ∧
    outcome.alpn_protocol = R.alpn_protocol s.conn ∧
    outcome.server_name = (match R.side s.conn with
      | .Server => R.server_name s.conn
      | .Client => none)
  sent_by_reader : s.reader = .ended → ∃ signal, s.handshake.sent = [signal]

/-- The books at an await: the connection is valid, the signal is right about it, and the
reader's flag and its end imply that it was sent. -/
structure Inv (R : Rustls C) (valid : C → Prop) (s : Sys C) : Prop where
  valid : valid s.conn
  signal : Signal R s.handshake s.conn
  clean : s.clean_close = true →
    s.handshake.sender = false ∧ R.is_handshaking s.conn = false
  ended : s.reader = .ended → s.handshake.sender = false

theorem signalled_of_inv {valid : C → Prop} {s : Sys C} (hi : Inv R valid s) :
    Signalled R s := by
  have hsent := hi.signal.sent
  refine ⟨?_, fun outcome hmem => ?_, fun hended => ?_⟩
  · by_cases hsender : s.handshake.sender = true
    · rw [hi.signal.pending hsender]
      exact Nat.zero_le 1
    · obtain ⟨signal, heq, -⟩ := hsent (by rwa [Bool.not_eq_true] at hsender)
      rw [heq]
      exact Nat.le_refl 1
  · by_cases hsender : s.handshake.sender = true
    · rw [hi.signal.pending hsender] at hmem
      exact absurd hmem List.not_mem_nil
    · obtain ⟨signal, heq, hok⟩ := hsent (by rwa [Bool.not_eq_true] at hsender)
      rw [heq, List.mem_singleton] at hmem
      obtain ⟨hready, hout⟩ := hok outcome hmem.symm
      rw [hout]
      exact ⟨hready, rfl, rfl⟩
  · obtain ⟨signal, heq, -⟩ := hsent (hi.ended hended)
    exact ⟨signal, heq⟩

section Steps

variable {valid : C → Prop} (hR : R.Handshakes valid)
include hR

theorem inv_init {c : C} (hc : valid c) : Inv R valid (Sys.init R c) :=
  ⟨valid_calls hR (drain_calls c) hc, signal_fresh _, fun h => absurd h (by simp [Sys.init]),
    fun h => absurd h (by simp [Sys.init])⟩

omit hR in
/-- The reader goes on or ends, with the signal where its decision left it. -/
theorem inv_readerNext {s : Sys C} {next : Option Verdict × Handshake} (hvalid : valid s.conn)
    (hclean : s.clean_close = true → R.is_handshaking s.conn = false)
    (hs : Signal R next.2 s.conn) (hsent : next.1 ≠ none → next.2.sender = false)
    (hstays : s.clean_close = true → next.2.sender = false) :
    Inv R valid (s.readerNext next) := by
  obtain ⟨verdict, h⟩ := next
  cases verdict with
  | none =>
      exact ⟨hvalid, hs, fun hcl => ⟨hstays hcl, hclean hcl⟩,
        fun h => absurd h (by simp [Sys.readerNext])⟩
  | some verdict =>
      exact ⟨hvalid, hs, fun hcl => ⟨hstays hcl, hclean hcl⟩, fun _ => hsent (by simp)⟩

/-- A nonempty read, whose check comes behind the loop that may have set the flag. -/
theorem inv_readerPassed {s : Sys C} (status : StreamResult) (buf : List UInt8)
    (hi : Inv R valid s) : Inv R valid
      (s.readerPassed (reader_pass R s.handshake s.conn s.clean_close buf) status) := by
  obtain ⟨hvalid, hs, hclean⟩ := reader_pass_signal hR s.clean_close buf hi.valid hi.signal
    (fun h => (hi.clean h).2)
  generalize reader_pass R s.handshake s.conn s.clean_close buf = p at hvalid hs hclean
  unfold Sys.readerPassed
  split
  · obtain ⟨hd, hsent, hstays⟩ := reader_decide_signal p.failed status hs
      (fun h => (hclean h).1)
    exact inv_readerNext hvalid (fun h => (hclean h).2) hd hsent
      (fun h => hstays (hclean h).1)
  · exact ⟨hvalid, hs, hclean, fun h => absurd h (by simp)⟩

theorem inv_step {s s' : Sys C} {e : Event} (hi : Inv R valid s)
    (h : react R s e = some s') : Inv R valid s' := by
  cases moves_of_step h with
  | @emptyRead status hpc =>
      obtain ⟨hd, hsent, hstays⟩ := reader_status_signal status hi.signal
        (fun h => (hi.clean h).1)
      exact inv_readerNext hi.valid (fun h => (hi.clean h).2) hd hsent
        (fun h => hstays (hi.clean h).1)
  | read hpc => exact inv_readerPassed hR _ _ hi
  | consume hpc => exact ⟨hi.valid, hi.signal, hi.clean, fun h => absurd h (by simp)⟩
  | @decide e pending failed status hpc =>
      obtain ⟨hd, hsent, hstays⟩ := reader_decide_signal failed status hi.signal
        (fun h => (hi.clean h).1)
      exact inv_readerNext hi.valid (fun h => (hi.clean h).2) hd hsent
        (fun h => hstays (hi.clean h).1)
  | @cleartext status buf hpc hlen =>
      obtain ⟨hvalid, hs, hstays, hready⟩ := writer_pass_signal hR status buf hi.valid hi.signal
      exact ⟨hvalid, hs, fun h => ⟨hstays (hi.clean h).1, hready (hi.clean h).2⟩,
        fun h => hstays (hi.ended h)⟩
  | transmit => exact ⟨hi.valid, hi.signal, hi.clean, hi.ended⟩

/-- **`connect` and `accept` are signalled exactly once by the time the reader ends.** For
every connection that behaves as rustls documents, every input and every way it is cut,
every interleaving of the tasks, and a consumer and a transport that may go away. -/
theorem signal_is_sent_by_the_reader (c : C) (hc : valid c) (events : List Event) :
    Lts.Always (react R) (Signalled R) (Sys.init R c) events :=
  Lts.always_of_invariant (inv_init hR hc) (inv_step hR) signalled_of_inv

end Steps

/-- A transport that ends before the handshake completes: the signal carries the failure. -/
theorem lost_transport_is_signalled :
    let events : List Event := [.act (.cleartext .Complete [1, 2]), .act (.transport .Dropped [])]
    Lts.Always (react (NullTls.rustls NullTls.greeting))
        (Signalled (NullTls.rustls NullTls.greeting))
        (Sys.init (NullTls.rustls NullTls.greeting) (.fresh 1 [1])) events ∧
      ∃ s, Lts.run (react (NullTls.rustls NullTls.greeting))
          (Sys.init (NullTls.rustls NullTls.greeting) (.fresh 1 [1])) events = some s ∧
        s.handshake.sent = [.error "transport closed during handshake"] :=
  ⟨signal_is_sent_by_the_reader (NullTls.handshakes NullTls.greeting) (.fresh 1 [1])
      (NullTls.valid_fresh 1 [1]) _, _, rfl, rfl⟩

/-! ## The send direction after a failed handshake -/

/-- The handshake has failed: the reader, which alone feeds rustls, has ended before it
completed. -/
def HandshakeFailed (R : Rustls C) (s : Sys C) : Prop :=
  s.reader = .ended ∧ R.is_handshaking s.conn = true

/-- **A failed handshake fails the send direction**: its future has not resolved `Ok`. -/
def SendFails (R : Rustls C) (s : Sys C) : Prop :=
  HandshakeFailed R s → .ok () ∉ s.send_done

/-! ### What fails the handshake

A step fails the handshake when it ends the reader's loop before rustls has left it. Whether
a step does so is read off what the transport delivers and the reader's state before it. -/

/-- What ends the reader's loop behind a nonempty read: an error of `read_tls` or of
`process_new_packets`, a close of the peer, or the end of the transport. -/
def LoopEnds (failed : Option String) (clean_close : Bool) (status : StreamResult) : Prop :=
  failed ≠ none ∨ clean_close = true ∨ status.ends = true

/-- The step ends the reader's loop with the handshake unfinished. -/
def FailsHandshake (R : Rustls C) (s : Sys C) : Event → Prop
  | .act (.transport status buf) =>
      if buf = [] then status.ends = true ∧ R.is_handshaking s.conn = true
      else
        let p := reader_pass R s.handshake s.conn s.clean_close buf
        p.plaintext = [] ∧ LoopEnds p.failed p.clean_close status ∧
          R.is_handshaking p.conn = true
  | .act .written | .consumerGone =>
      match s.reader with
      | .writing _ failed status =>
          LoopEnds failed s.clean_close status ∧ R.is_handshaking s.conn = true
      | _ => False
  | _ => False

/-- The end of the transport ends the loop, and an empty read decides nothing else. -/
theorem reader_status_ends (h : Handshake) (clean_close : Bool) (status : StreamResult) :
    (reader_status h clean_close status).1 ≠ none ↔ status.ends = true := by
  unfold reader_status
  cases status.ends <;> cases clean_close <;> simp

/-- What the reader looks at after a nonempty read, in its order: the failure, the flag, the
transport. -/
theorem reader_decide_ends (h : Handshake) (failed : Option String) (clean_close : Bool)
    (status : StreamResult) :
    (reader_decide h failed clean_close status).1 ≠ none
      ↔ LoopEnds failed clean_close status := by
  unfold reader_decide LoopEnds
  cases failed with
  | some message => simp
  | none =>
      cases clean_close with
      | true => simp
      | false => simpa using reader_status_ends h false status

/-- The reader ends exactly with a verdict. -/
theorem readerNext_ended (s : Sys C) (next : Option Verdict × Handshake) :
    (s.readerNext next).reader = .ended ↔ next.1 ≠ none := by
  obtain ⟨_ | verdict, h⟩ := next <;> simp [Sys.readerNext]

/-- A nonempty read ends the reader exactly if it leaves nothing to write and decides. -/
theorem readerPassed_ended (s : Sys C) (p : Pass C) (status : StreamResult) :
    (s.readerPassed p status).reader = .ended
      ↔ p.plaintext = [] ∧ LoopEnds p.failed p.clean_close status := by
  unfold Sys.readerPassed
  by_cases hempty : p.plaintext = []
  · rw [if_pos hempty, readerNext_ended, reader_decide_ends]
    simp [hempty]
  · simp [hempty]

/-- **A step that is not the writer's fails the handshake exactly under
`FailsHandshake`**, if it had not failed before. -/
theorem handshakeFailed_of_react {s s' : Sys C} {e : Event} (h : react R s e = some s')
    (hnot : ∀ status buf, e ≠ .act (.cleartext status buf)) :
    HandshakeFailed R s' ↔ HandshakeFailed R s ∨ FailsHandshake R s e := by
  -- a decision of the reader leaves the connection alone
  have hdecide : ∀ {pending : List UInt8} {failed : Option String} {status : StreamResult},
      s.reader = .writing pending failed status →
      (HandshakeFailed R
          (s.readerNext (reader_decide s.handshake failed s.clean_close status))
        ↔ LoopEnds failed s.clean_close status ∧ R.is_handshaking s.conn = true) := by
    intro pending failed status hpc
    rw [HandshakeFailed, readerNext_ended, reader_decide_ends, Sys.readerNext_conn]
  have hidle : s.reader ≠ .ended → ¬ HandshakeFailed R s := fun hpc hfailed => hpc hfailed.1
  cases react_of_step h with
  | act h =>
      cases h with
      | @emptyRead status hpc =>
          rw [HandshakeFailed, readerNext_ended, reader_status_ends, Sys.readerNext_conn]
          simp [FailsHandshake, hidle (by simp [hpc])]
      | @read status buf hpc hne hlen =>
          have hconn : (s.readerPassed (reader_pass R s.handshake s.conn s.clean_close buf)
              status).conn = (reader_pass R s.handshake s.conn s.clean_close buf).conn := by
            obtain ⟨_, _, _, heq⟩ :=
              s.readerPassed_eq (reader_pass R s.handshake s.conn s.clean_close buf) status
            rw [heq]
          rw [HandshakeFailed, readerPassed_ended, hconn]
          simp [FailsHandshake, hne, hidle (by simp [hpc]), and_assoc]
      | consume hpc => simp [HandshakeFailed, FailsHandshake, hpc]
      | @written failed status hpc =>
          rw [hdecide hpc]
          simp [FailsHandshake, hpc, hidle (by simp [hpc])]
      | cleartext hpc hlen => exact absurd rfl (hnot _ _)
      | dequeue hpc hqueue => simp [HandshakeFailed, FailsHandshake]
      | close hpc hqueue hreader hwriter => simp [HandshakeFailed, FailsHandshake]
      | transmit hpc => simp [HandshakeFailed, FailsHandshake]
      | transmitted hpc => simp [HandshakeFailed, FailsHandshake]
  | @consumerGone pending failed status hpc =>
      rw [hdecide hpc]
      simp [FailsHandshake, hpc, hidle (by simp [hpc])]
  | transportGone hpc => simp [HandshakeFailed, FailsHandshake]

/-! ### When the close and the failure meet -/

/-- The monitor: whether the writer has read the end of its stream. A last read that
overflows rustls's early buffer fails the direction before its end counts. -/
def noteClose (R : Rustls C) (early : C → List UInt8) (s : Sys C) (e : Event) (_ : Sys C)
    (closed : Bool) : Bool :=
  match e with
  | .act (.cleartext status buf) =>
      closed || (status.ends && !decide (PumpSend.Overflows R early s.conn buf))
  | _ => closed

/-- The pump with the monitor beside it. -/
abbrev reactNoting (R : Rustls C) (early : C → List UInt8) :
    Sys C × Bool → Event → Option (Sys C × Bool) :=
  Lts.monitored (react R) (noteClose R early)

/-- The consumer's close and the failure of the handshake do not meet: the writer does not
read the end of its stream after the handshake has failed (unless that last read overflows
rustls's early buffer), and no step fails the handshake after the writer has read it. -/
def CloseApartFromFailure (R : Rustls C) (early : C → List UInt8) (x : Sys C × Bool) :
    Event → Prop
  | .act (.cleartext status buf) => status.ends = true → HandshakeFailed R x.1 →
      PumpSend.Overflows R early x.1.conn buf
  | e => x.2 = true → ¬ FailsHandshake R x.1 e

/-- The writer's books: `send_done` holds `Ok` exactly if the monitor has seen the close. -/
structure SendInv (R : Rustls C) (x : Sys C × Bool) : Prop where
  drained : x.1.writer = .reading → R.sendable_tls x.1.conn = []
  open_done : x.1.writer = .reading → x.1.send_done = []
  noted : x.2 = true ↔ .ok () ∈ x.1.send_done
  fails : SendFails R x.1

section SendFails

variable {early appdata : C → List UInt8} (hR : R.Sends early appdata)
include hR

/-- A pass of the writer does not move the handshake. -/
theorem writer_pass_handshaking {h : Handshake} {c : C} (status : StreamResult)
    {buf : List UInt8} (hdrained : R.sendable_tls c = []) (hlen : buf.length ≤ CHUNK) :
    R.is_handshaking (writer_pass R h c status buf).conn = R.is_handshaking c := by
  by_cases hover : PumpSend.Overflows R early c buf
  · -- the failed `write_all` was a sequence of early writes
    have herr := PumpSend.write_all_overflows hR hover
    have heq : write_all R c buf
        = (.error "failed to write whole buffer", (write_all R c buf).2) := by rw [← herr]
    have hkeep : R.is_handshaking (write_all R c buf).2 = true :=
      write_all_keeps (P := fun c' => R.is_handshaking c' = true)
        (fun c' buf' hc' => (hR.write_early c' buf' hc').2.2.2.1) buf hover.1
    rw [writer_pass, if_neg hover.2.1, heq, hover.1]
    exact hkeep
  · exact (PumpSend.writer_pass_fits hR h status hover hdrained hlen).2.1

/-- A pass of the writer reports `Ok` exactly at the end of a stream whose last read fits.
This is the step where the close and the failure meet, and the writer looks at neither
handshake nor reader. -/
theorem writer_pass_ok {h : Handshake} {c : C} (status : StreamResult) {buf : List UInt8}
    (hdrained : R.sendable_tls c = []) (hlen : buf.length ≤ CHUNK) :
    (writer_pass R h c status buf).verdict = some (.ok ()) ↔
      status.ends = true ∧ ¬ PumpSend.Overflows R early c buf := by
  by_cases hover : PumpSend.Overflows R early c buf
  · rw [(PumpSend.writer_pass_overflows hR h status hover).1]
    simp [hover]
  · rw [(PumpSend.writer_pass_fits hR h status hover hdrained hlen).2.2.2.1]
    simp [hover]

/-- The verdict of the writer's read, as the monitor sees it: with the books of the state
before, `Ok` has been written exactly if the monitor has seen the close. -/
theorem noted_of_cleartext {x : Sys C × Bool} (status : StreamResult) {buf : List UInt8}
    (hi : SendInv R x) (hpc : x.1.writer = .reading) (hlen : buf.length ≤ CHUNK) :
    let pass := writer_pass R x.1.handshake x.1.conn status buf
    (x.1.writerPassed pass buf).send_done = pass.verdict.toList ∧
    (noteClose R early x.1 (.act (.cleartext status buf)) (x.1.writerPassed pass buf) x.2 = true
      ↔ .ok () ∈ (x.1.writerPassed pass buf).send_done) := by
  intro pass
  have hdone : (x.1.writerPassed pass buf).send_done = pass.verdict.toList := by
    rw [Sys.writerPassed, hi.open_done hpc, List.nil_append]
  refine ⟨hdone, ?_⟩
  -- the writer was still reading, so no close had been seen
  have hopen : x.2 = false := by
    rw [← Bool.not_eq_true, hi.noted, hi.open_done hpc]
    exact List.not_mem_nil
  rw [hdone, Option.mem_toList,
    writer_pass_ok hR status (hi.drained hpc) hlen]
  simp [noteClose, hopen]

/-- Nothing was read yet, and the reader is there. -/
theorem sendInv_init (c : C) : SendInv R (Sys.init R c, false) :=
  ⟨fun _ => (PumpSend.drain_spec hR c).2, fun _ => rfl, by simp [Sys.init],
    fun hfailed => absurd hfailed.1 (by simp [Sys.init])⟩

theorem sendInv_step {x x' : Sys C × Bool} {e : Event} (hi : SendInv R x)
    (hc : CloseApartFromFailure R early x e) (h : reactNoting R early x e = some x') :
    SendInv R x' := by
  obtain ⟨s', hreact, rfl⟩ := Lts.monitored_eq_some.mp h
  rcases PumpSend.react_frame_or_cleartext hR hreact with
    ⟨hf, hnot⟩ | ⟨status, buf, rfl, hpc, hlen, rfl⟩
  · have hnote : noteClose R early x.1 e s' x.2 = x.2 := by
      unfold noteClose
      split
      · exact absurd rfl (hnot _ _)
      · rfl
    refine ⟨fun hpc => ?_, fun hpc => ?_, ?_, fun hfailed hok => ?_⟩
    · exact hf.drained (hi.drained (hf.writer.symm.trans hpc))
    · exact hf.send_done.trans (hi.open_done (hf.writer.symm.trans hpc))
    · show noteClose R early x.1 e s' x.2 = true ↔ .ok () ∈ s'.send_done
      rw [hnote, hf.send_done]
      exact hi.noted
    · have hok' : .ok () ∈ x.1.send_done := hf.send_done ▸ hok
      rcases (handshakeFailed_of_react hreact hnot).mp hfailed with hbefore | hnow
      · exact hi.fails hbefore hok'
      · -- the condition speaks of this step: it is not the writer's
        unfold CloseApartFromFailure at hc
        split at hc
        · exact absurd rfl (hnot _ _)
        · exact hc (hi.noted.mpr hok') hnow
  · have hempty := hi.drained hpc
    obtain ⟨hdone, hnoted⟩ := noted_of_cleartext hR status hi hpc hlen
    -- the writer reads on only after a pass without a verdict
    have hon : (x.1.writerPassed (writer_pass R x.1.handshake x.1.conn status buf) buf).writer
        = .reading → (writer_pass R x.1.handshake x.1.conn status buf).verdict = none := by
      intro hpc'
      by_contra hsome
      rw [Sys.writerPassed, if_pos (Option.isSome_iff_ne_none.mpr hsome)] at hpc'
      exact absurd hpc' (by simp)
    refine ⟨fun hpc' => ?_, fun hpc' => ?_, hnoted, fun hfailed hok => ?_⟩
    · by_cases hover : PumpSend.Overflows R early x.1.conn buf
      · have hnone := hon hpc'
        rw [(PumpSend.writer_pass_overflows hR x.1.handshake status hover).1] at hnone
        exact absurd hnone (by simp)
      · exact (PumpSend.writer_pass_fits hR x.1.handshake status hover hempty hlen).2.2.1
    · rw [hdone, hon hpc', Option.toList_none]
    · rw [hdone, Option.mem_toList, writer_pass_ok hR status hempty hlen] at hok
      have hfailed' : HandshakeFailed R x.1 := by
        refine ⟨hfailed.1, ?_⟩
        rw [← writer_pass_handshaking hR (h := x.1.handshake) status hempty hlen]
        exact hfailed.2
      exact hok.2 (hc hok.1 hfailed')

/-- A step outside the condition leaves a failed handshake beside an `Ok`: the writer's, if
the failure was there first, and the reader's, if the close was. -/
theorem not_sendFails_of_step {x x' : Sys C × Bool} {e : Event} (hi : SendInv R x)
    (hc : ¬ CloseApartFromFailure R early x e) (h : reactNoting R early x e = some x') :
    ¬ SendFails R x'.1 := by
  obtain ⟨s', hreact, rfl⟩ := Lts.monitored_eq_some.mp h
  intro hfails
  rcases PumpSend.react_frame_or_cleartext hR hreact with
    ⟨hf, hnot⟩ | ⟨status, buf, rfl, hpc, hlen, rfl⟩
  · apply hc
    unfold CloseApartFromFailure
    split
    · exact absurd rfl (hnot _ _)
    · intro hclosed hnow
      apply hfails ((handshakeFailed_of_react hreact hnot).mpr (.inr hnow))
      show .ok () ∈ s'.send_done
      rw [hf.send_done]
      exact hi.noted.mp hclosed
  · have hempty := hi.drained hpc
    apply hc
    intro hends hfailed
    by_contra hover
    have hok := (writer_pass_ok hR (h := x.1.handshake) status hempty hlen).mpr ⟨hends, hover⟩
    apply hfails
    · refine ⟨hfailed.1, ?_⟩
      exact (writer_pass_handshaking hR status hempty hlen).trans hfailed.2
    · show .ok () ∈ (x.1.writerPassed _ buf).send_done
      rw [Sys.writerPassed, hok]
      simp

/-- **A failed handshake fails the send direction -- exactly when the consumer's close and
the failure do not meet.** For every connection that behaves as rustls documents, every
input, every interleaving, and a consumer and a transport that may go away. -/
theorem send_fails_with_handshake_iff (c : C) (events : List Event) :
    Lts.Always (react R) (SendFails R) (Sys.init R c) events
      ↔ Lts.Steps (reactNoting R early) (CloseApartFromFailure R early) (Sys.init R c, false)
          events :=
  (Lts.always_monitored false).symm.trans <| Lts.always_iff_steps (sendInv_init hR c)
    (sendInv_step hR) (fun hi => hi.fails) (not_sendFails_of_step hR)

end SendFails

/-- A consumer that closes only after the handshake, and a transport that ends after it. -/
theorem late_close_keeps_the_verdicts_apart :
    Lts.Always (react (NullTls.rustls NullTls.greeting))
      (SendFails (NullTls.rustls NullTls.greeting))
      (Sys.init (NullTls.rustls NullTls.greeting) (.fresh 1 [1]))
      [.act (.transport .Complete [2]), .act (.cleartext .Dropped []),
        .act (.transport .Dropped [])] := by
  refine (send_fails_with_handshake_iff (NullTls.sends NullTls.greeting) (.fresh 1 [1])
    _).mpr ?_
  rw [Lts.steps_cons_of_step _ rfl, Lts.steps_cons_of_step _ rfl, Lts.steps_cons_of_step _ rfl]
  refine ⟨fun hclosed => absurd hclosed (by decide), fun _ hfailed => ?_,
    fun _ hfails => ?_, trivial⟩
  · exact absurd hfailed.1 (by decide)
  · exact absurd hfails.2 (by decide)

/-- The transport is lost during the handshake, and then the consumer closes its stream:
the receive direction and `connect` fail, and the send direction reports success. -/
theorem close_after_failed_handshake_succeeds :
    ¬ Lts.Always (react (NullTls.rustls NullTls.greeting))
      (SendFails (NullTls.rustls NullTls.greeting))
      (Sys.init (NullTls.rustls NullTls.greeting) (.fresh 1 [1]))
      [.act (.transport .Dropped []), .act (.cleartext .Dropped [])] := by
  have hrun : ∃ s, Lts.run (react (NullTls.rustls NullTls.greeting))
        (Sys.init (NullTls.rustls NullTls.greeting) (.fresh 1 [1]))
        [.act (.transport .Dropped []), .act (.cleartext .Dropped [])] = some s
      ∧ s.reader = .ended ∧ s.conn.is_handshaking = true ∧ s.send_done = [.ok ()] :=
    ⟨_, rfl, rfl, rfl, rfl⟩
  obtain ⟨s, hrun, hended, hhand, hdone⟩ := hrun
  refine Lts.not_always_of_run hrun fun hfails => ?_
  apply hfails ⟨hended, hhand⟩
  rw [hdone]
  exact List.mem_singleton_self _

end PolymorphTls.PumpHandshake

/-
Two rustls connections and what one may rely on about the other.

`Rustls.lean` says what a single connection does with arbitrary input. When the input is
the other end's output, TLS promises more: what is decrypted is what was encrypted, from
the beginning and without a gap, and a close that is received is a close that was sent
behind exactly that data. Both promises are stated over a relation `Linked a b n`: the
connection `b` has been fed the first `n` bytes of the output of `a`, and nothing else.

The network stays out of the laws. It may deliver as little of the output as it likes; what
it cannot do is deliver something else, which the record protection rules out.

The last section says what the pump's functions keep of a property that the single rustls
calls keep.
-/
import PolymorphTls.Pump

set_option autoImplicit false

namespace PolymorphTls

namespace Rustls

variable {C : Type} (R : Rustls C)

/-- How `read_tls` takes input: bytes of the cursor, at least one of them until the peer
has closed. -/
structure Takes (closed : C → Bool) : Prop where
  at_most : ∀ c cursor k, (R.read_tls c cursor).1 = .ok k → k ≤ cursor.length
  /-- `Ok(0)` for a nonempty cursor is the end of the stream. -/
  none_closed : ∀ c cursor, cursor ≠ [] → (R.read_tls c cursor).1 = .ok 0 → closed c = true

/-- Our own close. `finished` is the application data encrypted before `close_notify`, once
it has been sent. -/
structure Finishes (appdata : C → List UInt8) (finished : C → Option (List UInt8)) : Prop where
  read_tls_keeps : ∀ c cursor, finished (R.read_tls c cursor).2 = finished c
  process_keeps : ∀ c, finished (R.process_new_packets c).2 = finished c
  read_keeps : ∀ c size, finished (R.read c size).2 = finished c
  write_keeps : ∀ c buf, finished (R.write c buf).2 = finished c
  write_tls_keeps : ∀ c, finished (R.write_tls c).2 = finished c
  close_records : ∀ c, finished c = none → finished (R.send_close_notify c) = some (appdata c)

/-- The bytes a `read_tls` has moved; a failing one moves none, so the caller's cursor tells
how far the channel has got. -/
def moved : Except String ℕ → ℕ
  | .ok k => k
  | .error _ => 0

section Channel

variable (produced appdata decrypted : C → List UInt8) (closed : C → Bool)
  (finished : C → Option (List UInt8))

/-- The channel from one connection to another. `Linked a b n` says that `b` has been fed
the first `n` bytes of what `a` produced, and `processed b` that no complete record waits
in its deframer. -/
structure Channel (Linked : C → C → ℕ → Prop) (processed : C → Prop) : Prop where
  /-- What the sender does next is appended to its output. -/
  sender : ∀ {a a' b n}, Linked a b n → R.Call a a' → Linked a' b n
  /-- The receiver reads on where it stopped. -/
  reads : ∀ {a b n cursor}, Linked a b n → cursor <+: (produced a).drop n →
    Linked a (R.read_tls b cursor).2 (n + moved (R.read_tls b cursor).1)
  process : ∀ {a b n}, Linked a b n → Linked a (R.process_new_packets b).2 n
  read : ∀ {a b n} size, Linked a b n → Linked a (R.read b size).2 n
  write : ∀ {a b n} buf, Linked a b n → Linked a (R.write b buf).2 n
  write_tls : ∀ {a b n}, Linked a b n → Linked a (R.write_tls b).2 n
  close : ∀ {a b n}, Linked a b n → Linked a (R.send_close_notify b) n
  process_processed : ∀ {b x}, (R.process_new_packets b).1 = .ok x →
    processed (R.process_new_packets b).2
  read_processed : ∀ {b} size, processed b → processed (R.read b size).2
  write_processed : ∀ {b} buf, processed b → processed (R.write b buf).2
  write_tls_processed : ∀ {b}, processed b → processed (R.write_tls b).2
  close_processed : ∀ {b}, processed b → processed (R.send_close_notify b)
  /-- What is decrypted was encrypted, from the beginning and without a gap. -/
  authentic : ∀ {a b n}, Linked a b n → decrypted b <+: appdata a
  /-- A close that is received was sent, behind exactly what was decrypted. -/
  close_authentic : ∀ {a b n}, Linked a b n → closed b = true → finished a = some (decrypted b)

/-- What all output, processed, amounts to: all data, and the close if it was asked for after
the handshake. A close that was asked for in the middle of the handshake is not
authenticated, and rustls does not take it for the end of the stream. -/
structure Arrives (Linked : C → C → ℕ → Prop) (processed : C → Prop) : Prop where
  data : ∀ {a b}, Linked a b (produced a).length → processed b → finished a = none →
    decrypted b = appdata a
  close : ∀ {c a b}, R.is_handshaking c = false → finished c = none →
    Pump.Calls R (R.send_close_notify c) a → Linked a b (produced a).length → processed b →
    closed b = true

/-- Two connections that have been fed all of each other's output, and have processed it,
have completed their handshake: no flight is left to be sent, and a disagreement would have
been an error of `process_new_packets`. -/
structure Meets (Linked : C → C → ℕ → Prop) (processed : C → Prop) : Prop where
  completes : ∀ {a b}, Linked a b (produced a).length → Linked b a (produced b).length →
    processed a → processed b → R.is_handshaking a = false

end Channel

end Rustls

namespace Pump

/-! ## What the tasks keep -/

section Keeps

variable {C : Type} {R : Rustls C} {P : C → Prop}

/-- What `read` keeps, the plaintext loop keeps. Stated over any property of connections,
since the laws of the channel come one call at a time. -/
theorem readLoop_keeps (hread : ∀ c size, P c → P (R.read c size).2) (n : ℕ) (c : C)
    (hc : P c) : P (readLoop R n c).2 := by
  induction n generalizing c with
  | zero => exact hc
  | succ n ih =>
      have hnext := hread c CHUNK hc
      unfold readLoop
      split
      case h_1 heq => rwa [heq] at hnext
      case h_2 heq =>
          rw [heq] at hnext
          exact ih _ hnext
      case h_3 heq => rwa [heq] at hnext

/-- What the reader's calls keep, its loop over one read keeps. -/
theorem feedLoop_keeps (hread : ∀ c cursor, P c → P (R.read_tls c cursor).2)
    (hproc : ∀ c, P c → P (R.process_new_packets c).2)
    (hwrite : ∀ c, P c → P (R.write_tls c).2) (n : ℕ) (cursor : List UInt8) (f : Feed C)
    (hf : P f.conn) : P (feedLoop R n cursor f).conn := by
  induction n generalizing cursor f with
  | zero => exact hf
  | succ n ih =>
      have hfed := hread f.conn cursor hf
      unfold feedLoop
      split
      · exact hf
      · split
        case h_1 heq => rwa [heq] at hfed
        case h_2 heq => rwa [heq] at hfed
        case h_3 k c _ heq =>
            rw [heq] at hfed
            have hdone := hproc c hfed
            split
            case h_1 b c' heq' =>
                rw [heq'] at hdone
                exact ih (cursor.drop k)
                  { f with
                    conn := (drain_tls_writes R c').2
                    sent := f.sent ++ (drain_tls_writes R c').1
                    clean_close := f.clean_close || b } (drain_keeps hwrite hdone)
            case h_2 e c' heq' =>
                rw [heq'] at hdone
                exact drain_keeps hwrite hdone

/-- The reader's pass is its loop, the plaintext loop and the drains. -/
theorem reader_pass_keeps (hread_tls : ∀ c cursor, P c → P (R.read_tls c cursor).2)
    (hproc : ∀ c, P c → P (R.process_new_packets c).2)
    (hwrite : ∀ c, P c → P (R.write_tls c).2) (hread : ∀ c size, P c → P (R.read c size).2)
    (h : Handshake) {c : C} (clean_close : Bool) (buf : List UInt8) (hc : P c) :
    P (reader_pass R h c clean_close buf).conn := by
  have hfed := feedLoop_keeps hread_tls hproc hwrite buf.length buf
    ⟨c, [], clean_close, none⟩ hc
  unfold reader_pass
  generalize feedLoop R buf.length buf ⟨c, [], clean_close, none⟩ = f at hfed
  exact readLoop_keeps hread _ f.conn hfed

/-- The end of the writer's pass closes or leaves alone. -/
theorem writer_status_keeps (hwrite : ∀ c, P c → P (R.write_tls c).2)
    (hclose : ∀ c, P c → P (R.send_close_notify c)) (p : WriterPass C)
    (status : StreamResult) (hp : P p.conn) : P (writer_status R p status).conn := by
  unfold writer_status
  split
  · exact drain_keeps hwrite (hclose p.conn hp)
  · exact hp

/-- The writer's pass is one `write_all`, the drains, and its end. -/
theorem writer_pass_preserves (hput : ∀ c buf, P c → P (R.write c buf).2)
    (hwrite : ∀ c, P c → P (R.write_tls c).2)
    (hclose : ∀ c, P c → P (R.send_close_notify c)) (h : Handshake) {c : C}
    (status : StreamResult) (buf : List UInt8) (hc : P c) :
    P (writer_pass R h c status buf).conn := by
  have hall := write_all_keeps hput buf hc
  unfold writer_pass
  split
  · exact writer_status_keeps hwrite hclose ⟨c, [], h, none, none⟩ status hc
  · split
    case h_1 heq => rwa [heq] at hall
    case h_2 c' heq =>
        rw [heq] at hall
        have hdrained := drain_keeps hwrite hall
        exact writer_status_keeps hwrite hclose
          ⟨(drain_tls_writes R c').2, (drain_tls_writes R c').1,
            h.check R (drain_tls_writes R c').2, none, none⟩ status hdrained

end Keeps

/-- A step leaves a connection that is reached by calls. -/
theorem react_calls {C : Type} {R : Rustls C} {s s' : Sys C} {e : Event}
    (h : react R s e = some s') : Calls R s.conn s'.conn := by
  cases moves_of_step h with
  | emptyRead hpc => rw [Sys.readerNext_conn]
  | @read status buf hpc =>
      obtain ⟨hfed, hread⟩ := reader_pass_calls (R := R) s.handshake s.conn s.clean_close buf
      obtain ⟨_, _, _, heq⟩ :=
        s.readerPassed_eq (reader_pass R s.handshake s.conn s.clean_close buf) status
      rw [heq]
      exact hfed.trans hread
  | consume hpc => exact .refl
  | decide hpc => rw [Sys.readerNext_conn]
  | cleartext hpc hlen =>
      obtain ⟨c₁, hto, hfrom, -⟩ := writer_pass_calls (R := R) s.handshake s.conn _ _
      exact hto.trans hfrom
  | transmit => exact .refl

end Pump

end PolymorphTls

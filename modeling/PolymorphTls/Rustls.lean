/-
The rustls connection the pump drives (`rustls::Connection`, version 0.23), as a
parameter.

rustls is not part of the repository, so its connection is a type `C` with the
operations `component/src/pump.rs` calls. What the pump relies on is stated as groups of
laws, each the documented behaviour of one side of the connection:

* [`Rustls.Receives`] -- decryption, `close_notify` and the plaintext reader, for
  arbitrary input;
* [`Rustls.Sends`] -- buffering before the handshake completes, encryption after it, and
  the output buffer;
* [`Rustls.Outputs`] -- the order in which TLS output is produced and moved out;
* [`Rustls.Handshakes`] -- that a completed handshake stays completed, and comes before
  any close;
* [`Rustls.Accepts`] -- the deframer's partial reads and the plaintext limit, while a
  correct peer's records arrive.

No law mentions what the pump does with an operation's result.
-/
import PolymorphTls.StreamState

set_option autoImplicit false

namespace PolymorphTls

/-- The `std::io::ErrorKind`s `reader().read` can return. The reader tells exactly one of
them from the rest. -/
inductive ErrorKind where
  | WouldBlock
  | UnexpectedEof
  | Other
  deriving DecidableEq, Repr

/-- The variants of `rustls::Connection`. -/
inductive Side where
  | Client
  | Server
  deriving DecidableEq, Repr

/-- `rustls::Connection`. Every operation returns the connection it leaves, also when it
fails. -/
structure Rustls (C : Type) where
  side : C → Side
  is_handshaking : C → Bool
  alpn_protocol : C → Option (List UInt8)
  /-- `ServerConnection::server_name`, the SNI; only asked of a server connection. -/
  server_name : C → Option String
  wants_write : C → Bool
  /-- The bytes moved into the writer. -/
  write_tls : C → Except String (List UInt8) × C
  /-- How many bytes of the cursor were moved into the deframer's buffer. -/
  read_tls : C → List UInt8 → Except String ℕ × C
  /-- On success, `io_state.peer_has_closed()`. -/
  process_new_packets : C → Except String Bool × C
  /-- `reader().read` into a buffer of the given size. -/
  read : C → ℕ → Except ErrorKind (List UInt8) × C
  /-- `writer().write`: how many bytes were taken. -/
  write : C → List UInt8 → Except String ℕ × C
  send_close_notify : C → C
  /-- The decrypted plaintext not read yet. -/
  received_plaintext : C → List UInt8
  /-- The TLS output not written yet. -/
  sendable_tls : C → List UInt8

namespace Rustls

variable {C : Type}

/-- rustls's default limit on buffered plaintext and on undrained TLS output. The repository
never calls `set_buffer_limit`, so the default is what holds. -/
def BUFFER_LIMIT : ℕ := 65536

/-- The most unread plaintext with which `read_tls` still takes input. Past it the call
fails, and the reader takes that for a failure of the transport. -/
def RECEIVED_PLAINTEXT_LIMIT : ℕ := 16384

/-! ## Receiving -/

section Receiving

variable (R : Rustls C) (decrypted : C → List UInt8) (closed : C → Bool)

/-- Nothing was decrypted or read, and no `close_notify` arrived, from `c` to `c'`: the
frame condition of the receive side. -/
def SameReceived (c c' : C) : Prop :=
  decrypted c' = decrypted c ∧ R.received_plaintext c' = R.received_plaintext c ∧
    closed c' = closed c

/-- The receive side. `decrypted` is all plaintext decrypted so far, and `closed` whether
an authenticated `close_notify` has been received. -/
structure Receives : Prop where
  read_tls_keeps : ∀ c cursor, R.SameReceived decrypted closed c (R.read_tls c cursor).2
  write_tls_keeps : ∀ c, R.SameReceived decrypted closed c (R.write_tls c).2
  write_keeps : ∀ c buf, R.SameReceived decrypted closed c (R.write c buf).2
  close_keeps : ∀ c, R.SameReceived decrypted closed c (R.send_close_notify c)
  /-- What is decrypted becomes readable; a failing call releases nothing of the record
  it failed on. -/
  process_releases : ∀ c, ∃ new, decrypted (R.process_new_packets c).2 = decrypted c ++ new ∧
    R.received_plaintext (R.process_new_packets c).2 = R.received_plaintext c ++ new
  process_closed : ∀ c, closed c = true → closed (R.process_new_packets c).2 = true
  peer_has_closed : ∀ c b, (R.process_new_packets c).1 = .ok b →
    b = closed (R.process_new_packets c).2
  read_some : ∀ c size, R.received_plaintext c ≠ [] → 0 < size →
    ∃ bytes, bytes ≠ [] ∧ (R.read c size).1 = .ok bytes ∧
      R.received_plaintext c = bytes ++ R.received_plaintext (R.read c size).2 ∧
      decrypted (R.read c size).2 = decrypted c ∧ closed (R.read c size).2 = closed c
  /-- `Ok(0)` exactly when `close_notify` has been received, except into an empty buffer. -/
  read_none : ∀ c size, R.received_plaintext c = [] → 0 < size →
    ((R.read c size).1 = .ok [] ∧ closed c = true ∨
      (∃ e, (R.read c size).1 = .error e) ∧ closed c = false) ∧
    R.SameReceived decrypted closed c (R.read c size).2

end Receiving

/-! ## Sending -/

section Sending

variable (R : Rustls C) (early appdata : C → List UInt8)

/-- The plaintext on the send side did not move from `c` to `c'`: the frame condition of the
send side. -/
def SameSent (c c' : C) : Prop :=
  early c' = early c ∧ appdata c' = appdata c ∧ R.is_handshaking c' = R.is_handshaking c

/-- The send side. `early` is the plaintext buffered because the handshake has not
completed, and `appdata` all plaintext turned into application-data records so far. -/
structure Sends : Prop where
  flushed : ∀ c, R.is_handshaking c = false → early c = []
  read_tls_keeps : ∀ c cursor, R.SameSent early appdata c (R.read_tls c cursor).2 ∧
    R.sendable_tls (R.read_tls c cursor).2 = R.sendable_tls c
  read_keeps : ∀ c size, R.SameSent early appdata c (R.read c size).2 ∧
    R.sendable_tls (R.read c size).2 = R.sendable_tls c
  write_tls_keeps : ∀ c, R.SameSent early appdata c (R.write_tls c).2
  close_keeps : ∀ c, R.SameSent early appdata c (R.send_close_notify c)
  /-- Completing the handshake encrypts what was buffered, first. -/
  process_flushes : ∀ c, appdata (R.process_new_packets c).2 ++ early (R.process_new_packets c).2
    = appdata c ++ early c
  wants_write_iff : ∀ c, R.wants_write c = true ↔ R.sendable_tls c ≠ []
  /-- `write_tls` into a `Vec` moves output and does not fail. -/
  write_tls_moves : ∀ c, R.wants_write c = true → ∃ bytes, bytes ≠ [] ∧
    (R.write_tls c).1 = .ok bytes ∧
    R.sendable_tls c = bytes ++ R.sendable_tls (R.write_tls c).2
  /-- Before the handshake completes plaintext is buffered, up to the limit. -/
  write_early : ∀ c buf, R.is_handshaking c = true →
    (R.write c buf).1 = .ok (min buf.length (BUFFER_LIMIT - (early c).length)) ∧
    early (R.write c buf).2
      = early c ++ buf.take (min buf.length (BUFFER_LIMIT - (early c).length)) ∧
    appdata (R.write c buf).2 = appdata c ∧
    R.is_handshaking (R.write c buf).2 = true ∧
    R.sendable_tls (R.write c buf).2 = R.sendable_tls c
  /-- After it, plaintext is encrypted at once, up to the limit on undrained output. -/
  write_ready : ∀ c buf, R.is_handshaking c = false →
    (R.write c buf).1 = .ok (min buf.length (BUFFER_LIMIT - (R.sendable_tls c).length)) ∧
    appdata (R.write c buf).2
      = appdata c ++ buf.take (min buf.length (BUFFER_LIMIT - (R.sendable_tls c).length)) ∧
    R.is_handshaking (R.write c buf).2 = false

end Sending

/-! ## Output -/

section Output

variable (R : Rustls C) (produced : C → List UInt8)

/-- From `c` to `c'` rustls produced the output `new`, behind what was still pending. -/
def Emits (new : List UInt8) (c c' : C) : Prop :=
  produced c' = produced c ++ new ∧ R.sendable_tls c' = R.sendable_tls c ++ new

/-- The output side. `produced` is all TLS output since the connection was created. -/
structure Outputs : Prop where
  read_tls_emits : ∀ c cursor, R.Emits produced [] c (R.read_tls c cursor).2
  read_emits : ∀ c size, R.Emits produced [] c (R.read c size).2
  process_emits : ∀ c, ∃ new, R.Emits produced new c (R.process_new_packets c).2
  write_emits : ∀ c buf, ∃ new, R.Emits produced new c (R.write c buf).2
  close_emits : ∀ c, ∃ new, R.Emits produced new c (R.send_close_notify c)
  /-- Moving output out is not producing it. -/
  write_tls_keeps : ∀ c, produced (R.write_tls c).2 = produced c

end Output

/-! ## The handshake -/

/-- One call that may change the connection. -/
inductive Call (R : Rustls C) (c : C) : C → Prop where
  | read_tls (cursor : List UInt8) : Call R c (R.read_tls c cursor).2
  | process_new_packets : Call R c (R.process_new_packets c).2
  | read (size : ℕ) : Call R c (R.read c size).2
  | write (buf : List UInt8) : Call R c (R.write c buf).2
  | write_tls : Call R c (R.write_tls c).2
  | send_close_notify : Call R c (R.send_close_notify c)

/-- The handshake. `valid` are the connections rustls can be in. A completed handshake
stays completed with what it negotiated, and the peer's close is reported only after
it. -/
structure Handshakes (R : Rustls C) (valid : C → Prop) : Prop where
  valid_call : ∀ {c c'}, R.Call c c' → valid c → valid c'
  completed : ∀ {c c'}, R.Call c c' → valid c → R.is_handshaking c = false →
    R.is_handshaking c' = false ∧ R.alpn_protocol c' = R.alpn_protocol c ∧
      R.server_name c' = R.server_name c ∧ R.side c' = R.side c
  /-- Reading plaintext does not advance the handshake. -/
  read_keeps : ∀ c size, R.is_handshaking (R.read c size).2 = R.is_handshaking c
  peer_has_closed : ∀ {c}, valid c → (R.process_new_packets c).1 = .ok true →
    R.is_handshaking (R.process_new_packets c).2 = false
  clean_eof : ∀ {c size}, valid c → 0 < size → (R.read c size).1 = .ok [] →
    R.is_handshaking c = false

end Rustls

/-! ## A correct peer's stream -/

/-- A TLS record on its way: its bytes on the wire and the application data in it. The
handshake's records and tickets have none. -/
structure Record where
  wire : List UInt8
  plain : List UInt8
  deriving DecidableEq

/-- The bytes of a sequence of records. -/
def wireOf (records : List Record) : List UInt8 := (records.map Record.wire).flatten

/-- The application data of a sequence of records. -/
def plainOf (records : List Record) : List UInt8 := (records.map Record.plain).flatten

/-- The application data of the records that are complete within the first `p` bytes. A
record cut short gives nothing: its tag cannot be checked yet. -/
def plainUpTo : List Record → ℕ → List UInt8
  | [], _ => []
  | r :: rs, p => if r.wire.length ≤ p then r.plain ++ plainUpTo rs (p - r.wire.length) else []

/-- How the deframer's buffer takes input: how many bytes it has room for, and what it
becomes when it takes some and the complete records in it are processed. -/
structure Deframer (D : Type) where
  room : D → ℕ
  take : D → ℕ → D

/-- What a correct peer sends after the handshake: application data, closed by
`close_notify`. -/
structure PeerStream where
  records : List Record
  close_notify : List UInt8
  data : ∀ r ∈ records, 1 ≤ r.plain.length ∧ r.plain.length ≤ 16384 ∧ r.wire ≠ []
  close_ne : close_notify ≠ []

/-- What it puts on the wire. -/
def PeerStream.wire (s : PeerStream) : List UInt8 := wireOf s.records ++ s.close_notify

/-- More bytes complete more records, and take none back. -/
theorem plainUpTo_prefix (records : List Record) {p q : ℕ} (hpq : p ≤ q) :
    plainUpTo records p <+: plainUpTo records q := by
  induction records generalizing p q with
  | nil => exact List.prefix_refl _
  | cons r rs ih =>
      by_cases hp : r.wire.length ≤ p
      · have hq : r.wire.length ≤ q := Nat.le_trans hp hpq
        rw [plainUpTo, plainUpTo, if_pos hp, if_pos hq, List.prefix_append_right_inj]
        exact ih (Nat.sub_le_sub_right hpq _)
      · rw [plainUpTo, if_neg hp]
        exact List.nil_prefix

/-- The whole stream is complete at its end. -/
theorem plainUpTo_all (records : List Record) {p : ℕ} (hp : (wireOf records).length ≤ p) :
    plainUpTo records p = plainOf records := by
  induction records generalizing p with
  | nil => rfl
  | cons r rs ih =>
      have hwire : (wireOf (r :: rs)).length = r.wire.length + (wireOf rs).length := by
        simp [wireOf]
      rw [plainUpTo, if_pos (by omega), ih (by omega)]
      simp [plainOf]

/-- Nothing is complete before the first byte. -/
theorem PeerStream.plainUpTo_zero (s : PeerStream) : plainUpTo s.records 0 = [] := by
  have hdata := s.data
  generalize s.records = records at hdata
  cases records with
  | nil => rfl
  | cons r rs =>
      obtain ⟨-, -, hwire⟩ := hdata r List.mem_cons_self
      have hpos : 0 < r.wire.length := List.length_pos_iff.mpr hwire
      rw [plainUpTo, if_neg (by omega)]

/-- There is at least the close. -/
theorem PeerStream.wire_length_pos (s : PeerStream) : 0 < s.wire.length := by
  have hpos : 0 < s.close_notify.length := List.length_pos_iff.mpr s.close_ne
  rw [PeerStream.wire, List.length_append]
  omega

namespace Rustls

/-- The receive side while the peer's stream arrives. `At c p unread d`: the first `p`
bytes of the stream have been taken and processed, `unread` of their plaintext has not
been read, and the deframer is in state `d`. -/
structure Accepts {C D : Type} (R : Rustls C) (F : Deframer D) (stream : PeerStream)
    (At : C → ℕ → List UInt8 → D → Prop) : Prop where
  received : ∀ {c p unread d}, At c p unread d → R.received_plaintext c = unread
  room_pos : ∀ d, 1 ≤ F.room d
  /-- Too much unread plaintext: no input is taken. -/
  read_tls_full : ∀ {c p unread d}, At c p unread d →
    RECEIVED_PLAINTEXT_LIMIT < unread.length → ∀ cursor,
    (R.read_tls c cursor).1 = .error "received plaintext buffer full"
  /-- Otherwise what fits is taken, and processing it decrypts every record that is then
  complete. -/
  read_tls_takes : ∀ {c p unread d}, At c p unread d →
    unread.length ≤ RECEIVED_PLAINTEXT_LIMIT → ∀ cursor, cursor ≠ [] →
    cursor <+: stream.wire.drop p →
    ∃ c₁ c₂ new, R.read_tls c cursor = (.ok (min cursor.length (F.room d)), c₁) ∧
      R.process_new_packets c₁
        = (.ok (decide (p + min cursor.length (F.room d) = stream.wire.length)), c₂) ∧
      plainUpTo stream.records (p + min cursor.length (F.room d))
        = plainUpTo stream.records p ++ new ∧
      At c₂ (p + min cursor.length (F.room d)) (unread ++ new)
        (F.take d (min cursor.length (F.room d)))
  write_tls_keeps : ∀ {c p unread d}, At c p unread d → At (R.write_tls c).2 p unread d
  read_some : ∀ {c p unread d} size, At c p unread d → unread ≠ [] → 0 < size →
    ∃ bytes rest, bytes ≠ [] ∧ unread = bytes ++ rest ∧ (R.read c size).1 = .ok bytes ∧
      At (R.read c size).2 p rest d
  read_none : ∀ {c p d} size, At c p [] d → 0 < size →
    (R.read c size).1 = (if p = stream.wire.length then .ok [] else .error .WouldBlock) ∧
      At (R.read c size).2 p [] d

end Rustls

end PolymorphTls

/-
A connection that obeys all the laws of `Rustls.lean`: a TLS endpoint with the null
cipher, fed by a correct peer.

It takes input the way rustls's deframer does (4 KiB past what it holds, at most one
maximal record), releases a record's plaintext when its last byte has arrived, and
buffers or encrypts outgoing data under rustls's limits. It shows that the laws are
consistent, and it is the connection the concrete runs of this development are run on.
-/
import PolymorphTls.Rustls

set_option autoImplicit false

namespace PolymorphTls

/-! ## The peer's stream by position -/

/-- How many bytes the records take up that are complete within the first `p`. The deframer
keeps the rest, so this is where its buffer begins. -/
def completeUpTo : List Record → ℕ → ℕ
  | [], _ => 0
  | r :: rs, p =>
      if r.wire.length ≤ p then r.wire.length + completeUpTo rs (p - r.wire.length) else 0

namespace NullTls

/-! ## The deframer -/

/-- The most bytes of one record. -/
def MAX_WIRE_SIZE : ℕ := 18437

/-- What the deframer makes room for beyond what it holds. -/
def READ_SIZE : ℕ := 4096

/-- How much of the stream the deframer has taken, and how long its buffer is. The bytes
themselves are the stream's, so positions say all there is to say. -/
structure Deframed where
  taken : ℕ
  bufLen : ℕ
  deriving DecidableEq

/-- The bytes held of a record that is not complete: they stay in the buffer until the rest
arrives, and leave that much less room. -/
def held (records : List Record) (d : Deframed) : ℕ := d.taken - completeUpTo records d.taken

/-- The buffer's length once it is prepared for a read. That one read takes no more than
this leaves is why `reader_task` may be left with a piece of what it read. -/
def prepared (records : List Record) (d : Deframed) : ℕ :=
  -- the buffer grows on demand and shrinks back when nothing is held
  let need := min MAX_WIRE_SIZE (held records d + READ_SIZE)
  if need > d.bufLen ∨ held records d = 0 ∨ d.bufLen > MAX_WIRE_SIZE then need else d.bufLen

/-- The deframer in the terms of the laws: the room there is, and what taking does. A
deframer always has room for a byte, since a record that fills the buffer would be
complete. -/
def deframer (records : List Record) : Deframer Deframed where
  room d := max 1 (prepared records d - held records d)
  take d n := ⟨d.taken + n, prepared records d⟩

/-! ## The connection -/

/-- The send side: buffering until the handshake completes, encrypting from then on. Both
lists keep everything, in order; what was transmitted of it is the caller's business. -/
inductive SendSide where
  | handshaking (early : List UInt8)
  | ready (appdata : List UInt8)
  deriving DecidableEq

/-- An endpoint and what its peer has still to say. The peer's stream is fixed in advance,
so the endpoint keeps positions in it and not bytes. -/
structure Conn where
  /-- The handshake bytes the peer has still to send. -/
  left : ℕ
  deframed : Deframed
  decrypted : List UInt8
  unread : List UInt8
  closed : Bool
  send : SendSide
  sendable : List UInt8
  /-- Ghost: all output so far. -/
  produced : List UInt8
  deriving DecidableEq

/-- Output is appended to what is pending. -/
def Conn.emit (c : Conn) (new : List UInt8) : Conn :=
  { c with sendable := c.sendable ++ new, produced := c.produced ++ new }

/-- The data buffered until the handshake completes. -/
def Conn.early (c : Conn) : List UInt8 :=
  match c.send with
  | .handshaking early => early
  | .ready _ => []

/-- The data encrypted so far. -/
def Conn.appdata (c : Conn) : List UInt8 :=
  match c.send with
  | .handshaking _ => []
  | .ready appdata => appdata

def Conn.is_handshaking (c : Conn) : Bool :=
  match c.send with
  | .handshaking _ => true
  | .ready _ => false

variable (stream : PeerStream)

/-- Handshake bytes are consumed first; the rest belongs to the peer's stream, also within
one call. Past the limit of unread plaintext the call fails and takes nothing. -/
def Conn.read_tls (c : Conn) (cursor : List UInt8) : Except String ℕ × Conn :=
  if Rustls.RECEIVED_PLAINTEXT_LIMIT < c.unread.length then
    (.error "received plaintext buffer full", c)
  else if c.closed then (.ok 0, c)
  else
    let n := min cursor.length ((deframer stream.records).room c.deframed)
    if n ≤ c.left ∧ c.left ≠ 0 then (.ok n, { c with left := c.left - n })
    else
      (.ok n, { c with
        left := 0
        deframed := (deframer stream.records).take c.deframed (n - c.left) })

/-- The records completed since the last call are decrypted. The peer's close is the end of
its stream, and the handshake is complete once its last byte was consumed. -/
def Conn.process_new_packets (c : Conn) : Except String Bool × Conn :=
  let new := (plainUpTo stream.records c.deframed.taken).drop c.decrypted.length
  let closed := c.closed || decide (c.deframed.taken = stream.wire.length)
  let c' := { c with decrypted := c.decrypted ++ new, unread := c.unread ++ new, closed }
  match c.send with
  | .handshaking early =>
      -- completing the handshake encrypts what was buffered
      if c.left = 0 then
        (.ok closed, { c' with send := .ready early }.emit early)
      else (.ok closed, c')
  | .ready _ => (.ok closed, c')

/-- Plaintext, then the clean end, and in between an error that asks for more input. -/
def Conn.read (c : Conn) (size : ℕ) : Except ErrorKind (List UInt8) × Conn :=
  if c.unread ≠ [] then (.ok (c.unread.take size), { c with unread := c.unread.drop size })
  else if c.closed then (.ok [], c)
  else (.error .WouldBlock, c)

/-- Data is buffered in the handshake and encrypted after it, each under rustls's limit. -/
def Conn.write (c : Conn) (buf : List UInt8) : Except String ℕ × Conn :=
  match c.send with
  | .handshaking early =>
      let n := min buf.length (Rustls.BUFFER_LIMIT - early.length)
      (.ok n, { c with send := .handshaking (early ++ buf.take n) })
  | .ready appdata =>
      let n := min buf.length (Rustls.BUFFER_LIMIT - c.sendable.length)
      (.ok n, { c with send := .ready (appdata ++ buf.take n) }.emit (buf.take n))

/-- The endpoint's operations, for what the given peer sends. -/
def rustls : Rustls Conn where
  side _ := .Client
  is_handshaking := Conn.is_handshaking
  alpn_protocol _ := none
  server_name _ := none
  wants_write c := c.sendable ≠ []
  write_tls c := (.ok c.sendable, { c with sendable := [] })
  read_tls := Conn.read_tls stream
  process_new_packets := Conn.process_new_packets stream
  read := Conn.read
  write := Conn.write
  send_close_notify c := c.emit stream.close_notify
  received_plaintext := Conn.unread
  sendable_tls := Conn.sendable

/-- A fresh client: `left` handshake bytes to come, and a first flight to send. -/
def Conn.fresh (left : ℕ) (hello : List UInt8) : Conn :=
  { left
    deframed := ⟨0, 0⟩
    decrypted := []
    unread := []
    closed := false
    send := .handshaking []
    sendable := hello
    produced := hello }

/-- A connection just after its handshake, which is where the tasks of a pump usually
are. -/
def Conn.connected : Conn := { Conn.fresh 0 [] with send := .ready [] }

/-- A peer that says "hi" and closes. -/
def greeting : PeerStream where
  records := [⟨[23, 3, 3, 0, 2, 104, 105], [104, 105]⟩]
  close_notify := [21, 3, 3, 0, 2, 1, 0]
  data := by decide
  close_ne := by decide

/-! ## It obeys the laws -/

/-- Taking input changes nothing the application can see. -/
theorem read_tls_frame (c : Conn) (cursor : List UInt8) :
    (c.read_tls stream cursor).2.decrypted = c.decrypted ∧
    (c.read_tls stream cursor).2.unread = c.unread ∧
    (c.read_tls stream cursor).2.closed = c.closed ∧
    (c.read_tls stream cursor).2.send = c.send ∧
    (c.read_tls stream cursor).2.sendable = c.sendable := by
  unfold Conn.read_tls
  split
  · exact ⟨rfl, rfl, rfl, rfl, rfl⟩
  · split
    · exact ⟨rfl, rfl, rfl, rfl, rfl⟩
    · dsimp only
      split <;> exact ⟨rfl, rfl, rfl, rfl, rfl⟩

/-- What processing does to the receive side: the plaintext of the records that are complete
now, less what was decrypted before. -/
theorem process_receives (c : Conn) :
    (c.process_new_packets stream).2.decrypted = c.decrypted ++
      (plainUpTo stream.records c.deframed.taken).drop c.decrypted.length ∧
    (c.process_new_packets stream).2.unread = c.unread ++
      (plainUpTo stream.records c.deframed.taken).drop c.decrypted.length ∧
    (c.process_new_packets stream).2.deframed = c.deframed ∧
    (c.process_new_packets stream).2.closed
      = (c.closed || decide (c.deframed.taken = stream.wire.length)) ∧
    (c.process_new_packets stream).1
      = .ok (c.closed || decide (c.deframed.taken = stream.wire.length)) := by
  unfold Conn.process_new_packets
  dsimp only
  split
  · split <;> exact ⟨rfl, rfl, rfl, rfl, rfl⟩
  · exact ⟨rfl, rfl, rfl, rfl, rfl⟩

/-- Reading plaintext changes only what is unread. -/
theorem read_frame (c : Conn) (size : ℕ) :
    (c.read size).2.decrypted = c.decrypted ∧ (c.read size).2.closed = c.closed ∧
    (c.read size).2.send = c.send ∧ (c.read size).2.sendable = c.sendable ∧
    (c.read size).2.deframed = c.deframed ∧ (c.read size).2.left = c.left := by
  unfold Conn.read
  split
  · exact ⟨rfl, rfl, rfl, rfl, rfl, rfl⟩
  · split <;> exact ⟨rfl, rfl, rfl, rfl, rfl, rfl⟩

/-- Writing leaves the receive side alone. -/
theorem write_frame (c : Conn) (buf : List UInt8) :
    (c.write buf).2.decrypted = c.decrypted ∧ (c.write buf).2.unread = c.unread ∧
    (c.write buf).2.closed = c.closed := by
  unfold Conn.write
  split <;> exact ⟨rfl, rfl, rfl⟩

@[simp] theorem emit_send (c : Conn) (new : List UInt8) : (c.emit new).send = c.send := rfl

/-- A reader with room gets something if there is something. -/
theorem take_ne_nil {bytes : List UInt8} {size : ℕ} (hne : bytes ≠ []) (hsize : 0 < size) :
    bytes.take size ≠ [] := by
  rw [Ne, List.take_eq_nil_iff]
  rintro (h | h)
  · omega
  · exact hne h

/-- The receive laws. -/
theorem receives : (rustls stream).Receives Conn.decrypted Conn.closed where
  read_tls_keeps c cursor := by
    obtain ⟨h1, h2, h3, -⟩ := read_tls_frame stream c cursor
    exact ⟨h1, h2, h3⟩
  write_tls_keeps _ := ⟨rfl, rfl, rfl⟩
  write_keeps c buf := write_frame c buf
  close_keeps _ := ⟨rfl, rfl, rfl⟩
  process_releases c := by
    obtain ⟨h1, h2, -⟩ := process_receives stream c
    exact ⟨_, h1, h2⟩
  process_closed c hclosed := by
    obtain ⟨-, -, -, h4, -⟩ := process_receives stream c
    exact h4.trans (by rw [hclosed, Bool.true_or])
  peer_has_closed c b hb := by
    obtain ⟨-, -, -, h4, h5⟩ := process_receives stream c
    have hb' : .ok b = (c.process_new_packets stream).1 := hb.symm
    rw [h5, Except.ok.injEq, ← h4] at hb'
    exact hb'
  read_some c size hne hsize := by
    have hunread : c.unread ≠ [] := hne
    refine ⟨c.unread.take size, take_ne_nil hunread hsize, ?_, ?_, ?_, ?_⟩ <;>
      simp [rustls, Conn.read, hunread]
  read_none c size hempty _ := by
    have hunread : c.unread = [] := hempty
    cases hclosed : c.closed <;>
      simp [rustls, Conn.read, hunread, hclosed, Rustls.SameReceived]

/-- The send laws: the early data is encrypted in the call that completes the handshake, in
front of all later data. -/
theorem sends : (rustls stream).Sends Conn.early Conn.appdata where
  flushed c hready := by
    cases hsend : c.send with
    | handshaking early => simp [rustls, Conn.is_handshaking, hsend] at hready
    | ready appdata => simp [Conn.early, hsend]
  read_tls_keeps c cursor := by
    obtain ⟨-, -, -, h4, h5⟩ := read_tls_frame stream c cursor
    exact ⟨by simp [Rustls.SameSent, rustls, Conn.early, Conn.appdata, Conn.is_handshaking, h4],
      h5⟩
  read_keeps c size := by
    obtain ⟨-, -, h3, h4, -⟩ := read_frame c size
    exact ⟨by simp [Rustls.SameSent, rustls, Conn.early, Conn.appdata, Conn.is_handshaking, h3],
      h4⟩
  write_tls_keeps _ := ⟨rfl, rfl, rfl⟩
  close_keeps _ := ⟨rfl, rfl, rfl⟩
  process_flushes c := by
    cases hsend : c.send with
    | handshaking early =>
        by_cases hleft : c.left = 0 <;>
          simp [rustls, Conn.process_new_packets, Conn.early, Conn.appdata, hsend, hleft]
    | ready appdata =>
        simp [rustls, Conn.process_new_packets, Conn.early, Conn.appdata, hsend]
  wants_write_iff c := by simp [rustls]
  write_tls_moves c hwants := by
    refine ⟨c.sendable, by simpa [rustls] using hwants, rfl, ?_⟩
    simp [rustls]
  write_early c buf hhand := by
    cases hsend : c.send with
    | handshaking early =>
        simp [rustls, Conn.write, Conn.early, Conn.appdata, Conn.is_handshaking, hsend]
    | ready appdata => simp [rustls, Conn.is_handshaking, hsend] at hhand
  write_ready c buf hready := by
    cases hsend : c.send with
    | handshaking early => simp [rustls, Conn.is_handshaking, hsend] at hready
    | ready appdata =>
        simp [rustls, Conn.write, Conn.appdata, Conn.is_handshaking, hsend]

/-- The output laws. -/
theorem outputs : (rustls stream).Outputs Conn.produced where
  read_tls_emits c cursor := by
    show (c.read_tls stream cursor).2.produced = _ ∧ (c.read_tls stream cursor).2.sendable = _
    rw [List.append_nil, List.append_nil]
    unfold Conn.read_tls
    split
    · exact ⟨rfl, rfl⟩
    · split
      · exact ⟨rfl, rfl⟩
      · dsimp only
        split <;> exact ⟨rfl, rfl⟩
  read_emits c size := by
    show (c.read size).2.produced = _ ∧ (c.read size).2.sendable = _
    rw [List.append_nil, List.append_nil]
    unfold Conn.read
    split
    · exact ⟨rfl, rfl⟩
    · split <;> exact ⟨rfl, rfl⟩
  process_emits c := by
    show ∃ new, (c.process_new_packets stream).2.produced = c.produced ++ new ∧
      (c.process_new_packets stream).2.sendable = c.sendable ++ new
    unfold Conn.process_new_packets
    dsimp only
    split
    · rename_i early _
      split
      · exact ⟨early, rfl, rfl⟩
      · exact ⟨[], (List.append_nil _).symm, (List.append_nil _).symm⟩
    · exact ⟨[], (List.append_nil _).symm, (List.append_nil _).symm⟩
  write_emits c buf := by
    show ∃ new, (c.write buf).2.produced = c.produced ++ new ∧
      (c.write buf).2.sendable = c.sendable ++ new
    unfold Conn.write
    split
    · exact ⟨[], (List.append_nil _).symm, (List.append_nil _).symm⟩
    · exact ⟨_, rfl, rfl⟩
  close_emits _ := ⟨stream.close_notify, rfl, rfl⟩
  write_tls_keeps _ := rfl

/-- Nothing of the stream is taken before the last handshake byte, so the close comes
after the handshake. -/
structure Valid (c : Conn) : Prop where
  not_taken : c.left ≠ 0 → c.deframed.taken = 0
  closed_ready : c.closed = true → c.is_handshaking = false

/-- A fresh client has consumed nothing. -/
theorem valid_fresh (left : ℕ) (hello : List UInt8) : Valid (.fresh left hello) :=
  ⟨fun _ => rfl, fun h => absurd h (by simp [Conn.fresh])⟩

/-- Processing keeps the order of handshake and stream, and reports a close only after the
handshake: before, nothing of the stream has been taken, and a stream is never empty, so its
end is still to come. -/
theorem valid_process {c : Conn} (hc : Valid c) : Valid (c.process_new_packets stream).2 ∧
    ((c.process_new_packets stream).1 = .ok true →
      (c.process_new_packets stream).2.is_handshaking = false) := by
  have hpos := stream.wire_length_pos
  unfold Conn.process_new_packets
  dsimp only
  split
  · split
    · exact ⟨⟨hc.not_taken, fun _ => rfl⟩, fun _ => rfl⟩
    · -- the handshake goes on, and nothing of the stream has been taken
      rename_i early hsend hleft
      have htaken : c.deframed.taken ≠ stream.wire.length := by
        rw [hc.not_taken hleft]
        omega
      have hnot : c.is_handshaking = true := by rw [Conn.is_handshaking, hsend]
      have hopen : (c.closed || decide (c.deframed.taken = stream.wire.length)) = false := by
        rw [decide_eq_false htaken, Bool.or_false]
        by_contra hclosed
        rw [Bool.not_eq_false] at hclosed
        rw [hc.closed_ready hclosed] at hnot
        exact absurd hnot (by decide)
      rw [hopen]
      exact ⟨⟨hc.not_taken, fun h => absurd h (by simp)⟩, fun h => absurd h (by simp)⟩
  · rename_i appdata hsend
    have hready : c.is_handshaking = false := by rw [Conn.is_handshaking, hsend]
    exact ⟨⟨hc.not_taken, fun _ => hready⟩, fun _ => hready⟩

/-- Taking input keeps it too: a byte of the stream is taken only with no handshake byte
left. -/
theorem valid_read_tls {c : Conn} (hc : Valid c) (cursor : List UInt8) :
    Valid (c.read_tls stream cursor).2 := by
  obtain ⟨-, -, hclo, hsend, -⟩ := read_tls_frame stream c cursor
  refine ⟨fun hleft => ?_, fun h => ?_⟩
  · unfold Conn.read_tls at hleft ⊢
    split at hleft
    · rename_i hfull
      rw [if_pos hfull]
      exact hc.not_taken hleft
    · rename_i hfull
      rw [if_neg hfull]
      split at hleft
      · rename_i hclosed
        rw [if_pos hclosed]
        exact hc.not_taken hleft
      · rename_i hclosed
        rw [if_neg hclosed]
        dsimp only at hleft ⊢
        split at hleft
        · rename_i hshort
          rw [if_pos hshort]
          exact hc.not_taken hshort.2
        · exact absurd rfl hleft
  · rw [hclo] at h
    have hready := hc.closed_ready h
    rwa [Conn.is_handshaking, hsend]

/-- Whether the handshake is over is read off the send side alone. -/
theorem is_handshaking_of_send {c c' : Conn} (h : c'.send = c.send) :
    c'.is_handshaking = c.is_handshaking := by
  rw [Conn.is_handshaking, Conn.is_handshaking, h]

/-- A call that neither completes the handshake nor takes input. -/
theorem valid_of_frame {c c' : Conn} (hc : Valid c) (hhand : c'.is_handshaking = c.is_handshaking)
    (hleft : c'.left = c.left) (hdef : c'.deframed = c.deframed) (hclo : c'.closed = c.closed) :
    Valid c' := by
  refine ⟨fun h => ?_, fun h => ?_⟩
  · rw [hdef]
    rw [hleft] at h
    exact hc.not_taken h
  · rw [hhand]
    rw [hclo] at h
    exact hc.closed_ready h

/-- Any call keeps the order of handshake and stream. -/
theorem valid_call {c c' : Conn} (h : (rustls stream).Call c c') (hc : Valid c) :
    Valid c' := by
  cases h with
  | read_tls cursor => exact valid_read_tls stream hc cursor
  | process_new_packets => exact (valid_process stream hc).1
  | read size =>
      obtain ⟨-, hclo, hsend, -, hdef, hleft⟩ := read_frame c size
      exact valid_of_frame hc (is_handshaking_of_send hsend) hleft hdef hclo
  | write buf =>
      show Valid (c.write buf).2
      unfold Conn.write
      cases hsend : c.send with
      | handshaking early =>
          exact valid_of_frame hc (by rw [Conn.is_handshaking, Conn.is_handshaking, hsend])
            rfl rfl rfl
      | ready appdata =>
          exact valid_of_frame hc
            (by rw [Conn.is_handshaking, Conn.is_handshaking, hsend, emit_send]) rfl rfl rfl
  | write_tls => exact valid_of_frame hc rfl rfl rfl rfl
  | send_close_notify => exact valid_of_frame hc rfl rfl rfl rfl

/-- No call goes back to the handshake. -/
theorem ready_call {c c' : Conn} (h : (rustls stream).Call c c')
    (hready : c.is_handshaking = false) : c'.is_handshaking = false := by
  obtain ⟨appdata, hsend⟩ : ∃ appdata, c.send = .ready appdata := by
    unfold Conn.is_handshaking at hready
    split at hready
    · exact absurd hready (by decide)
    · exact ⟨_, by assumption⟩
  cases h with
  | read_tls cursor =>
      obtain ⟨-, -, -, hsame, -⟩ := read_tls_frame stream c cursor
      exact (is_handshaking_of_send hsame).trans hready
  | process_new_packets =>
      show (c.process_new_packets stream).2.is_handshaking = false
      simp only [Conn.process_new_packets, hsend]
      rfl
  | read size =>
      obtain ⟨-, -, hsame, -⟩ := read_frame c size
      exact (is_handshaking_of_send hsame).trans hready
  | write buf =>
      show (c.write buf).2.is_handshaking = false
      simp only [Conn.write, hsend]
      rfl
  | write_tls => exact hready
  | send_close_notify => exact hready

/-- The handshake laws, for endpoints that have kept handshake and stream in order. -/
theorem handshakes : (rustls stream).Handshakes Valid where
  valid_call h hc := valid_call stream h hc
  completed h _ hready := ⟨ready_call stream h hready, rfl, rfl, rfl⟩
  read_keeps c size := by
    obtain ⟨-, -, hsend, -⟩ := read_frame c size
    exact is_handshaking_of_send hsend
  peer_has_closed hc h := (valid_process stream hc).2 h
  clean_eof {c size} hc hsize h := by
    apply hc.closed_ready
    by_contra hopen
    have hread : (c.read size).1 = .ok [] := h
    unfold Conn.read at hread
    split at hread
    · rename_i hne
      rw [Except.ok.injEq] at hread
      exact take_ne_nil hne hsize hread
    · exact absurd hread (by simp)

/-- The endpoint after the handshake, with the first `p` bytes of the stream taken and
processed. -/
structure At (c : Conn) (p : ℕ) (unread : List UInt8) (d : Deframed) : Prop where
  left : c.left = 0
  deframed : c.deframed = d
  taken : d.taken = p
  unread : c.unread = unread
  decrypted : c.decrypted = plainUpTo stream.records p
  closed : c.closed = decide (p = stream.wire.length)

/-- After the handshake and before the stream. -/
theorem at_connected : At stream Conn.connected 0 [] ⟨0, 0⟩ := by
  have hpos := stream.wire_length_pos
  exact ⟨rfl, rfl, rfl, rfl, stream.plainUpTo_zero.symm,
    (decide_eq_false (by omega)).symm⟩

/-- A read that is taken, and processing it. The position moves by what was taken; what
becomes readable is what the records between the two positions complete. -/
theorem at_process {c : Conn} {p : ℕ} {unread : List UInt8} {d : Deframed}
    (hat : At stream c p unread d) (hopen : p ≠ stream.wire.length) (n : ℕ) :
    At stream
      (({ c with deframed := (deframer stream.records).take d n } : Conn).process_new_packets
        stream).2
      (p + n)
      (unread ++ (plainUpTo stream.records (p + n)).drop (plainUpTo stream.records p).length)
      ((deframer stream.records).take d n) := by
  have htaken : ((deframer stream.records).take d n).taken = p + n := by
    simp [deframer, hat.taken]
  obtain ⟨hdec, hunread, hdef, hclo, -⟩ := process_receives stream
    { c with deframed := (deframer stream.records).take d n }
  have hleft : (({ c with deframed := (deframer stream.records).take d n } :
      Conn).process_new_packets stream).2.left = c.left := by
    unfold Conn.process_new_packets
    dsimp only
    split
    · split <;> rfl
    · rfl
  -- what was decrypted is the beginning of what is complete now
  obtain ⟨rest, hrest⟩ := plainUpTo_prefix stream.records (Nat.le_add_right p n)
  refine ⟨hleft.trans hat.left, hdef, htaken, ?_, ?_, ?_⟩
  · rw [hunread]
    simp only [htaken, hat.unread, hat.decrypted]
  · rw [hdec]
    simp only [htaken, hat.decrypted]
    rw [← hrest, List.drop_left]
  · rw [hclo]
    simp only [htaken, hat.closed, hopen, decide_false, Bool.false_or]

/-- The law of acceptance: a read takes what the deframer has room for, unless the plaintext
that is unread is over its limit, and processing releases exactly the records that are
complete by then. -/
theorem accepts : (rustls stream).Accepts (deframer stream.records) stream (At stream) where
  received hat := hat.unread
  room_pos d := Nat.le_max_left _ _
  read_tls_full {c p unread d} hat hfull cursor := by
    have hlong : Rustls.RECEIVED_PLAINTEXT_LIMIT < c.unread.length := by rwa [hat.unread]
    simp [rustls, Conn.read_tls, hlong]
  read_tls_takes {c p unread d} hat hfits cursor hne hcursor := by
    have hshort : ¬ Rustls.RECEIVED_PLAINTEXT_LIMIT < c.unread.length := by
      rw [hat.unread]
      omega
    -- the cursor has a byte of the stream in it, so the close is still to come
    have hlen := hcursor.length_le
    have hpos : 0 < cursor.length := List.length_pos_iff.mpr hne
    rw [List.length_drop] at hlen
    have hopen : p ≠ stream.wire.length := by omega
    have hnotclosed : c.closed = false := by simp [hat.closed, hopen]
    generalize hn : min cursor.length ((deframer stream.records).room d) = n
    obtain ⟨rest, hrest⟩ := plainUpTo_prefix stream.records (Nat.le_add_right p n)
    have hread : c.read_tls stream cursor
        = (.ok n, { c with deframed := (deframer stream.records).take d n }) := by
      simp only [Conn.read_tls, hshort, hnotclosed, hat.deframed, hat.left, hn, if_false,
        ne_eq, not_true_eq_false, and_false, Bool.false_eq_true, Nat.sub_zero]
    have hproc := at_process stream hat hopen n
    rw [← hrest, List.drop_left] at hproc
    refine ⟨_, _, rest, hread, ?_, hrest.symm, hproc⟩
    obtain ⟨-, -, -, -, hres⟩ := process_receives stream
      { c with deframed := (deframer stream.records).take d n }
    have htaken : ((deframer stream.records).take d n).taken = p + n := by
      simp [deframer, hat.taken]
    refine Prod.ext (hres.trans ?_) rfl
    simp only [hnotclosed, htaken, Bool.false_or]
  write_tls_keeps hat := ⟨hat.left, hat.deframed, hat.taken, hat.unread, hat.decrypted,
    hat.closed⟩
  read_some {c p unread d} size hat hne hsize := by
    refine ⟨unread.take size, unread.drop size, take_ne_nil hne hsize,
      (List.take_append_drop size unread).symm, ?_, ?_⟩
    · simp [rustls, Conn.read, hat.unread, hne]
    · obtain ⟨h1, h2, -, -, h5, h6⟩ := read_frame c size
      refine ⟨h6.trans hat.left, h5.trans hat.deframed, hat.taken, ?_, h1.trans hat.decrypted,
        h2.trans hat.closed⟩
      simp [rustls, Conn.read, hat.unread, hne]
  read_none {c p d} size hat _ := by
    by_cases hend : p = stream.wire.length
    · have hclosed : c.closed = true := by simp [hat.closed, hend]
      simp only [rustls, Conn.read, hat.unread, hclosed, hend, ne_eq, not_true_eq_false,
        if_false, if_true, true_and]
      rw [← hend]
      exact hat
    · have hclosed : c.closed = false := by simp [hat.closed, hend]
      simp only [rustls, Conn.read, hat.unread, hclosed, hend, ne_eq, not_true_eq_false,
        if_false, Bool.false_eq_true, true_and]
      exact hat

end NullTls

end PolymorphTls

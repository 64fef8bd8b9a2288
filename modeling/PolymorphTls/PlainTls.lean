/-
Two endpoints that obey all the laws of `Rustls.lean` and `Channel.lean`: a record layer
with the null cipher whose output the other end can really read.

The endpoint of `NullTls.lean` is fed by a peer fixed in advance, so it says nothing about
two connections. Here the wire format is spelled out: one greeting byte, then a tag in
front of every byte of application data, and another tag for the close. The parser is a
fold over the bytes, so how the network cuts the stream cannot matter; that the parser
undoes the encoder is the whole of the channel laws.
-/
import PolymorphTls.Channel
import PolymorphTls.NullTls

set_option autoImplicit false

namespace PolymorphTls.PlainTls

/-! ## The wire format -/

/-- Where the parser is. A tag says whether a byte of data follows or the close, so the
format needs no lengths and every cut of the input is harmless. -/
inductive Mode where
  /-- The handshake: one byte whose value nobody looks at. -/
  | greeting
  | tag
  | data
  /-- `close_notify` has arrived; the rest is ignored. -/
  | shut
  deriving DecidableEq

/-- The receiving half of the protocol: its state and all the data parsed so far. It is a
function of the bytes alone, whoever reads them and in whatever pieces. -/
structure Parser where
  mode : Mode
  plain : List UInt8
  deriving DecidableEq

def Parser.start : Parser := ⟨.greeting, []⟩

/-- A byte of input. Every byte leads somewhere: an endpoint that accepts anything has no
error to report, and the laws ask for none. -/
def Parser.byte (p : Parser) (b : UInt8) : Parser :=
  match p.mode with
  | .greeting => ⟨.tag, p.plain⟩
  | .tag => if b = 1 then ⟨.shut, p.plain⟩ else ⟨.data, p.plain⟩
  | .data => ⟨.tag, p.plain ++ [b]⟩
  | .shut => p

/-- A piece of input; that a fold does not see the cuts is `feed_append`. -/
def Parser.feed (p : Parser) (bytes : List UInt8) : Parser := bytes.foldl Parser.byte p

/-- The encoder of application data: each byte behind its own tag. Wasteful, and that is the
point: an endpoint may stop between any two bytes and has still sent whole records. -/
def encode : List UInt8 → List UInt8
  | [] => []
  | b :: bs => 0 :: b :: encode bs

/-- The network's cuts are invisible to the parser. -/
theorem feed_append (p : Parser) (xs ys : List UInt8) :
    p.feed (xs ++ ys) = (p.feed xs).feed ys := List.foldl_append

/-- Data written in pieces is on the wire as if it had been written at once. -/
theorem encode_append (xs ys : List UInt8) : encode (xs ++ ys) = encode xs ++ encode ys := by
  induction xs with
  | nil => rfl
  | cons x xs ih => rw [List.cons_append, encode, encode, ih, List.cons_append, List.cons_append]

/-- The parser undoes the encoder. It stays at a tag afterwards, so more data or the close
may follow; the statement is over any data parsed before, which is what its own induction
needs. -/
theorem feed_encode (plain data : List UInt8) :
    (⟨.tag, plain⟩ : Parser).feed (encode data) = ⟨.tag, plain ++ data⟩ := by
  induction data generalizing plain with
  | nil => rw [encode, List.append_nil]; rfl
  | cons b bs ih =>
      show (⟨.tag, plain ++ [b]⟩ : Parser).feed (encode bs) = _
      rw [ih, List.append_assoc, List.singleton_append]

/-- What was parsed is never taken back, so a beginning of the input gives a beginning of
the data. -/
theorem plain_feed (p : Parser) (bytes : List UInt8) : p.plain <+: (p.feed bytes).plain := by
  induction bytes generalizing p with
  | nil => exact List.prefix_refl _
  | cons b bs ih =>
      refine List.IsPrefix.trans ?_ (ih (p.byte b))
      unfold Parser.byte
      split
      · exact List.prefix_refl _
      · split <;> exact List.prefix_refl _
      · exact List.prefix_append _ _
      · exact List.prefix_refl _

/-- After the close nothing is parsed. This is what makes the close authentic: no later
input can change what was in front of it. -/
theorem feed_shut {p : Parser} (h : p.mode = .shut) (bytes : List UInt8) : p.feed bytes = p := by
  induction bytes with
  | nil => rfl
  | cons b bs ih =>
      have hstay : p.byte b = p := by rw [Parser.byte, h]
      show (p.byte b).feed bs = p
      rw [hstay, ih]

/-! ## The endpoint -/

/-- An endpoint. Between `read_tls` and `process_new_packets` input is held unparsed, as
rustls holds it, so that the laws which tell the two calls apart are put to the test. -/
structure Conn where
  parser : Parser
  /-- Taken by `read_tls` and not processed yet. -/
  buffer : List UInt8
  unread : List UInt8
  send : NullTls.SendSide
  sendable : List UInt8
  /-- Ghosts: all input, all output, and the data in front of our close. -/
  fed : List UInt8
  produced : List UInt8
  finished : Option (List UInt8)
  deriving DecidableEq

/-- Output is appended to what is pending and to the record of all output. -/
def Conn.emit (c : Conn) (new : List UInt8) : Conn :=
  { c with sendable := c.sendable ++ new, produced := c.produced ++ new }

/-- The data buffered until the handshake completes. -/
def Conn.early (c : Conn) : List UInt8 :=
  match c.send with
  | .handshaking early => early
  | .ready _ => []

/-- The data encrypted so far. -/
def Conn.appdata (c : Conn) : List UInt8 :=
  match c.send with
  | .handshaking _ => []
  | .ready appdata => appdata

def Conn.is_handshaking (c : Conn) : Bool :=
  match c.send with
  | .handshaking _ => true
  | .ready _ => false

/-- The data decrypted so far is what the parser has; what of it the application has not
read yet is `unread`. -/
def Conn.decrypted (c : Conn) : List UInt8 := c.parser.plain

/-- A close_notify was processed. -/
def Conn.closed (c : Conn) : Bool := c.parser.mode = .shut

/-- Input is taken whole, there is no deframer and no limit to what may be unread. After the
close none is taken. -/
def Conn.read_tls (c : Conn) (cursor : List UInt8) : Except String ℕ × Conn :=
  if c.closed then (.ok 0, c)
  else (.ok cursor.length, { c with buffer := c.buffer ++ cursor, fed := c.fed ++ cursor })

/-- What is held is parsed, and the new data becomes readable. The greeting completes the
handshake once it is parsed, not once it is taken. -/
def Conn.process_new_packets (c : Conn) : Except String Bool × Conn :=
  let parser := c.parser.feed c.buffer
  let new := parser.plain.drop c.parser.plain.length
  let c' := { c with parser, buffer := [], unread := c.unread ++ new }
  match c.send with
  | .handshaking early =>
      -- the greeting completes the handshake, which encrypts what was buffered
      if parser.mode = .greeting then (.ok (decide (parser.mode = .shut)), c')
      else
        (.ok (decide (parser.mode = .shut)), { c' with send := .ready early }.emit (encode early))
  | .ready _ => (.ok (decide (parser.mode = .shut)), c')

/-- Plaintext, then the clean end, and in between an error that asks for more input. -/
def Conn.read (c : Conn) (size : ℕ) : Except ErrorKind (List UInt8) × Conn :=
  if c.unread ≠ [] then (.ok (c.unread.take size), { c with unread := c.unread.drop size })
  else if c.closed then (.ok [], c)
  else (.error .WouldBlock, c)

/-- Data is buffered in the handshake and encrypted after it, up to rustls's limit in both
cases. The limit counts what is pending, so a writer that drains its output never meets it
again. -/
def Conn.write (c : Conn) (buf : List UInt8) : Except String ℕ × Conn :=
  match c.send with
  | .handshaking early =>
      let n := min buf.length (Rustls.BUFFER_LIMIT - early.length)
      (.ok n, { c with send := .handshaking (early ++ buf.take n) })
  | .ready appdata =>
      let n := min buf.length (Rustls.BUFFER_LIMIT - c.sendable.length)
      (.ok n, { c with send := .ready (appdata ++ buf.take n) }.emit (encode (buf.take n)))

/-- The close: one tag. The ghost keeps what was encrypted before the *first* close, since a
parser stops there whatever the endpoint says later. -/
def Conn.send_close_notify (c : Conn) : Conn :=
  { c with finished := some (c.finished.getD c.appdata) }.emit [1]

/-- The endpoint under rustls's names. -/
def rustls : Rustls Conn where
  side _ := .Client
  is_handshaking := Conn.is_handshaking
  alpn_protocol _ := none
  server_name _ := none
  wants_write c := c.sendable ≠ []
  write_tls c := (.ok c.sendable, { c with sendable := [] })
  read_tls := Conn.read_tls
  process_new_packets := Conn.process_new_packets
  read := Conn.read
  write := Conn.write
  send_close_notify := Conn.send_close_notify
  received_plaintext := Conn.unread
  sendable_tls := Conn.sendable

/-- An endpoint with its greeting to send. -/
def Conn.fresh : Conn :=
  { parser := .start
    buffer := []
    unread := []
    send := .handshaking []
    sendable := [2]
    fed := []
    produced := [2]
    finished := none }

/-! ## It obeys the laws of one connection -/

/-- What processing does to the receive side. -/
theorem process_receives (c : Conn) :
    c.process_new_packets.2.parser = c.parser.feed c.buffer ∧
    c.process_new_packets.2.buffer = [] ∧
    c.process_new_packets.2.unread
      = c.unread ++ (c.parser.feed c.buffer).plain.drop c.parser.plain.length ∧
    c.process_new_packets.2.fed = c.fed ∧ c.process_new_packets.2.finished = c.finished ∧
    c.process_new_packets.1 = .ok (decide ((c.parser.feed c.buffer).mode = .shut)) := by
  unfold Conn.process_new_packets
  dsimp only
  split
  · split <;> exact ⟨rfl, rfl, rfl, rfl, rfl, rfl⟩
  · exact ⟨rfl, rfl, rfl, rfl, rfl, rfl⟩

/-- What processing does to the send side: nothing, or the flush of the early data. -/
theorem process_sends (c : Conn) :
    (c.process_new_packets.2.send = c.send ∧ c.process_new_packets.2.sendable = c.sendable ∧
      c.process_new_packets.2.produced = c.produced) ∨
    ∃ early, c.send = .handshaking early ∧ c.process_new_packets.2.send = .ready early ∧
      c.process_new_packets.2.sendable = c.sendable ++ encode early ∧
      c.process_new_packets.2.produced = c.produced ++ encode early := by
  unfold Conn.process_new_packets
  dsimp only
  split
  · rename_i early hsend
    split
    · exact .inl ⟨rfl, rfl, rfl⟩
    · exact .inr ⟨early, hsend, rfl, rfl, rfl⟩
  · exact .inl ⟨rfl, rfl, rfl⟩

/-- Taking input changes the receive side only, and of it only what is held. -/
theorem read_tls_frame (c : Conn) (cursor : List UInt8) :
    (c.read_tls cursor).2.parser = c.parser ∧ (c.read_tls cursor).2.unread = c.unread ∧
    (c.read_tls cursor).2.send = c.send ∧ (c.read_tls cursor).2.sendable = c.sendable ∧
    (c.read_tls cursor).2.produced = c.produced ∧
    (c.read_tls cursor).2.finished = c.finished := by
  unfold Conn.read_tls
  split <;> exact ⟨rfl, rfl, rfl, rfl, rfl, rfl⟩

/-- Reading plaintext changes only what is unread. -/
theorem read_frame (c : Conn) (size : ℕ) :
    ∃ unread, (c.read size).2 = { c with unread := unread } := by
  unfold Conn.read
  split
  · exact ⟨_, rfl⟩
  · split <;> exact ⟨c.unread, rfl⟩

/-- Writing changes the send side only. -/
theorem write_frame (c : Conn) (buf : List UInt8) :
    (c.write buf).2.parser = c.parser ∧ (c.write buf).2.buffer = c.buffer ∧
    (c.write buf).2.unread = c.unread ∧ (c.write buf).2.fed = c.fed ∧
    (c.write buf).2.finished = c.finished := by
  unfold Conn.write
  split <;> exact ⟨rfl, rfl, rfl, rfl, rfl⟩

/-- What was parsed before is still there. -/
theorem plain_append_new (c : Conn) :
    c.parser.plain ++ (c.parser.feed c.buffer).plain.drop c.parser.plain.length
      = (c.parser.feed c.buffer).plain := by
  obtain ⟨new, hnew⟩ := plain_feed c.parser c.buffer
  rw [← hnew, List.drop_left]

/-- The receive laws. The law of releases is `plain_append_new`: what is new is what the
parser has beyond what it had. -/
theorem receives : rustls.Receives Conn.decrypted Conn.closed where
  read_tls_keeps c cursor := by
    obtain ⟨h1, h2, -⟩ := read_tls_frame c cursor
    refine ⟨congrArg Parser.plain h1, h2, ?_⟩
    show (c.read_tls cursor).2.closed = c.closed
    rw [Conn.closed, Conn.closed, h1]
  write_tls_keeps _ := ⟨rfl, rfl, rfl⟩
  write_keeps c buf := by
    obtain ⟨h1, -, h3, -⟩ := write_frame c buf
    refine ⟨congrArg Parser.plain h1, h3, ?_⟩
    show (c.write buf).2.closed = c.closed
    rw [Conn.closed, Conn.closed, h1]
  close_keeps _ := ⟨rfl, rfl, rfl⟩
  process_releases c := by
    obtain ⟨h1, -, h3, -⟩ := process_receives c
    refine ⟨(c.parser.feed c.buffer).plain.drop c.parser.plain.length, ?_, h3⟩
    show c.process_new_packets.2.parser.plain = c.parser.plain ++ _
    rw [h1, plain_append_new]
  process_closed c hclosed := by
    obtain ⟨h1, -⟩ := process_receives c
    have hshut : c.parser.mode = .shut := of_decide_eq_true hclosed
    show c.process_new_packets.2.closed = true
    rw [Conn.closed, h1, feed_shut hshut, hshut]
    rfl
  peer_has_closed c b hb := by
    obtain ⟨h1, -, -, -, -, h6⟩ := process_receives c
    have hb' : .ok b = c.process_new_packets.1 := hb.symm
    rw [h6, Except.ok.injEq] at hb'
    show b = c.process_new_packets.2.closed
    rw [Conn.closed, h1, hb']
  read_some c size hne hsize := by
    have hunread : c.unread ≠ [] := hne
    refine ⟨c.unread.take size, NullTls.take_ne_nil hunread hsize, ?_, ?_, ?_, ?_⟩ <;>
      simp [rustls, Conn.read, hunread, Conn.decrypted, Conn.closed]
  read_none c size hempty _ := by
    have hunread : c.unread = [] := hempty
    cases hclosed : c.closed <;>
      simp [rustls, Conn.read, hunread, hclosed, Rustls.SameReceived]

/-- The send laws, where the early data is buffered in order and flushed once. -/
theorem sends : rustls.Sends Conn.early Conn.appdata where
  flushed c hready := by
    cases hsend : c.send with
    | handshaking early => simp [rustls, Conn.is_handshaking, hsend] at hready
    | ready appdata => simp [Conn.early, hsend]
  read_tls_keeps c cursor := by
    obtain ⟨-, -, h3, h4, -⟩ := read_tls_frame c cursor
    exact ⟨by simp [Rustls.SameSent, rustls, Conn.early, Conn.appdata, Conn.is_handshaking, h3],
      h4⟩
  read_keeps c size := by
    obtain ⟨unread, h⟩ := read_frame c size
    show rustls.SameSent _ _ c (c.read size).2 ∧ (c.read size).2.sendable = c.sendable
    rw [h]
    exact ⟨⟨rfl, rfl, rfl⟩, rfl⟩
  write_tls_keeps _ := ⟨rfl, rfl, rfl⟩
  close_keeps _ := ⟨rfl, rfl, rfl⟩
  process_flushes c := by
    show c.process_new_packets.2.appdata ++ c.process_new_packets.2.early = c.appdata ++ c.early
    rcases process_sends c with ⟨h1, -⟩ | ⟨early, h0, h1, -⟩
    · rw [Conn.appdata, Conn.early, Conn.appdata, Conn.early, h1]
    · rw [Conn.appdata, Conn.early, Conn.appdata, Conn.early, h1, h0, List.append_nil,
        List.nil_append]
  wants_write_iff c := by simp [rustls]
  write_tls_moves c hwants := by
    refine ⟨c.sendable, by simpa [rustls] using hwants, rfl, ?_⟩
    simp [rustls]
  write_early c buf hhand := by
    cases hsend : c.send with
    | handshaking early =>
        simp [rustls, Conn.write, Conn.early, Conn.appdata, Conn.is_handshaking, hsend]
    | ready appdata => simp [rustls, Conn.is_handshaking, hsend] at hhand
  write_ready c buf hready := by
    cases hsend : c.send with
    | handshaking early => simp [rustls, Conn.is_handshaking, hsend] at hready
    | ready appdata =>
        simp [rustls, Conn.write, Conn.appdata, Conn.is_handshaking, hsend, Conn.emit]

/-- The output laws: whatever a call makes is behind what was there. -/
theorem outputs : rustls.Outputs Conn.produced where
  read_tls_emits c cursor := by
    obtain ⟨-, -, -, h4, h5, -⟩ := read_tls_frame c cursor
    show (c.read_tls cursor).2.produced = _ ∧ (c.read_tls cursor).2.sendable = _
    rw [List.append_nil, List.append_nil]
    exact ⟨h5, h4⟩
  read_emits c size := by
    obtain ⟨unread, h⟩ := read_frame c size
    show (c.read size).2.produced = _ ∧ (c.read size).2.sendable = _
    rw [h, List.append_nil, List.append_nil]
    exact ⟨rfl, rfl⟩
  process_emits c := by
    show ∃ new, c.process_new_packets.2.produced = c.produced ++ new ∧
      c.process_new_packets.2.sendable = c.sendable ++ new
    rcases process_sends c with ⟨-, h2, h3⟩ | ⟨early, -, -, h2, h3⟩
    · exact ⟨[], by rw [h3, List.append_nil], by rw [h2, List.append_nil]⟩
    · exact ⟨encode early, h3, h2⟩
  write_emits c buf := by
    show ∃ new, (c.write buf).2.produced = c.produced ++ new ∧
      (c.write buf).2.sendable = c.sendable ++ new
    unfold Conn.write
    split
    · exact ⟨[], (List.append_nil _).symm, (List.append_nil _).symm⟩
    · exact ⟨_, rfl, rfl⟩
  close_emits _ := ⟨[1], rfl, rfl⟩
  write_tls_keeps _ := rfl

/-- The laws of input. Nothing is taken of a cursor with bytes in it only after the
close. -/
theorem takes : rustls.Takes Conn.closed where
  at_most c cursor k h := by
    have hread : (c.read_tls cursor).1 = .ok k := h
    unfold Conn.read_tls at hread
    split at hread
    · rw [Except.ok.injEq] at hread
      omega
    · rw [Except.ok.injEq] at hread
      omega
  none_closed c cursor hne h := by
    have hread : (c.read_tls cursor).1 = .ok 0 := h
    unfold Conn.read_tls at hread
    split at hread
    · assumption
    · rw [Except.ok.injEq, List.length_eq_zero_iff] at hread
      exact absurd hread hne

/-- The laws of the close. -/
theorem finishes : rustls.Finishes Conn.appdata Conn.finished where
  read_tls_keeps c cursor := (read_tls_frame c cursor).2.2.2.2.2
  process_keeps c := (process_receives c).2.2.2.2.1
  read_keeps c size := by
    obtain ⟨unread, h⟩ := read_frame c size
    show (c.read size).2.finished = c.finished
    rw [h]
  write_keeps c buf := (write_frame c buf).2.2.2.2
  write_tls_keeps _ := rfl
  close_records c h := by
    show some (c.finished.getD c.appdata) = some c.appdata
    rw [h, Option.getD_none]

/-- The greeting has been acted upon. -/
def Greeted (c : Conn) : Prop := c.parser.mode ≠ .greeting → c.is_handshaking = false

/-- Writing never completes the handshake. -/
theorem write_handshaking (c : Conn) (buf : List UInt8) :
    (c.write buf).2.is_handshaking = c.is_handshaking := by
  unfold Conn.write Conn.is_handshaking
  cases c.send <;> rfl

/-- Processing acts upon the greeting in the call that parses it. -/
theorem greeted_process (c : Conn) : Greeted c.process_new_packets.2 := by
  unfold Conn.process_new_packets
  split
  · dsimp only
    split
    · rename_i hmode
      exact fun h => absurd hmode h
    · exact fun _ => rfl
  · rename_i hsend
    intro _
    show Conn.is_handshaking { c with parser := _, buffer := _, unread := _ } = false
    unfold Conn.is_handshaking
    rw [hsend]

/-- Reading plaintext does not touch the handshake. -/
theorem read_handshaking (c : Conn) (size : ℕ) :
    (c.read size).2.parser = c.parser ∧ (c.read size).2.is_handshaking = c.is_handshaking := by
  obtain ⟨unread, h⟩ := read_frame c size
  rw [h]
  exact ⟨rfl, rfl⟩

/-- Neither does taking input: a greeting that is held is not acted upon. -/
theorem read_tls_handshaking (c : Conn) (cursor : List UInt8) :
    (c.read_tls cursor).2.parser = c.parser ∧
      (c.read_tls cursor).2.is_handshaking = c.is_handshaking := by
  obtain ⟨h1, -, h3, -⟩ := read_tls_frame c cursor
  refine ⟨h1, ?_⟩
  rw [Conn.is_handshaking, Conn.is_handshaking, h3]

/-- Processing never goes back to the handshake. -/
theorem process_handshaking {c : Conn} (h : c.is_handshaking = false) :
    c.process_new_packets.2.is_handshaking = false := by
  rcases process_sends c with ⟨h1, -⟩ | ⟨early, -, h1, -⟩
  · rwa [Conn.is_handshaking, h1]
  · rw [Conn.is_handshaking, h1]

/-- The handshake laws, for endpoints that have acted upon the greeting if it is parsed. A
close is parsed behind the greeting, so no endpoint reports a clean end in its handshake. -/
theorem handshakes : rustls.Handshakes Greeted where
  valid_call {c c'} hcall hc := by
    cases hcall with
    | read_tls cursor =>
        obtain ⟨h1, h2⟩ := read_tls_handshaking c cursor
        exact fun hmode => h2.trans (hc (h1 ▸ hmode))
    | process_new_packets => exact greeted_process c
    | read size =>
        obtain ⟨h1, h2⟩ := read_handshaking c size
        exact fun hmode => h2.trans (hc (h1 ▸ hmode))
    | write buf =>
        have h1 := (write_frame c buf).1
        exact fun hmode => (write_handshaking c buf).trans (hc (h1 ▸ hmode))
    | write_tls => exact hc
    | send_close_notify => exact hc
  completed {c c'} hcall _ hready := by
    refine ⟨?_, rfl, rfl, rfl⟩
    cases hcall with
    | read_tls cursor => exact (read_tls_handshaking c cursor).2.trans hready
    | process_new_packets => exact process_handshaking hready
    | read size => exact (read_handshaking c size).2.trans hready
    | write buf => exact (write_handshaking c buf).trans hready
    | write_tls => exact hready
    | send_close_notify => exact hready
  read_keeps c size := (read_handshaking c size).2
  peer_has_closed {c} _ h := by
    obtain ⟨h1, -, -, -, -, h6⟩ := process_receives c
    have hshut : (c.parser.feed c.buffer).mode = .shut := by
      have hok : .ok (decide ((c.parser.feed c.buffer).mode = .shut)) = Except.ok true :=
        h6.symm.trans h
      rw [Except.ok.injEq] at hok
      exact of_decide_eq_true hok
    apply greeted_process c
    rw [h1, hshut]
    decide
  clean_eof {c size} hc hsize h := by
    have hread : (c.read size).1 = .ok [] := h
    unfold Conn.read at hread
    split at hread
    · rename_i hunread
      rw [Except.ok.injEq] at hread
      exact absurd hread (NullTls.take_ne_nil hunread hsize)
    · split at hread
      · rename_i hclosed
        -- only a parser that went past the greeting sees a close
        apply hc
        rw [show c.parser.mode = .shut from of_decide_eq_true hclosed]
        decide
      · exact absurd hread (by simp)

/-! ## And those of the channel -/

/-- The output of an endpoint: its greeting, its data, and its close behind the data it had
encrypted by then. -/
def Spoken (a : Conn) : Prop :=
  match a.finished with
  | none => a.produced = 2 :: encode a.appdata
  | some data => data <+: a.appdata ∧ ∃ after, a.produced = 2 :: (encode data ++ 1 :: after)

/-- The network between two endpoints: the second was fed the first `n` bytes of the first
one's output, in order. What it holds and what it has parsed are together the parse of those
bytes, which is the invariant the laws of the channel come from. -/
structure Linked (a b : Conn) (n : ℕ) : Prop where
  spoken : Spoken a
  within : n ≤ a.produced.length
  fed : b.fed = a.produced.take n
  parsed : b.parser.feed b.buffer = Parser.start.feed b.fed

/-- A call of the sender: more output behind what there is, and the books still right. -/
theorem Linked.extend {a a' b : Conn} {n : ℕ} (h : Linked a b n) (hspoken : Spoken a')
    (hout : ∃ new, a'.produced = a.produced ++ new) : Linked a' b n := by
  obtain ⟨new, hnew⟩ := hout
  refine ⟨hspoken, ?_, ?_, h.parsed⟩
  · rw [hnew, List.length_append]
    exact Nat.le_trans h.within (Nat.le_add_right _ _)
  · rw [hnew, List.take_append_of_le_length h.within]
    exact h.fed

/-- A call without output. -/
theorem spoken_of_same {a a' : Conn} (h : Spoken a) (hfin : a'.finished = a.finished)
    (hout : a'.produced = a.produced) (hdata : a'.appdata = a.appdata) : Spoken a' := by
  unfold Spoken at h ⊢
  rw [hfin, hout, hdata]
  exact h

/-- Encrypting more data. Behind a close it goes into the part nobody parses. -/
theorem spoken_more {a a' : Conn} (h : Spoken a) (hfin : a'.finished = a.finished)
    (data : List UInt8) (hout : a'.produced = a.produced ++ encode data)
    (hdata : a'.appdata = a.appdata ++ data) : Spoken a' := by
  unfold Spoken at h ⊢
  rw [hfin]
  split
  · rename_i hnone
    rw [hnone] at h
    rw [hout, h, hdata, encode_append, List.cons_append]
  · rename_i before hsome
    rw [hsome] at h
    obtain ⟨hbefore, after, hafter⟩ := h
    refine ⟨hbefore.trans ?_, after ++ encode data, by rw [hout, hafter]; simp⟩
    rw [hdata]
    exact List.prefix_append _ _

/-- The close comes behind the data encrypted by then. -/
theorem spoken_close {a : Conn} (h : Spoken a) : Spoken a.send_close_notify := by
  unfold Spoken at h ⊢
  show a.finished.getD a.appdata <+: a.appdata ∧
    ∃ after, a.produced ++ [1] = 2 :: (encode (a.finished.getD a.appdata) ++ 1 :: after)
  split at h
  · rename_i hnone
    rw [hnone, Option.getD_none]
    exact ⟨List.prefix_refl _, [], by rw [h, List.cons_append]⟩
  · rename_i before hsome
    obtain ⟨hbefore, after, hafter⟩ := h
    rw [hsome, Option.getD_some]
    exact ⟨hbefore, after ++ [1], by rw [hafter]; simp⟩

/-- A call of an endpoint keeps its output in shape and only ever adds to it. -/
theorem spoken_call {a a' : Conn} (hcall : rustls.Call a a') (h : Spoken a) :
    Spoken a' ∧ ∃ new, a'.produced = a.produced ++ new := by
  have hnil : ∀ {x : Conn}, x.produced = a.produced → ∃ new, x.produced = a.produced ++ new :=
    fun hx => ⟨[], by rw [hx, List.append_nil]⟩
  cases hcall with
  | read_tls cursor =>
      obtain ⟨-, -, h3, -, h5, h6⟩ := read_tls_frame a cursor
      have hdata : (a.read_tls cursor).2.appdata = a.appdata := by
        rw [Conn.appdata, Conn.appdata, h3]
      exact ⟨spoken_of_same h h6 h5 hdata, hnil h5⟩
  | process_new_packets =>
      obtain ⟨-, -, -, -, hfin, -⟩ := process_receives a
      show Spoken a.process_new_packets.2 ∧ ∃ new, a.process_new_packets.2.produced = _ ++ new
      rcases process_sends a with ⟨h1, -, h3⟩ | ⟨early, h0, h1, -, h3⟩
      · refine ⟨spoken_of_same h hfin h3 ?_, hnil h3⟩
        rw [Conn.appdata, Conn.appdata, h1]
      · refine ⟨spoken_more h hfin early h3 ?_, ⟨_, h3⟩⟩
        rw [Conn.appdata, Conn.appdata, h1, h0, List.nil_append]
  | read size =>
      obtain ⟨unread, heq⟩ := read_frame a size
      show Spoken (a.read size).2 ∧ ∃ new, (a.read size).2.produced = _ ++ new
      rw [heq]
      exact ⟨spoken_of_same h rfl rfl rfl, hnil rfl⟩
  | write buf =>
      obtain ⟨-, -, -, -, hfin⟩ := write_frame a buf
      show Spoken (a.write buf).2 ∧ ∃ new, (a.write buf).2.produced = _ ++ new
      unfold Conn.write at hfin ⊢
      cases hsend : a.send with
      | handshaking early =>
          refine ⟨spoken_of_same h rfl rfl ?_, hnil rfl⟩
          simp only [Conn.appdata, hsend]
      | ready appdata =>
          refine ⟨spoken_more h rfl (buf.take _) rfl ?_, ⟨_, rfl⟩⟩
          simp only [Conn.appdata, hsend, Conn.emit]
  | write_tls => exact ⟨spoken_of_same h rfl rfl rfl, hnil rfl⟩
  | send_close_notify => exact ⟨spoken_close h, ⟨[1], rfl⟩⟩

/-- What the parser makes of everything an endpoint said: the data in front of the close, or
all of it. -/
theorem feed_spoken {a : Conn} (h : Spoken a) : Parser.start.feed a.produced =
    match a.finished with
    | none => ⟨.tag, a.appdata⟩
    | some data => ⟨.shut, data⟩ := by
  unfold Spoken at h
  split at h
  · rw [h]
    show (⟨.tag, []⟩ : Parser).feed (encode a.appdata) = _
    rw [feed_encode, List.nil_append]
  · obtain ⟨-, after, hafter⟩ := h
    rename_i data _
    rw [hafter]
    show (⟨.tag, []⟩ : Parser).feed (encode data ++ 1 :: after) = _
    rw [feed_append, feed_encode, List.nil_append]
    exact feed_shut rfl after

/-- What a linked endpoint has parsed is the beginning of what the other one said. -/
theorem Linked.parsed_of_produced {a b : Conn} {n : ℕ} (h : Linked a b n) :
    ∃ rest, Parser.start.feed a.produced = (b.parser.feed b.buffer).feed rest := by
  refine ⟨a.produced.drop n, ?_⟩
  rw [h.parsed, h.fed, ← feed_append, List.take_append_drop]

/-- The next piece of the output is taken. A closed endpoint takes nothing, and the count
stays. -/
theorem linked_reads {a b : Conn} {n : ℕ} {cursor : List UInt8} (h : Linked a b n)
    (hcursor : cursor <+: a.produced.drop n) :
    Linked a (b.read_tls cursor).2 (n + Rustls.moved (b.read_tls cursor).1) := by
  unfold Conn.read_tls
  split
  · exact h
  · obtain ⟨rest, hrest⟩ := hcursor
    have hlen : (a.produced.drop n).length = cursor.length + rest.length := by
      rw [← hrest, List.length_append]
    have hwithin := h.within
    rw [List.length_drop] at hlen
    refine ⟨h.spoken, ?_, ?_, ?_⟩
    · show n + cursor.length ≤ a.produced.length
      omega
    · show b.fed ++ cursor = a.produced.take (n + cursor.length)
      rw [List.take_add, ← hrest, List.take_left, h.fed]
    · show b.parser.feed (b.buffer ++ cursor) = Parser.start.feed (b.fed ++ cursor)
      rw [feed_append, feed_append, h.parsed]

/-- A call of the receiver that leaves its input alone. -/
theorem Linked.of_same {a b b' : Conn} {n : ℕ} (h : Linked a b n) (hfed : b'.fed = b.fed)
    (hparsed : b'.parser.feed b'.buffer = b.parser.feed b.buffer) : Linked a b' n :=
  ⟨h.spoken, h.within, hfed.trans h.fed, by rw [hparsed, hfed, h.parsed]⟩

/-- No input waits, and the greeting has been acted upon: the state in which
`process_new_packets` leaves an endpoint, and which every other call but `read_tls`
keeps. -/
structure Processed (c : Conn) : Prop where
  buffer : c.buffer = []
  greeted : Greeted c

/-- A call that leaves the input and the handshake alone. -/
theorem processed_of_frame {c c' : Conn} (h : Processed c) (hparser : c'.parser = c.parser)
    (hbuffer : c'.buffer = c.buffer) (hready : c'.is_handshaking = c.is_handshaking) :
    Processed c' :=
  ⟨hbuffer.trans h.buffer, fun hmode => hready.trans (h.greeted (hparser ▸ hmode))⟩

theorem processed_process (c : Conn) : Processed c.process_new_packets.2 :=
  ⟨(process_receives c).2.1, greeted_process c⟩

/-- The laws of the channel: what arrives is a beginning of what was encrypted, and a close
says where it ended. -/
theorem channel : rustls.Channel Conn.produced Conn.appdata Conn.decrypted Conn.closed
    Conn.finished Linked Processed where
  sender h hcall := by
    obtain ⟨hspoken, hout⟩ := spoken_call hcall h.spoken
    exact h.extend hspoken hout
  reads h hcursor := linked_reads h hcursor
  process {a b n} h := by
    obtain ⟨h1, h2, -, h4, -⟩ := process_receives b
    show Linked a b.process_new_packets.2 n
    refine h.of_same h4 ?_
    rw [h1, h2]
    rfl
  read {a b n} size h := by
    obtain ⟨unread, heq⟩ := read_frame b size
    show Linked a (b.read size).2 n
    rw [heq]
    exact h.of_same rfl rfl
  write {a b n} buf h := by
    obtain ⟨h1, h2, -, h4, -⟩ := write_frame b buf
    show Linked a (b.write buf).2 n
    refine h.of_same h4 ?_
    rw [h1, h2]
  write_tls h := h.of_same rfl rfl
  close h := h.of_same rfl rfl
  process_processed {b _} _ := processed_process b
  read_processed {b} size h := by
    obtain ⟨unread, heq⟩ := read_frame b size
    show Processed (b.read size).2
    rw [heq]
    exact processed_of_frame h rfl rfl rfl
  write_processed {b} buf h :=
    processed_of_frame h (write_frame b buf).1 (write_frame b buf).2.1 (write_handshaking b buf)
  write_tls_processed h := processed_of_frame h rfl rfl rfl
  close_processed h := processed_of_frame h rfl rfl rfl
  authentic {a b n} h := by
    obtain ⟨rest, hrest⟩ := h.parsed_of_produced
    have hplain : b.parser.plain <+: (Parser.start.feed a.produced).plain := by
      rw [hrest]
      exact (plain_feed _ _).trans (plain_feed _ _)
    have hspoken := h.spoken
    rw [feed_spoken hspoken] at hplain
    unfold Spoken at hspoken
    cases hfin : a.finished with
    | none => rwa [hfin] at hplain
    | some data =>
        rw [hfin] at hplain hspoken
        exact hplain.trans hspoken.1
  close_authentic {a b n} h hclosed := by
    -- the parser has stopped, so everything the sender said parses to the same
    have hshut : b.parser.mode = .shut := of_decide_eq_true hclosed
    obtain ⟨rest, hrest⟩ := h.parsed_of_produced
    rw [feed_shut hshut, feed_shut hshut, feed_spoken h.spoken] at hrest
    cases hfin : a.finished with
    | none =>
        rw [hfin] at hrest
        rw [← hrest] at hshut
        exact absurd hshut (by simp)
    | some data =>
        rw [hfin] at hrest
        show some data = some b.parser.plain
        rw [← hrest]

/-- An endpoint that was fed all of the other one's output, and has processed it, has parsed
everything that one said. -/
theorem parser_of_all {a b : Conn} (h : Linked a b a.produced.length) (hprocessed : Processed b) :
    b.parser = match a.finished with
      | none => ⟨.tag, a.appdata⟩
      | some data => ⟨.shut, data⟩ := by
  have hparsed := h.parsed
  rwa [hprocessed.buffer, h.fed, List.take_length, feed_spoken h.spoken] at hparsed

/-- An endpoint that has closed stays closed. -/
theorem finished_calls {c c' : Conn} (h : Pump.Calls rustls c c') (hc : c.finished ≠ none) :
    c'.finished ≠ none := by
  induction h with
  | refl => exact hc
  | tail _ hcall ih =>
      cases hcall with
      | read_tls cursor => exact fun h => ih ((finishes.read_tls_keeps _ cursor).symm.trans h)
      | process_new_packets => exact fun h => ih ((finishes.process_keeps _).symm.trans h)
      | read size => exact fun h => ih ((finishes.read_keeps _ size).symm.trans h)
      | write buf => exact fun h => ih ((finishes.write_keeps _ buf).symm.trans h)
      | write_tls => exact ih
      | send_close_notify => exact fun h => absurd h (Option.some_ne_none _)

/-- The laws of arrival: with all of the output fed and processed nothing is missing, and a
close is seen. Here the greeting is first on the wire, so that even a close asked for in the
handshake would be seen; rustls promises it for a close after the handshake, and the law
asks for no more. -/
theorem arrives : rustls.Arrives Conn.produced Conn.appdata Conn.decrypted Conn.closed
    Conn.finished Linked Processed where
  data {a b} h hprocessed hnone := by
    have hparser := parser_of_all h hprocessed
    rw [show a.finished = none from hnone] at hparser
    show b.parser.plain = a.appdata
    rw [hparser]
  close {c a b} _ _ hcalls h hprocessed := by
    obtain ⟨data, hdata⟩ :=
      Option.ne_none_iff_exists'.mp (finished_calls hcalls (Option.some_ne_none _))
    have hparser := parser_of_all h hprocessed
    rw [hdata] at hparser
    show b.closed = true
    rw [Conn.closed, hparser]
    rfl

/-- All of the other end's output contains its greeting. -/
theorem meets : rustls.Meets Conn.produced Linked Processed where
  completes {a b} _ hba ha _ := by
    apply ha.greeted
    rw [parser_of_all hba ha]
    split <;> simp

/-- Two fresh endpoints, before anything is on the wire. -/
theorem linked_fresh : Linked .fresh .fresh 0 :=
  ⟨rfl, Nat.zero_le _, rfl, rfl⟩

/-- A fresh endpoint holds no input. -/
theorem processed_fresh : Processed .fresh :=
  ⟨rfl, fun h => absurd rfl h⟩

end PolymorphTls.PlainTls

/-
The connection pump (`component/src/pump.rs`): rustls in the middle, component-model
streams at the edges, and three cooperative tasks that share the connection.

The tasks are single-threaded and never hold the connection across an await, so what a
task does between two awaits is one function of the connection: `reader_pass` and
`reader_decide` for the reader, `writer_pass` for the writer, and popping the queue for
the transmit task. The system below steps from await to await in any order.

The loops over rustls operations are bounded by what they consume: the cursor, the
unread plaintext, the undrained output, the bytes to write. Under the laws of
`Rustls.lean` each bound is enough: the specifications the proofs use say what a loop
leaves behind, not how far its bound let it go.
-/
import Mathlib.Logic.Relation
import PolymorphTls.Lts
import PolymorphTls.Rustls

set_option autoImplicit false

namespace PolymorphTls.Pump

/-- `wit_bindgen::StreamResult`. -/
inductive StreamResult where
  | Complete
  | Dropped
  | Cancelled
  deriving DecidableEq, Repr

/-- Whether the stream read returned its end. -/
def StreamResult.ends : StreamResult → Bool
  | .Complete => false
  | .Dropped | .Cancelled => true

/-- What a direction's future resolves with; an error is its message. -/
abbrev Verdict := Except String Unit

/-! ## The handshake signal -/

structure HandshakeOutcome where
  alpn_protocol : Option (List UInt8)
  server_name : Option String
  deriving DecidableEq, Repr

/-- The oneshot of the pending `connect`/`accept`: whether its sender is still there, and
the values sent. The reader and the writer share it, and whoever takes the sender sends; the
list of values is what shows that only one does. -/
structure Handshake where
  sender : Bool
  sent : List (Except String HandshakeOutcome)
  deriving DecidableEq

variable {C : Type} (R : Rustls C)

/-- What `Handshake::check` reports of a connection; only a server has an SNI to report. -/
def handshakeOutcome (c : C) : HandshakeOutcome where
  alpn_protocol := R.alpn_protocol c
  server_name :=
    match R.side c with
    | .Server => R.server_name c
    | .Client => none

/-- `Handshake::check`. It does nothing while the handshake runs, so both tasks may call it
after every use of the connection. -/
def Handshake.check (h : Handshake) (c : C) : Handshake :=
  if R.is_handshaking c then h
  else if h.sender then ⟨false, h.sent ++ [.ok (handshakeOutcome R c)]⟩
  else h

/-- `Handshake::fail`. After a completed handshake the sender is gone, and a failure is not
reported here any more. -/
def Handshake.fail (h : Handshake) (message : String) : Handshake :=
  if h.sender then ⟨false, h.sent ++ [.error message]⟩ else h

/-! ## The loops over rustls -/

/-- The loop of `drain_tls_writes`: the chunks sent to the transmit queue. Each pass moves
at least a byte of what is pending, so that much is enough of a bound. -/
def drainLoop : ℕ → C → List (List UInt8) × C
  | 0, c => ([], c)
  | n + 1, c =>
      if R.wants_write c then
        -- `Ok(0)` and an error both end the loop
        match R.write_tls c with
        | (.ok [], c') => ([], c')
        | (.ok bytes, c') =>
            let (rest, c'') := drainLoop n c'
            (bytes :: rest, c'')
        | (.error _, c') => ([], c')
      else ([], c)

/-- Drains rustls's pending outgoing TLS records into the transmit queue. -/
def drain_tls_writes (c : C) : List (List UInt8) × C :=
  drainLoop R (R.sendable_tls c).length c

/-- The loop of `read_available_plaintext`. It ends at the first `WouldBlock`, at the clean
end, or at an error, which the source does not tell from a lack of input. -/
def readLoop : ℕ → C → (List UInt8 × Bool) × C
  | 0, c => (([], false), c)
  | n + 1, c =>
      match R.read c CHUNK with
      | (.ok [], c') => (([], true), c')
      | (.ok bytes, c') =>
          let ((rest, clean_eof), c'') := readLoop n c'
          ((bytes ++ rest, clean_eof), c'')
      -- every error ends the loop: the caller decides how to report it
      | (.error _, c') => (([], false), c')

/-- Reads all currently decryptable application data. -/
def read_available_plaintext (c : C) : (List UInt8 × Bool) × C :=
  readLoop R ((R.received_plaintext c).length + 1) c

/-- The loop of `Write::write_all`; rustls's writer is never interrupted. A write of nothing
is an error, and rustls writes nothing when its buffer is full. -/
def writeAllLoop : ℕ → C → List UInt8 → Except String Unit × C
  | 0, c, _ => (.ok (), c)
  | n + 1, c, buf =>
      if buf = [] then (.ok (), c)
      else
        match R.write c buf with
        | (.ok 0, c') => (.error "failed to write whole buffer", c')
        | (.ok k, c') => writeAllLoop n c' (buf.drop k)
        | (.error e, c') => (.error e, c')

/-- `conn.writer().write_all(&buf)`. -/
def write_all (c : C) (buf : List UInt8) : Except String Unit × C :=
  writeAllLoop R buf.length c buf

/-! ## The reader between two awaits -/

/-- What the loop over one read's bytes has done so far. The loop may fail half way through
the bytes, and what it did by then still counts. -/
structure Feed (C : Type) where
  conn : C
  sent : List (List UInt8)
  clean_close : Bool
  failure : Option String

/-- The reader's loop over the bytes of one read: `read_tls` takes a piece,
`process_new_packets` handles it. The loop also stops when rustls takes nothing. -/
def feedLoop : ℕ → List UInt8 → Feed C → Feed C
  | 0, _, f => f
  | n + 1, cursor, f =>
      if cursor = [] then f
      else
        match R.read_tls f.conn cursor with
        | (.ok 0, c) => { f with conn := c }
        | (.error e, c) => { f with conn := c, failure := some ("transport read failed: " ++ e) }
        | (.ok k, c) =>
            match R.process_new_packets c with
            | (.ok peer_has_closed, c) =>
                let (sent, c) := drain_tls_writes R c
                feedLoop n (cursor.drop k)
                  { f with
                    conn := c
                    sent := f.sent ++ sent
                    clean_close := f.clean_close || peer_has_closed }
            | (.error e, c) =>
                -- flush the alert rustls queued for the peer
                let (sent, c) := drain_tls_writes R c
                { f with
                  conn := c
                  sent := f.sent ++ sent
                  failure := some ("TLS error: " ++ e) }

/-- What the reader did with one nonempty read, up to the write of its plaintext. The
failure is kept, since it is reported only after that write. -/
structure Pass (C : Type) where
  conn : C
  sent : List (List UInt8)
  clean_close : Bool
  failed : Option String
  plaintext : List UInt8
  handshake : Handshake

/-- `reader_task`, from a nonempty read to `cleartext_out.write_all`. -/
def reader_pass (h : Handshake) (c : C) (clean_close : Bool) (buf : List UInt8) : Pass C :=
  let f := feedLoop R buf.length buf ⟨c, [], clean_close, none⟩
  -- plaintext is read once, after the whole of `buf` has been fed
  let ((plaintext, eof), conn) := read_available_plaintext R f.conn
  { conn
    sent := f.sent
    clean_close := f.clean_close || eof
    failed := f.failure
    plaintext
    handshake := h.check R f.conn }

/-- `reader_task` after an empty read, or after a nonempty one that decided nothing. Without
a clean close the end of the transport is an error, possibly a truncation. -/
def reader_status (h : Handshake) (clean_close : Bool) (status : StreamResult) :
    Option Verdict × Handshake :=
  if status.ends then
    if clean_close then (some (.ok ()), h)
    else
      (some (.error "transport closed without TLS close_notify (possible truncation)"),
        h.fail "transport closed during handshake")
  else (none, h)

/-- `reader_task` after `cleartext_out.write_all`: the verdict, if the loop ends. -/
def reader_decide (h : Handshake) (failed : Option String) (clean_close : Bool)
    (status : StreamResult) : Option Verdict × Handshake :=
  match failed with
  | some message => (some (.error message), h.fail message)
  | none => if clean_close then (some (.ok ()), h) else reader_status h clean_close status

/-! ## The writer between two awaits -/

/-- What the writer did with one read: the connection and the signal it leaves, the chunks
it queued, and its verdict if the loop ends. -/
structure WriterPass (C : Type) where
  conn : C
  sent : List (List UInt8)
  handshake : Handshake
  verdict : Option Verdict
  /-- Ghost: the connection `send_close_notify` was called on, if it was. -/
  closeNotifyAt : Option C

/-- `writer_task` after the bytes of a read. The end of the stream closes the connection,
whatever state the handshake is in. -/
def writer_status (p : WriterPass C) (status : StreamResult) : WriterPass C :=
  if status.ends then
    -- whether the handshake has completed is not looked at
    let (sent, conn) := drain_tls_writes R (R.send_close_notify p.conn)
    { p with
      conn
      sent := p.sent ++ sent
      verdict := some (.ok ())
      closeNotifyAt := some p.conn }
  else p

/-- `writer_task`, from one read to the next. -/
def writer_pass (h : Handshake) (c : C) (status : StreamResult) (buf : List UInt8) :
    WriterPass C :=
  if buf = [] then writer_status R ⟨c, [], h, none, none⟩ status
  else
    match write_all R c buf with
    -- the bytes taken before the error stay with rustls; nothing is drained
    | (.error e, conn) => ⟨conn, [], h, some (.error ("write failed: " ++ e)), none⟩
    | (.ok (), conn) =>
        let (sent, conn) := drain_tls_writes R conn
        writer_status R ⟨conn, sent, h.check R conn, none, none⟩ status

/-! ## The system -/

inductive ReaderPc where
  /-- At `ciphertext_in.read(..).await`. -/
  | reading
  /-- At `cleartext_out.write_all(plaintext).await`, with the bytes not taken yet. -/
  | writing (pending : List UInt8) (failed : Option String) (status : StreamResult)
  /-- The loop is over and the verdict is written. -/
  | ended
  deriving DecidableEq

inductive WriterPc where
  /-- At `cleartext_in.read(..).await`. -/
  | reading
  | ended
  deriving DecidableEq

inductive TransmitPc where
  /-- At `ct_source.next().await`. -/
  | next
  /-- At `ciphertext_out.write_all(bytes).await`, with the bytes not taken yet. -/
  | writing (pending : List UInt8)
  | ended
  deriving DecidableEq

structure Sys (C : Type) where
  conn : C
  handshake : Handshake
  reader : ReaderPc
  /-- The reader's `clean_close`. -/
  clean_close : Bool
  writer : WriterPc
  transmit : TransmitPc
  /-- The transmit queue. -/
  queue : List (List UInt8)
  /-- The bytes the consumer has taken from the cleartext stream. -/
  cleartext_out : List UInt8
  /-- The bytes the transport has taken from the ciphertext stream. -/
  ciphertext_out : List UInt8
  /-- The verdicts written to the two directions' futures. -/
  recv_done : List Verdict
  send_done : List Verdict
  /-- Ghost: the bytes read from `cleartext_in`. -/
  accepted : List UInt8
  /-- Ghost: the connection `send_close_notify` was called on, if it was. -/
  closeNotifyAt : Option C

/-- `run` up to its await: the client's first flight exists before any input arrives. -/
def Sys.init (c : C) : Sys C :=
  let (sent, conn) := drain_tls_writes R c
  { conn
    handshake := ⟨true, []⟩
    reader := .reading
    clean_close := false
    writer := .reading
    transmit := .next
    queue := sent
    cleartext_out := []
    ciphertext_out := []
    recv_done := []
    send_done := []
    accepted := []
    closeNotifyAt := none }

inductive Act where
  /-- The reader's read of the ciphertext stream returns. -/
  | transport (status : StreamResult) (buf : List UInt8)
  /-- The consumer takes bytes of the reader's write. -/
  | consume (n : ℕ)
  /-- The reader's write returns. -/
  | written
  /-- The writer's read of the cleartext stream returns. -/
  | cleartext (status : StreamResult) (buf : List UInt8)
  /-- The transmit task's wait for the next chunk, or for the last sender, returns. -/
  | dequeue
  /-- The transport takes bytes of the transmit task's write. -/
  | transmit (n : ℕ)
  /-- The transmit task's write returns. -/
  | transmitted

/-- The reader goes on to its next read, or ends with its verdict; ending drops its sender
of the transmit queue. -/
def Sys.readerNext (s : Sys C) (next : Option Verdict × Handshake) : Sys C :=
  match next.1 with
  | none => { s with handshake := next.2, reader := .reading }
  | some verdict =>
      { s with
        handshake := next.2
        reader := .ended
        recv_done := s.recv_done ++ [verdict] }

/-- The reader has fed one nonempty read. -/
def Sys.readerPassed (s : Sys C) (p : Pass C) (status : StreamResult) : Sys C :=
  let s' := { s with
    conn := p.conn
    handshake := p.handshake
    clean_close := p.clean_close
    queue := s.queue ++ p.sent }
  -- without plaintext there is no await before the decision
  if p.plaintext = [] then
    s'.readerNext (reader_decide p.handshake p.failed p.clean_close status)
  else { s' with reader := .writing p.plaintext p.failed status }

/-- The writer has handled one read. -/
def Sys.writerPassed (s : Sys C) (p : WriterPass C) (buf : List UInt8) : Sys C :=
  { s with
    conn := p.conn
    handshake := p.handshake
    queue := s.queue ++ p.sent
    writer := if p.verdict.isSome then .ended else .reading
    send_done := s.send_done ++ p.verdict.toList
    accepted := s.accepted ++ buf
    closeNotifyAt := p.closeNotifyAt }

def step (s : Sys C) : Act → Option (Sys C)
  | .transport status buf =>
      if s.reader = .reading ∧ buf.length ≤ CHUNK then
        if buf = [] then
          some (s.readerNext (reader_status s.handshake s.clean_close status))
        else some (s.readerPassed (reader_pass R s.handshake s.conn s.clean_close buf) status)
      else none
  | .consume n =>
      match s.reader with
      | .writing pending failed status =>
          some { s with
            cleartext_out := s.cleartext_out ++ pending.take n
            reader := .writing (pending.drop n) failed status }
      | _ => none
  | .written =>
      match s.reader with
      | .writing [] failed status =>
          some (s.readerNext (reader_decide s.handshake failed s.clean_close status))
      | _ => none
  | .cleartext status buf =>
      if s.writer = .reading ∧ buf.length ≤ CHUNK then
        some (s.writerPassed (writer_pass R s.handshake s.conn status buf) buf)
      else none
  | .dequeue =>
      match s.transmit, s.queue with
      | .next, bytes :: rest => some { s with transmit := .writing bytes, queue := rest }
      | .next, [] =>
          -- both producers are gone
          if s.reader = .ended ∧ s.writer = .ended then some { s with transmit := .ended }
          else none
      | _, _ => none
  | .transmit n =>
      match s.transmit with
      | .writing pending =>
          some { s with
            ciphertext_out := s.ciphertext_out ++ pending.take n
            transmit := .writing (pending.drop n) }
      | _ => none
  | .transmitted =>
      match s.transmit with
      | .writing [] => some { s with transmit := .next }
      | _ => none

/-! ## What a step can do -/

/-- Every step with its guard. The invariants below split on this and never unfold
`step`. -/
inductive Trans (s : Sys C) : Act → Sys C → Prop where
  | emptyRead {status : StreamResult} (hpc : s.reader = .reading) :
      Trans s (.transport status [])
        (s.readerNext (reader_status s.handshake s.clean_close status))
  | read {status : StreamResult} {buf : List UInt8} (hpc : s.reader = .reading)
      (hne : buf ≠ []) (hlen : buf.length ≤ CHUNK) :
      Trans s (.transport status buf)
        (s.readerPassed (reader_pass R s.handshake s.conn s.clean_close buf) status)
  | consume {pending : List UInt8} {failed : Option String} {status : StreamResult} {n : ℕ}
      (hpc : s.reader = .writing pending failed status) :
      Trans s (.consume n)
        { s with
          cleartext_out := s.cleartext_out ++ pending.take n
          reader := .writing (pending.drop n) failed status }
  | written {failed : Option String} {status : StreamResult}
      (hpc : s.reader = .writing [] failed status) :
      Trans s .written
        (s.readerNext (reader_decide s.handshake failed s.clean_close status))
  | cleartext {status : StreamResult} {buf : List UInt8} (hpc : s.writer = .reading)
      (hlen : buf.length ≤ CHUNK) :
      Trans s (.cleartext status buf)
        (s.writerPassed (writer_pass R s.handshake s.conn status buf) buf)
  | dequeue {bytes : List UInt8} {rest : List (List UInt8)} (hpc : s.transmit = .next)
      (hqueue : s.queue = bytes :: rest) :
      Trans s .dequeue { s with transmit := .writing bytes, queue := rest }
  | close (hpc : s.transmit = .next) (hqueue : s.queue = []) (hreader : s.reader = .ended)
      (hwriter : s.writer = .ended) : Trans s .dequeue { s with transmit := .ended }
  | transmit {pending : List UInt8} {n : ℕ} (hpc : s.transmit = .writing pending) :
      Trans s (.transmit n)
        { s with
          ciphertext_out := s.ciphertext_out ++ pending.take n
          transmit := .writing (pending.drop n) }
  | transmitted (hpc : s.transmit = .writing []) :
      Trans s .transmitted { s with transmit := .next }

theorem trans_of_step {R : Rustls C} {s s' : Sys C} {a : Act} (h : step R s a = some s') :
    Trans R s a s' := by
  cases a with
  | transport status buf =>
      by_cases hen : s.reader = .reading ∧ buf.length ≤ CHUNK
      · rw [step, if_pos hen] at h
        by_cases hbuf : buf = []
        · rw [if_pos hbuf, Option.some.injEq] at h
          subst h hbuf
          exact .emptyRead hen.1
        · rw [if_neg hbuf, Option.some.injEq] at h
          subst h
          exact .read hen.1 hbuf hen.2
      · simp [step, hen] at h
  | consume n =>
      cases hpc : s.reader with
      | writing pending failed status =>
          simp only [step, hpc, Option.some.injEq] at h
          subst h
          exact .consume hpc
      | _ => simp [step, hpc] at h
  | written =>
      cases hpc : s.reader with
      | writing pending failed status =>
          cases pending with
          | nil =>
              simp only [step, hpc, Option.some.injEq] at h
              subst h
              exact .written hpc
          | cons b bs => simp [step, hpc] at h
      | _ => simp [step, hpc] at h
  | cleartext status buf =>
      by_cases hen : s.writer = .reading ∧ buf.length ≤ CHUNK
      · rw [step, if_pos hen, Option.some.injEq] at h
        subst h
        exact .cleartext hen.1 hen.2
      · simp [step, hen] at h
  | dequeue =>
      cases hpc : s.transmit with
      | next =>
          cases hqueue : s.queue with
          | nil =>
              by_cases hgone : s.reader = .ended ∧ s.writer = .ended
              · simp only [step, hpc, hqueue, if_pos hgone, Option.some.injEq] at h
                subst h
                have hclose := Trans.close (R := R) hpc hqueue hgone.1 hgone.2
                rwa [hqueue] at hclose
              · simp [step, hpc, hqueue, hgone] at h
          | cons bytes rest =>
              simp only [step, hpc, hqueue, Option.some.injEq] at h
              subst h
              exact .dequeue hpc hqueue
      | _ => simp [step, hpc] at h
  | transmit n =>
      cases hpc : s.transmit with
      | writing pending =>
          simp only [step, hpc, Option.some.injEq] at h
          subst h
          exact .transmit hpc
      | _ => simp [step, hpc] at h
  | transmitted =>
      cases hpc : s.transmit with
      | writing pending =>
          cases pending with
          | nil =>
              simp only [step, hpc, Option.some.injEq] at h
              subst h
              exact .transmitted hpc
          | cons b bs => simp [step, hpc] at h
      | _ => simp [step, hpc] at h

/-! ## Peers that go away

A stream's `write_all` also returns, with what it could not deliver, when the other end of
the stream is dropped; the tasks do not look at what it returns. So the consumer dropping
the cleartext stream lets the reader go on, and the transport dropping the ciphertext
stream lets the transmit task go on. -/

/-- The steps of the tasks, and the two ways a peer may go away. -/
inductive Event where
  | act (a : Act)
  /-- The reader's write returns because the consumer dropped its end. -/
  | consumerGone
  /-- The transmit task's write returns because the transport dropped its end. -/
  | transportGone

/-- The system with peers that may go away. -/
def react (s : Sys C) : Event → Option (Sys C)
  | .act a => step R s a
  | .consumerGone =>
      match s.reader with
      | .writing _ failed status =>
          some (s.readerNext (reader_decide s.handshake failed s.clean_close status))
      | _ => none
  | .transportGone =>
      match s.transmit with
      | .writing _ => some { s with transmit := .next }
      | _ => none

/-- Every step with its guard, peers that go away included. A write to a stream nobody reads
returns at once, and the task goes on. -/
inductive React (s : Sys C) : Event → Sys C → Prop where
  | act {a : Act} {s' : Sys C} (h : Trans R s a s') : React s (.act a) s'
  | consumerGone {pending : List UInt8} {failed : Option String} {status : StreamResult}
      (hpc : s.reader = .writing pending failed status) :
      React s .consumerGone
        (s.readerNext (reader_decide s.handshake failed s.clean_close status))
  | transportGone {pending : List UInt8} (hpc : s.transmit = .writing pending) :
      React s .transportGone { s with transmit := .next }

theorem react_of_step {R : Rustls C} {s s' : Sys C} {e : Event} (h : react R s e = some s') :
    React R s e s' := by
  cases e with
  | act a => exact .act (trans_of_step h)
  | consumerGone =>
      cases hpc : s.reader with
      | writing pending failed status =>
          simp only [react, hpc, Option.some.injEq] at h
          rw [← h]
          exact .consumerGone hpc
      | _ => simp [react, hpc] at h
  | transportGone =>
      cases hpc : s.transmit with
      | writing pending =>
          simp only [react, hpc, Option.some.injEq] at h
          rw [← h]
          exact .transportGone hpc
      | _ => simp [react, hpc] at h

/-- A step by the task that makes it. What the transmit task does matters only to the
ciphertext stream. -/
inductive Moves (s : Sys C) : Event → Sys C → Prop where
  | emptyRead {status : StreamResult} (hpc : s.reader = .reading) :
      Moves s (.act (.transport status []))
        (s.readerNext (reader_status s.handshake s.clean_close status))
  | read {status : StreamResult} {buf : List UInt8} (hpc : s.reader = .reading) :
      Moves s (.act (.transport status buf))
        (s.readerPassed (reader_pass R s.handshake s.conn s.clean_close buf) status)
  | consume {e : Event} {pending : List UInt8} {failed : Option String}
      {status : StreamResult} {out rest : List UInt8}
      (hpc : s.reader = .writing pending failed status) :
      Moves s e { s with cleartext_out := out, reader := .writing rest failed status }
  | decide {e : Event} {pending : List UInt8} {failed : Option String}
      {status : StreamResult} (hpc : s.reader = .writing pending failed status) :
      Moves s e (s.readerNext (reader_decide s.handshake failed s.clean_close status))
  | cleartext {status : StreamResult} {buf : List UInt8} (hpc : s.writer = .reading)
      (hlen : buf.length ≤ CHUNK) :
      Moves s (.act (.cleartext status buf))
        (s.writerPassed (writer_pass R s.handshake s.conn status buf) buf)
  | transmit {e : Event} {pc : TransmitPc} {queue : List (List UInt8)} {out : List UInt8} :
      Moves s e { s with transmit := pc, queue := queue, ciphertext_out := out }

theorem moves_of_step {R : Rustls C} {s s' : Sys C} {e : Event} (h : react R s e = some s') :
    Moves R s e s' := by
  cases react_of_step h with
  | act h =>
      cases h with
      | emptyRead hpc => exact .emptyRead hpc
      | read hpc hne hlen => exact .read hpc
      | consume hpc => exact .consume hpc
      | written hpc => exact .decide hpc
      | cleartext hpc hlen => exact .cleartext hpc hlen
      | dequeue hpc hqueue => exact .transmit
      | close hpc hqueue hreader hwriter => exact .transmit
      | transmit hpc => exact .transmit
      | transmitted hpc => exact .transmit
  | consumerGone hpc => exact .decide hpc
  | transportGone hpc => exact .transmit

/-! ## What the reader's steps change -/

/-- What a decision of the reader changes. -/
theorem Sys.readerNext_eq (s : Sys C) (next : Option Verdict × Handshake) :
    s.readerNext next =
      { s with
        handshake := next.2
        reader := if next.1.isSome then .ended else .reading
        recv_done := s.recv_done ++ next.1.toList } := by
  obtain ⟨_ | verdict, h⟩ := next
  · simp [Sys.readerNext]
  · rfl

/-- A decision leaves the connection alone. -/
theorem Sys.readerNext_conn (s : Sys C) (next : Option Verdict × Handshake) :
    (s.readerNext next).conn = s.conn := by
  rw [Sys.readerNext_eq]

/-- What a nonempty read changes. -/
theorem Sys.readerPassed_eq (s : Sys C) (p : Pass C) (status : StreamResult) :
    ∃ handshake reader verdicts, s.readerPassed p status =
      { s with
        conn := p.conn
        handshake
        reader
        clean_close := p.clean_close
        queue := s.queue ++ p.sent
        recv_done := s.recv_done ++ verdicts } := by
  unfold Sys.readerPassed
  split
  · rw [Sys.readerNext_eq]
    exact ⟨_, _, _, rfl⟩
  · exact ⟨p.handshake, _, [], by rw [List.append_nil]⟩

/-! ## What the loops keep -/

/-- What `write_tls` keeps, draining keeps. -/
theorem drain_keeps {R : Rustls C} {P : C → Prop} (hkeep : ∀ c, P c → P (R.write_tls c).2)
    {c : C} (hc : P c) : P (drain_tls_writes R c).2 := by
  have hloop : ∀ n c, P c → P (drainLoop R n c).2 := by
    intro n
    induction n with
    | zero => exact fun c hc => hc
    | succ n ih =>
        intro c hc
        have hnext := hkeep c hc
        unfold drainLoop
        split
        · split
          case h_1 heq => rwa [heq] at hnext
          case h_2 heq =>
              rw [heq] at hnext
              exact ih _ hnext
          case h_3 heq => rwa [heq] at hnext
        · exact hc
  exact hloop _ c hc

/-- What `write` keeps, `write_all` keeps. -/
theorem write_all_keeps {R : Rustls C} {P : C → Prop}
    (hkeep : ∀ c buf, P c → P (R.write c buf).2) {c : C} (buf : List UInt8) (hc : P c) :
    P (write_all R c buf).2 := by
  have hloop : ∀ n c buf, P c → P (writeAllLoop R n c buf).2 := by
    intro n
    induction n with
    | zero => exact fun c buf hc => hc
    | succ n ih =>
        intro c buf hc
        have hnext := hkeep c buf hc
        unfold writeAllLoop
        split
        · exact hc
        · split
          case h_1 heq => rwa [heq] at hnext
          case h_2 heq =>
              rw [heq] at hnext
              exact ih _ _ hnext
          case h_3 heq => rwa [heq] at hnext
  exact hloop _ c buf hc

/-- The connections reached by calls of rustls's operations. -/
abbrev Calls (R : Rustls C) : C → C → Prop := Relation.ReflTransGen R.Call

/-- Draining is a sequence of calls, as are the loops below; what holds of every call then
holds of a whole pass. -/
theorem drain_calls {R : Rustls C} (c : C) : Calls R c (drain_tls_writes R c).2 :=
  drain_keeps (P := Calls R c) (fun _ hc => hc.tail .write_tls) .refl

theorem readLoop_calls {R : Rustls C} (n : ℕ) (c : C) : Calls R c (readLoop R n c).2 := by
  induction n generalizing c with
  | zero => exact .refl
  | succ n ih =>
      have hread : R.Call c (R.read c CHUNK).2 := .read CHUNK
      unfold readLoop
      split
      case h_1 heq =>
          rw [heq] at hread
          exact .single hread
      case h_2 c' _ heq =>
          rw [heq] at hread
          exact .head hread (ih c')
      case h_3 heq =>
          rw [heq] at hread
          exact .single hread

theorem feedLoop_calls {R : Rustls C} (n : ℕ) (cursor : List UInt8) (f : Feed C) :
    Calls R f.conn (feedLoop R n cursor f).conn := by
  induction n generalizing cursor f with
  | zero => exact .refl
  | succ n ih =>
      have hread : R.Call f.conn (R.read_tls f.conn cursor).2 := .read_tls cursor
      unfold feedLoop
      split
      · exact .refl
      · split
        case h_1 heq =>
            rw [heq] at hread
            exact .single hread
        case h_2 heq =>
            rw [heq] at hread
            exact .single hread
        case h_3 k c _ heq =>
            rw [heq] at hread
            have hproc : R.Call c (R.process_new_packets c).2 := .process_new_packets
            split
            case h_1 b c' heq' =>
                rw [heq'] at hproc
                have hrest := ih (cursor.drop k)
                  { f with
                    conn := (drain_tls_writes R c').2
                    sent := f.sent ++ (drain_tls_writes R c').1
                    clean_close := f.clean_close || b }
                exact .head hread (.head hproc ((drain_calls c').trans hrest))
            case h_2 e c' heq' =>
                rw [heq'] at hproc
                exact .head hread (.head hproc (drain_calls c'))

/-- A pass of the reader: the connection the handshake is checked on is reached by calls,
and the connection the pass leaves by more of them. -/
theorem reader_pass_calls {R : Rustls C} (h : Handshake) (c : C) (clean_close : Bool)
    (buf : List UInt8) :
    Calls R c (feedLoop R buf.length buf ⟨c, [], clean_close, none⟩).conn ∧
    Calls R (feedLoop R buf.length buf ⟨c, [], clean_close, none⟩).conn
      (reader_pass R h c clean_close buf).conn := by
  refine ⟨feedLoop_calls _ _ ⟨c, [], clean_close, none⟩, ?_⟩
  unfold reader_pass
  generalize feedLoop R buf.length buf ⟨c, [], clean_close, none⟩ = f
  exact readLoop_calls _ f.conn

theorem writer_status_calls {R : Rustls C} (p : WriterPass C) (status : StreamResult) :
    Calls R p.conn (writer_status R p status).conn := by
  unfold writer_status
  split
  · exact .head .send_close_notify (drain_calls _)
  · exact .refl

/-- A pass of the writer: the handshake is left alone, or checked on a connection reached
by calls. -/
theorem writer_pass_calls {R : Rustls C} (h : Handshake) (c : C) (status : StreamResult)
    (buf : List UInt8) : ∃ c₁, Calls R c c₁ ∧
      Calls R c₁ (writer_pass R h c status buf).conn ∧
      ((writer_pass R h c status buf).handshake = h ∨
        (writer_pass R h c status buf).handshake = h.check R c₁) := by
  have hstatus : ∀ p : WriterPass C, (writer_status R p status).handshake = p.handshake := by
    intro p
    unfold writer_status
    split <;> rfl
  have hwrite : Calls R c (write_all R c buf).2 :=
    write_all_keeps (P := Calls R c) (fun _ buf' hc => hc.tail (.write buf')) buf .refl
  unfold writer_pass
  split
  · exact ⟨c, .refl, writer_status_calls ⟨c, [], h, none, none⟩ status, .inl (hstatus _)⟩
  · split
    case h_1 e c' heq =>
        rw [heq] at hwrite
        exact ⟨c', hwrite, .refl, .inl rfl⟩
    case h_2 c' heq =>
        rw [heq] at hwrite
        refine ⟨(drain_tls_writes R c').2, hwrite.trans (drain_calls c'), ?_, .inr (hstatus _)⟩
        exact writer_status_calls ⟨(drain_tls_writes R c').2, (drain_tls_writes R c').1,
          h.check R (drain_tls_writes R c').2, none, none⟩ status

/-! ## How the writer ends -/

/-- A pass that has asked for `close_notify` has reached the end of the stream. -/
structure WriterPass.Ends (p : WriterPass C) (status : StreamResult) : Prop where
  ok_iff : p.verdict = some (.ok ()) ↔ p.closeNotifyAt ≠ none
  ends : p.closeNotifyAt ≠ none → status.ends = true

/-- Where the writer asks for the close it also reports `Ok`. -/
theorem writer_status_ends {R : Rustls C} {p : WriterPass C} (status : StreamResult)
    (hverdict : p.verdict = none) (hasked : p.closeNotifyAt = none) :
    (writer_status R p status).Ends status := by
  unfold writer_status
  split
  case isTrue hends => exact ⟨by simp, fun _ => hends⟩
  case isFalse =>
      constructor
      · rw [hverdict, hasked]
        simp
      · rw [hasked]
        exact fun h => absurd rfl h

/-- **The writer reports `Ok` exactly where it asks for `close_notify`**, and it asks only
at the end of its stream. -/
theorem writer_pass_ends {R : Rustls C} (h : Handshake) (c : C) (status : StreamResult)
    (buf : List UInt8) : (writer_pass R h c status buf).Ends status := by
  unfold writer_pass
  split
  · exact writer_status_ends status rfl rfl
  · split
    · exact ⟨by simp, fun hasked => absurd rfl hasked⟩
    · exact writer_status_ends status rfl rfl

end PolymorphTls.Pump

/-
The end of a connection: two joined pumps always wind down.

`Loopback::shutdown` awaits the four direction futures one after the other and relies on
the pumps running detached, so that "sequential awaits cannot deadlock". What that needs is
that no task waits for another one for ever: the transmit task waits for the reader and the
writer to be gone, the reader for its consumer, and all of them share one connection.

Once the inputs have ended -- every read of a transport or of a cleartext stream returns the
end, with or without last bytes -- and the outputs are taken or dropped, every run of the
two pumps is finite, in any interleaving, and it can only stop where all six tasks have
ended with one verdict for each direction, nothing undelivered and nothing untransmitted
(`shutdown_settles`).

The measure is lexicographic. A task that ends, or goes on to its last write, may hand on
any amount of output, so the tasks come first and the bytes still to be moved second.
-/
import PolymorphTls.Loopback

set_option autoImplicit false

namespace PolymorphTls.Shutdown

open Pump PumpSend Loopback

variable {C : Type} {R : Rustls C}

/-! ## Winding down -/

/-- Reads return the end, and whoever takes bytes takes some. Peers may also leave. -/
def Draining (s : Pump.Sys C) : Event → Prop
  | .act (.transport status _) => status.ends = true
  | .act (.cleartext status _) => status.ends = true
  | .act (.consume n) => ∀ pending failed status,
      s.reader = .writing pending failed status → pending.take n ≠ []
  | .act (.transmit n) => ∀ pending, s.transmit = .writing pending → pending.take n ≠ []
  | _ => True

/-- The same for the two ends. -/
def WindsDown (s : Loopback.Sys C) (e : Side × Event) : Prop := Draining (s e.1).pump e.2

/-- One end is over: its three tasks have ended, each direction has its verdict, and whoever
stayed has got everything. -/
structure Over (produced decrypted : C → List UInt8) (x : End C) : Prop where
  reader : x.pump.reader = .ended
  writer : x.pump.writer = .ended
  transmit : x.pump.transmit = .ended
  received : x.pump.recv_done.length = 1
  sent : x.pump.send_done.length = 1
  delivered : x.consumerLeft = false → x.pump.cleartext_out = decrypted x.pump.conn
  transmitted : x.transportLeft = false → x.pump.ciphertext_out = produced x.pump.conn

/-! ## The verdicts -/

/-- A direction has one verdict if its task has ended, and none before. -/
structure Verdicts (s : Pump.Sys C) : Prop where
  reader : if s.reader = .ended then s.recv_done.length = 1 else s.recv_done = []
  writer : if s.writer = .ended then s.send_done.length = 1 else s.send_done = []

/-- Ending and resolving are one step of the reader. -/
theorem verdicts_readerNext {s : Pump.Sys C} (next : Option Verdict × Handshake)
    (hnone : s.recv_done = [])
    (hw : if s.writer = .ended then s.send_done.length = 1 else s.send_done = []) :
    Verdicts (s.readerNext next) := by
  obtain ⟨_ | verdict, h⟩ := next
  · exact ⟨by simpa [Sys.readerNext] using hnone, hw⟩
  · exact ⟨by simp [Sys.readerNext, hnone], hw⟩

/-- Each task resolves its own direction once, where it ends. -/
theorem verdicts_react {s s' : Pump.Sys C} {e : Event} (hi : Verdicts s)
    (h : react R s e = some s') : Verdicts s' := by
  have hopen : s.reader ≠ .ended → s.recv_done = [] := by
    intro hne
    have hr := hi.reader
    rwa [if_neg hne] at hr
  cases moves_of_step h with
  | emptyRead hpc => exact verdicts_readerNext _ (hopen (by simp [hpc])) hi.writer
  | @read status buf hpc =>
      have hnone := hopen (by simp [hpc])
      generalize reader_pass R s.handshake s.conn s.clean_close buf = p
      unfold Sys.readerPassed
      split
      · exact verdicts_readerNext _ hnone hi.writer
      · exact ⟨by simpa using hnone, hi.writer⟩
  | consume hpc => exact ⟨by simpa using hopen (by simp [hpc]), hi.writer⟩
  | decide hpc => exact verdicts_readerNext _ (hopen (by simp [hpc])) hi.writer
  | @cleartext status buf hpc hlen =>
      have hnone : s.send_done = [] := by
        have hw := hi.writer
        rwa [if_neg (by simp [hpc])] at hw
      refine ⟨hi.reader, ?_⟩
      generalize writer_pass R s.handshake s.conn status buf = p
      unfold Sys.writerPassed
      cases p.verdict <;> simp [hnone]
  | transmit => exact ⟨hi.reader, hi.writer⟩

/-! ## The measure -/

/-- What the reader still has to do. A write whose read has not ended may be followed by
another read. -/
def readerWeight : ReaderPc → ℕ
  | .reading => 2
  | .writing _ _ status => if status.ends then 1 else 3
  | .ended => 0

/-- The writer has one read left, or none. -/
def writerWeight : WriterPc → ℕ
  | .reading => 1
  | .ended => 0

/-- What the reader and the writer still have to do. -/
def tasks (s : Pump.Sys C) : ℕ := readerWeight s.reader + writerWeight s.writer

/-- The bytes the reader has in its hands. -/
def readerBytes : ReaderPc → ℕ
  | .writing pending _ _ => pending.length
  | .reading | .ended => 0

/-- What the transmit task has in its hands; looking for the next chunk counts one. -/
def transmitWeight : TransmitPc → ℕ
  | .next => 1
  | .writing pending => pending.length + 2
  | .ended => 0

/-- A queued chunk weighs what it will weigh in the task's hands, so taking it up is
progress: the task has stopped looking. -/
def queueWeight : List (List UInt8) → ℕ
  | [] => 0
  | chunk :: rest => chunk.length + 2 + queueWeight rest

/-- What is still to be moved. -/
def bytes (s : Pump.Sys C) : ℕ :=
  readerBytes s.reader + transmitWeight s.transmit + queueWeight s.queue

/-- A task got further, or the tasks stay where they are and bytes moved. The first may make
bytes, a close for one, so the order is lexicographic. -/
def Less (s' s : Pump.Sys C) : Prop :=
  tasks s' < tasks s ∨ tasks s' = tasks s ∧ bytes s' < bytes s

/-- Taking bytes leaves less. -/
theorem length_drop_lt {pending : List UInt8} {n : ℕ} (h : pending.take n ≠ []) :
    (pending.drop n).length < pending.length := by
  have hsplit := congrArg List.length (List.take_append_drop n pending)
  have hpos := List.length_pos_iff.mpr h
  rw [List.length_append] at hsplit
  omega

/-- The reader goes on to its next read only if its last one did not end. -/
theorem reader_decide_ends {h : Handshake} {failed : Option String} {clean_close : Bool}
    {status : StreamResult} (hnone : (reader_decide h failed clean_close status).1 = none) :
    status.ends = false := by
  unfold reader_decide reader_status at hnone
  cases failed with
  | some message => simp at hnone
  | none => cases clean_close <;> cases hends : status.ends <;> simp [hends] at hnone ⊢

/-- What deciding leaves to do: a last read leads to no other one. -/
theorem tasks_readerNext (s : Pump.Sys C) (next : Option Verdict × Handshake) :
    tasks (s.readerNext next) = (if next.1 = none then 2 else 0) + writerWeight s.writer := by
  obtain ⟨_ | verdict, h⟩ := next <;> rfl

/-- The writer ends with the stream it reads. -/
theorem writer_pass_verdict (h : Handshake) (c : C) {status : StreamResult} (buf : List UInt8)
    (hends : status.ends = true) : (writer_pass R h c status buf).verdict ≠ none := by
  have hstatus : ∀ p : WriterPass C, (writer_status R p status).verdict ≠ none := by
    intro p
    rw [writer_status, if_pos hends]
    simp
  unfold writer_pass
  split
  · exact hstatus _
  · split
    · simp
    · exact hstatus _

/-- A decision of the reader about a write. -/
theorem less_decide {s : Pump.Sys C} {pending : List UInt8} {failed : Option String}
    {status : StreamResult} (hpc : s.reader = .writing pending failed status) (h : Handshake) :
    Less (s.readerNext (reader_decide h failed s.clean_close status)) s := by
  left
  rw [tasks_readerNext, tasks, hpc, readerWeight]
  split
  · rename_i hnone
    rw [reader_decide_ends hnone, if_neg (by decide)]
    omega
  · split <;> omega

/-- A last read. -/
theorem less_read {s : Pump.Sys C} {status : StreamResult} (p : Pass C)
    (hpc : s.reader = .reading) (hends : status.ends = true) :
    Less (s.readerPassed p status) s := by
  left
  have hbefore : tasks s = 2 + writerWeight s.writer := by rw [tasks, hpc, readerWeight]
  rw [hbefore]
  unfold Sys.readerPassed
  split
  · have hsome : (reader_decide p.handshake p.failed p.clean_close status).1 ≠ none := by
      intro hnone
      rw [reader_decide_ends hnone] at hends
      exact absurd hends (by decide)
    show tasks (Sys.readerNext _ _) < _
    rw [tasks_readerNext, if_neg hsome]
    exact Nat.add_lt_add_right (by omega) _
  · show readerWeight (.writing p.plaintext p.failed status) + writerWeight s.writer < _
    rw [readerWeight, if_pos hends]
    omega

/-- Every step under the condition gets further. -/
theorem less_react {s s' : Pump.Sys C} {e : Event} (hd : Draining s e)
    (h : react R s e = some s') : Less s' s := by
  cases react_of_step h with
  | act h =>
      cases h with
      | @emptyRead status hpc =>
          -- the peer is gone, so the reader has its verdict and does not read again
          left
          have hends : status.ends = true := hd
          have hsome : (reader_status s.handshake s.clean_close status).1 ≠ none := by
            rw [reader_status, if_pos hends]
            split <;> simp
          rw [tasks_readerNext, if_neg hsome, tasks, hpc, readerWeight]
          omega
      | read hpc hne hlen => exact less_read _ hpc hd
      | @consume pending failed status n hpc =>
          right
          have hless := length_drop_lt (hd pending failed status hpc)
          unfold tasks bytes
          rw [hpc]
          refine ⟨rfl, ?_⟩
          show (pending.drop n).length + transmitWeight s.transmit + queueWeight s.queue
            < pending.length + transmitWeight s.transmit + queueWeight s.queue
          omega
      | written hpc => exact less_decide hpc _
      | @cleartext status buf hpc hlen =>
          -- the consumer's stream has ended, so this pass of the writer is its last
          left
          have hsome := writer_pass_verdict (R := R) s.handshake s.conn buf hd
          unfold tasks Sys.writerPassed
          rw [if_pos (Option.isSome_iff_ne_none.mpr hsome), hpc]
          show readerWeight s.reader + 0 < readerWeight s.reader + 1
          omega
      | @dequeue chunk rest hpc hqueue =>
          -- a chunk weighs more in the queue than on its way out
          right
          unfold tasks bytes
          rw [hpc, hqueue]
          refine ⟨rfl, ?_⟩
          show readerBytes s.reader + (chunk.length + 2) + queueWeight rest
            < readerBytes s.reader + 1 + ((chunk.length + 2) + queueWeight rest)
          omega
      | close hpc hqueue hreader hwriter =>
          right
          unfold tasks bytes
          rw [hpc]
          refine ⟨rfl, ?_⟩
          show readerBytes s.reader + 0 + queueWeight s.queue
            < readerBytes s.reader + 1 + queueWeight s.queue
          omega
      | @transmit pending n hpc =>
          right
          have hless := length_drop_lt (hd pending hpc)
          unfold tasks bytes
          rw [hpc]
          refine ⟨rfl, ?_⟩
          show readerBytes s.reader + ((pending.drop n).length + 2) + queueWeight s.queue
            < readerBytes s.reader + (pending.length + 2) + queueWeight s.queue
          omega
      | transmitted hpc =>
          right
          unfold tasks bytes
          rw [hpc]
          refine ⟨rfl, ?_⟩
          show readerBytes s.reader + 1 + queueWeight s.queue
            < readerBytes s.reader + (0 + 2) + queueWeight s.queue
          omega
  | consumerGone hpc => exact less_decide hpc _
  | @transportGone pending hpc =>
      right
      unfold tasks bytes
      rw [hpc]
      refine ⟨rfl, ?_⟩
      show readerBytes s.reader + 1 + queueWeight s.queue
        < readerBytes s.reader + (pending.length + 2) + queueWeight s.queue
      omega

/-! ## Where it stops -/

/-- An end that cannot go on is over. The transmit task waits for the queue's senders, so it
is last, and it can be stuck only after both of them. -/
theorem ended_of_stuck {ciphertext : List UInt8} {x : End C}
    (hstuck : ∀ e, Draining x.pump e → x.step R ciphertext e = none) :
    x.pump.reader = .ended ∧ x.pump.writer = .ended ∧ x.pump.transmit = .ended := by
  have hnone : ∀ e, Draining x.pump e → x.allows ciphertext e = true → react R x.pump e = none := by
    intro e hd hallows
    have h := hstuck e hd
    rwa [End.step, if_pos hallows, Option.map_eq_none_iff] at h
  have hreader : x.pump.reader = .ended := by
    cases hpc : x.pump.reader with
    | reading =>
        have h := hnone (.act (.transport .Dropped [])) rfl rfl
        simp [react, Pump.step, hpc] at h
    | writing pending failed status =>
        -- the consumer may always leave
        have h := hnone .consumerGone trivial rfl
        simp [react, hpc] at h
    | ended => rfl
  have hwriter : x.pump.writer = .ended := by
    cases hpc : x.pump.writer with
    | reading =>
        have h := hnone (.act (.cleartext .Dropped [])) rfl rfl
        simp [react, Pump.step, hpc] at h
    | ended => rfl
  refine ⟨hreader, hwriter, ?_⟩
  cases hpc : x.pump.transmit with
  | next =>
      have h := hnone (.act .dequeue) trivial rfl
      cases hqueue : x.pump.queue <;> simp [react, Pump.step, hpc, hqueue, hreader, hwriter] at h
  | writing pending =>
      have h := hnone .transportGone trivial rfl
      simp [react, hpc] at h
  | ended => rfl

section Settles

variable {produced early appdata decrypted : C → List UInt8} {closed : C → Bool}
  {finished : C → Option (List UInt8)}

/-- The books of both ends, and their verdicts. -/
structure Inv (R : Rustls C) (produced early appdata decrypted : C → List UInt8)
    (closed : C → Bool) (finished : C → Option (List UInt8)) (s : Loopback.Sys C) : Prop where
  books : ∀ x, Books R produced early appdata decrypted closed finished (s x)
  verdicts : ∀ x, Verdicts (s x).pump

/-- An end whose tasks have ended owes nothing: the books say what its verdicts mean. -/
theorem over_of_ended {x : End C} (hb : Books R produced early appdata decrypted closed finished x)
    (hv : Verdicts x.pump) (hreader : x.pump.reader = .ended) (hwriter : x.pump.writer = .ended)
    (htransmit : x.pump.transmit = .ended) : Over produced decrypted x := by
  have hr := hv.reader
  have hw := hv.writer
  rw [if_pos hreader] at hr
  rw [if_pos hwriter] at hw
  refine ⟨hreader, hwriter, htransmit, hr, hw, fun hstays => ?_, fun hstays => ?_⟩
  · have htruth := PumpReceive.truthful_of_inv hb.receiving.books
    exact htruth.delivered hstays (htruth.resolves.mp hreader)
  · have hinv := hb.wired.books hstays
    have hbooks := hinv.in_order
    rw [htransmit, (hinv.closed htransmit).1, PumpTransmit.inflight, List.flatten_nil,
      List.append_nil, List.append_nil] at hbooks
    exact hbooks

variable (hR : R.Receives decrypted closed) (hS : R.Sends early appdata)
  (hO : R.Outputs produced) (hF : R.Finishes appdata finished)
include hR hS hO hF

theorem inv_init {client server : C}
    (hc : Fresh R produced early appdata decrypted closed finished client)
    (hs : Fresh R produced early appdata decrypted closed finished server) :
    Inv R produced early appdata decrypted closed finished (Loopback.Sys.init R client server) := by
  refine ⟨fun x => ?_, fun x => ?_⟩
  · cases x with
    | Client => exact books_init hR hS hO hF hc
    | Server => exact books_init hR hS hO hF hs
  · cases x <;> exact ⟨by simp [Loopback.Sys.init, Pump.Sys.init],
      by simp [Loopback.Sys.init, Pump.Sys.init]⟩

theorem inv_step {s s' : Loopback.Sys C} {e : Side × Event}
    (hi : Inv R produced early appdata decrypted closed finished s)
    (h : Loopback.step R s e = some s') :
    Inv R produced early appdata decrypted closed finished s' := by
  unfold Loopback.step at h
  rw [Option.map_eq_some_iff] at h
  obtain ⟨x', hstep, rfl⟩ := h
  obtain ⟨hallows, pump, hreact, rfl⟩ := End.step_eq_some hstep
  refine ⟨fun x => ?_, fun x => ?_⟩
  · by_cases hx : x = e.1
    · rw [hx, Function.update_self]
      exact books_step hR hS hO hF (hi.books e.1) hallows hreact
    · rw [Function.update_of_ne hx]
      exact hi.books x
  · by_cases hx : x = e.1
    · rw [hx, Function.update_self, End.after_pump]
      exact verdicts_react (hi.verdicts e.1) hreact
    · rw [Function.update_of_ne hx]
      exact hi.verdicts x

omit hR hS hO hF in
/-- What both ends still have to do. -/
def measure (s : Loopback.Sys C) : ℕ × ℕ :=
  (tasks (s .Client).pump + tasks (s .Server).pump, bytes (s .Client).pump + bytes (s .Server).pump)

omit hR hS hO hF in
/-- A step of the system is a step of one of the ends. -/
theorem measure_step {s s' : Loopback.Sys C} {e : Side × Event} (hd : WindsDown s e)
    (h : Loopback.step R s e = some s') :
    Prod.Lex (· < ·) (· < ·) (measure s') (measure s) := by
  obtain ⟨me, e⟩ := e
  unfold Loopback.step at h
  rw [Option.map_eq_some_iff] at h
  obtain ⟨x', hstep, rfl⟩ := h
  obtain ⟨-, pump, hreact, rfl⟩ := End.step_eq_some hstep
  have hless := less_react hd hreact
  unfold measure
  rw [Prod.lex_def]
  cases me with
  | Client =>
      rw [Function.update_self, Function.update_of_ne (by simp), End.after_pump]
      rcases hless with h | ⟨h1, h2⟩
      · exact .inl (Nat.add_lt_add_right h _)
      · exact .inr ⟨congrArg (· + _) h1, Nat.add_lt_add_right h2 _⟩
  | Server =>
      rw [Function.update_self, Function.update_of_ne (by simp), End.after_pump]
      rcases hless with h | ⟨h1, h2⟩
      · exact .inl (Nat.add_lt_add_left h _)
      · exact .inr ⟨congrArg (_ + ·) h1, Nat.add_lt_add_left h2 _⟩

/-- **The pumps wind down.** From every state two joined pumps can reach, every run in which
reads return the end and written bytes are taken or dropped is finite, and it stops only
where all tasks have ended with one verdict for each direction, and whoever stayed has got
everything. -/
theorem shutdown_settles (client server : C)
    (hc : Fresh R produced early appdata decrypted closed finished client)
    (hs : Fresh R produced early appdata decrypted closed finished server)
    (events : List (Side × Event)) (s : Loopback.Sys C)
    (hrun : Lts.run (Loopback.step R) (Loopback.Sys.init R client server) events = some s) :
    Lts.Settles (Loopback.step R) WindsDown (fun s => ∀ x, Over produced decrypted (s x)) s := by
  have hinv : Inv R produced early appdata decrypted closed finished s :=
    Lts.Always.last (Lts.always_of_invariant (inv_init hR hS hO hF hc hs)
      (inv_step hR hS hO hF) id) hrun
  refine Lts.settles_of_measure (Prod.lex Nat.lt_wfRel Nat.lt_wfRel).wf measure
    (fun hi hd h => ⟨inv_step hR hS hO hF hi h, measure_step hd h⟩) ?_ hinv
  intro s hi hstuck x
  have hnone : ∀ e, Draining (s x).pump e →
      (s x).step R (s x.peer).pump.ciphertext_out e = none := by
    intro e hd
    have h := hstuck (x, e) hd
    rwa [Loopback.step, Option.map_eq_none_iff] at h
  obtain ⟨hreader, hwriter, htransmit⟩ := ended_of_stuck hnone
  exact over_of_ended (hi.books x) (hi.verdicts x) hreader hwriter htransmit

end Settles

/-- A client that has written two bytes into a handshake nobody answers: the connection
still comes to its end. -/
theorem shutdown_of_unanswered_client :
    ∃ s, Lts.run (Loopback.step PlainTls.rustls)
        (Loopback.Sys.init PlainTls.rustls .fresh .fresh)
        [(.Client, .act (.cleartext .Complete [104, 105]))] = some s ∧
      ∃ events s', Lts.run (Loopback.step PlainTls.rustls) s events = some s' ∧
        ∀ x, Over PlainTls.Conn.produced PlainTls.Conn.decrypted (s' x) := by
  have hfresh : Fresh PlainTls.rustls PlainTls.Conn.produced PlainTls.Conn.early
      PlainTls.Conn.appdata PlainTls.Conn.decrypted PlainTls.Conn.closed PlainTls.Conn.finished
      .fresh := ⟨rfl, rfl, rfl, rfl, rfl, rfl⟩
  obtain ⟨s, hrun⟩ : ∃ s, Lts.run (Loopback.step PlainTls.rustls)
      (Loopback.Sys.init PlainTls.rustls .fresh .fresh)
      [(.Client, .act (.cleartext .Complete [104, 105]))] = some s := ⟨_, rfl⟩
  exact ⟨s, hrun, (shutdown_settles PlainTls.receives PlainTls.sends PlainTls.outputs
    PlainTls.finishes .fresh .fresh hfresh hfresh _ s hrun).exists_run⟩

end PolymorphTls.Shutdown

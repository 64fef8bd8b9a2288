/-
The start of a connection: two joined pumps cannot deadlock in the handshake.

`connect` and `accept` wait for the oneshot of `pump.rs`, and they are awaited together
(`futures::join!` in `conformance/guest-ct/src/support.rs`) while nobody reads or writes any
cleartext yet. Each side's handshake needs the other side's flights, so both pumps have to
go on by themselves: the first flight must be sent before any input arrives, every reply
rustls has must be drained, and a completed handshake must be signalled wherever it
completes.

Wherever the two pumps and the network between them can do nothing more -- every flight
delivered, every write returned, whatever the consumers and the schedule did before --
both signals have been sent, and both are `Ok`, unless a connection was lost: a reader has
ended or a transport has dropped the ciphertext stream (`handshake_never_deadlocks`).

What TLS adds is that two connections that know everything the other one said have
completed their handshake (`Rustls.Meets`). What the pumps add is that nothing is left
behind: in such a state all of the output has been queued, transmitted, read and processed
(`Loopback.Inv`), and a connection that is ready has been checked (`Told`).
-/
import PolymorphTls.Loopback

set_option autoImplicit false

namespace PolymorphTls.Handshaking

open Pump PumpSend Loopback

variable {C : Type} {R : Rustls C}

/-! ## Doing nothing more -/

/-- What happens without the consumers: the network delivers bytes, whoever takes bytes
takes some, and a write to a dropped stream returns. A step that moves no byte is left out,
it could be taken forever. -/
def Delivers (x : End C) : Event → Prop
  | .act (.transport status buf) => status = .Complete ∧ buf ≠ []
  | .act (.consume n) => ∀ pending failed status,
      x.pump.reader = .writing pending failed status → pending.take n ≠ []
  | .act (.transmit n) => ∀ pending, x.pump.transmit = .writing pending → pending.take n ≠ []
  | .act .written | .act .dequeue | .act .transmitted => True
  | .act (.cleartext _ _) => False
  | .consumerGone => x.consumerLeft = true
  | .transportGone => x.transportLeft = true

/-- Nothing more happens by itself. -/
def Still (R : Rustls C) (s : Loopback.Sys C) : Prop :=
  ∀ x e, Delivers (s x) e → Loopback.step R s (x, e) = none

/-- The connection of this end is over: its reader has ended, or its output goes nowhere.
Then the other end may wait in vain, and nothing here says it does not. -/
def Lost (x : End C) : Prop := x.pump.reader = .ended ∨ x.transportLeft = true

/-! ## The signal -/

/-- The books of the oneshot. Before the reader has ended only `Ok` is sent, since it is the
reader's exits that fail it. -/
def Heard (ended : Prop) (h : Handshake) : Prop :=
  if h.sender then h.sent = []
  else ∃ signal, h.sent = [signal] ∧ (ended ∨ ∃ outcome, signal = .ok outcome)

/-- They are right about any connection that is ready no sooner. -/
theorem Heard.mono {p q : Prop} {h : Handshake} (hpq : p → q) (hh : Heard p h) : Heard q h := by
  unfold Heard at hh ⊢
  split
  · rename_i hsender
    rwa [if_pos hsender] at hh
  · rename_i hsender
    rw [if_neg hsender] at hh
    obtain ⟨signal, hsent, hp | hok⟩ := hh
    · exact ⟨signal, hsent, .inl (hpq hp)⟩
    · exact ⟨signal, hsent, .inr hok⟩

/-- A check sends the signal of a completed handshake and never takes it back. -/
theorem heard_check {p : Prop} {h : Handshake} (c : C) (hh : Heard p h) :
    Heard p (h.check R c) ∧ (R.is_handshaking c = false → (h.check R c).sender = false) ∧
      (h.sender = false → (h.check R c).sender = false) := by
  unfold Handshake.check
  split
  · rename_i hhand
    exact ⟨hh, fun hready => absurd (hready.symm.trans hhand) (by decide), id⟩
  · split
    · rename_i hsender
      rw [Heard, if_pos hsender] at hh
      refine ⟨?_, fun _ => rfl, fun _ => rfl⟩
      rw [Heard, if_neg Bool.false_ne_true, hh]
      exact ⟨_, rfl, .inr ⟨_, rfl⟩⟩
    · rename_i hsender
      rw [Bool.not_eq_true] at hsender
      exact ⟨hh, fun _ => hsender, id⟩

/-- A failure is sent only with the reader at its end. -/
theorem heard_fail {p : Prop} {h : Handshake} (message : String) (hh : Heard p h) :
    Heard True (h.fail message) ∧ (h.fail message).sender = false := by
  unfold Handshake.fail
  split
  · rename_i hsender
    rw [Heard, if_pos hsender] at hh
    refine ⟨?_, rfl⟩
    rw [Heard, if_neg Bool.false_ne_true, hh]
    exact ⟨_, rfl, .inl trivial⟩
  · rename_i hsender
    rw [Bool.not_eq_true] at hsender
    exact ⟨hh.mono fun _ => trivial, hsender⟩

/-- The reader fails the signal only where it ends. -/
theorem reader_status_handshake (h : Handshake) (clean_close : Bool) (status : StreamResult) :
    (reader_status h clean_close status).2 = h ∨ (reader_status h clean_close status).1 ≠ none ∧
      ∃ message, (reader_status h clean_close status).2 = h.fail message := by
  unfold reader_status
  split
  · split
    · exact .inl rfl
    · exact .inr ⟨by simp, _, rfl⟩
  · exact .inl rfl

theorem reader_decide_handshake (h : Handshake) (failed : Option String) (clean_close : Bool)
    (status : StreamResult) :
    (reader_decide h failed clean_close status).2 = h ∨
      (reader_decide h failed clean_close status).1 ≠ none ∧
      ∃ message, (reader_decide h failed clean_close status).2 = h.fail message := by
  unfold reader_decide
  split
  · exact .inr ⟨by simp, _, rfl⟩
  · split
    · exact .inl rfl
    · exact reader_status_handshake h clean_close status

/-- A connection that is ready has been signalled, and the transmit task outlives the
reader. -/
structure Told (R : Rustls C) (s : Pump.Sys C) : Prop where
  heard : Heard (s.reader = .ended) s.handshake
  told : R.is_handshaking s.conn = false → s.handshake.sender = false
  outlives : s.transmit = .ended → s.reader = .ended

/-- The reader goes on or ends. -/
theorem told_readerNext {s : Pump.Sys C} {next : Option Verdict × Handshake} {h : Handshake}
    (hh : Heard False h) (htold : R.is_handshaking s.conn = false → h.sender = false)
    (hopen : s.transmit ≠ .ended)
    (hnext : next.2 = h ∨ next.1 ≠ none ∧ ∃ message, next.2 = h.fail message) :
    Told R (s.readerNext next) := by
  obtain ⟨verdict, h'⟩ := next
  rcases hnext with rfl | ⟨hsome, message, rfl⟩
  · cases verdict with
    | none => exact ⟨hh.mono False.elim, htold, fun hended => absurd hended hopen⟩
    | some verdict => exact ⟨hh.mono False.elim, htold, fun _ => rfl⟩
  · obtain ⟨hfail, hsent⟩ := heard_fail message hh
    cases verdict with
    | none => exact absurd rfl hsome
    | some verdict => exact ⟨hfail.mono fun _ => rfl, fun _ => hsent, fun _ => rfl⟩

section Calls

variable {early appdata : C → List UInt8} (hS : R.Sends early appdata)
include hS

/-- Writing leaves the handshake where it is. -/
theorem write_handshaking (c : C) (buf : List UInt8) :
    R.is_handshaking (R.write c buf).2 = R.is_handshaking c := by
  cases hhand : R.is_handshaking c with
  | true => exact (hS.write_early c buf hhand).2.2.2.1
  | false => exact (hS.write_ready c buf hhand).2.2

/-- A pass of the reader checks after it has fed, so a handshake completed in it is
signalled in it. -/
theorem reader_pass_told {h : Handshake} (c : C) (clean_close : Bool) (buf : List UInt8)
    (hh : Heard False h) :
    Heard False (reader_pass R h c clean_close buf).handshake ∧
    (R.is_handshaking (reader_pass R h c clean_close buf).conn = false →
      (reader_pass R h c clean_close buf).handshake.sender = false) := by
  unfold reader_pass
  generalize feedLoop R buf.length buf ⟨c, [], clean_close, none⟩ = f
  obtain ⟨hchecked, hready, -⟩ := heard_check (R := R) f.conn hh
  -- reading plaintext comes after the check and does not advance the handshake
  have hkeep : R.is_handshaking (read_available_plaintext R f.conn).2 = R.is_handshaking f.conn :=
    readLoop_keeps (P := fun c' => R.is_handshaking c' = R.is_handshaking f.conn)
      (fun c' size hc' => (hS.read_keeps c' size).1.2.2.trans hc') _ f.conn rfl
  exact ⟨hchecked, fun hhand => hready (hkeep.symm.trans hhand)⟩

/-- So does the writer's. -/
theorem writer_pass_told {p : Prop} {h : Handshake} {c : C} (status : StreamResult)
    (buf : List UInt8) (hh : Heard p h)
    (htold : R.is_handshaking c = false → h.sender = false) :
    Heard p (writer_pass R h c status buf).handshake ∧
    (R.is_handshaking (writer_pass R h c status buf).conn = false →
      (writer_pass R h c status buf).handshake.sender = false) := by
  have hkeep := writer_pass_preserves (R := R)
    (P := fun c' => R.is_handshaking c' = R.is_handshaking c)
    (fun c' buf hc' => (write_handshaking hS c' buf).trans hc')
    (fun c' hc' => (hS.write_tls_keeps c').2.2.trans hc')
    (fun c' hc' => (hS.close_keeps c').2.2.trans hc') h status buf rfl
  obtain ⟨c₁, -, -, hcheck⟩ := writer_pass_calls (R := R) h c status buf
  obtain ⟨hchecked, -, hstays⟩ := heard_check (R := R) c₁ hh
  rcases hcheck with hsame | hcheck
  · rw [hsame]
    exact ⟨hh, fun hhand => htold (hkeep.symm.trans hhand)⟩
  · rw [hcheck]
    exact ⟨hchecked, fun hhand => hstays (htold (hkeep.symm.trans hhand))⟩

/-- A connection that is still in its handshake has nothing to tell. -/
theorem told_init {c : C} (hhand : R.is_handshaking c = true) :
    Told R (Pump.Sys.init R c) := by
  refine ⟨rfl, fun hready => ?_, fun hended => absurd hended (by simp [Pump.Sys.init])⟩
  have hkeep : R.is_handshaking (drain_tls_writes R c).2 = true :=
    drain_keeps (P := fun c' => R.is_handshaking c' = true)
      (fun c' hc' => (hS.write_tls_keeps c').2.2.trans hc') hhand
  exact absurd (hready.symm.trans hkeep) (by decide)

/-- Every step checks what it may have completed. -/
theorem told_react {s s' : Pump.Sys C} {e : Event} (hi : Told R s)
    (h : react R s e = some s') : Told R s' := by
  -- while the reader runs nothing has failed, and the transmit task runs too
  have hopen : s.reader ≠ .ended → Heard False s.handshake ∧ s.transmit ≠ .ended :=
    fun hne => ⟨hi.heard.mono hne, fun hended => hne (hi.outlives hended)⟩
  have hdecide : ∀ pending failed status, s.reader = .writing pending failed status →
      Told R (s.readerNext (reader_decide s.handshake failed s.clean_close status)) := by
    intro pending failed status hpc
    obtain ⟨hh, htransmit⟩ := hopen (by simp [hpc])
    exact told_readerNext hh hi.told htransmit (reader_decide_handshake _ _ _ _)
  cases react_of_step h with
  | act h =>
      cases h with
      | emptyRead hpc =>
          obtain ⟨hh, htransmit⟩ := hopen (by simp [hpc])
          exact told_readerNext hh hi.told htransmit (reader_status_handshake _ _ _)
      | @read status buf hpc hne hlen =>
          obtain ⟨hh, htransmit⟩ := hopen (by simp [hpc])
          obtain ⟨hheard, htold⟩ := reader_pass_told hS s.conn s.clean_close buf hh
          generalize reader_pass R s.handshake s.conn s.clean_close buf = p at hheard htold
          unfold Sys.readerPassed
          split
          · exact told_readerNext hheard htold htransmit (reader_decide_handshake _ _ _ _)
          · exact ⟨hheard.mono False.elim, htold, fun hended => absurd hended htransmit⟩
      | consume hpc =>
          obtain ⟨hh, htransmit⟩ := hopen (by simp [hpc])
          exact ⟨hh.mono False.elim, hi.told, fun hended => absurd hended htransmit⟩
      | written hpc => exact hdecide _ _ _ hpc
      | @cleartext status buf hpc hlen =>
          obtain ⟨hheard, htold⟩ := writer_pass_told hS status buf hi.heard hi.told
          exact ⟨hheard, htold, hi.outlives⟩
      | dequeue hpc hqueue => exact ⟨hi.heard, hi.told, fun hended => absurd hended (by simp)⟩
      | close hpc hqueue hreader hwriter => exact ⟨hi.heard, hi.told, fun _ => hreader⟩
      | transmit hpc => exact ⟨hi.heard, hi.told, fun hended => absurd hended (by simp)⟩
      | transmitted hpc => exact ⟨hi.heard, hi.told, fun hended => absurd hended (by simp)⟩
  | consumerGone hpc => exact hdecide _ _ _ hpc
  | transportGone hpc => exact ⟨hi.heard, hi.told, fun hended => absurd hended (by simp)⟩

end Calls

/-! ## Where nothing more happens -/

/-- The transport only takes more. -/
theorem react_ciphertext_grows {s s' : Pump.Sys C} {e : Event} (h : react R s e = some s') :
    s.ciphertext_out <+: s'.ciphertext_out := by
  by_cases htransmit : ∃ n, e = .act (.transmit n)
  · obtain ⟨n, rfl⟩ := htransmit
    cases react_of_step h with
    | act htrans =>
        cases htrans with
        | transmit hpc => exact List.prefix_append _ _
  · rw [react_ciphertext_out (fun n hn => htransmit ⟨n, hn⟩) h]

/-- The network delivers no more than the transport took. -/
theorem after_read {ciphertext : List UInt8} {x : End C} {e : Event} (pump : Pump.Sys C)
    (hread : x.read ≤ ciphertext.length) (hallows : x.allows ciphertext e = true) :
    (x.after pump e).read ≤ ciphertext.length := by
  unfold End.after
  split
  · rename_i status buf
    have hbuf : buf <+: ciphertext.drop x.read := List.isPrefixOf_iff_prefix.mp hallows
    have hlen := hbuf.length_le
    rw [List.length_drop] at hlen
    show x.read + buf.length ≤ ciphertext.length
    omega
  all_goals exact hread

/-- What no delivery can change: the reader has nothing left to read, and the transmit task
nothing left to send. -/
theorem idle_of_still {ciphertext : List UInt8} {x : End C}
    (hstill : ∀ e, Delivers x e → x.step R ciphertext e = none)
    (hread : x.read ≤ ciphertext.length) :
    (x.pump.reader = .ended ∨ x.pump.reader = .reading ∧ x.read = ciphertext.length) ∧
    (x.pump.transmit = .ended ∨ x.pump.transmit = .next ∧ x.pump.queue = []) := by
  have hnone : ∀ e, Delivers x e → x.allows ciphertext e = true → react R x.pump e = none := by
    intro e hd hallows
    have h := hstill e hd
    rwa [End.step, if_pos hallows, Option.map_eq_none_iff] at h
  constructor
  · cases hpc : x.pump.reader with
    | reading =>
        refine .inr ⟨rfl, ?_⟩
        by_contra hne
        -- otherwise the network delivers one more byte
        obtain ⟨b, rest, hrest⟩ : ∃ b rest, ciphertext.drop x.read = b :: rest := by
          have hpos : 0 < (ciphertext.drop x.read).length := by
            rw [List.length_drop]
            omega
          exact List.exists_cons_of_length_pos hpos
        have hallows : x.allows ciphertext (.act (.transport .Complete [b])) = true := by
          show List.isPrefixOf [b] (ciphertext.drop x.read) = true
          rw [hrest, List.isPrefixOf_iff_prefix]
          exact ⟨rest, rfl⟩
        have h := hnone (.act (.transport .Complete [b])) ⟨rfl, by simp⟩ hallows
        simp [react, Pump.step, hpc, CHUNK] at h
    | writing pending failed status =>
        by_cases hleft : x.consumerLeft = true
        · have h := hnone .consumerGone hleft rfl
          simp [react, hpc] at h
        · have hstays : x.allows ciphertext (.act (.consume pending.length)) = true := by
            simpa [End.allows] using hleft
          cases pending with
          | nil =>
              have h := hnone (.act .written) trivial rfl
              simp [react, Pump.step, hpc] at h
          | cons b bs =>
              have htakes : Delivers x (.act (.consume (b :: bs).length)) := by
                intro pending' failed' status' hpc'
                rw [hpc, ReaderPc.writing.injEq] at hpc'
                rw [← hpc'.1, List.take_length]
                simp
              have h := hnone _ htakes hstays
              simp [react, Pump.step, hpc] at h
    | ended => exact .inl rfl
  · cases hpc : x.pump.transmit with
    | next =>
        refine .inr ⟨rfl, ?_⟩
        have h := hnone (.act .dequeue) trivial rfl
        cases hqueue : x.pump.queue with
        | nil => rfl
        | cons chunk rest => simp [react, Pump.step, hpc, hqueue] at h
    | writing pending =>
        by_cases hleft : x.transportLeft = true
        · have h := hnone .transportGone hleft rfl
          simp [react, hpc] at h
        · have hstays : x.allows ciphertext (.act (.transmit pending.length)) = true := by
            simpa [End.allows] using hleft
          cases pending with
          | nil =>
              have h := hnone (.act .transmitted) trivial rfl
              simp [react, Pump.step, hpc] at h
          | cons b bs =>
              have htakes : Delivers x (.act (.transmit (b :: bs).length)) := by
                intro pending' hpc'
                rw [hpc, TransmitPc.writing.injEq] at hpc'
                rw [← hpc', List.take_length]
                simp
              have h := hnone _ htakes hstays
              simp [react, Pump.step, hpc] at h
    | ended => exact .inl rfl

section Deadlock

variable {produced early appdata decrypted : C → List UInt8} {closed : C → Bool}
  {finished : C → Option (List UInt8)} {Linked : C → C → ℕ → Prop} {processed : C → Prop}

/-- The books of both ends and the links between them, with the signals. -/
structure Inv (R : Rustls C) (produced early appdata decrypted : C → List UInt8)
    (closed : C → Bool) (finished : C → Option (List UInt8)) (Linked : C → C → ℕ → Prop)
    (processed : C → Prop) (s : Loopback.Sys C) : Prop where
  ends : Loopback.Inv R produced early appdata decrypted closed finished Linked processed s
  told : ∀ x, Told R (s x).pump
  read : ∀ x : Side, (s x).read ≤ (s x.peer).pump.ciphertext_out.length

/-- Two idle ends whose connections are not lost have been fed everything: each has
transmitted all it produced, and the other has been given all of that. -/
theorem quiet_of_still {s : Loopback.Sys C}
    (hi : Inv R produced early appdata decrypted closed finished Linked processed s)
    (hstill : Still R s) (hkept : ∀ x, ¬ Lost (s x)) (x : Side) : Quiet (s x) (s x.peer) := by
  have hidle : ∀ y : Side,
      ((s y).pump.reader = .ended ∨
        (s y).pump.reader = .reading ∧ (s y).read = (s y.peer).pump.ciphertext_out.length) ∧
      ((s y).pump.transmit = .ended ∨ (s y).pump.transmit = .next ∧ (s y).pump.queue = []) := by
    intro y
    refine idle_of_still (R := R) (fun e hd => ?_) (hi.read y)
    have h := hstill y e hd
    rwa [Loopback.step, Option.map_eq_none_iff] at h
  have hreads : ∀ y, (s y).pump.reader ≠ .ended := fun y hended => hkept y (.inl hended)
  obtain ⟨hpc, hqueue⟩ := (hidle x).2.resolve_left
    fun hended => hreads x ((hi.told x).outlives hended)
  obtain ⟨hreading, hdelivered⟩ := (hidle x.peer).1.resolve_left (hreads x.peer)
  rw [Side.peer_peer] at hdelivered
  have hthere : (s x).transportLeft = false := by
    rw [← Bool.not_eq_true]
    exact fun hleft => hkept x (.inr hleft)
  exact ⟨hpc, hqueue, hthere, hdelivered, hreading⟩

variable (hR : R.Receives decrypted closed) (hS : R.Sends early appdata)
  (hO : R.Outputs produced) (hF : R.Finishes appdata finished) (hT : R.Takes closed)
  (hC : R.Channel produced appdata decrypted closed finished Linked processed)
  (hM : R.Meets produced Linked processed)

include hM in
/-- Then both handshakes have completed, and the checks have seen it. That nothing is left
to be sent is where the law on the two connections comes in. -/
theorem told_of_still {s : Loopback.Sys C}
    (hi : Inv R produced early appdata decrypted closed finished Linked processed s)
    (hstill : Still R s) (hkept : ∀ x, ¬ Lost (s x)) (x : Side) :
    ∃ outcome, (s x).pump.handshake.sent = [.ok outcome] := by
  have hfed : ∀ y : Side, Linked (s y).pump.conn (s y.peer).pump.conn
      (produced (s y).pump.conn).length ∧ processed (s y.peer).pump.conn := by
    intro y
    have hquiet := quiet_of_still hi hstill hkept y
    have hon : ReadsOn (s y.peer).pump := by
      unfold ReadsOn
      rw [hquiet.idle]
      trivial
    obtain ⟨hl, hp⟩ := (hi.ends.link y).synced hon
    have hall := ((hi.ends.books y).wired.books hquiet.there).in_order
    rw [hquiet.transmitted, hquiet.queue, PumpTransmit.inflight, List.flatten_nil,
      List.append_nil, List.append_nil] at hall
    rw [hquiet.delivered, hall] at hl
    exact ⟨hl, hp⟩
  obtain ⟨hsent, hp⟩ := hfed x
  obtain ⟨hreceived, hp'⟩ := hfed x.peer
  rw [Side.peer_peer] at hreceived hp'
  have hready := hM.completes hsent hreceived hp' hp
  have hheard := (hi.told x).heard
  rw [Heard, if_neg (by rw [(hi.told x).told hready]; decide)] at hheard
  obtain ⟨signal, hone, hended | ⟨outcome, hok⟩⟩ := hheard
  · exact absurd (.inl hended) (hkept x)
  · exact ⟨outcome, by rw [hone, hok]⟩

include hR hS hO hF hT hC

/-- One step of one end, by the parts. -/
theorem inv_step {s s' : Loopback.Sys C} {e : Side × Event}
    (hi : Inv R produced early appdata decrypted closed finished Linked processed s)
    (h : Loopback.step R s e = some s') :
    Inv R produced early appdata decrypted closed finished Linked processed s' := by
  refine ⟨Loopback.inv_step hR hS hO hF hT hC hi.ends h, ?_, ?_⟩
  all_goals
    unfold Loopback.step at h
    rw [Option.map_eq_some_iff] at h
    obtain ⟨x', hstep, rfl⟩ := h
    obtain ⟨hallows, pump, hreact, rfl⟩ := End.step_eq_some hstep
    intro x
  · by_cases hx : x = e.1
    · rw [hx, Function.update_self, End.after_pump]
      exact told_react hS (hi.told e.1) hreact
    · rw [Function.update_of_ne hx]
      exact hi.told x
  · by_cases hx : x = e.1
    · rw [hx, Function.update_self, Function.update_of_ne e.1.peer_ne]
      exact after_read pump (hi.read e.1) hallows
    · have hback : x.peer = e.1 := by
        rcases e with ⟨me, e⟩
        cases x <;> cases me <;> first | rfl | exact absurd rfl hx
      have hread := hi.read x
      rw [hback] at hread
      rw [Function.update_of_ne hx, hback, Function.update_self, End.after_pump]
      exact hread.trans (react_ciphertext_grows hreact).length_le

include hM

/-- **The handshake never deadlocks.** In every state that two joined pumps reach, whatever
the network, the consumers and the schedule did: if nothing more happens by itself, then
`connect` and `accept` have both been told `Ok`, unless the connection of one of the ends is
lost. -/
theorem handshake_never_deadlocks (client server : C)
    (hc : Fresh R produced early appdata decrypted closed finished client)
    (hs : Fresh R produced early appdata decrypted closed finished server)
    (hcs : Linked client server 0) (hsc : Linked server client 0)
    (hpc : processed client) (hps : processed server)
    (hhc : R.is_handshaking client = true) (hhs : R.is_handshaking server = true)
    (events : List (Side × Event)) :
    Lts.Always (Loopback.step R)
      (fun s => Still R s →
        (∀ x, ∃ outcome, (s x).pump.handshake.sent = [.ok outcome]) ∨ ∃ x, Lost (s x))
      (Loopback.Sys.init R client server) events := by
  have hinit : Inv R produced early appdata decrypted closed finished Linked processed
      (Loopback.Sys.init R client server) := by
    refine ⟨Loopback.inv_init hR hS hO hF hC hc hs hcs hsc hpc hps, fun x => ?_, fun x => ?_⟩
    · cases x with
      | Client => exact told_init hS hhc
      | Server => exact told_init hS hhs
    · cases x <;> exact Nat.le_refl 0
  refine Lts.always_of_invariant hinit (inv_step hR hS hO hF hT hC) @fun s hi hstill => ?_
  by_cases hlost : ∃ x, Lost (s x)
  · exact .inr hlost
  · exact .inl (told_of_still hM hi hstill fun x hx => hlost ⟨x, hx⟩)

end Deadlock

/-- Where both directions are quiet nothing more happens. -/
theorem still_of_quiet {s : Loopback.Sys C} (h : ∀ x : Side, Quiet (s x) (s x.peer)) :
    Still R s := by
  intro x e hd
  obtain ⟨hpc, hqueue, -⟩ := h x
  have hback := h x.peer
  rw [Side.peer_peer] at hback
  have hreact : ∀ e, Delivers (s x) e → (∀ status buf, e ≠ .act (.transport status buf)) →
      react R (s x).pump e = none := by
    intro e hd hnot
    cases e with
    | act a =>
        cases a with
        | transport status buf => exact absurd rfl (hnot status buf)
        | cleartext status buf => exact hd.elim
        | _ => simp [react, Pump.step, hpc, hqueue, hback.idle]
    | consumerGone => simp [react, hback.idle]
    | transportGone => simp [react, hpc]
  rw [Loopback.step, Option.map_eq_none_iff]
  unfold End.step
  by_cases htransport : ∃ status buf, e = .act (.transport status buf)
  · obtain ⟨status, buf, rfl⟩ := htransport
    apply if_neg
    show ¬ List.isPrefixOf buf ((s x.peer).pump.ciphertext_out.drop (s x).read) = true
    -- all of it has been read
    rw [hback.delivered, List.drop_length, List.isPrefixOf_iff_prefix, List.prefix_nil]
    exact hd.2
  · split
    · rw [hreact e hd fun status buf he => htransport ⟨status, buf, he⟩, Option.map_none]
    · rfl

/-- Two greetings cross on the wire; then nothing more happens, and both sides know. -/
theorem handshake_of_two_greetings :
    ∃ s, Lts.run (Loopback.step PlainTls.rustls)
        (Loopback.Sys.init PlainTls.rustls .fresh .fresh)
        [(.Client, .act .dequeue), (.Server, .act .dequeue), (.Client, .act (.transmit 1)),
          (.Server, .act (.transmit 1)), (.Server, .act (.transport .Complete [2])),
          (.Client, .act (.transport .Complete [2])), (.Client, .act .transmitted),
          (.Server, .act .transmitted)] = some s ∧
      Still PlainTls.rustls s ∧
      ∀ x, ∃ outcome, (s x).pump.handshake.sent = [.ok outcome] := by
  have hfresh : Fresh PlainTls.rustls PlainTls.Conn.produced PlainTls.Conn.early
      PlainTls.Conn.appdata PlainTls.Conn.decrypted PlainTls.Conn.closed PlainTls.Conn.finished
      .fresh := ⟨rfl, rfl, rfl, rfl, rfl, rfl⟩
  obtain ⟨s, hrun, hquiet, hkept⟩ : ∃ s, Lts.run (Loopback.step PlainTls.rustls)
      (Loopback.Sys.init PlainTls.rustls .fresh .fresh)
      [(.Client, .act .dequeue), (.Server, .act .dequeue), (.Client, .act (.transmit 1)),
        (.Server, .act (.transmit 1)), (.Server, .act (.transport .Complete [2])),
        (.Client, .act (.transport .Complete [2])), (.Client, .act .transmitted),
        (.Server, .act .transmitted)] = some s ∧
      (∀ x : Side, Quiet (s x) (s x.peer)) ∧ ∀ x, ¬ Lost (s x) := by
    refine ⟨_, rfl, fun x => ?_, fun x hlost => ?_⟩
    · cases x <;> exact ⟨rfl, rfl, rfl, rfl, rfl⟩
    · cases x <;> rcases hlost with h | h <;> exact absurd h (by decide)
  have hstill : Still PlainTls.rustls s := still_of_quiet hquiet
  refine ⟨s, hrun, hstill, ?_⟩
  rcases (handshake_never_deadlocks PlainTls.receives PlainTls.sends PlainTls.outputs
    PlainTls.finishes PlainTls.takes PlainTls.channel PlainTls.meets .fresh .fresh hfresh hfresh
    PlainTls.linked_fresh PlainTls.linked_fresh PlainTls.processed_fresh
    PlainTls.processed_fresh rfl rfl _).last hrun hstill with htold | ⟨x, hlost⟩
  · exact htold
  · exact absurd hlost (hkept x)

end PolymorphTls.Handshaking

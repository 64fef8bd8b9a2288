/-
The direction futures of a connection: what they resolve with, over the whole life of a
connector or an acceptor.

A future is resolved by the pump its writer was handed to, or, when its writer is dropped
without a write, by the default of `wit_future::new`. A pump never writes `Ok` without the
close that goes with it (`honest_react`). The default is `Ok(())`, so success is reported
only by connections that ran exactly when no writer is dropped unwritten
(`success_only_from_runs_iff`): no direction is wired twice, no `connect` or `accept` takes a
`send` without a `receive`, and the resource is not dropped with anything wired.
-/
import PolymorphTls.Connection
import PolymorphTls.PumpReceive

set_option autoImplicit false

namespace PolymorphTls.ConnectionFutures

open Connection

variable {C I : Type} {R : Rustls C} {E : Setup C I} {decrypted : C → List UInt8}
  {closed : C → Bool}

/-! ## The verdicts of one pump -/

/-- `Ok` in a direction comes with the close of that direction. It is what a pump owes its
futures, and is proved of the pump alone. -/
structure Honest (closed : C → Bool) (s : Pump.Sys C) (cleartext_ended : Bool) : Prop where
  clean : s.clean_close = true → closed s.conn = true
  recv : .ok () ∈ s.recv_done → s.reader = .ended ∧ closed s.conn = true
  send : .ok () ∈ s.send_done →
    s.writer = .ended ∧ cleartext_ended = true ∧ s.closeNotifyAt ≠ none

/-- While the reader is there the receive direction has not reported `Ok`. -/
theorem Honest.not_ok {s : Pump.Sys C} {b : Bool} (hi : Honest closed s b)
    (hpc : s.reader ≠ .ended) : .ok () ∉ s.recv_done :=
  fun h => hpc (hi.recv h).1

/-- A pump that has just started has reported nothing. -/
theorem honest_init (c : C) : Honest closed (Pump.Sys.init R c) false :=
  ⟨by simp [Pump.Sys.init], by simp [Pump.Sys.init], by simp [Pump.Sys.init]⟩

/-- The reader decides: `Ok` only after a close. -/
theorem honest_readerNext {s : Pump.Sys C} {b : Bool}
    {next : Option Pump.Verdict × Pump.Handshake} (hi : Honest closed s b)
    (hpc : s.reader ≠ .ended) (hok : next.1 = some (.ok ()) → closed s.conn = true) :
    Honest closed (s.readerNext next) b := by
  have hnone := hi.not_ok hpc
  obtain ⟨verdict, h⟩ := next
  cases verdict with
  | none => exact ⟨hi.clean, fun h => absurd h hnone, hi.send⟩
  | some verdict =>
      refine ⟨hi.clean, fun h => ⟨rfl, ?_⟩, hi.send⟩
      rcases List.mem_append.mp h with h | h
      · exact absurd h hnone
      · rw [List.mem_singleton] at h
        apply hok
        rw [h]

section Receives

variable (hR : R.Receives decrypted closed)
include hR

/-- A pass of the reader sets `clean_close` only on a close. -/
theorem reader_pass_clean (h : Pump.Handshake) (c : C) (clean_close : Bool)
    (buf : List UInt8) (hclean : clean_close = true → closed c = true)
    (hset : (Pump.reader_pass R h c clean_close buf).clean_close = true) :
    closed (Pump.reader_pass R h c clean_close buf).conn = true := by
  obtain ⟨-, hcl⟩ :=
    PumpReceive.feedLoop_spec hR buf.length buf ⟨c, [], clean_close, none⟩ hclean
  unfold Pump.reader_pass at hset ⊢
  generalize Pump.feedLoop R buf.length buf ⟨c, [], clean_close, none⟩ = f at hcl hset ⊢
  obtain ⟨hres, -, -, hclo⟩ := PumpReceive.read_available_plaintext_spec hR f.conn
  simp only [hres] at hset
  rw [hclo]
  rcases Bool.or_eq_true_iff.mp hset with h | h
  · exact hcl h
  · exact h

/-- A read of the reader, up to its decision. -/
theorem honest_readerPassed {s : Pump.Sys C} {b : Bool} (status : Pump.StreamResult)
    (buf : List UInt8) (hi : Honest closed s b) (hpc : s.reader = .reading) :
    Honest closed
      (s.readerPassed (Pump.reader_pass R s.handshake s.conn s.clean_close buf) status) b := by
  have hnone := hi.not_ok (by simp [hpc])
  have hclean := reader_pass_clean hR s.handshake s.conn s.clean_close buf hi.clean
  generalize Pump.reader_pass R s.handshake s.conn s.clean_close buf = p at hclean
  have hi' : Honest closed
      { s with
        conn := p.conn
        handshake := p.handshake
        clean_close := p.clean_close
        queue := s.queue ++ p.sent } b :=
    ⟨hclean, fun h => absurd h hnone, hi.send⟩
  unfold Pump.Sys.readerPassed
  split
  · obtain ⟨hok, -⟩ := PumpReceive.reader_decide_cases p.handshake p.failed p.clean_close status
    exact honest_readerNext hi' (by simp [hpc]) fun h => hclean (hok h)
  · exact ⟨hclean, fun h => absurd h hnone, hi.send⟩

/-- **Every step of a pump keeps its verdicts honest.** -/
theorem honest_react {s s' : Pump.Sys C} {b : Bool} {e : Pump.Event} (hi : Honest closed s b)
    (h : Pump.react R s e = some s') : Honest closed s' (b || endsCleartext e) := by
  have hmore : Honest closed s (b || endsCleartext e) := by
    refine ⟨hi.clean, hi.recv, fun h => ?_⟩
    obtain ⟨hpc, hended, hclose⟩ := hi.send h
    exact ⟨hpc, by rw [hended, Bool.true_or], hclose⟩
  cases Pump.moves_of_step h with
  | @emptyRead status hpc =>
      -- nothing was read: `Ok` needs a close received before
      refine honest_readerNext hmore (by simp [hpc]) fun hok => hi.clean ?_
      unfold Pump.reader_status at hok
      split at hok
      · split at hok
        · assumption
        · exact absurd hok (by simp)
      · exact absurd hok (by simp)
  | read hpc => exact honest_readerPassed hR _ _ hmore hpc
  | consume hpc =>
      have hnone := hi.not_ok (by simp [hpc])
      exact ⟨hi.clean, fun h => absurd h hnone, hmore.send⟩
  | @decide _ pending failed status hpc =>
      refine honest_readerNext hmore (by simp [hpc]) fun hok => hi.clean ?_
      exact (PumpReceive.reader_decide_cases s.handshake failed s.clean_close status).1 hok
  | @cleartext status buf hpc hlen =>
      obtain ⟨-, -, hclo⟩ := PumpReceive.writer_pass_keeps hR s.handshake s.conn status buf
      have hend := Pump.writer_pass_ends (R := R) s.handshake s.conn status buf
      have hnone : .ok () ∉ s.send_done := by
        intro h
        have hended := (hi.send h).1
        rw [hpc] at hended
        exact absurd hended (by simp)
      refine ⟨fun h => hclo.trans (hi.clean h), fun h => ?_, fun h => ?_⟩
      · obtain ⟨hended, hclosed⟩ := hi.recv h
        exact ⟨hended, hclo.trans hclosed⟩
      · rcases List.mem_append.mp h with h | h
        · exact absurd h hnone
        · rw [Option.mem_toList] at h
          have hclose := hend.ok_iff.mp h
          have hends := hend.ends hclose
          refine ⟨?_, ?_, hclose⟩
          · show (if _ then _ else _) = _
            rw [if_pos]
            rw [h]
            rfl
          · rw [endsCleartext, hends, Bool.or_true]
  | transmit => exact ⟨hmore.clean, hmore.recv, hmore.send⟩

end Receives

/-! ## What the futures resolve with -/

/-- The default given to `wit_future::new` in `wire_send` and `wire_receive`. It is what a
future resolves with if its writer is dropped unwritten. -/
def futureDefault : Pump.Verdict := .ok ()

/-- The future of the `i`-th `send` resolves with a verdict. -/
inductive SendResolves (s : Sys C I) (i : ℕ) : Pump.Verdict → Prop where
  | unwritten (h : i ∈ s.dropped_send) : SendResolves s i futureDefault
  | written {p : Running C} {verdict : Pump.Verdict} (hp : p ∈ s.pumps)
      (hi : p.wiring.send_done = i) (h : verdict ∈ p.sys.send_done) :
      SendResolves s i verdict

/-- The future of the `i`-th `receive` resolves with a verdict. -/
inductive ReceiveResolves (s : Sys C I) (i : ℕ) : Pump.Verdict → Prop where
  | unwritten (h : i ∈ s.dropped_recv) : ReceiveResolves s i futureDefault
  | written {p : Running C} {verdict : Pump.Verdict} (hp : p ∈ s.pumps)
      (hi : p.wiring.recv_done = i) (h : verdict ∈ p.sys.recv_done) :
      ReceiveResolves s i verdict

/-- **Success is reported only by connections that ran.** A `send` succeeds only when its
cleartext stream was read to its end and a `close_notify` was queued for it, and a
`receive` only when a `close_notify` was received on its ciphertext stream. -/
structure SuccessOnlyFromRuns (closed : C → Bool) (s : Sys C I) : Prop where
  send : ∀ i, SendResolves s i (.ok ()) → ∃ p ∈ s.pumps, p.wiring.cleartext_in = i ∧
    p.cleartext_ended = true ∧ p.sys.closeNotifyAt ≠ none
  receive : ∀ i, ReceiveResolves s i (.ok ()) → ∃ p ∈ s.pumps, p.wiring.ciphertext_in = i ∧
    closed p.sys.conn = true

/-- The step drops no future's writer. -/
def DropsNoWriter (E : Setup C I) (s : Sys C I) : Act → Prop
  | .send => s.resource.wired.send_done = none
  | .receive => s.resource.wired.recv_done = none
  | .call m => ¬ (s.resource.Ready E m ∧ s.resource.wired.send_done ≠ none
      ∧ s.resource.wired.recv_done = none)
  | .pump _ _ => True
  | .drop => s.resource.wired.send_done = none ∧ s.resource.wired.recv_done = none

/-! ## The invariant -/

/-- A pump got the ends of one `send` and one `receive` that were made, and is honest. No
two pumps got the same, since taking the ends empties the wiring. -/
structure Started (closed : C → Bool) (s : Sys C I) (p : Running C) : Prop where
  cleartext_in : p.wiring.cleartext_in = p.wiring.send_done
  ciphertext_in : p.wiring.ciphertext_in = p.wiring.recv_done
  sent : p.wiring.send_done < s.sends
  received : p.wiring.recv_done < s.receives
  honest : Honest closed p.sys p.cleartext_ended

/-- Every pump is honest about its own ends, what is wired is no pump's, and no writer was
dropped. -/
structure Inv (closed : C → Bool) (s : Sys C I) : Prop where
  paired : s.resource.wired.Paired
  /-- What is wired was made and is no pump's. -/
  send : ∀ i, s.resource.wired.send_done = some i →
    i < s.sends ∧ ∀ p ∈ s.pumps, p.wiring.send_done ≠ i
  recv : ∀ i, s.resource.wired.recv_done = some i →
    i < s.receives ∧ ∀ p ∈ s.pumps, p.wiring.recv_done ≠ i
  pumps : ∀ p ∈ s.pumps, Started closed s p
  dropped_send : s.dropped_send = []
  dropped_recv : s.dropped_recv = []

/-- A new resource has wired nothing. -/
theorem inv_init (new : New I) : Inv closed (Sys.init (C := C) new) := by
  have hwired : (Sys.init (C := C) new).resource.wired = .default := by
    cases new <;> rfl
  refine ⟨paired_init new, fun i h => ?_, fun i h => ?_, fun p hp => ?_, rfl, rfl⟩
  · rw [hwired] at h
    exact absurd h (by simp [Wired.default])
  · rw [hwired] at h
    exact absurd h (by simp [Wired.default])
  · exact absurd hp List.not_mem_nil

/-- A future that succeeded is a pump's, and pumps are honest. -/
theorem success_of_inv {s : Sys C I} (hi : Inv closed s) : SuccessOnlyFromRuns closed s := by
  constructor
  · rintro i (h | ⟨hp, hid, h⟩)
    · rw [hi.dropped_send] at h
      exact absurd h (by simp)
    · have hst := hi.pumps _ hp
      obtain ⟨-, hended, hclose⟩ := hst.honest.send h
      exact ⟨_, hp, hst.cleartext_in.trans hid, hended, hclose⟩
  · rintro i (h | ⟨hp, hid, h⟩)
    · rw [hi.dropped_recv] at h
      exact absurd h (by simp)
    · have hst := hi.pumps _ hp
      exact ⟨_, hp, hst.ciphertext_in.trans hid, (hst.honest.recv h).2⟩

/-- What a pump was given was not dropped. -/
theorem released_taken (i : ℕ) : released (some i) none (some i) = [] := if_pos (.inr rfl)

/-- A writer that is wired no longer, and that no pump was given, is dropped. -/
theorem mem_released {before after : Option ℕ} {i : ℕ} (hbefore : before = some i)
    (hafter : after ≠ some i) : i ∈ released before after none := by
  have hgone : ¬ (after = some i ∨ none = some i) := by
    rintro (h | h)
    · exact hafter h
    · exact absurd h (by simp)
  rw [hbefore, released, if_neg hgone]
  exact List.mem_singleton_self i

/-! ## The steps -/

/-- A step that leaves the pumps alone and drops nothing. -/
theorem inv_rewired {s s' : Sys C I} (hi : Inv closed s) (hpumps : s'.pumps = s.pumps)
    (hsends : s.sends ≤ s'.sends) (hreceives : s.receives ≤ s'.receives)
    (hpaired : s'.resource.wired.Paired)
    (hsend : ∀ i, s'.resource.wired.send_done = some i →
      s.resource.wired.send_done = some i ∨ i = s.sends ∧ s.sends < s'.sends)
    (hrecv : ∀ i, s'.resource.wired.recv_done = some i →
      s.resource.wired.recv_done = some i ∨ i = s.receives ∧ s.receives < s'.receives)
    (hds : s'.dropped_send = []) (hdr : s'.dropped_recv = []) : Inv closed s' := by
  refine ⟨hpaired, fun i h => ?_, fun i h => ?_, fun p hp => ?_, hds, hdr⟩
  · rw [hpumps]
    rcases hsend i h with h | ⟨rfl, hlt⟩
    · obtain ⟨hlt, hne⟩ := hi.send i h
      exact ⟨by omega, hne⟩
    · -- a fresh number is no pump's
      refine ⟨hlt, fun p hp heq => ?_⟩
      have := (hi.pumps p hp).sent
      omega
  · rw [hpumps]
    rcases hrecv i h with h | ⟨rfl, hlt⟩
    · obtain ⟨hlt, hne⟩ := hi.recv i h
      exact ⟨by omega, hne⟩
    · refine ⟨hlt, fun p hp heq => ?_⟩
      have := (hi.pumps p hp).received
      omega
  · rw [hpumps] at hp
    obtain ⟨h1, h2, h3, h4, h5⟩ := hi.pumps p hp
    exact ⟨h1, h2, by omega, by omega, h5⟩

/-- A step that starts a pump with everything wired. -/
theorem inv_started {s : Sys C I} {i j : ℕ} (hi : Inv closed s) (connection : C)
    (r : Resource I) (hsend : s.resource.wired.send_done = some i)
    (hrecv : s.resource.wired.recv_done = some j) (hwired : r.wired = .default) :
    Inv closed (s.answered R (.ok (connection, ⟨i, i, i, j, j, j⟩), r)) := by
  have hds : released s.resource.wired.send_done r.wired.send_done (some i) = [] := by
    rw [hsend, hwired]
    exact released_taken i
  have hdr : released s.resource.wired.recv_done r.wired.recv_done (some j) = [] := by
    rw [hrecv, hwired]
    exact released_taken j
  refine ⟨?_, fun k h => ?_, fun k h => ?_, fun p hp => ?_, ?_, ?_⟩
  · rw [Sys.answered_resource, hwired]
    exact .default
  · rw [Sys.answered_resource, hwired] at h
    exact absurd h (by simp [Wired.default])
  · rw [Sys.answered_resource, hwired] at h
    exact absurd h (by simp [Wired.default])
  · rcases List.mem_append.mp hp with hp | hp
    · obtain ⟨h1, h2, h3, h4, h5⟩ := hi.pumps p hp
      exact ⟨h1, h2, h3, h4, h5⟩
    · rw [List.mem_singleton] at hp
      subst hp
      exact ⟨rfl, rfl, (hi.send i hsend).1, (hi.recv j hrecv).1, honest_init connection⟩
  · show s.dropped_send ++ released _ _ (some i) = []
    rw [hds, hi.dropped_send, List.append_nil]
  · show s.dropped_recv ++ released _ _ (some j) = []
    rw [hdr, hi.dropped_recv, List.append_nil]

/-- A step of one pump. -/
theorem inv_pump (hR : R.Receives decrypted closed) {s : Sys C I} {k : ℕ} {e : Pump.Event}
    {p : Running C} {sys : Pump.Sys C} (hi : Inv closed s) (hp : s.pumps[k]? = some p)
    (h : Pump.react R p.sys e = some sys) :
    Inv closed { s with pumps := s.pumps.set k (p.after e sys) } := by
  have hmem : p ∈ s.pumps := List.mem_of_getElem? hp
  have hset : ∀ q ∈ s.pumps.set k (p.after e sys), q ∈ s.pumps ∨ q = p.after e sys :=
    fun q hq => List.mem_or_eq_of_mem_set hq
  refine ⟨hi.paired, fun i hsend => ?_, fun i hrecv => ?_, fun q hq => ?_, hi.dropped_send,
    hi.dropped_recv⟩
  · obtain ⟨hlt, hne⟩ := hi.send i hsend
    refine ⟨hlt, fun q hq => ?_⟩
    rcases hset q hq with hq | rfl
    · exact hne q hq
    · exact hne p hmem
  · obtain ⟨hlt, hne⟩ := hi.recv i hrecv
    refine ⟨hlt, fun q hq => ?_⟩
    rcases hset q hq with hq | rfl
    · exact hne q hq
    · exact hne p hmem
  · rcases hset q hq with hq | rfl
    · obtain ⟨h1, h2, h3, h4, h5⟩ := hi.pumps q hq
      exact ⟨h1, h2, h3, h4, h5⟩
    · obtain ⟨h1, h2, h3, h4, h5⟩ := hi.pumps p hmem
      exact ⟨h1, h2, h3, h4, honest_react hR h5 h⟩

/-- A call that is refused and drops no writer. -/
theorem inv_refused {s : Sys C I} {m : Method} {e : String} {r : Resource I}
    (hi : Inv closed s) (hc : DropsNoWriter E s (.call m))
    (h : Answer E s.resource m (.error e) r) : Inv closed (s.update r none) := by
  have hwired : r.wired = s.resource.wired := by
    cases h with
    | refused hready => exact Resource.spent_wired _
    | unsent hready hsend => exact Resource.spent_wired _
    | unreceived hready hsend hrecv =>
        exact absurd ⟨hready, hsend ▸ Option.some_ne_none _, hrecv⟩ hc
  refine inv_rewired hi rfl (Nat.le_refl _) (Nat.le_refl _) ?_ (fun i h => .inl ?_)
    (fun i h => .inl ?_) ?_ ?_
  · show r.wired.Paired
    rw [hwired]
    exact hi.paired
  · rw [← hwired]
    exact h
  · rw [← hwired]
    exact h
  · show s.dropped_send ++ released _ r.wired.send_done none = []
    rw [hwired, released_self, hi.dropped_send, List.append_nil]
  · show s.dropped_recv ++ released _ r.wired.recv_done none = []
    rw [hwired, released_self, hi.dropped_recv, List.append_nil]

/-- A `send` where none is wired. -/
theorem inv_send {s : Sys C I} (hi : Inv closed s) (hnone : s.resource.wired.send_done = none) :
    Inv closed
      { s.update (s.resource.setWired (s.resource.wired.wire_send s.sends)) none with
        sends := s.sends + 1 } := by
  have hwired : (s.resource.setWired (s.resource.wired.wire_send s.sends)).wired
    = s.resource.wired.wire_send s.sends := Resource.setWired_wired _ _
  refine inv_rewired hi rfl (Nat.le_succ _) (Nat.le_refl _) ?_ (fun i h => .inr ?_)
    (fun i h => .inl ?_) ?_ ?_
  · show (s.resource.setWired _).wired.Paired
    rw [hwired]
    exact hi.paired.wire_send s.sends
  · replace h : (s.resource.setWired _).wired.send_done = some i := h
    rw [hwired, Wired.wire_send, Option.some.injEq] at h
    exact ⟨h.symm, Nat.lt_succ_self _⟩
  · replace h : (s.resource.setWired _).wired.recv_done = some i := h
    rwa [hwired] at h
  · show s.dropped_send ++ released _ (s.resource.setWired _).wired.send_done none = []
    rw [hnone, hi.dropped_send]
    rfl
  · show s.dropped_recv ++ released _ (s.resource.setWired _).wired.recv_done none = []
    rw [hwired, hi.dropped_recv]
    exact released_self _

/-- A `receive` where none is wired. -/
theorem inv_receive {s : Sys C I} (hi : Inv closed s)
    (hnone : s.resource.wired.recv_done = none) :
    Inv closed
      { s.update (s.resource.setWired (s.resource.wired.wire_receive s.receives)) none with
        receives := s.receives + 1 } := by
  have hwired : (s.resource.setWired (s.resource.wired.wire_receive s.receives)).wired
    = s.resource.wired.wire_receive s.receives := Resource.setWired_wired _ _
  refine inv_rewired hi rfl (Nat.le_refl _) (Nat.le_succ _) ?_ (fun i h => .inl ?_)
    (fun i h => .inr ?_) ?_ ?_
  · show (s.resource.setWired _).wired.Paired
    rw [hwired]
    exact hi.paired.wire_receive s.receives
  · replace h : (s.resource.setWired _).wired.send_done = some i := h
    rwa [hwired] at h
  · replace h : (s.resource.setWired _).wired.recv_done = some i := h
    rw [hwired, Wired.wire_receive, Option.some.injEq] at h
    exact ⟨h.symm, Nat.lt_succ_self _⟩
  · show s.dropped_send ++ released _ (s.resource.setWired _).wired.send_done none = []
    rw [hwired, hi.dropped_send]
    exact released_self _
  · show s.dropped_recv ++ released _ (s.resource.setWired _).wired.recv_done none = []
    rw [hnone, hi.dropped_recv]
    rfl

/-- The resource is dropped with nothing wired. -/
theorem inv_dropped {s : Sys C I} (hi : Inv closed s)
    (hsend : s.resource.wired.send_done = none) (hrecv : s.resource.wired.recv_done = none) :
    Inv closed { s.update (s.resource.setWired .default) none with gone := true } := by
  have hwired : (s.resource.setWired .default).wired = .default := Resource.setWired_wired _ _
  refine inv_rewired hi rfl (Nat.le_refl _) (Nat.le_refl _) ?_ (fun i h => ?_) (fun i h => ?_)
    ?_ ?_
  · show (s.resource.setWired _).wired.Paired
    rw [hwired]
    exact .default
  · replace h : (s.resource.setWired _).wired.send_done = some i := h
    rw [hwired] at h
    exact absurd h (by simp [Wired.default])
  · replace h : (s.resource.setWired _).wired.recv_done = some i := h
    rw [hwired] at h
    exact absurd h (by simp [Wired.default])
  · show s.dropped_send ++ released s.resource.wired.send_done _ none = []
    rw [hsend, hi.dropped_send]
    rfl
  · show s.dropped_recv ++ released s.resource.wired.recv_done _ none = []
    rw [hrecv, hi.dropped_recv]
    rfl

/-- A step under the condition. -/
theorem inv_step (hR : R.Receives decrypted closed) {s s' : Sys C I} {a : Act}
    (hi : Inv closed s) (hc : DropsNoWriter E s a) (h : step R E s a = some s') :
    Inv closed s' := by
  cases trans_of_step hi.paired h with
  | send hgone => exact inv_send hi hc
  | receive hgone => exact inv_receive hi hc
  | @call m result r hgone hanswer =>
      cases result with
      | error e => exact inv_refused hi hc hanswer
      | ok started =>
          cases hanswer with
          | started hready hsend hrecv =>
              exact inv_started hi _ _ hsend hrecv (Resource.setWired_wired _ _)
  | pump hp hreact => exact inv_pump hR hi hp hreact
  | drop hgone => exact inv_dropped hi hc.1 hc.2

/-! ## A dropped writer is noticed -/

/-- What is wired is no pump's: when it is wired no longer, its future has succeeded without
a run. -/
theorem not_success_of_send {s s' : Sys C I} {r : Resource I} {i : ℕ} (hi : Inv closed s)
    (hpumps : s'.pumps = s.pumps) (hdropped : s'.dropped_send = (s.update r none).dropped_send)
    (hsend : s.resource.wired.send_done = some i) (hafter : r.wired.send_done ≠ some i) :
    ¬ SuccessOnlyFromRuns closed s' := by
  intro hsuccess
  have hmem : i ∈ s'.dropped_send := by
    rw [hdropped]
    exact List.mem_append_right _ (mem_released hsend hafter)
  obtain ⟨p, hp, hid, -⟩ := hsuccess.send i (.unwritten hmem)
  rw [hpumps] at hp
  apply (hi.send i hsend).2 p hp
  rw [← hid]
  exact (hi.pumps p hp).cleartext_in.symm

/-- The same of the receive direction. -/
theorem not_success_of_recv {s s' : Sys C I} {r : Resource I} {i : ℕ} (hi : Inv closed s)
    (hpumps : s'.pumps = s.pumps) (hdropped : s'.dropped_recv = (s.update r none).dropped_recv)
    (hrecv : s.resource.wired.recv_done = some i) (hafter : r.wired.recv_done ≠ some i) :
    ¬ SuccessOnlyFromRuns closed s' := by
  intro hsuccess
  have hmem : i ∈ s'.dropped_recv := by
    rw [hdropped]
    exact List.mem_append_right _ (mem_released hrecv hafter)
  obtain ⟨p, hp, hid, -⟩ := hsuccess.receive i (.unwritten hmem)
  rw [hpumps] at hp
  apply (hi.recv i hrecv).2 p hp
  rw [← hid]
  exact (hi.pumps p hp).ciphertext_in.symm

/-- A step that drops a writer leaves a future with its default, which reports a success no
run earned. -/
theorem not_success_of_step {s s' : Sys C I} {a : Act} (hi : Inv closed s)
    (hc : ¬ DropsNoWriter E s a) (h : step R E s a = some s') :
    ¬ SuccessOnlyFromRuns closed s' := by
  cases trans_of_step hi.paired h with
  | send hgone =>
      obtain ⟨i, hsend⟩ := Option.ne_none_iff_exists'.mp hc
      refine not_success_of_send hi rfl rfl hsend ?_
      -- the number of this call is new
      have hlt := (hi.send i hsend).1
      rw [Resource.setWired_wired, Wired.wire_send, ne_eq, Option.some.injEq]
      omega
  | receive hgone =>
      obtain ⟨i, hrecv⟩ := Option.ne_none_iff_exists'.mp hc
      refine not_success_of_recv hi rfl rfl hrecv ?_
      have hlt := (hi.recv i hrecv).1
      rw [Resource.setWired_wired, Wired.wire_receive, ne_eq, Option.some.injEq]
      omega
  | @call m result r hgone hanswer =>
      have hvain := not_not.mp hc
      cases hanswer with
      | refused hready => exact absurd hvain.1 hready
      | unsent hready hsend => exact absurd hsend hvain.2.1
      | unreceived hready hsend hrecv =>
          refine not_success_of_send hi rfl rfl hsend ?_
          rw [Resource.setWired_wired]
          exact (Option.some_ne_none _).symm
      | started hready hsend hrecv =>
          have hnone := hvain.2.2
          rw [hrecv] at hnone
          exact absurd hnone (by simp)
  | pump hp hreact => exact absurd trivial hc
  | drop hgone =>
      have hempty : (s.resource.setWired .default).wired = .default :=
        Resource.setWired_wired _ _
      cases hsend : s.resource.wired.send_done with
      | some i =>
          refine not_success_of_send hi rfl rfl hsend ?_
          rw [hempty]
          exact (Option.some_ne_none i).symm
      | none =>
          obtain ⟨i, hrecv⟩ := Option.ne_none_iff_exists'.mp fun hrecv => hc ⟨hsend, hrecv⟩
          refine not_success_of_recv hi rfl rfl hrecv ?_
          rw [hempty]
          exact (Option.some_ne_none i).symm

/-- **Success is reported only by connections that ran -- exactly when no writer is
dropped unwritten.** For every connection that behaves as rustls documents, everything that
can make a call fail, and every history of a connector or an acceptor. -/
theorem success_only_from_runs_iff (hR : R.Receives decrypted closed) (E : Setup C I)
    (new : New I) (as : List Act) :
    Lts.Always (step R E) (SuccessOnlyFromRuns closed) (.init new) as
      ↔ Lts.Steps (step R E) (DropsNoWriter E) (.init new) as :=
  Lts.always_iff_steps (inv_init new) (inv_step hR) success_of_inv not_success_of_step

/-- A connection that runs, and whose consumer closes its stream. -/
theorem closed_connection_succeeds :
    Lts.Always (step (NullTls.rustls NullTls.greeting) nullSetup)
      (SuccessOnlyFromRuns NullTls.Conn.closed) (.init (.connector []))
      [.send, .receive, .call (.connect "example.com" []),
        .pump 0 (.act (.cleartext .Dropped [])), .drop] := by
  refine (success_only_from_runs_iff (NullTls.receives NullTls.greeting) nullSetup
    (.connector []) _).mpr ?_
  rw [Lts.steps_cons_of_step _ rfl, Lts.steps_cons_of_step _ rfl, Lts.steps_cons_of_step _ rfl,
    Lts.steps_cons_of_step _ rfl, Lts.steps_cons_of_step _ rfl]
  exact ⟨rfl, rfl, fun h => absurd h.2.2 (by decide), trivial, ⟨rfl, rfl⟩, trivial⟩

/-- A connector that is wired and dropped: both its futures report a clean close of a
connection there never was. -/
theorem dropped_connector_succeeds :
    ¬ Lts.Always (step (NullTls.rustls NullTls.greeting) nullSetup)
      (SuccessOnlyFromRuns NullTls.Conn.closed) (.init (.connector []))
      [.send, .receive, .drop] := by
  have hrun : ∃ s, Lts.run (step (NullTls.rustls NullTls.greeting) nullSetup)
        (.init (.connector [])) [.send, .receive, .drop] = some s
      ∧ s.pumps = [] ∧ s.dropped_recv = [0] :=
    ⟨_, rfl, rfl, rfl⟩
  obtain ⟨s, hrun, hpumps, hdropped⟩ := hrun
  refine Lts.not_always_of_run hrun fun hsuccess => ?_
  have hmem : 0 ∈ s.dropped_recv := by
    rw [hdropped]
    exact List.mem_singleton_self 0
  obtain ⟨p, hp, -⟩ := hsuccess.receive 0 (.unwritten hmem)
  rw [hpumps] at hp
  exact absurd hp List.not_mem_nil

end PolymorphTls.ConnectionFutures

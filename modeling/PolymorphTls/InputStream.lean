/-
The WASI 0.2 receive direction (`tls-virt-wasmtime/src/p2.rs`): `ReadSlot`, the
guest-facing `TlsInputStream`, and `close_read`.

Reads of the TLS half happen inside `Pollable::ready`, which *moves the half out of
the slot* and awaits on it. The slot is whole again only when that await completes. A
`ready` that is dropped at its await -- which `wasi:io/poll` does to every pollable
that did not fire -- drops the half with it, and nothing can put one back: the stream
stays `Open`, `read` returns no bytes and no end, and `ready` returns at once.

So the contract proved here is an equivalence: an open slot with no `ready` in
progress holds its half, and has lost no byte, along exactly those schedules that
never drop a `ready` at the await of an open stream.

The half itself is a parameter: what it returns is chosen by the schedule.
-/
import PolymorphTls.Lts
import PolymorphTls.StreamState

set_option autoImplicit false

namespace PolymorphTls.InputStream

/-! ## The slot -/

/-- The receive state shared between the stream and the socket; `H` is the TLS read
half. -/
structure ReadSlot (H : Type) where
  /-- Taken while an async read is in flight inside `ready`. -/
  half : Option H
  buf : List UInt8
  state : StreamState
  deriving DecidableEq

/-- `TlsInputStream::read`: what the guest gets, and the slot afterwards. It looks at the
buffer before the state, so what arrived before an end is still delivered. -/
def read {H : Type} (slot : ReadSlot H) (size : ℕ) :
    Except StreamError (List UInt8) × ReadSlot H :=
  if slot.buf ≠ [] then
    let n := min slot.buf.length size
    (.ok (slot.buf.take n), { slot with buf := slot.buf.drop n })
  else
    match slot.state.check with
    | .ok () => (.ok [], slot)
    | .error e => (.error e, slot)

/-- `close_read`: buffered cleartext is discarded and the half drops. -/
def close_read {H : Type} (slot : ReadSlot H) : ReadSlot H :=
  { half := none
    buf := []
    state := if slot.state = .Open then .Closed else slot.state }

/-- The lock section `ready` starts with: the half it goes on to read from, if it does not
return at once, and the slot without it. Between this and the section at its end the half is
in nobody's slot. -/
def ready_take {H : Type} (slot : ReadSlot H) : Option H × ReadSlot H :=
  if slot.buf ≠ [] ∨ slot.state ≠ .Open then (none, slot)
  else (slot.half, { slot with half := none })

/-- The lock section `ready` ends with, given what `half.read` returned. -/
def ready_store {H : Type} (slot : ReadSlot H) (half : H)
    (result : Except String (List UInt8)) : ReadSlot H :=
  match result with
  -- clean TLS end: the peer sent close_notify
  | .ok [] => { slot with state := .Closed }
  | .ok bytes => { slot with buf := slot.buf ++ bytes, half := some half }
  | .error e => { slot with state := .Failed ("TLS receive failed: " ++ e) }

/-! ## The system -/

/-- The slot, the `ready` that is reading if there is one, and the ghosts of what was taken
and given. -/
structure Sys (H : Type) where
  slot : ReadSlot H
  /-- The `ready` call in progress, suspended in `half.read`, owns the half. -/
  pending : Option H
  /-- Ghost: the bytes `half.read` has returned so far. -/
  taken : List UInt8
  /-- Ghost: the bytes `read` has returned to the guest so far. -/
  got : List UInt8
  deriving DecidableEq

/-- The slot `finish_connect` sets up. -/
def Sys.init {H : Type} (half : H) : Sys H :=
  ⟨⟨some half, [], .Open⟩, none, [], []⟩

/-- What the guest and the socket do with the receive direction. -/
inductive Act where
  | read (size : ℕ)
  /-- `ready` runs up to its await, or returns before it. -/
  | ready
  /-- The awaited `half.read` returns, and `ready` runs to its end. -/
  | complete (result : Except String (List UInt8))
  /-- The pending `ready` is dropped at its await. -/
  | abandon
  /-- The socket's `shutdown(receive)`. -/
  | close_read

/-- A step. A `ready` is two of them, with the read of the half in between. -/
def step {H : Type} (s : Sys H) : Act → Option (Sys H)
  | .read size =>
      let (result, slot) := read s.slot size
      match result with
      | .ok bytes => some { s with slot, got := s.got ++ bytes }
      | .error _ => some { s with slot }
  | .ready =>
      -- calls of `ready` on one stream do not overlap
      if s.pending.isSome then none
      else
        let (half, slot) := ready_take s.slot
        some { s with slot, pending := half }
  | .complete result =>
      match s.pending with
      | none => none
      | some half =>
          -- the buffer `half.read` fills has `CHUNK` bytes
          if (result.toOption.getD []).length ≤ CHUNK then
            some { s with
              slot := ready_store s.slot half result
              pending := none
              taken := s.taken ++ result.toOption.getD [] }
          else none
  | .abandon => if s.pending.isSome then some { s with pending := none } else none
  | .close_read => some { s with slot := close_read s.slot }

/-! ## The contract -/

/-- **The stream survives its polls.** With no `ready` in progress, an open stream
holds its half; the guest's bytes and the buffer are the bytes taken from the half;
and an empty stream reads on when polled. -/
structure Alive {H : Type} (half : H) (s : Sys H) : Prop where
  holds_half : s.pending = none → s.slot.state = .Open → s.slot.half = some half
  conserved : s.pending = none → s.slot.state = .Open → s.got ++ s.slot.buf = s.taken
  reads_on : s.pending = none → s.slot.state = .Open → s.slot.buf = [] →
    ∃ s', step s .ready = some s' ∧ s'.pending = some half

/-- No `ready` is dropped at its await while the stream is open. -/
def NotAbandonedOpen {H : Type} (s : Sys H) (a : Act) : Prop :=
  a = .abandon → s.slot.state ≠ .Open

/-- While the stream is open the half is in one place: the slot, or the `ready` that
took it. -/
structure Inv {H : Type} (half : H) (s : Sys H) : Prop where
  owner : s.slot.state = .Open →
    s.pending = none ∧ s.slot.half = some half ∨ s.pending = some half ∧ s.slot.half = none
  conserved : s.slot.state = .Open → s.got ++ s.slot.buf = s.taken

/-- A new slot has its half. -/
theorem inv_init {H : Type} (half : H) : Inv half (Sys.init half) :=
  ⟨fun _ => .inl ⟨rfl, rfl⟩, fun _ => rfl⟩

/-- With no `ready` in progress the one place is the slot. -/
theorem alive_of_inv {H : Type} {half : H} {s : Sys H} (hi : Inv half s) : Alive half s := by
  have hhold : s.pending = none → s.slot.state = .Open → s.slot.half = some half := by
    intro hp ho
    rcases hi.owner ho with ⟨-, hh⟩ | ⟨hs, -⟩
    · exact hh
    · rw [hp] at hs
      exact absurd hs (by simp)
  refine ⟨hhold, fun _ ho => hi.conserved ho, fun hp ho hb => ?_⟩
  refine ⟨_, by simp only [step, hp, Option.isSome_none, Bool.false_eq_true, if_false]; rfl, ?_⟩
  simp [ready_take, hb, ho, hhold hp ho]

/-! ## Preservation -/

/-- What one guest `read` does to the slot: some bytes move from the buffer to the
guest, and nothing else changes. -/
theorem read_spec {H : Type} (slot : ReadSlot H) (size : ℕ) :
    ∃ n, (read slot size).2 = { slot with buf := slot.buf.drop n }
      ∧ ∀ bytes, (read slot size).1 = .ok bytes → bytes = slot.buf.take n := by
  by_cases hb : slot.buf = []
  · refine ⟨0, ?_, ?_⟩
    · unfold read
      rw [List.drop_zero, if_neg (by simp [hb])]
      cases slot.state.check <;> rfl
    · intro bytes hok
      cases hc : slot.state.check <;> simp [read, hb, hc] at hok
      rw [hok, List.take_zero]
  · refine ⟨min slot.buf.length size, by simp [read, hb], ?_⟩
    intro bytes hok
    simpa [read, hb, eq_comm] using hok

/-- A failing `read` moves no byte: the buffer is empty. -/
theorem read_error {H : Type} {slot : ReadSlot H} {size : ℕ} {e : StreamError}
    (h : (read slot size).1 = .error e) : slot.buf = [] ∧ (read slot size).2 = slot := by
  by_cases hb : slot.buf = []
  · refine ⟨hb, ?_⟩
    cases hc : slot.state.check <;> simp [read, hb, hc]
  · simp [read, hb] at h

/-- What a step can do. -/
inductive Trans {H : Type} (s : Sys H) : Act → Sys H → Prop where
  | read_fails {size : ℕ} (hb : s.slot.buf = []) : Trans s (.read size) s
  | read {size : ℕ} (n : ℕ) :
      Trans s (.read size) { s with
        slot := { s.slot with buf := s.slot.buf.drop n }
        got := s.got ++ s.slot.buf.take n }
  | ready_returns (hp : s.pending = none) (hret : s.slot.buf ≠ [] ∨ s.slot.state ≠ .Open) :
      Trans s .ready s
  | ready_reads (hp : s.pending = none) (hb : s.slot.buf = []) (ho : s.slot.state = .Open) :
      Trans s .ready { s with
        slot := { s.slot with half := none }
        pending := s.slot.half }
  | ended {half : H} (hp : s.pending = some half) :
      Trans s (.complete (.ok [])) { s with
        slot := { s.slot with state := .Closed }
        pending := none }
  | filled {half : H} {bytes : List UInt8} (hp : s.pending = some half) (hb : bytes ≠ []) :
      Trans s (.complete (.ok bytes)) { s with
        slot := { s.slot with buf := s.slot.buf ++ bytes, half := some half }
        pending := none
        taken := s.taken ++ bytes }
  | failed {half : H} {e : String} (hp : s.pending = some half) :
      Trans s (.complete (.error e)) { s with
        slot := { s.slot with state := .Failed ("TLS receive failed: " ++ e) }
        pending := none }
  | abandon {half : H} (hp : s.pending = some half) :
      Trans s .abandon { s with pending := none }
  | close_read : Trans s .close_read { s with slot := InputStream.close_read s.slot }

/-- **Inversion** of `read`, -/
theorem trans_of_step_read {H : Type} {s s' : Sys H} {size : ℕ}
    (h : step s (.read size) = some s') : Trans s (.read size) s' := by
  rcases hr : (read s.slot size).1 with e | bytes
  · simp only [step, hr, (read_error hr).2, Option.some.injEq] at h
    rw [← h]
    exact .read_fails (read_error hr).1
  · obtain ⟨n, hslot, hbytes⟩ := read_spec s.slot size
    simp only [step, hr, hslot, hbytes bytes hr, Option.some.injEq] at h
    rw [← h]
    exact .read n

/-- of the start of `ready`, -/
theorem trans_of_step_ready {H : Type} {s s' : Sys H} (h : step s .ready = some s') :
    Trans s .ready s' := by
  rcases hp : s.pending with _ | half
  · by_cases hret : s.slot.buf ≠ [] ∨ s.slot.state ≠ .Open
    · simp only [step, hp, ready_take, if_pos hret, Option.isSome_none, Bool.false_eq_true,
        if_false, Option.some.injEq] at h
      rw [← h, ← hp]
      exact .ready_returns hp hret
    · simp only [step, hp, ready_take, if_neg hret, Option.isSome_none, Bool.false_eq_true,
        if_false, Option.some.injEq] at h
      rw [not_or, not_not, not_not] at hret
      rw [← h]
      exact .ready_reads hp hret.1 hret.2
  · simp [step, hp] at h

/-- and of its end. -/
theorem trans_of_step_complete {H : Type} {s s' : Sys H} {result : Except String (List UInt8)}
    (h : step s (.complete result) = some s') : Trans s (.complete result) s' := by
  rcases hp : s.pending with _ | half
  · simp [step, hp] at h
  · have hlen : (result.toOption.getD []).length ≤ CHUNK := by
      by_contra hlen
      simp [step, hp, hlen] at h
    simp only [step, hp, hlen, if_true, Option.some.injEq] at h
    rw [← h]
    rcases result with e | bytes
    · simp only [ready_store, Except.toOption, Option.getD_none, List.append_nil]
      exact .failed hp
    · rcases bytes with _ | ⟨b, bytes⟩
      · simp only [ready_store, Except.toOption, Option.getD_some, List.append_nil]
        exact .ended hp
      · exact .filled hp (List.cons_ne_nil b bytes)

/-- **Inversion.** Every step is one of the listed transitions. -/
theorem trans_of_step {H : Type} {s s' : Sys H} {a : Act} (h : step s a = some s') :
    Trans s a s' := by
  rcases a with size | _ | result | _ | _
  · exact trans_of_step_read h
  · exact trans_of_step_ready h
  · exact trans_of_step_complete h
  · rcases hp : s.pending with _ | half
    · simp [step, hp] at h
    · simp only [step, hp, Option.isSome_some, if_true, Option.some.injEq] at h
      rw [← h]
      exact .abandon hp
  · simp only [step, Option.some.injEq] at h
    rw [← h]
    exact .close_read

/-- A stream that was shut down is not open. -/
theorem close_read_state_ne_open {H : Type} (slot : ReadSlot H) :
    (close_read slot).state ≠ .Open := by
  unfold close_read
  split_ifs with ho
  · simp
  · exact ho

/-- A step under the condition. The one it excludes is the drop of a `ready` that has the
half. -/
theorem inv_step {H : Type} {half : H} {s s' : Sys H} {a : Act} (hi : Inv half s)
    (hc : NotAbandonedOpen s a) (h : step s a = some s') : Inv half s' := by
  cases trans_of_step h with
  | read_fails hb => exact hi
  | read n =>
      refine ⟨hi.owner, ?_⟩
      intro ho
      rw [List.append_assoc, List.take_append_drop]
      exact hi.conserved ho
  | ready_returns hp hret => exact hi
  | ready_reads hp hb ho =>
      refine ⟨fun _ => .inr ⟨?_, rfl⟩, hi.conserved⟩
      rcases hi.owner ho with ⟨-, hh⟩ | ⟨hq, -⟩
      · exact hh
      · rw [hp] at hq
        exact absurd hq (by simp)
  | ended hp => exact ⟨fun ho => absurd ho (by simp), fun ho => absurd ho (by simp)⟩
  | failed hp => exact ⟨fun ho => absurd ho (by simp), fun ho => absurd ho (by simp)⟩
  | filled hp hb =>
      refine ⟨fun ho => .inl ⟨rfl, ?_⟩, ?_⟩
      · rcases hi.owner ho with ⟨hq, -⟩ | ⟨hq, -⟩
        · rw [hp] at hq
          exact absurd hq (by simp)
        · rw [← hp, hq]
      · intro ho
        rw [← List.append_assoc, hi.conserved ho]
  | abandon hp =>
      -- only a stream that is no longer open may lose its half this way
      have hno := hc rfl
      exact ⟨fun ho => absurd ho hno, fun ho => absurd ho hno⟩
  | close_read =>
      have hno := close_read_state_ne_open s.slot
      exact ⟨fun ho => absurd ho hno, fun ho => absurd ho hno⟩

/-! ## The dropped half -/

/-- Dropping a `ready` at the await of an open stream leaves the stream open and
without its half. -/
theorem not_alive_of_abandon {H : Type} {half : H} {s s' : Sys H} {a : Act}
    (hi : Inv half s) (hc : ¬ NotAbandonedOpen s a) (h : step s a = some s') :
    ¬ Alive half s' := by
  unfold NotAbandonedOpen at hc
  push Not at hc
  obtain ⟨rfl, ho⟩ := hc
  intro halive
  cases trans_of_step h with
  | abandon hp =>
      have hlost : s.slot.half = none := by
        rcases hi.owner ho with ⟨hq, -⟩ | ⟨-, hh⟩
        · rw [hp] at hq
          exact absurd hq (by simp)
        · exact hh
      have hheld := halive.holds_half rfl ho
      rw [hlost] at hheld
      exact absurd hheld (by simp)

/-- **The receive direction survives its polls exactly when none is dropped at its
await.** For every TLS half, every sequence of guest operations and every result of
the half's reads. -/
theorem alive_iff_not_abandoned {H : Type} (half : H) (acts : List Act) :
    Lts.Always step (Alive half) (Sys.init half) acts ↔
      Lts.Steps step NotAbandonedOpen (Sys.init half) acts :=
  Lts.always_iff_steps (inv_init half) inv_step alive_of_inv not_alive_of_abandon

/-- One poll that does not fire loses the stream: still open, no half, nothing read. -/
theorem abandoned_poll_loses_half :
    ¬ Lts.Always step (Alive ()) (Sys.init ()) [.ready, .abandon] := by
  have hrun : Lts.run step (Sys.init ()) [.ready, .abandon]
      = some ⟨⟨none, [], .Open⟩, none, [], []⟩ := by decide
  refine Lts.not_always_of_run hrun ?_
  intro halive
  exact absurd (halive.holds_half rfl rfl) (by simp)

end PolymorphTls.InputStream

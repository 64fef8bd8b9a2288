/-
What the WASI 0.2 receive stream says of its end.

A guest that reads `closed` takes what it got for the whole stream, so the word must not be
said for anything but a clean end of TLS or the guest's own `shutdown(receive)`, and not
while there are bytes it has not been given. `read` gives the buffer precedence over the
state, and the state is left for good once it is not `Open`; the two together are the
argument.

A `ready` that is in progress owns the half and will write the slot when it completes, so
the argument is about calls that do not overlap: from the await of a `ready` the system goes
on only by its completion or its being dropped ([`stepAlone`]). What has been read, shut down
and discarded is a monitor's to say ([`observe`]).
-/
import PolymorphTls.InputStream

set_option autoImplicit false

namespace PolymorphTls.ReceiveEnd

open PolymorphTls.InputStream

/-! ## The system -/

/-- A pending `ready` goes on: it completes, or it is dropped. -/
def Resumes : Act → Bool
  | .complete _ => true
  | .abandon => true
  | _ => false

/-- The receive direction with calls of `ready` that overlap no other call: a resource that
is borrowed by one call is not borrowed by another. -/
def stepAlone {H : Type} (s : Sys H) (a : Act) : Option (Sys H) :=
  if s.pending.isSome && !Resumes a then none else step s a

/-- What happened so far, as the guest and the half could tell it. The stream itself keeps
only a state and a buffer. -/
structure History where
  /-- The half reported a clean end. -/
  ended : Bool
  /-- The error of a read of the half that failed. -/
  failed : Option String
  /-- `shutdown(receive)` was called. -/
  shut : Bool
  /-- The bytes it discarded. -/
  discarded : List UInt8
  deriving DecidableEq, Repr

/-- Nothing happened. -/
def History.init : History := ⟨false, none, false, []⟩

/-- What the monitor notes of a step. -/
def observe {H : Type} (s : Sys H) (a : Act) (_ : Sys H) (g : History) : History :=
  match a with
  | .complete (.ok []) => { g with ended := true }
  | .complete (.error e) => { g with failed := some e }
  | .close_read => { g with shut := true, discarded := g.discarded ++ s.slot.buf }
  | _ => g

/-- The stream with its monitor. -/
def stepM {H : Type} : Sys H × History → Act → Option (Sys H × History) :=
  Lts.monitored stepAlone observe

/-- Every run without overlapping calls is a run under the monitor. -/
theorem watched {H : Type} {half : H} {acts : List Act} {s : Sys H}
    (hrun : Lts.run stepAlone (Sys.init half) acts = some s) :
    ∃ g, Lts.run stepM (Sys.init half, History.init) acts = some (s, g) :=
  Lts.run_monitored History.init hrun

/-! ## The property -/

/-- **The stream tells the truth about its end.** `Closed` comes from a clean end of the
half or a shutdown, a failure from a failure; and the bytes from before an end are all
delivered first. -/
structure Truthful {H : Type} (x : Sys H × History) : Prop where
  /-- `closed` is a clean end or the guest's shutdown. -/
  closed : ∀ size, (read x.1.slot size).1 = .error .Closed → x.2.ended = true ∨ x.2.shut = true
  /-- Any other error is the error of a read that failed. -/
  failed : ∀ size e, (read x.1.slot size).1 = .error e → e ≠ .Closed →
    ∃ cause, x.2.failed = some cause ∧ e = .LastOperationFailed ("TLS receive failed: " ++ cause)
  /-- An end is reported after every byte: each was returned, or discarded. -/
  drained : ∀ size e, (read x.1.slot size).1 = .error e →
    x.1.got ++ x.2.discarded = x.1.taken
  /-- The state is left for good, and then nothing is added to the buffer. -/
  terminal : x.1.slot.state ≠ .Open → ∀ a s', stepAlone x.1 a = some s' →
    s'.slot.state = x.1.slot.state ∧ s'.slot.buf <:+ x.1.slot.buf
  /-- After the shutdown no byte is returned. -/
  silent : x.2.shut = true → ∀ size bytes, (read x.1.slot size).1 = .ok bytes → bytes = []

/-! ## The invariant -/

/-- The state of the stream against its history, by where the half is. -/
structure Inv {H : Type} (x : Sys H × History) : Prop where
  /-- `ready` reads only for an open stream that has nothing buffered. -/
  reading : x.1.pending.isSome = true → x.1.slot.state = .Open ∧ x.1.slot.buf = []
  closed : x.1.slot.state = .Closed → x.2.ended = true ∨ x.2.shut = true
  failed : ∀ message, x.1.slot.state = .Failed message →
    ∃ cause, x.2.failed = some cause ∧ message = "TLS receive failed: " ++ cause
  conserved : x.1.got ++ x.2.discarded ++ x.1.slot.buf = x.1.taken
  shut : x.2.shut = true → x.1.slot.state ≠ .Open ∧ x.1.slot.buf = []
  kept : x.2.shut = false → x.2.discarded = []

/-- An open stream without a history. -/
theorem inv_init {H : Type} (half : H) : Inv (Sys.init half, History.init) where
  reading := by
    intro h
    exact absurd h (by simp [Sys.init])
  closed := by
    intro h
    exact absurd h (by simp [Sys.init])
  failed := by
    intro message h
    exact absurd h (by simp [Sys.init])
  conserved := rfl
  shut := by
    intro h
    exact absurd h (by simp [History.init])
  kept := by
    intro _
    rfl

/-- `read` fails on an empty buffer, with what the state says. -/
theorem read_eq_error {H : Type} {slot : ReadSlot H} {size : ℕ} {e : StreamError}
    (h : (read slot size).1 = .error e) : slot.buf = [] ∧ slot.state.check = .error e := by
  unfold InputStream.read at h
  split at h
  · exact absurd h (by simp)
  · next hbuf =>
    refine ⟨not_not.mp hbuf, ?_⟩
    split at h
    · exact absurd h (by simp)
    · next e' hcheck =>
      rw [hcheck]
      simpa using h

/-! ## Preservation -/

/-- A `read` moves bytes from the buffer to the guest; after a shutdown there are none. -/
theorem inv_read {H : Type} {s : Sys H} {g : History} (n : ℕ) (hi : Inv (s, g)) :
    Inv ({ s with
      slot := { s.slot with buf := s.slot.buf.drop n }
      got := s.got ++ s.slot.buf.take n }, g) := by
  have hdrained : s.slot.buf = [] → s.slot.buf.drop n = [] := by
    intro hb
    rw [hb, List.drop_nil]
  refine ⟨?_, hi.closed, hi.failed, ?_, ?_, hi.kept⟩
  · intro hp
    obtain ⟨ho, hb⟩ := hi.reading hp
    exact ⟨ho, hdrained hb⟩
  · have hcons : s.got ++ g.discarded ++ s.slot.buf = s.taken := hi.conserved
    show s.got ++ s.slot.buf.take n ++ g.discarded ++ s.slot.buf.drop n = s.taken
    rcases hshut : g.shut with _ | _
    · rw [hi.kept hshut, List.append_nil] at hcons ⊢
      rw [List.append_assoc, List.take_append_drop, hcons]
    · rw [(hi.shut hshut).2] at hcons ⊢
      rw [List.append_nil] at hcons
      rw [List.take_nil, List.drop_nil, List.append_nil, List.append_nil, hcons]
  · intro hshut
    obtain ⟨ho, hb⟩ := hi.shut hshut
    exact ⟨ho, hdrained hb⟩

/-- While the half is read, the stream is open and the guest has all that was taken. -/
theorem reading_spec {H : Type} {s : Sys H} {g : History} {half : H} (hi : Inv (s, g))
    (hp : s.pending = some half) :
    s.slot.state = .Open ∧ s.slot.buf = [] ∧ g.shut ≠ true ∧
      s.got ++ g.discarded = s.taken := by
  obtain ⟨ho, hb⟩ := hi.reading (by simp [hp])
  refine ⟨ho, hb, ?_, ?_⟩
  · intro hshut
    exact (hi.shut hshut).1 ho
  · have hcons : s.got ++ g.discarded ++ s.slot.buf = s.taken := hi.conserved
    rw [show s.slot.buf = [] from hb, List.append_nil] at hcons
    exact hcons

/-- The half returned bytes to a stream that was open all along. -/
theorem inv_filled {H : Type} {s : Sys H} {g : History} {half : H} (bytes : List UInt8)
    (hi : Inv (s, g)) (hp : s.pending = some half) :
    Inv ({ s with
      slot := { s.slot with buf := s.slot.buf ++ bytes, half := some half }
      pending := none
      taken := s.taken ++ bytes }, g) := by
  obtain ⟨-, hb, hshut, hcons⟩ := reading_spec hi hp
  refine ⟨by simp, hi.closed, hi.failed, ?_, fun hs => absurd hs hshut, hi.kept⟩
  show s.got ++ g.discarded ++ (s.slot.buf ++ bytes) = s.taken ++ bytes
  rw [hb, List.nil_append, hcons]

/-- `shutdown(receive)` of a stream no `ready` is reading: what is buffered is discarded, and
an open stream is closed. -/
theorem inv_close_read {H : Type} {s : Sys H} {g : History} (hi : Inv (s, g))
    (hp : s.pending.isSome = false) :
    Inv ({ s with slot := close_read s.slot },
      { g with shut := true, discarded := g.discarded ++ s.slot.buf }) := by
  refine ⟨?_, fun _ => .inr rfl, ?_, ?_, ?_, ?_⟩
  · intro hsome
    rw [show s.pending.isSome = true from hsome] at hp
    exact absurd hp (by simp)
  · intro message hmessage
    simp only [close_read] at hmessage
    split_ifs at hmessage
    exact hi.failed message hmessage
  · show s.got ++ (g.discarded ++ s.slot.buf) ++ [] = s.taken
    rw [List.append_nil, ← List.append_assoc]
    exact hi.conserved
  · intro _
    exact ⟨close_read_state_ne_open s.slot, rfl⟩
  · intro hs
    exact absurd hs (by simp)

/-- Every transition of the stream keeps it, under the monitor. -/
theorem inv_trans {H : Type} {s s' : Sys H} {g : History} {a : Act} (hi : Inv (s, g))
    (halone : ¬ (s.pending.isSome && !Resumes a) = true) (h : Trans s a s') :
    Inv (s', observe s a s' g) := by
  cases h with
  | read_fails hb => exact hi
  | read n => exact inv_read n hi
  | ready_returns hp hret => exact hi
  | ready_reads hp hb ho =>
      exact ⟨fun _ => ⟨ho, hb⟩, hi.closed, hi.failed, hi.conserved, hi.shut, hi.kept⟩
  | ended hp =>
      obtain ⟨-, -, hshut, -⟩ := reading_spec hi hp
      exact ⟨by simp, fun _ => .inl rfl, by simp, hi.conserved, fun hs => absurd hs hshut,
        hi.kept⟩
  | @filled half bytes hp hb =>
      rcases bytes with _ | ⟨b, bytes⟩
      · exact absurd rfl hb
      · exact inv_filled (b :: bytes) hi hp
  | @failed half e hp =>
      obtain ⟨-, -, hshut, -⟩ := reading_spec hi hp
      refine ⟨by simp, by simp, ?_, hi.conserved, fun hs => absurd hs hshut, hi.kept⟩
      intro message hmessage
      exact ⟨e, rfl, (StreamState.Failed.inj hmessage).symm⟩
  | abandon hp =>
      exact ⟨by simp, hi.closed, hi.failed, hi.conserved, hi.shut, hi.kept⟩
  | close_read =>
      apply inv_close_read hi
      simpa [Resumes] using halone

/-- A step without overlap is a step. -/
theorem step_of_stepAlone {H : Type} {s s' : Sys H} {a : Act} (h : stepAlone s a = some s') :
    ¬ (s.pending.isSome && !Resumes a) = true ∧ step s a = some s' := by
  unfold stepAlone at h
  split_ifs at h with halone
  exact ⟨halone, h⟩

/-- And so every step does. -/
theorem inv_step {H : Type} {x x' : Sys H × History} {a : Act} (hi : Inv x)
    (h : stepM x a = some x') : Inv x' := by
  obtain ⟨s', hstep, rfl⟩ := Lts.monitored_eq_some.mp h
  obtain ⟨halone, hstep⟩ := step_of_stepAlone hstep
  exact inv_trans hi halone (trans_of_step hstep)

/-! ## What it gives -/

/-- A stream that is not open is only drained. -/
theorem terminal_of_inv {H : Type} {s s' : Sys H} {g : History} {a : Act} (hi : Inv (s, g))
    (hstate : s.slot.state ≠ .Open) (h : stepAlone s a = some s') :
    s'.slot.state = s.slot.state ∧ s'.slot.buf <:+ s.slot.buf := by
  cases trans_of_step (step_of_stepAlone h).2 with
  | read_fails hb => exact ⟨rfl, List.suffix_refl _⟩
  | read n => exact ⟨rfl, List.drop_suffix n s.slot.buf⟩
  | ready_returns hp hret => exact ⟨rfl, List.suffix_refl _⟩
  | ready_reads hp hb ho => exact absurd ho hstate
  -- the half is read only for an open stream
  | ended hp => exact absurd (reading_spec hi hp).1 hstate
  | filled hp hb => exact absurd (reading_spec hi hp).1 hstate
  | failed hp => exact absurd (reading_spec hi hp).1 hstate
  | abandon hp => exact ⟨rfl, List.suffix_refl _⟩
  | close_read =>
      refine ⟨?_, List.nil_suffix⟩
      simp only [close_read, if_neg hstate]

/-- The contract is read off the state and the history. -/
theorem truthful_of_inv {H : Type} {x : Sys H × History} (hi : Inv x) : Truthful x where
  closed := by
    intro size h
    obtain ⟨-, hcheck⟩ := read_eq_error h
    apply hi.closed
    rcases hstate : x.1.slot.state with _ | _ | message
    · simp [hstate, StreamState.check] at hcheck
    · rfl
    · simp [hstate, StreamState.check] at hcheck
  failed := by
    intro size e h hne
    obtain ⟨-, hcheck⟩ := read_eq_error h
    rcases hstate : x.1.slot.state with _ | _ | message
    · simp [hstate, StreamState.check] at hcheck
    · simp only [hstate, StreamState.check, Except.error.injEq] at hcheck
      exact absurd hcheck.symm hne
    · obtain ⟨cause, hcause, rfl⟩ := hi.failed message hstate
      simp only [hstate, StreamState.check, Except.error.injEq] at hcheck
      exact ⟨cause, hcause, hcheck.symm⟩
  drained := by
    intro size e h
    obtain ⟨hbuf, -⟩ := read_eq_error h
    have hcons := hi.conserved
    rw [hbuf, List.append_nil] at hcons
    exact hcons
  terminal := by
    intro hstate a s' h
    exact terminal_of_inv hi hstate h
  silent := by
    intro hshut size bytes h
    obtain ⟨n, -, hbytes⟩ := read_spec x.1.slot size
    rw [hbytes bytes h, (hi.shut hshut).2, List.take_nil]

/-- **The receive stream tells the truth about its end**, for every TLS half, every result
of its reads, and every order of reads of any size, polls run to their end or dropped, and
shutdowns. -/
theorem receive_end_is_truthful {H : Type} (half : H) (acts : List Act) :
    Lts.Always stepM Truthful (Sys.init half, History.init) acts :=
  Lts.always_of_invariant (inv_init half) inv_step truthful_of_inv

end PolymorphTls.ReceiveEnd

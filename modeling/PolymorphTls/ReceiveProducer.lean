/-
The WASI 0.3 receive stream (`tls-virt-wasmtime/src/main.rs`): `TlsReceiveProducer`,
polled by the host for as long as the guest reads, and the oneshot that carries the
direction's verdict.

`poll_produce` sends the verdict from two of its outcomes, the clean end and the read
error, and reports `Dropped` in both, after which the host drops the producer. The
guest can also drop its stream first; then the producer is dropped with its sender
still unused. The twin consumer of the send direction answers that case in its `Drop`;
this producer has none, so the verdict future fails instead of resolving `ok`.

The contract is proved as an equivalence: every run delivers exactly the verdict it
should if and only if the producer is not dropped before the TLS half has reported its
end or a failure.
-/
import PolymorphTls.Lts
import PolymorphTls.Sockets
import PolymorphTls.StreamState

set_option autoImplicit false

namespace PolymorphTls.ReceiveProducer

/-! ## The producer -/

/-- `wasmtime::component::StreamResult`. -/
inductive StreamResult where
  | Completed
  | Dropped
  | Cancelled
  deriving DecidableEq, Repr

/-- The outcome of `poll_read` on the TLS half: on success, the bytes it filled. -/
inductive PollRead where
  | Pending
  | Ready (result : Except String (List UInt8))
  deriving DecidableEq

/-- What one `poll_produce` call is given. -/
structure Input where
  /-- `dst.remaining(..)`: the room the guest's read offers, if it is known. -/
  remaining : Option ℕ
  finish : Bool
  read : PollRead
  deriving DecidableEq

/-- The producer's own state and the channel it answers to. -/
structure Producer where
  /-- `result`: whether the oneshot sender is still held. -/
  sender : Bool
  /-- The values sent on the verdict channel. -/
  verdicts : List (Except ErrorCode Unit)
  /-- The bytes marked as written to the guest's stream. -/
  written : List UInt8
  deriving DecidableEq

/-- `TlsReceiveProducer::close`. Only the first call finds the sender. -/
def close (p : Producer) (res : Except ErrorCode Unit) : Producer :=
  if p.sender then { p with sender := false, verdicts := p.verdicts ++ [res] } else p

/-- `TlsReceiveProducer::poll_produce`; `none` is `Poll::Pending`. It is the only place a
verdict is sent from: dropping the producer drops the sender. -/
def poll_produce (p : Producer) (i : Input) : Option StreamResult × Producer :=
  if i.remaining = some 0 then
    -- zero-length read: a readiness probe
    (some .Completed, p)
  else
    match i.read with
    | .Ready (.ok bytes) =>
        if bytes.length = 0 then (some .Dropped, close p (.ok ()))
        else (some .Completed, { p with written := p.written ++ bytes })
    | .Ready (.error _) => (some .Dropped, close p (.error .ConnectionReset))
    | .Pending => if i.finish then (some .Cancelled, p) else (none, p)

/-- The bytes a `poll_read` can fill: what the destination offers, `CHUNK` when it
does not say. -/
def capacity (i : Input) : ℕ := i.remaining.getD CHUNK

/-- The bytes one `poll_read` filled. -/
def filled : PollRead → List UInt8
  | .Ready (.ok bytes) => bytes
  | _ => []

/-! ## The system -/

/-- The producer with what the host knows of it, and the ghosts of what the half
reported. -/
structure Sys where
  producer : Producer
  /-- A poll reported `Dropped`; the host will not poll again. -/
  ended : Bool
  /-- The producer was dropped. -/
  gone : Bool
  /-- The sender was dropped without a value: the guest's verdict future fails. -/
  unsent : Bool
  /-- Ghost: the half reported a clean end. -/
  clean : Bool
  /-- Ghost: a read of the half failed. -/
  failed : Bool
  deriving DecidableEq

/-- What `VirtSockets::receive` hands to the host. -/
def Sys.init : Sys := ⟨⟨true, [], []⟩, false, false, false, false, false⟩

/-- A poll of the host, or the drop of the producer. -/
inductive Act where
  | poll (i : Input)
  /-- The producer is dropped: the host after `Dropped`, or the guest at any time. -/
  | drop
  deriving DecidableEq

/-- Whether this poll reads a clean end from the half. -/
def readsEnd (i : Input) : Bool := i.remaining ≠ some 0 ∧ i.read = .Ready (.ok [])

/-- Whether this poll reads an error from the half. -/
def readsError (i : Input) : Bool :=
  match i.read with
  | .Ready (.error _) => i.remaining ≠ some 0
  | _ => false

/-- A step. After the drop there is no producer to poll. -/
def step (s : Sys) : Act → Option Sys
  | .poll i =>
      if s.gone ∨ s.ended ∨ capacity i < (filled i.read).length then none
      else
        let (result, producer) := poll_produce s.producer i
        some { s with
          producer
          ended := result = some .Dropped
          clean := s.clean || readsEnd i
          failed := s.failed || readsError i }
  | .drop =>
      if s.gone then none
      else some { s with gone := true, unsent := s.producer.sender }

/-! ## The contract -/

/-- The verdict a finished run owes the guest. -/
def due (s : Sys) : Except ErrorCode Unit :=
  if s.failed then .error .ConnectionReset else .ok ()

/-- **The verdict is exact.** When the producer is gone exactly one value was sent: the
error if a read failed, `ok` otherwise (the half ended cleanly, or the guest stopped
reading before any failure). The sender is never dropped unsent, no second value is
ever sent, and a zero-length probe changes nothing. -/
structure Exact (s : Sys) : Prop where
  verdict : s.gone = true → s.producer.verdicts = [due s] ∧ s.unsent = false
  at_most_once : s.producer.verdicts.length ≤ 1
  probe : s.gone = false → s.ended = false → ∀ finish read,
    (poll_produce s.producer ⟨some 0, finish, read⟩) = (some .Completed, s.producer)

/-- The producer is dropped only after the half reported its end or a failure. -/
def DroppedAfterEnd (s : Sys) (a : Act) : Prop :=
  a = .drop → s.clean = true ∨ s.failed = true

/-! ## The invariant -/

/-- The verdict was sent exactly if the stream ended, and the stream ended exactly if
the half reported something final. -/
structure Inv (s : Sys) : Prop where
  ended_iff : s.ended = true ↔ s.clean = true ∨ s.failed = true
  open_sender : s.ended = false → s.producer.sender = true ∧ s.producer.verdicts = []
  sent : s.ended = true → s.producer.sender = false ∧ s.producer.verdicts = [due s]
  gone_ended : s.gone = true → s.ended = true ∧ s.unsent = false

/-- Nothing was reported, and nothing sent. -/
theorem inv_init : Inv Sys.init :=
  ⟨by simp [Sys.init], fun _ => ⟨rfl, rfl⟩, by simp [Sys.init], by simp [Sys.init]⟩

/-- For a producer that is gone the invariant is the property. -/
theorem exact_of_inv {s : Sys} (hi : Inv s) : Exact s := by
  refine ⟨fun hg => ?_, ?_, fun _ _ finish read => rfl⟩
  · obtain ⟨he, hu⟩ := hi.gone_ended hg
    exact ⟨(hi.sent he).2, hu⟩
  · cases he : s.ended with
    | false => rw [(hi.open_sender he).2]; exact Nat.zero_le 1
    | true => rw [(hi.sent he).2]; exact Nat.le_refl 1

/-- A poll that ends the stream sends the verdict it owes. -/
theorem inv_of_end {s : Sys} {i : Input} {res : Except ErrorCode Unit} (hi : Inv s)
    (hg : s.gone = false) (he : s.ended = false)
    (hsplit : readsEnd i = true ∧ readsError i = false ∧ res = .ok ()
      ∨ readsEnd i = false ∧ readsError i = true ∧ res = .error .ConnectionReset) :
    Inv { s with
      producer := close s.producer res
      ended := true
      clean := s.clean || readsEnd i
      failed := s.failed || readsError i } := by
  obtain ⟨hsend, hnil⟩ := hi.open_sender he
  have hno : ¬ (s.clean = true ∨ s.failed = true) := by
    rw [← hi.ended_iff, he]
    simp
  simp only [not_or, Bool.not_eq_true] at hno
  obtain ⟨hc, hf⟩ := hno
  rcases hsplit with ⟨h1, h2, rfl⟩ | ⟨h1, h2, rfl⟩ <;>
    exact ⟨by simp [hc, hf, h1, h2], by simp,
      fun _ => by simp [close, hsend, hnil, due, hf, h2], by simp [hg]⟩

/-- A poll that reads nothing final leaves the stream open and the sender held. -/
theorem inv_of_open {s : Sys} {i : Input} {p : Producer} (hi : Inv s) (he : s.ended = false)
    (hg : s.gone = false) (hsend : p.sender = s.producer.sender)
    (hverd : p.verdicts = s.producer.verdicts) (h1 : readsEnd i = false)
    (h2 : readsError i = false) :
    Inv { s with
      producer := p
      ended := false
      clean := s.clean || readsEnd i
      failed := s.failed || readsError i } := by
  have hno := hi.ended_iff
  rw [he] at hno
  refine ⟨?_, ?_, by simp, by simp [hg]⟩
  · simpa [h1, h2] using hno
  · intro _
    rw [hsend, hverd]
    exact hi.open_sender he

/-- A poll, by whether it reads something final. -/
theorem inv_step_poll {s s' : Sys} {i : Input} (hi : Inv s)
    (h : step s (.poll i) = some s') : Inv s' := by
  by_cases hen : s.gone ∨ s.ended ∨ capacity i < (filled i.read).length
  · simp [step, hen] at h
  · rw [step, if_neg hen, Option.some.injEq] at h
    simp only [not_or, Bool.not_eq_true] at hen
    obtain ⟨hg, he, -⟩ := hen
    subst h
    by_cases hz : i.remaining = some 0
    · -- a probe reads nothing
      have h1 : readsEnd i = false := by simp [readsEnd, hz]
      have h2 : readsError i = false := by
        unfold readsError
        split <;> simp [hz]
      simpa [poll_produce, hz] using inv_of_open hi he hg rfl rfl h1 h2
    · cases hr : i.read with
      | Pending =>
          have hopen := inv_of_open (i := i) hi he hg rfl rfl
            (by simp [readsEnd, hr]) (by simp [readsError, hr])
          by_cases hfin : i.finish = true <;> simpa [poll_produce, hz, hr, hfin] using hopen
      | Ready result =>
          cases result with
          | error e =>
              have hend := inv_of_end (i := i) hi hg he
                (.inr ⟨by simp [readsEnd, hr], by simp [readsError, hz, hr], rfl⟩)
              simpa [poll_produce, hz, hr] using hend
          | ok bytes =>
              cases bytes with
              | nil =>
                  have hend := inv_of_end (i := i) hi hg he
                    (.inl ⟨by simp [readsEnd, hz, hr], by simp [readsError, hr], rfl⟩)
                  simpa [poll_produce, hz, hr] using hend
              | cons b bytes =>
                  have hopen := inv_of_open (i := i)
                    (p := { s.producer with written := s.producer.written ++ b :: bytes })
                    hi he hg rfl rfl (by simp [readsEnd, hr]) (by simp [readsError, hr])
                  simpa [poll_produce, hz, hr] using hopen

/-- A step under the condition: the drop finds the verdict sent. -/
theorem inv_step {s s' : Sys} {a : Act} (hi : Inv s) (hc : DroppedAfterEnd s a)
    (h : step s a = some s') : Inv s' := by
  cases a with
  | poll i => exact inv_step_poll hi h
  | drop =>
      -- the stream had ended, so the sender is used
      have he : s.ended = true := hi.ended_iff.mpr (hc rfl)
      by_cases hg : s.gone = true
      · simp [step, hg] at h
      · rw [step, if_neg hg, Option.some.injEq] at h
        subst h
        exact ⟨hi.ended_iff, hi.open_sender, hi.sent, fun _ => ⟨he, (hi.sent he).1⟩⟩

/-- A producer dropped before the half said anything final has sent no verdict. -/
theorem not_exact_of_drop {s s' : Sys} {a : Act} (hi : Inv s)
    (hc : ¬ DroppedAfterEnd s a) (h : step s a = some s') : ¬ Exact s' := by
  unfold DroppedAfterEnd at hc
  push Not at hc
  obtain ⟨rfl, hclean, hfailed⟩ := hc
  have he : s.ended = false := by
    rw [← Bool.not_eq_true, hi.ended_iff]
    exact fun hor => hor.elim hclean hfailed
  intro hexact
  by_cases hg : s.gone = true
  · simp [step, hg] at h
  · rw [step, if_neg hg, Option.some.injEq] at h
    subst h
    have hv := (hexact.verdict rfl).1
    rw [(hi.open_sender he).2] at hv
    exact absurd hv (by simp)

/-- **The receive verdict is delivered exactly once -- exactly when the producer is not
dropped before the half's end or failure.** For every sequence of polls with any read
results, finish flags and probes, and every point at which the producer is dropped. -/
theorem exact_iff_dropped_after_end (acts : List Act) :
    Lts.Always step Exact Sys.init acts ↔ Lts.Steps step DroppedAfterEnd Sys.init acts :=
  Lts.always_iff_steps inv_init inv_step exact_of_inv not_exact_of_drop

/-- A guest that drops its stream after one data read never gets a verdict. -/
theorem early_drop_sends_no_verdict :
    ¬ Lts.Always step Exact Sys.init
      [.poll ⟨some 4, false, .Ready (.ok [1, 2])⟩, .drop] := by
  have hrun : Lts.run step Sys.init [.poll ⟨some 4, false, .Ready (.ok [1, 2])⟩, .drop]
      = some ⟨⟨true, [], [1, 2]⟩, false, true, true, false, false⟩ := by decide
  refine Lts.not_always_of_run hrun ?_
  intro hexact
  exact absurd (hexact.verdict rfl).2 (by simp)

end PolymorphTls.ReceiveProducer

/-
No loss, no reordering, one close: what the writer task passes to the TLS write half
against what the guest's `write` calls accepted.

The task is the only consumer of `WriteInner::queued`, so the accepted bytes are at
any moment split into three parts: passed to `write_all`, held for `write_all`, and
queued. That equation is the whole argument, and there is one transition that breaks
it. `next_work` both *inspects* and *drains* the queue, and the `Work::Wait` arm
calls it a second time only to inspect: when a guest `write` lands between the first
look and the re-check, the re-check drains the bytes into a `Work::Io` that is
matched against `Work::Wait` and dropped.

So the result below is an equivalence. The equation and the close-comes-last law hold
along a schedule exactly when every re-check of it finds the queue empty.
-/
import PolymorphTls.WriteTask

set_option autoImplicit false

namespace PolymorphTls.SendOrder

open PolymorphTls.WriteTask

/-! ## The three parts of the accepted bytes -/

/-- The bytes handed to `half.write_all`, in order. -/
def passed : List HalfCall → List UInt8
  | [] => []
  | .write_all chunk :: calls => chunk ++ passed calls
  | .flush :: calls => passed calls
  | .shutdown :: calls => passed calls

/-- The chunk the task has taken from the queue and not yet passed on. -/
def held : TaskPc → List UInt8
  | .holding chunk _ _ => chunk
  | _ => []

/-- The bytes of a `write` that made its locked update and has not returned yet. -/
def inflight : StreamPc → List UInt8
  | .notify (.write bytes) => bytes
  | _ => []

@[simp] theorem passed_append (l₁ l₂ : List HalfCall) :
    passed (l₁ ++ l₂) = passed l₁ ++ passed l₂ := by
  induction l₁ with
  | nil => rfl
  | cons c l ih => cases c <;> simp [passed, ih]

/-- **The send contract.** The bytes passed to the half, the chunk held for it and the
queue are the accepted bytes, in order (those of the `write` calls that returned `Ok`,
then those of a `write` that is past its locked update and about to); and when `shutdown`
was called on the half it was the last call, made after every accepted byte had been
passed. -/
structure InOrder (s : Sys) : Prop where
  conserved : passed s.half ++ held s.task ++ s.inner.queued = s.accepted ++ inflight s.stream
  closed_last : ∀ pre post, s.half = pre ++ HalfCall.shutdown :: post →
    post = [] ∧ passed pre = s.accepted ++ inflight s.stream

/-- The re-check takes nothing from the queue. A condition on the state before the
step: the task is about to run its second `next_work` on an open stream. -/
def RecheckTakesNothing (s : Sys) (a : Act) : Prop :=
  a = .task → s.task = .recheck → s.inner.state = .Open → s.inner.queued = []

/-! ## The invariant

`closed_last` needs two facts about a round that will shut the half down: it drained
the queue when it started, and no later `write` is accepted. -/

/-- The task is in a round whose snapshot asked for the shutdown. -/
def Closing : TaskPc → Prop
  | .holding _ _ shutdown => shutdown = true
  | .writing _ shutdown => shutdown = true
  | .flush shutdown => shutdown = true
  | .shutdown _ => True
  | .finish _ _ shutdown => shutdown = true
  | _ => False

/-- No call on the half is to come. -/
def Over : TaskPc → Prop
  | .shutdown _ => True
  | .finish _ _ shutdown => shutdown = true
  | .returned => True
  | _ => False

/-- The order of the bytes, and what a task that is closing or over has left to do. -/
structure Inv (s : Sys) : Prop where
  conserved : passed s.half ++ held s.task ++ s.inner.queued = s.accepted ++ inflight s.stream
  closing : Closing s.task → s.inner.shutdown = true ∧ s.inner.queued = []
  /-- `shutdown` is the last call, if it was made. -/
  once : ∃ q, HalfCall.shutdown ∉ q ∧ (s.half = q ∨ s.half = q ++ [HalfCall.shutdown])
  shut : HalfCall.shutdown ∈ s.half →
    Over s.task ∧ s.inner.shutdown = true ∧ s.inner.queued = []

/-- Nothing was accepted. -/
theorem inv_init : Inv Sys.init where
  conserved := rfl
  closing := by intro h; exact absurd h (by simp [Sys.init, Closing])
  once := ⟨[], by simp, .inl rfl⟩
  shut := by intro h; simp [Sys.init] at h

/-- A list ending in its only `x` splits at `x` in one way. -/
theorem split_at_last {α : Type*} {x : α} {q pre post : List α} (hq : x ∉ q)
    (h : q ++ [x] = pre ++ x :: post) : post = [] ∧ pre = q := by
  rcases List.eq_nil_or_concat post with rfl | ⟨post', y, rfl⟩
  · exact ⟨rfl, (List.append_inj' h rfl).1.symm⟩
  · have hlast : q ++ [x] = (pre ++ x :: post') ++ [y] := by rw [h]; simp
    have hmem : x ∈ q := by
      rw [(List.append_inj' hlast rfl).1]
      simp
    exact absurd hmem hq

/-- When the half was shut down nothing is held and nothing is queued. -/
theorem held_of_over {pc : TaskPc} (h : Over pc) : held pc = [] := by
  cases pc <;> first | rfl | exact absurd h (by simp [Over])

/-- The contract from the books, with the split of the calls at the shutdown. -/
theorem inOrder_of_inv {s : Sys} (hi : Inv s) : InOrder s := by
  refine ⟨hi.conserved, ?_⟩
  intro pre post hsplit
  have hmem : HalfCall.shutdown ∈ s.half := by rw [hsplit]; simp
  obtain ⟨q, hq, hhalf | hhalf⟩ := hi.once
  · exact absurd (hhalf ▸ hmem) hq
  · obtain ⟨rfl, rfl⟩ := split_at_last hq (hhalf ▸ hsplit)
    obtain ⟨hover, -, hqueue⟩ := hi.shut hmem
    have hcons := hi.conserved
    rw [hhalf, held_of_over hover, hqueue] at hcons
    refine ⟨rfl, ?_⟩
    simpa [passed] using hcons

/-! ## Preservation -/

@[simp] theorem finish_queued (inner : WriteInner) (result : Except String Unit)
    (flushing shutdown : Bool) :
    (finish inner result flushing shutdown).queued = inner.queued := by
  unfold finish
  cases result with
  | error e => rfl
  | ok u => dsimp only; split_ifs <;> rfl

@[simp] theorem finish_shutdown (inner : WriteInner) (result : Except String Unit)
    (flushing shutdown : Bool) :
    (finish inner result flushing shutdown).shutdown = inner.shutdown := by
  unfold finish
  cases result with
  | error e => rfl
  | ok u => dsimp only; split_ifs <;> rfl

/-- A task that still has calls to make has not shut the half down. -/
theorem Inv.not_shut {s : Sys} (hi : Inv s) (h : ¬ Over s.task) :
    HalfCall.shutdown ∉ s.half :=
  fun hmem => h (hi.shut hmem).1

/-- A step of the guest that moves no byte. -/
theorem inv_guest {s s' : Sys} (hi : Inv s) (htask : s'.task = s.task) (hhalf : s'.half = s.half)
    (hqueued : s'.inner.queued = s.inner.queued)
    (hshutdown : s.inner.shutdown = true → s'.inner.shutdown = true)
    (hbytes : s'.accepted ++ inflight s'.stream = s.accepted ++ inflight s.stream) : Inv s' := by
  refine ⟨?_, fun hcl => ?_, ?_, fun hm => ?_⟩
  · rw [htask, hhalf, hqueued, hbytes]
    exact hi.conserved
  · rw [htask] at hcl
    rw [hqueued]
    exact ⟨hshutdown (hi.closing hcl).1, (hi.closing hcl).2⟩
  · rw [hhalf]
    exact hi.once
  · rw [hhalf] at hm
    obtain ⟨hover, hsd, hq⟩ := hi.shut hm
    rw [htask, hqueued]
    exact ⟨hover, hshutdown hsd, hq⟩

/-- A step of the task between two calls on the half. -/
theorem inv_between {s s' : Sys} (hi : Inv s) (hnot : ¬ Over s.task) (hhalf : s'.half = s.half)
    (hbytes : s'.accepted ++ inflight s'.stream = s.accepted ++ inflight s.stream)
    (hheld : held s'.task ++ s'.inner.queued = held s.task ++ s.inner.queued)
    (hclosing : Closing s'.task → s'.inner.shutdown = true ∧ s'.inner.queued = []) : Inv s' := by
  refine ⟨?_, hclosing, ?_, fun hm => ?_⟩
  · rw [List.append_assoc, hhalf, hheld, hbytes, ← List.append_assoc]
    exact hi.conserved
  · rw [hhalf]
    exact hi.once
  · rw [hhalf] at hm
    exact absurd hm (hi.not_shut hnot)

/-- A call on the half that is not its shutdown: it takes what the task held. -/
theorem inv_called {s s' : Sys} {c : HalfCall} (hi : Inv s) (hnot : ¬ Over s.task)
    (hc : c ≠ .shutdown) (hhalf : s'.half = s.half ++ [c]) (hinner : s'.inner = s.inner)
    (hbytes : s'.accepted ++ inflight s'.stream = s.accepted ++ inflight s.stream)
    (hheld : passed [c] ++ held s'.task = held s.task)
    (hclosing : Closing s'.task → Closing s.task) : Inv s' := by
  have hno : HalfCall.shutdown ∉ s'.half := by
    rw [hhalf, List.mem_append, List.mem_singleton, not_or]
    exact ⟨hi.not_shut hnot, hc.symm⟩
  refine ⟨?_, fun hcl => ?_, ⟨s'.half, hno, .inl rfl⟩, fun hm => absurd hm hno⟩
  · rw [hhalf, passed_append, List.append_assoc (passed s.half), hheld, hinner, hbytes]
    exact hi.conserved
  · rw [hinner]
    exact hi.closing (hclosing hcl)

/-- A round ends, with the shutdown it was asked for or an error of the half. -/
theorem inv_ended {s : Sys} (result : Except String Unit) {flushing shutdown : Bool}
    (hi : Inv s) (hheld : held s.task = []) (hclosing : shutdown = true → Closing s.task)
    (hover : Over s.task → shutdown = true) :
    Inv { s with task := .finish result flushing shutdown } := by
  have hcons := hi.conserved
  rw [hheld] at hcons
  refine ⟨hcons, fun hsd => hi.closing (hclosing hsd), hi.once, fun hm => ?_⟩
  obtain ⟨hov, hrest⟩ := hi.shut hm
  exact ⟨hover hov, hrest⟩

/-- The half is shut down, after all that was queued. -/
theorem inv_shutdown {s : Sys} {flushing : Bool} (hi : Inv s) (hnot : ¬ Over s.task)
    (hclosing : Closing s.task) (hheld : held s.task = []) :
    Inv { s with task := .shutdown flushing, half := s.half ++ [.shutdown] } := by
  have hcl := hi.closing hclosing
  have hcons := hi.conserved
  rw [hheld] at hcons
  refine ⟨?_, fun _ => hcl, ⟨s.half, hi.not_shut hnot, .inr rfl⟩, fun _ => ⟨trivial, hcl⟩⟩
  simpa [held, passed] using hcons

/-- The end of a round is written down; after a shutdown the task returns. -/
theorem inv_finished {s : Sys} {result : Except String Unit} {flushing shutdown : Bool}
    {ready : Notify} (hi : Inv s) (ht : s.task = .finish result flushing shutdown) :
    Inv { s with
      inner := finish s.inner result flushing shutdown
      ready := ready
      task := if result.isOk && !shutdown then .look else .returned } := by
  have hcons := hi.conserved
  simp only [ht, held] at hcons
  refine ⟨?_, ?_, hi.once, fun hm => ?_⟩
  · simp only [finish_queued]
    split_ifs <;> exact hcons
  · intro hcl
    split_ifs at hcl <;> exact hcl.elim
  · obtain ⟨hover, hrest⟩ := hi.shut hm
    have hsd : shutdown = true := by simpa only [ht, Over] using hover
    simp only [finish_queued, finish_shutdown, hsd, Bool.not_true, Bool.and_false,
      Bool.false_eq_true, if_false]
    exact ⟨trivial, hrest⟩

/-- A write is accepted only before the shutdown request, so no round is closing. -/
theorem inv_write {s : Sys} {bytes : List UInt8} (hi : Inv s) (hs : s.stream = .idle)
    (hd : s.inner.shutdown = false) :
    Inv { s with
      inner := { s.inner with queued := s.inner.queued ++ bytes }
      stream := .notify (.write bytes) } := by
  refine ⟨?_, fun hcl => ?_, hi.once, fun hm => ?_⟩
  · have hcons := hi.conserved
    simp only [hs, inflight, List.append_nil] at hcons
    simp [inflight, ← hcons]
  · exact absurd (hi.closing hcl).1 (by simp [hd])
  · exact absurd (hi.shut hm).2.1 (by simp [hd])

/-- A step under the condition. The re-check is the one step that may take bytes and do
nothing with them. -/
theorem inv_step {s s' : Sys} {a : Act} (hi : Inv s) (hc : RecheckTakesNothing s a)
    (h : step s a = some s') : Inv s' := by
  cases trans_of_step h with
  | look_end ht ho =>
      exact inv_between hi (by simp [ht, Over]) rfl rfl (by simp [ht, held]) False.elim
  | look_wait ht ho hp =>
      exact inv_between hi (by simp [ht, Over]) rfl rfl (by simp [ht, held]) False.elim
  | look_io ht ho hp =>
      exact inv_between hi (by simp [ht, Over]) rfl rfl (by simp [ht, held]) fun hsd => ⟨hsd, rfl⟩
  | register ht =>
      exact inv_between hi (by simp [ht, Over]) rfl rfl (by simp [ht, held]) False.elim
  | recheck_wait ht ho hp =>
      exact inv_between hi (by simp [ht, Over]) rfl rfl (by simp [ht, held]) False.elim
  | recheck_end ht ho =>
      exact inv_between hi (by simp [ht, Over]) rfl rfl (by simp [ht, held]) False.elim
  | recheck_io ht ho hp =>
      -- the one step that can lose bytes: here the condition says there are none
      have hnil : s.inner.queued = [] := hc rfl ht ho
      exact inv_between hi (by simp [ht, Over]) rfl rfl (by simp [ht, held, hnil]) False.elim
  | resume ht hr =>
      exact inv_between hi (by simp [ht, Over]) rfl rfl (by simp [ht, held]) False.elim
  | call ht =>
      exact inv_called hi (by simp [ht, Over]) (by simp) rfl rfl rfl (by simp [ht, held, passed])
        (by simp [ht, Closing])
  | finish ht => exact inv_finished hi ht
  | io_flush ht =>
      exact inv_called hi (by simp [ht, Over]) (by simp) rfl rfl rfl (by simp [ht, held, passed])
        (by simp [ht, Closing])
  | io_shutdown ht =>
      apply inv_shutdown hi
      · rcases ht with ⟨ht, -⟩ | ⟨ht, -⟩ <;> simp [ht, Over]
      · rcases ht with ⟨ht, -⟩ | ⟨ht, -⟩ <;> simp [ht, Closing]
      · rcases ht with ⟨ht, -⟩ | ⟨ht, -⟩ <;> simp [ht, held]
  | io_ok ht =>
      apply inv_ended _ hi
      · rcases ht with ⟨ht, -⟩ | ⟨ht, -⟩ | ⟨ht, -⟩ <;> simp [ht, held]
      · rcases ht with ⟨ht, -, hsd⟩ | ⟨ht, -, hsd⟩ | ⟨ht, hsd⟩ <;> simp [ht, hsd, Closing]
      · rcases ht with ⟨ht, -, hsd⟩ | ⟨ht, -, hsd⟩ | ⟨ht, hsd⟩ <;> simp [ht, hsd, Over]
  | io_err ht =>
      apply inv_ended _ hi
      · rcases ht with ht | ⟨ht, -⟩ | ⟨ht, -⟩ <;> simp [ht, held]
      · rcases ht with ht | ⟨ht, -⟩ | ⟨ht, -⟩ <;> simp [ht, Closing]
      · rcases ht with ht | ⟨ht, -⟩ | ⟨ht, hsd⟩
        · simp [ht, Over]
        · simp [ht, Over]
        · exact fun _ => hsd
  | write hs ho hd hb => exact inv_write hi hs hd
  | flush hs ho hd => exact inv_guest hi rfl rfl rfl id (by simp [hs, inflight])
  | drop hs ho hd => exact inv_guest hi rfl rfl rfl (fun _ => rfl) (by simp [hs, inflight])
  | drop_ended hs hd => exact inv_guest hi rfl rfl rfl id (by simp [hs, inflight])
  | ready hs => exact inv_guest hi rfl rfl rfl id (by simp [hs, inflight])
  | notify_write hs => exact inv_guest hi rfl rfl rfl id (by simp [hs, inflight])
  | notify_flush hs => exact inv_guest hi rfl rfl rfl id (by simp [hs, inflight])
  | notify_drop hs => exact inv_guest hi rfl rfl rfl id (by simp [hs, inflight])
  | ready_return hs hr => exact inv_guest hi rfl rfl rfl id (by simp [hs, inflight])
  | ready_await hs hr => exact inv_guest hi rfl rfl rfl id (by simp [hs, inflight])
  | ready_again hs hr => exact inv_guest hi rfl rfl rfl id (by simp [hs, inflight])
  | abandon hs => exact inv_guest hi rfl rfl rfl id (by simp [hs, inflight])
  | shutdown ho hd => exact inv_guest hi rfl rfl rfl (fun _ => rfl) rfl
  | sock hn => exact inv_guest hi rfl rfl rfl id rfl
  | refused ha => exact hi

/-! ## The dropped chunk -/

/-- A re-check that drains a nonempty queue leaves accepted bytes nowhere. -/
theorem not_inOrder_of_recheck {s s' : Sys} {a : Act} (hi : Inv s)
    (hc : ¬ RecheckTakesNothing s a) (h : step s a = some s') : ¬ InOrder s' := by
  unfold RecheckTakesNothing at hc
  push Not at hc
  obtain ⟨rfl, ht, ho, hq⟩ := hc
  have hcons := hi.conserved
  intro hord
  have hcons' := hord.conserved
  cases trans_of_step h with
  | recheck_io ht' ho' hp =>
      simp only [ht, held, List.append_nil] at hcons hcons'
      rw [← hcons] at hcons'
      exact hq (List.self_eq_append_right.mp hcons')
  | recheck_wait _ _ hp => exact hp (.inl hq)
  | recheck_end _ ho' => exact ho' ho
  | refused ha => exact ha rfl
  | look_end ht' => simp [ht] at ht'
  | look_wait ht' => simp [ht] at ht'
  | look_io ht' => simp [ht] at ht'
  | register ht' => simp [ht] at ht'
  | resume ht' => simp [ht] at ht'
  | call ht' => simp [ht] at ht'
  | finish ht' => simp [ht] at ht'

/-- **No loss, no reordering, one close -- exactly when no re-check takes bytes.**
For every interleaving of guest calls, shutdown requests, I/O completions (errors
included) and task steps: the send contract holds at every moment of it if and only
if each re-check finds the queue of an open stream empty. -/
theorem in_order_iff_recheck_takes_nothing (acts : List Act) :
    Lts.Always step InOrder Sys.init acts ↔
      Lts.Steps step RecheckTakesNothing Sys.init acts :=
  Lts.always_iff_steps inv_init inv_step inOrder_of_inv not_inOrder_of_recheck

/-- The schedule that loses a byte: the task looks and finds nothing, the guest's
one-byte write lands, the task registers and re-checks. -/
def lossSchedule : List Act := [.task, .write [7], .stream, .task, .task]

/-- After it the byte is accepted, and neither passed on, held nor queued. -/
theorem recheck_loses_accepted_byte :
    ¬ Lts.Always step InOrder Sys.init lossSchedule := by
  have hrun : Lts.run step Sys.init lossSchedule
      = some { Sys.init with task := .look, accepted := [7] } := by decide
  refine Lts.not_always_of_run hrun ?_
  intro hord
  have hlost : ([] : List UInt8) = [7] := hord.conserved
  exact absurd hlost (by simp)

end PolymorphTls.SendOrder

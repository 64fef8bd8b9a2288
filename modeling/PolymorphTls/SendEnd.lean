/-
Why the WASI 0.2 send direction ends.

`SendSettle.lean` shows that the writer task returns only from a direction that is over. Here
is what makes it over: a shutdown that was asked for, by the socket or by dropping the
stream, and was then the last call on the TLS half; or an operation on the half that failed.
And a stream that is dropped has told the task, whatever the direction was doing.

Who may ask through the socket is a parameter: the socket is not part of this system.
-/
import PolymorphTls.SendOrder
import PolymorphTls.SendSettle

set_option autoImplicit false

namespace PolymorphTls.SendEnd

open PolymorphTls.WriteTask

/-! ## What the end rests on -/

/-- The guest is dropping the output stream, or has dropped it. -/
def Leaving : StreamPc → Prop
  | .notify .drop | .gone => True
  | _ => False

/-- The writer task was told to end, or has ended. -/
def Told (o : Sys) : Prop := o.inner.shutdown = true ∨ o.inner.state ≠ .Open

/-- The half was asked to shut down, and has not failed. -/
def ShutDown : TaskPc → Prop
  | .shutdown _ => True
  | .finish (.ok _) _ shutdown => shutdown = true
  | _ => False

/-- What the end of the direction rests on: whoever is past its request has told the task, a
round shuts down only when asked, and what closed the direction was the half's shutdown. -/
structure Inv (asked : Prop) (o : Sys) : Prop where
  settle : SendSettle.Inv o
  stopped : o.inner.state ≠ .Open → o.task = .returned
  round : SendOrder.Closing o.task → o.inner.shutdown = true
  closed : o.inner.state = .Closed → o.inner.shutdown = true
  last : ShutDown o.task ∨ o.inner.state = .Closed → o.half.getLast? = some .shutdown
  requested : o.inner.shutdown = true → asked ∨ Leaving o.stream
  leaving : Leaving o.stream → Told o

/-- Nothing was asked for. -/
theorem inv_init (asked : Prop) : Inv asked .init where
  settle := SendSettle.inv_init
  stopped := by
    intro h
    exact absurd rfl h
  round := by
    intro h
    exact False.elim h
  closed := by
    intro h
    exact absurd h (by simp [Sys.init, WriteTask.WriteInner.new])
  last := by
    rintro (h | h)
    · exact False.elim h
    · exact absurd h (by simp [Sys.init, WriteTask.WriteInner.new])
  requested := by
    intro h
    exact absurd h (by simp [Sys.init, WriteTask.WriteInner.new])
  leaving := by
    intro h
    exact False.elim h

/-- Being asked by more is no harm. -/
theorem Inv.mono {asked asked' : Prop} {o : Sys} (h : Inv asked o)
    (hmono : asked → asked') : Inv asked' o where
  settle := h.settle
  stopped := h.stopped
  round := h.round
  closed := h.closed
  last := h.last
  requested := fun hreq => (h.requested hreq).imp_left hmono
  leaving := h.leaving

/-- A task that has not returned works for an open direction. -/
theorem Inv.is_open {asked : Prop} {o : Sys} (h : Inv asked o)
    (ht : o.task ≠ .returned) : o.inner.state = .Open := by
  by_contra hno
  exact ht (h.stopped hno)

/-- So does one whose operation returns. -/
theorem Inv.is_open_of_io {asked : Prop} {o o' : Sys} {result : Except String Unit}
    (hi : Inv asked o) (h : step o (.io result) = some o') :
    o.inner.state = .Open := by
  apply hi.is_open
  intro ht
  simp [step, step_io, ht] at h

/-- How a round ends: with the shutdown, with a failure, or with nothing changed that a
direction's end depends on. -/
theorem finish_cases (inner : WriteInner) (result : Except String Unit)
    (flushing shutdown : Bool) :
    (∃ u, result = .ok u) ∧ shutdown = true ∧
        (finish inner result flushing shutdown).state = .Closed
      ∨ (∃ e, result = .error e ∧
        (finish inner result flushing shutdown).state = .Failed ("TLS send failed: " ++ e))
      ∨ (∃ u, result = .ok u) ∧ shutdown = false ∧
        (finish inner result flushing shutdown).state = inner.state := by
  cases result with
  | error e => exact .inr (.inl ⟨e, rfl, rfl⟩)
  | ok u =>
      cases shutdown with
      | true => exact .inl ⟨⟨u, rfl⟩, rfl, by simp [finish]⟩
      | false =>
          refine .inr (.inr ⟨⟨u, rfl⟩, rfl, ?_⟩)
          simp only [finish, Bool.false_eq_true, if_false]
          split_ifs <;> rfl

/-- A direction that is over has no task any more: its end and the task's return are one
step. -/
theorem inv_stopped {asked : Prop} {o o' : Sys} {a : Act} (hi : Inv asked o)
    (h : step o a = some o') : o'.inner.state ≠ .Open → o'.task = .returned := by
  cases trans_of_step h with
  | look_end ht ho => exact fun _ => rfl
  | @finish result flushing shutdown ht =>
      -- the one step that ends a direction: the state and the return are one lock section
      have hopen := hi.is_open (by rw [ht]; simp)
      dsimp only
      rcases finish_cases o.inner result flushing shutdown with
        ⟨⟨u, rfl⟩, rfl, -⟩ | ⟨e, rfl, -⟩ | ⟨-, -, hstate⟩
      · exact fun _ => by simp
      · exact fun _ => by simp [Except.isOk, Except.toBool]
      · intro hno
        rw [hstate] at hno
        exact absurd hopen hno
  | look_wait ht ho | look_io ht ho | recheck_wait ht ho | recheck_io ht ho =>
      exact fun hno => absurd ho hno
  | register ht | resume ht | call ht => exact fun hno => absurd (hi.is_open (by simp [ht])) hno
  | recheck_end ht ho => exact absurd (hi.is_open (by simp [ht])) ho
  | io_flush | io_shutdown | io_ok | io_err =>
      have hopen := hi.is_open_of_io h
      exact fun hno => absurd hopen hno
  | write hs ho | flush hs ho | drop hs ho | shutdown ho => exact fun hno => absurd ho hno
  | drop_ended | ready | notify_write | notify_flush | notify_drop | ready_return | ready_await
  | ready_again | abandon | sock | refused => exact hi.stopped

/-- The shutdown, once asked for, stays asked for. -/
theorem shutdown_kept {o o' : Sys} {a : Act} (h : step o a = some o')
    (hreq : o.inner.shutdown = true) : o'.inner.shutdown = true := by
  cases trans_of_step h with
  | finish ht => rw [SendOrder.finish_shutdown, hreq]
  | drop | shutdown => rfl
  | look_end | look_wait | look_io | register | recheck_wait | recheck_end | recheck_io | resume
  | call | io_flush | io_shutdown | io_ok | io_err | write | flush | drop_ended | ready
  | notify_write | notify_flush | notify_drop | ready_return | ready_await | ready_again
  | abandon | sock | refused => exact hreq

/-- A stream that was dropped makes no more calls. -/
theorem gone_step {o o' : Sys} {a : Act} (hgone : o.stream = .gone)
    (h : step o a = some o') : o'.stream = .gone := by
  cases trans_of_step h with
  | write hs | flush hs | drop hs | ready hs | notify_write hs | notify_flush hs
  | ready_return hs | ready_await hs | ready_again hs | abandon hs =>
      rw [hgone] at hs
      exact absurd hs (by simp)
  | drop_ended | notify_drop => rfl
  | look_end | look_wait | look_io | register | recheck_wait | recheck_end | recheck_io | resume
  | call | finish | io_flush | io_shutdown | io_ok | io_err | shutdown | sock | refused =>
      exact hgone

/-- The socket may always ask. -/
theorem step_shutdown (o : Sys) : ∃ o', step o .shutdown = some o' := by
  simp only [step]
  split
  · exact ⟨_, rfl⟩
  · exact ⟨_, rfl⟩

/-- What it was told the task does not forget: nothing takes the request back. -/
theorem told_kept {asked : Prop} {o o' : Sys} {a : Act}
    (hi : Inv asked o) (h : step o a = some o') (htold : Told o) : Told o' := by
  rcases htold with hreq | hno
  · exact .inl (shutdown_kept h hreq)
  · cases trans_of_step h with
    | finish ht => exact absurd (hi.is_open (by simp [ht])) hno
    | _ => exact .inr hno

/-- `request_shutdown` returns early only where there is nothing to tell. -/
theorem told_of_request {o o' : Sys} (h : step o .shutdown = some o') :
    Told o' := by
  simp only [step] at h
  split at h
  · next inner hreq =>
    obtain ⟨-, -, rfl⟩ := request_shutdown_eq_some hreq
    rw [← Option.some.inj h]
    exact .inl rfl
  · next hnone =>
    rw [← Option.some.inj h]
    exact (request_shutdown_eq_none hnone).symm

/-- A round shuts the half down because that was asked for when it started. -/
theorem inv_round {asked : Prop} {o o' : Sys} {a : Act} (hi : Inv asked o)
    (h : step o a = some o') :
    SendOrder.Closing o'.task → o'.inner.shutdown = true := by
  cases trans_of_step h with
  | look_io ht ho hp => exact fun hc => hc
  | call ht => exact fun hc => hi.round (by rw [ht]; exact hc)
  | @finish result flushing shutdown ht =>
      intro hc
      dsimp only at hc
      split_ifs at hc
      · exact False.elim hc
      · exact False.elim hc
  | io_flush ht => exact fun hc => hi.round (by rw [ht]; exact hc)
  | io_shutdown ht =>
      intro _
      rcases ht with ⟨ht, -⟩ | ⟨ht, -⟩
      · exact hi.round (by rw [ht]; rfl)
      · exact hi.round (by rw [ht]; rfl)
  | io_ok ht =>
      rcases ht with ⟨-, -, hd⟩ | ⟨-, -, hd⟩ | ⟨ht, -⟩
      · exact fun hc => absurd (hd.symm.trans hc) (by simp)
      · exact fun hc => absurd (hd.symm.trans hc) (by simp)
      · exact fun _ => hi.round (by rw [ht]; trivial)
  | io_err ht =>
      rcases ht with ht | ⟨ht, -⟩ | ⟨ht, -⟩
      · exact fun hc => hi.round (by rw [ht]; exact hc)
      · exact fun hc => hi.round (by rw [ht]; exact hc)
      · exact fun _ => hi.round (by rw [ht]; trivial)
  | look_end | look_wait | register | recheck_wait | recheck_end | recheck_io | resume =>
      exact fun hc => False.elim hc
  | drop | shutdown => exact fun _ => rfl
  | write | flush | drop_ended | ready | notify_write | notify_flush | notify_drop | ready_return
  | ready_await | ready_again | abandon | sock | refused => exact hi.round

/-- A direction is closed by a round that shut the half down; that was the last call on it. -/
theorem inv_closed {asked : Prop} {o o' : Sys} {a : Act}
    (hi : Inv asked o) (h : step o a = some o') :
    (o'.inner.state = .Closed → o'.inner.shutdown = true) ∧
      (ShutDown o'.task ∨ o'.inner.state = .Closed → o'.half.getLast? = some .shutdown) := by
  refine ⟨fun hclosed => ?_, ?_⟩
  · by_cases hbefore : o.inner.state = .Closed
    · exact shutdown_kept h (hi.closed hbefore)
    · cases trans_of_step h with
      | @finish result flushing shutdown ht =>
          rcases finish_cases o.inner result flushing shutdown with
            ⟨-, rfl, -⟩ | ⟨e, -, hstate⟩ | ⟨-, -, hstate⟩
          · rw [SendOrder.finish_shutdown]
            exact hi.round (by rw [ht]; rfl)
          · rw [hstate] at hclosed
            exact absurd hclosed (by simp)
          · rw [hstate] at hclosed
            exact absurd hclosed hbefore
      | _ => exact absurd hclosed hbefore
  · cases trans_of_step h with
    | call ht | io_flush ht =>
        have hopen := hi.is_open (by simp [ht])
        rintro (hs | hs)
        · exact False.elim hs
        · exact absurd (hopen.symm.trans hs) (by simp)
    -- the call itself; from here to the end of the round none follows it
    | io_shutdown ht => exact fun _ => by simp
    | @finish result flushing shutdown ht =>
        have hopen := hi.is_open (by simp [ht])
        rcases finish_cases o.inner result flushing shutdown with
          ⟨⟨u, rfl⟩, rfl, -⟩ | ⟨e, rfl, hstate⟩ | ⟨⟨u, rfl⟩, rfl, hstate⟩
        · exact fun _ => hi.last (.inl (by rw [ht]; rfl))
        · rintro (hs | hs)
          · exact False.elim hs
          · rw [hstate] at hs
            exact absurd hs (by simp)
        · rintro (hs | hs)
          · exact False.elim hs
          · rw [hstate, hopen] at hs
            exact absurd hs (by simp)
    | io_ok ht =>
        have hopen := hi.is_open_of_io h
        rcases ht with ⟨-, -, hd⟩ | ⟨-, -, hd⟩ | ⟨ht, -⟩
        · rintro (hs | hs)
          · exact absurd (hd.symm.trans hs) (by simp)
          · exact absurd (hopen.symm.trans hs) (by simp)
        · rintro (hs | hs)
          · exact absurd (hd.symm.trans hs) (by simp)
          · exact absurd (hopen.symm.trans hs) (by simp)
        · exact fun _ => hi.last (.inl (by rw [ht]; trivial))
    | io_err ht =>
        have hopen := hi.is_open_of_io h
        rintro (hs | hs)
        · exact False.elim hs
        · exact absurd (hopen.symm.trans hs) (by simp)
    | look_end | look_wait | look_io | register | recheck_wait | recheck_end | recheck_io
    | resume =>
        rintro (hs | hs)
        · exact False.elim hs
        · exact hi.last (.inr hs)
    | write | flush | drop | drop_ended | ready | notify_write | notify_flush | notify_drop
    | ready_return | ready_await | ready_again | abandon | shutdown | sock | refused =>
        exact hi.last

/-- The shutdown is asked for by the socket, or by the stream that is dropped. -/
theorem inv_requested {asked : Prop} {o o' : Sys} {a : Act}
    (hi : Inv asked o) (ha : a = .shutdown → asked) (h : step o a = some o') :
    (o'.inner.shutdown = true → asked ∨ Leaving o'.stream) ∧
      (Leaving o'.stream → Told o') := by
  cases trans_of_step h with
  | @finish result flushing shutdown ht =>
      have hopen := hi.is_open (by simp [ht])
      refine ⟨fun hreq => hi.requested ?_, fun hleave => .inl ?_⟩
      · rwa [SendOrder.finish_shutdown] at hreq
      · rw [SendOrder.finish_shutdown]
        rcases hi.leaving hleave with hreq | hno
        · exact hreq
        · exact absurd hopen hno
  | drop hs ho hd => exact ⟨fun _ => .inr trivial, fun _ => .inl rfl⟩
  | drop_ended hs hd => exact ⟨fun _ => .inr trivial, fun _ => hd.symm⟩
  | notify_drop hs =>
      exact ⟨fun _ => .inr trivial, fun _ => hi.leaving (by rw [hs]; trivial)⟩
  | shutdown ho hd => exact ⟨fun _ => .inl (ha rfl), fun _ => .inl rfl⟩
  | write hs | flush hs | ready hs | notify_write hs | notify_flush hs | ready_return hs
  | ready_await hs | ready_again hs | abandon hs =>
      refine ⟨fun hreq => .inl ?_, fun hleave => False.elim hleave⟩
      exact (hi.requested hreq).resolve_right (by rw [hs]; exact id)
  | look_end | look_wait | look_io | register | recheck_wait | recheck_end | recheck_io | resume
  | call | io_flush | io_shutdown | io_ok | io_err | sock | refused =>
      exact ⟨hi.requested, hi.leaving⟩

/-- Every step of the guest, of the socket and of the task. -/
theorem inv_step {asked : Prop} {o o' : Sys} {a : Act}
    (hi : Inv asked o) (ha : a = .shutdown → asked) (h : step o a = some o') :
    Inv asked o' where
  settle := SendSettle.inv_step hi.settle h
  stopped := inv_stopped hi h
  round := inv_round hi h
  closed := (inv_closed hi h).1
  last := (inv_closed hi h).2
  requested := (inv_requested hi ha h).1
  leaving := (inv_requested hi ha h).2

end PolymorphTls.SendEnd

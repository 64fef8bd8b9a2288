/-
The guest virtualizer's tunnel at work (`tls-virt-guest/src/lib.rs`): the tasks `connect`
spawns, the pump of the TLS connection under them, and the application's `send`, `receive`
and drop of the socket.

The application's transmit stream arrives only when it calls `send`, so `connect` wires the
TLS connection to a pipe and a task waits for the stream to splice it into the pipe. Whoever
holds the pipe's writer decides when the connection sends `close_notify`: `connect` while
the handshake runs, then the splice task. Two more tasks map the connection's verdicts to
the exported interface's error codes.

The pump is the one of `Pump.lean`; the tunnel restricts only where its reads of the
cleartext stream come from (`Sys.pipe`). So every result about the pump holds of the pump
in a tunnel (`pump_refines`). Beyond them, in every run and whatever rustls does
(`tunnel_is_truthful`):

* what the connection is given is the beginning of what the application sent;
* `close_notify` is asked for only if the application ended its stream, dropped the socket
  without one, or never got its tunnel; and the `Ok` of a `send` means that all of it was
  handed on before;
* each verdict is written once, and an error of the TLS layer is `ConnectionReset`;
* each half of the tunnel is handed out once.
-/
import PolymorphTls.GuestSocket
import PolymorphTls.Loopback

set_option autoImplicit false

namespace PolymorphTls.GuestTunnel

open Pump

/-! ## The tasks -/

/-- The holder of the pipe's writer, from await to await. -/
inductive SendPc where
  /-- `connect` holds the writer, at `connector.connect(..).await`. -/
  | connecting
  /-- `connect` failed and dropped the writer; no task was spawned. -/
  | abandoned
  /-- At `app_stream_rx.await`. -/
  | waiting
  /-- In `splice`, at `from.read(..).await`. -/
  | reading
  /-- In `splice`, at `to.write_all(buf).await`: the bytes not taken yet, and the status the
  read returned. -/
  | writing (pending : List UInt8) (status : StreamResult)
  /-- The writer is dropped; at `send_done.await`. -/
  | closed
  /-- The verdict is written. -/
  | ended
  deriving DecidableEq

/-- The oneshot that delivers the application's stream to the splice task. -/
inductive AppStream where
  /-- The sender is still in the tunnel. -/
  | unclaimed
  | sent
  /-- The sender was dropped. -/
  | dropped
  deriving DecidableEq

/-- A direction verdict in the exported interface's terms. The guest sees a code, and no
message. -/
abbrev VVerdict := Except ErrorCode Unit

/-- `map_err` of the verdict tasks; the detail goes to stderr. -/
def mapVerdict : Pump.Verdict → VVerdict
  | .ok () => .ok ()
  | .error _ => .error .ConnectionReset

variable {C : Type} (R : Rustls C)

/-- The tunnel with its pump: the pipe between them, the splice task, the verdict tasks, and
what the application has done with its half. The ghosts say what the application sent and
what it was given. -/
structure Sys (C : Type) where
  pump : Pump.Sys C
  send : SendPc
  app_stream : AppStream
  /-- The receive verdict task is done. -/
  recvEnded : Bool
  /-- The tunnel in the socket's state, once there is one and until the socket is dropped. -/
  tunnel : Option GuestSocket.Tunnel
  /-- The results `connect` returned. -/
  connected : List VVerdict
  /-- The verdicts written to the two futures of the tunnel. -/
  send_verdict : List VVerdict
  recv_verdict : List VVerdict
  /-- Ghosts: what the `send` and `receive` calls were given, the bytes read from the
  application's stream, and whether it ended. -/
  sends : List GuestSocket.Verdict
  receives : List GuestSocket.Verdict
  appSent : List UInt8
  appEnded : Bool

/-- `connect` at its second await, with the transforms wired. -/
def Sys.init (c : C) : Sys C where
  pump := Pump.Sys.init R c
  send := .connecting
  app_stream := .unclaimed
  recvEnded := false
  tunnel := none
  connected := []
  send_verdict := []
  recv_verdict := []
  sends := []
  receives := []
  appSent := []
  appEnded := false

/-- What the tunnel's tasks and the application do; the pump's own steps are among them. -/
inductive Act where
  /-- The pump moves, except for its reads of the cleartext stream. -/
  | pump (e : Event)
  /-- The pump's read of the pipe returns. -/
  | pipe (status : StreamResult) (buf : List UInt8)
  /-- The handshake signal reaches `connect`. -/
  | connected
  /-- The application's calls. -/
  | send
  | receive
  | drop
  /-- The splice task's awaits return: the oneshot, the read, the write. -/
  | claimed
  | appRead (status : StreamResult) (buf : List UInt8)
  | spliced
  /-- The verdict tasks' awaits return. -/
  | sendDone
  | recvDone

/-- What a read of the pipe may return: a piece of the splice task's write, with the end
already if the task drops the writer behind it; or the end, once the writer is dropped. -/
def Sys.pipe (s : Sys C) (status : StreamResult) (buf : List UInt8) : Option SendPc :=
  match s.send with
  | .writing pending readStatus =>
      if buf ≠ [] ∧ buf.isPrefixOf pending ∧ status = .Complete then
        some (.writing (pending.drop buf.length) readStatus)
      else if buf ≠ [] ∧ buf = pending ∧ readStatus.ends ∧ status = .Dropped then some .closed
      else none
  | .abandoned | .closed | .ended =>
      if buf = [] ∧ status = .Dropped then some s.send else none
  | .connecting | .waiting | .reading => none

/-- `splice` after the bytes of a read: it returns at the end, which drops the writer. -/
def spliceNext (status : StreamResult) : SendPc := if status.ends then .closed else .reading

/-- The tunnel `connect` installs. -/
def installed (remote : IpSocketAddress) (host : GuestSocket.HostSocket) : GuestSocket.Tunnel :=
  { remote, host, app_stream_tx := true, send_verdict := true, cleartext := true }

def step (remote : IpSocketAddress) (host : GuestSocket.HostSocket) (s : Sys C) :
    Act → Option (Sys C)
  | .pump (.act (.cleartext _ _)) => none
  | .pump e => (react R s.pump e).map fun pump => { s with pump }
  | .pipe status buf =>
      match s.pipe status buf with
      | some send =>
          (Pump.step R s.pump (.cleartext status buf)).map fun pump => { s with pump, send }
      | none => none
  | .connected =>
      match s.send, s.pump.handshake.sent with
      | .connecting, .ok _ :: _ =>
          some { s with
            send := .waiting
            tunnel := some (installed remote host)
            connected := s.connected ++ [.ok ()] }
      | .connecting, .error _ :: _ =>
          some { s with
            send := .abandoned
            connected := s.connected ++ [.error .ConnectionReset] }
      | _, _ => none
  | .send =>
      match s.tunnel with
      | some t =>
          match GuestSocket.send (.Tunnel t) with
          | (verdict, .Tunnel t') =>
              some { s with
                tunnel := some t'
                app_stream :=
                  if verdict = .tunnel then .sent
                  else if t.app_stream_tx then .dropped else s.app_stream
                sends := s.sends ++ [verdict] }
          | _ => none
      | none => none
  | .receive =>
      match s.tunnel with
      | some t =>
          match GuestSocket.receive (.Tunnel t) with
          | (verdict, .Tunnel t') =>
              some { s with tunnel := some t', receives := s.receives ++ [verdict] }
          | _ => none
      | none => none
  | .drop =>
      match s.tunnel with
      | some t =>
          some { s with
            tunnel := none
            app_stream := if t.app_stream_tx then .dropped else s.app_stream }
      | none => none
  | .claimed =>
      match s.send, s.app_stream with
      | .waiting, .sent => some { s with send := .reading }
      | .waiting, .dropped => some { s with send := .closed }
      | _, _ => none
  | .appRead status buf =>
      if s.send = .reading ∧ buf.length ≤ CHUNK then
        some { s with
          send := if buf = [] then spliceNext status else .writing buf status
          appSent := s.appSent ++ buf
          appEnded := status.ends }
      else none
  | .spliced =>
      match s.send with
      | .writing [] status => some { s with send := spliceNext status }
      -- the pump has dropped its end: what is left over is given up
      | .writing (_ :: _) _ =>
          if s.pump.writer = .ended then some { s with send := .closed } else none
      | _ => none
  | .sendDone =>
      match s.send, s.pump.send_done with
      | .closed, verdict :: _ =>
          some { s with send := .ended, send_verdict := s.send_verdict ++ [mapVerdict verdict] }
      | _, _ => none
  | .recvDone =>
      match s.pump.recv_done with
      | verdict :: _ =>
          -- the task exists once `connect` has returned `Ok`
          if s.connected = [.ok ()] ∧ s.recvEnded = false then
            some { s with
              recvEnded := true
              recv_verdict := s.recv_verdict ++ [mapVerdict verdict] }
          else none
      | [] => none

/-! ## What a step can do -/

variable {R} {remote : IpSocketAddress} {host : GuestSocket.HostSocket}

/-- Every step with its guard. -/
inductive Trans (R : Rustls C) (remote : IpSocketAddress) (host : GuestSocket.HostSocket)
    (s : Sys C) : Act → Sys C → Prop where
  | pump {e : Event} {pump : Pump.Sys C} (hnot : ∀ status buf, e ≠ .act (.cleartext status buf))
      (hreact : react R s.pump e = some pump) : Trans R remote host s (.pump e) { s with pump }
  | piece {buf pending : List UInt8} {readStatus : StreamResult} {pump : Pump.Sys C}
      (hpc : s.send = .writing pending readStatus) (hbuf : buf <+: pending)
      (hstep : Pump.step R s.pump (.cleartext .Complete buf) = some pump) :
      Trans R remote host s (.pipe .Complete buf)
        { s with pump, send := .writing (pending.drop buf.length) readStatus }
  | lastPiece {buf : List UInt8} {readStatus : StreamResult} {pump : Pump.Sys C}
      (hpc : s.send = .writing buf readStatus) (hends : readStatus.ends = true)
      (hstep : Pump.step R s.pump (.cleartext .Dropped buf) = some pump) :
      Trans R remote host s (.pipe .Dropped buf) { s with pump, send := .closed }
  | pipeEnd {pump : Pump.Sys C}
      (hpc : s.send = .abandoned ∨ s.send = .closed ∨ s.send = .ended)
      (hstep : Pump.step R s.pump (.cleartext .Dropped []) = some pump) :
      Trans R remote host s (.pipe .Dropped []) { s with pump }
  | connected (hpc : s.send = .connecting)
      (hsent : ∃ outcome, .ok outcome ∈ s.pump.handshake.sent) :
      Trans R remote host s .connected
        { s with
          send := .waiting
          tunnel := some (installed remote host)
          connected := s.connected ++ [.ok ()] }
  | refused (hpc : s.send = .connecting) :
      Trans R remote host s .connected
        { s with send := .abandoned, connected := s.connected ++ [.error .ConnectionReset] }
  | send {t : GuestSocket.Tunnel} (ht : s.tunnel = some t)
      (hboth : t.app_stream_tx = true ∧ t.send_verdict = true) :
      Trans R remote host s .send
        { s with
          tunnel := some { t with app_stream_tx := false, send_verdict := false }
          app_stream := .sent
          sends := s.sends ++ [.tunnel] }
  | sendAgain {t : GuestSocket.Tunnel} (ht : s.tunnel = some t)
      (hboth : ¬ (t.app_stream_tx = true ∧ t.send_verdict = true)) :
      Trans R remote host s .send
        { s with
          tunnel := some { t with app_stream_tx := false, send_verdict := false }
          app_stream := if t.app_stream_tx then .dropped else s.app_stream
          sends := s.sends ++ [.invalid_state_verdict] }
  | receive {t : GuestSocket.Tunnel} (ht : s.tunnel = some t) (hthere : t.cleartext = true) :
      Trans R remote host s .receive
        { s with
          tunnel := some { t with cleartext := false }
          receives := s.receives ++ [.tunnel] }
  | receiveAgain {t : GuestSocket.Tunnel} (ht : s.tunnel = some t) (hgone : t.cleartext = false) :
      Trans R remote host s .receive
        { s with tunnel := some t, receives := s.receives ++ [.invalid_state_verdict] }
  | drop {t : GuestSocket.Tunnel} (ht : s.tunnel = some t) :
      Trans R remote host s .drop
        { s with
          tunnel := none
          app_stream := if t.app_stream_tx then .dropped else s.app_stream }
  | claimed (hpc : s.send = .waiting) (hstream : s.app_stream = .sent) :
      Trans R remote host s .claimed { s with send := .reading }
  | unclaimed (hpc : s.send = .waiting) (hstream : s.app_stream = .dropped) :
      Trans R remote host s .claimed { s with send := .closed }
  | appRead {status : StreamResult} {buf : List UInt8} (hpc : s.send = .reading) :
      Trans R remote host s (.appRead status buf)
        { s with
          send := if buf = [] then spliceNext status else .writing buf status
          appSent := s.appSent ++ buf
          appEnded := status.ends }
  | spliced {status : StreamResult} (hpc : s.send = .writing [] status) :
      Trans R remote host s .spliced { s with send := spliceNext status }
  | leftOver {pending : List UInt8} {status : StreamResult} (hpc : s.send = .writing pending status)
      (hgone : s.pump.writer = .ended) : Trans R remote host s .spliced { s with send := .closed }
  | sendDone {verdict : Pump.Verdict} {rest : List Pump.Verdict} (hpc : s.send = .closed)
      (hdone : s.pump.send_done = verdict :: rest) :
      Trans R remote host s .sendDone
        { s with send := .ended, send_verdict := s.send_verdict ++ [mapVerdict verdict] }
  | recvDone {verdict : Pump.Verdict} {rest : List Pump.Verdict}
      (hdone : s.pump.recv_done = verdict :: rest) (hopen : s.recvEnded = false) :
      Trans R remote host s .recvDone
        { s with recvEnded := true, recv_verdict := s.recv_verdict ++ [mapVerdict verdict] }

/-- What a read of the pipe returns, by the state of the writer's holder. -/
theorem pipe_eq_some {s : Sys C} {status : StreamResult} {buf : List UInt8} {send : SendPc}
    (h : s.pipe status buf = some send) :
    (∃ pending readStatus, s.send = .writing pending readStatus ∧ buf <+: pending ∧
      status = .Complete ∧ send = .writing (pending.drop buf.length) readStatus) ∨
    (∃ readStatus, s.send = .writing buf readStatus ∧ readStatus.ends = true ∧
      status = .Dropped ∧ send = .closed) ∨
    ((s.send = .abandoned ∨ s.send = .closed ∨ s.send = .ended) ∧ buf = [] ∧
      status = .Dropped ∧ send = s.send) := by
  have hend : ∀ pc, s.send = pc → (pc = .abandoned ∨ pc = .closed ∨ pc = .ended) →
      (if buf = [] ∧ status = .Dropped then some pc else none) = some send →
      (s.send = .abandoned ∨ s.send = .closed ∨ s.send = .ended) ∧ buf = [] ∧
        status = .Dropped ∧ send = s.send := by
    intro pc hpc hover hif
    split at hif
    · rename_i hboth
      rw [Option.some.injEq] at hif
      exact ⟨hpc ▸ hover, hboth.1, hboth.2, (hpc.trans hif).symm⟩
    · exact absurd hif (by simp)
  unfold Sys.pipe at h
  cases hpc : s.send with
  | writing pending readStatus =>
      simp only [hpc] at h
      split at h
      · rename_i hpiece
        obtain ⟨-, hbuf, hstatus⟩ := hpiece
        rw [Option.some.injEq] at h
        exact .inl ⟨pending, readStatus, rfl, List.isPrefixOf_iff_prefix.mp hbuf, hstatus, h.symm⟩
      · split at h
        · rename_i hlast
          obtain ⟨-, rfl, hends, hstatus⟩ := hlast
          rw [Option.some.injEq] at h
          exact .inr (.inl ⟨readStatus, rfl, hends, hstatus, h.symm⟩)
        · exact absurd h (by simp)
  | abandoned =>
      simp only [hpc] at h
      exact .inr (.inr (by simpa [hpc] using hend _ hpc (.inl rfl) h))
  | closed =>
      simp only [hpc] at h
      exact .inr (.inr (by simpa [hpc] using hend _ hpc (.inr (.inl rfl)) h))
  | ended =>
      simp only [hpc] at h
      exact .inr (.inr (by simpa [hpc] using hend _ hpc (.inr (.inr rfl)) h))
  | connecting => simp [hpc] at h
  | waiting => simp [hpc] at h
  | reading => simp [hpc] at h

/-- A read of the pipe. -/
theorem trans_of_pipe {s s' : Sys C} {status : StreamResult} {buf : List UInt8}
    (h : step R remote host s (.pipe status buf) = some s') :
    Trans R remote host s (.pipe status buf) s' := by
  simp only [step] at h
  cases hpipe : s.pipe status buf with
  | none => simp [hpipe] at h
  | some send =>
      simp only [hpipe, Option.map_eq_some_iff] at h
      obtain ⟨pump, hstep, rfl⟩ := h
      rcases pipe_eq_some hpipe with ⟨pending, readStatus, hpc, hbuf, rfl, rfl⟩
        | ⟨readStatus, hpc, hends, rfl, rfl⟩ | ⟨hpc, rfl, rfl, rfl⟩
      · exact .piece hpc hbuf hstep
      · exact .lastPiece hpc hends hstep
      · exact .pipeEnd hpc hstep

/-- A `send`, by whether the tunnel still has both endpoints. -/
theorem trans_of_send {s s' : Sys C} (h : step R remote host s .send = some s') :
    Trans R remote host s .send s' := by
  simp only [step] at h
  cases ht : s.tunnel with
  | none => simp [ht] at h
  | some t =>
      by_cases hboth : t.app_stream_tx = true ∧ t.send_verdict = true
      · simp only [ht, GuestSocket.send, if_pos hboth, if_true, Option.some.injEq] at h
        subst h
        exact .send ht hboth
      · simp only [ht, GuestSocket.send, if_neg hboth, reduceCtorEq, if_false,
          Option.some.injEq] at h
        subst h
        exact .sendAgain ht hboth

/-- A `receive`, likewise. -/
theorem trans_of_receive {s s' : Sys C} (h : step R remote host s .receive = some s') :
    Trans R remote host s .receive s' := by
  simp only [step] at h
  cases ht : s.tunnel with
  | none => simp [ht] at h
  | some t =>
      cases hthere : t.cleartext with
      | true =>
          simp only [ht, GuestSocket.receive, hthere, if_true, Option.some.injEq] at h
          subst h
          exact .receive ht hthere
      | false =>
          simp only [ht, GuestSocket.receive, hthere, Bool.false_eq_true, if_false,
            Option.some.injEq] at h
          subst h
          exact .receiveAgain ht hthere

/-- The write of the splice task, by whether the pump's writer has taken all of it. -/
theorem trans_of_spliced {s s' : Sys C} (h : step R remote host s .spliced = some s') :
    Trans R remote host s .spliced s' := by
  simp only [step] at h
  cases hpc : s.send with
  | writing pending status =>
      cases pending with
      | nil =>
          simp only [hpc, Option.some.injEq] at h
          subst h
          exact .spliced hpc
      | cons b bs =>
          by_cases hgone : s.pump.writer = .ended
          · simp only [hpc, if_pos hgone, Option.some.injEq] at h
            subst h
            exact .leftOver hpc hgone
          · simp [hpc, hgone] at h
  | _ => simp [hpc] at h

/-- **Inversion.** Every step of the system is one of the listed transitions. -/
theorem trans_of_step {s s' : Sys C} {a : Act} (h : step R remote host s a = some s') :
    Trans R remote host s a s' := by
  cases a with
  | pump e =>
      by_cases hclear : ∃ status buf, e = .act (.cleartext status buf)
      · obtain ⟨status, buf, rfl⟩ := hclear
        simp [step] at h
      · have hnot : ∀ status buf, e ≠ .act (.cleartext status buf) :=
          fun status buf he => hclear ⟨status, buf, he⟩
        have hmap : (react R s.pump e).map (fun pump => { s with pump := pump }) = some s' := by
          rw [step] at h
          · exact h
          · exact fun status buf he => hnot status buf he
        rw [Option.map_eq_some_iff] at hmap
        obtain ⟨pump, hreact, rfl⟩ := hmap
        exact .pump hnot hreact
  | pipe status buf => exact trans_of_pipe h
  | connected =>
      simp only [step] at h
      cases hpc : s.send with
      | connecting =>
          cases hsent : s.pump.handshake.sent with
          | nil => simp [hpc, hsent] at h
          | cons outcome rest =>
              cases outcome <;> simp only [hpc, hsent, Option.some.injEq] at h <;> subst h
              · exact .refused hpc
              · exact .connected hpc ⟨_, hsent ▸ List.mem_cons_self⟩
      | _ => simp [hpc] at h
  | send => exact trans_of_send h
  | receive => exact trans_of_receive h
  | drop =>
      simp only [step] at h
      cases ht : s.tunnel with
      | none => simp [ht] at h
      | some t =>
          simp only [ht, Option.some.injEq] at h
          subst h
          exact .drop ht
  | claimed =>
      simp only [step] at h
      cases hpc : s.send with
      | waiting =>
          cases hstream : s.app_stream with
          | unclaimed => simp [hpc, hstream] at h
          | sent =>
              simp only [hpc, hstream, Option.some.injEq] at h
              subst h
              have hclaimed : Trans R remote host s .claimed { s with send := .reading } :=
                .claimed hpc hstream
              rwa [hstream] at hclaimed
          | dropped =>
              simp only [hpc, hstream, Option.some.injEq] at h
              subst h
              have hclosed : Trans R remote host s .claimed { s with send := .closed } :=
                .unclaimed hpc hstream
              rwa [hstream] at hclosed
      | _ => simp [hpc] at h
  | appRead status buf =>
      by_cases hen : s.send = .reading ∧ buf.length ≤ CHUNK
      · rw [step, if_pos hen, Option.some.injEq] at h
        subst h
        exact .appRead hen.1
      · simp [step, hen] at h
  | spliced => exact trans_of_spliced h
  | sendDone =>
      simp only [step] at h
      cases hpc : s.send with
      | closed =>
          cases hdone : s.pump.send_done with
          | nil => simp [hpc, hdone] at h
          | cons verdict rest =>
              simp only [hpc, hdone, Option.some.injEq] at h
              subst h
              exact .sendDone hpc hdone
      | _ => simp [hpc] at h
  | recvDone =>
      simp only [step] at h
      cases hdone : s.pump.recv_done with
      | nil => simp [hdone] at h
      | cons verdict rest =>
          by_cases hen : s.connected = [.ok ()] ∧ s.recvEnded = false
          · simp only [hdone, if_pos hen, Option.some.injEq] at h
            subst h
            exact .recvDone hdone hen.2
          · simp [hdone, hen] at h

/-! ## The pump in the tunnel is a pump -/

/-- The step of the pump in a step of the tunnel, if there is one. -/
def event : Act → Option Event
  | .pump e => some e
  | .pipe status buf => some (.act (.cleartext status buf))
  | _ => none

/-- The pump moves as a pump, or stays as it is. This is all the refinement needs. -/
theorem pump_of_step {s s' : Sys C} {a : Act} (h : step R remote host s a = some s') :
    match event a with
    | some e => react R s.pump e = some s'.pump
    | none => s'.pump = s.pump := by
  cases trans_of_step h with
  | pump hnot hreact => exact hreact
  | piece hpc hbuf hstep => exact hstep
  | lastPiece hpc hends hstep => exact hstep
  | pipeEnd hpc hstep => exact hstep
  | _ => rfl

/-- **Refinement.** A tunnel's pump is a pump. -/
theorem pump_refines : Lts.Refines (step R remote host) (react R) (Sys.pump (C := C)) := by
  intro s a s' h
  have hpump := pump_of_step h
  split at hpump
  · exact .inr ⟨_, hpump⟩
  · exact .inl hpump

/-! ## The contract -/

/-- The application is done sending: its stream has ended, or there will be none. -/
def AppDone (s : Sys C) : Prop :=
  s.appEnded = true ∨ s.app_stream = .dropped ∨ s.send = .abandoned

/-- **A tunnel is truthful.** What the application is told of a direction is what the pump
decided, and the application's bytes are all accounted for: accepted by the connection, in
the splice task's hands, or cut off by an end of the writer that the verdict reports. -/
structure Truthful (closed : C → Bool) (s : Sys C) : Prop where
  /-- The connection is given what the application sent, from the beginning and in order. -/
  in_order : s.pump.accepted <+: s.appSent
  /-- Before `send` it is given nothing. -/
  silent : .tunnel ∉ s.sends → s.pump.accepted = []
  /-- `close_notify` is asked for behind all of it, and not before the application is done. -/
  close_last : s.pump.closeNotifyAt ≠ none → s.pump.accepted = s.appSent ∧ AppDone s
  /-- A `send` verdict is written once; `Ok` says that `close_notify` was asked for. -/
  send_once : s.send_verdict.length ≤ 1
  send_ok : .ok () ∈ s.send_verdict → s.pump.closeNotifyAt ≠ none
  send_error : ∀ e, .error e ∈ s.send_verdict → e = .ConnectionReset
  /-- A `receive` verdict is written once; `Ok` says that the peer's close has arrived. -/
  recv_once : s.recv_verdict.length ≤ 1
  recv_ok : .ok () ∈ s.recv_verdict → closed s.pump.conn = true
  recv_error : ∀ e, .error e ∈ s.recv_verdict → e = .ConnectionReset
  /-- Each half is handed out once. -/
  handed_once : s.sends.count .tunnel ≤ 1 ∧ s.receives.count .tunnel ≤ 1

/-! ## The invariant -/

/-- The pump's writer: no verdict and no `close_notify` while it reads, and one verdict that
is `Ok` exactly with `close_notify` once it has ended. -/
structure WriterBooks (p : Pump.Sys C) : Prop where
  reading : p.writer = .reading → p.send_done = [] ∧ p.closeNotifyAt = none
  ended : p.writer = .ended → ∃ verdict, p.send_done = [verdict] ∧
    (verdict = .ok () ↔ p.closeNotifyAt ≠ none)

/-- Where the application's bytes are. The splice task holds a piece at a time, and the
pump's writer takes it in pieces of its own. -/
def Flow (s : Sys C) : Prop :=
  match s.send with
  | .connecting | .waiting => s.pump.accepted = [] ∧ s.appSent = [] ∧ s.pump.closeNotifyAt = none
  | .abandoned => s.pump.accepted = [] ∧ s.appSent = []
  | .reading => s.pump.accepted = s.appSent ∧ s.pump.closeNotifyAt = none ∧ s.app_stream = .sent
  | .writing pending status =>
      s.pump.accepted ++ pending = s.appSent ∧ s.pump.closeNotifyAt = none ∧
        s.app_stream = .sent ∧ s.appEnded = status.ends
  | .closed | .ended =>
      s.pump.accepted <+: s.appSent ∧
        (s.pump.writer = .reading ∨ s.pump.closeNotifyAt ≠ none →
          s.pump.accepted = s.appSent ∧ (s.appEnded = true ∨ s.app_stream = .dropped))

/-- The application has claimed the stream exactly if a `send` was given the tunnel, and the
tunnel keeps both endpoints of that half or neither. -/
structure Claimed (s : Sys C) : Prop where
  sends : s.sends.count .tunnel = if s.app_stream = .sent then 1 else 0
  receives : s.receives.count .tunnel ≤ 1
  before : s.send = .connecting →
    s.tunnel = none ∧ s.app_stream = .unclaimed ∧ s.receives.count .tunnel = 0
  endpoints : ∀ t, s.tunnel = some t → t.app_stream_tx = t.send_verdict ∧
    (t.app_stream_tx = true → s.app_stream = .unclaimed) ∧
    (t.cleartext = true → s.receives.count .tunnel = 0)
  silent : s.app_stream ≠ .sent → s.appSent = []

/-- The verdicts of the tunnel are those of the connection. -/
structure Mapped (s : Sys C) : Prop where
  send : s.send_verdict = if s.send = .ended then s.pump.send_done.map mapVerdict else []
  ended : s.send = .ended → s.pump.writer = .ended
  recv_once : s.recv_verdict.length = if s.recvEnded then 1 else 0
  recv : ∀ v ∈ s.recv_verdict, ∃ verdict ∈ s.pump.recv_done, v = mapVerdict verdict

/-- The books of the pump's writer, of the bytes, of the claim and of the verdicts. Each
part has its own lemma about each step, and a step concerns few of them. -/
structure Inv (s : Sys C) : Prop where
  writer : WriterBooks s.pump
  flow : Flow s
  claimed : Claimed s
  mapped : Mapped s

/-! ## The pump's side of a step -/

/-- The pump's other steps do not concern its writer. -/
theorem react_writer_frame {p p' : Pump.Sys C} {e : Event}
    (hnot : ∀ status buf, e ≠ .act (.cleartext status buf)) (h : react R p e = some p') :
    p'.writer = p.writer ∧ p'.accepted = p.accepted ∧ p'.closeNotifyAt = p.closeNotifyAt ∧
      p'.send_done = p.send_done := by
  cases moves_of_step h with
  | emptyRead hpc =>
      rw [Sys.readerNext_eq]
      exact ⟨rfl, rfl, rfl, rfl⟩
  | @read status buf hpc =>
      obtain ⟨_, _, _, heq⟩ :=
        p.readerPassed_eq (reader_pass R p.handshake p.conn p.clean_close buf) status
      rw [heq]
      exact ⟨rfl, rfl, rfl, rfl⟩
  | consume hpc => exact ⟨rfl, rfl, rfl, rfl⟩
  | decide hpc =>
      rw [Sys.readerNext_eq]
      exact ⟨rfl, rfl, rfl, rfl⟩
  | cleartext hpc hlen => exact absurd rfl (hnot _ _)
  | transmit => exact ⟨rfl, rfl, rfl, rfl⟩

/-- A read of the pump's writer: what it is given counts as accepted, `close_notify` is asked
for only at the end, and then the writer has ended. -/
theorem cleartext_effect {p p' : Pump.Sys C} {status : StreamResult} {buf : List UInt8}
    (h : Pump.step R p (.cleartext status buf) = some p') :
    p.writer = .reading ∧ p'.accepted = p.accepted ++ buf ∧
    (p'.closeNotifyAt ≠ none → status.ends = true) ∧
    (p.send_done = [] → WriterBooks p') ∧ p'.recv_done = p.recv_done := by
  cases Pump.trans_of_step h with
  | cleartext hpc hlen =>
      obtain ⟨hok, hends⟩ := writer_pass_ends (R := R) p.handshake p.conn status buf
      generalize writer_pass R p.handshake p.conn status buf = pass at hok hends
      refine ⟨hpc, rfl, hends, fun hnone => ?_, rfl⟩
      unfold Sys.writerPassed
      cases hverdict : pass.verdict with
      | none =>
          have hopen : pass.closeNotifyAt = none := by
            by_contra hne
            have := hok.mpr hne
            rw [hverdict] at this
            exact absurd this (by simp)
          exact ⟨fun _ => ⟨by simp [hnone], hopen⟩, fun h => absurd h (by simp)⟩
      | some verdict =>
          refine ⟨fun h => absurd h (by simp), fun _ => ⟨verdict, by simp [hnone], ?_⟩⟩
          rw [hverdict, Option.some.injEq] at hok
          exact hok

/-- A step of the pump that is not the writer's leaves its books alone. -/
theorem writerBooks_frame {p p' : Pump.Sys C} (hi : WriterBooks p) (hwriter : p'.writer = p.writer)
    (hclose : p'.closeNotifyAt = p.closeNotifyAt) (hdone : p'.send_done = p.send_done) :
    WriterBooks p' := by
  refine ⟨fun h => ?_, fun h => ?_⟩
  · rw [hdone, hclose]
    exact hi.reading (hwriter ▸ h)
  · rw [hdone, hclose]
    exact hi.ended (hwriter ▸ h)

/-- Verdicts are only added. -/
theorem react_recv_done {p p' : Pump.Sys C} {e : Event} (h : react R p e = some p') :
    p.recv_done <+: p'.recv_done := by
  cases moves_of_step h with
  | emptyRead hpc =>
      rw [Sys.readerNext_eq]
      exact List.prefix_append _ _
  | @read status buf hpc =>
      obtain ⟨_, _, _, heq⟩ :=
        p.readerPassed_eq (reader_pass R p.handshake p.conn p.clean_close buf) status
      rw [heq]
      exact List.prefix_append _ _
  | consume hpc => exact List.prefix_refl _
  | decide hpc =>
      rw [Sys.readerNext_eq]
      exact List.prefix_append _ _
  | cleartext hpc hlen => exact List.prefix_refl _
  | transmit => exact List.prefix_refl _

/-! ## Every step keeps the invariant -/

/-- Nothing was claimed, sent or decided. -/
theorem inv_init (c : C) : Inv (Sys.init R c) where
  writer := ⟨fun _ => ⟨rfl, rfl⟩, fun h => absurd h (by simp [Sys.init, Pump.Sys.init])⟩
  flow := ⟨rfl, rfl, rfl⟩
  claimed := ⟨rfl, Nat.zero_le _, fun _ => ⟨rfl, rfl, rfl⟩,
    fun t h => absurd h (by simp [Sys.init]),
    fun _ => rfl⟩
  mapped := ⟨rfl, fun h => absurd h (by simp [Sys.init]), rfl,
    fun v h => absurd h (by simp [Sys.init])⟩

/-- A step that leaves the splice task, the application's bytes and the pump's writer alone. -/
theorem flow_frame {s s' : Sys C} (hi : Flow s) (hsend : s'.send = s.send)
    (hsent : s'.appSent = s.appSent) (hended : s'.appEnded = s.appEnded)
    (hstream : s'.app_stream = s.app_stream ∨ s.app_stream = .unclaimed)
    (hwriter : s'.pump.writer = s.pump.writer) (haccepted : s'.pump.accepted = s.pump.accepted)
    (hclose : s'.pump.closeNotifyAt = s.pump.closeNotifyAt) : Flow s' := by
  unfold Flow at hi ⊢
  rw [hsend, hsent, hended, hwriter, haccepted, hclose]
  rcases hstream with hstream | hstream
  · rw [hstream]
    exact hi
  · -- nothing was claimed, so only the end of the application's stream counted
    rw [hstream] at hi
    cases hpc : s.send <;> simp only [hpc] at hi ⊢ <;> simp_all

/-- A step that leaves the tunnel and what was asked of it alone. -/
theorem claimed_frame {s s' : Sys C} (hi : Claimed s) (hsends : s'.sends = s.sends)
    (hreceives : s'.receives = s.receives) (hstream : s'.app_stream = s.app_stream)
    (htunnel : s'.tunnel = s.tunnel) (hsent : s'.appSent = s.appSent)
    (hsend : s'.send = .connecting → s.send = .connecting) : Claimed s' := by
  refine ⟨?_, ?_, fun h => ?_, fun t ht => ?_, ?_⟩
  · rw [hsends, hstream]
    exact hi.sends
  · rw [hreceives]
    exact hi.receives
  · rw [htunnel, hstream, hreceives]
    exact hi.before (hsend h)
  · rw [hstream, hreceives]
    exact hi.endpoints t (htunnel ▸ ht)
  · rw [hstream, hsent]
    exact hi.silent

/-- A step that leaves the verdicts alone. -/
theorem mapped_frame {s s' : Sys C} (hi : Mapped s) (hverdict : s'.send_verdict = s.send_verdict)
    (hrecv : s'.recv_verdict = s.recv_verdict) (hended : s'.recvEnded = s.recvEnded)
    (hsend : s'.send = .ended ↔ s.send = .ended) (hdone : s'.pump.send_done = s.pump.send_done)
    (hwriter : s.pump.writer = .ended → s'.pump.writer = .ended)
    (hverdicts : s.pump.recv_done <+: s'.pump.recv_done) : Mapped s' := by
  refine ⟨?_, fun h => hwriter (hi.ended (hsend.mp h)), ?_, fun v hv => ?_⟩
  · rw [hverdict, hi.send, hdone]
    by_cases hpc : s.send = .ended
    · rw [if_pos hpc, if_pos (hsend.mpr hpc)]
    · rw [if_neg hpc, if_neg fun h => hpc (hsend.mp h)]
  · rw [hrecv, hended]
    exact hi.recv_once
  · obtain ⟨verdict, hmem, heq⟩ := hi.recv v (hrecv ▸ hv)
    exact ⟨verdict, hverdicts.subset hmem, heq⟩

/-- The pump moves without its writer: the bytes stay where they are, a verdict of the
receive direction may be new. -/
theorem inv_pump {s : Sys C} {e : Event} {pump : Pump.Sys C} (hi : Inv s)
    (hnot : ∀ status buf, e ≠ .act (.cleartext status buf))
    (hreact : react R s.pump e = some pump) :
    Inv { s with pump } := by
  obtain ⟨hwriter, haccepted, hclose, hdone⟩ := react_writer_frame hnot hreact
  refine ⟨writerBooks_frame hi.writer hwriter hclose hdone,
    flow_frame hi.flow rfl rfl rfl (.inl rfl) hwriter haccepted hclose,
    claimed_frame hi.claimed rfl rfl rfl rfl rfl id, ?_⟩
  exact mapped_frame hi.mapped rfl rfl rfl Iff.rfl hdone (fun h => hwriter.trans h)
    (react_recv_done hreact)

/-- The pump's writer reads the pipe; the splice task moves on with it. -/
theorem inv_pipe {s : Sys C} {status : StreamResult} {buf : List UInt8} {pump : Pump.Sys C}
    {send : SendPc} (hi : Inv s) (hstep : Pump.step R s.pump (.cleartext status buf) = some pump)
    (hflow : Flow { s with pump, send }) (hconnecting : send ≠ .connecting)
    (hsend : send = .ended ↔ s.send = .ended) : Inv { s with pump, send } := by
  obtain ⟨hreading, -, -, hbooks, hrecv⟩ := cleartext_effect hstep
  obtain ⟨hnone, -⟩ := hi.writer.reading hreading
  -- a tunnel that has its verdict has no writer to read for
  have hnot : s.send ≠ .ended := fun h => by
    rw [hi.mapped.ended h] at hreading
    exact absurd hreading (by decide)
  refine ⟨hbooks hnone, hflow, ?_, ?_⟩
  · exact claimed_frame hi.claimed rfl rfl rfl rfl rfl fun h => absurd h hconnecting
  · refine ⟨?_, fun h => absurd (hsend.mp h) hnot, hi.mapped.recv_once, ?_⟩
    · rw [hi.mapped.send, if_neg hnot, if_neg fun h => hnot (hsend.mp h)]
    · show ∀ v ∈ s.recv_verdict, ∃ verdict ∈ pump.recv_done, v = mapVerdict verdict
      rw [hrecv]
      exact hi.mapped.recv

/-- The writer is given a piece of the splice task's write. -/
theorem inv_piece {s : Sys C} {buf pending : List UInt8} {readStatus : StreamResult}
    {pump : Pump.Sys C} (hi : Inv s) (hpc : s.send = .writing pending readStatus)
    (hbuf : buf <+: pending)
    (hstep : Pump.step R s.pump (.cleartext .Complete buf) = some pump) :
    Inv { s with pump, send := .writing (pending.drop buf.length) readStatus } := by
  obtain ⟨-, haccepted, hends, -, -⟩ := cleartext_effect hstep
  have hflow := hi.flow
  unfold Flow at hflow
  rw [hpc] at hflow
  obtain ⟨hbytes, -, hstream, hended⟩ := hflow
  refine inv_pipe hi hstep ⟨?_, ?_, hstream, hended⟩ (by simp) (by simp [hpc])
  · obtain ⟨rest, rfl⟩ := hbuf
    show pump.accepted ++ (buf ++ rest).drop buf.length = s.appSent
    rw [haccepted, List.drop_left, List.append_assoc, hbytes]
  · by_contra hne
    exact absurd (hends hne) (by decide)

/-- The last piece, with the end behind it: the splice task has returned. -/
theorem inv_lastPiece {s : Sys C} {buf : List UInt8} {readStatus : StreamResult}
    {pump : Pump.Sys C} (hi : Inv s) (hpc : s.send = .writing buf readStatus)
    (hlast : readStatus.ends = true)
    (hstep : Pump.step R s.pump (.cleartext .Dropped buf) = some pump) :
    Inv { s with pump, send := .closed } := by
  obtain ⟨-, haccepted, -, -, -⟩ := cleartext_effect hstep
  have hflow := hi.flow
  unfold Flow at hflow
  rw [hpc] at hflow
  obtain ⟨hbytes, -, -, hended⟩ := hflow
  have hall : pump.accepted = s.appSent := haccepted.trans hbytes
  refine inv_pipe hi hstep ⟨?_, fun _ => ⟨hall, .inl (hended.trans hlast)⟩⟩ (by simp)
    (by simp [hpc])
  show pump.accepted <+: s.appSent
  rw [hall]

/-- The end by itself. -/
theorem inv_pipeEnd {s : Sys C} {pump : Pump.Sys C} (hi : Inv s)
    (hpc : s.send = .abandoned ∨ s.send = .closed ∨ s.send = .ended)
    (hstep : Pump.step R s.pump (.cleartext .Dropped []) = some pump) : Inv { s with pump } := by
  obtain ⟨hreading, haccepted, -, -, -⟩ := cleartext_effect hstep
  rw [List.append_nil] at haccepted
  have hflow := hi.flow
  have hconnecting : s.send ≠ .connecting := by
    rcases hpc with h | h | h <;> simp [h]
  have hnext : Flow { s with pump } → Inv { s with pump } := fun hflow' =>
    inv_pipe hi hstep hflow' hconnecting Iff.rfl
  refine hnext ?_
  unfold Flow at hflow ⊢
  dsimp only
  rw [haccepted]
  rcases hpc with h | h | h
  · rw [h] at hflow ⊢
    exact hflow
  · rw [h] at hflow ⊢
    exact ⟨hflow.1, fun _ => hflow.2 (.inl hreading)⟩
  · rw [h] at hflow ⊢
    exact ⟨hflow.1, fun _ => hflow.2 (.inl hreading)⟩

/-- The splice task moves on by itself. -/
theorem inv_spliceMoves {s : Sys C} {send : SendPc} {appSent : List UInt8} {appEnded : Bool}
    (hi : Inv s) (hflow : Flow { s with send, appSent, appEnded })
    (hfrom : s.send ≠ .connecting ∧ s.send ≠ .ended) (hto : send ≠ .connecting ∧ send ≠ .ended)
    (hsilent : s.app_stream ≠ .sent → appSent = []) :
    Inv { s with send, appSent, appEnded } := by
  refine ⟨hi.writer, hflow, ?_, ?_⟩
  · exact ⟨hi.claimed.sends, hi.claimed.receives, fun h => absurd h hto.1, hi.claimed.endpoints,
      hsilent⟩
  · exact mapped_frame hi.mapped rfl rfl rfl
      ⟨fun h => absurd h hto.2, fun h => absurd h hfrom.2⟩ rfl id (List.prefix_refl _)

/-- `splice` reads on, or returns at the end of the application's stream. -/
theorem flow_spliceNext {s : Sys C} {status : StreamResult} {appSent : List UInt8}
    (haccepted : s.pump.accepted = appSent) (hopen : s.pump.closeNotifyAt = none)
    (hstream : s.app_stream = .sent) :
    Flow { s with send := spliceNext status, appSent, appEnded := status.ends } := by
  unfold Flow spliceNext
  cases hends : status.ends with
  | true => exact ⟨by rw [haccepted], fun _ => ⟨haccepted, .inl rfl⟩⟩
  | false => exact ⟨haccepted, hopen, hstream⟩

/-- What `splice` does after a read: it goes on, or returns and drops the writer. -/
theorem spliceNext_cases (status : StreamResult) :
    spliceNext status ≠ .connecting ∧ spliceNext status ≠ .ended := by
  unfold spliceNext
  split <;> exact ⟨by simp, by simp⟩

/-- The splice task reads from the application. -/
theorem inv_appRead {s : Sys C} (status : StreamResult) (buf : List UInt8) (hi : Inv s)
    (hpc : s.send = .reading) :
    Inv { s with
      send := if buf = [] then spliceNext status else .writing buf status
      appSent := s.appSent ++ buf
      appEnded := status.ends } := by
  have hflow := hi.flow
  unfold Flow at hflow
  rw [hpc] at hflow
  obtain ⟨haccepted, hopen, hstream⟩ := hflow
  by_cases hnil : buf = []
  · rw [if_pos hnil, hnil, List.append_nil]
    exact inv_spliceMoves hi (flow_spliceNext haccepted hopen hstream) (by simp [hpc])
      (spliceNext_cases status) hi.claimed.silent
  · rw [if_neg hnil]
    refine inv_spliceMoves hi ⟨?_, hopen, hstream, rfl⟩ (by simp [hpc]) (by simp)
      fun h => absurd hstream h
    show s.pump.accepted ++ buf = s.appSent ++ buf
    rw [haccepted]

/-- Its write was taken whole. -/
theorem inv_spliced {s : Sys C} {status : StreamResult} (hi : Inv s)
    (hpc : s.send = .writing [] status) : Inv { s with send := spliceNext status } := by
  have hflow := hi.flow
  unfold Flow at hflow
  rw [hpc] at hflow
  obtain ⟨hbytes, hopen, hstream, hended⟩ := hflow
  rw [List.append_nil] at hbytes
  have hnext : Flow { s with send := spliceNext status } := by
    have h : Flow
        { s with send := spliceNext status, appSent := s.appSent, appEnded := status.ends } :=
      flow_spliceNext hbytes hopen hstream
    rwa [← hended] at h
  exact inv_spliceMoves hi hnext (by simp [hpc]) (spliceNext_cases status) hi.claimed.silent

/-- Its write was not: the pump's writer is gone, and what it had not taken is lost. -/
theorem inv_leftOver {s : Sys C} {pending : List UInt8} {status : StreamResult} (hi : Inv s)
    (hpc : s.send = .writing pending status) (hgone : s.pump.writer = .ended) :
    Inv { s with send := .closed } := by
  have hflow := hi.flow
  unfold Flow at hflow
  rw [hpc] at hflow
  obtain ⟨hbytes, hopen, -, -⟩ := hflow
  refine inv_spliceMoves hi ⟨⟨pending, hbytes⟩, ?_⟩ (by simp [hpc]) (by simp) hi.claimed.silent
  -- the pump's writer failed: there is no close to account for
  rintro (hreading | hasked)
  · rw [hgone] at hreading
    exact absurd hreading (by decide)
  · exact absurd hopen hasked

/-- `connect` returns, with a tunnel or without one. -/
theorem inv_connected {s : Sys C} {remote : IpSocketAddress} {host : GuestSocket.HostSocket}
    (hi : Inv s) (hpc : s.send = .connecting) :
    Inv { s with
      send := .waiting
      tunnel := some (installed remote host)
      connected := s.connected ++ [.ok ()] } := by
  have hflow := hi.flow
  unfold Flow at hflow
  rw [hpc] at hflow
  obtain ⟨-, hstream, hnone⟩ := hi.claimed.before hpc
  refine ⟨hi.writer, hflow, ?_, ?_⟩
  · refine ⟨hi.claimed.sends, hi.claimed.receives, fun h => absurd h (by simp), ?_,
      hi.claimed.silent⟩
    intro t ht
    rw [← Option.some.inj ht]
    exact ⟨rfl, fun _ => hstream, fun _ => hnone⟩
  · exact mapped_frame hi.mapped rfl rfl rfl (by simp [hpc]) rfl id (List.prefix_refl _)

/-- A `connect` that failed hands nothing out. -/
theorem inv_refused {s : Sys C} (hi : Inv s) (hpc : s.send = .connecting) :
    Inv { s with
      send := .abandoned
      connected := s.connected ++ [.error .ConnectionReset] } := by
  have hflow := hi.flow
  unfold Flow at hflow
  rw [hpc] at hflow
  refine ⟨hi.writer, ⟨hflow.1, hflow.2.1⟩, ?_, ?_⟩
  · exact claimed_frame hi.claimed rfl rfl rfl rfl rfl fun h => absurd h (by simp)
  · exact mapped_frame hi.mapped rfl rfl rfl (by simp [hpc]) rfl id (List.prefix_refl _)

/-- The application's calls change what has been claimed, and nothing else. -/
theorem inv_calls {s : Sys C} {tunnel : Option GuestSocket.Tunnel} {app_stream : AppStream}
    {sends receives : List GuestSocket.Verdict} (hi : Inv s)
    (hstream : app_stream = s.app_stream ∨ s.app_stream = .unclaimed)
    (hclaimed : Claimed { s with tunnel, app_stream, sends, receives }) :
    Inv { s with tunnel, app_stream, sends, receives } where
  writer := hi.writer
  flow := flow_frame hi.flow rfl rfl rfl hstream rfl rfl rfl
  claimed := hclaimed
  mapped := mapped_frame hi.mapped rfl rfl rfl Iff.rfl rfl id (List.prefix_refl _)

/-- A socket with a tunnel is past `connect`. -/
theorem not_connecting {s : Sys C} {t : GuestSocket.Tunnel} (hi : Inv s) (ht : s.tunnel = some t) :
    s.send ≠ .connecting := by
  intro hpc
  obtain ⟨hnone, -, -⟩ := hi.claimed.before hpc
  rw [hnone] at ht
  exact absurd ht (by simp)

/-- The `send` that is given the tunnel: the application's stream is on its way to the
splice task. -/
theorem inv_send {s : Sys C} {t : GuestSocket.Tunnel} (hi : Inv s) (ht : s.tunnel = some t)
    (htx : t.app_stream_tx = true) :
    Inv { s with
      tunnel := some { t with app_stream_tx := false, send_verdict := false }
      app_stream := .sent
      sends := s.sends ++ [.tunnel] } := by
  have hpast := not_connecting hi ht
  obtain ⟨-, hunclaimed, hclear⟩ := hi.claimed.endpoints t ht
  refine inv_calls hi (.inr (hunclaimed htx)) ⟨?_, hi.claimed.receives, fun h => ?_, ?_, ?_⟩
  · show List.count GuestSocket.Verdict.tunnel (s.sends ++ [GuestSocket.Verdict.tunnel]) = 1
    rw [List.count_append, hi.claimed.sends, hunclaimed htx]
    rfl
  · exact absurd h hpast
  · intro t' ht'
    rw [← Option.some.inj ht']
    exact ⟨rfl, fun h => absurd h (by simp), hclear⟩
  · exact fun h => absurd rfl h

/-- Any later one gets invalid-state. Both endpoints are gone, so nothing else changes. -/
theorem inv_sendAgain {s : Sys C} {t : GuestSocket.Tunnel} (hi : Inv s) (ht : s.tunnel = some t)
    (hboth : ¬ (t.app_stream_tx = true ∧ t.send_verdict = true)) :
    Inv { s with
      tunnel := some { t with app_stream_tx := false, send_verdict := false }
      app_stream := if t.app_stream_tx then .dropped else s.app_stream
      sends := s.sends ++ [.invalid_state_verdict] } := by
  have hpast := not_connecting hi ht
  obtain ⟨hpair, -, hclear⟩ := hi.claimed.endpoints t ht
  -- the endpoints go together, so the stream was not there either
  have htx : ¬ t.app_stream_tx = true := fun h => hboth ⟨h, hpair ▸ h⟩
  rw [if_neg htx]
  refine inv_calls hi (.inl rfl) ⟨?_, hi.claimed.receives, fun h => ?_, ?_, hi.claimed.silent⟩
  · show List.count GuestSocket.Verdict.tunnel
      (s.sends ++ [GuestSocket.Verdict.invalid_state_verdict]) = _
    rw [List.count_append, hi.claimed.sends]
    rfl
  · exact absurd h hpast
  · intro t' ht'
    rw [← Option.some.inj ht']
    exact ⟨rfl, fun h => absurd h (by simp), hclear⟩

/-- The `receive` that is given the tunnel. -/
theorem inv_receive {s : Sys C} {t : GuestSocket.Tunnel} (hi : Inv s) (ht : s.tunnel = some t)
    (hthere : t.cleartext = true) :
    Inv { s with
      tunnel := some { t with cleartext := false }
      receives := s.receives ++ [.tunnel] } := by
  have hpast := not_connecting hi ht
  obtain ⟨hpair, hunclaimed, hclear⟩ := hi.claimed.endpoints t ht
  refine inv_calls hi (.inl rfl) ⟨hi.claimed.sends, ?_, fun h => ?_, ?_, hi.claimed.silent⟩
  · show List.count GuestSocket.Verdict.tunnel (s.receives ++ [GuestSocket.Verdict.tunnel]) ≤ 1
    rw [List.count_append, hclear hthere]
    exact Nat.le_refl 1
  · exact absurd h hpast
  · intro t' ht'
    rw [← Option.some.inj ht']
    exact ⟨hpair, hunclaimed, fun h => absurd h (by simp)⟩

/-- Any later one gets invalid-state. -/
theorem inv_receiveAgain {s : Sys C} {t : GuestSocket.Tunnel} (hi : Inv s)
    (ht : s.tunnel = some t) :
    Inv { s with tunnel := some t, receives := s.receives ++ [.invalid_state_verdict] } := by
  have hpast := not_connecting hi ht
  have hcount : List.count GuestSocket.Verdict.tunnel (s.receives ++ [.invalid_state_verdict])
      = s.receives.count .tunnel := by
    rw [List.count_append]
    rfl
  refine inv_calls hi (.inl rfl) ⟨hi.claimed.sends, ?_, fun h => ?_, ?_, hi.claimed.silent⟩
  · show List.count GuestSocket.Verdict.tunnel
      (s.receives ++ [GuestSocket.Verdict.invalid_state_verdict]) ≤ 1
    rw [hcount]
    exact hi.claimed.receives
  · exact absurd h hpast
  · intro t' ht'
    obtain ⟨hpair, hunclaimed, hclear⟩ := hi.claimed.endpoints t' (ht.trans ht')
    exact ⟨hpair, hunclaimed, fun h => hcount.trans (hclear h)⟩

/-- The socket is dropped: a stream that was never claimed never will be. -/
theorem inv_drop {s : Sys C} {t : GuestSocket.Tunnel} (hi : Inv s) (ht : s.tunnel = some t) :
    Inv { s with
      tunnel := none
      app_stream := if t.app_stream_tx then .dropped else s.app_stream } := by
  have hpast := not_connecting hi ht
  obtain ⟨-, hunclaimed, -⟩ := hi.claimed.endpoints t ht
  cases htx : t.app_stream_tx with
  | true =>
      have hstream := hunclaimed htx
      refine inv_calls hi (.inr hstream) ⟨?_, hi.claimed.receives, fun h => ?_, ?_, ?_⟩
      · show s.sends.count .tunnel = 0
        rw [hi.claimed.sends, hstream]
        rfl
      · exact absurd h hpast
      · exact fun t' ht' => absurd ht' (by simp)
      · exact fun _ => hi.claimed.silent (by simp [hstream])
  | false =>
      refine inv_calls hi (.inl rfl) ⟨hi.claimed.sends, hi.claimed.receives, fun h => ?_, ?_,
        hi.claimed.silent⟩
      · exact absurd h hpast
      · exact fun t' ht' => absurd ht' (by simp)

/-- The splice task learns whether there is a stream. -/
theorem inv_claimed {s : Sys C} (hi : Inv s) (hpc : s.send = .waiting)
    (hstream : s.app_stream = .sent) : Inv { s with send := .reading } := by
  have hflow := hi.flow
  unfold Flow at hflow
  rw [hpc] at hflow
  obtain ⟨haccepted, hsent, hopen⟩ := hflow
  have hread : Flow { s with send := .reading } := ⟨haccepted.trans hsent.symm, hopen, hstream⟩
  exact inv_spliceMoves hi hread (by simp [hpc]) (by simp) hi.claimed.silent

/-- It learns that there is none, and drops the pipe's writer unwritten: the connection is
closed, not left open. -/
theorem inv_unclaimed {s : Sys C} (hi : Inv s) (hpc : s.send = .waiting)
    (hstream : s.app_stream = .dropped) : Inv { s with send := .closed } := by
  have hflow := hi.flow
  unfold Flow at hflow
  rw [hpc] at hflow
  obtain ⟨haccepted, hsent, -⟩ := hflow
  have hall : s.pump.accepted = s.appSent := haccepted.trans hsent.symm
  have hclosed : Flow { s with send := .closed } :=
    ⟨hall ▸ List.prefix_refl _, fun _ => ⟨hall, .inr hstream⟩⟩
  exact inv_spliceMoves hi hclosed (by simp [hpc]) (by simp) hi.claimed.silent

/-- The verdict tasks write what the connection decided. -/
theorem inv_sendDone {s : Sys C} {verdict : Pump.Verdict} {rest : List Pump.Verdict} (hi : Inv s)
    (hpc : s.send = .closed) (hdone : s.pump.send_done = verdict :: rest) :
    Inv { s with send := .ended, send_verdict := s.send_verdict ++ [mapVerdict verdict] } := by
  have hflow := hi.flow
  unfold Flow at hflow
  rw [hpc] at hflow
  have hended : s.pump.writer = .ended := by
    cases hwriter : s.pump.writer with
    | reading =>
        rw [(hi.writer.reading hwriter).1] at hdone
        exact absurd hdone (by simp)
    | ended => rfl
  obtain ⟨only, hone, -⟩ := hi.writer.ended hended
  have hempty : s.send_verdict = [] := by
    rw [hi.mapped.send, if_neg (by simp [hpc])]
  refine ⟨hi.writer, hflow, ?_, ?_⟩
  · exact claimed_frame hi.claimed rfl rfl rfl rfl rfl fun h => absurd h (by simp)
  · refine ⟨?_, fun _ => hended, hi.mapped.recv_once, hi.mapped.recv⟩
    show s.send_verdict ++ [mapVerdict verdict] = s.pump.send_done.map mapVerdict
    rw [hone, List.cons.injEq] at hdone
    rw [hempty, hone, hdone.1]
    rfl

/-- The same for the receive direction. -/
theorem inv_recvDone {s : Sys C} {verdict : Pump.Verdict} {rest : List Pump.Verdict} (hi : Inv s)
    (hdone : s.pump.recv_done = verdict :: rest) (hopen : s.recvEnded = false) :
    Inv { s with recvEnded := true, recv_verdict := s.recv_verdict ++ [mapVerdict verdict] } := by
  refine ⟨hi.writer, hi.flow, ?_, hi.mapped.send, hi.mapped.ended, ?_, fun v hv => ?_⟩
  · exact claimed_frame hi.claimed rfl rfl rfl rfl rfl id
  · show (s.recv_verdict ++ [mapVerdict verdict]).length = 1
    rw [List.length_append, hi.mapped.recv_once, hopen]
    rfl
  · have hv' : v ∈ s.recv_verdict ++ [mapVerdict verdict] := hv
    rw [List.mem_append, List.mem_singleton] at hv'
    rcases hv' with hold | hnew
    · exact hi.mapped.recv v hold
    · exact ⟨verdict, by simp [hdone], hnew⟩

/-- **Preservation.** Every step keeps the invariant. -/
theorem inv_step {s s' : Sys C} {a : Act} (hi : Inv s) (h : step R remote host s a = some s') :
    Inv s' := by
  cases trans_of_step h with
  | pump hnot hreact => exact inv_pump hi hnot hreact
  | piece hpc hbuf hstep => exact inv_piece hi hpc hbuf hstep
  | lastPiece hpc hends hstep => exact inv_lastPiece hi hpc hends hstep
  | pipeEnd hpc hstep => exact inv_pipeEnd hi hpc hstep
  | connected hpc hsent => exact inv_connected hi hpc
  | refused hpc => exact inv_refused hi hpc
  | send ht hboth => exact inv_send hi ht hboth.1
  | sendAgain ht hboth => exact inv_sendAgain hi ht hboth
  | receive ht hthere => exact inv_receive hi ht hthere
  | receiveAgain ht hgone => exact inv_receiveAgain hi ht
  | drop ht => exact inv_drop hi ht
  | claimed hpc hstream => exact inv_claimed hi hpc hstream
  | unclaimed hpc hstream => exact inv_unclaimed hi hpc hstream
  | appRead hpc => exact inv_appRead _ _ hi hpc
  | spliced hpc => exact inv_spliced hi hpc
  | leftOver hpc hgone => exact inv_leftOver hi hpc hgone
  | sendDone hpc hdone => exact inv_sendDone hi hpc hdone
  | recvDone hdone hopen => exact inv_recvDone hi hdone hopen

/-! ## The result -/

/-- `Ok` stays `Ok`, and nothing else becomes it. -/
theorem mapVerdict_ok {verdict : Pump.Verdict} (h : .ok () = mapVerdict verdict) :
    verdict = .ok () := by
  cases verdict with
  | ok u => rfl
  | error e => exact absurd h (by simp [mapVerdict])

theorem mapVerdict_error {verdict : Pump.Verdict} {e : ErrorCode}
    (h : .error e = mapVerdict verdict) : e = .ConnectionReset := by
  cases verdict with
  | ok u => exact absurd h (by simp [mapVerdict])
  | error detail => exact Except.error.inj h

/-- Where the application's bytes are, whatever the splice task does. -/
theorem in_order_of_flow {s : Sys C} (hi : Flow s) :
    s.pump.accepted <+: s.appSent ∧
    (s.pump.closeNotifyAt ≠ none → s.pump.accepted = s.appSent ∧ AppDone s) := by
  unfold Flow at hi
  cases hpc : s.send with
  | connecting | waiting =>
      rw [hpc] at hi
      exact ⟨by rw [hi.1, hi.2.1], fun h => absurd hi.2.2 h⟩
  | abandoned =>
      rw [hpc] at hi
      exact ⟨by rw [hi.1, hi.2], fun _ => ⟨by rw [hi.1, hi.2], .inr (.inr hpc)⟩⟩
  | reading =>
      rw [hpc] at hi
      exact ⟨by rw [hi.1], fun h => absurd hi.2.1 h⟩
  | writing pending status =>
      rw [hpc] at hi
      exact ⟨⟨pending, hi.1⟩, fun h => absurd hi.2.1 h⟩
  | closed | ended =>
      rw [hpc] at hi
      refine ⟨hi.1, fun h => ?_⟩
      obtain ⟨hall, hdone⟩ := hi.2 (.inr h)
      exact ⟨hall, hdone.imp_right .inl⟩

/-- The contract, clause by clause from the parts. -/
theorem truthful_of_inv {closed : C → Bool} {s : Sys C} (hi : Inv s)
    (hflagged : Loopback.Flagged R closed s.pump) : Truthful closed s := by
  obtain ⟨horder, hclose⟩ := in_order_of_flow hi.flow
  -- the verdicts written for `send` are at most the one the pump's writer decided
  have hsend : ∀ v ∈ s.send_verdict, ∃ verdict, s.pump.send_done = [verdict] ∧
      v = mapVerdict verdict ∧ (verdict = .ok () ↔ s.pump.closeNotifyAt ≠ none) := by
    intro v hv
    rw [hi.mapped.send] at hv
    split at hv
    · rename_i hended
      obtain ⟨verdict, hone, hok⟩ := hi.writer.ended (hi.mapped.ended hended)
      rw [hone, List.map_singleton, List.mem_singleton] at hv
      exact ⟨verdict, hone, hv, hok⟩
    · exact absurd hv (by simp)
  refine ⟨horder, fun hnone => ?_, hclose, ?_, fun hok => ?_, fun e he => ?_, ?_, fun hok => ?_,
    fun e he => ?_, ?_, hi.claimed.receives⟩
  · have hstream : s.app_stream ≠ .sent := by
      intro hsent
      have hcount := hi.claimed.sends
      rw [List.count_eq_zero.mpr hnone, if_pos hsent] at hcount
      omega
    have hempty := hi.claimed.silent hstream
    rw [hempty] at horder
    exact List.prefix_nil.mp horder
  · rw [hi.mapped.send]
    split
    · rename_i hended
      obtain ⟨verdict, hone, -⟩ := hi.writer.ended (hi.mapped.ended hended)
      rw [hone]
      exact Nat.le_refl 1
    · exact Nat.zero_le 1
  · obtain ⟨verdict, -, hv, hiff⟩ := hsend _ hok
    exact hiff.mp (mapVerdict_ok hv)
  · obtain ⟨verdict, -, hv, -⟩ := hsend _ he
    exact mapVerdict_error hv
  · rw [hi.mapped.recv_once]
    split <;> omega
  · obtain ⟨verdict, hmem, hv⟩ := hi.mapped.recv _ hok
    rw [mapVerdict_ok hv] at hmem
    rw [← hflagged.flag]
    exact hflagged.verdict hmem
  · obtain ⟨verdict, -, hv⟩ := hi.mapped.recv _ he
    exact mapVerdict_error hv
  · rw [hi.claimed.sends]
    split <;> omega

/-- **A tunnel is truthful in every run**: whatever the application does with its socket and
its stream, however the tasks and the pump interleave, and whatever the network delivers. -/
theorem tunnel_is_truthful {decrypted : C → List UInt8} {closed : C → Bool}
    (hR : R.Receives decrypted closed) (remote : IpSocketAddress) (host : GuestSocket.HostSocket)
    (c : C) (hdrained : R.received_plaintext c = []) (hopen : closed c = false) (acts : List Act) :
    Lts.Always (step R remote host) (Truthful closed) (Sys.init R c) acts := by
  have hstart : Loopback.Flagged R closed (Sys.init R c).pump :=
    Loopback.flagged_init hR hdrained hopen
  have hstep : ∀ {s s' : Sys C} {a : Act}, Inv s ∧ Loopback.Flagged R closed s.pump →
      step R remote host s a = some s' → Inv s' ∧ Loopback.Flagged R closed s'.pump := by
    intro s s' a hs h
    refine ⟨inv_step hs.1 h, ?_⟩
    exact pump_refines.keeps (fun hp hreact => Loopback.flagged_react hR hp hreact) hs.2 h
  exact Lts.always_of_invariant (And.intro (inv_init c) hstart) hstep
    fun hs => truthful_of_inv hs.1 hs.2

/-- The application sends "hi" in two reads, the first of which the connection takes byte by
byte, ends its stream and receives until the peer closes: both verdicts are `Ok`. A second
`send` gets nothing. -/
theorem tunnel_says_hi :
    let remote : IpSocketAddress := .Ipv6 443 0 (fun i => if i = 0 then 0xfd00 else 0) 0
    let acts : List Act :=
      [.pump (.act (.transport .Complete [2])), .connected, .receive, .send, .send, .claimed,
        .appRead .Complete [104, 105], .pipe .Complete [104], .pipe .Complete [105], .spliced,
        .appRead .Dropped [], .pipe .Dropped [], .sendDone,
        .pump (.act (.transport .Complete [1])), .recvDone]
    Lts.Always (step PlainTls.rustls remote .create) (Truthful PlainTls.Conn.closed)
        (Sys.init PlainTls.rustls .fresh) acts ∧
      ∃ s, Lts.run (step PlainTls.rustls remote .create) (Sys.init PlainTls.rustls .fresh) acts
          = some s ∧
        s.pump.accepted = [104, 105] ∧ s.send_verdict = [.ok ()] ∧ s.recv_verdict = [.ok ()] ∧
        s.sends = [.tunnel, .invalid_state_verdict] :=
  ⟨tunnel_is_truthful PlainTls.receives _ _ .fresh rfl rfl _, _, rfl, rfl, rfl, rfl, rfl⟩

end PolymorphTls.GuestTunnel

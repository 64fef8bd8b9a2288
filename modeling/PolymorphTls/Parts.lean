/-
Where the parts of a 0.2 tunnel go (`tls-virt-wasmtime/src/p2.rs`).

A 0.2 `start_connect` to a handle spawns a task that makes the TLS stream on its own, and
`finish_connect` finds what the task made by the index of the socket. Between the two the
socket may be dropped and its index given to another one, several tasks run at once, and a
task does not know for whom it runs: it holds a slot, and so does the entry it was spawned
for. A slot taken by the wrong `finish_connect` would hand one guest's plaintext to another
guest's connection. `Halves` follows the halves of the other generation; this file follows
`TlsParts`.

A monitor notes for whom each task was spawned, what it stored, and which task's streams a
`finish_connect` gave out through which socket. In every run (`parts_stay_with_their_dial`):

* the streams of a task are given out at most once, and only through the socket whose
  `start_connect` spawned it, after its handshake succeeded;
* an entry tells the truth about its own task: connecting means that what the task stored is
  still in the slot, connected that the streams were given to this socket and the addresses
  shown are those of its dial, failed that the handshake failed.

The slot is what makes this hold and the index is not: an entry's index is free for another
socket the moment the entry goes, but the slot goes with the entry, and a task that stores
into a slot nobody holds is heard by nobody.
-/
import PolymorphTls.Halves

set_option autoImplicit false

namespace PolymorphTls.Parts

open Store
open HostSocket (Task P2Tunnel Answer Outcome)
open Halves (Dial)

/-! ## The monitor -/

/-- The streams of a task that were given out, and through which socket. -/
structure Handed where
  task : ℕ
  socket : ℕ
  deriving DecidableEq

/-- What the monitor keeps. The code has none of it: a task knows its slot, and an entry the
same slot. -/
structure Ghost where
  /-- For whom each task was spawned: the socket, the handle and the name it stood for. The
  task keeps that name, whatever the table has for the handle later. -/
  dials : List Dial
  /-- What each task stored; the addresses stand for the streams that come with them. -/
  outcomes : ℕ → Option (Except ErrorCode (Option SocketAddr))
  handed : List Handed

def Ghost.init : Ghost := ⟨[], fun _ => none, []⟩

/-- A `finish_connect` on the entry of a task answers: with `Ok` come the streams. -/
def Ghost.hand (g : Ghost) (live : Live) (e : P2Entry) (outcome : Outcome) : Ghost :=
  if outcome.delegated = false ∧ outcome.result = some (.ok ()) then
    { g with handed := ⟨e.task, live.number⟩ :: g.handed }
  else g

/-- What the monitor notes of a step, from the states around it and the answer of the
call. -/
def observe (s : Store.Sys) (a : Act) (s' : Store.Sys) (g : Ghost) : Ghost :=
  match a with
  | .start_connect rep remote _ =>
      match s.table rep, lookup_handle s.virt.names remote with
      | some live, some (hostname, _) =>
          -- refused calls spawn nothing
          if s'.tasks.length = s.tasks.length then g
          else { g with dials := g.dials ++ [⟨live.number, remote, hostname⟩] }
      | _, _ => g
  | .store_outcome t outcome =>
      { g with outcomes := Function.update g.outcomes t (some outcome) }
  | .finish_connect rep host =>
      match s.table rep, s.p2_tunnels rep with
      | some live, some e => g.hand live e (HostSocket.finish_connect (s.socketAt rep) host)
      | _, _ => g
  | _ => g

/-- The store with its monitor. -/
abbrev step : Store.Sys × Ghost → Act → Option (Store.Sys × Ghost) :=
  Lts.monitored Store.step observe

/-- The streams of the task were given out. -/
def Out (g : Ghost) (task : ℕ) : Prop := task ∈ g.handed.map Handed.task

/-- One task's streams more are out. -/
theorem out_cons {g : Ghost} {task socket task' : ℕ} :
    Out { g with handed := ⟨task, socket⟩ :: g.handed } task' ↔ task' = task ∨ Out g task' := by
  unfold Out
  rw [List.map_cons, List.mem_cons]

/-! ## The contract -/

/-- What an entry says of its task, and that it is so. -/
inductive Known (g : Ghost) (e : P2Entry) (d : Dial) : Prop where
  | connecting {ready : Bool}
      (htunnel : e.tunnel = .Connecting d.remote ready (g.outcomes e.task))
      (hkept : ¬ Out g e.task)
  | connected {local_addr : Option SocketAddr} {ready : Bool}
      (htunnel : e.tunnel = .Connected d.remote local_addr ready)
      (hstored : g.outcomes e.task = some (.ok local_addr))
      (hgiven : ⟨e.task, d.socket⟩ ∈ g.handed)
  | failed {code : ErrorCode} (htunnel : e.tunnel = .Failed)
      (hstored : g.outcomes e.task = some (.error code)) (hkept : ¬ Out g e.task)

/-- **The custody of the parts.** -/
structure Custody (s : Store.Sys) (g : Ghost) : Prop where
  /-- No task's streams are given out twice. -/
  once : (g.handed.map Handed.task).Nodup
  /-- They go only to the socket that dialed, and only if the handshake succeeded. -/
  own : ∀ x ∈ g.handed, ∃ d local_addr, g.dials[x.task]? = some d ∧ d.socket = x.socket ∧
    g.outcomes x.task = some (.ok local_addr)
  /-- An entry is that of a task spawned for the socket at its index. -/
  entry : ∀ rep e, s.p2_tunnels rep = some e → ∃ d, g.dials[e.task]? = some d ∧
    s.table rep = some ⟨d.socket, .TcpSocket⟩ ∧ Known g e d
  /-- No two sockets share a task. -/
  exclusive : ∀ rep rep' e e', s.p2_tunnels rep = some e → s.p2_tunnels rep' = some e' →
    e.task = e'.task → rep = rep'

/-! ## The steps

Of the store's steps five touch the entries or the tasks: both calls of a 0.2 connect, both
moves of a task, and the drop of a resource. What a step does to the entries is said here
once, and the books below are kept from it alone. -/

/-- What a step does to the entries and the tasks, and what the monitor sees of it. -/
inductive Moves (s : Store.Sys) (a : Act) (s' : Store.Sys) : Prop where
  | spawned {rep number : ℕ} {remote : IpSocketAddress} {hostname : String}
      (hlive : s.table rep = some ⟨number, .TcpSocket⟩)
      (hp2 : s'.p2_tunnels = Function.update s.p2_tunnels rep
        (some ⟨.Connecting remote false none, s.tasks.length, number⟩))
      (htasks : s'.tasks = s.tasks ++ [.running])
      (hobserve : ∀ g, observe s a s' g =
        { g with dials := g.dials ++ [⟨number, remote, hostname⟩] })
  | taken {rep number : ℕ} {e : P2Entry} {remote : IpSocketAddress} {ready : Bool}
      {local_addr : Option SocketAddr}
      (hlive : s.table rep = some ⟨number, .TcpSocket⟩) (he : s.p2_tunnels rep = some e)
      (htunnel : e.tunnel = .Connecting remote ready (some (.ok local_addr)))
      (hp2 : s'.p2_tunnels = Function.update s.p2_tunnels rep
        (some { e with tunnel := .Connected remote local_addr ready }))
      (htasks : s'.tasks = s.tasks)
      (hobserve : ∀ g, observe s a s' g = { g with handed := ⟨e.task, number⟩ :: g.handed })
  | failed {rep : ℕ} {e : P2Entry} {remote : IpSocketAddress} {ready : Bool} {code : ErrorCode}
      (he : s.p2_tunnels rep = some e)
      (htunnel : e.tunnel = .Connecting remote ready (some (.error code)))
      (hp2 : s'.p2_tunnels = Function.update s.p2_tunnels rep (some { e with tunnel := .Failed }))
      (htasks : s'.tasks = s.tasks) (hobserve : ∀ g, observe s a s' g = g)
  | stored {t : ℕ} {outcome : Except ErrorCode (Option SocketAddr)}
      (hrunning : s.tasks[t]? = some .running)
      (hp2 : ∀ rep e', s'.p2_tunnels rep = some e' → ∃ e, s.p2_tunnels rep = some e ∧
        e' = if e.task = t then
          { e with tunnel := HostSocket.store_outcome outcome e.tunnel } else e)
      (htasks : s'.tasks = s.tasks.set t .stored)
      (hobserve : ∀ g, observe s a s' g =
        { g with outcomes := Function.update g.outcomes t (some outcome) })
  | signalled {t : ℕ} (hstored : s.tasks[t]? = some .stored)
      (hp2 : ∀ rep e', s'.p2_tunnels rep = some e' → ∃ e, s.p2_tunnels rep = some e ∧
        e' = if e.task = t then { e with tunnel := HostSocket.signal_ready e.tunnel } else e)
      (htasks : s'.tasks = s.tasks.set t .done) (hobserve : ∀ g, observe s a s' g = g)
  /-- No entry is new or changed; a drop may have removed one. -/
  | kept (hp2 : ∀ rep e, s'.p2_tunnels rep = some e → s.p2_tunnels rep = some e)
      (htasks : s'.tasks = s.tasks) (hobserve : ∀ g, observe s a s' g = g)

/-- A step that leaves the entries and the tasks alone. -/
theorem Moves.same {s s' : Store.Sys} {a : Act} (hp2 : s'.p2_tunnels = s.p2_tunnels)
    (htasks : s'.tasks = s.tasks) (hobserve : ∀ g, observe s a s' g = g) : Moves s a s' :=
  .kept (fun rep e he => by rwa [← hp2]) htasks hobserve

/-- The dial itself is the store's ghost. -/
theorem dial_frame (s : Store.Sys) (number : ℕ) (remote : IpSocketAddress) :
    (s.dial number remote).p2_tunnels = s.p2_tunnels ∧
      (s.dial number remote).tasks = s.tasks := by
  unfold Sys.dial
  split <;> exact ⟨rfl, rfl⟩

/-- 0.2's `start_connect`. It spawns a task exactly if it inserts an entry, which is what
the monitor goes by. -/
theorem moves_of_start_connect {s s' : Store.Sys} {rep number : ℕ} {remote : IpSocketAddress}
    {host : Answer} (hlive : s.table rep = some ⟨number, .TcpSocket⟩)
    (h : stepSocket s rep number (.start_connect rep remote host) = some s') :
    Moves s (.start_connect rep remote host) s' := by
  obtain ⟨hdial, hdialtasks⟩ := dial_frame s number remote
  simp only [stepSocket] at h
  split at h
  · next tunnel hnone hsome =>
    -- there was no entry and there is one now: the address is a handle, and it is dialed
    rw [Option.some.injEq] at h
    unfold HostSocket.start_connect at hsome
    rw [Sys.socketAt, hnone] at hsome
    split at hsome
    · exact absurd hsome (by simp [HostSocket.delegate])
    · next hostname addrs port hlookup =>
      simp only [Option.map_none, Option.isSome_none, Bool.false_eq_true, if_false] at hsome
      split at hsome
      · exact absurd hsome (by simp [HostSocket.answer])
      · simp only [HostSocket.answer, Option.some.injEq] at hsome
        have htasks : s'.tasks = s.tasks ++ [.running] := by rw [← h]
        have hspawned : s'.tasks.length ≠ s.tasks.length := by
          rw [htasks, List.length_append, List.length_singleton]
          omega
        have hobserve : ∀ g, observe s (.start_connect rep remote host) s' g =
            { g with dials := g.dials ++ [⟨number, remote, hostname⟩] } := by
          intro g
          simp only [observe, hlive, hlookup, if_neg hspawned]
        refine .spawned hlive ?_ htasks hobserve
        rw [← h, ← hsome]
  · rw [Option.some.injEq] at h
    rw [← h]
    refine .same hdial hdialtasks fun g => ?_
    simp only [observe, hdialtasks, if_true]
    split <;> rfl

/-- 0.2's `finish_connect`, by what the slot of the entry holds. -/
theorem moves_of_finish_connect {s s' : Store.Sys} {rep number : ℕ} {host : Answer}
    (hlive : s.table rep = some ⟨number, .TcpSocket⟩)
    (h : stepSocket s rep number (.finish_connect rep host) = some s') :
    Moves s (.finish_connect rep host) s' := by
  simp only [stepSocket, Option.some.injEq] at h
  rcases Option.eq_none_or_eq_some (s.p2_tunnels rep) with hnone | ⟨e, he⟩
  · rw [hnone, Option.map_none, ← hnone, Function.update_eq_self] at h
    rw [← h]
    exact .same rfl rfl fun g => by simp only [observe, hlive, hnone]
  · have hat : (s.socketAt rep).p2_tunnel = some e.tunnel := by
      rw [Sys.socketAt, he]
      rfl
    have hobserve : ∀ g, observe s (.finish_connect rep host) s' g
        = g.hand ⟨number, .TcpSocket⟩ e (HostSocket.finish_connect (s.socketAt rep) host) := by
      intro g
      simp only [observe, hlive, he]
    rw [he, Option.map_some] at h
    -- an answer that is an error gives nothing out; it may still change the entry
    have hkept : ∀ code, (HostSocket.finish_connect (s.socketAt rep) host).result
        = some (.error code) → ∀ g, observe s (.finish_connect rep host) s' g = g := by
      intro code hresult g
      rw [hobserve, Ghost.hand, hresult, if_neg]
      simp
    have hsame : HostSocket.finish_connect (s.socketAt rep) host
        = HostSocket.answer (s.socketAt rep) (.error .WouldBlock) ∨
          HostSocket.finish_connect (s.socketAt rep) host
        = HostSocket.answer (s.socketAt rep) (.error .NotInProgress) →
        Moves s (.finish_connect rep host) s' := by
      intro hanswer
      have hafter : e.after (HostSocket.finish_connect (s.socketAt rep) host).socket = e := by
        rcases hanswer with hblock | hdone
        · rw [hblock, HostSocket.answer, P2Entry.after, hat]
        · rw [hdone, HostSocket.answer, P2Entry.after, hat]
      rw [hafter, ← he, Function.update_eq_self] at h
      refine .same (by rw [← h]) (by rw [← h]) ?_
      rcases hanswer with hblock | hdone
      · exact hkept .WouldBlock (by rw [hblock]; rfl)
      · exact hkept .NotInProgress (by rw [hdone]; rfl)
    cases htunnel : e.tunnel with
    | Connecting remote ready result =>
        rw [htunnel] at hat
        rcases result with _ | (code | local_addr)
        · exact hsame (.inl (by rw [HostSocket.finish_connect, hat]))
        · have hfinish : HostSocket.finish_connect (s.socketAt rep) host = HostSocket.answer
              { s.socketAt rep with p2_tunnel := some .Failed } (.error code) := by
            rw [HostSocket.finish_connect, hat]
          refine .failed he htunnel ?_ (by rw [← h]) (hkept code (by rw [hfinish]; rfl))
          rw [← h, hfinish]
          rfl
        · have hfinish : HostSocket.finish_connect (s.socketAt rep) host = HostSocket.answer
              { s.socketAt rep with p2_tunnel := some (.Connected remote local_addr ready) }
              (.ok ()) := by
            rw [HostSocket.finish_connect, hat]
          refine .taken hlive he htunnel ?_ (by rw [← h]) fun g => ?_
          · rw [← h, hfinish]
            rfl
          · rw [hobserve, hfinish]
            rfl
    | Connected | Failed =>
        rw [htunnel] at hat
        exact hsame (.inr (by rw [HostSocket.finish_connect, hat]))

/-- A move of a task reaches the entries that share its slot, and no others. -/
theorem tunnels_of_stepTask {s s' : Store.Sys} {t : ℕ} {f : P2Tunnel → P2Tunnel}
    {before after : Task} (h : stepTask s t f before after = some s') :
    s.tasks[t]? = some before ∧ s'.tasks = s.tasks.set t after ∧
      ∀ rep e', s'.p2_tunnels rep = some e' → ∃ e, s.p2_tunnels rep = some e ∧
        e' = if e.task = t then { e with tunnel := f e.tunnel } else e := by
  unfold stepTask at h
  split at h
  · next ht =>
    rw [Option.some.injEq] at h
    rw [← h]
    refine ⟨ht, rfl, fun rep e' he' => ?_⟩
    obtain ⟨e, he, heq⟩ := Option.map_eq_some_iff.mp he'
    exact ⟨e, he, heq.symm⟩
  · exact absurd h (by simp)

/-- A drop removes entries; the tasks go on. -/
theorem moves_of_drop {s s' : Store.Sys} {rep : ℕ} {ok : Bool}
    (h : Store.step s (.drop rep ok) = some s') : Moves s (.drop rep ok) s' := by
  have hforget : ∀ kind, (∀ r e, (s.forget rep kind).p2_tunnels r = some e →
      s.p2_tunnels r = some e) ∧ (s.forget rep kind).tasks = s.tasks := by
    intro kind
    cases kind with
    | TcpSocket =>
        refine ⟨fun r e he => ?_, rfl⟩
        rcases update_eq_some he with ⟨-, hnone⟩ | ⟨-, hold⟩
        · exact absurd hnone (by simp)
        · exact hold
    | ResolveAddressStream name | other => exact ⟨fun r e he => he, rfl⟩
  cases hlive : s.table rep with
  | none => simp [Store.step, hlive] at h
  | some live =>
      obtain ⟨hp2, htasks⟩ := hforget live.kind
      simp only [Store.step, hlive] at h
      split at h
      · exact absurd h (by simp)
      · split at h
        all_goals
          rw [Option.some.injEq] at h
          rw [← h]
          exact .kept hp2 htasks fun g => rfl

/-- The other generation and the rest of the table. -/
theorem moves_of_step {s s' : Store.Sys} {a : Act} (h : Store.step s a = some s') :
    Moves s a s' := by
  cases a with
  | start_connect rep remote host =>
      simp only [Store.step, Act.socket] at h
      split at h
      · exact moves_of_start_connect ‹_› h
      · exact absurd h (by simp)
  | finish_connect rep host =>
      simp only [Store.step, Act.socket] at h
      split at h
      · exact moves_of_finish_connect ‹_› h
      · exact absurd h (by simp)
  | store_outcome t outcome =>
      obtain ⟨hrunning, htasks, hp2⟩ := tunnels_of_stepTask h
      exact .stored hrunning hp2 htasks fun g => rfl
  | signal_ready t =>
      obtain ⟨hstored, htasks, hp2⟩ := tunnels_of_stepTask h
      exact .signalled hstored hp2 htasks fun g => rfl
  | drop rep ok => exact moves_of_drop h
  | create rep | push rep =>
      by_cases hfree : s.table rep = none
      · simp only [Store.step, if_pos hfree, Option.some.injEq] at h
        rw [← h]
        exact .same rfl rfl fun g => rfl
      · simp [Store.step, hfree] at h
  | resolve suffix name host =>
      simp only [Store.step, Option.some.injEq] at h
      rw [← h]
      exact .same rfl rfl fun g => rfl
  | lookup rep name host =>
      simp only [Store.step] at h
      split at h
      · split at h
        all_goals
          rw [Option.some.injEq] at h
          rw [← h]
          exact .same rfl rfl fun g => rfl
      · exact absurd h (by simp)
  | next rep suffix delegated =>
      simp only [Store.step] at h
      split at h
      · obtain ⟨r, -, rfl⟩ := Option.map_eq_some_iff.mp h
        exact .same rfl rfl fun g => rfl
      · exact absurd h (by simp)
  | connect rep remote =>
      simp only [Store.step, Act.socket] at h
      split at h
      · next number hlive =>
        simp only [stepSocket, Option.some.injEq] at h
        obtain ⟨hdial, hdialtasks⟩ := dial_frame s number remote
        rw [← h]
        exact .same hdial hdialtasks fun g => rfl
      · exact absurd h (by simp)
  | send rep | receive rep =>
      simp only [Store.step, Act.socket] at h
      split at h
      · simp only [stepSocket, Option.some.injEq] at h
        rw [← h]
        exact .same rfl rfl fun g => rfl
      · exact absurd h (by simp)
  | checked i _ | dialed i _ _ | handshaken i _ | returns i _ | cancel i =>
      obtain ⟨p, -, hcall⟩ := Option.bind_eq_some_iff.mp h
      cases Halves.moves_of_stepCall hcall <;> exact .same rfl rfl fun g => rfl

/-! ## The books -/

/-- The entry's task was spawned for the socket that inserted it, and the entry is right
about it. -/
def Kept (g : Ghost) (e : P2Entry) : Prop :=
  ∃ d, g.dials[e.task]? = some d ∧ d.socket = e.owner ∧ Known g e d

/-- The store's own invariant, what the monitor has noted against the tasks, and what every
entry is known for. -/
structure Inv (x : Store.Sys × Ghost) : Prop where
  store : Store.Inv x.1
  spawned : x.2.dials.length = x.1.tasks.length
  /-- Only a task that is past its work has stored anything. -/
  stored : ∀ t outcome, x.2.outcomes t = some outcome →
    ∃ task, x.1.tasks[t]? = some task ∧ task ≠ .running
  kept : ∀ rep e, x.1.p2_tunnels rep = some e → Kept x.2 e
  exclusive : ∀ rep rep' e e', x.1.p2_tunnels rep = some e → x.1.p2_tunnels rep' = some e' →
    e.task = e'.task → rep = rep'
  own : ∀ y ∈ x.2.handed, ∃ d local_addr, x.2.dials[y.task]? = some d ∧ d.socket = y.socket ∧
    x.2.outcomes y.task = some (.ok local_addr)
  once : (x.2.handed.map Handed.task).Nodup

/-- No task was spawned. -/
theorem inv_init (random : Fin 8 → UInt8) : Inv (.init random, .init) where
  store := Store.inv_init random
  spawned := rfl
  stored _ _ h := absurd h (by simp [Ghost.init])
  kept _ _ h := absurd h (by simp [Sys.init])
  exclusive _ _ _ _ h := absurd h (by simp [Sys.init])
  own _ h := absurd h List.not_mem_nil
  once := List.nodup_nil

/-- The contract: the store says whose the entry is, the monitor whose the task. -/
theorem custody_of_inv {s : Store.Sys} {g : Ghost} (hi : Inv (s, g)) : Custody s g := by
  refine ⟨hi.once, hi.own, fun rep e he => ?_, hi.exclusive⟩
  obtain ⟨d, hd, howner, hknown⟩ := hi.kept rep e he
  obtain ⟨hlive, -⟩ := hi.store.p2_tunnels rep e he
  rw [← howner] at hlive
  exact ⟨d, hd, hlive, hknown⟩

/-- What is known of an entry stays known while its own task stores nothing and none of its
streams leave. -/
theorem Known.mono {g g' : Ghost} {e : P2Entry} {d : Dial} (h : Known g e d)
    (houtcome : g'.outcomes e.task = g.outcomes e.task) (hout : Out g' e.task → Out g e.task)
    (hhanded : ∀ x ∈ g.handed, x ∈ g'.handed) : Known g' e d := by
  cases h with
  | connecting htunnel hkept =>
      rw [← houtcome] at htunnel
      exact .connecting htunnel fun h => hkept (hout h)
  | connected htunnel hstored hgiven =>
      rw [← houtcome] at hstored
      exact .connected htunnel hstored (hhanded _ hgiven)
  | failed htunnel hstored hkept =>
      rw [← houtcome] at hstored
      exact .failed htunnel hstored fun h => hkept (hout h)

/-- The streams of a task that stored nothing were not given out. -/
theorem not_out {s : Store.Sys} {g : Ghost} (hi : Inv (s, g)) {t : ℕ}
    (h : ∀ local_addr, g.outcomes t ≠ some (.ok local_addr)) : ¬ Out g t := by
  intro hout
  obtain ⟨y, hy, rfl⟩ := List.mem_map.mp hout
  obtain ⟨-, local_addr, -, -, houtcome⟩ := hi.own y hy
  exact h local_addr houtcome

/-- A task that is at its work has stored nothing. -/
theorem unstored {s : Store.Sys} {g : Ghost} (hi : Inv (s, g)) {t : ℕ}
    (h : ∀ task, s.tasks[t]? = some task → task = .running) : g.outcomes t = none := by
  by_contra hne
  obtain ⟨outcome, houtcome⟩ := Option.ne_none_iff_exists'.mp hne
  obtain ⟨task, htask, hnot⟩ := hi.stored t outcome houtcome
  exact hnot (h task htask)

/-! ## The books are kept -/

/-- A task is spawned. Its number is new, so its slot is empty and nobody else's. -/
theorem inv_spawned {s s' : Store.Sys} {g : Ghost} {rep number : ℕ} {remote : IpSocketAddress}
    {hostname : String} (hi : Inv (s, g)) (hstore : Store.Inv s')
    (hp2 : s'.p2_tunnels = Function.update s.p2_tunnels rep
      (some ⟨.Connecting remote false none, s.tasks.length, number⟩))
    (htasks : s'.tasks = s.tasks ++ [.running]) :
    Inv (s', { g with dials := g.dials ++ [⟨number, remote, hostname⟩] }) := by
  have hlen : g.dials.length = s.tasks.length := hi.spawned
  -- what was known of a dial is known of it still
  have hdials : ∀ {t : ℕ} {d : Dial}, g.dials[t]? = some d →
      (g.dials ++ [⟨number, remote, hostname⟩])[t]? = some d := by
    intro t d hd
    obtain ⟨hlt, -⟩ := List.getElem?_eq_some_iff.mp hd
    rwa [List.getElem?_append_left hlt]
  have hold : ∀ {r e}, s.p2_tunnels r = some e → e.task < s.tasks.length := by
    intro r e he
    obtain ⟨d, hd, -, -⟩ := hi.kept r e he
    obtain ⟨hlt, -⟩ := List.getElem?_eq_some_iff.mp hd
    rwa [← hlen]
  have hnew : g.outcomes s.tasks.length = none :=
    unstored hi fun task htask => absurd htask (by simp)
  refine ⟨hstore, ?_, fun t outcome h => ?_, fun r e he => ?_, fun r r' e e' he he' heq => ?_,
    fun y hy => ?_, hi.once⟩
  · rw [htasks, List.length_append, List.length_append, hlen]
    rfl
  · obtain ⟨task, htask, hnot⟩ := hi.stored t outcome h
    obtain ⟨hlt, -⟩ := List.getElem?_eq_some_iff.mp htask
    exact ⟨task, by rwa [htasks, List.getElem?_append_left hlt], hnot⟩
  · rw [hp2] at he
    rcases update_eq_some he with ⟨-, hnewentry⟩ | ⟨-, he⟩
    · rw [← Option.some.inj hnewentry]
      have hempty : P2Tunnel.Connecting remote false none
          = .Connecting remote false (g.outcomes s.tasks.length) := by rw [hnew]
      refine ⟨⟨number, remote, hostname⟩, ?_, rfl, .connecting hempty ?_⟩
      · show (g.dials ++ [_])[s.tasks.length]? = _
        rw [← hlen]
        exact List.getElem?_concat_length
      · refine not_out hi fun local_addr h => ?_
        rw [hnew] at h
        exact absurd h (by simp)
    · obtain ⟨d, hd, howner, hknown⟩ := hi.kept r e he
      exact ⟨d, hdials hd, howner, hknown.mono rfl id fun x hx => hx⟩
  · rw [hp2] at he he'
    rcases update_eq_some he with ⟨hr, hthis⟩ | ⟨-, hother⟩
    · rcases update_eq_some he' with ⟨hr', -⟩ | ⟨-, hother'⟩
      · rw [hr, hr']
      · have hlt := hold hother'
        rw [← Option.some.inj hthis] at heq
        exact absurd heq (Nat.ne_of_gt hlt)
    · rcases update_eq_some he' with ⟨-, hthis'⟩ | ⟨-, hother'⟩
      · have hlt := hold hother
        rw [← Option.some.inj hthis'] at heq
        exact absurd heq (Nat.ne_of_lt hlt)
      · exact hi.exclusive r r' e e' hother hother' heq
  · obtain ⟨d, local_addr, hd, hsocket, houtcome⟩ := hi.own y hy
    exact ⟨d, local_addr, hdials hd, hsocket, houtcome⟩

/-- A step that spawns no task and inserts no entry: an entry that is there was there, of the
same task and the same socket, and it is enough that it is right about its task again. -/
theorem inv_changed {s s' : Store.Sys} {g g' : Ghost} (hi : Inv (s, g)) (hstore : Store.Inv s')
    (hp2 : ∀ rep e', s'.p2_tunnels rep = some e' → ∃ e, s.p2_tunnels rep = some e ∧
      e'.task = e.task ∧ e'.owner = e.owner ∧ ∀ d, d.socket = e.owner → Known g e d →
        Known g' e' d)
    (hdials : g'.dials = g.dials) (htasks : s'.tasks.length = s.tasks.length)
    (hstored : ∀ t outcome, g'.outcomes t = some outcome →
      ∃ task, s'.tasks[t]? = some task ∧ task ≠ .running)
    (hown : ∀ y ∈ g'.handed, ∃ d local_addr, g.dials[y.task]? = some d ∧ d.socket = y.socket ∧
      g'.outcomes y.task = some (.ok local_addr))
    (honce : (g'.handed.map Handed.task).Nodup) : Inv (s', g') := by
  refine ⟨hstore, ?_, hstored, fun rep e' he' => ?_, fun rep rep' e e' he he' heq => ?_, ?_,
    honce⟩
  · show g'.dials.length = s'.tasks.length
    rw [hdials, htasks]
    exact hi.spawned
  · obtain ⟨e, he, htask, howner, hright⟩ := hp2 rep e' he'
    obtain ⟨d, hd, hsocket, hknown⟩ := hi.kept rep e he
    refine ⟨d, ?_, hsocket.trans howner.symm, hright d hsocket hknown⟩
    show g'.dials[e'.task]? = some d
    rw [hdials, htask]
    exact hd
  · obtain ⟨e₁, he₁, htask, -, -⟩ := hp2 rep e he
    obtain ⟨e₂, he₂, htask', -, -⟩ := hp2 rep' e' he'
    rw [htask, htask'] at heq
    exact hi.exclusive rep rep' e₁ e₂ he₁ he₂ heq
  · show ∀ y ∈ g'.handed, ∃ d local_addr, g'.dials[y.task]? = some d ∧ _
    rw [hdials]
    exact hown

/-- The tasks go on as before where nothing is stored and none is spawned. -/
theorem stored_same {s s' : Store.Sys} {g : Ghost} (hi : Inv (s, g))
    (htasks : s'.tasks = s.tasks) (t : ℕ) (outcome : Except ErrorCode (Option SocketAddr))
    (h : g.outcomes t = some outcome) : ∃ task, s'.tasks[t]? = some task ∧ task ≠ .running := by
  rw [htasks]
  exact hi.stored t outcome h

/-- `finish_connect` finds the streams. They leave through the socket of the dial, and for
the first time: the entry still had them. -/
theorem inv_taken {s s' : Store.Sys} {g : Ghost} {rep number : ℕ} {e : P2Entry}
    {remote : IpSocketAddress} {ready : Bool} {local_addr : Option SocketAddr}
    (hi : Inv (s, g)) (hstore : Store.Inv s') (hlive : s.table rep = some ⟨number, .TcpSocket⟩)
    (he : s.p2_tunnels rep = some e)
    (htunnel : e.tunnel = .Connecting remote ready (some (.ok local_addr)))
    (hp2 : s'.p2_tunnels = Function.update s.p2_tunnels rep
      (some { e with tunnel := .Connected remote local_addr ready }))
    (htasks : s'.tasks = s.tasks) :
    Inv (s', { g with handed := ⟨e.task, number⟩ :: g.handed }) := by
  -- the resource at the index is the one that inserted the entry
  have hnumber : e.owner = number := by
    obtain ⟨hsame, -⟩ := hi.store.p2_tunnels rep e he
    rw [hlive, Option.some.injEq, Live.mk.injEq] at hsame
    exact hsame.1.symm
  obtain ⟨d, hd, hsocket, hknown⟩ := hi.kept rep e he
  obtain ⟨hremote, hstored, hfirst⟩ : d.remote = remote ∧
      g.outcomes e.task = some (.ok local_addr) ∧ ¬ Out g e.task := by
    cases hknown with
    | connecting hconn hkept =>
        rw [htunnel, P2Tunnel.Connecting.injEq] at hconn
        exact ⟨hconn.1.symm, hconn.2.2.symm, hkept⟩
    | connected hconn => exact absurd (htunnel.symm.trans hconn) (by simp)
    | failed hconn => exact absurd (htunnel.symm.trans hconn) (by simp)
  refine inv_changed hi hstore (fun r e' he' => ?_) rfl (by rw [htasks])
    (stored_same (g := g) hi htasks) (fun y hy => ?_) (List.nodup_cons.mpr ⟨hfirst, hi.once⟩)
  · rw [hp2] at he'
    rcases update_eq_some he' with ⟨rfl, hnew⟩ | ⟨hne, hold⟩
    · rw [← Option.some.inj hnew]
      refine ⟨e, he, rfl, rfl, fun d' hsocket' hknown' => ?_⟩
      cases hknown' with
      | connecting hconn =>
          rw [htunnel, P2Tunnel.Connecting.injEq] at hconn
          have hshown : P2Tunnel.Connected remote local_addr ready
              = .Connected d'.remote local_addr ready := by rw [hconn.1]
          refine .connected hshown hstored ?_
          rw [hsocket', hnumber]
          exact List.mem_cons_self
      | connected hconn => exact absurd (htunnel.symm.trans hconn) (by simp)
      | failed hconn => exact absurd (htunnel.symm.trans hconn) (by simp)
    · -- another entry is that of another task
      have hother : e'.task ≠ e.task := fun heq => hne (hi.exclusive r rep e' e hold he heq)
      refine ⟨e', hold, rfl, rfl, fun d' _ hknown' => hknown'.mono rfl (fun hout => ?_)
        fun x hx => List.mem_cons_of_mem _ hx⟩
      exact (out_cons.mp hout).resolve_left hother
  · rcases List.mem_cons.mp hy with rfl | hold
    · exact ⟨d, local_addr, hd, hsocket.trans hnumber, hstored⟩
    · exact hi.own y hold

/-- `finish_connect` finds an error. -/
theorem inv_failed {s s' : Store.Sys} {g : Ghost} {rep : ℕ} {e : P2Entry}
    {remote : IpSocketAddress} {ready : Bool} {code : ErrorCode} (hi : Inv (s, g))
    (hstore : Store.Inv s') (he : s.p2_tunnels rep = some e)
    (htunnel : e.tunnel = .Connecting remote ready (some (.error code)))
    (hp2 : s'.p2_tunnels = Function.update s.p2_tunnels rep (some { e with tunnel := .Failed }))
    (htasks : s'.tasks = s.tasks) : Inv (s', g) := by
  refine inv_changed hi hstore (fun r e' he' => ?_) rfl (by rw [htasks])
    (stored_same hi htasks) hi.own hi.once
  rw [hp2] at he'
  rcases update_eq_some he' with ⟨rfl, hnew⟩ | ⟨-, hold⟩
  · rw [← Option.some.inj hnew]
    refine ⟨e, he, rfl, rfl, fun d _ hknown => ?_⟩
    cases hknown with
    | connecting hconn hkept =>
        rw [htunnel, P2Tunnel.Connecting.injEq] at hconn
        exact .failed rfl hconn.2.2.symm hkept
    | connected hconn => exact absurd (htunnel.symm.trans hconn) (by simp)
    | failed hconn => exact absurd (htunnel.symm.trans hconn) (by simp)
  · exact ⟨e', hold, rfl, rfl, fun d _ hknown => hknown⟩

/-- A task stores its outcome, in the slot of its own entry if that is still there. -/
theorem inv_stored {s s' : Store.Sys} {g : Ghost} {t : ℕ}
    {outcome : Except ErrorCode (Option SocketAddr)} (hi : Inv (s, g)) (hstore : Store.Inv s')
    (hrunning : s.tasks[t]? = some .running)
    (hp2 : ∀ rep e', s'.p2_tunnels rep = some e' → ∃ e, s.p2_tunnels rep = some e ∧
      e' = if e.task = t then
        { e with tunnel := HostSocket.store_outcome outcome e.tunnel } else e)
    (htasks : s'.tasks = s.tasks.set t .stored) :
    Inv (s', { g with outcomes := Function.update g.outcomes t (some outcome) }) := by
  have hnone : g.outcomes t = none := unstored hi fun task htask =>
    (Option.some.inj (hrunning.symm.trans htask)).symm
  obtain ⟨hlt, -⟩ := List.getElem?_eq_some_iff.mp hrunning
  refine inv_changed hi hstore (fun rep e' he' => ?_) rfl (by rw [htasks, List.length_set])
    (fun u o h => ?_) (fun y hy => ?_) hi.once
  · obtain ⟨e, he, rfl⟩ := hp2 rep e' he'
    by_cases htask : e.task = t
    · rw [if_pos htask]
      refine ⟨e, he, rfl, rfl, fun d _ hknown => ?_⟩
      -- the slot was empty, so the entry is still connecting
      cases hknown with
      | @connecting ready hconn hkept =>
          have hslot : HostSocket.store_outcome outcome e.tunnel = .Connecting d.remote ready
              (Function.update g.outcomes t (some outcome) e.task) := by
            rw [hconn, HostSocket.store_outcome, htask, Function.update_self]
          exact .connecting hslot hkept
      | connected _ hstored =>
          rw [htask, hnone] at hstored
          exact absurd hstored (by simp)
      | failed _ hstored =>
          rw [htask, hnone] at hstored
          exact absurd hstored (by simp)
    · rw [if_neg htask]
      exact ⟨e, he, rfl, rfl, fun d _ hknown =>
        hknown.mono (Function.update_of_ne htask _ _) id fun x hx => hx⟩
  · rw [htasks]
    by_cases hu : u = t
    · exact ⟨.stored, by rw [hu, List.getElem?_set_self hlt], by simp⟩
    · replace h : Function.update g.outcomes t (some outcome) u = some o := h
      rw [Function.update_of_ne hu] at h
      rw [List.getElem?_set_ne (Ne.symm hu)]
      exact hi.stored u o h
  · obtain ⟨d, local_addr, hd, hsocket, houtcome⟩ := hi.own y hy
    refine ⟨d, local_addr, hd, hsocket, ?_⟩
    have hne : y.task ≠ t := by
      rintro heq
      rw [heq] at houtcome
      exact absurd (hnone.symm.trans houtcome) (by simp)
    exact (Function.update_of_ne hne _ _).trans houtcome

/-- A task signals its watch. No entry reads it for what it says of the task. -/
theorem inv_signalled {s s' : Store.Sys} {g : Ghost} {t : ℕ} (hi : Inv (s, g))
    (hstore : Store.Inv s') (hstored : s.tasks[t]? = some .stored)
    (hp2 : ∀ rep e', s'.p2_tunnels rep = some e' → ∃ e, s.p2_tunnels rep = some e ∧
      e' = if e.task = t then { e with tunnel := HostSocket.signal_ready e.tunnel } else e)
    (htasks : s'.tasks = s.tasks.set t .done) : Inv (s', g) := by
  obtain ⟨hlt, -⟩ := List.getElem?_eq_some_iff.mp hstored
  refine inv_changed hi hstore (fun rep e' he' => ?_) rfl (by rw [htasks, List.length_set])
    (fun u o h => ?_) hi.own hi.once
  · obtain ⟨e, he, rfl⟩ := hp2 rep e' he'
    by_cases htask : e.task = t
    · rw [if_pos htask]
      refine ⟨e, he, rfl, rfl, fun d _ hknown => ?_⟩
      cases hknown with
      | connecting hconn hkept =>
          have hready : HostSocket.signal_ready e.tunnel
              = .Connecting d.remote true (g.outcomes e.task) := by
            rw [hconn, HostSocket.signal_ready]
          exact .connecting hready hkept
      | @connected local_addr _ hconn hstored hgiven =>
          have hready : HostSocket.signal_ready e.tunnel
              = .Connected d.remote local_addr true := by
            rw [hconn, HostSocket.signal_ready]
          exact .connected hready hstored hgiven
      | failed hconn hstored hkept =>
          refine .failed ?_ hstored hkept
          rw [hconn, HostSocket.signal_ready]
    · rw [if_neg htask]
      exact ⟨e, he, rfl, rfl, fun d _ hknown => hknown⟩
  · rw [htasks]
    by_cases hu : u = t
    · exact ⟨.done, by rw [hu, List.getElem?_set_self hlt], by simp⟩
    · rw [List.getElem?_set_ne (Ne.symm hu)]
      exact hi.stored u o h

/-! ## The contract over runs -/

/-- The steps, each by its own lemma. -/
theorem inv_step {x x' : Store.Sys × Ghost} {a : Act} (hi : Inv x) (h : step x a = some x') :
    Inv x' := by
  obtain ⟨s, g⟩ := x
  obtain ⟨s', hstep, rfl⟩ := Lts.monitored_eq_some.mp h
  have hstore := Store.inv_step hi.store hstep
  cases moves_of_step hstep with
  | spawned hlive hp2 htasks hobserve =>
      rw [hobserve]
      exact inv_spawned hi hstore hp2 htasks
  | taken hlive he htunnel hp2 htasks hobserve =>
      rw [hobserve]
      exact inv_taken hi hstore hlive he htunnel hp2 htasks
  | failed he htunnel hp2 htasks hobserve =>
      rw [hobserve]
      exact inv_failed hi hstore he htunnel hp2 htasks
  | stored hrunning hp2 htasks hobserve =>
      rw [hobserve]
      exact inv_stored hi hstore hrunning hp2 htasks
  | signalled hstored hp2 htasks hobserve =>
      rw [hobserve]
      exact inv_signalled hi hstore hstored hp2 htasks
  | kept hp2 htasks hobserve =>
      rw [hobserve]
      exact inv_changed hi hstore (fun rep e he => ⟨e, hp2 rep e he, rfl, rfl, fun _ _ h => h⟩)
        rfl (by rw [htasks]) (stored_same hi htasks) hi.own hi.once

/-- **The parts stay with their dial.** For every sequence of calls of both generations on
one store, every interleaving of the handshake tasks, every reuse of free indices and every
outcome of what is delegated: the streams a handshake task made are given out at most once,
only through the socket whose `start_connect` spawned the task, and only after its handshake
succeeded; and an entry is always right about its own task. -/
theorem parts_stay_with_their_dial (random : Fin 8 → UInt8) (acts : List Act) :
    Lts.Always step (fun x => Custody x.1 x.2) (.init random, .init) acts :=
  Lts.always_of_invariant (inv_init random) inv_step custody_of_inv

/-- A socket is dropped while its task is at work and its index is dialed again: what the
first task stores is for nobody, and the second socket gets the second task's streams. -/
example : ∃ x, Lts.run step (.init fun _ => 0, .init)
    [.create 3, .resolve (fun _ => 0) ("a" ++ SUFFIX) (.ok [.Ipv4 fun _ => 1]),
      .start_connect 3 (.Ipv6 443 0 (fun i => if i = 0 then 0xfd00 else 0) 0)
        ⟨.ok (), .Unconnected⟩,
      .drop 3 true, .create 3,
      .start_connect 3 (.Ipv6 443 0 (fun i => if i = 0 then 0xfd00 else 0) 0)
        ⟨.ok (), .Unconnected⟩,
      .store_outcome 0 (.ok none), .finish_connect 3 ⟨.ok (), .Unconnected⟩,
      .store_outcome 1 (.ok none), .finish_connect 3 ⟨.ok (), .Unconnected⟩] = some x ∧
    x.2.handed = [⟨1, 1⟩] ∧ x.2.dials.map Dial.socket = [0, 1] :=
  ⟨_, rfl, rfl, rfl⟩

end PolymorphTls.Parts

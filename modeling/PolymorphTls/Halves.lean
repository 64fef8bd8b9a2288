/-
Where the halves of a tunnel go (`VirtSockets` in `tls-virt-wasmtime/src/main.rs`).

A 0.3 `connect` to a handle splits its TLS stream (`tokio::io::split`) and leaves the halves
in the tunnel's entry; `send` takes the write half and pipes the guest's stream into it, and
`receive` takes the read half. So who gets a half decides whose plaintext enters which TLS
connection. In between lie three awaits, an index that names the socket, a table that
reuses indices, and entries that a second connect replaces.

A monitor beside the store keeps what the code itself does not: a number for every TLS
stream that was established, with the socket, the handle and the name it was established
for, and every half that was handed out, with the socket that got it. In every run
(`halves_stay_with_their_dial`):

* a half is handed out at most once, and only through the socket whose own `connect`
  established the stream;
* the peer was verified under the name that the handle was bound to when it was dialed;
* a half that was not handed out is still in the entry, as long as the entry is there.
-/
import PolymorphTls.Store

set_option autoImplicit false

namespace PolymorphTls.Halves

open Store
open HostSocket (Call Tunnel)

/-! ## The monitor -/

/-- The two halves of a TLS stream. -/
inductive Half where
  | read
  | write
  deriving DecidableEq

/-- A `connect` to a handle: the socket, the address and the name it stands for. -/
structure Dial where
  socket : ℕ
  remote : IpSocketAddress
  hostname : String
  deriving DecidableEq

/-- A half that was handed out: of which stream, and through which socket. -/
structure Handed where
  half : Half
  stream : ℕ
  socket : ℕ
  deriving DecidableEq

/-- What the monitor keeps. None of it is in the code, which knows a stream only by the
index its entry is under. -/
structure Ghost where
  /-- What was dialed, with the name the table had for the handle then. -/
  dials : List Dial
  /-- The server name each call took to its handshake. -/
  verified : ℕ → Option String
  /-- The TLS streams by number: whose call established them, as what. -/
  streams : List Dial
  /-- The stream whose halves the entry at an index was made of. -/
  entry : ℕ → Option ℕ
  handed : List Handed

def Ghost.init : Ghost := ⟨[], fun _ => none, [], fun _ => none, []⟩

/-- A half leaves the entry at `rep` through the socket there. -/
def Ghost.hand (g : Ghost) (s : Store.Sys) (rep : ℕ) (half : Half)
    (served : Served (Except ErrorCode Unit)) : Ghost :=
  match served, g.entry rep, s.table rep with
  | .answered (.ok ()), some stream, some live =>
      { g with handed := ⟨half, stream, live.number⟩ :: g.handed }
  | _, _, _ => g

/-- What the monitor notes of a step, from the state before it and the answer of the
call. -/
def observe (s : Store.Sys) (a : Act) (_ : Store.Sys) (g : Ghost) : Ghost :=
  match a with
  | .connect rep remote =>
      match s.table rep, lookup_handle s.virt.names remote with
      | some live, some (hostname, _) =>
          { g with dials := ⟨live.number, remote, hostname⟩ :: g.dials }
      | _, _ => g
  | .dialed i _ _ =>
      match (s.calls[i]?).map Pending.call with
      | some (.dialing _ hostname _) =>
          { g with verified := Function.update g.verified i (some hostname) }
      | _ => g
  | .handshaken i (.ok ()) =>
      match s.calls[i]?, g.verified i with
      | some ⟨rep, owner, .handshaking remote _⟩, some hostname =>
          { g with
            streams := g.streams ++ [⟨owner, remote, hostname⟩]
            entry := Function.update g.entry rep (some g.streams.length) }
      | _, _ => g
  | .send rep => g.hand s rep .write (send (s.socketAt rep)).1
  | .receive rep => g.hand s rep .read (receive (s.socketAt rep)).1
  | .drop rep _ => { g with entry := Function.update g.entry rep none }
  | _ => g

/-- The store with its monitor. -/
abbrev step : Store.Sys × Ghost → Act → Option (Store.Sys × Ghost) :=
  Lts.monitored Store.step observe

/-- The half is in the tunnel's entry. -/
def holds (t : Tunnel) : Half → Bool
  | .read => t.read
  | .write => t.write

/-- The half of the stream was handed out. -/
def Out (g : Ghost) (half : Half) (stream : ℕ) : Prop :=
  (half, stream) ∈ g.handed.map fun x => (x.half, x.stream)

/-- **The custody of the halves.** -/
structure Custody (s : Store.Sys) (g : Ghost) : Prop where
  /-- No half is handed out twice. -/
  once : (g.handed.map fun x => (x.half, x.stream)).Nodup
  /-- A half goes only to the socket that dialed, and its stream speaks to the name it
  dialed. -/
  own : ∀ x ∈ g.handed, ∃ d, g.streams[x.stream]? = some d ∧ d.socket = x.socket ∧ d ∈ g.dials
  /-- An entry is made of one stream of its own socket, and still holds what was not handed
  out. -/
  kept : ∀ rep e, s.tunnels rep = some e → ∃ stream d, g.entry rep = some stream ∧
    g.streams[stream]? = some d ∧ d ∈ g.dials ∧ d.remote = e.tunnel.remote ∧
    s.table rep = some ⟨d.socket, .TcpSocket⟩ ∧
    ∀ half, holds e.tunnel half = true ↔ ¬ Out g half stream
  /-- No two sockets share a stream. -/
  exclusive : ∀ rep rep' stream, g.entry rep = some stream → g.entry rep' = some stream →
    rep = rep'

/-! ## The calls -/

/-- What a call knows of its dial. -/
def Named (g : Ghost) (i owner : ℕ) : Call → Prop
  | .checking remote hostname _ | .dialing remote hostname _ => ⟨owner, remote, hostname⟩ ∈ g.dials
  | .handshaking remote _ =>
      ∃ hostname, g.verified i = some hostname ∧ ⟨owner, remote, hostname⟩ ∈ g.dials
  | .idle | .delegated | .returned _ | .dropped => True

theorem Named.mono {g g' : Ghost} {i owner : ℕ} {call : Call} (h : Named g i owner call)
    (hdials : ∀ d ∈ g.dials, d ∈ g'.dials) (hverified : g'.verified i = g.verified i) :
    Named g' i owner call := by
  cases call with
  | checking remote hostname addr => exact hdials _ h
  | dialing remote hostname addr => exact hdials _ h
  | handshaking remote local_addr =>
      obtain ⟨hostname, hname, hdial⟩ := h
      exact ⟨hostname, hverified.trans hname, hdials _ hdial⟩
  | _ => trivial

/-- A step of a suspended `connect`: the call moves on, and the last one inserts the entry
under the index the call was made with. -/
inductive Moves (s : Store.Sys) (i : ℕ) (p : Pending) : Act → Store.Sys → Prop where
  | checked {j : ℕ} {allowed : Bool} {remote : IpSocketAddress} {hostname : String}
      {addr : SocketAddr} {call : Call} (hcall : p.call = .checking remote hostname addr)
      (hnext : call = .dialing remote hostname addr ∨ ∃ result, call = .returned result) :
      Moves s i p (.checked j allowed) { s with calls := s.calls.set i { p with call } }
  | dialed {j : ℕ} {validName : Bool} {result : Except ErrorCode (Option SocketAddr)}
      {remote : IpSocketAddress} {hostname : String} {addr : SocketAddr} {call : Call}
      (hcall : p.call = .dialing remote hostname addr)
      (hnext : (∃ local_addr, call = .handshaking remote local_addr) ∨
        ∃ result, call = .returned result) :
      Moves s i p (.dialed j validName result) { s with calls := s.calls.set i { p with call } }
  | established {j : ℕ} {remote : IpSocketAddress} {local_addr : Option SocketAddr}
      (hcall : p.call = .handshaking remote local_addr) :
      Moves s i p (.handshaken j (.ok ()))
        { s with
          calls := s.calls.set i { p with call := .returned (.ok ()) }
          tunnels := Function.update s.tunnels p.rep
            (some ⟨⟨remote, local_addr, true, true⟩, p.owner⟩) }
  | refused {j : ℕ} {message : String} {result : Except ErrorCode Unit} :
      Moves s i p (.handshaken j (.error message))
        { s with calls := s.calls.set i { p with call := .returned result } }
  | returns {j : ℕ} {result : Except ErrorCode Unit} :
      Moves s i p (.returns j result)
        { s with calls := s.calls.set i { p with call := .returned result } }
  | cancel {j : ℕ} :
      Moves s i p (.cancel j) { s with calls := s.calls.set i { p with call := .dropped } }

/-- **Inversion.** Only `handshaken` with a connection inserts anything. -/
theorem moves_of_stepCall {s s' : Store.Sys} {i : ℕ} {p : Pending} {a : Act}
    (h : stepCall s i p a = some s') : Moves s i p a s' := by
  cases a with
  | checked _ allowed =>
      cases hcall : p.call with
      | checking remote hostname addr =>
          simp only [stepCall, hcall, Option.some.injEq] at h
          rw [← h]
          refine .checked hcall ?_
          unfold HostSocket.connect_checked
          split
          · exact .inl rfl
          · exact .inr ⟨_, rfl⟩
      | _ => simp [stepCall, hcall] at h
  | dialed _ validName result =>
      cases hcall : p.call with
      | dialing remote hostname addr =>
          simp only [stepCall, hcall, Option.some.injEq] at h
          rw [← h]
          refine .dialed hcall ?_
          unfold HostSocket.connect_dialed
          split
          · exact .inr ⟨_, rfl⟩
          · split
            · exact .inl ⟨_, rfl⟩
            · exact .inr ⟨_, rfl⟩
      | _ => simp [stepCall, hcall] at h
  | handshaken _ result =>
      cases hcall : p.call with
      | handshaking remote local_addr =>
          cases result with
          | ok u =>
              simp only [stepCall, hcall, HostSocket.connect_handshaken, HostSocket.answer,
                Option.some.injEq] at h
              rw [← h]
              exact .established hcall
          | error message =>
              simp only [stepCall, hcall, HostSocket.connect_handshaken, HostSocket.answer,
                Option.some.injEq] at h
              rw [← h]
              exact .refused
      | _ => simp [stepCall, hcall] at h
  | returns _ result =>
      cases hcall : p.call with
      | delegated =>
          simp only [stepCall, hcall, Option.some.injEq] at h
          rw [← h]
          exact .returns
      | _ => simp [stepCall, hcall] at h
  | cancel _ =>
      cases hout : p.outstanding with
      | true =>
          simp only [stepCall, hout, if_true, Option.some.injEq] at h
          rw [← h]
          exact .cancel
      | false => simp [stepCall, hout] at h
  | _ => simp [stepCall] at h

/-- What has nothing to do with the tunnels of 0.3. -/
def Apart : Act → Prop
  | .create _ | .push _ | .resolve _ _ _ | .lookup _ _ _ | .next _ _ _ | .start_connect _ _ _
  | .finish_connect _ _ | .store_outcome _ _ | .signal_ready _ => True
  | _ => False

/-- A step of the other generation leaves the tunnels and the calls of this one. -/
theorem step_apart {s s' : Store.Sys} {a : Act} (ha : Apart a) (h : Store.step s a = some s') :
    s'.tunnels = s.tunnels ∧ s'.calls = s.calls := by
  cases a with
  | create rep =>
      by_cases hfree : s.table rep = none
      · simp only [Store.step, if_pos hfree, Option.some.injEq] at h
        rw [← h]
        exact ⟨rfl, rfl⟩
      · simp [Store.step, hfree] at h
  | push rep =>
      by_cases hfree : s.table rep = none
      · simp only [Store.step, if_pos hfree, Option.some.injEq] at h
        rw [← h]
        exact ⟨rfl, rfl⟩
      · simp [Store.step, hfree] at h
  | resolve suffix name host =>
      simp only [Store.step, Option.some.injEq] at h
      rw [← h]
      exact ⟨rfl, rfl⟩
  | lookup rep name host =>
      simp only [Store.step] at h
      split at h
      · split at h
        all_goals
          rw [Option.some.injEq] at h
          rw [← h]
          exact ⟨rfl, rfl⟩
      · exact absurd h (by simp)
  | next rep suffix delegated =>
      simp only [Store.step] at h
      split at h
      · obtain ⟨r, -, rfl⟩ := Option.map_eq_some_iff.mp h
        exact ⟨rfl, rfl⟩
      · exact absurd h (by simp)
  | start_connect rep remote host =>
      have hdial : ∀ number, (s.dial number remote).tunnels = s.tunnels ∧
          (s.dial number remote).calls = s.calls := by
        intro number
        unfold Sys.dial
        split <;> exact ⟨rfl, rfl⟩
      simp only [Store.step, Act.socket] at h
      split at h
      · simp only [stepSocket] at h
        split at h
        all_goals
          rw [Option.some.injEq] at h
          rw [← h]
          exact hdial _
      · exact absurd h (by simp)
  | finish_connect rep host =>
      simp only [Store.step, Act.socket] at h
      split at h
      · simp only [stepSocket, Option.some.injEq] at h
        rw [← h]
        exact ⟨rfl, rfl⟩
      · exact absurd h (by simp)
  | store_outcome t outcome =>
      simp only [Store.step, stepTask] at h
      split at h
      · rw [Option.some.injEq] at h
        rw [← h]
        exact ⟨rfl, rfl⟩
      · exact absurd h (by simp)
  | signal_ready t =>
      simp only [Store.step, stepTask] at h
      split at h
      · rw [Option.some.injEq] at h
        rw [← h]
        exact ⟨rfl, rfl⟩
      · exact absurd h (by simp)
  | _ => exact ha.elim

/-! ## The books -/

/-- The books of the monitor by themselves. They speak of no state of the store, so a step
that changes only the store keeps them. -/
structure Books (g : Ghost) : Prop where
  streams : ∀ d ∈ g.streams, d ∈ g.dials
  numbered : ∀ rep stream, g.entry rep = some stream → stream < g.streams.length
  exclusive : ∀ rep rep' stream, g.entry rep = some stream → g.entry rep' = some stream →
    rep = rep'
  handed : ∀ x ∈ g.handed, ∃ d, g.streams[x.stream]? = some d ∧ d.socket = x.socket
  once : (g.handed.map fun x => (x.half, x.stream)).Nodup

/-- What the monitor knows of an entry. -/
def Known (g : Ghost) (rep : ℕ) (e : P3Entry) : Prop :=
  ∃ stream d, g.entry rep = some stream ∧ g.streams[stream]? = some d ∧
    d.remote = e.tunnel.remote ∧ d.socket = e.owner ∧
    ∀ half, holds e.tunnel half = true ↔ ¬ Out g half stream

/-- The store's own invariant, what suspended calls know of their dials, what entries are
known for, and the books. -/
structure Inv (x : Store.Sys × Ghost) : Prop where
  store : Store.Inv x.1
  calls : ∀ i p, x.1.calls[i]? = some p → Named x.2 i p.owner p.call
  known : ∀ rep e, x.1.tunnels rep = some e → Known x.2 rep e
  books : Books x.2

/-- Nothing was dialed. -/
theorem books_init : Books .init where
  streams _ h := absurd h List.not_mem_nil
  numbered _ _ h := absurd h (by simp [Ghost.init])
  exclusive _ _ _ h := absurd h (by simp [Ghost.init])
  handed _ h := absurd h List.not_mem_nil
  once := List.nodup_nil

theorem inv_init (random : Fin 8 → UInt8) : Inv (.init random, .init) where
  store := Store.inv_init random
  calls i p h := absurd h (by simp [Sys.init])
  known rep e h := absurd h (by simp [Sys.init])
  books := books_init

/-- The contract: the store says whose the entry is, the books whose the stream. -/
theorem custody_of_inv {s : Store.Sys} {g : Ghost} (hi : Inv (s, g)) : Custody s g := by
  refine ⟨hi.books.once, fun x hx => ?_, fun rep e he => ?_, hi.books.exclusive⟩
  · obtain ⟨d, hd, hsocket⟩ := hi.books.handed x hx
    exact ⟨d, hd, hsocket, hi.books.streams d (List.mem_of_getElem? hd)⟩
  · obtain ⟨stream, d, hentry, hd, hremote, howner, hhalves⟩ := hi.known rep e he
    obtain ⟨hlive, -⟩ := hi.store.tunnels rep e he
    rw [← howner] at hlive
    exact ⟨stream, d, hentry, hd, hi.books.streams d (List.mem_of_getElem? hd), hremote, hlive,
      hhalves⟩

/-- The calls after one of them has moved on. -/
theorem calls_set {s : Store.Sys} {g g' : Ghost} {i : ℕ} {p : Pending} {call : Call}
    (hcalls : ∀ j q, s.calls[j]? = some q → Named g j q.owner q.call)
    (hdials : ∀ d ∈ g.dials, d ∈ g'.dials)
    (hverified : ∀ j, j ≠ i → g'.verified j = g.verified j)
    (hcall : Named g' i p.owner call) (j : ℕ) (q : Pending)
    (hq : (s.calls.set i { p with call })[j]? = some q) : Named g' j q.owner q.call := by
  by_cases hj : j = i
  · subst hj
    rw [List.getElem?_set_self'] at hq
    obtain ⟨-, -, rfl⟩ := Option.map_eq_some_iff.mp hq
    exact hcall
  · rw [List.getElem?_set_ne (Ne.symm hj)] at hq
    exact (hcalls j q hq).mono hdials (hverified j hj)

/-- Entries that stay as they are, with a monitor that has learned nothing about them. -/
theorem known_of_same {g g' : Ghost} {rep : ℕ} {e : P3Entry} (h : Known g rep e)
    (hentry : g'.entry rep = g.entry rep) (hstreams : g.streams <+: g'.streams)
    (hhanded : g'.handed = g.handed) : Known g' rep e := by
  obtain ⟨stream, d, h1, h2, h3, h4, h5⟩ := h
  refine ⟨stream, d, hentry.trans h1, ?_, h3, h4, fun half => ?_⟩
  · obtain ⟨rest, hrest⟩ := hstreams
    obtain ⟨hlt, -⟩ := List.getElem?_eq_some_iff.mp h2
    rw [← hrest, List.getElem?_append_left hlt]
    exact h2
  · rw [h5 half, Out, Out, hhanded]

/-! ## The steps -/

/-- A step whose monitor only learns a dial. -/
theorem inv_same {s s' : Store.Sys} {g : Ghost} (hi : Inv (s, g)) (hstore : Store.Inv s')
    (htunnels : s'.tunnels = s.tunnels)
    (hcalls : ∀ j q, s'.calls[j]? = some q → Named g j q.owner q.call) : Inv (s', g) :=
  ⟨hstore, hcalls, fun rep e he => hi.known rep e (htunnels ▸ he), hi.books⟩

/-- A dial more. -/
theorem books_dialed {g : Ghost} (hb : Books g) (dials : List Dial)
    (verified : ℕ → Option String) (hdials : ∀ d ∈ g.dials, d ∈ dials) :
    Books { g with dials, verified } :=
  ⟨fun d hd => hdials d (hb.streams d hd), hb.numbered, hb.exclusive, hb.handed, hb.once⟩

/-- A stream is established. Its number is new. -/
theorem books_established {g : Ghost} (hb : Books g) (rep : ℕ) {d : Dial} (hd : d ∈ g.dials) :
    Books { g with
      streams := g.streams ++ [d]
      entry := Function.update g.entry rep (some g.streams.length) } := by
  have hsplit : ∀ r stream,
      Function.update g.entry rep (some g.streams.length) r = some stream →
      r = rep ∧ stream = g.streams.length ∨ r ≠ rep ∧ g.entry r = some stream := by
    intro r stream h
    rcases update_eq_some h with ⟨hr, hnew⟩ | hold
    · exact .inl ⟨hr, (Option.some.inj hnew).symm⟩
    · exact .inr hold
  refine ⟨fun d' hd' => ?_, fun r stream h => ?_, fun r r' stream h h' => ?_, fun x hx => ?_,
    hb.once⟩
  · rcases List.mem_append.mp hd' with hold | hnew
    · exact hb.streams d' hold
    · rw [List.mem_singleton.mp hnew]
      exact hd
  · show stream < (g.streams ++ [d]).length
    rw [List.length_append, List.length_singleton]
    rcases hsplit r stream h with ⟨-, rfl⟩ | ⟨-, hold⟩
    · omega
    · have hlt := hb.numbered r stream hold
      omega
  · rcases hsplit r stream h with ⟨hr, hlen⟩ | ⟨-, hold⟩
    · rcases hsplit r' stream h' with ⟨hr', -⟩ | ⟨-, hold'⟩
      · rw [hr, hr']
      · have hlt := hb.numbered r' stream hold'
        omega
    · rcases hsplit r' stream h' with ⟨-, hlen⟩ | ⟨-, hold'⟩
      · have hlt := hb.numbered r stream hold
        omega
      · exact hb.exclusive r r' stream hold hold'
  · obtain ⟨d', hd', hsocket⟩ := hb.handed x hx
    obtain ⟨hlt, -⟩ := List.getElem?_eq_some_iff.mp hd'
    exact ⟨d', by rwa [List.getElem?_append_left hlt], hsocket⟩

/-- An index is cleared. -/
theorem books_cleared {g : Ghost} (hb : Books g) (rep : ℕ) :
    Books { g with entry := Function.update g.entry rep none } := by
  have hold : ∀ {r stream}, Function.update g.entry rep none r = some stream →
      g.entry r = some stream := by
    intro r stream h
    rcases update_eq_some h with ⟨-, hnew⟩ | ⟨-, hold⟩
    · exact absurd hnew (by simp)
    · exact hold
  exact ⟨hb.streams, fun r stream h => hb.numbered r stream (hold h),
    fun r r' stream h h' => hb.exclusive r r' stream (hold h) (hold h'), hb.handed, hb.once⟩

/-- The tunnel without the half. -/
def taken (t : Tunnel) : Half → Tunnel
  | .read => { t with read := false }
  | .write => { t with write := false }

/-- Taking one half leaves the other. -/
theorem holds_taken (t : Tunnel) (half half' : Half) :
    holds (taken t half) half' = true ↔ holds t half' = true ∧ half' ≠ half := by
  cases half <;> cases half' <;> simp [holds, taken]

/-- A half is handed out for the first time. -/
theorem books_handed {g : Ghost} (hb : Books g) {half : Half} {stream : ℕ} {d : Dial}
    (hd : g.streams[stream]? = some d) (hnot : ¬ Out g half stream) :
    Books { g with handed := ⟨half, stream, d.socket⟩ :: g.handed } := by
  refine ⟨hb.streams, hb.numbered, hb.exclusive, fun x hx => ?_, ?_⟩
  · rcases List.mem_cons.mp hx with rfl | hold
    · exact ⟨d, hd, rfl⟩
    · exact hb.handed x hold
  · show ((half, stream) :: g.handed.map fun x => (x.half, x.stream)).Nodup
    exact List.nodup_cons.mpr ⟨hnot, hb.once⟩

/-- One half more is out. -/
theorem out_cons {g : Ghost} {half half' : Half} {stream stream' socket : ℕ} :
    Out { g with handed := ⟨half, stream, socket⟩ :: g.handed } half' stream' ↔
      half' = half ∧ stream' = stream ∨ Out g half' stream' := by
  unfold Out
  rw [List.map_cons, List.mem_cons, Prod.mk.injEq]

/-- **A half is taken.** The entry loses it, and the monitor sees it leave if it was there. -/
theorem inv_taken {s s' : Store.Sys} {g : Ghost} {rep number : ℕ} {e : P3Entry} (half : Half)
    (hi : Inv (s, g)) (hstore : Store.Inv s') (hcalls : s'.calls = s.calls)
    (hlive : s.table rep = some ⟨number, .TcpSocket⟩) (he : s.tunnels rep = some e)
    (htunnels : s'.tunnels =
      Function.update s.tunnels rep (some { e with tunnel := taken e.tunnel half })) :
    Inv (s', g.hand s rep half
      (.answered (if holds e.tunnel half then .ok () else .error .InvalidState))) := by
  obtain ⟨stream, d, hentry, hd, hremote, howner, hhalves⟩ := hi.known rep e he
  replace hentry : g.entry rep = some stream := hentry
  -- the socket the half leaves through is the one whose call inserted the entry
  have hsocket : d.socket = number := by
    obtain ⟨hsame, -⟩ := hi.store.tunnels rep e he
    rw [hlive, Option.some.injEq, Live.mk.injEq] at hsame
    exact howner.trans hsame.1.symm
  have hsplit : ∀ {r e'}, s'.tunnels r = some e' →
      r = rep ∧ e' = { e with tunnel := taken e.tunnel half } ∨
        r ≠ rep ∧ s.tunnels r = some e' := by
    intro r e' h
    rw [htunnels] at h
    rcases update_eq_some h with ⟨hr, hnew⟩ | hold
    · exact .inl ⟨hr, (Option.some.inj hnew).symm⟩
    · exact .inr hold
  by_cases hhas : holds e.tunnel half = true
  · have hg : g.hand s rep half
        (.answered (if holds e.tunnel half then .ok () else .error .InvalidState))
        = { g with handed := ⟨half, stream, d.socket⟩ :: g.handed } := by
      rw [if_pos hhas, hsocket]
      simp only [Ghost.hand, hentry, hlive]
    rw [hg]
    refine ⟨hstore, fun j q hq => ?_, fun r e' he' => ?_,
      books_handed hi.books hd ((hhalves half).mp hhas)⟩
    · exact (hi.calls j q (by rwa [← hcalls])).mono (fun d hd => hd) rfl
    · rcases hsplit he' with ⟨rfl, rfl⟩ | ⟨hr, hold⟩
      · refine ⟨stream, d, hentry, hd, ?_, howner, fun half' => ?_⟩
        · rw [hremote]
          cases half <;> rfl
        · rw [holds_taken, hhalves half', out_cons]
          simp only [and_true, not_or]
          exact And.comm
      · -- another entry is made of another stream
        obtain ⟨stream', d', hentry', hd', hremote', howner', hhalves'⟩ := hi.known r e' hold
        refine ⟨stream', d', hentry', hd', hremote', howner', fun half' => ?_⟩
        have hne : stream' ≠ stream := by
          rintro rfl
          exact hr (hi.books.exclusive r rep stream' hentry' hentry)
        rw [hhalves' half', out_cons]
        simp only [hne, and_false, false_or]
  · have hg : g.hand s rep half
        (.answered (if holds e.tunnel half then .ok () else .error .InvalidState)) = g := by
      rw [if_neg hhas]
      rfl
    rw [hg]
    refine ⟨hstore, fun j q hq => hi.calls j q (by rwa [← hcalls]), fun r e' he' => ?_, hi.books⟩
    rcases hsplit he' with ⟨rfl, rfl⟩ | ⟨hr, hold⟩
    · refine ⟨stream, d, hentry, hd, ?_, howner, fun half' => ?_⟩
      · rw [hremote]
        cases half <;> rfl
      · rw [holds_taken, hhalves half']
        constructor
        · exact fun h => h.1
        · intro hnot
          refine ⟨hnot, ?_⟩
          rintro rfl
          exact hhas ((hhalves half').mpr hnot)
    · exact hi.known r e' hold

/-- The call that takes a half. -/
def serve (socket : HostSocket.Socket) :
    Half → Served (Except ErrorCode Unit) × HostSocket.Socket
  | .read => receive socket
  | .write => send socket

/-- Without an entry the call is wasmtime-wasi's. -/
theorem serve_none {socket : HostSocket.Socket} (h : socket.tunnel = none) (half : Half) :
    (serve socket half).1 = .delegated := by
  cases half <;> simp [serve, send, receive, h]

/-- With one it takes the half, and says whether it was there. -/
theorem serve_some {socket : HostSocket.Socket} {t : Tunnel} (h : socket.tunnel = some t)
    (half : Half) : serve socket half =
      (.answered (if holds t half then .ok () else .error .InvalidState),
        { socket with tunnel := some (taken t half) }) := by
  cases half with
  | read =>
      rw [serve, receive, h]
      rfl
  | write =>
      rw [serve, send, h]
      rfl

/-- `send` and `receive`. -/
theorem inv_serve {s s' : Store.Sys} {g : Ghost} {rep number : ℕ} (half : Half)
    (hi : Inv (s, g)) (hstore : Store.Inv s') (hcalls : s'.calls = s.calls)
    (hlive : s.table rep = some ⟨number, .TcpSocket⟩)
    (htunnels : s'.tunnels = Function.update s.tunnels rep
      ((s.tunnels rep).map (P3Entry.after · (serve (s.socketAt rep) half).2))) :
    Inv (s', g.hand s rep half (serve (s.socketAt rep) half).1) := by
  rcases Option.eq_none_or_eq_some (s.tunnels rep) with hnone | ⟨e, he⟩
  · have hsocket : (s.socketAt rep).tunnel = none := by
      rw [Sys.socketAt, hnone]
      rfl
    rw [serve_none hsocket]
    refine inv_same hi hstore ?_ fun j q hq => hi.calls j q (hcalls ▸ hq)
    rw [htunnels, hnone, Option.map_none, ← hnone, Function.update_eq_self]
  · have hsocket : (s.socketAt rep).tunnel = some e.tunnel := by
      rw [Sys.socketAt, he]
      rfl
    rw [serve_some hsocket]
    refine inv_taken half hi hstore hcalls hlive he ?_
    rw [htunnels, he, serve_some hsocket]
    rfl

/-- A `connect` is called. The dial is noted with the name the handle stands for. -/
theorem inv_connect {s s' : Store.Sys} {g : Ghost} {rep number : ℕ} {remote : IpSocketAddress}
    (hi : Inv (s, g)) (hstore : Store.Inv s')
    (hlive : s.table rep = some ⟨number, .TcpSocket⟩)
    (h : stepSocket s rep number (.connect rep remote) = some s') :
    Inv (s', observe s (.connect rep remote) s' g) := by
  simp only [stepSocket, Option.some.injEq] at h
  have htunnels : s'.tunnels = s.tunnels := by
    rw [← h]
    unfold Sys.dial
    split <;> rfl
  have hcalls : s'.calls = s.calls ++ [⟨rep, number,
      (HostSocket.connect s.virt.names (s.socketAt rep) remote .Unconnected).1⟩] := by
    rw [← h]
  -- the new call knows its dial, the old ones still know theirs
  have hnamed : ∀ g' : Ghost, (∀ d ∈ g.dials, d ∈ g'.dials) → g'.verified = g.verified →
      Named g' s.calls.length number
        (HostSocket.connect s.virt.names (s.socketAt rep) remote .Unconnected).1 →
      ∀ j q, s'.calls[j]? = some q → Named g' j q.owner q.call := by
    intro g' hdials hverified hnew j q hq
    rw [hcalls] at hq
    by_cases hj : j < s.calls.length
    · rw [List.getElem?_append_left hj] at hq
      exact (hi.calls j q hq).mono hdials (by rw [hverified])
    · rw [List.getElem?_append_right (by omega), List.getElem?_singleton] at hq
      split at hq
      · have hlast : j = s.calls.length := by omega
        rw [← Option.some.inj hq, hlast]
        exact hnew
      · exact absurd hq (by simp)
  have hknown : ∀ dials rep e, s'.tunnels rep = some e →
      Known { g with dials } rep e := fun dials rep e he =>
    known_of_same (hi.known rep e (htunnels ▸ he)) rfl (List.prefix_refl _) rfl
  cases hlookup : lookup_handle s.virt.names remote with
  | none =>
      have hobserve : observe s (.connect rep remote) s' g = g := by
        simp only [observe, hlive, hlookup]
      rw [hobserve]
      refine inv_same hi hstore htunnels (hnamed g (fun d hd => hd) rfl ?_)
      rw [HostSocket.connect, hlookup]
      trivial
  | some entry =>
      obtain ⟨hostname, addrs, port⟩ := entry
      have hobserve : observe s (.connect rep remote) s' g
          = { g with dials := ⟨number, remote, hostname⟩ :: g.dials } := by
        simp only [observe, hlive, hlookup]
      rw [hobserve]
      refine ⟨hstore, hnamed _ (fun d hd => List.mem_cons_of_mem _ hd) rfl ?_, hknown _,
        books_dialed hi.books _ g.verified fun d hd => List.mem_cons_of_mem _ hd⟩
      rw [HostSocket.connect, hlookup]
      dsimp only
      split
      · trivial
      · exact List.mem_cons_self

/-- A suspended `connect` moves on. -/
theorem inv_moves {s s' : Store.Sys} {g : Ghost} {i : ℕ} {p : Pending} {a : Act}
    (hi : Inv (s, g)) (hstore : Store.Inv s') (hp : s.calls[i]? = some p)
    (ha : ∀ j, (∃ validName result, a = .dialed j validName result) ∨
      (∃ result, a = .handshaken j result) → j = i)
    (h : Moves s i p a s') : Inv (s', observe s a s' g) := by
  have hcall := hi.calls i p hp
  cases h with
  | @checked j allowed remote hostname addr call hchecking hnext =>
      refine inv_same hi hstore rfl (calls_set hi.calls (fun d hd => hd) (fun _ _ => rfl) ?_)
      rw [hchecking] at hcall
      rcases hnext with rfl | ⟨result, rfl⟩
      · exact hcall
      · trivial
  | @dialed j validName result remote hostname addr call hdialing hnext =>
      -- the monitor notes the server name; no entry and no stream is touched
      obtain rfl := ha j (.inl ⟨_, _, rfl⟩)
      have hobserve : observe s (.dialed j validName result)
          { s with calls := s.calls.set j { p with call } } g
          = { g with verified := Function.update g.verified j (some hostname) } := by
        simp only [observe, hp, Option.map_some, hdialing]
      rw [hobserve]
      rw [hdialing] at hcall
      refine ⟨hstore, calls_set hi.calls (fun d hd => hd)
        (fun k hk => Function.update_of_ne hk _ _) ?_, fun rep e he => ?_, ?_⟩
      · rcases hnext with ⟨local_addr, rfl⟩ | ⟨result, rfl⟩
        · exact ⟨hostname, Function.update_self _ _ _, hcall⟩
        · trivial
      · exact known_of_same (hi.known rep e he) rfl (List.prefix_refl _) rfl
      · exact books_dialed hi.books g.dials _ fun d hd => hd
  | @established j remote local_addr hhandshaking =>
      obtain rfl := ha j (.inr ⟨_, rfl⟩)
      rw [hhandshaking] at hcall
      obtain ⟨hostname, hverified, hdial⟩ := hcall
      replace hverified : g.verified j = some hostname := hverified
      have hobserve : ∀ t, observe s (.handshaken j (.ok ())) t g =
          { g with
            streams := g.streams ++ [⟨p.owner, remote, hostname⟩]
            entry := Function.update g.entry p.rep (some g.streams.length) } := by
        intro t
        obtain ⟨rep, owner, call⟩ := p
        replace hhandshaking : call = .handshaking remote local_addr := hhandshaking
        subst hhandshaking
        simp only [observe, hp, hverified]
      rw [hobserve]
      have hbooks := books_established hi.books p.rep hdial
      -- whatever entry was at the index, possibly of an earlier connect, is gone
      refine ⟨hstore, calls_set hi.calls (fun d hd => hd) (fun _ _ => rfl) trivial,
        fun rep e he => ?_, hbooks⟩
      rcases update_eq_some he with ⟨rfl, hnew⟩ | ⟨hne, hold⟩
      · -- the new entry has both halves of a stream nobody has heard of
        rw [← Option.some.inj hnew]
        refine ⟨g.streams.length, ⟨p.owner, remote, hostname⟩, Function.update_self _ _ _,
          List.getElem?_concat_length, rfl, rfl, fun half => ?_⟩
        have hunheard : ¬ Out g half g.streams.length := by
          intro hout
          obtain ⟨x, hx, heq⟩ := List.mem_map.mp hout
          obtain ⟨d, hd, -⟩ := hi.books.handed x hx
          obtain ⟨hlt, -⟩ := List.getElem?_eq_some_iff.mp hd
          rw [Prod.mk.injEq] at heq
          have hlen : x.stream < g.streams.length := hlt
          omega
        have hholds : holds ⟨remote, local_addr, true, true⟩ half = true := by cases half <;> rfl
        exact ⟨fun _ => hunheard, fun _ => hholds⟩
      · exact known_of_same (hi.known rep e hold) (Function.update_of_ne hne _ _)
          (List.prefix_append _ _) rfl
  | refused =>
      exact inv_same hi hstore rfl
        (calls_set hi.calls (fun d hd => hd) (fun _ _ => rfl) trivial)
  | returns =>
      exact inv_same hi hstore rfl
        (calls_set hi.calls (fun d hd => hd) (fun _ _ => rfl) trivial)
  | cancel =>
      exact inv_same hi hstore rfl
        (calls_set hi.calls (fun d hd => hd) (fun _ _ => rfl) trivial)

/-- A resource is dropped. -/
theorem inv_drop {s s' : Store.Sys} {g : Ghost} {rep : ℕ} {ok : Bool} (hi : Inv (s, g))
    (h : Store.step s (.drop rep ok) = some s') :
    Inv (s', { g with entry := Function.update g.entry rep none }) := by
  have hstore := Store.inv_step hi.store h
  obtain ⟨hcalls, hself, hother⟩ : s'.calls = s.calls ∧ s'.tunnels rep = none ∧
      ∀ r, r ≠ rep → s'.tunnels r = s.tunnels r := by
    cases hlive : s.table rep with
    | none => simp [Store.step, hlive] at h
    | some live =>
        obtain ⟨hnone, -, -⟩ := forget_keys hi.store hlive
        have hframe : (s.forget rep live.kind).calls = s.calls ∧
            ∀ r, r ≠ rep → (s.forget rep live.kind).tunnels r = s.tunnels r := by
          cases live.kind with
          | TcpSocket => exact ⟨rfl, fun r hr => Function.update_of_ne hr _ _⟩
          | _ => exact ⟨rfl, fun r hr => rfl⟩
        simp only [Store.step, hlive] at h
        split at h
        · exact absurd h (by simp)
        · split at h
          all_goals
            rw [Option.some.injEq] at h
            rw [← h]
            exact ⟨hframe.1, hnone, hframe.2⟩
  refine ⟨hstore, fun j q hq => ?_, fun r e he => ?_, books_cleared hi.books rep⟩
  · exact (hi.calls j q (hcalls ▸ hq)).mono (fun d hd => hd) rfl
  · have hne : r ≠ rep := by
      rintro rfl
      exact absurd (he.symm.trans hself) (by simp)
    exact known_of_same (hi.known r e ((hother r hne).symm.trans he))
      (Function.update_of_ne hne _ _) (List.prefix_refl _) rfl

/-! ## The contract -/

/-- The steps, each by its own lemma; those of the other generation concern no half. -/
theorem inv_step {x x' : Store.Sys × Ghost} {a : Act} (hi : Inv x) (h : step x a = some x') :
    Inv x' := by
  obtain ⟨s, g⟩ := x
  obtain ⟨s', hstep, rfl⟩ := Lts.monitored_eq_some.mp h
  have hstore := Store.inv_step hi.store hstep
  have hapart : Apart a → Inv (s', g) := by
    intro ha
    obtain ⟨htunnels, hcalls⟩ := step_apart ha hstep
    exact inv_same hi hstore htunnels fun j q hq => hi.calls j q (hcalls ▸ hq)
  cases a with
  | connect rep remote =>
      simp only [Store.step, Act.socket] at hstep
      split at hstep
      · exact inv_connect hi hstore ‹_› hstep
      · exact absurd hstep (by simp)
  | send rep =>
      simp only [Store.step, Act.socket] at hstep
      split at hstep
      case h_1 number hlive =>
          simp only [stepSocket, Option.some.injEq] at hstep
          subst hstep
          exact inv_serve .write hi hstore rfl hlive rfl
      case h_2 => exact absurd hstep (by simp)
  | receive rep =>
      simp only [Store.step, Act.socket] at hstep
      split at hstep
      case h_1 number hlive =>
          simp only [stepSocket, Option.some.injEq] at hstep
          subst hstep
          exact inv_serve .read hi hstore rfl hlive rfl
      case h_2 => exact absurd hstep (by simp)
  | drop rep ok => exact inv_drop hi hstep
  | checked i _ | dialed i _ _ | handshaken i _ | returns i _ | cancel i =>
      obtain ⟨p, hp, hcall⟩ := Option.bind_eq_some_iff.mp hstep
      refine inv_moves hi hstore hp ?_ (moves_of_stepCall hcall)
      rintro j (⟨_, _, heq⟩ | ⟨_, heq⟩) <;> cases heq <;> rfl
  | _ => exact hapart trivial

/-- **The halves stay with their dial.** For every sequence of calls of both generations on
one store, every interleaving of the suspended connects, every reuse of free indices and
every outcome of what is delegated: a half of a TLS stream is handed out at most once, only
through the socket whose own `connect` dialed it, and the stream's peer was verified under
the name the dialed handle stood for; what was not handed out is still in the entry. -/
theorem halves_stay_with_their_dial (random : Fin 8 → UInt8) (acts : List Act) :
    Lts.Always step (fun x => Custody x.1 x.2) (.init random, .init) acts :=
  Lts.always_of_invariant (inv_init random) inv_step custody_of_inv

/-- Two `send`s on one tunnel: the first one gets the half. -/
example : ∃ x, Lts.run step (.init fun _ => 0, .init)
    [.create 3, .resolve (fun _ => 0) ("a" ++ SUFFIX) (.ok [.Ipv4 fun _ => 1]),
      .connect 3 (.Ipv6 443 0 (fun i => if i = 0 then 0xfd00 else 0) 0), .checked 0 true,
      .dialed 0 true (.ok none), .handshaken 0 (.ok ()), .send 3, .send 3] = some x ∧
    x.2.handed = [⟨.write, 0, 0⟩] ∧ x.2.streams.map Dial.hostname = ["a"] :=
  ⟨_, rfl, rfl, rfl⟩

end PolymorphTls.Halves

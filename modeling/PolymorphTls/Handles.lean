/-
Handle addresses bind names to destinations.

A resolution stores a hostname and its addresses under a random suffix and gives the guest
an IPv6 address; a later connect to that address finds them again. In between the handle
goes from octets to eight segments, through the guest, back to octets and to a 64-bit key.
The first section says that nothing is lost on the way. From it, minting changes the table
at one address only (`lookup_mint`), and so along every history of resolutions, through any
front end and with any random bytes, the table answers with the latest resolution that was
given that address (`inv_step`).

What a connect does with the answer is said by the calls it makes to the outside, await by
await: which address the policy is asked about and the transport dials, which name the
handshake verifies, and which address is handed to the underlying implementation. Two of
the three front ends also refuse: the guest component an ordinary address once the socket
has left its pass-through state, and 0.2 a handle on a socket that is a tunnel already.
-/
import PolymorphTls.GuestSocket
import PolymorphTls.HostSocket
import PolymorphTls.Resolve

set_option autoImplicit false

namespace PolymorphTls.Handles

/-! ## The conversions are lossless -/

theorem high_octet (a b : UInt8) : ((a.toUInt16 * 256 + b.toUInt16) / 256).toUInt8 = a := by
  have ha := a.toNat_lt
  have hb := b.toNat_lt
  rw [← UInt8.toNat_inj]
  simp only [UInt16.toNat_toUInt8, UInt16.toNat_div, UInt16.toNat_add, UInt16.toNat_mul,
    UInt8.toNat_toUInt16, UInt16.reduceToNat]
  omega

theorem low_octet (a b : UInt8) : (a.toUInt16 * 256 + b.toUInt16).toUInt8 = b := by
  have ha := a.toNat_lt
  have hb := b.toNat_lt
  rw [← UInt8.toNat_inj]
  simp only [UInt16.toNat_toUInt8, UInt16.toNat_add, UInt16.toNat_mul, UInt8.toNat_toUInt16,
    UInt16.reduceToNat]
  omega

theorem segment_of_octets (s : UInt16) :
    (s / 256).toUInt8.toUInt16 * 256 + s.toUInt8.toUInt16 = s := by
  have hs := s.toNat_lt
  rw [← UInt16.toNat_inj]
  simp only [UInt16.toUInt16_toUInt8, UInt16.toNat_add, UInt16.toNat_mul, UInt16.toNat_mod,
    UInt16.toNat_div, UInt16.reduceToNat]
  omega

/-- An address put together from its own segments is that address: the way out of an address
and back in loses nothing. -/
theorem new_segments (a : Ipv6Addr) : Ipv6Addr.new a.segments = a := by
  obtain ⟨octets⟩ := a
  rw [Ipv6Addr.new, Ipv6Addr.mk.injEq]
  funext j
  simp only [Ipv6Addr.segments]
  by_cases hj : j.val % 2 = 0
  · rw [if_pos hj, high_octet]
    congr 1
    apply Fin.ext
    show 2 * (j.val / 2) = j.val
    omega
  · rw [if_neg hj, low_octet]
    congr 1
    apply Fin.ext
    show 2 * (j.val / 2) + 1 = j.val
    omega

/-- And so is the way in and back out. -/
theorem segments_new (s : Fin 8 → UInt16) : (Ipv6Addr.new s).segments = s := by
  funext i
  have heven : (⟨2 * i.val / 2, by omega⟩ : Fin 8) = i := by
    apply Fin.ext
    show 2 * i.val / 2 = i.val
    omega
  have hodd : (⟨(2 * i.val + 1) / 2, by omega⟩ : Fin 8) = i := by
    apply Fin.ext
    show (2 * i.val + 1) / 2 = i.val
    omega
  simp only [Ipv6Addr.segments, Ipv6Addr.new]
  rw [if_pos (by omega), if_neg (by omega), heven, hodd, segment_of_octets]

/-- The fold of `from_be_bytes` over any list of bytes. -/
def beValue (bytes : List UInt8) : UInt64 :=
  bytes.foldl (fun acc b => acc * 256 + b.toUInt64) 0

/-- The fold over a list that is extended is a shift and an addition; injectivity is by
induction from the right, on this. -/
theorem beValue_append (bytes : List UInt8) (b : UInt8) :
    beValue (bytes ++ [b]) = beValue bytes * 256 + b.toUInt64 := by
  rw [beValue, List.foldl_append]
  rfl

/-- Up to eight bytes the fold does not wrap around. -/
theorem beValue_lt (bytes : List UInt8) (h : bytes.length ≤ 8) :
    (beValue bytes).toNat < 256 ^ bytes.length := by
  induction bytes using List.reverseRecOn with
  | nil => decide
  | append_singleton bytes b ih =>
      rw [List.length_append, List.length_singleton] at h ⊢
      have hlt := ih (by omega)
      have hb := b.toNat_lt
      have hpow : 256 ^ bytes.length ≤ 256 ^ 7 := Nat.pow_le_pow_right (by omega) (by omega)
      rw [beValue_append, Nat.pow_succ]
      simp only [UInt64.toNat_add, UInt64.toNat_mul, UInt64.reduceToNat, UInt8.toNat_toUInt64]
      omega

/-- So lists of the same length, up to eight bytes, are told apart by their value. -/
theorem beValue_inj {bytes bytes' : List UInt8} (h : bytes.length ≤ 8)
    (hlen : bytes.length = bytes'.length) (heq : beValue bytes = beValue bytes') :
    bytes = bytes' := by
  -- from the right: the last byte is the remainder, the others the quotient
  induction bytes using List.reverseRecOn generalizing bytes' with
  | nil => exact (List.length_eq_zero_iff.mp hlen.symm).symm
  | append_singleton bytes b ih =>
      rcases List.eq_nil_or_concat bytes' with rfl | ⟨rest, c, rfl⟩
      · exact absurd hlen (by simp)
      · simp only [List.concat_eq_append, List.length_append, List.length_singleton]
          at h hlen heq ⊢
        have hl := beValue_lt bytes (by omega)
        have hr := beValue_lt rest (by omega)
        have hpl : 256 ^ bytes.length ≤ 256 ^ 7 := Nat.pow_le_pow_right (by omega) (by omega)
        have hpr : 256 ^ rest.length ≤ 256 ^ 7 := Nat.pow_le_pow_right (by omega) (by omega)
        have hb := b.toNat_lt
        have hc := c.toNat_lt
        rw [beValue_append, beValue_append, ← UInt64.toNat_inj] at heq
        simp only [UInt64.toNat_add, UInt64.toNat_mul, UInt64.reduceToNat,
          UInt8.toNat_toUInt64] at heq
        have hquot : (beValue bytes).toNat = (beValue rest).toNat := by omega
        have hrem : b.toNat = c.toNat := by omega
        rw [ih (by omega) (by omega) (UInt64.toNat_inj.mp hquot), UInt8.toNat_inj.mp hrem]

theorem from_be_bytes_injective : Function.Injective from_be_bytes := by
  intro bytes bytes' h
  have hlist : List.ofFn bytes = List.ofFn bytes' :=
    beValue_inj (by rw [List.length_ofFn]) (by rw [List.length_ofFn, List.length_ofFn]) h
  exact List.ofFn_injective hlist

/-! ## Minting changes the table at one address -/

/-- The octets that select the table. -/
def high (a : Ipv6Addr) (i : Fin 8) : UInt8 := a.octets (Fin.castAdd 8 i)

/-- The octets that select the entry. -/
def low (a : Ipv6Addr) (i : Fin 8) : UInt8 := a.octets (Fin.addNat i 8)

/-- Both halves of an address determine it. -/
theorem eq_of_halves {a b : Ipv6Addr} (hhigh : high a = high b) (hlow : low a = low b) :
    a = b := by
  obtain ⟨a⟩ := a
  obtain ⟨b⟩ := b
  rw [Ipv6Addr.mk.injEq]
  funext j
  by_cases hj : j.val < 8
  · exact congrFun hhigh ⟨j, hj⟩
  · have h := congrFun hlow ⟨j.val - 8, by omega⟩
    have hidx : Fin.addNat (⟨j.val - 8, by omega⟩ : Fin 8) 8 = j := by
      apply Fin.ext
      rw [Fin.val_addNat]
      show j.val - 8 + 8 = j.val
      omega
    unfold low at h
    rw [hidx] at h
    exact h

/-- A minted handle starts with the table's prefix. -/
theorem high_mint (t : HandleTable) (suffix : Fin 8 → UInt8) (entry : Entry) :
    high (t.mint suffix entry).1 = t.pfx := by
  funext i
  simp only [high, HandleTable.mint]
  exact dif_pos i.isLt

/-- And ends with its suffix, which is its key. -/
theorem low_mint (t : HandleTable) (suffix : Fin 8 → UInt8) (entry : Entry) :
    low (t.mint suffix entry).1 = suffix := by
  funext i
  have hidx : ¬ (Fin.addNat i 8).val < 8 := by
    rw [Fin.val_addNat]
    omega
  simp only [low, HandleTable.mint]
  rw [dif_neg hidx]
  congr 1

/-- What a lookup does, in terms of the halves. -/
theorem lookup_eq (t : HandleTable) (addr : Ipv6Addr) :
    t.lookup addr = if high addr = t.pfx then t.entries (from_be_bytes (low addr)) else none := by
  unfold HandleTable.lookup
  rw [ite_not]
  rfl

/-- **Minting binds one address.** It answers with the new entry, and every other address
as before, whatever suffixes were given out. -/
theorem lookup_mint (t : HandleTable) (suffix : Fin 8 → UInt8) (entry : Entry)
    (addr : Ipv6Addr) :
    (t.mint suffix entry).2.lookup addr
      = if addr = (t.mint suffix entry).1 then some entry else t.lookup addr := by
  have hhigh := high_mint t suffix entry
  have hlow := low_mint t suffix entry
  have hentries : (t.mint suffix entry).2.entries
      = Function.update t.entries (from_be_bytes suffix) (some entry) := rfl
  have hpfx : (t.mint suffix entry).2.pfx = t.pfx := rfl
  rw [lookup_eq, lookup_eq, hpfx, hentries]
  by_cases heq : addr = (t.mint suffix entry).1
  · rw [if_pos heq, heq, if_pos hhigh, hlow, Function.update_self]
  · rw [if_neg heq]
    by_cases hp : high addr = t.pfx
    · -- the same table, so another suffix, so another key
      have hne : from_be_bytes (low addr) ≠ from_be_bytes suffix := by
        intro hkey
        apply heq
        apply eq_of_halves (hp.trans hhigh.symm)
        exact (from_be_bytes_injective hkey).trans hlow.symm
      rw [if_pos hp, if_pos hp, Function.update_of_ne hne]
    · rw [if_neg hp, if_neg hp]

/-! ## The table answers with the latest resolution -/

open Resolve (Sys Act Next noted asList addresses)

/-- The resolution an address was given out for last. The history is newest first, and a
suffix that comes up again shadows the entry it had. -/
def boundTo (minted : List (IpAddress × Entry)) (addr : IpAddress) : Option Entry :=
  (minted.find? fun m => m.1 = addr).map Prod.snd

/-- What a step does to the table and the handles given out. -/
inductive Mints (names : HandleTable) : HandleTable → List (IpAddress × Entry) → Prop where
  | none : Mints names names []
  | one {suffix : Fin 8 → UInt8} {entry : Entry} (hne : entry.addrs ≠ []) :
      Mints names (names.mint suffix entry).2
        [(handle_to_ip (names.mint suffix entry).1, entry)]

/-- The table answers each address with the resolution it was given out for last, and others
with nothing. -/
structure Inv (s : Sys) : Prop where
  resolves : Resolve.Inv s
  lookup : ∀ segments,
    s.virt.names.lookup (.new segments) = boundTo s.minted (.Ipv6 segments)
  handles : ∀ m ∈ s.minted, ∃ segments, m.1 = .Ipv6 segments
  nonempty : ∀ m ∈ s.minted, m.2.addrs ≠ []

/-- A new table answers nothing. -/
theorem inv_init (random : Fin 8 → UInt8) : Inv (.init random) := by
  refine ⟨Resolve.inv_init random, fun segments => ?_, fun m hm => ?_, fun m hm => ?_⟩
  · rw [lookup_eq]
    exact ite_self _
  · exact absurd hm List.not_mem_nil
  · exact absurd hm List.not_mem_nil

/-- One more address given out. -/
theorem boundTo_cons (m : IpAddress × Entry) (minted : List (IpAddress × Entry))
    (addr : IpAddress) :
    boundTo (m :: minted) addr = if m.1 = addr then some m.2 else boundTo minted addr := by
  unfold boundTo
  by_cases h : m.1 = addr
  · rw [List.find?_cons_of_pos (by simp [h]), if_pos h]
    rfl
  · rw [List.find?_cons_of_neg (by simp [h]), if_neg h]

/-- The step of the table, over whatever front end it came through. -/
theorem inv_mints {s s' : Sys} {new : List (IpAddress × Entry)} (hi : Inv s)
    (hresolves : Resolve.Inv s') (hm : Mints s.virt.names s'.virt.names new)
    (hminted : s'.minted = new ++ s.minted) : Inv s' := by
  generalize hnames : s'.virt.names = names at hm
  cases hm with
  | none =>
      rw [List.nil_append] at hminted
      refine ⟨hresolves, fun segments => ?_, ?_, ?_⟩
      · rw [hnames, hminted]
        exact hi.lookup segments
      · rw [hminted]
        exact hi.handles
      · rw [hminted]
        exact hi.nonempty
  | @one suffix entry hne =>
      rw [List.singleton_append] at hminted
      refine ⟨hresolves, fun segments => ?_, fun m hm => ?_, fun m hm => ?_⟩
      · have hiff : handle_to_ip (s.virt.names.mint suffix entry).1 = .Ipv6 segments
            ↔ Ipv6Addr.new segments = (s.virt.names.mint suffix entry).1 := by
          rw [handle_to_ip, IpAddress.Ipv6.injEq]
          constructor
          · rintro rfl
            exact new_segments _
          · intro h
            rw [← h]
            exact segments_new segments
        rw [hnames, hminted, lookup_mint, boundTo_cons, hi.lookup segments]
        simp only [hiff]
      · rw [hminted, List.mem_cons] at hm
        rcases hm with rfl | hm
        · exact ⟨_, rfl⟩
        · exact hi.handles m hm
      · rw [hminted, List.mem_cons] at hm
        rcases hm with rfl | hm
        · exact hne
        · exact hi.nonempty m hm

/-- A lookup through the guest component or 0.3. -/
theorem mints_resolve_addresses (names : HandleTable) (suffix : Fin 8 → UInt8) (name : String)
    (host : Except ErrorCode (List IpAddress)) :
    Mints names (Resolve.resolve_addresses names suffix name fun _ => host).2
      (noted name (match host with | .ok addrs => addrs | .error _ => [])
        (Resolve.resolve_addresses names suffix name fun _ => host).1) := by
  unfold Resolve.resolve_addresses noted
  cases hname : strip_suffix name with
  | none =>
      cases host with
      | error e => exact .none
      | ok addrs => exact .none
  | some real =>
      cases host with
      | error e => exact .none
      | ok addrs =>
          by_cases hnil : addrs = []
          · simp only [if_pos hnil]
            exact .none
          · simp only [if_neg hnil]
            exact .one (by simpa using hnil)

/-- A result without an address gives out no handle. -/
theorem noted_of_not_handed {result : Next} (name : String) (addrs : List IpAddress)
    (h : Resolve.handed result = none) : noted name addrs (asList result) = [] := by
  rcases result with e | next
  · rfl
  · rcases next with _ | addr
    · unfold asList noted
      rcases strip_suffix name with _ | real
      · rfl
      · rfl
    · exact absurd h (by simp [Resolve.handed])

/-- A call on a 0.2 stream. -/
theorem mints_next {s : Sys} {rep : ℕ} {log : Resolve.Log} {suffix : Fin 8 → UInt8}
    {delegated : List Next} {result : Next} {virt : Resolve.Virt} (hi : Resolve.Inv s)
    (hlog : s.streams rep = some log)
    (h : Resolve.resolve_next_address s.virt rep suffix delegated = some (result, virt)) :
    Mints s.virt.names virt.names
      (noted log.name (addresses (log.delegated ++ delegated)) (asList result)) := by
  cases hi.tracks rep log hlog with
  | plain hname hstate =>
      obtain ⟨-, rfl⟩ := Resolve.resolve_next_address_plain hstate h
      have hnil : noted log.name (addresses (log.delegated ++ delegated)) (asList result) = [] := by
        cases result with
        | error e => rfl
        | ok next => simp only [noted, asList, Except.map, hname]
      rw [hnil]
      exact .none
  | draining hname hstate hend hending hresults =>
      have hloop := Resolve.resolve_next_address_wrapped hstate h
      cases Resolve.nextLoop_draining hstate hloop with
      | interrupted hnot hvisible =>
          have hhanded : Resolve.handed result = none := by
            have hnone : [result].filterMap Resolve.handed = [] := by
              rw [← hvisible]
              rcases Resolve.handed_visible none delegated with h | h
              · exact h
              · exact h
            rw [List.filterMap_eq_nil_iff] at hnone
            exact hnone result (List.mem_singleton_self result)
          rw [noted_of_not_handed _ _ hhanded]
          exact .none
      | ended hhas hvisible hyields =>
          rw [← List.map_append, ← Resolve.addresses_append hend] at hyields
          cases hyields with
          | unresolvable hnil =>
              rw [noted_of_not_handed _ _ rfl]
              exact .none
          | handle hne =>
              simp only [noted, asList, Except.map, hname]
              exact .one hne
  | yielded hname hstate hend hending hagrees hresults =>
      obtain ⟨next, -, rfl, rfl⟩ :=
        Resolve.nextLoop_yielded hstate (Resolve.resolve_next_address_wrapped hstate h)
      have hhanded : Resolve.handed (next.map fun _ => none) = none := by
        cases next <;> rfl
      rw [noted_of_not_handed _ _ hhanded]
      exact .none

/-- A step of a front end mints at most one handle, and notes it. -/
theorem inv_step {s s' : Sys} {a : Act} (hi : Inv s) (h : Resolve.step s a = some s') :
    Inv s' := by
  have hresolves := Resolve.inv_step hi.resolves h
  cases Resolve.trans_of_step h with
  | resolve => exact inv_mints hi hresolves (mints_resolve_addresses _ _ _ _) rfl
  | refused => exact hi
  | opensPlain hfree hname => exact inv_mints hi hresolves .none rfl
  | opensWrapped hfree hname => exact inv_mints hi hresolves .none rfl
  | next hlog hcall => exact inv_mints hi hresolves (mints_next hi.resolves hlog hcall) rfl
  | drop hlog => exact inv_mints hi hresolves .none rfl

/-! ## What a connect asks for -/

/-- A call a connect makes to the outside. The results below are about the list of these, so
an address that is passed on *unchanged* is one that appears in the list as it was
dialed. -/
inductive Ask where
  /-- The underlying implementation's connect, on the guest's own socket. -/
  | delegate (remote : IpSocketAddress)
  /-- The address check of the host. -/
  | check (addr : SocketAddr)
  /-- `TcpStream::connect`. -/
  | dial (addr : SocketAddr)
  /-- The connect of the guest component's real socket. -/
  | connect (remote : IpSocketAddress)
  /-- The TLS handshake, with the name it verifies. -/
  | handshake (server_name : String)
  deriving DecidableEq

/-- What the outside answers. -/
structure World where
  /-- The address policy of the host. -/
  allowed : SocketAddr → Bool
  /-- `TcpStream::connect`, with the local address. -/
  dialed : SocketAddr → Except ErrorCode (Option SocketAddr)
  /-- Whether `ServerName::try_from` accepts the name. -/
  valid_name : String → Bool
  handshaken : String → Except String Unit
  /-- `host::TcpSocket::create` and `connect`, under the guest component. -/
  created : Except ErrorCode Unit
  connected : IpSocketAddress → Except ErrorCode Unit

/-- The address of a socket address, in the terms of a resolution. -/
def address : IpSocketAddress → IpAddress
  | .Ipv4 _ octets => .Ipv4 octets
  | .Ipv6 _ _ segments _ => .Ipv6 segments

/-- The port of a socket address. -/
def port : IpSocketAddress → UInt16
  | .Ipv4 port _ => port
  | .Ipv6 port _ _ _ => port

/-- The calls of the guest component's `connect`, await by await. -/
def guestAsks (W : World) (table : HandleTable) (state : GuestSocket.TcpState)
    (remote : IpSocketAddress) : List Ask :=
  match (GuestSocket.connect table state remote W.created).1 with
  | .passThrough _ remote => [.delegate remote]
  | .dialing remote hostname real_addr =>
      let real := sockaddr_from_std real_addr
      .connect real ::
        match GuestSocket.connect_dialed 0 remote hostname (W.connected real) with
        | .handshaking _ hostname _ => [.handshake hostname]
        | _ => []
  | _ => []

/-- The calls of 0.3's `connect`, await by await. -/
def p3Asks (W : World) (names : HandleTable) (s : HostSocket.Socket)
    (remote : IpSocketAddress) : List Ask :=
  match (HostSocket.connect names s remote s.underlying).1 with
  | .delegated => [.delegate remote]
  | .checking remote hostname addr =>
      .check addr ::
        match HostSocket.connect_checked remote hostname addr (W.allowed addr) with
        | .dialing remote hostname addr =>
            .dial addr ::
              match HostSocket.connect_dialed remote (W.valid_name hostname) (W.dialed addr) with
              | .handshaking _ _ => [.handshake hostname]
              | _ => []
        | _ => []
  | _ => []

/-- The task 0.2's `start_connect` spawns: its calls and its outcome. Each call is made only
if those before it succeeded. -/
def handshake_task (W : World) (hostname : String) (addr : SocketAddr) :
    List Ask × Except ErrorCode (Option SocketAddr) :=
  if W.allowed addr then
    match W.dialed addr with
    | .error e => ([.check addr, .dial addr], .error e)
    | .ok local_addr =>
        if W.valid_name hostname then
          match W.handshaken hostname with
          | .error _ =>
              ([.check addr, .dial addr, .handshake hostname], .error .ConnectionReset)
          | .ok () => ([.check addr, .dial addr, .handshake hostname], .ok local_addr)
        else ([.check addr, .dial addr], .error .InvalidArgument)
  else ([.check addr], .error .AccessDenied)

/-- The lookup of `start_connect`, which reads the address of the converted `SocketAddr`. -/
def p2Entry (names : HandleTable) (remote : IpSocketAddress) : Option (String × List IpAddr) :=
  match ip_to_std (address remote) with
  | .V6 v6 => (names.lookup v6).map fun e => (e.hostname, e.addrs)
  | .V4 _ => none

/-- The calls of 0.2's `start_connect` and of the task it spawns. -/
def p2Asks (W : World) (names : HandleTable) (s : HostSocket.Socket)
    (remote : IpSocketAddress) : List Ask :=
  match p2Entry names remote with
  | none => [.delegate remote]
  | some (hostname, addrs) =>
      if s.p2_tunnel.isSome then []
      else
        match pick_addr addrs (port remote) with
        | none => []
        | some addr => (handshake_task W hostname addr).1

/-- The lookup of `start_connect` is `lookup_handle`. -/
theorem lookup_handle_eq (names : HandleTable) (remote : IpSocketAddress) :
    lookup_handle names remote
      = (p2Entry names remote).map fun e => (e.1, e.2, port remote) := by
  cases remote with
  | Ipv4 port octets => rfl
  | Ipv6 port flow_info segments scope_id =>
      rw [lookup_handle, p2Entry, address, ip_to_std, Option.map_map]
      rfl

/-! ## Destinations -/

/-- What may be dialed for a list of addresses: one of them, on the dialed port, and IPv6
where there is one. -/
structure Destination (addrs : List IpAddr) (port : UInt16) (addr : SocketAddr) : Prop where
  port : addr.port = port
  mem : addr.ip ∈ addrs
  prefers_v6 : (∃ ip ∈ addrs, ip.isV6 = true) → addr.ip.isV6 = true

/-- `pick_addr` finds one unless the list is empty. -/
theorem pick_addr_spec {addrs : List IpAddr} (port : UInt16) (hne : addrs ≠ []) :
    ∃ addr, pick_addr addrs port = some addr ∧ Destination addrs port addr := by
  cases hfind : addrs.find? IpAddr.isV6 with
  | some ip =>
      refine ⟨⟨ip, port⟩, ?_, rfl, List.mem_of_find?_eq_some hfind, fun _ => ?_⟩
      · rw [pick_addr, hfind]
        rfl
      · exact List.find?_some hfind
  | none =>
      obtain ⟨ip, rest, rfl⟩ := List.exists_cons_of_ne_nil hne
      refine ⟨⟨ip, port⟩, ?_, rfl, List.mem_cons_self, fun ⟨v6, hmem, hv6⟩ => ?_⟩
      · rw [pick_addr, hfind]
        rfl
      · rw [List.find?_eq_none] at hfind
        exact absurd hv6 (hfind v6 hmem)

/-! ## The contract -/

/-- The guest component's calls for a destination. It has no address check of its own. -/
def guestTunnel (W : World) (hostname : String) (addr : SocketAddr) : List Ask :=
  match W.created with
  | .error _ => []
  | .ok () =>
      .connect (sockaddr_from_std addr) ::
        match W.connected (sockaddr_from_std addr) with
        | .error _ => []
        | .ok () => [.handshake hostname]

/-- The host provider's calls for a destination: the check, the dial it allows, and the
handshake under a name that is valid. -/
def hostTunnel (W : World) (hostname : String) (addr : SocketAddr) : List Ask :=
  .check addr ::
    if W.allowed addr then
      .dial addr ::
        match W.dialed addr with
        | .error _ => []
        | .ok _ => if W.valid_name hostname then [.handshake hostname] else []
    else []

/-- A connect to an address that stands for `bound`: the socket refuses it, an ordinary
address is passed on as it is, or the tunnel goes to a destination of the resolution and
verifies its hostname. -/
inductive Dials (bound : Option Entry) (remote : IpSocketAddress)
    (tunnel : String → SocketAddr → List Ask) (refuses : Prop) : List Ask → Prop where
  | refused (h : refuses) : Dials bound remote tunnel refuses []
  | passed (hfree : ¬ refuses) (h : bound = none) :
      Dials bound remote tunnel refuses [.delegate remote]
  | tunneled {e : Entry} {addr : SocketAddr} (hfree : ¬ refuses) (h : bound = some e)
      (hdest : Destination e.addrs (port remote) addr) :
      Dials bound remote tunnel refuses (tunnel e.hostname addr)

/-- The guest component has no host socket to pass an ordinary address to. -/
def GuestRefuses (bound : Option Entry) (state : GuestSocket.TcpState) : Prop :=
  bound = none ∧ ∀ socket, state ≠ .Host socket

/-- The 0.2 socket is a tunnel already. -/
def P2Refuses (bound : Option Entry) (s : HostSocket.Socket) : Prop :=
  bound ≠ none ∧ s.p2_tunnel ≠ none

/-- **An address binds its resolution.** For each front end: what its connect asks of the
outside, given what the address stands for. -/
structure Binds (names : HandleTable) (minted : List (IpAddress × Entry))
    (remote : IpSocketAddress) : Prop where
  /-- A tunnel is opened exactly for the addresses given out as handles, all IPv6. -/
  handle_iff : (lookup_handle names remote).isSome ↔ ∃ e, (address remote, e) ∈ minted
  v6 : (lookup_handle names remote).isSome → ∃ segments, address remote = .Ipv6 segments
  /-- It is for the latest resolution given that handle, and the dialed port. -/
  latest : lookup_handle names remote
    = (boundTo minted (address remote)).map fun e => (e.hostname, e.addrs, port remote)
  guest : ∀ W state, Dials (boundTo minted (address remote)) remote (guestTunnel W)
    (GuestRefuses (boundTo minted (address remote)) state) (guestAsks W names state remote)
  p3 : ∀ W s, Dials (boundTo minted (address remote)) remote (hostTunnel W) False
    (p3Asks W names s remote)
  p2 : ∀ W s, Dials (boundTo minted (address remote)) remote (hostTunnel W)
    (P2Refuses (boundTo minted (address remote)) s) (p2Asks W names s remote)
  /-- The host provider dials the address the check approved. -/
  p3_approved : ∀ W s addr, .dial addr ∈ p3Asks W names s remote →
    W.allowed addr = true ∧ .check addr ∈ p3Asks W names s remote
  p2_approved : ∀ W s addr, .dial addr ∈ p2Asks W names s remote →
    W.allowed addr = true ∧ .check addr ∈ p2Asks W names s remote
  /-- The calls of `start_connect` are those of its model. -/
  p2_delegated : ∀ s host, (HostSocket.start_connect names s remote host).delegated = true ↔
    boundTo minted (address remote) = none
  /-- A refusal is `InvalidState`, and changes nothing. -/
  guest_refusal : ∀ state created, GuestRefuses (boundTo minted (address remote)) state →
    GuestSocket.connect names state remote created
      = (.returned (.error .InvalidState), state)
  p2_refusal : ∀ s host, P2Refuses (boundTo minted (address remote)) s →
    HostSocket.start_connect names s remote host = HostSocket.answer s (.error .InvalidState)

/-! ## The contract holds -/

/-- An address stands for something exactly if it was given out. -/
theorem boundTo_isSome_iff (minted : List (IpAddress × Entry)) (addr : IpAddress) :
    (boundTo minted addr).isSome ↔ ∃ e, (addr, e) ∈ minted := by
  rw [boundTo, Option.isSome_map, List.find?_isSome]
  constructor
  · rintro ⟨⟨a, e⟩, hmem, heq⟩
    rw [decide_eq_true_iff] at heq
    subst heq
    exact ⟨e, hmem⟩
  · rintro ⟨e, hmem⟩
    exact ⟨_, hmem, decide_eq_true rfl⟩

/-- What it stands for was resolved. -/
theorem mem_of_boundTo {minted : List (IpAddress × Entry)} {addr : IpAddress} {e : Entry}
    (h : boundTo minted addr = some e) : ∃ m ∈ minted, m.2 = e := by
  rw [boundTo, Option.map_eq_some_iff] at h
  obtain ⟨m, hfind, heq⟩ := h
  exact ⟨m, List.mem_of_find?_eq_some hfind, heq⟩

/-- The table's answer is the latest resolution. -/
theorem latest_of_inv {s : Sys} (hi : Inv s) (remote : IpSocketAddress) :
    lookup_handle s.virt.names remote
      = (boundTo s.minted (address remote)).map
          fun e => (e.hostname, e.addrs, port remote) := by
  cases remote with
  | Ipv6 port flow_info segments scope_id =>
      rw [lookup_handle, hi.lookup segments]
      rfl
  | Ipv4 port octets =>
      -- no handle is an IPv4 address
      have hnone : boundTo s.minted (.Ipv4 octets) = none := by
        rw [← Option.not_isSome_iff_eq_none, boundTo_isSome_iff]
        rintro ⟨e, hmem⟩
        obtain ⟨segments, heq⟩ := hi.handles _ hmem
        exact absurd heq (by simp)
      rw [address, hnone]
      rfl

/-- The task 0.2 spawns makes the calls for its destination, -/
theorem handshake_task_asks (W : World) (hostname : String) (addr : SocketAddr) :
    (handshake_task W hostname addr).1 = hostTunnel W hostname addr := by
  unfold handshake_task hostTunnel
  cases W.allowed addr with
  | false => rfl
  | true =>
      simp only [if_true]
      cases W.dialed addr with
      | error e => rfl
      | ok local_addr =>
          cases W.valid_name hostname with
          | false => rfl
          | true => cases W.handshaken hostname <;> rfl

/-- and so does 0.3's `connect`. -/
theorem p3Asks_of_tunnel (W : World) {names : HandleTable} {s : HostSocket.Socket}
    {remote : IpSocketAddress} {hostname : String} {addrs : List IpAddr} {port : UInt16}
    {addr : SocketAddr} (hlook : lookup_handle names remote = some (hostname, addrs, port))
    (hpick : pick_addr addrs port = some addr) :
    p3Asks W names s remote = hostTunnel W hostname addr := by
  unfold p3Asks HostSocket.connect hostTunnel HostSocket.connect_checked
  simp only [hlook, hpick]
  cases W.allowed addr with
  | false => rfl
  | true =>
      simp only [if_true, HostSocket.connect_dialed]
      cases W.dialed addr with
      | error e => rfl
      | ok local_addr => cases W.valid_name hostname <;> rfl

/-- The guest component's, in its own order. -/
theorem guestAsks_of_tunnel (W : World) {table : HandleTable} (state : GuestSocket.TcpState)
    {remote : IpSocketAddress} {hostname : String} {addrs : List IpAddr} {port : UInt16}
    {addr : SocketAddr} (hlook : lookup_handle table remote = some (hostname, addrs, port))
    (hpick : pick_addr addrs port = some addr) :
    guestAsks W table state remote = guestTunnel W hostname addr := by
  unfold guestAsks GuestSocket.connect guestTunnel
  simp only [hlook, hpick]
  cases W.created with
  | error e => rfl
  | ok u =>
      simp only [GuestSocket.connect_dialed]
      cases W.connected (sockaddr_from_std addr) <;> rfl

/-- The host provider dials only what was allowed, after asking. -/
theorem hostTunnel_approved {W : World} {hostname : String} {addr a : SocketAddr}
    (h : .dial a ∈ hostTunnel W hostname addr) :
    W.allowed a = true ∧ .check a ∈ hostTunnel W hostname addr := by
  unfold hostTunnel at h ⊢
  by_cases hallowed : W.allowed addr = true
  · rw [if_pos hallowed] at h
    have ha : a = addr := by
      cases hdialed : W.dialed addr with
      | error e => simpa [hdialed] using h
      | ok local_addr => cases hvalid : W.valid_name hostname <;> simpa [hdialed, hvalid] using h
    rw [ha]
    exact ⟨hallowed, List.mem_cons_self⟩
  · rw [if_neg hallowed] at h
    exact absurd h (by simp)

/-- An ordinary address, which stands for nothing. -/
theorem binds_ordinary {s : Sys} {remote : IpSocketAddress} (hi : Inv s)
    (hbound : boundTo s.minted (address remote) = none) :
    Binds s.virt.names s.minted remote := by
  have hlook : lookup_handle s.virt.names remote = none := by
    rw [latest_of_inv hi remote, hbound]
    rfl
  have hentry : p2Entry s.virt.names remote = none := by
    rw [lookup_handle_eq, Option.map_eq_none_iff] at hlook
    exact hlook
  have hp3 : ∀ W q, p3Asks W s.virt.names q remote = [.delegate remote] := by
    intro W q
    simp only [p3Asks, HostSocket.connect, hlook]
  have hp2 : ∀ W q, p2Asks W s.virt.names q remote = [.delegate remote] := by
    intro W q
    simp only [p2Asks, hentry]
  refine ⟨?_, ?_, latest_of_inv hi remote, fun W state => ?_, fun W q => ?_, fun W q => ?_,
    fun W q addr h => ?_, fun W q addr h => ?_, fun q host => ?_, fun state created h => ?_,
    fun q host h => ?_⟩
  · rw [← boundTo_isSome_iff, hbound, hlook]
    rfl
  · intro h
    rw [hlook] at h
    exact absurd h (by simp)
  · cases state with
    | Host socket =>
        simp only [guestAsks, GuestSocket.connect, hlook]
        exact .passed (fun h => h.2 socket rfl) hbound
    | Tunnel t =>
        simp only [guestAsks, GuestSocket.connect, hlook]
        exact .refused ⟨hbound, fun socket h => absurd h (by simp)⟩
    | Busy =>
        simp only [guestAsks, GuestSocket.connect, hlook]
        exact .refused ⟨hbound, fun socket h => absurd h (by simp)⟩
  · rw [hp3]
    exact .passed not_false hbound
  · rw [hp2]
    exact .passed (fun h => h.1 hbound) hbound
  · rw [hp3] at h
    exact absurd h (by simp)
  · rw [hp2] at h
    exact absurd h (by simp)
  · simp only [HostSocket.start_connect, hlook, HostSocket.delegate, hbound]
  · cases state with
    | Host socket => exact absurd rfl (h.2 socket)
    | Tunnel t => simp only [GuestSocket.connect, hlook]
    | Busy => simp only [GuestSocket.connect, hlook]
  · exact absurd hbound h.1

/-- A handle, with its latest resolution. -/
theorem binds_handle {s : Sys} {remote : IpSocketAddress} {e : Entry} (hi : Inv s)
    (hbound : boundTo s.minted (address remote) = some e) :
    Binds s.virt.names s.minted remote := by
  obtain ⟨m, hmem, hm⟩ := mem_of_boundTo hbound
  have hne : e.addrs ≠ [] := hm ▸ hi.nonempty m hmem
  have hlook : lookup_handle s.virt.names remote = some (e.hostname, e.addrs, port remote) := by
    rw [latest_of_inv hi remote, hbound]
    rfl
  have hentry : p2Entry s.virt.names remote = some (e.hostname, e.addrs) := by
    rw [lookup_handle_eq, Option.map_eq_some_iff] at hlook
    obtain ⟨⟨hostname, addrs⟩, hentry, heq⟩ := hlook
    rw [Prod.mk.injEq, Prod.mk.injEq] at heq
    obtain ⟨rfl, rfl, -⟩ := heq
    exact hentry
  obtain ⟨addr, hpick, hdest⟩ := pick_addr_spec (port remote) hne
  have hp3 : ∀ W q, p3Asks W s.virt.names q remote = hostTunnel W e.hostname addr :=
    fun W q => p3Asks_of_tunnel W hlook hpick
  have hp2 : ∀ W q, p2Asks W s.virt.names q remote
      = if q.p2_tunnel.isSome then [] else hostTunnel W e.hostname addr := by
    intro W q
    simp only [p2Asks, hentry, hpick, handshake_task_asks]
  refine ⟨?_, fun _ => ?_, latest_of_inv hi remote, fun W state => ?_, fun W q => ?_,
    fun W q => ?_, fun W q a h => ?_, fun W q a h => ?_, fun q host => ?_,
    fun state created h => ?_, fun q host h => ?_⟩
  · rw [← boundTo_isSome_iff, hbound, hlook]
    rfl
  · obtain ⟨e', hmem'⟩ := (boundTo_isSome_iff s.minted (address remote)).mp (by rw [hbound]; rfl)
    exact hi.handles _ hmem'
  · rw [guestAsks_of_tunnel W state hlook hpick]
    refine .tunneled (fun h => ?_) hbound hdest
    rw [h.1] at hbound
    exact absurd hbound (by simp)
  · rw [hp3]
    exact .tunneled not_false hbound hdest
  · rw [hp2]
    by_cases htunnel : q.p2_tunnel = none
    · rw [htunnel]
      exact .tunneled (fun h => h.2 htunnel) hbound hdest
    · rw [if_pos (Option.isSome_iff_ne_none.mpr htunnel)]
      exact .refused ⟨hbound ▸ Option.some_ne_none e, htunnel⟩
  · rw [hp3] at h ⊢
    exact hostTunnel_approved h
  · rw [hp2] at h ⊢
    by_cases htunnel : q.p2_tunnel.isSome
    · rw [if_pos htunnel] at h
      exact absurd h List.not_mem_nil
    · rw [if_neg htunnel] at h ⊢
      exact hostTunnel_approved h
  · rw [hbound]
    simp only [HostSocket.start_connect, hlook, hpick]
    split <;> simp [HostSocket.answer]
  · rw [h.1] at hbound
    exact absurd hbound (by simp)
  · simp only [HostSocket.start_connect, hlook]
    rw [if_pos (Option.isSome_iff_ne_none.mpr h.2)]

/-- An address by whether it was given out. -/
theorem binds_of_inv {s : Sys} (hi : Inv s) (remote : IpSocketAddress) :
    Binds s.virt.names s.minted remote := by
  cases hbound : boundTo s.minted (address remote) with
  | none => exact binds_ordinary hi hbound
  | some e => exact binds_handle hi hbound

/-- **Handle addresses bind names to destinations.** For every prefix, every history of
resolutions through any front end, all random bytes and every address dialed; and the
conversions a handle goes through lose nothing. -/
theorem handles_bind_names (random : Fin 8 → UInt8) (acts : List Act) :
    Lts.Always Resolve.step
        (fun s => ∀ remote, Binds s.virt.names s.minted remote) (.init random) acts ∧
      (∀ a, Ipv6Addr.new a.segments = a) ∧ (∀ s, (Ipv6Addr.new s).segments = s) ∧
      Function.Injective from_be_bytes :=
  ⟨Lts.always_of_invariant (inv_init random) inv_step fun hi remote => binds_of_inv hi remote,
    new_segments, segments_new, from_be_bytes_injective⟩

/-- An address nothing was resolved to. -/
def localhost : IpSocketAddress := .Ipv4 80 fun i => if i = 0 then 127 else if i = 3 then 1 else 0

/-- A guest socket with a connect outstanding does not pass an ordinary address on, and a
0.2 socket that is a tunnel opens none for a handle. -/
theorem socket_in_use_asks_nothing :
    (∃ s, Lts.run GuestSocket.step (.init (.new fun _ => 0)) [.connect 0 localhost (.ok ())]
        = some s ∧
      lookup_handle s.table localhost = none ∧ ∀ W, guestAsks W s.table s.state localhost = []) ∧
    (∃ remote s, Lts.run HostSocket.step (.init .P2 (.new fun _ => 0))
        [.mint (fun _ => 0) ⟨"example.com", [.V4 fun _ => 1]⟩,
          .start_connect remote ⟨.ok (), .Connected⟩] = some s ∧
      (lookup_handle s.names remote).isSome ∧ ∀ W, p2Asks W s.names s.socket remote = []) := by
  constructor
  · exact ⟨_, rfl, rfl, fun W => rfl⟩
  · refine ⟨.Ipv6 443 0 (fun i => if i = 0 then 0xfd00 else 0) 0, _, rfl, ?_, fun W => ?_⟩
    · decide
    · rfl

end PolymorphTls.Handles

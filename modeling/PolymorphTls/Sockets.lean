/-
The `wasi:sockets` vocabulary and the tls-virt scheme (`tls-virt-common/src/lib.rs`):
error codes, addresses, names, the handle table and destination selection, in the terms both
deliveries share.

An address is kept as the bytes `std::net` keeps; the WIT side sees an IPv6 address as
eight 16-bit segments, and the conversions are the ones each delivery writes at its
edge. The table's `HashMap` is its lookup function, and the random bytes of `mint` are
an argument.
-/
import Mathlib.Data.List.Basic
import Mathlib.Data.Fintype.Pi
import Mathlib.Logic.Function.Basic

set_option autoImplicit false

namespace PolymorphTls

/-- `wasi:sockets/types.error-code`, with the codes only the 0.2 generation has
(`WouldBlock`, `NotInProgress`) and the one of `ip-name-lookup` this provider returns. -/
inductive ErrorCode where
  | AccessDenied
  | NotSupported
  | InvalidArgument
  | OutOfMemory
  | Timeout
  | InvalidState
  | AddressNotBindable
  | AddressInUse
  | RemoteUnreachable
  | ConnectionRefused
  | ConnectionBroken
  | ConnectionReset
  | ConnectionAborted
  | DatagramTooLarge
  | WouldBlock
  | NotInProgress
  | NameUnresolvable
  | Other (detail : Option String)
  deriving DecidableEq, Repr

/-! ## Addresses -/

/-- `std::net::Ipv6Addr`. -/
structure Ipv6Addr where
  octets : Fin 16 → UInt8
  deriving DecidableEq

/-- `Ipv6Addr::segments`: big-endian pairs. -/
def Ipv6Addr.segments (a : Ipv6Addr) (i : Fin 8) : UInt16 :=
  (a.octets ⟨2 * i, by omega⟩).toUInt16 * 256 + (a.octets ⟨2 * i + 1, by omega⟩).toUInt16

/-- `Ipv6Addr::new`. -/
def Ipv6Addr.new (segments : Fin 8 → UInt16) : Ipv6Addr where
  octets j :=
    -- the high octet of a segment comes first
    let segment := segments ⟨j / 2, by omega⟩
    if j.val % 2 = 0 then (segment / 256).toUInt8 else segment.toUInt8

/-- `std::net::IpAddr`. -/
inductive IpAddr where
  | V4 (octets : Fin 4 → UInt8)
  | V6 (addr : Ipv6Addr)
  deriving DecidableEq

/-- `std::net::SocketAddr`, as `SocketAddr::new` builds it. -/
structure SocketAddr where
  ip : IpAddr
  port : UInt16
  deriving DecidableEq

/-- `wasi:sockets/types.ip-socket-address`. -/
inductive IpSocketAddress where
  | Ipv4 (port : UInt16) (address : Fin 4 → UInt8)
  | Ipv6 (port : UInt16) (flow_info : UInt32) (address : Fin 8 → UInt16) (scope_id : UInt32)
  deriving DecidableEq

/-- `wasi:sockets/types.ip-address`. -/
inductive IpAddress where
  | Ipv4 (octets : Fin 4 → UInt8)
  | Ipv6 (segments : Fin 8 → UInt16)
  deriving DecidableEq

/-- `ip_to_std` of both host generations, and the guest's `addr_to_std`. -/
def ip_to_std : IpAddress → IpAddr
  | .Ipv4 octets => .V4 octets
  | .Ipv6 segments => .V6 (.new segments)

/-- `handle_to_ip`, and the end of the two `mint_handle`. -/
def handle_to_ip (handle : Ipv6Addr) : IpAddress := .Ipv6 handle.segments

/-- `sockaddr_from_std`: a picked destination in the host interface's terms. -/
def sockaddr_from_std (addr : SocketAddr) : IpSocketAddress :=
  match addr.ip with
  | .V4 octets => .Ipv4 addr.port octets
  | .V6 ip => .Ipv6 addr.port 0 ip.segments 0

/-! ## Names -/

/-- Names under this suffix opt in to TLS tunneling. -/
def SUFFIX : String := ".tls-virt.alt"

/-- `strip_suffix`: the real hostname of an opted-in name, if it is one. -/
def strip_suffix (name : String) : Option String :=
  if SUFFIX.toList <:+ name.toList then
    some (.ofList (name.toList.take (name.toList.length - SUFFIX.toList.length)))
  else none

theorem strip_suffix_eq_some_iff {name real : String} :
    strip_suffix name = some real ↔ name = real ++ SUFFIX := by
  unfold strip_suffix
  constructor
  · intro h
    split at h
    case isTrue hsuffix =>
        rw [Option.some.injEq] at h
        rw [← String.toList_inj, String.toList_append, ← h, String.toList_ofList]
        exact (List.suffix_iff_eq_append.mp hsuffix).symm
    case isFalse => exact absurd h (by simp)
  · rintro rfl
    rw [String.toList_append, if_pos (List.suffix_append _ _), List.length_append,
      Nat.add_sub_cancel, List.take_left, String.ofList_toList]

/-! ## The handle table -/

/-- A resolved destination a handle address stands for. -/
structure Entry where
  hostname : String
  addrs : List IpAddr
  deriving DecidableEq

/-- `u64::from_be_bytes`. -/
def from_be_bytes (bytes : Fin 8 → UInt8) : UInt64 :=
  (List.ofFn bytes).foldl (fun acc b => acc * 256 + b.toUInt64) 0

structure HandleTable where
  /-- The random ULA /64 prefix handles are minted under. -/
  pfx : Fin 8 → UInt8
  /-- Random 64-bit suffix → destination. -/
  entries : UInt64 → Option Entry

/-- `HandleTable::new`, given the random bytes. -/
def HandleTable.new (random : Fin 8 → UInt8) : HandleTable where
  pfx := Function.update random 0 0xfd
  entries := fun _ => none

/-- `HandleTable::mint`, given the random suffix. -/
def HandleTable.mint (t : HandleTable) (suffix : Fin 8 → UInt8) (entry : Entry) :
    Ipv6Addr × HandleTable :=
  (⟨fun j => if h : j.val < 8 then t.pfx ⟨j, h⟩ else suffix ⟨j - 8, by omega⟩⟩,
    { t with entries := Function.update t.entries (from_be_bytes suffix) (some entry) })

/-- `HandleTable::lookup`. -/
def HandleTable.lookup (t : HandleTable) (addr : Ipv6Addr) : Option Entry :=
  -- the first eight octets select the table, the last eight the entry
  if (fun i : Fin 8 => addr.octets ⟨i, by omega⟩) ≠ t.pfx then none
  else t.entries (from_be_bytes fun i => addr.octets ⟨i + 8, by omega⟩)

/-- `lookup_handle`: the destination a handle socket-address refers to, if it is one. -/
def lookup_handle (t : HandleTable) : IpSocketAddress → Option (String × List IpAddr × UInt16)
  | .Ipv4 _ _ => none
  | .Ipv6 port _ address _ =>
      (t.lookup (Ipv6Addr.new address)).map fun e => (e.hostname, e.addrs, port)

/-- Whether an address is IPv6. -/
def IpAddr.isV6 : IpAddr → Bool
  | .V4 _ => false
  | .V6 _ => true

/-- `pick_addr`: a destination from a resolved entry, preferring IPv6. -/
def pick_addr (addrs : List IpAddr) (port : UInt16) : Option SocketAddr :=
  ((addrs.find? IpAddr.isV6).or addrs.head?).map fun ip => ⟨ip, port⟩

end PolymorphTls

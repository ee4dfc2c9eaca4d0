import ZebraNetwork.Source.Time

/-!
# Peer services and socket addresses

Source: the uses in zebra-network/src/meta_addr.rs:493-506,846-852,894. `PeerServices`
(protocol/external/types.rs), `canonical_socket_addr` (zebra-chain) and `std::net` are not in
the source. `PeerServices` is a `bitflags` set over `u64`; its declared flags are modelled from
the spec, which recognises exactly one, `NODE_NETWORK` = 1. A socket address is
`std::net::SocketAddr` with both its variants: an IPv6 one also carries a flow label and a scope
id, which `canonical_socket_addr` zeroes, `SocketAddr::new` sets to zero, the derived
`PartialEq` compares, and the wire codec and `MetaAddr::cmp` (through `ip()` and `port()`) never
read.
-/

namespace ZebraNetwork.Source

/-- Modelled from the spec: the bits of the flags `PeerServices` declares, "only one bit,
`NODE_NETWORK`, is semantically recognized". -/
def peerServicesAllBits : Nat := 1

/-- `PeerServices`: `from_bits_truncate`, the flag constants and the set operations of
`bitflags` only build values whose bits are declared flags. -/
structure PeerServices where
  bits : U64
  declared : bits.val &&& peerServicesAllBits = bits.val
  deriving DecidableEq

/-- The derived order compares the bits numerically. -/
instance : LinearOrder PeerServices :=
  LinearOrder.lift' PeerServices.bits fun a b h => by cases a; cases b; cases h; rfl

/-- `PeerServices::NODE_NETWORK`. -/
def PeerServices.nodeNetwork : PeerServices := ⟨1, by decide⟩

/-- `PeerServices::contains`: every bit of `other` is set in `self`. -/
def PeerServices.contains (self other : PeerServices) : Bool :=
  self.bits.val &&& other.bits.val == other.bits.val

/-- `PeerServices::from_bits_truncate`: the declared flags among `bits`. -/
def PeerServices.fromBitsTruncate (bits : U64) : PeerServices :=
  ⟨⟨bits.val &&& peerServicesAllBits, Nat.lt_of_le_of_lt Nat.and_le_left bits.isLt⟩,
    by simp only [Nat.and_assoc, Nat.and_self]⟩

/-- Truncation keeps a value that holds declared flags only. -/
@[simp] theorem PeerServices.fromBitsTruncate_bits_val (bits : U64) :
    (PeerServices.fromBitsTruncate bits).bits.val = bits.val &&& peerServicesAllBits := rfl

@[simp] theorem PeerServices.fromBitsTruncate_bits (services : PeerServices) :
    PeerServices.fromBitsTruncate services.bits = services := by
  obtain ⟨bits, declared⟩ := services
  simp only [fromBitsTruncate, declared]

/-- The octets of an `Ipv4Addr` (`n = 4`) or an `Ipv6Addr` (`n = 16`), most significant first. -/
@[ext] structure Octets (n : Nat) where
  toList : List U8
  length_eq : toList.length = n
  deriving DecidableEq

/-- `std::net::IpAddr`. -/
inductive IpAddr where
  | v4 (octets : Octets 4)
  | v6 (octets : Octets 16)
  deriving DecidableEq

/-- `std::net::SocketAddr`: `V4` holds an IPv4 address and a port, `V6` an IPv6 address, a port,
a flow label and a scope id. The derived `PartialEq` compares every field. -/
inductive SocketAddr where
  | v4 (ip : Octets 4) (port : U16)
  | v6 (ip : Octets 16) (port : U16) (flowinfo : U32) (scopeId : U32)
  deriving DecidableEq

namespace SocketAddr

/-- `SocketAddr::ip`. -/
def ip : SocketAddr → IpAddr
  | .v4 octets _ => .v4 octets
  | .v6 octets _ _ _ => .v6 octets

/-- `SocketAddr::port`. -/
def port : SocketAddr → U16
  | .v4 _ port => port
  | .v6 _ port _ _ => port

/-- `SocketAddr::new`: an IPv6 address gets flow label and scope id zero. -/
def new : IpAddr → U16 → SocketAddr
  | .v4 octets, port => .v4 octets port
  | .v6 octets, port => .v6 octets port 0 0

@[simp] theorem ip_v4 (octets : Octets 4) (port : U16) : (SocketAddr.v4 octets port).ip = .v4 octets :=
  rfl

@[simp] theorem ip_v6 (octets : Octets 16) (port : U16) (flowinfo scopeId : U32) :
    (SocketAddr.v6 octets port flowinfo scopeId).ip = .v6 octets := rfl

@[simp] theorem port_v4 (octets : Octets 4) (port : U16) : (SocketAddr.v4 octets port).port = port :=
  rfl

@[simp] theorem port_v6 (octets : Octets 16) (port : U16) (flowinfo scopeId : U32) :
    (SocketAddr.v6 octets port flowinfo scopeId).port = port := rfl

@[simp] theorem ip_new (ip : IpAddr) (port : U16) : (SocketAddr.new ip port).ip = ip := by
  cases ip <;> rfl

@[simp] theorem port_new (ip : IpAddr) (port : U16) : (SocketAddr.new ip port).port = port := by
  cases ip <;> rfl

end SocketAddr

/-- `Ord` on `[u8; N]`: lexicographic, a proper prefix first. -/
def compareBytes : List U8 → List U8 → Ordering
  | [], [] => .eq
  | [], _ :: _ => .lt
  | _ :: _, [] => .gt
  | a :: as, b :: bs => (compare a b).then (compareBytes as bs)

/-- `Ipv4Addr::is_unspecified` and `Ipv6Addr::is_unspecified`: every octet is zero. -/
def IpAddr.isUnspecified : IpAddr → Bool
  | .v4 octets => octets.toList.all (· == 0)
  | .v6 octets => octets.toList.all (· == 0)

/-- The first twelve octets of an IPv4-mapped IPv6 address, `::ffff:0:0/96`. -/
def mappedPrefix : List U8 := [0, 0, 0, 0, 0, 0, 0, 0, 0, 0, 255, 255]

/-- `Ipv4Addr::to_ipv6_mapped`. -/
def Octets.toIpv6Mapped (octets : Octets 4) : Octets 16 :=
  ⟨mappedPrefix ++ octets.toList, by simp [mappedPrefix, octets.length_eq]⟩

/-- The IPv6 form the wire codec writes: IPv4 addresses as IPv4-mapped IPv6. -/
def IpAddr.toIpv6Octets : IpAddr → Octets 16
  | .v4 octets => octets.toIpv6Mapped
  | .v6 octets => octets

/-- Modelled from the spec: `canonical_ip_addr`, "v4-mapped-in-v6 addresses collapsed to v4;
loopback preserved". -/
def canonicalIpAddr (octets : Octets 16) : IpAddr :=
  if octets.toList.take 12 = mappedPrefix then
    .v4 ⟨octets.toList.drop 12, by simp [octets.length_eq]⟩
  else .v6 octets

/-- Modelled from the spec: `canonical_socket_addr` canonicalises the IP of an IPv6 address and
rebuilds it with `SocketAddr::new`, which drops its flow label and scope id. -/
def canonicalSocketAddr : SocketAddr → SocketAddr
  | .v4 octets port => .v4 octets port
  | .v6 octets port _ _ => .new (canonicalIpAddr octets) port

/-- An IP in canonical form: no IPv4-mapped IPv6 address. -/
def IpAddr.IsCanonical : IpAddr → Prop
  | .v4 _ => True
  | .v6 octets => octets.toList.take 12 ≠ mappedPrefix

/-- A socket address in canonical form: a canonical IP, and no flow label or scope id. -/
def SocketAddr.IsCanonical : SocketAddr → Prop
  | .v4 _ _ => True
  | .v6 octets _ flowinfo scopeId => (IpAddr.v6 octets).IsCanonical ∧ flowinfo = 0 ∧ scopeId = 0

@[simp] theorem canonicalSocketAddr_v6 (octets : Octets 16) (port : U16) (flowinfo scopeId : U32) :
    canonicalSocketAddr (.v6 octets port flowinfo scopeId) = .new (canonicalIpAddr octets) port :=
  rfl

@[simp] theorem canonicalSocketAddr_port (addr : SocketAddr) :
    (canonicalSocketAddr addr).port = addr.port := by
  cases addr <;> simp [canonicalSocketAddr]

/-- Writing a canonicalised address in IPv6 form gives back the octets read. -/
theorem toIpv6Octets_canonicalIpAddr (octets : Octets 16) :
    (canonicalIpAddr octets).toIpv6Octets = octets := by
  unfold canonicalIpAddr
  split
  next mapped =>
    ext1
    simp only [IpAddr.toIpv6Octets, Octets.toIpv6Mapped, ← mapped, List.take_append_drop]
  · rfl

theorem canonicalIpAddr_isCanonical (octets : Octets 16) :
    (canonicalIpAddr octets).IsCanonical := by
  unfold canonicalIpAddr
  split
  · trivial
  · assumption

/-- A canonical IP survives the IPv6 form and canonicalisation. -/
theorem canonicalIpAddr_toIpv6Octets {ip : IpAddr} (canonical : ip.IsCanonical) :
    canonicalIpAddr ip.toIpv6Octets = ip := by
  cases ip with
  | v4 octets =>
    have prefix_eq : (mappedPrefix ++ octets.toList).take 12 = mappedPrefix :=
      List.take_left' rfl
    have drop_eq : (mappedPrefix ++ octets.toList).drop 12 = octets.toList :=
      List.drop_left' rfl
    simp only [IpAddr.toIpv6Octets, Octets.toIpv6Mapped, canonicalIpAddr, prefix_eq, drop_eq,
      if_true]
  | v6 octets => simp only [IpAddr.toIpv6Octets, canonicalIpAddr, if_neg canonical]

/-- `SocketAddr::new` builds canonical addresses from canonical IPs. -/
theorem SocketAddr.new_isCanonical {ip : IpAddr} (canonical : ip.IsCanonical) (port : U16) :
    (SocketAddr.new ip port).IsCanonical := by
  cases ip with
  | v4 octets => trivial
  | v6 octets => exact ⟨canonical, rfl, rfl⟩

theorem SocketAddr.IsCanonical.ip {addr : SocketAddr} (canonical : addr.IsCanonical) :
    addr.ip.IsCanonical := by
  cases addr with
  | v4 octets port => trivial
  | v6 octets port flowinfo scopeId => exact canonical.1

/-- A canonical address is rebuilt by `SocketAddr::new` from its IP and port. -/
theorem SocketAddr.IsCanonical.new_ip_port {addr : SocketAddr} (canonical : addr.IsCanonical) :
    SocketAddr.new addr.ip addr.port = addr := by
  cases addr with
  | v4 octets port => rfl
  | v6 octets port flowinfo scopeId =>
    obtain ⟨-, rfl, rfl⟩ := canonical
    rfl

theorem canonicalSocketAddr_of_isCanonical {addr : SocketAddr} (canonical : addr.IsCanonical) :
    canonicalSocketAddr addr = addr := by
  cases addr with
  | v4 octets port => rfl
  | v6 octets port flowinfo scopeId =>
    obtain ⟨mapped, rfl, rfl⟩ := canonical
    simp only [canonicalSocketAddr_v6, canonicalIpAddr, if_neg mapped]
    rfl

theorem canonicalSocketAddr_isCanonical (addr : SocketAddr) :
    (canonicalSocketAddr addr).IsCanonical := by
  cases addr with
  | v4 octets port => trivial
  | v6 octets port flowinfo scopeId =>
    exact SocketAddr.new_isCanonical (canonicalIpAddr_isCanonical octets) port

@[simp] theorem canonicalSocketAddr_idem (addr : SocketAddr) :
    canonicalSocketAddr (canonicalSocketAddr addr) = canonicalSocketAddr addr :=
  canonicalSocketAddr_of_isCanonical (canonicalSocketAddr_isCanonical addr)

/-- Reading back the IPv6 form and port of a canonical address, with no flow label or scope id,
and canonicalising gives the address. -/
theorem canonicalSocketAddr_toIpv6Octets {addr : SocketAddr} (canonical : addr.IsCanonical) :
    canonicalSocketAddr (.v6 addr.ip.toIpv6Octets addr.port 0 0) = addr := by
  rw [canonicalSocketAddr_v6, canonicalIpAddr_toIpv6Octets canonical.ip, canonical.new_ip_port]

/-- Canonicalisation makes exactly one specified IPv6 address unspecified: `::ffff:0.0.0.0`,
which becomes `0.0.0.0`. -/
theorem isUnspecified_canonicalIpAddr (octets : Octets 16) :
    (canonicalIpAddr octets).isUnspecified = true ↔
      (IpAddr.v6 octets).isUnspecified = true ∨ octets = Octets.toIpv6Mapped ⟨[0, 0, 0, 0], rfl⟩ := by
  unfold canonicalIpAddr
  split
  next mapped =>
    have prefixSet : mappedPrefix.all (· == 0) = false := by decide
    have four : [0, 0, 0, 0] = List.replicate 4 (0 : U8) := rfl
    simp only [IpAddr.isUnspecified, Octets.ext_iff, Octets.toIpv6Mapped]
    generalize tail_eq : octets.toList.drop 12 = tail
    have length : tail.length = 4 := by simp [← tail_eq, octets.length_eq]
    rw [← List.take_append_drop 12 octets.toList, mapped, tail_eq, List.all_append, prefixSet,
      List.append_cancel_left_eq, four, List.eq_replicate_iff]
    simp [length]
  next unmapped =>
    have different : octets ≠ Octets.toIpv6Mapped ⟨[0, 0, 0, 0], rfl⟩ := by
      rintro rfl
      exact unmapped rfl
    simp only [different, or_false]

theorem isUnspecified_canonicalSocketAddr (addr : SocketAddr) :
    (canonicalSocketAddr addr).ip.isUnspecified = true ↔
      addr.ip.isUnspecified = true ∨ addr.ip = .v6 (Octets.toIpv6Mapped ⟨[0, 0, 0, 0], rfl⟩) := by
  cases addr with
  | v4 octets port => simp [canonicalSocketAddr]
  | v6 octets port flowinfo scopeId => simpa using isUnspecified_canonicalIpAddr octets

end ZebraNetwork.Source

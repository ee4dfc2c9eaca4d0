import ZebraNetwork.Source.Codec
import ZebraNetwork.Guarantees.Sanitize

/-!
# The wire codec round trip

`zcash_serialize` writes an entry with a last-seen time as 30 bytes: the time and the services
little-endian, the IP in IPv6 form and the port big-endian; it panics on an entry without one.
`zcash_deserialize` reads the same 30 bytes and builds a gossiped entry. So a sanitized entry
comes back unchanged; but a buffer does not: `PeerServices::from_bits_truncate` drops the
undeclared service bits, which the entry then writes as zero.
-/

namespace ZebraNetwork.Guarantees
open Source

/-- `zcash_serialize` of an entry with a last-seen time: the time, the services, the address. -/
theorem zcashSerialize_of_lastSeen {self : MetaAddr} {lastSeen : DateTime32}
    (seen : self.lastSeen = some lastSeen) :
    self.zcashSerialize = pure (encodeLE 4 lastSeen.timestamp.val ++
      encodeLE 8 self.services.bits.val ++ self.addr.ip.toIpv6Octets.toList ++
      (encodeLE 2 self.addr.port.val).reverse) := by
  simp only [MetaAddr.zcashSerialize, seen, expect, pure_bind, DateTime32.zcashSerialize,
    writeSocketAddr, List.append_assoc]

theorem zcashSerialize_newGossipedMetaAddr (addr : SocketAddr) (services : PeerServices)
    (lastSeen : DateTime32) :
    (MetaAddr.newGossipedMetaAddr addr services lastSeen).zcashSerialize =
      pure (encodeLE 4 lastSeen.timestamp.val ++ encodeLE 8 services.bits.val ++
        (canonicalSocketAddr addr).ip.toIpv6Octets.toList ++ (encodeLE 2 addr.port.val).reverse) := by
  have seen : (MetaAddr.newGossipedMetaAddr addr services lastSeen).lastSeen = some lastSeen := rfl
  rw [zcashSerialize_of_lastSeen seen]
  simp only [MetaAddr.newGossipedMetaAddr, canonicalSocketAddr_port]

theorem zcashSerialize_of_lastSeen_none {self : MetaAddr} (unseen : self.lastSeen = none) :
    self.zcashSerialize = throw ("unexpected MetaAddr with missing last seen time: " ++
      "MetaAddrs should be sanitized before serialization") := by
  simp only [MetaAddr.zcashSerialize, unseen, expect]
  rfl

/-- `zcash_deserialize` reads the four fields in turn and canonicalises the address. -/
theorem zcashDeserialize_append (time : Octets 4) (services : Octets 8) (ip : Octets 16)
    (port : Octets 2) (rest : List U8) :
    MetaAddr.zcashDeserialize (time.toList ++ services.toList ++ ip.toList ++ port.toList ++ rest) =
      pure (MetaAddr.newGossipedMetaAddr (.v6 ip port.toNatBE 0 0)
        (.fromBitsTruncate services.toNatLE) ⟨time.toNatLE⟩, rest) := by
  simp only [MetaAddr.zcashDeserialize, DateTime32.zcashDeserialize, readU32LE, readU64LE,
    readSocketAddr, readU16BE, List.append_assoc, readExact_append, pure_bind, SocketAddr.new]

/-- Reading the four fields written for a time, service bits, IPv6 octets and a port builds the
gossiped entry for them. -/
theorem zcashDeserialize_encodeLE (time : U32) (bits : U64) (ip : Octets 16) (port : U16)
    (rest : List U8) :
    MetaAddr.zcashDeserialize (encodeLE 4 time.val ++ encodeLE 8 bits.val ++ ip.toList ++
      (encodeLE 2 port.val).reverse ++ rest) =
      pure (MetaAddr.newGossipedMetaAddr (.v6 ip port 0 0) (.fromBitsTruncate bits) ⟨time⟩, rest) := by
  have portLength : (encodeLE 2 port.val).reverse.length = 2 := by simp
  have timeRead : (⟨_, length_encodeLE 4 time.val⟩ : Octets 4).toNatLE = time :=
    Fin.ext (toNatLE_encodeLE 4 _ time.isLt)
  have bitsRead : (⟨_, length_encodeLE 8 bits.val⟩ : Octets 8).toNatLE = bits :=
    Fin.ext (toNatLE_encodeLE 8 _ bits.isLt)
  have portRead : (⟨_, portLength⟩ : Octets 2).toNatBE = port :=
    Fin.ext (toNatBE_encodeLE 2 _ port.isLt)
  have read := zcashDeserialize_append ⟨_, length_encodeLE 4 time.val⟩
    ⟨_, length_encodeLE 8 bits.val⟩ ip ⟨_, portLength⟩ rest
  rwa [timeRead, bitsRead, portRead] at read

/-- Serialising an entry with a last-seen time and a canonical address and reading it back gives
the gossiped entry for its address, services and last-seen time. -/
theorem zcashDeserialize_zcashSerialize {self : MetaAddr} {lastSeen : DateTime32}
    (seen : self.lastSeen = some lastSeen) (canonical : self.addr.IsCanonical) :
    ∃ bytes, self.zcashSerialize = pure bytes ∧ bytes.length = 30 ∧
      ∀ rest, MetaAddr.zcashDeserialize (bytes ++ rest) =
        pure (MetaAddr.newGossipedMetaAddr self.addr self.services lastSeen, rest) := by
  refine ⟨_, zcashSerialize_of_lastSeen seen, by simp [Octets.length_eq], fun rest => ?_⟩
  rw [zcashDeserialize_encodeLE]
  simp only [MetaAddr.newGossipedMetaAddr, PeerServices.fromBitsTruncate_bits,
    canonicalSocketAddr_toIpv6Octets canonical, canonicalSocketAddr_of_isCanonical canonical]

/-- A buffer shorter than 30 bytes fails to deserialize, whichever field it ends in. -/
theorem zcashDeserialize_of_lt {bytes : List U8} (short : bytes.length < 30) :
    MetaAddr.zcashDeserialize bytes = throw .io := by
  simp only [MetaAddr.zcashDeserialize, DateTime32.zcashDeserialize, readU32LE, readU64LE,
    readSocketAddr, readU16BE, readExact]
  split
  · simp only [pure_bind]
    split
    · simp only [pure_bind]
      split
      · simp only [pure_bind]
        split
        · rename_i fits
          simp only [List.length_drop] at fits
          omega
        · rfl
      · rfl
    · rfl
  · rfl

/-- The four fields of an entry are the first 30 bytes of a buffer. -/
theorem fields_eq_take (bytes : List U8) :
    bytes.take 4 ++ (bytes.drop 4).take 8 ++ (bytes.drop 12).take 16 ++ (bytes.drop 28).take 2 =
      bytes.take 30 := by
  rw [← List.take_add, ← List.take_add, ← List.take_add]

theorem fields_append_drop (bytes : List U8) :
    bytes = bytes.take 4 ++ (bytes.drop 4).take 8 ++ (bytes.drop 12).take 16 ++
      (bytes.drop 28).take 2 ++ bytes.drop 30 := by
  rw [fields_eq_take, List.take_append_drop]

/-- `zcash_deserialize` of a buffer of at least 30 bytes reads the first 30. -/
theorem zcashDeserialize_of_le {bytes : List U8} (long : 30 ≤ bytes.length) :
    ∃ (time : Octets 4) (services : Octets 8) (ip : Octets 16) (port : Octets 2),
      time.toList = bytes.take 4 ∧ services.toList = (bytes.drop 4).take 8 ∧
      ip.toList = (bytes.drop 12).take 16 ∧ port.toList = (bytes.drop 28).take 2 ∧
      MetaAddr.zcashDeserialize bytes = pure (MetaAddr.newGossipedMetaAddr (.v6 ip port.toNatBE 0 0)
        (.fromBitsTruncate services.toNatLE) ⟨time.toNatLE⟩, bytes.drop 30) := by
  have time : (bytes.take 4).length = 4 := by simp; omega
  have services : ((bytes.drop 4).take 8).length = 8 := by simp; omega
  have ip : ((bytes.drop 12).take 16).length = 16 := by simp; omega
  have port : ((bytes.drop 28).take 2).length = 2 := by simp; omega
  refine ⟨⟨_, time⟩, ⟨_, services⟩, ⟨_, ip⟩, ⟨_, port⟩, rfl, rfl, rfl, rfl, ?_⟩
  conv_lhs => rw [fields_append_drop bytes]
  exact zcashDeserialize_append ⟨_, time⟩ ⟨_, services⟩ ⟨_, ip⟩ ⟨_, port⟩ (bytes.drop 30)

/-- A sanitized entry serialises without panicking to its 30-byte layout, and deserialising that
gives back the same entry, whatever follows it. -/
theorem sanitized_round_trip (r s : MetaAddr) (sanitizes : r.sanitize = .ok (some s)) :
    ∃ bytes, s.zcashSerialize = .ok bytes ∧ bytes.length = 30 ∧
      (∃ time, s.untrustedLastSeen = some time ∧
        bytes = encodeLE 4 time.timestamp.val ++ encodeLE 8 s.services.bits.val ++
          s.addr.ip.toIpv6Octets.toList ++ (encodeLE 2 s.addr.port.val).reverse) ∧
      ∀ rest, MetaAddr.zcashDeserialize (bytes ++ rest) = .ok (s, rest) := by
  obtain ⟨lastSeen, -, rfl⟩ := sanitize_some sanitizes
  have seen : (sanitized r lastSeen).lastSeen = some (truncatedLastSeen lastSeen) := rfl
  obtain ⟨bytes, serialized, length, readBack⟩ :=
    zcashDeserialize_zcashSerialize seen (canonicalSocketAddr_isCanonical r.addr)
  refine ⟨bytes, serialized, length, ⟨_, rfl, ?_⟩, fun rest => ?_⟩
  · rw [zcashSerialize_of_lastSeen seen] at serialized
    exact (Except.ok.inj serialized).symm
  · rw [readBack rest, newGossipedMetaAddr_sanitized]
    rfl

/-- A gossiped entry for a reachable peer sanitizes: the hypothesis holds. -/
theorem sanitized_round_trip_gossiped :
    ∃ r s : MetaAddr, r.sanitize = .ok (some s) ∧
      ∃ bytes, s.zcashSerialize = .ok bytes ∧ bytes.length = 30 ∧
        (∃ time, s.untrustedLastSeen = some time ∧
          bytes = encodeLE 4 time.timestamp.val ++ encodeLE 8 s.services.bits.val ++
            s.addr.ip.toIpv6Octets.toList ++ (encodeLE 2 s.addr.port.val).reverse) ∧
        ∀ rest, MetaAddr.zcashDeserialize (bytes ++ rest) = .ok (s, rest) :=
  ⟨⟨(.v4 ⟨[192, 0, 2, 1], rfl⟩ 8233), .nodeNetwork, some ⟨3700⟩, none, none, none,
    .neverAttemptedGossiped⟩, _, by rfl,
    sanitized_round_trip ⟨(.v4 ⟨[192, 0, 2, 1], rfl⟩ 8233), .nodeNetwork, some ⟨3700⟩, none, none,
      none, .neverAttemptedGossiped⟩ _ rfl⟩

/-- A buffer whose services carry an undeclared bit deserializes, and its entry writes the
services back as zero. -/
theorem undeclared_service_bit_is_not_written_back :
    ∃ record, MetaAddr.zcashDeserialize
        [0, 0, 0, 0, 2, 0, 0, 0, 0, 0, 0, 0, 0, 0, 0, 0, 0, 0, 0, 0, 0, 0, 255, 255, 192, 0, 2, 1,
          32, 41] = .ok (record, []) ∧
      record.zcashSerialize = .ok
        [0, 0, 0, 0, 0, 0, 0, 0, 0, 0, 0, 0, 0, 0, 0, 0, 0, 0, 0, 0, 0, 0, 255, 255, 192, 0, 2, 1,
          32, 41] :=
  ⟨_, rfl, rfl⟩

/-- The address of an entry is the 18 bytes after the time and the services. -/
theorem address_bytes (bytes : List U8) :
    (bytes.drop 12).take 16 ++ (bytes.drop 28).take 2 = (bytes.drop 12).take 18 := by
  rw [show bytes.drop 28 = (bytes.drop 12).drop 16 by rw [List.drop_drop], ← List.take_add]

/-- The buffer's first 30 bytes are its time, its services and its address. -/
theorem take_thirty (bytes : List U8) :
    bytes.take 30 = bytes.take 4 ++ (bytes.drop 4).take 8 ++ (bytes.drop 12).take 18 := by
  rw [← fields_eq_take, List.append_assoc _ ((bytes.drop 12).take 16), address_bytes]

/-- `zcash_deserialize` fails on fewer than 30 bytes; on more it reads the first 30, and the entry
it builds writes them back except the services, which lose their undeclared bits: it writes back
the 30 bytes exactly when their services have no undeclared bit. -/
theorem zcashDeserialize_reads_thirty_bytes (bytes : List U8) :
    (bytes.length < 30 → MetaAddr.zcashDeserialize bytes = .error .io) ∧
    (30 ≤ bytes.length → ∃ record, MetaAddr.zcashDeserialize bytes = .ok (record, bytes.drop 30) ∧
      record.zcashSerialize = .ok (bytes.take 4 ++
        encodeLE 8 (decodeLE ((bytes.drop 4).take 8) &&& peerServicesAllBits) ++
        (bytes.drop 12).take 18) ∧
      (record.zcashSerialize = .ok (bytes.take 30) ↔
        decodeLE ((bytes.drop 4).take 8) &&& peerServicesAllBits = decodeLE ((bytes.drop 4).take 8))) := by
  refine ⟨zcashDeserialize_of_lt, fun long => ?_⟩
  obtain ⟨time, services, ip, port, htime, hservices, hip, hport, read⟩ := zcashDeserialize_of_le long
  have length : ((bytes.drop 4).take 8).length = 8 := by rw [← hservices, services.length_eq]
  have fits : decodeLE ((bytes.drop 4).take 8) &&& peerServicesAllBits < 256 ^ 8 :=
    calc _ ≤ decodeLE ((bytes.drop 4).take 8) := Nat.and_le_left
      _ < 256 ^ ((bytes.drop 4).take 8).length := decodeLE_lt _
      _ = 256 ^ 8 := by rw [length]
  have written := zcashSerialize_newGossipedMetaAddr (.v6 ip port.toNatBE 0 0)
    (.fromBitsTruncate services.toNatLE) ⟨time.toNatLE⟩
  simp only [canonicalSocketAddr_v6, SocketAddr.ip_new, SocketAddr.port_v6,
    toIpv6Octets_canonicalIpAddr, PeerServices.fromBitsTruncate_bits_val, Octets.toNatLE_val,
    Octets.toNatBE_val, Octets.encodeLE_decodeLE, Octets.encodeLE_decodeLE_reverse] at written
  rw [htime, hservices, hip, hport, List.append_assoc _ ((bytes.drop 12).take 16),
    address_bytes] at written
  refine ⟨_, read, written, ?_⟩
  rw [written, take_thirty]
  show Except.ok _ = Except.ok _ ↔ _
  rw [Except.ok.injEq, List.append_left_inj, List.append_right_inj, encodeLE_eq_iff length fits]

end ZebraNetwork.Guarantees

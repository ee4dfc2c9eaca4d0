import ZebraNetwork.Source.MetaAddr
import Mathlib.Algebra.Group.Nat.Basic

/-!
# The wire codec of a gossiped `MetaAddr`

Source: zebra-network/src/meta_addr.rs:879-913. The readers and writers it calls (`byteorder`,
zebra-chain's `DateTime32` codec, `write_socket_addr`, `read_socket_addr`) are not in the
source; they are modelled from the spec's layout: a 4-byte little-endian time, 8-byte
little-endian services, a 16-byte IPv6-form IP with IPv4 written IPv4-mapped, and a 2-byte
big-endian port. The writer is a growable buffer, so writing never fails; a short reader fails
with `UnexpectedEof`, which `?` turns into `SerializationError::Io`.
-/

namespace ZebraNetwork.Source

/-- The `width` little-endian bytes of `value`: its low `8 * width` bits. -/
def encodeLE : Nat → Nat → List U8
  | 0, _ => []
  | width + 1, value => ⟨value % 256, Nat.mod_lt _ (by decide)⟩ :: encodeLE width (value / 256)

/-- The value of little-endian bytes. -/
def decodeLE : List U8 → Nat
  | [] => 0
  | byte :: rest => byte.val + 256 * decodeLE rest

@[simp] theorem length_encodeLE (width value : Nat) : (encodeLE width value).length = width := by
  induction width generalizing value with
  | zero => rfl
  | succ width ih => simp [encodeLE, ih]

theorem decodeLE_lt (bytes : List U8) : decodeLE bytes < 256 ^ bytes.length := by
  induction bytes with
  | nil => decide
  | cons byte rest ih =>
    rw [List.length_cons, Nat.pow_succ']
    have := byte.isLt
    simp only [decodeLE]
    omega

/-- Decoding keeps the low `8 * width` bits of what was encoded. -/
theorem decodeLE_encodeLE (width value : Nat) :
    decodeLE (encodeLE width value) = value % 256 ^ width := by
  induction width generalizing value with
  | zero => simp [encodeLE, decodeLE, Nat.mod_one]
  | succ width ih => simp only [encodeLE, decodeLE, ih, Nat.pow_succ', Nat.mod_mul]

/-- Encoding the value of some bytes writes those bytes back. -/
theorem encodeLE_decodeLE (bytes : List U8) : encodeLE bytes.length (decodeLE bytes) = bytes := by
  induction bytes with
  | nil => rfl
  | cons byte rest ih =>
    have low : (byte.val + 256 * decodeLE rest) % 256 = byte.val := by omega
    have high : (byte.val + 256 * decodeLE rest) / 256 = decodeLE rest := by omega
    simp only [List.length_cons, encodeLE, decodeLE, low, high, ih]

/-- Below `256 ^ width`, encoding is injective: it writes `bytes` only for their value. -/
theorem encodeLE_eq_iff {width value : Nat} {bytes : List U8} (length : bytes.length = width)
    (fits : value < 256 ^ width) : encodeLE width value = bytes ↔ value = decodeLE bytes := by
  constructor
  · rintro rfl
    rw [decodeLE_encodeLE, Nat.mod_eq_of_lt fits]
  · rintro rfl
    rw [← length, encodeLE_decodeLE]

/-- The integer that `n` little-endian bytes encode. -/
def Octets.toNatLE (bytes : Octets n) : Fin (256 ^ n) :=
  ⟨decodeLE bytes.toList, by simpa [bytes.length_eq] using decodeLE_lt bytes.toList⟩

/-- The integer that `n` big-endian bytes encode. -/
def Octets.toNatBE (bytes : Octets n) : Fin (256 ^ n) :=
  ⟨decodeLE bytes.toList.reverse, by simpa [bytes.length_eq] using decodeLE_lt bytes.toList.reverse⟩

@[simp] theorem Octets.toNatLE_val (bytes : Octets n) : bytes.toNatLE.val = decodeLE bytes.toList :=
  rfl

@[simp] theorem Octets.toNatBE_val (bytes : Octets n) :
    bytes.toNatBE.val = decodeLE bytes.toList.reverse :=
  rfl

/-- Writing back the value of `n` little-endian bytes gives the bytes. -/
@[simp] theorem Octets.encodeLE_decodeLE (bytes : Octets n) :
    encodeLE n (decodeLE bytes.toList) = bytes.toList := by
  have h := ZebraNetwork.Source.encodeLE_decodeLE bytes.toList
  rwa [bytes.length_eq] at h

/-- Writing back the value of `n` big-endian bytes gives the bytes. -/
@[simp] theorem Octets.encodeLE_decodeLE_reverse (bytes : Octets n) :
    (encodeLE n (decodeLE bytes.toList.reverse)).reverse = bytes.toList := by
  have h := ZebraNetwork.Source.encodeLE_decodeLE bytes.toList.reverse
  rw [List.length_reverse, bytes.length_eq] at h
  rw [h, List.reverse_reverse]

theorem toNatLE_encodeLE (n value : Nat) (fits : value < 256 ^ n) :
    (⟨encodeLE n value, length_encodeLE n value⟩ : Octets n).toNatLE.val = value := by
  simp only [Octets.toNatLE, decodeLE_encodeLE, Nat.mod_eq_of_lt fits]

theorem toNatBE_encodeLE (n value : Nat) (fits : value < 256 ^ n) :
    (⟨(encodeLE n value).reverse, by simp⟩ : Octets n).toNatBE.val = value := by
  simp only [Octets.toNatBE, List.reverse_reverse, decodeLE_encodeLE, Nat.mod_eq_of_lt fits]

/-- `SerializationError`: the only error these readers raise is `Io(UnexpectedEof)`. -/
inductive SerializationError where
  | io
  deriving DecidableEq, Repr

/-- `Read::read_exact`: the next `count` bytes and the rest, or `UnexpectedEof`. -/
def readExact (count : Nat) (bytes : List U8) :
    Except SerializationError (Octets count × List U8) :=
  if h : count ≤ bytes.length then
    pure (⟨bytes.take count, by simp [h]⟩, bytes.drop count)
  else throw .io

theorem readExact_append (chunk : Octets count) (rest : List U8) :
    readExact count (chunk.toList ++ rest) = pure (chunk, rest) := by
  have fits : count ≤ (chunk.toList ++ rest).length := by simp [chunk.length_eq]
  simp only [readExact, dif_pos fits, List.take_left' chunk.length_eq, List.drop_left' chunk.length_eq]

theorem readExact_of_lt {count : Nat} {bytes : List U8} (short : bytes.length < count) :
    readExact count bytes = throw .io :=
  dif_neg (by omega)

/-- `ReadBytesExt::read_u32::<LittleEndian>`. -/
def readU32LE (bytes : List U8) : Except SerializationError (U32 × List U8) := do
  let (chunk, rest) ← readExact 4 bytes
  return (chunk.toNatLE, rest)

/-- `ReadBytesExt::read_u64::<LittleEndian>`. -/
def readU64LE (bytes : List U8) : Except SerializationError (U64 × List U8) := do
  let (chunk, rest) ← readExact 8 bytes
  return (chunk.toNatLE, rest)

/-- `ReadBytesExt::read_u16::<BigEndian>`. -/
def readU16BE (bytes : List U8) : Except SerializationError (U16 × List U8) := do
  let (chunk, rest) ← readExact 2 bytes
  return (chunk.toNatBE, rest)

/-- Modelled from the spec: `read_socket_addr`, a 16-byte IPv6-form IP and a big-endian port,
joined by `SocketAddr::new`. -/
def readSocketAddr (bytes : List U8) : Except SerializationError (SocketAddr × List U8) := do
  let (ip, rest) ← readExact 16 bytes
  let (port, rest) ← readU16BE rest
  return (.new (.v6 ip) port, rest)

/-- Modelled from the spec: `write_socket_addr`, the IPv6 form of the IP, then the port; an IPv6
flow label and scope id are not written. -/
def writeSocketAddr (addr : SocketAddr) : List U8 :=
  addr.ip.toIpv6Octets.toList ++ (encodeLE 2 addr.port.val).reverse

/-- Modelled from the spec: the `DateTime32` codec, a little-endian `u32`. -/
def DateTime32.zcashSerialize (self : DateTime32) : List U8 := encodeLE 4 self.timestamp.val

/-- Modelled from the spec: the `DateTime32` codec, a little-endian `u32`. -/
def DateTime32.zcashDeserialize (bytes : List U8) :
    Except SerializationError (DateTime32 × List U8) := do
  let (timestamp, rest) ← readU32LE bytes
  return (⟨timestamp⟩, rest)

namespace MetaAddr

/-- `ZcashSerialize for MetaAddr`: panics unless the entry has a last-seen time. -/
def zcashSerialize (self : MetaAddr) : Except String (List U8) := do
  let lastSeen ← expect self.lastSeen
    "unexpected MetaAddr with missing last seen time: MetaAddrs should be sanitized before serialization"
  return lastSeen.zcashSerialize ++ encodeLE 8 self.services.bits.val ++ writeSocketAddr self.addr

/-- `ZcashDeserialize for MetaAddr`, returning the unread bytes. -/
def zcashDeserialize (bytes : List U8) : Except SerializationError (MetaAddr × List U8) := do
  let (untrustedLastSeen, rest) ← DateTime32.zcashDeserialize bytes
  let (bits, rest) ← readU64LE rest
  let untrustedServices := PeerServices.fromBitsTruncate bits
  let (addr, rest) ← readSocketAddr rest
  return (newGossipedMetaAddr addr untrustedServices untrustedLastSeen, rest)

end MetaAddr

/-- `META_ADDR_SIZE`: a 4 byte time, 8 byte services, 16 byte IP and 2 byte port. -/
def metaAddrSize : Nat := 4 + 8 + 16 + 2

/-- `TrustedPreallocate::max_allocation` for `MetaAddr`, for the protocol's
`MAX_PROTOCOL_MESSAGE_LEN` (not in the source). -/
def maxAllocation (maxProtocolMessageLen : Nat) : Nat := (maxProtocolMessageLen - 3) / metaAddrSize

end ZebraNetwork.Source

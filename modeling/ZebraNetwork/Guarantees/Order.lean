import ZebraNetwork.Source.MetaAddr
import Mathlib.Order.Defs.LinearOrder
import Mathlib.Data.Prod.Lex

/-!
# `MetaAddr::cmp` is the lexicographic order of the reconnection key

`reconnectionOrder` is the spec's §4.6 order stated independently of the source: state rank,
`last_attempt`, `last_failure`, `last_response` (each `None` first), `untrusted_last_seen`
reversed, services, IP family then octets, port. `cmp_eq_reconnectionOrder` shows that the
source's chain of `then`s computes it; antisymmetry and transitivity then follow from the
`compareLex` instances of Batteries, and equality from each key being injective.
-/

namespace ZebraNetwork.Guarantees
open Source Batteries

/-- A linear order's `compare` is a lawful comparator. -/
theorem transOrd_of_linearOrder (α : Type) [LinearOrder α] : TransOrd α := by
  have h : (compare : α → α → Ordering) = fun a b => compareOfLessAndEq a b :=
    funext fun a => funext fun b => LinearOrder.compare_eq_compareOfLessAndEq a b
  unfold TransOrd
  rw [h]
  exact TransCmp.compareOfLessAndEq_of_le lt_irrefl lt_trans le_of_not_lt le_antisymm

instance : TransOrd DateTime32 := transOrd_of_linearOrder _

instance : TransOrd Instant := transOrd_of_linearOrder _

instance : TransOrd PeerServices := transOrd_of_linearOrder _

/-- Rust's order on `Option`, `None` first, is lawful when the order on values is. -/
instance transOrdOption {α : Type} [Ord α] [inst : TransOrd α] : TransOrd (Option α) where
  symm a b := by
    cases a <;> cases b <;> first | rfl | exact inst.symm _ _
  le_trans {a b c} h₁ h₂ := by
    cases a <;> cases b <;> cases c <;> first
      | exact inst.le_trans h₁ h₂
      | exact absurd rfl h₁
      | exact absurd rfl h₂
      | exact fun h => Ordering.noConfusion h

theorem compareBytes_swap : ∀ xs ys : List U8, (compareBytes xs ys).swap = compareBytes ys xs
  | [], [] | [], _ :: _ | _ :: _, [] => rfl
  | a :: as, b :: bs => by
    rw [compareBytes, compareBytes, Ordering.swap_then, OrientedCmp.symm, compareBytes_swap as bs]

theorem compareBytes_le_trans :
    ∀ {xs ys zs : List U8}, compareBytes xs ys ≠ .gt → compareBytes ys zs ≠ .gt →
      compareBytes xs zs ≠ .gt
  | [], _, [], _, _ | [], _, _ :: _, _, _ => nofun
  | _ :: _, [], _, h, _ => absurd rfl h
  | _ :: _, _ :: _, [], _, h => absurd rfl h
  | a :: as, b :: bs, c :: cs, h₁, h₂ => by
    simp only [compareBytes, ne_eq, Ordering.then_eq_gt, not_or, not_and] at h₁ h₂ ⊢
    refine ⟨TransCmp.le_trans h₁.1 h₂.1, fun ac rest => ?_⟩
    match ab : compare a b with
    | .gt => exact h₁.1 ab
    | .eq =>
      exact compareBytes_le_trans (h₁.2 ab) (h₂.2 (TransCmp.cmp_congr_left ab ▸ ac)) rest
    | .lt => exact h₂.1 (OrientedCmp.cmp_eq_gt.2 (TransCmp.cmp_congr_left ac ▸ ab))

/-- `[u8; N]::cmp` is a lawful comparator. -/
instance : TransCmp compareBytes where
  symm := compareBytes_swap
  le_trans := compareBytes_le_trans

theorem compareBytes_eq_iff : ∀ {xs ys : List U8}, compareBytes xs ys = .eq ↔ xs = ys
  | [], [] => by simp [compareBytes]
  | [], _ :: _ | _ :: _, [] => by simp [compareBytes]
  | a :: as, b :: bs => by
    simp [compareBytes, Ordering.then_eq_eq, compareBytes_eq_iff, BEqCmp.cmp_iff_eq]

/-- The rank of a state in the spec's §4.1 order. -/
def stateRank : PeerAddrState → Nat
  | .responded => 0
  | .neverAttemptedGossiped => 1
  | .neverAttemptedAlternate => 2
  | .failed => 3
  | .attemptPending => 4

/-- The IP family, IPv4 first. -/
def ipFamily : IpAddr → Nat
  | .v4 _ => 0
  | .v6 _ => 1

/-- The octets of an IP, most significant first. -/
def ipOctets : IpAddr → List U8
  | .v4 octets => octets.toList
  | .v6 octets => octets.toList

/-- §4.6: the reconnection order, each key deciding only on a tie of the keys before it. -/
def reconnectionOrder : MetaAddr → MetaAddr → Ordering :=
  compareLex (compareOn fun a => stateRank a.lastConnectionState) <|
  compareLex (compareOn MetaAddr.lastAttempt) <|
  compareLex (compareOn MetaAddr.lastFailure) <|
  compareLex (compareOn MetaAddr.lastResponse) <|
  compareLex (flip (compareOn MetaAddr.untrustedLastSeen)) <|
  compareLex (compareOn MetaAddr.services) <|
  compareLex (compareOn fun a => ipFamily a.addr.ip) <|
  compareLex (Ordering.byKey (fun a => ipOctets a.addr.ip) compareBytes) <|
  compareOn fun a => a.addr.port

instance : TransCmp reconnectionOrder := by
  unfold reconnectionOrder
  infer_instance

theorem then_assoc (a b c : Ordering) : (a.then b).then c = a.then (b.then c) := by
  cases a <;> rfl

theorem stateCmp_eq (s t : PeerAddrState) : s.cmp t = compare (stateRank s) (stateRank t) := by
  cases s <;> cases t <;> rfl

theorem ipTieBreaker_eq (x y : IpAddr) :
    MetaAddr.ipTieBreaker x y =
      (compare (ipFamily x) (ipFamily y)).then (compareBytes (ipOctets x) (ipOctets y)) := by
  cases x <;> cases y <;> rfl

/-- The source's chain of comparisons is the reconnection order. -/
theorem cmp_eq_reconnectionOrder (a b : MetaAddr) : a.cmp b = reconnectionOrder a b := by
  simp only [MetaAddr.cmp, reconnectionOrder, compareLex, compareOn, flip, Ordering.byKey,
    stateCmp_eq, ipTieBreaker_eq, then_assoc, OrientedCmp.symm]

/-- Records that differ only in their state compare as the states' ranks do. -/
theorem cmp_with_state (a : MetaAddr) (state : PeerAddrState) :
    a.cmp { a with lastConnectionState := state } =
      compare (stateRank a.lastConnectionState) (stateRank state) := by
  simp only [cmp_eq_reconnectionOrder, reconnectionOrder, compareLex, compareOn, flip,
    Ordering.byKey, OrientedCmp.cmp_refl]
  cases compare (stateRank a.lastConnectionState) (stateRank state) <;> rfl

theorem compare_option_eq_iff {α : Type} [LinearOrder α] {x y : Option α} :
    compare x y = .eq ↔ x = y := by
  cases x <;> cases y <;> simp [compare, compare_eq_iff_eq]

theorem stateRank_inj {s t : PeerAddrState} : stateRank s = stateRank t ↔ s = t := by
  cases s <;> cases t <;> simp [stateRank]

theorem ip_eq_iff {x y : IpAddr} : ipFamily x = ipFamily y ∧ ipOctets x = ipOctets y ↔ x = y := by
  cases x <;> cases y <;> simp [ipFamily, ipOctets, Octets.ext_iff]

/-- The order ties exactly records that agree on every key. -/
theorem reconnectionOrder_eq_iff (a b : MetaAddr) :
    reconnectionOrder a b = .eq ↔
      a.lastConnectionState = b.lastConnectionState ∧ a.lastAttempt = b.lastAttempt ∧
      a.lastFailure = b.lastFailure ∧ a.lastResponse = b.lastResponse ∧
      a.untrustedLastSeen = b.untrustedLastSeen ∧ a.services = b.services ∧
      a.addr.ip = b.addr.ip ∧ a.addr.port = b.addr.port := by
  simp only [reconnectionOrder, compareLex, compareOn, flip, Ordering.byKey, Ordering.then_eq_eq,
    Nat.compare_eq_eq, stateRank_inj, compare_option_eq_iff, compare_eq_iff_eq,
    compareBytes_eq_iff, BEqCmp.cmp_iff_eq, ← ip_eq_iff, and_assoc, eq_comm (a := b.untrustedLastSeen)]

/-- `MetaAddr::cmp` is the lexicographic order of the reconnection key; it is antisymmetric and
transitive, it says `Equal` exactly when the two records agree on the state, the four times, the
services, the IP and the port, so records with different endpoints never tie, and `PartialEq`
is that tie. An IPv6 flow label or scope id is not a key: records that differ only there tie. -/
theorem metaAddr_cmp_total_order :
    (∀ a b : MetaAddr, a.cmp b = reconnectionOrder a b) ∧
    (∀ a b : MetaAddr, b.cmp a = (a.cmp b).swap) ∧
    (∀ a b c : MetaAddr, a.cmp b ≠ .gt → b.cmp c ≠ .gt → a.cmp c ≠ .gt) ∧
    (∀ a b c : MetaAddr, a.cmp b = .lt → b.cmp c = .lt → a.cmp c = .lt) ∧
    (∀ a b : MetaAddr, a.cmp b = .eq ↔
      a.lastConnectionState = b.lastConnectionState ∧ a.lastAttempt = b.lastAttempt ∧
      a.lastFailure = b.lastFailure ∧ a.lastResponse = b.lastResponse ∧
      a.untrustedLastSeen = b.untrustedLastSeen ∧ a.services = b.services ∧
      a.addr.ip = b.addr.ip ∧ a.addr.port = b.addr.port) ∧
    (∀ a b : MetaAddr, (a.addr.ip, a.addr.port) ≠ (b.addr.ip, b.addr.port) → a.cmp b ≠ .eq) ∧
    (∀ a b : MetaAddr, a.eq b = true ↔ a.cmp b = .eq) := by
  refine ⟨cmp_eq_reconnectionOrder, fun a b => ?_, fun a b c => ?_, fun a b c => ?_, fun a b => ?_,
    fun a b different => ?_, fun a b => ?_⟩ <;> simp only [cmp_eq_reconnectionOrder, MetaAddr.eq]
  · exact (OrientedCmp.symm a b).symm
  · exact TransCmp.le_trans
  · exact TransCmp.lt_trans
  · exact reconnectionOrder_eq_iff a b
  · intro tie
    obtain ⟨-, -, -, -, -, -, ip, port⟩ := (reconnectionOrder_eq_iff a b).mp tie
    exact different (by rw [ip, port])
  · cases reconnectionOrder a b <;> decide

end ZebraNetwork.Guarantees

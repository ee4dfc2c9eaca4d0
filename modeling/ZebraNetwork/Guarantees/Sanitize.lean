import ZebraNetwork.Source.MetaAddr

/-!
# What `MetaAddr::sanitize` sends

Source: zebra-network/src/meta_addr.rs:511-539. `sanitize` never reaches its `expect`: the
remainder modulo `TIMESTAMP_TRUNCATION_SECONDS` never exceeds the time it is taken from. What it
sends is fixed by the address, the services and the half-hour bucket of `last_seen()`, so the
state and the exact times of an entry do not leak to the peers it is gossiped to.

`sanitize` checks the raw address but sends its canonical form. The two agree on validity for
every address but `[::ffff:0.0.0.0]`, which is specified as IPv6 and becomes the unspecified
`0.0.0.0`: that one entry is sent although its sent form is not valid for outbound connections,
and the sent form then sanitizes to nothing. Truncation only moves `last_seen()` back, so the sent
entry is active for gossip no longer than the entry, and at most half an hour less.
-/

namespace ZebraNetwork.Guarantees
open Source

/-- `last_seen()` rounded down to a multiple of `TIMESTAMP_TRUNCATION_SECONDS`. -/
def truncatedLastSeen (lastSeen : DateTime32) : DateTime32 :=
  ⟨⟨lastSeen.timestamp.val - lastSeen.timestamp.val % timestampTruncationSeconds.val, by omega⟩⟩

/-- The record `sanitize` sends for a valid entry last seen at `lastSeen`. -/
def sanitized (self : MetaAddr) (lastSeen : DateTime32) : MetaAddr where
  addr := canonicalSocketAddr self.addr
  services := self.services
  untrustedLastSeen := some (truncatedLastSeen lastSeen)
  lastResponse := none
  lastAttempt := none
  lastFailure := none
  lastConnectionState := .neverAttemptedGossiped

@[simp] theorem sanitized_lastSeen (r : MetaAddr) (lastSeen : DateTime32) :
    (sanitized r lastSeen).lastSeen = some (truncatedLastSeen lastSeen) := rfl

/-- The remainder never exceeds the time, so the `checked_sub` of `sanitize` never underflows. -/
theorem checkedSub_remainder (lastSeen : DateTime32) :
    lastSeen.checkedSub ⟨lastSeen.timestamp % timestampTruncationSeconds⟩ =
      some (truncatedLastSeen lastSeen) := by
  simp only [DateTime32.checkedSub, Fin.mod_val, Nat.mod_le, if_true]
  rfl

/-- `sanitize` never panics: it sends nothing for an entry that is invalid or never seen, and
otherwise the entry with its time truncated. -/
theorem sanitize_eq (self : MetaAddr) :
    self.sanitize =
      .ok (if self.lastKnownInfoIsValidForOutbound then self.lastSeen.map (sanitized self)
        else none) := by
  unfold MetaAddr.sanitize
  cases valid : self.lastKnownInfoIsValidForOutbound <;> cases seen : self.lastSeen <;>
    simp [valid, seen, checkedSub_remainder, expect, sanitized] <;> rfl

/-- What `sanitize` returns, when it returns an entry. -/
theorem sanitize_some {r s : MetaAddr} (sanitizes : r.sanitize = .ok (some s)) :
    ∃ lastSeen, r.lastSeen = some lastSeen ∧ s = sanitized r lastSeen := by
  rw [sanitize_eq] at sanitizes
  cases valid : r.lastKnownInfoIsValidForOutbound <;> cases seen : r.lastSeen <;>
    simp only [valid, seen, if_true, if_false, Option.map, Except.ok.injEq, reduceCtorEq,
      Option.some.injEq, Bool.false_eq_true] at sanitizes
  exact ⟨_, rfl, sanitizes.symm⟩

/-- A sanitized entry is the entry gossip about its own fields creates. -/
theorem newGossipedMetaAddr_sanitized (r : MetaAddr) (lastSeen : DateTime32) :
    MetaAddr.newGossipedMetaAddr (sanitized r lastSeen).addr (sanitized r lastSeen).services
        (truncatedLastSeen lastSeen) =
      sanitized r lastSeen := by
  simp only [MetaAddr.newGossipedMetaAddr, sanitized, canonicalSocketAddr_idem]

theorem truncatedLastSeen_bounds (lastSeen : DateTime32) :
    (truncatedLastSeen lastSeen).timestamp.val % 1800 = 0 ∧
    (truncatedLastSeen lastSeen).timestamp.val ≤ lastSeen.timestamp.val ∧
    lastSeen.timestamp.val < (truncatedLastSeen lastSeen).timestamp.val + 1800 := by
  simp only [truncatedLastSeen, timestampTruncationSeconds_val]
  omega

theorem truncatedLastSeen_eq_of_bucket {a b : DateTime32}
    (bucket : a.timestamp.val / 1800 = b.timestamp.val / 1800) :
    truncatedLastSeen a = truncatedLastSeen b := by
  simp only [truncatedLastSeen, timestampTruncationSeconds_val, DateTime32.mk.injEq, Fin.mk.injEq]
  omega

/-- Validity for outbound connections reads only the address and the services. -/
theorem lastKnownInfoIsValidForOutbound_congr {a b : MetaAddr} (addr : a.addr = b.addr)
    (services : a.services = b.services) :
    a.lastKnownInfoIsValidForOutbound = b.lastKnownInfoIsValidForOutbound := by
  simp only [MetaAddr.lastKnownInfoIsValidForOutbound, MetaAddr.addressIsValidForOutbound, addr,
    services]

/-- `sanitize` never panics; it sends nothing for an invalid or never-seen entry, and otherwise
the canonical address, the services and `last_seen()` rounded down to a multiple of 1800 s, with
no local times and the state `NeverAttemptedGossiped`. So two entries that agree on the address,
the services and the half-hour bucket of `last_seen()` sanitize alike. -/
theorem sanitize_total_and_truncating (r : MetaAddr) :
    (∃ result, r.sanitize = .ok result) ∧
    (r.lastKnownInfoIsValidForOutbound = false ∨ r.lastSeen = none → r.sanitize = .ok none) ∧
    (∀ lastSeen, r.lastKnownInfoIsValidForOutbound = true → r.lastSeen = some lastSeen →
      ∃ truncated, r.sanitize = .ok (some ⟨canonicalSocketAddr r.addr, r.services, some truncated,
          none, none, none, .neverAttemptedGossiped⟩) ∧
        truncated.timestamp.val % 1800 = 0 ∧ truncated.timestamp.val ≤ lastSeen.timestamp.val ∧
        lastSeen.timestamp.val < truncated.timestamp.val + 1800) ∧
    (∀ other : MetaAddr, other.addr = r.addr → other.services = r.services →
      other.lastSeen.map (fun t => t.timestamp.val / 1800) =
        r.lastSeen.map (fun t => t.timestamp.val / 1800) →
      other.sanitize = r.sanitize) := by
  refine ⟨⟨_, sanitize_eq r⟩, fun dropped => ?_, fun lastSeen valid seen => ?_,
    fun other addr services bucket => ?_⟩
  · rcases dropped with invalid | unseen <;> simp [sanitize_eq, *]
  · exact ⟨truncatedLastSeen lastSeen, by simp [sanitize_eq, valid, seen, sanitized],
      truncatedLastSeen_bounds lastSeen⟩
  · rw [sanitize_eq, sanitize_eq, lastKnownInfoIsValidForOutbound_congr addr services]
    cases hr : r.lastSeen <;> cases ho : other.lastSeen <;> simp only [hr, ho, Option.map,
      reduceCtorEq, Option.some.injEq] at bucket ⊢
    simp only [sanitized, addr, services, truncatedLastSeen_eq_of_bucket bucket]

theorem truncatedLastSeen_idem (lastSeen : DateTime32) :
    truncatedLastSeen (truncatedLastSeen lastSeen) = truncatedLastSeen lastSeen :=
  truncatedLastSeen_eq_of_bucket (by have := truncatedLastSeen_bounds lastSeen; omega)

theorem sanitized_sanitized (r : MetaAddr) (lastSeen : DateTime32) :
    sanitized (sanitized r lastSeen) (truncatedLastSeen lastSeen) = sanitized r lastSeen := by
  simp only [sanitized, canonicalSocketAddr_idem, truncatedLastSeen_idem]

/-- A sent entry, sanitized again, is sent unchanged if it is valid for outbound connections. -/
theorem sanitize_sanitized (r : MetaAddr) (lastSeen : DateTime32) :
    (sanitized r lastSeen).sanitize =
      .ok (if (sanitized r lastSeen).lastKnownInfoIsValidForOutbound then some (sanitized r lastSeen)
        else none) := by
  rw [sanitize_eq, sanitized_lastSeen, Option.map_some', sanitized_sanitized]

/-- The sent form of a valid entry is valid unless its raw IP is `::ffff:0.0.0.0`. -/
theorem sanitized_valid_iff {r : MetaAddr} (valid : r.lastKnownInfoIsValidForOutbound = true)
    (lastSeen : DateTime32) :
    (sanitized r lastSeen).lastKnownInfoIsValidForOutbound = true ↔
      r.addr.ip ≠ .v6 (Octets.toIpv6Mapped ⟨[0, 0, 0, 0], rfl⟩) := by
  have canonical := isUnspecified_canonicalSocketAddr r.addr
  simp only [MetaAddr.lastKnownInfoIsValidForOutbound, MetaAddr.addressIsValidForOutbound,
    Bool.and_eq_true, Bool.not_eq_true'] at valid ⊢
  simp only [sanitized, canonicalSocketAddr_port, valid, true_and, and_true, ← Bool.not_eq_true,
    canonical, Bool.false_eq_true, false_or]

/-- What `sanitize` sends is a fixed point of `sanitize` exactly when it is valid for outbound
connections, and it is valid exactly when the raw IP was not `::ffff:0.0.0.0`. -/
theorem sanitize_fixed_point_iff {r s : MetaAddr} (sanitizes : r.sanitize = .ok (some s)) :
    (s.sanitize = .ok (some s) ↔ s.lastKnownInfoIsValidForOutbound = true) ∧
    (s.lastKnownInfoIsValidForOutbound = true ↔
      r.addr.ip ≠ .v6 (Octets.toIpv6Mapped ⟨[0, 0, 0, 0], rfl⟩)) := by
  have valid : r.lastKnownInfoIsValidForOutbound = true := by
    rw [sanitize_eq] at sanitizes
    by_contra invalid
    simp [invalid] at sanitizes
  obtain ⟨lastSeen, -, rfl⟩ := sanitize_some sanitizes
  refine ⟨?_, sanitized_valid_iff valid lastSeen⟩
  rw [sanitize_sanitized]
  cases (sanitized r lastSeen).lastKnownInfoIsValidForOutbound <;> simp

/-- A gossiped entry for `[::ffff:0.0.0.0]:8233` passes the check and is sent as
`0.0.0.0:8233`, which is not valid for outbound connections and sanitizes to nothing. -/
theorem sanitize_sends_unspecified_address :
    ∃ s, MetaAddr.sanitize ⟨(.v6 ⟨[0, 0, 0, 0, 0, 0, 0, 0, 0, 0, 255, 255, 0, 0, 0, 0], rfl⟩ 8233 0 0),
      .nodeNetwork, some ⟨3600⟩, none, none, none, .neverAttemptedGossiped⟩ = .ok (some s) ∧
      s.addr = (.v4 ⟨[0, 0, 0, 0], rfl⟩ 8233) ∧ s.lastKnownInfoIsValidForOutbound = false ∧
      s.sanitize = .ok none :=
  ⟨_, rfl, rfl, rfl, rfl⟩

/-- Sanitizing never makes an entry look more recently seen: the sent entry is active for gossip
only when the entry is, and its activity ends at most `TIMESTAMP_TRUNCATION_SECONDS` before the
entry's. -/
theorem sanitize_isActiveForGossip {r s : MetaAddr} (sanitizes : r.sanitize = .ok (some s))
    (now : DateTime32) :
    (s.isActiveForGossip now = true → r.isActiveForGossip now = true) ∧
    (r.isActiveForGossip now = true → ∀ earlier : DateTime32,
      earlier.timestamp.val + timestampTruncationSeconds.val ≤ now.timestamp.val →
      s.isActiveForGossip earlier = true) := by
  obtain ⟨lastSeen, seen, rfl⟩ := sanitize_some sanitizes
  have bounds := truncatedLastSeen_bounds lastSeen
  simp only [MetaAddr.isActiveForGossip_some _ seen,
    MetaAddr.isActiveForGossip_some _ (sanitized_lastSeen r lastSeen),
    maxPeerActiveForGossip_seconds, timestampTruncationSeconds_val]
  exact ⟨fun active => by omega, fun active earlier before => by omega⟩

/-- A gossiped entry for a reachable peer, three hours on: the hypothesis holds. -/
theorem sanitize_isActiveForGossip_gossiped :
    ∃ r s : MetaAddr, ∃ now : DateTime32, r.sanitize = .ok (some s) ∧
      (s.isActiveForGossip now = true → r.isActiveForGossip now = true) ∧
      (r.isActiveForGossip now = true → ∀ earlier : DateTime32,
        earlier.timestamp.val + timestampTruncationSeconds.val ≤ now.timestamp.val →
        s.isActiveForGossip earlier = true) :=
  ⟨⟨(.v4 ⟨[192, 0, 2, 1], rfl⟩ 8233), .nodeNetwork, some ⟨3700⟩, none, none, none,
    .neverAttemptedGossiped⟩, _, ⟨14500⟩, by rfl,
    @sanitize_isActiveForGossip ⟨(.v4 ⟨[192, 0, 2, 1], rfl⟩ 8233), .nodeNetwork, some ⟨3700⟩,
      none, none, none, .neverAttemptedGossiped⟩ _ rfl ⟨14500⟩⟩

end ZebraNetwork.Guarantees

import ZebraNetwork.Guarantees.Summary
import Mathlib.Order.MinMax

/-!
# When an entry is tried again

The address book picks the next peer to connect to by `is_ready_for_connection_attempt` and
orders candidates by `MetaAddr::cmp`. Over the summary of a run:

* ordering — `new_reconnect` moves its entry behind every entry in another state and every
  pending entry attempted earlier, and never earlier than it was (`newReconnect_orders_last`);
* readiness — an entry is ready exactly when it is valid for outbound connections and each
  response, attempt and failure time it carries is older than `MIN_PEER_RECONNECTION_DELAY`
  (`applyRun_ready_iff`): the delay is enforced, and it is all that is enforced.
-/

namespace ZebraNetwork.Guarantees
open Source Spec Batteries

/-- Records that differ only in their attempt time compare as those times do. -/
theorem cmp_with_lastAttempt (a : MetaAddr) (lastAttempt : Option Instant) :
    a.cmp { a with lastAttempt := lastAttempt } = compare a.lastAttempt lastAttempt := by
  simp only [cmp_eq_reconnectionOrder, reconnectionOrder, compareLex, compareOn, flip,
    Ordering.byKey, OrientedCmp.cmp_refl]
  cases compare a.lastAttempt lastAttempt <;> rfl

/-- A state earlier in the order decides the comparison. -/
theorem cmp_of_state_lt {a b : MetaAddr}
    (earlier : stateRank a.lastConnectionState < stateRank b.lastConnectionState) :
    a.cmp b = .lt := by
  simp only [MetaAddr.cmp, stateCmp_eq, compare_lt_iff_lt.mpr earlier]
  rfl

theorem cmp_of_attempt_lt {a b : MetaAddr} (same : a.lastConnectionState = b.lastConnectionState)
    (earlier : compare a.lastAttempt b.lastAttempt = .lt) : a.cmp b = .lt := by
  simp only [MetaAddr.cmp, same, stateCmp_eq, OrientedCmp.cmp_refl, earlier]
  rfl

theorem compare_lt_max_left {α : Type} [LinearOrder α] {a : Option α} {b : α} (c : Option α)
    (earlier : compare a (some b) = .lt) : compare a (max (some b) c) = .lt := by
  cases a with
  | none => cases c <;> rfl
  | some x =>
    have below : x < b := by simpa [compare, compare_lt_iff_lt] using earlier
    cases c with
    | none => exact earlier
    | some y => exact compare_lt_iff_lt.mpr (lt_of_lt_of_le below (le_max_left b y))

/-- `new_reconnect` sends its entry to the back of the reconnection order: the entry never moves
earlier, and it comes after every entry in another state and every pending entry attempted
before this attempt, the source's "try all peers in each state, before re-trying any of them". -/
theorem newReconnect_orders_last (addr : SocketAddr) (clock : Clock) (previous : MetaAddr)
    (same : previous.addr = canonicalSocketAddr addr) :
    ∃ next, (MetaAddr.newReconnect addr).applyToMetaAddr clock (some previous) = .ok (some next) ∧
      next.lastConnectionState = .attemptPending ∧ previous.cmp next ≠ .gt ∧
      ∀ other : MetaAddr, (other.lastConnectionState ≠ .attemptPending ∨
          compare other.lastAttempt (some clock.instant) = .lt) → other.cmp next = .lt := by
  have next_eq : updated (MetaAddr.newReconnect addr) clock previous =
      { previous with lastAttempt := max (some clock.instant) previous.lastAttempt
                      lastConnectionState := .attemptPending } := by
    cases hr : previous.lastResponse <;> cases hf : previous.lastFailure <;>
      simp [updated, MetaAddr.newReconnect, MetaAddrChange.untrustedServices,
        MetaAddrChange.lastResponse, MetaAddrChange.lastAttempt, MetaAddrChange.lastFailure,
        MetaAddrChange.peerAddrState, MetaAddrChange.addr, same, hr, hf]
  have applied : (MetaAddr.newReconnect addr).applyToMetaAddr clock (some previous) =
      .ok (some (updated (MetaAddr.newReconnect addr) clock previous)) := by
    rw [applyToMetaAddr_eq _ _ _ fun _ member => by cases member; exact same]
    rfl
  have behind : ∀ other : MetaAddr, (other.lastConnectionState ≠ .attemptPending ∨
      compare other.lastAttempt (some clock.instant) = .lt) →
      other.cmp (updated (MetaAddr.newReconnect addr) clock previous) = .lt := by
    intro other placed
    by_cases pending : other.lastConnectionState = .attemptPending
    · exact cmp_of_attempt_lt (by rw [next_eq, pending]) (by
        rw [next_eq]
        exact compare_lt_max_left _ (placed.resolve_left fun other => other pending))
    · apply cmp_of_state_lt
      rw [next_eq]
      revert pending
      cases other.lastConnectionState <;> simp [stateRank]
  refine ⟨_, applied, by rw [next_eq], ?_, behind⟩
  by_cases pending : previous.lastConnectionState = .attemptPending
  · have kept : updated (MetaAddr.newReconnect addr) clock previous =
        { previous with lastAttempt := max (some clock.instant) previous.lastAttempt } := by
      rw [next_eq, ← pending]
    rw [kept, cmp_with_lastAttempt, max_comm_option]
    exact compare_max_ne_gt _ _
  · rw [behind previous (.inl pending)]
    nofun

/-- A reconnection to a responded peer given by its IPv4-mapped address: the hypothesis holds. -/
theorem newReconnect_orders_last_responded :
    ∃ (addr : SocketAddr) (clock : Clock) (previous : MetaAddr),
      previous.addr = canonicalSocketAddr addr ∧
      ∃ next, (MetaAddr.newReconnect addr).applyToMetaAddr clock (some previous) =
          .ok (some next) ∧
        next.lastConnectionState = .attemptPending ∧ previous.cmp next ≠ .gt ∧
        ∀ other : MetaAddr, (other.lastConnectionState ≠ .attemptPending ∨
            compare other.lastAttempt (some clock.instant) = .lt) → other.cmp next = .lt :=
  ⟨(.v6 ⟨[0, 0, 0, 0, 0, 0, 0, 0, 0, 0, 255, 255, 192, 0, 2, 1], rfl⟩ 8233 0 0), ⟨⟨3600⟩, ⟨1⟩⟩,
    ⟨(.v4 ⟨[192, 0, 2, 1], rfl⟩ 8233), .nodeNetwork, some ⟨1800⟩, some ⟨3000⟩, none, none,
      .responded⟩,
    by decide,
    newReconnect_orders_last
      (.v6 ⟨[0, 0, 0, 0, 0, 0, 0, 0, 0, 0, 255, 255, 192, 0, 2, 1], rfl⟩ 8233 0 0)
      ⟨⟨3600⟩, ⟨1⟩⟩
      ⟨(.v4 ⟨[192, 0, 2, 1], rfl⟩ 8233), .nodeNetwork, some ⟨1800⟩, some ⟨3000⟩, none, none,
        .responded⟩
      (by decide)⟩

/-- A property that holds of everything at or before the greatest element holds of a whole list
exactly when it holds of that element. -/
theorem forall_mem_iff_max? {α : Type} [LinearOrder α] {times : List α} {last : α}
    (latest : times.max? = some last) {P : α → Prop} (antitone : ∀ a b, a ≤ b → P b → P a) :
    (∀ time ∈ times, P time) ↔ P last := by
  refine ⟨fun all => all last (List.max?_mem max_choice latest), fun old time member => ?_⟩
  obtain ⟨greatest, hgreatest, le⟩ := le_max?_of_mem member
  rw [latest, Option.some.injEq] at hgreatest
  exact antitone _ _ (hgreatest ▸ le) old

/-- The latest of some instants is not recent exactly when none of them is. -/
theorem instantIsRecent_max?_eq_false (times : List Instant) (now : Instant) :
    MetaAddr.instantIsRecent times.max? now = false ↔
      ∀ time ∈ times, time.nanos + minPeerReconnectionDelay.nanos < now.nanos := by
  cases latest : times.max? with
  | none => simp [MetaAddr.instantIsRecent, List.max?_eq_none_iff.mp latest]
  | some last =>
    rw [forall_mem_iff_max? latest fun a b le old => by rw [Instant.le_def] at le; omega,
      Bool.eq_false_iff, ne_eq, MetaAddr.instantIsRecent_some]
    omega

theorem hasConnectionRecentlyResponded_eq_false {entry : MetaAddr} {times : List DateTime32}
    (latest : entry.lastResponse = times.max?) (now : DateTime32) :
    entry.hasConnectionRecentlyResponded now = false ↔
      ∀ time ∈ times, time.timestamp.val + minPeerReconnectionDelay.asSecs < now.timestamp.val := by
  cases last : times.max? with
  | none =>
    simp [MetaAddr.hasConnectionRecentlyResponded, latest, last, List.max?_eq_none_iff.mp last]
  | some last =>
    rw [forall_mem_iff_max? last fun a b le old => by rw [DateTime32.le_def] at le; omega,
      Bool.eq_false_iff, ne_eq,
      MetaAddr.hasConnectionRecentlyResponded_some entry (latest.trans last)]
    simp only [minPeerReconnectionDelay32_seconds, Duration.asSecs, minPeerReconnectionDelay_nanos]
    omega

/-- An entry reached by a run is ready for a connection attempt exactly when it is valid for
outbound connections and every response, attempt and failure time it had or the run contributed
is older than `MIN_PEER_RECONNECTION_DELAY`: an attempt, failure or answer keeps the entry out
for the delay, and nothing keeps it out any longer. -/
theorem applyRun_ready_iff (addr : SocketAddr) (first later : List TimedChange)
    (forAddr : ForAddr addr (first ++ later)) (start : MetaAddr)
    (reached : applyRun none first = .ok (some start)) (clock : Clock) :
    ∃ entry, applyRun none (first ++ later) = .ok (some entry) ∧
      (entry.isReadyForConnectionAttempt clock = true ↔
        entry.lastKnownInfoIsValidForOutbound = true ∧
        (∀ time ∈ start.lastResponse.toList ++ respondedTimes later,
          time.timestamp.val + minPeerReconnectionDelay.asSecs < clock.now.timestamp.val) ∧
        (∀ time ∈ start.lastAttempt.toList ++ attemptTimes later,
          time.nanos + minPeerReconnectionDelay.nanos < clock.instant.nanos) ∧
        (∀ time ∈ start.lastFailure.toList ++ failureTimes later,
          time.nanos + minPeerReconnectionDelay.nanos < clock.instant.nanos)) := by
  refine ⟨_, applyRun_append_summary forAddr reached, ?_⟩
  rw [← hasConnectionRecentlyResponded_eq_false
    (show (summary start later).lastResponse = _ from rfl), ← instantIsRecent_max?_eq_false,
    ← instantIsRecent_max?_eq_false]
  simp only [MetaAddr.isReadyForConnectionAttempt, MetaAddr.wasConnectionRecentlyAttempted,
    MetaAddr.hasConnectionRecentlyFailed, Bool.and_eq_true, Bool.not_eq_true', and_assoc]
  rfl

/-- An attempt then an answer, read some minutes later: the hypotheses hold. -/
theorem applyRun_ready_iff_answered :
    ∃ addr first later start, ∃ clock : Clock, ForAddr addr (first ++ later) ∧
      applyRun none first = .ok (some start) ∧
      ∃ entry, applyRun none (first ++ later) = .ok (some entry) ∧
        (entry.isReadyForConnectionAttempt clock = true ↔
          entry.lastKnownInfoIsValidForOutbound = true ∧
          (∀ time ∈ start.lastResponse.toList ++ respondedTimes later,
            time.timestamp.val + minPeerReconnectionDelay.asSecs < clock.now.timestamp.val) ∧
          (∀ time ∈ start.lastAttempt.toList ++ attemptTimes later,
            time.nanos + minPeerReconnectionDelay.nanos < clock.instant.nanos) ∧
          (∀ time ∈ start.lastFailure.toList ++ failureTimes later,
            time.nanos + minPeerReconnectionDelay.nanos < clock.instant.nanos)) :=
  ⟨(.v4 ⟨[192, 0, 2, 1], rfl⟩ 8233),
    [⟨.newGossiped (.v4 ⟨[192, 0, 2, 1], rfl⟩ 8233) .nodeNetwork ⟨1800⟩, ⟨⟨3600⟩, ⟨0⟩⟩⟩,
     ⟨.updateAttempt (.v4 ⟨[192, 0, 2, 1], rfl⟩ 8233), ⟨⟨3600⟩, ⟨1⟩⟩⟩],
    [⟨.updateResponded (.v4 ⟨[192, 0, 2, 1], rfl⟩ 8233) .nodeNetwork, ⟨⟨3601⟩, ⟨2⟩⟩⟩], _,
    ⟨⟨3900⟩, ⟨300000000000⟩⟩, by decide, by rfl,
    applyRun_ready_iff (.v4 ⟨[192, 0, 2, 1], rfl⟩ 8233)
      [⟨.newGossiped (.v4 ⟨[192, 0, 2, 1], rfl⟩ 8233) .nodeNetwork ⟨1800⟩, ⟨⟨3600⟩, ⟨0⟩⟩⟩,
       ⟨.updateAttempt (.v4 ⟨[192, 0, 2, 1], rfl⟩ 8233), ⟨⟨3600⟩, ⟨1⟩⟩⟩]
      [⟨.updateResponded (.v4 ⟨[192, 0, 2, 1], rfl⟩ 8233) .nodeNetwork, ⟨⟨3601⟩, ⟨2⟩⟩⟩]
      (by decide) _ rfl ⟨⟨3900⟩, ⟨300000000000⟩⟩⟩

end ZebraNetwork.Guarantees

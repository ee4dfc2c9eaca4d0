import ZebraNetwork.Guarantees.Times
import ZebraNetwork.Guarantees.Order

/-!
# What gossip can and cannot change

The frame of a step: the services change only to what an `UpdateResponded` or
`UpdateFailed { services: Some(_) }` change carries, and the gossiped time only from `None` to
the time a `NewGossiped` or `NewLocal` change offers a never-attempted entry. Hence the order of
two changes matters for the gossiped time only while an entry is never-attempted without one;
and Case B, which should preserve every field, takes the state from the change, so gossip of
the other never-attempted kind moves an entry in the reconnection order.
-/

namespace ZebraNetwork.Guarantees
open Source Spec

/-- The services an update carries: `UpdateResponded`'s, and `UpdateFailed`'s when present. -/
def carriedServices : MetaAddrChange → Option PeerServices
  | .updateResponded _ services => some services
  | .updateFailed _ services => services
  | .newGossiped .. | .newAlternate .. | .newLocal _ | .updateAttempt _ => none

/-- The gossiped time a `NewGossiped` or `NewLocal` change offers. -/
def gossipedTime (timed : TimedChange) : Option DateTime32 :=
  match timed.change with
  | .newGossiped _ _ lastSeen => some lastSeen
  | .newLocal _ => some timed.clock.now
  | .newAlternate .. | .updateAttempt _ | .updateResponded .. | .updateFailed .. => none

theorem step_services (previous : MetaAddr) (timed : TimedChange) :
    ∀ next ∈ step (some previous) timed,
      next.services = (carriedServices timed.change).getD previous.services := by
  intro next member
  obtain ⟨change, clock⟩ := timed
  rcases step_some_cases previous ⟨change, clock⟩ with ⟨hnew, -, h⟩ | ⟨hnew, -, h⟩ | ⟨hnew, h⟩ <;>
    rw [h, Option.mem_some_iff] at member <;> subst member <;>
    cases change <;> simp only [isNew, Bool.false_eq_true, Bool.true_eq_false] at hnew <;> rfl

theorem step_untrustedLastSeen (previous : MetaAddr) (timed : TimedChange) :
    ∀ next ∈ step (some previous) timed, next.untrustedLastSeen =
      previous.untrustedLastSeen.or
        (if previous.lastConnectionState.isNeverAttempted then gossipedTime timed else none) := by
  intro next member
  obtain ⟨change, clock⟩ := timed
  rcases step_some_cases previous ⟨change, clock⟩ with
    ⟨-, attempted, h⟩ | ⟨hnew, never, h⟩ | ⟨hnew, h⟩ <;>
    rw [h, Option.mem_some_iff] at member <;> subst member
  · simp [attempted]
  · rw [never, if_pos rfl]
    cases change <;> simp only [isNew, Bool.false_eq_true] at hnew <;> rfl
  · cases change <;> simp only [isNew, Bool.true_eq_false] at hnew <;> simp [updated, gossipedTime]

theorem run_untrustedLastSeen_some {previous : MetaAddr} {time : DateTime32}
    (set : previous.untrustedLastSeen = some time) (changes : List TimedChange) :
    ∀ record ∈ run (some previous) changes, record.untrustedLastSeen = some time := by
  induction changes generalizing previous with
  | nil => intro record member; rw [run_nil, Option.mem_some_iff] at member; rwa [← member]
  | cons timed rest ih =>
    obtain ⟨next, hnext⟩ := step_some previous timed
    rw [run_cons, hnext]
    exact ih (by rw [step_untrustedLastSeen previous timed next hnext, set]; rfl)

/-- After creation, a step sets the services only to what the update carries, and changes the
gossiped time only from `None`, only to what a `NewGossiped` or `NewLocal` change offers a
never-attempted entry; once set, the gossiped time is never changed again. -/
theorem applyRun_services_and_gossip_frame (addr : SocketAddr) (first : List TimedChange)
    (timed : TimedChange) (later : List TimedChange)
    (forAddr : ForAddr addr (first ++ timed :: later)) (record : MetaAddr)
    (reached : applyRun none first = .ok (some record)) :
    ∃ next, applyRun none (first ++ [timed]) = .ok (some next) ∧
      next.services = (carriedServices timed.change).getD record.services ∧
      next.untrustedLastSeen = record.untrustedLastSeen.or
        (if record.lastConnectionState.isNeverAttempted then gossipedTime timed else none) ∧
      (∀ time, record.untrustedLastSeen = some time →
        ∃ final, applyRun none (first ++ timed :: later) = .ok (some final) ∧
          final.untrustedLastSeen = some time) := by
  obtain ⟨forFirst, same, -⟩ := by simpa using forAddr
  have hfirst := run_of_applyRun forFirst reached
  have forStep : ForAddr addr (first ++ [timed]) := by simp [forFirst, same]
  obtain ⟨next, hnext⟩ := step_some record timed
  refine ⟨next, ?_, step_services record timed next hnext,
    step_untrustedLastSeen record timed next hnext, fun time set => ?_⟩
  · rw [applyRun_eq forStep (by simp), run_append, hfirst, run_cons, run_nil, hnext]
    rfl
  · obtain ⟨final, hfinal⟩ := run_some record (timed :: later)
    refine ⟨final, ?_, run_untrustedLastSeen_some set _ final hfinal⟩
    rw [applyRun_eq forAddr (by simp), run_append, hfirst, hfinal]
    rfl

/-- An answer to a gossiped entry: the hypotheses hold together. -/
theorem applyRun_services_and_gossip_frame_responded :
    ∃ addr first timed later record, ForAddr addr (first ++ timed :: later) ∧
      applyRun none first = .ok (some record) ∧
      ∃ next, applyRun none (first ++ [timed]) = .ok (some next) ∧
        next.services = (carriedServices timed.change).getD record.services ∧
        next.untrustedLastSeen = record.untrustedLastSeen.or
          (if record.lastConnectionState.isNeverAttempted then gossipedTime timed else none) ∧
        (∀ time, record.untrustedLastSeen = some time →
          ∃ final, applyRun none (first ++ timed :: later) = .ok (some final) ∧
            final.untrustedLastSeen = some time) :=
  ⟨(.v4 ⟨[192, 0, 2, 1], rfl⟩ 8233), _, _, _, _, by decide, by rfl,
    applyRun_services_and_gossip_frame (.v4 ⟨[192, 0, 2, 1], rfl⟩ 8233)
      [⟨.newGossiped (.v4 ⟨[192, 0, 2, 1], rfl⟩ 8233) .nodeNetwork ⟨1800⟩, ⟨⟨3600⟩, ⟨0⟩⟩⟩]
      ⟨.updateResponded (.v4 ⟨[192, 0, 2, 1], rfl⟩ 8233) ⟨0, rfl⟩, ⟨⟨3601⟩, ⟨1⟩⟩⟩
      [⟨.newGossiped (.v4 ⟨[192, 0, 2, 1], rfl⟩ 8233) .nodeNetwork ⟨3600⟩, ⟨⟨3602⟩, ⟨2⟩⟩⟩]
      (by decide) _ rfl⟩

theorem run_untrustedLastSeen_attempted {previous : MetaAddr}
    (attempted : previous.lastConnectionState.isNeverAttempted = false) (changes : List TimedChange) :
    ∀ record ∈ run (some previous) changes, record.untrustedLastSeen = previous.untrustedLastSeen := by
  induction changes generalizing previous with
  | nil => intro record member; rw [run_nil, Option.mem_some_iff] at member; rw [← member]
  | cons timed rest ih =>
    obtain ⟨next, hnext⟩ := step_some previous timed
    rw [run_cons, hnext]
    intro record member
    rw [ih (step_attempted timed attempted next hnext) record member,
      step_untrustedLastSeen previous timed next hnext, attempted]
    exact Option.or_none

/-- From a never-attempted record a step stays never-attempted exactly for a `New…` change. -/
theorem step_isNeverAttempted {previous : MetaAddr} (timed : TimedChange)
    (never : previous.lastConnectionState.isNeverAttempted) :
    ∀ next ∈ step (some previous) timed,
      next.lastConnectionState.isNeverAttempted = isNew timed.change := by
  intro next member
  rcases step_some_cases previous timed with ⟨-, attempted, -⟩ | ⟨-, -, h⟩ | ⟨-, h⟩
  · simp [never] at attempted
  all_goals rw [h, Option.mem_some_iff] at member; subst member
  · exact peerAddrState_isNeverAttempted _
  · exact peerAddrState_isNeverAttempted _

theorem gossipedTime_of_not_new {timed : TimedChange} (hnew : isNew timed.change = false) :
    gossipedTime timed = none := by
  obtain ⟨change, clock⟩ := timed
  cases change <;> first | rfl | cases hnew

/-- Two changes applied in either order to a record reached by a run for one address: the
responses agree; so do the gossiped times, and hence `last_seen()`, once the record has a
gossiped time or has been attempted; a never-attempted record without one keeps the time of the
first change if that is gossip, else none. -/
theorem applyRun_swap_gossip (addr : SocketAddr) (changes : List TimedChange)
    (forAddr : ForAddr addr changes) (record : MetaAddr)
    (reached : applyRun none changes = .ok (some record)) (first second : TimedChange)
    (sameFirst : first.change.addr = addr) (sameSecond : second.change.addr = addr) :
    ∃ one other, applyRun (some record) [first, second] = .ok (some one) ∧
      applyRun (some record) [second, first] = .ok (some other) ∧
      one.lastResponse = other.lastResponse ∧
      ((record.untrustedLastSeen.isSome ∨ record.lastConnectionState.isNeverAttempted = false) →
        one.untrustedLastSeen = other.untrustedLastSeen ∧ one.lastSeen = other.lastSeen) ∧
      (record.lastConnectionState.isNeverAttempted → record.untrustedLastSeen = none →
        one.untrustedLastSeen =
          if isNew first.change then (gossipedTime first).or (gossipedTime second) else none) := by
  have hrun := run_of_applyRun forAddr reached
  have consistent := run_consistent changes (by simp) record hrun
  have haddr := run_addr forAddr (by simp) record hrun
  have forPair : ∀ x y : TimedChange, x.change.addr = addr → y.change.addr = addr →
      ForAddr addr [x, y] := fun x y hx hy => by simp [hx, hy]
  obtain ⟨one, hone⟩ := run_some record [first, second]
  obtain ⟨other, hother⟩ := run_some record [second, first]
  have response : one.lastResponse = other.lastResponse := by
    rw [(run_timesSince consistent _ one hone).1, (run_timesSince consistent _ other hother).1]
    exact max?_perm ((List.Perm.swap second first []).filterMap _ |>.append_left _)
  have settled_gossip : (record.untrustedLastSeen.isSome ∨
      record.lastConnectionState.isNeverAttempted = false) →
      one.untrustedLastSeen = other.untrustedLastSeen := by
    rintro (set | attempted)
    · obtain ⟨time, htime⟩ := Option.isSome_iff_exists.mp set
      rw [run_untrustedLastSeen_some htime _ one hone, run_untrustedLastSeen_some htime _ other hother]
    · rw [run_untrustedLastSeen_attempted attempted _ one hone,
        run_untrustedLastSeen_attempted attempted _ other hother]
  refine ⟨one, other, ?_, ?_, response, fun settled => ⟨settled_gossip settled, ?_⟩,
    fun never unset => ?_⟩
  · rw [applyRun_eq (forPair first second sameFirst sameSecond) (by simpa using haddr), hone]
    rfl
  · rw [applyRun_eq (forPair second first sameSecond sameFirst) (by simpa using haddr), hother]
    rfl
  · simp only [MetaAddr.lastSeen, response, settled_gossip settled]
  · obtain ⟨middle, hmiddle⟩ := step_some record first
    rw [run_cons, hmiddle, run_cons, run_nil] at hone
    rw [step_untrustedLastSeen middle second one hone, step_untrustedLastSeen record first middle hmiddle,
      step_isNeverAttempted first never middle hmiddle, never, unset]
    cases hnew : isNew first.change
    · simp [gossipedTime_of_not_new hnew]
    · rfl

/-- Gossip and an attempt on an entry created by `NewAlternate`: the hypotheses hold together. -/
theorem applyRun_swap_gossip_alternate :
    ∃ addr changes record first second, ForAddr addr changes ∧
      applyRun none changes = .ok (some record) ∧
      first.change.addr = addr ∧ second.change.addr = addr ∧
      ∃ one other, applyRun (some record) [first, second] = .ok (some one) ∧
        applyRun (some record) [second, first] = .ok (some other) ∧
        one.lastResponse = other.lastResponse ∧
        ((record.untrustedLastSeen.isSome ∨ record.lastConnectionState.isNeverAttempted = false) →
          one.untrustedLastSeen = other.untrustedLastSeen ∧ one.lastSeen = other.lastSeen) ∧
        (record.lastConnectionState.isNeverAttempted → record.untrustedLastSeen = none →
          one.untrustedLastSeen =
            if isNew first.change then (gossipedTime first).or (gossipedTime second) else none) :=
  ⟨(.v4 ⟨[192, 0, 2, 1], rfl⟩ 8233),
    [⟨.newAlternate (.v4 ⟨[192, 0, 2, 1], rfl⟩ 8233) .nodeNetwork, ⟨⟨1800⟩, ⟨0⟩⟩⟩], _, _, _,
    by decide, by rfl, by rfl, by rfl,
    applyRun_swap_gossip (.v4 ⟨[192, 0, 2, 1], rfl⟩ 8233)
      [⟨.newAlternate (.v4 ⟨[192, 0, 2, 1], rfl⟩ 8233) .nodeNetwork, ⟨⟨1800⟩, ⟨0⟩⟩⟩] (by decide) _ rfl
      ⟨.newGossiped (.v4 ⟨[192, 0, 2, 1], rfl⟩ 8233) .nodeNetwork ⟨1800⟩, ⟨⟨3600⟩, ⟨1⟩⟩⟩
      ⟨.updateAttempt (.v4 ⟨[192, 0, 2, 1], rfl⟩ 8233), ⟨⟨3600⟩, ⟨2⟩⟩⟩ rfl rfl⟩

/-- On an entry created by `NewAlternate`, gossip applied before an attempt sets the gossiped
time, and gossip applied after it is rejected. -/
theorem gossip_and_attempt_do_not_commute :
    ∃ entry one other,
      applyRun none [⟨.newAlternate (.v4 ⟨[192, 0, 2, 1], rfl⟩ 8233) .nodeNetwork,
        ⟨⟨1800⟩, ⟨0⟩⟩⟩] = .ok (some entry) ∧
      applyRun (some entry)
        [⟨.newGossiped (.v4 ⟨[192, 0, 2, 1], rfl⟩ 8233) .nodeNetwork ⟨1800⟩, ⟨⟨3600⟩, ⟨1⟩⟩⟩,
         ⟨.updateAttempt (.v4 ⟨[192, 0, 2, 1], rfl⟩ 8233), ⟨⟨3600⟩, ⟨2⟩⟩⟩] = .ok (some one) ∧
      applyRun (some entry)
        [⟨.updateAttempt (.v4 ⟨[192, 0, 2, 1], rfl⟩ 8233), ⟨⟨3600⟩, ⟨2⟩⟩⟩,
         ⟨.newGossiped (.v4 ⟨[192, 0, 2, 1], rfl⟩ 8233) .nodeNetwork ⟨1800⟩, ⟨⟨3600⟩, ⟨1⟩⟩⟩] =
        .ok (some other) ∧
      one.untrustedLastSeen = some ⟨1800⟩ ∧ other.untrustedLastSeen = none :=
  ⟨_, _, _, rfl, rfl, rfl, rfl, rfl⟩

/-- Case B on an entry that already has a gossiped time keeps every field but the state. -/
theorem merged_of_seen {change : MetaAddrChange} {clock : Clock} {previous : MetaAddr}
    (consistent : Consistent previous) (never : previous.lastConnectionState.isNeverAttempted)
    (seen : previous.untrustedLastSeen.isSome) (same : previous.addr = change.addr) :
    merged change clock previous = { previous with lastConnectionState := change.peerAddrState } := by
  obtain ⟨response, attempt, failure⟩ := consistent.neverAttempted never
  obtain ⟨time, htime⟩ := Option.isSome_iff_exists.mp seen
  simp only [merged, same, htime, response, attempt, failure, Option.or_some]

/-- Gossip about a never-attempted entry that has a gossiped time moves it in the reconnection
order exactly as far as the state the change names: Case B takes `peer_addr_state()` from the
change, so a `NewAlternate` change demotes a gossiped entry and a `NewGossiped` or `NewLocal`
change promotes an alternate one. -/
theorem applyToMetaAddr_new_cmp (change : MetaAddrChange) (clock : Clock) (previous : MetaAddr)
    (hnew : isNew change) (consistent : Consistent previous)
    (never : previous.lastConnectionState.isNeverAttempted)
    (seen : previous.untrustedLastSeen.isSome) (same : previous.addr = change.addr) :
    ∃ next, change.applyToMetaAddr clock (some previous) = .ok (some next) ∧
      previous.cmp next =
        compare (stateRank previous.lastConnectionState) (stateRank change.peerAddrState) := by
  have applied : apply change clock (some previous) = some (merged change clock previous) := by
    simp only [apply, hnew, never, if_true]
  refine ⟨merged change clock previous, ?_, ?_⟩
  · rw [applyToMetaAddr_eq change clock (some previous) (by simpa using same), applied]
    rfl
  · rw [merged_of_seen consistent never seen same, cmp_with_state]

/-- A `NewAlternate` change moves an entry created by `NewGossiped` later in the order. -/
theorem alternate_gossip_demotes_gossiped_entry :
    ∃ entry next,
      applyRun none [⟨.newGossiped (.v4 ⟨[192, 0, 2, 1], rfl⟩ 8233) .nodeNetwork ⟨1800⟩,
        ⟨⟨3600⟩, ⟨0⟩⟩⟩] = .ok (some entry) ∧
      (MetaAddrChange.newAlternate (.v4 ⟨[192, 0, 2, 1], rfl⟩ 8233) .nodeNetwork).applyToMetaAddr
        ⟨⟨3600⟩, ⟨1⟩⟩ (some entry) = .ok (some next) ∧
      entry.cmp next = .lt :=
  ⟨_, _, rfl, rfl, rfl⟩

end ZebraNetwork.Guarantees

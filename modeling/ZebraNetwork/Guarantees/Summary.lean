import ZebraNetwork.Guarantees.Gossip

/-!
# The entry after a run, field by field

`summary start changes` states, without the fold, what a run of changes for one address makes of
an entry: the services the last update carried (`servicesAfter`), the gossiped time the entry had
or the first one offered before its first update (`untrustedLastSeenAfter`), each local time the
latest contributed (the maxima of `Times`), and the state of the last update, or of the last
change while the entry has never been attempted (`stateAfter`). Each field is proved once by
`run_closed_form` from its step lemma; `run_summary` assembles them, and through `applyRun_eq`
the source run computes the summary:

* creation — from no entry a run leaves none until its first `New…` change, which creates the
  entry the rest of the run is summarised over (`applyRun_from_none`);
* gossip after an attempt — once an entry has been attempted, removing every `New…` change from
  the rest of a run leaves its result as it is (`applyRun_attempted_ignores_gossip`), the
  source's "malicious peers can't keep changing our peer connection order".
-/

namespace ZebraNetwork.Guarantees
open Source Spec

/-- The services after a run: the last ones an update carried, else the entry's own. -/
def servicesAfter (start : MetaAddr) (changes : List TimedChange) : PeerServices :=
  ((changes.filterMap fun timed => carriedServices timed.change).getLast?).getD start.services

/-- The gossiped time after a run: the entry's own, else the first one gossip offered while the
entry was never attempted, that is before the run's first update. -/
def untrustedLastSeenAfter (start : MetaAddr) (changes : List TimedChange) : Option DateTime32 :=
  start.untrustedLastSeen.or
    (if start.lastConnectionState.isNeverAttempted then
      ((changes.takeWhile fun timed => isNew timed.change).filterMap gossipedTime).head?
    else none)

/-- The state after a run: the last update's; with no update, the last change's if the entry
was never attempted (each `New…` change is merged), else the entry's own (each is rejected). -/
def stateAfter (start : MetaAddr) (changes : List TimedChange) : PeerAddrState :=
  match (changes.filter fun timed => !isNew timed.change).getLast? with
  | some last => last.change.peerAddrState
  | none =>
    if start.lastConnectionState.isNeverAttempted then
      (changes.getLast?.map fun timed => timed.change.peerAddrState).getD start.lastConnectionState
    else start.lastConnectionState

/-- The entry a run of changes for its address makes of `start`, field by field. -/
def summary (start : MetaAddr) (changes : List TimedChange) : MetaAddr where
  addr := start.addr
  services := servicesAfter start changes
  untrustedLastSeen := untrustedLastSeenAfter start changes
  lastResponse := (start.lastResponse.toList ++ respondedTimes changes).max?
  lastAttempt := (start.lastAttempt.toList ++ attemptTimes changes).max?
  lastFailure := (start.lastFailure.toList ++ failureTimes changes).max?
  lastConnectionState := stateAfter start changes

/-- A closed form holds of a whole run if it is the field itself after no change and each step
carries it over to the rest of the run. -/
theorem run_closed_form {β : Type} (field : MetaAddr → β)
    (closed : MetaAddr → List TimedChange → β) (done : ∀ record, closed record [] = field record)
    (stepped : ∀ previous timed rest, ∀ next ∈ step (some previous) timed,
      closed previous (timed :: rest) = closed next rest) (changes : List TimedChange) :
    ∀ start, ∀ record ∈ run (some start) changes, field record = closed start changes := by
  induction changes with
  | nil =>
    intro start record member
    rw [run_nil, Option.mem_some_iff] at member
    rw [← member, done]
  | cons timed rest ih =>
    intro start record member
    obtain ⟨next, hnext⟩ := step_some start timed
    rw [run_cons, hnext] at member
    rw [stepped start timed rest next hnext]
    exact ih next record member

theorem getLast?_filterMap_cons_getD {α β : Type} (f : α → Option β) (x : α) (xs : List α)
    (d : β) :
    ((x :: xs).filterMap f).getLast?.getD d = (xs.filterMap f).getLast?.getD ((f x).getD d) := by
  cases h : f x <;> simp only [List.filterMap_cons, h, List.getLast?_cons, Option.getD_some,
    Option.getD_none]

theorem head?_filterMap_cons {α β : Type} (f : α → Option β) (x : α) (xs : List α) :
    ((x :: xs).filterMap f).head? = (f x).or (xs.filterMap f).head? := by
  cases h : f x <;> simp only [List.filterMap_cons, h, List.head?_cons, Option.none_or,
    Option.or_some]

theorem getLast?_filter_cons {α : Type} (p : α → Bool) (x : α) (xs : List α) :
    ((x :: xs).filter p).getLast? =
      if p x then some ((xs.filter p).getLast?.getD x) else (xs.filter p).getLast? := by
  rw [List.filter_cons]
  split <;> simp only [List.getLast?_cons]

/-- The services after a run are those the last update carried. -/
theorem run_services (start : MetaAddr) (changes : List TimedChange) :
    ∀ record ∈ run (some start) changes, record.services = servicesAfter start changes :=
  run_closed_form MetaAddr.services servicesAfter (fun _ => rfl)
    (fun previous timed rest next hnext => by
      rw [servicesAfter, servicesAfter, getLast?_filterMap_cons_getD,
        step_services previous timed next hnext])
    changes start

/-- The gossiped time is set at most once, by the first gossip before the first update. -/
theorem run_untrustedLastSeen (start : MetaAddr) (changes : List TimedChange) :
    ∀ record ∈ run (some start) changes,
      record.untrustedLastSeen = untrustedLastSeenAfter start changes :=
  run_closed_form MetaAddr.untrustedLastSeen untrustedLastSeenAfter
    (fun record => by simp [untrustedLastSeenAfter])
    (fun previous timed rest next hnext => by
      have gossip := step_untrustedLastSeen previous timed next hnext
      cases never : previous.lastConnectionState.isNeverAttempted
      · have attempted := step_attempted timed never next hnext
        simp [untrustedLastSeenAfter, gossip, never, attempted]
      · have state := step_isNeverAttempted timed never next hnext
        cases hnew : isNew timed.change
        · simp [untrustedLastSeenAfter, gossip, never, state, hnew, gossipedTime_of_not_new hnew]
        · simp only [untrustedLastSeenAfter, gossip, never, state, hnew, if_true,
            List.takeWhile_cons, head?_filterMap_cons, Option.or_assoc])
    changes start

/-- A step sets the state the change names, except that a `New…` change leaves an attempted
entry as it is. -/
theorem step_lastConnectionState (previous : MetaAddr) (timed : TimedChange) :
    ∀ next ∈ step (some previous) timed, next.lastConnectionState =
      if isNew timed.change && !previous.lastConnectionState.isNeverAttempted then
        previous.lastConnectionState
      else timed.change.peerAddrState := by
  intro next member
  rcases step_some_cases previous timed with ⟨hnew, attempted, h⟩ | ⟨hnew, never, h⟩ | ⟨hnew, h⟩ <;>
    rw [h, Option.mem_some_iff] at member <;> subst member
  · simp [hnew, attempted]
  · simp [hnew, never, merged]
  · simp [hnew, updated]

/-- The state after a run is `stateAfter`: each step's rule, folded into a closed form. -/
theorem run_lastConnectionState (start : MetaAddr) (changes : List TimedChange) :
    ∀ record ∈ run (some start) changes, record.lastConnectionState = stateAfter start changes :=
  run_closed_form MetaAddr.lastConnectionState stateAfter
    (fun record => by simp [stateAfter])
    (fun previous timed rest next hnext => by
      have state := step_lastConnectionState previous timed next hnext
      cases updates : (rest.filter fun timed => !isNew timed.change).getLast? with
      | some last =>
        simp only [stateAfter, getLast?_filter_cons, updates, Option.getD_some, ite_self]
      | none =>
        cases hnew : isNew timed.change
        · have last : ((timed :: rest).filter fun timed => !isNew timed.change).getLast? =
              some timed := by
            simp only [getLast?_filter_cons, hnew, Bool.not_false, if_true, updates,
              Option.getD_none]
          have updated : next.lastConnectionState = timed.change.peerAddrState := by
            simpa [hnew] using state
          simp only [stateAfter, last, updates, updated, peerAddrState_isNeverAttempted, hnew,
            Bool.false_eq_true, if_false]
        · have dropped : ((timed :: rest).filter fun timed => !isNew timed.change).getLast? =
              none := by
            simp only [getLast?_filter_cons, hnew, Bool.not_true, Bool.false_eq_true, if_false,
              updates]
          cases never : previous.lastConnectionState.isNeverAttempted
          · have kept : next.lastConnectionState = previous.lastConnectionState := by
              simpa [hnew, never] using state
            simp only [stateAfter, dropped, updates, never, kept, Bool.false_eq_true, if_false]
          · have merged : next.lastConnectionState = timed.change.peerAddrState := by
              simpa [hnew, never] using state
            simp only [stateAfter, dropped, updates, never, merged, peerAddrState_isNeverAttempted,
              hnew, if_true, List.getLast?_cons, Option.map_some', Option.getD_some]
            cases rest.getLast? <;> rfl)
    changes start

/-- From a consistent entry, a run of changes for its address computes `summary`. -/
theorem run_summary {start : MetaAddr} (consistent : Consistent start)
    {changes : List TimedChange} (forAddr : ForAddr start.addr changes) :
    run (some start) changes = some (summary start changes) := by
  obtain ⟨record, hrecord⟩ := run_some start changes
  obtain ⟨response, attempt, failure⟩ := run_timesSince consistent changes record hrecord
  have addr := run_addr forAddr (by simp) record hrecord
  have services := run_services start changes record hrecord
  have gossip := run_untrustedLastSeen start changes record hrecord
  have state := run_lastConnectionState start changes record hrecord
  rw [hrecord, Option.some.injEq]
  cases record
  simp only [summary, MetaAddr.mk.injEq]
  exact ⟨addr, services, gossip, response, attempt, failure, state⟩

theorem run_none_of_updates {changes : List TimedChange}
    (updates : ∀ timed ∈ changes, isNew timed.change = false) : run none changes = none := by
  induction changes with
  | nil => rfl
  | cons timed rest ih =>
    rw [run_cons, step_none_of_isNew (updates timed (List.mem_cons_self _ _))]
    exact ih fun other member => updates other (List.mem_cons_of_mem _ member)

/-- Continuing a run for one address from an entry it reached gives the summary of the rest. -/
theorem applyRun_append_summary {addr : SocketAddr} {first later : List TimedChange}
    (forAddr : ForAddr addr (first ++ later)) {start : MetaAddr}
    (reached : applyRun none first = .ok (some start)) :
    applyRun none (first ++ later) = .ok (some (summary start later)) := by
  obtain ⟨forFirst, forLater⟩ := forAddr_append_iff.mp forAddr
  have hrun := run_of_applyRun forFirst reached
  have consistent := run_consistent first (by simp) start hrun
  have addr := run_addr forFirst (by simp) start hrun
  rw [applyRun_eq forAddr (by simp), run_append, hrun, run_summary consistent (addr ▸ forLater)]
  rfl

/-- From no entry, a run for one address leaves none if it has no `New…` change: an update for
an absent address is dropped. Otherwise its first `New…` change creates the entry, and the entry
after the run is the summary of the changes after it: the services the last update carried, the
first gossiped time offered before the first update, each local time the latest contributed, and
the state of the last update, or of the last change if there was no update. -/
theorem applyRun_from_none (addr : SocketAddr) (changes : List TimedChange)
    (forAddr : ForAddr addr changes) :
    ((∀ timed ∈ changes, isNew timed.change = false) → applyRun none changes = .ok none) ∧
    (∀ dropped creating later, changes = dropped ++ creating :: later →
      (∀ timed ∈ dropped, isNew timed.change = false) → isNew creating.change →
      ∃ start, creating.change.intoNewMetaAddr creating.clock = .ok (some start) ∧
        applyRun none changes = .ok (some (summary start later))) := by
  refine ⟨fun updates => ?_, fun dropped creating later split updates hnew => ?_⟩
  · rw [applyRun_eq forAddr (by simp), run_none_of_updates updates]
    rfl
  · obtain ⟨start, hstart⟩ : ∃ start, created creating.clock creating.change = some start := by
      obtain ⟨change, clock⟩ := creating
      cases change <;> first | exact ⟨_, rfl⟩ | cases hnew
    refine ⟨start, by rw [intoNewMetaAddr_eq, hstart]; rfl, ?_⟩
    rw [split, List.append_cons] at forAddr ⊢
    have reached : applyRun none (dropped ++ [creating]) = .ok (some start) := by
      rw [applyRun_eq (forAddr_append_iff.mp forAddr).1 (by simp), run_append,
        run_none_of_updates updates, run_cons, step_none, hstart]
      rfl
    exact applyRun_append_summary forAddr reached

/-- An attempt for an absent address, then gossip and an answer: the hypothesis holds. -/
theorem applyRun_from_none_attempt_first :
    ∃ addr changes, ForAddr addr changes ∧
      ((∀ timed ∈ changes, isNew timed.change = false) → applyRun none changes = .ok none) ∧
      (∀ dropped creating later, changes = dropped ++ creating :: later →
        (∀ timed ∈ dropped, isNew timed.change = false) → isNew creating.change →
        ∃ start, creating.change.intoNewMetaAddr creating.clock = .ok (some start) ∧
          applyRun none changes = .ok (some (summary start later))) :=
  ⟨(.v4 ⟨[192, 0, 2, 1], rfl⟩ 8233),
    [⟨.updateAttempt (.v4 ⟨[192, 0, 2, 1], rfl⟩ 8233), ⟨⟨3600⟩, ⟨0⟩⟩⟩,
     ⟨.newGossiped (.v4 ⟨[192, 0, 2, 1], rfl⟩ 8233) .nodeNetwork ⟨1800⟩, ⟨⟨3600⟩, ⟨1⟩⟩⟩,
     ⟨.updateResponded (.v4 ⟨[192, 0, 2, 1], rfl⟩ 8233) .nodeNetwork, ⟨⟨3601⟩, ⟨2⟩⟩⟩],
    by decide, applyRun_from_none (.v4 ⟨[192, 0, 2, 1], rfl⟩ 8233) _ (by decide)⟩

/-- A `New…` change carries no services and contributes no local time. -/
theorem contributions_of_isNew {timed : TimedChange} (hnew : isNew timed.change) :
    carriedServices timed.change = none ∧ timed.change.lastResponse timed.clock = none ∧
      timed.change.lastAttempt timed.clock = none ∧
      timed.change.lastFailure timed.clock = none := by
  obtain ⟨change, clock⟩ := timed
  cases change <;> first | exact ⟨rfl, rfl, rfl, rfl⟩ | cases hnew

theorem filterMap_filter_updates {β : Type} (f : TimedChange → Option β)
    (fresh : ∀ timed, isNew timed.change → f timed = none) (changes : List TimedChange) :
    (changes.filter fun timed => !isNew timed.change).filterMap f = changes.filterMap f := by
  rw [List.filterMap_filter]
  congr 1
  funext timed
  cases hnew : isNew timed.change <;> simp [hnew, fresh]

/-- For an attempted entry the `New…` changes of a run add nothing to its summary. -/
theorem summary_filter_of_attempted {start : MetaAddr}
    (attempted : start.lastConnectionState.isNeverAttempted = false) (changes : List TimedChange) :
    summary start (changes.filter fun timed => !isNew timed.change) = summary start changes := by
  simp only [summary, servicesAfter, untrustedLastSeenAfter, stateAfter, attempted,
    respondedTimes_eq, attemptTimes_eq, failureTimes_eq, List.filter_filter, Bool.and_self,
    Bool.false_eq_true, if_false,
    filterMap_filter_updates _ fun _ hnew => (contributions_of_isNew hnew).1,
    filterMap_filter_updates _ fun _ hnew => (contributions_of_isNew hnew).2.1,
    filterMap_filter_updates _ fun _ hnew => (contributions_of_isNew hnew).2.2.1,
    filterMap_filter_updates _ fun _ hnew => (contributions_of_isNew hnew).2.2.2]

/-- Once an entry has been attempted, gossip no longer changes it: the run gives the same entry
with every `New…` change removed, wherever they stood among the updates. -/
theorem applyRun_attempted_ignores_gossip (addr : SocketAddr) (first later : List TimedChange)
    (forAddr : ForAddr addr (first ++ later)) (start : MetaAddr)
    (reached : applyRun none first = .ok (some start))
    (attempted : start.lastConnectionState.isNeverAttempted = false) :
    applyRun none (first ++ later) =
      applyRun none (first ++ later.filter fun timed => !isNew timed.change) := by
  have forFiltered : ForAddr addr (first ++ later.filter fun timed => !isNew timed.change) :=
    fun timed member => forAddr timed (List.mem_append.mpr ((List.mem_append.mp member).imp id
      fun kept => (List.mem_filter.mp kept).1))
  rw [applyRun_append_summary forAddr reached, applyRun_append_summary forFiltered reached,
    summary_filter_of_attempted attempted]

/-- Gossip interleaved with updates after an attempt: the hypotheses hold. -/
theorem applyRun_attempted_ignores_gossip_interleaved :
    ∃ addr first later start, ForAddr addr (first ++ later) ∧
      applyRun none first = .ok (some start) ∧
      start.lastConnectionState.isNeverAttempted = false ∧
      applyRun none (first ++ later) =
        applyRun none (first ++ later.filter fun timed => !isNew timed.change) :=
  ⟨(.v4 ⟨[192, 0, 2, 1], rfl⟩ 8233),
    [⟨.newGossiped (.v4 ⟨[192, 0, 2, 1], rfl⟩ 8233) .nodeNetwork ⟨1800⟩, ⟨⟨3600⟩, ⟨0⟩⟩⟩,
     ⟨.updateAttempt (.v4 ⟨[192, 0, 2, 1], rfl⟩ 8233), ⟨⟨3600⟩, ⟨1⟩⟩⟩],
    [⟨.newAlternate (.v4 ⟨[192, 0, 2, 1], rfl⟩ 8233) .nodeNetwork, ⟨⟨3601⟩, ⟨2⟩⟩⟩,
     ⟨.updateResponded (.v4 ⟨[192, 0, 2, 1], rfl⟩ 8233) .nodeNetwork, ⟨⟨3602⟩, ⟨3⟩⟩⟩,
     ⟨.newLocal (.v4 ⟨[192, 0, 2, 1], rfl⟩ 8233), ⟨⟨3603⟩, ⟨4⟩⟩⟩],
    _, by decide, by rfl, by rfl,
    applyRun_attempted_ignores_gossip (.v4 ⟨[192, 0, 2, 1], rfl⟩ 8233)
      [⟨.newGossiped (.v4 ⟨[192, 0, 2, 1], rfl⟩ 8233) .nodeNetwork ⟨1800⟩, ⟨⟨3600⟩, ⟨0⟩⟩⟩,
       ⟨.updateAttempt (.v4 ⟨[192, 0, 2, 1], rfl⟩ 8233), ⟨⟨3600⟩, ⟨1⟩⟩⟩]
      [⟨.newAlternate (.v4 ⟨[192, 0, 2, 1], rfl⟩ 8233) .nodeNetwork, ⟨⟨3601⟩, ⟨2⟩⟩⟩,
       ⟨.updateResponded (.v4 ⟨[192, 0, 2, 1], rfl⟩ 8233) .nodeNetwork, ⟨⟨3602⟩, ⟨3⟩⟩⟩,
       ⟨.newLocal (.v4 ⟨[192, 0, 2, 1], rfl⟩ 8233), ⟨⟨3603⟩, ⟨4⟩⟩⟩]
      (by decide) _ rfl rfl⟩

end ZebraNetwork.Guarantees

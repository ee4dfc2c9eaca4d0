import ZebraNetwork.Guarantees.Run

/-!
# The local times of an entry are maxima of what its updates contributed

After a `New…` change creates an entry for one address, `last_response`, `last_attempt` and
`last_failure` are each the greatest time contributed by the `UpdateResponded`,
`UpdateAttempt` and `UpdateFailed` changes applied since (`None` when there were none). Case B,
which resets the three times, only fires on a never-attempted entry, whose times are already
`None` (`Consistent`). So the times never decrease, do not depend on the order of the updates,
and keep an entry out of `is_ready_for_connection_attempt` for the reconnection delay after
each contributed time.
-/

namespace ZebraNetwork.Guarantees
open Source Spec

/-- The times the `UpdateResponded` changes of a run contribute, in order. -/
def respondedTimes (changes : List TimedChange) : List DateTime32 :=
  changes.filterMap fun timed =>
    match timed.change with
    | .updateResponded .. => some timed.clock.now
    | _ => none

/-- The instants the `UpdateAttempt` changes of a run contribute, in order. -/
def attemptTimes (changes : List TimedChange) : List Instant :=
  changes.filterMap fun timed =>
    match timed.change with
    | .updateAttempt _ => some timed.clock.instant
    | _ => none

/-- The instants the `UpdateFailed` changes of a run contribute, in order. -/
def failureTimes (changes : List TimedChange) : List Instant :=
  changes.filterMap fun timed =>
    match timed.change with
    | .updateFailed .. => some timed.clock.instant
    | _ => none

/-- A member of a list is at most its greatest element. -/
theorem le_max?_of_mem {α : Type} [LinearOrder α] {x : α} :
    ∀ {xs : List α}, x ∈ xs → ∃ y, xs.max? = some y ∧ x ≤ y
  | a :: as, member => by
    rw [max?_cons_eq]
    rcases List.mem_cons.mp member with rfl | inTail
    · cases as.max? with
      | none => exact ⟨x, rfl, le_rfl⟩
      | some b => exact ⟨max x b, rfl, le_max_left _ _⟩
    · obtain ⟨y, hy, le⟩ := le_max?_of_mem inTail
      rw [hy]
      exact ⟨max a y, rfl, le.trans (le_max_right _ _)⟩

section Field

variable {α : Type} [LinearOrder α] (field : MetaAddr → Option α)
  (contribution : TimedChange → Option α)

omit [LinearOrder α] in
theorem filterMap_cons_toList (timed : TimedChange) (rest : List TimedChange) :
    (timed :: rest).filterMap contribution = (contribution timed).toList ++ rest.filterMap contribution := by
  cases h : contribution timed <;> simp [h]

omit [LinearOrder α] in
theorem mem_filterMap_head {timed : TimedChange} {rest : List TimedChange} {x : α}
    (h : contribution timed = some x) : x ∈ (timed :: rest).filterMap contribution := by
  simp [List.filterMap_cons, h]

/-- One time field folds in the contribution of each step, for the shape Case A/B/C give it. -/
theorem step_field (fresh : ∀ timed, isNew timed.change → contribution timed = none)
    (merged_field : ∀ (timed : TimedChange) previous, field (merged timed.change timed.clock previous) = none)
    (updated_field : ∀ (timed : TimedChange) previous,
      field (updated timed.change timed.clock previous) = max (contribution timed) (field previous))
    (never_field : ∀ previous, Consistent previous →
      previous.lastConnectionState.isNeverAttempted → field previous = none)
    {previous : MetaAddr} (consistent : Consistent previous) (timed : TimedChange) :
    ∀ next ∈ step (some previous) timed, field next = max (contribution timed) (field previous) := by
  intro next member
  rcases step_some_cases previous timed with ⟨hnew, -, h⟩ | ⟨hnew, never, h⟩ | ⟨-, h⟩ <;>
    rw [h, Option.mem_some_iff] at member <;> subst member
  · rw [fresh timed hnew]
    cases field previous <;> rfl
  · rw [merged_field, fresh timed hnew, never_field previous consistent never]
    rfl
  · exact updated_field timed previous

/-- Over a run from a consistent record, a time field is the greatest of its start and the
contributions. -/
theorem run_field (stepLaw : ∀ previous, Consistent previous → ∀ timed,
      ∀ next ∈ step (some previous) timed, field next = max (contribution timed) (field previous))
    (changes : List TimedChange) :
    ∀ previous, Consistent previous → ∀ record ∈ run (some previous) changes,
      field record = ((field previous).toList ++ changes.filterMap contribution).max? := by
  induction changes with
  | nil =>
    intro previous _ record member
    rw [run_nil, Option.mem_some_iff] at member
    subst member
    simp only [List.filterMap_nil, List.append_nil, max?_toList]
  | cons timed rest ih =>
    intro previous consistent record member
    obtain ⟨next, hnext⟩ := step_some previous timed
    rw [run_cons, hnext] at member
    have hconsistent := step_consistent timed (by simpa using consistent) next hnext
    rw [ih next hconsistent record member, stepLaw previous consistent timed next hnext,
      filterMap_cons_toList, max?_append, max?_append, max?_append, max?_toList, max?_toList,
      max?_toList, max_comm_option (contribution timed), max_assoc_option]

end Field

theorem lastResponse_step {previous : MetaAddr} (consistent : Consistent previous)
    (timed : TimedChange) : ∀ next ∈ step (some previous) timed,
      next.lastResponse = max (timed.change.lastResponse timed.clock) previous.lastResponse :=
  step_field MetaAddr.lastResponse (fun t => t.change.lastResponse t.clock)
    (fun ⟨change, _⟩ hnew => by cases change <;> first | rfl | cases hnew)
    (fun _ _ => rfl) (fun _ _ => rfl) (fun _ consistent never => (consistent.neverAttempted never).1)
    consistent timed

theorem lastAttempt_step {previous : MetaAddr} (consistent : Consistent previous)
    (timed : TimedChange) : ∀ next ∈ step (some previous) timed,
      next.lastAttempt = max (timed.change.lastAttempt timed.clock) previous.lastAttempt :=
  step_field MetaAddr.lastAttempt (fun t => t.change.lastAttempt t.clock)
    (fun ⟨change, _⟩ hnew => by cases change <;> first | rfl | cases hnew)
    (fun _ _ => rfl) (fun _ _ => rfl) (fun _ consistent never => (consistent.neverAttempted never).2.1)
    consistent timed

theorem lastFailure_step {previous : MetaAddr} (consistent : Consistent previous)
    (timed : TimedChange) : ∀ next ∈ step (some previous) timed,
      next.lastFailure = max (timed.change.lastFailure timed.clock) previous.lastFailure :=
  step_field MetaAddr.lastFailure (fun t => t.change.lastFailure t.clock)
    (fun ⟨change, _⟩ hnew => by cases change <;> first | rfl | cases hnew)
    (fun _ _ => rfl) (fun _ _ => rfl) (fun _ consistent never => (consistent.neverAttempted never).2.2)
    consistent timed

theorem respondedTimes_eq (changes : List TimedChange) :
    respondedTimes changes = changes.filterMap fun t => t.change.lastResponse t.clock := by
  unfold respondedTimes
  congr 1
  funext ⟨change, clock⟩
  cases change <;> rfl

theorem attemptTimes_eq (changes : List TimedChange) :
    attemptTimes changes = changes.filterMap fun t => t.change.lastAttempt t.clock := by
  unfold attemptTimes
  congr 1
  funext ⟨change, clock⟩
  cases change <;> rfl

theorem failureTimes_eq (changes : List TimedChange) :
    failureTimes changes = changes.filterMap fun t => t.change.lastFailure t.clock := by
  unfold failureTimes
  congr 1
  funext ⟨change, clock⟩
  cases change <;> rfl

/-- The three times of a record are the maxima of what the changes since `start` contributed. -/
def TimesSince (start : MetaAddr) (changes : List TimedChange) (record : MetaAddr) : Prop :=
  record.lastResponse = ((start.lastResponse.toList ++ respondedTimes changes).max?) ∧
    record.lastAttempt = ((start.lastAttempt.toList ++ attemptTimes changes).max?) ∧
    record.lastFailure = ((start.lastFailure.toList ++ failureTimes changes).max?)

theorem run_timesSince {start : MetaAddr} (consistent : Consistent start)
    (changes : List TimedChange) : ∀ record ∈ run (some start) changes, TimesSince start changes record :=
  fun record member => by
    rw [TimesSince, respondedTimes_eq, attemptTimes_eq, failureTimes_eq]
    exact ⟨run_field _ _ (fun _ c t => lastResponse_step c t) changes start consistent record member,
      run_field _ _ (fun _ c t => lastAttempt_step c t) changes start consistent record member,
      run_field _ _ (fun _ c t => lastFailure_step c t) changes start consistent record member⟩

theorem created_times {clock : Clock} {change : MetaAddrChange} {record : MetaAddr}
    (h : created clock change = some record) :
    record.lastResponse = none ∧ record.lastAttempt = none ∧ record.lastFailure = none := by
  cases change <;> simp only [created, Option.some.injEq, reduceCtorEq] at h <;> subst h <;>
    exact ⟨rfl, rfl, rfl⟩

/-- From creation on, a run for one address is the fold from the created record. -/
theorem applyRun_after_creation {addr : SocketAddr} {first : List TimedChange}
    {creating : TimedChange} (forFirst : ForAddr addr first)
    (same : creating.change.addr = addr) (absent : applyRun none first = .ok none)
    (creates : ∃ record, applyRun none (first ++ [creating]) = .ok (some record)) :
    ∃ start, created creating.clock creating.change = some start ∧
      ∀ later, ForAddr addr later →
        applyRun none (first ++ creating :: later) = pure (run (some start) later) := by
  have hfirst := run_of_applyRun forFirst absent
  obtain ⟨record, hrecord⟩ := creates
  have forCreating : ForAddr addr (first ++ [creating]) := by simp [forFirst, same]
  have hcreated := run_of_applyRun forCreating hrecord
  rw [run_append, hfirst, run_cons, run_nil, step_none] at hcreated
  refine ⟨record, hcreated, fun later forLater => ?_⟩
  have forAll : ForAddr addr (first ++ creating :: later) := by simp [forFirst, same, forLater]
  rw [applyRun_eq forAll (by simp), run_append, hfirst, run_cons, step_none, hcreated]

/-- After creation, each local time of the entry is the greatest time the matching updates
contributed (`None` if there were none): reordering those changes leaves the times as they are,
and a further step never moves one of them back (Rust's `<=` on `Option`). -/
theorem applyRun_times_are_maxima (addr : SocketAddr) (first : List TimedChange)
    (creating : TimedChange) (later : List TimedChange)
    (forAddr : ForAddr addr (first ++ creating :: later))
    (absent : applyRun none first = .ok none)
    (creates : ∃ record, applyRun none (first ++ [creating]) = .ok (some record)) :
    ∃ record, applyRun none (first ++ creating :: later) = .ok (some record) ∧
      record.lastResponse = (respondedTimes later).max? ∧
      record.lastAttempt = (attemptTimes later).max? ∧
      record.lastFailure = (failureTimes later).max? ∧
      (∀ reordered, later.Perm reordered →
        ∃ record', applyRun none (first ++ creating :: reordered) = .ok (some record') ∧
          record'.lastResponse = record.lastResponse ∧ record'.lastAttempt = record.lastAttempt ∧
          record'.lastFailure = record.lastFailure) ∧
      (∀ timed, timed.change.addr = addr →
        ∃ record', applyRun none (first ++ creating :: later ++ [timed]) = .ok (some record') ∧
          compare record.lastResponse record'.lastResponse ≠ .gt ∧
          compare record.lastAttempt record'.lastAttempt ≠ .gt ∧
          compare record.lastFailure record'.lastFailure ≠ .gt) := by
  obtain ⟨forFirst, same, forLater⟩ := by simpa using forAddr
  obtain ⟨start, hstart, hrun⟩ := applyRun_after_creation forFirst same absent creates
  have consistent := consistent_created hstart
  obtain ⟨none_response, none_attempt, none_failure⟩ := created_times hstart
  have times : ∀ changes, ∀ record ∈ run (some start) changes,
      record.lastResponse = (respondedTimes changes).max? ∧
        record.lastAttempt = (attemptTimes changes).max? ∧
        record.lastFailure = (failureTimes changes).max? := fun changes record member => by
    simpa [TimesSince, none_response, none_attempt, none_failure] using
      run_timesSince consistent changes record member
  obtain ⟨record, hrecord⟩ := run_some start later
  obtain ⟨response, attempt, failure⟩ := times later record hrecord
  refine ⟨record, by rw [hrun later forLater, hrecord]; rfl, response, attempt, failure,
    fun reordered perm => ?_, fun timed same => ?_⟩
  · obtain ⟨record', hrecord'⟩ := run_some start reordered
    obtain ⟨response', attempt', failure'⟩ := times reordered record' hrecord'
    have reached : applyRun none (first ++ creating :: reordered) = .ok (some record') := by
      rw [hrun reordered (fun t member => forLater t (perm.mem_iff.mpr member)), hrecord']
      rfl
    -- each field is the maximum of a permuted list of contributions
    refine ⟨record', reached, ?_, ?_, ?_⟩ <;>
      simp only [response, response', attempt, attempt', failure, failure'] <;>
      exact max?_perm (perm.filterMap _).symm
  · have forLonger : ForAddr addr (later ++ [timed]) := by simp [forLater, same]
    obtain ⟨record', hrecord'⟩ := run_some start (later ++ [timed])
    obtain ⟨response', attempt', failure'⟩ := times (later ++ [timed]) record' hrecord'
    have reached : applyRun none (first ++ creating :: later ++ [timed]) = .ok (some record') := by
      rw [List.append_assoc, List.cons_append, hrun _ forLonger, hrecord']
      rfl
    -- each field is the maximum of the old contributions and the new step's
    refine ⟨record', reached, ?_, ?_, ?_⟩ <;>
      simp only [response, response', attempt, attempt', failure, failure', respondedTimes,
        attemptTimes, failureTimes, List.filterMap_append, max?_append] <;>
      exact compare_max_ne_gt _ _

/-- An entry gossiped, attempted, then answered: the hypotheses hold together. -/
theorem applyRun_times_are_maxima_gossiped :
    ∃ addr first creating later, ForAddr addr (first ++ creating :: later) ∧
      applyRun none first = .ok none ∧
      (∃ record, applyRun none (first ++ [creating]) = .ok (some record)) ∧
      ∃ record, applyRun none (first ++ creating :: later) = .ok (some record) ∧
        record.lastResponse = (respondedTimes later).max? ∧
        record.lastAttempt = (attemptTimes later).max? ∧
        record.lastFailure = (failureTimes later).max? ∧
        (∀ reordered, later.Perm reordered →
          ∃ record', applyRun none (first ++ creating :: reordered) = .ok (some record') ∧
            record'.lastResponse = record.lastResponse ∧ record'.lastAttempt = record.lastAttempt ∧
            record'.lastFailure = record.lastFailure) ∧
        (∀ timed, timed.change.addr = addr →
          ∃ record', applyRun none (first ++ creating :: later ++ [timed]) = .ok (some record') ∧
            compare record.lastResponse record'.lastResponse ≠ .gt ∧
            compare record.lastAttempt record'.lastAttempt ≠ .gt ∧
            compare record.lastFailure record'.lastFailure ≠ .gt) :=
  ⟨(.v4 ⟨[192, 0, 2, 1], rfl⟩ 8233), [],
    ⟨.newGossiped (.v4 ⟨[192, 0, 2, 1], rfl⟩ 8233) .nodeNetwork ⟨1800⟩, ⟨⟨3600⟩, ⟨0⟩⟩⟩,
    [⟨.updateAttempt (.v4 ⟨[192, 0, 2, 1], rfl⟩ 8233), ⟨⟨3600⟩, ⟨1⟩⟩⟩,
     ⟨.updateResponded (.v4 ⟨[192, 0, 2, 1], rfl⟩ 8233) .nodeNetwork, ⟨⟨3601⟩, ⟨2⟩⟩⟩],
    by decide, rfl, ⟨_, rfl⟩,
    applyRun_times_are_maxima _ _ _ _ (by decide) rfl ⟨_, rfl⟩⟩

/-- A step that contributes a time leaves every later record of the run with a time at least
as late in that field. -/
theorem timesSince_after_step {addr : SocketAddr} {first : List TimedChange}
    {active : TimedChange} {later : List TimedChange}
    (forAddr : ForAddr addr (first ++ active :: later))
    (existing : ∃ previous, applyRun none first = .ok (some previous))
    {record : MetaAddr} (reached : applyRun none (first ++ active :: later) = .ok (some record)) :
    ∃ previous, TimesSince previous (active :: later) record := by
  obtain ⟨forFirst, -⟩ := forAddr_append_iff.mp forAddr
  obtain ⟨previous, hprevious⟩ := existing
  have hfirst := run_of_applyRun forFirst hprevious
  have hrun := run_of_applyRun forAddr reached
  rw [run_append, hfirst] at hrun
  exact ⟨previous, run_timesSince (run_consistent first (by simp) previous hfirst) _ record hrun⟩

/-- The latest of some instants stays recent for the reconnection delay after each of them. -/
theorem instantIsRecent_max? {times : List Instant} {time : Instant} (contributed : time ∈ times)
    {now : Instant} (within : now.nanos ≤ time.nanos + minPeerReconnectionDelay.nanos) :
    MetaAddr.instantIsRecent times.max? now := by
  obtain ⟨last, hlast, le⟩ := le_max?_of_mem contributed
  rw [hlast, MetaAddr.instantIsRecent_some]
  rw [Instant.le_def] at le
  omega

/-- Once an update to an existing entry contributes an attempt, failure or response time, no
later entry of the run is ready for a connection attempt at any moment up to
`MIN_PEER_RECONNECTION_DELAY` after that time, whatever came in between. -/
theorem applyRun_not_ready_within_delay (addr : SocketAddr) (first : List TimedChange)
    (active : TimedChange) (later : List TimedChange)
    (forAddr : ForAddr addr (first ++ active :: later))
    (existing : ∃ previous, applyRun none first = .ok (some previous))
    (record : MetaAddr) (reached : applyRun none (first ++ active :: later) = .ok (some record))
    (clock : Clock) :
    ((∃ a, active.change = .updateAttempt a) →
      clock.instant.nanos ≤ active.clock.instant.nanos + minPeerReconnectionDelay.nanos →
      record.isReadyForConnectionAttempt clock = false) ∧
    ((∃ a services, active.change = .updateFailed a services) →
      clock.instant.nanos ≤ active.clock.instant.nanos + minPeerReconnectionDelay.nanos →
      record.isReadyForConnectionAttempt clock = false) ∧
    ((∃ a services, active.change = .updateResponded a services) →
      clock.now.timestamp.val ≤ active.clock.now.timestamp.val + minPeerReconnectionDelay.asSecs →
      record.isReadyForConnectionAttempt clock = false) := by
  obtain ⟨previous, response, attempt, failure⟩ := timesSince_after_step forAddr existing reached
  refine ⟨fun ⟨a, hchange⟩ within => ?_, fun ⟨a, services, hchange⟩ within => ?_,
    fun ⟨a, services, hchange⟩ within => ?_⟩
  · have contributed : active.clock.instant ∈ attemptTimes (active :: later) :=
      mem_filterMap_head _ (by rw [hchange])
    have recent : record.wasConnectionRecentlyAttempted clock.instant := by
      rw [MetaAddr.wasConnectionRecentlyAttempted, attempt]
      exact instantIsRecent_max? (List.mem_append_right _ contributed) within
    simp [MetaAddr.isReadyForConnectionAttempt, recent]
  · have contributed : active.clock.instant ∈ failureTimes (active :: later) :=
      mem_filterMap_head _ (by rw [hchange])
    have recent : record.hasConnectionRecentlyFailed clock.instant := by
      rw [MetaAddr.hasConnectionRecentlyFailed, failure]
      exact instantIsRecent_max? (List.mem_append_right _ contributed) within
    simp [MetaAddr.isReadyForConnectionAttempt, recent]
  · have contributed : active.clock.now ∈ respondedTimes (active :: later) :=
      mem_filterMap_head _ (by rw [hchange])
    obtain ⟨last, hlast, le⟩ := le_max?_of_mem (List.mem_append_right _ contributed)
    have recent : record.hasConnectionRecentlyResponded clock.now := by
      rw [MetaAddr.hasConnectionRecentlyResponded_some record (response.trans hlast)]
      rw [DateTime32.le_def] at le
      simp only [minPeerReconnectionDelay32_seconds, Duration.asSecs,
        minPeerReconnectionDelay_nanos] at within ⊢
      omega
    simp [MetaAddr.isReadyForConnectionAttempt, recent]

/-- An attempt on a gossiped entry: the hypotheses hold together. -/
theorem applyRun_not_ready_within_delay_attempted :
    ∃ addr first active later record, ∃ clock : Clock,
      ForAddr addr (first ++ active :: later) ∧
      (∃ previous, applyRun none first = .ok (some previous)) ∧
      applyRun none (first ++ active :: later) = .ok (some record) ∧
      ((∃ a, active.change = .updateAttempt a) →
        clock.instant.nanos ≤ active.clock.instant.nanos + minPeerReconnectionDelay.nanos →
        record.isReadyForConnectionAttempt clock = false) ∧
      ((∃ a services, active.change = .updateFailed a services) →
        clock.instant.nanos ≤ active.clock.instant.nanos + minPeerReconnectionDelay.nanos →
        record.isReadyForConnectionAttempt clock = false) ∧
      ((∃ a services, active.change = .updateResponded a services) →
        clock.now.timestamp.val ≤ active.clock.now.timestamp.val + minPeerReconnectionDelay.asSecs →
        record.isReadyForConnectionAttempt clock = false) :=
  ⟨(.v4 ⟨[192, 0, 2, 1], rfl⟩ 8233),
    [⟨.newGossiped (.v4 ⟨[192, 0, 2, 1], rfl⟩ 8233) .nodeNetwork ⟨1800⟩, ⟨⟨3600⟩, ⟨0⟩⟩⟩],
    ⟨.updateAttempt (.v4 ⟨[192, 0, 2, 1], rfl⟩ 8233), ⟨⟨3600⟩, ⟨1⟩⟩⟩, [], _, ⟨⟨3660⟩, ⟨2⟩⟩,
    by decide, ⟨_, rfl⟩, rfl,
    applyRun_not_ready_within_delay (.v4 ⟨[192, 0, 2, 1], rfl⟩ 8233)
      [⟨.newGossiped (.v4 ⟨[192, 0, 2, 1], rfl⟩ 8233) .nodeNetwork ⟨1800⟩, ⟨⟨3600⟩, ⟨0⟩⟩⟩]
      ⟨.updateAttempt (.v4 ⟨[192, 0, 2, 1], rfl⟩ 8233), ⟨⟨3600⟩, ⟨1⟩⟩⟩ [] (by decide) ⟨_, rfl⟩ _ rfl
      ⟨⟨3660⟩, ⟨2⟩⟩⟩

end ZebraNetwork.Guarantees

import ZebraNetwork.Source.MetaAddrChange

/-!
# The change-application fold, without panics

The spec's §4.3 fold: creation from no record by a `New…` change (§4.2's table), and over an
existing record Case A (reject), Case B (conservative merge) and Case C (update). It is pure and
total; `applyToMetaAddr_eq` shows that `apply_to_meta_addr` computes it whenever the change is
for the record's address, and panics otherwise. A run folds `step`, which keeps the current
record when a change is rejected.
-/

namespace ZebraNetwork.Spec
open Source

/-- A change with the clock readings its application sees. -/
structure TimedChange where
  change : MetaAddrChange
  clock : Clock

/-- §4.2: a `New…` variant, which can create a record. -/
def isNew : MetaAddrChange → Bool
  | .newGossiped .. | .newAlternate .. | .newLocal _ => true
  | .updateAttempt _ | .updateResponded .. | .updateFailed .. => false

/-- §4.2 creation: the record a `New…` change makes from its own fields. -/
def created (clock : Clock) : MetaAddrChange → Option MetaAddr
  | .newGossiped addr services lastSeen =>
    some ⟨addr, services, some lastSeen, none, none, none, .neverAttemptedGossiped⟩
  | .newAlternate addr services =>
    some ⟨addr, services, none, none, none, none, .neverAttemptedAlternate⟩
  | .newLocal addr =>
    some ⟨addr, .nodeNetwork, some clock.now, none, none, none, .neverAttemptedGossiped⟩
  | .updateAttempt _ | .updateResponded .. | .updateFailed .. => none

/-- Case B: keep the services and a gossiped time already set; no local times. -/
def merged (change : MetaAddrChange) (clock : Clock) (previous : MetaAddr) : MetaAddr where
  addr := change.addr
  services := previous.services
  untrustedLastSeen := previous.untrustedLastSeen.or (change.untrustedLastSeen clock)
  lastResponse := none
  lastAttempt := none
  lastFailure := none
  lastConnectionState := change.peerAddrState

/-- Case C: the latest services, the gossiped time kept, each local time the later one. -/
def updated (change : MetaAddrChange) (clock : Clock) (previous : MetaAddr) : MetaAddr where
  addr := change.addr
  services := change.untrustedServices.getD previous.services
  untrustedLastSeen := previous.untrustedLastSeen
  lastResponse := max (change.lastResponse clock) previous.lastResponse
  lastAttempt := max (change.lastAttempt clock) previous.lastAttempt
  lastFailure := max (change.lastFailure clock) previous.lastFailure
  lastConnectionState := change.peerAddrState

/-- §4.3: the next record, `none` when the change is rejected. -/
def apply (change : MetaAddrChange) (clock : Clock) : Option MetaAddr → Option MetaAddr
  | none => created clock change
  | some previous =>
    if isNew change then
      if previous.lastConnectionState.isNeverAttempted then some (merged change clock previous)
      else none
    else some (updated change clock previous)

/-- One step of a run: a rejected change keeps the current record. -/
def step (current : Option MetaAddr) (timed : TimedChange) : Option MetaAddr :=
  (apply timed.change timed.clock current).or current

/-- A run of changes from `current`. -/
def run (current : Option MetaAddr) (changes : List TimedChange) : Option MetaAddr :=
  changes.foldl step current

@[simp] theorem run_nil (current : Option MetaAddr) : run current [] = current := rfl

@[simp] theorem run_cons (current : Option MetaAddr) (timed : TimedChange)
    (changes : List TimedChange) : run current (timed :: changes) = run (step current timed) changes :=
  rfl

theorem run_append (current : Option MetaAddr) (first second : List TimedChange) :
    run current (first ++ second) = run (run current first) second := by
  simp only [run, List.foldl_append]

@[simp] theorem step_none_of_isNew {timed : TimedChange} (hnew : isNew timed.change = false) :
    step none timed = none := by
  obtain ⟨change, clock⟩ := timed
  cases change <;> first | rfl | cases hnew

/-- An existing record stays: `step` never deletes. -/
theorem step_some (previous : MetaAddr) (timed : TimedChange) :
    ∃ next, step (some previous) timed = some next := by
  unfold step
  cases apply timed.change timed.clock (some previous) with
  | none => exact ⟨previous, rfl⟩
  | some next => exact ⟨next, rfl⟩

theorem run_some (previous : MetaAddr) (changes : List TimedChange) :
    ∃ next, run (some previous) changes = some next := by
  induction changes generalizing previous with
  | nil => exact ⟨previous, rfl⟩
  | cons timed rest ih =>
    obtain ⟨next, hnext⟩ := step_some previous timed
    simpa only [run_cons, hnext] using ih next

/-- `into_new_meta_addr` never panics and returns the §4.2 record. -/
theorem intoNewMetaAddr_eq (change : MetaAddrChange) (clock : Clock) :
    change.intoNewMetaAddr clock = pure (created clock change) := by
  cases change <;> rfl

/-- `apply_to_meta_addr` refines the fold: it panics exactly on an address mismatch, and
otherwise returns what the fold returns. -/
theorem applyToMetaAddr_eq (change : MetaAddrChange) (clock : Clock)
    (previous : Option MetaAddr) (same : ∀ p ∈ previous, p.addr = change.addr) :
    change.applyToMetaAddr clock previous = pure (apply change clock previous) := by
  cases previous with
  | none => exact intoNewMetaAddr_eq change clock
  | some p =>
    have hp : p.addr = change.addr := same p rfl
    cases change <;> cases hstate : p.lastConnectionState.isNeverAttempted <;>
      simp [MetaAddrChange.applyToMetaAddr, intoNewMetaAddr_eq, apply, created, isNew, merged,
        updated, hp, hstate, MetaAddrChange.peerAddrState] <;>
      simp [PeerAddrState.isNeverAttempted]

theorem applyToMetaAddr_mismatch (change : MetaAddrChange) (clock : Clock) (previous : MetaAddr)
    (different : previous.addr ≠ change.addr) :
    change.applyToMetaAddr clock (some previous) = throw "unexpected addr mismatch" := by
  simp only [MetaAddrChange.applyToMetaAddr, different, ne_eq, not_false_eq_true, if_true]
  rfl

end ZebraNetwork.Spec

import ZebraNetwork.Spec.Run

/-!
# Runs of `apply_to_meta_addr` for one address

The address book folds the changes for one address into its entry with
`MetaAddrChange::apply_to_meta_addr`, keeping the entry when a change is rejected. For a run
whose changes are all for one address the `assert_eq!` never fires (`applyRun_eq`), so every
result of the source run is a result of the panic-free fold of `ZebraNetwork.Spec`, and the
invariants proved there hold of every entry the source reaches. For any run, the panics are
exactly the changes that meet an entry for another address (`applyRun_eq_error_iff`).
-/

namespace ZebraNetwork.Guarantees
open Source Spec

/-- One update of an address book entry: a change `apply_to_meta_addr` rejects keeps it. -/
def applyStep (current : Option MetaAddr) (timed : TimedChange) :
    Except String (Option MetaAddr) := do
  let next ← timed.change.applyToMetaAddr timed.clock current
  return next.or current

/-- The entry after a run of changes from `current`; a panic stops the run. -/
def applyRun (current : Option MetaAddr) : List TimedChange → Except String (Option MetaAddr)
  | [] => pure current
  | timed :: rest => do applyRun (← applyStep current timed) rest

theorem applyStep_eq {current : Option MetaAddr} {timed : TimedChange}
    (same : ∀ record ∈ current, record.addr = timed.change.addr) :
    applyStep current timed = pure (step current timed) := by
  simp only [applyStep, applyToMetaAddr_eq timed.change timed.clock current same, pure_bind]
  rfl

/-- A run for one address never panics and computes the fold. -/
theorem applyRun_eq {addr : SocketAddr} {current : Option MetaAddr} {changes : List TimedChange}
    (forAddr : ForAddr addr changes) (before : ∀ record ∈ current, record.addr = addr) :
    applyRun current changes = pure (run current changes) := by
  induction changes generalizing current with
  | nil => rfl
  | cons timed rest ih =>
    obtain ⟨same, forRest⟩ := forAddr_cons.mp forAddr
    simp only [applyRun, applyStep_eq (fun r member => (before r member).trans same.symm),
      pure_bind]
    exact ih forRest (step_addr same before)

theorem run_of_applyRun {addr : SocketAddr} {changes : List TimedChange}
    {result : Option MetaAddr} (forAddr : ForAddr addr changes)
    (reached : applyRun none changes = .ok result) : run none changes = result := by
  rw [applyRun_eq forAddr (by simp)] at reached
  exact Except.ok.inj reached

/-- Every entry a run for `addr` reaches has that address and a set time for its state, none
if it is never-attempted; and once attempted it stays attempted for the rest of the run. -/
theorem applyRun_reached_consistent (addr : SocketAddr) (first later : List TimedChange)
    (forAddr : ForAddr addr (first ++ later)) (record : MetaAddr)
    (reached : applyRun none first = .ok (some record)) :
    record.addr = addr ∧ Consistent record ∧
      (record.lastConnectionState.isNeverAttempted = false →
        ∃ next, applyRun none (first ++ later) = .ok (some next) ∧
          next.lastConnectionState.isNeverAttempted = false) := by
  obtain ⟨forFirst, -⟩ := forAddr_append_iff.mp forAddr
  have hrun := run_of_applyRun forFirst reached
  refine ⟨run_addr forFirst (by simp) record hrun, run_consistent first (by simp) record hrun,
    fun attempted => ?_⟩
  obtain ⟨next, hnext⟩ := run_some record later
  refine ⟨next, ?_, run_attempted later attempted next hnext⟩
  rw [applyRun_eq forAddr (by simp), run_append, hrun, hnext]
  rfl

/-- A gossiped entry that is attempted, then answers: the hypotheses hold together, and the entry
reached by the attempt is attempted. -/
theorem applyRun_reached_consistent_gossiped_then_attempted :
    ∃ addr first later record, ForAddr addr (first ++ later) ∧
      applyRun none first = .ok (some record) ∧
      record.addr = addr ∧ Consistent record ∧
      (record.lastConnectionState.isNeverAttempted = false →
        ∃ next, applyRun none (first ++ later) = .ok (some next) ∧
          next.lastConnectionState.isNeverAttempted = false) :=
  ⟨(.v4 ⟨[192, 0, 2, 1], rfl⟩ 8233),
    [⟨.newGossiped (.v4 ⟨[192, 0, 2, 1], rfl⟩ 8233) .nodeNetwork ⟨1800⟩, ⟨⟨3600⟩, ⟨0⟩⟩⟩,
     ⟨.updateAttempt (.v4 ⟨[192, 0, 2, 1], rfl⟩ 8233), ⟨⟨3600⟩, ⟨1⟩⟩⟩],
    [⟨.updateResponded (.v4 ⟨[192, 0, 2, 1], rfl⟩ 8233) .nodeNetwork, ⟨⟨3601⟩, ⟨2⟩⟩⟩], _,
    by decide, rfl, applyRun_reached_consistent _ _ _ (by decide) _ rfl⟩

/-- Applying a change twice to an entry for its address, at the same clock readings, gives
what applying it once gives, and neither application panics. -/
theorem applyStep_twice (current : Option MetaAddr) (timed : TimedChange)
    (same : ∀ record ∈ current, record.addr = timed.change.addr) :
    (applyStep current timed >>= fun next => applyStep next timed) = applyStep current timed := by
  rw [applyStep_eq same, pure_bind, applyStep_eq (step_addr rfl same), step_step]

/-- An attempt applied twice to a gossiped entry: the hypothesis holds. -/
theorem applyStep_twice_attempt :
    ∃ (current : Option MetaAddr) (timed : TimedChange),
      (∀ record ∈ current, record.addr = timed.change.addr) ∧
      (applyStep current timed >>= fun next => applyStep next timed) = applyStep current timed :=
  ⟨some ⟨(.v4 ⟨[192, 0, 2, 1], rfl⟩ 8233), .nodeNetwork, some ⟨1800⟩, none, none, none,
      .neverAttemptedGossiped⟩,
    ⟨.updateAttempt (.v4 ⟨[192, 0, 2, 1], rfl⟩ 8233), ⟨⟨3600⟩, ⟨1⟩⟩⟩,
    fun _ member => by cases member; rfl,
    applyStep_twice
      (some ⟨(.v4 ⟨[192, 0, 2, 1], rfl⟩ 8233), .nodeNetwork, some ⟨1800⟩, none, none, none,
        .neverAttemptedGossiped⟩)
      ⟨.updateAttempt (.v4 ⟨[192, 0, 2, 1], rfl⟩ 8233), ⟨⟨3600⟩, ⟨1⟩⟩⟩
      fun _ member => by cases member; rfl⟩

/-- A run of `first ++ later` runs `first`, then `later` from where it stopped; a panic stops it. -/
theorem applyRun_append (current : Option MetaAddr) (first later : List TimedChange) :
    applyRun current (first ++ later) =
      applyRun current first >>= fun entry => applyRun entry later := by
  induction first generalizing current with
  | nil => exact (pure_bind _ _).symm
  | cons timed rest ih => simp only [List.cons_append, applyRun, List.append_eq, ih, bind_assoc]

/-- `apply_to_meta_addr` panics only on an entry for another address, with its `assert_eq!`
message. -/
theorem applyStep_eq_error {current : Option MetaAddr} {timed : TimedChange} {message : String} :
    applyStep current timed = .error message ↔ message = "unexpected addr mismatch" ∧
      ∃ entry, current = some entry ∧ entry.addr ≠ timed.change.addr := by
  by_cases same : ∀ record ∈ current, record.addr = timed.change.addr
  · rw [applyStep_eq same]
    constructor
    · nofun
    · rintro ⟨-, entry, rfl, different⟩
      exact absurd (same entry rfl) different
  · push_neg at same
    obtain ⟨entry, member, different⟩ := same
    rw [Option.mem_def] at member
    subst member
    simp only [applyStep, applyToMetaAddr_mismatch _ _ _ different]
    exact ⟨fun h => ⟨(Except.error.inj h).symm, entry, rfl, different⟩,
      fun ⟨h, _⟩ => h ▸ rfl⟩

/-- A run panics exactly when one of its changes meets an entry for another address, and the
panic is then the `assert_eq!` of `apply_to_meta_addr`: the `expect` of `into_new_meta_addr`
never fires, and without an entry no change panics. Addresses are compared whole, so an entry
and a change that differ only in an IPv6 scope id or flow label panic; the error is the
assertion's message, without the `left`/`right` values Rust prints around it. -/
theorem applyRun_eq_error_iff (current : Option MetaAddr) (changes : List TimedChange)
    (message : String) :
    applyRun current changes = .error message ↔ message = "unexpected addr mismatch" ∧
      ∃ before timed after entry, changes = before ++ timed :: after ∧
        applyRun current before = .ok (some entry) ∧ entry.addr ≠ timed.change.addr := by
  constructor
  · induction changes generalizing current with
    | nil => nofun
    | cons timed rest ih =>
      intro panics
      cases hstep : applyStep current timed with
      | error first =>
        rw [applyRun, hstep] at panics
        obtain ⟨mismatch, entry, rfl, different⟩ := applyStep_eq_error.mp (hstep.trans panics)
        exact ⟨mismatch, [], timed, rest, entry, rfl, rfl, different⟩
      | ok next =>
        rw [applyRun, hstep] at panics
        obtain ⟨mismatch, before, met, after, entry, split, reached, different⟩ := ih next panics
        refine ⟨mismatch, timed :: before, met, after, entry, by rw [split]; rfl, ?_, different⟩
        rw [applyRun, hstep]
        exact reached
  · rintro ⟨rfl, before, timed, after, entry, rfl, reached, different⟩
    rw [applyRun_append, reached]
    show applyStep (some entry) timed >>= (fun next => applyRun next after) = _
    rw [(applyStep_eq_error.mpr ⟨rfl, entry, rfl, different⟩)]
    rfl

end ZebraNetwork.Guarantees

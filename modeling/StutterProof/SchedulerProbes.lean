import Mathlib.Logic.Function.Basic
import StutterProof.KeyedTable

/-! # The scheduler probes

The eBPF handlers of `sched_wakeup`, `sched_switch`, `sched_migrate_task` and the exit of a
process, over the maps they share.  A handler reads its tracepoint field by field and stops
at the first read that fails; an insert into a hash map may fail, a removal of a present key
does not.  One run of the probes is one handler after the other, with the target pids changed
in between by userspace.

The counters of dropped records, the page-fault counters and the emitted events are left out:
nothing here reads them back. -/
namespace Stutter.Probes

/-- `BPF_MAX_TRACKED_CPUS`. -/
def maxTrackedCpus : UInt32 := 16384

/-- `valid_cpu`. -/
def validCpu (cpu : UInt32) : Bool := cpu < maxTrackedCpus

/-- A wakeup that waits for its switch. -/
structure WakeupData where
  ts : UInt64
  targetCpu : UInt32
  wakerTid : UInt32
  seq : UInt32
  deriving DecidableEq

/-- The maps.  An array is read and written below its length only. -/
structure Maps where
  targetPids : UInt32 → Bool
  wakeupData : Table UInt32 WakeupData
  wakeupConsumed : Table UInt32 WakeupData
  wakeupSeq : Table UInt32 UInt32
  runnableTaskCpu : Table UInt32 UInt32
  cpuRunnableDepth : UInt32 → UInt32
  targetPendingWakeups : UInt32 → UInt32

/-- The maps when the probes are attached. -/
def Maps.initial : Maps :=
  ⟨fun _ => false, .empty, .empty, .empty, .empty, fun _ => 0, fun _ => 0⟩

/-- Which inserts of one handler succeed: none of them inserts into one map twice. -/
structure Inserts where
  wakeupSeq : Bool
  wakeupData : Bool
  wakeupConsumed : Bool
  runnableTaskCpu : Bool

/-! ## Wakeup records -/

/-- `next_wakeup_seq`. -/
def nextWakeupSeq (maps : Maps) (inserts : Inserts) (pid : UInt32) : Option (UInt32 × Maps) :=
  let next := match maps.wakeupSeq.get pid with
    | some seq => seq + 1
    | none => 1
  if !inserts.wakeupSeq then none
  else some (next, { maps with wakeupSeq := maps.wakeupSeq.insert pid next })

/-- `same_wakeup_consumed`. -/
def sameWakeupConsumed (maps : Maps) (pid : UInt32) (data : WakeupData) : Bool :=
  maps.wakeupConsumed.get pid = some data

/-- The pending wakeup of a task: the record, unless it is the one the cursor names. -/
def pendingWakeup (maps : Maps) (pid : UInt32) : Option WakeupData :=
  (maps.wakeupData.get pid).filter fun data => !sameWakeupConsumed maps pid data

/-- What recording a wakeup did. -/
inductive WakeupRecord where
  | insertFailed
  | newPending
  | replacedPendingSameCpu
  | replacedPendingMovedCpu (old : WakeupData)

/-- `record_wakeup`. -/
def recordWakeup (maps : Maps) (inserts : Inserts) (pid : UInt32) (data : WakeupData) :
    WakeupRecord × Maps :=
  let pendingOld := pendingWakeup maps pid
  if !inserts.wakeupData then (.insertFailed, maps)
  else
    -- a new wakeup supersedes the cursor of an older one
    let maps := { maps with
      wakeupData := maps.wakeupData.insert pid data
      wakeupConsumed := maps.wakeupConsumed.remove pid }
    match pendingOld with
    | none => (.newPending, maps)
    | some old =>
      if old.targetCpu = data.targetCpu then (.replacedPendingSameCpu, maps)
      else (.replacedPendingMovedCpu old, maps)

/-- What a switch took. -/
inductive WakeupConsume where
  | none
  | ok (data : WakeupData)
  | cursorInsertFailed (data : WakeupData)

/-- `consume_pending_wakeup`: the record stays, the cursor names it. -/
def consumePendingWakeup (maps : Maps) (inserts : Inserts) (pid : UInt32) : WakeupConsume × Maps :=
  match maps.wakeupData.get pid with
  | none => (.none, maps)
  | some data =>
    if sameWakeupConsumed maps pid data then (.none, maps)
    else if !inserts.wakeupConsumed then (.cursorInsertFailed data, maps)
    else (.ok data, { maps with wakeupConsumed := maps.wakeupConsumed.insert pid data })

/-- `drop_pending_wakeup_after_cursor_failure`. -/
def dropPendingWakeupAfterCursorFailure (maps : Maps) (pid : UInt32) (expected : WakeupData) :
    Bool × Maps :=
  match maps.wakeupData.get pid with
  | none => (false, maps)
  | some current =>
    if current ≠ expected || sameWakeupConsumed maps pid expected then (false, maps)
    else (true, { maps with
      wakeupData := maps.wakeupData.remove pid
      wakeupConsumed := maps.wakeupConsumed.remove pid })

/-- `remove_for_exit`: the record, if it was pending. -/
def removeForExit (maps : Maps) (pid : UInt32) : Option WakeupData × Maps :=
  (pendingWakeup maps pid, { maps with
    wakeupData := maps.wakeupData.remove pid
    wakeupConsumed := maps.wakeupConsumed.remove pid
    wakeupSeq := maps.wakeupSeq.remove pid })

/-! ## Runnable depth -/

/-- `u32::saturating_add(1)`. -/
def saturatingSucc (n : UInt32) : UInt32 := if n = 0xffffffff then n else n + 1

/-- `u32::saturating_sub(1)`. -/
def saturatingPred (n : UInt32) : UInt32 := if n = 0 then n else n - 1

/-- One slot of a CPU's array changed, if the CPU is tracked. -/
def atCpu (array : UInt32 → UInt32) (cpu : UInt32) (change : UInt32 → UInt32) : UInt32 → UInt32 :=
  if validCpu cpu then Function.update array cpu (change (array cpu)) else array

/-- `increment_cpu_runnable_depth`. -/
def incrementCpuRunnableDepth (maps : Maps) (cpu : UInt32) : Maps :=
  { maps with cpuRunnableDepth := atCpu maps.cpuRunnableDepth cpu saturatingSucc }

/-- `decrement_cpu_runnable_depth`. -/
def decrementCpuRunnableDepth (maps : Maps) (cpu : UInt32) : Maps :=
  { maps with cpuRunnableDepth := atCpu maps.cpuRunnableDepth cpu saturatingPred }

/-- `increment_target_pending`. -/
def incrementTargetPending (maps : Maps) (cpu : UInt32) : Maps :=
  { maps with targetPendingWakeups := atCpu maps.targetPendingWakeups cpu saturatingSucc }

/-- `decrement_target_pending`. -/
def decrementTargetPending (maps : Maps) (cpu : UInt32) : Maps :=
  { maps with targetPendingWakeups := atCpu maps.targetPendingWakeups cpu saturatingPred }

/-- The reverse map's entry of a task, written. -/
def setRunnableTaskCpu (maps : Maps) (pid cpu : UInt32) : Maps :=
  { maps with runnableTaskCpu := maps.runnableTaskCpu.insert pid cpu }

/-- The reverse map's entry of a task, removed. -/
def dropRunnableTaskCpu (maps : Maps) (pid : UInt32) : Maps :=
  { maps with runnableTaskCpu := maps.runnableTaskCpu.remove pid }

/-- `mark_task_runnable`: whether the task is counted on the CPU now. -/
def markTaskRunnable (maps : Maps) (inserts : Inserts) (pid targetCpu : UInt32) : Bool × Maps :=
  if pid = 0 then (false, maps)
  else if !validCpu targetCpu then (false, maps)
  else match maps.runnableTaskCpu.get pid with
    | some oldCpu =>
      if oldCpu = targetCpu then (true, maps)
      -- the reverse map before the counts: a failed insert leaves both as they were
      else if !inserts.runnableTaskCpu then (false, maps)
      else (true, incrementCpuRunnableDepth
        (decrementCpuRunnableDepth (setRunnableTaskCpu maps pid targetCpu) oldCpu) targetCpu)
    | none =>
      if !inserts.runnableTaskCpu then (false, maps)
      else (true, incrementCpuRunnableDepth (setRunnableTaskCpu maps pid targetCpu) targetCpu)

/-- `mark_task_running`. -/
def markTaskRunning (maps : Maps) (pid currentCpu : UInt32) : Maps :=
  if pid = 0 then maps
  else match maps.runnableTaskCpu.get pid with
    | some storedCpu =>
      let cpu := if validCpu storedCpu then storedCpu else currentCpu
      dropRunnableTaskCpu (decrementCpuRunnableDepth maps cpu) pid
    | none => maps

/-- `remove_runnable_task_if_present`. -/
def removeRunnableTaskIfPresent (maps : Maps) (pid : UInt32) : Maps :=
  if pid = 0 then maps
  else match maps.runnableTaskCpu.get pid with
    | some cpu => dropRunnableTaskCpu (decrementCpuRunnableDepth maps cpu) pid
    | none => maps

/-! ## Handlers -/

/-- The counters of a wakeup that was recorded. -/
def countWakeup (maps : Maps) (inserts : Inserts) (pid targetCpu : UInt32) : Maps :=
  let (tracked, maps) := markTaskRunnable maps inserts pid targetCpu
  if tracked then incrementTargetPending maps targetCpu else maps

/-- `try_sched_wakeup`. -/
def trySchedWakeup (maps : Maps) (pid : Option Int32) (targetCpu : Option UInt32) (now : UInt64)
    (wakerTid : UInt32) (inserts : Inserts) : Maps :=
  match pid, targetCpu with
  | some pid, some targetCpu =>
    if pid ≤ 0 then maps
    else
      let pid := pid.toUInt32
      if !maps.targetPids pid then maps
      else match nextWakeupSeq maps inserts pid with
        | none => maps
        | some (seq, maps) =>
          match recordWakeup maps inserts pid ⟨now, targetCpu, wakerTid, seq⟩ with
          | (.insertFailed, maps) => maps
          | (.newPending, maps) => countWakeup maps inserts pid targetCpu
          | (.replacedPendingMovedCpu old, maps) =>
            countWakeup (decrementTargetPending maps old.targetCpu) inserts pid targetCpu
          | (.replacedPendingSameCpu, maps) => (markTaskRunnable maps inserts pid targetCpu).2
  | _, _ => maps

/-- The way out of a switch that consumed a wakeup and reports nothing. -/
def abandonWakeup (maps : Maps) (pid : UInt32) (data : WakeupData) : Maps :=
  removeRunnableTaskIfPresent (decrementTargetPending maps data.targetCpu) pid

/-- `try_sched_switch`.  The reads after the counters are settled change no map. -/
def trySchedSwitch (maps : Maps) (nextPid prevPid : Option Int32) (prevState : Option Int64)
    (cpu : UInt32) (inserts : Inserts) : Maps :=
  match nextPid with
  | none => maps
  | some nextPid =>
    if nextPid ≤ 0 then maps
    else
      let pid := nextPid.toUInt32
      match consumePendingWakeup maps inserts pid with
      | (.none, maps) => maps
      | (.cursorInsertFailed data, maps) =>
        match dropPendingWakeupAfterCursorFailure maps pid data with
        | (true, maps) => abandonWakeup maps pid data
        | (false, maps) => maps
      | (.ok data, maps) =>
        if !maps.targetPids pid then abandonWakeup maps pid data
        else match prevPid, prevState with
          | some _, some _ => decrementTargetPending (markTaskRunning maps pid cpu) data.targetCpu
          | _, _ => abandonWakeup maps pid data

/-- `try_sched_migrate_task`. -/
def trySchedMigrateTask (maps : Maps) (pid origCpu destCpu : Option Int32) (inserts : Inserts) :
    Maps :=
  match pid with
  | none => maps
  | some pid =>
    if pid ≤ 0 then maps
    else
      let pid := pid.toUInt32
      if !maps.targetPids pid then maps
      else match origCpu, destCpu with
        | some _, some destCpu =>
          let newCpu := destCpu.toUInt32
          match maps.runnableTaskCpu.get pid with
          | some oldCpu =>
            if oldCpu ≠ newCpu then (markTaskRunnable maps inserts pid newCpu).2 else maps
          | none => maps
        | _, _ => maps

/-- `try_sched_process_exit`. -/
def trySchedProcessExit (maps : Maps) (tid : UInt32) : Maps :=
  match removeForExit (removeRunnableTaskIfPresent maps tid) tid with
  | (some old, maps) => decrementTargetPending maps old.targetCpu
  | (none, maps) => maps

/-! ## Runs -/

/-- One handler's run, with what its tracepoint and its inserts answer, or a change of the
target pids. -/
inductive Event where
  | wakeup (pid : Option Int32) (targetCpu : Option UInt32) (now : UInt64) (wakerTid : UInt32)
      (inserts : Inserts)
  | switch (nextPid prevPid : Option Int32) (prevState : Option Int64) (cpu : UInt32)
      (inserts : Inserts)
  | migrate (pid origCpu destCpu : Option Int32) (inserts : Inserts)
  | exit (tid : UInt32)
  | retarget (targetPids : UInt32 → Bool)

def Maps.step (maps : Maps) : Event → Maps
  | .wakeup pid targetCpu now wakerTid inserts =>
    trySchedWakeup maps pid targetCpu now wakerTid inserts
  | .switch nextPid prevPid prevState cpu inserts =>
    trySchedSwitch maps nextPid prevPid prevState cpu inserts
  | .migrate pid origCpu destCpu inserts => trySchedMigrateTask maps pid origCpu destCpu inserts
  | .exit tid => trySchedProcessExit maps tid
  | .retarget targetPids => { maps with targetPids := targetPids }

/-- The maps after a run of events. -/
def Maps.run (maps : Maps) (events : List Event) : Maps := events.foldl Maps.step maps

end Stutter.Probes

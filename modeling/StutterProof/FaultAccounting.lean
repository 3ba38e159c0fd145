import Mathlib.Data.List.Sort
import StutterProof.CounterReadings
import StutterProof.LatencyWindow
import StutterProof.OrderedTable

/-! # Page faults

The kernel side counts the page faults of every target in a map, and sends the counts of a task
along with its scheduler events.  The monitor makes two kinds of deltas of them: of the map, at
every interval in which a task has samples, and of the events, when it records them.  Each kind has
a baseline of its own. -/
namespace Stutter.Faults

open Metrics (LatencyStats)

/-! ## The kernel side -/

/-- `FaultCounters`. -/
structure FaultCounters where
  maj : Nat
  min : Nat

/-- What the monitor reads of the counters: the major and the minor faults. -/
def FaultCounters.read (counters : FaultCounters) : Nat × Nat := (counters.maj, counters.min)

/-- `PREV_FAULTS`. -/
abbrev PrevFaults := Table Nat FaultCounters

/-- `try_major_fault` of a target; `room` is whether the map takes another entry. -/
def tryMajorFault (prevFaults : PrevFaults) (tid : Nat) (room : Bool) : PrevFaults :=
  match prevFaults.get tid with
  | some counters => prevFaults.insert tid { counters with maj := counters.maj + 1 }
  | none => if room then prevFaults.insert tid ⟨1, 0⟩ else prevFaults

/-- `try_minor_fault` of a target. -/
def tryMinorFault (prevFaults : PrevFaults) (tid : Nat) (room : Bool) : PrevFaults :=
  match prevFaults.get tid with
  | some counters => prevFaults.insert tid { counters with min := counters.min + 1 }
  | none => if room then prevFaults.insert tid ⟨0, 1⟩ else prevFaults

/-- `SchedulerEvent`, as far as the faults go. -/
structure SchedulerEvent where
  tid : Nat
  latencyNs : Nat
  majFlt : Nat
  minFlt : Nat
  deriving DecidableEq

def SchedulerEvent.counters (event : SchedulerEvent) : Nat × Nat := (event.majFlt, event.minFlt)

/-- The event that `try_sched_switch` sends for the task that runs next. -/
def schedSwitchEvent (prevFaults : PrevFaults) (tid latencyNs : Nat) : SchedulerEvent :=
  let faults := (prevFaults.get tid).getD ⟨0, 0⟩
  { tid := tid, latencyNs := latencyNs, majFlt := faults.maj, minFlt := faults.min }

/-! ## The statistics of a task -/

/-- `SpikeRecord`, as far as the faults go. -/
structure SpikeRecord where
  latencyNs : Nat
  majorFaults : Nat
  minorFaults : Nat
  deriving DecidableEq

/-- `TaskStats`, as far as the faults go. -/
structure TaskStats where
  intervalLatency : LatencyStats
  topSpikes : List SpikeRecord
  lastSpikeMajorFaults : Nat
  lastSpikeMinorFaults : Nat

def TaskStats.new : TaskStats := ⟨.new, [], 0, 0⟩

/-- `TaskStats::record`: the statistics and the fault deltas. -/
def TaskStats.record (stats : TaskStats) (event : SchedulerEvent) (spikeThresholdNs : Nat) :
    TaskStats × (Nat × Nat) :=
  let majorFaults := event.majFlt - stats.lastSpikeMajorFaults
  let minorFaults := event.minFlt - stats.lastSpikeMinorFaults
  let topSpikes :=
    if spikeThresholdNs ≤ event.latencyNs then
      let pushed := stats.topSpikes ++ [⟨event.latencyNs, majorFaults, minorFaults⟩]
      (pushed.insertionSort fun a b => b.latencyNs ≤ a.latencyNs).take 16
    else stats.topSpikes
  ({ intervalLatency := stats.intervalLatency.record event.latencyNs
     topSpikes := topSpikes
     -- the baseline follows every event, not only the spikes
     lastSpikeMajorFaults := event.majFlt
     lastSpikeMinorFaults := event.minFlt }, (majorFaults, minorFaults))

/-! ## The interval summaries -/

/-- `IntervalRecord`, as far as the faults go. -/
structure IntervalRecord where
  task : Nat
  samples : Nat
  majorFaults : Nat
  minorFaults : Nat

/-- One turn of the loop of `collect_interval_summaries_labeled`, over the snapshot of the counters
and the records. -/
def collectTask (read : Nat → Option (Nat × Nat))
    (acc : Table Nat (Nat × Nat) × List IntervalRecord) (entry : Nat × TaskStats) :
    Table Nat (Nat × Nat) × List IntervalRecord :=
  let (task, stats) := entry
  let (snapshot, records) := acc
  let counters := read task
  let (majDelta, minDelta) :=
    match counters with
    | some (currentMaj, currentMin) =>
      let prev := (snapshot.get task).getD (currentMaj, currentMin)
      (currentMaj - prev.1, currentMin - prev.2)
    | none => (0, 0)
  match stats.intervalLatency.snapshot with
  | none => acc
  | some latency =>
    let snapshot :=
      match counters with
      | some current => snapshot.insert task current
      | none => snapshot.remove task
    (snapshot, records ++ [⟨task, latency.count, majDelta, minDelta⟩])

/-- `snapshot_and_reset` of the interval's latencies. -/
def TaskStats.reset (stats : TaskStats) : TaskStats :=
  match stats.intervalLatency.snapshot with
  | some _ => { stats with intervalLatency := .new }
  | none => stats

/-! ## The monitor -/

/-- The fault counters on both sides. -/
structure Monitor where
  prevFaults : PrevFaults
  /-- the events that were sent and not read yet -/
  ring : List SchedulerEvent
  statsByTask : Table Nat TaskStats
  prevFaultsSnapshot : Table Nat (Nat × Nat)

namespace Monitor

def initial : Monitor := ⟨.empty, [], .empty, .empty⟩

/-- What a read of the map returns: `map` is `none` where the monitor has no map, and else says for
which tasks the read succeeds. -/
def reading (monitor : Monitor) (map : Option (Nat → Bool)) (tid : Nat) : Option (Nat × Nat) :=
  map.bind fun readable =>
    if readable tid then (monitor.prevFaults.get tid).map FaultCounters.read else none

/-- `collect_interval_summaries_labeled`. -/
def collectIntervalSummaries (monitor : Monitor) (map : Option (Nat → Bool)) :
    Monitor × List IntervalRecord :=
  let snapshot := if map.isNone then .empty else monitor.prevFaultsSnapshot
  let collected :=
    monitor.statsByTask.inOrder.foldl (collectTask (monitor.reading map)) (snapshot, [])
  ({ monitor with
     statsByTask := monitor.statsByTask.mapValues TaskStats.reset
     prevFaultsSnapshot := collected.1 }, collected.2)

/-- The next event is read and recorded; the deltas are returned with it. -/
def interpretNext (monitor : Monitor) (spikeThresholdNs : Nat) :
    Monitor × Option (SchedulerEvent × (Nat × Nat)) :=
  match monitor.ring with
  | [] => (monitor, none)
  | event :: ring =>
    let stats := (monitor.statsByTask.get event.tid).getD .new
    let (stats, deltas) := stats.record event spikeThresholdNs
    ({ monitor with ring, statsByTask := monitor.statsByTask.insert event.tid stats },
      some (event, deltas))

/-- `remove_prev_faults_state`, for a target that is removed or replaced. -/
def removePrevFaultsState (monitor : Monitor) (tid : Nat) : Monitor :=
  { monitor with
    prevFaults := monitor.prevFaults.remove tid
    prevFaultsSnapshot := monitor.prevFaultsSnapshot.remove tid }

end Monitor

/-- What happens, on either side. -/
inductive Step where
  | majorFault (tid : Nat) (room : Bool)
  | minorFault (tid : Nat) (room : Bool)
  /-- `sent` is whether the ring buffer takes the event -/
  | schedSwitch (tid latencyNs : Nat) (sent : Bool)
  | interpret
  | summaryTick (map : Option (Nat → Bool))
  | removed (tid : Nat)
  | exited (tid : Nat)

/-- One step of the monitor. -/
def Monitor.step (spikeThresholdNs : Nat) (monitor : Monitor) : Step → Monitor
  | .majorFault tid room => { monitor with prevFaults := tryMajorFault monitor.prevFaults tid room }
  | .minorFault tid room => { monitor with prevFaults := tryMinorFault monitor.prevFaults tid room }
  | .schedSwitch tid latencyNs sent =>
    if sent then
      { monitor with ring := monitor.ring ++ [schedSwitchEvent monitor.prevFaults tid latencyNs] }
    else monitor
  | .interpret => (monitor.interpretNext spikeThresholdNs).1
  | .summaryTick map => (monitor.collectIntervalSummaries map).1
  | .removed tid => monitor.removePrevFaultsState tid
  | .exited tid => { monitor with prevFaults := monitor.prevFaults.remove tid }

/-! ## What is recorded of a task -/

open CounterReadings (Entry)

/-- The interval records of a task at a step, each with the counters that were read for it. -/
def Monitor.intervalsAt (monitor : Monitor) (tid : Nat) : Step → List (Entry (Nat × Nat))
  | .summaryTick map =>
    (if map.isNone then [.dropped] else []) ++
      ((monitor.collectIntervalSummaries map).2.filter (·.task = tid)).map fun record =>
        .recorded (monitor.reading map tid) (record.majorFaults, record.minorFaults)
  | _ => []

/-- The event of a task that is recorded at a step, with its deltas. -/
def Monitor.eventsAt (monitor : Monitor) (spikeThresholdNs tid : Nat) :
    Step → List (SchedulerEvent × (Nat × Nat))
  | .interpret => (monitor.interpretNext spikeThresholdNs).2.toList.filter (·.1.tid = tid)
  | _ => []

/-- A run with what was recorded of a task. -/
structure Observed where
  monitor : Monitor
  intervals : List (Entry (Nat × Nat))
  events : List (SchedulerEvent × (Nat × Nat))

def Observed.step (spikeThresholdNs tid : Nat) (observed : Observed) (step : Step) : Observed where
  monitor := observed.monitor.step spikeThresholdNs step
  intervals := observed.intervals ++ observed.monitor.intervalsAt tid step
  events := observed.events ++ observed.monitor.eventsAt spikeThresholdNs tid step

def observe (spikeThresholdNs tid : Nat) (steps : List Step) : Observed :=
  steps.foldl (Observed.step spikeThresholdNs tid) ⟨.initial, [], []⟩

end Stutter.Faults

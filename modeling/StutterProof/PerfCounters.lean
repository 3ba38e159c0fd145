import Mathlib.Data.List.Sort
import StutterProof.ActiveConfig
import StutterProof.KeyedTable

/-! # Perf counters

The sampler keeps one group of hardware counters for each task that it watches, under the task's
tid.  At a sample it reads the group, scales the counts by the times that the kernel reports with
them, and resets the group.  A reset zeroes the counts; the clocks go on.  `syncTargets` opens the
groups of the tids that were selected and drops those of the others. -/
namespace Stutter.CpuPerf

open ActiveConfig (TaskClass)

abbrev Tid := Nat

/-- The counted events. -/
inductive PerfEventKind where
  | cycles | instructions | cacheMisses | cacheReferences
  deriving DecidableEq

/-! ## The kernel -/

/-- What a group counts between two samples.  Without running time nothing is counted. -/
structure Interval where
  counts : PerfEventKind → Nat
  enabled : Nat
  running : Nat
  running_le : running ≤ enabled
  idle : running = 0 → ∀ kind, counts kind = 0
  counts_lt : ∀ kind, counts kind < 2 ^ 64

def Interval.nothing : Interval :=
  ⟨fun _ => 0, 0, 0, Nat.le_refl 0, fun _ _ => rfl, fun _ => Nat.two_pow_pos 64⟩

/-- A group of one task's counters: the counts since the last reset, and the clocks since it was
opened. -/
structure PerfGroup (T : Type) where
  task : T
  members : List PerfEventKind
  running : Bool
  counts : PerfEventKind → Nat
  timeEnabled : Nat
  timeRunning : Nat
  running_le : timeRunning ≤ timeEnabled
  idle : timeRunning = 0 → ∀ kind, counts kind = 0

/-- How far the three requests of `reset_and_enable` come. -/
inductive ResetAnswer where
  | done
  | disableFailed (error : String)
  | resetFailed (error : String)
  | enableFailed (error : String)

namespace PerfGroup
variable {T : Type} (group : PerfGroup T)

/-- A group that is off counts nothing. -/
def measured (elapsed : Interval) : Interval := if group.running then elapsed else .nothing

def accrue (elapsed : Interval) : PerfGroup T where
  task := group.task
  members := group.members
  running := group.running
  counts kind := group.counts kind + (group.measured elapsed).counts kind
  timeEnabled := group.timeEnabled + (group.measured elapsed).enabled
  timeRunning := group.timeRunning + (group.measured elapsed).running
  running_le := Nat.add_le_add group.running_le (group.measured elapsed).running_le
  idle h kind := by
    rw [group.idle (Nat.eq_zero_of_add_eq_zero_right h),
      (group.measured elapsed).idle (Nat.eq_zero_of_add_eq_zero_left h)]

def reset (running : Bool) : PerfGroup T :=
  { group with running, counts := fun _ => 0, idle := fun _ _ => rfl }

def resetAndEnable : ResetAnswer → Except String Unit × PerfGroup T
  | .done => (.ok (), group.reset true)
  | .disableFailed error => (.error error, group)
  | .resetFailed error => (.error error, { group with running := false })
  | .enableFailed error => (.error error, group.reset false)

end PerfGroup

/-! ## One group -/

/-- What a task counted. -/
structure CpuPerfDelta where
  cycles : Option Nat := none
  instructions : Option Nat := none
  cacheReferences : Option Nat := none
  cacheMisses : Option Nat := none
  ipc : Option Rat := none
  cacheMissRate : Option Rat := none
  cacheMpki : Option Rat := none
  timeEnabledNs : Option Nat := none
  timeRunningNs : Option Nat := none
  multiplexed : Bool := false
  scaled : Bool := false
  unavailableReason : Option String := none

def CpuPerfDelta.value (delta : CpuPerfDelta) : PerfEventKind → Option Nat
  | .cycles => delta.cycles
  | .instructions => delta.instructions
  | .cacheMisses => delta.cacheMisses
  | .cacheReferences => delta.cacheReferences

def CpuPerfDelta.set (delta : CpuPerfDelta) (value : Option Nat) : PerfEventKind → CpuPerfDelta
  | .cycles => { delta with cycles := value }
  | .instructions => { delta with instructions := value }
  | .cacheMisses => { delta with cacheMisses := value }
  | .cacheReferences => { delta with cacheReferences := value }

/-- `scale`, of three `u64`s.  The product is exact in 128 bits; the cast of the quotient is not. -/
def scale (raw timeEnabled timeRunning : Nat) : Option Nat :=
  if timeRunning = 0 then none
  else if timeRunning = timeEnabled then some raw
  else some (raw * timeEnabled / timeRunning % 2 ^ 64)

/-- `ratio`, as an exact quotient. -/
def ratio : Option Nat → Option Nat → Option Rat
  | some numerator, some denominator =>
    if 0 < denominator then some (numerator / denominator) else none
  | _, _ => none

def applyDerivedMetrics (delta : CpuPerfDelta) : CpuPerfDelta :=
  { delta with
    ipc := ratio delta.instructions delta.cycles
    cacheMissRate := ratio delta.cacheMisses delta.cacheReferences
    cacheMpki := ratio (delta.cacheMisses.map (· * 1000)) delta.instructions }

/-- The kernel returns one value for each member of the group. -/
structure PerfCounterGroup (T : Type) where
  perf : PerfGroup T
  events : List PerfEventKind
  members_eq : perf.members = events

inductive ReadAnswer where
  | failed (error : String)
  | bytes (count : Nat)
  deriving DecidableEq

namespace PerfCounterGroup
variable {T : Type} (group : PerfCounterGroup T)

def expectedBytes : Nat := (3 + group.events.length) * 8

/-- The counts of the read, one for each member. -/
def raws : List Nat := group.perf.members.map fun kind => group.perf.counts kind % 2 ^ 64

def withPerf (perf : PerfGroup T) (h : perf.members = group.perf.members) : PerfCounterGroup T :=
  ⟨perf, group.events, h.trans group.members_eq⟩

def resetAndEnable (reset : ResetAnswer) : Except String Unit × PerfCounterGroup T :=
  ((group.perf.resetAndEnable reset).1,
    group.withPerf (group.perf.resetAndEnable reset).2 (by cases reset <;> rfl))

/-- The loop over the events: each value by the kind of its event. -/
def scaledValues : List (PerfEventKind × Option Nat) :=
  (group.events.zip group.raws).map fun turn =>
    (turn.1, scale turn.2 group.perf.timeEnabled group.perf.timeRunning)

def multiplexed : Bool :=
  decide (group.perf.timeEnabled ≠ group.perf.timeRunning ∧ 0 < group.perf.timeEnabled)

/-- The delta of a read in full. -/
def scaledDelta : CpuPerfDelta :=
  { applyDerivedMetrics (group.scaledValues.foldl (fun delta turn => delta.set turn.2 turn.1)
      { timeEnabledNs := some group.perf.timeEnabled
        timeRunningNs := some group.perf.timeRunning
        multiplexed := group.multiplexed }) with
    scaled := group.multiplexed && group.scaledValues.any (·.2.isSome) }

/-- `sample_interval`, at the end of the interval. -/
def sampleInterval (read : ReadAnswer) (reset : ResetAnswer) :
    Except String CpuPerfDelta × PerfCounterGroup T :=
  match read with
  | .failed error => (.error s!"read failed: {error}", group)
  | .bytes count =>
    if count ≠ group.expectedBytes then
      (.error s!"short perf group read: got {count} bytes, expected {group.expectedBytes}", group)
    else if group.perf.members.length ≠ group.events.length then
      (.ok {
        timeEnabledNs := some group.perf.timeEnabled
        timeRunningNs := some group.perf.timeRunning
        unavailableReason := some
          (s!"perf group returned {group.perf.members.length} values, " ++
            s!"expected {group.events.length}") }, group)
    else
      match group.resetAndEnable reset with
      | (.ok _, after) => (.ok group.scaledDelta, after)
      | (.error error, after) =>
        (.ok { group.scaledDelta with
          unavailableReason := some s!"perf group reset failed: {error}" }, after)

end PerfCounterGroup

/-! ## Opening -/

/-- What is counted, and for how many tasks. -/
structure CpuPerfConfig where
  includeKernel : Bool
  maxTasks : Nat
  collectCacheRefs : Bool

structure OsError where
  errno : Option Nat
  text : String

structure PerfOpenError where
  message : String
  errno : Option Nat

def PerfOpenError.ofOs (error : OsError) : PerfOpenError := ⟨error.text, error.errno⟩

/-- `EPERM` and `EACCES`. -/
def PerfOpenError.isPermissionDenied (error : PerfOpenError) : Bool :=
  error.errno == some 1 || error.errno == some 13

/-- What the kernel answers when a group is opened for a tid: the task that has the tid then, and
how each request ends. -/
structure OpenAnswers (T : Type) where
  task : T
  cycles : Except OsError Unit
  instructions : Except OsError Unit
  cacheMisses : Except OsError Unit
  cacheReferences : Except OsError Unit
  reset : ResetAnswer

def freshGroup {T : Type} (task : T) (events : List PerfEventKind) : PerfCounterGroup T :=
  ⟨⟨task, events, false, fun _ => 0, 0, 0, Nat.le_refl 0, fun _ _ => rfl⟩, events, rfl⟩

/-- `EINVAL` and `ENOENT` for the cache references: the group goes without. -/
def openReferences {T : Type} (config : CpuPerfConfig) (answers : OpenAnswers T) :
    Except OsError Bool :=
  if config.collectCacheRefs then
    match answers.cacheReferences with
    | .ok _ => .ok true
    | .error error =>
      if error.errno == some 22 || error.errno == some 2 then .ok false else .error error
  else .ok false

/-- `PerfCounterGroup::open`. -/
def openGroup {T : Type} (config : CpuPerfConfig) (answers : OpenAnswers T) :
    Except PerfOpenError (PerfCounterGroup T) := do
  answers.cycles.mapError .ofOs
  answers.instructions.mapError .ofOs
  answers.cacheMisses.mapError .ofOs
  let references ← (openReferences config answers).mapError .ofOs
  let group := freshGroup answers.task
    ([.cycles, .instructions, .cacheMisses] ++ if references then [.cacheReferences] else [])
  match group.resetAndEnable answers.reset with
  | (.ok _, after) => return after
  | (.error error, _) => throw ⟨error, none⟩

/-! ## The sampler -/

/-- A task of `active_targets`. -/
structure TaskInfo (T : Type) where
  task : T
  taskClass : TaskClass

def eventCount (collectCacheRefs : Bool) : Nat := if collectCacheRefs then 4 else 3

/-- `normalize_config`, with the descriptors that are left if there is a limit. -/
def normalizeConfig (available : Option Nat) (config : CpuPerfConfig) : CpuPerfConfig :=
  let config := if config.maxTasks = 0 then { config with maxTasks := 1 } else config
  let events := eventCount config.collectCacheRefs
  match available with
  | none => config
  | some available =>
    if available / 2 < config.maxTasks * events ∧ events ≤ available / 2 then
      { config with maxTasks := min config.maxTasks (max (available / 2 / events) 1) }
    else config

def classScore : TaskClass → Nat
  | .game => 1000000
  | .gameScope => 900000
  | .compositor => 800000
  | .render => 750000
  | .wineServer => 700000
  | .gameHelper => 600000
  | .launcher => 200000
  | .service => 150000
  | .steamRuntime => 100000
  | .helper => 50000
  | _ => 10000

/-- `task_perf_priority`, with the greatest latency of the session. -/
def taskPerfPriority (taskClass : TaskClass) (maxNs : Option Nat) : Nat :=
  classScore taskClass + (maxNs.map (min · 1000000000)).getD 0

/-- `select_target_tids`. -/
def selectTargetTids {T : Type} (activeTargets : List (Tid × TaskInfo T)) (maxNs : Tid → Option Nat)
    (maxTasks : Nat) : List Tid :=
  let candidates :=
    activeTargets.map fun (tid, info) => (taskPerfPriority info.taskClass (maxNs tid), tid)
  let ranked := candidates.insertionSort fun left right =>
    right.1 < left.1 ∨ left.1 = right.1 ∧ left.2 ≤ right.2
  ((ranked.take maxTasks).map (·.2)).insertionSort (· ≤ ·)

/-- The counters of the tasks. -/
structure CpuPerfSampler (T : Type) where
  config : CpuPerfConfig
  groups : Table Tid (PerfCounterGroup T)
  skippedTasks : List Tid
  disabledReason : Option String
  lastError : Option String
  totalReadErrors : Nat
  totalOpenErrors : Nat
  totalSamples : Nat

/-- `u64::saturating_add` of one. -/
def saturatingSucc (n : Nat) : Nat := min (n + 1) (2 ^ 64 - 1)

def deniedReason : String :=
  "cpu_perf unavailable: perf_event_open denied; check " ++
    "CAP_PERFMON/CAP_SYS_ADMIN or perf_event_paranoid"

namespace CpuPerfSampler
variable {T : Type}

def new (available : Option Nat) (config : CpuPerfConfig) : CpuPerfSampler T :=
  ⟨normalizeConfig available config, .empty, [], none, none, 0, 0, 0⟩

/-- The loop over the selected tids; a denied open ends it. -/
def openSelected (opens : Tid → OpenAnswers T) : List Tid → CpuPerfSampler T → CpuPerfSampler T
  | [], sampler => sampler
  | tid :: rest, sampler =>
    if (sampler.groups.get tid).isSome then openSelected opens rest sampler
    else
      match openGroup sampler.config (opens tid) with
      | .ok group =>
        openSelected opens rest { sampler with groups := sampler.groups.insert tid group }
      | .error error =>
        let failed := { sampler with
          totalOpenErrors := saturatingSucc sampler.totalOpenErrors
          lastError := some s!"task {tid}: {error.message}" }
        if error.isPermissionDenied then
          { failed with
            disabledReason := some deniedReason, lastError := some deniedReason, groups := .empty }
        else openSelected opens rest failed

def syncTargets (sampler : CpuPerfSampler T) (activeTargets : List (Tid × TaskInfo T))
    (maxNs : Tid → Option Nat) (opens : Tid → OpenAnswers T) : CpuPerfSampler T :=
  if sampler.disabledReason.isSome then { sampler with groups := .empty }
  else
    let selected := selectTargetTids activeTargets maxNs sampler.config.maxTasks
    openSelected opens selected { sampler with
      skippedTasks := (activeTargets.map (·.1)).filter (· ∉ selected)
      groups := sampler.groups.filterKeys (· ∈ selected) }

end CpuPerfSampler

/-- What happens up to a sample and in it.  `named` is the task that `active_targets` has under a
tid. -/
structure SampleInput (T : Type) where
  named : Tid → Option T
  elapsed : Tid → Interval
  read : Tid → ReadAnswer
  reset : Tid → ResetAnswer

/-- The interval passes, and the group is sampled. -/
def PerfCounterGroup.sampled {T : Type} (group : PerfCounterGroup T) (input : SampleInput T)
    (tid : Tid) :
    Except String CpuPerfDelta × PerfCounterGroup T :=
  (group.withPerf (group.perf.accrue (input.elapsed tid)) rfl).sampleInterval (input.read tid)
    (input.reset tid)

/-- What is reported of a group. -/
def reported : Except String CpuPerfDelta → CpuPerfDelta
  | .ok delta => delta
  | .error message => { unavailableReason := some message }

namespace CpuPerfSampler
variable {T : Type}

/-- The counters of one turn. -/
def note (sampler : CpuPerfSampler T) (tid : Tid) : Except String CpuPerfDelta → CpuPerfSampler T
  | .ok _ => { sampler with totalSamples := saturatingSucc sampler.totalSamples }
  | .error message => { sampler with
      totalSamples := saturatingSucc sampler.totalSamples
      totalReadErrors := saturatingSucc sampler.totalReadErrors
      lastError := some s!"task {tid}: {message}" }

/-- `sample_interval`: the tids in order. -/
def sampleInterval (sampler : CpuPerfSampler T) (input : SampleInput T) :
    Table Tid CpuPerfDelta × CpuPerfSampler T :=
  match sampler.disabledReason with
  | some reason => (.empty, { sampler with lastError := some reason })
  | none =>
    let results := sampler.groups.mapEntries fun tid group => group.sampled input tid
    let turns := results.entries.insertionSort (·.1 ≤ ·.1)
    (results.mapValues fun result => reported result.1,
      { turns.foldl (fun sampler turn => sampler.note turn.1 turn.2.1) sampler with
        groups := results.mapValues (·.2) })

end CpuPerfSampler

inductive Step (T : Type) where
  | sync (activeTargets : List (Tid × TaskInfo T)) (maxNs : Tid → Option Nat)
      (opens : Tid → OpenAnswers T)
  | sample (input : SampleInput T)

def CpuPerfSampler.step {T : Type} (sampler : CpuPerfSampler T) : Step T → CpuPerfSampler T
  | .sync activeTargets maxNs opens => sampler.syncTargets activeTargets maxNs opens
  | .sample input => (sampler.sampleInterval input).2

def CpuPerfSampler.run {T : Type} (sampler : CpuPerfSampler T) (steps : List (Step T)) :
    CpuPerfSampler T :=
  steps.foldl step sampler

end Stutter.CpuPerf

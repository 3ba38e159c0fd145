import Mathlib.Algebra.GroupWithZero.Nat
import Mathlib.Algebra.Order.Ring.Rat
import Mathlib.Data.List.Infix
import StutterProof.Actions

/-! # Candidates and observations

What the controller reads: the candidate the planner offers, and one observation of
the workload.

A candidate wraps the plan of one provider; the model keeps what the plan answers to
the controller (`CandidatePlan` in the source) and not the plan's payload.  Scores,
confidences and percentages are floating-point numbers in the source.  They reach the
controller only through comparisons, whose answers are given to each step from
outside (`Comparisons`), so that every answer is allowed for. -/
namespace Stutter

/-! ## Machine numbers -/

/-- The largest `u128`. -/
def u128Max : Nat := 2 ^ 128 - 1

/-- The largest `u64`. -/
def u64Max : Nat := 2 ^ 64 - 1

/-- `u128::saturating_add`. -/
def saturatingAdd (a b : Nat) : Nat := min (a + b) u128Max

/-- A number of seconds, in nanoseconds. -/
def seconds (n : Nat) : Nat := n * 1000000000

/-! ## Candidates -/

/-- Candidates of one group exclude each other. -/
inductive ActionConflictGroup where
  | cpuPlacement | cpuPriority | ioPriority | cgroupPlacement | irqPlacement | cpuPower | gpuPower
  | vmMemory | thermalRecovery | none
  deriving DecidableEq

/-- Which groups exclude each other; `none` excludes nothing, not even itself. -/
def ActionConflictGroup.conflictsWith (a b : ActionConflictGroup) : Bool :=
  if a = .none ∨ b = .none then false
  else if a = b then true
  else
    match a, b with
    | .cpuPlacement, .cgroupPlacement | .cgroupPlacement, .cpuPlacement
    | .cpuPriority, .cgroupPlacement | .cgroupPlacement, .cpuPriority
    | .irqPlacement, .cpuPlacement | .cpuPlacement, .irqPlacement
    | .cpuPower, .thermalRecovery | .thermalRecovery, .cpuPower
    | .gpuPower, .thermalRecovery | .thermalRecovery, .gpuPower
    | .vmMemory, .thermalRecovery | .thermalRecovery, .vmMemory => true
    | _, _ => false

/-- What a candidate changes. -/
inductive MutationOperationKind where
  | cpuAffinityProfile | uclamp | nice | ioPrio | cgroupPlacement | cpuPowerEpp | cpuPowerGovernor
  | gpuPowerProfile | gpuForcePerformance | vmSwappiness | vmDirtyBackgroundRatio | vmDirtyRatio
  | irqKnownDevice | irqStorageOrUnknown | unclassified
  deriving DecidableEq

/-- The operations whose restore snapshot is durable before their first write. -/
def MutationOperationKind.preparedTransactionImplemented : MutationOperationKind → Bool
  | .cpuAffinityProfile | .uclamp | .nice | .cgroupPlacement | .cpuPowerEpp => true
  | _ => false

/-- What a candidate is for. -/
inductive ObjectiveKind where
  | stutterScore | gameFramePacing | gameRunnableLatency | desktopInteractivity
  | browserInteractivity | compileThroughputWithForegroundProtection | ioLatency
  | irqOverlapReduction | thermalRecovery
  deriving DecidableEq

/-- The provider behind a candidate. -/
inductive CandidateVariant where
  | cpuAffinityProfile | nice | ioPrio | uclamp | cgroupPlacement | irqAffinity | cpuPower
  | gpuPower | vmKnob | fake
  deriving DecidableEq

/-- A candidate, by the answers of its plan; what else the plan holds, such as the rules of a
profile, is handed on as it is. -/
structure CandidateAction where
  variant : CandidateVariant
  candidateName : String
  actionId : ActionId
  safetyClass : SafetyClass
  operationKind : MutationOperationKind
  objective : ObjectiveKind
  targetRootPid : Option Nat
  planContent : String
  deriving DecidableEq

namespace CandidateAction

def profileName (c : CandidateAction) : String := c.candidateName

def treePid (c : CandidateAction) : Nat := c.targetRootPid.getD 0

def actionKind (c : CandidateAction) : String :=
  match c.variant with
  | .cpuAffinityProfile => "cpu_affinity_profile"
  | .nice => "nice"
  | .ioPrio => "ionice"
  | .uclamp => "uclamp"
  | .cgroupPlacement => "cgroup_placement"
  | .irqAffinity => "irq_affinity"
  | .cpuPower => "cpu_power"
  | .gpuPower => "gpu_power"
  | .vmKnob => "vm_knob"
  | .fake => "fake"

/-- The group a candidate conflicts in. -/
def conflictGroup (c : CandidateAction) : ActionConflictGroup :=
  match c.variant with
  | .cpuAffinityProfile => .cpuPlacement
  | .nice | .uclamp => .cpuPriority
  | .ioPrio => .ioPriority
  | .cgroupPlacement => .cgroupPlacement
  | .irqAffinity => .irqPlacement
  | .cpuPower => .cpuPower
  | .gpuPower => .gpuPower
  | .vmKnob => .vmMemory
  | .fake => .none

def conflictsWith (c other : CandidateAction) : Bool :=
  c.conflictGroup.conflictsWith other.conflictGroup

/-- What the effect of each family reaches. -/
def effectScope (c : CandidateAction) : ActionEffectScope :=
  match c.variant with
  | .cpuAffinityProfile | .nice | .ioPrio | .uclamp => .localProcessTree
  | .cgroupPlacement => .cgroup
  | .irqAffinity => .irq
  | .cpuPower => .cpuPower
  | .gpuPower => .gpuPower
  | .vmKnob => .vmKnob
  | .fake => .observeOnly

/-- `CandidateAction::descriptor`. -/
def descriptor (c : CandidateAction) : ActionDescriptor where
  actionId := c.actionId
  actionKind := c.actionKind
  safetyClass := c.safetyClass
  effectScope := c.effectScope
  rollback := .requiredBeforeApply
  persistentEffect := false
  touchesSystemWideState :=
    match c.effectScope with
    | .irq | .sysfs | .cpuPower | .gpuPower | .vmKnob | .systemWide => true
    | _ => false
  requiresExplicitTarget := c.targetRootPid.isSome
  confidence := none

/-- Everything but the test-only fake. -/
def isMutationProvider (c : CandidateAction) : Bool := c.variant ≠ .fake

def isHighRiskSystemAdjacent (c : CandidateAction) : Bool := c.safetyClass = .highRisk

end CandidateAction

/-! ## Observations -/

/-- The kind of the focused group. -/
inductive FocusGroupKind where
  | game | browser | compile | media | recording | virtualMachine | desktop | idle | unknown
  deriving DecidableEq

/-- The source's `Debug` name. -/
def FocusGroupKind.debug : FocusGroupKind → String
  | .game => "Game"
  | .browser => "Browser"
  | .compile => "Compile"
  | .media => "Media"
  | .recording => "Recording"
  | .virtualMachine => "VirtualMachine"
  | .desktop => "Desktop"
  | .idle => "Idle"
  | .unknown => "Unknown"

/-- What the machine is doing. -/
inductive SituationKind where
  | unknown | idle | gameFocused | gameCpuSchedulerPressure | gameGpuBound | compositorPressure
  | cpuPressure | ioPressure | irqPressure | thermalOrPowerLimit | compileLoad | browserFocused
  | browserCpuPressure | browserGpuVideo | browserIoPressure | compileCpuBound
  | compileLinkerPressure | mediaPlayback | recording | virtualMachineLoad
  deriving DecidableEq

/-- How far a window can be trusted. -/
inductive OnlineDataQuality where
  | high
  | medium (reasons : List String)
  | low (reasons : List String)

def OnlineDataQuality.blocksAction : OnlineDataQuality → Bool
  | low _ => true
  | high | medium _ => false

/-- A measurement window; of the score only the total is read outside comparisons. -/
structure WindowScore where
  startedUnixNanos : Nat
  finishedUnixNanos : Nat
  intervalCount : Nat
  scoredSamples : Nat
  scoredTaskCount : Nat
  scoreTotal : Nat
  deriving DecidableEq

/-- The live values of the settings an action can change, by name. -/
structure ActiveConfigSnapshot where
  settings : List (String × String)
  deriving DecidableEq

/-- What candidate memory keys a candidate by in one workload context. -/
structure MemoryContext where
  contextKey : String
  identitySummary : String

/-- What a tick sees. -/
structure AutotuneObservation where
  nowUnixNanos : Nat
  elapsedMs : Nat
  targetPresent : Bool
  targetRootPid : Option Nat
  activeTargetCount : Nat
  scoredTaskCount : Nat
  intervalCount : Nat
  scoredSamples : Nat
  scoreTotal : Nat
  dataQuality : OnlineDataQuality
  primarySituation : SituationKind
  focusKind : Option FocusGroupKind
  focusReasons : List String
  activeConfigSnapshot : Option ActiveConfigSnapshot
  /-- `CandidateContextHashInput::from_observation`, its key and identity summary: of
  the candidate it reads the name only. -/
  memoryContext : String → MemoryContext

namespace AutotuneObservation
variable (o : AutotuneObservation)

/-- `to_window_score`. -/
def toWindowScore : WindowScore :=
  ⟨o.nowUnixNanos - min (o.elapsedMs * 1000000) u128Max, o.nowUnixNanos, o.intervalCount,
    o.scoredSamples, o.scoredTaskCount, o.scoreTotal⟩

def focusIsIdleOrUnknown : Bool :=
  (o.focusKind = none || o.focusKind = some .idle || o.focusKind = some .unknown) ||
    (o.primarySituation = .idle || o.primarySituation = .unknown)

/-- `needle` occurs in `text`. -/
def textContains (text needle : String) : Bool := decide (needle.toList <:+: text.toList)

def focusHasCriticalRealtimeWarning : Bool :=
  o.focusReasons.any fun reason =>
    let lower := reason.map Char.toLower
    textContains lower "critical realtime" || textContains lower "critical realtime/input" ||
      textContains lower "audio realtime" || textContains lower "input process"

end AutotuneObservation

/-! ## Comparisons -/

/-- The percentages of a comparison, as they are printed. -/
inductive ExperimentResult where
  | improved (percent : String)
  | regressed (percent : String)
  | inconclusive (reason : String)
  | invalid (reason : String)

def ExperimentResult.isImproved : ExperimentResult → Bool
  | improved _ => true
  | _ => false

/-- What `explain_for_objective` answers. -/
structure ObjectiveDecision where
  experimentResult : ExperimentResult
  summary : String

/-- The comparisons one evaluation makes: of a candidate's window with the baseline,
for an objective or on the score alone. -/
structure Comparisons where
  explainForObjective : ObjectiveKind → WindowScore → AutotuneObservation → ObjectiveDecision
  compareScores : WindowScore → WindowScore → ExperimentResult

end Stutter

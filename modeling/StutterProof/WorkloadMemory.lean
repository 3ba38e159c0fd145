import StutterProof.ActiveConfig
import StutterProof.CandidateMemory
import StutterProof.RecentTable

/-! # Candidate memory with workload actions

Beside its records the memory keeps what each action did to a workload.  A record is keyed by the
hash of its whole context; a workload action by the fields of the workload that it was tried on.
The hashes leave out what the summaries hold, the process that the workload was, so that one hash
can stand for two contexts.  A memory that is read back marks every entry of such a hash as
degraded, and a degraded entry matches no context.

The records alone are the memory of `CandidateMemory`. -/
namespace Stutter.Memory

open ActiveConfig (TaskClass taskClassNames trimmed)

/-! ## Contexts -/

/-- The source's `Debug` name. -/
def situationDebug : SituationKind → String
  | .unknown => "Unknown"
  | .idle => "Idle"
  | .gameFocused => "GameFocused"
  | .gameCpuSchedulerPressure => "GameCpuSchedulerPressure"
  | .gameGpuBound => "GameGpuBound"
  | .compositorPressure => "CompositorPressure"
  | .cpuPressure => "CpuPressure"
  | .ioPressure => "IoPressure"
  | .irqPressure => "IrqPressure"
  | .thermalOrPowerLimit => "ThermalOrPowerLimit"
  | .compileLoad => "CompileLoad"
  | .browserFocused => "BrowserFocused"
  | .browserCpuPressure => "BrowserCpuPressure"
  | .browserGpuVideo => "BrowserGpuVideo"
  | .browserIoPressure => "BrowserIoPressure"
  | .compileCpuBound => "CompileCpuBound"
  | .compileLinkerPressure => "CompileLinkerPressure"
  | .mediaPlayback => "MediaPlayback"
  | .recording => "Recording"
  | .virtualMachineLoad => "VirtualMachineLoad"

structure CandidateClassCount where
  taskClass : TaskClass
  count : Nat

structure ExecutableFingerprint where
  dev : Nat
  ino : Nat

/-- What a context is told by. -/
structure CandidateContextHashInput where
  workloadIdentity : Option String
  workloadRootPid : Option Nat
  workloadStarttimeTicks : Option Nat
  workloadFocusKind : Option FocusGroupKind
  targetExecutable : Option ExecutableFingerprint
  cgroupPath : Option String
  cpuTopologySignature : Option String
  profileName : String
  situation : SituationKind
  activeTaskClassDistribution : List CandidateClassCount

/-- The text without the white space around it; nothing if nothing is left. -/
def newText (value : String) : Option String :=
  if (trimmed value).isEmpty then none else some (trimmed value)

/-- `normalize_class_distribution`: in the order of the classes, without those of no task. -/
def normalizeClassDistribution (distribution : List CandidateClassCount) :
    List CandidateClassCount :=
  taskClassNames.filterMap fun (taskClass, _) =>
    let count := ((distribution.filter (·.taskClass = taskClass)).map (·.count)).sum
    if count = 0 then none else some ⟨taskClass, count⟩

def classDistributionSummary (distribution : List CandidateClassCount) : String :=
  if distribution.isEmpty then "-"
  else ",".intercalate (distribution.map fun item => s!"{item.taskClass.asStr}:{item.count}")

/-- One byte of `stable_hash_hex`. -/
def hashByte (hash : BitVec 64) (byte : UInt8) : BitVec 64 :=
  (hash ^^^ byte.toBitVec.setWidth 64) * 0x100000001b3#64

def hashText (hash : BitVec 64) (text : String) : BitVec 64 :=
  text.toUTF8.data.toList.foldl hashByte hash

def stableHash (parts : List String) : BitVec 64 :=
  parts.foldl (fun hash part =>
    hashByte (hashText (hashText hash s!"{part.utf8ByteSize}:") part) 0xff) 0xcbf29ce484222325#64

/-- `stable_hash_hex`: sixteen digits. -/
def stableHashHex (parts : List String) : String :=
  let digits := Nat.toDigits 16 (stableHash parts).toNat
  String.ofList (List.replicate (16 - digits.length) '0' ++ digits)

def orDash (value : Option String) : String := value.getD "-"

namespace CandidateContextHashInput
variable (context : CandidateContextHashInput)

def normalized : CandidateContextHashInput :=
  { context with
    cpuTopologySignature := context.cpuTopologySignature.bind newText
    cgroupPath := context.cgroupPath.bind newText
    activeTaskClassDistribution := normalizeClassDistribution context.activeTaskClassDistribution }

def exeDev : Option Nat := context.targetExecutable.map (·.dev)

def exeIno : Option Nat := context.targetExecutable.map (·.ino)

/-- The parts of the context's hash. -/
def contextHashParts : List String :=
  let normalized := context.normalized
  [s!"workload_hash={orDash normalized.workloadIdentity}",
    s!"target_exe={orDash (normalized.exeDev.map toString)}:" ++
      s!"{orDash (normalized.exeIno.map toString)}",
    s!"cgroup={orDash normalized.cgroupPath}",
    s!"cpu_topology={orDash normalized.cpuTopologySignature}",
    s!"profile={normalized.profileName}",
    s!"situation={situationDebug normalized.situation}"] ++
  normalized.activeTaskClassDistribution.map fun item =>
    s!"class={item.taskClass.asStr}:{item.count}"

def workloadIdentityParts : List String :=
  let normalized := context.normalized
  [s!"workload_hash={orDash normalized.workloadIdentity}",
    s!"root_pid={orDash (normalized.workloadRootPid.map toString)}",
    s!"starttime_ticks={orDash (normalized.workloadStarttimeTicks.map toString)}",
    s!"exe={orDash (normalized.exeDev.map toString)}:{orDash (normalized.exeIno.map toString)}",
    s!"cgroup={orDash normalized.cgroupPath}",
    s!"focus={orDash (normalized.workloadFocusKind.map FocusGroupKind.debug)}"]

def contextIdentityParts : List String :=
  let normalized := context.normalized
  context.workloadIdentityParts ++
  [s!"cpu_topology={orDash normalized.cpuTopologySignature}",
    s!"profile={normalized.profileName}",
    s!"situation={situationDebug normalized.situation}",
    s!"classes={classDistributionSummary normalized.activeTaskClassDistribution}"]

def contextHash : String := stableHashHex context.contextHashParts

/-- `context_key`: the hash is never blank. -/
def contextKey : String := trimmed context.contextHash

def identitySummary : String :=
  (newText (" ".intercalate context.contextIdentityParts)).getD "empty-context"

def workloadIdentitySummary : Option String := do
  let _ ← context.workloadIdentity
  newText (" ".intercalate context.workloadIdentityParts)

end CandidateContextHashInput

/-! ## The memory -/

/-- An action tried on a workload. -/
structure WorkloadActionMemory where
  workloadHash : String
  actionId : ActionId
  actionKind : String
  objective : ObjectiveKind
  operation : Option MutationOperationKind
  situation : SituationKind
  lastResult : CandidateMemoryResult
  scoreDelta : Option Int
  lastSeenUnixNanos : Nat
  cooldownUntilUnixNanos : Option Nat
  exeDev : Option Nat
  exeIno : Option Nat
  cgroupPath : Option String
  identitySummary : Option String
  degradedReason : Option String

def WorkloadActionMemory.isDegraded (memory : WorkloadActionMemory) : Bool :=
  memory.degradedReason.isSome

/-- Whether a try was made in a context. -/
def WorkloadActionMemory.matchesContext (memory : WorkloadActionMemory)
    (context : CandidateContextHashInput) : Bool :=
  if memory.isDegraded then false
  else
    let normalized := context.normalized
    let identitySummaryMatches := memory.identitySummary.all fun summary =>
      normalized.workloadIdentitySummary.all fun current => current = summary
    normalized.workloadIdentity.any (· = memory.workloadHash) && identitySummaryMatches &&
      decide (normalized.exeDev = memory.exeDev) && decide (normalized.exeIno = memory.exeIno) &&
      decide (normalized.cgroupPath = memory.cgroupPath) &&
      decide (normalized.situation = memory.situation)

/-- The memory of tries. -/
structure CandidateMemory where
  records : List CandidateMemoryRecord
  workloadActions : List WorkloadActionMemory

structure CandidateResultRecordInput where
  candidate : CandidateAction
  context : CandidateContextHashInput
  nowUnixNanos : Nat
  result : CandidateMemoryResult
  diagnosticBaselineRawScoreTotal : Option Nat
  diagnosticCurrentRawScoreTotal : Option Nat
  rollbackReason : Option String
  cooldownExpiresUnixNanos : Option Nat

/-- The input as the records see it. -/
def CandidateResultRecordInput.base (input : CandidateResultRecordInput) :
    Stutter.CandidateResultRecordInput :=
  ⟨input.candidate, ⟨input.context.contextKey, input.context.identitySummary⟩, input.nowUnixNanos,
    input.result, input.diagnosticBaselineRawScoreTotal, input.diagnosticCurrentRawScoreTotal,
    input.rollbackReason, input.cooldownExpiresUnixNanos⟩

/-- `diagnostic_raw_score_delta_f64`, exactly. -/
def diagnosticRawScoreDeltaExact (baseline current : Option Nat) : Option Int := do
  let baseline ← baseline
  let current ← current
  return (current : Int) - baseline

/-- What `record_workload_action` stores. -/
def CandidateResultRecordInput.workloadAction (input : CandidateResultRecordInput)
    (workloadIdentity : String) : WorkloadActionMemory :=
  let context := input.context.normalized
  { workloadHash := workloadIdentity
    actionId := input.candidate.actionId
    actionKind := input.candidate.actionKind
    objective := input.candidate.objective
    operation := some input.candidate.operationKind
    situation := context.situation
    lastResult := input.result
    scoreDelta := (diagnosticRawScoreDeltaExact input.diagnosticBaselineRawScoreTotal
      input.diagnosticCurrentRawScoreTotal).or (some 0)
    lastSeenUnixNanos := input.nowUnixNanos
    cooldownUntilUnixNanos := input.cooldownExpiresUnixNanos
    exeDev := context.exeDev
    exeIno := context.exeIno
    cgroupPath := context.cgroupPath
    identitySummary := context.workloadIdentitySummary
    degradedReason := none }

namespace CandidateMemory

def empty : CandidateMemory := ⟨[], []⟩

/-- The records alone. -/
def base (memory : CandidateMemory) : Stutter.CandidateMemory := ⟨memory.records⟩

def recordWorkloadAction (actions : List WorkloadActionMemory)
    (input : CandidateResultRecordInput) :
    List WorkloadActionMemory :=
  match input.context.normalized.workloadIdentity with
  | none => actions
  | some workloadIdentity =>
    RecentTable.put (fun existing => decide (existing.actionId = input.candidate.actionId) &&
        existing.matchesContext input.context.normalized)
          (input.workloadAction workloadIdentity) actions

def maxRecords : Nat := 512

def maxWorkloadActions : Nat := 512

def enforceBounds (memory : CandidateMemory) : CandidateMemory where
  records := RecentTable.evict maxRecords (·.lastTriedUnixNanos) memory.records
  workloadActions :=
    RecentTable.evict maxWorkloadActions (·.lastSeenUnixNanos) memory.workloadActions

def recordResult (memory : CandidateMemory) (input : CandidateResultRecordInput) :
    CandidateMemory :=
  let record := input.base.record
  enforceBounds ⟨RecentTable.put (fun existing =>
      decide (existing.actionId = record.actionId ∧ existing.contextHash = record.contextHash))
        record
      memory.records,
    recordWorkloadAction memory.workloadActions input⟩

def lastForAction (memory : CandidateMemory) (actionId : ActionId) : Option CandidateMemoryRecord :=
  memory.base.lastForAction actionId

/-- A record of a context hash that collides. -/
def markRecord (records : List CandidateMemoryRecord) (record : CandidateMemoryRecord) :
    CandidateMemoryRecord :=
  let reason := s!"candidate memory identity collision for context_hash {record.contextHash}"
  if RecentTable.collides (·.contextHash) (·.identitySummary) records record.contextHash then
    { record with degradedReason := some reason }
  else record

/-- A workload action of a workload hash that collides. -/
def markWorkloadAction (actions : List WorkloadActionMemory) (memory : WorkloadActionMemory) :
    WorkloadActionMemory :=
  let reason := s!"candidate memory identity collision for workload_hash {memory.workloadHash}"
  if RecentTable.collides (·.workloadHash) (·.identitySummary) actions memory.workloadHash then
    { memory with degradedReason := some reason }
  else memory

def markLoadedIdentityCollisions (memory : CandidateMemory) : CandidateMemory :=
  ⟨memory.records.map (markRecord memory.records),
    memory.workloadActions.map (markWorkloadAction memory.workloadActions)⟩

def identityStringsValid (memory : CandidateMemory) : Bool :=
  memory.records.all (fun record => (validateNonEmpty "ActionId" record.actionId).isOk) &&
    memory.workloadActions.all fun action => (validateNonEmpty "ActionId" action.actionId).isOk

/-- `CandidateMemory::load`: a missing, unreadable or invalid file starts empty. -/
def load (file : StoreFile CandidateMemory) : CandidateMemory :=
  match file with
  | .missing | .corrupt => empty
  | .content memory =>
    if memory.identityStringsValid then memory.markLoadedIdentityCollisions else empty

end CandidateMemory

end Stutter.Memory

import Mathlib.Data.List.Infix
import StutterProof.WorkloadMemory

/-! # The profiles of what was kept

The daemon's state shows a profile for every record of the candidate memory that was kept and is not
degraded.  A profile names its workload by a hash of the target that is active when the state is
shown; a record has no name of the workload it was kept for.

`Session` is the part of the runtime that this is about, with the memory's file.  Beside the memory
and the file it holds what the source does not: for each record the hash of the target it was
recorded under. -/
namespace Stutter.Profiles

open Memory (hashByte)

/-! ## Targets -/

structure DaemonTargetState where
  rootPid : Option Nat
  activeTargets : Nat
  comm : Option String

structure FocusPids where
  rootPids : List Nat
  memberPids : List Nat

/-- What is known of the target: `target_state` and `latest_focus`. -/
structure TargetView where
  rootPid : Option Nat
  activeTargets : Nat
  targetComm : Option String
  latestFocus : Option FocusPids

/-- `daemon_active_target_snapshot`. -/
def TargetView.activeTarget (view : TargetView) : Option DaemonTargetState :=
  let rootPid := view.rootPid.or (view.latestFocus.bind (·.rootPids.head?))
  let activeTargets :=
    if 0 < view.activeTargets then view.activeTargets
    else (view.latestFocus.map (·.memberPids.length)).getD 0
  if rootPid.isNone && activeTargets == 0 && view.targetComm.isNone then none
  else some ⟨rootPid, activeTargets, view.targetComm⟩

/-- The hash of `daemon_profile_stable_hash`. -/
def profileHash (parts : List String) : BitVec 64 :=
  parts.foldl (fun hash part => hashByte (part.toUTF8.data.toList.foldl hashByte hash) 0xff)
    0xcbf29ce484222325#64

/-- `daemon_profile_stable_hash`: sixteen digits. -/
def daemonProfileStableHash (parts : List String) : String :=
  let digits := Nat.toDigits 16 (profileHash parts).toNat
  String.ofList (List.replicate (16 - digits.length) '0' ++ digits)

/-- `daemon_profile_workload_identity_hash`. -/
def workloadIdentityHash (activeTarget : Option DaemonTargetState) : String :=
  let rootPid := ((activeTarget.bind (·.rootPid)).map toString).getD "unknown"
  let activeTargets := (activeTarget.map fun target => toString target.activeTargets).getD "0"
  let comm := (activeTarget.bind (·.comm)).getD "unknown"
  daemonProfileStableHash [rootPid, activeTargets, comm]

def TargetView.identity (view : TargetView) : String := workloadIdentityHash view.activeTarget

/-! ## Profiles -/

/-- The environment a profile was kept in. -/
structure DaemonProfileEnvironment where
  hardwareFingerprint : Option String
  kernelVersion : Option String
  mesaDriverVersion : Option String
  cpuTopologyHash : Option String
  schedulerLabel : Option String
  scxState : Option String
  scxOps : Option String

/-- What separates profiles of one workload. -/
structure DaemonProfilePartition where
  powerSource : Option String
  displayRefreshMillihz : Option Nat
  fpsCap : Option Nat
  graphicsSettingsHash : Option String
  schedulerLabel : Option String

/-- A profile kept for a workload. -/
structure DaemonWorkloadProfile where
  workloadIdentityHash : String
  workloadLabel : Option String
  candidateName : String
  actionId : ActionId
  actionKind : String
  safetyClass : SafetyClass
  keptUnixNanos : Nat
  lastValidatedUnixNanos : Option Nat
  diagnosticBaselineRawScoreTotal : Option Nat
  diagnosticCandidateRawScoreTotal : Option Nat
  scoreDelta : Int
  confidenceMilli : Nat
  environment : DaemonProfileEnvironment
  partition : DaemonProfilePartition

/-- `daemon_profile_action_kind_and_safety_class`. -/
def actionKindAndSafetyClass (actionId : ActionId) : String × SafetyClass :=
  if "cpu-affinity-profile:".toList.isPrefixOf actionId.toList then
    ("cpu_affinity_profile", .reversibleLowRisk)
  else ("unknown", .observeOnly)

/-- `daemon_profile_confidence_milli`. -/
def confidenceMilli (rawScoreDelta : Int) : Nat :=
  if rawScoreDelta < 0 then 900 else if rawScoreDelta = 0 then 600 else 350

/-- The records a profile is made of. -/
def isExported (record : CandidateMemoryRecord) : Bool :=
  record.result = .kept && !record.isDegraded

/-- The profile of a record, under the target that is active now. -/
def profileOf (environment : DaemonProfileEnvironment) (view : TargetView)
    (record : CandidateMemoryRecord) :
    DaemonWorkloadProfile where
  workloadIdentityHash := workloadIdentityHash view.activeTarget
  workloadLabel := (view.activeTarget.bind (·.comm)).or view.targetComm
  candidateName := record.candidateName
  actionId := record.actionId
  actionKind := (actionKindAndSafetyClass record.actionId).1
  safetyClass := (actionKindAndSafetyClass record.actionId).2
  keptUnixNanos := record.lastTriedUnixNanos
  lastValidatedUnixNanos := some record.lastTriedUnixNanos
  diagnosticBaselineRawScoreTotal := none
  diagnosticCandidateRawScoreTotal := none
  scoreDelta := record.scoreDelta
  confidenceMilli := confidenceMilli record.scoreDelta
  environment := environment
  partition := ⟨none, none, none, none, environment.schedulerLabel⟩

/-- `daemon_profile_memory_snapshot`. -/
def profileMemorySnapshot (environment : DaemonProfileEnvironment) (view : TargetView)
    (memory : Memory.CandidateMemory) :
    List DaemonWorkloadProfile :=
  (memory.records.filter isExported).map (profileOf environment view)

/-- What `forget_matching` goes by. -/
def matchesForget (hash candidateName : Option String) (all : Bool)
    (profile : DaemonWorkloadProfile) : Bool :=
  (all || hash.any fun hash => profile.workloadIdentityHash = hash) &&
    candidateName.all fun name => profile.candidateName = name || profile.actionId = name

/-- `forget_matching`: what is removed, and what stays. -/
def forgetMatching (hash candidateName : Option String) (all : Bool)
    (profiles : List DaemonWorkloadProfile) :
    List DaemonWorkloadProfile × List DaemonWorkloadProfile :=
  profiles.partition (matchesForget hash candidateName all)

/-! ## The session -/

/-- A record with the identity of the target it was recorded under. -/
abbrev Holder := CandidateMemoryRecord × String

/-- The memory, its file and who was kept. -/
structure Session where
  view : TargetView
  memory : Memory.CandidateMemory
  /-- `candidate-memory.json`. -/
  saved : StoreFile Memory.CandidateMemory
  holders : List Holder
  savedHolders : List Holder
  /-- The identity of the target when the file was written. -/
  savedIdentity : String

/-- The steps of a session. -/
inductive Step where
  /-- A tick finds another target, or another number of its tasks. -/
  | retarget (view : TargetView)
  /-- `record_result`, of a candidate that was kept, reverted or only tried. -/
  | record (input : Memory.CandidateResultRecordInput)
  /-- `persist_candidate_memory`. -/
  | save
  /-- The file is gone or cannot be read. -/
  | lose (corrupt : Bool)
  /-- The daemon starts again, with what it is told of its target. -/
  | reload (view : TargetView)

/-- The holders after a result: a table that is kept like the records. -/
def recordHolder (identity : String) (input : Memory.CandidateResultRecordInput)
    (holders : List Holder) : List Holder :=
  let record := input.base.record
  RecentTable.evict Memory.CandidateMemory.maxRecords (·.1.lastTriedUnixNanos)
    (RecentTable.put (fun existing =>
      decide (existing.1.actionId = record.actionId ∧ existing.1.contextHash = record.contextHash))
      (record, identity) holders)

/-- The holders that are read back. -/
def loadHolders (file : StoreFile Memory.CandidateMemory) (holders : List Holder) : List Holder :=
  match file with
  | .missing | .corrupt => []
  | .content memory =>
    if memory.identityStringsValid then
      holders.map fun holder => (Memory.CandidateMemory.markRecord memory.records holder.1,
        holder.2)
    else []

namespace Session

def start (view : TargetView) : Session := ⟨view, .empty, .missing, [], [], view.identity⟩

/-- One step of the session. -/
def step (session : Session) : Step → Session
  | .retarget view => { session with view := view }
  | .record input =>
    { session with
      memory := session.memory.recordResult input
      holders := recordHolder session.view.identity input session.holders }
  | .save =>
    { session with
      saved := .content session.memory
      savedHolders := session.holders
      savedIdentity := session.view.identity }
  | .lose corrupt => { session with saved := if corrupt then .corrupt else .missing }
  | .reload view =>
    { session with
      view := view
      memory := .load session.saved
      holders := loadHolders session.saved session.savedHolders }

def run (view : TargetView) (steps : List Step) : Session := steps.foldl step (start view)

/-- The holders whose records have a profile. -/
def exported (session : Session) : List Holder :=
  session.holders.filter fun holder => isExported holder.1

/-- The profile that the state shows for a record. -/
def profile (session : Session) (environment : DaemonProfileEnvironment)
    (record : CandidateMemoryRecord) :
    DaemonWorkloadProfile := profileOf environment session.view record

def profiles (session : Session) (environment : DaemonProfileEnvironment) :
    List DaemonWorkloadProfile :=
  profileMemorySnapshot environment session.view session.memory

end Session

end Stutter.Profiles

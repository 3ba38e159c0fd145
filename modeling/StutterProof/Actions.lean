import Mathlib.Data.List.Basic
import Mathlib.Tactic.Common

/-! # Action data: safety classes, rollback tokens, errors

The data the action layer hands around.  A `RollbackToken` is what makes an
applied action undoable: it lists the original values of what the action changed,
or names the restore file that does.  A `HostWrite` is one change a prepared
transaction makes on the host, identified by the restore record that undoes it;
`RollbackToken.covers` says which changes a token undoes. -/
namespace Stutter

/-- The id of an action; `validateNonEmpty` checks one that was read back. -/
abbrev ActionId := String
/-- The id of one live experiment. -/
abbrev ExperimentId := String

/-- The Unicode white space a string id is trimmed of. -/
def isTrimmed (c : Char) : Bool :=
  let n := c.toNat
  (9 ≤ n && n ≤ 13) || n == 0x20 || n == 0x85 || n == 0xA0 || n == 0x1680 ||
    (0x2000 ≤ n && n ≤ 0x200A) || n == 0x2028 || n == 0x2029 || n == 0x202F ||
    n == 0x205F || n == 0x3000

/-- `EmptyStringIdError`: an id must hold more than white space. -/
def validateNonEmpty (typeName : String) (id : String) : Except String Unit :=
  if id.toList.all isTrimmed then .error s!"{typeName} must not be empty" else .ok ()

/-- How much an action may disturb. -/
inductive SafetyClass where
  | observeOnly | reversibleLowRisk | reversibleMediumRisk | highRisk
  deriving DecidableEq, Inhabited

/-- The derived order of the source's enumeration: the declaration order. -/
def SafetyClass.rank : SafetyClass → Nat
  | .observeOnly => 0
  | .reversibleLowRisk => 1
  | .reversibleMediumRisk => 2
  | .highRisk => 3

/-- The modes of the daemon, from pure observation to high-risk apply. -/
inductive DaemonMode where
  | observe | suggest | applyLowRisk | applyMediumRisk | applyHighRisk
  deriving DecidableEq

def DaemonMode.asStr : DaemonMode → String
  | .observe => "observe"
  | .suggest => "suggest"
  | .applyLowRisk => "apply-low-risk"
  | .applyMediumRisk => "apply-medium-risk"
  | .applyHighRisk => "apply-high-risk"

def DaemonMode.supportsApply : DaemonMode → Bool
  | .applyLowRisk | .applyMediumRisk | .applyHighRisk => true
  | .observe | .suggest => false

/-! ## Restore records and tokens -/

/-- The identity a restore re-verifies before it writes to a task. -/
structure TaskRestoreIdentity where
  tid : Nat
  processPid : Option Nat
  starttimeTicks : Option Nat
  comm : Option String
  exe : Option String
  deriving DecidableEq

/-- A nice value to restore. -/
structure NiceRestoreRecord where
  tid : Nat
  originalNice : Int
  identity : Option TaskRestoreIdentity
  deriving DecidableEq

/-- The uclamp bounds to restore. -/
structure UclampRestoreRecord where
  tid : Nat
  originalUtilMin : Nat
  originalUtilMax : Nat
  identity : Option TaskRestoreIdentity
  deriving DecidableEq

/-- An I/O priority to restore. -/
structure IoPrioRestoreRecord where
  tid : Nat
  originalIoprio : Int
  identity : Option TaskRestoreIdentity
  deriving DecidableEq

/-- An IRQ's affinity to restore. -/
structure IrqAffinityRestoreRecord where
  irq : Nat
  deviceHint : String
  originalSmpAffinity : String
  deriving DecidableEq

/-- A sysfs file and the value it held. -/
structure SysfsRestoreRecord where
  path : String
  originalValue : String
  deriving DecidableEq

/-- Which cpufreq attribute a record is about. -/
structure CpuPowerResourceIdentity where
  cpu : Nat
  policy : String
  relatedCpus : List Nat
  attributeName : String
  driver : Option String
  availableValues : Option String
  bootId : Option String
  deriving DecidableEq

/-- A power attribute's value to restore. -/
structure CpuPowerRestoreRecord where
  path : String
  originalValue : String
  identity : Option CpuPowerResourceIdentity
  deriving DecidableEq

/-- The cgroup a task goes back to. -/
structure CgroupRestoreRecord where
  tid : Nat
  originalCgroup : String
  identity : Option TaskRestoreIdentity
  originalCgroupId : Option Nat
  deriving DecidableEq

/-- The cpuset values of a cgroup to restore. -/
structure CgroupCpusetRestoreRecord where
  cgroupPath : String
  originalCpusetCpus : Option String
  originalCpusetMems : Option String
  deriving DecidableEq

/-- What undoes an action. -/
inductive RollbackToken where
  | cpuAffinityRestoreFile (path : String) (affectedTasks : Nat)
  | niceRestore (records : List NiceRestoreRecord)
  | irqAffinityRestore (records : List IrqAffinityRestoreRecord)
  | ioPrioRestore (records : List IoPrioRestoreRecord)
  | uclampRestore (records : List UclampRestoreRecord)
  | cgroupRestore (records : List CgroupRestoreRecord)
      (cpuset : Option CgroupCpusetRestoreRecord)
  | cpuPowerRestore (records : List CpuPowerRestoreRecord)
  | vmKnobRestore (records : List SysfsRestoreRecord)
  | gpuPowerRestore (records : List SysfsRestoreRecord)
  | sysfsRestore (path : String) (originalValue : String)
  deriving DecidableEq

namespace RollbackToken

def kind : RollbackToken → String
  | cpuAffinityRestoreFile .. => "cpu-affinity-restore-file"
  | niceRestore _ => "nice-restore"
  | irqAffinityRestore _ => "irq-affinity-restore"
  | ioPrioRestore _ => "ioprio-restore"
  | uclampRestore _ => "uclamp-restore"
  | cgroupRestore .. => "cgroup-restore"
  | cpuPowerRestore _ => "cpu-power-restore"
  | vmKnobRestore _ => "vm-knob-restore"
  | gpuPowerRestore _ => "gpu-power-restore"
  | sysfsRestore .. => "sysfs-restore"

def restorePath : RollbackToken → Option String
  | cpuAffinityRestoreFile path _ => some path
  | sysfsRestore path _ => some path
  | _ => none

def affectedTasks : RollbackToken → Nat
  | cpuAffinityRestoreFile _ n => n
  | niceRestore records => records.length
  | irqAffinityRestore records => records.length
  | ioPrioRestore records => records.length
  | uclampRestore records => records.length
  | cgroupRestore records _ => records.length
  | cpuPowerRestore records => records.length
  | vmKnobRestore records => records.length
  | gpuPowerRestore records => records.length
  | sysfsRestore .. => 1

end RollbackToken

/-- One change a prepared transaction makes on the host, named by the restore
record that undoes it.  An affinity change is undone through the restore file. -/
inductive HostWrite where
  | affinity (restorePath : String) (tid : Nat)
  | nice (record : NiceRestoreRecord)
  | uclamp (record : UclampRestoreRecord)
  | cgroup (record : CgroupRestoreRecord)
  | cpuset (record : CgroupCpusetRestoreRecord)
  | cpuPower (record : CpuPowerRestoreRecord)
  deriving DecidableEq

/-- Restoring the token undoes the change. -/
def RollbackToken.covers : RollbackToken → HostWrite → Bool
  | .cpuAffinityRestoreFile path _, .affinity restorePath _ => path == restorePath
  | .niceRestore records, .nice record => decide (record ∈ records)
  | .uclampRestore records, .uclamp record => decide (record ∈ records)
  | .cgroupRestore records _, .cgroup record => decide (record ∈ records)
  | .cgroupRestore _ cpuset, .cpuset record => cpuset == some record
  | .cpuPowerRestore records, .cpuPower record => decide (record ∈ records)
  | _, _ => false

/-! ## Automatic recovery -/

/-- Whether a start may recover a token by itself. -/
inductive AutomaticRecoveryCapability where
  | verifiedAutomatic | manualOnly | notRecoverable
  deriving DecidableEq

def AutomaticRecoveryCapability.debug : AutomaticRecoveryCapability → String
  | .verifiedAutomatic => "VerifiedAutomatic"
  | .manualOnly => "ManualOnly"
  | .notRecoverable => "NotRecoverable"

/-- How a kind of token is recovered. -/
structure RollbackRecoveryDescriptor where
  tokenKind : String
  automaticRecovery : AutomaticRecoveryCapability
  identityContract : String

/-- Tasks re-verified one by one: the contract nice and uclamp tokens share. -/
def taskIdentityContract : String :=
  ("complete process/task IDs and task start times from the prepared snapshot; each task " ++
   "re-verified immediately before its write; exited or replaced tasks skipped; legacy records " ++
   "without a start time are never restored automatically")

/-- Startup permission by token kind, independent of manual handler availability. -/
def recoveryDescriptor (token : RollbackToken) : RollbackRecoveryDescriptor :=
  let (capability, contract) : AutomaticRecoveryCapability × String :=
    match token with
    | .cpuAffinityRestoreFile .. => (.verifiedAutomatic,
        ("supported restore layout; complete nonzero process/task IDs and start times; entire " ++
         "batch validated before mutation; stale identities skipped"))
    | .niceRestore _ => (.verifiedAutomatic, taskIdentityContract)
    | .ioPrioRestore _ => (.manualOnly,
        "legacy task identity accepted by manual I/O-priority restoration")
    | .uclampRestore _ => (.verifiedAutomatic, taskIdentityContract)
    | .cgroupRestore .. => (.verifiedAutomatic,
        ("complete process/task IDs and task start times plus the inode of every original " ++
         "cgroup, from the prepared snapshot; each task re-verified immediately before its " ++
         "write; exited or replaced tasks and recreated cgroups skipped; legacy records are " ++
         "never restored automatically"))
    | .irqAffinityRestore _ => (.manualOnly,
        "automatic IRQ resource identity and crash recovery unqualified")
    | .cpuPowerRestore _ => (.verifiedAutomatic,
        ("the cpufreq policy, its related CPU set, driver, controlled attribute, legal values " ++
         "and boot are rediscovered and compared before any write; a record without that " ++
         "identity, from another boot, or whose original value is no longer legal is never " ++
         "replayed"))
    | .gpuPowerRestore _ => (.manualOnly,
        "automatic GPU-power resource identity and crash recovery unqualified")
    | .vmKnobRestore _ => (.manualOnly,
        "automatic VM-knob resource identity and crash recovery unqualified")
    | .sysfsRestore .. => (.notRecoverable,
        "arbitrary path token has no automatic resource identity contract")
  ⟨token.kind, capability, contract⟩

/-! ## The action interface's own data -/

/-- What a dry run or a verification found. -/
structure ActionState where
  applied : Bool
  affectedTasks : Nat
  checkedTasks : Nat
  pendingChanges : Nat
  warnings : List String

/-! ## Errors -/

/-- An opaque error: its text and what it can be downcast to.  A `journaled`
failure carries the token of a journaled apply and whether it was rolled back. -/
inductive AnyError where
  | message (text : String)
  | boundary (actionKind reasonCode text : String)
  | journaled (text : String) (rollback : Option RollbackToken) (rollbackCompleted : Bool)
  deriving DecidableEq

def AnyError.text : AnyError → String
  | message text => text
  | boundary _ _ text => text
  | journaled text .. => text

/-- `context`: the text grows, the downcast stays possible. -/
def AnyError.context (note : String) : AnyError → AnyError
  | message text => message s!"{note}: {text}"
  | boundary actionKind reasonCode text => boundary actionKind reasonCode s!"{note}: {text}"
  | journaled text rollback done => journaled s!"{note}: {text}" rollback done

/-- The token of a journaled failure that was not rolled back. -/
def AnyError.outstanding : AnyError → Option RollbackToken
  | journaled _ rollback false => rollback
  | _ => none

def requireAutomaticRecovery (token : RollbackToken) : Except AnyError Unit :=
  let descriptor := recoveryDescriptor token
  if descriptor.automaticRecovery = .verifiedAutomatic then .ok ()
  else .error (.message (s!"startup_recovery_not_authorized: token_kind={descriptor.tokenKind} " ++
    s!"capability={descriptor.automaticRecovery.debug}; {descriptor.identityContract}; " ++
    s!"explicit manual restoration required"))

/-- What an apply reports when it fails: the cause, and the token of what it had
already changed. -/
structure PartialApplyError where
  source : AnyError
  rollback : Option RollbackToken

/-- The phases of the runner. -/
inductive ActionPhase where
  | preflight | dryRun | apply | verify | rollback | emergencyRollback

def ActionPhase.asStr : ActionPhase → String
  | preflight => "preflight"
  | dryRun => "dry_run"
  | apply => "apply"
  | verify => "verify"
  | rollback => "rollback"
  | emergencyRollback => "emergency_rollback"

/-- A phase that took too long. -/
structure ActionTimeout where
  phase : ActionPhase
  elapsedMs : Nat
  timeoutMs : Nat

/-- The failures an audited action run reports.  `phaseFailed` is the source's
`PhaseFailure`, whose rollback case no run constructs. -/
inductive ActionError where
  | phaseFailed (phase : ActionPhase) (message : String)
  | boundary (phase : ActionPhase) (actionKind reasonCode message : String)
  | timeout (timeout : ActionTimeout)
  | rollbackFailure (message : String)
  | verifyRollbackCompleted (verifyError : String)
  | emergencyRollbackFailure (verifyError rollbackError : String)
  | timeoutRollbackCompleted (timeout : ActionTimeout)
  | timeoutRollbackFailure (timeout : ActionTimeout) (rollbackError : String)
  | scopeLimitExceeded (affectedTasks maxAffectedTasks : Nat)
  | policyRejected (message : String)

namespace ActionError

def preflight (message : String) : ActionError := phaseFailed .preflight message
def apply (message : String) : ActionError := phaseFailed .apply message

/-- `from_phase_error`: a boundary error keeps its reason code, any other error
becomes the failure of its phase. -/
def fromPhaseError (phase : ActionPhase) : AnyError → ActionError
  | .boundary actionKind reasonCode text => boundary phase actionKind reasonCode text
  | other => phaseFailed phase other.text

def dryRunError : AnyError → ActionError := fromPhaseError .dryRun
def applyError : AnyError → ActionError := fromPhaseError .apply

def timeoutDetails : ActionError → Option ActionTimeout
  | timeout t => some t
  | _ => none

/-- The phase a failure is reported under. -/
def phase : ActionError → ActionPhase
  | phaseFailed phase _ => phase
  | boundary phase .. => phase
  | timeout t => t.phase
  | rollbackFailure _ => .rollback
  | verifyRollbackCompleted _ => .verify
  | emergencyRollbackFailure .. => .emergencyRollback
  | timeoutRollbackCompleted t => t.phase
  | timeoutRollbackFailure .. => .emergencyRollback
  | scopeLimitExceeded .. => .dryRun
  | policyRejected _ => .preflight

def category : ActionError → String
  | phaseFailed phase _ => s!"{phase.asStr}_failure"
  | boundary _ _ reasonCode _ => reasonCode
  | timeout _ => "timeout"
  | rollbackFailure _ => "rollback_failure"
  | verifyRollbackCompleted _ => "verify_failure_rollback_completed"
  | emergencyRollbackFailure .. => "emergency_rollback_failure"
  | timeoutRollbackCompleted _ => "timeout_rollback_completed"
  | timeoutRollbackFailure .. => "timeout_rollback_failure"
  | scopeLimitExceeded .. => "scope_limit_exceeded"
  | policyRejected _ => "policy_rejected"

def humanMessage : ActionError → String
  | phaseFailed .dryRun message => s!"dry run failed: {message}"
  | phaseFailed phase message => s!"{phase.asStr} failed: {message}"
  | boundary phase _ _ message => s!"{phase.asStr} failed: {message}"
  | timeout t => (s!"action timed out during {t.phase.asStr}: elapsed_ms={t.elapsedMs} " ++
      s!"timeout_ms={t.timeoutMs}")
  | rollbackFailure message => s!"rollback failed: {message}"
  | verifyRollbackCompleted verifyError =>
      s!"verify failed; rollback completed: {verifyError}"
  | emergencyRollbackFailure verifyError rollbackError =>
      (s!"verify failed; emergency rollback failed: verify error: {verifyError}; " ++
      s!"rollback error: {rollbackError}")
  | timeoutRollbackCompleted t => (s!"action timed out during {t.phase.asStr}; rollback " ++
      s!"completed: elapsed_ms={t.elapsedMs} timeout_ms={t.timeoutMs}")
  | timeoutRollbackFailure t rollbackError => (s!"action timed out during {t.phase.asStr}; " ++
      s!"emergency rollback failed: elapsed_ms={t.elapsedMs} timeout_ms={t.timeoutMs}; " ++
      s!"rollback error: {rollbackError}")
  | scopeLimitExceeded affected limit =>
      s!"dry run affected {affected} task(s), exceeding scope limit {limit}"
  | policyRejected message => s!"policy rejected: {message}"

end ActionError

/-- What a policy is asked for. -/
inductive PolicyIntent where
  | observe | suggest | dryRun | apply | verify | rollback
  deriving DecidableEq

/-- What an action's effect reaches. -/
inductive ActionEffectScope where
  | observeOnly | localProcess | localProcessTree | userStateFile | cgroup | irq | sysfs | cpuPower
  | gpuPower | vmKnob | systemWide
  deriving DecidableEq

/-- What a descriptor promises about undoing. -/
inductive RollbackRequirement where
  | notRequiredForDryRun | requiredBeforeApply | bestEffortOnly | unavailable
  deriving DecidableEq

/-- An `f32`, as far as comparisons tell values apart: the two zeros are one. -/
inductive F32 where
  | nan
  | negInf
  | finite (value : Rat)
  | posInf
  deriving DecidableEq

namespace F32

/-- `a >= b`; false as soon as one side is not a number. -/
def ge : F32 → F32 → Bool
  | nan, _ | _, nan => false
  | posInf, _ | _, negInf => true
  | negInf, _ | _, posInf => false
  | finite a, finite b => decide (b ≤ a)

/-- `a > b`. -/
def gt (a b : F32) : Bool := a.ge b && !b.ge a

/-- `f32::max`: a side that is not a number is ignored. -/
def max : F32 → F32 → F32
  | nan, b => b
  | a, nan => a
  | a, b => if a.ge b then a else b

end F32

/-- What a policy judges an action by. -/
structure ActionDescriptor where
  actionId : ActionId
  actionKind : String
  safetyClass : SafetyClass
  effectScope : ActionEffectScope
  rollback : RollbackRequirement
  persistentEffect : Bool
  touchesSystemWideState : Bool
  requiresExplicitTarget : Bool
  confidence : Option F32

/-- The descriptor a `TuningAction` has unless it says otherwise: its id is its kind, and its effect
stays within the target's process tree. -/
def ActionDescriptor.ofTuningAction (id : ActionId) (safetyClass : SafetyClass) :
    ActionDescriptor where
  actionId := id
  actionKind := id
  safetyClass := safetyClass
  effectScope := .localProcessTree
  rollback := .requiredBeforeApply
  persistentEffect := false
  touchesSystemWideState := false
  requiresExplicitTarget := true
  confidence := none

/-- A task demoted from nice 0, with the identity that its apply has recorded. -/
def demotedRecord : NiceRestoreRecord := ⟨42, 0, some ⟨42, some 42, some 9000, none, none⟩⟩

end Stutter

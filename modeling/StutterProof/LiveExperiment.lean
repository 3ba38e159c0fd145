import StutterProof.Controller
import StutterProof.PreparedTransaction

/-! # Live experiments

The manager starts an experiment, keeps it or rolls it back, and releases what was
kept.  It owns the current experiment; the controller's state carries a second copy of
the same fact (`activeExperiment`), the journal a durable one, and the ledger holds
what was kept.

An operation is given the answers of the outside: `ManagerHost` for the comparisons,
the autonomy gate and the rollback verification, and an `ActionExecutor` that does the
host's part.  Both are arbitrary here. -/
namespace Stutter
open Fallible

/-! ## The manager's data -/

/-- The experiment that runs. -/
structure LiveExperiment where
  experimentId : ExperimentId
  candidate : CandidateAction
  safetyClass : SafetyClass
  mode : DaemonMode
  baselineScore : WindowScore
  baselineActiveConfig : Option ActiveConfigSnapshot
  appliedUnixNanos : Nat
  washoutUntilUnixNanos : Nat
  measureUntilUnixNanos : Nat
  rollback : RollbackToken
  deriving DecidableEq

def LiveExperiment.actionId (e : LiveExperiment) : ActionId := e.candidate.actionId

/-- A kept candidate, with its token. -/
structure KeptCandidateState where
  experimentId : ExperimentId
  candidate : CandidateAction
  baselineScore : WindowScore
  candidateScore : WindowScore
  rollback : RollbackToken
  keptUnixNanos : Nat
  reason : String

/-- The derived order of the source's enumeration: the declaration order. -/
def ActionConflictGroup.rank : ActionConflictGroup → Nat
  | .cpuPlacement => 0
  | .cpuPriority => 1
  | .ioPriority => 2
  | .cgroupPlacement => 3
  | .irqPlacement => 4
  | .cpuPower => 5
  | .gpuPower => 6
  | .vmMemory => 7
  | .thermalRecovery => 8
  | .none => 9

/-- The source's `Debug` name. -/
def ActionConflictGroup.debug : ActionConflictGroup → String
  | .cpuPlacement => "CpuPlacement"
  | .cpuPriority => "CpuPriority"
  | .ioPriority => "IoPriority"
  | .cgroupPlacement => "CgroupPlacement"
  | .irqPlacement => "IrqPlacement"
  | .cpuPower => "CpuPower"
  | .gpuPower => "GpuPower"
  | .vmMemory => "VmMemory"
  | .thermalRecovery => "ThermalRecovery"
  | .none => "None"

/-- The kept actions by conflict group, in the groups' order. -/
structure KeptActionSet where
  actions : List (ActionConflictGroup × KeptCandidateState)

namespace KeptActionSet

def empty : KeptActionSet := ⟨[]⟩

def get (set : KeptActionSet) (group : ActionConflictGroup) : Option KeptCandidateState :=
  set.actions.lookup group

def conflictingAction (set : KeptActionSet) (candidate : CandidateAction) :
    Option KeptCandidateState :=
  (set.actions.map (·.2)).find? fun kept => candidate.conflictsWith kept.candidate

def remove (set : KeptActionSet) (group : ActionConflictGroup) : KeptActionSet :=
  ⟨set.actions.filter fun entry => entry.1 ≠ group⟩

/-- `BTreeMap::insert` under a key that is not there. -/
def insert (set : KeptActionSet) (group : ActionConflictGroup) (kept : KeptCandidateState) :
    KeptActionSet :=
  ⟨set.actions.filter (fun entry => entry.1.rank < group.rank) ++
    (group, kept) :: set.actions.filter fun entry => group.rank < entry.1.rank⟩

/-- `insert_if_compatible`. -/
def insertIfCompatible (set : KeptActionSet) (kept : KeptCandidateState) :
    Except AnyError KeptActionSet :=
  let group := kept.candidate.conflictGroup
  match set.get group with
  | some existing => .error (.message
      (s!"kept_action_conflict: candidate '{kept.candidate.candidateName}' conflict group " ++
        s!"{group.debug} would replace kept action '{existing.candidate.candidateName}' in the " ++
        "same group; replace requires rollback first"))
  | none =>
    match set.conflictingAction kept.candidate with
    | some conflicting => .error (.message
        (s!"kept_action_conflict: candidate '{kept.candidate.candidateName}' conflict group " ++
          s!"{group.debug} conflicts with kept action '{conflicting.candidate.candidateName}' " ++
          s!"conflict group {conflicting.candidate.conflictGroup.debug}; replace requires " ++
          "rollback first"))
    | none => .ok (set.insert group kept)

end KeptActionSet

/-- What the manager is told of the runtime it works for.  Without a journal path a
simulated session writes no store. -/
structure LiveExperimentManagerInput where
  mode : DaemonMode
  daemonPolicy : DaemonPolicy
  controllerPolicy : ControllerPolicy
  simulateActionEffects : Bool
  washoutSeconds : Nat
  candidateWindowSeconds : Nat
  manualRestoreCommand : String
  hasControllerJournalPath : Bool

/-- What became of a decision. -/
inductive LiveExperimentEvent where
  | noop | started | kept | reverted | cooldownEntered | faulted

/-- What the history records. -/
structure LiveExperimentHistoryContext where
  experimentId : ExperimentId
  actionId : ActionId
  candidateName : String
  actionKind : String
  mode : DaemonMode
  safetyClass : SafetyClass
  scoreBefore : Option WindowScore
  scoreAfter : Option WindowScore
  rollbackPerformed : Bool
  rollbackPolicy : String
  cooldownUntilUnixNanos : Option Nat
  manualRestoreCommand : Option String

/-- The manager's answer. -/
structure LiveExperimentOutcome where
  event : LiveExperimentEvent
  historyContext : Option LiveExperimentHistoryContext
  clearMeasurementWindow : Bool

def LiveExperimentOutcome.ofEvent (event : LiveExperimentEvent) : LiveExperimentOutcome :=
  ⟨event, none, false⟩

def LiveExperimentOutcome.noop : LiveExperimentOutcome := .ofEvent .noop

/-- The manager, the controller's state and the kept actions, over the world.
`rollbacks` is a history variable: every token an executor was asked to roll back, and
whether it answered that it did. -/
structure ManagerState where
  world : World
  current : Option LiveExperiment
  failedApplyContext : Option LiveExperimentHistoryContext
  controller : ControllerRuntimeState
  keptActions : KeptActionSet
  rollbacks : List (RollbackToken × Bool)

/-- A manager that starts over a world, with the memory it loaded. -/
def ManagerState.starting (w : World) (memory : CandidateMemory) : ManagerState :=
  ⟨w, none, none, .starting memory, .empty, []⟩

def ManagerState.hasActiveExperiment (s : ManagerState) : Bool := s.current.isSome

/-- Whether a rollback restored the baseline. -/
structure RollbackVerification where
  verified : Bool
  expected : String
  actual : String
  reasonCode : String

/-- The answers of the outside to one operation of the manager. -/
structure ManagerHost where
  comparisons : Comparisons
  /-- The printed form of a comparison's result. -/
  debugResult : ExperimentResult → String
  /-- The denial of the autonomous apply gate, if it denies. -/
  autonomousApplyGate : CandidateAction → Option String
  verifyRollbackRestoredBaseline : CandidateAction → ActiveConfigSnapshot → ActiveConfigSnapshot →
    RollbackVerification
  processStarttime : Nat → Option Nat

/-- `LiveExperimentActionExecutor`, for one operation of the manager. -/
structure ActionExecutor where
  applyCandidate : CandidateAction → ExperimentId → WorldOp RollbackToken
  rollbackCandidate : LiveExperiment → WorldOp (Option ActiveConfigSnapshot)

abbrev ManagerOp (α : Type) := Op ManagerState AnyError α

/-- The same manager over another world. -/
def ManagerState.over (s : ManagerState) (w : World) : ManagerState := { s with world := w }

variable (s : ManagerState)

@[simp] theorem ManagerState.over_world (w) : (s.over w).world = w := rfl
@[simp] theorem ManagerState.over_current (w) : (s.over w).current = s.current := rfl
@[simp] theorem ManagerState.over_controller (w) : (s.over w).controller = s.controller := rfl
@[simp] theorem ManagerState.over_keptActions (w) : (s.over w).keptActions = s.keptActions := rfl
@[simp] theorem ManagerState.over_rollbacks (w) : (s.over w).rollbacks = s.rollbacks := rfl

/-- An operation on the world, within the manager's state. -/
def onStore {α : Type} (m : WorldOp α) : ManagerOp α := m.zoom (·.world) fun w s => s.over w

open Op

@[simp] theorem holds_onStore {α : Type} {m : WorldOp α} {I : ManagerState → Prop}
    {Q : Except AnyError α → ManagerState → Prop} {s : ManagerState} :
    Holds (onStore m) I Q s ↔
      Holds m (fun w => I (s.over w)) (fun r w => Q r (s.over w)) s.world := by
  simp [onStore]

/-! ## Gates and texts -/

/-- `validate_window_score_for_apply`. -/
def validateWindowScoreForApply (label : String) (score : WindowScore) : Except AnyError Unit :=
  if score.intervalCount = 0 then .error (.message s!"{label} window has zero intervals")
  else if score.scoredSamples = 0 then .error (.message s!"{label} window has zero scored samples")
  else if score.scoredTaskCount = 0 then .error (.message s!"{label} window has zero scored tasks")
  else .ok ()

/-- `validate_start_candidate`: outside the apply modes nothing is started. -/
def validateStartCandidate (mode : DaemonMode) (policy : DaemonPolicy)
    (candidate : CandidateAction) :
    Except AnyError Bool :=
  match mode with
  | .applyLowRisk =>
    if candidate.safetyClass ≠ .reversibleLowRisk then
      .error (.message (s!"live apply-low-risk rejected non-low-risk candidate " ++
        s!"{candidate.profileName} safety={candidate.safetyClass.debug}"))
    else .ok true
  | .applyMediumRisk =>
    if !policy.allowMediumRiskApply then
      .error (.message "live apply-medium-risk requires explicit medium-risk unlock")
    else if SafetyClass.reversibleMediumRisk.rank < candidate.safetyClass.rank then
      .error (.message (s!"live apply-medium-risk rejected non-medium-risk candidate " ++
        s!"{candidate.profileName} safety={candidate.safetyClass.debug}"))
    else if candidate.isHighRiskSystemAdjacent then
      .error (.message (s!"live apply-medium-risk rejected manual-only high-risk candidate " ++
        s!"{candidate.profileName} action_kind={candidate.actionKind}"))
    else .ok true
  | .observe | .suggest | .applyHighRisk => .ok false

/-- `validate_autonomous_support`: the test-only fake is no mutation and is exempt. -/
def validateAutonomousSupport (host : ManagerHost) (candidate : CandidateAction) :
    Except AnyError Unit :=
  if !candidate.isMutationProvider then .ok ()
  else match host.autonomousApplyGate candidate with
    | some denial => .error (.message denial)
    | none => .ok ()

/-- `deadlines_from_now`. -/
def deadlinesFromNow (input : LiveExperimentManagerInput) (applied : Nat) : Nat × Nat :=
  if input.simulateActionEffects then (applied, applied)
  else
    let washoutUntil := saturatingAdd applied (seconds input.washoutSeconds)
    (washoutUntil, saturatingAdd washoutUntil (seconds input.candidateWindowSeconds))

/-- `journal_process_identity`. -/
def journalProcessIdentity (pid : Nat) (starttime activeTasks : Option Nat) : String :=
  let ticks := (starttime.map toString).getD "unknown"
  s!"pid:{pid}:starttime:{ticks}" ++
    match activeTasks with
    | some count => s!":active_tasks:{count}"
    | none => ""

section Manager
variable (input : LiveExperimentManagerInput) (host : ManagerHost) (executor : ActionExecutor)
  (observation : AutotuneObservation)

/-- `controller_journal_metadata_for_candidate`. -/
def journalMetadata (candidate : CandidateAction) (affectedTasks : Option Nat)
    (verifyResult : String) : ControllerJournalActionMetadata :=
  let pid := (observation.targetRootPid.filter (· ≠ 0)).getD candidate.treePid
  let starttime := if pid ≠ 0 then host.processStarttime pid else none
  { candidate := some candidate.profileName
    workloadIdentity := some (journalProcessIdentity pid starttime none)
    targetIdentity := some (journalProcessIdentity pid starttime
      (some (affectedTasks.getD observation.activeTargetCount)))
    restoreCommand := some input.manualRestoreCommand
    verifyResult := some verifyResult
    mode := some input.mode
    safetyClass := some candidate.safetyClass }

/-- `controller_journal_record_for_live_experiment`. -/
def journalRecordFor (experiment : LiveExperiment) (state : ControllerJournalState)
    (verifyResult : String) : ControllerJournalRecord :=
  { phaseRecord state experiment.experimentId experiment.actionId (some experiment.rollback)
      (journalMetadata input host observation experiment.candidate
        (some experiment.rollback.affectedTasks) verifyResult) with
    mode := some experiment.mode
    safetyClass := some experiment.safetyClass }

/-- A simulated session without a journal path touches no store. -/
def LiveExperimentManagerInput.storeless : Bool :=
  input.simulateActionEffects && !input.hasControllerJournalPath

/-- `write_controller_journal_phase_for_live_experiment`. -/
def writeJournalPhaseFor (experiment : LiveExperiment) (state : ControllerJournalState)
    (verifyResult : String) : ManagerOp Unit :=
  if input.storeless then ret ()
  else onStore (writeControllerJournalRecord
    (journalRecordFor input host observation experiment state verifyResult))

def historyContextFor (experiment : LiveExperiment) (scoreAfter : Option WindowScore)
    (rollbackPerformed : Bool) (rollbackPolicy : String) (cooldownUntil : Option Nat) :
    LiveExperimentHistoryContext :=
  ⟨experiment.experimentId, experiment.actionId, experiment.candidate.profileName,
    experiment.candidate.actionKind, experiment.mode, experiment.safetyClass,
    some experiment.baselineScore, scoreAfter, rollbackPerformed, rollbackPolicy, cooldownUntil,
    some input.manualRestoreCommand⟩

def resultInput (candidate : CandidateAction) (result : CandidateMemoryResult)
    (baselineTotal currentTotal : Option Nat) (rollbackReason : Option String)
    (cooldownExpires : Option Nat) : CandidateResultRecordInput :=
  ⟨candidate, observation.memoryContext candidate.candidateName, observation.nowUnixNanos, result,
    baselineTotal, currentTotal, rollbackReason, cooldownExpires⟩

/-! ## Starting -/

/-- The id of an experiment names its mode, its profile and its time. -/
def experimentIdFor (candidate : CandidateAction) : ExperimentId :=
  s!"live-{input.mode.asStr}:{candidate.profileName}:{observation.nowUnixNanos}"

/-- The privileged service defers its journal records to the manager. -/
def deferredPrivilegedJournal (candidate : CandidateAction) : Bool :=
  input.mode = .applyMediumRisk && SafetyClass.reversibleLowRisk.rank < candidate.safetyClass.rank

/-- The record is the durable `Applied` record of this very apply. -/
def namesAppliedToken (record : ControllerJournalRecord) (experimentId : ExperimentId)
    (actionId : ActionId) (token : RollbackToken) : Bool :=
  record.state = .applied && record.rollbackToken = some token &&
    record.experimentId = some experimentId && record.actionId = some actionId

/-- `apply_candidate_for_runtime_with_executor`. -/
def applyCandidateForRuntime (candidate : CandidateAction) (experimentId : ExperimentId) :
    WorldOp RollbackToken :=
  if input.simulateActionEffects && candidate.variant = .fake then ret (.niceRestore [])
  else if input.simulateActionEffects then
    ret (.cpuAffinityRestoreFile s!"/tmp/stutter-simulated-rollback-{experimentId}.json"
      (max observation.activeTargetCount 1))
  else if deferredPrivilegedJournal input candidate then do
    let id ← tryNewId "ExperimentId" experimentId
    let actionId ← tryNewId "ActionId" candidate.actionId
    writeControllerJournalPhase .applying id actionId none
      (journalMetadata input host observation candidate none "pending_apply")
    let token ← executor.applyCandidate candidate experimentId
    writeControllerJournalPhase .applied id actionId (some token)
      (journalMetadata input host observation candidate (some token.affectedTasks)
        "applied_pending_verify")
    return token
  else do
    let token ← executor.applyCandidate candidate experimentId
    let record ← readControllerJournal
    ensure (namesAppliedToken record experimentId candidate.actionId token)
      (.message "live executor returned without its durable Applied rollback token")
    return token

/-- The experiment as it is held, with its deadlines. -/
def experimentFor (candidate : CandidateAction) (token : RollbackToken) (deadlines : Nat × Nat) :
    LiveExperiment :=
  ⟨experimentIdFor input observation candidate, candidate, candidate.safetyClass, input.mode,
    observation.toWindowScore, observation.activeConfigSnapshot, observation.nowUnixNanos,
    deadlines.1, deadlines.2, token⟩

def activeExperimentFor (candidate : CandidateAction) : ActiveExperiment :=
  ⟨experimentIdFor input observation candidate, candidate, observation.toWindowScore⟩

/-- The journaled failure says that its rollback was completed. -/
def AnyError.rollbackCompleted : AnyError → Bool
  | journaled _ _ completed => completed
  | _ => false

/-- The state of a failed apply: faulted, and holding the experiment if its token is
outstanding. -/
def applyFailed (candidate : CandidateAction) (e : AnyError) (s : ManagerState) : ManagerState :=
  let policy :=
    if e.outstanding.isSome then "manual-restore-required"
    else if e.rollbackCompleted then "rollback-completed"
    else "rollback-state-unknown"
  let context : LiveExperimentHistoryContext :=
    ⟨experimentIdFor input observation candidate, candidate.actionId, candidate.profileName,
      candidate.actionKind, input.mode, candidate.safetyClass, some observation.toWindowScore, none,
      e.rollbackCompleted, policy, none, some input.manualRestoreCommand⟩
  match e.outstanding with
  | none => { s with
      failedApplyContext := some context
      controller := { s.controller with phase := .faulted } }
  | some token => { s with
      failedApplyContext := some context
      controller := { s.controller with
        phase := .faulted
        activeExperiment := some (activeExperimentFor input observation candidate) }
      current := some (experimentFor input observation candidate token
        (observation.nowUnixNanos, observation.nowUnixNanos)) }

/-- The memory of the attempt, which also spaces the action's next start. -/
def attemptInput (candidate : CandidateAction) : CandidateResultRecordInput :=
  resultInput observation candidate .tried none none none
    (some (saturatingAdd observation.nowUnixNanos
      input.controllerPolicy.minimumTimeBetweenSameAction))

/-- The state of a successful apply: the experiment is measured. -/
def applySucceeded (candidate : CandidateAction) (token : RollbackToken) (s : ManagerState) :
    ManagerState :=
  { s with
    controller := {
      s.controller.recordCandidateResult (attemptInput input observation candidate) with
      phase := .measuring
      activeExperiment := some (activeExperimentFor input observation candidate) }
    current := some (experimentFor input observation candidate token
      (deadlinesFromNow input observation.nowUnixNanos)) }

/-- The answer of a start. -/
def startedOutcome (experiment : LiveExperiment) : LiveExperimentOutcome :=
  ⟨.started, some (historyContextFor input experiment none false "rollback-on-restore" none), true⟩

/-- `start_candidate_experiment_with_executor`, after its gates. -/
def startValidated (candidate : CandidateAction) : ManagerOp LiveExperimentOutcome := do
  assign fun s => { s with failedApplyContext := none }
  match ← attempt (onStore (applyCandidateForRuntime input host executor observation candidate
      (experimentIdFor input observation candidate))) with
  | .error e => do
    assign (applyFailed input observation candidate e)
    fail e
  | .ok token => do
    assign (applySucceeded input observation candidate token)
    let experiment := experimentFor input observation candidate token
      (deadlinesFromNow input observation.nowUnixNanos)
    writeJournalPhaseFor input host observation experiment .measuring
      "measurement_window_collecting"
    return startedOutcome input experiment

/-- `start_candidate_experiment_with_executor`. -/
def startCandidateExperiment (candidate : CandidateAction) : ManagerOp LiveExperimentOutcome := do
  let mayStart ← ofExcept (validateStartCandidate input.mode input.daemonPolicy candidate)
  if mayStart then do
    ofExcept (validateAutonomousSupport host candidate)
    ofExcept (validateWindowScoreForApply "baseline" observation.toWindowScore)
    startValidated input host executor observation candidate
  else ret .noop

/-! ## Rolling back -/

/-- `rollback_verification_for_experiment`: nothing to verify without a target or a
baseline; a missing snapshot does not verify. -/
def rollbackVerificationFor (experiment : LiveExperiment) (snapshot : Option ActiveConfigSnapshot) :
    Option RollbackVerification :=
  if !observation.targetPresent then none
  else experiment.baselineActiveConfig.map fun baseline =>
    match snapshot with
    | some postRollback =>
      host.verifyRollbackRestoredBaseline experiment.candidate baseline postRollback
    | none => ⟨false, "post-rollback active config snapshot", "missing",
        "rollback_verification_unavailable"⟩

/-- Put the experiment back into its place. -/
def holdCurrent (experiment : LiveExperiment) (s : ManagerState) : ManagerState :=
  { s with current := some experiment }

/-- Take the experiment out of its place. -/
def takeCurrent (s : ManagerState) : ManagerState := { s with current := none }

/-- The executor's part of a rollback; simulated effects never reached the host. -/
def rollbackThroughExecutor (experiment : LiveExperiment) :
    ManagerOp (Option ActiveConfigSnapshot) :=
  if input.simulateActionEffects then ret none
  else do
    let answer ← attempt (onStore (executor.rollbackCandidate experiment))
    assign fun s => { s with rollbacks := s.rollbacks ++ [(experiment.rollback, answer.isOk)] }
    ofExcept answer

/-- Cooldown times in records and histories are not dropped when the duration is
zero. -/
def cooldownUntil (duration : Nat) : Nat := saturatingAdd observation.nowUnixNanos duration

/-- The controller after a rollback that could not be verified. -/
def rollbackFaulted (experiment : LiveExperiment) (verification : RollbackVerification)
    (c : ControllerRuntimeState) : ControllerRuntimeState :=
  (c.recordCandidateResult (resultInput observation experiment.candidate .faulted
    (some experiment.baselineScore.scoreTotal) (some observation.scoreTotal)
    (some (s!"rollback verification failed: {verification.reasonCode} " ++
      s!"expected={verification.expected} actual={verification.actual}"))
    (some (cooldownUntil observation
      input.controllerPolicy.cooldownAfterFault)))).enterCooldownAfterFault
      input.controllerPolicy observation.nowUnixNanos

/-- A rollback whose verification failed: the experiment stays, faulted. -/
def finishUnverified (experiment : LiveExperiment) (verification : RollbackVerification) :
    ManagerOp LiveExperimentOutcome := do
  writeJournalPhaseFor input host observation experiment .faulted
    (s!"{verification.reasonCode} expected={verification.expected} actual={verification.actual}")
  assign fun s => { s with
    controller := rollbackFaulted input observation experiment verification s.controller
    current := some experiment }
  return ⟨.faulted, some (historyContextFor input experiment (some observation.toWindowScore) true
    s!"rollback-verification-failed:{verification.reasonCode}"
    (some (cooldownUntil observation input.controllerPolicy.cooldownAfterFault))), false⟩

/-- The controller after a rollback. -/
def rollbackReverted (experiment : LiveExperiment) (reason : String) (c : ControllerRuntimeState) :
    ControllerRuntimeState :=
  (c.recordCandidateResult (resultInput observation experiment.candidate .reverted
    (some experiment.baselineScore.scoreTotal) (some observation.scoreTotal) (some reason)
    (some (cooldownUntil observation
      input.controllerPolicy.cooldownAfterRevert)))).enterCooldownAfterRevert
      input.controllerPolicy observation.nowUnixNanos

/-- A rollback that verified, or had nothing to verify. -/
def finishReverted (experiment : LiveExperiment) (reason : String) :
    ManagerOp LiveExperimentOutcome := do
  writeJournalPhaseFor input host observation experiment .reverted
    (if input.simulateActionEffects then "rollback_simulated" else "rollback_verified")
  assign fun s => { s with
    controller := rollbackReverted input observation experiment reason s.controller }
  return ⟨.reverted, some (historyContextFor input experiment (some observation.toWindowScore) true
    "rollback-performed" (some
      (cooldownUntil observation input.controllerPolicy.cooldownAfterRevert))),
    false⟩

/-- What the verification of a finished rollback objects to. -/
def unverified (experiment : LiveExperiment) (snapshot : Option ActiveConfigSnapshot) :
    Option RollbackVerification :=
  if input.simulateActionEffects then none
  else (rollbackVerificationFor host observation experiment snapshot).filter (!·.verified)

/-- `rollback_active_experiment_with_executor`, once the experiment was taken. -/
def rollbackTaken (experiment : LiveExperiment) (reason : String) :
    ManagerOp LiveExperimentOutcome := do
  match ← attempt (writeJournalPhaseFor input host observation experiment .reverting
      "rollback_in_progress") with
  | .error e => do
    assign (holdCurrent experiment)
    fail e
  | .ok _ =>
    match ← attempt (rollbackThroughExecutor input executor experiment) with
    | .error e => do
      assign (holdCurrent experiment)
      fail e
    | .ok snapshot =>
      match unverified input host observation experiment snapshot with
      | some verification => finishUnverified input host observation experiment verification
      | none => finishReverted input host observation experiment reason

/-- `rollback_active_experiment_with_executor`. -/
def rollbackActiveExperiment (reason : String) : ManagerOp LiveExperimentOutcome := do
  match ← gets (·.current) with
  | none => return .noop
  | some experiment => do
    assign takeCurrent
    rollbackTaken input host executor observation experiment reason

/-! ## Keeping -/

/-- The ledger's entry for a kept experiment. -/
def ledgerEntryFor (experiment : LiveExperiment) : KeptLedgerEntry :=
  ⟨experiment.experimentId, experiment.actionId, experiment.candidate.profileName,
    experiment.rollback, some experiment.mode, some experiment.safetyClass,
    observation.nowUnixNanos⟩

def recordKeptDurably (experiment : LiveExperiment) : ManagerOp Unit :=
  if input.storeless then ret ()
  else onStore (recordKept (ledgerEntryFor observation experiment))

/-- A failed retirement is only logged. -/
def retireKeptDurably (experimentId : ExperimentId) : ManagerOp Unit := do
  let _ ← (attempt (onStore (retireKept experimentId)) : ManagerOp (Except AnyError Unit))
  return ()

/-- `commit_keep_durably`: the ledger's entry before the journal's phase. -/
def commitKeepDurably (experiment : LiveExperiment) : ManagerOp Unit := do
  recordKeptDurably input observation experiment
  match ← attempt (writeJournalPhaseFor input host observation experiment .keeping
      "kept_pending_manual_restore") with
  | .ok _ => return ()
  | .error e => do
    retireKeptDurably experiment.experimentId
    fail e

def keptStateFor (experiment : LiveExperiment) (reason : String) : KeptCandidateState :=
  ⟨experiment.experimentId, experiment.candidate, experiment.baselineScore,
    observation.toWindowScore, experiment.rollback, observation.nowUnixNanos, reason⟩

/-- The controller after a keep. -/
def keepRecorded (experiment : LiveExperiment) (c : ControllerRuntimeState) :
    ControllerRuntimeState :=
  { (c.recordCandidateResult (resultInput observation experiment.candidate .kept
      (some experiment.baselineScore.scoreTotal) (some observation.scoreTotal) none
      (some (cooldownUntil observation
        input.controllerPolicy.cooldownAfterKeep)))).enterCooldownAfterKeep
        input.controllerPolicy observation.nowUnixNanos with
    activeExperiment := none }

/-- The keep of an experiment that was taken and has improved. -/
def keepImproved (experiment : LiveExperiment) (reason : String) :
    ManagerOp LiveExperimentOutcome := do
  match ← attempt (commitKeepDurably input host observation experiment) with
  | .error e => do
    assign (holdCurrent experiment)
    fail e
  | .ok _ => do
    let kept ← gets (·.keptActions)
    match kept.insertIfCompatible (keptStateFor observation experiment reason) with
    | .error e => do
      retireKeptDurably experiment.experimentId
      assign (holdCurrent experiment)
      fail e
    | .ok kept => do
      assign fun s => { s with
        keptActions := kept
        controller := keepRecorded input observation experiment s.controller }
      return ⟨.kept, some (historyContextFor input experiment (some observation.toWindowScore) false
        "rollback-on-restore"
        (some (cooldownUntil observation input.controllerPolicy.cooldownAfterKeep))), false⟩

/-- `keep_current_experiment_with_executor`. -/
def keepCurrentExperiment (reason : String) : ManagerOp LiveExperimentOutcome := do
  match ← gets (·.current) with
  | none => return .noop
  | some experiment => do
    assign takeCurrent
    ofExcept (validateWindowScoreForApply "candidate" observation.toWindowScore)
    let objective := host.comparisons.explainForObjective experiment.candidate.objective
      experiment.baselineScore observation
    if objective.experimentResult.isImproved then
      keepImproved input host observation experiment reason
    else do
      assign (holdCurrent experiment)
      rollbackActiveExperiment input host executor observation
        (s!"candidate was not improved at keep point: " ++
          s!"{host.debugResult objective.experimentResult}; {objective.summary}")

/-! ## Releasing -/

/-- What releasing the kept actions did. -/
structure KeptRelease where
  restored : Nat
  failed : Nat

/-- The kept action as the experiment it was. -/
def KeptCandidateState.asExperiment (kept : KeptCandidateState) : LiveExperiment :=
  ⟨kept.experimentId, kept.candidate, kept.candidate.safetyClass, input.mode, kept.baselineScore,
    none, kept.keptUnixNanos, kept.keptUnixNanos, kept.keptUnixNanos, kept.rollback⟩

/-- `clear_journal_if_it_names`: only a `Keeping` record of this very token; failures
are only logged. -/
def clearJournalIfItNames (token : RollbackToken) : WorldOp Unit := do
  match ← attempt readControllerJournal with
  | .error _ => return ()
  | .ok record =>
    if record.state = .keeping ∧ record.rollbackToken = some token then do
      let _ ← (attempt writeControllerJournalClean : WorldOp (Except AnyError Unit))
      return ()
    else return ()

/-- The audit line of a release: it can fail and touches no store of the model. -/
def writeReleaseAudit : WorldOp Unit := do
  let _ ← (attempt (durable "append kept release audit event" fun w => w) :
    WorldOp (Except AnyError Unit))
  return ()

/-- One kept action of a release; the answer says whether it was restored. -/
def releaseKept (group : ActionConflictGroup) (kept : KeptCandidateState) : ManagerOp Bool := do
  let answer ← attempt (rollbackThroughExecutor input executor (kept.asExperiment input))
  onStore writeReleaseAudit
  match answer with
  | .error _ => return false
  | .ok _ => do
    retireKeptDurably kept.experimentId
    onStore (clearJournalIfItNames kept.rollback)
    assign fun s => { s with keptActions := s.keptActions.remove group }
    return true

/-- The loop of a release over the groups it found. -/
def releaseGroups : List ActionConflictGroup → KeptRelease → ManagerOp KeptRelease
  | [], release => return release
  | group :: groups, release => do
    match ← gets (·.keptActions.get group) with
    | none => releaseGroups groups release
    | some kept => do
      let restored ← releaseKept input executor group kept
      releaseGroups groups
        (if restored then { release with restored := release.restored + 1 }
        else { release with failed := release.failed + 1 })

/-- `release_kept_actions_with_executor`. -/
def releaseKeptActions : ManagerOp KeptRelease := do
  let groups ← gets fun s => s.keptActions.actions.map (·.1)
  releaseGroups input executor groups ⟨0, 0⟩

/-! ## The side effects of a decision -/

/-- A cooldown never clears a fault. -/
def enterCooldown (duration : Nat) (c : ControllerRuntimeState) : ControllerRuntimeState :=
  { c with
    phase := if c.phase = .faulted then .faulted else .cooldown
    cooldownUntilUnixNanos := some (saturatingAdd observation.nowUnixNanos duration) }

/-- `apply_decision_side_effects_with_executor` of the manager. -/
def applyDecisionSideEffects (decision : AutotuneDecision) (reason : String) :
    ManagerOp LiveExperimentOutcome :=
  match decision with
  | .startExperiment candidate _ =>
    startCandidateExperiment input host executor observation candidate
  | .keepCurrent _ _ => keepCurrentExperiment input host executor observation reason
  | .revert _ _ => rollbackActiveExperiment input host executor observation reason
  | .enterCooldown duration _ => do
    assign fun s => { s with controller := enterCooldown observation duration s.controller }
    return .ofEvent .cooldownEntered
  | .fault _ => do
    -- without a current experiment the rollback is a no-op
    let rolledBack ← rollbackActiveExperiment input host executor observation reason
    assign fun s => { s with
      controller := s.controller.enterCooldownAfterFault input.controllerPolicy
        observation.nowUnixNanos }
    return ⟨.faulted, rolledBack.historyContext, false⟩
  | .noop _ | .suggest _ _ => return .noop

end Manager
end Stutter

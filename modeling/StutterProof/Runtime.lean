import StutterProof.ManagerEffects
import StutterProof.PolicyEvaluation

/-! # The autotune runtime

The runtime drives the manager from monitor events.  It keeps a phase of its own, with
a table of allowed moves; a move the table denies faults the runtime and the
controller.  An evaluation prepares the phase, chooses a decision, and hands it to the
manager; a stop reverts the experiment in flight and releases the kept actions.

Everything the runtime asks of the outside comes with the event: the observation, the
providers' proposals, what the live configuration was found to be, and the answers to
the manager (`SideEffectAnswers`).  `decided`, `executed` and `denied` are history
variables. -/
namespace Stutter
open Fallible

/-! ## Phases -/

/-- The runtime's phases. -/
inductive AutotuneRuntimePhase where
  | idle | observingBaseline | planning | dryRun | applyingCandidate | measuringCandidate
  | keepingCandidate | revertingCandidate | faulted
  deriving DecidableEq

namespace AutotuneRuntimePhase

/-- The source's `Debug` name. -/
def debug : AutotuneRuntimePhase → String
  | idle => "Idle"
  | observingBaseline => "ObservingBaseline"
  | planning => "Planning"
  | dryRun => "DryRun"
  | applyingCandidate => "ApplyingCandidate"
  | measuringCandidate => "MeasuringCandidate"
  | keepingCandidate => "KeepingCandidate"
  | revertingCandidate => "RevertingCandidate"
  | faulted => "Faulted"

/-- The table of moves: staying and faulting are always allowed, a fault is never
left. -/
def allowsTransitionTo (phase next : AutotuneRuntimePhase) : Bool :=
  if phase = next then true
  else if next = faulted then true
  else
    match phase, next with
    | idle, observingBaseline => true
    | observingBaseline, planning => true
    | planning, dryRun | planning, applyingCandidate | planning, observingBaseline => true
    | dryRun, applyingCandidate | dryRun, observingBaseline => true
    | applyingCandidate, measuringCandidate => true
    | measuringCandidate, keepingCandidate | measuringCandidate, revertingCandidate
    | measuringCandidate, observingBaseline => true
    | keepingCandidate, observingBaseline | revertingCandidate, observingBaseline => true
    | _, _ => false

end AutotuneRuntimePhase

/-! ## State and answers -/

/-- What a foreign change leads to. -/
inductive ExternalMutationPolicy where
  | fault | restore | resync

/-- What is done about a foreign change. -/
inductive ExternalMutationRecoveryDecision where
  | restoreExpectedState | acceptExternalMutationAndResync | abandonKeptAction
  | faultRequireManualRestore

def ExternalMutationRecoveryDecision.reasonCode : ExternalMutationRecoveryDecision → String
  | restoreExpectedState => "restore_expected_state"
  | acceptExternalMutationAndResync => "accept_external_mutation_and_resync"
  | abandonKeptAction => "abandon_kept_action"
  | faultRequireManualRestore => "fault_require_manual_restore"

def recoveryDecisionForActiveExperiment : ExternalMutationPolicy → ExternalMutationRecoveryDecision
  | .restore => .restoreExpectedState
  | .resync => .acceptExternalMutationAndResync
  | .fault => .faultRequireManualRestore

def recoveryDecisionForKeptAction : ExternalMutationPolicy → ExternalMutationRecoveryDecision
  | .resync => .abandonKeptAction
  | .fault | .restore => .faultRequireManualRestore

/-- The modes the manager and the controller work in are the policy's.  Only a simulation sets
candidates of its own, and it sets the fake. -/
structure AutotuneRuntimeConfig where
  input : LiveExperimentManagerInput
  dryRunAllSafe : Bool
  externalMutationPolicy : ExternalMutationPolicy
  simulatedCandidates : List CandidateAction
  managerMode : input.mode = input.daemonPolicy.mode
  controllerMode : input.controllerPolicy.mode = input.daemonPolicy.mode
  simulated : ∀ candidate ∈ simulatedCandidates, candidate.variant = .fake

/-- A decision as it was made: when, for which context, and whether an experiment was
live. -/
structure DecisionMade where
  decision : AutotuneDecision
  nowUnixNanos : Nat
  live : Bool

/-- The state of the runtime. -/
structure RuntimeState where
  manager : ManagerState
  phase : AutotuneRuntimePhase
  faultReason : Option String
  lastObservation : AutotuneObservation
  /-- The candidate memory's file. -/
  memoryFile : StoreFile CandidateMemory
  /-- The decisions evaluations made, oldest first. -/
  decided : List DecisionMade
  /-- The decisions whose side effects the manager was told to apply. -/
  executed : List AutotuneDecision
  /-- The moves of the phase that the table denied. -/
  denied : List (AutotuneRuntimePhase × AutotuneRuntimePhase)

namespace RuntimeState

def controller (s : RuntimeState) : ControllerRuntimeState := s.manager.controller

/-- The manager or the controller holds an experiment. -/
def live (s : RuntimeState) : Bool :=
  s.manager.current.isSome || s.manager.controller.activeExperiment.isSome

/-- `AutotuneRuntime::new`: the memory is read back if the session has a journal. -/
def starting (config : AutotuneRuntimeConfig) (w : World) (observation : AutotuneObservation)
    (file : StoreFile CandidateMemory) : RuntimeState :=
  ⟨.starting w
    (if config.input.hasControllerJournalPath then CandidateMemory.load file else .empty),
    .idle, none, observation, file, [], [], []⟩

end RuntimeState

/-- The outside's answers to one call of the manager. -/
structure SideEffectAnswers where
  io : List IoOutcome
  host : ManagerHost
  executor : ActionExecutor
  /-- Finding the privileged service. -/
  service : Except AnyError Unit
  /-- The candidate memory could be saved. -/
  memorySaved : Bool

/-- What the live configuration is found to be against the experiment's. -/
inductive ActiveConfigMatch where
  | matches (summary : String)
  | differs (expected actual : String)
  | unknown (summary : String)

/-- A provider's proposal.  The deny reasons that read neither the policy nor the runtime's own
state are one flag, the dry run's among them. -/
structure CandidateProposal where
  candidate : CandidateAction
  confidence : F32
  deniedOtherwise : Bool

/-- The outside's answers to one evaluation. -/
structure EvaluationAnswers where
  /-- The event's reason, where it has one: it takes the place of the decision's. -/
  forcedReason : Option String
  observation : AutotuneObservation
  effects : SideEffectAnswers
  /-- The answers to the release of kept actions whose workload is gone. -/
  release : SideEffectAnswers
  activeMatch : ActiveConfigMatch
  /-- Planning is off: the focus is not confident, there is no target, or the workload policy is
  invalid. -/
  planningBlocked : Bool
  /-- Which simulated candidate comes first. -/
  simulatedChoice : Nat
  /-- The proposals, in the order of their rank. -/
  proposals : List CandidateProposal
  /-- What the planner knows of the system; data quality, cooldown and pending rollback are its
  own. -/
  policyContext : DaemonPolicyContext
  planFilesWritten : Except AnyError Unit
  /-- The plan denies a candidate because the active experiment, or a kept action, has
  drifted. -/
  activeDrift : Bool
  keptDrift : Bool
  /-- Decision log, history and stream. -/
  emitted : Except AnyError Unit

/-- The outside's answers to one revert that an event asks for. -/
structure RevertAnswers where
  nowUnixNanos : Nat
  /-- The configured target is found not to be running. -/
  targetGone : Bool
  effects : SideEffectAnswers

abbrev RuntimeOp (α : Type) := Op RuntimeState AnyError α

open Op

/-- An operation of the manager, with the next I/O outcomes. -/
def onManager {α : Type} (io : List IoOutcome) (m : ManagerOp α) : RuntimeOp α :=
  (do assign (·.scheduled io); m : ManagerOp α).zoom (·.manager) fun t s => { s with
    manager := t }

@[simp] theorem holds_onManager {α : Type} {io : List IoOutcome} {m : ManagerOp α}
    {I : RuntimeState → Prop} {Q : Except AnyError α → RuntimeState → Prop} {s : RuntimeState} :
    Holds (onManager io m) I Q s ↔ Holds m (fun t => I { s with manager := t })
      (fun r t => Q r { s with manager := t }) (s.manager.scheduled io) := by
  unfold onManager
  rw [holds_zoom, holds_bind, holds_assign]

section Runtime
variable (config : AutotuneRuntimeConfig)

/-- The controller's phase is set by the runtime. -/
def RuntimeState.markFaulted (s : RuntimeState) (reason : String) : RuntimeState :=
  { s with
    phase := .faulted
    faultReason := some reason
    manager := { s.manager with controller := { s.manager.controller with phase := .faulted } } }

/-- The runtime after a move that the table denies. -/
def RuntimeState.deny (s : RuntimeState) (next : AutotuneRuntimePhase) (message : String) :
    RuntimeState :=
  { s.markFaulted message with denied := s.denied ++ [(s.phase, next)] }

/-- `transition_runtime_phase`: a denied move faults. -/
def transitionRuntimePhase (next : AutotuneRuntimePhase) (reason : String) : RuntimeOp Unit := do
  let phase ← gets (·.phase)
  if phase.allowsTransitionTo next then
    assign fun s => { s with
      phase := next
      faultReason := if next ≠ .faulted then none else s.faultReason }
  else do
    let message :=
      s!"invalid autotune runtime phase transition {phase.debug}->{next.debug}: {reason}"
    assign (·.deny next message)
    fail (.message message)

/-- `prepare_runtime_phase_for_evaluation`. -/
def prepareRuntimePhaseForEvaluation : RuntimeOp Unit := do
  let held ← gets (·.manager.hasActiveExperiment)
  transitionRuntimePhase (if held then .measuringCandidate else .observingBaseline)
    "evaluating monitor event"

/-- `prepare_runtime_phase_for_apply_candidate`. -/
def prepareRuntimePhaseForApplyCandidate : RuntimeOp Unit := do
  match ← gets (·.phase) with
  | .idle => do
    transitionRuntimePhase .observingBaseline "preparing direct candidate apply from idle runtime"
    transitionRuntimePhase .planning "preparing direct candidate apply from idle runtime"
  | .observingBaseline =>
    transitionRuntimePhase .planning "preparing candidate apply after observation"
  | _ => return ()

/-- `prepare_runtime_phase_for_dry_run`. -/
def prepareRuntimePhaseForDryRun : RuntimeOp Unit := do
  match ← gets (·.phase) with
  | .idle => do
    transitionRuntimePhase .observingBaseline "preparing direct dry run from idle runtime"
    transitionRuntimePhase .planning "preparing direct dry run from idle runtime"
  | .observingBaseline => transitionRuntimePhase .planning "preparing dry run after observation"
  | _ => return ()

/-- `transition_for_decision`. -/
def transitionForDecision (decision : AutotuneDecision) (reason : String) : RuntimeOp Unit :=
  let text := s!"applying decision side effect: {reason}"
  match decision with
  | .startExperiment .. => do
    prepareRuntimePhaseForApplyCandidate
    transitionRuntimePhase .applyingCandidate text
  | .keepCurrent .. => transitionRuntimePhase .keepingCandidate text
  | .revert .. => transitionRuntimePhase .revertingCandidate text
  | .fault .. => transitionRuntimePhase .faulted text
  | .noop .. | .suggest .. | .enterCooldown .. => return ()

def LiveExperimentEvent.asStr : LiveExperimentEvent → String
  | .noop => "noop"
  | .started => "started"
  | .kept => "kept"
  | .reverted => "reverted"
  | .cooldownEntered => "cooldown_entered"
  | .faulted => "faulted"

/-- `transition_for_outcome`. -/
def transitionForOutcome (event : LiveExperimentEvent) : RuntimeOp Unit := do
  let held ← gets (·.manager.hasActiveExperiment)
  let next : AutotuneRuntimePhase := match event with
    | .started => .measuringCandidate
    | .kept | .reverted | .cooldownEntered => .observingBaseline
    | .faulted => .faulted
    | .noop => if held then .measuringCandidate else .observingBaseline
  transitionRuntimePhase next s!"live experiment outcome {event.asStr}"

/-- `persist_candidate_memory`: best effort, beside the journal the session has. -/
def persistCandidateMemory (saved : Bool) : RuntimeOp Unit :=
  if config.input.hasControllerJournalPath && saved then
    assign fun s => { s with memoryFile := .content s.manager.controller.candidateMemory }
  else return ()

/-- `apply_decision_side_effects` of the runtime. -/
def applyRuntimeSideEffects (answers : SideEffectAnswers) (observation : AutotuneObservation)
    (decision : AutotuneDecision) (reason : String) : RuntimeOp Unit := do
  ensure (!(config.dryRunAllSafe && decision.isStart))
    (.message "dry-run-all-safe mode refused to start a live experiment")
  transitionForDecision decision reason
  ofExcept answers.service
  assign fun s => { s with executed := s.executed ++ [decision] }
  match ← attempt (onManager answers.io (applyDecisionSideEffects config.input answers.host
      answers.executor observation decision reason)) with
  | .error e => do
    assign (·.markFaulted s!"runtime decision side effect failed: {e.text}")
    assign fun s => { s with manager := { s.manager with failedApplyContext := none } }
    fail e
  | .ok outcome => do
    persistCandidateMemory config answers.memorySaved
    transitionForOutcome outcome.event

/-- `release_kept_actions`: how many could not be restored. -/
def releaseRuntimeKeptActions (answers : SideEffectAnswers) : RuntimeOp Nat := do
  let kept ← gets (·.manager.keptActions.actions)
  if kept.isEmpty then return 0
  else do
    ofExcept answers.service
    let release ← onManager answers.io (releaseKeptActions config.input answers.executor)
    return release.failed

/-- The experiment is abandoned in favour of an external mutation. -/
def RuntimeState.resync (s : RuntimeState) : RuntimeState :=
  { s with manager := { s.manager with
      current := none
      controller := { s.manager.controller with activeExperiment := none, phase := .observing } } }

/-- `active_experiment_recovery_decision`. -/
def activeExperimentRecoveryDecision (experimentId : ExperimentId) (reason : String) :
    RuntimeOp AutotuneDecision :=
  match recoveryDecisionForActiveExperiment config.externalMutationPolicy with
  | .restoreExpectedState => return .revert experimentId reason
  | .acceptExternalMutationAndResync => do
    let held ← gets (·.manager.hasActiveExperiment)
    assign RuntimeState.resync
    return .noop s!"{reason}; abandoned_active_experiment={held}"
  | .faultRequireManualRestore | .abandonKeptAction => return .fault reason

/-- What `active_experiment_external_mutation_decision` finds wrong with the live
configuration.  A simulated fake has no footprint that could be verified. -/
def externalMutationReason (answers : EvaluationAnswers) (experiment : LiveExperiment) :
    Option String :=
  let code := (recoveryDecisionForActiveExperiment config.externalMutationPolicy).reasonCode
  let name := experiment.candidate.candidateName
  match answers.observation.activeConfigSnapshot, answers.activeMatch with
  | none, _ => none
  | some _, .matches _ => none
  | some _, .differs expected actual => some
      (s!"external_mutation_detected: active experiment {name} no longer matches live state; " ++
        s!"expected {expected}; actual {actual}; recovery_decision={code}")
  | some _, .unknown summary =>
    if config.input.simulateActionEffects && experiment.candidate.variant = .fake then none
    else some (s!"active_config_unknown: active experiment {name} live state could not be " ++
      s!"verified; summary={summary}; recovery_decision={code}")

/-- The controller's decision on the observation. -/
def controllerDecision (answers : EvaluationAnswers) (candidate : Option CandidateAction) :
    RuntimeOp AutotuneDecision :=
  gets fun s => decideAutotuneTransition answers.effects.host.comparisons
    config.input.controllerPolicy s.manager.controller answers.observation candidate

/-- `plan_external_mutation_recovery_decision`, with no experiment in the manager's
hands: only then is there a plan. -/
def planExternalMutationRecoveryDecision (answers : EvaluationAnswers) :
    RuntimeOp (Option AutotuneDecision) :=
  if answers.activeDrift then
    match recoveryDecisionForActiveExperiment config.externalMutationPolicy with
    | .restoreExpectedState =>
      return some (.fault ("external_mutation_detected: active experiment " ++
        "drifted but no current experiment was available for rollback"))
    | .acceptExternalMutationAndResync => do
      let held ← gets (·.manager.hasActiveExperiment)
      assign RuntimeState.resync
      return some (.noop (s!"external_mutation_detected: accepted external active-experiment " ++
        s!"mutation and resynced controller state; abandoned_active_experiment={held}"))
    | .faultRequireManualRestore | .abandonKeptAction => return some (.fault
        (s!"external_mutation_detected: active experiment drifted; recovery_decision=" ++
          (recoveryDecisionForActiveExperiment config.externalMutationPolicy).reasonCode))
  else if answers.keptDrift then
    match recoveryDecisionForKeptAction config.externalMutationPolicy with
    | .abandonKeptAction => do
      let abandoned ← gets (·.manager.keptActions.actions.length)
      assign fun s => { s with manager := { s.manager with keptActions := .empty } }
      return some (.noop (s!"kept_action_no_longer_active: accepted external mutation and " ++
        s!"abandoned kept action state; recovery_decision=abandon_kept_action " ++
        s!"abandoned_kept_actions={abandoned}"))
    | .faultRequireManualRestore | .restoreExpectedState | .acceptExternalMutationAndResync =>
      return some (.fault ("kept_action_no_longer_active: kept action drifted; " ++
        "recovery_decision=" ++
        (recoveryDecisionForKeptAction config.externalMutationPolicy).reasonCode ++
        "; run stutter daemon resync-state or restore manually"))
  else return none

/-- `active_window_decision`: while the window settles or collects, nothing is done. -/
def activeWindowDecision (experiment : LiveExperiment) (observation : AutotuneObservation) :
    Option AutotuneDecision :=
  let name := experiment.candidate.profileName
  if observation.nowUnixNanos < experiment.washoutUntilUnixNanos then
    some (.noop s!"candidate '{name}' washout window is still stabilizing")
  else if observation.nowUnixNanos < experiment.measureUntilUnixNanos then
    some (.noop s!"candidate '{name}' measurement window is still collecting")
  else none

/-- The decision of an evaluation while the manager holds an experiment. -/
def decideHeld (answers : EvaluationAnswers) (experiment : LiveExperiment) :
    RuntimeOp AutotuneDecision :=
  match activeWindowDecision experiment answers.observation with
  | some decision => return decision
  | none =>
    match externalMutationReason config answers experiment with
    | some reason => activeExperimentRecoveryDecision config experiment.experimentId reason
    | none => controllerDecision config answers none

/-- `policy_context_for_input`. -/
def policyContextForInput (answers : EvaluationAnswers) (s : RuntimeState) : DaemonPolicyContext :=
  { answers.policyContext with
    dataQualityOk := !answers.observation.dataQuality.blocksAction
    cooldownActive := s.controller.cooldownUntilUnixNanos.any fun until' =>
      answers.observation.nowUnixNanos < until'
    rollbackPending := s.controller.activeExperiment.isSome }

def policyIntentForMode (mode : DaemonMode) : PolicyIntent :=
  if mode.supportsApply then .apply else .suggest

/-- `evaluate_proposal_static` and the dry run: the proposal is eligible.  The modes that apply ask
the autonomous gate as well. -/
def proposalEligible (answers : EvaluationAnswers) (s : RuntimeState)
    (proposal : CandidateProposal) :
    Bool :=
  let candidate := proposal.candidate
  let policy := config.input.daemonPolicy
  let descriptor := { candidate.descriptor with confidence := some proposal.confidence }
  !proposal.deniedOtherwise && !candidate.isHighRiskSystemAdjacent &&
    (checkActionWithContext policy (policyIntentForMode policy.mode) descriptor
      (policyContextForInput answers s)).isOk &&
    (!policy.mode.supportsApply || (answers.effects.host.autonomousApplyGate candidate).isNone) &&
    !s.controller.activeExperiment.any (candidate.conflictsWith ·.candidate) &&
    (s.manager.keptActions.conflictingAction candidate).isNone

/-- The plan files of a `dry-run-all-safe` session. -/
def writeDryRunPlanFiles (answers : EvaluationAnswers) : RuntimeOp Unit :=
  if config.dryRunAllSafe then do
    prepareRuntimePhaseForDryRun
    transitionRuntimePhase .dryRun "writing dry-run plan files for eligible candidates"
    ofExcept answers.planFilesWritten
  else return ()

/-- `select_candidate_for_observation`: the first eligible proposal. -/
def selectCandidateForObservation (answers : EvaluationAnswers) :
    RuntimeOp (Option CandidateAction) :=
  let observation := answers.observation
  if config.input.mode = .observe then return none
  else if observation.dataQuality.blocksAction || observation.focusIsIdleOrUnknown ||
      observation.focusHasCriticalRealtimeWarning || answers.planningBlocked then return none
  else if !config.simulatedCandidates.isEmpty then
    return config.simulatedCandidates[answers.simulatedChoice]?
  else do
    let selected ← gets fun s => answers.proposals.find? (proposalEligible config answers s)
    writeDryRunPlanFiles config answers
    return selected.map (·.candidate)

/-- The decision of an evaluation while it holds none. -/
def decideIdle (answers : EvaluationAnswers) : RuntimeOp AutotuneDecision := do
  transitionRuntimePhase .planning "planning candidates for observation"
  let candidate ← selectCandidateForObservation config answers
  match ← planExternalMutationRecoveryDecision config answers with
  | some decision => return decision
  | none => controllerDecision config answers candidate

/-- The decision of an evaluation. -/
def chooseDecision (answers : EvaluationAnswers) : RuntimeOp AutotuneDecision := do
  match ← gets (·.manager.current) with
  | some experiment => decideHeld config answers experiment
  | none => decideIdle config answers

/-- Kept actions are released once their workload is gone; a failure is only logged. -/
def releaseOnExit (answers : EvaluationAnswers) : RuntimeOp Unit := do
  let held ← gets (·.manager.hasActiveExperiment)
  if !answers.observation.targetPresent && !held then do
    let _ ← (attempt (releaseRuntimeKeptActions config answers.release) :
      RuntimeOp (Except AnyError Nat))
    return ()
  else return ()

/-- `evaluate_and_emit`. -/
def evaluateAndEmit (answers : EvaluationAnswers) : RuntimeOp Unit := do
  prepareRuntimePhaseForEvaluation
  assign fun s => { s with lastObservation := answers.observation }
  releaseOnExit config answers
  let decision ← chooseDecision config answers
  assign fun s => { s with
    decided := s.decided ++ [⟨decision, answers.observation.nowUnixNanos, s.live⟩] }
  applyRuntimeSideEffects config answers.effects answers.observation decision
    (answers.forcedReason.getD decision.reason)
  ofExcept answers.emitted

/-- `rollback_live_experiment`: a revert over the last observation. -/
def rollbackLiveExperiment (answers : RevertAnswers) (reason : String) : RuntimeOp Unit := do
  let current ← gets (·.manager.current)
  let last ← gets (·.lastObservation)
  match current with
  | none => return ()
  | some experiment =>
    let observation := { last with
      nowUnixNanos := answers.nowUnixNanos
      targetPresent := last.targetPresent && !answers.targetGone }
    applyRuntimeSideEffects config answers.effects observation
      (.revert experiment.experimentId reason)
      reason

/-- `handle_lifecycle_event`: a discontinuity that asks for a revert, or for the
measurements to settle. -/
def handleLifecycleEvent (rollsBack : Bool) (stabilizationMs : Option Nat)
    (answers : RevertAnswers) :
    RuntimeOp Unit := do
  let held ← gets (·.manager.hasActiveExperiment)
  if rollsBack && held then do
    prepareRuntimePhaseForEvaluation
    rollbackLiveExperiment config answers "system suspend/resume during active experiment"
  match stabilizationMs with
  | none => return ()
  | some ms =>
    let settled := saturatingAdd answers.nowUnixNanos (ms * 1000000)
    assign fun s => { s with
      manager := { s.manager with controller := { s.manager.controller with
      cooldownUntilUnixNanos :=
        some ((s.manager.controller.cooldownUntilUnixNanos.map (max · settled)).getD settled) } } }

/-- The default lifecycle policy's time for measurements to settle. -/
def resumeStabilizationMs : Nat := 10000

/-- `observe_lifecycle_clock`: a clock gap stands for a suspend that was missed and the
resume that follows it. -/
def observeLifecycleClock (suspend resume : RevertAnswers) : RuntimeOp Unit := do
  handleLifecycleEvent config true none suspend
  handleLifecycleEvent config false (some resumeStabilizationMs) resume

/-! ## Events -/

/-- What the runtime handles. -/
inductive RuntimeEvent where
  /-- An interval, with the answers to a suspend and a resume if the clocks show one. -/
  | interval (gap : Option (RevertAnswers × RevertAnswers)) (answers : EvaluationAnswers)
  /-- The focus changed or was cleared. -/
  | focus (reason : String) (revert : RevertAnswers) (answers : EvaluationAnswers)
  /-- A data-quality warning, or the monitor's end. -/
  | warning (answers : EvaluationAnswers)
  /-- An event that only feeds the measurement window. -/
  | sample

/-- `on_event`. -/
def onEvent : RuntimeEvent → RuntimeOp Unit
  | .interval gap answers => do
    match gap with
    | some (suspend, resume) => observeLifecycleClock config suspend resume
    | none => ret ()
    evaluateAndEmit config answers
  | .focus reason revert answers => do
    rollbackLiveExperiment config revert reason
    evaluateAndEmit config answers
  | .warning answers => evaluateAndEmit config answers
  | .sample => return ()

/-! ## Stopping -/

/-- The outside's answers to a stop. -/
structure StopAnswers where
  revert : RevertAnswers
  release : SideEffectAnswers

/-- `rollback_on_stop`. -/
def rollbackOnStop (answers : StopAnswers) (reason : String) : RuntimeOp Unit := do
  let held ← gets (·.manager.hasActiveExperiment)
  let kept ← gets (·.manager.keptActions.actions)
  if !held && kept.isEmpty then return ()
  else do
    let reverted ← (attempt (rollbackLiveExperiment config answers.revert reason) :
      RuntimeOp (Except AnyError Unit))
    let failed ← releaseRuntimeKeptActions config answers.release
    ofExcept reverted
    ensure (failed == 0)
      (.message (s!"{failed} kept action(s) could not be restored on stop; " ++
      s!"the kept-action ledger retains their rollback tokens for startup recovery (or " ++
      s!"`stutter daemon emergency-restore`)"))

/-- What is asked of a runtime. -/
inductive RuntimeCall where
  | event (event : RuntimeEvent)
  | stop (answers : StopAnswers) (reason : String)

def RuntimeCall.perform : RuntimeCall → RuntimeOp Unit
  | .event e => onEvent config e
  | .stop answers reason => rollbackOnStop config answers reason

end Runtime

/-! ## Rules of the runtime's operations -/

section Rules
variable {config : AutotuneRuntimeConfig} {s : RuntimeState} {next : AutotuneRuntimePhase}

/-- A fault of the runtime is never left. -/
theorem AutotuneRuntimePhase.faulted_of_allowed
    (h : AutotuneRuntimePhase.faulted.allowsTransitionTo next = true) : next = .faulted := by
  cases next with
  | faulted => rfl
  | _ => cases h

theorem AutotuneRuntimePhase.allows_faulted (phase : AutotuneRuntimePhase) :
    phase.allowsTransitionTo .faulted = true := by
  cases phase <;> rfl

variable {reason : String} {Q : Except AnyError Unit → RuntimeState → Prop}

/-- A move is made, or the runtime faults. -/
theorem holds_transitionRuntimePhase
    (hmoved : s.phase.allowsTransitionTo next = true → Q (.ok ())
      { s with phase := next, faultReason := if next ≠ .faulted then none else s.faultReason })
    (hdenied : s.phase.allowsTransitionTo next = false → ∀ message,
      Q (.error (.message message)) (s.deny next message)) :
    Holds (transitionRuntimePhase next reason) (fun _ => True) Q s := by
  rw [transitionRuntimePhase, holds_bind, holds_gets]
  dsimp only
  by_cases hallowed : s.phase.allowsTransitionTo next = true
  · rw [if_pos hallowed, holds_assign]
    exact hmoved hallowed
  · rw [if_neg hallowed, holds_bind, holds_assign]
    exact holds_fail.mpr (hdenied (by simpa using hallowed) _)

variable {P : RuntimeState → Prop} {decision : AutotuneDecision}

/-- The moves before a decision's side effects keep what every move keeps. -/
theorem holds_transitionForDecision
    (hmove : ∀ t next reason, P t →
      Holds (transitionRuntimePhase next reason) (fun _ => True) (fun _ t' => P t') t)
    (hs : P s) :
    Holds (transitionForDecision decision reason) (fun _ => True) (fun _ t => P t) s := by
  have hprepare : Holds prepareRuntimePhaseForApplyCandidate (fun _ => True)
      (fun _ t => P t) s := by
    rw [prepareRuntimePhaseForApplyCandidate, holds_bind, holds_gets]
    dsimp only
    split
    · exact (hmove _ _ _ hs).bind (fun _ t ht => hmove t _ _ ht) fun _ _ ht => ht
    · exact hmove _ _ _ hs
    · exact holds_pure.mpr hs
  unfold transitionForDecision
  cases decision with
  | startExperiment candidate why =>
    exact hprepare.bind (fun _ t ht => hmove t _ _ ht) fun _ _ ht => ht
  | keepCurrent id why => exact hmove _ _ _ hs
  | revert id why => exact hmove _ _ _ hs
  | fault why => exact hmove _ _ _ hs
  | noop why => exact holds_pure.mpr hs
  | suggest candidate why => exact holds_pure.mpr hs
  | enterCooldown duration why => exact holds_pure.mpr hs

/-- What the planner reads of the runtime's own state: a move of the phase does not touch it. -/
structure RuntimeState.PlansAs (t s : RuntimeState) : Prop where
  current : t.manager.current = s.manager.current
  kept : t.manager.keptActions = s.manager.keptActions
  active : t.manager.controller.activeExperiment = s.manager.controller.activeExperiment
  cooldown : t.manager.controller.cooldownUntilUnixNanos =
    s.manager.controller.cooldownUntilUnixNanos

theorem RuntimeState.PlansAs.refl (s : RuntimeState) : s.PlansAs s := ⟨rfl, rfl, rfl, rfl⟩

theorem RuntimeState.PlansAs.eligible {t : RuntimeState} (h : t.PlansAs s)
    (answers : EvaluationAnswers) (proposal : CandidateProposal) :
    proposalEligible config answers t proposal = proposalEligible config answers s proposal := by
  simp only [proposalEligible, policyContextForInput, RuntimeState.controller, h.kept, h.active,
    h.cooldown]

theorem holds_transition_plansAs {before : RuntimeState} (hs : s.PlansAs before) :
    Holds (transitionRuntimePhase next reason) (fun _ => True)
      (fun _ t => t.PlansAs before) s :=
  holds_transitionRuntimePhase (fun _ => ⟨hs.current, hs.kept, hs.active, hs.cooldown⟩)
    fun _ _ => ⟨hs.current, hs.kept, hs.active, hs.cooldown⟩

/-- A selected candidate is one of the simulation's, or an eligible proposal's. -/
def Selectable (config : AutotuneRuntimeConfig) (answers : EvaluationAnswers) (s : RuntimeState)
    (candidate : CandidateAction) : Prop :=
  candidate ∈ config.simulatedCandidates ∨
    ∃ proposal ∈ answers.proposals, proposal.candidate = candidate ∧
      proposalEligible config answers s proposal = true

variable {answers : EvaluationAnswers}

/-- Selecting a candidate writes the plan files at most, and answers with what passed its gates. -/
theorem holds_selectCandidate_of
    (hwrite : Holds (writeDryRunPlanFiles config answers) (fun _ => True)
      (fun _ t => P t ∧ t.PlansAs s) s) (hs : P s) :
    Holds (selectCandidateForObservation config answers) (fun _ => True) (fun r t =>
      (P t ∧ t.PlansAs s) ∧
        ∀ candidate, r = .ok (some candidate) → Selectable config answers t candidate) s := by
  have hs' : P s ∧ s.PlansAs s := ⟨hs, .refl s⟩
  unfold selectCandidateForObservation
  dsimp only
  split
  · exact holds_pure.mpr ⟨hs', by rintro _ ⟨⟩⟩
  split
  · exact holds_pure.mpr ⟨hs', by rintro _ ⟨⟩⟩
  split
  · refine holds_pure.mpr ⟨hs', fun candidate h => .inl ?_⟩
    injection h with h
    exact List.mem_of_getElem? h
  · rw [holds_bind, holds_gets]
    dsimp only
    refine hwrite.bind (fun _ t ht => ?_) fun _ _ ht => ⟨ht, by rintro _ ⟨⟩⟩
    refine holds_pure.mpr ⟨ht, fun candidate h => .inr ?_⟩
    injection h with h
    obtain ⟨proposal, hfound, hcandidate⟩ := Option.map_eq_some_iff.mp h
    refine ⟨proposal, List.mem_of_find?_eq_some hfound, hcandidate, ?_⟩
    rw [ht.2.eligible]
    exact List.find?_some hfound

/-- The plan files are written after moves of the phase. -/
theorem holds_selectCandidate
    (hmove : ∀ t next reason, P t →
      Holds (transitionRuntimePhase next reason) (fun _ => True) (fun _ t' => P t') t)
    (hs : P s) :
    Holds (selectCandidateForObservation config answers) (fun _ => True) (fun r t =>
      (P t ∧ t.PlansAs s) ∧
        ∀ candidate, r = .ok (some candidate) → Selectable config answers t candidate) s := by
  have hmoves : ∀ t next reason, P t ∧ t.PlansAs s →
      Holds (transitionRuntimePhase next reason) (fun _ => True)
        (fun _ t' => P t' ∧ t'.PlansAs s) t :=
    fun t next reason ht => ((hmove t next reason ht.1).and (holds_transition_plansAs ht.2)).mono
      (fun _ _ => trivial) fun _ _ h => h
  have hs' : P s ∧ s.PlansAs s := ⟨hs, .refl s⟩
  have hprepare : Holds prepareRuntimePhaseForDryRun (fun _ => True)
      (fun _ t => P t ∧ t.PlansAs s) s := by
    rw [prepareRuntimePhaseForDryRun, holds_bind, holds_gets]
    dsimp only
    split
    · exact (hmoves _ _ _ hs').bind (fun _ t ht => hmoves t _ _ ht) fun _ _ ht => ht
    · exact hmoves _ _ _ hs'
    · exact holds_pure.mpr hs'
  refine holds_selectCandidate_of ?_ hs
  unfold writeDryRunPlanFiles
  split
  · refine hprepare.bind (fun _ t ht => ?_) fun _ _ ht => ht
    refine (hmoves t _ _ ht).bind (fun _ u hu => ?_) fun _ _ hu => hu
    rw [holds_ofExcept]
    exact hu
  · exact holds_pure.mpr hs'

/-- The memory is saved, or its file stays. -/
theorem holds_persistCandidateMemory {saved : Bool} (hkept : Q (.ok ()) s)
    (hsaved : config.input.hasControllerJournalPath = true →
      Q (.ok ()) { s with memoryFile := .content s.manager.controller.candidateMemory }) :
    Holds (persistCandidateMemory config saved) (fun _ => True) Q s := by
  unfold persistCandidateMemory
  split
  · rename_i hboth
    exact holds_assign.mpr (hsaved (by simp_all))
  · exact holds_pure.mpr hkept

/-- The state in which the manager's answer to a decision is read. -/
def RuntimeState.answered (s : RuntimeState) (decision : AutotuneDecision) (u : ManagerState) :
    RuntimeState :=
  { s with executed := s.executed ++ [decision], manager := u }

/-- The runtime's side effects: the moves before them keep `P`, and what follows is read
off the manager's answer. -/
theorem holds_applyRuntimeSideEffects {answers : SideEffectAnswers}
    {observation : AutotuneObservation} (hs : P s)
    (hmove : ∀ t next reason, P t →
      Holds (transitionRuntimePhase next reason) (fun _ => True) (fun _ t' => P t') t)
    (hrefused : ∀ t e, P t → Q (.error e) t)
    (hfailed : ∀ t e u, P t →
      EffectEnds config.input observation (t.manager.scheduled answers.io) decision (.error e) u →
      ∀ message, Q (.error e)
        ((t.answered decision { u with failedApplyContext := none }).markFaulted
        message))
    (hdone : ∀ t outcome u, P t →
      EffectEnds config.input observation (t.manager.scheduled answers.io) decision (.ok outcome)
        u →
      Holds
        (do persistCandidateMemory config answers.memorySaved; transitionForOutcome outcome.event)
        (fun _ => True) Q (t.answered decision u)) :
    Holds (applyRuntimeSideEffects config answers observation decision reason)
      (fun _ => True) Q s := by
  rw [applyRuntimeSideEffects, holds_bind, holds_ensure]
  split
  · dsimp only
    refine (holds_transitionForDecision hmove hs).bind ?_ fun e t ht => hrefused t e ht
    intro _ t ht
    rw [holds_bind, holds_ofExcept]
    cases answers.service with
    | error e => exact hrefused t e ht
    | ok _ =>
      dsimp only
      rw [holds_bind, holds_assign]
      dsimp only
      rw [holds_bind, holds_attempt, holds_onManager]
      refine holds_applyDecision_ends.mono (fun _ h => h) ?_
      rintro (e | outcome) u hu
      · dsimp only
        rw [holds_bind, holds_assign]
        dsimp only
        rw [holds_bind, holds_assign]
        exact holds_fail.mpr (hfailed t e u ht hu _)
      · exact hdone t outcome u ht hu
  · exact hrefused s _ hs

/-- The move an evaluation starts with. -/
theorem holds_prepareForEvaluation
    (hmove : ∀ t next reason, P t →
      Holds (transitionRuntimePhase next reason) (fun _ => True) (fun _ t' => P t') t)
    (hs : P s) : Holds prepareRuntimePhaseForEvaluation (fun _ => True) (fun _ t => P t) s := by
  rw [prepareRuntimePhaseForEvaluation, holds_bind, holds_gets]
  exact hmove s _ _ hs

/-- The release of kept actions is the manager's, or none is made. -/
theorem holds_releaseRuntimeKeptActions {answers : SideEffectAnswers}
    (hreleased : ∀ t : ManagerState, t.ReleasedFrom s.manager → P { s with manager := t })
    (hs : P s) :
    Holds (releaseRuntimeKeptActions config answers) (fun _ => True) (fun _ t => P t) s := by
  rw [releaseRuntimeKeptActions, holds_bind, holds_gets]
  dsimp only
  split
  · exact holds_pure.mpr hs
  · rw [holds_bind, holds_ofExcept]
    cases answers.service with
    | error e => exact hs
    | ok _ =>
      dsimp only
      rw [holds_bind, holds_onManager]
      refine holds_releaseKeptActions_frame.mono (fun _ h => h) ?_
      intro r t ht
      have hP : P { s with manager := t } := hreleased t ⟨ht.current, ht.controller, ht.kept⟩
      cases r with
      | error e => exact hP
      | ok release => exact holds_pure.mpr hP

/-- A revert that an event asks for is a decision's side effect, or there is nothing to revert. -/
theorem holds_rollbackLiveExperiment {answers : RevertAnswers}
    (heffects : ∀ observation id, s.manager.current.isSome →
      Holds (applyRuntimeSideEffects config answers.effects observation (.revert id reason)
        reason)
        (fun _ => True) (fun _ t => P t) s) (hs : P s) :
    Holds (rollbackLiveExperiment config answers reason) (fun _ => True) (fun _ t => P t) s := by
  rw [rollbackLiveExperiment, holds_bind, holds_gets]
  dsimp only
  rw [holds_bind, holds_gets]
  dsimp only
  cases hcurrent : s.manager.current with
  | none => exact holds_pure.mpr hs
  | some experiment => exact heffects _ _ (by rw [hcurrent]; rfl)

/-- While its window runs, nothing is done about an experiment. -/
theorem activeWindowDecision_noop {experiment : LiveExperiment}
    {observation : AutotuneObservation}
    (h : activeWindowDecision experiment observation = some decision) :
    ∃ reason, decision = .noop reason := by
  unfold activeWindowDecision at h
  dsimp only at h
  split at h
  · exact ⟨_, (Option.some.inj h).symm⟩
  · split at h
    · exact ⟨_, (Option.some.inj h).symm⟩
    · cases h

/-- The evaluation accepts an external mutation. -/
def Accepts (config : AutotuneRuntimeConfig) (answers : EvaluationAnswers) : Prop :=
  config.externalMutationPolicy = .resync ∧ (answers.activeDrift = true ∨ answers.keptDrift = true ∨
    ∃ experiment, externalMutationReason config answers experiment ≠ none)

theorem accepts_of_active {config : AutotuneRuntimeConfig}
    (hdecision : recoveryDecisionForActiveExperiment config.externalMutationPolicy =
      .acceptExternalMutationAndResync)
    (h : answers.activeDrift = true ∨ ∃ experiment,
      externalMutationReason config answers experiment ≠ none) :
    Accepts config answers := by
  have hpolicy : config.externalMutationPolicy = .resync := by
    cases hp : config.externalMutationPolicy with
    | resync => rfl
    | fault => rw [hp] at hdecision; cases hdecision
    | restore => rw [hp] at hdecision; cases hdecision
  exact ⟨hpolicy, h.imp_right .inr⟩

theorem accepts_of_kept {config : AutotuneRuntimeConfig}
    (hdecision : recoveryDecisionForKeptAction config.externalMutationPolicy = .abandonKeptAction)
    (h : answers.keptDrift = true) : Accepts config answers := by
  have hpolicy : config.externalMutationPolicy = .resync := by
    cases hp : config.externalMutationPolicy with
    | resync => rfl
    | fault => rw [hp] at hdecision; cases hdecision
    | restore => rw [hp] at hdecision; cases hdecision
  exact ⟨hpolicy, .inr (.inl h)⟩

/-- What an evaluation decides: a start is of a selected candidate that the controller lets through,
while the manager holds nothing, and a keep is on data of quality. -/
theorem holds_chooseDecision {D : AutotuneDecision → RuntimeState → Prop}
    (hmove : ∀ t next reason, P t →
      Holds (transitionRuntimePhase next reason) (fun _ => True) (fun _ t' => P t') t)
    (hresync : Accepts config answers → ∀ t, P t → P t.resync)
    (habandon : Accepts config answers → ∀ t : RuntimeState, P t →
      P { t with manager := { t.manager with keptActions := .empty } })
    (hother : ∀ t decision, P t → decision.isStart = false →
      (∀ id reason, decision = .keepCurrent id reason →
        answers.observation.dataQuality.blocksAction = false) → D decision t)
    (hstart : ∀ t candidate reason, P t → t.manager.current = none →
      StartAllowed config.input.controllerPolicy t.manager.controller answers.observation
        candidate →
      Selectable config answers t candidate → D (.startExperiment candidate reason) t) (hs : P s) :
    Holds (chooseDecision config answers) (fun _ => True)
      (fun r t => P t ∧ ∀ decision, r = .ok decision → D decision t) s := by
  -- a decision that starts nothing and keeps nothing
  have hchosen : ∀ (t : RuntimeState) (decision : AutotuneDecision), P t →
      decision.isStart = false →
      (∀ id reason, decision ≠ .keepCurrent id reason) →
      P t ∧ ∀ d, (Except.ok decision : Except AnyError AutotuneDecision) = .ok d → D d t := by
    intro t decision ht hnot hkeeps
    refine ⟨ht, ?_⟩
    rintro _ ⟨⟩
    exact hother t decision ht hnot fun id reason hkeep => absurd hkeep (hkeeps id reason)
  have hcontroller : ∀ (t : RuntimeState) (candidate : Option CandidateAction), P t →
      (∀ c, candidate = some c → t.manager.current = none ∧ Selectable config answers t c) →
      Holds (controllerDecision config answers candidate) (fun _ => True)
        (fun r t => P t ∧ ∀ decision, r = .ok decision → D decision t) t := by
    intro t candidate ht hselected
    rw [controllerDecision, holds_gets]
    refine ⟨ht, ?_⟩
    rintro decision hdecision
    injection hdecision with hdecision
    cases decision with
    | startExperiment started reason =>
      obtain ⟨rfl, hallowed⟩ := decide_startExperiment hdecision
      obtain ⟨hidle, hselectable⟩ := hselected started rfl
      exact hstart t started reason ht hidle hallowed hselectable
    | keepCurrent id reason =>
      exact hother t _ ht rfl fun _ _ _ => decide_keepCurrent hdecision
    | _ => exact hother t _ ht rfl fun _ _ hkeep => nomatch hkeep
  have hheld : ∀ experiment, Holds (decideHeld config answers experiment) (fun _ => True)
      (fun r t => P t ∧ ∀ decision, r = .ok decision → D decision t) s := by
    intro experiment
    unfold decideHeld
    cases hwindow : activeWindowDecision experiment answers.observation with
    | some decision =>
      obtain ⟨reason, rfl⟩ := activeWindowDecision_noop hwindow
      exact holds_pure.mpr (hchosen s _ hs rfl fun _ _ h => nomatch h)
    | none =>
      dsimp only
      split
      · rename_i reason hreason
        unfold activeExperimentRecoveryDecision
        split
        · exact holds_pure.mpr (hchosen s _ hs rfl fun _ _ h => nomatch h)
        · rename_i hpolicy
          have haccepts := accepts_of_active hpolicy (.inr ⟨experiment, by rw [hreason]; simp⟩)
          rw [holds_bind, holds_gets]
          dsimp only
          rw [holds_bind, holds_assign]
          exact holds_pure.mpr (hchosen _ _ (hresync haccepts s hs) rfl fun _ _ h => nomatch h)
        · exact holds_pure.mpr (hchosen s _ hs rfl fun _ _ h => nomatch h)
        · exact holds_pure.mpr (hchosen s _ hs rfl fun _ _ h => nomatch h)
      · exact hcontroller s none hs (by rintro _ ⟨⟩)
  -- the plan's own recovery either decides, or has changed nothing
  have hrecovery : ∀ t : RuntimeState, P t →
      Holds (planExternalMutationRecoveryDecision config answers) (fun _ => True)
        (fun r u => P u ∧ (∀ decision, r = .ok (some decision) → decision.isStart = false ∧
          ∀ id reason, decision ≠ .keepCurrent id reason) ∧ (r = .ok none → u = t)) t := by
    intro t ht
    have hfault : ∀ reason : String, ∀ decision,
        (Except.ok (some (AutotuneDecision.fault reason)) : Except AnyError
          (Option AutotuneDecision)) =
          .ok (some decision) → decision.isStart = false ∧
            ∀ id reason, decision ≠ .keepCurrent id reason := by
      rintro reason _ ⟨⟩
      exact ⟨rfl, fun _ _ h => nomatch h⟩
    have hnoop : ∀ reason : String, ∀ decision,
        (Except.ok (some (AutotuneDecision.noop reason)) : Except AnyError
          (Option AutotuneDecision)) =
          .ok (some decision) → decision.isStart = false ∧
            ∀ id reason, decision ≠ .keepCurrent id reason := by
      rintro reason _ ⟨⟩
      exact ⟨rfl, fun _ _ h => nomatch h⟩
    unfold planExternalMutationRecoveryDecision
    split
    · rename_i hdrift
      split
      · exact holds_pure.mpr ⟨ht, hfault _, nofun⟩
      · rename_i hpolicy
        rw [holds_bind, holds_gets]
        dsimp only
        rw [holds_bind, holds_assign]
        exact holds_pure.mpr
          ⟨hresync (accepts_of_active hpolicy (.inl hdrift)) t ht, hnoop _, nofun⟩
      · exact holds_pure.mpr ⟨ht, hfault _, nofun⟩
      · exact holds_pure.mpr ⟨ht, hfault _, nofun⟩
    · split
      · rename_i hdrift
        split
        · rename_i hpolicy
          rw [holds_bind, holds_gets]
          dsimp only
          rw [holds_bind, holds_assign]
          exact holds_pure.mpr ⟨habandon (accepts_of_kept hpolicy hdrift) t ht, hnoop _, nofun⟩
        all_goals exact holds_pure.mpr ⟨ht, hfault _, nofun⟩
      · exact holds_pure.mpr ⟨ht, by rintro _ ⟨⟩, fun _ => rfl⟩
  rw [chooseDecision, holds_bind, holds_gets]
  dsimp only
  cases hcurrent : s.manager.current with
  | some experiment => exact hheld experiment
  | none =>
    dsimp only [decideIdle]
    have hplanning : Holds
        (transitionRuntimePhase .planning "planning candidates for observation")
        (fun _ => True) (fun _ t => P t ∧ t.PlansAs s) s :=
      ((hmove s _ _ hs).and (holds_transition_plansAs (.refl s))).mono (fun _ _ => trivial)
        fun _ _ h => h
    refine hplanning.bind ?_ fun e t ht => ⟨ht.1, by rintro _ ⟨⟩⟩
    intro _ t ht
    refine (holds_selectCandidate hmove ht.1).bind ?_ fun e u hu => ⟨hu.1.1, by rintro _ ⟨⟩⟩
    rintro candidate u ⟨⟨hu, hplans⟩, hselected⟩
    refine (hrecovery u hu).bind ?_ fun e v hv => ⟨hv.1, by rintro _ ⟨⟩⟩
    rintro decision v ⟨hv, hnot, hsame⟩
    cases decision with
    | some decision =>
      exact holds_pure.mpr (hchosen v decision hv (hnot decision rfl).1 (hnot decision rfl).2)
    | none =>
      cases hsame rfl
      refine hcontroller u candidate hu ?_
      rintro c rfl
      exact ⟨hplans.current.trans (ht.2.current.trans hcurrent), hselected c rfl⟩

/-- One evaluation: `M` holds while it is made, `D` of what was chosen, and `P` at its end, also
where it ends early. -/
theorem holds_evaluateAndEmit {M P : RuntimeState → Prop}
    {D : AutotuneDecision → RuntimeState → Prop}
    (hprepare : Holds prepareRuntimePhaseForEvaluation (fun _ => True)
      (fun r t => match r with | .ok _ => M t | .error _ => P t) s)
    (hobserved : ∀ t : RuntimeState, M t → M { t with lastObservation := answers.observation })
    (hrelease : ∀ t, M t →
      Holds (releaseRuntimeKeptActions config answers.release) (fun _ => True)
        (fun _ t' => M t') t)
    (hchoose : ∀ t, M t → Holds (chooseDecision config answers) (fun _ => True)
      (fun r t' => match r with | .ok decision => D decision t' | .error _ => P t') t)
    (heffects : ∀ (t : RuntimeState) decision, D decision t →
      Holds (applyRuntimeSideEffects config answers.effects answers.observation decision
        (answers.forcedReason.getD decision.reason)) (fun _ => True) (fun _ t' => P t')
        { t with decided := t.decided ++ [⟨decision, answers.observation.nowUnixNanos, t.live⟩] }) :
    Holds (evaluateAndEmit config answers) (fun _ => True) (fun _ t => P t) s := by
  rw [evaluateAndEmit]
  refine hprepare.bind ?_ fun _ _ ht => ht
  intro _ t ht
  rw [holds_bind, holds_assign]
  dsimp only
  have hexit : Holds (releaseOnExit config answers) (fun _ => True)
      (fun r t => r.isOk = true ∧ M t) { t with lastObservation := answers.observation } := by
    have ht' := hobserved t ht
    rw [releaseOnExit, holds_bind, holds_gets]
    dsimp only
    split
    · rw [holds_bind, holds_attempt]
      exact (hrelease _ ht').mono (fun _ h => h) fun _ _ hu => holds_pure.mpr ⟨rfl, hu⟩
    · exact holds_pure.mpr ⟨rfl, ht'⟩
  refine hexit.bind ?_ fun _ _ hu => nomatch hu.1
  rintro _ u ⟨-, hu⟩
  refine (hchoose u hu).bind ?_ fun _ _ hv => hv
  intro decision v hv
  rw [holds_bind, holds_assign]
  dsimp only
  refine (heffects v decision hv).bind ?_ fun _ _ ht => ht
  intro _ t ht
  rw [holds_ofExcept]
  exact ht

/-- A discontinuity: a revert, and a time to settle that changes the cooldown only. -/
theorem holds_handleLifecycleEvent {rollsBack : Bool} {stabilizationMs : Option Nat}
    {answers : RevertAnswers}
    (hprepare : Holds prepareRuntimePhaseForEvaluation (fun _ => True) (fun _ t => P t) s)
    (hrevert : ∀ t reason, P t →
      Holds (rollbackLiveExperiment config answers reason) (fun _ => True) (fun _ t' => P t') t)
    (hsettled : ∀ (t : RuntimeState) deadline, P t → P { t with manager := { t.manager with
      controller := { t.manager.controller with cooldownUntilUnixNanos := some deadline } } })
    (hs : P s) :
    Holds (handleLifecycleEvent config rollsBack stabilizationMs answers) (fun _ => True)
      (fun _ t => P t) s := by
  have hsettle : ∀ t : RuntimeState, P t →
      Holds (match stabilizationMs with
        | none => return ()
        | some ms =>
          let settled := saturatingAdd answers.nowUnixNanos (ms * 1000000)
          assign fun s => { s with manager := { s.manager with
            controller := { s.manager.controller with
              cooldownUntilUnixNanos :=
                some ((s.manager.controller.cooldownUntilUnixNanos.map (max · settled)).getD
                  settled) } } } : RuntimeOp Unit)
        (fun _ => True) (fun _ t => P t) t := by
    intro t ht
    cases stabilizationMs with
    | none => exact holds_pure.mpr ht
    | some ms => exact holds_assign.mpr (hsettled t _ ht)
  unfold handleLifecycleEvent
  rw [holds_bind, holds_gets]
  dsimp only
  split
  · refine hprepare.bind ?_ fun _ _ ht => ht
    intro _ t ht
    refine (hrevert t _ ht).bind ?_ fun _ _ hu => hu
    exact fun _ u hu => hsettle u hu
  · exact hsettle s hs

/-- The answers to the parts of a call: its evaluation, its reverts and its release. -/
def RuntimeCall.Answers (E : EvaluationAnswers → Prop) (R : RevertAnswers → Prop)
    (K : SideEffectAnswers → Prop) : RuntimeCall → Prop
  | .event (.interval none answers) => E answers
  | .event (.interval (some (suspend, resume)) answers) => R suspend ∧ R resume ∧ E answers
  | .event (.focus _ revert answers) => R revert ∧ E answers
  | .event (.warning answers) => E answers
  | .event .sample => True
  | .stop answers _ => R answers.revert ∧ K answers.release

/-- What every part of a call keeps under the answers it gets, whether it succeeds or fails, the
call keeps; its evaluation comes last, and may leave the weaker `P'`. -/
theorem holds_call_of {E : EvaluationAnswers → Prop} {R : RevertAnswers → Prop}
    {K : SideEffectAnswers → Prop} {P P' : RuntimeState → Prop} (hweaken : ∀ t, P t → P' t)
    (hevaluate : ∀ t answers, E answers → P t →
      Holds (evaluateAndEmit config answers) (fun _ => True) (fun _ t' => P' t') t)
    (hrevert : ∀ t answers reason, R answers → P t →
      Holds (rollbackLiveExperiment config answers reason) (fun _ => True) (fun _ t' => P t') t)
    (hrelease : ∀ t answers, K answers → P t →
      Holds (releaseRuntimeKeptActions config answers) (fun _ => True) (fun _ t' => P t') t)
    (hlifecycle : ∀ t rollsBack stabilizationMs answers, R answers → P t →
      Holds (handleLifecycleEvent config rollsBack stabilizationMs answers) (fun _ => True)
        (fun _ t' => P t') t)
    {call : RuntimeCall} (hcall : call.Answers E R K) (hs : P s) :
    Holds (call.perform config) (fun _ => True) (fun _ t => P' t) s := by
  cases call with
  | event event =>
    cases event with
    | interval gap answers =>
      cases gap with
      | none =>
        rw [RuntimeCall.perform, onEvent, holds_bind, holds_ret]
        exact hevaluate s answers hcall hs
      | some discontinuity =>
        obtain ⟨suspend, resume⟩ := discontinuity
        obtain ⟨hsuspend, hresume, hanswers⟩ := hcall
        have hclock : Holds (observeLifecycleClock config suspend resume) (fun _ => True)
            (fun _ t => P t) s :=
          (hlifecycle s true none suspend hsuspend hs).bind
            (fun _ t ht => hlifecycle t _ _ _ hresume ht) fun _ _ ht => ht
        exact hclock.bind (fun _ t ht => hevaluate t answers hanswers ht) fun _ t ht => hweaken t ht
    | focus reason revert answers =>
      exact (hrevert s revert reason hcall.1 hs).bind
        (fun _ t ht => hevaluate t answers hcall.2 ht) fun _ t ht => hweaken t ht
    | warning answers => exact hevaluate s answers hcall hs
    | sample => exact holds_pure.mpr (hweaken s hs)
  | stop answers reason =>
    rw [RuntimeCall.perform, rollbackOnStop, holds_bind, holds_gets]
    dsimp only
    rw [holds_bind, holds_gets]
    dsimp only
    split
    · exact holds_pure.mpr (hweaken s hs)
    · rw [holds_bind, holds_attempt]
      refine (hrevert s answers.revert reason hcall.1 hs).mono (fun _ h => h) ?_
      intro reverted t ht
      refine (hrelease t answers.release hcall.2 ht).bind ?_ fun _ u hu => hweaken u hu
      intro failed u hu
      rw [holds_bind, holds_ofExcept]
      cases reverted with
      | error e => exact hweaken u hu
      | ok _ =>
        dsimp only
        rw [holds_ensure]
        split <;> exact hweaken u hu

theorem RuntimeCall.answers_of_forall (call : RuntimeCall) :
    call.Answers (fun _ => True) (fun _ => True) fun _ => True := by
  unfold RuntimeCall.Answers
  split <;> simp

/-- What every part of a call keeps under any answers, every call keeps. -/
theorem holds_call
    (hevaluate : ∀ t answers, P t →
      Holds (evaluateAndEmit config answers) (fun _ => True) (fun _ t' => P t') t)
    (hrevert : ∀ t answers reason, P t →
      Holds (rollbackLiveExperiment config answers reason) (fun _ => True) (fun _ t' => P t') t)
    (hrelease : ∀ t answers, P t →
      Holds (releaseRuntimeKeptActions config answers) (fun _ => True) (fun _ t' => P t') t)
    (hlifecycle : ∀ t rollsBack stabilizationMs answers, P t →
      Holds (handleLifecycleEvent config rollsBack stabilizationMs answers) (fun _ => True)
        (fun _ t' => P t') t) {call : RuntimeCall} (hs : P s) :
    Holds (call.perform config) (fun _ => True) (fun _ t => P t) s :=
  holds_call_of (fun _ h => h) (fun t answers _ => hevaluate t answers)
    (fun t answers reason _ => hrevert t answers reason)
    (fun t answers _ => hrelease t answers)
    (fun t rollsBack stabilizationMs answers _ => hlifecycle t rollsBack stabilizationMs answers)
    call.answers_of_forall hs

end Rules

/-! ## A sample session -/

/-- The sample session's runtime: external mutations fault. -/
def sampleConfig : AutotuneRuntimeConfig := ⟨sampleInput, false, .fault, [], rfl, rfl, by simp⟩

def sampleRuntime : RuntimeState := .starting sampleConfig .fresh (sampleObservation 0 0) .missing

/-- The manager's answers under a schedule of I/O outcomes. -/
def sampleEffects (io : List IoOutcome) : SideEffectAnswers :=
  ⟨io, sampleHost, sampleExecutor, .ok (), true⟩

/-- An evaluation at a time that finds the sample candidate. -/
def sampleEvaluation (now : Nat) (io : List IoOutcome) : EvaluationAnswers where
  forcedReason := none
  observation := sampleObservation now 1
  effects := sampleEffects io
  release := sampleEffects []
  activeMatch := .matches ""
  planningBlocked := false
  simulatedChoice := 0
  proposals := [⟨sampleCandidate, .finite 1, false⟩]
  policyContext := .clear
  planFilesWritten := .ok ()
  activeDrift := false
  keptDrift := false
  emitted := .ok ()

/-- An interval that is evaluated so. -/
def sampleInterval (now : Nat) (io : List IoOutcome) : RuntimeCall :=
  .event (.interval none (sampleEvaluation now io))

end Stutter

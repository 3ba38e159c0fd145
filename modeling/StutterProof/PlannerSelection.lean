import Mathlib.Data.String.Basic
import StutterProof.AutonomousSupport
import StutterProof.FirstLeast
import StutterProof.KeptCompatibility
import StutterProof.LastGreatest
import StutterProof.WorkloadMemory

/-! # The planner's selection

The planner evaluates each proposal of the providers against its gates.  Every gate that a proposal
does not pass adds a reason to deny it; none ends the evaluation.  A proposal with no reason is run
dry, which may add two more.  The evaluations are sorted, those without a reason first and then by
rank, confidence and name, and the first is selected.

What other modules answer about a candidate (its context in the memory, the allow-lists of
resources, the live configuration, the dry run) is given from outside, for every candidate.  The
texts of the reasons are left out. -/
namespace Stutter.Planner

/-! ## Machine numbers -/

/-- An `f32` by its bits: the sign, and the 31 bits of exponent and fraction. -/
structure Binary32 where
  negative : Bool
  magnitude : Fin (2 ^ 31)

namespace Binary32

/-- The place in the order of `total_cmp`. -/
def totalKey (x : Binary32) : Int :=
  if x.negative then -(x.magnitude.val : Int) - 1 else x.magnitude.val

def exponent (x : Binary32) : Nat := x.magnitude.val / 2 ^ 23

def fraction (x : Binary32) : Nat := x.magnitude.val % 2 ^ 23

def isFinite (x : Binary32) : Bool := x.exponent ≠ 255

/-- The size of a finite number, in units of the least one above zero. -/
def units (x : Binary32) : Nat :=
  if x.exponent = 0 then x.fraction else (2 ^ 23 + x.fraction) * 2 ^ (x.exponent - 1)

/-- What the number is in comparisons. -/
def value (x : Binary32) : F32 :=
  let size : Rat := x.units / 2 ^ 149
  if x.exponent = 255 then
    if x.fraction = 0 then if x.negative then .negInf else .posInf else .nan
  else .finite (if x.negative then -size else size)

end Binary32

/-- The largest `u32`. -/
def u32Max : Nat := 2 ^ 32 - 1

/-! ## Proposals and denials -/

/-- Why a proposal is refused. -/
inductive CandidateDenyReason where
  | disabledFamily | deniedFamily | safetyClassTooHigh | effectScopeTooBroad | capabilityMissing
  | dataQualityLow | healthDegraded | noExplicitTarget | focusLowConfidence
  | criticalRealtimeWarning | cooldownActive | conflictWithActiveAction | conflictWithKeptAction
  | cgroupTargetNotAllowlisted | systemWideTargetNotAllowlisted | workloadPolicyBlocked
  | notAutonomousForWorkload | providerConfidenceTooLow | noEffectiveChange | activeConfigUnknown
  | externalMutationDetected | keptActionNoLongerActive | objectiveNotAllowedForWorkload
  | objectiveNotSupported | objectiveAutonomousApplyNotAllowed | capabilityTierNotSupported
  | preparedTransactionMissing | notInSupportRegistry | operationNotAutonomous
  | outsideValidationScope | objectiveSignalMissing | targetSnapshotMissing | workloadIdle
  | manualOnlyHighRisk | dryRunFailed | dryRunMatchedZeroTasks | policyRejected
  deriving DecidableEq

/-- The source's `Debug` name. -/
def CandidateDenyReason.debug : CandidateDenyReason → String
  | .disabledFamily => "DisabledFamily"
  | .deniedFamily => "DeniedFamily"
  | .safetyClassTooHigh => "SafetyClassTooHigh"
  | .effectScopeTooBroad => "EffectScopeTooBroad"
  | .capabilityMissing => "CapabilityMissing"
  | .dataQualityLow => "DataQualityLow"
  | .healthDegraded => "HealthDegraded"
  | .noExplicitTarget => "NoExplicitTarget"
  | .focusLowConfidence => "FocusLowConfidence"
  | .criticalRealtimeWarning => "CriticalRealtimeWarning"
  | .cooldownActive => "CooldownActive"
  | .conflictWithActiveAction => "ConflictWithActiveAction"
  | .conflictWithKeptAction => "ConflictWithKeptAction"
  | .cgroupTargetNotAllowlisted => "CgroupTargetNotAllowlisted"
  | .systemWideTargetNotAllowlisted => "SystemWideTargetNotAllowlisted"
  | .workloadPolicyBlocked => "WorkloadPolicyBlocked"
  | .notAutonomousForWorkload => "NotAutonomousForWorkload"
  | .providerConfidenceTooLow => "ProviderConfidenceTooLow"
  | .noEffectiveChange => "NoEffectiveChange"
  | .activeConfigUnknown => "ActiveConfigUnknown"
  | .externalMutationDetected => "ExternalMutationDetected"
  | .keptActionNoLongerActive => "KeptActionNoLongerActive"
  | .objectiveNotAllowedForWorkload => "ObjectiveNotAllowedForWorkload"
  | .objectiveNotSupported => "ObjectiveNotSupported"
  | .objectiveAutonomousApplyNotAllowed => "ObjectiveAutonomousApplyNotAllowed"
  | .capabilityTierNotSupported => "CapabilityTierNotSupported"
  | .preparedTransactionMissing => "PreparedTransactionMissing"
  | .notInSupportRegistry => "NotInSupportRegistry"
  | .operationNotAutonomous => "OperationNotAutonomous"
  | .outsideValidationScope => "OutsideValidationScope"
  | .objectiveSignalMissing => "ObjectiveSignalMissing"
  | .targetSnapshotMissing => "TargetSnapshotMissing"
  | .workloadIdle => "WorkloadIdle"
  | .manualOnlyHighRisk => "ManualOnlyHighRisk"
  | .dryRunFailed => "DryRunFailed"
  | .dryRunMatchedZeroTasks => "DryRunMatchedZeroTasks"
  | .policyRejected => "PolicyRejected"

/-- `normalize_evaluation_denials`: in the order of the names, each once. -/
def normalizeDenials (reasons : List CandidateDenyReason) : List CandidateDenyReason :=
  (reasons.insertionSort fun a b => a.debug ≤ b.debug).destutter (· ≠ ·)

/-- `deny_reason_from_policy`, of the rejection's reason code. -/
def denyReasonFromPolicy : PolicyRejection → CandidateDenyReason
  | .actionFamilyNotEnabled _ => .disabledFamily
  | .actionFamilyDenied _ => .deniedFamily
  | .safetyClassTooHigh .. => .safetyClassTooHigh
  | .effectScopeNotAllowed .. | .systemWideActionBlocked => .effectScopeTooBroad
  | .capabilityUnavailable .. => .capabilityMissing
  | .dataQualityBlocked _ => .dataQualityLow
  | .systemHealthBlocked _ => .healthDegraded
  | .explicitTargetRequired => .noExplicitTarget
  | .confidenceTooLow .. => .providerConfidenceTooLow
  | .cooldownActive => .cooldownActive
  | .highRiskApplyNotImplemented | .mediumRiskApplyRequiresExplicitUnlock => .manualOnlyHighRisk
  | _ => .policyRejected

/-- `AutonomousDenial::deny_reason`. -/
def denyReasonFromGate : AutonomousDenial → CandidateDenyReason
  | .operationNotAutonomous => .operationNotAutonomous
  | .objectiveNotSupported _ => .objectiveNotSupported
  | .objectiveAutonomousApplyNotAllowed => .objectiveAutonomousApplyNotAllowed
  | .capabilityTierNotSupported => .capabilityTierNotSupported
  | .preparedTransactionMissing => .preparedTransactionMissing
  | .notInSupportRegistry => .notInSupportRegistry
  | .outsideValidationScope => .outsideValidationScope

/-- A provider's proposal. -/
structure CandidateProposal where
  provider : String
  candidate : CandidateAction
  confidence : Binary32
  rankHint : Nat
  denyReasons : List String

def CandidateProposal.descriptor (proposal : CandidateProposal) : ActionDescriptor :=
  { proposal.candidate.descriptor with confidence := some proposal.confidence.value }

/-! ## The planner's input -/

/-- What a situation allows. -/
structure WorkloadPolicyRule where
  situation : SituationKind
  allowedFamilies : List String
  allowedObjectives : List ObjectiveKind
  autonomousFamilies : List String

namespace WorkloadPolicyRule

def allowsCandidate (rule : WorkloadPolicyRule) (candidate : CandidateAction) : Bool :=
  rule.allowedFamilies.any (actionKindMatchesFamily candidate.actionKind)

def allowsAutonomousCandidate (rule : WorkloadPolicyRule) (candidate : CandidateAction) : Bool :=
  rule.autonomousFamilies.any (actionKindMatchesFamily candidate.actionKind)

def allowsObjective (rule : WorkloadPolicyRule) (objective : ObjectiveKind) : Bool :=
  rule.allowedObjectives.isEmpty || rule.allowedObjectives.contains objective

end WorkloadPolicyRule

/-- The rules, and the table of defaults for a situation without one. -/
structure WorkloadPolicyMatrix where
  rules : List WorkloadPolicyRule
  defaultRuleForSituation : SituationKind → WorkloadPolicyRule

def WorkloadPolicyMatrix.ruleFor (matrix : WorkloadPolicyMatrix) (situation : SituationKind) :
    WorkloadPolicyRule :=
  (matrix.rules.find? fun rule => rule.situation = situation).getD
    (matrix.defaultRuleForSituation situation)

/-- What the planner reads of the controller. -/
structure ControllerState where
  activeExperiment : Option ActiveExperiment
  cooldownUntilUnixNanos : Option Nat
  candidateMemory : Memory.CandidateMemory
  validationOverride : Option ValidationOverride

/-- `ValidationOverride::covers`. -/
def overrideCovers (grant : ValidationOverride) (candidate : CandidateAction)
    (source : ActionSource) :
    Bool :=
  source ≠ .remoteAgent && grant.operation = candidate.operationKind &&
    grant.objective = candidate.objective

/-- What a dry run found. -/
structure CandidateDryRunRecord where
  affectedTasks : Nat
  safetyClass : SafetyClass
  eligible : Bool

/-- What the planner looks at. -/
structure PlannerInput where
  observation : AutotuneObservation
  activityIdle : Bool
  focusConfidence : F32
  hasWorkloadIdentity : Bool
  dataQualityReasonCode : Option String
  daemonPolicy : DaemonPolicy
  capabilities : DaemonCapabilities
  healthOkForApply : Bool
  healthReasonCode : Option String
  controllerState : ControllerState
  activeProfileState : Option ActiveProfileState
  workloadPolicy : WorkloadPolicyMatrix
  /-- `CandidateContextHashInput::from_observation`. -/
  memoryContext : CandidateAction → Memory.CandidateContextHashInput
  /-- `baseline_unavailable_reason` gives one. -/
  baselineUnavailable : ObjectiveKind → Bool
  /-- The cgroup that the candidate moves its tasks to, if it moves any, is on the list. -/
  cgroupTargetAllowed : CandidateAction → Bool
  /-- The resources that the candidate sets are on their lists. -/
  resourcesAllowed : CandidateAction → Bool
  /-- `matches_active_config`, with the snapshot of the observation. -/
  matchesActiveConfig : CandidateAction → ActiveConfigMatch
  dryRun : CandidateAction → CandidateDryRunRecord

/-! ## The memory's answers -/

/-- `last_for_workload_action`. -/
def lastForWorkloadAction (memory : Memory.CandidateMemory) (candidate : CandidateAction)
    (context : Memory.CandidateContextHashInput) : Option Memory.WorkloadActionMemory :=
  LastGreatest.maxByKey (·.lastSeenUnixNanos) (memory.workloadActions.filter fun record =>
    record.actionId = candidate.actionId && record.matchesContext context)

def cooldownRemainingForWorkloadAction (memory : Memory.CandidateMemory)
    (candidate : CandidateAction) (context : Memory.CandidateContextHashInput) (now : Nat) :
    Option Nat :=
  do
  let record ← lastForWorkloadAction memory candidate context
  let cooldownUntil ← record.cooldownUntilUnixNanos
  if cooldownUntil ≤ now then none
  else some (CandidateMemory.durationFromRemainingNanos (cooldownUntil - now))

def workloadRankHint (memory : Memory.CandidateMemory) (candidate : CandidateAction)
    (context : Memory.CandidateContextHashInput) : Option Int :=
  (lastForWorkloadAction memory candidate context).map fun record =>
    match record.lastResult with
    | .kept => -100
    | .reverted | .faulted | .rejected => 100
    | .inconclusive => 20
    | .tried => 0

def rankWithWorkloadMemory (rankHint : Nat) (memoryAdjustment : Option Int) : Nat :=
  (max 0 (min (rankHint + memoryAdjustment.getD 0) (u32Max : Int))).toNat

/-! ## The gates -/

def denyWhen (denied : Bool) (reason : CandidateDenyReason) : List CandidateDenyReason :=
  if denied then [reason] else []

@[simp]
theorem denyWhen_eq_nil {denied : Bool} {reason : CandidateDenyReason} :
    denyWhen denied reason = [] ↔ denied = false := by
  rcases denied with _ | _ <;> simp [denyWhen]

def policyIntentForMode (mode : DaemonMode) : PolicyIntent :=
  if mode.supportsApply then .apply else .suggest

def providerConfidenceThreshold (policy : DaemonPolicy) (descriptor : ActionDescriptor) : F32 :=
  match policy.mode with
  | .observe => .finite 1
  | .suggest =>
    if descriptor.safetyClass = .highRisk then policy.confidence.minHighRiskSuggestionConfidence
    else policy.confidence.minSuggestConfidence
  | .applyLowRisk => policy.confidence.minApplyLowRiskConfidence
  | .applyMediumRisk => policy.confidence.minApplyMediumRiskConfidence
  | .applyHighRisk => policy.confidence.minHighRiskSuggestionConfidence

namespace PlannerInput
variable (input : PlannerInput)

/-- `policy_context_for_input`. -/
def policyContext : DaemonPolicyContext where
  dataQualityOk := !input.observation.dataQuality.blocksAction
  dataQualityReasonCode := input.dataQualityReasonCode
  systemHealthOk := input.healthOkForApply
  systemHealthReasonCode := input.healthReasonCode
  workloadStable := input.hasWorkloadIdentity
  cooldownActive := input.controllerState.cooldownUntilUnixNanos.any fun cooldownUntil =>
    decide (input.observation.nowUnixNanos < cooldownUntil)
  rollbackPending := input.controllerState.activeExperiment.isSome
  capabilities := some input.capabilities

def workloadRule : WorkloadPolicyRule :=
  input.workloadPolicy.ruleFor input.observation.primarySituation

def validatedByCampaign (candidate : CandidateAction) : Bool :=
  input.controllerState.validationOverride.any fun grant =>
    overrideCovers grant candidate input.daemonPolicy.source

def keptActions : List KeptCandidateState :=
  (input.activeProfileState.map fun state => state.keptActions.actions.map (·.2)).getD []

end PlannerInput

variable (input : PlannerInput) (proposal : CandidateProposal)

/-- A text of the provider that says that the target's tasks are not known. -/
def targetSnapshotMissing (reason : String) : Bool :=
  AutotuneObservation.textContains reason "target_selection_fallback_root" ||
    AutotuneObservation.textContains reason "target_snapshot_missing"

/-- The gates on what is observed, and on the families and the risk that the policy allows. -/
def observationDenials : List CandidateDenyReason :=
  denyWhen (input.activityIdle && input.observation.primarySituation ≠ .idle) .workloadIdle ++
    denyWhen (proposal.denyReasons.any targetSnapshotMissing) .targetSnapshotMissing ++
    denyWhen (!actionFamilyEnabled input.daemonPolicy proposal.descriptor.actionKind)
      .disabledFamily ++
    denyWhen (actionFamilyDenied input.daemonPolicy proposal.descriptor.actionKind) .deniedFamily ++
    denyWhen proposal.candidate.isHighRiskSystemAdjacent .manualOnlyHighRisk

/-- The daemon policy's own answer, and the confidences. -/
def policyDenials : List CandidateDenyReason :=
  (match checkActionWithContext input.daemonPolicy (policyIntentForMode input.daemonPolicy.mode)
      proposal.descriptor input.policyContext with
    | .error rejection => [denyReasonFromPolicy rejection]
    | .ok () => []) ++
    denyWhen (input.daemonPolicy.minConfidence.gt input.focusConfidence) .focusLowConfidence ++
    denyWhen (!proposal.confidence.isFinite ||
      (providerConfidenceThreshold input.daemonPolicy proposal.descriptor).gt
        proposal.confidence.value)
      .providerConfidenceTooLow ++
    denyWhen input.observation.focusHasCriticalRealtimeWarning .criticalRealtimeWarning

/-- What the workload allows, and what an autonomous apply needs. -/
def workloadDenials : List CandidateDenyReason :=
  let candidate := proposal.candidate
  let validated := input.validatedByCampaign candidate
  denyWhen (!validated && !input.workloadRule.allowsCandidate candidate) .workloadPolicyBlocked ++
    denyWhen (input.daemonPolicy.mode.supportsApply && !validated &&
      !input.workloadRule.allowsAutonomousCandidate candidate) .notAutonomousForWorkload ++
    (if input.daemonPolicy.mode.supportsApply then
      (match autonomousApplyGate (gateInputFor input.daemonPolicy.source
          input.controllerState.validationOverride input.observation.primarySituation
            candidate) with
        | .error denial => [denyReasonFromGate denial]
        | .ok () => []) ++
        denyWhen (input.baselineUnavailable candidate.objective) .objectiveSignalMissing
    else []) ++
    denyWhen (!input.workloadRule.allowsObjective candidate.objective)
      .objectiveNotAllowedForWorkload

/-- The cooldowns of the memory, and the conflicts. -/
def conflictDenials : List CandidateDenyReason :=
  let candidate := proposal.candidate
  let memory := input.controllerState.candidateMemory
  let context := input.memoryContext candidate
  let now := input.observation.nowUnixNanos
  denyWhen (context.workloadIdentity.isNone &&
      (memory.base.cooldownRemainingForAction candidate.actionId now).isSome) .cooldownActive ++
    denyWhen (cooldownRemainingForWorkloadAction memory candidate context now).isSome
      .cooldownActive ++
    denyWhen (input.controllerState.activeExperiment.any fun active =>
      candidate.conflictsWith active.candidate) .conflictWithActiveAction ++
    denyWhen ((input.activeProfileState.bind fun state =>
      state.keptActions.conflictingAction candidate).any fun kept =>
        candidate.conflictsWith kept.candidate) .conflictWithKeptAction

/-- The lists of the resources that may be set. -/
def allowlistDenials : List CandidateDenyReason :=
  let candidate := proposal.candidate
  denyWhen (!input.cgroupTargetAllowed candidate) .cgroupTargetNotAllowlisted ++
    denyWhen (!input.resourcesAllowed candidate || (candidate.effectScope.isSystemWideResource &&
      !input.daemonPolicy.systemWideAllowlist.allowsOperation candidate.operationKind.asStr))
      .systemWideTargetNotAllowlisted

/-- What an action that should be in effect is found to be. -/
def driftDenials (changed : CandidateDenyReason) : ActiveConfigMatch → List CandidateDenyReason
  | .differs _ _ => [changed]
  | .unknown _ => [.activeConfigUnknown]
  | .matches _ => []

/-- The live configuration, where it is known. -/
def activeConfigDenials : List CandidateDenyReason :=
  if input.observation.activeConfigSnapshot.isSome then
    (match input.matchesActiveConfig proposal.candidate with
      | .matches _ => [.noEffectiveChange]
      | .differs _ _ => []
      | .unknown _ => [.activeConfigUnknown]) ++
      (match input.controllerState.activeExperiment with
        | some active =>
          if proposal.candidate.conflictsWith active.candidate then
            driftDenials .externalMutationDetected (input.matchesActiveConfig active.candidate)
          else []
        | none => []) ++
      input.keptActions.flatMap fun kept =>
        driftDenials .keptActionNoLongerActive (input.matchesActiveConfig kept.candidate)
  else []

/-! ## Evaluation -/

structure CandidateEvaluationDraft where
  candidateName : String
  actionKind : String
  descriptor : ActionDescriptor
  provider : String
  confidence : Binary32
  denyReasons : List CandidateDenyReason
  objective : ObjectiveKind
  rank : Option Nat
  candidate : CandidateAction

/-- The planner's word on a proposal. -/
structure CandidateEvaluation where
  candidateName : String
  actionKind : String
  descriptor : ActionDescriptor
  provider : String
  confidence : Binary32
  eligible : Bool
  denyReasons : List CandidateDenyReason
  objective : ObjectiveKind
  rank : Option Nat
  dryRun : Option CandidateDryRunRecord
  candidate : CandidateAction

def staticDenials : List CandidateDenyReason :=
  observationDenials input proposal ++ policyDenials input proposal ++ workloadDenials input
    proposal ++
    conflictDenials input proposal ++ allowlistDenials input proposal ++ activeConfigDenials input
      proposal

/-- The gates that need no dry run. -/
def evaluateProposalStatic : CandidateEvaluationDraft where
  candidateName := proposal.candidate.candidateName
  actionKind := proposal.candidate.actionKind
  descriptor := proposal.descriptor
  provider := proposal.provider
  confidence := proposal.confidence
  denyReasons := normalizeDenials (staticDenials input proposal)
  objective := proposal.candidate.objective
  rank := some (rankWithWorkloadMemory proposal.rankHint
    (workloadRankHint input.controllerState.candidateMemory proposal.candidate
      (input.memoryContext proposal.candidate)))
  candidate := proposal.candidate

/-- What a dry run adds. -/
def dryRunDenials (record : CandidateDryRunRecord) : List CandidateDenyReason :=
  denyWhen (!record.eligible)
      (if record.affectedTasks = 0 then .dryRunMatchedZeroTasks else .dryRunFailed) ++
    denyWhen (input.daemonPolicy.maxSafetyClass.rank < record.safetyClass.rank) .safetyClassTooHigh

/-- `dry_run_candidate_if_still_eligible`: a high-risk suggestion is run too, though it is
denied. -/
def dryRunCandidateIfStillEligible (draft : CandidateEvaluationDraft) : CandidateEvaluation :=
  let highRiskSuggestDryRun :=
      input.daemonPolicy.mode = .suggest ∧ input.daemonPolicy.highRiskDryRun ∧
    draft.candidate.isHighRiskSystemAdjacent ∧ draft.denyReasons.all (· = .manualOnlyHighRisk)
  let dryRun :=
    if draft.denyReasons.isEmpty ∨ highRiskSuggestDryRun then some (input.dryRun draft.candidate)
    else none
  let denyReasons :=
    normalizeDenials (draft.denyReasons ++ (dryRun.map (dryRunDenials input)).getD [])
  { candidateName := draft.candidateName
    actionKind := draft.actionKind
    descriptor := draft.descriptor
    provider := draft.provider
    confidence := draft.confidence
    eligible := denyReasons.isEmpty
    denyReasons
    objective := draft.objective
    rank := draft.rank
    dryRun
    candidate := draft.candidate }

def evaluateProposal : CandidateEvaluation :=
  dryRunCandidateIfStillEligible input (evaluateProposalStatic input proposal)

/-! ## Selection -/

/-- The documented order: by rank, the greater confidence first, by name. -/
def CandidateEvaluation.order (evaluation : CandidateEvaluation) : Nat ×ₗ Intᵒᵈ ×ₗ String :=
  toLex (evaluation.rank.getD u32Max,
    toLex (OrderDual.toDual evaluation.confidence.totalKey, evaluation.candidateName))

def sortCandidateEvaluations (evaluations : List CandidateEvaluation) : List CandidateEvaluation :=
  FirstLeast.ranked (·.eligible) (·.order) evaluations

/-- The selected candidate, and all evaluations. -/
structure PlanResult where
  selected : Option CandidateAction
  evaluations : List CandidateEvaluation

/-- `plan_with_dry_runner`, of the proposals that the registry made. -/
def planWithDryRunner (proposals : List CandidateProposal) : PlanResult :=
  if input.daemonPolicy.mode = .observe then ⟨none, []⟩
  else if input.observation.focusIsIdleOrUnknown then ⟨none, []⟩
  else
    let evaluations := sortCandidateEvaluations (proposals.map (evaluateProposal input))
    ⟨(evaluations.find? (·.eligible)).map (·.candidate), evaluations⟩

end Stutter.Planner

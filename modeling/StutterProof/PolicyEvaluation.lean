import StutterProof.DaemonPolicy

/-! # Policy evaluation

A policy judges an action by recording one rule after the other; the first rule that fails
decides what the caller is told.  `firstRejection_require` is the whole of what a recorded
rule means for the decision, and `checkActionWithContext_apply` collects the cascade into
the conditions an accepted apply satisfies. -/
namespace Stutter

/-- Why the policy refuses an action. -/
inductive PolicyRejection where
  | unsupportedMode (mode : String)
  | invalidActionDescriptor (reason : String)
  | intentNotAllowed (mode : DaemonMode) (intent : PolicyIntent)
  | safetyClassTooHigh (mode : DaemonMode) (safetyClass : SafetyClass)
  | effectScopeNotAllowed (mode : DaemonMode) (effectScope : ActionEffectScope)
  | rollbackRequired (rollback : RollbackRequirement)
  | rollbackUnavailable
  | systemWideActionBlocked
  | persistentEffectBlocked
  | actionFamilyNotEnabled (actionKind : String)
  | actionFamilyDenied (actionKind : String)
  | capabilityUnavailable (actionKind feature : String)
  | explicitTargetRequired
  | highRiskRequiresExplicitOptIn
  | highRiskApplyNotImplemented
  | mediumRiskApplyRequiresExplicitUnlock
  | confidenceTooLow (confidence minConfidence : F32)
  | dataQualityBlocked (reasonCode : String)
  | systemHealthBlocked (reasonCode : String)
  | workloadUnstable
  | cooldownActive
  | rollbackPending
  | remoteApplyDisabled
  | remoteModeNotAllowed (mode : DaemonMode)
  | remoteApplyRequiresConfiguredAuth
  | remoteApplyRequiresAuthorizedRequest
  | remoteApplyRequiresLoopbackBind
  | remoteTargetCountTooHigh (targetCount maxTargets : Nat)
  deriving DecidableEq

/-- What the daemon found on this machine, as far as the policy reads it. -/
structure DaemonCapabilities where
  perfPermissionsLikely : Bool
  cgroupV2Available : Bool
  schedExtAvailable : Bool
  uclampAvailable : Bool
  ioniceAvailable : Bool
  irqAffinityAvailable : Bool
  gpuSysfsAvailable : Bool

/-- The state of the system at the time of the check. -/
structure DaemonPolicyContext where
  dataQualityOk : Bool
  dataQualityReasonCode : Option String
  systemHealthOk : Bool
  systemHealthReasonCode : Option String
  workloadStable : Bool
  cooldownActive : Bool
  rollbackPending : Bool
  capabilities : Option DaemonCapabilities

/-- `DaemonPolicyContext::default`: nothing stands in the way. -/
def DaemonPolicyContext.clear : DaemonPolicyContext :=
  ⟨true, none, true, none, true, false, false, none⟩

/-! ## Families and capabilities -/

/-- A kind is of a family when it is the family's name, or that name followed by a separator. -/
def actionKindMatchesFamily (actionKind family : String) : Bool :=
  actionKind == family ||
    (family.toList.isPrefixOf actionKind.toList &&
      match (actionKind.toList.drop family.length).head? with
      | some c => c == ':' || c == '-' || c == '_'
      | none => false)

/-- The capability the action lacks. -/
def unavailableCapabilityForAction (actionKind : String) (capabilities : DaemonCapabilities) :
    Option String :=
  if actionKindMatchesFamily actionKind "ionice" && !capabilities.ioniceAvailable then some "ionice"
  else if actionKindMatchesFamily actionKind "uclamp" && !capabilities.uclampAvailable then
    some "uclamp"
  else if (actionKindMatchesFamily actionKind "irq" ||
      actionKindMatchesFamily actionKind "irq_affinity") && !capabilities.irqAffinityAvailable then
    some "irq_affinity"
  else if (actionKindMatchesFamily actionKind "cgroup" ||
      actionKindMatchesFamily actionKind "cpuset") && !capabilities.cgroupV2Available then
    some "cgroup_v2"
  else if (actionKindMatchesFamily actionKind "gpu" ||
      actionKindMatchesFamily actionKind "gpu_power") && !capabilities.gpuSysfsAvailable then
    some "gpu_sysfs"
  else if actionKindMatchesFamily actionKind "scx" && !capabilities.schedExtAvailable then
    some "sched_ext"
  else if (actionKindMatchesFamily actionKind "cpu_perf" ||
      actionKindMatchesFamily actionKind "perf") && !capabilities.perfPermissionsLikely then
    some "perf_permissions"
  else none

/-! ## Recording rules -/

/-- A rule, and whether it passed. -/
structure PolicyRuleEvaluation where
  rule : String
  passed : Bool

/-- The rules recorded so far, and the first rejection among them. -/
structure PolicyRecord where
  evaluatedRules : List PolicyRuleEvaluation
  firstRejection : Option PolicyRejection

def PolicyRecord.empty : PolicyRecord := ⟨[], none⟩

def recordPolicyRule (record : PolicyRecord) (rule : String) (passed : Bool)
    (rejection : Option PolicyRejection) : PolicyRecord where
  evaluatedRules := record.evaluatedRules ++ [⟨rule, passed⟩]
  firstRejection :=
    if !passed && record.firstRejection.isNone then rejection else record.firstRejection

/-- Every call in the source gives the rejection exactly when the rule fails. -/
def PolicyRecord.require (record : PolicyRecord) (rule : String) (passed : Bool)
    (rejection : PolicyRejection) : PolicyRecord :=
  recordPolicyRule record rule passed (if passed then none else some rejection)

/-- A rule that cannot fail. -/
def PolicyRecord.note (record : PolicyRecord) (rule : String) : PolicyRecord :=
  recordPolicyRule record rule true none

variable (record : PolicyRecord)

open PolicyRecord

@[simp]
theorem firstRejection_require (rule : String) (passed : Bool) (rejection : PolicyRejection) :
    (record.require rule passed rejection).firstRejection = none ↔
      record.firstRejection = none ∧ passed = true := by
  unfold require recordPolicyRule
  cases passed <;> cases record.firstRejection <;> simp

@[simp]
theorem firstRejection_note (rule : String) :
    (record.note rule).firstRejection = record.firstRejection := by
  simp [note, recordPolicyRule]

/-- A rule that is only recorded under a condition is only asked for under it. -/
@[simp]
theorem firstRejection_requireWhen (c : Prop) [Decidable c] (record : PolicyRecord) (rule : String)
    (passed : Bool) (rejection : PolicyRejection) :
    (if c then record.require rule passed rejection else record).firstRejection = none ↔
      record.firstRejection = none ∧ (c → passed = true) := by
  by_cases hc : c <;> simp [hc]

@[simp]
theorem firstRejection_requireBothWhen (c : Prop) [Decidable c] (record : PolicyRecord)
    (rule rule' : String) (passed passed' : Bool) (rejection rejection' : PolicyRejection) :
    (if c then (record.require rule passed rejection).require rule' passed' rejection'
      else record).firstRejection = none ↔
      record.firstRejection = none ∧ (c → passed = true ∧ passed' = true) := by
  by_cases hc : c <;> simp [hc, and_assoc]

@[simp]
theorem firstRejection_empty : empty.firstRejection = none := rfl

/-! ## The rules -/

/-- The gates of `record_context_rules`; all but the capability gate concern an apply only. -/
def recordContextRules (intent : PolicyIntent) (descriptor : ActionDescriptor)
    (context : DaemonPolicyContext) (record : PolicyRecord) : PolicyRecord :=
  let applyIntent := intent == .apply
  let capabilityChecked := intent == .suggest || intent == .dryRun || intent == .apply
  let missingCapability :=
    context.capabilities.bind (unavailableCapabilityForAction descriptor.actionKind)
  let record := record.require "data_quality_gate" (!applyIntent || context.dataQualityOk)
    (.dataQualityBlocked (context.dataQualityReasonCode.getD "insufficient_data"))
  let record := record.require "system_health_gate" (!applyIntent || context.systemHealthOk)
    (.systemHealthBlocked (context.systemHealthReasonCode.getD "system_health_degraded"))
  let record := record.require "workload_stability_gate" (!applyIntent || context.workloadStable)
    .workloadUnstable
  let record := record.require "cooldown_gate" (!applyIntent || !context.cooldownActive)
    .cooldownActive
  let record := record.require "rollback_pending_gate" (!applyIntent || !context.rollbackPending)
    .rollbackPending
  record.require "capability_gate" (!capabilityChecked || missingCapability.isNone)
    (.capabilityUnavailable descriptor.actionKind (missingCapability.getD ""))

def recordRemoteTargetCountRule (policy : DaemonPolicy) (record : PolicyRecord) : PolicyRecord :=
  record.require "remote_target_count" policy.remoteApply.targetCountAllowed
    (.remoteTargetCountTooHigh policy.remoteApply.targetCount policy.remoteApply.maxRemoteTargets)

/-- The rules of a remote apply. -/
def recordRemoteApplyRules (policy : DaemonPolicy) (record : PolicyRecord) : PolicyRecord :=
  let remote := policy.remoteApply
  let record := record.require "remote_apply_enabled" remote.remoteApplyEnabled .remoteApplyDisabled
  let record :=
    if remote.requireAuth then
      (record.require "remote_auth_configured" remote.authConfigured
        .remoteApplyRequiresConfiguredAuth).require "remote_request_authorized"
        remote.requestAuthorized .remoteApplyRequiresAuthorizedRequest
    else record
  let record :=
    if remote.requireLoopbackBind then
      record.require "remote_loopback_bind" remote.bindIsLoopback .remoteApplyRequiresLoopbackBind
    else record
  let record := record.require "remote_mode_supported" remote.modeSupportedByLimits
    (.remoteModeNotAllowed policy.mode)
  recordRemoteTargetCountRule policy record

def remoteTargetCountBlocksNonApply (policy : DaemonPolicy) : Bool :=
  policy.source == .remoteAgent && !policy.mode.supportsApply &&
    !policy.remoteApply.targetCountAllowed

def recordRemoteApplyGates (policy : DaemonPolicy) (record : PolicyRecord) : PolicyRecord :=
  if policy.source == .remoteAgent && policy.mode.supportsApply then
    recordRemoteApplyRules policy record
  else record

/-- The unlocks of the modes above low risk. -/
def recordApplyUnlocks (policy : DaemonPolicy) (record : PolicyRecord) : PolicyRecord :=
  let record :=
    if policy.mode = .applyMediumRisk then
      record.require "medium_risk_apply_unlock" policy.allowMediumRiskApply
        .mediumRiskApplyRequiresExplicitUnlock
    else record
  if policy.mode = .applyHighRisk then
    record.require "high_risk_apply_support" highRiskApplyImplemented .highRiskApplyNotImplemented
  else record

/-- What each mode says of the action's class and scope. -/
def recordModeRules (policy : DaemonPolicy) (descriptor : ActionDescriptor)
    (record : PolicyRecord) :
    PolicyRecord :=
  let classTooHigh := PolicyRejection.safetyClassTooHigh policy.mode descriptor.safetyClass
  let scopeNotAllowed := PolicyRejection.effectScopeNotAllowed policy.mode descriptor.effectScope
  match policy.mode with
  | .observe | .suggest => record
  | .applyLowRisk =>
    (record.require "safety_class_allowed" (descriptor.safetyClass == .reversibleLowRisk)
      classTooHigh).require "effect_scope_allowed" descriptor.effectScope.isLowRiskApplyScope
      scopeNotAllowed
  | .applyMediumRisk =>
    (record.require "safety_class_allowed"
      (decide (descriptor.safetyClass.rank ≤ SafetyClass.reversibleMediumRisk.rank))
      classTooHigh).require "effect_scope_allowed" descriptor.effectScope.isExplicitTargetScope
      scopeNotAllowed
  | .applyHighRisk =>
    ((record.note "safety_class_allowed").note "effect_scope_allowed").require "high_risk_opt_in"
      (descriptor.safetyClass != .highRisk || policy.allowHighRisk) .highRiskRequiresExplicitOptIn

def mediumRiskSystemScopeAllowed (policy : DaemonPolicy) (descriptor : ActionDescriptor) : Bool :=
  if policy.mode ≠ .applyMediumRisk ∨
      SafetyClass.reversibleMediumRisk.rank < descriptor.safetyClass.rank then false
  else if !policy.allowSystemWideApply then false
  else
    match descriptor.effectScope with
    | .irq | .cpuPower => true
    | .gpuPower => policy.allowGpuPowerInAutotune
    | .vmKnob => policy.allowVmKnobsInAutotune
    | _ => false

def actionFamilyEnabled (policy : DaemonPolicy) (actionKind : String) : Bool :=
  policy.enabledActionFamilies.isEmpty ||
    policy.enabledActionFamilies.any (actionKindMatchesFamily actionKind)

def actionFamilyDenied (policy : DaemonPolicy) (actionKind : String) : Bool :=
  policy.deniedActionFamilies.any (actionKindMatchesFamily actionKind)

def recordRollbackRule (descriptor : ActionDescriptor) (record : PolicyRecord) : PolicyRecord :=
  match descriptor.rollback with
  | .requiredBeforeApply => record.note "rollback_available"
  | .unavailable => record.require "rollback_available" false .rollbackUnavailable
  | .notRequiredForDryRun | .bestEffortOnly =>
    record.require "rollback_available" false (.rollbackRequired descriptor.rollback)

def recordConfidenceRule (policy : DaemonPolicy) (descriptor : ActionDescriptor)
    (record : PolicyRecord) : PolicyRecord :=
  match descriptor.confidence with
  | some confidence => record.require "confidence_threshold" (confidence.ge policy.minConfidence)
      (.confidenceTooLow confidence policy.minConfidence)
  | none => record.note "confidence_threshold"

/-- The rules every apply mode shares. -/
def recordPermissionRules (policy : DaemonPolicy) (descriptor : ActionDescriptor)
    (record : PolicyRecord) : PolicyRecord :=
  let record := record.require "system_wide_apply_permission"
    (!descriptor.touchesSystemWideState || policy.allowSystemWideApply ||
      mediumRiskSystemScopeAllowed policy descriptor) .systemWideActionBlocked
  let record := record.require "persistent_effect_permission"
    (!descriptor.persistentEffect || policy.allowPersistentEffects) .persistentEffectBlocked
  let record := record.require "action_family_enabled"
    (actionFamilyEnabled policy descriptor.actionKind)
      (.actionFamilyNotEnabled descriptor.actionKind)
  let record := record.require "action_family_not_denied"
    (!actionFamilyDenied policy descriptor.actionKind) (.actionFamilyDenied descriptor.actionKind)
  let record := recordRollbackRule descriptor record
  let record := record.require "explicit_target_scope"
    (!descriptor.requiresExplicitTarget || descriptor.effectScope.isExplicitTargetScope)
    .explicitTargetRequired
  recordConfidenceRule policy descriptor record

/-! ## Explanations and checks -/

/-- `explain_action`, as the record its explanation is made of. -/
def explainAction (policy : DaemonPolicy) (intent : PolicyIntent) (descriptor : ActionDescriptor) :
    PolicyRecord :=
  if remoteTargetCountBlocksNonApply policy then recordRemoteTargetCountRule policy .empty
  else
    match intent with
    | .observe | .dryRun | .verify | .rollback => empty.note "intent_allowed"
    | .suggest =>
      (empty.require "intent_allowed" (policy.mode != .observe)
        (.intentNotAllowed policy.mode intent)).require "system_wide_suggestion_permission"
        (!descriptor.touchesSystemWideState || policy.allowSystemWideSuggestions)
        .systemWideActionBlocked
    | .apply =>
      let record := empty.require "intent_allowed" policy.mode.supportsApply
        (.intentNotAllowed policy.mode intent)
      if !policy.mode.supportsApply then record
      else
        recordPermissionRules policy descriptor
          (recordModeRules policy descriptor
            (recordRemoteApplyGates policy (recordApplyUnlocks policy record)))

/-- The context rules come first; only when they all pass are the policy's own appended. -/
def explainActionWithContext (policy : DaemonPolicy) (intent : PolicyIntent)
    (descriptor : ActionDescriptor) (context : DaemonPolicyContext) : PolicyRecord :=
  let contextRecord := recordContextRules intent descriptor context .empty
  if contextRecord.firstRejection.isSome then contextRecord
  else
    let record := explainAction policy intent descriptor
    ⟨contextRecord.evaluatedRules ++ record.evaluatedRules, record.firstRejection⟩

/-- The action must have an id and a kind; the error is displayed as invalid input. -/
def validatePolicyDescriptorShape (descriptor : ActionDescriptor) : Except String Unit :=
  Except.mapError ("invalid daemon policy input: " ++ ·) do
    validateNonEmpty "ActionId" descriptor.actionId
    if descriptor.actionKind.toList.all isTrimmed then throw "action_kind must not be empty"

def checkActionWithContext (policy : DaemonPolicy) (intent : PolicyIntent)
    (descriptor : ActionDescriptor) (context : DaemonPolicyContext) : Except PolicyRejection Unit :=
  match validatePolicyDescriptorShape descriptor with
  | .error reason => .error (.invalidActionDescriptor reason)
  | .ok () =>
    match (explainActionWithContext policy intent descriptor context).firstRejection with
    | none => .ok ()
    | some rejection => .error rejection

/-! ## What an accepted apply satisfies -/

/-- Every gate that looks at the state of the system is clear. -/
structure ContextClear (descriptor : ActionDescriptor) (context : DaemonPolicyContext) : Prop where
  dataQuality : context.dataQualityOk = true
  systemHealth : context.systemHealthOk = true
  workload : context.workloadStable = true
  cooldown : context.cooldownActive = false
  rollbackPending : context.rollbackPending = false
  capability :
    context.capabilities.bind (unavailableCapabilityForAction descriptor.actionKind) = none

/-- The gates a remote caller passes in an apply mode. -/
structure RemoteAdmitted (remote : RemoteApplyPolicy) : Prop where
  enabled : remote.remoteApplyEnabled = true
  auth : remote.requireAuth = true → remote.authConfigured = true ∧ remote.requestAuthorized = true
  loopback : remote.requireLoopbackBind = true → remote.bindIsLoopback = true
  mode : remote.modeSupportedByLimits = true
  targets : remote.targetCountAllowed = true

/-- What the mode asks of the action's class and scope.  High risk is not implemented. -/
def ModeAdmits (policy : DaemonPolicy) (descriptor : ActionDescriptor) : Prop :=
  match policy.mode with
  | .observe | .suggest | .applyHighRisk => False
  | .applyLowRisk => descriptor.safetyClass = .reversibleLowRisk ∧
      descriptor.effectScope.isLowRiskApplyScope = true
  | .applyMediumRisk => policy.allowMediumRiskApply = true ∧
      descriptor.safetyClass.rank ≤ SafetyClass.reversibleMediumRisk.rank ∧
      descriptor.effectScope.isExplicitTargetScope = true

/-- The action can be named: neither its id nor its kind is blank. -/
def ActionDescriptor.Named (descriptor : ActionDescriptor) : Prop :=
  descriptor.actionId.toList.all isTrimmed = false ∧
    descriptor.actionKind.toList.all isTrimmed = false

/-- The conditions on an apply, one for each rule of the cascade. -/
structure ApplyAdmitted (policy : DaemonPolicy) (descriptor : ActionDescriptor)
    (context : DaemonPolicyContext) : Prop where
  named : descriptor.Named
  context : ContextClear descriptor context
  mode : ModeAdmits policy descriptor
  remote : policy.source = .remoteAgent → RemoteAdmitted policy.remoteApply
  systemWide : descriptor.touchesSystemWideState = true → policy.allowSystemWideApply = true
  persistent : descriptor.persistentEffect = true → policy.allowPersistentEffects = true
  enabled : actionFamilyEnabled policy descriptor.actionKind = true
  notDenied : actionFamilyDenied policy descriptor.actionKind = false
  rollback : descriptor.rollback = .requiredBeforeApply
  explicitTarget :
    descriptor.requiresExplicitTarget = true → descriptor.effectScope.isExplicitTargetScope = true
  confidence : ∀ c, descriptor.confidence = some c → c.ge policy.minConfidence = true

theorem validatePolicyDescriptorShape_ok (descriptor : ActionDescriptor) :
    validatePolicyDescriptorShape descriptor = .ok () ↔ descriptor.Named := by
  unfold validatePolicyDescriptorShape validateNonEmpty ActionDescriptor.Named
  by_cases hid : descriptor.actionId.toList.all isTrimmed = true
  · simp [hid, bind, Except.bind, Except.mapError]
  · by_cases hkind : descriptor.actionKind.toList.all isTrimmed = true
    · simp [hid, hkind, bind, Except.bind, throw, throwThe, MonadExceptOf.throw, Except.mapError]
    · simp [hid, hkind, bind, Except.bind, pure, Except.pure, Except.mapError]

variable (policy : DaemonPolicy)

/-- A check succeeds when the descriptor can be named and neither half of the cascade rejects. -/
theorem checkActionWithContext_ok (intent : PolicyIntent)
    (descriptor : ActionDescriptor) (context : DaemonPolicyContext) :
    checkActionWithContext policy intent descriptor context = .ok () ↔
      descriptor.Named ∧ (recordContextRules intent descriptor context .empty).firstRejection =
        none ∧
        (explainAction policy intent descriptor).firstRejection = none := by
  rw [← validatePolicyDescriptorShape_ok]
  unfold checkActionWithContext explainActionWithContext
  cases validatePolicyDescriptorShape descriptor with
  | error reason => simp
  | ok u =>
    cases hc : (recordContextRules intent descriptor context .empty).firstRejection with
    | some rejection => simp [hc]
    | none => cases he : (explainAction policy intent descriptor).firstRejection <;> simp [hc, he]

theorem firstRejection_contextRules_apply (descriptor : ActionDescriptor)
    (context : DaemonPolicyContext) :
    (recordContextRules .apply descriptor context .empty).firstRejection = none ↔
      ContextClear descriptor context := by
  constructor
  · intro h
    simp [recordContextRules] at h
    obtain ⟨⟨⟨⟨⟨hq, hh⟩, hw⟩, hc⟩, hr⟩, hcap⟩ := h
    exact ⟨hq, hh, hw, hc, hr, by simpa using hcap⟩
  · rintro ⟨hq, hh, hw, hc, hr, hcap⟩
    simp [recordContextRules, hq, hh, hw, hc, hr]
    simpa using hcap

theorem firstRejection_remoteApplyRules :
    (recordRemoteApplyRules policy record).firstRejection = none ↔
      record.firstRejection = none ∧ RemoteAdmitted policy.remoteApply := by
  constructor
  · intro h
    simp only [recordRemoteApplyRules, recordRemoteTargetCountRule, firstRejection_require,
      firstRejection_requireWhen, firstRejection_requireBothWhen] at h
    obtain ⟨⟨⟨⟨⟨hr, henabled⟩, hauth⟩, hloop⟩, hmode⟩, htargets⟩ := h
    exact ⟨hr, henabled, hauth, hloop, hmode, htargets⟩
  · rintro ⟨hr, henabled, hauth, hloop, hmode, htargets⟩
    simp only [recordRemoteApplyRules, recordRemoteTargetCountRule, firstRejection_require,
      firstRejection_requireWhen, firstRejection_requireBothWhen]
    exact ⟨⟨⟨⟨⟨hr, henabled⟩, hauth⟩, hloop⟩, hmode⟩, htargets⟩

theorem firstRejection_remoteApplyGates (hmode : policy.mode.supportsApply = true) :
    (recordRemoteApplyGates policy record).firstRejection = none ↔
      record.firstRejection = none ∧
        (policy.source = .remoteAgent → RemoteAdmitted policy.remoteApply) := by
  unfold recordRemoteApplyGates
  by_cases hs : policy.source = .remoteAgent
  · simp [hs, hmode, firstRejection_remoteApplyRules]
  · simp [hs]

/-- The unlocks and the mode's own rules together are `ModeAdmits`. -/
theorem firstRejection_modeRules (descriptor : ActionDescriptor)
    (hmode : policy.mode.supportsApply = true) :
    (recordModeRules policy descriptor
        (recordRemoteApplyGates policy (recordApplyUnlocks policy
          (empty.require "intent_allowed" policy.mode.supportsApply
            (.intentNotAllowed policy.mode .apply))))).firstRejection = none ↔
      ModeAdmits policy descriptor ∧
        (policy.source = .remoteAgent → RemoteAdmitted policy.remoteApply) := by
  cases hm : policy.mode <;>
    simp [recordModeRules, ModeAdmits, hm, firstRejection_remoteApplyGates, recordApplyUnlocks,
      highRiskApplyImplemented, DaemonMode.supportsApply] <;>
    simp_all [DaemonMode.supportsApply] <;> tauto

theorem firstRejection_rollbackRule (descriptor : ActionDescriptor) (record : PolicyRecord) :
    (recordRollbackRule descriptor record).firstRejection = none ↔
      record.firstRejection = none ∧ descriptor.rollback = .requiredBeforeApply := by
  unfold recordRollbackRule
  cases hr : descriptor.rollback <;> simp

theorem firstRejection_confidenceRule (descriptor : ActionDescriptor) (record : PolicyRecord) :
    (recordConfidenceRule policy descriptor record).firstRejection = none ↔
      record.firstRejection = none ∧
        ∀ c, descriptor.confidence = some c → c.ge policy.minConfidence = true := by
  unfold recordConfidenceRule
  cases hc : descriptor.confidence <;> simp

/-- The scope permission of medium risk already asks for the general one. -/
theorem allowSystemWideApply_of_mediumRiskSystemScopeAllowed {policy : DaemonPolicy}
    {descriptor : ActionDescriptor} (h : mediumRiskSystemScopeAllowed policy descriptor = true) :
    policy.allowSystemWideApply = true := by
  unfold mediumRiskSystemScopeAllowed at h
  split at h
  · cases h
  · by_cases hs : policy.allowSystemWideApply = true
    · exact hs
    · simp [hs] at h

/-- So the system-wide rule asks for nothing but the general permission. -/
theorem systemWide_rule (descriptor : ActionDescriptor) :
    (!descriptor.touchesSystemWideState || policy.allowSystemWideApply ||
        mediumRiskSystemScopeAllowed policy descriptor) = true ↔
      (descriptor.touchesSystemWideState = true → policy.allowSystemWideApply = true) := by
  simp only [Bool.or_eq_true, Bool.not_eq_true']
  constructor
  · rintro ((ht | hs) | hm) htouches
    · simp [ht] at htouches
    · exact hs
    · exact allowSystemWideApply_of_mediumRiskSystemScopeAllowed hm
  · intro h
    by_cases ht : descriptor.touchesSystemWideState = true
    · exact .inl (.inr (h ht))
    · exact .inl (.inl (by simpa using ht))

/-- An apply is accepted exactly when every rule's condition holds. -/
theorem checkActionWithContext_apply (descriptor : ActionDescriptor)
    (context : DaemonPolicyContext) :
    checkActionWithContext policy .apply descriptor context = .ok () ↔
      ApplyAdmitted policy descriptor context := by
  rw [checkActionWithContext_ok, firstRejection_contextRules_apply]
  by_cases hmode : policy.mode.supportsApply = true
  · have hexplain : (explainAction policy .apply descriptor).firstRejection =
        (recordPermissionRules policy descriptor (recordModeRules policy descriptor
          (recordRemoteApplyGates policy (recordApplyUnlocks policy
            (empty.require "intent_allowed" policy.mode.supportsApply
              (.intentNotAllowed policy.mode .apply)))))).firstRejection := by
      simp [explainAction, remoteTargetCountBlocksNonApply, hmode]
    rw [hexplain]
    simp only [recordPermissionRules, firstRejection_confidenceRule, firstRejection_require,
      firstRejection_rollbackRule, firstRejection_modeRules policy descriptor hmode,
      systemWide_rule]
    simp only [Bool.or_eq_true, Bool.not_eq_true', ← Bool.not_eq_true, ← imp_iff_not_or]
    constructor
    · rintro ⟨hn, hc, ⟨⟨⟨⟨⟨⟨⟨⟨hm, hrem⟩, hsys⟩, hp⟩, he⟩, hd⟩, hr⟩, ht⟩, hconf⟩⟩
      exact ⟨hn, hc, hm, hrem, hsys, hp, he, by simpa using hd, hr, ht, hconf⟩
    · rintro ⟨hn, hc, hm, hrem, hsys, hp, he, hd, hr, ht, hconf⟩
      exact ⟨hn, hc, ⟨⟨⟨⟨⟨⟨⟨⟨hm, hrem⟩, hsys⟩, hp⟩, he⟩, by simpa using hd⟩, hr⟩, ht⟩, hconf⟩⟩
  · have hrejects : (explainAction policy .apply descriptor).firstRejection ≠ none := by
      unfold explainAction
      split
      · rename_i hblocks
        simp only [remoteTargetCountBlocksNonApply, Bool.and_eq_true] at hblocks
        simpa [recordRemoteTargetCountRule] using hblocks.2
      · simp [hmode]
    constructor
    · rintro ⟨-, -, he⟩
      exact absurd he hrejects
    · intro h
      have hm := h.mode
      unfold ModeAdmits at hm
      cases hmo : policy.mode <;> simp_all [DaemonMode.supportsApply]

end Stutter

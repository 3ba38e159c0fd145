import StutterProof.PolicyEvaluation

/-! # What an accepted action is entitled to

`ApplySound` says what the fields of a policy promise of an action it accepts.  Two of the
promises are not kept by the evaluation: the class ceiling a remote context lowers is only
enforced for remote callers, and the two opt-ins for GPU power and VM knobs are consulted in a
rule whose general permission already subsumes them.  `buildDaemonPolicy_sound_iff` says which
actions that concerns.

The limits on remote callers, in contrast, only ever restrict (`remoteLimits_only_restrict`). -/
namespace Stutter

/-- What the fields of the policy promise of an accepted apply. -/
structure ApplySound (policy : DaemonPolicy) (descriptor : ActionDescriptor)
    (context : DaemonPolicyContext) : Prop where
  safetyClass : descriptor.safetyClass.rank ≤ policy.maxSafetyClass.rank
  effectScope : descriptor.effectScope ∈ policy.allowedEffectScopes
  rollback : descriptor.rollback = .requiredBeforeApply
  persistent : descriptor.persistentEffect = true → policy.allowPersistentEffects = true
  enabled : actionFamilyEnabled policy descriptor.actionKind = true
  notDenied : actionFamilyDenied policy descriptor.actionKind = false
  context : ContextClear descriptor context
  systemWide : descriptor.touchesSystemWideState = true → policy.allowSystemWideApply = true
  gpuOptIn : descriptor.effectScope = .gpuPower → policy.allowGpuPowerInAutotune = true
  vmOptIn : descriptor.effectScope = .vmKnob → policy.allowVmKnobsInAutotune = true

section
variable (config : DaemonConfig) (remote : Option RemotePolicyContext)

/-- The configuration lets actions of this kind, class and scope through: the mode takes them, the
family lists name them, and a remote caller has passed its gates. -/
structure KindAdmitted (kind : String) (safetyClass : SafetyClass) (scope : ActionEffectScope) :
    Prop where
  named : kind.toList.all isTrimmed = false
  mode :
    (config.mode = .applyLowRisk ∧ safetyClass = .reversibleLowRisk ∧
      scope.isLowRiskApplyScope = true) ∨
    (config.mode = .applyMediumRisk ∧ config.autotune.allowMediumRiskApply = true ∧
      safetyClass.rank ≤ SafetyClass.reversibleMediumRisk.rank ∧ scope.isExplicitTargetScope = true)
  remote : config.source = .remoteAgent → RemoteAdmitted (remoteApplyPolicyForConfig config remote)
  enabled : config.safety.enabledActionFamilies = [] ∨
    config.safety.enabledActionFamilies.any (actionKindMatchesFamily kind) = true
  notDenied : config.safety.deniedActionFamilies.any (actionKindMatchesFamily kind) = false

/-- The class is within what the remote context, if there is one, allows. -/
def WithinRemoteCeiling (safetyClass : SafetyClass) : Prop :=
  ∀ context, remote = some context → safetyClass.rank ≤ context.limits.maxSafetyClass.rank

/-- GPU power and VM knobs have been opted into. -/
def OptedIn (scope : ActionEffectScope) : Prop :=
  (scope = .gpuPower → config.autotune.allowGpuPowerInAutotune = true) ∧
  (scope = .vmKnob → config.autotune.allowVmKnobsInAutotune = true)

theorem modeAdmits_buildDaemonPolicy (descriptor : ActionDescriptor) :
    ModeAdmits (buildDaemonPolicy config remote) descriptor ↔
      (config.mode = .applyLowRisk ∧ descriptor.safetyClass = .reversibleLowRisk ∧
        descriptor.effectScope.isLowRiskApplyScope = true) ∨
      (config.mode = .applyMediumRisk ∧ config.autotune.allowMediumRiskApply = true ∧
        descriptor.safetyClass.rank ≤ SafetyClass.reversibleMediumRisk.rank ∧
        descriptor.effectScope.isExplicitTargetScope = true) := by
  unfold ModeAdmits
  cases hm : config.mode <;> simp [buildDaemonPolicy, hm]

/-- An accepted apply is of an admitted kind, class and scope. -/
theorem kindAdmitted_of_applyAdmitted {descriptor : ActionDescriptor}
    {context : DaemonPolicyContext}
    (h : ApplyAdmitted (buildDaemonPolicy config remote) descriptor context) :
    KindAdmitted config remote descriptor.actionKind descriptor.safetyClass
      descriptor.effectScope where
  named := h.named.2
  mode := (modeAdmits_buildDaemonPolicy config remote descriptor).mp h.mode
  remote := h.remote
  enabled := by simpa [actionFamilyEnabled, buildDaemonPolicy] using h.enabled
  notDenied := by simpa [actionFamilyDenied, buildDaemonPolicy] using h.notDenied

/-- An action with nothing to object to but its kind, class and scope. -/
def plainDescriptor (kind : String) (safetyClass : SafetyClass) (scope : ActionEffectScope) :
    ActionDescriptor :=
  ⟨"action", kind, safetyClass, scope, .requiredBeforeApply, false, false, false, none⟩

variable {safetyClass : SafetyClass} {scope : ActionEffectScope} {kind : String}

/-- Such an action is accepted as soon as its kind, class and scope are admitted. -/
theorem applyAdmitted_plainDescriptor (h : KindAdmitted config remote kind safetyClass scope) :
    ApplyAdmitted (buildDaemonPolicy config remote) (plainDescriptor kind safetyClass scope)
      .clear where
  named := ⟨show ("action".toList.all isTrimmed) = false by decide, h.named⟩
  context := ⟨rfl, rfl, rfl, rfl, rfl, rfl⟩
  mode := (modeAdmits_buildDaemonPolicy config remote _).mpr h.mode
  remote := h.remote
  systemWide := by simp [plainDescriptor]
  persistent := by simp [plainDescriptor]
  enabled := by simpa [actionFamilyEnabled, buildDaemonPolicy, plainDescriptor] using h.enabled
  notDenied := by simpa [actionFamilyDenied, buildDaemonPolicy, plainDescriptor] using h.notDenied
  rollback := rfl
  explicitTarget := by simp [plainDescriptor]
  confidence := by simp [plainDescriptor]

/-- Admitted scopes are among the mode's allowed ones. -/
theorem mem_allowedEffectScopes (h : KindAdmitted config remote kind safetyClass scope) :
    scope ∈ (buildDaemonPolicy config remote).allowedEffectScopes := by
  show scope ∈ allowedEffectScopesForMode config.mode
  rcases h.mode with ⟨hm, -, hs⟩ | ⟨hm, -, -, hs⟩
  · rw [hm]
    cases scope <;> simp_all [ActionEffectScope.isLowRiskApplyScope, allowedEffectScopesForMode]
  · rw [hm]
    cases scope <;> simp_all [ActionEffectScope.isExplicitTargetScope, allowedEffectScopesForMode]

/-- An admitted class is within the mode's own ceiling, so the policy's ceiling is exceeded only
where a remote context lowered it. -/
theorem rank_le_maxSafetyClass (h : KindAdmitted config remote kind safetyClass scope) :
    safetyClass.rank ≤ (buildDaemonPolicy config remote).maxSafetyClass.rank ↔
      WithinRemoteCeiling remote safetyClass := by
  have hmode : safetyClass.rank ≤ (maxSafetyClassForMode config.mode).rank := by
    rcases h.mode with ⟨hm, hc, -⟩ | ⟨hm, -, hc, -⟩
    · rw [hm, hc]
      exact Nat.le_refl _
    · rw [hm]
      exact hc
  unfold WithinRemoteCeiling buildDaemonPolicy
  cases remote with
  | none => simpa using hmode
  | some context =>
    simp only [Option.some.injEq, forall_eq']
    split
    · exact Iff.rfl
    · rename_i hlt
      exact ⟨fun _ => by omega, fun _ => hmode⟩

/-- The policy keeps what its fields promise of every action of one kind, class and scope exactly
when it takes none of them, or the class is within the remote ceiling and the scope opted into. -/
theorem buildDaemonPolicy_sound_iff (kind : String) (safetyClass : SafetyClass)
    (scope : ActionEffectScope) :
    (∀ (descriptor : ActionDescriptor) (context : DaemonPolicyContext),
        descriptor.actionKind = kind → descriptor.safetyClass = safetyClass →
        descriptor.effectScope = scope →
        checkActionWithContext (buildDaemonPolicy config remote) .apply descriptor context =
          .ok () →
        ApplySound (buildDaemonPolicy config remote) descriptor context) ↔
      (KindAdmitted config remote kind safetyClass scope →
        WithinRemoteCeiling remote safetyClass ∧ OptedIn config scope) := by
  constructor
  · intro hsound hadmitted
    have haccepted := (checkActionWithContext_apply _ _ _).mpr
      (applyAdmitted_plainDescriptor config remote hadmitted)
    have h := hsound _ _ rfl rfl rfl haccepted
    exact ⟨(rank_le_maxSafetyClass config remote hadmitted).mp h.safetyClass, h.gpuOptIn, h.vmOptIn⟩
  · rintro hcond descriptor context rfl rfl rfl haccepted
    have h := (checkActionWithContext_apply _ _ _).mp haccepted
    have hadmitted := kindAdmitted_of_applyAdmitted config remote h
    obtain ⟨hceiling, hgpu, hvm⟩ := hcond hadmitted
    exact {
      safetyClass := (rank_le_maxSafetyClass config remote hadmitted).mpr hceiling
      effectScope := mem_allowedEffectScopes config remote hadmitted
      rollback := h.rollback
      persistent := h.persistent
      enabled := h.enabled
      notDenied := h.notDenied
      context := h.context
      systemWide := h.systemWide
      gpuOptIn := hgpu
      vmOptIn := hvm }

end

/-- A medium-risk daemon with the general system-wide permission and neither opt-in. -/
def configWithoutOptIn : DaemonConfig :=
  let config := configForConstructor .applyMediumRisk .autotuneRuntime false
  { config with safety := { config.safety with allowSystemWideApply := true } }

/-- The switch of a GPU's power profile. -/
def gpuPowerDescriptor : ActionDescriptor :=
  ⟨"gpu-power:card0", "gpu_power", .reversibleMediumRisk, .gpuPower, .requiredBeforeApply, false,
    true, false, none⟩

/-- The general permission alone lets the GPU action through. -/
theorem gpuPower_accepted_without_optIn :
    checkActionWithContext (buildDaemonPolicy configWithoutOptIn none) .apply gpuPowerDescriptor
      .clear =
        .ok () ∧
      ¬ ApplySound (buildDaemonPolicy configWithoutOptIn none) gpuPowerDescriptor .clear := by
  refine ⟨by decide +kernel, fun h => ?_⟩
  have hoptIn := h.gpuOptIn rfl
  exact absurd hoptIn (by decide)

/-! ## Remote limits -/

/-- `q` permits at least what `p` does: the same rules with at least the same permissions, and
remote gates only where `p` has them too. -/
structure DaemonPolicy.AtMost (p q : DaemonPolicy) : Prop where
  mode : q.mode = p.mode
  allowMediumRiskApply : q.allowMediumRiskApply = p.allowMediumRiskApply
  allowPersistentEffects : q.allowPersistentEffects = p.allowPersistentEffects
  enabledActionFamilies : q.enabledActionFamilies = p.enabledActionFamilies
  deniedActionFamilies : q.deniedActionFamilies = p.deniedActionFamilies
  minConfidence : q.minConfidence = p.minConfidence
  allowSystemWideSuggestions : p.allowSystemWideSuggestions = true →
    q.allowSystemWideSuggestions = true
  allowSystemWideApply : p.allowSystemWideApply = true → q.allowSystemWideApply = true
  remote : q.source = .remoteAgent → p.source = .remoteAgent ∧
    (RemoteAdmitted p.remoteApply → RemoteAdmitted q.remoteApply) ∧
    (p.remoteApply.targetCountAllowed = true → q.remoteApply.targetCountAllowed = true)

namespace DaemonPolicy.AtMost
variable {p q : DaemonPolicy} {descriptor : ActionDescriptor}

theorem modeAdmits (h : p.AtMost q) (hm : ModeAdmits p descriptor) : ModeAdmits q descriptor := by
  unfold ModeAdmits at hm ⊢
  rw [h.mode, h.allowMediumRiskApply]
  exact hm

theorem applyAdmitted (h : p.AtMost q) {context : DaemonPolicyContext}
    (ha : ApplyAdmitted p descriptor context) : ApplyAdmitted q descriptor context where
  named := ha.named
  context := ha.context
  mode := h.modeAdmits ha.mode
  remote := fun hs => (h.remote hs).2.1 (ha.remote (h.remote hs).1)
  systemWide := fun ht => h.allowSystemWideApply (ha.systemWide ht)
  persistent := by rw [h.allowPersistentEffects]; exact ha.persistent
  enabled := by
    have he := ha.enabled
    unfold actionFamilyEnabled at he ⊢
    rw [h.enabledActionFamilies]
    exact he
  notDenied := by
    have hd := ha.notDenied
    unfold actionFamilyDenied at hd ⊢
    rw [h.deniedActionFamilies]
    exact hd
  rollback := ha.rollback
  explicitTarget := ha.explicitTarget
  confidence := by rw [h.minConfidence]; exact ha.confidence

/-- The target-count rule of the other modes blocks at most where it did. -/
theorem targetCountBlocks (h : p.AtMost q) (hp : remoteTargetCountBlocksNonApply p = false) :
    remoteTargetCountBlocksNonApply q = false := by
  by_cases hs : q.source = .remoteAgent
  · obtain ⟨hps, -, ht⟩ := h.remote hs
    simp only [remoteTargetCountBlocksNonApply, hps, hs, h.mode, beq_self_eq_true, Bool.true_and,
      Bool.and_eq_false_iff, Bool.not_eq_false'] at hp ⊢
    exact hp.imp_right ht
  · simp [remoteTargetCountBlocksNonApply, hs]

/-- Where the count does block, the rejection is the rule's own. -/
theorem explainAction_blocked {policy : DaemonPolicy} {intent : PolicyIntent}
    (hb : remoteTargetCountBlocksNonApply policy = true) :
    (explainAction policy intent descriptor).firstRejection ≠ none := by
  unfold explainAction
  rw [if_pos hb]
  simp only [remoteTargetCountBlocksNonApply, Bool.and_eq_true, Bool.not_eq_true'] at hb
  simp [recordRemoteTargetCountRule, hb.2]

/-- Whatever the intent, what the smaller policy accepts the larger one does. -/
theorem check (h : p.AtMost q) {intent : PolicyIntent} {context : DaemonPolicyContext}
    (hp : checkActionWithContext p intent descriptor context = .ok ()) :
    checkActionWithContext q intent descriptor context = .ok () := by
  by_cases happly : intent = .apply
  · subst happly
    exact (checkActionWithContext_apply _ _ _).mpr
      (h.applyAdmitted ((checkActionWithContext_apply _ _ _).mp hp))
  rw [checkActionWithContext_ok] at hp ⊢
  obtain ⟨hn, hc, he⟩ := hp
  have hpb : remoteTargetCountBlocksNonApply p = false := by
    by_contra hb
    exact explainAction_blocked (by simpa using hb) he
  have hqb := h.targetCountBlocks hpb
  refine ⟨hn, hc, ?_⟩
  cases intent with
  | apply => exact absurd rfl happly
  | suggest =>
    simp only [explainAction, hpb, hqb, Bool.false_eq_true, if_false, firstRejection_require,
      firstRejection_empty, true_and, h.mode, Bool.or_eq_true, Bool.not_eq_true'] at he ⊢
    exact ⟨he.1, he.2.imp_right h.allowSystemWideSuggestions⟩
  | observe | dryRun | verify | rollback => simp [explainAction, hqb]

end DaemonPolicy.AtMost

/-- `t` puts at least the restrictions of `c` on a remote caller. -/
structure RemotePolicyContext.Tighter (t c : RemotePolicyContext) : Prop where
  bindIsLoopback : t.bindIsLoopback = true → c.bindIsLoopback = true
  authConfigured : t.authConfigured = true → c.authConfigured = true
  requestAuthorized : t.requestAuthorized = true → c.requestAuthorized = true
  maxActiveControllers : t.limits.maxActiveControllers ≤ c.limits.maxActiveControllers
  maxMode : t.limits.maxMode.rank ≤ c.limits.maxMode.rank
  maxSafetyClass : t.limits.maxSafetyClass.rank ≤ c.limits.maxSafetyClass.rank
  allowHighRisk : t.limits.allowHighRisk = true → c.limits.allowHighRisk = true
  maxCandidateWindowSeconds :
    t.limits.maxCandidateWindowSeconds ≤ c.limits.maxCandidateWindowSeconds
  maxTargets : t.limits.maxTargets ≤ c.limits.maxTargets
  allowSystemWideSuggestions :
    t.limits.allowSystemWideSuggestions = true → c.limits.allowSystemWideSuggestions = true
  allowSystemWideApply : t.limits.allowSystemWideApply = true → c.limits.allowSystemWideApply = true

/-- The same configuration with another caller. -/
def DaemonConfig.requestedBy (config : DaemonConfig) (source : ActionSource) : DaemonConfig :=
  { config with source := source }

namespace RemotePolicyContext.Tighter
variable {t c : RemotePolicyContext}

theorem remoteModeSupported (h : t.Tighter c) {mode : DaemonMode}
    (hs : remoteModeSupportedByContext mode t = true) :
    remoteModeSupportedByContext mode c = true := by
  simp only [remoteModeSupportedByContext, highRiskApplyImplemented, Bool.and_eq_true,
    decide_eq_true_eq, Bool.false_and] at hs ⊢
  obtain ⟨⟨hmode, hclass⟩, hhigh⟩ := hs
  exact ⟨⟨Nat.le_trans hmode h.maxMode, Nat.le_trans hclass h.maxSafetyClass⟩, hhigh⟩

theorem targetCountAllowed (h : t.Tighter c) {config : DaemonConfig}
    (ht : (remoteApplyPolicyForConfig config (some t)).targetCountAllowed = true) :
    (remoteApplyPolicyForConfig config (some c)).targetCountAllowed = true := by
  simp only [remoteApplyPolicyForConfig, decide_eq_true_eq] at ht ⊢
  exact Nat.le_trans ht h.maxTargets

theorem remoteAdmitted (h : t.Tighter c) {config : DaemonConfig}
    (ht : RemoteAdmitted (remoteApplyPolicyForConfig config (some t))) :
    RemoteAdmitted (remoteApplyPolicyForConfig config (some c)) where
  enabled := ht.enabled
  auth := fun hr => ⟨h.authConfigured (ht.auth hr).1, h.requestAuthorized (ht.auth hr).2⟩
  loopback := fun hr => h.bindIsLoopback (ht.loopback hr)
  mode := h.remoteModeSupported ht.mode
  targets := h.targetCountAllowed ht.targets

theorem buildDaemonPolicy_atMost (h : t.Tighter c) (config : DaemonConfig) :
    (buildDaemonPolicy config (some t)).AtMost (buildDaemonPolicy config (some c)) where
  mode := rfl
  allowMediumRiskApply := rfl
  allowPersistentEffects := rfl
  enabledActionFamilies := rfl
  deniedActionFamilies := rfl
  minConfidence := rfl
  allowSystemWideSuggestions := by
    intro hs
    simp only [buildDaemonPolicy, Bool.and_eq_true] at hs ⊢
    exact ⟨hs.1, h.allowSystemWideSuggestions hs.2⟩
  allowSystemWideApply := by
    intro hs
    simp only [buildDaemonPolicy, Bool.and_eq_true] at hs ⊢
    exact ⟨hs.1, h.allowSystemWideApply hs.2⟩
  remote := fun hs => ⟨hs, h.remoteAdmitted, h.targetCountAllowed⟩

end RemotePolicyContext.Tighter

/-- A local caller, with no remote context or with the same one, is never judged by more rules. -/
theorem buildDaemonPolicy_atMost_local (config : DaemonConfig) {source caller : ActionSource}
    {remote other : Option RemotePolicyContext} (hlocal : source ≠ .remoteAgent)
    (hother : other = none ∨ other = remote) :
    (buildDaemonPolicy (config.requestedBy caller) remote).AtMost
      (buildDaemonPolicy (config.requestedBy source) other) where
  mode := rfl
  allowMediumRiskApply := rfl
  allowPersistentEffects := rfl
  enabledActionFamilies := rfl
  deniedActionFamilies := rfl
  minConfidence := rfl
  allowSystemWideSuggestions := by
    intro hs
    simp only [buildDaemonPolicy, DaemonConfig.requestedBy, Bool.and_eq_true] at hs ⊢
    rcases hother with rfl | rfl
    · exact ⟨hs.1, rfl⟩
    · exact hs
  allowSystemWideApply := by
    intro hs
    simp only [buildDaemonPolicy, DaemonConfig.requestedBy, Bool.and_eq_true] at hs ⊢
    rcases hother with rfl | rfl
    · exact ⟨hs.1, rfl⟩
    · exact hs
  remote := fun hs => absurd hs hlocal

/-- Tightening the remote context accepts nothing new, and no remote caller is given what the same
request is refused locally. -/
theorem remoteLimits_only_restrict (config : DaemonConfig) (intent : PolicyIntent)
    (descriptor : ActionDescriptor) (context : DaemonPolicyContext) :
    (∀ t c : RemotePolicyContext, t.Tighter c →
      checkActionWithContext (buildDaemonPolicy (config.requestedBy .remoteAgent) (some t)) intent
        descriptor context = .ok () →
      checkActionWithContext (buildDaemonPolicy (config.requestedBy .remoteAgent) (some c)) intent
        descriptor context = .ok ()) ∧
    (∀ (remote other : Option RemotePolicyContext) (source : ActionSource),
      source ≠ .remoteAgent → other = none ∨ other = remote →
      checkActionWithContext (buildDaemonPolicy (config.requestedBy .remoteAgent) remote) intent
        descriptor context = .ok () →
      checkActionWithContext (buildDaemonPolicy (config.requestedBy source) other) intent descriptor
        context = .ok ()) := by
  constructor
  · intro t c ht haccepted
    exact (ht.buildDaemonPolicy_atMost _).check haccepted
  · intro remote other source hlocal hother haccepted
    exact (buildDaemonPolicy_atMost_local config hlocal hother).check haccepted

/-- A low-risk daemon that targets two processes and lets authenticated remote callers apply. -/
def configOfTwoTargets : DaemonConfig :=
  let config := configForConstructor .applyLowRisk .autotuneRuntime false
  { config with
    target := { config.target with targetPids := [100, 200] }
    remote := { config.remote with allowRemoteApply := true } }

/-- An authorised caller over loopback whose limits reach to `maxTargets` targets at low risk. -/
def callerWithin (maxTargets : Nat) : RemotePolicyContext :=
  ⟨true, true, true, ⟨1, .applyLowRisk, .reversibleLowRisk, false, 60, maxTargets, false, false⟩⟩

theorem callerWithin_tighter {m n : Nat} (h : m ≤ n) : (callerWithin m).Tighter (callerWithin n) :=
  ⟨id, id, id, Nat.le_refl _, Nat.le_refl _, Nat.le_refl _, id, Nat.le_refl _, h, id, id⟩

/-- A remote apply that a limit of two targets admits, a limit of four does as well, and so is the
local request, while a limit of one target refuses it. -/
theorem remoteLimits_only_restrict_twoTargets :
    checkActionWithContext
        (buildDaemonPolicy (configOfTwoTargets.requestedBy .remoteAgent) (some (callerWithin 2)))
        .apply (plainDescriptor "nice" .reversibleLowRisk .localProcess) .clear = .ok () ∧
      checkActionWithContext
        (buildDaemonPolicy (configOfTwoTargets.requestedBy .remoteAgent) (some (callerWithin 4)))
        .apply (plainDescriptor "nice" .reversibleLowRisk .localProcess) .clear = .ok () ∧
      checkActionWithContext
        (buildDaemonPolicy (configOfTwoTargets.requestedBy .autotuneRuntime) none) .apply
        (plainDescriptor "nice" .reversibleLowRisk .localProcess) .clear = .ok () ∧
      checkActionWithContext
        (buildDaemonPolicy (configOfTwoTargets.requestedBy .remoteAgent) (some (callerWithin 1)))
        .apply (plainDescriptor "nice" .reversibleLowRisk .localProcess) .clear ≠ .ok () := by
  have haccepted : checkActionWithContext
      (buildDaemonPolicy (configOfTwoTargets.requestedBy .remoteAgent) (some (callerWithin 2)))
      .apply (plainDescriptor "nice" .reversibleLowRisk .localProcess) .clear = .ok () := by
    decide +kernel
  obtain ⟨hwider, hlocal⟩ := remoteLimits_only_restrict configOfTwoTargets .apply
    (plainDescriptor "nice" .reversibleLowRisk .localProcess) .clear
  refine ⟨haccepted, ?_, ?_, by decide +kernel⟩
  · exact hwider _ _ (callerWithin_tighter (by decide)) haccepted
  · exact hlocal _ none .autotuneRuntime (by decide) (.inl rfl) haccepted

end Stutter

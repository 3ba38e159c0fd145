import StutterProof.Actions

/-! # The daemon's policy: its inputs and its construction

`buildDaemonPolicy` computes a policy from the daemon's configuration and, for a request
that came over the network, from the limits the agent puts on remote callers.  Sets of the
source are lists here; nothing reads more of them than membership. -/
namespace Stutter

/-! ## Modes, scopes and sources -/

/-- The derived order of the source's enumeration: the declaration order. -/
def DaemonMode.rank : DaemonMode → Nat
  | .observe => 0
  | .suggest => 1
  | .applyLowRisk => 2
  | .applyMediumRisk => 3
  | .applyHighRisk => 4

/-- Who asks for an action. -/
inductive ActionSource where
  | cli | autotuneRuntime | remoteAgent | tune | applyProfileWatch | test
  deriving DecidableEq

namespace ActionEffectScope

def isLowRiskApplyScope : ActionEffectScope → Bool
  | localProcess | localProcessTree => true
  | _ => false

/-- Scopes whose effect is a machine-wide resource rather than the target's own tasks. -/
def isSystemWideResource : ActionEffectScope → Bool
  | irq | cpuPower | gpuPower | vmKnob | systemWide => true
  | _ => false

def isExplicitTargetScope : ActionEffectScope → Bool
  | localProcess | localProcessTree | cgroup | irq | cpuPower | gpuPower | vmKnob => true
  | _ => false

/-- Every scope, in declaration order. -/
def all : List ActionEffectScope :=
  [observeOnly, localProcess, localProcessTree, userStateFile, cgroup, irq, sysfs, cpuPower,
    gpuPower, vmKnob, systemWide]

end ActionEffectScope

/-- High-risk apply has a mode but no implementation. -/
def highRiskApplyImplemented : Bool := false

/-! ## Configuration -/

/-- The targets of the configuration. -/
structure DaemonTargetConfig where
  targetPids : List Nat
  treePids : List Nat
  watchProcess : Option String

/-- The system-wide operations, by name, that may be applied at medium risk. -/
structure DaemonSystemWideAllowlistConfig where
  operations : List String

def DaemonSystemWideAllowlistConfig.allowsOperation (allowlist : DaemonSystemWideAllowlistConfig)
    (operation : String) : Bool := allowlist.operations.contains operation

/-- The limits of the configuration. -/
structure DaemonSafetyConfig where
  enabledActionFamilies : List String
  deniedActionFamilies : List String
  systemWideAllowlist : DaemonSystemWideAllowlistConfig
  allowSystemWideSuggestions : Bool
  allowSystemWideApply : Bool
  allowHighRisk : Bool
  allowPersistentEffects : Bool
  minConfidence : F32

/-- What a remote may ask for. -/
structure DaemonRemoteConfig where
  allowRemoteApply : Bool
  requireAuthForApply : Bool
  allowNonLoopbackApply : Bool

structure DaemonCandidateConfidenceConfig where
  minSuggestConfidence : F32
  minApplyLowRiskConfidence : F32
  minApplyMediumRiskConfidence : F32
  minHighRiskSuggestionConfidence : F32

structure DaemonAutotuneConfig where
  allowMediumRiskApply : Bool
  allowCpuPowerOnBattery : Bool
  allowGpuPowerInAutotune : Bool
  allowVmKnobsInAutotune : Bool
  highRiskDryRun : Bool
  confidence : DaemonCandidateConfidenceConfig

/-- The daemon's configuration. -/
structure DaemonConfig where
  mode : DaemonMode
  source : ActionSource
  target : DaemonTargetConfig
  safety : DaemonSafetyConfig
  remote : DaemonRemoteConfig
  autotune : DaemonAutotuneConfig

/-- What the agent lets remote callers ask for. -/
structure AgentAutotuneLimits where
  maxActiveControllers : Nat
  maxMode : DaemonMode
  maxSafetyClass : SafetyClass
  allowHighRisk : Bool
  maxCandidateWindowSeconds : Nat
  maxTargets : Nat
  allowSystemWideSuggestions : Bool
  allowSystemWideApply : Bool

/-- What is known of a remote request. -/
structure RemotePolicyContext where
  bindIsLoopback : Bool
  authConfigured : Bool
  requestAuthorized : Bool
  limits : AgentAutotuneLimits

/-! ## The policy -/

/-- The policy's part about remotes. -/
structure RemoteApplyPolicy where
  allowRemoteApply : Bool
  remoteApplyEnabled : Bool
  requireLoopbackBind : Bool
  requireAuth : Bool
  maxRemoteTargets : Nat
  targetCount : Nat
  targetCountAllowed : Bool
  modeSupportedByLimits : Bool
  authConfigured : Bool
  requestAuthorized : Bool
  bindIsLoopback : Bool

/-- `RemoteApplyPolicy::default`: what a policy built without a remote context says of remote
callers. -/
def RemoteApplyPolicy.closed : RemoteApplyPolicy where
  allowRemoteApply := false
  remoteApplyEnabled := false
  requireLoopbackBind := true
  requireAuth := true
  maxRemoteTargets := 1
  targetCount := 0
  targetCountAllowed := true
  modeSupportedByLimits := false
  authConfigured := false
  requestAuthorized := false
  bindIsLoopback := false

/-- What the daemon may do. -/
structure DaemonPolicy where
  mode : DaemonMode
  source : ActionSource
  maxSafetyClass : SafetyClass
  allowedEffectScopes : List ActionEffectScope
  enabledActionFamilies : List String
  deniedActionFamilies : List String
  systemWideAllowlist : DaemonSystemWideAllowlistConfig
  rollbackRequiredBeforeApply : Bool
  allowMediumRiskApply : Bool
  allowSystemWideSuggestions : Bool
  allowSystemWideApply : Bool
  allowHighRisk : Bool
  allowPersistentEffects : Bool
  allowCpuPowerOnBattery : Bool
  allowGpuPowerInAutotune : Bool
  allowVmKnobsInAutotune : Bool
  highRiskDryRun : Bool
  minConfidence : F32
  confidence : DaemonCandidateConfidenceConfig
  remoteApply : RemoteApplyPolicy

/-! ## Construction -/

def maxSafetyClassForMode : DaemonMode → SafetyClass
  | .observe => .observeOnly
  | .suggest => .highRisk
  | .applyLowRisk => .reversibleLowRisk
  | .applyMediumRisk => .reversibleMediumRisk
  | .applyHighRisk => .highRisk

def allowedEffectScopesForMode : DaemonMode → List ActionEffectScope
  | .applyLowRisk => [.localProcess, .localProcessTree]
  | .applyMediumRisk =>
    [.localProcess, .localProcessTree, .cgroup, .irq, .cpuPower, .gpuPower, .vmKnob]
  | .observe | .suggest | .applyHighRisk => ActionEffectScope.all

/-- The `f32` written `0.85`. -/
def f32_085 : F32 := .finite (7130317 / 8388608)

/-- `DEFAULT_MIN_FOCUS_CONFIDENCE`. -/
def defaultMinFocusConfidence : F32 := f32_085

def minConfidenceForConfig (config : DaemonConfig) : F32 :=
  if config.safety.minConfidence.gt (.finite 0) then config.safety.minConfidence
  else if config.mode.supportsApply then defaultMinFocusConfidence
  else .finite 0

def confidenceThresholdsForConfig (config : DaemonConfig) (minConfidence : F32) :
    DaemonCandidateConfidenceConfig where
  minSuggestConfidence := config.autotune.confidence.minSuggestConfidence
  minApplyLowRiskConfidence :=
    config.autotune.confidence.minApplyLowRiskConfidence.max minConfidence
  minApplyMediumRiskConfidence :=
    (config.autotune.confidence.minApplyMediumRiskConfidence.max minConfidence).max f32_085
  minHighRiskSuggestionConfidence := config.autotune.confidence.minHighRiskSuggestionConfidence

def remoteModeSupportedByContext (mode : DaemonMode) (context : RemotePolicyContext) : Bool :=
  decide (mode.rank ≤ context.limits.maxMode.rank) &&
    decide ((maxSafetyClassForMode mode).rank ≤ context.limits.maxSafetyClass.rank) &&
    (mode != .applyHighRisk || (highRiskApplyImplemented && context.limits.allowHighRisk))

def remoteTargetCountForConfig (config : DaemonConfig) : Nat :=
  config.target.targetPids.length + config.target.treePids.length +
    config.target.watchProcess.isSome.toNat

/-- The remotes' part of the policy. -/
def remoteApplyPolicyForConfig (config : DaemonConfig) :
    Option RemotePolicyContext → RemoteApplyPolicy
  | none => .closed
  | some context =>
    let modeSupportedByLimits := remoteModeSupportedByContext config.mode context
    let authAllowed := !config.remote.requireAuthForApply ||
      (context.authConfigured && context.requestAuthorized)
    let bindAllowed := config.remote.allowNonLoopbackApply || context.bindIsLoopback
    let targetCount := remoteTargetCountForConfig config
    let targetCountAllowed := decide (targetCount ≤ context.limits.maxTargets)
    { allowRemoteApply := config.remote.allowRemoteApply && config.mode.supportsApply &&
        modeSupportedByLimits && authAllowed && bindAllowed && targetCountAllowed
      remoteApplyEnabled := config.remote.allowRemoteApply
      requireLoopbackBind := config.mode.supportsApply && !config.remote.allowNonLoopbackApply
      requireAuth := config.mode.supportsApply && config.remote.requireAuthForApply
      maxRemoteTargets := context.limits.maxTargets
      targetCount := targetCount
      targetCountAllowed := targetCountAllowed
      modeSupportedByLimits := modeSupportedByLimits
      authConfigured := context.authConfigured
      requestAuthorized := context.requestAuthorized
      bindIsLoopback := context.bindIsLoopback }

/-- The policy of a configuration and its remote. -/
def buildDaemonPolicy (config : DaemonConfig) (remoteContext : Option RemotePolicyContext) :
    DaemonPolicy :=
  let modeMax := maxSafetyClassForMode config.mode
  let minConfidence := minConfidenceForConfig config
  -- without a remote context no limit is conjoined
  let limit (permission : AgentAutotuneLimits → Bool) : Bool :=
    match remoteContext with
    | none => true
    | some context => permission context.limits
  { mode := config.mode
    source := config.source
    maxSafetyClass :=
      match remoteContext with
      | some context =>
        if context.limits.maxSafetyClass.rank < modeMax.rank then context.limits.maxSafetyClass
        else modeMax
      | none => modeMax
    allowedEffectScopes := allowedEffectScopesForMode config.mode
    enabledActionFamilies := config.safety.enabledActionFamilies
    deniedActionFamilies := config.safety.deniedActionFamilies
    systemWideAllowlist := config.safety.systemWideAllowlist
    rollbackRequiredBeforeApply := config.mode.supportsApply
    allowMediumRiskApply := config.mode == .applyMediumRisk && config.autotune.allowMediumRiskApply
    allowSystemWideSuggestions :=
      config.mode != .observe && config.safety.allowSystemWideSuggestions &&
      limit (·.allowSystemWideSuggestions)
    allowSystemWideApply := config.safety.allowSystemWideApply &&
      (config.mode == .applyMediumRisk ||
        (highRiskApplyImplemented && config.mode == .applyHighRisk &&
          config.safety.allowHighRisk)) &&
      limit (·.allowSystemWideApply)
    allowHighRisk := highRiskApplyImplemented && config.mode == .applyHighRisk &&
      config.safety.allowHighRisk && limit (·.allowHighRisk)
    allowPersistentEffects := config.safety.allowPersistentEffects
    allowCpuPowerOnBattery := config.autotune.allowCpuPowerOnBattery
    allowGpuPowerInAutotune := config.autotune.allowGpuPowerInAutotune
    allowVmKnobsInAutotune := config.autotune.allowVmKnobsInAutotune
    highRiskDryRun := config.mode == .suggest && config.autotune.highRiskDryRun
    minConfidence := minConfidence
    confidence := confidenceThresholdsForConfig config minConfidence
    remoteApply := remoteApplyPolicyForConfig config remoteContext }

/-! ## The policies of the fixed modes -/

def DaemonCandidateConfidenceConfig.defaults : DaemonCandidateConfidenceConfig where
  minSuggestConfidence := .finite (1 / 2)
  minApplyLowRiskConfidence := defaultMinFocusConfidence
  minApplyMediumRiskConfidence := f32_085
  minHighRiskSuggestionConfidence := .finite (7549747 / 8388608)

/-- `config_for_constructor`: the defaults of the source with the mode's own permissions. -/
def configForConstructor (mode : DaemonMode) (source : ActionSource) (allowHighRisk : Bool) :
    DaemonConfig where
  mode := mode
  source := source
  target := ⟨[], [], none⟩
  safety := ⟨[], [], ⟨[]⟩, false, false, allowHighRisk, false,
    if mode.supportsApply then defaultMinFocusConfidence else .finite 0⟩
  remote := ⟨false, true, false⟩
  autotune := ⟨mode == .applyMediumRisk, false, false, false, false, .defaults⟩

def DaemonPolicy.applyLowRisk (source : ActionSource) : DaemonPolicy :=
  buildDaemonPolicy (configForConstructor .applyLowRisk source false) none

def DaemonPolicy.applyMediumRisk (source : ActionSource) : DaemonPolicy :=
  buildDaemonPolicy (configForConstructor .applyMediumRisk source false) none

end Stutter

import StutterProof.ManagerRun

/-! # The autonomous support registry

Whether an action may be applied without a person asking for it is decided by the operation
it performs, the objective it is judged by, the situation and the scope of its effect:
together they must be one of the registered contracts.  A validation campaign may run one
operation for one objective outside the registry.

Of a list of VM-knob changes the riskiest member decides the operation (`vmOperation_riskiest`). -/
namespace Stutter
open Fallible

/-! ## Operations -/

namespace MutationOperationKind

def asStr : MutationOperationKind → String
  | cpuAffinityProfile => "cpu_affinity_profile"
  | uclamp => "uclamp"
  | nice => "nice"
  | ioPrio => "io_prio"
  | cgroupPlacement => "cgroup_placement"
  | cpuPowerEpp => "cpu_power_epp"
  | cpuPowerGovernor => "cpu_power_governor"
  | gpuPowerProfile => "gpu_power_profile"
  | gpuForcePerformance => "gpu_force_performance"
  | vmSwappiness => "vm_swappiness"
  | vmDirtyBackgroundRatio => "vm_dirty_background_ratio"
  | vmDirtyRatio => "vm_dirty_ratio"
  | irqKnownDevice => "irq_known_device"
  | irqStorageOrUnknown => "irq_storage_or_unknown"
  | unclassified => "unclassified"

/-- The product capability that governs the operation. -/
def capabilityId : MutationOperationKind → Option String
  | cpuAffinityProfile => some "cpu_affinity_experiment"
  | uclamp => some "uclamp_experiment"
  | nice => some "nice_experiment"
  | ioPrio => some "ioprio_experiment"
  | cgroupPlacement => some "cgroup_placement_experiment"
  | cpuPowerEpp => some "cpu_power_epp"
  | cpuPowerGovernor => some "cpu_power_governor"
  | gpuPowerProfile => some "gpu_power_profile"
  | gpuForcePerformance => some "gpu_force_performance"
  | vmSwappiness => some "vm_swappiness"
  | vmDirtyBackgroundRatio => some "vm_dirty_background_ratio"
  | vmDirtyRatio => some "vm_dirty_ratio"
  | irqKnownDevice => some "irq_affinity_known_device"
  | irqStorageOrUnknown => some "irq_affinity_storage_or_unknown"
  | unclassified => none

/-- Operations that stay manual. -/
def isManualOnly : MutationOperationKind → Bool
  | cpuPowerGovernor | gpuForcePerformance | vmDirtyBackgroundRatio | vmDirtyRatio
  | irqStorageOrUnknown | unclassified => true
  | _ => false

end MutationOperationKind

structure VmKnobChange where
  path : String
  value : String

/-- `Path::file_name`: the last component, unless that is the parent directory. -/
def fileName (path : String) : Option String :=
  match ((path.splitOn "/").filter fun c => c ≠ "" && c ≠ ".").getLast? with
  | some name => if name = ".." then none else some name
  | none => none

/-- The operation one change performs; `none` for a knob that is not known. -/
def vmChangeOperation (change : VmKnobChange) : Option MutationOperationKind :=
  match fileName change.path with
  | some "swappiness" => some .vmSwappiness
  | some "dirty_background_ratio" => some .vmDirtyBackgroundRatio
  | some "dirty_ratio" => some .vmDirtyRatio
  | _ => none

/-- The riskier of what was seen and one more knob. -/
def riskierVmOperation :
    Option MutationOperationKind → MutationOperationKind → MutationOperationKind
  | some .vmDirtyRatio, _ | _, .vmDirtyRatio => .vmDirtyRatio
  | some .vmDirtyBackgroundRatio, _ | _, .vmDirtyBackgroundRatio => .vmDirtyBackgroundRatio
  | _, _ => .vmSwappiness

/-- The loop of `vm_operation`: an unknown knob returns at once. -/
def vmOperationFrom (operation : Option MutationOperationKind) :
    List VmKnobChange → MutationOperationKind
  | [] => operation.getD .unclassified
  | change :: rest =>
    match vmChangeOperation change with
    | none => .unclassified
    | some this => vmOperationFrom (some (riskierVmOperation operation this)) rest

def vmOperation (changes : List VmKnobChange) : MutationOperationKind :=
  vmOperationFrom none changes

/-! ## Situations, objectives, capabilities -/

inductive WorkloadKind where
  | game | compile | browser | media | recording | virtualMachine | desktop | idle | unknown
  deriving DecidableEq

/-- The pressure a situation shows. -/
inductive PressureKind where
  | scheduler | cpu | gpu | io | irq | memory | thermal | power
  deriving DecidableEq

def WorkloadKind.debug : WorkloadKind → String
  | .game => "Game"
  | .compile => "Compile"
  | .browser => "Browser"
  | .media => "Media"
  | .recording => "Recording"
  | .virtualMachine => "VirtualMachine"
  | .desktop => "Desktop"
  | .idle => "Idle"
  | .unknown => "Unknown"

def pressureDebug : Option PressureKind → String
  | none => "None"
  | some .scheduler => "Some(Scheduler)"
  | some .cpu => "Some(Cpu)"
  | some .gpu => "Some(Gpu)"
  | some .io => "Some(Io)"
  | some .irq => "Some(Irq)"
  | some .memory => "Some(Memory)"
  | some .thermal => "Some(Thermal)"
  | some .power => "Some(Power)"

def ActionEffectScope.debug : ActionEffectScope → String
  | .observeOnly => "ObserveOnly"
  | .localProcess => "LocalProcess"
  | .localProcessTree => "LocalProcessTree"
  | .userStateFile => "UserStateFile"
  | .cgroup => "Cgroup"
  | .irq => "Irq"
  | .sysfs => "Sysfs"
  | .cpuPower => "CpuPower"
  | .gpuPower => "GpuPower"
  | .vmKnob => "VmKnob"
  | .systemWide => "SystemWide"

namespace SituationKind

/-- The workload dimension of the situation. -/
def workload : SituationKind → WorkloadKind
  | gameFocused | gameCpuSchedulerPressure | gameGpuBound => .game
  | compileLoad | compileCpuBound | compileLinkerPressure => .compile
  | browserFocused | browserCpuPressure | browserGpuVideo | browserIoPressure => .browser
  | mediaPlayback => .media
  | recording => .recording
  | virtualMachineLoad => .virtualMachine
  | compositorPressure | cpuPressure | ioPressure | irqPressure | thermalOrPowerLimit => .desktop
  | idle => .idle
  | unknown => .unknown

/-- The pressure dimension of the situation, when it names one. -/
def pressure : SituationKind → Option PressureKind
  | gameCpuSchedulerPressure | compositorPressure => some .scheduler
  | cpuPressure | browserCpuPressure | compileCpuBound => some .cpu
  | gameGpuBound | browserGpuVideo => some .gpu
  | ioPressure | browserIoPressure | compileLinkerPressure => some .io
  | irqPressure => some .irq
  | thermalOrPowerLimit => some .thermal
  | gameFocused | compileLoad | browserFocused | mediaPlayback | recording | virtualMachineLoad
  | idle | unknown => none

end SituationKind

/-- How proven an objective is. -/
inductive ObjectiveMaturity where
  | experimental | validating | supported
  deriving DecidableEq

def ObjectiveMaturity.debug : ObjectiveMaturity → String
  | .experimental => "Experimental"
  | .validating => "Validating"
  | .supported => "Supported"

def ObjectiveKind.debug : ObjectiveKind → String
  | .stutterScore => "StutterScore"
  | .gameFramePacing => "GameFramePacing"
  | .gameRunnableLatency => "GameRunnableLatency"
  | .desktopInteractivity => "DesktopInteractivity"
  | .browserInteractivity => "BrowserInteractivity"
  | .compileThroughputWithForegroundProtection => "CompileThroughputWithForegroundProtection"
  | .ioLatency => "IoLatency"
  | .irqOverlapReduction => "IrqOverlapReduction"
  | .thermalRecovery => "ThermalRecovery"

/-- The maturity each objective's descriptor declares. -/
def ObjectiveKind.maturity : ObjectiveKind → ObjectiveMaturity
  | .gameRunnableLatency => .supported
  | .compileThroughputWithForegroundProtection => .validating
  | .stutterScore | .gameFramePacing | .desktopInteractivity | .browserInteractivity | .ioLatency
  | .irqOverlapReduction | .thermalRecovery => .experimental

/-- The same for every objective. -/
def ObjectiveKind.autonomousApplyAllowed (_ : ObjectiveKind) : Bool := true

/-- How proven an operation is. -/
inductive CapabilityTier where
  | supported | experimental | internal | disabled
  deriving DecidableEq

/-- `CAPABILITIES`, by id and the tier its evidence justifies. -/
def capabilities : List (String × CapabilityTier) :=
  [("doctor", .supported), ("record", .supported), ("bench", .supported), ("report", .supported),
    ("diagnose", .experimental), ("advisor", .experimental), ("tune_evaluation", .experimental),
    ("audit", .supported), ("restore", .experimental), ("cpu_affinity_experiment", .supported),
    ("uclamp_experiment", .experimental), ("nice_experiment", .experimental),
    ("ioprio_experiment", .experimental), ("cgroup_placement_experiment", .supported),
    ("cpu_power_epp", .experimental), ("cpu_power_governor", .experimental),
    ("gpu_power_profile", .experimental), ("gpu_force_performance", .experimental),
    ("vm_swappiness", .experimental), ("vm_dirty_background_ratio", .experimental),
    ("vm_dirty_ratio", .experimental), ("irq_affinity_known_device", .experimental),
    ("irq_affinity_storage_or_unknown", .experimental), ("bounded_autotune_controller", .supported),
    ("always_on_autotune", .experimental), ("remote_agent_mutation", .experimental),
    ("privileged_worker", .internal), ("fake_action_provider", .internal),
    ("completions_and_man", .supported)]

def capabilitySupported (operation : MutationOperationKind) : Bool :=
  match operation.capabilityId with
  | some id => capabilities.any fun capability => capability.1 == id && capability.2 == .supported
  | none => false

/-! ## The gate -/

/-- One exact autonomous contract. -/
structure AutonomousContract where
  operation : MutationOperationKind
  workload : WorkloadKind
  pressure : PressureKind
  objective : ObjectiveKind
  effectScope : ActionEffectScope
  prerequisites : List String

/-- `AUTONOMOUS_CONTRACTS`. -/
def autonomousContracts : List AutonomousContract :=
  [⟨.cpuAffinityProfile, .game, .scheduler, .gameRunnableLatency, .localProcessTree,
      ["explicit_or_stable_game_target", "baseline_runnable_population_of_at_least_1000_samples",
        "prepared_rollback_token_durable_before_first_write"]⟩,
    ⟨.cgroupPlacement, .game, .scheduler, .gameRunnableLatency, .cgroup,
      ["administrator_configured_game_cgroup_target", "explicit_or_stable_game_target",
        "baseline_runnable_population_of_at_least_1000_samples",
        "prepared_rollback_token_durable_before_first_write"]⟩]

/-- The grant of one validation campaign. -/
structure ValidationOverride where
  operation : MutationOperationKind
  objective : ObjectiveKind
  campaignId : String

/-- What the gate looks at. -/
structure AutonomousGateInput where
  operation : MutationOperationKind
  objective : ObjectiveKind
  situation : SituationKind
  effectScope : ActionEffectScope
  source : ActionSource
  validationOverride : Option ValidationOverride

/-- Why the gate refuses. -/
inductive AutonomousDenial where
  | operationNotAutonomous
  | objectiveNotSupported (maturity : ObjectiveMaturity)
  | objectiveAutonomousApplyNotAllowed
  | capabilityTierNotSupported
  | preparedTransactionMissing
  | notInSupportRegistry
  | outsideValidationScope

def registryAllows (input : AutonomousGateInput) (contracts : List AutonomousContract) : Bool :=
  contracts.any fun contract =>
    contract.operation == input.operation && contract.objective == input.objective &&
      contract.effectScope == input.effectScope && contract.workload == input.situation.workload &&
      some contract.pressure == input.situation.pressure

/-- The facts the gate decides from. -/
structure GateFacts where
  maturity : ObjectiveMaturity
  autonomousApplyAllowed : Bool
  capabilitySupported : Bool
  contracts : List AutonomousContract

/-- The gate once no campaign has decided: maturity, capability, transaction, registry. -/
def registryGate (input : AutonomousGateInput) (facts : GateFacts) : Except AutonomousDenial Unit :=
  if facts.maturity ≠ .supported then .error (.objectiveNotSupported facts.maturity)
  else if !facts.autonomousApplyAllowed then .error .objectiveAutonomousApplyNotAllowed
  else if !facts.capabilitySupported then .error .capabilityTierNotSupported
  else if !input.operation.preparedTransactionImplemented then .error .preparedTransactionMissing
  else if !registryAllows input facts.contracts then .error .notInSupportRegistry
  else .ok ()

/-- The campaign's part: its own operation and objective it decides; another operation it refuses;
another objective it leaves to the registry. -/
def campaignGate (input : AutonomousGateInput) (facts : GateFacts) (grant : ValidationOverride) :
    Except AutonomousDenial Unit :=
  if grant.operation ≠ input.operation then .error .outsideValidationScope
  else if grant.objective = input.objective then
    match facts.maturity with
    | .experimental => .error (.objectiveNotSupported facts.maturity)
    | .validating | .supported => .ok ()
  else registryGate input facts

def autonomousApplyGateWith (input : AutonomousGateInput) (facts : GateFacts) :
    Except AutonomousDenial Unit :=
  if input.operation.isManualOnly then .error .operationNotAutonomous
  else
    match input.validationOverride with
    | some grant =>
      if input.source ≠ .remoteAgent then campaignGate input facts grant
      else registryGate input facts
    | none => registryGate input facts

/-- The product-maturity gate for normal autonomous apply. -/
def autonomousApplyGate (input : AutonomousGateInput) : Except AutonomousDenial Unit :=
  autonomousApplyGateWith input
    ⟨input.objective.maturity, input.objective.autonomousApplyAllowed,
      capabilitySupported input.operation, autonomousContracts⟩

/-! ## What the manager is told -/

namespace AutonomousDenial

def reasonCode : AutonomousDenial → String
  | operationNotAutonomous => "operation_not_autonomous"
  | objectiveNotSupported _ => "objective_not_supported"
  | objectiveAutonomousApplyNotAllowed => "objective_autonomous_apply_not_allowed"
  | capabilityTierNotSupported => "capability_tier_not_supported"
  | preparedTransactionMissing => "prepared_transaction_missing"
  | notInSupportRegistry => "operation_not_in_support_registry"
  | outsideValidationScope => "outside_validation_scope"

def message (input : AutonomousGateInput) : AutonomousDenial → String
  | operationNotAutonomous => s!"operation {input.operation.asStr} is never applied autonomously"
  | objectiveNotSupported maturity =>
    s!"objective {input.objective.debug} is {maturity.debug}; autonomous apply requires Supported"
  | objectiveAutonomousApplyNotAllowed =>
    s!"objective {input.objective.debug} does not allow autonomous apply"
  | capabilityTierNotSupported =>
    s!"product capability for operation {input.operation.asStr} is not Supported"
  | preparedTransactionMissing =>
    s!"operation {input.operation.asStr} has no prepared-before-mutation transaction"
  | outsideValidationScope =>
    s!"operation {input.operation.asStr} is outside the validation campaign's scope"
  | notInSupportRegistry =>
    s!"no Supported contract covers operation={input.operation.asStr} " ++
      s!"workload={input.situation.workload.debug} " ++
      s!"pressure={pressureDebug input.situation.pressure} " ++
      s!"objective={input.objective.debug} scope={input.effectScope.debug}"

end AutonomousDenial

/-- What the gate is asked of a candidate. -/
def gateInputFor (source : ActionSource) (validationOverride : Option ValidationOverride)
    (situation : SituationKind) (candidate : CandidateAction) : AutonomousGateInput :=
  ⟨candidate.operationKind, candidate.objective, situation, candidate.effectScope, source,
    validationOverride⟩

/-- The host whose gate is this registry, for one caller, campaign and situation. -/
def ManagerHost.gatedBy (host : ManagerHost) (source : ActionSource)
    (validationOverride : Option ValidationOverride) (situation : SituationKind) : ManagerHost :=
  { host with
    autonomousApplyGate := fun candidate =>
      let gate := gateInputFor source validationOverride situation candidate
      match Stutter.autonomousApplyGate gate with
      | .error denial => some s!"{denial.reasonCode}: {denial.message gate}"
      | .ok () => none }

/-- The manager lets the candidate through to its executor. -/
def AutonomousApplyPermitted (input : LiveExperimentManagerInput) (host : ManagerHost)
    (candidate : CandidateAction) : Prop :=
  validateStartCandidate input.mode input.daemonPolicy candidate = .ok true ∧
    validateAutonomousSupport host candidate = .ok ()

/-! ## The riskiest member decides -/

/-- The order of the VM operations; an unknown knob is the riskiest. -/
def vmRisk : MutationOperationKind → Nat
  | .vmSwappiness => 0
  | .vmDirtyBackgroundRatio => 1
  | .vmDirtyRatio => 2
  | _ => 3

/-- The operation one member of a change list stands for. -/
def vmMember (change : VmKnobChange) : MutationOperationKind :=
  (vmChangeOperation change).getD .unclassified

/-- `r` occurs among `xs` and none of them is riskier. -/
def IsRiskiest (r : MutationOperationKind) (xs : List MutationOperationKind) : Prop :=
  r ∈ xs ∧ ∀ x ∈ xs, vmRisk x ≤ vmRisk r

/-- The three operations of known knobs. -/
def KnownVm (op : MutationOperationKind) : Prop :=
  op = .vmSwappiness ∨ op = .vmDirtyBackgroundRatio ∨ op = .vmDirtyRatio

theorem knownVm_of_vmChangeOperation {change : VmKnobChange} {op : MutationOperationKind}
    (h : vmChangeOperation change = some op) : KnownVm op := by
  unfold vmChangeOperation at h
  split at h <;> simp_all [KnownVm]

/-- One turn of the loop keeps the riskier of the two. -/
theorem riskierVmOperation_isRiskiest {op this : MutationOperationKind} (hop : KnownVm op)
    (hthis : KnownVm this) : IsRiskiest (riskierVmOperation (some op) this) [op, this] := by
  rcases hop with rfl | rfl | rfl <;> rcases hthis with rfl | rfl | rfl <;>
    simp [IsRiskiest, riskierVmOperation, vmRisk]

theorem riskierVmOperation_known {op this : MutationOperationKind} (hop : KnownVm op)
    (hthis : KnownVm this) : KnownVm (riskierVmOperation (some op) this) := by
  rcases hop with rfl | rfl | rfl <;> rcases hthis with rfl | rfl | rfl <;>
    simp [KnownVm, riskierVmOperation]

theorem IsRiskiest.cons_pair {r m op this : MutationOperationKind} {xs : List MutationOperationKind}
    (hpair : IsRiskiest m [op, this]) (h : IsRiskiest r (m :: xs)) :
    IsRiskiest r (op :: this :: xs) := by
  obtain ⟨hmem, hle⟩ := hpair
  obtain ⟨hr, hmax⟩ := h
  have hm := hmax m List.mem_cons_self
  constructor
  · rcases List.mem_cons.mp hr with rfl | hr
    · rcases List.mem_cons.mp hmem with rfl | hthis
      · exact List.mem_cons_self
      · rw [List.mem_singleton] at hthis
        subst hthis
        exact List.mem_cons_of_mem _ List.mem_cons_self
    · exact List.mem_cons_of_mem _ (List.mem_cons_of_mem _ hr)
  · intro x hx
    rcases List.mem_cons.mp hx with rfl | hx
    · exact Nat.le_trans (hle x List.mem_cons_self) hm
    rcases List.mem_cons.mp hx with rfl | hx
    · exact Nat.le_trans (hle x (List.mem_cons_of_mem _ List.mem_cons_self)) hm
    · exact hmax x (List.mem_cons_of_mem _ hx)

/-- What the loop answers from an accumulated operation, by induction on the changes left. -/
theorem vmOperationFrom_isRiskiest {op : MutationOperationKind} (hop : KnownVm op)
    (changes : List VmKnobChange) :
    IsRiskiest (vmOperationFrom (some op) changes) (op :: changes.map vmMember) := by
  induction changes generalizing op with
  | nil => simp [IsRiskiest, vmOperationFrom]
  | cons change rest ih =>
    rw [List.map_cons]
    cases hchange : vmChangeOperation change with
    | none =>
      -- an unknown knob ends the loop, and nothing is riskier
      have hmember : vmMember change = .unclassified := by simp [vmMember, hchange]
      simp only [vmOperationFrom, hchange, hmember]
      refine ⟨by simp, fun x _ => ?_⟩
      cases x <;> simp [vmRisk]
    | some this =>
      have hthis := knownVm_of_vmChangeOperation hchange
      have hmember : vmMember change = this := by simp [vmMember, hchange]
      simp only [vmOperationFrom, hchange, hmember]
      exact (riskierVmOperation_isRiskiest hop hthis).cons_pair
        (ih (riskierVmOperation_known hop hthis))

/-- A change list is classified by its riskiest member; an empty one is not classified. -/
theorem vmOperation_riskiest (changes : List VmKnobChange) :
    (changes = [] ∧ vmOperation changes = .unclassified) ∨
      IsRiskiest (vmOperation changes) (changes.map vmMember) := by
  cases changes with
  | nil => exact .inl ⟨rfl, rfl⟩
  | cons change rest =>
    refine .inr ?_
    rw [List.map_cons]
    cases hchange : vmChangeOperation change with
    | none =>
      have hmember : vmMember change = .unclassified := by simp [vmMember, hchange]
      simp only [vmOperation, vmOperationFrom, hchange, hmember]
      refine ⟨by simp, fun x _ => ?_⟩
      cases x <;> simp [vmRisk]
    | some this =>
      have hthis := knownVm_of_vmChangeOperation hchange
      have hmember : vmMember change = this := by simp [vmMember, hchange]
      have hfirst : riskierVmOperation none this = this := by
        rcases hthis with rfl | rfl | rfl <;> rfl
      simp only [vmOperation, vmOperationFrom, hchange, hmember, hfirst]
      exact vmOperationFrom_isRiskiest hthis rest

/-- Two members of equal risk are the same operation. -/
theorem vmMember_eq_of_vmRisk_eq {a b : VmKnobChange}
    (h : vmRisk (vmMember a) = vmRisk (vmMember b)) :
    vmMember a = vmMember b := by
  have key : ∀ c, KnownVm (vmMember c) ∨ vmMember c = .unclassified := by
    intro c
    unfold vmMember
    cases hc : vmChangeOperation c with
    | none => exact .inr rfl
    | some op => exact .inl (knownVm_of_vmChangeOperation hc)
  rcases key a with ha | ha <;> rcases key b with hb | hb
  · rcases ha with ha | ha | ha <;> rcases hb with hb | hb | hb <;> simp_all [vmRisk]
  · rcases ha with ha | ha | ha <;> simp_all [vmRisk]
  · rcases hb with hb | hb | hb <;> simp_all [vmRisk]
  · rw [ha, hb]

/-- Neither the order of the changes nor their multiplicity matters. -/
theorem vmOperation_congr {xs ys : List VmKnobChange} (h : ∀ c, c ∈ xs ↔ c ∈ ys) :
    vmOperation xs = vmOperation ys := by
  rcases vmOperation_riskiest xs with ⟨rfl, hx⟩ | ⟨hx, hxmax⟩
  · have hys : ys = [] := List.eq_nil_iff_forall_not_mem.mpr fun c hc => by simpa using (h c).mpr hc
    rw [hys]
  rcases vmOperation_riskiest ys with ⟨rfl, hy⟩ | ⟨hy, hymax⟩
  · have hxs : xs = [] := List.eq_nil_iff_forall_not_mem.mpr fun c hc => by simpa using (h c).mp hc
    rw [hxs]
  obtain ⟨a, ha, hax⟩ := List.mem_map.mp hx
  obtain ⟨b, hb, hby⟩ := List.mem_map.mp hy
  have hab := hymax (vmMember a) (List.mem_map.mpr ⟨a, (h a).mp ha, rfl⟩)
  have hba := hxmax (vmMember b) (List.mem_map.mpr ⟨b, (h b).mpr hb, rfl⟩)
  rw [← hby] at hab
  rw [← hax] at hba
  rw [← hax, ← hby]
  exact vmMember_eq_of_vmRisk_eq (Nat.le_antisymm hab hba)

variable {input : AutonomousGateInput}

/-! ## What the gate lets through -/

/-- The registry lets through exactly its tuples, of operations with a prepared transaction. -/
theorem registryGate_ok {facts : GateFacts} (h : registryGate input facts = .ok ()) :
    input.operation.preparedTransactionImplemented = true ∧
      ∃ contract ∈ facts.contracts, contract.operation = input.operation ∧
        contract.objective = input.objective ∧ contract.effectScope = input.effectScope := by
  unfold registryGate at h
  repeat' split at h
  all_goals try cases h
  rename_i hprepared hregistry
  refine ⟨by simpa using hprepared, ?_⟩
  simp only [registryAllows, Bool.not_eq_true', Bool.not_eq_false, List.any_eq_true,
    Bool.and_eq_true, beq_iff_eq] at hregistry
  obtain ⟨contract, hmem, ⟨⟨⟨hop, hobjective⟩, hscope⟩, -⟩, -⟩ := hregistry
  exact ⟨contract, hmem, hop, hobjective, hscope⟩

/-- What an open gate says of the override: either the registry decided, or the override names the
operation and the objective, and the caller is local. -/
theorem autonomousApplyGateWith_ok {facts : GateFacts}
    (h : autonomousApplyGateWith input facts = .ok ()) :
    input.operation.isManualOnly = false ∧
      (registryGate input facts = .ok () ∨
        (input.source ≠ .remoteAgent ∧ ∃ grant, input.validationOverride = some grant ∧
          grant.operation = input.operation ∧ grant.objective = input.objective)) := by
  unfold autonomousApplyGateWith at h
  split at h
  · cases h
  rename_i hmanual
  refine ⟨by simpa using hmanual, ?_⟩
  split at h
  · rename_i grant hgrant
    split at h
    · rename_i hsource
      unfold campaignGate at h
      by_cases hop : grant.operation = input.operation
      · rw [if_neg (not_not.mpr hop)] at h
        by_cases hobjective : grant.objective = input.objective
        · exact .inr ⟨hsource, grant, hgrant, hop, hobjective⟩
        · rw [if_neg hobjective] at h
          exact .inl h
      · rw [if_pos hop] at h
        cases h
    · exact .inl h
  · exact .inl h

/-- Without an override the gate is the registry's, after the manual-only check. -/
theorem autonomousApplyGate_without_override (hnone : input.validationOverride = none)
    (hmanual : input.operation.isManualOnly = false) :
    autonomousApplyGate input = registryGate input
      ⟨input.objective.maturity, input.objective.autonomousApplyAllowed,
        capabilitySupported input.operation, autonomousContracts⟩ := by
  unfold autonomousApplyGate autonomousApplyGateWith
  rw [hmanual, hnone]
  rfl

/-- A permitted candidate that is a mutation has an open gate. -/
theorem gate_open_of_permitted {input : LiveExperimentManagerInput} {host : ManagerHost}
    {source : ActionSource} {override : Option ValidationOverride} {situation : SituationKind}
    {candidate : CandidateAction} (hmutation : candidate.isMutationProvider = true)
    (h : AutonomousApplyPermitted input (host.gatedBy source override situation) candidate) :
    autonomousApplyGate (gateInputFor source override situation candidate) = .ok () := by
  have hsupport := h.2
  unfold validateAutonomousSupport at hsupport
  rw [if_neg (by simp [hmutation])] at hsupport
  simp only [ManagerHost.gatedBy] at hsupport
  cases hgate : autonomousApplyGate (gateInputFor source override situation candidate) with
  | ok u => rfl
  | error denial =>
    rw [hgate] at hsupport
    cases hsupport

/-- A candidate that is not permitted changes nothing: neither a store nor the host is touched. -/
theorem start_refused_untouched {input : LiveExperimentManagerInput} {host : ManagerHost}
    {executor : ActionExecutor} {observation : AutotuneObservation} {candidate : CandidateAction}
    (h : ¬ AutonomousApplyPermitted input host candidate) (s : ManagerState) :
    ((startCandidateExperiment input host executor observation candidate).run s).state = s ∧
      ((startCandidateExperiment input host executor observation candidate).run s).visited =
        [] := by
  have key : Op.Holds (startCandidateExperiment input host executor observation candidate)
      (fun _ => False) (fun _ t => t = s) s := by
    rw [startCandidateExperiment, Op.holds_bind, Op.holds_ofExcept]
    cases hstart : validateStartCandidate input.mode input.daemonPolicy candidate with
    | error e => rfl
    | ok mayStart =>
      cases mayStart with
      | false => exact Op.holds_ret.mpr rfl
      | true =>
        dsimp only
        rw [if_pos rfl, Op.holds_bind, Op.holds_ofExcept]
        cases hsupport : validateAutonomousSupport host candidate with
        | error e => rfl
        | ok u => exact absurd ⟨hstart, hsupport⟩ h
  obtain ⟨hvisited, hstate⟩ := key
  exact ⟨hstate, List.eq_nil_iff_forall_not_mem.mpr fun w hw => hvisited w hw⟩

/-- **The autonomous apply gate.**  A mutation the manager lets through is a registered tuple with a
prepared transaction, or the exact subject of the override; the override adds only that subject, for
a local caller and no manual operation; a refused candidate leaves everything as it was; and a
change list is classified by its riskiest member, whatever its order. -/
theorem autonomousApply_gate (input : LiveExperimentManagerInput) (host : ManagerHost)
    (executor : ActionExecutor) (observation : AutotuneObservation) (source : ActionSource)
    (override : Option ValidationOverride) (situation : SituationKind)
    (candidate : CandidateAction) :
    (AutonomousApplyPermitted input (host.gatedBy source override situation) candidate →
      candidate.variant ≠ .fake →
      (candidate.operationKind.preparedTransactionImplemented = true ∧
        ∃ contract ∈ autonomousContracts, contract.operation = candidate.operationKind ∧
          contract.objective = candidate.objective ∧ contract.effectScope = candidate.effectScope) ∨
      (∃ grant, override = some grant ∧ grant.operation = candidate.operationKind ∧
        grant.objective = candidate.objective)) ∧
    (∀ grant, autonomousApplyGate (gateInputFor source (some grant) situation candidate) = .ok () →
      autonomousApplyGate (gateInputFor source none situation candidate) = .ok () ∨
      (grant.operation = candidate.operationKind ∧ grant.objective = candidate.objective ∧
        source ≠ .remoteAgent ∧ candidate.operationKind.isManualOnly = false)) ∧
    (¬ AutonomousApplyPermitted input (host.gatedBy source override situation) candidate →
      ∀ s, ((startCandidateExperiment input (host.gatedBy source override situation) executor
        observation candidate).run s).state = s) ∧
    (∀ changes : List VmKnobChange, (changes = [] ∧ vmOperation changes = .unclassified) ∨
      IsRiskiest (vmOperation changes) (changes.map vmMember)) ∧
    (∀ xs ys : List VmKnobChange, (∀ c, c ∈ xs ↔ c ∈ ys) → vmOperation xs = vmOperation ys) := by
  refine ⟨?_, ?_, fun h s => (start_refused_untouched h s).1, vmOperation_riskiest,
    fun xs ys => vmOperation_congr⟩
  · intro hpermitted hvariant
    have hmutation : candidate.isMutationProvider = true := by
      simpa [CandidateAction.isMutationProvider] using hvariant
    have hgate := gate_open_of_permitted hmutation hpermitted
    rcases (autonomousApplyGateWith_ok hgate).2 with hregistry | ⟨-, grant, hgrant, hop, hobjective⟩
    · exact .inl (registryGate_ok hregistry)
    · exact .inr ⟨grant, hgrant, hop, hobjective⟩
  · intro grant hgate
    obtain ⟨hmanual, hregistry | ⟨hsource, g, hg, hop, hobjective⟩⟩ :=
      autonomousApplyGateWith_ok hgate
    · refine .inl ?_
      have hnone : autonomousApplyGate (gateInputFor source none situation candidate) = _ :=
        autonomousApplyGate_without_override rfl hmanual
      rw [hnone]
      exact hregistry
    · cases hg
      exact .inr ⟨hop, hobjective, hsource, hmanual⟩

/-- The test-only fake. -/
def fakeCandidate : CandidateAction :=
  ⟨.fake, "fake-profile", "fake", .reversibleLowRisk, .unclassified, .stutterScore, none, ""⟩

/-- The fake is exempt: it passes without contract and without override. -/
theorem fake_permitted_without_contract :
    AutonomousApplyPermitted sampleInput
        (sampleHost.gatedBy .autotuneRuntime none .unknown) fakeCandidate ∧
      fakeCandidate.operationKind.preparedTransactionImplemented = false ∧
      ∀ contract ∈ autonomousContracts, contract.operation ≠ fakeCandidate.operationKind := by
  refine ⟨⟨by decide +kernel, by rfl⟩, rfl, by decide⟩

end Stutter

import Mathlib.Algebra.GroupWithZero.Nat
import Mathlib.Algebra.Order.Ring.Rat
import StutterProof.DaemonStore
import StutterProof.GuardedRun

/-! # The daemon's runtime

The runtime keeps a phase of its own and the state it will persist, and moves both with each event.
Most events go through one transition that sets the phase and, with it, the fault; a decision sets
both itself.  A lifecycle event sets the phase only, so after one of those that move the phase a
faulted runtime is in another phase and still has its fault.

The health snapshot, the cooldown and the profile memory are left out, and so is a decision's
planner summary: nothing here reads them.  The clock is read once for each event. -/
namespace Stutter.Daemon.Runtime

/-! ## The state -/

structure DaemonTargetState where
  rootPid : Option Nat
  activeTargets : Nat
  comm : Option String

structure DaemonRollbackState where
  actionId : ActionId
  rollbackAvailable : Bool

/-- The last decision, as shown. -/
structure DaemonDecisionState where
  decision : String
  reason : String
  unixNanos : Option Nat
  diagnosticCurrentRawScoreTotal : Option Nat
  candidateCount : Option Nat
  topDeniedReason : Option String
  situation : Option String
  focusKind : Option String

/-- What the daemon shows of itself. -/
structure DaemonState where
  mode : DaemonMode
  phase : DaemonPhase
  activeTarget : Option DaemonTargetState
  activeExperiment : Option DaemonExperimentState
  activeRollback : Option DaemonRollbackState
  lastDecision : Option DaemonDecisionState
  degraded : List DaemonDegradedStatus
  faulted : Option DaemonFaultState

/-- The daemon's health counts. -/
structure DaemonHealthModel where
  transitionCount : Nat
  lastTransitionUnixNanos : Option Nat

/-- The part of `DaemonRuntimeConfig` that the runtime reads. -/
structure DaemonRuntimeConfig where
  mode : DaemonMode
  rollbackOnStop : Bool

/-- The daemon's runtime. -/
structure DaemonRuntime where
  config : DaemonRuntimeConfig
  phase : DaemonPhase
  state : DaemonState
  health : DaemonHealthModel

def DaemonRuntime.new (config : DaemonRuntimeConfig) : DaemonRuntime :=
  ⟨config, .init, ⟨config.mode, .init, none, none, none, none, [], none⟩, ⟨0, none⟩⟩

/-- `daemon_decision_state`. -/
def daemonDecisionState (decision reason : String) (now : Nat) : DaemonDecisionState :=
  ⟨decision, reason, some now, none, none, none, none, none⟩

/-- `replace_degraded_status`. -/
def replaceDegradedStatus (statuses : List DaemonDegradedStatus) (status : DaemonDegradedStatus) :
    List DaemonDegradedStatus :=
  statuses.filter (·.category ≠ status.category) ++ [status]

/-! ## Lifecycle events -/

/-- What may happen around the daemon. -/
inductive DaemonLifecycleEvent where
  | suspendDetected
  | resumeDetected (sleptMs : Nat)
  | gpuReset
  | compositorRestart
  | targetPidRestart (oldPid newPid : Nat)
  | targetExited (pid : Nat)
  | cgroupMoved
  | cpuTopologyChanged
  deriving DecidableEq

def DaemonLifecycleEvent.asStr : DaemonLifecycleEvent → String
  | suspendDetected => "suspend_detected"
  | resumeDetected _ => "resume_detected"
  | gpuReset => "gpu_reset"
  | compositorRestart => "compositor_restart"
  | targetPidRestart _ _ => "target_pid_restart"
  | targetExited _ => "target_exited"
  | cgroupMoved => "cgroup_moved"
  | cpuTopologyChanged => "cpu_topology_changed"

/-- What an event asks for. -/
inductive DaemonLifecycleAction where
  | pauseExperiments
  | rollbackActiveExperiment
  | flushJournal
  | refreshTopology
  | refreshTargetIdentity
  | refreshEbpfMaps
  | clearMeasurementWindows
  | waitStabilization
  | enterObserveOnly
  deriving DecidableEq

def DaemonLifecycleAction.asStr : DaemonLifecycleAction → String
  | pauseExperiments => "pause_experiments"
  | rollbackActiveExperiment => "rollback_active_experiment"
  | flushJournal => "flush_journal"
  | refreshTopology => "refresh_topology"
  | refreshTargetIdentity => "refresh_target_identity"
  | refreshEbpfMaps => "refresh_ebpf_maps"
  | clearMeasurementWindows => "clear_measurement_windows"
  | waitStabilization => "wait_stabilization"
  | enterObserveOnly => "enter_observe_only"

structure DaemonLifecyclePolicy where
  resumeStabilizationMs : Nat
  rollbackActiveExperimentOnSuspend : Bool
  rollbackActiveExperimentOnTargetChange : Bool

def DaemonLifecyclePolicy.default : DaemonLifecyclePolicy := ⟨10000, true, true⟩

/-- What the planner of a transition sees. -/
structure DaemonLifecycleInputs where
  hasActiveExperiment : Bool
  activeExperimentHasRollback : Bool
  event : DaemonLifecycleEvent

/-- A planned transition. -/
structure DaemonLifecycleTransition where
  event : DaemonLifecycleEvent
  actions : List DaemonLifecycleAction
  reasonCode : String
  reason : String
  stabilizationMs : Option Nat
  healthSuspendedOrResumed : Bool

def lifecycleReason : DaemonLifecycleEvent → String
  | .suspendDetected =>
    "system suspend detected; experiments must pause and journal state must flush"
  | .resumeDetected sleptMs =>
    s!"system resume detected after approximately {sleptMs}ms; measurements must stabilize"
  | .gpuReset => "GPU reset detected; current measurement windows are no longer comparable"
  | .compositorRestart =>
    "compositor restart detected; foreground and frame context must be refreshed"
  | .targetPidRestart oldPid newPid =>
    s!"target process restarted from pid {oldPid} to pid {newPid}"
  | .targetExited pid => s!"target process pid {pid} exited"
  | .cgroupMoved => "target cgroup changed; workload identity must be refreshed"
  | .cpuTopologyChanged => "CPU topology changed; candidates must be revalidated"

/-- The actions of `evaluate_daemon_lifecycle_event`. -/
def lifecycleActions (inputs : DaemonLifecycleInputs) (policy : DaemonLifecyclePolicy) :
    List DaemonLifecycleAction :=
  match inputs.event with
  | .suspendDetected =>
    [.pauseExperiments, .flushJournal] ++
      if policy.rollbackActiveExperimentOnSuspend && inputs.hasActiveExperiment &&
          inputs.activeExperimentHasRollback then [.rollbackActiveExperiment] else []
  | .resumeDetected _ =>
    [.refreshTopology, .refreshTargetIdentity, .refreshEbpfMaps, .clearMeasurementWindows,
      .waitStabilization]
  | .gpuReset | .compositorRestart =>
    [.pauseExperiments, .clearMeasurementWindows, .waitStabilization]
  | .targetPidRestart _ _ | .targetExited _ | .cgroupMoved =>
    [.refreshTargetIdentity, .clearMeasurementWindows] ++
      if policy.rollbackActiveExperimentOnTargetChange && inputs.hasActiveExperiment then
        if inputs.activeExperimentHasRollback then [.rollbackActiveExperiment]
        else [.enterObserveOnly]
      else []
  | .cpuTopologyChanged => [.refreshTopology, .clearMeasurementWindows, .enterObserveOnly]

/-- The transition an event asks for. -/
def evaluateDaemonLifecycleEvent (inputs : DaemonLifecycleInputs) (policy : DaemonLifecyclePolicy) :
    DaemonLifecycleTransition where
  event := inputs.event
  actions := lifecycleActions inputs policy
  reasonCode := inputs.event.asStr
  reason := lifecycleReason inputs.event
  stabilizationMs := match inputs.event with
    | .resumeDetected _ | .gpuReset | .compositorRestart => some policy.resumeStabilizationMs
    | _ => none
  healthSuspendedOrResumed := match inputs.event with
    | .suspendDetected | .resumeDetected _ => true
    | _ => false

def lifecyclePhaseForActions (actions : List DaemonLifecycleAction) (current : DaemonPhase) :
    DaemonPhase :=
  if actions.contains .rollbackActiveExperiment then .rollback
  else if actions.contains .enterObserveOnly then .observe
  else if actions.contains .pauseExperiments || actions.contains .waitStabilization then .paused
  else current

def lifecycleActionsLabel (actions : List DaemonLifecycleAction) : String :=
  if actions.isEmpty then "none" else ",".intercalate (actions.map (·.asStr))

/-! ## Events -/

/-- The monitor's events that the runtime looks at.  A task is its process and that one's name, in
the order of the map; the kind and the confidence of a focus are as they are printed. -/
inductive MonitorEvent where
  | targetSnapshot (activeTargets : List (Nat × String)) (removedTargets : Nat)
  | focusChanged (rootPids : List Nat) (memberPids : Nat) (newKind confidence : String)
  | focusCleared (reason : String)
  | dataQualityWarning (message : String)
  | finished (reason : String)
  | other

/-- What the runtime reads of a decision. -/
structure AutotuneDecisionStreamEntry where
  unixNanos : Nat
  phase : String
  mode : String
  focusKind : Option String
  targetRootPid : Option Nat
  activeTargetCount : Nat
  situation : String
  candidateCount : Nat
  topDeniedReason : Option String
  diagnosticRawScoreTotal : Nat
  decision : String
  reason : String

/-- What the runtime handles. -/
inductive DaemonRuntimeEvent where
  | initialized
  | recoveryCompleted
  | monitorEvent (event : MonitorEvent)
  | decision (entry : AutotuneDecisionStreamEntry)
  | lifecycle (event : DaemonLifecycleEvent)
  | shutdownRequested
  | fault (reason : String)

/-- `daemon_target_from_snapshot`. -/
def daemonTargetFromSnapshot (activeTargets : List (Nat × String)) : Option DaemonTargetState :=
  (activeTargets.map (·.1)).min?.map fun rootPid =>
    ⟨some rootPid, activeTargets.length, activeTargets.head?.map (·.2)⟩

/-- `daemon_target_from_decision`. -/
def daemonTargetFromDecision (decision : AutotuneDecisionStreamEntry) : Option DaemonTargetState :=
  if decision.targetRootPid.isNone && decision.activeTargetCount = 0 then none
  else some ⟨decision.targetRootPid, decision.activeTargetCount, decision.focusKind⟩

def recoveredPhaseForMode : DaemonMode → DaemonPhase
  | .observe => .observe
  | .suggest => .decide
  | .applyLowRisk | .applyMediumRisk | .applyHighRisk => .observe

def daemonPhaseFromDecisionLabel (value : String) : Option DaemonPhase :=
  if value = "Disabled" ∨ value = "disabled" then some .disabled
  else if value = "Observing" ∨ value = "observing" ∨ value = "observe" then some .observe
  else if value = "Planning" ∨ value = "planning" ∨ value = "decide" then some .decide
  else if value = "Applying" ∨ value = "applying" ∨ value = "apply" then some .apply
  else if value = "Measuring" ∨ value = "measuring" ∨ value = "measure" then some .measure
  else if value = "Keeping" ∨ value = "keeping" ∨ value = "keep" then some .keep
  else if value = "Reverting" ∨ value = "reverting" ∨ value = "rollback" then some .rollback
  else if value = "Cooldown" ∨ value = "cooldown" then some .cooldown
  else if value = "Faulted" ∨ value = "faulted" then some .faulted
  else none

def daemonModeFromDecisionLabel (value : String) : Option DaemonMode :=
  if value = "Observe" ∨ value = "observe" then some .observe
  else if value = "Suggest" ∨ value = "suggest" then some .suggest
  else if value = "ApplyLowRisk" ∨ value = "apply-low-risk" then some .applyLowRisk
  else if value = "ApplyMediumRisk" ∨ value = "apply-medium-risk" then some .applyMediumRisk
  else if value = "ApplyHighRisk" ∨ value = "apply-high-risk" then some .applyHighRisk
  else none

/-- A move of the phase. -/
structure DaemonTransition where
  source : DaemonPhase
  target : DaemonPhase
  reason : String
  unixNanos : Nat

namespace DaemonRuntime
variable (runtime : DaemonRuntime) (now : Nat)

def counted (health : DaemonHealthModel) : DaemonHealthModel :=
  ⟨min (health.transitionCount + 1) (2 ^ 64 - 1), some now⟩

/-- `transition_to`. -/
def transitionTo (next : DaemonPhase) (reason : String) : DaemonRuntime × DaemonTransition :=
  ({ runtime with
      phase := next
      state := { runtime.state with
        phase := next
        lastDecision := some (daemonDecisionState "daemon_transition" reason now)
        faulted :=
          if next = .faulted then some ⟨reason, some "stutter autotune restore"⟩ else none }
      health := counted now runtime.health },
    ⟨runtime.phase, next, reason, now⟩)

/-- What a lifecycle event asks for in this state. -/
def lifecycleTransition (event : DaemonLifecycleEvent) : DaemonLifecycleTransition :=
  evaluateDaemonLifecycleEvent
    { hasActiveExperiment := runtime.state.activeExperiment.isSome
      activeExperimentHasRollback := runtime.state.activeRollback.any (·.rollbackAvailable)
      event := event }
    .default

/-- `apply_lifecycle_transition`; the fault is left as it is. -/
def applyLifecycleTransition (transition : DaemonLifecycleTransition) : DaemonRuntime :=
  let nextPhase := lifecyclePhaseForActions transition.actions runtime.phase
  let label := lifecycleActionsLabel transition.actions
  let reason := transition.reason
  let state := { runtime.state with
    phase := nextPhase
    lastDecision := some (daemonDecisionState "daemon_lifecycle" reason now)
    degraded := replaceDegradedStatus runtime.state.degraded
      ⟨"lifecycle", s!"{reason}; actions={label}"⟩ }
  { runtime with
    phase := nextPhase
    state :=
      if transition.actions.contains .enterObserveOnly then
        { state with mode := .observe, activeExperiment := none, activeRollback := none }
      else state
    health := counted now runtime.health }

/-- `handle_lifecycle_event`, from `handle_event`. -/
def handleLifecycleEvent (event : DaemonLifecycleEvent) : DaemonRuntime × Option DaemonTransition :=
  let transition := runtime.lifecycleTransition event
  let next := runtime.applyLifecycleTransition now transition
  (next, if next.phase ≠ runtime.phase then some ⟨runtime.phase, next.phase, transition.reason, now⟩
    else none)

/-- The transition that follows the loss of an active experiment's target. -/
def rollbackFor (reason : String) : DaemonRuntime × Option DaemonTransition :=
  let (next, transition) := runtime.transitionTo now .rollback reason
  (next, some transition)

/-- `handle_monitor_event`. -/
def handleMonitorEvent : MonitorEvent → DaemonRuntime × Option DaemonTransition
  | .targetSnapshot activeTargets removedTargets =>
    let target := daemonTargetFromSnapshot activeTargets
    let next := { runtime with state := { runtime.state with activeTarget := target } }
    if target.isNone && runtime.state.activeExperiment.isSome then
      next.rollbackFor now
        s!"target snapshot lost active workload; removed_targets={removedTargets}"
    else (next, none)
  | .focusChanged rootPids memberPids newKind confidence =>
    let target : DaemonTargetState := ⟨rootPids.head?, max memberPids rootPids.length, some newKind⟩
    let next := { runtime with state := { runtime.state with activeTarget := some target } }
    if runtime.state.activeExperiment.isSome then
      next.rollbackFor now
        s!"focus changed during active experiment; new_kind={newKind} confidence={confidence}"
    else (next, none)
  | .focusCleared reason =>
    let next := { runtime with state := { runtime.state with activeTarget := none } }
    if runtime.state.activeExperiment.isSome then
      next.rollbackFor now s!"focus cleared during active experiment: {reason}"
    else
      ({ next with state := { next.state with
          lastDecision := some (daemonDecisionState "focus_cleared" reason now) } }, none)
  | .dataQualityWarning message =>
    ({ runtime with state := { runtime.state with
        degraded := replaceDegradedStatus runtime.state.degraded ⟨"data_quality", message⟩
        lastDecision := some (daemonDecisionState "data_quality_warning" message now) } }, none)
  | .finished reason =>
    let (next, transition) := runtime.transitionTo now .shutdown reason
    (next, some transition)
  | .other => (runtime, none)

/-- `handle_decision_event`. -/
def handleDecisionEvent (entry : AutotuneDecisionStreamEntry) :
    DaemonRuntime × Option DaemonTransition :=
  let nextPhase := (daemonPhaseFromDecisionLabel entry.phase).getD runtime.phase
  let decision := entry.decision
  let reason := entry.reason
  let state := { runtime.state with
    phase := nextPhase
    mode := (daemonModeFromDecisionLabel entry.mode).getD runtime.state.mode
    activeTarget := daemonTargetFromDecision entry
    lastDecision := some ⟨decision, reason, some entry.unixNanos,
      some entry.diagnosticRawScoreTotal, some entry.candidateCount, entry.topDeniedReason,
      some entry.situation, entry.focusKind⟩
    faulted :=
      if nextPhase = .faulted then some ⟨reason, some "stutter daemon emergency-restore"⟩
      else none }
  if nextPhase ≠ runtime.phase then
    ({ runtime with
        phase := nextPhase, state := state, health := counted entry.unixNanos runtime.health },
      some ⟨runtime.phase, nextPhase, s!"autotune decision={decision} reason={reason}",
        entry.unixNanos⟩)
  else ({ runtime with phase := nextPhase, state := state }, none)

/-- `handle_event`. -/
def handleEvent : DaemonRuntimeEvent → DaemonRuntime × Option DaemonTransition
  | .initialized => (runtime.transitionTo now .recover "daemon initialized").map id some
  | .recoveryCompleted =>
    (runtime.transitionTo now (recoveredPhaseForMode runtime.state.mode)
      "startup recovery complete").map id some
  | .monitorEvent event => runtime.handleMonitorEvent now event
  | .decision entry => runtime.handleDecisionEvent entry
  | .lifecycle event => runtime.handleLifecycleEvent now event
  | .shutdownRequested =>
    (runtime.transitionTo now .shutdown
      (if runtime.config.rollbackOnStop then "shutdown requested; rollback_on_stop enabled"
        else "shutdown requested; rollback_on_stop disabled")).map id some
  | .fault reason => (runtime.transitionTo now .faulted reason).map id some

/-- A run's step: an event and the time at which it is handled. -/
def step (runtime : DaemonRuntime) (event : Nat × DaemonRuntimeEvent) : Option DaemonRuntime :=
  some (runtime.handleEvent event.1 event.2).1

/-! ## Consistency -/

/-- The phase says whether there is a fault, and the state to persist has the same phase. -/
structure Consistent (runtime : DaemonRuntime) : Prop where
  faulted_iff : runtime.phase = .faulted ↔ runtime.state.faulted.isSome = true
  phase_eq : runtime.state.phase = runtime.phase

/-- The event leaves an active rollback where it is. -/
def KeepsRollback (runtime : DaemonRuntime) (event : Nat × DaemonRuntimeEvent) : Prop :=
  ∀ rollback, runtime.state.activeRollback = some rollback →
    (runtime.handleEvent event.1 event.2).1.state.activeRollback = some rollback

/-- No event starts an experiment, so there is none, and no rollback of one. -/
structure Idle (runtime : DaemonRuntime) : Prop where
  noExperiment : runtime.state.activeExperiment = none
  noRollback : runtime.state.activeRollback = none

end DaemonRuntime

/-- An event of the target, after which the phase stays where no experiment is active. -/
def DaemonLifecycleEvent.isTargetChange : DaemonLifecycleEvent → Bool
  | targetPidRestart _ _ | targetExited _ | cgroupMoved => true
  | _ => false

/-- A faulted runtime handles no lifecycle event but one of the target. -/
def Unlatched (runtime : DaemonRuntime) (event : Nat × DaemonRuntimeEvent) : Prop :=
  runtime.phase = .faulted →
    ∀ lifecycle, event.2 = .lifecycle lifecycle → lifecycle.isTargetChange = true

namespace DaemonRuntime
variable {runtime next : DaemonRuntime} {now : Nat}

theorem consistent_new (config : DaemonRuntimeConfig) : (DaemonRuntime.new config).Consistent :=
  ⟨iff_of_false nofun nofun, rfl⟩

theorem idle_new (config : DaemonRuntimeConfig) : (DaemonRuntime.new config).Idle := ⟨rfl, rfl⟩

theorem faulted_iff_of_if {phase : DaemonPhase} {fault : DaemonFaultState} :
    phase = .faulted ↔ (if phase = .faulted then some fault else none).isSome = true := by
  by_cases hfaulted : phase = .faulted
  · rw [if_pos hfaulted]
    exact iff_of_true hfaulted rfl
  · rw [if_neg hfaulted]
    exact iff_of_false hfaulted nofun

/-- The transition sets the phase and the fault together. -/
theorem transitionTo_consistent (phase : DaemonPhase) (reason : String) :
    (runtime.transitionTo now phase reason).1.Consistent :=
  ⟨faulted_iff_of_if, rfl⟩

/-- A change that is neither one of a phase nor one of the fault. -/
theorem Consistent.of_eq (h : runtime.Consistent) (hphase : next.phase = runtime.phase)
    (hstate : next.state.phase = runtime.state.phase)
    (hfaulted : next.state.faulted = runtime.state.faulted) : next.Consistent :=
  ⟨by rw [hphase, hfaulted]; exact h.faulted_iff, by rw [hstate, hphase]; exact h.phase_eq⟩

theorem Consistent.monitorEvent (h : runtime.Consistent) (event : MonitorEvent) :
    (runtime.handleMonitorEvent now event).1.Consistent := by
  cases event with
  | targetSnapshot activeTargets removedTargets =>
    simp only [handleMonitorEvent]
    split
    · exact transitionTo_consistent .rollback _
    · exact h.of_eq rfl rfl rfl
  | focusChanged rootPids memberPids newKind confidence =>
    simp only [handleMonitorEvent]
    split
    · exact transitionTo_consistent .rollback _
    · exact h.of_eq rfl rfl rfl
  | focusCleared reason =>
    simp only [handleMonitorEvent]
    split
    · exact transitionTo_consistent .rollback _
    · exact h.of_eq rfl rfl rfl
  | dataQualityWarning message => exact h.of_eq rfl rfl rfl
  | finished reason => exact transitionTo_consistent .shutdown reason
  | other => exact h

/-- A decision sets the phase and the fault together, whatever its labels say. -/
theorem decisionEvent_consistent (entry : AutotuneDecisionStreamEntry) :
    (runtime.handleDecisionEvent entry).1.Consistent := by
  simp only [handleDecisionEvent]
  split
  · exact ⟨faulted_iff_of_if, rfl⟩
  · exact ⟨faulted_iff_of_if, rfl⟩

theorem handleMonitorEvent_kept (runtime : DaemonRuntime) (now : Nat) (event : MonitorEvent) :
    let state := (runtime.handleMonitorEvent now event).1.state
    state.activeExperiment = runtime.state.activeExperiment ∧
      state.activeRollback = runtime.state.activeRollback := by
  cases event with
  | targetSnapshot activeTargets removedTargets =>
    simp only [handleMonitorEvent]
    split <;> exact ⟨rfl, rfl⟩
  | focusChanged rootPids memberPids newKind confidence =>
    simp only [handleMonitorEvent]
    split <;> exact ⟨rfl, rfl⟩
  | focusCleared reason =>
    simp only [handleMonitorEvent]
    split <;> exact ⟨rfl, rfl⟩
  | dataQualityWarning message => exact ⟨rfl, rfl⟩
  | finished reason => exact ⟨rfl, rfl⟩
  | other => exact ⟨rfl, rfl⟩

theorem handleDecisionEvent_kept (runtime : DaemonRuntime) (entry : AutotuneDecisionStreamEntry) :
    let state := (runtime.handleDecisionEvent entry).1.state
    state.activeExperiment = runtime.state.activeExperiment ∧
      state.activeRollback = runtime.state.activeRollback := by
  simp only [handleDecisionEvent]
  split <;> exact ⟨rfl, rfl⟩

/-- What a lifecycle event does: the phases move together, the fault stays, and the experiment and
its rollback stay unless its actions end the experiment. -/
theorem handleLifecycleEvent_eq (runtime : DaemonRuntime) (now : Nat)
    (event : DaemonLifecycleEvent) :
    let next := (runtime.handleLifecycleEvent now event).1
    let actions := (runtime.lifecycleTransition event).actions
    next.phase = lifecyclePhaseForActions actions runtime.phase ∧ next.state.phase = next.phase ∧
      next.state.faulted = runtime.state.faulted ∧
      (next.state.activeExperiment = runtime.state.activeExperiment ∧
          next.state.activeRollback = runtime.state.activeRollback ∨
        actions.contains .enterObserveOnly = true ∧ next.state.activeExperiment = none ∧
          next.state.activeRollback = none) := by
  simp only [handleLifecycleEvent, applyLifecycleTransition, true_and]
  by_cases hobserve : (runtime.lifecycleTransition event).actions.contains .enterObserveOnly = true
  · rw [if_pos hobserve]
    exact ⟨rfl, rfl, .inr ⟨hobserve, rfl, rfl⟩⟩
  · rw [if_neg hobserve]
    exact ⟨rfl, rfl, .inl ⟨rfl, rfl⟩⟩

/-- Where no experiment is active, the event alone says which phase follows. -/
theorem lifecyclePhase_of_idle (h : runtime.Idle) (event : DaemonLifecycleEvent) :
    lifecyclePhaseForActions (runtime.lifecycleTransition event).actions runtime.phase =
      if event.isTargetChange then runtime.phase
      else if event = .cpuTopologyChanged then .observe else .paused := by
  have hexperiment := h.noExperiment
  cases event <;>
    simp [lifecycleTransition, evaluateDaemonLifecycleEvent, lifecycleActions, hexperiment,
      lifecyclePhaseForActions, DaemonLifecycleEvent.isTargetChange]

theorem Idle.handleEvent (h : runtime.Idle) (event : DaemonRuntimeEvent) :
    (runtime.handleEvent now event).1.Idle := by
  cases event with
  | initialized => exact ⟨h.noExperiment, h.noRollback⟩
  | recoveryCompleted => exact ⟨h.noExperiment, h.noRollback⟩
  | shutdownRequested => exact ⟨h.noExperiment, h.noRollback⟩
  | fault reason => exact ⟨h.noExperiment, h.noRollback⟩
  | monitorEvent event =>
    obtain ⟨hexperiment, hrollback⟩ := handleMonitorEvent_kept runtime now event
    exact ⟨hexperiment.trans h.noExperiment, hrollback.trans h.noRollback⟩
  | decision entry =>
    obtain ⟨hexperiment, hrollback⟩ := handleDecisionEvent_kept runtime entry
    exact ⟨hexperiment.trans h.noExperiment, hrollback.trans h.noRollback⟩
  | lifecycle event =>
    obtain ⟨-, -, -, hkept⟩ := handleLifecycleEvent_eq runtime now event
    obtain ⟨hexperiment, hrollback⟩ | ⟨-, hexperiment, hrollback⟩ := hkept
    · exact ⟨hexperiment.trans h.noExperiment, hrollback.trans h.noRollback⟩
    · exact ⟨hexperiment, hrollback⟩

/-- An idle consistent runtime is consistent after an event iff the event does not move it past its
fault. -/
theorem Consistent.handleEvent_iff (h : runtime.Consistent) (hidle : runtime.Idle)
    (event : DaemonRuntimeEvent) :
    (runtime.handleEvent now event).1.Consistent ↔ Unlatched runtime (now, event) := by
  cases event with
  | initialized => exact iff_of_true (transitionTo_consistent .recover _) nofun
  | recoveryCompleted => exact iff_of_true (transitionTo_consistent _ _) nofun
  | monitorEvent event => exact iff_of_true (h.monitorEvent event) nofun
  | decision entry => exact iff_of_true (decisionEvent_consistent entry) nofun
  | shutdownRequested => exact iff_of_true (transitionTo_consistent .shutdown _) nofun
  | fault reason => exact iff_of_true (transitionTo_consistent .faulted reason) nofun
  | lifecycle event =>
    obtain ⟨hphase, hstate, hfaulted, -⟩ := handleLifecycleEvent_eq runtime now event
    rw [lifecyclePhase_of_idle hidle] at hphase
    constructor
    · rintro hnext hwas lifecycle ⟨⟩
      -- the fault is still there, so the phase has to be
      have hstill := hnext.faulted_iff.mpr (hfaulted ▸ h.faulted_iff.mp hwas)
      by_contra hother
      rw [show (runtime.handleEvent now (.lifecycle event)).1.phase = _ from hphase,
        if_neg hother] at hstill
      split at hstill <;> contradiction
    · intro hunlatched
      refine ⟨?_, hstate⟩
      show (runtime.handleLifecycleEvent now event).1.phase = _ ↔
        (runtime.handleLifecycleEvent now event).1.state.faulted.isSome = true
      rw [hphase, hfaulted, ← h.faulted_iff]
      by_cases htarget : event.isTargetChange = true
      · rw [if_pos htarget]
      · rw [if_neg htarget]
        refine iff_of_false ?_ fun hwas => htarget (hunlatched hwas event rfl)
        split <;> nofun

/-- Every event can be handled, so every run goes to its end. -/
theorem run_step (runtime : DaemonRuntime) (events : List (Nat × DaemonRuntimeEvent)) :
    GuardedRun.run step runtime events =
      some (events.foldl (fun runtime event => (runtime.handleEvent event.1 event.2).1)
        runtime) := by
  induction events generalizing runtime with
  | nil => rfl
  | cons event rest ih => exact ih _

open GuardedRun

/-- In every run from the initial runtime the states are all consistent, and no active rollback is
removed, iff no faulted runtime handles a lifecycle event but one of the target. -/
theorem always_consistent_iff (config : DaemonRuntimeConfig)
    (events : List (Nat × DaemonRuntimeEvent)) :
    Always step Consistent (.new config) events ∧
        Meets step KeepsRollback (.new config) events ↔
      Meets step Unlatched (.new config) events := by
  have hidle : Always step Idle (.new config) events :=
    .of_step (fun runtime event next h hnext => Option.some.inj hnext ▸ h.handleEvent event.2)
      (idle_new config)
  have hrollback : Meets step KeepsRollback (.new config) events :=
    hidle.meets fun runtime event h rollback hsome => nomatch h.noRollback.symm.trans hsome
  have hiff : Always step (fun runtime => runtime.Consistent ∧ runtime.Idle)
      (.new config)
      events ↔ Meets step Unlatched (.new config) events := by
    refine always_iff ?_ ?_ ⟨consistent_new config, idle_new config⟩ (run_step _ events)
    · rintro runtime event next ⟨h, hidle⟩ hunlatched hnext
      obtain rfl := Option.some.inj hnext
      exact ⟨(h.handleEvent_iff hidle event.2).mpr hunlatched, hidle.handleEvent event.2⟩
    · rintro runtime event next ⟨h, hidle⟩ hlatched hnext ⟨hafter, -⟩
      obtain rfl := Option.some.inj hnext
      exact hlatched ((h.handleEvent_iff hidle event.2).mp hafter)
  constructor
  · rintro ⟨hconsistent, -⟩
    exact hiff.mp (hconsistent.and hidle)
  · intro hunlatched
    exact ⟨(hiff.mpr hunlatched).mono fun _ h => h.1, hrollback⟩

/-- A suspend leaves a faulted runtime paused, with its fault. -/
theorem suspendedWhileFaulted_inconsistent :
    ¬ Always step Consistent (.new ⟨.observe, false⟩)
      [(1, .fault "apply failed"), (2, .lifecycle .suspendDetected)] := by
  intro h
  have hpaused := ((h.2 _ rfl).2 _ rfl).faulted_iff.mpr rfl
  exact absurd hpaused (by decide)

end DaemonRuntime

end Stutter.Daemon.Runtime

import StutterProof.ActiveConfig
import StutterProof.AgentAuth
import StutterProof.DaemonStore
import StutterProof.EmergencyRestore
import StutterProof.PolicyEvaluation

/-! # The agent's handlers

The agent keeps a recording, an autotune controller and one record of the daemon's state.  A handler
reads and replaces these; what it learns from outside (clocks, probes, files, the end of a task, the
outcome of a restore) is the `World` of the request.  Each handler runs as one step here. -/
namespace Stutter.Agent
open Daemon (DaemonPhase DaemonDecisionState DaemonFaultState)

/-! ## The daemon's state as the agent keeps it -/

/-- The daemon's target. -/
structure DaemonTargetState where
  rootPid : Option Nat
  activeTargets : Nat
  comm : Option String
  deriving DecidableEq

structure DaemonState extends Daemon.DaemonState where
  activeTarget : Option DaemonTargetState
  deriving DecidableEq

def DaemonState.default : DaemonState := { Daemon.DaemonState.default with activeTarget := none }

def DaemonState.isFaulted (state : DaemonState) : Bool := state.faulted.isSome

/-- `daemon_decision_state`. -/
def daemonDecisionState (decision reason : String) (now : Nat) : DaemonDecisionState :=
  ⟨decision, reason, some now⟩

def emergencyRestoreCommand : String := "stutter daemon emergency-restore"

/-- `daemon_state_for_agent_decision`. -/
def daemonStateForAgentDecision (mode : DaemonMode) (phase : DaemonPhase) (decision reason : String)
    (now : Nat) : DaemonState :=
  { DaemonState.default with
    mode, phase, lastDecision := some (daemonDecisionState decision reason now) }

/-- `daemon_state_for_agent_fault`. -/
def daemonStateForAgentFault (mode : DaemonMode) (decision reason : String) (now : Nat) :
    DaemonState :=
  { DaemonState.default with
    mode
    phase := .faulted
    lastDecision := some (daemonDecisionState decision reason now)
    degraded := [⟨"agent", reason⟩]
    faulted := some ⟨reason, some emergencyRestoreCommand⟩ }

/-! ## Tasks -/

/-- An `anyhow` error as it is printed by `{}` and by `{:#}`. -/
structure ErrorText where
  plain : String
  alternate : String
  deriving DecidableEq

/-- What `join.await` gives: the task's own result, or that it panicked or was cancelled. -/
inductive Join (α : Type) where
  | done (value : α)
  | failed (error : ErrorText)
  | joinError (error : String)
  deriving DecidableEq

def Join.isDone {α : Type} : Join α → Bool
  | .done _ => true
  | _ => false

/-- The last entry of a controller's decision stream. -/
structure AutotuneDecision where
  decision : String
  reason : String
  unixNanos : Nat
  deriving DecidableEq

/-- How a controller ended. -/
structure AutotuneControllerExit where
  reason : String
  lastDecision : Option AutotuneDecision
  deriving DecidableEq

/-- A recording task; `finished` is its result once it has ended. -/
structure RunHandle where
  id : String
  finished : Option (Join String)

/-- A running controller. -/
structure AutotuneControllerHandle where
  mode : String
  watchProcess : Option String
  treePid : Option Nat
  startedUnixNanos : Nat
  finished : Option (Join AutotuneControllerExit)
  deriving DecidableEq

structure AgentLimits where
  maxDurationSeconds : Nat
  maxTargets : Nat

/-- The state the handlers share. -/
structure AgentState where
  activeRun : Option RunHandle
  activeAutotune : Option AutotuneControllerHandle
  daemonState : DaemonState
  auth : AgentAuth
  listener : Listener
  limits : AgentLimits
  autotuneLimits : AgentAutotuneLimits

/-! ## Requests and the world -/

/-- The body of `POST /record/start`. -/
structure RemoteMonitorRequest where
  targetPids : List Nat
  treePids : List Nat
  excludeTreePids : List Nat
  durationSeconds : Option Nat
  spikeUs : Option Nat
  summaryMs : Option Nat
  includeComm : List String
  runtimeSlicesMaxTasks : Option Nat
  irqLatency : Bool
  irqs : List Nat
  focusSource : Option String
  foregroundSource : Option String
  foregroundPollMs : Option Nat
  foregroundIncludeTitle : Bool

/-- The body of `POST /autotune/start`. -/
structure AutotuneStartRequest where
  mode : String
  watchProcess : Option String
  treePid : Option Nat
  profiles : Option String
  durationSeconds : Option Nat
  autoFocus : Bool

/-- The routes of `build_agent_router`. -/
inductive Request where
  | health | version | capabilities
  | recordStart (request : RemoteMonitorRequest) | recordStop | recordStatus
  | autotuneStatus | autotuneStart (request : AutotuneStartRequest) | autotuneStop
  | autotuneRestore | autotuneHistory | autotuneConfig
  | daemonStatus | daemonHealth | daemonPolicy | daemonExplain
  | daemonPause | daemonResume | daemonRestore
  | runs | session (id : String) | artifact (id name : String)

structure ProfileRestoreSummary where
  affinity : Nat
  nice : Nat
  ionice : Nat
  skippedDead : Nat
  skippedIdentityMismatch : Nat
  legacyUnverified : Nat
  errors : Nat

/-- `ProfileRestoreCommandOutcome`: `found` is `found_any`. -/
structure ProfileRestoreOutcome where
  found : Bool
  summary : ProfileRestoreSummary
  messages : List String

/-- The bodies of the answers. -/
inductive Body where
  | empty
  | error (text : String)
  | recordStarted (runId : String)
  | recordStopped (runId : Option String) (status : String)
  | recordStatus (active : Bool) (runId : Option String)
  | autotuneStarted (mode message : String)
  | autotuneStopped (status message : String)
  | autotuneRestore (status message : String) (outcome : AutotuneRestoreOutcome)
  | autotuneStatus (handle : Option AutotuneControllerHandle) (daemonState : DaemonState)
  | daemonStatus (activeRecording activeAutotune : Bool) (daemonState : DaemonState)
  | daemonView (daemonState : DaemonState)
  | control (ok : Bool) (phase : DaemonPhase) (message : String) (restoreMessages : List String)
  | served (text : String)
  deriving DecidableEq

structure Response where
  status : StatusCode
  body : Body
  deriving DecidableEq

/-- What a request finds outside the agent's state. -/
structure World where
  nowUnixNanos : Nat
  capabilities : DaemonCapabilities
  healthOkForApply : Bool
  healthReasonCode : Option String
  /-- The text of a rejection, and a string as `{:?}` prints it. -/
  rejectionText : PolicyRejection → String
  debugText : String → String
  runId : String
  /-- `monitor_config_from_remote_request`, `autotune_monitor_config` and `load_profiles`. -/
  recordConfig : Except String Unit
  autotuneConfig : Except String Unit
  loadProfiles : Except String Unit
  /-- The ends of tasks that were still running when they were told to stop. -/
  runJoin : Join String
  autotuneJoin : Join AutotuneControllerExit
  restoreAutotune : Except String AutotuneRestoreOutcome
  restoreProfiles : Except String ProfileRestoreOutcome
  /-- The profile records that are saved for a restore. -/
  profileRecords : Nat
  /-- What a handler answers that looks only at files and at the agent's configuration. -/
  served : Response

/-! ## Replacing the daemon's state -/

section
variable (world : World) (state : AgentState)

/-- `replace_agent_daemon_state`. -/
def replaceAgentDaemonState (daemonState : DaemonState) : AgentState := { state with daemonState }

/-- `mark_agent_daemon_fault`. -/
def markAgentDaemonFault (mode : DaemonMode) (decision reason : String) : AgentState :=
  replaceAgentDaemonState state (daemonStateForAgentFault mode decision reason world.nowUnixNanos)

/-- `mark_agent_daemon_policy_rejection`: the fault is set in place. -/
def markAgentDaemonPolicyRejection (mode : DaemonMode) (decision reason : String) : AgentState :=
  replaceAgentDaemonState state { state.daemonState with
    mode
    phase := .faulted
    lastDecision := some (daemonDecisionState decision reason world.nowUnixNanos)
    degraded := state.daemonState.degraded ++ [⟨"agent", reason⟩]
    faulted := some ⟨reason, some emergencyRestoreCommand⟩ }

end

/-- `daemon_mode_from_agent_mode`. -/
def daemonModeFromAgentMode : String → DaemonMode
  | "suggest" => .suggest
  | "apply-low-risk" => .applyLowRisk
  | "apply-medium-risk" => .applyMediumRisk
  | "apply-high-risk" => .applyHighRisk
  | _ => .observe

/-- `DaemonMode::from_str`. -/
def parseDaemonMode : String → Except PolicyRejection DaemonMode
  | "observe" => .ok .observe
  | "suggest" => .ok .suggest
  | "apply-low-risk" => .ok .applyLowRisk
  | "apply-medium-risk" => .ok .applyMediumRisk
  | "apply-high-risk" => .ok .applyHighRisk
  | other => .error (.unsupportedMode other)

/-! ## Whether a remote controller may start -/

structure AutotuneStartSecurityRejection where
  status : StatusCode
  auditMessage : String
  responseMessage : String

/-- `safety_class_for_daemon_mode`. -/
def safetyClassForDaemonMode : DaemonMode → SafetyClass
  | .observe | .suggest => .observeOnly
  | .applyLowRisk => .reversibleLowRisk
  | .applyMediumRisk => .reversibleMediumRisk
  | .applyHighRisk => .highRisk

/-- `supported_remote_modes`. -/
def supportedRemoteModes (limits : AgentAutotuneLimits) : List DaemonMode :=
  let admits (mode : DaemonMode) : Bool :=
    decide (mode.rank ≤ limits.maxMode.rank) &&
      decide ((safetyClassForDaemonMode mode).rank ≤ limits.maxSafetyClass.rank)
  [.observe, .suggest] ++ (if admits .applyLowRisk then [.applyLowRisk] else []) ++
    (if admits .applyMediumRisk then [.applyMediumRisk] else []) ++
    (if admits .applyHighRisk && limits.allowHighRisk then [.applyHighRisk] else [])

def remoteModeSupported (limits : AgentAutotuneLimits) (mode : DaemonMode) : Bool :=
  (supportedRemoteModes limits).contains mode

/-- `daemon_config_for_runtime_mode`. -/
def daemonConfigForRuntimeMode (mode : DaemonMode) (source : ActionSource) (treePid : Option Nat)
    (watchProcess : Option String) : DaemonConfig where
  mode := mode
  source := source
  target := ⟨[], treePid.toList, watchProcess⟩
  safety := ⟨[], [], ⟨[]⟩, false, false, false, false, defaultMinFocusConfidence⟩
  remote := ⟨false, true, false⟩
  autotune := ⟨false, false, false, false, false, .defaults⟩

/-- `daemon_policy_for_remote_mode`. -/
def daemonPolicyForRemoteMode (mode : DaemonMode) (state : AgentState)
    (request : AutotuneStartRequest) (remoteContext : RemotePolicyContext) : DaemonPolicy :=
  let base := daemonConfigForRuntimeMode mode .remoteAgent request.treePid request.watchProcess
  let limits := state.autotuneLimits
  buildDaemonPolicy { base with
    remote := { base.remote with allowRemoteApply := mode.supportsApply }
    safety := { base.safety with
      allowHighRisk := limits.allowHighRisk && decide (mode = .applyHighRisk)
      allowSystemWideSuggestions := limits.allowSystemWideSuggestions
      allowSystemWideApply := limits.allowSystemWideApply } } (some remoteContext)

/-- `remote_autotune_start_descriptor`. -/
def remoteAutotuneStartDescriptor (mode : DaemonMode) (request : AutotuneStartRequest) :
    ActionDescriptor where
  actionId := s!"remote-autotune-start:{mode.asStr}"
  actionKind := "remote-autotune-start"
  safetyClass := safetyClassForDaemonMode mode
  effectScope := if mode.supportsApply then .localProcessTree else .observeOnly
  rollback := if mode.supportsApply then .requiredBeforeApply else .notRequiredForDryRun
  persistentEffect := false
  touchesSystemWideState := false
  requiresExplicitTarget := mode.supportsApply && request.treePid.isNone &&
    request.watchProcess.isNone && !request.autoFocus
  confidence := some (.finite 1)

/-- `policy_rejection_status`. -/
def policyRejectionStatus (authError : Option StatusCode) : PolicyRejection → StatusCode
  | .remoteApplyRequiresConfiguredAuth => .unauthorized
  | .remoteApplyRequiresAuthorizedRequest => authError.getD .unauthorized
  | .remoteApplyRequiresLoopbackBind | .highRiskRequiresExplicitOptIn => .forbidden
  | _ => .badRequest

/-- `policy_context_from_daemon_status`.  The fault is not among the things it looks at. -/
def policyContextFromDaemonStatus (world : World) (daemonState : DaemonState) :
    DaemonPolicyContext where
  dataQualityOk := daemonState.degraded.all (·.category != "data_quality")
  dataQualityReasonCode :=
    ((daemonState.degraded.filter (·.category == "data_quality")).getLast?).map (·.message)
  systemHealthOk := world.healthOkForApply
  systemHealthReasonCode := world.healthReasonCode
  workloadStable := daemonState.degraded.all fun degraded =>
    !(["workload_identity", "workload_stability", "target_identity"].contains degraded.category)
  cooldownActive := daemonState.cooldownUntilUnixNanos.any (world.nowUnixNanos < ·)
  rollbackPending := daemonState.activeRollback.isSome
  capabilities := some world.capabilities

def policyIntentForMode : DaemonMode → PolicyIntent
  | .observe => .observe
  | .suggest => .suggest
  | .applyLowRisk | .applyMediumRisk | .applyHighRisk => .apply

/-- `policy_for_remote_autotune_start_with_safety_context`. -/
def policyForRemoteAutotuneStart (world : World) (state : AgentState) (header : AuthHeader)
    (request : AutotuneStartRequest) : Except AutotuneStartSecurityRejection DaemonPolicy :=
  let rawMode := ActiveConfig.trimmed request.mode
  match parseDaemonMode rawMode with
  | .error rejection => .error ⟨.badRequest,
      s!"rejected remote autotune mode={rawMode}: {world.rejectionText rejection}",
      "unsupported remote autotune mode; use observe, suggest, or apply-low-risk"⟩
  | .ok mode =>
    let refused (status : StatusCode) (reason : String) : AutotuneStartSecurityRejection :=
      ⟨status, s!"rejected remote autotune mode={mode.asStr}: {reason}", reason⟩
    let needsToken := "remote autotune apply mode requires a configured bearer token"
    let badToken := "remote autotune apply mode requires a valid bearer token"
    if mode.supportsApply && !state.auth.applyTokenConfigured then
      .error (refused .unauthorized needsToken)
    else
      match authorizeRemoteAutotuneStart header state.listener state.auth with
      | .error status =>
        .error (refused status (if mode.supportsApply then badToken else "unauthorized"))
      | .ok () =>
        if mode.supportsApply && !remoteModeSupported state.autotuneLimits mode then
          .error (refused .badRequest (world.rejectionText (.remoteModeNotAllowed mode)))
        else
          let policy := daemonPolicyForRemoteMode mode state request
            ⟨state.listener.isLocal, state.auth.anyTokenConfigured, true, state.autotuneLimits⟩
          let descriptor := remoteAutotuneStartDescriptor mode request
          let intent := policyIntentForMode mode
          let judged (record : PolicyRecord) : Except AutotuneStartSecurityRejection Unit :=
            match record.firstRejection with
            | none => .ok ()
            | some rejection => .error (refused (policyRejectionStatus none rejection)
                (world.rejectionText rejection))
          match judged (explainAction policy intent descriptor) with
          | .error rejection => .error rejection
          | .ok () =>
            match judged (explainActionWithContext policy intent descriptor
              (policyContextFromDaemonStatus world state.daemonState)) with
            | .error rejection => .error rejection
            | .ok () => .ok policy

/-- `validate_autotune_start_limits`. -/
def validateAutotuneStartLimits (request : AutotuneStartRequest) (limits : AgentAutotuneLimits) :
    Except String Unit :=
  if limits.maxActiveControllers ≠ 1 then
    .error "remote autotune supports exactly one active controller"
  else if limits.allowSystemWideApply then
    .error "remote autotune system-wide apply is disabled by default"
  else if request.watchProcess.isNone && request.treePid.isNone && !request.autoFocus then
    .error "autotune start requires watch_process, tree_pid, or auto_focus"
  else
    match request.durationSeconds.filter (limits.maxCandidateWindowSeconds < ·) with
    | some duration => .error (s!"autotune duration_seconds {duration} exceeds " ++
        s!"max_candidate_window_seconds {limits.maxCandidateWindowSeconds}")
    | none => .ok ()

/-! ## Recording requests -/

def asciiLower (text : String) : String := String.ofList (text.toList.map Char.toLower)

/-- `parse_remote_focus_source`. -/
def parseRemoteFocusSource (world : World) (value : Option String) : Except String Unit :=
  let source := asciiLower (ActiveConfig.trimmed (value.getD "heuristic"))
  if ["heuristic", "foreground", "hybrid"].contains source then .ok ()
  else .error
    s!"focus_source must be heuristic, foreground, or hybrid, got {world.debugText source}"

/-- `parse_remote_foreground_source`. -/
def parseRemoteForegroundSource (world : World) (value : Option String) : Except String Unit :=
  let source := asciiLower (ActiveConfig.trimmed (value.getD "auto"))
  if ["auto", "sway", "hyprland", "gnome", "kde", "plasma", "x11"].contains source then .ok ()
  else .error ("foreground_source must be auto, sway, hyprland, gnome, kde, or x11, got " ++
    world.debugText source)

/-- `validate_remote_request_limits`. -/
def validateRemoteRequestLimits (world : World) (request : RemoteMonitorRequest)
    (limits : AgentLimits) : Except String Unit := do
  let duration := request.durationSeconds.getD limits.maxDurationSeconds
  let targetCount :=
    request.targetPids.length + request.treePids.length + request.excludeTreePids.length
  if duration = 0 then throw "duration_seconds must be greater than zero"
  if limits.maxDurationSeconds < duration then
    throw (s!"duration_seconds {duration} exceeds agent max_duration_seconds " ++
      toString limits.maxDurationSeconds)
  if targetCount = 0 then
    throw "remote recording requires at least one target pid or tree pid"
  if limits.maxTargets < targetCount then
    throw s!"target count {targetCount} exceeds agent max_targets {limits.maxTargets}"
  if request.summaryMs = some 0 then throw "summary_ms must be greater than zero"
  if request.runtimeSlicesMaxTasks = some 0 then
    throw "runtime_slices_max_tasks must be greater than zero"
  if request.spikeUs = some 0 then throw "spike_us must be greater than zero"
  if request.irqLatency && request.irqs.isEmpty then
    throw "irq_latency requires explicit IRQ list"
  parseRemoteFocusSource world request.focusSource
  parseRemoteForegroundSource world request.foregroundSource
  if request.foregroundPollMs.any (· < 100) then throw "foreground_poll_ms must be >= 100"

/-- `daemon_target_from_record_request`. -/
def daemonTargetFromRecordRequest (request : RemoteMonitorRequest) : Option DaemonTargetState :=
  let rootPid := request.treePids.head?.or request.targetPids.head?
  let activeTargets := request.targetPids.length + request.treePids.length
  let comm := request.includeComm.head?
  if rootPid.isNone && activeTargets == 0 && comm.isNone then none
  else some ⟨rootPid, activeTargets, comm⟩

/-- `daemon_state_for_record_start`. -/
def daemonStateForRecordStart (request : RemoteMonitorRequest) (runId : String)
    (targetCount now : Nat) : DaemonState :=
  { DaemonState.default with
    mode := .observe
    phase := .observe
    activeTarget := daemonTargetFromRecordRequest request
    lastDecision := some (daemonDecisionState "record_started"
      s!"remote recording run_id={runId} target_count={targetCount}" now) }

/-- What reaping a recording found. -/
inductive ReapStatus where
  | noneActive | stillActive | completed | failed

section Handlers
variable (world : World) (state : AgentState) (header : AuthHeader)

/-- The daemon's state after a recording task has ended. -/
def recordEnded (id decision : String) (state : AgentState) (failure : ErrorText → String) :
    Join String → AgentState
  | .done _ => replaceAgentDaemonState state
      (daemonStateForAgentDecision .observe .disabled decision s!"run_id={id}" world.nowUnixNanos)
  | .failed error =>
    markAgentDaemonFault world state .observe "record_failed" s!"run_id={id} error={failure error}"
  | .joinError error =>
    markAgentDaemonFault world state .observe "record_join_failed"
      s!"run_id={id} join_error={error}"

/-- `reap_finished_recording`. -/
def reapFinishedRecording : AgentState × ReapStatus :=
  match state.activeRun with
  | none => (state, .noneActive)
  | some handle =>
    match handle.finished with
    | none => (state, .stillActive)
    | some join =>
      (recordEnded world handle.id "record_completed" { state with activeRun := none }
        (·.alternate) join, if join.isDone then .completed else .failed)

/-- `start_record_handler`. -/
def startRecordHandler (request : RemoteMonitorRequest) : AgentState × Response :=
  let fault (state : AgentState) (status : StatusCode) (decision reason : String) :
      AgentState × Response :=
    (markAgentDaemonFault world state .observe decision reason, ⟨status, .error reason⟩)
  match authorizeAgentPrivilegedOperation header state.listener state.auth .startRecording with
  | .error status =>
    (markAgentDaemonFault world state .observe "record_start_rejected" "unauthorized",
      ⟨status, .empty⟩)
  | .ok () =>
    if request.foregroundIncludeTitle && !state.listener.isLocal then
      (state, ⟨.forbidden,
        .error "foreground_include_title requires loopback tcp or unix socket transport"⟩)
    else
      match validateRemoteRequestLimits world request state.limits with
      | .error e => fault state .badRequest "record_limit_rejected" s!"limit rejected: {e}"
      | .ok () =>
        let state := (reapFinishedRecording world state).1
        if state.activeRun.isSome then
          fault state .conflict "record_start_conflict" "a recording run is already active"
        else
          match world.recordConfig with
          | .error e =>
            fault state .badRequest "record_config_error" s!"invalid configuration: {e}"
          | .ok () =>
            let targetCount := request.targetPids.length + request.treePids.length +
              request.excludeTreePids.length
            (replaceAgentDaemonState { state with activeRun := some ⟨world.runId, none⟩ }
              (daemonStateForRecordStart request world.runId targetCount world.nowUnixNanos),
              ⟨.ok, .recordStarted world.runId⟩)

/-- `stop_record_handler`. -/
def stopRecordHandler : AgentState × Response :=
  match authorizeAgentPrivilegedOperation header state.listener state.auth .stopRecording with
  | .error status => (state, ⟨status, .empty⟩)
  | .ok () =>
    match state.activeRun with
    | none =>
      (replaceAgentDaemonState state (daemonStateForAgentDecision .observe .disabled
        "record_stop_no_active_run" "no active recording run" world.nowUnixNanos),
        ⟨.ok, .recordStopped none "no_active_run"⟩)
    | some handle =>
      let join := handle.finished.getD world.runJoin
      (recordEnded world handle.id "record_stopped" { state with activeRun := none } (·.plain) join,
        match join with
        | .done _ => ⟨.ok, .recordStopped (some handle.id) "stopped"⟩
        | .failed error => ⟨.internalServerError, .error s!"recording failed: {error.plain}"⟩
        | .joinError error => ⟨.internalServerError, .error s!"task join failed: {error}"⟩)

/-- `status_handler` of the recording. -/
def recordStatusHandler : AgentState × Response :=
  match authorize header state.auth with
  | .error status => (state, ⟨status, .empty⟩)
  | .ok () =>
    let state := (reapFinishedRecording world state).1
    (state, ⟨.ok, .recordStatus state.activeRun.isSome (state.activeRun.map (·.id))⟩)

/-! ## Autotune requests -/

/-- `daemon_state_for_autotune_stop`. -/
def daemonStateForAutotuneStop (mode : DaemonMode) (exit : AutotuneControllerExit) (now : Nat) :
    DaemonState :=
  { DaemonState.default with
    mode
    phase := .disabled
    lastDecision := some (match exit.lastDecision with
      | some decision => ⟨decision.decision,
          s!"stopped: {exit.reason}; last_reason={decision.reason}", some decision.unixNanos⟩
      | none => daemonDecisionState "autotune_stopped" exit.reason now) }

/-- The daemon's state after a controller has ended. -/
def autotuneEnded (mode : DaemonMode) (state : AgentState) :
    Join AutotuneControllerExit → AgentState
  | .done exit =>
    replaceAgentDaemonState state (daemonStateForAutotuneStop mode exit world.nowUnixNanos)
  | .failed error => markAgentDaemonFault world state mode "autotune_controller_failed"
      s!"autotune controller failed: {error.alternate}"
  | .joinError error => markAgentDaemonFault world state mode "autotune_controller_join_failed"
      s!"autotune controller task join failed: {error}"

/-- `reap_finished_autotune`. -/
def reapFinishedAutotune : AgentState × ReapStatus :=
  match state.activeAutotune with
  | none => (state, .noneActive)
  | some handle =>
    match handle.finished with
    | none => (state, .stillActive)
    | some join =>
      (autotuneEnded world (daemonModeFromAgentMode handle.mode) { state with
        activeAutotune := none }
        join, if join.isDone then .completed else .failed)

/-- `daemon_target_from_autotune_request`. -/
def daemonTargetFromAutotuneRequest (request : AutotuneStartRequest) : Option DaemonTargetState :=
  let activeTargets :=
    request.treePid.isSome.toNat + request.watchProcess.isSome.toNat + request.autoFocus.toNat
  if request.treePid.isNone && activeTargets == 0 && request.watchProcess.isNone then none
  else some ⟨request.treePid, activeTargets, request.watchProcess⟩

/-- `daemon_phase_for_started_mode`. -/
def daemonPhaseForStartedMode : DaemonMode → DaemonPhase
  | .observe => .observe
  | .suggest => .decide
  | .applyLowRisk | .applyMediumRisk | .applyHighRisk => .apply

/-- `daemon_state_for_autotune_start`. -/
def daemonStateForAutotuneStart (policy : DaemonPolicy) (request : AutotuneStartRequest)
    (startedUnixNanos now : Nat) : DaemonState :=
  let actionId := s!"remote-autotune-start:{policy.mode.asStr}"
  { DaemonState.default with
    mode := policy.mode
    phase := daemonPhaseForStartedMode policy.mode
    activeTarget := daemonTargetFromAutotuneRequest request
    activeExperiment := some ⟨s!"remote-autotune-{startedUnixNanos}", actionId⟩
    activeRollback := if policy.mode.supportsApply then some ⟨actionId⟩ else none
    lastDecision := some (daemonDecisionState "autotune_started"
      s!"remote autotune {policy.mode.asStr} controller started" now) }

/-- `remote_autotune_start_message`. -/
def remoteAutotuneStartMessage (mode : DaemonMode) : String :=
  if mode = .applyLowRisk then
    "remote autotune apply-low-risk controller started; apply modes are enabled"
  else "remote autotune observe/suggest controller started; apply modes remain disabled"

/-- `autotune_start_handler`. -/
def autotuneStartHandler (request : AutotuneStartRequest) : AgentState × Response :=
  let fault (state : AgentState) (status : StatusCode) (mode : DaemonMode)
      (decision reason : String) : AgentState × Response :=
    (markAgentDaemonFault world state mode decision reason, ⟨status, .error reason⟩)
  match policyForRemoteAutotuneStart world state header request with
  | .error rejection =>
    (markAgentDaemonPolicyRejection world state (daemonModeFromAgentMode request.mode)
      "autotune_policy_rejected" rejection.auditMessage,
      ⟨rejection.status, .error rejection.responseMessage⟩)
  | .ok policy =>
    match validateAutotuneStartLimits request state.autotuneLimits with
    | .error e => fault state .badRequest (daemonModeFromAgentMode request.mode)
        "autotune_limit_rejected" s!"autotune limit rejected: {e}"
    | .ok () =>
      let state := (reapFinishedAutotune world state).1
      if state.activeAutotune.isSome then
        fault state .conflict policy.mode "autotune_start_conflict"
          "an autotune session is already active"
      else
        match world.autotuneConfig with
        | .error e => fault state .badRequest policy.mode "autotune_config_error"
            s!"invalid autotune configuration: {e}"
        | .ok () =>
          match (if request.profiles.isSome then world.loadProfiles else .ok ()) with
          | .error e => fault state .badRequest policy.mode "autotune_profile_load_error"
              s!"failed to load profiles: {e}"
          | .ok () =>
            let handle : AutotuneControllerHandle := ⟨policy.mode.asStr, request.watchProcess,
              request.treePid, world.nowUnixNanos, none⟩
            (replaceAgentDaemonState { state with activeAutotune := some handle }
              (daemonStateForAutotuneStart policy request world.nowUnixNanos world.nowUnixNanos),
              ⟨.ok, .autotuneStarted policy.mode.asStr (remoteAutotuneStartMessage policy.mode)⟩)

/-- `autotune_stop_handler`. -/
def autotuneStopHandler : AgentState × Response :=
  match authorizeAgentPrivilegedOperation header state.listener state.auth .controlDaemon with
  | .error status => (state, ⟨status, .empty⟩)
  | .ok () =>
    match state.activeAutotune with
    | none =>
      (replaceAgentDaemonState state (daemonStateForAgentDecision .observe .disabled
        "autotune_stop_no_active_session" "no remote autotune session was active"
        world.nowUnixNanos),
        ⟨.ok, .autotuneStopped "no_active_session" "no remote autotune session was active"⟩)
    | some handle =>
      let join := handle.finished.getD world.autotuneJoin
      (autotuneEnded world (daemonModeFromAgentMode handle.mode) { state with
        activeAutotune := none }
        join,
        match join with
        | .done exit =>
          ⟨.ok, .autotuneStopped "stopped" s!"remote autotune session stopped: {exit.reason}"⟩
        | .failed error =>
          ⟨.internalServerError, .error s!"autotune controller failed: {error.alternate}"⟩
        | .joinError error =>
          ⟨.internalServerError, .error s!"autotune controller task join failed: {error}"⟩)

/-- `autotune_status_handler`. -/
def autotuneStatusHandler : AgentState × Response :=
  match authorize header state.auth with
  | .error status => (state, ⟨status, .empty⟩)
  | .ok () =>
    let state := (reapFinishedAutotune world state).1
    (state, ⟨.ok, .autotuneStatus state.activeAutotune state.daemonState⟩)

/-! ## Restores -/

/-- A restore's status as `{:?}` prints it. -/
def debugStatus : AutotuneRestoreStatus → String
  | .clean => "Clean"
  | .applyingWithoutRollbackToken => "ApplyingWithoutRollbackToken"
  | .dryRun => "DryRun"
  | .restored => "Restored"
  | .faulted => "Faulted"

/-- The daemon's state after a restore that succeeded; nothing of the fault is left. -/
def restoredDaemonState (decision reason : String) : AgentState :=
  replaceAgentDaemonState state { state.daemonState with
    phase := .observe
    activeExperiment := none
    activeRollback := none
    faulted := none
    degraded := []
    lastDecision := some (daemonDecisionState decision reason world.nowUnixNanos) }

/-- `autotune_restore_handler`. -/
def autotuneRestoreHandler : AgentState × Response :=
  match authorizeAgentPrivilegedOperation header state.listener state.auth .rollbackAction with
  | .error status => (state, ⟨status, .empty⟩)
  | .ok () =>
    match world.restoreAutotune with
    | .error e =>
      let reason := s!"remote autotune restore failed: {e}"
      (markAgentDaemonFault world state .applyLowRisk "remote_autotune_restore_failed" reason,
        ⟨.internalServerError, .error reason⟩)
    | .ok outcome =>
      let message := s!"remote autotune restore status={debugStatus outcome.status} " ++
        s!"restored_actions={outcome.restoredActions} skipped_actions={outcome.skippedActions} " ++
        s!"failed_actions={outcome.failedActions}"
      let status := match outcome.status with
        | .clean => "nothing_to_restore"
        | .restored => "restored"
        | .dryRun => "dry_run"
        | .applyingWithoutRollbackToken | .faulted => "restore_failed"
      let body := Body.autotuneRestore status message outcome
      if outcome.status.isSuccess then
        let decision := if outcome.status = .clean then "remote_autotune_nothing_to_restore"
          else "remote_autotune_restored"
        (restoredDaemonState world state decision message, ⟨.ok, body⟩)
      else
        (markAgentDaemonFault world state .applyLowRisk "remote_autotune_restore_incomplete"
          message, ⟨.conflict, body⟩)

/-- `daemon_restore_summary_fields`. -/
def daemonRestoreSummaryFields (outcome : AutotuneRestoreOutcome)
    (profile : ProfileRestoreOutcome) :
    String :=
  let summary := profile.summary
  s!"status={debugStatus outcome.status} restored_actions={outcome.restoredActions} " ++
  s!"failed_actions={outcome.failedActions} skipped_actions={outcome.skippedActions} " ++
  s!"profile_found={profile.found} " ++
  s!"profile_restored={summary.affinity + summary.nice + summary.ionice} " ++
  s!"profile_skipped_total={summary.skippedDead + summary.skippedIdentityMismatch} " ++
  s!"profile_skipped_dead={summary.skippedDead} " ++
  s!"profile_skipped_identity_mismatch={summary.skippedIdentityMismatch} " ++
  s!"profile_legacy_unverified={summary.legacyUnverified} profile_errors={summary.errors}"

/-- `daemon_restore_handler`. -/
def daemonRestoreHandler : AgentState × Response :=
  let failed (reason : String) : AgentState × Response :=
    (markAgentDaemonFault world state .applyLowRisk "daemon_restore_failed" reason,
      ⟨.internalServerError, .error reason⟩)
  match authorizeAgentPrivilegedOperation header state.listener state.auth .rollbackAction with
  | .error status => (state, ⟨status, .empty⟩)
  | .ok () =>
    match world.restoreAutotune with
    | .error e => failed s!"daemon restore failed: {e}"
    | .ok outcome =>
      match world.restoreProfiles with
      | .error e => failed s!"daemon profile restore failed: {e}"
      | .ok profile =>
        let summary := daemonRestoreSummaryFields outcome profile
        let messages :=
          outcome.messages ++ profile.messages ++ [s!"daemon restore summary: {summary}"]
        let message := s!"daemon restore status={debugStatus outcome.status}"
        let unsafeStatus := "daemon restore did not complete safely " ++
          s!"status={debugStatus outcome.status}"
        if outcome.status.isSuccess then
          (restoredDaemonState world state "daemon_restored" s!"daemon restore completed {summary}",
            ⟨.ok, .control true .observe message messages⟩)
        else
          (replaceAgentDaemonState state { state.daemonState with
              phase := .faulted
              faulted := some ⟨unsafeStatus, some "stutter daemon emergency-restore --dry-run"⟩
              lastDecision := some (daemonDecisionState "daemon_restore_failed"
                (unsafeStatus ++ s!" failed_actions={outcome.failedActions} " ++
                  s!"skipped_actions={outcome.skippedActions}") world.nowUnixNanos) },
            ⟨.conflict, .control false .faulted message messages⟩)

/-! ## The daemon's controls -/

/-- `daemon_pause_handler`. -/
def daemonPauseHandler : AgentState × Response :=
  match authorizeAgentPrivilegedOperation header state.listener state.auth .controlDaemon with
  | .error status => (state, ⟨status, .empty⟩)
  | .ok () =>
    (replaceAgentDaemonState state { state.daemonState with
        phase := .paused
        faulted := none
        lastDecision := some (daemonDecisionState "daemon_paused" "operator requested daemon pause"
          world.nowUnixNanos) },
      ⟨.ok, .control true .paused "daemon paused" []⟩)

/-- `daemon_resume_handler`. -/
def daemonResumeHandler : AgentState × Response :=
  match authorizeAgentPrivilegedOperation header state.listener state.auth .controlDaemon with
  | .error status => (state, ⟨status, .empty⟩)
  | .ok () =>
    if state.daemonState.isFaulted then
      (state, ⟨.conflict, .error "cannot resume a faulted daemon state; restore first"⟩)
    else
      (replaceAgentDaemonState state { state.daemonState with
          phase := .observe
          lastDecision := some (daemonDecisionState "daemon_resumed"
            "operator requested daemon resume" world.nowUnixNanos) },
        ⟨.ok, .control true .observe "daemon resumed" []⟩)

/-- `daemon_status_handler`. -/
def daemonStatusHandler : AgentState × Response :=
  match authorize header state.auth with
  | .error status => (state, ⟨status, .empty⟩)
  | .ok () =>
    let state := (reapFinishedAutotune world (reapFinishedRecording world state).1).1
    (state, ⟨.ok, .daemonStatus state.activeRun.isSome state.activeAutotune.isSome
      state.daemonState⟩)

/-- A handler that reads the state and changes nothing. -/
def readHandler (response : Response) : AgentState × Response :=
  match authorize header state.auth with
  | .error status => (state, ⟨status, .empty⟩)
  | .ok () => (state, response)

/-- What the agent does with a request. -/
def handle : Request → AgentState × Response
  | .health | .version | .capabilities => (state, world.served)
  | .recordStart request => startRecordHandler world state header request
  | .recordStop => stopRecordHandler world state header
  | .recordStatus => recordStatusHandler world state header
  | .autotuneStatus => autotuneStatusHandler world state header
  | .autotuneStart request => autotuneStartHandler world state header request
  | .autotuneStop => autotuneStopHandler world state header
  | .autotuneRestore => autotuneRestoreHandler world state header
  | .daemonStatus => daemonStatusHandler world state header
  | .daemonPause => daemonPauseHandler world state header
  | .daemonResume => daemonResumeHandler world state header
  | .daemonRestore => daemonRestoreHandler world state header
  | .daemonHealth | .daemonPolicy | .daemonExplain =>
    readHandler state header ⟨.ok, .daemonView state.daemonState⟩
  | .autotuneHistory | .autotuneConfig | .runs | .session _ | .artifact _ _ =>
    readHandler state header world.served

end Handlers

end Stutter.Agent

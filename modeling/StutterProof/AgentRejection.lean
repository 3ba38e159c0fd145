import StutterProof.AgentHandlers

/-! # Requests without the right credentials

A request that its headers do not authorise is answered with an error.  What it leaves behind is the
record of its rejection: two handlers write it into the daemon's state, the others write nothing. -/
namespace Stutter.Agent

section
variable (world : World) (state : AgentState) (header : AuthHeader)

/-- Whether the headers authorise a controller to start; an apply mode needs a configured token. -/
def autotuneStartAuthorization (request : AutotuneStartRequest) : Except StatusCode Unit :=
  if ((parseDaemonMode (ActiveConfig.trimmed request.mode)).toOption.any (·.supportsApply)) &&
      !state.auth.applyTokenConfigured then .error .unauthorized
  else authorizeRemoteAutotuneStart header state.listener state.auth

/-- Whether the headers authorise a request. -/
def authorization : Request → Except StatusCode Unit
  | .health | .version | .capabilities => .ok ()
  | .recordStart _ =>
    authorizeAgentPrivilegedOperation header state.listener state.auth .startRecording
  | .recordStop => authorizeAgentPrivilegedOperation header state.listener state.auth .stopRecording
  | .autotuneStart request => autotuneStartAuthorization state header request
  | .autotuneStop | .daemonPause | .daemonResume =>
    authorizeAgentPrivilegedOperation header state.listener state.auth .controlDaemon
  | .autotuneRestore | .daemonRestore =>
    authorizeAgentPrivilegedOperation header state.listener state.auth .rollbackAction
  | _ => authorize header state.auth

/-- The answers to requests, one after the other. -/
def answers (state : AgentState) : List (World × AuthHeader × Request) → List Response
  | [] => []
  | (world, header, request) :: rest =>
    (handle world state header request).2 :: answers (handle world state header request).1 rest

/-- The request is answered with an error, and nothing the agent keeps has changed. -/
def RejectedWithoutTrace (request : Request) : Prop :=
  let after := (handle world state header request).1
  (handle world state header request).2.status.isError = true ∧
    after.daemonState = state.daemonState ∧ after.activeRun = state.activeRun ∧
    after.activeAutotune = state.activeAutotune ∧
    ∀ later, answers after later = answers state later

/-- What a rejection leaves in the daemon's state. -/
def RejectionRecorded (before after : DaemonState) : Request → Prop
  | .recordStart _ =>
    after.phase = .faulted ∧ after.faulted = some ⟨"unauthorized", some emergencyRestoreCommand⟩ ∧
      after.lastDecision =
        some (daemonDecisionState "record_start_rejected" "unauthorized" world.nowUnixNanos)
  | .autotuneStart request => ∃ reason, after = { before with
      mode := daemonModeFromAgentMode request.mode
      phase := .faulted
      lastDecision :=
        some (daemonDecisionState "autotune_policy_rejected" reason world.nowUnixNanos)
      degraded := before.degraded ++ [⟨"agent", reason⟩]
      faulted := some ⟨reason, some emergencyRestoreCommand⟩ }
  | _ => after = before

variable {world state header}

variable {status : StatusCode}

/-- An autotune start that is not authorised is rejected by the policy, with an error status. -/
theorem policyForRemoteAutotuneStart_rejects (world : World) {request : AutotuneStartRequest}
    (h : autotuneStartAuthorization state header request = .error status) :
    ∃ rejection, policyForRemoteAutotuneStart world state header request = .error rejection ∧
      rejection.status.isError = true := by
  unfold autotuneStartAuthorization at h
  unfold policyForRemoteAutotuneStart
  dsimp only at h ⊢
  cases hparse : parseDaemonMode (ActiveConfig.trimmed request.mode) with
  | error e => exact ⟨_, rfl, rfl⟩
  | ok mode =>
    rw [hparse] at h
    change (if (mode.supportsApply && !state.auth.applyTokenConfigured) = true then
      Except.error StatusCode.unauthorized
      else authorizeRemoteAutotuneStart header state.listener state.auth) = .error status at h
    by_cases hneeds : (mode.supportsApply && !state.auth.applyTokenConfigured) = true
    · exact ⟨_, if_pos hneeds, rfl⟩
    · rw [if_neg hneeds] at h
      simp only [if_neg hneeds, h]
      exact ⟨_, rfl, authorizeRemoteAutotuneStart_error h⟩

/-- A handler that stops at its authorisation. -/
theorem stops_at_authorization {request : Request}
    (hstart : ∀ r, request ≠ .recordStart r) (hautotune : ∀ r, request ≠ .autotuneStart r)
    (h : authorization state header request = .error status) :
    handle world state header request = (state, ⟨status, .empty⟩) := by
  cases request with
  | health | version | capabilities => cases h
  | recordStart r => exact absurd rfl (hstart r)
  | autotuneStart r => exact absurd rfl (hautotune r)
  | recordStop =>
    simp only [handle, stopRecordHandler, show authorizeAgentPrivilegedOperation header
      state.listener state.auth .stopRecording = .error status from h]
  | autotuneStop => simp only [handle, autotuneStopHandler, show authorizeAgentPrivilegedOperation
      header state.listener state.auth .controlDaemon = .error status from h]
  | daemonPause => simp only [handle, daemonPauseHandler, show authorizeAgentPrivilegedOperation
      header state.listener state.auth .controlDaemon = .error status from h]
  | daemonResume => simp only [handle, daemonResumeHandler, show authorizeAgentPrivilegedOperation
      header state.listener state.auth .controlDaemon = .error status from h]
  | autotuneRestore => simp only [handle, autotuneRestoreHandler,
      show authorizeAgentPrivilegedOperation header state.listener state.auth .rollbackAction =
        .error status from h]
  | daemonRestore => simp only [handle, daemonRestoreHandler,
      show authorizeAgentPrivilegedOperation header state.listener state.auth .rollbackAction =
        .error status from h]
  | recordStatus => simp only [handle, recordStatusHandler,
      show authorize header state.auth = .error status from h]
  | autotuneStatus => simp only [handle, autotuneStatusHandler,
      show authorize header state.auth = .error status from h]
  | daemonStatus => simp only [handle, daemonStatusHandler,
      show authorize header state.auth = .error status from h]
  | daemonHealth | daemonPolicy | daemonExplain | autotuneHistory | autotuneConfig | runs
  | session _ | artifact _ _ => simp only [handle, readHandler,
      show authorize header state.auth = .error status from h]

/-- Every refusal has an error status. -/
theorem authorization_error {request : Request}
    (h : authorization state header request = .error status) : status.isError = true := by
  cases request with
  | health | version | capabilities => cases h
  | recordStart _ | recordStop | autotuneStop | daemonPause | daemonResume | autotuneRestore
  | daemonRestore => exact authorizeAgentPrivilegedOperation_error h
  | autotuneStart request =>
    change autotuneStartAuthorization state header request = .error status at h
    unfold autotuneStartAuthorization at h
    split at h
    · cases h; rfl
    · exact authorizeRemoteAutotuneStart_error h
  | _ => exact authorize_error (show authorize header state.auth = .error status from h)

theorem handle_recordStart_rejected {request : RemoteMonitorRequest}
    (h : authorization state header (.recordStart request) = .error status) :
    handle world state header (.recordStart request) =
      (markAgentDaemonFault world state .observe "record_start_rejected" "unauthorized",
        ⟨status, .empty⟩) := by
  simp only [handle, startRecordHandler, show authorizeAgentPrivilegedOperation header
    state.listener state.auth .startRecording = .error status from h]

theorem handle_autotuneStart_rejected (world : World) {request : AutotuneStartRequest}
    (h : authorization state header (.autotuneStart request) = .error status) :
    ∃ rejection : AutotuneStartSecurityRejection,
      handle world state header (.autotuneStart request) =
        (markAgentDaemonPolicyRejection world state (daemonModeFromAgentMode request.mode)
          "autotune_policy_rejected" rejection.auditMessage,
          ⟨rejection.status, .error rejection.responseMessage⟩) ∧
      rejection.status.isError = true := by
  obtain ⟨rejection, hrejection, herror⟩ := policyForRemoteAutotuneStart_rejects world h
  exact ⟨rejection, by simp only [handle, autotuneStartHandler, hrejection], herror⟩

end

/-- **A rejected request is answered with an error and touches neither task.**  It leaves the
daemon's state alone, and every later answer with it, unless it asked for a start: then the state
records the rejection. -/
theorem rejected_request_leaves_its_record (world : World) (state : AgentState)
    (header : AuthHeader) (request : Request) (status : StatusCode)
    (h : authorization state header request = .error status) :
    let after := (handle world state header request).1
    (handle world state header request).2.status.isError = true ∧
      after.activeRun = state.activeRun ∧ after.activeAutotune = state.activeAutotune ∧
      RejectionRecorded world state.daemonState after.daemonState request ∧
      (after.daemonState = state.daemonState →
        ∀ later, answers after later = answers state later) := by
  cases request with
  | recordStart request =>
    rw [handle_recordStart_rejected h]
    refine ⟨authorization_error h, rfl, rfl, ⟨rfl, rfl, rfl⟩, fun heq later => ?_⟩
    exact congrArg (fun daemonState => answers { state with daemonState } later) heq
  | autotuneStart request =>
    obtain ⟨rejection, hhandle, herror⟩ := handle_autotuneStart_rejected world h
    rw [hhandle]
    refine ⟨herror, rfl, rfl, ⟨rejection.auditMessage, rfl⟩, fun heq later => ?_⟩
    exact congrArg (fun daemonState => answers { state with daemonState } later) heq
  | _ =>
    rw [stops_at_authorization (by simp) (by simp) h]
    exact ⟨authorization_error h, rfl, rfl, rfl, fun _ _ => rfl⟩

/-! An agent with one token, and what it meets: a recording is asked for without the token. -/

def guardedAgent : AgentState where
  activeRun := none
  activeAutotune := none
  daemonState := .default
  auth := ⟨some "secret", none, none⟩
  listener := ⟨false, true⟩
  limits := ⟨60, 4⟩
  autotuneLimits := ⟨1, .applyLowRisk, .reversibleLowRisk, false, 60, 4, false, false⟩

def quietWorld : World where
  nowUnixNanos := 7
  capabilities := ⟨true, true, true, true, true, true, true⟩
  healthOkForApply := true
  healthReasonCode := none
  rejectionText _ := "rejected"
  debugText text := text
  runId := "run-7"
  recordConfig := .ok ()
  autotuneConfig := .ok ()
  loadProfiles := .ok ()
  runJoin := .done "out"
  autotuneJoin := .done ⟨"stopped", none⟩
  restoreAutotune := .ok ⟨.clean, 0, 0, 0, 0, 0, 0, 0, []⟩
  restoreProfiles := .ok ⟨false, ⟨0, 0, 0, 0, 0, 0, 0⟩, []⟩
  profileRecords := 0
  served := ⟨.ok, .empty⟩

def onePidRequest : RemoteMonitorRequest :=
  ⟨[42], [], [], none, none, none, [], none, false, [], none, none, none, false⟩

/-- The rejected start leaves a fault, and a resume that was accepted is refused after it. -/
theorem recordStart_without_token_faults :
    authorization guardedAgent .absent (.recordStart onePidRequest) = .error .unauthorized ∧
      ¬ RejectedWithoutTrace quietWorld guardedAgent .absent (.recordStart onePidRequest) ∧
      answers (handle quietWorld guardedAgent .absent (.recordStart onePidRequest)).1
          [(quietWorld, .value "Bearer secret", .daemonResume)] ≠
        answers guardedAgent [(quietWorld, .value "Bearer secret", .daemonResume)] := by
  refine ⟨by decide +kernel, fun h => absurd h.2.1 (by decide +kernel), by decide +kernel⟩

theorem pause_without_token_leaves_no_trace :
    (handle quietWorld guardedAgent .absent .daemonPause).2.status.isError = true ∧
      (handle quietWorld guardedAgent .absent .daemonPause).1.daemonState =
        guardedAgent.daemonState := by
  have h := rejected_request_leaves_its_record quietWorld guardedAgent .absent .daemonPause
    .unauthorized (by decide +kernel)
  exact ⟨h.1, h.2.2.2.1⟩

end Stutter.Agent

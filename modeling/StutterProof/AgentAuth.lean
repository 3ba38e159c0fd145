import StutterProof.Actions

/-! # Who may ask the agent

A request is judged by its `Authorization` header, the tokens the agent was started with and the
transport it listens on.  A handler that changes something asks `authorizeAgentPrivilegedOperation`,
one that only reads asks `authorize`. -/
namespace Stutter.Agent

/-- The HTTP statuses the agent answers. -/
inductive StatusCode where
  | ok | badRequest | unauthorized | forbidden | notFound | conflict | internalServerError
  deriving DecidableEq

def StatusCode.isError : StatusCode → Bool
  | .ok => false
  | _ => true

/-- The agent's tokens. -/
structure AgentAuth where
  bearerToken : Option String
  readToken : Option String
  applyToken : Option String

def AgentAuth.anyTokenConfigured (auth : AgentAuth) : Bool :=
  auth.bearerToken.isSome || auth.readToken.isSome || auth.applyToken.isSome

def AgentAuth.applyTokenConfigured (auth : AgentAuth) : Bool :=
  auth.bearerToken.isSome || auth.applyToken.isSome

/-- The `Authorization` header; a value that is not visible ASCII has no text. -/
inductive AuthHeader where
  | absent
  | unreadable
  | value (text : String)

/-- What a token opens. -/
inductive AgentAuthScope where
  | read | apply

/-- `constant_time_eq`. -/
def constantTimeEq (a b : List UInt8) : Bool :=
  if a.length ≠ b.length then false
  else (a.zip b).foldl (fun diff pair => diff ||| (pair.1 ^^^ pair.2)) 0 == 0

def tokenMatches (token : String) (expected : Option String) : Bool :=
  expected.any fun expected => constantTimeEq token.toUTF8.data.toList expected.toUTF8.data.toList

/-- `strip_prefix("Bearer ")`. -/
def bearerTokenOf (value : String) : Option String :=
  if "Bearer ".toList.isPrefixOf value.toList then some (String.ofList (value.toList.drop 7))
  else none

/-- `authorize_with_scope`. -/
def authorizeWithScope (header : AuthHeader) (auth : AgentAuth) (scope : AgentAuthScope) :
    Except StatusCode Unit :=
  if !auth.anyTokenConfigured then .ok ()
  else
    match header with
    | .absent | .unreadable => .error .unauthorized
    | .value text =>
      match bearerTokenOf text with
      | none => .error .unauthorized
      | some token =>
        let legacyMatch := tokenMatches token auth.bearerToken
        let applyMatch := tokenMatches token auth.applyToken
        let readMatch := tokenMatches token auth.readToken
        match scope with
        | .read => if legacyMatch || applyMatch || readMatch then .ok () else .error .forbidden
        | .apply => if legacyMatch || applyMatch then .ok () else .error .forbidden

def authorize (header : AuthHeader) (auth : AgentAuth) : Except StatusCode Unit :=
  authorizeWithScope header auth .read

def authorizeApply (header : AuthHeader) (auth : AgentAuth) : Except StatusCode Unit :=
  authorizeWithScope header auth .apply

/-! ## The privilege boundary -/

/-- The way a request came. -/
inductive PrivilegeTransport where
  | localCli | unixSocket | loopbackTcp | remoteTcp
  deriving DecidableEq

def PrivilegeTransport.isLocal : PrivilegeTransport → Bool
  | .localCli | .unixSocket | .loopbackTcp => true
  | .remoteTcp => false

/-- The process that asks. -/
inductive PrivilegeProcessRole where
  | privilegedWorker | controlPlane | uiClient
  deriving DecidableEq

/-- What needs a privilege. -/
inductive PrivilegedOperation where
  | readStatus | explainPolicy | probeCapabilities | loadEbpf | attachProbe | startRecording
  | stopRecording | controlDaemon | applyAction | rollbackAction | writeProtectedState

def PrivilegedOperation.requiresPrivilegedWorker : PrivilegedOperation → Bool
  | .loadEbpf | .attachProbe | .startRecording | .stopRecording | .applyAction | .rollbackAction
  | .writeProtectedState => true
  | _ => false

def PrivilegedOperation.requiresApplyAuthorization : PrivilegedOperation → Bool
  | .readStatus | .explainPolicy | .probeCapabilities => false
  | _ => true

structure PrivilegeCommandRequest where
  callerRole : PrivilegeProcessRole
  operation : PrivilegedOperation
  transport : PrivilegeTransport
  authenticated : Bool
  applyAuthorized : Bool

/-- The answer, with its reason. -/
structure PrivilegeDecision where
  allowed : Bool
  reasonCode : String

/-- `PrivilegeCommandAllowlist::check`. -/
def privilegeCheck (request : PrivilegeCommandRequest) : PrivilegeDecision :=
  let workerRequired := request.operation.requiresPrivilegedWorker
  if request.callerRole = .privilegedWorker then ⟨true, "privileged_worker_execution_allowed"⟩
  else if workerRequired && decide (request.callerRole ≠ .controlPlane) then
    ⟨false, "caller_role_cannot_request_privileged_operation"⟩
  else if !request.transport.isLocal && request.operation.requiresApplyAuthorization then
    ⟨false, "non_local_privileged_operation"⟩
  else if !request.authenticated then ⟨false, "missing_authentication"⟩
  else if request.operation.requiresApplyAuthorization && !request.applyAuthorized then
    ⟨false, "missing_apply_authorization"⟩
  else if workerRequired then ⟨true, "allowlisted_control_plane_worker_request"⟩
  else ⟨true, "allowlisted_unprivileged_operation"⟩

/-- `status_for_privilege_decision`. -/
def statusForPrivilegeDecision (reasonCode : String) : StatusCode :=
  if reasonCode = "missing_authentication" ∨ reasonCode = "missing_apply_authorization" then
    .unauthorized
  else .forbidden

/-- Where the agent listens: on a Unix socket, or at an address that may be a loopback one. -/
structure Listener where
  unixSocket : Bool
  bindIsLoopback : Bool

/-- `agent_privilege_transport`. -/
def agentPrivilegeTransport (listener : Listener) : PrivilegeTransport :=
  if listener.unixSocket then .unixSocket
  else if listener.bindIsLoopback then .loopbackTcp
  else .remoteTcp

/-- `agent_state_is_local`. -/
def Listener.isLocal (listener : Listener) : Bool := listener.unixSocket || listener.bindIsLoopback

/-- `authorize_agent_privileged_operation`. -/
def authorizeAgentPrivilegedOperation (header : AuthHeader) (listener : Listener)
    (auth : AgentAuth) (operation : PrivilegedOperation) : Except StatusCode Unit :=
  let transport := agentPrivilegeTransport listener
  let socketAuthorized := decide (transport = .unixSocket) && !auth.anyTokenConfigured
  if !socketAuthorized && operation.requiresApplyAuthorization && !auth.applyTokenConfigured then
    .error .unauthorized
  else
    let applyResult := if socketAuthorized then .ok () else authorizeApply header auth
    match operation.requiresApplyAuthorization, applyResult with
    | true, .error status => .error status
    | _, _ =>
      let decision := privilegeCheck
        { callerRole := .controlPlane
          operation := operation
          transport := transport
          authenticated := socketAuthorized || (authorize header auth).isOk
          applyAuthorized := socketAuthorized || applyResult.isOk }
      if decision.allowed then .ok ()
      else .error (statusForPrivilegeDecision decision.reasonCode)

/-- `authorize_remote_autotune_start`. -/
def authorizeRemoteAutotuneStart (header : AuthHeader) (listener : Listener) (auth : AgentAuth) :
    Except StatusCode Unit :=
  if !listener.unixSocket && !auth.applyTokenConfigured then .error .unauthorized
  else authorizeApply header auth

/-! ## A refusal is an error -/

variable {header : AuthHeader} {auth : AgentAuth} {status : StatusCode}

theorem authorizeWithScope_error {scope : AgentAuthScope}
    (h : authorizeWithScope header auth scope = .error status) :
    status.isError = true := by
  unfold authorizeWithScope at h
  split at h
  · cases h
  · split at h
    · cases h; rfl
    · cases h; rfl
    · split at h
      · cases h; rfl
      · cases scope <;> dsimp only at h <;> split at h <;> cases h <;> rfl

theorem authorize_error (h : authorize header auth = .error status) : status.isError = true :=
  authorizeWithScope_error h

theorem statusForPrivilegeDecision_isError (reasonCode : String) :
    (statusForPrivilegeDecision reasonCode).isError = true := by
  unfold statusForPrivilegeDecision
  split <;> rfl

theorem privilegeDecision_error {decision : PrivilegeDecision}
    (h : (if decision.allowed then Except.ok () else
      Except.error (statusForPrivilegeDecision decision.reasonCode)) = .error status) :
    status.isError = true := by
  split at h
  · cases h
  · cases h
    exact statusForPrivilegeDecision_isError _

theorem authorizeAgentPrivilegedOperation_error {listener : Listener}
    {operation : PrivilegedOperation}
    (h : authorizeAgentPrivilegedOperation header listener auth operation = .error status) :
    status.isError = true := by
  unfold authorizeAgentPrivilegedOperation at h
  dsimp only at h
  split at h
  · cases h; rfl
  · split at h
    · rename_i happly
      cases h
      split at happly
      · cases happly
      · exact authorizeWithScope_error happly
    · exact privilegeDecision_error h

theorem authorizeRemoteAutotuneStart_error {listener : Listener}
    (h : authorizeRemoteAutotuneStart header listener auth = .error status) :
    status.isError = true := by
  unfold authorizeRemoteAutotuneStart at h
  split at h
  · cases h; rfl
  · exact authorizeWithScope_error h

end Stutter.Agent

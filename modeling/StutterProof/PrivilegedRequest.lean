import StutterProof.AuditedRunner
import StutterProof.AutonomousSupport
import StutterProof.PolicyEvaluation

/-! # Requests to the privileged worker

The controller sends the worker a candidate together with a descriptor of it that was
serialised on its own.  The worker decodes both (`intoPlanRequest`), compares some fields of
the descriptor with the candidate's own (`validateCandidatePlanRequest`), asks the policy about
the descriptor it was sent, and runs the candidate through the audited runner
(`applyCandidateInner`).

`worker_authorises_iff` says for which candidates the policy's answer about the sent descriptor
is also its answer about the candidate. -/
namespace Stutter
open Fallible

/-! ## The request -/

/-- A payload that can cross the socket: the affinity profile and the fake have no executable
form. -/
structure CandidateExecutablePlan where
  candidate : CandidateAction
  evidence : Nat
  executable : candidate.variant ≠ .cpuAffinityProfile ∧ candidate.variant ≠ .fake

/-- The plan file inside a request, as far as the worker reads it. -/
structure CandidatePlanFile where
  schemaVersion : Nat
  candidateName : String
  actionKind : String
  descriptor : ActionDescriptor
  objective : ObjectiveKind
  operation : MutationOperationKind
  manualOnlyReason : Option String
  executable : Option CandidateExecutablePlan

/-- The plan on the wire. -/
structure PrivilegedWorkerCandidatePlan where
  schemaVersion : Nat
  planFile : CandidatePlanFile
  descriptor : ActionDescriptor
  objective : ObjectiveKind
  operation : MutationOperationKind
  evidenceCount : Nat
  createdUnixNanos : Nat

/-- The `Apply` and `ApplyPrepared` requests, as they come off the wire. -/
structure WireApplyRequest where
  plan : PrivilegedWorkerCandidatePlan
  policy : DaemonPolicy
  context : DaemonPolicyContext
  maxPlanAgeNanos : Nat

/-- The decoded plan; `evidence` is what the candidate itself carries. -/
structure CandidatePlanRequest where
  candidate : CandidateAction
  evidence : Nat
  descriptor : ActionDescriptor
  objective : ObjectiveKind
  operation : MutationOperationKind
  evidenceCount : Nat
  createdUnixNanos : Nat

/-- A request the worker checks. -/
structure CandidateApplyRequest where
  plan : CandidatePlanRequest
  policy : DaemonPolicy
  context : DaemonPolicyContext
  maxPlanAgeNanos : Nat

/-- Why the worker refuses. -/
inductive WorkerRefusal where
  | staleCandidatePlan (ageNs maxNs : Nat)
  | invalidActionDescriptor (reason : String)
  | candidatePlanDescriptorMismatch
  | candidatePlanObjectiveMismatch
  | candidatePlanOperationMismatch
  | systemWideOperationNotAllowlisted (operation : String)
  | candidatePlanMissingEvidence
  | unsupportedSchema (got expected : Nat)
  | unsupportedCandidatePlanSchema (got expected : Nat)
  | candidatePlanMetadataMismatch
  | candidatePlanManualOnly (candidateName actionKind reason : String)
  | candidatePlanNotExecutable (candidateName actionKind : String)
  | missingRollbackToken
  | preparedHookNotInvoked
  | preparedTransactionMissing (actionKind : String)
  | highRiskApplyNotImplemented (candidateName actionKind : String)
  | policy (rejection : PolicyRejection)
  | targetRevalidation (error : AnyError)
  | action (error : ActionError)

/-- `PRIVILEGED_WORKER_IPC_SCHEMA_VERSION`. -/
def privilegedWorkerIpcSchemaVersion : Nat := 3

/-- `CandidatePlanFile::SCHEMA_VERSION`. -/
def candidatePlanFileSchemaVersion : Nat := 3

/-- The four fields of a descriptor that are compared. -/
def ActionDescriptor.sameIdentity (a b : ActionDescriptor) : Bool :=
  a.actionId == b.actionId && a.actionKind == b.actionKind && a.safetyClass == b.safetyClass &&
    a.effectScope == b.effectScope

/-- The worker rebuilds the plan it was sent. -/
def PrivilegedWorkerCandidatePlan.intoPlanRequest (plan : PrivilegedWorkerCandidatePlan) :
    Except WorkerRefusal CandidatePlanRequest :=
  if plan.schemaVersion ≠ privilegedWorkerIpcSchemaVersion then
    .error (.unsupportedSchema plan.schemaVersion privilegedWorkerIpcSchemaVersion)
  else if plan.planFile.schemaVersion ≠ candidatePlanFileSchemaVersion then
    .error (.unsupportedCandidatePlanSchema plan.planFile.schemaVersion
      candidatePlanFileSchemaVersion)
  else
    match validateNonEmpty "ActionId" plan.descriptor.actionId with
    | .error reason => .error (.invalidActionDescriptor reason)
    | .ok () =>
      match validateNonEmpty "ActionId" plan.planFile.descriptor.actionId with
      | .error reason => .error (.invalidActionDescriptor reason)
      | .ok () =>
        if !(plan.planFile.descriptor.sameIdentity plan.descriptor &&
            plan.planFile.objective == plan.objective &&
            plan.planFile.operation == plan.operation) then
          .error .candidatePlanMetadataMismatch
        else
          match plan.planFile.executable, plan.planFile.manualOnlyReason with
          | none, some reason => .error (.candidatePlanManualOnly plan.planFile.candidateName
              plan.planFile.actionKind reason)
          | none, none => .error (.candidatePlanNotExecutable plan.planFile.candidateName
              plan.planFile.actionKind)
          | some executable, _ =>
            if executable.candidate.operationKind ≠ plan.operation then
              .error .candidatePlanOperationMismatch
            else
              .ok ⟨executable.candidate, executable.evidence, plan.descriptor, plan.objective,
                plan.operation, plan.evidenceCount, plan.createdUnixNanos⟩

/-- `validate_candidate_plan_request` at the time `now`. -/
def validateCandidatePlanRequest (now : Nat) (request : CandidateApplyRequest)
    (intent : PolicyIntent) : Except WorkerRefusal Unit :=
  let plan := request.plan
  let ageNs := now - plan.createdUnixNanos
  if 0 < request.maxPlanAgeNanos ∧ request.maxPlanAgeNanos < ageNs then
    .error (.staleCandidatePlan ageNs request.maxPlanAgeNanos)
  else if !plan.candidate.descriptor.sameIdentity plan.descriptor then
    .error .candidatePlanDescriptorMismatch
  else if plan.objective ≠ plan.candidate.objective then .error .candidatePlanObjectiveMismatch
  else if plan.operation ≠ plan.candidate.operationKind then .error .candidatePlanOperationMismatch
  else if plan.evidenceCount = 0 ∧ plan.evidence = 0 ∧
      plan.candidate.actionKind ≠ "cpu_affinity_profile" then
    .error .candidatePlanMissingEvidence
  else if plan.descriptor.effectScope.isSystemWideResource &&
      !request.policy.systemWideAllowlist.allowsOperation plan.operation.asStr then
    .error (.systemWideOperationNotAllowlisted plan.operation.asStr)
  else
    match checkActionWithContext request.policy intent plan.descriptor request.context with
    | .ok () => .ok ()
    | .error rejection => .error (.policy rejection)

/-! ## Executing it -/

/-- The worker's state during one apply: the world its action works on, and whether the commit
barrier was reached. -/
structure WorkerState (ω : Type) where
  world : ω
  barrierReached : Bool

/-- What one apply finds outside: the time, the targets it revalidates, and the action its factory
builds, with everything that action does. -/
structure WorkerHost (ω : Type) where
  now : Nat
  revalidateCandidateTargets : CandidateAction → Except AnyError Unit
  build : CandidateAction → Except ActionError (TuningAction (WorkerState ω))
  /-- The policy's reason, as the runner reports it. -/
  rejectionText : PolicyRejection → String
  clock : ActionPhase → Nat

/-- The actions that make a restore snapshot durable before they write. -/
def CandidateAction.preparedBeforeMutation (candidate : CandidateAction) : Bool :=
  match candidate.variant with
  | .nice | .uclamp | .cgroupPlacement | .cpuPower => true
  | .cpuAffinityProfile => candidate.operationKind == .cpuAffinityProfile
  | .ioPrio | .irqAffinity | .gpuPower | .vmKnob | .fake => false

open Op

section Apply
variable {ω : Type} (host : WorkerHost ω)

/-- The run policy of the worker: the request's own policy and context, no limits. -/
def workerRunPolicy (request : CandidateApplyRequest) : ActionRunPolicy where
  check intent descriptor :=
    match checkActionWithContext request.policy intent descriptor request.context with
    | .ok () => .ok ()
    | .error rejection => .error (host.rejectionText rejection)
  maxAffectedTasks := none
  maxTotalDuration := none
  dryRun := false

/-- `build_executor_for_candidate`: an action other than the affinity profile describes itself by
the trait's defaults. -/
def buildExecutorForCandidate (candidate : CandidateAction) :
    Except WorkerRefusal (TuningAction (WorkerState ω)) :=
  if candidate.isHighRiskSystemAdjacent then
    .error (.highRiskApplyNotImplemented candidate.candidateName candidate.actionKind)
  else
    match host.build candidate with
    | .error e => .error (.action e)
    | .ok action =>
      .ok { action with descriptor := .ofTuningAction candidate.actionId candidate.safetyClass }

/-- Run the action through the audited runner with the given hooks. -/
def runWorkerAction (request : CandidateApplyRequest) (action : TuningAction (WorkerState ω))
    (hooks : ActionHooks (WorkerState ω)) : Op (WorkerState ω) WorkerRefusal AuditedActionResult :=
  do
  let (result, _) ← withLocals
    (fun w => RunnerState.start action (workerRunPolicy host request) "autotune candidate" w)
    (·.world) (runAuditedAction action hooks (workerRunPolicy host request) host.clock)
  match result with
  | .ok outcome => return outcome
  | .error e => fail (.action e)

/-- The executor's apply, behind the commit barrier if there is one. -/
def runExecutor (request : CandidateApplyRequest) (action : TuningAction (WorkerState ω)) :
    Option (RollbackToken → Op (WorkerState ω) AnyError Unit) →
      Op (WorkerState ω) WorkerRefusal AuditedActionResult
  | none => runWorkerAction host request action {}
  | some barrier =>
    if !request.plan.candidate.preparedBeforeMutation then
      fail (.preparedTransactionMissing request.plan.candidate.actionKind)
    else
      runWorkerAction host request action
        { afterPrepare := fun token => do
            assign fun s => { s with barrierReached := true }
            barrier token }

/-- `apply_candidate_inner`; `prepared` is the commit barrier of a two-phase apply. -/
def applyCandidateInner (request : CandidateApplyRequest)
    (prepared : Option (RollbackToken → Op (WorkerState ω) AnyError Unit)) :
    Op (WorkerState ω) WorkerRefusal (ActionState × RollbackToken) := do
  ofExcept (validateCandidatePlanRequest host.now request .apply)
  match host.revalidateCandidateTargets request.plan.candidate with
  | .error e => fail (.targetRevalidation e)
  | .ok () => do
    let action ← ofExcept (buildExecutorForCandidate host request.plan.candidate)
    assign fun s => { s with barrierReached := false }
    let outcome ← runExecutor host request action prepared
    let reached ← gets WorkerState.barrierReached
    if prepared.isSome && !reached then fail .preparedHookNotInvoked
    else
      match outcome.rollback with
      | some token => return (outcome.state, token)
      | none => fail .missingRollbackToken

/-- The worker's answer to an `Apply` (no barrier) or an `ApplyPrepared` request. -/
def executeApplyRequest (wire : WireApplyRequest)
    (prepared : Option (RollbackToken → Op (WorkerState ω) AnyError Unit)) :
    Op (WorkerState ω) WorkerRefusal (ActionState × RollbackToken) := do
  let plan ← ofExcept wire.plan.intoPlanRequest
  applyCandidateInner host ⟨plan, wire.policy, wire.context, wire.maxPlanAgeNanos⟩ prepared

end Apply

/-! ## What an accepted request says -/

/-- The decoded request carries the executable candidate. -/
theorem intoPlanRequest_candidate {plan : PrivilegedWorkerCandidatePlan}
    {request : CandidatePlanRequest} (h : plan.intoPlanRequest = .ok request) :
    ∃ executable, plan.planFile.executable = some executable ∧
      request.candidate = executable.candidate := by
  unfold PrivilegedWorkerCandidatePlan.intoPlanRequest at h
  repeat' split at h
  all_goals cases h
  exact ⟨_, by assumption, rfl⟩

theorem sameIdentity_iff {a b : ActionDescriptor} :
    a.sameIdentity b = true ↔ a.actionId = b.actionId ∧ a.actionKind = b.actionKind ∧
      a.safetyClass = b.safetyClass ∧ a.effectScope = b.effectScope := by
  simp [ActionDescriptor.sameIdentity, and_assoc]

variable {request : CandidateApplyRequest}

/-- A validated request: the sent descriptor has the candidate's identity, its operation is
allowlisted where its scope is the whole system, and the policy takes the sent descriptor. -/
theorem validateCandidatePlanRequest_ok {now : Nat} {intent : PolicyIntent}
    (h : validateCandidatePlanRequest now request intent = .ok ()) :
    request.plan.candidate.descriptor.sameIdentity request.plan.descriptor = true ∧
      (request.plan.descriptor.effectScope.isSystemWideResource = true →
        request.policy.systemWideAllowlist.allowsOperation
          request.plan.candidate.operationKind.asStr = true) ∧
      checkActionWithContext request.policy intent request.plan.descriptor request.context =
        .ok () := by
  unfold validateCandidatePlanRequest at h
  dsimp only at h
  split at h
  · cases h
  split at h
  · cases h
  rename_i hidentity
  split at h
  · cases h
  split at h
  · cases h
  rename_i hoperation
  split at h
  · cases h
  split at h
  · cases h
  rename_i hallow
  refine ⟨by simpa using hidentity, ?_, ?_⟩
  · intro hscope
    rw [not_not.mp hoperation] at hallow
    simpa [hscope] using hallow
  · cases hcheck : checkActionWithContext request.policy intent request.plan.descriptor
        request.context with
    | ok u => rfl
    | error rejection =>
      rw [hcheck] at h
      cases h

variable {outcome : AuditedActionResult} {ω : Type}

/-- A run that returns asked the policy about the action's own descriptor. -/
theorem runAuditedAction_checked {action : TuningAction ω} {hooks : ActionHooks ω}
    {policy : ActionRunPolicy} {clock : ActionPhase → Nat} {s : RunnerState ω}
    (hmode : policy.dryRun = false)
    (h : ((runAuditedAction action hooks policy clock).run s).result = .ok outcome) :
    policy.check .apply action.descriptor = .ok () := by
  unfold runAuditedAction at h
  obtain ⟨result, hresult, h⟩ := result_bind_ok h
  obtain ⟨_, -, h⟩ := result_bind_ok h
  have hphases : ((runPhases action hooks policy clock).run s).result = .ok outcome := by
    have hok : result = .ok outcome := h
    rw [← hok]
    exact Except.ok.inj hresult
  unfold runPhases at hphases
  obtain ⟨_, -, hphases⟩ := result_bind_ok hphases
  rw [hmode, if_neg (by simp)] at hphases
  obtain ⟨_, -, hphases⟩ := result_bind_ok hphases
  obtain ⟨_, -, hphases⟩ := result_bind_ok hphases
  obtain ⟨_, -, hphases⟩ := result_bind_ok hphases
  obtain ⟨_, hcheck, -⟩ := result_bind_ok hphases
  unfold checkActionWithExplanation at hcheck
  obtain ⟨_, -, hcheck⟩ := result_bind_ok hcheck
  cases hpolicy : policy.check .apply action.descriptor with
  | ok u => rfl
  | error reason =>
    rw [hpolicy] at hcheck
    cases hcheck

variable {host : WorkerHost ω} {s : WorkerState ω}

/-- Whatever the run of the action returned, its policy took the action's own descriptor. -/
theorem runWorkerAction_checked {action : TuningAction (WorkerState ω)}
    {hooks : ActionHooks (WorkerState ω)}
    (h : ((runWorkerAction host request action hooks).run s).result = .ok outcome) :
    checkActionWithContext request.policy .apply action.descriptor request.context = .ok () := by
  unfold runWorkerAction at h
  obtain ⟨⟨result, locals⟩, hrun, h⟩ := result_bind_ok h
  cases result with
  | error e => cases h
  | ok run =>
    rw [result_withLocals, Except.ok.injEq, Prod.mk.injEq] at hrun
    have hchecked := runAuditedAction_checked rfl hrun.1
    simp only [workerRunPolicy] at hchecked
    cases hcheck : checkActionWithContext request.policy .apply action.descriptor
        request.context with
    | ok u => rfl
    | error rejection =>
      rw [hcheck] at hchecked
      cases hchecked

theorem runExecutor_checked {action : TuningAction (WorkerState ω)}
    {prepared : Option (RollbackToken → Op (WorkerState ω) AnyError Unit)}
    (h : ((runExecutor host request action prepared).run s).result = .ok outcome) :
    checkActionWithContext request.policy .apply action.descriptor request.context = .ok () := by
  cases prepared with
  | none => exact runWorkerAction_checked h
  | some barrier =>
    by_cases hprepared : request.plan.candidate.preparedBeforeMutation = true
    · simp only [runExecutor, hprepared, Bool.not_true, Bool.false_eq_true, if_false] at h
      exact runWorkerAction_checked h
    · simp only [runExecutor, hprepared, Bool.not_false, if_true] at h
      cases h

/-- What the worker itself established before it answered well. -/
structure WorkerChecked (candidate : CandidateAction) (sent : ActionDescriptor)
    (policy : DaemonPolicy)
    (context : DaemonPolicyContext) : Prop where
  identity : candidate.descriptor.sameIdentity sent = true
  allowlisted : sent.effectScope.isSystemWideResource = true →
    policy.systemWideAllowlist.allowsOperation candidate.operationKind.asStr = true
  sent : checkActionWithContext policy .apply sent context = .ok ()
  built : checkActionWithContext policy .apply
    (.ofTuningAction candidate.actionId candidate.safetyClass) context = .ok ()

theorem executeApplyRequest_checked {wire : WireApplyRequest}
    {prepared : Option (RollbackToken → Op (WorkerState ω) AnyError Unit)}
    {answer : ActionState × RollbackToken}
    (h : ((executeApplyRequest host wire prepared).run s).result = .ok answer) :
    ∃ executable, wire.plan.planFile.executable = some executable ∧
      ∃ sent, WorkerChecked executable.candidate sent wire.policy wire.context := by
  unfold executeApplyRequest at h
  obtain ⟨plan, hplan, h⟩ := result_bind_ok h
  obtain ⟨executable, hexecutable, hcandidate⟩ := intoPlanRequest_candidate hplan
  refine ⟨executable, hexecutable, plan.descriptor, ?_⟩
  rw [← hcandidate]
  unfold applyCandidateInner at h
  obtain ⟨_, hvalid, h⟩ := result_bind_ok h
  obtain ⟨hidentity, hallow, hsent⟩ := validateCandidatePlanRequest_ok hvalid
  refine ⟨hidentity, hallow, hsent, ?_⟩
  cases htargets : host.revalidateCandidateTargets plan.candidate with
  | error e =>
    rw [htargets] at h
    cases h
  | ok u =>
    rw [htargets] at h
    obtain ⟨action, hbuild, h⟩ := result_bind_ok h
    obtain ⟨_, -, h⟩ := result_bind_ok h
    obtain ⟨outcome, hrun, -⟩ := result_bind_ok h
    have hdescriptor : action.descriptor =
        .ofTuningAction plan.candidate.actionId plan.candidate.safetyClass := by
      have hbuild : buildExecutorForCandidate host plan.candidate = .ok action := hbuild
      unfold buildExecutorForCandidate at hbuild
      split at hbuild
      · cases hbuild
      · split at hbuild
        · cases hbuild
        · cases hbuild
          rfl
    have hchecked := runExecutor_checked hrun
    rw [hdescriptor] at hchecked
    exact hchecked

/-! ## When the answer about the descriptor is the answer about the candidate -/

/-- The same descriptor without the mark of a system-wide effect. -/
def ActionDescriptor.unmarked (descriptor : ActionDescriptor) : ActionDescriptor :=
  { descriptor with touchesSystemWideState := false }

variable {candidate : CandidateAction} {context : DaemonPolicyContext} {policy : DaemonPolicy}

/-- Of the candidate's own descriptor, the sent one decides nothing but the system-wide mark: the
other rules read fields that are compared, or that the candidate fixes. -/
theorem applyAdmitted_candidate {sent : ActionDescriptor}
    (hidentity : candidate.descriptor.sameIdentity sent = true)
    (hsent : checkActionWithContext policy .apply sent context = .ok ()) :
    checkActionWithContext policy .apply candidate.descriptor.unmarked context = .ok () ∧
      (checkActionWithContext policy .apply candidate.descriptor context = .ok () ↔
        (candidate.descriptor.touchesSystemWideState = true →
          policy.allowSystemWideApply = true)) := by
  obtain ⟨hid, hkind, hclass, hscope⟩ := sameIdentity_iff.mp hidentity
  have h := (checkActionWithContext_apply _ _ _).mp hsent
  have hmode : ModeAdmits policy candidate.descriptor := by
    have hm := h.mode
    unfold ModeAdmits at hm ⊢
    rw [hclass, hscope]
    exact hm
  have hexplicit : candidate.descriptor.effectScope.isExplicitTargetScope = true := by
    unfold ModeAdmits at hmode
    cases hm : policy.mode <;> rw [hm] at hmode
    case applyLowRisk =>
      revert hmode
      cases candidate.descriptor.effectScope <;>
        simp [ActionEffectScope.isLowRiskApplyScope, ActionEffectScope.isExplicitTargetScope]
    case applyMediumRisk => exact hmode.2.2
    all_goals exact hmode.elim
  -- every rule but the system-wide one, for a descriptor that differs from the candidate's in
  -- the mark
  have hrest : ∀ mark : Bool, (mark = true → policy.allowSystemWideApply = true) →
      checkActionWithContext policy .apply
        { candidate.descriptor with touchesSystemWideState := mark } context = .ok () := by
    intro mark hmark
    refine (checkActionWithContext_apply _ _ _).mpr ?_
    exact {
      named := by
        have hn := h.named
        unfold ActionDescriptor.Named at hn ⊢
        rw [← hid, ← hkind] at hn
        exact hn
      context := by
        obtain ⟨hq, hh, hw, hc, hr, hcap⟩ := h.context
        refine ⟨hq, hh, hw, hc, hr, ?_⟩
        rw [← hkind] at hcap
        exact hcap
      mode := hmode
      remote := h.remote
      systemWide := hmark
      persistent := by simp [CandidateAction.descriptor]
      enabled := by
        have he := h.enabled
        rw [← hkind] at he
        exact he
      notDenied := by
        have hd := h.notDenied
        rw [← hkind] at hd
        exact hd
      rollback := rfl
      explicitTarget := fun _ => hexplicit
      confidence := by simp [CandidateAction.descriptor] }
  refine ⟨hrest false (by simp), ?_⟩
  constructor
  · intro hcandidate
    exact ((checkActionWithContext_apply _ _ _).mp hcandidate).systemWide
  · intro hmark
    exact hrest _ hmark

/-- The policy takes the candidate but for its system-wide mark, its operation is allowlisted, and
the runner's own check passes. -/
structure UnmarkedPasses (candidate : CandidateAction) (policy : DaemonPolicy)
    (context : DaemonPolicyContext) : Prop where
  unmarked : checkActionWithContext policy .apply candidate.descriptor.unmarked context = .ok ()
  allowlisted : policy.systemWideAllowlist.allowsOperation candidate.operationKind.asStr = true
  built : checkActionWithContext policy .apply
    (.ofTuningAction candidate.actionId candidate.safetyClass) context = .ok ()

/-! ## A request that is accepted -/

section Accepted
variable {ω : Type}

/-- An action every step of which answers well. -/
def TuningAction.smooth (descriptor : ActionDescriptor) (token : RollbackToken) :
    TuningAction ω where
  descriptor := descriptor
  preflight := ret []
  dryRun := ret ⟨false, 0, 0, 0, []⟩
  applyWithPreparedRollback _ := ret token
  verify := ret ⟨true, 0, 0, 0, []⟩
  rollback _ := ret ()

/-- Without limits, nothing but the policy stands in the way of a smooth action. -/
theorem runAuditedAction_smooth (descriptor : ActionDescriptor) (token : RollbackToken)
    (policy : ActionRunPolicy) (clock : ActionPhase → Nat) (s : RunnerState ω)
    (hmode : policy.dryRun = false) (htasks : policy.maxAffectedTasks = none)
    (htime : policy.maxTotalDuration = none) (hdry : policy.check .dryRun descriptor = .ok ())
    (happly : policy.check .apply descriptor = .ok ()) :
    ((runAuditedAction (TuningAction.smooth descriptor token) {} policy clock).run s).result =
      .ok ⟨⟨true, 0, 0, 0, []⟩, some token⟩ := by
  have htimeout : ∀ phase, totalTimeoutError policy clock phase = none := by
    intro phase
    simp [totalTimeoutError, htime]
  have hphases : ((runPhases (TuningAction.smooth descriptor token) {} policy clock).run s).result =
      .ok ⟨⟨true, 0, 0, 0, []⟩, some token⟩ := by
    unfold runPhases
    simp [runPreflight, runDryRun, checkScope, verifyApplied, checkActionWithExplanation,
      failOnTimeout, htimeout, hmode, htasks, TuningAction.smooth, hdry, happly, invoke, bind,
      andThen, setAuditEvent, appendRunnerAuditEvent, record, assign, ret, pure]
  unfold runAuditedAction
  rw [result_bind_of_ok (a := .ok ⟨⟨true, 0, 0, 0, []⟩, some token⟩)
    (by simp [attempt, hphases])]
  rfl

/-- A host on which the targets are there and the factory builds a smooth action. -/
def WorkerHost.smooth (token : RollbackToken) : WorkerHost ω where
  now := 0
  revalidateCandidateTargets _ := .ok ()
  build candidate := .ok (TuningAction.smooth candidate.descriptor token)
  rejectionText _ := ""
  clock _ := 0

/-- A well-formed request for the candidate of `executable` that describes it as `sent`. -/
def WireApplyRequest.describing (executable : CandidateExecutablePlan) (sent : ActionDescriptor)
    (policy : DaemonPolicy) (context : DaemonPolicyContext) : WireApplyRequest where
  plan := {
    schemaVersion := privilegedWorkerIpcSchemaVersion
    planFile := {
      schemaVersion := candidatePlanFileSchemaVersion
      candidateName := executable.candidate.candidateName
      actionKind := executable.candidate.actionKind
      descriptor := sent
      objective := executable.candidate.objective
      operation := executable.candidate.operationKind
      manualOnlyReason := none
      executable := some executable }
    descriptor := sent
    objective := executable.candidate.objective
    operation := executable.candidate.operationKind
    evidenceCount := 1
    createdUnixNanos := 0 }
  policy := policy
  context := context
  maxPlanAgeNanos := 0

variable {context : DaemonPolicyContext} {policy : DaemonPolicy}

/-- A policy that takes an apply of an action takes its dry run too. -/
theorem checkActionWithContext_dryRun_of_apply {descriptor : ActionDescriptor}
    (h : checkActionWithContext policy .apply descriptor context = .ok ()) :
    checkActionWithContext policy .dryRun descriptor context = .ok () := by
  have happly := (checkActionWithContext_apply _ _ _).mp h
  have hmode : policy.mode.supportsApply = true := by
    have hm := happly.mode
    unfold ModeAdmits at hm
    cases hmo : policy.mode <;> simp_all [DaemonMode.supportsApply]
  refine (checkActionWithContext_ok _ _ _ _).mpr ⟨happly.named, ?_, ?_⟩
  · simpa [recordContextRules] using happly.context.capability
  · simp [explainAction, remoteTargetCountBlocksNonApply, hmode]

/-- No policy takes a high-risk action. -/
theorem not_highRisk_of_apply {descriptor : ActionDescriptor}
    (h : checkActionWithContext policy .apply descriptor context = .ok ()) :
    descriptor.safetyClass ≠ .highRisk := by
  intro hclass
  have hm := ((checkActionWithContext_apply _ _ _).mp h).mode
  unfold ModeAdmits at hm
  rw [hclass] at hm
  cases hmo : policy.mode <;> simp_all [SafetyClass.rank]

/-- Without a barrier, the worker's runner asks nothing but the policy. -/
theorem runWorkerAction_smooth (host : WorkerHost ω) (request : CandidateApplyRequest)
    (descriptor : ActionDescriptor) (token : RollbackToken)
    (h : checkActionWithContext request.policy .apply descriptor request.context = .ok ())
    (s : WorkerState ω) :
    ((runWorkerAction host request (TuningAction.smooth descriptor token) {}).run s).result =
      .ok ⟨⟨true, 0, 0, 0, []⟩, some token⟩ := by
  have hrun := runAuditedAction_smooth descriptor token (workerRunPolicy host request) host.clock
    (RunnerState.start (TuningAction.smooth descriptor token) (workerRunPolicy host request)
      "autotune candidate" s) rfl rfl rfl
    (by simp [workerRunPolicy, checkActionWithContext_dryRun_of_apply h])
    (by simp [workerRunPolicy, h])
  unfold runWorkerAction
  refine (result_bind_of_ok (congrArg (fun r => Except.ok (r, _)) hrun)).trans ?_
  rfl

/-- On a smooth host a validated request is carried out. -/
theorem applyCandidateInner_smooth {request : CandidateApplyRequest} (token : RollbackToken)
    (hvalid : validateCandidatePlanRequest 0 request .apply = .ok ())
    (hbuilt : checkActionWithContext request.policy .apply
      (.ofTuningAction request.plan.candidate.actionId request.plan.candidate.safetyClass)
      request.context = .ok ()) (s : WorkerState ω) :
    ((applyCandidateInner (WorkerHost.smooth token) request none).run s).result =
      .ok (⟨true, 0, 0, 0, []⟩, token) := by
  have hclass : request.plan.candidate.isHighRiskSystemAdjacent = false := by
    have hc := not_highRisk_of_apply hbuilt
    simpa [CandidateAction.isHighRiskSystemAdjacent, ActionDescriptor.ofTuningAction] using hc
  have hbuild : buildExecutorForCandidate (WorkerHost.smooth (ω := ω) token)
      request.plan.candidate =
      .ok (TuningAction.smooth (.ofTuningAction request.plan.candidate.actionId
        request.plan.candidate.safetyClass) token) := by
    simp [buildExecutorForCandidate, hclass, WorkerHost.smooth, TuningAction.smooth]
  have hran := runWorkerAction_smooth (WorkerHost.smooth token) request _ token hbuilt
    { s with barrierReached := false }
  unfold applyCandidateInner
  refine (result_bind_of_ok hvalid).trans ?_
  refine (result_bind_of_ok hbuild).trans ?_
  refine (result_bind_of_ok (a := ()) rfl).trans ?_
  refine (result_bind_of_ok hran).trans ?_
  rfl

/-- On a smooth host the worker carries out what passes its own checks. -/
theorem executeApplyRequest_smooth {executable : CandidateExecutablePlan}
    {sent : ActionDescriptor} (token : RollbackToken)
    (h : WorkerChecked executable.candidate sent policy context) (s : WorkerState ω) :
    ((executeApplyRequest (WorkerHost.smooth token)
      (.describing executable sent policy context) none).run s).result =
        .ok (⟨true, 0, 0, 0, []⟩, token) := by
  have hidentity : sent.sameIdentity sent = true := sameIdentity_iff.mpr ⟨rfl, rfl, rfl, rfl⟩
  have hnamed := ((checkActionWithContext_apply _ _ _).mp h.sent).named
  have hid : validateNonEmpty "ActionId" sent.actionId = .ok () := by
    simp [validateNonEmpty, hnamed.1]
  have hplan : (WireApplyRequest.describing executable sent policy context).plan.intoPlanRequest =
      .ok ⟨executable.candidate, executable.evidence, sent, executable.candidate.objective,
        executable.candidate.operationKind, 1, 0⟩ := by
    simp [PrivilegedWorkerCandidatePlan.intoPlanRequest, WireApplyRequest.describing, hid,
      hidentity]
  have hvalid : validateCandidatePlanRequest 0 ⟨⟨executable.candidate, executable.evidence, sent,
      executable.candidate.objective, executable.candidate.operationKind, 1, 0⟩, policy, context, 0⟩
      .apply = .ok () := by
    have hallow : (sent.effectScope.isSystemWideResource &&
        !policy.systemWideAllowlist.allowsOperation executable.candidate.operationKind.asStr) =
        false := by
      by_cases hscope : sent.effectScope.isSystemWideResource = true
      · simp [hscope, h.allowlisted hscope]
      · simp [hscope]
    simp [validateCandidatePlanRequest, h.identity, h.sent, hallow]
  unfold executeApplyRequest
  rw [result_ofExcept_bind hplan]
  dsimp only [WireApplyRequest.describing]
  exact applyCandidateInner_smooth token hvalid h.built s

end Accepted

/-! ## The worker's answer and the candidate -/

/-- A system-wide candidate works on a resource that needs an allowlist entry. -/
theorem isSystemWideResource_of_touches (h : candidate.descriptor.touchesSystemWideState = true) :
    candidate.effectScope.isSystemWideResource = true := by
  revert h
  cases hv : candidate.variant <;>
    simp [CandidateAction.descriptor, CandidateAction.effectScope, hv,
      ActionEffectScope.isSystemWideResource]

/-- What the worker checked of some descriptor it also checked of the candidate without its mark. -/
theorem WorkerChecked.unmarkedPasses {sent : ActionDescriptor}
    (h : WorkerChecked candidate sent policy context)
    (htouches : candidate.descriptor.touchesSystemWideState = true) :
    UnmarkedPasses candidate policy context where
  unmarked := (applyAdmitted_candidate h.identity h.sent).1
  allowlisted := by
    obtain ⟨-, -, -, hscope⟩ := sameIdentity_iff.mp h.identity
    refine h.allowlisted ?_
    rw [← hscope]
    exact isSystemWideResource_of_touches htouches
  built := h.built

theorem UnmarkedPasses.workerChecked (h : UnmarkedPasses candidate policy context) :
    WorkerChecked candidate candidate.descriptor.unmarked policy context where
  identity := sameIdentity_iff.mpr ⟨rfl, rfl, rfl, rfl⟩
  allowlisted _ := h.allowlisted
  sent := h.unmarked
  built := h.built

/-- **What the worker authorises.**  Whatever accompanies a candidate, the policy takes the
candidate the worker executes, exactly when the candidate is not system-wide, or the policy permits
system-wide applies, or the candidate fails already without its system-wide mark. -/
theorem worker_authorises_iff {ω : Type} [Inhabited ω] (executable : CandidateExecutablePlan)
    (policy : DaemonPolicy) (context : DaemonPolicyContext) :
    (∀ (host : WorkerHost ω) (wire : WireApplyRequest)
        (prepared : Option (RollbackToken → Op (WorkerState ω) AnyError Unit)) (s : WorkerState ω)
        (answer : ActionState × RollbackToken),
        wire.plan.planFile.executable = some executable → wire.policy = policy →
        wire.context = context →
        ((executeApplyRequest host wire prepared).run s).result = .ok answer →
        checkActionWithContext policy .apply executable.candidate.descriptor context = .ok ()) ↔
      (executable.candidate.descriptor.touchesSystemWideState = true →
        policy.allowSystemWideApply = false →
        ¬ UnmarkedPasses executable.candidate policy context) := by
  constructor
  · intro hauthorises htouches hallow hpasses
    have hchecked := hpasses.workerChecked
    have hran := executeApplyRequest_smooth sampleToken hchecked (⟨default, false⟩ : WorkerState ω)
    have hcandidate := hauthorises _ _ _ _ _ rfl rfl rfl hran
    have hmark := (applyAdmitted_candidate hchecked.identity hchecked.sent).2.mp hcandidate htouches
    rw [hallow] at hmark
    cases hmark
  · rintro hcondition host wire prepared s answer hexecutable rfl rfl haccepted
    obtain ⟨executed, hexecuted, sent, hchecked⟩ := executeApplyRequest_checked haccepted
    rw [hexecutable] at hexecuted
    cases hexecuted
    refine (applyAdmitted_candidate hchecked.identity hchecked.sent).2.mpr fun htouches => ?_
    by_cases hallow : wire.policy.allowSystemWideApply = true
    · exact hallow
    · exact absurd (hchecked.unmarkedPasses htouches) (hcondition htouches (by simpa using hallow))

/-- A medium-risk policy that allowlists the swappiness knob and permits no system-wide apply. -/
def policyWithoutSystemWideApply : DaemonPolicy :=
  { DaemonPolicy.applyMediumRisk .autotuneRuntime with systemWideAllowlist := ⟨["vm_swappiness"]⟩ }

/-- A change of `vm.swappiness`. -/
def swappinessPlan : CandidateExecutablePlan where
  candidate := ⟨.vmKnob, "vm-swappiness", "vm-knob:swappiness", .reversibleMediumRisk,
    .vmSwappiness, .desktopInteractivity, none, "10"⟩
  evidence := 1
  executable := by decide

/-- The policy rejects the candidate; sent with the mark taken off its descriptor, it is
executed. -/
theorem swappiness_executed_without_permission :
    checkActionWithContext policyWithoutSystemWideApply .apply swappinessPlan.candidate.descriptor
      .clear =
        .error .systemWideActionBlocked ∧
      ((executeApplyRequest (WorkerHost.smooth (ω := Unit) sampleToken)
        (.describing swappinessPlan swappinessPlan.candidate.descriptor.unmarked
          policyWithoutSystemWideApply .clear) none).run ⟨(), false⟩).result =
        .ok (⟨true, 0, 0, 0, []⟩, sampleToken) := by
  refine ⟨by decide +kernel, ?_⟩
  have hpasses : UnmarkedPasses swappinessPlan.candidate policyWithoutSystemWideApply .clear :=
    ⟨by decide +kernel, by decide, by decide +kernel⟩
  exact executeApplyRequest_smooth sampleToken hpasses.workerChecked ⟨(), false⟩

end Stutter

import StutterProof.JournaledAction
import StutterProof.PrivilegedRequest

/-! # The two-phase apply over the socket

A prepared apply is an exchange on one connection: the controller sends the plan, the worker
prepares and answers with its token and the token's digest, the controller journals the token and
commits to the digest, and only then does the worker write.

The worker's part is a `WorkerProgram`: the audited run of the action, one host access at a time,
suspended at the commit barrier.  `SessionStep` interleaves it with the controller's part.  Either
side may die between any two steps; a line of the stream may be lost, cut or repeated, and what the
controller reads need not be what the worker sent.

`prepared_write_after_hook` is the write-ahead guarantee of the joint system. -/
namespace Stutter
open Fallible

/-! ## The worker's program -/

/-- One mutable access of the worker to the host. -/
inductive HostMutation where
  | issue (change : HostWrite)
  | takeBack (change : HostWrite)
  | undo (token : RollbackToken) (undone : HostWrite → Bool)
  | restored (token : RollbackToken)

def HostMutation.effect : HostMutation → World → World
  | issue change, w => w.issue change
  | takeBack change, w => w.takeBack change
  | undo token undone, w => w.restore token undone
  | restored token, w => (w.restore token fun _ => true).discharge token

/-- What the worker does, access by access, with the host's answers chosen: quantifying over
programs is quantifying over what the host may answer. -/
inductive WorkerProgram (ρ : Type) where
  | finish (result : ρ)
  | mutate (mutation : HostMutation) (next : WorkerProgram ρ)
  | prepared (token : RollbackToken) (next : Except AnyError Unit → WorkerProgram ρ)

namespace WorkerProgram
variable {ρ ρ' ε : Type}

/-- An action's script, continued with its result. -/
def ofScript (next : ρ → WorkerProgram ρ') : ApplyScript ρ → WorkerProgram ρ'
  | .finish result => next result
  | .write change rest => mutate (.issue change) (ofScript next rest)
  | .takeBack change rest => mutate (.takeBack change) (ofScript next rest)
  | .prepared token rest => prepared token fun answer => ofScript next (rest answer)

/-- Go on with the result. -/
def andThen (next : ρ → WorkerProgram ρ') : WorkerProgram ρ → WorkerProgram ρ'
  | finish result => next result
  | mutate mutation rest => mutate mutation (rest.andThen next)
  | prepared token rest => prepared token fun answer => (rest answer).andThen next

/-- Note whether the barrier was reached. -/
def noting (reached : Bool) : WorkerProgram ρ → WorkerProgram (ρ × Bool)
  | finish result => finish (result, reached)
  | mutate mutation rest => mutate mutation (rest.noting reached)
  | prepared token rest => prepared token fun answer => (rest answer).noting true

/-- Run the program against a hook that answers at once. -/
def perform (hook : RollbackToken → Op TransactionState AnyError Unit) :
    WorkerProgram ρ → Op TransactionState ε ρ
  | finish result => Op.ret result
  | mutate mutation next => do
    onWorld (Op.update mutation.effect)
    next.perform hook
  | prepared token next => do
    let answer ← Op.attempt (hook token)
    (next answer).perform hook

theorem perform_ofScript (hook : RollbackToken → Op TransactionState AnyError Unit)
    (next : ρ → WorkerProgram ρ') (script : ApplyScript ρ) :
    ((ofScript next script).perform hook : Op TransactionState ε ρ') =
      script.perform hook >>= fun result => (next result).perform hook := by
  induction script with
  | finish result =>
    exact (Op.ret_andThen result fun r => ((next r).perform hook : Op TransactionState ε ρ')).symm
  | write change rest ih =>
    rw [ofScript, perform, ApplyScript.perform, bind_assoc]
    simp only [ih]
    rfl
  | takeBack change rest ih =>
    rw [ofScript, perform, ApplyScript.perform, bind_assoc]
    simp only [ih]
    rfl
  | prepared token rest ih =>
    rw [ofScript, perform, ApplyScript.perform, bind_assoc]
    simp only [ih]

end WorkerProgram

/-- A rollback of `token`, continued with its answer. -/
def rollbackProgram {ρ : Type} (token : RollbackToken) (answer : RollbackAnswer)
    (next : Except AnyError Unit → WorkerProgram ρ) : WorkerProgram ρ :=
  .mutate (.undo token answer.undone)
    (match answer.error with
    | some e => next (.error e)
    | none => .mutate (.restored token) (next (.ok ())))

/-- What the runner makes of the action's apply: verify it, or take it back. -/
def settleProgram (action : PreparedAction) :
    ApplyResult → WorkerProgram (Except ActionError AuditedActionResult)
  | .ok token =>
    match action.verify with
    | .ok state => .finish (.ok ⟨state, some token⟩)
    | .error verifyError => rollbackProgram token (action.rollback token) fun
      | .ok _ => .finish (.error (.verifyRollbackCompleted verifyError.text))
      | .error rollbackError =>
        .finish (.error (.emergencyRollbackFailure verifyError.text rollbackError.text))
  | .error ⟨source, some token⟩ => rollbackProgram token (action.rollback token) fun
    | .ok _ =>
      .finish (.error (.apply (s!"apply failed: {source.text}; partial rollback attempted and " ++
        s!"completed successfully")))
    | .error rollbackError => .finish (.error (.emergencyRollbackFailure
        s!"apply failed: {source.text}" rollbackError.text))
  | .error ⟨source, none⟩ => .finish (.error (.applyError source))

/-- The audited run of an action without limits, as a program. -/
def runnerProgram (action : PreparedAction) (policy : ActionRunPolicy) :
    WorkerProgram (Except ActionError AuditedActionResult) :=
  match action.preflight with
  | .error blocker => .finish (.error (.preflight blocker.text))
  | .ok _ =>
    match policy.check .dryRun action.descriptor with
    | .error reason => .finish (.error (.policyRejected reason))
    | .ok _ =>
      match action.dryRun with
      | .error failure => .finish (.error (.dryRunError failure))
      | .ok _ =>
        match policy.check .apply action.descriptor with
        | .error reason => .finish (.error (.policyRejected reason))
        | .ok _ => .ofScript (settleProgram action) action.script

/-- A script never fails of itself: it ends with a result, whatever error type it is run at. -/
theorem ApplyScript.perform_run {ρ : Type}
    (hook : RollbackToken → Op TransactionState AnyError Unit) (script : ApplyScript ρ)
    (s : TransactionState) :
    ∃ result t visited, ∀ ε : Type,
      (script.perform hook : Op TransactionState ε ρ).run s = ⟨.ok result, t, visited⟩ := by
  induction script generalizing s with
  | finish result => exact ⟨result, s, [], fun ε => rfl⟩
  | write change rest ih =>
    obtain ⟨result, t, visited, h⟩ := ih { s with world := s.world.issue change }
    refine ⟨result, t, { s with world := s.world.issue change } :: visited, fun ε => ?_⟩
    simp [perform, bind, Op.andThen, onWorld, Op.zoom, Op.update, Op.act, h]
  | takeBack change rest ih =>
    obtain ⟨result, t, visited, h⟩ := ih { s with world := s.world.takeBack change }
    refine ⟨result, t, { s with world := s.world.takeBack change } :: visited, fun ε => ?_⟩
    simp [perform, bind, Op.andThen, onWorld, Op.zoom, Op.update, Op.act, h]
  | prepared token rest ih =>
    obtain ⟨result, t, visited, h⟩ := ih ((hook token).run s).result ((hook token).run s).state
    refine ⟨result, t, ((hook token).run s).visited ++ visited, fun ε => ?_⟩
    simp [perform, bind, Op.andThen, Op.attempt, h]

/-- The terminal audit line changes neither the answer nor the world. -/
theorem runAuditedAction_run {ω : Type} (action : TuningAction ω) (hooks : ActionHooks ω)
    (policy : ActionRunPolicy) (clock : ActionPhase → Nat) (s : RunnerState ω) :
    ((runAuditedAction action hooks policy clock).run s).result =
        ((runPhases action hooks policy clock).run s).result ∧
      ((runAuditedAction action hooks policy clock).run s).state.world =
        ((runPhases action hooks policy clock).run s).state.world := by
  unfold runAuditedAction appendTerminalAudit
  cases hr : ((runPhases action hooks policy clock).run s).result <;>
    simp [bind, Op.andThen, Op.attempt, hr, Op.ofExcept, Op.assign, Op.ret, setAuditEvent]

/-- **The program is the audited run.**  Against a hook that answers at once, it ends with the
runner's result in the world the runner leaves. -/
theorem perform_runnerProgram {action : PreparedAction} {policy : ActionRunPolicy}
    (hook : RollbackToken → Op TransactionState AnyError Unit) (clock : ActionPhase → Nat)
    (command : String) (s : TransactionState) (hmode : policy.dryRun = false)
    (htasks : policy.maxAffectedTasks = none) (htime : policy.maxTotalDuration = none) :
    let program := ((runnerProgram action policy).perform hook : Op TransactionState Unit _).run s
    let runner := (runAuditedAction action.toTuningAction { afterPrepare := hook } policy clock).run
      (RunnerState.start action.toTuningAction policy command s)
    program.result = .ok runner.result ∧ program.state = runner.state.world := by
  have htimeout : ∀ phase, totalTimeoutError policy clock phase = none := by
    intro phase
    simp [totalTimeoutError, htime]
  dsimp only
  rw [(runAuditedAction_run _ _ _ _ _).1, (runAuditedAction_run _ _ _ _ _).2]
  unfold runnerProgram runPhases
  cases hpreflight : action.preflight with
  | error blocker =>
    simp [runPreflight, PreparedAction.toTuningAction, hpreflight, WorkerProgram.perform, bind,
      Op.andThen, invoke, setAuditEvent, Op.assign, Op.ofExcept, Op.fail, Op.ret, RunnerState.start]
  | ok warnings =>
    cases hdry : policy.check .dryRun action.descriptor with
    | error reason =>
      simp [runPreflight, runDryRun, checkActionWithExplanation, failOnTimeout, htimeout, hmode,
        hdry, PreparedAction.toTuningAction, hpreflight, WorkerProgram.perform, bind, Op.andThen,
        invoke,
        record, setAuditEvent, appendRunnerAuditEvent, Op.assign, Op.ofExcept, Op.fail, Op.ret,
        RunnerState.start]
    | ok _ =>
      cases hran : action.dryRun with
      | error failure =>
        simp [runPreflight, runDryRun, checkActionWithExplanation, failOnTimeout, htimeout, hmode,
          hdry, PreparedAction.toTuningAction, hpreflight, hran, WorkerProgram.perform, bind,
          Op.andThen,
          invoke, record, setAuditEvent, appendRunnerAuditEvent, Op.assign, Op.ofExcept, Op.fail,
          Op.ret, RunnerState.start]
      | ok state =>
        cases happly : policy.check .apply action.descriptor with
        | error reason =>
          simp [runPreflight, runDryRun, checkScope, checkActionWithExplanation, failOnTimeout,
            htimeout, hmode, htasks, hdry, happly, PreparedAction.toTuningAction, hpreflight, hran,
            WorkerProgram.perform, bind, Op.andThen, invoke, record, setAuditEvent,
            appendRunnerAuditEvent, Op.assign, Op.ofExcept, Op.fail, Op.ret, RunnerState.start,
            pure]
        | ok _ =>
          obtain ⟨result, t, visited, hscript⟩ := ApplyScript.perform_run hook action.script s
          rw [WorkerProgram.perform_ofScript]
          simp only [runPreflight, runDryRun, checkScope, checkActionWithExplanation, failOnTimeout,
            htimeout, hmode, htasks, hdry, happly, PreparedAction.toTuningAction, hpreflight, hran,
            bind, Op.andThen, invoke, record, setAuditEvent, appendRunnerAuditEvent, Op.assign,
            Op.ofExcept, Op.ret, RunnerState.start, pure, hscript]
          rcases result with ⟨source, _ | token⟩ | token
          · simp [hscript, settleProgram, WorkerProgram.perform, Op.ret, Op.fail]
          · cases herror : (action.rollback token).error <;>
              simp [hscript, settleProgram, rollbackProgram, WorkerProgram.perform,
                rollbackPartialApply,
                rollbackToken, herror, HostMutation.effect, onWorld, Op.zoom, Op.update, Op.act,
                Op.ret, Op.fail, bind, Op.andThen, invoke, setAuditEvent, auditRollback,
                appendRunnerAuditEvent, Op.assign, pure]
          · cases hverify : action.verify with
            | ok verified =>
              simp [hscript, settleProgram, hverify, WorkerProgram.perform, verifyApplied, htimeout,
                Op.ret, bind, Op.andThen, invoke, setAuditEvent, appendRunnerAuditEvent, Op.assign,
                pure]
            | error verifyError =>
              cases herror : (action.rollback token).error <;>
                simp [hscript, settleProgram, hverify, rollbackProgram, WorkerProgram.perform,
                  verifyApplied, htimeout, rollbackAfterVerifyFailure, rollbackToken, herror,
                  HostMutation.effect,
                  onWorld, Op.zoom, Op.update, Op.act, Op.ret, Op.fail, bind, Op.andThen, invoke,
                  setAuditEvent, auditRollback, appendRunnerAuditEvent, Op.assign, pure]

/-! ## The barrier of the program -/

namespace WorkerProgram
variable {ρ ρ' : Type}

/-- No barrier is left. -/
inductive Plain : WorkerProgram ρ → Prop where
  | finish (result : ρ) : Plain (finish result)
  | mutate {mutation : HostMutation} {next : WorkerProgram ρ} (h : Plain next) :
      Plain (mutate mutation next)

/-- Nothing is touched before the one barrier, and nothing after a barrier that failed. -/
inductive Guarded : WorkerProgram ρ → Prop where
  | finish (result : ρ) : Guarded (finish result)
  | prepared {token : RollbackToken} {next : Except AnyError Unit → WorkerProgram ρ}
      (habort : ∀ e, ∃ result, next (.error e) = finish result) (hcommit : Plain (next (.ok ()))) :
      Guarded (prepared token next)

variable {next : ρ → WorkerProgram ρ'} {program : WorkerProgram ρ}

theorem Plain.andThen (hnext : ∀ r, Plain (next r)) (h : Plain program) :
    Plain (program.andThen next) := by
  induction h with
  | finish result => exact hnext result
  | mutate _ ih => exact .mutate ih

/-- What follows a guarded program may not touch anything itself. -/
theorem Guarded.andThen (hnext : ∀ r, ∃ r', next r = .finish r') (h : Guarded program) :
    Guarded (program.andThen next) := by
  cases h with
  | finish result =>
    obtain ⟨r', hr'⟩ := hnext result
    rw [WorkerProgram.andThen, hr']
    exact .finish r'
  | prepared habort hcommit =>
    refine .prepared (fun e => ?_) (hcommit.andThen fun r => ?_)
    · obtain ⟨result, hresult⟩ := habort e
      obtain ⟨r', hr'⟩ := hnext result
      exact ⟨r', by rw [hresult, WorkerProgram.andThen, hr']⟩
    · obtain ⟨r', hr'⟩ := hnext r
      rw [hr']
      exact .finish r'

theorem Plain.noting {reached : Bool} (h : Plain program) : Plain (program.noting reached) := by
  induction h with
  | finish result => exact .finish _
  | mutate _ ih => exact .mutate ih

theorem Guarded.noting {reached : Bool} (h : Guarded program) :
    Guarded (program.noting reached) := by
  cases h with
  | finish result => exact .finish _
  | prepared habort hcommit =>
    refine .prepared (fun e => ?_) hcommit.noting
    obtain ⟨result, hresult⟩ := habort e
    exact ⟨_, by rw [hresult, WorkerProgram.noting]⟩

theorem plain_ofScript_committed {settled : List HostWrite → ρ → Prop} {token : RollbackToken}
    {issued : List HostWrite} {script : ApplyScript ρ}
    (hnext : ∀ r, Plain (next r)) (h : ApplyScript.Committed settled token issued script) :
    Plain (ofScript next script) := by
  induction h with
  | finish _ => exact hnext _
  | write _ _ ih => exact .mutate ih
  | takeBack _ ih => exact .mutate ih

/-- A prepared script keeps its guard if a refused result is not followed by an access. -/
theorem guarded_ofScript_prepared {settled : List HostWrite → ρ → Prop} {refused : ρ → Prop}
    {script : ApplyScript ρ} (hnext : ∀ r, Plain (next r))
    (hrefused : ∀ r, refused r → ∃ r', next r = finish r')
    (h : ApplyScript.Prepared settled refused script) : Guarded (ofScript next script) := by
  cases h with
  | refuse hr =>
    obtain ⟨r', hr'⟩ := hrefused _ hr
    rw [ofScript, hr']
    exact .finish r'
  | commit habort hcommit =>
    refine .prepared (fun e => ?_) (plain_ofScript_committed hnext hcommit)
    obtain ⟨result, hresult, hr⟩ := habort e
    obtain ⟨r', hr'⟩ := hrefused result hr
    exact ⟨r', by rw [hresult, ofScript, hr']⟩

end WorkerProgram

theorem plain_rollbackProgram {ρ : Type} {token : RollbackToken} {answer : RollbackAnswer}
    {next : Except AnyError Unit → WorkerProgram ρ} (hnext : ∀ r, (next r).Plain) :
    (rollbackProgram token answer next).Plain := by
  refine .mutate ?_
  cases answer.error with
  | some e => exact hnext _
  | none => exact .mutate (hnext _)

theorem plain_settleProgram (action : PreparedAction) (result : ApplyResult) :
    (settleProgram action result).Plain := by
  rcases result with ⟨source, _ | token⟩ | token
  · exact .finish _
  · unfold settleProgram
    refine plain_rollbackProgram fun r => ?_
    cases r <;> exact .finish _
  · unfold settleProgram
    cases action.verify with
    | ok state => exact .finish _
    | error verifyError =>
      refine plain_rollbackProgram fun r => ?_
      cases r <;> exact .finish _

/-- The audited run of a prepared action touches nothing before its barrier: preflight, policy and
dry run only read, and an apply that was refused has no token to roll back. -/
theorem guarded_runnerProgram (action : PreparedAction) (policy : ActionRunPolicy) :
    (runnerProgram action policy).Guarded := by
  unfold runnerProgram
  split
  · exact .finish _
  · split
    · exact .finish _
    · split
      · exact .finish _
      · split
        · exact .finish _
        · refine WorkerProgram.guarded_ofScript_prepared (plain_settleProgram action) ?_
            action.isPrepared
          rintro (⟨source, _ | token⟩ | token) hr
          · exact ⟨_, rfl⟩
          · exact hr.elim
          · exact hr.elim

/-! ## The worker's answer to a prepared apply -/

/-- What the worker's answer depends on outside: the time, the targets, the action its factory
builds, and the texts of its errors. -/
structure PreparedWorkerHost where
  now : Nat
  revalidateCandidateTargets : CandidateAction → Except AnyError Unit
  build : CandidateAction → Except ActionError PreparedAction
  rejectionText : PolicyRejection → String
  refusalText : WorkerRefusal → String

/-- The answer on the wire: an error is its text. -/
abbrev WorkerAnswer := Except String (ActionState × RollbackToken)

section Worker
variable (host : PreparedWorkerHost)

/-- The built action describes itself by the trait's defaults. -/
def PreparedWorkerHost.action (candidate : CandidateAction) : Except WorkerRefusal PreparedAction :=
  if candidate.isHighRiskSystemAdjacent then
    .error (.highRiskApplyNotImplemented candidate.candidateName candidate.actionKind)
  else
    match host.build candidate with
    | .error e => .error (.action e)
    | .ok action =>
      .ok { action with descriptor := .ofTuningAction candidate.actionId candidate.safetyClass }

def preparedRunPolicy (request : CandidateApplyRequest) : ActionRunPolicy where
  check intent descriptor :=
    match checkActionWithContext request.policy intent descriptor request.context with
    | .ok () => .ok ()
    | .error rejection => .error (host.rejectionText rejection)
  maxAffectedTasks := none
  maxTotalDuration := none
  dryRun := false

/-- What `apply_candidate_inner` makes of the run, `reached` saying whether the barrier was. -/
def applyOutcome (ran : Except ActionError AuditedActionResult × Bool) :
    Except WorkerRefusal (ActionState × RollbackToken) :=
  match ran with
  | (.error e, _) => .error (.action e)
  | (.ok _, false) => .error .preparedHookNotInvoked
  | (.ok outcome, true) =>
    match outcome.rollback with
    | some token => .ok (outcome.state, token)
    | none => .error .missingRollbackToken

/-- The checks of an `ApplyPrepared` request: the request and the action to run. -/
def acceptPrepared (wire : WireApplyRequest) :
    Except WorkerRefusal (CandidateApplyRequest × PreparedAction) := do
  let plan ← wire.plan.intoPlanRequest
  let request : CandidateApplyRequest := ⟨plan, wire.policy, wire.context, wire.maxPlanAgeNanos⟩
  validateCandidatePlanRequest host.now request .apply
  (host.revalidateCandidateTargets plan.candidate).mapError .targetRevalidation
  let action ← host.action plan.candidate
  if plan.candidate.preparedBeforeMutation then return (request, action)
  else throw (.preparedTransactionMissing plan.candidate.actionKind)

/-- The worker's whole answer to an `ApplyPrepared` request. -/
def applyPreparedProgram (wire : WireApplyRequest) : WorkerProgram WorkerAnswer :=
  match acceptPrepared host wire with
  | .error refusal => .finish (.error (host.refusalText refusal))
  | .ok (request, action) =>
    ((runnerProgram action (preparedRunPolicy host request)).noting false).andThen fun ran =>
      .finish ((applyOutcome ran).mapError host.refusalText)

theorem guarded_applyPreparedProgram (wire : WireApplyRequest) :
    (applyPreparedProgram host wire).Guarded := by
  unfold applyPreparedProgram
  split
  · exact .finish _
  · exact (guarded_runnerProgram _ _).noting.andThen fun r => ⟨_, rfl⟩

end Worker

/-! ## The exchange

The digest is a string in the source; only its equality is used. -/

/-- A line of the stream: a frame, or bytes that decode as none. -/
inductive Line (α : Type) where
  | frame (message : α)
  | malformed

/-- What one `read_line` answers; `closed` is a read of nothing. -/
inductive ReadOutcome (α : Type) where
  | line (content : Line α)
  | closed
  | timedOut
  | failed (error : AnyError)

/-- The requests of the exchange. -/
inductive PrivilegedWorkerRequest (δ : Type) where
  | applyPrepared (wire : WireApplyRequest)
  | commitPrepared (commit : Bool) (snapshotDigest : δ)

/-- The worker's answers; `other` is one this exchange does not expect. -/
inductive PrivilegedWorkerResponse (δ : Type) where
  | prepared (rollback : RollbackToken) (snapshotDigest : δ)
  | apply (result : ActionState × RollbackToken)
  | error (message : String)
  | other

/-- Where the controller's `apply_candidate_prepared` stands. -/
inductive ClientPhase (δ : Type) where
  | sending (wire : WireApplyRequest)
  | awaitingPrepared
  | hooking (token : RollbackToken) (digest : δ)
  | answering (decision : Except AnyError Unit) (digest : δ)
  | awaitingResult
  | returned (result : Except AnyError (ActionState × RollbackToken))
  | crashed

/-- Where the worker's handling of the connection stands. -/
inductive WorkerPhase where
  | reading
  | running (program : WorkerProgram WorkerAnswer)
  | waiting (token : RollbackToken) (next : Except AnyError Unit → WorkerProgram WorkerAnswer)
  | closed
  | crashed

/-- What happened in a session, in order. -/
inductive ExchangeEvent (δ : Type) where
  | prepared (token : RollbackToken)
  | hookReturned (token : RollbackToken) (result : Except AnyError Unit)
  | answered (token : RollbackToken) (outcome : ReadOutcome (PrivilegedWorkerRequest δ))
  | mutated (mutation : HostMutation)

section Exchange
variable {σ δ : Type} [DecidableEq δ] (digest : RollbackToken → δ)

/-- The controller on the answer to its request: it asks its hook about a token only if the digest
is the token's own. -/
def afterPreparedRead : ReadOutcome (PrivilegedWorkerResponse δ) → ClientPhase δ
  | .line (.frame (.prepared token snapshotDigest)) =>
    if digest token = snapshotDigest then .hooking token snapshotDigest
    else .answering (.error (.message
      "the worker reported a snapshot digest that does not match its token")) snapshotDigest
  | .line (.frame (.error message)) => .returned (.error (.message message))
  | .line (.frame _) => .returned (.error (.message "unexpected privileged worker response"))
  | .line .malformed => .returned (.error (.message "failed to decode privileged worker response"))
  | .closed => .returned (.error (.message "empty privileged worker response"))
  | .timedOut => .returned (.error (.message "failed to read privileged worker response"))
  | .failed e => .returned (.error e)

/-- The controller once its decision is sent. -/
def afterCommitSent : Except AnyError Unit → ClientPhase δ
  | .ok _ => .awaitingResult
  | .error e => .returned (.error e)

/-- The controller on the last answer. -/
def afterResultRead : ReadOutcome (PrivilegedWorkerResponse δ) →
    Except AnyError (ActionState × RollbackToken)
  | .line (.frame (.apply result)) => .ok result
  | .line (.frame (.error message)) => .error (.message message)
  | .line (.frame _) => .error (.message "unexpected privileged worker response")
  | .line .malformed => .error (.message "failed to decode privileged worker response")
  | .closed => .error (.message "empty privileged worker response")
  | .timedOut => .error (.message "failed to read privileged worker response")
  | .failed e => .error e

/-- The worker on the first line of a connection. -/
def afterRequestRead (host : PreparedWorkerHost) :
    ReadOutcome (PrivilegedWorkerRequest δ) → WorkerProgram WorkerAnswer
  | .line (.frame (.applyPrepared wire)) => applyPreparedProgram host wire
  | .line (.frame (.commitPrepared _ _)) =>
    .finish (.error ("privileged_commit_without_prepare: a " ++
      "commit is only valid as the answer to a prepare"))
  | .line .malformed =>
    .finish (.error ("privileged_worker_decode_request_failed: invalid worker " ++
      "request JSON"))
  | .closed => .finish (.error "empty privileged worker request")
  | .timedOut | .failed _ => .finish (.error "failed to read privileged worker request")

/-- `CommitExchange::prepare_and_wait` on the controller's answer: nothing but a commit to the
digest of the prepared token lets the apply go on. -/
def prepareAndWait (token : RollbackToken) :
    ReadOutcome (PrivilegedWorkerRequest δ) → Except AnyError Unit
  | .closed => .error (.message "the controller closed the connection after the prepare")
  | .line (.frame (.commitPrepared true snapshotDigest)) =>
    if snapshotDigest = digest token then .ok ()
    else .error (.message "the commit names a different snapshot than the one prepared")
  | .line (.frame (.commitPrepared false _)) =>
    .error (.message "the controller aborted the prepared apply")
  | .line _ => .error (.message "the answer to the prepare was not a commit")
  | .timedOut => .error (.message "the commit expired")
  | .failed e => .error e

/-- The response frame of the worker's answer. -/
def WorkerAnswer.response : WorkerAnswer → PrivilegedWorkerResponse δ
  | .ok result => .apply result
  | .error message => .error message

/-- One connection: where both sides stand, the lines under way, and what happened. -/
structure Session (δ : Type) where
  controller : ClientPhase δ
  worker : WorkerPhase
  toWorker : List (Line (PrivilegedWorkerRequest δ))
  toController : List (Line (PrivilegedWorkerResponse δ))
  log : List (ExchangeEvent δ)

/-- A connection that was just made. -/
def Session.start (wire : WireApplyRequest) : Session δ := ⟨.sending wire, .reading, [], [], []⟩

/-- A read takes the first line, or comes back without one. -/
inductive Reads {α : Type} : List (Line α) → ReadOutcome α → List (Line α) → Prop where
  | line (content : Line α) (rest : List (Line α)) : Reads (content :: rest) (.line content) rest
  | closed (lines : List (Line α)) : Reads lines .closed lines
  | timedOut (lines : List (Line α)) : Reads lines .timedOut lines
  | failed (lines : List (Line α)) (error : AnyError) : Reads lines (.failed error) lines

variable (hook : RollbackToken → Op σ AnyError Unit)

/-- One step of one side, or a fault of the connection.  `σ` is the controller's store, which its
hook works on. -/
inductive SessionStep : σ × Session δ → σ × Session δ → Prop where
  -- the controller
  | sendRequest {store : σ} {s : Session δ} {wire : WireApplyRequest}
      (hphase : s.controller = .sending wire) :
      SessionStep (store, s) (store, { s with
        controller := .awaitingPrepared, toWorker := s.toWorker ++ [.frame (.applyPrepared wire)] })
  | readPrepared {store : σ} {s : Session δ} {outcome : ReadOutcome (PrivilegedWorkerResponse δ)}
      {rest : List (Line (PrivilegedWorkerResponse δ))} (hphase : s.controller = .awaitingPrepared)
      (hread : Reads s.toController outcome rest) :
      SessionStep (store, s) (store, { s with
        controller := afterPreparedRead digest outcome, toController := rest })
  | runHook {store : σ} {s : Session δ} {token : RollbackToken} {snapshotDigest : δ}
      (hphase : s.controller = .hooking token snapshotDigest) :
      SessionStep (store, s) (((hook token).run store).state, { s with
        controller := .answering ((hook token).run store).result snapshotDigest
        log := s.log ++ [.hookReturned token ((hook token).run store).result] })
  | sendCommit {store : σ} {s : Session δ} {decision : Except AnyError Unit} {snapshotDigest : δ}
      (hphase : s.controller = .answering decision snapshotDigest) :
      SessionStep (store, s) (store, { s with
        controller := afterCommitSent decision
        toWorker := s.toWorker ++ [.frame (.commitPrepared decision.isOk snapshotDigest)] })
  | readResult {store : σ} {s : Session δ} {outcome : ReadOutcome (PrivilegedWorkerResponse δ)}
      {rest : List (Line (PrivilegedWorkerResponse δ))} (hphase : s.controller = .awaitingResult)
      (hread : Reads s.toController outcome rest) :
      SessionStep (store, s) (store, { s with
        controller := .returned (afterResultRead outcome), toController := rest })
  | controllerFails {store : σ} {s : Session δ} (e : AnyError) :
      SessionStep (store, s) (store, { s with controller := .returned (.error e) })
  | controllerCrashes {store store' : σ} {s : Session δ} :
      SessionStep (store, s) (store', { s with controller := .crashed })
  -- the worker
  | readRequest {store : σ} {s : Session δ} {outcome : ReadOutcome (PrivilegedWorkerRequest δ)}
      {rest : List (Line (PrivilegedWorkerRequest δ))} (host : PreparedWorkerHost)
      (hphase : s.worker = .reading) (hread : Reads s.toWorker outcome rest) :
      SessionStep (store, s) (store, { s with
        worker := .running (afterRequestRead host outcome), toWorker := rest })
  | mutate {store : σ} {s : Session δ} {mutation : HostMutation} {next : WorkerProgram WorkerAnswer}
      (hphase : s.worker = .running (.mutate mutation next)) :
      SessionStep (store, s) (store, { s with
        worker := .running next, log := s.log ++ [.mutated mutation] })
  | prepare {store : σ} {s : Session δ} {token : RollbackToken}
      {next : Except AnyError Unit → WorkerProgram WorkerAnswer}
      (hphase : s.worker = .running (.prepared token next)) :
      SessionStep (store, s) (store, { s with
        worker := .waiting token next
        toController := s.toController ++ [.frame (.prepared token (digest token))]
        log := s.log ++ [.prepared token] })
  | prepareFails {store : σ} {s : Session δ} {token : RollbackToken}
      {next : Except AnyError Unit → WorkerProgram WorkerAnswer} (e : AnyError)
      (hphase : s.worker = .running (.prepared token next)) :
      SessionStep (store, s) (store, { s with worker := .running (next (.error e)) })
  | readAnswer {store : σ} {s : Session δ} {token : RollbackToken}
      {next : Except AnyError Unit → WorkerProgram WorkerAnswer}
      {outcome : ReadOutcome (PrivilegedWorkerRequest δ)}
      {rest : List (Line (PrivilegedWorkerRequest δ))} (hphase : s.worker = .waiting token next)
      (hread : Reads s.toWorker outcome rest) :
      SessionStep (store, s) (store, { s with
        worker := .running (next (prepareAndWait digest token outcome))
        toWorker := rest
        log := s.log ++ [.answered token outcome] })
  | respond {store : σ} {s : Session δ} {answer : WorkerAnswer}
      (hphase : s.worker = .running (.finish answer)) :
      SessionStep (store, s) (store, { s with
        worker := .closed, toController := s.toController ++ [.frame answer.response] })
  | workerCrashes {store : σ} {s : Session δ} :
      SessionStep (store, s) (store, { s with worker := .crashed })
  -- the connection: lines to the worker may be lost, cut or repeated, but none is made up
  | toWorkerFault {store : σ} {s : Session δ} {lines : List (Line (PrivilegedWorkerRequest δ))}
      (hlines : ∀ message, .frame message ∈ lines → .frame message ∈ s.toWorker) :
      SessionStep (store, s) (store, { s with toWorker := lines })
  | toControllerFault {store : σ} {s : Session δ}
      (lines : List (Line (PrivilegedWorkerResponse δ))) :
      SessionStep (store, s) (store, { s with toController := lines })

/-- The whole system: the controller's store, and every connection there ever was. -/
structure Exchange (σ δ : Type) where
  store : σ
  sessions : List (Session δ)

/-- Connections are made and advance in any order; between two steps the controller may do anything
else to its store. -/
inductive ExchangeStep : Exchange σ δ → Exchange σ δ → Prop where
  | connect {x : Exchange σ δ} (wire : WireApplyRequest) :
      ExchangeStep x { x with sessions := x.sessions ++ [Session.start wire] }
  | advance {x : Exchange σ δ} {before after : List (Session δ)} {s s' : Session δ} {store' : σ}
      (hsessions : x.sessions = before ++ s :: after)
      (hstep : SessionStep digest hook (x.store, s) (store', s')) :
      ExchangeStep x ⟨store', before ++ s' :: after⟩
  | otherWork {x : Exchange σ δ} (store' : σ) : ExchangeStep x { x with store := store' }

/-- The exchanges that can be reached. -/
inductive ExchangeReached (store : σ) : Exchange σ δ → Prop where
  | start : ExchangeReached store ⟨store, []⟩
  | step {x y : Exchange σ δ} (h : ExchangeReached store x) (hstep : ExchangeStep digest hook x y) :
      ExchangeReached store y

end Exchange

/-! ## The invariant of a session -/

section Invariant
variable {δ : Type} (digest : RollbackToken → δ)

/-- Nothing was touched. -/
def Untouched (log : List (ExchangeEvent δ)) : Prop := ∀ m, .mutated m ∉ log

/-- The wait for the controller has not ended. -/
def Unanswered (log : List (ExchangeEvent δ)) : Prop :=
  ∀ token outcome, .answered token outcome ∉ log

/-- The worker has not reached its barrier. -/
def Unprepared (log : List (ExchangeEvent δ)) : Prop := ∀ token, .prepared token ∉ log

/-- `token` is what the worker prepared, and nothing else is. -/
def PreparedOnly (token : RollbackToken) (log : List (ExchangeEvent δ)) : Prop :=
  ∀ t, .prepared t ∈ log ↔ t = token

/-- The controller's hook accepted a token with this digest. -/
def HookAccepted (log : List (ExchangeEvent δ)) (d : δ) : Prop :=
  ∃ token, .hookReturned token (.ok ()) ∈ log ∧ digest token = d

/-- The answer that commits to `token`. -/
def commitAnswer (token : RollbackToken) : ReadOutcome (PrivilegedWorkerRequest δ) :=
  .line (.frame (.commitPrepared true (digest token)))

/-- `token` was prepared, accepted by the hook and committed to. -/
structure TokenCommitted (token : RollbackToken) (log : List (ExchangeEvent δ)) : Prop where
  prepared : PreparedOnly token log
  hooked : .hookReturned token (.ok ()) ∈ log
  answered : .answered token (commitAnswer digest token) ∈ log

/-- The barrier was passed, and the wait ended in no other way. -/
structure BarrierPassed (log : List (ExchangeEvent δ)) : Prop where
  committed : ∃ token, TokenCommitted digest token log
  only : ∀ token outcome, .answered token outcome ∈ log → outcome = commitAnswer digest token

/-- What the worker's phase says of the log. -/
def WorkerSafe (log : List (ExchangeEvent δ)) : WorkerPhase → Prop
  | .reading => Untouched log ∧ Unanswered log ∧ Unprepared log
  | .running program => (Untouched log ∧ Unanswered log ∧ Unprepared log ∧ program.Guarded) ∨
      (Untouched log ∧ ∃ answer, program = .finish answer) ∨
        (BarrierPassed digest log ∧ program.Plain)
  | .waiting token next => Untouched log ∧ Unanswered log ∧ PreparedOnly token log ∧
      (∀ e, ∃ answer, next (.error e) = .finish answer) ∧ (next (.ok ())).Plain
  | .closed | .crashed => Untouched log ∨ BarrierPassed digest log

/-- Every access comes after the commit to a token. -/
def AccessesCommitted (log : List (ExchangeEvent δ)) : Prop :=
  ∀ before m after, log = before ++ .mutated m :: after →
    ∃ token, TokenCommitted digest token before

/-- The invariant: a commit under way names the digest of a token the hook accepted. -/
structure SessionSafe (s : Session δ) : Prop where
  worker : WorkerSafe digest s.log s.worker
  ordered : AccessesCommitted digest s.log
  commits : ∀ d, .frame (.commitPrepared true d) ∈ s.toWorker → HookAccepted digest s.log d
  answering : ∀ d, s.controller = .answering (.ok ()) d → HookAccepted digest s.log d
  hooking : ∀ token d, s.controller = .hooking token d → digest token = d

variable {digest}

variable {log : List (ExchangeEvent δ)} {event : ExchangeEvent δ}

theorem PreparedOnly.append {token : RollbackToken} (h : PreparedOnly token log)
    (hevent : ∀ t, event ≠ .prepared t) : PreparedOnly token (log ++ [event]) := by
  intro t
  rw [List.mem_append, List.mem_singleton, h t]
  constructor
  · rintro (ht | ht)
    · exact ht
    · exact absurd ht.symm (hevent t)
  · exact .inl

theorem Unprepared.append (h : Unprepared log) (hevent : ∀ t, event ≠ .prepared t) :
    Unprepared (log ++ [event]) := by
  intro t ht
  rcases List.mem_append.mp ht with ht | ht
  · exact h t ht
  · exact hevent t (List.mem_singleton.mp ht).symm

/-- The barrier's own event. -/
theorem Unprepared.prepare (h : Unprepared log) (token : RollbackToken) :
    PreparedOnly token (log ++ [.prepared token]) := by
  intro t
  rw [List.mem_append, List.mem_singleton]
  constructor
  · rintro (ht | ht)
    · exact absurd ht (h t)
    · injection ht
  · rintro rfl
    exact .inr rfl

theorem TokenCommitted.append {token : RollbackToken} (h : TokenCommitted digest token log)
    (hevent : ∀ t, event ≠ .prepared t) : TokenCommitted digest token (log ++ [event]) :=
  ⟨h.prepared.append hevent, List.mem_append_left _ h.hooked, List.mem_append_left _ h.answered⟩

theorem HookAccepted.append {d : δ} (h : HookAccepted digest log d)
    (more : List (ExchangeEvent δ)) :
    HookAccepted digest (log ++ more) d := by
  obtain ⟨token, hhooked, hd⟩ := h
  exact ⟨token, List.mem_append_left _ hhooked, hd⟩

theorem Untouched.append (h : Untouched log) (hevent : ∀ m, event ≠ .mutated m) :
    Untouched (log ++ [event]) := by
  intro m hm
  rcases List.mem_append.mp hm with hm | hm
  · exact h m hm
  · exact hevent m (List.mem_singleton.mp hm).symm

theorem Unanswered.append (h : Unanswered log) (hevent : ∀ t o, event ≠ .answered t o) :
    Unanswered (log ++ [event]) := by
  intro t o hm
  rcases List.mem_append.mp hm with hm | hm
  · exact h t o hm
  · exact hevent t o (List.mem_singleton.mp hm).symm

theorem BarrierPassed.append (h : BarrierPassed digest log) (hprepared : ∀ t, event ≠ .prepared t)
    (hevent : ∀ t o, event ≠ .answered t o) : BarrierPassed digest (log ++ [event]) := by
  obtain ⟨token, htoken⟩ := h.committed
  refine ⟨⟨token, htoken.append hprepared⟩, fun t o hm => ?_⟩
  rcases List.mem_append.mp hm with hm | hm
  · exact h.only t o hm
  · exact absurd (List.mem_singleton.mp hm).symm (hevent t o)

/-- The last event of a log splits off. -/
theorem split_of_append_singleton {before after : List (ExchangeEvent δ)} {m : HostMutation}
    (h : log ++ [event] = before ++ .mutated m :: after) :
    (log = before ∧ event = .mutated m ∧ after = []) ∨
      ∃ rest, log = before ++ .mutated m :: rest ∧ after = rest ++ [event] := by
  rcases List.eq_nil_or_concat after with rfl | ⟨rest, last, rfl⟩
  · obtain ⟨hlog, hevent⟩ := List.append_inj' h rfl
    exact .inl ⟨hlog, by simpa using hevent, rfl⟩
  · refine .inr ⟨rest, ?_⟩
    have h' : log ++ [event] = (before ++ .mutated m :: rest) ++ [last] := by simpa using h
    obtain ⟨hlog, hevent⟩ := List.append_inj' h' rfl
    exact ⟨hlog, by simpa using hevent.symm⟩

theorem AccessesCommitted.append (h : AccessesCommitted digest log)
    (hevent : ∀ m, event = .mutated m → ∃ token, TokenCommitted digest token log) :
    AccessesCommitted digest (log ++ [event]) := by
  intro before m after hsplit
  rcases split_of_append_singleton hsplit with ⟨rfl, hm, -⟩ | ⟨rest, hlog, -⟩
  · exact hevent m hm
  · exact h before m rest hlog

/-- What the controller does leaves the worker's facts alone. -/
theorem WorkerSafe.append {phase : WorkerPhase} (h : WorkerSafe digest log phase)
    (token : RollbackToken) (result : Except AnyError Unit) :
    WorkerSafe digest (log ++ [.hookReturned token result]) phase := by
  cases phase with
  | reading => exact ⟨h.1.append (by simp), h.2.1.append (by simp), h.2.2.append (by simp)⟩
  | running program =>
    rcases h with ⟨hu, hn, hp, hguarded⟩ | ⟨hu, hp⟩ | ⟨hb, hp⟩
    · exact .inl ⟨hu.append (by simp), hn.append (by simp), hp.append (by simp), hguarded⟩
    · exact .inr (.inl ⟨hu.append (by simp), hp⟩)
    · exact .inr (.inr ⟨hb.append (by simp) (by simp), hp⟩)
  | waiting t next =>
    obtain ⟨hu, hn, hprepared, hrest⟩ := h
    exact ⟨hu.append (by simp), hn.append (by simp), hprepared.append (by simp), hrest⟩
  | closed | crashed => exact h.imp (·.append (by simp)) (·.append (by simp) (by simp))

/-- The worker starts nothing but a guarded program. -/
theorem guarded_afterRequestRead (host : PreparedWorkerHost)
    (outcome : ReadOutcome (PrivilegedWorkerRequest δ)) :
    (afterRequestRead host outcome).Guarded := by
  unfold afterRequestRead
  split
  · exact guarded_applyPreparedProgram host _
  all_goals exact .finish _

/-- Whatever the phase: nothing was touched, or the barrier was passed. -/
theorem WorkerSafe.settled {phase : WorkerPhase} (h : WorkerSafe digest log phase) :
    Untouched log ∨ BarrierPassed digest log := by
  cases phase with
  | reading => exact .inl h.1
  | running program =>
    rcases h with ⟨hu, -, -⟩ | ⟨hu, -⟩ | ⟨hb, -⟩
    · exact .inl hu
    · exact .inl hu
    · exact .inr hb
  | waiting token next => exact .inl h.1
  | closed | crashed => exact h

/-- A new connection. -/
theorem sessionSafe_start (wire : WireApplyRequest) :
    SessionSafe digest (Session.start wire : Session δ) where
  worker := ⟨fun m hm => (by cases hm), fun t o ho => (by cases ho), fun t ht => (by cases ht)⟩
  ordered := by
    intro before m after h
    simp [Session.start] at h
  commits d hd := by cases hd
  answering d hd := by cases hd
  hooking token d hd := by cases hd

end Invariant

section Steps
variable {σ δ : Type} [DecidableEq δ] {digest : RollbackToken → δ}
  {hook : RollbackToken → Op σ AnyError Unit}

variable {token : RollbackToken}

theorem prepareAndWait_ok {outcome : ReadOutcome (PrivilegedWorkerRequest δ)}
    (h : prepareAndWait digest token outcome = .ok ()) : outcome = commitAnswer digest token := by
  unfold prepareAndWait at h
  split at h
  · cases h
  · split at h
    · rename_i hd
      rw [hd]
      rfl
    · cases h
  all_goals cases h

theorem afterPreparedRead_hooking {outcome : ReadOutcome (PrivilegedWorkerResponse δ)} {d : δ}
    (h : afterPreparedRead digest outcome = .hooking token d) : digest token = d := by
  unfold afterPreparedRead at h
  split at h
  · split at h
    · rename_i hd
      cases h
      exact hd
    · cases h
  all_goals cases h

theorem afterPreparedRead_answering {outcome : ReadOutcome (PrivilegedWorkerResponse δ)}
    {decision : Except AnyError Unit} {d : δ}
    (h : afterPreparedRead digest outcome = .answering decision d) : decision ≠ .ok () := by
  unfold afterPreparedRead at h
  split at h
  · split at h
    · cases h
    · cases h
      simp
  all_goals cases h

/-- A read takes only lines that were there. -/
theorem Reads.subset {α : Type} {lines rest : List (Line α)} {outcome : ReadOutcome α}
    (h : Reads lines outcome rest) : ∀ l ∈ rest, l ∈ lines := by
  cases h with
  | line content rest => exact fun l hl => List.mem_cons_of_mem _ hl
  | closed | timedOut | failed => exact fun l hl => hl

theorem Reads.mem {α : Type} {lines rest : List (Line α)} {content : Line α}
    (h : Reads lines (.line content) rest) : content ∈ lines := by
  cases h
  exact List.mem_cons_self ..

/-- The worker's facts when its wait ends. -/
theorem WorkerSafe.readAnswer {s : Session δ}
    {next : Except AnyError Unit → WorkerProgram WorkerAnswer}
    {outcome : ReadOutcome (PrivilegedWorkerRequest δ)}
    {rest : List (Line (PrivilegedWorkerRequest δ))} (hdigest : Function.Injective digest)
    (h : SessionSafe digest s) (hphase : s.worker = .waiting token next)
    (hread : Reads s.toWorker outcome rest) :
    WorkerSafe digest (s.log ++ [.answered token outcome])
      (.running (next (prepareAndWait digest token outcome))) := by
  have hworker := h.worker
  rw [hphase] at hworker
  obtain ⟨hu, hn, hprepared, habort, hplain⟩ := hworker
  cases hwait : prepareAndWait digest token outcome with
  | error e => exact .inr (.inl ⟨hu.append (by simp), habort e⟩)
  | ok _ =>
    have houtcome := prepareAndWait_ok hwait
    -- the commit names the digest of a token the hook accepted, hence of this one
    obtain ⟨accepted, hhooked, hd⟩ := h.commits (digest token) (by
      rw [houtcome] at hread
      exact hread.mem)
    have hsame : accepted = token := hdigest hd
    subst hsame
    refine .inr (.inr ⟨⟨⟨accepted, ?_, ?_, ?_⟩, ?_⟩, hplain⟩)
    · exact hprepared.append (by simp)
    · exact List.mem_append_left _ hhooked
    · exact List.mem_append_right _ (List.mem_singleton.mpr (by rw [houtcome]))
    · intro t o hm
      rcases List.mem_append.mp hm with hm | hm
      · exact absurd hm (hn t o)
      · cases List.mem_singleton.mp hm
        exact houtcome

/-- **The step lemma.**  Every step of either side and every fault keeps the invariant. -/
theorem SessionSafe.step (hdigest : Function.Injective digest) {store store' : σ} {s s' : Session δ}
    (h : SessionSafe digest s) (hstep : SessionStep digest hook (store, s) (store', s')) :
    SessionSafe digest s' := by
  obtain ⟨hworker, hordered, hcommits, hanswering, hhooking⟩ := id h
  cases hstep with
  | sendRequest hphase =>
    refine ⟨hworker, hordered, fun d hd => ?_, fun d hd => (by cases hd),
      fun t d hd => (by cases hd)⟩
    rcases List.mem_append.mp hd with hd | hd
    · exact hcommits d hd
    · cases List.mem_singleton.mp hd
  | readPrepared hphase hread =>
    refine ⟨hworker, hordered, hcommits, fun d hd => ?_, fun t d hd => afterPreparedRead_hooking hd⟩
    exact absurd rfl (afterPreparedRead_answering hd)
  | @runHook _ _ token d hphase =>
    have hd := hhooking token d hphase
    refine ⟨hworker.append _ _, hordered.append (by simp),
      fun d' hd' => (hcommits d' hd').append _, fun d' hd' => ?_, fun t d hd => (by cases hd)⟩
    injection hd' with hresult hdigests
    rw [hresult]
    exact ⟨token, List.mem_append_right _ (List.mem_singleton.mpr rfl), hd.trans hdigests⟩
  | @sendCommit _ _ decision d hphase =>
    refine ⟨hworker, hordered, fun d' hd' => ?_, fun d' hd' => ?_, fun t d' hd' => ?_⟩
    · rcases List.mem_append.mp hd' with hd' | hd'
      · exact hcommits d' hd'
      · injection List.mem_singleton.mp hd' with hd'
        injection hd' with hok hd'
        rw [hd']
        cases decision with
        | ok _ => exact hanswering d hphase
        | error e => cases hok
    all_goals cases decision <;> cases hd'
  | readResult hphase hread =>
    exact ⟨hworker, hordered, hcommits, fun d hd => (by cases hd), fun t d hd => (by cases hd)⟩
  | controllerFails e =>
    exact ⟨hworker, hordered, hcommits, fun d hd => (by cases hd), fun t d hd => (by cases hd)⟩
  | controllerCrashes =>
    exact ⟨hworker, hordered, hcommits, fun d hd => (by cases hd), fun t d hd => (by cases hd)⟩
  | readRequest host hphase hread =>
    rw [hphase] at hworker
    exact ⟨.inl ⟨hworker.1, hworker.2.1, hworker.2.2, guarded_afterRequestRead host _⟩, hordered,
      fun d hd => hcommits d (hread.subset _ hd), hanswering, hhooking⟩
  | @mutate _ _ mutation next hphase =>
    -- only a program behind the barrier has an access left
    rw [hphase] at hworker
    rcases hworker with ⟨-, -, -, hp⟩ | ⟨-, answer, hp⟩ | ⟨hb, hp⟩
    · cases hp
    · cases hp
    · cases hp with
      | mutate hp =>
        exact ⟨.inr (.inr ⟨hb.append (by simp) (by simp), hp⟩),
          hordered.append fun _ _ => hb.committed,
          fun d hd => (hcommits d hd).append _, fun d hd => (hanswering d hd).append _, hhooking⟩
  | @prepare _ _ token next hphase =>
    rw [hphase] at hworker
    rcases hworker with ⟨hu, hn, hunprepared, hp⟩ | ⟨-, answer, hp⟩ | ⟨hb, hp⟩
    · cases hp with
      | prepared habort hcommit =>
        exact ⟨⟨hu.append (by simp), hn.append (by simp), hunprepared.prepare token, habort,
          hcommit⟩,
          hordered.append (by simp), fun d hd => (hcommits d hd).append _,
          fun d hd => (hanswering d hd).append _, hhooking⟩
    · cases hp
    · cases hp
  | @prepareFails _ _ token next e hphase =>
    rw [hphase] at hworker
    rcases hworker with ⟨hu, hn, hunprepared, hp⟩ | ⟨-, answer, hp⟩ | ⟨hb, hp⟩
    · cases hp with
      | prepared habort hcommit =>
        exact ⟨.inr (.inl ⟨hu, habort e⟩), hordered, hcommits, hanswering, hhooking⟩
    · cases hp
    · cases hp
  | readAnswer hphase hread =>
    exact ⟨WorkerSafe.readAnswer hdigest h hphase hread, hordered.append (by simp),
      fun d hd => (hcommits d (hread.subset _ hd)).append _, fun d hd => (hanswering d hd).append _,
      hhooking⟩
  | respond hphase => exact ⟨hworker.settled, hordered, hcommits, hanswering, hhooking⟩
  | workerCrashes => exact ⟨hworker.settled, hordered, hcommits, hanswering, hhooking⟩
  | toWorkerFault hlines =>
    exact ⟨hworker, hordered, fun d hd => hcommits d (hlines _ hd), hanswering, hhooking⟩
  | toControllerFault lines => exact ⟨hworker, hordered, hcommits, hanswering, hhooking⟩

/-- Every session of every run is safe. -/
theorem ExchangeReached.sessionSafe (hdigest : Function.Injective digest) {store : σ}
    {x : Exchange σ δ} (h : ExchangeReached digest hook store x) :
    ∀ s ∈ x.sessions, SessionSafe digest s := by
  induction h with
  | start => exact fun s hs => by cases hs
  | step _ hstep ih =>
    cases hstep with
    | connect wire =>
      intro s hs
      rcases List.mem_append.mp hs with hs | hs
      · exact ih s hs
      · rw [List.mem_singleton.mp hs]
        exact sessionSafe_start wire
    | advance hsessions hstep =>
      intro t ht
      rw [hsessions] at ih
      rcases List.mem_append.mp ht with ht | ht
      · exact ih t (List.mem_append_left _ ht)
      rcases List.mem_cons.mp ht with rfl | ht
      · exact (ih _ (List.mem_append_right _ (List.mem_cons_self ..))).step hdigest hstep
      · exact ih t (List.mem_append_right _ (List.mem_cons_of_mem _ ht))
    | otherWork store' => exact ih

/-- **The write-ahead guarantee of the two-phase apply.**  In every run of controllers, workers and
connections, with every fault, an access of the worker to the host comes after the controller's hook
returned well for the one token that worker prepared; a wait that ended in anything but the commit
to that token's digest, or has not ended, leaves the host untouched. -/
theorem prepared_write_after_hook (hdigest : Function.Injective digest) {store : σ}
    {x : Exchange σ δ} (h : ExchangeReached digest hook store x) {s : Session δ}
    (hs : s ∈ x.sessions) :
    (∀ before m after, s.log = before ++ .mutated m :: after →
      ∃ token, PreparedOnly token before ∧ .hookReturned token (.ok ()) ∈ before) ∧
    (∀ token outcome, .answered token outcome ∈ s.log →
      outcome ≠ .line (.frame (.commitPrepared true (digest token))) → Untouched s.log) ∧
    (Unanswered s.log → Untouched s.log) := by
  have hsafe := h.sessionSafe hdigest s hs
  refine ⟨fun before m after hlog => ?_, fun token outcome hanswered houtcome => ?_, fun hn => ?_⟩
  · obtain ⟨token, htoken⟩ := hsafe.ordered before m after hlog
    exact ⟨token, htoken.prepared, htoken.hooked⟩
  · rcases hsafe.worker.settled with hu | hb
    · exact hu
    · exact absurd (hb.only token outcome hanswered) houtcome
  · rcases hsafe.worker.settled with hu | hb
    · exact hu
    · obtain ⟨token, htoken⟩ := hb.committed
      exact absurd htoken.answered (hn token _)

end Steps

/-! ## A run that writes -/

/-- A worker whose factory builds the sample action. -/
def reniceHost : PreparedWorkerHost where
  now := 0
  revalidateCandidateTargets _ := .ok ()
  build _ := .ok (sampleNiceAction (.ok []))
  rejectionText _ := ""
  refusalText _ := ""

def renicePlan : CandidateExecutablePlan where
  candidate := ⟨.nice, "nice", "nice", .reversibleLowRisk, .nice, .desktopInteractivity, none, "5"⟩
  evidence := 1
  executable := by decide

def reniceWire : WireApplyRequest :=
  .describing renicePlan renicePlan.candidate.descriptor (.applyLowRisk .autotuneRuntime) .clear

def reniceToken : RollbackToken := .niceRestore [demotedRecord]

/-- The request reaches its barrier, and behind it writes the record. -/
theorem applyPreparedProgram_renice : ∃ next rest,
    applyPreparedProgram reniceHost reniceWire = .prepared reniceToken next ∧
      next (.ok ()) = .mutate (.issue (.nice demotedRecord)) rest :=
  ⟨_, _, rfl, rfl⟩

/-- The only connection takes a step. -/
theorem ExchangeReached.advance {σ δ : Type} [DecidableEq δ] {digest : RollbackToken → δ}
    {hook : RollbackToken → Op σ AnyError Unit} {store first second : σ} {s s' : Session δ}
    (h : ExchangeReached digest hook store ⟨first, [s]⟩)
    (hstep : SessionStep digest hook (first, s) (second, s')) :
    ExchangeReached digest hook store ⟨second, [s']⟩ :=
  h.step (@ExchangeStep.advance _ _ _ _ _ ⟨first, [s]⟩ [] [] s s' second rfl hstep)

/-- The exchange without a fault, up to the first write: the guarantee is about runs that do
write. -/
theorem prepared_write_after_hook_renice :
    ∃ (x : Exchange Unit RollbackToken) (s : Session RollbackToken) (before : List _),
      ExchangeReached id (fun _ => Op.ret ()) () x ∧ s ∈ x.sessions ∧
        s.log = before ++ [.mutated (.issue (.nice demotedRecord))] ∧
        ∃ token, PreparedOnly token before ∧ .hookReturned token (.ok ()) ∈ before := by
  obtain ⟨next, rest, hprogram, hnext⟩ := applyPreparedProgram_renice
  let hook : RollbackToken → Op Unit AnyError Unit := fun _ => Op.ret ()
  let committed : Session RollbackToken := ⟨.awaitingResult, .running (next (.ok ())), [], [],
    [.prepared reniceToken, .hookReturned reniceToken (.ok ()),
      .answered reniceToken (commitAnswer id reniceToken)]⟩
  have hcommitted : ExchangeReached id hook () ⟨(), [committed]⟩ := by
    have hstart : ExchangeReached id hook () ⟨(), [Session.start reniceWire]⟩ :=
      ExchangeReached.start.step (.connect reniceWire)
    have hsent := hstart.advance (.sendRequest rfl)
    have hrunning := hsent.advance (.readRequest reniceHost rfl (.line _ _))
    have hwaiting := hrunning.advance (.prepare (congrArg WorkerPhase.running hprogram))
    have hhooking := hwaiting.advance (.readPrepared rfl (.line _ _))
    have hhooked := hhooking.advance (.runHook rfl)
    have hanswered := hhooked.advance (.sendCommit rfl)
    have hread := hanswered.advance (.readAnswer rfl (.line _ _))
    exact hread
  have hwritten := hcommitted.advance (.mutate (congrArg WorkerPhase.running hnext))
  have hguarantee :=
    prepared_write_after_hook (fun _ _ h => h) hwritten (List.mem_singleton.mpr rfl)
  exact ⟨_, _, committed.log, hwritten, List.mem_singleton.mpr rfl, rfl,
    hguarantee.1 committed.log _ [] rfl⟩

end Stutter

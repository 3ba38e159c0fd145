import StutterProof.FallibleOp
import StutterProof.Actions

/-! # The audited action runner

`runAuditedAction` takes one tuning action through preflight, policy, dry run,
scope, apply, verify and, on every failure after a mutation, rollback.  The action,
the hooks and the world they act on are parameters: each of them is an arbitrary
operation that may fail at any call.

The runner's own state records every call it makes with its outcome
(`RunnerState.calls`), audit appends included.  A failed audit append is logged
and never changes the run, so an append is recorded and cannot fail here. -/
namespace Stutter
open Fallible

/-- The `TuningAction` trait over a world `ω`.  The apply gets the runner's prepare
hook and may call it, once or not at all. -/
structure TuningAction (ω : Type) where
  descriptor : ActionDescriptor
  preflight : Op ω AnyError (List String)
  dryRun : Op ω AnyError ActionState
  applyWithPreparedRollback :
    (RollbackToken → Op ω AnyError Unit) → Op ω PartialApplyError RollbackToken
  verify : Op ω AnyError ActionState
  rollback : RollbackToken → Op ω AnyError Unit

open Op

/-- The hooks of a run; one that is not registered does nothing. -/
structure ActionHooks (ω : Type) where
  afterPrepare : RollbackToken → Op ω AnyError Unit := fun _ => ret ()
  afterApply : RollbackToken → Op ω AnyError Unit := fun _ => ret ()
  afterRollback : RollbackToken → Op ω AnyError Unit := fun _ => ret ()

/-- `check` is the policy's judgement with its final reason; durations are
nanoseconds. -/
structure ActionRunPolicy where
  check : PolicyIntent → ActionDescriptor → Except String Unit
  maxAffectedTasks : Option Nat
  maxTotalDuration : Option Nat
  dryRun : Bool

/-- The runner's audit record. -/
structure AuditEvent where
  command : String
  actionId : ActionId
  safetyClass : SafetyClass
  dryRun : Bool
  success : Bool
  affectedTasks : Nat
  restorePath : Option String
  actionPhase : Option ActionPhase
  errorCategory : Option String
  message : String

/-- The answer of a successful run. -/
structure AuditedActionResult where
  state : ActionState
  rollback : Option RollbackToken

/-- One call of the runner with what came back: `apply` carries the token it
produced, the others whether they succeeded. -/
inductive RunnerCall where
  | preflight (ok : Bool)
  | policy (intent : PolicyIntent) (ok : Bool)
  | dryRun (ok : Bool)
  | scope (ok : Bool)
  | apply (token : Option RollbackToken) (ok : Bool)
  | afterApply (token : RollbackToken) (ok : Bool)
  | verify (ok : Bool)
  | rollback (token : RollbackToken) (ok : Bool)
  | afterRollback (token : RollbackToken) (ok : Bool)
  | audit (event : AuditEvent)

structure RunnerState (ω : Type) where
  world : ω
  auditEvent : AuditEvent
  calls : List RunnerCall

/-- The runner's operations. -/
abbrev RunnerOp (ω α : Type) := Op (RunnerState ω) ActionError α

section Runner
variable {ω : Type}

/-- Run one call on the world and record it with its outcome. -/
def invoke {ε α : Type} (log : Except ε α → RunnerCall) (m : Op ω ε α) :
    RunnerOp ω (Except ε α) where
  run s :=
    let ran := m.run s.world
    ⟨.ok ran.result, { s with world := ran.state, calls := s.calls ++ [log ran.result] },
      ran.visited.map fun w => { s with world := w }⟩

/-- Record a check the runner makes itself. -/
def record (call : RunnerCall) : RunnerOp ω Unit :=
  assign fun s => { s with calls := s.calls ++ [call] }

/-- Change the runner's local `audit_event`. -/
def setAuditEvent (f : AuditEvent → AuditEvent) : RunnerOp ω Unit :=
  assign fun s => { s with auditEvent := f s.auditEvent }

/-- `append_runner_audit_event`: the base event with the update's fields. -/
def appendRunnerAuditEvent (phase : Option ActionPhase) (success : Bool) (affectedTasks : Nat)
    (restorePath errorCategory : Option String) (message : String) : RunnerOp ω Unit :=
  assign fun s => { s with
    calls := s.calls ++ [.audit { s.auditEvent with
      actionPhase := phase, success := success, affectedTasks := affectedTasks,
      restorePath := restorePath, errorCategory := errorCategory, message := message }] }

/-- The audit line of a rollback of `token`. -/
def auditRollback (token : RollbackToken) (success : Bool) (errorCategory : Option String)
    (message : String) : RunnerOp ω Unit :=
  appendRunnerAuditEvent (some .rollback) success token.affectedTasks token.restorePath
    errorCategory message

/-- The action's own log entry for a result. -/
def applyLog : Except PartialApplyError RollbackToken → RunnerCall
  | .ok token => .apply (some token) true
  | .error failure => .apply failure.rollback false

def logged {ε α : Type} (call : Bool → RunnerCall) : Except ε α → RunnerCall :=
  fun r => call r.isOk

variable (action : TuningAction ω) (hooks : ActionHooks ω) (policy : ActionRunPolicy)
variable (clock : ActionPhase → Nat)

/-- `clock` is the time since the start at the check of each phase. -/
def totalTimeoutError (phase : ActionPhase) : Option ActionError :=
  policy.maxTotalDuration.bind fun limit =>
    if limit < clock phase then
      some (.timeout ⟨phase, clock phase / 1000000, limit / 1000000⟩)
    else none

def checkActionWithExplanation (intent : PolicyIntent) : RunnerOp ω Unit := do
  record (.policy intent (policy.check intent action.descriptor).isOk)
  match policy.check intent action.descriptor with
  | .ok _ => ret ()
  | .error reason => fail (.policyRejected reason)

/-- Fail with the total timeout if the run is over its limit at `phase`. -/
def failOnTimeout (phase : ActionPhase) : RunnerOp ω Unit :=
  match totalTimeoutError policy clock phase with
  | none => ret ()
  | some timeout => fail timeout

/-- A phase that timed out after writes is undone. -/
def rollbackAfterTimeout (token : RollbackToken) (timeoutError : ActionError) :
    RunnerOp ω ActionError :=
  match timeoutError.timeoutDetails with
  | none => ret timeoutError
  | some timeout => do
    match ← invoke (logged (.rollback token)) (action.rollback token) with
    | .ok _ =>
      match ← invoke (logged (.afterRollback token)) (hooks.afterRollback token) with
      | .ok _ =>
        auditRollback token true none "rollback completed after action timeout"
        return .timeoutRollbackCompleted timeout
      | .error hookError =>
        auditRollback token false (some "RollbackHookFailed")
          "rollback completed after action timeout, but after-rollback hook failed"
        return .rollbackFailure (s!"rollback completed after action timeout, but " ++
          s!"after-rollback hook failed: {hookError.text}")
    | .error rollbackError => return .timeoutRollbackFailure timeout rollbackError.text

/-- An apply whose hook failed is undone. -/
def rollbackAfterApplyHookFailure (token : RollbackToken) (hookError : String) :
    RunnerOp ω ActionError := do
  let hookMessage := s!"after-apply hook failed after mutation: {hookError}"
  match ← invoke (logged (.rollback token)) (action.rollback token) with
  | .ok _ =>
    match ← invoke (logged (.afterRollback token)) (hooks.afterRollback token) with
    | .ok _ =>
      auditRollback token true none "rollback completed after after-apply hook failure"
      return .apply s!"{hookMessage}; rollback completed"
    | .error rollbackHookError =>
      auditRollback token false (some "RollbackHookFailed")
        "rollback completed after after-apply hook failure, but after-rollback hook failed"
      return .rollbackFailure (s!"{hookMessage}; rollback completed; after-rollback hook " ++
        s!"failed: {rollbackHookError.text}")
  | .error rollbackError =>
    return .emergencyRollbackFailure hookMessage rollbackError.text

/-- The preflight: a failure blocks the run. -/
def runPreflight : RunnerOp ω Unit := do
  setAuditEvent ({ · with actionPhase := some .preflight })
  match ← invoke (logged .preflight) action.preflight with
  | .error blocker => fail (.preflight blocker.text)
  | .ok warnings =>
    let plural := if warnings.length == 1 then "" else "s"
    let message := if warnings.isEmpty then "preflight successful"
      else s!"preflight successful with {warnings.length} warning{plural}"
    appendRunnerAuditEvent (some .preflight) true 0 none none message
    failOnTimeout policy clock .preflight

/-- The policy check and dry run both modes make. -/
def runDryRun (message : String) : RunnerOp ω ActionState := do
  setAuditEvent ({ · with actionPhase := some .dryRun })
  checkActionWithExplanation action policy .dryRun
  match ← invoke (logged .dryRun) action.dryRun with
  | .error failure => fail (.dryRunError failure)
  | .ok state =>
    appendRunnerAuditEvent (some .dryRun) true state.affectedTasks none none message
    failOnTimeout policy clock .dryRun
    return state

/-- The scope limit on what the dry run would touch. -/
def checkScope (state : ActionState) : RunnerOp ω Unit := do
  let withinLimit := policy.maxAffectedTasks.all fun limit => decide (state.affectedTasks ≤ limit)
  record (.scope withinLimit)
  match policy.maxAffectedTasks with
  | some limit =>
    if limit < state.affectedTasks then
      fail (.scopeLimitExceeded state.affectedTasks limit)
    else ret ()
  | none => ret ()

/-- A failed apply that had already changed something: journal the token, then
undo it.  Always answers with the error of the run. -/
def rollbackPartialApply (source : AnyError) (token : RollbackToken) : RunnerOp ω ActionError := do
  setAuditEvent ({ · with affectedTasks := token.affectedTasks, restorePath := token.restorePath })
  match ← invoke (logged (.afterApply token)) (hooks.afterApply token) with
  | .error hookError =>
    rollbackAfterApplyHookFailure action hooks token
      s!"partial apply failed: {source.text}; rollback-token hook failed: {hookError.text}"
  | .ok _ =>
    match ← invoke (logged (.rollback token)) (action.rollback token) with
    | .ok _ =>
      match ← invoke (logged (.afterRollback token)) (hooks.afterRollback token) with
      | .ok _ =>
        auditRollback token true none
          "partial rollback attempted after apply failure; partial rollback completed"
        return .apply (s!"apply failed: {source.text}; partial rollback attempted and " ++
          s!"completed successfully")
      | .error hookError =>
        return .rollbackFailure (s!"partial rollback completed after apply failure: " ++
          s!"{source.text}; after-rollback hook failed: {hookError.text}")
    | .error rollbackError =>
      auditRollback token false (some "EmergencyRollbackFailed")
        "partial rollback attempted after apply failure; partial rollback failed"
      return .emergencyRollbackFailure s!"apply failed: {source.text}" rollbackError.text

/-- A failed verification undoes the apply. -/
def rollbackAfterVerifyFailure (verifyError : AnyError) (token : RollbackToken) :
    RunnerOp ω ActionError := do
  setAuditEvent ({ · with actionPhase := some .rollback })
  match ← invoke (logged (.rollback token)) (action.rollback token) with
  | .ok _ =>
    match ← invoke (logged (.afterRollback token)) (hooks.afterRollback token) with
    | .ok _ =>
      auditRollback token true none "rollback completed after verify failure"
      return .verifyRollbackCompleted verifyError.text
    | .error hookError =>
      return .rollbackFailure (s!"after-rollback hook failed after verify failure rollback " ++
        s!"completed: verify error: {verifyError.text}; hook error: {hookError.text}")
  | .error rollbackError =>
    return .emergencyRollbackFailure verifyError.text rollbackError.text

/-- From a successful apply to the run's answer. -/
def verifyApplied (token : RollbackToken) : RunnerOp ω AuditedActionResult := do
  setAuditEvent ({ · with affectedTasks := token.affectedTasks, restorePath := token.restorePath })
  match ← invoke (logged (.afterApply token)) (hooks.afterApply token) with
  | .error hookError =>
    setAuditEvent ({ · with actionPhase := some .rollback })
    fail (← rollbackAfterApplyHookFailure action hooks token hookError.text)
  | .ok _ =>
    appendRunnerAuditEvent (some .apply) true token.affectedTasks token.restorePath none
      "apply successful"
    match totalTimeoutError policy clock .apply with
    | some timeout =>
      setAuditEvent ({ · with actionPhase := some .rollback })
      fail (← rollbackAfterTimeout action hooks token timeout)
    | none =>
      setAuditEvent ({ · with actionPhase := some .verify })
      match ← invoke (logged .verify) action.verify with
      | .error verifyError =>
        fail (← rollbackAfterVerifyFailure action hooks verifyError token)
      | .ok state =>
        appendRunnerAuditEvent (some .verify) true state.affectedTasks token.restorePath none
          "verify successful"
        match totalTimeoutError policy clock .verify with
        | some timeout =>
          setAuditEvent ({ · with actionPhase := some .rollback })
          fail (← rollbackAfterTimeout action hooks token timeout)
        | none =>
          setAuditEvent ({ · with
            affectedTasks := state.affectedTasks, success := true, actionPhase := none,
            errorCategory := none, message := "action applied and verified" })
          return ⟨state, some token⟩

/-- The closure of the source: everything but the terminal audit line. -/
def runPhases : RunnerOp ω AuditedActionResult := do
  runPreflight action policy clock
  if policy.dryRun then
    let state ← runDryRun action policy clock "dry run successful"
    setAuditEvent ({ · with
      success := true, affectedTasks := state.affectedTasks, actionPhase := none,
      errorCategory := none, message := "dry run successful" })
    return ⟨state, none⟩
  else
    let state ← runDryRun action policy clock "pre-apply dry run successful"
    checkScope policy state
    setAuditEvent ({ · with actionPhase := some .apply })
    checkActionWithExplanation action policy .apply
    match ← invoke applyLog (action.applyWithPreparedRollback hooks.afterPrepare) with
    | .ok token => verifyApplied action hooks policy clock token
    | .error failure =>
      match failure.rollback with
      | some token => fail (← rollbackPartialApply action hooks failure.source token)
      | none => fail (.applyError failure.source)

/-- The terminal audit line: an error's phase, category and message replace those
of the event. -/
def appendTerminalAudit (result : Except ActionError AuditedActionResult) : RunnerOp ω Unit := do
  match result with
  | .ok _ => ret ()
  | .error e => setAuditEvent ({ · with
      success := false, actionPhase := some e.phase, errorCategory := some e.category,
      message := e.humanMessage })
  assign fun s => { s with calls := s.calls ++ [.audit s.auditEvent] }

/-- `run_audited_action_with_audit_path_and_hooks`. -/
def runAuditedAction : RunnerOp ω AuditedActionResult := do
  let result ← attempt (runPhases action hooks policy clock)
  appendTerminalAudit result
  ofExcept result

/-- The state a run starts in: nothing called, the base audit event. -/
def RunnerState.start (command : String) (world : ω) : RunnerState ω where
  world := world
  auditEvent := ⟨command, action.descriptor.actionId, action.descriptor.safetyClass,
    policy.dryRun, false, 0, none, none, none, ""⟩
  calls := []

end Runner
end Stutter

import StutterProof.JournaledAction
import StutterProof.LiveExperiment

/-! # The runtime's action executor

The executor of a live session applies low-risk candidates itself, through the
journaled transaction, and hands the others to the privileged worker.  The worker
prepares a token and waits: the executor journals the token as `Applying`, and only
then does the worker write.  An apply that fails afterwards is settled here. -/
namespace Stutter
open Fallible

/-- The worker's answer to an apply; its errors cross the socket as text. -/
abbrev WorkerResult := Except String RollbackToken

/-- The token that comes back covers every write that is still there. -/
def workerSettled (issued : List HostWrite) : WorkerResult → Prop
  | .ok token => ∀ x ∈ issued, token.covers x
  | .error _ => True

def workerRefused : WorkerResult → Prop
  | .ok _ => False
  | .error _ => True

/-- What the outside answers to one call of the executor. -/
structure ExecutorAnswers where
  /-- The session has a privileged action service. -/
  hasPrivilegedService : Bool
  /-- The worker's part of a prepared apply. -/
  prepared : ApplyScript WorkerResult
  isPrepared : prepared.Prepared workerSettled workerRefused
  /-- The worker's apply of an operation without crash-safe preparation. -/
  unprepared : ApplyScript WorkerResult
  /-- The low-risk action with its reserved restore path. -/
  action : Except AnyError PreparedAction
  check : PolicyIntent → ActionDescriptor → Except String Unit
  clock : ActionPhase → Nat
  /-- Building the executor of a rollback. -/
  preview : Except AnyError Unit
  rollback : RollbackToken → RollbackAnswer
  postRollbackConfig : Option ActiveConfigSnapshot

open Op

/-- `settle_failed_prepared_apply`: the error to report. -/
def settleFailedPreparedApply (rollback : RollbackToken → RollbackAnswer)
    (journaled : Option RollbackToken) (error : AnyError) : WorldOp AnyError := do
  match journaled with
  | none =>
    match ← attempt writeControllerJournalClean with
    | .ok _ => return error
    | .error e =>
      return error.context (s!"failed to clear the controller journal after a prepare " ++
        s!"that never reached the commit: {AnyError.text e}")
  | some token =>
    match ← attempt (rollbackToken token (rollback token)) with
    | .ok _ =>
      match ← attempt writeControllerJournalClean with
      | .ok _ => return error.context "the failed apply was rolled back and the journal cleared"
      | .error e =>
        return error.context (s!"failed to clear the controller journal after rolling " ++
          s!"back a failed apply: {AnyError.text e}")
    | .error e => return error.context (s!"rolling back the failed apply also failed " ++
        s!"({AnyError.text e}); the journal keeps the token for startup recovery")

section Executor
variable (input : LiveExperimentManagerInput) (host : ManagerHost)
    (observation : AutotuneObservation)
  (answers : ExecutorAnswers)

/-- The commit barrier: the token is journaled, and noted once it is. -/
def prepareHook (candidate : CandidateAction) (experimentId : ExperimentId)
    (token : RollbackToken) :
    Op TransactionState AnyError Unit := do
  let id ← onWorld (tryNewId "ExperimentId" experimentId)
  onWorld (writeControllerJournalPhase .applying id candidate.actionId (some token)
    (journalMetadata input host observation candidate (some token.affectedTasks)
      "rollback_prepared_before_mutation"))
  assign fun s => { s with rollback := some token }

/-- The privileged apply of an operation with crash-safe preparation. -/
def applyPreparedThroughWorker (candidate : CandidateAction) (experimentId : ExperimentId) :
    WorldOp RollbackToken := do
  let (result, locals) ← withLocals (fun w => TransactionState.mk w none false) (·.world)
    (answers.prepared.perform (prepareHook input host observation candidate experimentId) :
      Op TransactionState AnyError WorkerResult)
  let answer ← ofExcept result
  match answer with
  | .ok token => return token
  | .error text => do
    let e ← settleFailedPreparedApply answers.rollback locals.rollback (.message text)
    fail (e.context
      s!"privileged apply failed for autotune candidate '{candidate.candidateName}'")

/-- The privileged apply of any other operation. -/
def applyThroughWorker (candidate : CandidateAction) : WorldOp RollbackToken := do
  let (result, _) ← withLocals (fun w => TransactionState.mk w none false) (·.world)
    (answers.unprepared.perform (fun _ => ret ()) : Op TransactionState AnyError WorkerResult)
  let answer ← ofExcept result
  match answer with
  | .ok token => return token
  | .error text => fail ((AnyError.message text).context
      s!"privileged apply failed for autotune candidate '{candidate.candidateName}'")

/-- The low-risk apply, through the journaled transaction. -/
def applyLowRiskCandidate (candidate : CandidateAction) (experimentId : ExperimentId) :
    WorldOp RollbackToken := do
  let action ← ofExcept answers.action
  let outcome ← applyJournaledAction action ⟨answers.check, none, none, false⟩ answers.clock
    ⟨experimentId, journalMetadata input host observation candidate none "pending_apply"⟩
  match outcome.rollback with
  | some token => return token
  | none => fail (.message "journaled apply returned without rollback token")

/-- `RuntimeLiveExperimentActionExecutor`. -/
def runtimeExecutor : ActionExecutor where
  applyCandidate candidate experimentId :=
    if deferredPrivilegedJournal input candidate then do
      ensure answers.hasPrivilegedService (.message ("privileged_worker_required: " ++
        "apply-medium-risk requires a privileged action service"))
      if candidate.operationKind.preparedTransactionImplemented then
        applyPreparedThroughWorker input host observation answers candidate experimentId
      else applyThroughWorker answers candidate
    else applyLowRiskCandidate input host observation answers candidate experimentId
  rollbackCandidate experiment := do
    if experiment.mode = .applyMediumRisk ∧
        SafetyClass.reversibleLowRisk.rank < experiment.safetyClass.rank then
      ensure answers.hasPrivilegedService (.message ("privileged_worker_required: " ++
        "apply-medium-risk rollback requires a privileged action service"))
    ofExcept answers.preview
    rollbackToken experiment.rollback (answers.rollback experiment.rollback)
    return answers.postRollbackConfig

end Executor

/-! ## Rolling back -/

/-- A rollback fails before it reached the host, or undoes what the token covers, all of
it if it answers well; the stores stay. -/
theorem holds_rollbackCandidate {input : LiveExperimentManagerInput} {host : ManagerHost}
    {observation : AutotuneObservation} {answers : ExecutorAnswers} {experiment : LiveExperiment}
    {I : World → Prop} {Q : Except AnyError (Option ActiveConfigSnapshot) → World → Prop}
      {w : World}
    (hrefused : ∀ e, Q (.error e) w) (hpart : ∀ u, I (w.restore experiment.rollback u) ∧
      ∀ e, Q (.error e) (w.restore experiment.rollback u))
    (hall : I ((w.restore experiment.rollback fun _ => true).discharge experiment.rollback) ∧
      Q (.ok answers.postRollbackConfig)
        ((w.restore experiment.rollback fun _ => true).discharge experiment.rollback)) :
    Holds ((runtimeExecutor input host observation answers).rollbackCandidate experiment) I Q
      w := by
  have hrest : Holds (do
      ofExcept answers.preview
      rollbackToken experiment.rollback (answers.rollback experiment.rollback)
      return answers.postRollbackConfig : WorldOp (Option ActiveConfigSnapshot)) I Q w := by
    rw [holds_bind, holds_ofExcept]
    cases answers.preview with
    | error e => exact hrefused e
    | ok _ =>
      dsimp only
      rw [holds_bind]
      refine holds_rollbackToken ?_ ?_
      · exact fun u => ⟨(hpart u).1, fun e => (hpart u).2 e⟩
      · exact ⟨hall.1, holds_pure.mpr hall.2⟩
  unfold runtimeExecutor
  dsimp only
  split
  · rw [holds_bind, holds_ensure]
    split
    · exact hrest
    · exact hrefused _
  · exact hrest

theorem AnyError.context_outstanding {note : String} {e : AnyError} :
    (e.context note).outstanding = e.outstanding := by
  cases e with
  | message text => rfl
  | boundary kind code text => rfl
  | journaled text rollback done => cases done <;> rfl

end Stutter

import StutterProof.PreparedTransaction
import StutterProof.RollbackRegistry

/-! # Startup recovery

Before a controller plans anything it restores what an earlier one left applied:
each entry of the kept-action ledger, then the experiment in flight in the journal.
A restored token's record is cleared and its ledger entry retired; a token that
could not be restored stays and the recovery is `Faulted`, which the gate turns into
a refusal to start.

`StartupHost` holds the answers of the outside to one restore: the rollback
registry, the privileged worker, and whether an affinity restore file still exists.
A recovery is given one such host for each restore it attempts. -/
namespace Stutter
open Fallible

structure StartupRecoveryConfig where
  rollbackOnCrashRecovery : Bool

/-- What the recovery of a start did. -/
inductive StartupRecoveryOutcome where
  | clean
  | applyingWithoutRollback (experimentId : ExperimentId) (actionId : ActionId)
  | rollbackDisabled (experimentId : ExperimentId) (actionId : ActionId)
      (manualRestoreCommand : String)
  | recovered (experimentId : ExperimentId) (actionId : ActionId) (affectedTasks : Nat)
      (manualRestoreCommand : String)
  | faulted (experimentId : ExperimentId) (actionId : ActionId) (manualRestoreCommand : String)
      (reason : String)
  deriving DecidableEq

def StartupRecoveryOutcome.isFaulted : StartupRecoveryOutcome → Bool
  | faulted .. => true
  | _ => false

/-- What a successful executor call tells recovery: the error count is not part of
it. -/
structure StartupRecoveryRollbackSummary where
  affectedTasks : Nat
  message : String

/-- The outside, as recovery sees it. -/
structure StartupHost where
  /-- The answer of the startup rollback registry. -/
  registry : RollbackToken → Except AnyError RollbackResult
  /-- The privileged worker behind the configured socket, with the number of items
  it restored. -/
  worker : Option (RollbackToken → Except AnyError Nat)
  restoreFileExists : String → Bool
  /-- Which of the token's writes the attempt undid. -/
  undone : RollbackToken → HostWrite → Bool
  /-- The text of the manual restore command for a token. -/
  manualRestoreCommand : RollbackToken → String

/-- Whether restoring the token needs the privileged worker. -/
def needsPrivilegedRestore : RollbackToken → Bool
  | .niceRestore _ | .cpuPowerRestore _ => true
  | _ => false

/-- The registry's report as recovery's summary: errors only show in the text. -/
def startupRecoverySummaryFromRollbackResult (token : RollbackToken) (result : RollbackResult) :
    StartupRecoveryRollbackSummary :=
  let skipped := result.skippedDead + result.skippedIdentityMismatch + result.legacyUnverified
  let errors := if 0 < result.errors then s!" errors={result.errors}" else ""
  let joined := "; ".intercalate result.messages
  let messages := if result.messages.isEmpty then "" else s!" messages=\"{joined}\""
  ⟨result.restored, s!"rollback_kind={token.kind} restored_items={result.restored} " ++
    s!"skipped_items={skipped}{errors}{messages}"⟩

namespace StartupHost
variable (host : StartupHost)

/-- The affinity restore file of the token is gone. -/
def restoreFileGone : RollbackToken → Bool
  | .cpuAffinityRestoreFile path _ => !host.restoreFileExists path
  | _ => false

/-- `RealStartupRecoveryRollbackExecutor::rollback`, its answer only. -/
def rollbackAnswer (token : RollbackToken) : Except AnyError StartupRecoveryRollbackSummary := do
  requireAutomaticRecovery token
  match host.worker with
  | some restoreThroughWorker =>
    if needsPrivilegedRestore token then
      let restored ← restoreThroughWorker token
      return ⟨restored, s!"rollback_kind={token.kind} restored_items={restored} " ++
        s!"through the privileged worker"⟩
  | none => pure ()
  if host.restoreFileGone token then
    return ⟨0, s!"rollback_kind={token.kind} restore file is gone: already restored"⟩
  let result ← (host.registry token).mapError (AnyError.context
    s!"startup crash recovery failed to restore rollback token_kind={token.kind}")
  return startupRecoverySummaryFromRollbackResult token result

/-- The answer stands for a discharged token: the worker restored it, its restore
file is gone, or the registry's result is one that emergency restore classifies as
restored. -/
def discharges (token : RollbackToken) : Bool :=
  (requireAutomaticRecovery token).isOk &&
    match host.worker, needsPrivilegedRestore token with
    | some restoreThroughWorker, true => (restoreThroughWorker token).isOk
    | _, _ => host.restoreFileGone token ||
      match host.registry token with
      | .ok result => result.classify == .restored
      | .error _ => false

/-- The executor: it undoes some of the token's writes, all of them if the token is
discharged, and answers. -/
def rollback (token : RollbackToken) : WorldOp StartupRecoveryRollbackSummary := do
  Op.update (World.restore · token (host.undone token))
  if host.discharges token then
    Op.update fun w => (w.restore token fun _ => true).discharge token
  Op.ofExcept (host.rollbackAnswer token)

end StartupHost

inductive RecoverySource where
  | journal | ledger
  deriving DecidableEq

/-- Audit, history and state-snapshot writes: they can fail and touch no store of
the model. -/
def recordRecovery (what : String) : WorldOp Unit :=
  durable s!"write startup recovery {what}" fun w => w

section Recovery
variable (config : StartupRecoveryConfig) (host : StartupHost)

/-- The manual command of a token; a token without one points at the journal. -/
def manualRestoreText (token : RollbackToken) : String :=
  if (host.manualRestoreCommand token).toList.all isTrimmed then
    s!"inspect retained controller journal: token_kind={token.kind} contains no manual " ++
      s!"restore operations"
  else host.manualRestoreCommand token

/-- The journal can be read and holds exactly this token. -/
def journalNamesToken (token : RollbackToken) : WorldOp Bool := do
  match ← Op.attempt readControllerJournal with
  | .ok record => return record.rollbackToken == some token
  | .error _ => return false

/-- `recover_applied_journal_record`. -/
def recoverAppliedJournalRecord (experimentId : ExperimentId) (actionId : ActionId)
    (token : RollbackToken) (source : RecoverySource) : WorldOp StartupRecoveryOutcome := do
  let manualCommand := manualRestoreText host token
  if !config.rollbackOnCrashRecovery then
    recordRecovery "daemon state snapshot"
    return .rollbackDisabled experimentId actionId manualCommand
  -- the gate comes before the dispatch, whatever the executor
  match ← Op.attempt (do
      Op.ofExcept (requireAutomaticRecovery token)
      host.rollback token) with
  | .ok summary =>
    let named ← journalNamesToken token
    if source == .journal || named then
      writeControllerJournalClean
    retireKept experimentId
    recordRecovery "audit event"
    recordRecovery "history event"
    recordRecovery "daemon state snapshot"
    return .recovered experimentId actionId summary.affectedTasks manualCommand
  | .error e =>
    recordRecovery "audit event"
    recordRecovery "history event"
    recordRecovery "daemon state snapshot"
    return .faulted experimentId actionId manualCommand
      s!"startup crash recovery rollback failed: {e.text}"

/-- The entries in order, from restore number `n` on; the first error ends the
recovery. -/
def recoverEntries (hosts : Nat → StartupHost) :
    Nat → List KeptLedgerEntry → WorldOp (List StartupRecoveryOutcome)
  | _, [] => Op.ret []
  | n, entry :: entries => do
    let outcome ← recoverAppliedJournalRecord config (hosts n) entry.experimentId entry.actionId
      entry.rollbackToken .ledger
    let outcomes ← recoverEntries hosts (n + 1) entries
    return outcome :: outcomes

/-- `recover_kept_ledger`. -/
def recoverKeptLedger (hosts : Nat → StartupHost) : WorldOp (List StartupRecoveryOutcome) := do
  let ledger ← readKeptLedger
  recoverEntries config hosts 0 ledger.entries

def ControllerJournalState.asStr : ControllerJournalState → String
  | .clean => "clean"
  | .planned => "planned"
  | .preflighted => "preflighted"
  | .applying => "applying"
  | .applied => "applied"
  | .verifying => "verifying"
  | .measuring => "measuring"
  | .keeping => "keeping"
  | .reverting => "reverting"
  | .reverted => "reverted"
  | .faulted => "faulted"

/-- The ids of a record, with names for missing ones. -/
def journalExperimentAction (record : ControllerJournalRecord) : ExperimentId × ActionId :=
  (record.experimentId.getD s!"{record.state.asStr}-unknown-experiment",
    record.actionId.getD s!"{record.state.asStr}-unknown-action")

/-- The branches of `recover_journal_record` on the record it read. -/
def recoverRecord (record : ControllerJournalRecord) : WorldOp StartupRecoveryOutcome :=
  match record.state with
  | .clean => return .clean
  | .reverted | .planned | .preflighted => do
    writeControllerJournalClean
    return .clean
  | .applying | .applied | .verifying | .measuring | .keeping | .reverting | .faulted => do
    let (experimentId, actionId) := journalExperimentAction record
    match record.rollbackToken with
    | some token =>
      recoverAppliedJournalRecord config host experimentId actionId token .journal
    | none =>
      recordRecovery "daemon state snapshot"
      return .applyingWithoutRollback experimentId actionId

/-- `recover_journal_record`. -/
def recoverJournalRecord : WorldOp StartupRecoveryOutcome := do
  recoverRecord config host (← readControllerJournal)

/-- One outcome for the caller: a fault anywhere wins, then the journal's own, then
the first of the kept ones. -/
def combineOutcomes (kept : List StartupRecoveryOutcome) (journal : StartupRecoveryOutcome) :
    StartupRecoveryOutcome :=
  if journal.isFaulted then journal
  else match kept.find? (·.isFaulted) with
    | some faulted => faulted
    | none => if journal ≠ .clean then journal else kept.head?.getD journal

/-- `recover_controller_journal_with_executor`. -/
def recoverControllerJournal (hosts : Nat → StartupHost) : WorldOp StartupRecoveryOutcome := do
  let kept ← recoverKeptLedger config hosts
  let journal ← recoverJournalRecord config (hosts kept.length)
  return combineOutcomes kept journal

/-- The gate every long-running entry point passes: only a fault refuses the start. -/
def recoverBeforeStart (hosts : Nat → StartupHost) : WorldOp StartupRecoveryOutcome := do
  let outcome ← recoverControllerJournal config hosts
  match outcome with
  | .faulted _ _ manualCommand _ =>
    Op.fail (.message (s!"autotune startup recovery failed; controller is Faulted; manual " ++
      s!"restore command: {manualCommand}"))
  | _ => return outcome

end Recovery
end Stutter

import StutterProof.Actions

/-! # What a rollback handler reports

A handler's `Ok` is itself a report: it counts the items it restored, the ones it
skipped because the task is gone or was replaced, and the ones it failed to
restore.  Two consumers read it, startup recovery and emergency restore.
`RollbackResult.classify` is how emergency restore reads it.

The nice handler is written out: `niceRestoreToken` counts what each record came to. -/
namespace Stutter

/-- What a rollback did. -/
structure RollbackResult where
  restored : Nat := 0
  skippedDead : Nat := 0
  skippedIdentityMismatch : Nat := 0
  legacyUnverified : Nat := 0
  errors : Nat := 0
  messages : List String := []

/-- The statuses of an emergency restore. -/
inductive AutotuneRestoreStatus where
  | clean | applyingWithoutRollbackToken | dryRun | restored | faulted
  deriving DecidableEq

/-- How emergency restore classifies a handler's `Ok`: a failed item is a fault. -/
def RollbackResult.classify (result : RollbackResult) : AutotuneRestoreStatus :=
  if 0 < result.errors then .faulted else .restored

/-! ## The nice handler -/

/-- Whether a record's task is the same. -/
inductive RestoreIdentityStatus where
  | sameTask
  | missing
  | mismatch (reason : String)
  | unknownLegacy
  deriving DecidableEq

/-- `RestoreWriteError`: the task is gone, or the write really failed. -/
inductive RestoreWriteError where
  | missingTask
  | failed (text : String)

/-- What the host answers about one record: the identity check, then the write. -/
structure NiceProbe where
  status : NiceRestoreRecord → RestoreIdentityStatus
  setTaskNice : NiceRestoreRecord → Except RestoreWriteError Unit

/-- The write of a record whose identity passed. -/
def niceWriteRecord (probe : NiceProbe) (record : NiceRestoreRecord) (result : RollbackResult) :
    RollbackResult :=
  match probe.setTaskNice record with
  | .ok _ => { result with restored := result.restored + 1 }
  | .error .missingTask => { result with skippedDead := result.skippedDead + 1 }
  | .error (.failed e) =>
    { result with
      errors := result.errors + 1
      messages := result.messages ++
        [s!"failed to restore original nice={record.originalNice} for tid={record.tid}: {e}"] }

/-- One turn of the handler's loop. -/
def niceRestoreRecord (requireVerifiedIdentity : Bool) (probe : NiceProbe)
    (result : RollbackResult) (record : NiceRestoreRecord) : RollbackResult :=
  match probe.status record with
  | .missing => { result with skippedDead := result.skippedDead + 1 }
  | .mismatch reason =>
    { result with
      skippedIdentityMismatch := result.skippedIdentityMismatch + 1
      messages := result.messages ++
        [s!"nice restore identity mismatch for tid={record.tid}: {reason}"] }
  | .unknownLegacy =>
    if requireVerifiedIdentity then
      { result with
        skippedIdentityMismatch := result.skippedIdentityMismatch + 1
        messages := result.messages ++
          [s!"nice restore refused unverifiable identity for tid={record.tid}"] }
    else niceWriteRecord probe record
      { result with legacyUnverified := result.legacyUnverified + 1 }
  | .sameTask => niceWriteRecord probe record result

/-- `NiceRollbackHandler::restore_token`. -/
def niceRestoreToken (requireVerifiedIdentity : Bool) (probe : NiceProbe) :
    RollbackToken → Except AnyError RollbackResult
  | .niceRestore records =>
    .ok (records.foldl (niceRestoreRecord requireVerifiedIdentity probe) {})
  | token => .error (.boundary "nice" "action_unsupported_rollback_token"
      (s!"action_unsupported_rollback_token: nice expected rollback token kind nice-restore, " ++
        s!"got {token.kind}"))

end Stutter

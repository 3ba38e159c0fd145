import StutterProof.ProcessHost

/-! # A restore of saved records

`restore_all_at_with_ops` walks the records of a restore file: it checks the identity of each
record's task, and sets the original value of the tasks that are still the same.  What becomes of a
record is its fate, and the counts of a restore are the counts of the fates.

A record that names no identity comes from the first format.  Its affinity is restored by the number
of the thread alone and noted as such; its nice value and I/O priority are not. -/
namespace Stutter.ProfileRestore

open ActiveConfig (CpuMask)
open Profiles (ReadError)

/-! ## The counts -/

/-- The counts of a restore. -/
structure ProfileRestoreSummary where
  affinity : Nat := 0
  nice : Nat := 0
  ionice : Nat := 0
  skippedDead : Nat := 0
  skippedIdentityMismatch : Nat := 0
  legacyUnverified : Nat := 0
  errors : Nat := 0

/-- `restored_total`. -/
def ProfileRestoreSummary.restoredTotal (summary : ProfileRestoreSummary) : Nat :=
  summary.affinity + summary.nice + summary.ionice

def ProfileRestoreSummary.skippedTotal (summary : ProfileRestoreSummary) : Nat :=
  summary.skippedDead + summary.skippedIdentityMismatch

/-- The loop's variables: the counts, the errors, and the calls so far. -/
structure Restore where
  summary : ProfileRestoreSummary := {}
  errors : List AnyError := []
  log : Log := []

namespace Restore

def skipDead (state : Restore) : Restore :=
  { state with summary := { state.summary with skippedDead := state.summary.skippedDead + 1 } }

def skipMismatch (state : Restore) : Restore :=
  { state with summary :=
      { state.summary with skippedIdentityMismatch := state.summary.skippedIdentityMismatch + 1 } }

def noteLegacy (state : Restore) : Restore :=
  { state with summary :=
      { state.summary with legacyUnverified := state.summary.legacyUnverified + 1 } }

def fail (state : Restore) (error : AnyError) : Restore :=
  { state with
    summary := { state.summary with errors := state.summary.errors + 1 }
    errors := state.errors ++ [error] }

end Restore

/-! ## The identity checks -/

/-- The check of an affinity record, and whether its mask is set. -/
def restoreAffinityIdentity (host : Host) (record : AffinityRecord) (state : Restore) :
    Bool × Restore :=
  match restoreRecordStatus host record state.log with
  | (.ok .verified, log) => (true, { state with log })
  | (.ok .legacyUnverified, log) => (true, { state with log }.noteLegacy)
  | (.ok .dead, log) => (false, { state with log }.skipDead)
  | (.ok .identityMismatch, log) => (false, { state with log }.skipMismatch)
  | (.error error, log) => (false, { state with log }.fail (.message error.text))

/-- `restore_priority_identity`. -/
def restorePriorityIdentity (host : Host) (record : RestoreRecord Int) (state : Restore) :
    Bool × Restore :=
  match restoreRecordStatus host record state.log with
  | (.ok .verified, log) => (true, { state with log })
  | (.ok .dead, log) => (false, { state with log }.skipDead)
  | (.ok .identityMismatch, log) | (.ok .legacyUnverified, log) =>
    (false, { state with log }.skipMismatch)
  | (.error error, log) => (false, { state with log }.fail (.message error.text))

/-! ## The loops -/

/-- What the loops over the three kinds of records do not share. -/
structure RestoreLoop (α : Type) where
  identity : Host → RestoreRecord α → Restore → Bool × Restore
  setter : Setter α
  count : ProfileRestoreSummary → ProfileRestoreSummary
  failure : RestoreRecord α → ReadError → String

def affinityLoop : RestoreLoop CpuMask where
  identity := restoreAffinityIdentity
  setter := affinitySetter
  count summary := { summary with affinity := summary.affinity + 1 }
  failure record error := s!"failed to restore affinity for TID {record.tid}: {error.text}"

def niceLoop : RestoreLoop Int where
  identity := restorePriorityIdentity
  setter := niceSetter
  count summary := { summary with nice := summary.nice + 1 }
  failure record error :=
    s!"failed to restore nice={record.original} for TID {record.tid}: {error.text}"

def ioniceLoop : RestoreLoop Int where
  identity := restorePriorityIdentity
  setter := ioprioSetter
  count summary := { summary with ionice := summary.ionice + 1 }
  failure record error :=
    s!"failed to restore I/O priority={record.original} for TID {record.tid}: {error.text}"

section Loop
variable {α : Type}

/-- The set call of a record, and how it is counted. -/
def setOriginal (loop : RestoreLoop α) (host : Host) (state : Restore) (record : RestoreRecord α) :
    Restore :=
  match loop.setter.call host record.tid record.original state.log with
  | (.ok (), log) => { state with summary := loop.count state.summary, log }
  | (.error error, log) =>
    if error.isGone then { state with log }.skipDead
    else { state with log }.fail (.message (loop.failure record error))

/-- One turn of the loop over the records of a kind. -/
def restoreRecord (loop : RestoreLoop α) (host : Host) (state : Restore)
    (record : RestoreRecord α) :
    Restore :=
  match loop.identity host record state with
  | (true, state) => setOriginal loop host state record
  | (false, state) => state

def restoreRecords (loop : RestoreLoop α) (host : Host) (state : Restore)
    (records : List (RestoreRecord α)) : Restore :=
  records.foldl (restoreRecord loop host) state

end Loop

/-- `restore_all_at_with_ops`. -/
def restoreAllAtWithOps (host : Host) (saved : ProfileRestoreState) : Restore :=
  let state := restoreRecords affinityLoop host {} saved.affinityRecords
  let state := restoreRecords niceLoop host state saved.niceRecords
  restoreRecords ioniceLoop host state saved.ioniceRecords

/-- `restore_saved_with_validation`, of a path that holds `content`, and what it holds afterwards;
`removes` is whether the file can be removed. -/
def restoreSavedWithValidation (path : String)
    (validate : ProfileRestoreState → Except AnyError Unit) (host : Host) (removes : Bool)
    (content : Option FileContent) :
    Except AnyError ProfileRestoreSummary × Option FileContent :=
  match loadRestoreState path content with
  | .error error => (.error error, content)
  | .ok saved =>
    match validate saved with
    | .error error => (.error error, content)
    | .ok () =>
      let restore := restoreAllAtWithOps host saved
      if restore.errors.isEmpty then (.ok restore.summary, if removes then none else content)
      else
        (.error (.message (s!"failed to restore {restore.errors.length} profile record(s); " ++
          s!"restore file kept at {path}")), content)

end Stutter.ProfileRestore

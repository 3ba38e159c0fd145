import StutterProof.DaemonStore
import StutterProof.EmergencyRestore
import StutterProof.RestoreFates

/-! # The daemon's restore

`daemon restore` first restores the action of the controller's journal, then the two restore files
of profiles, and only then opens the daemon's state.  It marks the daemon restored or faulted by the
status of the first of these; a restore file that fails ends the command before the state is opened.

What the command prints is left out; of a dry run that is all but the counts. -/
namespace Stutter

/-! ## The first format's restore file -/

namespace ProfileRestore

/-- What the path of an affinity restore file holds. -/
inductive AffinityFile where
  | unreadable (error : String)
  | malformed (error : String)
  /-- It has one of the lists of a profile restore file. -/
  | profileFormat
  | mistyped (error : String)
  | state (schemaVersion : Nat) (records : List AffinityRecord)

/-- `affinity::load_restore_state`, for its records. -/
def loadAffinityRecords (path : String) (content : Option AffinityFile) :
    Except AnyError (List AffinityRecord) :=
  match content with
  | none => .error ((AnyError.message "No such file or directory (os error 2)").context
      s!"failed to read restore file {path}")
  | some (.unreadable error) => .error ((AnyError.message error).context
      s!"failed to read restore file {path}")
  | some (.malformed error) => .error ((AnyError.message error).context
      s!"failed to parse restore file {path}")
  | some .profileFormat =>
    .error (.message "profile restore format is not an affinity restore file")
  | some (.mistyped error) => .error (.message error)
  | some (.state schemaVersion records) =>
    if 1 ≤ schemaVersion ∧ schemaVersion ≤ 3 then .ok records
    else .error (.message s!"unsupported affinity restore schema {schemaVersion}")

/-- The loop of `affinity::restore_all`: that over a profile's affinity records, with a text of its
own for a mask that cannot be set. -/
def savedAffinityLoop : RestoreLoop ActiveConfig.CpuMask :=
  { affinityLoop with failure := fun record error =>
      s!"failed to set CPU affinity for TID {record.tid}: {error.text}" }

/-- `affinity::restore_all`. -/
def restoreAllAffinity (host : Host) (records : List AffinityRecord) : Restore :=
  restoreRecords savedAffinityLoop host {} records

/-- `affinity::restore_saved`, and what the path holds afterwards; its `restored` is the count of
the affinity records. -/
def restoreSavedAffinity (path : String) (host : Host) (removes : Bool)
    (content : Option AffinityFile) :
    Except AnyError ProfileRestoreSummary × Option AffinityFile :=
  match loadAffinityRecords path content with
  | .error error => (.error error, content)
  | .ok records =>
    let restore := restoreAllAffinity host records
    if restore.errors.isEmpty then (.ok restore.summary, if removes then none else content)
    else
      (.error (.message (s!"failed to restore {restore.errors.length} affinity record(s); " ++
        s!"restore file kept at {path}")), content)

/-! ## Both restore files -/

/-- A restore file's counts, added to those of the restore. -/
def ProfileRestoreSummary.plus (summary more : ProfileRestoreSummary) : ProfileRestoreSummary where
  affinity := summary.affinity + more.affinity
  nice := summary.nice + more.nice
  ionice := summary.ionice + more.ionice
  skippedDead := summary.skippedDead + more.skippedDead
  skippedIdentityMismatch := summary.skippedIdentityMismatch + more.skippedIdentityMismatch
  legacyUnverified := summary.legacyUnverified + more.legacyUnverified
  errors := summary.errors + more.errors

/-- What restoring the profile state did. -/
structure ProfileRestoreCommandOutcome where
  dryRun : Bool
  affinityPath : String
  profilePath : String
  affinityRecords : Nat := 0
  profileAffinityRecords : Nat := 0
  profileNiceRecords : Nat := 0
  profileIoniceRecords : Nat := 0
  restoredAny : Bool := false
  summary : ProfileRestoreSummary := {}

namespace ProfileRestoreCommandOutcome
variable (outcome : ProfileRestoreCommandOutcome)

def foundAny : Bool :=
  outcome.restoredAny || 0 < outcome.affinityRecords || 0 < outcome.profileAffinityRecords ||
    0 < outcome.profileNiceRecords || 0 < outcome.profileIoniceRecords

def restoredTotal : Nat := outcome.summary.restoredTotal
def skippedTotal : Nat := outcome.summary.skippedTotal
def unverifiedTotal : Nat := outcome.summary.legacyUnverified
def errorTotal : Nat := outcome.summary.errors

end ProfileRestoreCommandOutcome

/-- The two restore files, and the host while each is restored. -/
structure RestoreFiles where
  affinityPath : String
  affinityFile : Option AffinityFile
  affinityHost : Host
  affinityRemoves : Bool
  profilePath : String
  profileFile : Option FileContent
  profileHost : Host
  profileRemoves : Bool

namespace RestoreFiles
variable (files : RestoreFiles)

/-- `profile_restore_dry_run`. -/
def profileRestoreDryRun : Except AnyError ProfileRestoreCommandOutcome := do
  let records ← if files.affinityFile.isSome then
      loadAffinityRecords files.affinityPath files.affinityFile else .ok []
  let saved ← if files.profileFile.isSome then
      loadRestoreState files.profilePath files.profileFile else .ok ⟨schemaVersion, [], [], []⟩
  return {
    dryRun := true
    affinityPath := files.affinityPath
    profilePath := files.profilePath
    affinityRecords := records.length
    profileAffinityRecords := saved.affinityRecords.length
    profileNiceRecords := saved.niceRecords.length
    profileIoniceRecords := saved.ioniceRecords.length }

/-- A restore file, if it is there, and its counts. -/
def restoreIfSaved {α : Type} (content : Option α)
    (restore : Except AnyError ProfileRestoreSummary) :
    Except AnyError ProfileRestoreSummary :=
  if content.isSome then restore else .ok {}

/-- `restore_profile_state_from_paths`. -/
def restoreProfileStateFromPaths (dryRun : Bool) : Except AnyError ProfileRestoreCommandOutcome :=
  if dryRun then files.profileRestoreDryRun
  else do
    let affinity ← restoreIfSaved files.affinityFile
      (restoreSavedAffinity files.affinityPath files.affinityHost files.affinityRemoves
        files.affinityFile).1
    let profile ← restoreIfSaved files.profileFile
      (restoreSavedWithValidation files.profilePath (fun _ => .ok ()) files.profileHost
        files.profileRemoves files.profileFile).1
    return {
      dryRun := false
      affinityPath := files.affinityPath
      profilePath := files.profilePath
      restoredAny := files.affinityFile.isSome || files.profileFile.isSome
      summary := affinity.plus profile }

end RestoreFiles

end ProfileRestore

/-! ## The command -/

/-- `{:?}`. -/
def AutotuneRestoreStatus.debug : AutotuneRestoreStatus → String
  | clean => "Clean"
  | applyingWithoutRollbackToken => "ApplyingWithoutRollbackToken"
  | dryRun => "DryRun"
  | restored => "Restored"
  | faulted => "Faulted"

namespace Daemon

open ProfileRestore (ProfileRestoreCommandOutcome RestoreFiles)

structure DaemonRestoreCommandInput where
  dryRun : Bool
  emergency : Bool

/-- Both restores of the command. -/
structure DaemonRestoreCommandOutcome where
  autotune : AutotuneRestoreOutcome
  profile : ProfileRestoreCommandOutcome

/-- `daemon_restore_summary_fields`. -/
def daemonRestoreSummaryFields (outcome : AutotuneRestoreOutcome)
    (profile : ProfileRestoreCommandOutcome) : String :=
  s!"status={outcome.status.debug} restored_actions={outcome.restoredActions} " ++
    s!"failed_actions={outcome.failedActions} skipped_actions={outcome.skippedActions} " ++
    s!"profile_found={profile.foundAny} profile_restored={profile.restoredTotal} " ++
    s!"profile_skipped_total={profile.skippedTotal} " ++
    s!"profile_skipped_dead={profile.summary.skippedDead} " ++
    s!"profile_skipped_identity_mismatch={profile.summary.skippedIdentityMismatch} " ++
    s!"profile_legacy_unverified={profile.unverifiedTotal} profile_errors={profile.errorTotal}"

/-- Everything the command meets: the registry and the stores of the controller, the restore files,
and the daemon's state with the time and the end of its write. -/
structure RestoreHost where
  registry : EmergencyHost
  world : World
  files : RestoreFiles
  disk : Disk
  statePath : String
  now : Nat
  write : Write

/-- How the command ended: its answer, what it did to the daemon's state, and the files
afterwards. -/
structure RestoreRun where
  answer : Except AnyError DaemonRestoreCommandOutcome
  marked : Option Op
  disk : Disk

/-- The marking of a store that was opened. -/
def mark (host : RestoreHost) (store : DaemonStateStore) (op : Op)
    (answer : Except AnyError DaemonRestoreCommandOutcome) : RestoreRun :=
  match Host.step ⟨store, host.disk⟩ op with
  | (.error error, after) => ⟨.error (.message error), some op, after.disk⟩
  | (.ok (), after) => ⟨answer, some op, after.disk⟩

/-- The branches on the status of the controller's restore, once the state is open. -/
def markByStatus (input : DaemonRestoreCommandInput) (host : RestoreHost)
    (outcome : DaemonRestoreCommandOutcome) (store : DaemonStateStore) : RestoreRun :=
  let command := if input.emergency then "daemon_emergency_restore" else "daemon_restore"
  let summary := daemonRestoreSummaryFields outcome.autotune outcome.profile
  match outcome.autotune.status with
  | .clean | .restored =>
    mark host store (.markRestored s!"{command} completed {summary}" host.now host.write)
      (.ok outcome)
  | .applyingWithoutRollbackToken | .faulted =>
    let status := outcome.autotune.status.debug
    mark host store
      (.markFault store.state.mode s!"{command} could not complete {summary}"
        (some "stutter daemon emergency-restore --dry-run") host.now host.write)
      (.error (.message s!"daemon restore did not complete safely; status={status}"))
  | .dryRun => ⟨.ok outcome, none, host.disk⟩

/-- `run_restore_command_with_profile_paths`. -/
def runRestoreCommand (input : DaemonRestoreCommandInput) (host : RestoreHost) : RestoreRun :=
  match ((restoreKnownAutotuneActions host.registry input.dryRun).run host.world).result with
  | .error error => ⟨.error error, none, host.disk⟩
  | .ok autotune =>
    match host.files.restoreProfileStateFromPaths input.dryRun with
    | .error error => ⟨.error error, none, host.disk⟩
    | .ok profile =>
      if input.dryRun then ⟨.ok ⟨autotune, profile⟩, none, host.disk⟩
      else match daemonStateStoreForPath host.disk host.statePath with
        | .error error => ⟨.error (.message error), none, host.disk⟩
        | .ok store => markByStatus input host ⟨autotune, profile⟩ store

end Daemon

/-! ## The failed items -/

namespace ProfileRestore

theorem savedAffinityLoop_sound : savedAffinityLoop.Sound true :=
  ⟨affinityLoop_sound.identity, affinityLoop_sound.counted⟩

/-- Errors are kept as they are counted. -/
theorem Counted.errors_eq_zero {fates : List Fate} {after : Restore} (h : Counted fates {} after)
    (hempty : after.errors.isEmpty = true) : after.summary.errors = 0 := by
  have herrors : after.errors.length = 0 + fates.count .failed := h.errors
  have hfailed : after.summary.errors = 0 + fates.count .failed := h.failed
  rw [List.isEmpty_iff.mp hempty, List.length_nil] at herrors
  omega

namespace RestoreFiles
variable (files : RestoreFiles)

/-- The records of the affinity file that fail; a file that is there and cannot be loaded fails as a
whole. -/
def affinityFailures : Nat :=
  if files.affinityFile.isSome then
    match loadAffinityRecords files.affinityPath files.affinityFile with
    | .ok records => (restoreAllAffinity files.affinityHost records).summary.errors
    | .error _ => 1
  else 0

/-- The records of the profile file that fail. -/
def profileFailures : Nat :=
  if files.profileFile.isSome then
    match loadRestoreState files.profilePath files.profileFile with
    | .ok saved => (restoreAllAtWithOps files.profileHost saved).summary.errors
    | .error _ => 1
  else 0

variable {files : RestoreFiles} {summary : ProfileRestoreSummary}

theorem affinityFailures_eq_zero (h : restoreIfSaved files.affinityFile
    (restoreSavedAffinity files.affinityPath files.affinityHost files.affinityRemoves
      files.affinityFile).1 = .ok summary) : files.affinityFailures = 0 ∧ summary.errors = 0 := by
  unfold restoreIfSaved restoreSavedAffinity at h
  unfold affinityFailures
  by_cases hsaved : files.affinityFile.isSome = true
  · rw [if_pos hsaved] at h ⊢
    cases hload : loadAffinityRecords files.affinityPath files.affinityFile with
    | error error =>
      rw [hload] at h
      cases h
    | ok records =>
      simp only [hload] at h ⊢
      obtain ⟨_, fates, -, -, hcounted⟩ :=
        restoreRecords_spec savedAffinityLoop_sound files.affinityHost {} records
      split at h
      · rename_i hempty
        obtain rfl := Except.ok.inj h
        exact ⟨hcounted.errors_eq_zero hempty, hcounted.errors_eq_zero hempty⟩
      · cases h
  · rw [if_neg hsaved] at h ⊢
    obtain rfl := Except.ok.inj h
    exact ⟨rfl, rfl⟩

theorem profileFailures_eq_zero (h : restoreIfSaved files.profileFile
    (restoreSavedWithValidation files.profilePath (fun _ => .ok ()) files.profileHost
      files.profileRemoves files.profileFile).1 = .ok summary) :
    files.profileFailures = 0 ∧ summary.errors = 0 := by
  unfold restoreIfSaved restoreSavedWithValidation at h
  unfold profileFailures
  by_cases hsaved : files.profileFile.isSome = true
  · rw [if_pos hsaved] at h ⊢
    cases hload : loadRestoreState files.profilePath files.profileFile with
    | error error =>
      rw [hload] at h
      cases h
    | ok saved =>
      simp only [hload] at h ⊢
      obtain ⟨fates, hrun⟩ := restoreAllAtWithOps_run files.profileHost saved
      split at h
      · rename_i hempty
        obtain rfl := Except.ok.inj h
        exact ⟨hrun.counted.errors_eq_zero hempty, hrun.counted.errors_eq_zero hempty⟩
      · cases h
  · rw [if_neg hsaved] at h ⊢
    obtain rfl := Except.ok.inj h
    exact ⟨rfl, rfl⟩

/-- Where the restore of the files returns its counts, no record of either has failed. -/
theorem restoreProfileState_complete {outcome : ProfileRestoreCommandOutcome}
    (h : files.restoreProfileStateFromPaths false = .ok outcome) :
    files.affinityFailures = 0 ∧ files.profileFailures = 0 ∧ outcome.errorTotal = 0 := by
  rw [restoreProfileStateFromPaths, if_neg Bool.false_ne_true] at h
  cases haffinity : restoreIfSaved files.affinityFile (restoreSavedAffinity files.affinityPath
      files.affinityHost files.affinityRemoves files.affinityFile).1 with
  | error error =>
    rw [haffinity] at h
    cases h
  | ok affinity =>
    rw [haffinity] at h
    cases hprofile : restoreIfSaved files.profileFile (restoreSavedWithValidation files.profilePath
        (fun _ => .ok ()) files.profileHost files.profileRemoves files.profileFile).1 with
    | error error =>
      rw [hprofile] at h
      cases h
    | ok profile =>
      rw [hprofile] at h
      obtain rfl := Except.ok.inj h
      obtain ⟨hfirst, hfirstErrors⟩ := affinityFailures_eq_zero haffinity
      obtain ⟨hsecond, hsecondErrors⟩ := profileFailures_eq_zero hprofile
      refine ⟨hfirst, hsecond, ?_⟩
      show affinity.errors + profile.errors = 0
      omega

end RestoreFiles

end ProfileRestore

namespace Daemon

open ProfileRestore (ProfileRestoreCommandOutcome RestoreFiles)

/-- The failed items of the journal's action, as its handler counts them; a journal that cannot be
read, or a handler that gives up, fails as a whole. -/
def journalFailures (registry : EmergencyHost) (journal : StoreFile ControllerJournalRecord) :
    Nat :=
  match parseControllerJournal journal with
  | .error _ => 1
  | .ok record =>
    match record.outstandingToken with
    | none => 0
    | some token =>
      match registry.restoreToken token with
      | .ok result => result.errors
      | .error _ => 1

/-- The failed items of all three sources.  The command does not read the kept ledger. -/
def RestoreHost.failedItems (host : RestoreHost) : Nat :=
  journalFailures host.registry host.world.journal + host.files.affinityFailures +
    host.files.profileFailures

/-- The daemon's file has a fault. -/
def FaultInFile (disk : Disk) (path : String) : Prop :=
  ∃ state, disk path = .snapshot state ∧ state.faulted.isSome = true

section Journal
variable {registry : EmergencyHost} {dryRun : Bool}

theorem discharges_errors {token : RollbackToken} (h : registry.discharges token = true) :
    ∃ result, registry.restoreToken token = .ok result ∧ result.errors = 0 := by
  unfold EmergencyHost.discharges at h
  cases hresult : registry.restoreToken token with
  | error error =>
    rw [hresult] at h
    cases h
  | ok result =>
    rw [hresult] at h
    refine ⟨result, rfl, ?_⟩
    by_contra hfailed
    simp only [RollbackResult.classify, if_pos (Nat.pos_of_ne_zero hfailed)] at h
    cases h

/-- A reported success counts no failed action. -/
def CountsNone (result : Except AnyError AutotuneRestoreOutcome) : Prop :=
  ∀ outcome, result = .ok outcome → outcome.status.isSuccess = true → outcome.failedActions = 0

theorem countsNone_error {error : AnyError} : CountsNone (.error error) := fun _ he => nomatch he

theorem countsNone_ok {outcome : AutotuneRestoreOutcome}
    (h : outcome.status.isSuccess = true → outcome.failedActions = 0) :
    CountsNone (.ok outcome) := by
  rintro _ ⟨⟩
  exact h

open Fallible.Op

theorem holds_restoreAppliedJournalRecord_countsNone {id : ExperimentId} {action : ActionId}
    {token : RollbackToken} {world : World} :
    Holds (restoreAppliedJournalRecord registry dryRun id action token) (fun _ => True)
      (fun result _ => CountsNone result) world := by
  unfold restoreAppliedJournalRecord
  cases dryRun with
  | true =>
    simp only [if_true, holds_bind, holds_ofExcept]
    cases registry.previewToken token with
    | error e => exact countsNone_error
    | ok preview => exact holds_pure.mpr (countsNone_ok (by rintro ⟨⟩))
  | false =>
    simp only [Bool.false_eq_true, if_false]
    rw [holds_bind, holds_attempt]
    refine holds_emergencyHost_restore.mono (fun _ h => h) ?_
    rintro (e | result) v -
    · exact holds_emergencyOutcome fun _ _ =>
        ⟨countsNone_ok (by rintro ⟨⟩), fun _ => countsNone_error⟩
    · dsimp only
      by_cases hfailed : 0 < (rollbackRestoreSummaryFromRegistryResult token result).failedItems
      · rw [if_pos hfailed]
        exact holds_emergencyOutcome fun _ _ =>
          ⟨countsNone_ok (by rintro ⟨⟩), fun _ => countsNone_error⟩
      · rw [if_neg hfailed, holds_bind]
        refine holds_writeControllerJournalClean ⟨trivial, fun _ => countsNone_error⟩ ⟨trivial, ?_⟩
        rintro (e | _)
        · exact countsNone_error
        · exact holds_emergencyOutcome fun _ _ =>
            ⟨countsNone_ok fun _ => rfl, fun _ => countsNone_error⟩

/-- A reported success leaves no failed item of the journal's action, and counts none. -/
theorem holds_restoreKnownAutotuneActions_complete {world : World} :
    Holds (restoreKnownAutotuneActions registry dryRun) (fun _ => True)
      (fun result _ => ∀ outcome, result = .ok outcome → outcome.status.isSuccess = true →
        journalFailures registry world.journal = 0 ∧ outcome.failedActions = 0) world := by
  rw [restoreKnownAutotuneActions, holds_bind]
  refine holds_durableRead trivial ?_ fun e _ he => by cases he
  unfold journalFailures
  cases parseControllerJournal world.journal with
  | error e => exact fun _ he => by cases he
  | ok record =>
    show Holds (restoreRecord registry dryRun record) _ _ _
    obtain ⟨token, htoken, heq⟩ | ⟨hnone, -, heq | heq⟩ | ⟨-, -, outcome, hstatus, heq⟩ :=
      restoreRecord_cases registry dryRun record
    · rw [heq]
      refine (holds_restoreAppliedJournalRecord.and
        holds_restoreAppliedJournalRecord_countsNone).mono
        (fun _ h => h.1) ?_
      rintro result _ ⟨hsucceeded, hcounts⟩ outcome houtcome hsuccess
      obtain ⟨-, hdischarges, -⟩ := hsucceeded outcome houtcome hsuccess
      obtain ⟨restored, hrestored, herrors⟩ := discharges_errors hdischarges
      refine ⟨?_, hcounts outcome houtcome hsuccess⟩
      simp only [htoken, hrestored, herrors]
    · rw [heq]
      refine holds_pure.mpr ?_
      rintro _ ⟨⟩ -
      exact ⟨by simp only [hnone], rfl⟩
    · rw [heq, holds_bind]
      refine holds_writeControllerJournalClean ⟨trivial, fun _ _ he => by cases he⟩ ⟨trivial, ?_⟩
      rintro (e | _)
      · exact fun _ he => by cases he
      · refine holds_pure.mpr ?_
        rintro _ ⟨⟩ -
        exact ⟨by simp only [hnone], rfl⟩
    · rw [heq]
      refine holds_pure.mpr ?_
      rintro _ ⟨⟩ hsuccess
      rw [hstatus] at hsuccess
      cases hsuccess

end Journal

/-! ## The fault -/

section Fault
variable {input : DaemonRestoreCommandInput} {host : RestoreHost} {store : DaemonStateStore}

theorem disk_mark (op : Op) (answer : Except AnyError DaemonRestoreCommandOutcome) :
    (mark host store op answer).marked = some op ∧
      (mark host store op answer).disk = (Host.step ⟨store, host.disk⟩ op).2.disk := by
  unfold mark
  split <;> rename_i heq <;> rw [heq] <;> exact ⟨rfl, rfl⟩

/-- A fault in the file is still there after the store was marked faulted again. -/
theorem faultInFile_markFault {mode : DaemonMode} {reason : String} {command : Option String}
    (hopened : daemonStateStoreForPath host.disk host.statePath = .ok store)
    (hfault : FaultInFile host.disk host.statePath) :
    FaultInFile (Host.step ⟨store, host.disk⟩
      (.markFault mode reason command host.now host.write)).2.disk host.statePath := by
  obtain ⟨state, hfile, hfaulted⟩ := hfault
  obtain rfl := daemonStateStoreForPath_snapshot hfile hopened
  have hlatched : Host.Latched ⟨⟨state, some host.statePath⟩, host.disk⟩ :=
    ⟨hfaulted, fun path hpath => Option.some.inj hpath ▸ ⟨state, hfile, hfaulted⟩⟩
  have hafter :=
    (hlatched.step_iff (.markFault mode reason command host.now host.write) nofun).mpr trivial
  exact hafter.2 host.statePath rfl

/-- What the branches on the status do: the daemon is marked restored only on a reported success,
and elsewhere a fault in its file stays. -/
theorem markByStatus_keeps (input : DaemonRestoreCommandInput)
    (outcome : DaemonRestoreCommandOutcome)
    (hopened : daemonStateStoreForPath host.disk host.statePath = .ok store)
    (hfailed : outcome.autotune.status.isSuccess = false) :
    (∀ reason now write, (markByStatus input host outcome store).marked ≠
      some (.markRestored reason now write)) ∧
    (FaultInFile host.disk host.statePath →
      FaultInFile (markByStatus input host outcome store).disk host.statePath) := by
  unfold markByStatus
  cases hstatus : outcome.autotune.status with
  | clean => rw [hstatus] at hfailed; cases hfailed
  | restored => rw [hstatus] at hfailed; cases hfailed
  | dryRun => exact ⟨nofun, id⟩
  | applyingWithoutRollbackToken =>
    simp only [(disk_mark _ _).1, (disk_mark _ _).2]
    exact ⟨nofun, faultInFile_markFault hopened⟩
  | faulted =>
    simp only [(disk_mark _ _).1, (disk_mark _ _).2]
    exact ⟨nofun, faultInFile_markFault hopened⟩

/-- **A restore with a failed item leaves the fault.**  The daemon is marked restored only if no
item of the journal, of the affinity file or of the profile file has failed; with one that has, a
fault in the daemon's file is there afterwards. -/
theorem restored_only_when_complete (input : DaemonRestoreCommandInput) (host : RestoreHost) :
    (∀ reason now write, (runRestoreCommand input host).marked =
      some (.markRestored reason now write) →
      host.failedItems = 0) ∧
    (host.failedItems ≠ 0 → FaultInFile host.disk host.statePath →
      FaultInFile (runRestoreCommand input host).disk host.statePath) := by
  unfold runRestoreCommand
  cases hautotune : ((restoreKnownAutotuneActions host.registry input.dryRun).run
    host.world).result with
  | error error => exact ⟨nofun, fun _ h => h⟩
  | ok autotune =>
    cases hprofile : host.files.restoreProfileStateFromPaths input.dryRun with
    | error error => exact ⟨nofun, fun _ h => h⟩
    | ok profile =>
      by_cases hdry : input.dryRun = true
      · simp only [if_pos hdry]
        exact ⟨nofun, fun _ h => h⟩
      · simp only [if_neg hdry]
        cases hopened : daemonStateStoreForPath host.disk host.statePath with
        | error error => exact ⟨nofun, fun _ h => h⟩
        | ok store =>
          simp only
          cases hsuccess : autotune.status.isSuccess with
          | true =>
            -- both files and the journal's action are complete
            rw [Bool.not_eq_true] at hdry
            rw [hdry] at hprofile
            obtain ⟨haffinity, hfile, -⟩ := RestoreFiles.restoreProfileState_complete hprofile
            obtain ⟨hjournal, -⟩ :=
              holds_restoreKnownAutotuneActions_complete.2 autotune hautotune hsuccess
            have hzero : host.failedItems = 0 := by
              unfold RestoreHost.failedItems
              omega
            exact ⟨fun _ _ _ _ => hzero, fun h => absurd hzero h⟩
          | false =>
            obtain ⟨hmarked, hkeeps⟩ :=
              markByStatus_keeps input ⟨autotune, profile⟩ hopened hsuccess
            exact ⟨fun reason now write h => absurd h (hmarked reason now write), fun _ => hkeeps⟩

/-- With a clean journal and no restore file the fault is cleared. -/
example :
    let host : ProfileRestore.Host := ⟨fun _ _ => .ok none, fun _ _ => .error ⟨none, "no task"⟩,
      fun _ _ _ => .ok (), fun _ _ _ => .ok (), fun _ _ _ => .ok ()⟩
    let faulted := DaemonState.default.withFault .observe "apply failed" none 1
    let run := runRestoreCommand ⟨false, true⟩ ⟨willingHost, .fresh,
      ⟨"affinity", none, host, true, "profile", none, host, true⟩, fun _ => .snapshot faulted,
      "state", 2, .ok⟩
    run.marked.map Op.isMarkRestored = some true ∧ ¬ FaultInFile run.disk "state" := by
  refine ⟨rfl, ?_⟩
  rintro ⟨state, hfile, hfaulted⟩
  cases hfile
  cases hfaulted

end Fault

end Daemon

end Stutter

import StutterProof.RestoreAccounting

/-! # What becomes of the records of a restore

Each record has one fate, by the calls made for it: its original value was set, it was skipped, or
it failed.  A restore counts the fates, and it sets a value only right after it has found the
record's task unchanged. -/
namespace Stutter.ProfileRestore

open ActiveConfig (CpuMask)
open Profiles (ReadError)

/-- What became of a record. -/
inductive Fate where
  | restored | skipped | failed
  deriving DecidableEq

/-- What the answer of a set call makes of a record. -/
def fateOf : Except ReadError Unit → Fate
  | .ok () => .restored
  | .error error => if error.isGone then .skipped else .failed

/-- The counts grew by these fates. -/
structure Counted (fates : List Fate) (before after : Restore) : Prop where
  restored : after.summary.restoredTotal = before.summary.restoredTotal + fates.count .restored
  skipped : after.summary.skippedTotal = before.summary.skippedTotal + fates.count .skipped
  failed : after.summary.errors = before.summary.errors + fates.count .failed
  errors : after.errors.length = before.errors.length + fates.count .failed

namespace Counted

variable (state : Restore)

theorem refl : Counted [] state state :=
  ⟨rfl, rfl, rfl, rfl⟩

theorem trans {before middle after : Restore} {fates later : List Fate}
    (h : Counted fates before middle) (hlater : Counted later middle after) :
    Counted (fates ++ later) before after where
  restored := by rw [hlater.restored, h.restored, List.count_append, Nat.add_assoc]
  skipped := by rw [hlater.skipped, h.skipped, List.count_append, Nat.add_assoc]
  failed := by rw [hlater.failed, h.failed, List.count_append, Nat.add_assoc]
  errors := by rw [hlater.errors, h.errors, List.count_append, Nat.add_assoc]

theorem skipDead (log : Log) :
    Counted [.skipped] state { state with log }.skipDead where
  restored := rfl
  skipped := by
    show state.summary.skippedDead + 1 + state.summary.skippedIdentityMismatch =
      state.summary.skippedDead + state.summary.skippedIdentityMismatch + 1
    omega
  failed := rfl
  errors := rfl

theorem skipMismatch (log : Log) :
    Counted [.skipped] state { state with log }.skipMismatch where
  restored := rfl
  skipped := rfl
  failed := rfl
  errors := rfl

theorem fail (log : Log) (error : AnyError) :
    Counted [.failed] state ({ state with log }.fail error) where
  restored := rfl
  skipped := rfl
  failed := rfl
  errors := by
    show (state.errors ++ [error]).length = state.errors.length + 1
    rw [List.length_append, List.length_singleton]

end Counted

/-! ## One record -/

open EventLog

section Records
variable {α : Type}

/-- The calls that let the value of a record be set: its start times were just found, or, where that
is allowed, it names none. -/
def Vouched (legacy : Bool) (record : RestoreRecord α) (reads : Log) : Prop :=
  record.JustVerified reads ∨ (legacy = true ∧ record.Unidentified)

/-- The calls made for a record, and its fate. -/
inductive Handled (legacy : Bool) (setter : Setter α) (record : RestoreRecord α) : Log → Fate → Prop
  | set {reads : Log} (answer : Except ReadError Unit)
      (hquiet : ∀ event ∈ reads, event.isSet = false)
      (hvouched : Vouched legacy record reads) :
      Handled legacy setter record
        (reads ++ [setter.event record.tid record.original answer]) (fateOf answer)
  | notSet {reads : Log} {fate : Fate} (hquiet : ∀ event ∈ reads, event.isSet = false)
      (hfate : fate ≠ .restored) : Handled legacy setter record reads fate

/-- What an identity check does: it lets the value be set and counts nothing, or gives a fate. -/
def IdentityChecked (legacy : Bool) (record : RestoreRecord α) (before : Restore) :
    Bool × Restore → Prop
  | (true, after) => Counted [] before after ∧ ∃ reads, after.log = before.log ++ reads ∧
      (∀ event ∈ reads, event.isSet = false) ∧ Vouched legacy record reads
  | (false, after) => ∃ fate reads, fate ≠ .restored ∧ Counted [fate] before after ∧
      after.log = before.log ++ reads ∧ ∀ event ∈ reads, event.isSet = false

theorem restoreAffinityIdentity_checked (host : Host) (record : AffinityRecord) (state : Restore) :
    IdentityChecked true record state (restoreAffinityIdentity host record state) := by
  obtain ⟨reads, status, hstatus, hchecked⟩ := restoreRecordStatus_spec host record state.log
  unfold restoreAffinityIdentity
  rw [hstatus]
  rcases status with error | _ | _ | _ | _
  · exact ⟨.failed, reads, nofun, .fail .., rfl, hchecked.quiet⟩
  · exact ⟨⟨rfl, rfl, rfl, rfl⟩, reads, rfl, hchecked.quiet, .inl (hchecked.verified rfl)⟩
  · exact ⟨⟨rfl, rfl, rfl, rfl⟩, reads, rfl, hchecked.quiet, .inr ⟨rfl, hchecked.legacy rfl⟩⟩
  · exact ⟨.skipped, reads, nofun, .skipDead .., rfl, hchecked.quiet⟩
  · exact ⟨.skipped, reads, nofun, .skipMismatch .., rfl, hchecked.quiet⟩

theorem restorePriorityIdentity_checked (host : Host) (record : RestoreRecord Int)
    (state : Restore) :
    IdentityChecked false record state (restorePriorityIdentity host record state) := by
  obtain ⟨reads, status, hstatus, hchecked⟩ := restoreRecordStatus_spec host record state.log
  unfold restorePriorityIdentity
  rw [hstatus]
  rcases status with error | _ | _ | _ | _
  · exact ⟨.failed, reads, nofun, .fail .., rfl, hchecked.quiet⟩
  · exact ⟨⟨rfl, rfl, rfl, rfl⟩, reads, rfl, hchecked.quiet, .inl (hchecked.verified rfl)⟩
  · exact ⟨.skipped, reads, nofun, .skipMismatch .., rfl, hchecked.quiet⟩
  · exact ⟨.skipped, reads, nofun, .skipDead .., rfl, hchecked.quiet⟩
  · exact ⟨.skipped, reads, nofun, .skipMismatch .., rfl, hchecked.quiet⟩

/-- What the loops need of a kind: its check, and a counter that is one of the restored. -/
structure RestoreLoop.Sound (loop : RestoreLoop α) (legacy : Bool) : Prop where
  identity : ∀ host record state,
    IdentityChecked legacy record state (loop.identity host record state)
  counted : ∀ (state : Restore) (log : Log),
    Counted [.restored] state { state with summary := loop.count state.summary, log }

theorem affinityLoop_sound : affinityLoop.Sound true where
  identity := restoreAffinityIdentity_checked
  counted state log := by
    refine ⟨?_, rfl, rfl, rfl⟩
    show state.summary.affinity + 1 + state.summary.nice + state.summary.ionice =
      state.summary.affinity + state.summary.nice + state.summary.ionice + 1
    omega

theorem niceLoop_sound : niceLoop.Sound false where
  identity := restorePriorityIdentity_checked
  counted state log := by
    refine ⟨?_, rfl, rfl, rfl⟩
    show state.summary.affinity + (state.summary.nice + 1) + state.summary.ionice =
      state.summary.affinity + state.summary.nice + state.summary.ionice + 1
    omega

theorem ioniceLoop_sound : ioniceLoop.Sound false where
  identity := restorePriorityIdentity_checked
  counted _ _ := ⟨rfl, rfl, rfl, rfl⟩

variable {loop : RestoreLoop α} {legacy : Bool}

theorem setOriginal_spec (hloop : loop.Sound legacy) (host : Host) (state : Restore)
    (record : RestoreRecord α) :
    ∃ answer, (setOriginal loop host state record).log =
        state.log ++ [loop.setter.event record.tid record.original answer] ∧
      Counted [fateOf answer] state (setOriginal loop host state record) := by
  unfold setOriginal Setter.call
  generalize loop.setter.answer host state.log record.tid record.original = answer
  cases answer with
  | ok done => exact ⟨.ok (), rfl, hloop.counted ..⟩
  | error error =>
    refine ⟨.error error, ?_⟩
    by_cases hgone : error.isGone
    · simp only [hgone, if_true, fateOf]
      exact ⟨rfl, .skipDead ..⟩
    · simp only [hgone, if_false, fateOf, Bool.false_eq_true]
      exact ⟨rfl, .fail ..⟩

/-- **One turn of a loop**: the record has one fate, which is counted. -/
theorem restoreRecord_spec (hloop : loop.Sound legacy) (host : Host) (state : Restore)
    (record : RestoreRecord α) :
    ∃ segment fate, Handled legacy loop.setter record segment fate ∧
      (restoreRecord loop host state record).log = state.log ++ segment ∧
      Counted [fate] state (restoreRecord loop host state record) := by
  have hchecked := hloop.identity host record state
  unfold restoreRecord
  generalize loop.identity host record state = result at hchecked ⊢
  obtain ⟨_ | _, checked⟩ := result
  · obtain ⟨fate, reads, hfate, hcounted, hlog, hquiet⟩ := hchecked
    exact ⟨reads, fate, .notSet hquiet hfate, hlog, hcounted⟩
  · obtain ⟨hcounted, reads, hlog, hquiet, hvouched⟩ := hchecked
    obtain ⟨answer, hset, hcount⟩ := setOriginal_spec hloop host checked record
    refine ⟨_, _, .set answer hquiet hvouched, ?_, hcounted.trans hcount⟩
    rw [hset, hlog, List.append_assoc]

/-! ## All records -/

/-- The calls made for the records, in order, and their fates. -/
inductive HandledAll (legacy : Bool) (setter : Setter α) :
    List (RestoreRecord α) → Log → List Fate → Prop
  | nil : HandledAll legacy setter [] [] []
  | cons {record : RestoreRecord α} {rest : List (RestoreRecord α)} {segment log : Log}
      {fate : Fate}
      {fates : List Fate} (hrecord : Handled legacy setter record segment fate)
      (hrest : HandledAll legacy setter rest log fates) :
      HandledAll legacy setter (record :: rest) (segment ++ log) (fate :: fates)

/-- **A loop gives each record one fate.** -/
theorem restoreRecords_spec (hloop : loop.Sound legacy) (host : Host) (state : Restore)
    (records : List (RestoreRecord α)) :
    ∃ segment fates, HandledAll legacy loop.setter records segment fates ∧
      (restoreRecords loop host state records).log = state.log ++ segment ∧
      Counted fates state (restoreRecords loop host state records) := by
  induction records generalizing state with
  | nil => exact ⟨[], [], .nil, (List.append_nil _).symm, .refl state⟩
  | cons record rest ih =>
    obtain ⟨segment, fate, hrecord, hlog, hcounted⟩ := restoreRecord_spec hloop host state record
    obtain ⟨log, fates, hrest, hrestLog, hrestCounted⟩ := ih (restoreRecord loop host state record)
    refine ⟨segment ++ log, fate :: fates, .cons hrecord hrest, ?_, hcounted.trans hrestCounted⟩
    unfold restoreRecords at hrestLog ⊢
    rw [List.foldl_cons, hrestLog, hlog, List.append_assoc]

variable {setter : Setter α} {segment : Log}

theorem HandledAll.length_eq {records : List (RestoreRecord α)} {fates : List Fate}
    (h : HandledAll legacy setter records segment fates) : fates.length = records.length := by
  induction h with
  | nil => rfl
  | cons _ _ ih => rw [List.length_cons, List.length_cons, ih]

/-! ## Which calls may be made -/

/-- A set call is of a saved record, with its original value, and right after its start times were
found; the affinity of a record without them may be set at any time. -/
def Permitted (saved : ProfileRestoreState) (before : Log) : Event → Prop
  | .stat .. | .mask .. => True
  | .setAffinity tid mask _ => ∃ record ∈ saved.affinityRecords, record.tid = tid ∧
      record.original = mask ∧ (record.JustVerified before ∨ record.Unidentified)
  | .setNice tid nice _ => ∃ record ∈ saved.niceRecords, record.tid = tid ∧
      record.original = nice ∧ record.JustVerified before
  | .setIoprio tid ioprio _ => ∃ record ∈ saved.ioniceRecords, record.tid = tid ∧
      record.original = ioprio ∧ record.JustVerified before

theorem permitted_of_quiet (saved : ProfileRestoreState) (before : Log) {event : Event}
    (h : event.isSet = false) : Permitted saved before event := by
  cases event with
  | stat | mask => trivial
  | setAffinity | setNice | setIoprio => cases h

/-- The set calls of a loop are permitted, each of its own record. -/
def Setter.Permits (setter : Setter α) (legacy : Bool) (saved : ProfileRestoreState)
    (records : List (RestoreRecord α)) : Prop :=
  ∀ record ∈ records, ∀ before answer, Vouched legacy record before →
    Permitted saved before (setter.event record.tid record.original answer)

theorem Vouched.append {record : RestoreRecord α} {reads : Log} (h : Vouched legacy record reads)
    (log : Log) : Vouched legacy record (log ++ reads) :=
  h.imp (·.append log) id

theorem Handled.clean {saved : ProfileRestoreState} {record : RestoreRecord α} {fate : Fate}
    (h : Handled legacy setter record segment fate)
    (hpermits : setter.Permits legacy saved [record]) {log : Log}
    (hlog : Clean (Permitted saved) log) :
    Clean (Permitted saved) (log ++ segment) := by
  cases h with
  | notSet hquiet =>
    refine clean_append.mpr ⟨hlog, clean_of_forall fun event hevent before => ?_⟩
    exact permitted_of_quiet saved _ (hquiet event hevent)
  | @set reads answer hquiet hvouched =>
    rw [← List.append_assoc]
    refine clean_concat.mpr ⟨?_, ?_⟩
    · refine clean_append.mpr
        ⟨hlog, clean_of_forall fun event hevent before => ?_⟩
      exact permitted_of_quiet saved _ (hquiet event hevent)
    · exact hpermits record (List.mem_singleton.mpr rfl) _ answer (hvouched.append log)

/-- **A loop sets only what is permitted.** -/
theorem HandledAll.clean {saved : ProfileRestoreState} {records : List (RestoreRecord α)}
    {fates : List Fate} (h : HandledAll legacy setter records segment fates)
    (hpermits : setter.Permits legacy saved records) {log : Log}
    (hlog : Clean (Permitted saved) log) :
    Clean (Permitted saved) (log ++ segment) := by
  induction h generalizing log with
  | nil => rwa [List.append_nil]
  | @cons record rest segment later fate fates hrecord hrest ih =>
    rw [← List.append_assoc]
    refine ih (fun other hother => hpermits other (List.mem_cons_of_mem _ hother))
      (hrecord.clean ?_ hlog)
    intro other hother
    obtain rfl := List.mem_singleton.mp hother
    exact hpermits other List.mem_cons_self

end Records

variable (saved : ProfileRestoreState)

theorem affinitySetter_permits :
    affinitySetter.Permits true saved saved.affinityRecords := fun record hrecord _ _ hvouched =>
  ⟨record, hrecord, rfl, rfl, hvouched.imp id (·.2)⟩

theorem niceSetter_permits :
    niceSetter.Permits false saved saved.niceRecords := fun record hrecord _ _ hvouched =>
  ⟨record, hrecord, rfl, rfl, hvouched.resolve_right nofun⟩

theorem ioprioSetter_permits :
    ioprioSetter.Permits false saved saved.ioniceRecords := fun record hrecord _ _ hvouched =>
  ⟨record, hrecord, rfl, rfl, hvouched.resolve_right nofun⟩

/-- The three loops, one after the other. -/
structure RestoreRun (saved : ProfileRestoreState) (fates : List Fate) (after : Restore) :
    Prop where
  handled : ∃ affinityLog niceLog ioniceLog affinityFates niceFates ioniceFates,
    HandledAll true affinitySetter saved.affinityRecords affinityLog affinityFates ∧
    HandledAll false niceSetter saved.niceRecords niceLog niceFates ∧
    HandledAll false ioprioSetter saved.ioniceRecords ioniceLog ioniceFates ∧
    after.log = affinityLog ++ niceLog ++ ioniceLog ∧
    fates = affinityFates ++ niceFates ++ ioniceFates
  counted : Counted fates {} after

/-- **What a restore does**: each record is handled, in order, and its fate is counted. -/
theorem restoreAllAtWithOps_run (host : Host) (saved : ProfileRestoreState) :
    ∃ fates, RestoreRun saved fates (restoreAllAtWithOps host saved) := by
  obtain ⟨affinityLog, affinityFates, haffinity, hlog₁, hcounted₁⟩ :=
    restoreRecords_spec affinityLoop_sound host {} saved.affinityRecords
  obtain ⟨niceLog, niceFates, hnice, hlog₂, hcounted₂⟩ :=
    restoreRecords_spec niceLoop_sound host _ saved.niceRecords
  obtain ⟨ioniceLog, ioniceFates, hionice, hlog₃, hcounted₃⟩ :=
    restoreRecords_spec ioniceLoop_sound host _ saved.ioniceRecords
  refine ⟨_, ⟨affinityLog, niceLog, ioniceLog, affinityFates, niceFates, ioniceFates, haffinity,
    hnice, hionice, ?_, rfl⟩, (hcounted₁.trans hcounted₂).trans hcounted₃⟩
  unfold restoreAllAtWithOps
  rw [hlog₃, hlog₂, hlog₁]
  rfl

theorem RestoreRun.clean {saved : ProfileRestoreState} {fates : List Fate} {after : Restore}
    (h : RestoreRun saved fates after) : Clean (Permitted saved) after.log := by
  obtain ⟨affinityLog, niceLog, ioniceLog, _, _, _, haffinity, hnice, hionice, hlog, -⟩ := h.handled
  rw [hlog]
  refine hionice.clean (ioprioSetter_permits saved) (hnice.clean (niceSetter_permits saved) ?_)
  have hfirst := haffinity.clean (affinitySetter_permits saved) clean_nil
  rwa [List.nil_append] at hfirst

/-- The number of records in a restore file. -/
def ProfileRestoreState.size (saved : ProfileRestoreState) : Nat :=
  saved.affinityRecords.length + saved.niceRecords.length + saved.ioniceRecords.length

theorem Fate.count_total (fates : List Fate) :
    fates.count .restored + fates.count .skipped + fates.count .failed = fates.length := by
  induction fates with
  | nil => rfl
  | cons fate rest ih =>
    rw [List.length_cons, ← ih]
    cases fate <;> simp <;> omega

theorem RestoreRun.total {saved : ProfileRestoreState} {fates : List Fate} {after : Restore}
    (h : RestoreRun saved fates after) :
    after.summary.restoredTotal + after.summary.skippedTotal + after.summary.errors =
      saved.size := by
  obtain ⟨_, _, _, affinityFates, niceFates, ioniceFates, haffinity, hnice, hionice, -, hfates⟩ :=
    h.handled
  have hlength : fates.length = saved.size := by
    rw [hfates, List.length_append, List.length_append, haffinity.length_eq, hnice.length_eq,
      hionice.length_eq]
    rfl
  have htotal := Fate.count_total fates
  rw [h.counted.restored, h.counted.skipped, h.counted.failed, ← hlength, ← htotal]
  show 0 + _ + (0 + _) + (0 + _) = _
  omega

/-- **A restore touches only the tasks it saved, and accounts for every record.**  A set call has
the value of a saved record and comes right after the reads that found its process and thread; each
record has one fate, and the counts are those of the fates; the restore file goes only when no
record failed. -/
theorem restore_identity_safe_and_accounted (host : Host) (saved : ProfileRestoreState) :
    Clean (Permitted saved) (restoreAllAtWithOps host saved).log ∧
    (∃ fates, RestoreRun saved fates (restoreAllAtWithOps host saved)) ∧
    (restoreAllAtWithOps host saved).summary.restoredTotal +
      (restoreAllAtWithOps host saved).summary.skippedTotal +
      (restoreAllAtWithOps host saved).summary.errors = saved.size ∧
    ∀ path validate removes content,
      (restoreSavedWithValidation path validate host removes content).2 ≠ content →
      ∃ loaded, loadRestoreState path content = .ok loaded ∧ validate loaded = .ok () ∧
        (restoreAllAtWithOps host loaded).summary.errors = 0 := by
  obtain ⟨fates, hrun⟩ := restoreAllAtWithOps_run host saved
  refine ⟨hrun.clean, ⟨fates, hrun⟩, hrun.total, fun path validate removes content hremoved => ?_⟩
  simp only [restoreSavedWithValidation] at hremoved
  cases hload : loadRestoreState path content with
  | error error => simp only [hload, ne_eq, not_true_eq_false] at hremoved
  | ok loaded =>
    cases hvalid : validate loaded with
    | error error => simp only [hload, hvalid, ne_eq, not_true_eq_false] at hremoved
    | ok done =>
      refine ⟨loaded, rfl, hvalid, ?_⟩
      obtain ⟨loadedFates, hloaded⟩ := restoreAllAtWithOps_run host loaded
      by_cases hempty : (restoreAllAtWithOps host loaded).errors.isEmpty
      · -- the errors and their count grow together
        have hlength : (restoreAllAtWithOps host loaded).errors.length = 0 := by
          rw [List.isEmpty_iff.mp hempty]
          rfl
        have herrors := hloaded.counted.errors
        have hfailed := hloaded.counted.failed
        rw [hlength] at herrors
        rw [hfailed]
        show 0 + _ = 0
        have hzero : (0 : Nat) = 0 + loadedFates.count .failed := herrors
        omega
      · simp only [hload, hvalid, hempty, if_false, Bool.false_eq_true, ne_eq,
          not_true_eq_false] at hremoved

end Stutter.ProfileRestore

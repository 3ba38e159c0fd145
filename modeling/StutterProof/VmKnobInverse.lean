import StutterProof.Tally
import StutterProof.TextLaws
import StutterProof.VmKnobs

/-! # VM knobs: apply and rollback

A numeric file reads back what was written, so the apply is answered with a token and the rollback
of the token gives every knob its value back.  A selector never reads back the bare option, so the
apply of a change to one always ends in an error. -/
namespace Stutter.VmKnobs

open ActiveConfig (trim trimmed)
open Sysfs (TargetFile VmKnobAction)

/-- Knobs whose values are legal. -/
structure LegalKnobs where
  values : Knobs
  legal : ∀ knob, (knobFormat knob).Legal (values knob)

variable {action : VmKnobAction} {policy : VmKnobPolicy} {access : Access} {prior : LegalKnobs}

/-! ## Accepted changes -/

/-- The request passes every check, and its files are read. -/
def Accepted (action : VmKnobAction) (policy : VmKnobPolicy) (access : Access) (knobs : Knobs) :
    Prop :=
  validateManualApplyPolicy policy = .ok () ∧
    ∃ targets, collectTargetFiles action policy access knobs = .ok targets

variable {knob value : String}

theorem validateKnobValue_ok (h : validateKnobValue knob value = .ok ()) :
    trimmed value = value ∧ ∀ c ∈ value.toList, isPlainChar c = true := by
  rw [validateKnobValue] at h
  split at h
  · obtain ⟨_, hplain, -⟩ := Tally.ok_of_bind h
    exact SysfsRestore.validateText_ok hplain
  · obtain ⟨_, hplain, -⟩ := Tally.ok_of_bind h
    exact SysfsRestore.validateText_ok hplain

variable {knobs : Knobs}

/-- A collected target: its knob, what is asked for, and what was read. -/
theorem collectTargetFile_ok {root : String} {change : String × String} {target : VmKnobTargetFile}
    (h : collectTargetFile root policy access knobs change = .ok target) :
    normalizeRelativeKnobPath change.1 = .ok target.relativePath ∧
      target.originalValue = readTrimmed knobs target.relativePath ∧
      trimmed target.requestedValue = target.requestedValue ∧
      ∀ c ∈ target.requestedValue.toList, isPlainChar c = true := by
  obtain ⟨relativePath, hpath, h⟩ := Tally.ok_of_bind h
  dsimp only at h
  split at h
  · cases h
  obtain ⟨_, -, h⟩ := Tally.ok_of_bind h
  obtain ⟨_, hvalue, h⟩ := Tally.ok_of_bind h
  obtain ⟨_, -, h⟩ := Tally.ok_of_bind h
  obtain ⟨_, -, h⟩ := Tally.ok_of_bind h
  cases h
  exact ⟨hpath, rfl, validateKnobValue_ok hvalue⟩

variable {targets : List VmKnobTargetFile}

theorem collectTargetFiles_ok (h : collectTargetFiles action policy access knobs = .ok targets) :
    (∀ change ∈ action.changes, ∃ t ∈ targets,
      collectTargetFile action.root policy access knobs change = .ok t) ∧
      ∀ t ∈ targets, ∃ change ∈ action.changes,
        collectTargetFile action.root policy access knobs change = .ok t := by
  obtain ⟨_, -, h⟩ := Tally.ok_of_bind h
  exact Tally.mapM_ok h

/-! ## Files -/

theorem readTrimmed_numeric {knob : String} (h : knobFormat knob = .numeric) :
    readTrimmed knobs knob = trimmed (knobs knob) := by
  rw [readTrimmed, h, FileFormat.show, trimmed, String.toList_append]
  exact congrArg String.ofList (TextLaws.trim_append_blank (by decide) _)

theorem writeTrimmed_numeric {path knob value : String} (h : knobFormat knob = .numeric) :
    writeTrimmed knobs path knob value = (.ok (), Function.update knobs knob (trimmed value)) := by
  rw [writeTrimmed, h]
  rfl

theorem LegalKnobs.trimmed_values (prior : LegalKnobs) {knob : String}
    (h : knobFormat knob = .numeric) :
    trimmed (prior.values knob) = prior.values knob := by
  have hlegal := prior.legal knob
  rw [h] at hlegal
  exact hlegal

variable {options : List String} {knobs after : Knobs}

theorem writeTrimmed_selector {path knob value : String} (h : knobFormat knob = .selector options)
    (hwrite : writeTrimmed knobs path knob value = (.ok (), after)) :
    trimmed value ∈ options ∧ after = Function.update knobs knob (trimmed value) := by
  rw [writeTrimmed, h, FileFormat.accept] at hwrite
  by_cases hmem : trimmed value ∈ options
  · rw [if_pos hmem] at hwrite
    cases hwrite
    exact ⟨hmem, rfl⟩
  · rw [if_neg hmem] at hwrite
    cases hwrite

/-- A selector shows all its options, so there are blanks between them. -/
theorem blank_mem_shown (h : knobFormat knob = .selector options) (hvalue : value ∈ options) :
    ' ' ∈ (trimmed (FileFormat.show value (.selector options))).toList := by
  have hthp : ∀ value ∈ ["always", "madvise", "never"],
      ' ' ∈ trim (FileFormat.show value (.selector ["always", "madvise", "never"])).toList := by
    decide
  have hdefrag : ∀ value ∈ ["always", "defer", "defer+madvise", "madvise", "never"], ' ' ∈ trim
      (FileFormat.show value (.selector ["always", "defer", "defer+madvise", "madvise",
        "never"])).toList := by
    decide
  rw [trimmed, String.toList_ofList]
  unfold knobFormat at h
  split at h
  · cases h
    exact hthp value hvalue
  · cases h
    exact hdefrag value hvalue
  · cases h

/-- A selector never reads as a plain value. -/
theorem readTrimmed_selector_ne (h : knobFormat knob = .selector options)
    (hknob : knobs knob ∈ options) (hplain : ∀ c ∈ value.toList, isPlainChar c = true) :
    readTrimmed knobs knob ≠ value := by
  intro hread
  have hblank := blank_mem_shown h hknob
  rw [readTrimmed, h] at hread
  rw [hread] at hblank
  have hfalse := hplain ' ' hblank
  revert hfalse
  decide

/-! ## Numeric knobs -/

/-- Records of numeric knobs that hold the values of before. -/
def RecordsOf (prior : LegalKnobs) (records : List VmKnobTargetFile) : Prop :=
  ∀ record ∈ records, knobFormat record.relativePath = .numeric ∧
    record.originalValue = prior.values record.relativePath

/-- Of numeric knobs whose records are complete, the rollback gives the knobs of before. -/
theorem rollbackVmKnobRecords_numeric {records : List VmKnobTargetFile}
    (hrecords : RecordsOf prior records)
    (hknobs : ∀ knob, (∀ r ∈ records, r.relativePath ≠ knob) → knobs knob = prior.values knob) :
    rollbackVmKnobRecords knobs records = (.ok (), prior.values) := by
  have hwrites : ∀ r ∈ records, restorer.Writes (fun _ => True) (fun knobs r =>
      Function.update knobs r.relativePath (prior.values r.relativePath)) r := by
    intro record hmem knobs _
    obtain ⟨hnumeric, horiginal⟩ := hrecords record hmem
    have htrim := prior.trimmed_values hnumeric
    refine ⟨?_, ?_, trivial⟩
    · exact (writeTrimmed_numeric hnumeric).trans (by rw [horiginal, htrim])
    · refine congrArg Except.ok ((readTrimmed_numeric hnumeric).trans ?_)
      dsimp only
      rw [Function.update_self, htrim]
      exact horiginal.symm
  rw [rollbackVmKnobRecords, SysfsRestore.Restorer.rollbackRecords_ok hwrites trivial]
  exact congrArg _ (SysfsRestore.foldl_restore fun knob hother =>
    hknobs knob fun r hr => hother r (List.mem_reverse.mpr hr))

/-- Every target is applied, and only the knobs of the targets change. -/
theorem applyTargets_numeric (knobs : Knobs) (records : List VmKnobTargetFile)
    (htargets : ∀ t ∈ targets, knobFormat t.relativePath = .numeric ∧
      trimmed t.requestedValue = t.requestedValue) :
    ∃ after, applyTargets knobs records targets = (.ok (records ++ targets), after) ∧
      ∀ knob, (∀ t ∈ targets, t.relativePath ≠ knob) → after knob = knobs knob := by
  induction targets generalizing knobs records with
  | nil => exact ⟨knobs, by rw [applyTargets, List.append_nil], fun _ _ => rfl⟩
  | cons target rest ih =>
    obtain ⟨hnumeric, htrim⟩ := htargets target List.mem_cons_self
    have hrest := fun t ht => htargets t (List.mem_cons_of_mem target ht)
    have hrecords : records ++ target :: rest = records ++ [target] ++ rest := by simp
    rw [applyTargets, hrecords]
    dsimp only
    by_cases hsame : target.originalValue = target.requestedValue
    · obtain ⟨after, hafter, hknobs⟩ := ih knobs (records ++ [target]) hrest
      rw [if_pos hsame]
      exact ⟨after, hafter, fun knob hother => hknobs knob (List.forall_mem_cons.mp hother).2⟩
    · have hread : readTrimmed
          (Function.update knobs target.relativePath (trimmed target.requestedValue))
          target.relativePath = target.requestedValue := by
        rw [readTrimmed_numeric hnumeric, Function.update_self, htrim, htrim]
      obtain ⟨after, hafter, hknobs⟩ := ih (Function.update knobs target.relativePath
        (trimmed target.requestedValue)) (records ++ [target]) hrest
      rw [if_neg hsame, writeTrimmed_numeric hnumeric]
      dsimp only
      rw [hread, if_neg (not_not.mpr rfl)]
      refine ⟨after, hafter, fun knob hother => ?_⟩
      obtain ⟨hne, hother⟩ := List.forall_mem_cons.mp hother
      rw [hknobs knob hother, Function.update_of_ne (Ne.symm hne)]

/-! ## Selectors -/

/-- Where the apply is answered with a token, each target was left alone or read back as asked
for. -/
theorem applyTargets_ok {records token targets : List VmKnobTargetFile}
    (h : applyTargets knobs records targets = (.ok token, after)) :
    ∀ t ∈ targets, t.originalValue = t.requestedValue ∨ ∃ before written,
      writeTrimmed before t.path t.relativePath t.requestedValue = (.ok (), written) ∧
        readTrimmed written t.relativePath = t.requestedValue := by
  induction targets generalizing knobs records with
  | nil => simp
  | cons target rest ih =>
    rw [List.forall_mem_cons]
    rw [applyTargets] at h
    dsimp only at h
    split at h
    · rename_i hsame
      exact ⟨.inl hsame, ih h⟩
    · split at h
      · cases h
      · rename_i written hwrite
        by_cases hread : readTrimmed written target.relativePath = target.requestedValue
        · rw [if_neg (not_not.mpr hread)] at h
          exact ⟨.inr ⟨knobs, written, hwrite, hread⟩, ih h⟩
        · rw [if_pos hread] at h
          split at h
          · cases h
          · cases h

/-- A change to a selector is never answered with a token. -/
theorem applyTargets_numeric_of_ok {records token targets : List VmKnobTargetFile}
    (h : applyTargets knobs records targets = (.ok token, after))
    (htargets : ∀ t ∈ targets, t.originalValue = readTrimmed prior.values t.relativePath ∧
      ∀ c ∈ t.requestedValue.toList, isPlainChar c = true) :
    ∀ t ∈ targets, knobFormat t.relativePath = .numeric := by
  intro target hmem
  obtain ⟨horiginal, hplain⟩ := htargets target hmem
  cases hformat : knobFormat target.relativePath with
  | numeric => rfl
  | selector options =>
    rcases applyTargets_ok h target hmem with hsame | ⟨before, written, hwrite, hread⟩
    · have hlegal := prior.legal target.relativePath
      rw [hformat] at hlegal
      exact absurd (horiginal.symm.trans hsame) (readTrimmed_selector_ne hformat hlegal hplain)
    · obtain ⟨hmem, rfl⟩ := writeTrimmed_selector hformat hwrite
      refine absurd hread (readTrimmed_selector_ne hformat ?_ hplain)
      rw [Function.update_self]
      exact hmem

/-! ## Apply and rollback -/

/-- The apply is answered with a token, whose rollback gives the knobs of before. -/
def Undone (action : VmKnobAction) (policy : VmKnobPolicy) (access : Access) (knobs : Knobs) :
    Prop :=
  ∃ token after, applyWithPolicy action policy access knobs = (.ok token, after) ∧
    rollbackVmKnobRecords after token = (.ok (), knobs)

/-- No change names a selector. -/
def NumericOnly (action : VmKnobAction) : Prop :=
  ∀ change ∈ action.changes, ∀ knob, normalizeRelativeKnobPath change.1 = .ok knob →
    knobFormat knob = .numeric

theorem applyWithPolicy_of_collected (hpolicy : validateManualApplyPolicy policy = .ok ())
    (htargets : collectTargetFiles action policy access knobs = .ok targets) :
    applyWithPolicy action policy access knobs = applyTargets knobs [] targets := by
  rw [applyWithPolicy, hpolicy]
  dsimp only
  rw [htargets]

theorem NumericOnly.undone (hnumeric : NumericOnly action)
    (haccepted : Accepted action policy access prior.values) :
    Undone action policy access prior.values := by
  obtain ⟨hpolicy, targets, hcollect⟩ := haccepted
  have htargets : ∀ t ∈ targets, knobFormat t.relativePath = .numeric ∧
      trimmed t.requestedValue = t.requestedValue ∧
        t.originalValue = prior.values t.relativePath := by
    intro target hmem
    obtain ⟨change, hchange, hfile⟩ := (collectTargetFiles_ok hcollect).2 target hmem
    obtain ⟨hpath, horiginal, htrim, -⟩ := collectTargetFile_ok hfile
    have hformat := hnumeric change hchange _ hpath
    refine ⟨hformat, htrim, ?_⟩
    rw [horiginal, readTrimmed_numeric hformat, prior.trimmed_values hformat]
  obtain ⟨after, happly, hother⟩ := applyTargets_numeric prior.values []
    fun t ht => ⟨(htargets t ht).1, (htargets t ht).2.1⟩
  refine ⟨targets, after, (applyWithPolicy_of_collected hpolicy hcollect).trans happly, ?_⟩
  exact rollbackVmKnobRecords_numeric (fun t ht => ⟨(htargets t ht).1, (htargets t ht).2.2⟩) hother

theorem Undone.numericOnly (hundone : Undone action policy access prior.values)
    (haccepted : Accepted action policy access prior.values) : NumericOnly action := by
  obtain ⟨hpolicy, targets, hcollect⟩ := haccepted
  obtain ⟨token, after, happly, -⟩ := hundone
  rw [applyWithPolicy_of_collected hpolicy hcollect] at happly
  have hformats := applyTargets_numeric_of_ok happly fun target hmem => by
    obtain ⟨change, -, hfile⟩ := (collectTargetFiles_ok hcollect).2 target hmem
    obtain ⟨-, horiginal, -, hplain⟩ := collectTargetFile_ok hfile
    exact ⟨horiginal, hplain⟩
  intro change hchange knob hknob
  obtain ⟨target, hmem, hfile⟩ := (collectTargetFiles_ok hcollect).1 change hchange
  have hpath := (collectTargetFile_ok hfile).1
  rw [hknob] at hpath
  cases hpath
  exact hformats target hmem

/-- **Apply and rollback are inverse exactly where no change names a selector.** -/
theorem undone_iff (action : VmKnobAction) (policy : VmKnobPolicy) (access : Access)
    (prior : LegalKnobs) :
    (Accepted action policy access prior.values → Undone action policy access prior.values) ↔
      (Accepted action policy access prior.values → NumericOnly action) := by
  constructor
  · intro hundone haccepted
    exact (hundone haccepted).numericOnly haccepted
  · intro hnumeric haccepted
    exact (hnumeric haccepted).undone haccepted

/-- Transparent huge pages on request, and nothing else set. -/
def madviseKnobs : LegalKnobs where
  values knob := if knob = "sys/kernel/mm/transparent_hugepage/enabled" then "madvise" else
    if knob = "sys/kernel/mm/transparent_hugepage/defrag" then "madvise" else "0"
  legal knob := by
    by_cases henabled : knob = "sys/kernel/mm/transparent_hugepage/enabled"
    · subst henabled
      decide
    · rw [if_neg henabled]
      by_cases hdefrag : knob = "sys/kernel/mm/transparent_hugepage/defrag"
      · subst hdefrag
        decide
      · rw [if_neg hdefrag, knobFormat.eq_3 knob henabled hdefrag]
        decide

def neverAction : VmKnobAction :=
  ⟨"/", [("sys/kernel/mm/transparent_hugepage/enabled", "never")]⟩

def manualPolicy : VmKnobPolicy where
  allowVmKnobChanges := true
  mode := .manualApply
  allowedPaths := ["sys/kernel/mm/transparent_hugepage/enabled"]
  requireLatencyCliffEvidence := false
  latencyCliffEvidence := false

def writableFiles : Access := ⟨fun _ => true, fun _ => none⟩

/-- Turning huge pages off is accepted, and cannot be applied and undone. -/
theorem neverAction_not_undone :
    ¬ ∀ (action : VmKnobAction) (policy : VmKnobPolicy) (access : Access) (prior : LegalKnobs),
      Accepted action policy access prior.values → Undone action policy access prior.values := by
  intro h
  have haccepted : Accepted neverAction manualPolicy writableFiles madviseKnobs.values := by
    refine ⟨by decide, [⟨⟨"/sys/kernel/mm/transparent_hugepage/enabled", "never",
      "always [madvise] never"⟩,
      "sys/kernel/mm/transparent_hugepage/enabled"⟩], ?_⟩
    rfl
  have hnumeric :=
    (h neverAction manualPolicy writableFiles madviseKnobs haccepted).numericOnly haccepted
  have hformat :=
    hnumeric _ List.mem_cons_self "sys/kernel/mm/transparent_hugepage/enabled" (by decide)
  revert hformat
  decide

end Stutter.VmKnobs

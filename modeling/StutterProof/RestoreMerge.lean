import StutterProof.ProfileRestore

/-! # What the merged restore file keeps

A sequence of applies merges its records into one file.  For each task and attribute the file should
keep the value from before the first apply that changed it.  The merge takes a new record whose
applied value is the kept original for an earlier one: so an apply that sets the attribute back to
this original moves it. -/
namespace Stutter.ProfileRestore

/-- The records that one apply saves; the tasks of a snapshot are distinct. -/
structure ProfileApply where
  affinityRecords : List AffinityRecord
  niceRecords : List NiceRestoreRecordV2
  ioniceRecords : List IoPrioRestoreRecordV2
  forceOverwrite : Bool
  affinityDistinct : Distinct affinityRecords
  niceDistinct : Distinct niceRecords
  ioniceDistinct : Distinct ioniceRecords

def ProfileApply.save (path : String) (content : Option FileContent) (apply : ProfileApply) :
    Option FileContent :=
  (saveMergedRestoreState path .saved content apply.affinityRecords apply.niceRecords
    apply.ioniceRecords apply.forceOverwrite).2

/-- The file after the applies, where there was none. -/
def fileAfter (path : String) (applies : List ProfileApply) : Option FileContent :=
  applies.foldl (ProfileApply.save path) none

/-- One kind of the records, in an apply and in a file. -/
structure RecordKind (α : Type) [DecidableEq α] where
  ofApply : ProfileApply → List (RestoreRecord α)
  ofState : ProfileRestoreState → List (RestoreRecord α)
  distinct : ∀ apply, Distinct (ofApply apply)
  ofState_apply : ∀ version apply, ofState ⟨version, apply.affinityRecords, apply.niceRecords,
    apply.ioniceRecords⟩ = ofApply apply
  ofState_merge : ∀ version existing newState,
    ofState { mergeRestoreStates existing newState with version } =
      mergeRecords (ofState existing) (ofState newState)

def affinityKind : RecordKind ActiveConfig.CpuMask where
  ofApply := ProfileApply.affinityRecords
  ofState := ProfileRestoreState.affinityRecords
  distinct := ProfileApply.affinityDistinct
  ofState_apply _ _ := rfl
  ofState_merge _ _ _ := rfl

def niceKind : RecordKind Int where
  ofApply := ProfileApply.niceRecords
  ofState := ProfileRestoreState.niceRecords
  distinct := ProfileApply.niceDistinct
  ofState_apply _ _ := rfl
  ofState_merge _ _ _ := rfl

def ioniceKind : RecordKind Int where
  ofApply := ProfileApply.ioniceRecords
  ofState := ProfileRestoreState.ioniceRecords
  distinct := ProfileApply.ioniceDistinct
  ofState_apply _ _ := rfl
  ofState_merge _ _ _ := rfl

section Kind
variable {α : Type} [DecidableEq α] (kind : RecordKind α) (path : String)

/-- The records of the kind that the file holds. -/
def recordsAfter (applies : List ProfileApply) : List (RestoreRecord α) :=
  match fileAfter path applies with
  | some (.state state) => kind.ofState state
  | _ => []

/-- The value a task had before the first apply that changed it. -/
def firstOriginal (applies : List ProfileApply) (key : RestoreMergeKey) : Option α :=
  (applies.findSome? fun apply => recordOf (kind.ofApply apply) key).map (·.original)

/-- The file has the first value of each task. -/
def FirstKept (applies : List ProfileApply) : Prop :=
  ∀ key value, firstOriginal kind applies key = some value →
    ∃ record, recordOf (recordsAfter kind path applies) key = some record ∧ record.original = value

/-- The apply does not set a task back to its first value; a forced one names this value itself. -/
def LeavesFirst (before : List ProfileApply) (apply : ProfileApply) : Prop :=
  ∀ key value, firstOriginal kind before key = some value →
    if apply.forceOverwrite then
      ∃ record, recordOf (kind.ofApply apply) key = some record ∧ record.original = value
    else ∀ record, recordOf (kind.ofApply apply) key = some record → record.applied = value →
      record.original = value

variable (applies : List ProfileApply) (apply : ProfileApply)

theorem fileAfter_concat :
    fileAfter path (applies ++ [apply]) = apply.save path (fileAfter path applies) := by
  unfold fileAfter
  rw [List.foldl_append]
  rfl

/-- A file that was saved can be loaded again. -/
theorem fileAfter_state :
    fileAfter path applies = none ∨
      ∃ state, fileAfter path applies = some (.state state) ∧ state.version = schemaVersion := by
  induction applies using List.reverseRecOn with
  | nil => exact .inl rfl
  | append_singleton applies apply ih =>
    right
    rw [fileAfter_concat]
    unfold ProfileApply.save saveMergedRestoreState
    split
    · exact ⟨_, rfl, rfl⟩
    · rename_i hthere
      rcases ih with hnone | ⟨state, hstate, hversion⟩
      · rw [hnone] at hthere
        simp at hthere
      · rw [hstate]
        simp only [loadRestoreState, hversion, if_true]
        exact ⟨_, rfl, rfl⟩

/-- **One more apply**: a forced one replaces the records, another merges its own into them. -/
theorem recordsAfter_concat (hdistinct : Distinct (recordsAfter kind path applies)) :
    Distinct (recordsAfter kind path (applies ++ [apply])) ∧ ∀ key,
      recordOf (recordsAfter kind path (applies ++ [apply])) key =
        if apply.forceOverwrite then recordOf (kind.ofApply apply) key
        else mergedRecord (recordOf (recordsAfter kind path applies) key)
          (recordOf (kind.ofApply apply) key) := by
  have hnone : ∀ key, mergedRecord none (recordOf (kind.ofApply apply) key) =
      recordOf (kind.ofApply apply) key := fun _ => rfl
  unfold recordsAfter at hdistinct ⊢
  rw [fileAfter_concat]
  unfold ProfileApply.save saveMergedRestoreState
  cases hforce : apply.forceOverwrite with
  | true =>
    simp only [Bool.true_or, if_true, saveRestoreState, kind.ofState_apply]
    exact ⟨kind.distinct apply, fun key => trivial⟩
  | false =>
    rcases fileAfter_state path applies with hfile | ⟨state, hfile, hversion⟩
    · simp only [hfile, Option.isNone_none, Bool.or_true, if_true, saveRestoreState,
        kind.ofState_apply, Bool.false_eq_true, if_false, recordOf_nil, hnone]
      exact ⟨kind.distinct apply, fun key => trivial⟩
    · simp only [hfile] at hdistinct
      simp only [hfile, Option.isNone_some, Bool.or_self, Bool.false_eq_true, if_false,
        loadRestoreState, hversion, if_true, saveRestoreState, kind.ofState_merge,
        kind.ofState_apply]
      exact recordOf_mergeRecords hdistinct (kind.distinct apply)

theorem recordsAfter_distinct : Distinct (recordsAfter kind path applies) := by
  induction applies using List.reverseRecOn with
  | nil => exact List.nodup_nil
  | append_singleton applies apply ih => exact (recordsAfter_concat kind path applies apply ih).1

theorem recordOf_recordsAfter_concat (key : RestoreMergeKey) :
    recordOf (recordsAfter kind path (applies ++ [apply])) key =
      if apply.forceOverwrite then recordOf (kind.ofApply apply) key
      else mergedRecord (recordOf (recordsAfter kind path applies) key)
        (recordOf (kind.ofApply apply) key) :=
  (recordsAfter_concat kind path applies apply (recordsAfter_distinct kind path applies)).2 key

theorem firstOriginal_concat (key : RestoreMergeKey) :
    firstOriginal kind (applies ++ [apply]) key =
      (firstOriginal kind applies key).or
        ((recordOf (kind.ofApply apply) key).map (·.original)) := by
  unfold firstOriginal
  rw [List.findSome?_append]
  cases applies.findSome? fun apply => recordOf (kind.ofApply apply) key with
  | some record => rfl
  | none =>
    rw [Option.none_or, List.findSome?_singleton]
    rfl

/-- A task that no apply changed has no record. -/
theorem recordOf_of_firstOriginal_none {key : RestoreMergeKey}
    (h : firstOriginal kind applies key = none) :
    recordOf (recordsAfter kind path applies) key = none := by
  induction applies using List.reverseRecOn with
  | nil => rfl
  | append_singleton applies apply ih =>
    rw [firstOriginal_concat, Option.or_eq_none_iff, Option.map_eq_none_iff] at h
    rw [recordOf_recordsAfter_concat, ih h.1, h.2]
    split <;> rfl

/-- **One apply keeps the first values iff it leaves them.** -/
theorem firstKept_concat_iff {applies : List ProfileApply} (hkept : FirstKept kind path applies)
    (apply : ProfileApply) :
    FirstKept kind path (applies ++ [apply]) ↔ LeavesFirst kind applies apply := by
  constructor
  · intro h key value hfirst
    have hstill : firstOriginal kind (applies ++ [apply]) key = some value := by
      rw [firstOriginal_concat, hfirst]
      rfl
    obtain ⟨old, hold, hvalue⟩ := hkept key value hfirst
    obtain ⟨record, hrecord, horiginal⟩ := h key value hstill
    rw [recordOf_recordsAfter_concat, hold] at hrecord
    cases hforce : apply.forceOverwrite with
    | true =>
      rw [hforce] at hrecord
      exact ⟨record, hrecord, horiginal⟩
    | false =>
      intro found hfound happlied
      rw [hforce, hfound] at hrecord
      cases hrecord
      have hback : found.applied = old.original := happlied.trans hvalue.symm
      rw [RestoreRecord.absorb, if_pos hback] at horiginal
      exact horiginal
  · intro hleaves key value hfirst
    rw [firstOriginal_concat] at hfirst
    rw [recordOf_recordsAfter_concat]
    cases hbefore : firstOriginal kind applies key with
    | none =>
      -- the first record of this task
      rw [hbefore, Option.none_or] at hfirst
      obtain ⟨record, hrecord, rfl⟩ := Option.map_eq_some_iff.mp hfirst
      rw [recordOf_of_firstOriginal_none kind path applies hbefore, hrecord]
      refine ⟨record, ?_, rfl⟩
      split <;> rfl
    | some first =>
      rw [hbefore] at hfirst
      cases hfirst
      have hrule := hleaves key value hbefore
      obtain ⟨old, hold, hvalue⟩ := hkept key value hbefore
      cases hforce : apply.forceOverwrite with
      | true =>
        rw [hforce] at hrule
        exact hrule
      | false =>
        rw [hforce] at hrule
        rw [hold]
        cases hnew : recordOf (kind.ofApply apply) key with
        | none => exact ⟨old, rfl, hvalue⟩
        | some record =>
          refine ⟨old.absorb record, rfl, ?_⟩
          unfold RestoreRecord.absorb
          split
          · rename_i hback
            exact hrule record hnew (hback.trans hvalue)
          · exact hvalue

/-- **The first values are kept after each apply iff each apply leaves them.** -/
theorem firstKept_iff :
    (∀ before after, applies = before ++ after → FirstKept kind path before) ↔
      ∀ before apply after, applies = before ++ apply :: after → LeavesFirst kind before apply := by
  constructor
  · rintro h before apply after rfl
    have hkept := h before (apply :: after) rfl
    have hnext := h (before ++ [apply]) after (by simp)
    exact (firstKept_concat_iff kind path hkept apply).mp hnext
  · intro h before
    induction before using List.reverseRecOn with
    | nil =>
      intro after _ key value hfirst
      cases hfirst
    | append_singleton before apply ih =>
      rintro after rfl
      have hkept := ih (apply :: after) (by simp)
      exact (firstKept_concat_iff kind path hkept apply).mpr (h before apply after (by simp))

end Kind

/-- **The restore file keeps the first values** of affinity, nice and I/O priority, each after every
apply of the sequence, exactly when no apply sets a task back to its first value. -/
theorem merged_restore_state_keeps_first_iff (path : String) (applies : List ProfileApply) :
    ((∀ before after, applies = before ++ after → FirstKept affinityKind path before) ↔
      ∀ before apply after, applies = before ++ apply :: after →
        LeavesFirst affinityKind before apply) ∧
    ((∀ before after, applies = before ++ after → FirstKept niceKind path before) ↔
      ∀ before apply after, applies = before ++ apply :: after →
        LeavesFirst niceKind before apply) ∧
    ((∀ before after, applies = before ++ after → FirstKept ioniceKind path before) ↔
      ∀ before apply after, applies = before ++ apply :: after →
        LeavesFirst ioniceKind before apply) :=
  ⟨firstKept_iff affinityKind path applies, firstKept_iff niceKind path applies,
    firstKept_iff ioniceKind path applies⟩

/-! A task goes from nice 0 to 5, back to 0, and on to 10. -/

def niceApply (original applied : Int) : ProfileApply where
  affinityRecords := []
  niceRecords := [⟨7, some 7, some 70, some 70, some "hog", original, applied⟩]
  ioniceRecords := []
  forceOverwrite := false
  affinityDistinct := List.nodup_nil
  niceDistinct := List.nodup_singleton _
  ioniceDistinct := List.nodup_nil

def hogKey : RestoreMergeKey := ⟨7, some 7, some 70, some 70⟩

/-- The file then names 5 as the value to restore. -/
theorem set_back_moves_original :
    firstOriginal niceKind [niceApply 0 5, niceApply 5 0, niceApply 0 10] hogKey = some 0 ∧
    (recordOf (recordsAfter niceKind "restore.json"
      [niceApply 0 5, niceApply 5 0, niceApply 0 10]) hogKey).map (·.original) = some 5 ∧
    ¬ FirstKept niceKind "restore.json" [niceApply 0 5, niceApply 5 0, niceApply 0 10] := by
  have hfirst : firstOriginal niceKind [niceApply 0 5, niceApply 5 0, niceApply 0 10] hogKey =
      some 0 := by decide
  have hfile : (recordOf (recordsAfter niceKind "restore.json"
      ([] ++ [niceApply 0 5] ++ [niceApply 5 0] ++ [niceApply 0 10])) hogKey).map (·.original) =
      some 5 := by
    rw [recordOf_recordsAfter_concat, recordOf_recordsAfter_concat, recordOf_recordsAfter_concat]
    decide
  refine ⟨hfirst, hfile, fun h => ?_⟩
  obtain ⟨record, hrecord, horiginal⟩ := h hogKey 0 hfirst
  have hother := congrArg (Option.map (·.original)) hrecord
  rw [show (recordOf (recordsAfter niceKind "restore.json"
    [niceApply 0 5, niceApply 5 0, niceApply 0 10]) hogKey).map (·.original) = some 5 from hfile]
    at hother
  rw [Option.map_some, horiginal] at hother
  cases hother

end Stutter.ProfileRestore

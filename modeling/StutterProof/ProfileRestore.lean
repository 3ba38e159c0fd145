import Mathlib.Data.List.Sort
import StutterProof.KeyedTable
import StutterProof.ProfilePending

/-! # The restore file of profiles

Before a profile changes tasks, the value each attribute has and the one it gets are saved.  A later
apply merges its records into the file, and a restore writes the original values back.

The three kinds of records differ in the type of their values only; an affinity record has no
`comm`.  A file is what the path holds, and writing it is one step that may fail before or after the
rename. -/
namespace Stutter.ProfileRestore

open ActiveConfig (CpuMask)

/-! ## Records -/

/-- The task a record is about. -/
structure RestoreMergeKey where
  tid : Nat
  processPid : Option Nat
  processStarttimeTicks : Option Nat
  taskStarttimeTicks : Option Nat
  deriving DecidableEq, Ord

/-- A value to restore. -/
structure RestoreRecord (α : Type) where
  tid : Nat
  processPid : Option Nat
  processStarttimeTicks : Option Nat
  taskStarttimeTicks : Option Nat
  comm : Option String := none
  original : α
  applied : α

abbrev AffinityRecord := RestoreRecord CpuMask
abbrev NiceRestoreRecordV2 := RestoreRecord Int
abbrev IoPrioRestoreRecordV2 := RestoreRecord Int

/-- `profile_restore::PROFILE_RESTORE_SCHEMA_VERSION`. -/
def schemaVersion : Nat := 1

/-- The restore file. -/
structure ProfileRestoreState where
  version : Nat
  affinityRecords : List AffinityRecord
  niceRecords : List NiceRestoreRecordV2
  ioniceRecords : List IoPrioRestoreRecordV2

/-! ## Merging -/

open Table

section Merge
variable {α : Type}

/-- `affinity_key`, `nice_key` and `ionice_key`. -/
def RestoreRecord.key (record : RestoreRecord α) : RestoreMergeKey :=
  ⟨record.tid, record.processPid, record.processStarttimeTicks, record.taskStarttimeTicks⟩

variable [DecidableEq α]

/-- A new record on the one that is there: it ends where the old one starts, or it goes on. -/
def RestoreRecord.absorb (existing record : RestoreRecord α) : RestoreRecord α :=
  if record.applied = existing.original then { existing with original := record.original }
  else { existing with applied := record.applied }

def mergeRecord (merged : Table RestoreMergeKey (RestoreRecord α)) (record : RestoreRecord α) :
    Table RestoreMergeKey (RestoreRecord α) :=
  match merged.get record.key with
  | some existing => merged.insert record.key (existing.absorb record)
  | none => merged.insert record.key record

/-- `into_values`: in the order of the keys. -/
def intoValues (merged : Table RestoreMergeKey (RestoreRecord α)) : List (RestoreRecord α) :=
  (merged.entries.mergeSort fun a b => (compare a.1 b.1).isLE).map (·.2)

/-- `merge_affinity_records`, `merge_nice_records` and `merge_ionice_records`. -/
def mergeRecords (existing newRecords : List (RestoreRecord α)) : List (RestoreRecord α) :=
  let merged := existing.foldl (fun merged record => merged.insert record.key record) empty
  intoValues (newRecords.foldl mergeRecord merged)

end Merge

/-- `merge_restore_states`. -/
def mergeRestoreStates (existing newState : ProfileRestoreState) : ProfileRestoreState where
  version := schemaVersion
  affinityRecords := mergeRecords existing.affinityRecords newState.affinityRecords
  niceRecords := mergeRecords existing.niceRecords newState.niceRecords
  ioniceRecords := mergeRecords existing.ioniceRecords newState.ioniceRecords

/-! ## The file -/

/-- What a path holds. -/
inductive FileContent where
  | unreadable (error : String)
  | malformed (error : String)
  /-- The format of `affinity`, which has `records`. -/
  | affinityFormat
  | mistyped (error : String)
  | state (state : ProfileRestoreState)

/-- `load_restore_state`, of a path that holds `content` or nothing. -/
def loadRestoreState (path : String) (content : Option FileContent) :
    Except AnyError ProfileRestoreState :=
  match content with
  | none => .error ((AnyError.message "No such file or directory (os error 2)").context
      s!"failed to read profile restore file {path}")
  | some (.unreadable error) => .error ((AnyError.message error).context
      s!"failed to read profile restore file {path}")
  | some (.malformed error) => .error ((AnyError.message error).context
      s!"failed to parse profile restore file {path}")
  | some .affinityFormat =>
    .error (.message "affinity restore format is not a profile restore file")
  | some (.mistyped error) => .error (.message error)
  | some (.state state) =>
    if state.version = schemaVersion then .ok state
    else .error (.message s!"unsupported profile restore schema {state.version}")

/-- How the write of a file ends: an error can come after the rename. -/
inductive SaveAnswer where
  | saved
  | failed (error : AnyError) (renamed : Bool)

/-- `save_restore_state`. -/
def saveRestoreState (answer : SaveAnswer) (content : Option FileContent)
    (state : ProfileRestoreState) :
    Except AnyError Unit × Option FileContent :=
  let written := some (FileContent.state { state with version := schemaVersion })
  match answer with
  | .saved => (.ok (), written)
  | .failed error renamed => (.error error, if renamed then written else content)

/-- `save_merged_restore_state`. -/
def saveMergedRestoreState (path : String) (answer : SaveAnswer) (content : Option FileContent)
    (affinityRecords : List AffinityRecord) (niceRecords : List NiceRestoreRecordV2)
    (ioniceRecords : List IoPrioRestoreRecordV2) (forceOverwrite : Bool) :
    Except AnyError Unit × Option FileContent :=
  let newState : ProfileRestoreState :=
    { version := schemaVersion, affinityRecords, niceRecords, ioniceRecords }
  if forceOverwrite || content.isNone then saveRestoreState answer content newState
  else
    match loadRestoreState path content with
    | .error error => (.error error, content)
    | .ok existing => saveRestoreState answer content (mergeRestoreStates existing newState)

/-! ## What a list of records holds of a key -/

section Lookup
variable {α : Type}

def recordOf (records : List (RestoreRecord α)) (key : RestoreMergeKey) :
    Option (RestoreRecord α) :=
  records.find? (·.key = key)

/-- No two records have one key. -/
def Distinct (records : List (RestoreRecord α)) : Prop := (records.map (·.key)).Nodup

@[simp] theorem recordOf_nil (key : RestoreMergeKey) :
    recordOf ([] : List (RestoreRecord α)) key = none :=
  rfl

theorem recordOf_cons (record : RestoreRecord α) (rest : List (RestoreRecord α))
    (key : RestoreMergeKey) :
    recordOf (record :: rest) key = if record.key = key then some record
    else recordOf rest key := by
  unfold recordOf
  by_cases h : record.key = key
  · rw [List.find?_cons_of_pos (by simpa using h), if_pos h]
  · rw [List.find?_cons_of_neg (by simpa using h), if_neg h]

variable {records : List (RestoreRecord α)} {key : RestoreMergeKey} {record : RestoreRecord α}

theorem recordOf_eq_some (hdistinct : Distinct records) :
    recordOf records key = some record ↔ record ∈ records ∧ record.key = key := by
  induction records with
  | nil => simp
  | cons first rest ih =>
    obtain ⟨hfresh, hrest⟩ := List.nodup_cons.mp hdistinct
    rw [recordOf_cons]
    by_cases h : first.key = key
    · rw [if_pos h]
      constructor
      · rintro ⟨⟩
        exact ⟨List.mem_cons_self, h⟩
      · rintro ⟨hmem, hkey⟩
        rcases List.mem_cons.mp hmem with rfl | hmem
        · rfl
        · exact absurd (List.mem_map.mpr ⟨record, hmem, hkey.trans h.symm⟩) hfresh
    · rw [if_neg h, ih hrest]
      constructor
      · rintro ⟨hmem, hkey⟩
        exact ⟨List.mem_cons_of_mem _ hmem, hkey⟩
      · rintro ⟨hmem, hkey⟩
        rcases List.mem_cons.mp hmem with rfl | hmem
        · exact absurd hkey h
        · exact ⟨hmem, hkey⟩

theorem recordOf_eq_none : recordOf records key = none ↔ key ∉ records.map (·.key) := by
  unfold recordOf
  rw [List.find?_eq_none, List.mem_map]
  constructor
  · rintro h ⟨record, hmem, hkey⟩
    exact h record hmem (by simpa using hkey)
  · intro h record hmem hkey
    exact h ⟨record, hmem, by simpa using hkey⟩

/-- Each value of the table is under its own key. -/
def Keyed (table : Table RestoreMergeKey (RestoreRecord α)) : Prop :=
  ∀ key record, table.get key = some record → record.key = key

variable {table : Table RestoreMergeKey (RestoreRecord α)}

theorem Keyed.insert (h : Keyed table) (hkey : record.key = key) :
    Keyed (table.insert key record) := by
  intro other found hfound
  rw [get_insert] at hfound
  by_cases hsame : other = key
  · rw [if_pos hsame] at hfound
    cases hfound
    exact hkey.trans hsame.symm
  · rw [if_neg hsame] at hfound
    exact h other found hfound

variable [DecidableEq α]

@[simp] theorem RestoreRecord.key_absorb (existing record : RestoreRecord α) :
    (existing.absorb record).key = existing.key := by
  unfold RestoreRecord.absorb
  split <;> rfl

omit [DecidableEq α] in
/-- The table of the records that are there. -/
theorem get_foldl_insert (hdistinct : Distinct records) (hkeyed : Keyed table)
    (hfresh : ∀ record ∈ records, table.get record.key = none) :
    Keyed (records.foldl (fun merged record => merged.insert record.key record) table) ∧
      ∀ key, (records.foldl (fun merged record => merged.insert record.key record) table).get key =
        (recordOf records key).or (table.get key) := by
  induction records generalizing table with
  | nil => exact ⟨hkeyed, fun key => rfl⟩
  | cons record rest ih =>
    obtain ⟨hnew, hrest⟩ := List.nodup_cons.mp hdistinct
    have hfresh' : ∀ other ∈ rest, (table.insert record.key record).get other.key = none := by
      intro other hother
      have hne : other.key ≠ record.key := fun heq => hnew (List.mem_map.mpr ⟨other, hother, heq⟩)
      rw [get_insert, if_neg hne]
      exact hfresh other (List.mem_cons_of_mem _ hother)
    obtain ⟨ihkeyed, ihget⟩ := ih hrest (hkeyed.insert rfl) hfresh'
    refine ⟨ihkeyed, fun key => ?_⟩
    rw [List.foldl_cons, ihget key, recordOf_cons, get_insert]
    by_cases h : record.key = key
    · subst h
      rw [if_pos rfl, if_pos rfl, recordOf_eq_none.mpr hnew]
      rfl
    · rw [if_neg h, if_neg (Ne.symm h)]

/-- The old record and the new one of a key, merged. -/
def mergedRecord (existing newRecord : Option (RestoreRecord α)) : Option (RestoreRecord α) :=
  match existing, newRecord with
  | none, record => record
  | some existing, none => some existing
  | some existing, some record => some (existing.absorb record)

theorem mergeRecord_keyed (h : Keyed table)
    (record : RestoreRecord α) : Keyed (mergeRecord table record) := by
  unfold mergeRecord
  cases hget : table.get record.key with
  | none => exact h.insert rfl
  | some existing => exact h.insert ((RestoreRecord.key_absorb _ _).trans (h _ _ hget))

theorem get_mergeRecord (table : Table RestoreMergeKey (RestoreRecord α)) (record : RestoreRecord α)
    (key : RestoreMergeKey) :
    (mergeRecord table record).get key =
      if key = record.key then mergedRecord (table.get key) (some record) else table.get key := by
  unfold mergeRecord
  by_cases h : key = record.key
  · subst h
    cases hget : table.get record.key <;> simp [mergedRecord]
  · cases hget : table.get record.key <;> simp [h]

/-- The table with the new records merged in. -/
theorem get_foldl_mergeRecord (hdistinct : Distinct records) (hkeyed : Keyed table) :
    Keyed (records.foldl mergeRecord table) ∧ ∀ key, (records.foldl mergeRecord table).get key =
      mergedRecord (table.get key) (recordOf records key) := by
  induction records generalizing table with
  | nil =>
    refine ⟨hkeyed, fun key => ?_⟩
    show table.get key = mergedRecord (table.get key) none
    cases table.get key <;> rfl
  | cons record rest ih =>
    obtain ⟨hnew, hrest⟩ := List.nodup_cons.mp hdistinct
    obtain ⟨ihkeyed, ihget⟩ := ih hrest (mergeRecord_keyed hkeyed record)
    refine ⟨ihkeyed, fun key => ?_⟩
    rw [List.foldl_cons, ihget key, recordOf_cons, get_mergeRecord]
    by_cases h : record.key = key
    · subst h
      -- no later record has this key
      rw [if_pos rfl, if_pos rfl, recordOf_eq_none.mpr hnew]
      cases table.get record.key <;> rfl
    · rw [if_neg h, if_neg (Ne.symm h)]

omit [DecidableEq α] in
theorem mem_intoValues (hkeyed : Keyed table) (record : RestoreRecord α) :
    record ∈ intoValues table ↔ table.get record.key = some record := by
  unfold intoValues
  rw [List.mem_map, ← mem_entries]
  constructor
  · rintro ⟨⟨key, found⟩, hmem, rfl⟩
    have hentry := List.mem_mergeSort.mp hmem
    rwa [← hkeyed key found ((mem_entries table).mp hentry)] at hentry
  · intro hmem
    exact ⟨(record.key, record), List.mem_mergeSort.mpr hmem, rfl⟩

omit [DecidableEq α] in
theorem intoValues_distinct (hkeyed : Keyed table) : Distinct (intoValues table) := by
  have hperm := List.mergeSort_perm table.entries fun a b => (compare a.1 b.1).isLE
  have hkeys : (intoValues table).map (·.key) =
      (table.entries.mergeSort fun a b => (compare a.1 b.1).isLE).map Prod.fst := by
    unfold intoValues
    rw [List.map_map]
    refine List.map_congr_left fun entry hentry => ?_
    exact hkeyed entry.1 entry.2 ((mem_entries table).mp (hperm.mem_iff.mp hentry))
  unfold Distinct
  rw [hkeys]
  exact (hperm.map Prod.fst).nodup_iff.mpr table.nodup

/-- **What a merge holds of a key**: the old record and the new one, merged. -/
theorem recordOf_mergeRecords {existing newRecords : List (RestoreRecord α)}
    (hexisting : Distinct existing) (hnew : Distinct newRecords) :
    Distinct (mergeRecords existing newRecords) ∧ ∀ key,
      recordOf (mergeRecords existing newRecords) key =
        mergedRecord (recordOf existing key) (recordOf newRecords key) := by
  have hempty : Keyed (empty : Table RestoreMergeKey (RestoreRecord α)) := by
    intro key record h
    cases h
  obtain ⟨hkeyed, hget⟩ := get_foldl_insert hexisting hempty fun _ _ => rfl
  obtain ⟨hmerged, hall⟩ := get_foldl_mergeRecord hnew hkeyed
  have hdistinct := intoValues_distinct hmerged
  refine ⟨hdistinct, fun key => ?_⟩
  apply Option.ext
  intro record
  unfold mergeRecords
  rw [recordOf_eq_some hdistinct, mem_intoValues hmerged]
  have hold : (existing.foldl (fun merged record => merged.insert record.key record)
      empty).get key = recordOf existing key := by
    rw [hget key, get_empty, Option.or_none]
  rw [← hold, ← hall key]
  constructor
  · rintro ⟨hfound, rfl⟩
    exact hfound
  · intro hfound
    have hkey := hmerged key record hfound
    rw [hkey]
    exact ⟨hfound, rfl⟩

/-! ### Every new record has a place in the merge -/

omit [DecidableEq α] in
theorem keyed_foldl {step : Table RestoreMergeKey (RestoreRecord α) → RestoreRecord α →
      Table RestoreMergeKey (RestoreRecord α)}
    (hstep : ∀ table record, Keyed table → Keyed (step table record))
      (records : List (RestoreRecord α)) (h : Keyed table) :
    Keyed (records.foldl step table) := by
  induction records generalizing table with
  | nil => exact h
  | cons record rest ih => exact ih (hstep table record h)

theorem isSome_get_mergeRecord (h : (table.get key).isSome ∨ record.key = key) :
    ((mergeRecord table record).get key).isSome := by
  rw [get_mergeRecord]
  by_cases hkey : key = record.key
  · rw [if_pos hkey]
    cases table.get key <;> rfl
  · rw [if_neg hkey]
    exact h.resolve_right (Ne.symm hkey)

theorem isSome_get_foldl_mergeRecord (records : List (RestoreRecord α))
    (h : (table.get key).isSome ∨ ∃ record ∈ records, record.key = key) :
    ((records.foldl mergeRecord table).get key).isSome := by
  induction records generalizing table with
  | nil => exact h.resolve_right (by simp)
  | cons record rest ih =>
    rw [List.foldl_cons]
    rcases h with h | ⟨found, hfound, hkey⟩
    · exact ih (.inl (isSome_get_mergeRecord (.inl h)))
    · rcases List.mem_cons.mp hfound with rfl | hlater
      · exact ih (.inl (isSome_get_mergeRecord (.inr hkey)))
      · exact ih (.inr ⟨found, hlater, hkey⟩)

/-- **No new record is lost**: the merge holds one of its key. -/
theorem exists_mem_mergeRecords (existing : List (RestoreRecord α))
    {newRecords : List (RestoreRecord α)} (h : record ∈ newRecords) :
    ∃ saved ∈ mergeRecords existing newRecords, saved.key = record.key := by
  have hempty : Keyed (empty : Table RestoreMergeKey (RestoreRecord α)) := by
    intro key record h
    cases h
  have hold : Keyed (existing.foldl (fun merged record => merged.insert record.key record)
      empty) := keyed_foldl (fun _ record hkeyed => Keyed.insert hkeyed rfl) existing hempty
  have hkeyed :=
    keyed_foldl (fun _ record hkeyed => mergeRecord_keyed hkeyed record) newRecords hold
  obtain ⟨saved, hsaved⟩ := Option.isSome_iff_exists.mp
    (isSome_get_foldl_mergeRecord newRecords (.inr ⟨record, h, rfl⟩))
  have hkey := hkeyed _ _ hsaved
  exact ⟨saved, (mem_intoValues hkeyed saved).mpr (hkey ▸ hsaved), hkey⟩

end Lookup

end Stutter.ProfileRestore

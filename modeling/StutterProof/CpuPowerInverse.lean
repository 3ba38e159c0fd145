import StutterProof.Tally
import StutterProof.TextLaws
import StutterProof.CpuPowerPrepared

/-! # CPU power: the rollback of a prepared apply

The commit changes controlled attributes only, so a record's resource is found again; whether the
record is written back is then up to its original value. -/
namespace Stutter.CpuPower

open ActiveConfig (trimmed)
open RestorePaths (joinPath)
open Sysfs (CpuPowerAction sortedUniqueCpus)

variable {host : Host} {action : CpuPowerAction} {policy : CpuPowerPolicy}
    {files before after : Files}
variable {dir name : String}

/-! ## Paths -/

theorem parentAndName_append (hname : '/' ∉ name.toList) :
    parentAndName (dir ++ "/" ++ name) = some (dir, name) := by
  have hreverse : (dir ++ "/" ++ name).toList.reverse =
      name.toList.reverse ++ '/' :: dir.toList.reverse := by
    simp [String.toList_append]
  have hkeep : ∀ c ∈ name.toList.reverse, decide (c ≠ '/') = true := by
    intro c hc
    refine decide_eq_true fun heq => hname ?_
    rw [← heq]
    exact List.mem_reverse.mp hc
  rw [parentAndName, hreverse, List.span_eq_takeWhile_dropWhile, List.takeWhile_append_of_pos hkeep,
    List.dropWhile_append_of_pos hkeep, List.takeWhile_cons_of_neg (by decide),
    List.dropWhile_cons_of_neg (by decide)]
  simp

theorem parentAndName_joinPath (dir : String) {name : String} (hname : '/' ∉ name.toList) :
    ∃ parent, parentAndName (joinPath dir name) = some (parent, name) := by
  rw [joinPath]
  split
  · rename_i hlast
    obtain ⟨front, hfront⟩ := List.getLast?_eq_some_iff.mp hlast
    have hdir : dir = String.ofList front ++ "/" := by
      rw [← String.toList_inj, hfront, String.toList_append, String.toList_ofList]
      rfl
    exact ⟨String.ofList front, by rw [hdir, parentAndName_append hname]⟩
  · exact ⟨dir, parentAndName_append hname⟩

variable {cell : String × String}

theorem cell_joinPath (hname : '/' ∉ name.toList) (h : host.cell (joinPath dir name) = some cell) :
    cell.2 = name := by
  obtain ⟨parent, hparent⟩ := parentAndName_joinPath dir hname
  rw [Host.cell, hparent, Option.bind_some] at h
  obtain ⟨real, -, rfl⟩ := Option.map_eq_some_iff.mp h
  rfl

/-! ## The settings of a resource -/

/-- The files agree but for controlled attributes, which are there in both. -/
structure SameSettings (before after : Files) : Prop where
  settings : ∀ cell, availableFile cell.2 = none → after cell = before cell
  present : ∀ cell, (after cell).isSome = (before cell).isSome

theorem SameSettings.refl (files : Files) :
    SameSettings files files :=
  ⟨fun _ _ => rfl, fun _ => rfl⟩

theorem SameSettings.update {text : String} (h : SameSettings before after)
    (hcontrolled : availableFile cell.2 ≠ none) (hpresent : (after cell).isSome = true) :
    SameSettings before (Function.update after cell (some text)) := by
  constructor
  · intro other hother
    have hne : other ≠ cell := by
      rintro rfl
      exact hcontrolled hother
    rw [Function.update_of_ne hne, h.settings other hother]
  · intro other
    by_cases hother : other = cell
    · rw [hother, Function.update_self, ← h.present cell, hpresent]
      rfl
    · rw [Function.update_of_ne hother, h.present other]

theorem readOptional_eq (h : SameSettings before after) (hname : '/' ∉ name.toList)
    (hsetting : availableFile name = none) :
    readOptional host after (joinPath dir name) = readOptional host before (joinPath dir name) := by
  have hread : (host.cell (joinPath dir name)).bind after =
      (host.cell (joinPath dir name)).bind before := by
    cases hcell : host.cell (joinPath dir name) with
    | none => rfl
    | some cell =>
      refine h.settings cell ?_
      rw [cell_joinPath hname hcell]
      exact hsetting
  rw [readOptional, readOptional, readTrimmed, readTrimmed, hread]

theorem availableFile_cases {name available : String} (h : availableFile name = some available) :
    available = "energy_performance_available_preferences" ∨
      available = "scaling_available_governors" := by
  unfold availableFile at h
  split at h
  · exact .inl (Option.some.inj h).symm
  · exact .inr (Option.some.inj h).symm
  · exact absurd h (by simp)

theorem availableFile_setting {name available : String} (h : availableFile name = some available) :
    '/' ∉ available.toList ∧ availableFile available = none := by
  rcases availableFile_cases h with rfl | rfl
  · decide
  · decide

/-- The identity of a resource does not depend on its controlled attributes. -/
theorem resourceIdentity_eq (h : SameSettings before after) (cpu : Nat) (path : String) :
    resourceIdentity host after cpu path = resourceIdentity host before cpu path := by
  simp only [resourceIdentity, Option.bind_eq_bind]
  cases parentAndName path with
  | none => simp only [Option.bind_none]
  | some names =>
    simp only [Option.bind_some]
    cases havailable : availableFile names.2 with
    | none => simp only [Option.bind_none]
    | some available =>
      obtain ⟨hslash, hsetting⟩ := availableFile_setting havailable
      simp only [Option.bind_some]
      rw [readOptional_eq h (by decide) (by decide), readOptional_eq h (by decide) (by decide),
        readOptional_eq h hslash hsetting]

/-! ## The plan -/

def attributePath (action : CpuPowerAction) (cpu : Nat) (name : String) : String :=
  joinPath (cpuCpufreqDir action cpu) name

variable {cpu : Nat}

theorem mem_sortedUniqueCpus {cpus : List Nat} : cpu ∈ sortedUniqueCpus cpus ↔ cpu ∈ cpus := by
  rw [sortedUniqueCpus, List.mem_dedup, List.mem_insertionSort]

variable {request : String × String}

theorem mem_requestedValues (h : request ∈ requestedValues action) :
    (availableFile request.1).isSome = true ∧ '/' ∉ request.1.toList := by
  rw [requestedValues] at h
  rcases List.mem_append.mp h with h | h
  · obtain ⟨governor, -, rfl⟩ := Option.map_eq_some_iff.mp (Option.mem_toList.mp h)
    dsimp only
    decide
  · obtain ⟨epp, -, rfl⟩ := Option.map_eq_some_iff.mp (Option.mem_toList.mp h)
    dsimp only
    decide

/-- The path of an attribute is its directory and its name. -/
theorem parentAndName_attributePath {name : String} (hname : '/' ∉ name.toList) :
    parentAndName (attributePath action cpu name) = some (cpuCpufreqDir action cpu, name) := by
  have hlast : (cpuCpufreqDir action cpu).toList.getLast? ≠ some '/' := by
    rw [cpuCpufreqDir]
    generalize joinPath (joinPath action.sysfsRoot "devices/system/cpu") s!"cpu{cpu}" = dir
    have hend : ∀ front : String, (front ++ "cpufreq").toList.getLast? ≠ some '/' := by
      intro front
      rw [String.toList_append, List.getLast?_append_of_ne_nil _ (by decide)]
      decide
    rw [joinPath]
    split
    · exact hend dir
    · exact hend (dir ++ "/")
  rw [attributePath, joinPath, if_neg hlast]
  exact parentAndName_append hname

theorem validatePolicyAndRequest_ok (h : validatePolicyAndRequest host action policy = .ok ()) :
    ∀ request ∈ requestedValues action, trimmed request.2 = request.2 := by
  rw [validatePolicyAndRequest] at h
  iterate 6
    split at h
    · cases h
  obtain ⟨_, hvalues, -⟩ := Tally.ok_of_bind h
  intro request hrequest
  obtain ⟨_, -, hvalue⟩ := (Tally.mapM_ok hvalues).1 request hrequest
  exact (SysfsRestore.validateText_ok hvalue).1

theorem readTargetFile_ok {path value : String} {target : CpuPowerTargetFile}
    (h : readTargetFile host files cpu path value = .ok target) :
    target.path = path ∧ target.requestedValue = value ∧ target.cpu = cpu ∧
      readTrimmed host files path = .ok target.originalValue := by
  obtain ⟨_, -, h⟩ := Tally.ok_of_bind h
  obtain ⟨originalValue, hread, h⟩ := Tally.ok_of_bind h
  cases h
  exact ⟨rfl, rfl, rfl, hread⟩

/-- What a target is read from. -/
def TargetOf (host : Host) (files : Files) (action : CpuPowerAction) (cpu : Nat)
    (request : String × String) (target : CpuPowerTargetFile) : Prop :=
  target.path = attributePath action cpu request.1 ∧ target.requestedValue = request.2 ∧
    target.cpu = cpu ∧
    readTrimmed host files (attributePath action cpu request.1) = .ok target.originalValue

variable {targets : List CpuPowerTargetFile}

theorem collectCpu_ok (h : collectCpu host files action policy cpu = .ok targets) :
    (∀ request ∈ requestedValues action, ∃ t ∈ targets, TargetOf host files action cpu request t) ∧
      ∀ t ∈ targets, ∃ request ∈ requestedValues action,
        TargetOf host files action cpu request t := by
  rw [collectCpu] at h
  dsimp only at h
  split at h
  · cases h
  · split at h
    · cases h
    · obtain ⟨hrequests, htargets⟩ := Tally.mapM_ok h
      constructor
      · intro request hrequest
        obtain ⟨target, hmem, hread⟩ := hrequests request hrequest
        exact ⟨target, hmem, readTargetFile_ok hread⟩
      · intro target hmem
        obtain ⟨request, hrequest, hread⟩ := htargets target hmem
        exact ⟨request, hrequest, readTargetFile_ok hread⟩

theorem collectTargetFiles_ok (h : collectTargetFiles host files action policy = .ok targets) :
    (∀ cpu ∈ action.cpus, ∀ request ∈ requestedValues action,
      ∃ t ∈ targets, TargetOf host files action cpu request t) ∧
    ∀ t ∈ targets, ∃ cpu ∈ action.cpus, ∃ request ∈ requestedValues action,
      TargetOf host files action cpu request t ∧ trimmed request.2 = request.2 := by
  obtain ⟨_, hvalid, h⟩ := Tally.ok_of_bind h
  obtain ⟨found, hfound, h⟩ := Tally.ok_of_bind h
  cases h
  obtain ⟨hcpus, hlists⟩ := Tally.mapM_ok hfound
  constructor
  · intro cpu hcpu request hrequest
    obtain ⟨list, hlist, hcollect⟩ := hcpus cpu (mem_sortedUniqueCpus.mpr hcpu)
    obtain ⟨target, hmem, htarget⟩ := (collectCpu_ok hcollect).1 request hrequest
    exact ⟨target, List.mem_flatten.mpr ⟨list, hlist, hmem⟩, htarget⟩
  · intro target hmem
    obtain ⟨list, hlist, hmem⟩ := List.mem_flatten.mp hmem
    obtain ⟨cpu, hcpu, hcollect⟩ := hlists list hlist
    obtain ⟨request, hrequest, htarget⟩ := (collectCpu_ok hcollect).2 target hmem
    exact ⟨cpu, mem_sortedUniqueCpus.mp hcpu, request, hrequest, htarget,
      validatePolicyAndRequest_ok hvalid request hrequest⟩

/-! ## Legal files -/

/-- Files in which each controlled attribute shows a value that the kernel takes. -/
structure LegalFiles (host : Host) where
  texts : Files
  legal : ∀ cell text, (availableFile cell.2).isSome = true → texts cell = some text →
    ∃ value, text = value ++ "\n" ∧ trimmed value = value ∧ host.accepts cell value = true

variable {prior : LegalFiles host}

theorem trimmed_line (value : String) : trimmed (value ++ "\n") = trimmed value := by
  rw [trimmed, String.toList_append]
  exact congrArg String.ofList (TextLaws.trim_append_blank (by decide) _)

theorem readTrimmed_ok {path value : String} (h : readTrimmed host files path = .ok value) :
    ∃ cell text, host.cell path = some cell ∧ files cell = some text ∧ value = trimmed text := by
  rw [readTrimmed] at h
  split at h
  · rename_i text htext
    obtain ⟨cell, hcell, hfile⟩ := Option.bind_eq_some_iff.mp htext
    cases h
    exact ⟨cell, text, hcell, hfile, rfl⟩
  · cases h

/-- The file of a record shows the record's value, which the kernel takes. -/
structure RecordOf (prior : LegalFiles host) (record : CpuPowerRestoreRecord)
    (cell : String × String) : Prop where
  cell_eq : host.cell record.path = some cell
  controlled : (availableFile cell.2).isSome = true
  shown : prior.texts cell = some (record.originalValue ++ "\n")
  trimmed_eq : trimmed record.originalValue = record.originalValue
  accepted : host.accepts cell record.originalValue = true

theorem writeTrimmed_eq (value : String) {path : String} (hcell : host.cell path = some cell)
    (hpresent : (files cell).isSome = true) :
    writeTrimmed host files path value =
      (.ok (), Function.update files cell (some (trimmed value ++ "\n"))) ∨
      ∃ error, writeTrimmed host files path value = (.error error, files) ∧
        host.accepts cell (trimmed value) = false := by
  rw [writeTrimmed, hcell]
  dsimp only
  rw [if_neg (by simp [Option.isNone_iff_eq_none, Option.isSome_iff_ne_none.mp hpresent])]
  by_cases haccepts : host.accepts cell (trimmed value) = true
  · exact .inl (if_pos haccepts)
  · rw [if_neg haccepts]
    exact .inr ⟨_, rfl, Bool.eq_false_iff.mpr haccepts⟩

/-! ## The commit -/

/-- The token that an apply hands out. -/
def handedOut : ApplyResult → Option RollbackToken
  | .ok token => some token
  | .error error => error.rollback

/-- Whatever becomes of the writes, the token is handed out, and only target files have changed. -/
theorem writeTargets_spec (token : RollbackToken)
    (htargets : ∀ t ∈ targets, ∃ cell,
      host.cell t.path = some cell ∧ (availableFile cell.2).isSome = true ∧
      (before cell).isSome = true) (hfiles : SameSettings before files) :
    ∃ result after, writeTargets host token files targets = (result, after) ∧
      handedOut result = some token ∧
      SameSettings before after ∧
      ∀ cell, (∀ t ∈ targets, host.cell t.path ≠ some cell) → after cell = files cell := by
  induction targets generalizing files with
  | nil => exact ⟨_, _, rfl, rfl, hfiles, fun _ _ => rfl⟩
  | cons target rest ih =>
    obtain ⟨cell, hcell, hcontrolled, hpresent⟩ := htargets target List.mem_cons_self
    have hrest := fun t ht => htargets t (List.mem_cons_of_mem target ht)
    have hpresent' : (files cell).isSome = true := (hfiles.present cell).trans hpresent
    rw [writeTargets]
    by_cases hsame : target.originalValue = target.requestedValue
    · obtain ⟨result, after, hrun, htoken, hsettings, hother⟩ := ih hrest hfiles
      rw [if_pos hsame]
      exact ⟨result, after, hrun, htoken, hsettings,
        fun c hc => hother c (List.forall_mem_cons.mp hc).2⟩
    · rw [if_neg hsame]
      rcases writeTrimmed_eq target.requestedValue hcell hpresent' with hwrite | ⟨error, hwrite, -⟩
      · have hnext : SameSettings before
            (Function.update files cell (some (trimmed target.requestedValue ++ "\n"))) :=
          hfiles.update (Option.isSome_iff_ne_none.mp hcontrolled) hpresent'
        have hkept : ∀ c, (∀ t ∈ target :: rest, host.cell t.path ≠ some c) →
            Function.update files cell (some (trimmed target.requestedValue ++ "\n")) c =
              files c := by
          intro c hc
          refine Function.update_of_ne ?_ _ _
          rintro rfl
          exact hc target List.mem_cons_self hcell
        rw [hwrite]
        dsimp only
        split
        · exact ⟨_, _, rfl, rfl, hnext, hkept⟩
        · rename_i actual hread
          by_cases hactual : actual = target.requestedValue
          · rw [if_neg (not_not.mpr hactual)]
            obtain ⟨result, after, hrun, htoken, hsettings, hother⟩ := ih hrest hnext
            refine ⟨result, after, hrun, htoken, hsettings, fun c hc => ?_⟩
            rw [hother c (List.forall_mem_cons.mp hc).2, hkept c hc]
          · rw [if_pos hactual]
            exact ⟨_, _, rfl, rfl, hnext, hkept⟩
      · rw [hwrite]
        exact ⟨_, _, rfl, rfl, hfiles, fun _ _ => rfl⟩

/-! ## The rollback -/

theorem resourceIdentity_some {path : String} {identity : CpuPowerResourceIdentity}
    (h : resourceIdentity host files cpu path = some identity) :
    identity.cpu = cpu ∧ ∃ cpufreq name available, parentAndName path = some (cpufreq, name) ∧
      availableFile name = some available ∧
      identity.availableValues = readOptional host files (joinPath cpufreq available) := by
  simp only [resourceIdentity, Option.bind_eq_bind] at h
  obtain ⟨⟨cpufreq, name⟩, hpath, h⟩ := Option.bind_eq_some_iff.mp h
  obtain ⟨available, havailable, h⟩ := Option.bind_eq_some_iff.mp h
  obtain ⟨real, -, h⟩ := Option.bind_eq_some_iff.mp h
  obtain ⟨names, -, h⟩ := Option.bind_eq_some_iff.mp h
  have hidentity := Option.some.inj h
  rw [← hidentity]
  exact ⟨rfl, cpufreq, name, available, hpath, havailable, rfl⟩

/-- A resource that is still there is the recorded one; what remains is the value. -/
theorem verifyResource_iff {path original : String} {identity : CpuPowerResourceIdentity}
    (hfiles : SameSettings before after)
    (h : resourceIdentity host before cpu path = some identity) :
    verifyResource host after ⟨path, original, some identity⟩ = .ok () ↔
      ∀ legal, identity.availableValues = some legal → original ∈ splitWhitespace legal := by
  have hcpu : identity.cpu = cpu := (resourceIdentity_some h).1
  have hcurrent : resourceIdentity host after identity.cpu path = some identity := by
    rw [hcpu, resourceIdentity_eq hfiles cpu path, h]
  simp only [verifyResource, hcurrent]
  cases havailable : identity.availableValues with
  | none => simp
  | some legal =>
    by_cases hlisted : original ∈ splitWhitespace legal
    · simp [hlisted]
    · simp [hlisted]

variable {requireIdentity : Bool}

theorem rollbackVerified_ok {records : List CpuPowerRestoreRecord}
    (hrecords : ∀ r ∈ records, ∃ cell, RecordOf prior r cell)
    (hfiles : SameSettings prior.texts files)
    (hreplay : ∀ r ∈ records, skipReason host files requireIdentity r = none)
    (hother : ∀ cell, (∀ r ∈ records, host.cell r.path ≠ some cell) →
      files cell = prior.texts cell) :
    rollbackVerified host files records requireIdentity =
      (.ok ⟨records.length, 0, []⟩, prior.texts) := by
  have hall : (records.filter fun record => (skipReason host files requireIdentity record).isNone) =
      records := by
    refine List.filter_eq_self.mpr fun r hr => ?_
    rw [hreplay r hr]
    rfl
  have hmessages : (records.filterMap fun record =>
      (skipReason host files requireIdentity record).map
      fun reason => s!"cpu power restore skipped {record.path}: {reason}") = [] := by
    refine List.filterMap_eq_nil_iff.mpr fun r hr => ?_
    rw [hreplay r hr]
    rfl
  have hwrites : ∀ r ∈ records, (restorer host).Writes (SameSettings prior.texts) (fun files r =>
      Function.update files ((host.cell r.path).getD ("", ""))
        (prior.texts ((host.cell r.path).getD ("", "")))) r := by
    intro record hmem now hnow
    obtain ⟨cell, hrecord⟩ := hrecords record hmem
    have hpresent : (now cell).isSome = true := by
      rw [hnow.present cell, hrecord.shown]
      rfl
    dsimp only
    rw [hrecord.cell_eq, Option.getD_some, hrecord.shown]
    refine ⟨?_, ?_, hnow.update (Option.isSome_iff_ne_none.mp hrecord.controlled) hpresent⟩
    · rcases writeTrimmed_eq record.originalValue hrecord.cell_eq hpresent with h | ⟨_, -, h⟩
      · exact h.trans (by rw [hrecord.trimmed_eq])
      · rw [hrecord.trimmed_eq, hrecord.accepted] at h
        cases h
    · show readTrimmed host _ record.path = .ok record.originalValue
      rw [readTrimmed, hrecord.cell_eq, Option.bind_some, Function.update_self]
      dsimp only
      rw [trimmed_line, hrecord.trimmed_eq]
  have hback : records.reverse.foldl (fun files (r : CpuPowerRestoreRecord) => Function.update files
      ((host.cell r.path).getD ("", ""))
        (prior.texts ((host.cell r.path).getD ("", "")))) files = prior.texts := by
    refine SysfsRestore.foldl_restore fun cell hcell => hother cell fun r hr heq => ?_
    refine hcell r (List.mem_reverse.mpr hr) ?_
    rw [heq, Option.getD_some]
  simp only [rollbackVerified]
  rw [hall, hmessages, SysfsRestore.Restorer.rollbackRecords_ok hwrites hfiles, hback]
  rfl

/-- A record that is skipped is counted. -/
theorem rollbackVerified_skips {records : List CpuPowerRestoreRecord}
    {record : CpuPowerRestoreRecord} {outcome : CpuPowerRestoreOutcome} (hmem : record ∈ records)
    (hskip : skipReason host files requireIdentity record ≠ none)
    (h : rollbackVerified host files records requireIdentity = (.ok outcome, after)) :
    outcome.skippedIdentityMismatch ≠ 0 := by
  obtain ⟨reason, hreason⟩ := Option.ne_none_iff_exists'.mp hskip
  have hmessage : s!"cpu power restore skipped {record.path}: {reason}" ∈ records.filterMap
      fun record =>
      (skipReason host files requireIdentity record).map fun reason =>
        s!"cpu power restore skipped {record.path}: {reason}" := by
    refine List.mem_filterMap.mpr ⟨record, hmem, ?_⟩
    rw [hreason]
    rfl
  simp only [rollbackVerified] at h
  split at h
  · cases h
  · cases h
    exact (List.length_pos_of_mem hmessage).ne'

/-! ## Apply and rollback -/

/-- A target of the plan with its record, and what they are read from. -/
structure Planned (prior : LegalFiles host) (action : CpuPowerAction) (cpu : Nat)
    (request : String × String)
    (pair : CpuPowerTargetFile × CpuPowerRestoreRecord) : Prop where
  target : TargetOf host prior.texts action cpu request pair.1
  identity : ∃ identity, resourceIdentity host prior.texts cpu
    (attributePath action cpu request.1) =
    some identity ∧ pair.2 = ⟨attributePath action cpu request.1, pair.1.originalValue,
      some identity⟩
  record : ∃ cell, RecordOf prior pair.2 cell

theorem planRecord_ok {target : CpuPowerTargetFile}
    {pair : CpuPowerTargetFile × CpuPowerRestoreRecord}
    (hrequest : request ∈ requestedValues action)
    (htarget : TargetOf host prior.texts action cpu request target)
    (h : planRecord host prior.texts target = .ok pair) :
    Planned prior action cpu request pair := by
  obtain ⟨hpath, hvalue, hcpu, hread⟩ := htarget
  obtain ⟨hcontrolled, hslash⟩ := mem_requestedValues hrequest
  rw [planRecord] at h
  split at h
  · cases h
  · rename_i identity hidentity
    cases h
    rw [hpath, hcpu] at hidentity
    obtain ⟨cell, text, hcell, htext, horiginal⟩ := readTrimmed_ok hread
    have hname : cell.2 = request.1 := cell_joinPath hslash hcell
    obtain ⟨value, rfl, htrim, haccepted⟩ :=
      prior.legal cell text (by rw [hname]; exact hcontrolled) htext
    rw [trimmed_line, htrim] at horiginal
    refine ⟨⟨hpath, hvalue, hcpu, hread⟩, ⟨identity, hidentity, by rw [hpath]⟩, cell, ?_⟩
    refine ⟨?_, by rw [hname]; exact hcontrolled, ?_, ?_, ?_⟩
    · dsimp only
      rw [hpath]
      exact hcell
    · dsimp only
      rw [htext, horiginal]
    · dsimp only
      rw [horiginal, htrim]
    · dsimp only
      rw [horiginal]
      exact haccepted

variable {plan : List (CpuPowerTargetFile × CpuPowerRestoreRecord)}

theorem planRecords_ok (h : planRecords host prior.texts action policy = .ok plan) :
    (∀ cpu ∈ action.cpus, ∀ request ∈ requestedValues action,
      ∃ pair ∈ plan, Planned prior action cpu request pair) ∧
    ∀ pair ∈ plan, ∃ cpu ∈ action.cpus, ∃ request ∈ requestedValues action,
      Planned prior action cpu request pair := by
  obtain ⟨targets, htargets, h⟩ := Tally.ok_of_bind h
  obtain ⟨hrequested, hread⟩ := collectTargetFiles_ok htargets
  obtain ⟨hitems, hpairs⟩ := Tally.mapM_ok h
  constructor
  · intro cpu hcpu request hrequest
    obtain ⟨target, hmem, htarget⟩ := hrequested cpu hcpu request hrequest
    obtain ⟨pair, hpair, hplan⟩ := hitems target hmem
    exact ⟨pair, hpair, planRecord_ok hrequest htarget hplan⟩
  · intro pair hpair
    obtain ⟨target, hmem, hplan⟩ := hpairs pair hpair
    obtain ⟨cpu, hcpu, request, hrequest, htarget, -⟩ := hread target hmem
    exact ⟨cpu, hcpu, request, hrequest, planRecord_ok hrequest htarget hplan⟩

/-- The text of the file that lists the values of an attribute. -/
def listedValues (host : Host) (files : Files) (action : CpuPowerAction) (cpu : Nat)
    (name : String) :
    Option String :=
  (availableFile name).bind fun available =>
    readOptional host files (joinPath (cpuCpufreqDir action cpu) available)

/-- Each value of before is a word of the listed values of its attribute, where these are listed. -/
def OriginalsListed (host : Host) (action : CpuPowerAction) (files : Files) : Prop :=
  ∀ cpu ∈ action.cpus, ∀ request ∈ requestedValues action, ∀ original legal,
    readTrimmed host files (attributePath action cpu request.1) = .ok original →
    listedValues host files action cpu request.1 = some legal → original ∈ splitWhitespace legal

/-- A planned record is replayed exactly where its value is listed. -/
theorem Planned.skipReason_iff {pair : CpuPowerTargetFile × CpuPowerRestoreRecord}
    (hplanned : Planned prior action cpu request pair)
    (hrequest : request ∈ requestedValues action) (hfiles : SameSettings prior.texts files) :
    skipReason host files requireIdentity pair.2 = none ↔
      ∀ legal, listedValues host prior.texts action cpu request.1 = some legal →
        pair.1.originalValue ∈ splitWhitespace legal := by
  obtain ⟨identity, hidentity, hrecord⟩ := hplanned.identity
  obtain ⟨-, cpufreq, name, available, hpath, havailable, hvalues⟩ :=
    resourceIdentity_some hidentity
  rw [parentAndName_attributePath (mem_requestedValues hrequest).2] at hpath
  cases hpath
  have hlisted : listedValues host prior.texts action cpu request.1 = identity.availableValues := by
    rw [listedValues, havailable, hvalues, Option.bind_some]
  rw [hlisted, ← verifyResource_iff hfiles hidentity, ← hrecord, skipReason]
  have hsome : (pair.2.identity.isNone && !requireIdentity) = false := by
    rw [hrecord]
    rfl
  rw [hsome, if_neg (by decide)]
  cases verifyResource host files pair.2 with
  | ok value => simp
  | error reason => simp

theorem originalsListed_iff (requireIdentity : Bool)
    (hplan : planRecords host prior.texts action policy = .ok plan)
    (hfiles : SameSettings prior.texts files) :
    (∀ r ∈ plan.map Prod.snd, skipReason host files requireIdentity r = none) ↔
      OriginalsListed host action prior.texts := by
  obtain ⟨hrequested, hpairs⟩ := planRecords_ok hplan
  constructor
  · intro hnone cpu hcpu request hrequest original legal hread hlegal
    obtain ⟨pair, hpair, hplanned⟩ := hrequested cpu hcpu request hrequest
    have hreplay :=
      (hplanned.skipReason_iff hrequest hfiles).mp (hnone pair.2 (List.mem_map_of_mem hpair))
    have hsame := hplanned.target.2.2.2
    rw [hread] at hsame
    cases hsame
    exact hreplay legal hlegal
  · intro hlisted record hmem
    obtain ⟨pair, hpair, rfl⟩ := List.mem_map.mp hmem
    obtain ⟨cpu, hcpu, request, hrequest, hplanned⟩ := hpairs pair hpair
    refine (hplanned.skipReason_iff hrequest hfiles).mpr fun legal hlegal => ?_
    exact hlisted cpu hcpu request hrequest _ legal hplanned.target.2.2.2 hlegal

/-- The plan can be read, and the hook agrees and changes nothing. -/
def Accepted (host : Host) (action : CpuPowerAction) (policy : CpuPowerPolicy)
    (beforeMutation : RollbackToken → Files → Except AnyError Unit × Files) (files : Files) :
    Prop :=
  (∃ plan, planRecords host files action policy = .ok plan) ∧
    ∀ token, beforeMutation token files = (.ok (), files)

/-- The apply hands out a token, and its rollback restores every record of it and the files of
before. -/
def Undone (host : Host) (action : CpuPowerAction) (policy : CpuPowerPolicy)
    (beforeMutation : RollbackToken → Files → Except AnyError Unit × Files) (files : Files) :
    Prop :=
  ∃ records result after,
    applyPreparedWithPolicy host action policy beforeMutation files = (result, after) ∧
    handedOut result = some (.cpuPowerRestore records) ∧
    rollback host after (.cpuPowerRestore records) = (.ok (), files) ∧
    ∀ requireVerifiedIdentity,
      restoreToken host requireVerifiedIdentity after (.cpuPowerRestore records) =
      (.ok { restored := records.length }, files)

variable {beforeMutation : RollbackToken → Files → Except AnyError Unit × Files}

/-- An accepted apply hands out the records of the plan and changes their files only. -/
theorem applyPreparedWithPolicy_accepted
    (hplan : planRecords host prior.texts action policy = .ok plan)
    (hhook : ∀ token, beforeMutation token prior.texts = (.ok (), prior.texts)) :
    ∃ result after, applyPreparedWithPolicy host action policy beforeMutation prior.texts =
      (result, after) ∧
      handedOut result = some (.cpuPowerRestore (plan.map Prod.snd)) ∧
        SameSettings prior.texts after ∧
      ∀ cell, (∀ r ∈ plan.map Prod.snd, host.cell r.path ≠ some cell) →
        after cell = prior.texts cell := by
  have hpairs := (planRecords_ok hplan).2
  have hpaths : ∀ pair ∈ plan, pair.1.path = pair.2.path := by
    intro pair hpair
    obtain ⟨cpu, -, request, -, hplanned⟩ := hpairs pair hpair
    obtain ⟨identity, -, hrecord⟩ := hplanned.identity
    rw [hplanned.target.1, hrecord]
  have htargets : ∀ t ∈ plan.map Prod.fst, ∃ cell, host.cell t.path = some cell ∧
      (availableFile cell.2).isSome = true ∧ (prior.texts cell).isSome = true := by
    intro target hmem
    obtain ⟨pair, hpair, rfl⟩ := List.mem_map.mp hmem
    obtain ⟨cpu, -, request, -, hplanned⟩ := hpairs pair hpair
    obtain ⟨cell, hrecord⟩ := hplanned.record
    refine ⟨cell, by rw [hpaths pair hpair]; exact hrecord.cell_eq, hrecord.controlled, ?_⟩
    rw [hrecord.shown]
    rfl
  obtain ⟨result, after, hrun, htoken, hsettings, hother⟩ := writeTargets_spec
    (.cpuPowerRestore (plan.map Prod.snd)) htargets (SameSettings.refl prior.texts)
  refine ⟨result, after, ?_, htoken, hsettings, fun cell hcell => hother cell fun target hmem => ?_⟩
  · simp only [applyPreparedWithPolicy, hplan, hhook]
    rw [if_neg (not_not.mpr rfl)]
    exact hrun
  · obtain ⟨pair, hpair, rfl⟩ := List.mem_map.mp hmem
    rw [hpaths pair hpair]
    exact hcell pair.2 (List.mem_map_of_mem hpair)

theorem Undone.originalsListed (hundone : Undone host action policy beforeMutation prior.texts)
    (haccepted : Accepted host action policy beforeMutation prior.texts) :
    OriginalsListed host action prior.texts := by
  obtain ⟨records, result, after, happly, htoken, -, hrestore⟩ := hundone
  obtain ⟨⟨plan, hplan⟩, hhook⟩ := haccepted
  obtain ⟨result', after', happly', htoken', hsettings, -⟩ :=
    applyPreparedWithPolicy_accepted hplan hhook
  rw [happly'] at happly
  cases happly
  rw [htoken'] at htoken
  cases htoken
  refine (originalsListed_iff true hplan hsettings).mp fun record hmem => ?_
  by_contra hskip
  have hrestore := hrestore true
  simp only [restoreToken] at hrestore
  split at hrestore
  · cases hrestore
  · rename_i outcome files' hrolled
    refine rollbackVerified_skips hmem hskip hrolled ?_
    have hresult := congrArg Prod.fst hrestore
    exact congrArg RollbackResult.skippedIdentityMismatch (Except.ok.inj hresult)

theorem OriginalsListed.undone (hlisted : OriginalsListed host action prior.texts)
    (haccepted : Accepted host action policy beforeMutation prior.texts) :
    Undone host action policy beforeMutation prior.texts := by
  obtain ⟨⟨plan, hplan⟩, hhook⟩ := haccepted
  obtain ⟨result, after, happly, htoken, hsettings, hother⟩ :=
    applyPreparedWithPolicy_accepted hplan hhook
  have hrecords : ∀ r ∈ plan.map Prod.snd, ∃ cell, RecordOf prior r cell := by
    intro record hmem
    obtain ⟨pair, hpair, rfl⟩ := List.mem_map.mp hmem
    obtain ⟨cpu, -, request, -, hplanned⟩ := (planRecords_ok hplan).2 pair hpair
    exact hplanned.record
  have hrolled : ∀ requireIdentity,
      rollbackVerified host after (plan.map Prod.snd) requireIdentity =
      (.ok ⟨(plan.map Prod.snd).length, 0, []⟩, prior.texts) := fun requireIdentity =>
    rollbackVerified_ok hrecords hsettings
      ((originalsListed_iff requireIdentity hplan hsettings).mpr hlisted) hother
  refine ⟨plan.map Prod.snd, result, after, happly, htoken, ?_, fun requireIdentity => ?_⟩
  · simp only [rollback, hrolled]
  · simp only [restoreToken, hrolled]

/-- **The rollback of a prepared apply restores everything exactly where each value of before is
listed.** -/
theorem prepared_undone_iff (host : Host) (action : CpuPowerAction) (policy : CpuPowerPolicy)
    (beforeMutation : RollbackToken → Files → Except AnyError Unit × Files)
    (prior : LegalFiles host) :
    (Accepted host action policy beforeMutation prior.texts →
        Undone host action policy beforeMutation prior.texts) ↔
      (Accepted host action policy beforeMutation prior.texts →
        OriginalsListed host action prior.texts) := by
  constructor
  · intro hundone haccepted
    exact (hundone haccepted).originalsListed haccepted
  · intro hlisted haccepted
    exact (hlisted haccepted).undone haccepted

/-- One CPU whose policy takes any value. -/
def oneCpu : Host where
  canonicalize dir := if dir = "/sys/devices/system/cpu/cpu0/cpufreq" then some "/policy0" else none
  isDir _ := true
  isFile _ := true
  openError _ := none
  accepts _ _ := true
  bootId := none
  powerSupplies := none

/-- A preference that was set as a number, beside the names of the preferences. -/
def rawPreference : LegalFiles oneCpu where
  texts cell :=
    if cell = ("/policy0", "energy_performance_preference") then some "128\n"
    else if cell = ("/policy0", "energy_performance_available_preferences") then
      some "performance power\n"
    else none
  legal cell text hcontrolled htext := by
    by_cases hcell : cell = ("/policy0", "energy_performance_preference")
    · rw [if_pos hcell] at htext
      exact ⟨"128", (Option.some.inj htext).symm, by decide, rfl⟩
    · rw [if_neg hcell] at htext
      by_cases havailable : cell = ("/policy0", "energy_performance_available_preferences")
      · rw [havailable] at hcontrolled
        exact absurd hcontrolled (by decide)
      · rw [if_neg havailable] at htext
        cases htext

def powerAction : CpuPowerAction := ⟨"/sys", [0], none, some "power"⟩

def eppPolicy : CpuPowerPolicy where
  allowCpuPowerChanges := true
  allowedCpus := [0]
  allowGovernorChanges := false
  allowEppChanges := true
  batteryPolicy := .never
  explicitBatteryOverride := false

/-- The rollback skips the number and leaves the change. -/
theorem rawPreference_not_undone :
    ¬ ∀ (host : Host) (action : CpuPowerAction) (policy : CpuPowerPolicy)
      (beforeMutation : RollbackToken → Files → Except AnyError Unit × Files)
        (prior : LegalFiles host),
      Accepted host action policy beforeMutation prior.texts →
        Undone host action policy beforeMutation prior.texts := by
  intro h
  have haccepted : Accepted oneCpu powerAction eppPolicy (fun _ files => (.ok (), files))
      rawPreference.texts := by
    refine ⟨?_, fun _ => rfl⟩
    have hread : (planRecords oneCpu rawPreference.texts powerAction eppPolicy).isOk = true := by
      decide
    cases hplan : planRecords oneCpu rawPreference.texts powerAction eppPolicy with
    | ok plan => exact ⟨plan, rfl⟩
    | error error =>
      rw [hplan] at hread
      cases hread
  have hlisted :=
    (h oneCpu powerAction eppPolicy _ rawPreference haccepted).originalsListed haccepted
  have hword : "128" ∈ splitWhitespace "performance power" :=
    hlisted 0 (by decide) ("energy_performance_preference", "power")
      (by decide) "128" "performance power" rfl rfl
  revert hword
  decide

end Stutter.CpuPower

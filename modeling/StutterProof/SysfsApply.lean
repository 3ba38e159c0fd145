import Mathlib.Data.List.Sort
import StutterProof.ActiveConfig

/-! # Applying a change to several sysfs files

The VM-knob, GPU-power and CPU-power actions write their files one after the other, read each one
back and compare.  Three things can go wrong at every file, and only one of them, the comparison,
takes back what was written before it.  The IRQ-affinity action has one file and takes nothing
back.  No failure hands out a token. -/
namespace Stutter.Sysfs

open ActiveConfig (trimmed)

/-! ## Files -/

/-- How the host answers a write: the kernel may store another value than the one written. -/
inductive WriteAnswer where
  | refused (error : String)
  | stored (content : String)

inductive ReadAnswer where
  | failed (error : String)
  | current

/-- How the host answers a write and the read that follows it. -/
structure Answer where
  write : WriteAnswer
  read : ReadAnswer

/-- The answers, by the number of writes before. -/
abbrev Kernel := Nat → Answer

/-- The files, and every write so far, the last one first. -/
structure Files where
  content : String → String
  writes : List (String × String)

def pathError (note error : String) : AnyError := (AnyError.message error).context note

/-- `fs::write` of the trimmed value, with the note of a failure. -/
def writeNoted (kernel : Kernel) (files : Files) (path value note : String) :
    Except AnyError Unit × Files :=
  let writes := (path, trimmed value) :: files.writes
  match (kernel files.writes.length).write with
  | .refused error => (.error (pathError note error), { files with writes := writes })
  | .stored content =>
    (.ok (), ⟨fun other => if other = path then content else files.content other, writes⟩)

/-- `write_trimmed`. -/
def writeTrimmed (kernel : Kernel) (files : Files) (path value : String) :
    Except AnyError Unit × Files :=
  writeNoted kernel files path value
    ("failed to write " ++ ActiveConfig.debugText (trimmed value) ++ " to " ++ path)

/-- `read_trimmed`, of a file that was just written. -/
def readTrimmed (kernel : Kernel) (files : Files) (path : String) : Except AnyError String :=
  match (kernel (files.writes.length - 1)).read with
  | .failed error => .error (pathError ("failed to read " ++ path) error)
  | .current => .ok (trimmed (files.content path))

/-! ## The loop of three actions -/

/-- A file with the value it gets and the value it had. -/
structure TargetFile where
  path : String
  requestedValue : String
  originalValue : String

/-- What one of the actions puts into its texts and its token. -/
structure Family where
  actionKind : String
  label : String
  token : List TargetFile → RollbackToken

/-- `ActionBoundaryError::restore_failed`. -/
def restoreFailed (actionKind message : String) : AnyError :=
  .boundary actionKind "action_restore_failed"
    ("action_restore_failed: " ++ actionKind ++ ": " ++ message)

/-- The loop of `rollback_vm_knob_records` and its siblings, over the records as it meets them:
what failed, and the files. -/
def restoreRecords (kernel : Kernel) (files : Files) : List TargetFile → List String × Files
  | [] => ([], files)
  | record :: rest =>
    match writeTrimmed kernel files record.path record.originalValue with
    | (.error error, files) =>
      let (failures, files) := restoreRecords kernel files rest
      ((record.path ++ " restore write failed: " ++ error.text) :: failures, files)
    | (.ok (), files) =>
      let failed := match readTrimmed kernel files record.path with
        | .ok actual =>
          if actual = record.originalValue then []
          else [record.path ++ " restore verification failed: requested="
            ++ ActiveConfig.debugText record.originalValue
            ++ " actual=" ++ ActiveConfig.debugText actual]
        | .error error => [record.path ++ " restore verification read failed: " ++ error.text]
      let (failures, files) := restoreRecords kernel files rest
      (failed ++ failures, files)

/-- `rollback_vm_knob_records` and its siblings: the last record first. -/
def rollbackRecords (family : Family) (kernel : Kernel) (files : Files)
    (records : List TargetFile) :
    Except AnyError Unit × Files :=
  let (failures, files) := restoreRecords kernel files records.reverse
  if failures.isEmpty then (.ok (), files)
  else (.error (restoreFailed family.actionKind
    ("failed to rollback " ++ family.label ++ " values: "
    ++ String.intercalate "; " failures)), files)

/-- The loop of `apply_with_policy`. -/
def applyTargets (family : Family) (kernel : Kernel) (files : Files) (records : List TargetFile) :
    List TargetFile → Except AnyError RollbackToken × Files
  | [] => (.ok (family.token records), files)
  | target :: rest =>
    let records := records ++ [target]
    if target.originalValue = target.requestedValue then
      applyTargets family kernel files records rest
    else match writeTrimmed kernel files target.path target.requestedValue with
      | (.error error, files) => (.error (error.context ("failed to write " ++ target.path)), files)
      | (.ok (), files) =>
        match readTrimmed kernel files target.path with
        | .error error =>
          (.error (error.context ("failed to verify write to " ++ target.path)), files)
        | .ok actual =>
          if actual ≠ target.requestedValue then
            match rollbackRecords family kernel files records with
            | (.error error, files) => (.error error, files)
            | (.ok (), files) =>
              (.error (restoreFailed family.actionKind
                (family.label ++ " write verification failed for "
                ++ target.path ++ ": requested=" ++ ActiveConfig.debugText target.requestedValue
                ++ " actual=" ++ ActiveConfig.debugText actual)), files)
          else applyTargets family kernel files records rest

/-- The end of `collect_target_files`: the values the accepted files have. -/
def collectTargetFiles (content : String → String) (changes : List (String × String)) :
    List TargetFile :=
  changes.map fun (path, value) => ⟨path, value, trimmed (content path)⟩

/-- `apply_with_policy` and `TuningAction::apply` of accepted changes: an error comes without a
token. -/
def applyChanges (family : Family) (kernel : Kernel) (content : String → String)
    (changes : List (String × String)) : Except PartialApplyError RollbackToken × Files :=
  match applyTargets family kernel ⟨content, []⟩ [] (collectTargetFiles content changes) with
  | (.error source, files) => (.error ⟨source, none⟩, files)
  | (.ok token, files) => (.ok token, files)

def sysfsRecord (target : TargetFile) : SysfsRestoreRecord := ⟨target.path, target.originalValue⟩

def vmKnobs : Family :=
  ⟨"vm_knobs", "VM knob", fun targets => .vmKnobRestore (targets.map sysfsRecord)⟩

def gpuPower : Family :=
  ⟨"gpu_power", "GPU power", fun targets => .gpuPowerRestore (targets.map sysfsRecord)⟩

/-- With the identity of the resource at a path. -/
def cpuPower (identity : String → Option CpuPowerResourceIdentity) : Family :=
  ⟨"cpu_power", "CPU power", fun targets => .cpuPowerRestore (targets.map fun target =>
    ⟨target.path, target.originalValue, identity target.path⟩)⟩

/-- A VM knob's files: the accepted paths under the root. -/
structure VmKnobAction where
  root : String
  changes : List (String × String)

def VmKnobAction.files (action : VmKnobAction) : List (String × String) :=
  action.changes.map fun (relativePath, value) => (action.root ++ "/" ++ relativePath, value)

/-- `VmKnobAction::apply_with_policy`. -/
def VmKnobAction.apply (action : VmKnobAction) (kernel : Kernel) (content : String → String) :
    Except PartialApplyError RollbackToken × Files :=
  applyChanges vmKnobs kernel content action.files

/-- The GPU power action. -/
structure GpuPowerAction where
  sysfsRoot : String
  drmCard : String
  powerDpmForcePerformanceLevel : Option String
  ppPowerProfileMode : Option String

def GpuPowerAction.files (action : GpuPowerAction) : List (String × String) :=
  let deviceDir := action.sysfsRoot ++ "/class/drm/" ++ action.drmCard ++ "/device"
  (action.powerDpmForcePerformanceLevel.map fun level =>
      (deviceDir ++ "/power_dpm_force_performance_level", level)).toList ++
    (action.ppPowerProfileMode.map fun profile =>
      (deviceDir ++ "/pp_power_profile_mode", profile)).toList

/-- `GpuPowerAction::apply_with_policy`. -/
def GpuPowerAction.apply (action : GpuPowerAction) (kernel : Kernel) (content : String → String) :
    Except PartialApplyError RollbackToken × Files :=
  applyChanges gpuPower kernel content action.files

/-- The CPU power action. -/
structure CpuPowerAction where
  sysfsRoot : String
  cpus : List Nat
  scalingGovernor : Option String
  energyPerformancePreference : Option String

/-- `sorted_unique_cpus`. -/
def sortedUniqueCpus (cpus : List Nat) : List Nat := (cpus.insertionSort (· ≤ ·)).dedup

def CpuPowerAction.files (action : CpuPowerAction) : List (String × String) :=
  (sortedUniqueCpus action.cpus).flatMap fun cpu =>
    let cpufreq := action.sysfsRoot ++ "/devices/system/cpu/cpu" ++ toString cpu ++ "/cpufreq"
    (action.scalingGovernor.map fun governor =>
      (cpufreq ++ "/scaling_governor", governor)).toList ++
      (action.energyPerformancePreference.map fun epp =>
        (cpufreq ++ "/energy_performance_preference", epp)).toList

/-- `CpuPowerAction::apply_with_policy`. -/
def CpuPowerAction.apply (action : CpuPowerAction)
    (identity : String → Option CpuPowerResourceIdentity) (kernel : Kernel)
    (content : String → String) : Except PartialApplyError RollbackToken × Files :=
  applyChanges (cpuPower identity) kernel content action.files

/-! ## The IRQ action -/

/-- `normalize_affinity`. -/
def normalizeAffinity (value : String) : String :=
  let part (digits : List Char) : List Char :=
    match digits.dropWhile (· = '0') with
    | [] => ['0']
    | rest => rest.map Char.toLower
  String.ofList ((((trimmed value).toList.splitOn ',').map part).intersperse [','] |>.flatten)

/-- The IRQ affinity action. -/
structure IrqAffinityAction where
  irqRoot : String
  irq : Nat
  deviceHint : String
  smpAffinity : String

def IrqAffinityAction.smpAffinityPath (action : IrqAffinityAction) : String :=
  action.irqRoot ++ "/" ++ toString action.irq ++ "/smp_affinity"

/-- `IrqAffinityAction::apply_with_policy` of an accepted request: the device hint is the
action's. -/
def IrqAffinityAction.apply (action : IrqAffinityAction) (kernel : Kernel)
    (content : String → String) : Except PartialApplyError RollbackToken × Files :=
  let files : Files := ⟨content, []⟩
  let path := action.smpAffinityPath
  let original := trimmed (content path)
  let token := .irqAffinityRestore [⟨action.irq, action.deviceHint, original⟩]
  let irq := toString action.irq
  if trimmed original ≠ trimmed action.smpAffinity then
    -- its own `write_trimmed`, which does not quote the value
    match writeNoted kernel files path action.smpAffinity
        ("failed to write " ++ trimmed action.smpAffinity ++ " to " ++ path) with
    | (.error error, files) =>
      (.error ⟨error.context ("failed to write IRQ " ++ irq ++ " smp_affinity"), none⟩, files)
    | (.ok (), files) =>
      match readTrimmed kernel files path with
      | .error error =>
        (.error ⟨error.context ("failed to verify IRQ " ++ irq ++ " smp_affinity write"), none⟩,
          files)
      | .ok after =>
        if normalizeAffinity after ≠ normalizeAffinity action.smpAffinity then
          (.error ⟨restoreFailed "irq_affinity" ("IRQ " ++ irq
            ++ " smp_affinity verification failed: requested=" ++ action.smpAffinity ++ " actual="
            ++ after), none⟩, files)
        else (.ok token, files)
  else (.ok token, files)

/-! ## When a failed apply leaves nothing behind -/

/-- The file is one the token restores; an IRQ is a file of the action's root. -/
def covers (irqRoot : String) (token : RollbackToken) (path : String) : Prop :=
  match token with
  | .vmKnobRestore records | .gpuPowerRestore records => ∃ record ∈ records, record.path = path
  | .cpuPowerRestore records => ∃ record ∈ records, record.path = path
  | .irqAffinityRestore records =>
    ∃ record ∈ records, irqRoot ++ "/" ++ toString record.irq ++ "/smp_affinity" = path
  | _ => False

/-- A failed apply has put every file it wrote back to its original value, or its error carries
a token for every file it wrote. -/
def AllOrToken (irqRoot : String) (content : String → String)
    (outcome : Except PartialApplyError RollbackToken × Files) : Prop :=
  ∀ failure, outcome.1 = .error failure →
    (∀ write ∈ outcome.2.writes,
      trimmed (outcome.2.content write.1) = trimmed (content write.1)) ∨
    ∃ token, failure.rollback = some token ∧ ∀ write ∈ outcome.2.writes,
      covers irqRoot token write.1

/-- The content the restoring writes leave at a path: of those the host accepts, the last one's. -/
def lastStored (kernel : Kernel) (path : String) : Nat → List TargetFile → Option String
  | _, [] => none
  | number, record :: rest =>
    (lastStored kernel path (number + 1) rest).or <|
      if record.path = path then
        match (kernel number).write with
        | .stored content => some content
        | .refused _ => none
      else none

/-- The answers let the loop end well, from the write of this number on, with these files changed
before.  A write may be refused only if nothing was changed before it; a read-back may fail only if
the host kept the original value and changed nothing else before; and after a wrong value the
restoring writes must leave the original value in every file of the records. -/
def Undone (kernel : Kernel) (number : Nat) (changed : List String) (records : List TargetFile) :
    List TargetFile → Prop
  | [] => True
  | target :: rest =>
    if target.originalValue = target.requestedValue then
      Undone kernel number changed (records ++ [target]) rest
    else match (kernel number).write with
      | .refused _ => changed = []
      | .stored content =>
        match (kernel number).read with
        | .failed _ => trimmed content = target.originalValue ∧ ∀ path ∈ changed, path = target.path
        | .current =>
          if trimmed content = target.requestedValue then
            Undone kernel (number + 1) (target.path :: changed) (records ++ [target]) rest
          else ∀ record ∈ records ++ [target],
            match lastStored kernel record.path (number + 1) (records ++ [target]).reverse with
            | some restored => trimmed restored = record.originalValue
            | none =>
              if record.path = target.path then trimmed content = record.originalValue
              else record.path ∉ changed

/-- The restoring loop, file by file. -/
theorem restoreRecords_content (kernel : Kernel) (files : Files) (records : List TargetFile)
    (path : String) :
    (restoreRecords kernel files records).2.content path
      = (lastStored kernel path files.writes.length records).getD (files.content path) := by
  induction records generalizing files with
  | nil => rfl
  | cons record rest ih =>
    rcases answer : (kernel files.writes.length).write with error | content
    · have step : (restoreRecords kernel files (record :: rest)).2.content path
          = (restoreRecords kernel { files with
              writes := (record.path, trimmed record.originalValue) :: files.writes }
                rest).2.content
            path := by
        simp only [restoreRecords, writeTrimmed, writeNoted, answer]
      rw [step, ih]
      simp only [lastStored, answer, List.length_cons, ite_self, Option.or_none]
    · have step : (restoreRecords kernel files (record :: rest)).2.content path
          = (restoreRecords kernel ⟨fun other => if other = record.path then content
                else files.content other,
              (record.path, trimmed record.originalValue) :: files.writes⟩ rest).2.content
                path := by
        simp only [restoreRecords, writeTrimmed, writeNoted, answer]
      rw [step, ih]
      simp only [lastStored, answer, List.length_cons]
      rcases lastStored kernel path (files.writes.length + 1) rest with _ | later
      · by_cases here : record.path = path
        · simp [here]
        · simp [here, Ne.symm here]
      · simp

/-- The restoring loop writes the files of its records. -/
theorem restoreRecords_writes (kernel : Kernel) (files : Files) (records : List TargetFile)
    (path : String) :
    (∃ write ∈ (restoreRecords kernel files records).2.writes, write.1 = path) ↔
      (∃ write ∈ files.writes, write.1 = path) ∨ ∃ record ∈ records, record.path = path := by
  induction records generalizing files with
  | nil => simp [restoreRecords]
  | cons record rest ih =>
    have step : ∃ content, (restoreRecords kernel files (record :: rest)).2.writes
        = (restoreRecords kernel ⟨content,
            (record.path, trimmed record.originalValue) :: files.writes⟩ rest).2.writes := by
      rcases answer : (kernel files.writes.length).write with error | content
      · refine ⟨files.content, ?_⟩
        simp only [restoreRecords, writeTrimmed, writeNoted, answer]
      · refine ⟨fun other => if other = record.path then content else files.content other, ?_⟩
        simp only [restoreRecords, writeTrimmed, writeNoted, answer]
    obtain ⟨content, step⟩ := step
    rw [step, ih]
    simp only [List.mem_cons, exists_eq_or_imp]
    rw [or_assoc, or_left_comm]

/-- Where the loop stands: the changed files hold another value than before, the others are as
they were. -/
structure Reached (before : String → String) (files : Files) (changed : List String)
    (records : List TargetFile) : Prop where
  differs : ∀ path ∈ changed, trimmed (files.content path) ≠ trimmed (before path)
  unchanged : ∀ path, path ∉ changed → files.content path = before path
  written : ∀ path, (∃ write ∈ files.writes, write.1 = path) ↔ path ∈ changed
  recorded : ∀ path ∈ changed, ∃ record ∈ records, record.path = path

/-- Every file that was written holds its value again. -/
def Restored (before : String → String) (files : Files) : Prop :=
  ∀ write ∈ files.writes, trimmed (files.content write.1) = trimmed (before write.1)

theorem restored_iff {before : String → String} {files : Files} :
    Restored before files ↔ ∀ path, (∃ write ∈ files.writes, write.1 = path) →
      trimmed (files.content path) = trimmed (before path) := by
  constructor
  · rintro restored path ⟨write, mem, rfl⟩
    exact restored write mem
  · exact fun restored write mem => restored write.1 ⟨write, mem, rfl⟩

section
variable {before : String → String} {files : Files} {changed : List String}
  {records : List TargetFile} (reached : Reached before files changed records)
include reached

/-- The write of a target is refused. -/
theorem Reached.refused (value : String) {path : String} :
    Restored before { files with writes := (path, value) :: files.writes } ↔ changed = [] := by
  rw [restored_iff]
  constructor
  · intro restored
    rcases none : changed with _ | ⟨first, rest⟩
    · rfl
    · have mem : first ∈ changed := none ▸ List.mem_cons_self
      obtain ⟨write, written, same⟩ := (reached.written first).mpr mem
      exact absurd (restored first ⟨write, List.mem_cons_of_mem _ written, same⟩)
        (reached.differs first mem)
  · intro none other _
    have same := reached.unchanged other (by simp [none])
    show trimmed (files.content other) = _
    rw [same]

/-- The write of a target is accepted, and the loop ends there. -/
theorem Reached.unread (value content : String) {path : String} :
    Restored before ⟨fun other => if other = path then content else files.content other,
        (path, value) :: files.writes⟩ ↔
      trimmed content = trimmed (before path) ∧ ∀ other ∈ changed, other = path := by
  rw [restored_iff]
  constructor
  · intro restored
    constructor
    · have here := restored path ⟨_, List.mem_cons_self, rfl⟩
      simpa using here
    · intro other mem
      by_contra differ
      obtain ⟨write, written, same⟩ := (reached.written other).mpr mem
      have there := restored other ⟨write, List.mem_cons_of_mem _ written, same⟩
      simp only [differ, if_false] at there
      exact reached.differs other mem there
  · rintro ⟨kept, only⟩ other -
    by_cases here : other = path
    · simp only [here, if_true]
      exact kept
    · have unchanged : other ∉ changed := fun mem => here (only other mem)
      simp only [here, if_false]
      rw [reached.unchanged other unchanged]

/-- A target was written and verified. -/
theorem Reached.next (value content : String) {target : TargetFile}
    (differs : trimmed content ≠ trimmed (before target.path)) :
    Reached before ⟨fun other => if other = target.path then content else files.content other,
      (target.path, value) :: files.writes⟩ (target.path :: changed) (records ++ [target]) where
  differs := by
    intro path mem
    by_cases here : path = target.path
    · simp only [here, if_true]
      exact differs
    · simp only [here, if_false]
      rcases List.mem_cons.mp mem with same | before
      · exact absurd same here
      · exact reached.differs path before
  unchanged := by
    intro path notIn
    rw [List.mem_cons, not_or] at notIn
    simp only [notIn.1, if_false]
    exact reached.unchanged path notIn.2
  written := by
    intro path
    simp only [List.mem_cons, exists_eq_or_imp, reached.written path]
    rw [eq_comm]
  recorded := by
    intro path mem
    rcases List.mem_cons.mp mem with rfl | before
    · exact ⟨target, by simp, rfl⟩
    · obtain ⟨record, isIn, same⟩ := reached.recorded path before
      exact ⟨record, by simp [isIn], same⟩

/-- A target reads back wrong, and the records are restored. -/
theorem Reached.mismatch (kernel : Kernel) (value content : String) {target : TargetFile}
    (originals : ∀ record ∈ records ++ [target],
      record.originalValue = trimmed (before record.path)) :
    Restored before (restoreRecords kernel
        ⟨fun other => if other = target.path then content else files.content other,
          (target.path, value) :: files.writes⟩ (records ++ [target]).reverse).2 ↔
      ∀ record ∈ records ++ [target],
        match lastStored kernel record.path (files.writes.length + 1)
          (records ++ [target]).reverse with
        | some restored => trimmed restored = record.originalValue
        | none =>
          if record.path = target.path then trimmed content = record.originalValue
          else record.path ∉ changed := by
  have touched : ∀ path, ((∃ write ∈ (target.path, value) :: files.writes, write.1 = path) ∨
      ∃ record ∈ (records ++ [target]).reverse, record.path = path) ↔
        ∃ record ∈ records ++ [target], record.path = path := by
    intro path
    constructor
    · rintro (⟨write, mem, same⟩ | ⟨record, mem, same⟩)
      · rcases List.mem_cons.mp mem with rfl | before
        · exact ⟨target, by simp, same⟩
        · obtain ⟨record, isIn, same'⟩ :=
            reached.recorded path ((reached.written path).mp ⟨write, before, same⟩)
          exact ⟨record, by simp [isIn], same'⟩
      · exact ⟨record, List.mem_reverse.mp mem, same⟩
    · rintro ⟨record, mem, same⟩
      exact .inr ⟨record, List.mem_reverse.mpr mem, same⟩
  -- what one file of the records holds in the end
  have held : ∀ record ∈ records ++ [target],
      (trimmed ((restoreRecords kernel
          ⟨fun other => if other = target.path then content else files.content other,
            (target.path, value) :: files.writes⟩ (records ++ [target]).reverse).2.content
              record.path)
          = trimmed (before record.path)) ↔
        match lastStored kernel record.path (files.writes.length + 1)
          (records ++ [target]).reverse with
        | some restored => trimmed restored = record.originalValue
        | none =>
          if record.path = target.path then trimmed content = record.originalValue
          else record.path ∉ changed := by
    intro record mem
    rw [restoreRecords_content, List.length_cons, originals record mem]
    rcases lastStored kernel record.path (files.writes.length + 1) (records ++ [target]).reverse
      with _ | restored
    · simp only [Option.getD_none]
      by_cases here : record.path = target.path
      · rw [if_pos here, if_pos here]
      · rw [if_neg here, if_neg here]
        constructor
        · exact fun same isIn => reached.differs record.path isIn same
        · exact fun notIn => by rw [reached.unchanged record.path notIn]
    · simp only [Option.getD_some]
  rw [restored_iff]
  constructor
  · intro restored record mem
    apply (held record mem).mp
    apply restored
    rw [restoreRecords_writes, touched]
    exact ⟨record, mem, rfl⟩
  · intro answers path isTouched
    rw [restoreRecords_writes, touched] at isTouched
    obtain ⟨record, mem, rfl⟩ := isTouched
    exact (held record mem).mpr (answers record mem)
end

variable (family : Family)

theorem rollbackRecords_files (kernel : Kernel) (files : Files) (records : List TargetFile) :
    (rollbackRecords family kernel files records).2
      = (restoreRecords kernel files records.reverse).2 := by
  unfold rollbackRecords
  simp only
  split <;> rfl

/-- Over the loop: a failure leaves every written file restored iff the answers let it. -/
theorem applyTargets_restored_iff (kernel : Kernel) {before : String → String}
    (targets : List TargetFile) {files : Files} {changed : List String}
    {records : List TargetFile} (reached : Reached before files changed records)
    (originals : ∀ target ∈ records ++ targets,
      target.originalValue = trimmed (before target.path)) :
    ((∃ error, (applyTargets family kernel files records targets).1 = .error error) →
        Restored before (applyTargets family kernel files records targets).2) ↔
      Undone kernel files.writes.length changed records targets := by
  induction targets generalizing files changed records with
  | nil => simp [applyTargets, Undone]
  | cons target rest ih =>
    have originals' : ∀ other ∈ (records ++ [target]) ++ rest,
        other.originalValue = trimmed (before other.path) := by
      intro other mem
      exact originals other (by simpa using mem)
    have original : target.originalValue = trimmed (before target.path) :=
      originals target (by simp)
    by_cases skip : target.originalValue = target.requestedValue
    · -- nothing to write
      have skipped : Reached before files changed (records ++ [target]) := by
        refine ⟨reached.differs, reached.unchanged, reached.written, fun path mem => ?_⟩
        obtain ⟨record, isIn, same⟩ := reached.recorded path mem
        exact ⟨record, by simp [isIn], same⟩
      simp only [applyTargets, Undone, skip, if_true]
      exact ih skipped originals'
    simp only [applyTargets, Undone, skip, if_false, writeTrimmed, writeNoted]
    rcases written : (kernel files.writes.length).write with error | content
    · simp only [Except.error.injEq, exists_eq', forall_const]
      exact reached.refused _
    simp only [readTrimmed, List.length_cons, Nat.add_sub_cancel]
    rcases read : (kernel files.writes.length).read with error | _
    · simp only [Except.error.injEq, exists_eq', forall_const, original]
      exact reached.unread _ content
    simp only [if_true]
    by_cases verified : trimmed content = target.requestedValue
    · have differs : trimmed content ≠ trimmed (before target.path) := by
        rw [verified, ← original]
        exact Ne.symm skip
      simp only [verified, ne_eq, not_true_eq_false, if_false, if_true]
      have next := reached.next (trimmed target.requestedValue) content differs
      exact ih next originals'
    · simp only [verified, ne_eq, not_false_eq_true, if_true, if_false]
      have mismatch := reached.mismatch kernel (trimmed target.requestedValue) content
        (fun record mem => originals record (by
          simp only [List.mem_append, List.mem_cons, List.not_mem_nil, or_false] at mem ⊢
          rcases mem with before | here
          · exact .inl before
          · exact .inr (.inl here)))
      rw [← mismatch, ← rollbackRecords_files family]
      -- the error is the rollback's own or the mismatch, with the same files
      generalize rollbackRecords family kernel _ _ = rolled
      obtain ⟨result, after⟩ := rolled
      cases result with
      | error error => simp only [Except.error.injEq, exists_eq', forall_const]
      | ok _ => simp only [Except.error.injEq, exists_eq', forall_const]

theorem applyChanges_allOrToken_iff (kernel : Kernel) (irqRoot : String)
    (content : String → String) (changes : List (String × String)) :
    AllOrToken irqRoot content (applyChanges family kernel content changes) ↔
      Undone kernel 0 [] [] (collectTargetFiles content changes) := by
  have start : Reached content ⟨content, []⟩ [] [] :=
    ⟨nofun, fun _ _ => rfl, by simp, nofun⟩
  have originals : ∀ target ∈ [] ++ collectTargetFiles content changes,
      target.originalValue = trimmed (content target.path) := by
    intro target mem
    simp only [List.nil_append, collectTargetFiles, List.mem_map] at mem
    obtain ⟨change, -, rfl⟩ := mem
    rfl
  refine Iff.trans ?_ (applyTargets_restored_iff family kernel _ start originals)
  unfold AllOrToken applyChanges
  rcases applied : applyTargets family kernel ⟨content, []⟩ [] (collectTargetFiles content changes)
    with ⟨error | token, files⟩
  · simp only [Except.error.injEq, exists_eq', forall_const, forall_eq']
    constructor
    · rintro (restored | ⟨token, none, -⟩)
      · exact restored
      · cases none
    · exact .inl
  · simp

/-- The IRQ action's one file: a value that was stored must be the original one if it cannot be
read back or is not the requested one. -/
def IrqAffinityAction.Undone (action : IrqAffinityAction) (kernel : Kernel)
    (content : String → String) : Prop :=
  trimmed (trimmed (content action.smpAffinityPath)) ≠ trimmed action.smpAffinity →
    match (kernel 0).write with
    | .refused _ => True
    | .stored stored =>
      ((kernel 0).read = .current →
        normalizeAffinity (trimmed stored) ≠ normalizeAffinity action.smpAffinity) →
        trimmed stored = trimmed (content action.smpAffinityPath)

theorem IrqAffinityAction.allOrToken_iff (action : IrqAffinityAction) (kernel : Kernel)
    (content : String → String) :
    AllOrToken action.irqRoot content (action.apply kernel content) ↔
      action.Undone kernel content := by
  unfold AllOrToken IrqAffinityAction.apply IrqAffinityAction.Undone
  by_cases same : trimmed (trimmed (content action.smpAffinityPath)) = trimmed action.smpAffinity
  · simp [same]
  simp only [same, ne_eq, not_false_eq_true, if_true, forall_const, writeNoted, List.length_nil]
  rcases (kernel 0).write with error | stored
  · simp
  simp only [readTrimmed, List.length_cons, List.length_nil, Nat.zero_add, Nat.sub_self]
  rcases (kernel 0).read with error | _
  · simp
  · simp only [if_true, forall_const]
    by_cases verified : normalizeAffinity (trimmed stored) = normalizeAffinity action.smpAffinity
    · simp [verified]
    · simp [verified]

/-- For every request of the four actions and every way the host answers: a failed apply has
restored every file it wrote, or hands out a token for them, iff the answers let it. -/
theorem apply_allOrToken_iff (kernel : Kernel) (content : String → String) :
    (∀ action : VmKnobAction, AllOrToken "" content (action.apply kernel content) ↔
        Undone kernel 0 [] [] (collectTargetFiles content action.files)) ∧
      (∀ action : GpuPowerAction, AllOrToken "" content (action.apply kernel content) ↔
        Undone kernel 0 [] [] (collectTargetFiles content action.files)) ∧
      (∀ (action : CpuPowerAction) identity,
        AllOrToken "" content (action.apply identity kernel content) ↔
          Undone kernel 0 [] [] (collectTargetFiles content action.files)) ∧
      ∀ action : IrqAffinityAction,
        AllOrToken action.irqRoot content (action.apply kernel content) ↔
        action.Undone kernel content :=
  ⟨fun action => applyChanges_allOrToken_iff vmKnobs kernel "" content action.files,
    fun action => applyChanges_allOrToken_iff gpuPower kernel "" content action.files,
    fun action identity => applyChanges_allOrToken_iff (cpuPower identity) kernel "" content
      action.files,
    fun action => action.allOrToken_iff kernel content⟩

/-- Two CPUs are set to another governor, and the second write is refused. -/
theorem apply_leaves_first_file :
    ¬ ∀ (action : CpuPowerAction) identity (kernel : Kernel) (content : String → String),
      AllOrToken "" content (action.apply identity kernel content) := by
  intro allOrToken
  let action : CpuPowerAction := ⟨"/sys", [0, 1], some "performance", none⟩
  let kernel : Kernel := fun number =>
    if number = 0 then ⟨.stored "performance", .current⟩ else ⟨.refused "I/O error", .current⟩
  have undone := (applyChanges_allOrToken_iff (cpuPower fun _ => none) kernel "" (fun _ =>
      "powersave")
    action.files).mp (allOrToken action (fun _ => none) kernel fun _ => "powersave")
  have files : action.files =
      [("/sys/devices/system/cpu/cpu0/cpufreq/scaling_governor", "performance"),
      ("/sys/devices/system/cpu/cpu1/cpufreq/scaling_governor", "performance")] := by decide +kernel
  have original : trimmed "powersave" = "powersave" := by decide
  have verified : trimmed "performance" = "performance" := by decide
  -- the first file was changed when the second write is refused
  simp [Undone, collectTargetFiles, files, original, verified, kernel] at undone

end Stutter.Sysfs

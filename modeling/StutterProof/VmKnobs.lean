import StutterProof.RestorePaths
import StutterProof.SysfsRestore

/-! # VM knobs and the kernel's file formats

`SysfsApply` has the loops of the VM-knob action against any answers of the host.  Here the host is
the kernel: each knob has a value, a numeric file shows it, and a selector file shows all options
with the active one in brackets and takes a bare option only. -/
namespace Stutter.VmKnobs

open ActiveConfig (trimmed)
open RestorePaths (pathComponents joinPath)
open Sysfs (TargetFile VmKnobAction pathError restoreFailed)

/-! ## The kernel -/

/-- How a knob shows its value. -/
inductive FileFormat where
  | numeric
  | selector (options : List String)
  deriving DecidableEq

/-- The selectors among the knobs. -/
def knobFormat : String → FileFormat
  | "sys/kernel/mm/transparent_hugepage/enabled" => .selector ["always", "madvise", "never"]
  | "sys/kernel/mm/transparent_hugepage/defrag" =>
    .selector ["always", "defer", "defer+madvise", "madvise", "never"]
  | _ => .numeric

/-- What the file of a knob shows. -/
def FileFormat.show (value : String) : FileFormat → String
  | .numeric => value ++ "\n"
  | .selector options =>
    " ".intercalate (options.map fun option =>
      if option = value then "[" ++ option ++ "]" else option) ++ "\n"

/-- The values a knob can have. -/
def FileFormat.Legal (value : String) : FileFormat → Prop
  | .numeric => trimmed value = value
  | .selector options => value ∈ options

instance (value : String) : (format : FileFormat) → Decidable (format.Legal value)
  | .numeric => inferInstanceAs (Decidable (trimmed value = value))
  | .selector options => inferInstanceAs (Decidable (value ∈ options))

/-- What a write makes of a text. -/
def FileFormat.accept (text : String) : FileFormat → Except String String
  | .numeric => .ok text
  | .selector options =>
    if text ∈ options then .ok text else .error "Invalid argument (os error 22)"

/-- The values of the knobs, by their paths under the root. -/
abbrev Knobs := String → String

/-- The rest of the host: which knobs have a file, and which cannot be opened for writing. -/
structure Access where
  isFile : String → Bool
  openError : String → Option String

def readTrimmed (knobs : Knobs) (knob : String) : String :=
  trimmed ((knobFormat knob).show (knobs knob))

/-- `write_trimmed`. -/
def writeTrimmed (knobs : Knobs) (path knob value : String) : Except AnyError Unit × Knobs :=
  match (knobFormat knob).accept (trimmed value) with
  | .error error =>
    (.error (pathError ("failed to write " ++ ActiveConfig.debugText (trimmed value) ++ " to " ++
      path) error), knobs)
  | .ok stored => (.ok (), Function.update knobs knob stored)

/-! ## The request -/

inductive VmKnobMode where
  | suggestOnly | manualApply
  deriving DecidableEq

/-- What the configuration allows. -/
structure VmKnobPolicy where
  allowVmKnobChanges : Bool
  mode : VmKnobMode
  allowedPaths : List String
  requireLatencyCliffEvidence : Bool
  latencyCliffEvidence : Bool

def policyDenied (requirement : String) : AnyError :=
  SysfsRestore.policyDenied "vm_knobs" requirement

def invalidValue (field reason : String) : AnyError :=
  SysfsRestore.invalidValue "vm_knobs" field reason

def invalidRequest (reason : String) : AnyError := SysfsRestore.invalidRequest "vm_knobs" reason

def unsupportedValue (field value : String) : AnyError :=
  SysfsRestore.unsupportedValue "vm_knobs" field value

def validatePolicyAndRequest (action : VmKnobAction) (policy : VmKnobPolicy) :
    Except AnyError Unit :=
  if !policy.allowVmKnobChanges then .error (policyDenied "allow_vm_knob_changes")
  else if policy.allowedPaths.isEmpty then .error (policyDenied "allowed_paths_non_empty")
  else if action.changes.isEmpty then
    .error (SysfsRestore.missingExplicitTargets "vm_knobs")
  else if policy.requireLatencyCliffEvidence && !policy.latencyCliffEvidence then
    .error (policyDenied "latency_cliff_evidence")
  else .ok ()

def validateManualApplyPolicy (policy : VmKnobPolicy) : Except AnyError Unit :=
  if policy.mode ≠ .manualApply then
    .error (invalidRequest ("VM knob action is suggest-only; set policy mode to ManualApply for " ++
      "explicit manual writes"))
  else .ok ()

/-- `normalize_relative_knob_path`: the names of the path, joined. -/
def normalizeRelativeKnobPath (path : String) : Except AnyError String :=
  let components := pathComponents path
  if ".." ∈ components then
    .error (invalidValue "path" s!"VM knob path must not contain parent traversal: {path}")
  else
    let names := components.filter fun part => part ≠ "/" ∧ part ≠ "."
    if names = [] then .error (invalidValue "path" "VM knob path must not be empty")
    else .ok ("/".intercalate names)

def supportedKnobs : List String :=
  ["sys/kernel/mm/transparent_hugepage/enabled", "sys/kernel/mm/transparent_hugepage/defrag",
    "sys/kernel/mm/transparent_hugepage/khugepaged/defrag", "proc/sys/vm/compaction_proactiveness",
    "proc/sys/vm/swappiness", "proc/sys/vm/dirty_background_ratio", "proc/sys/vm/dirty_ratio",
    "proc/sys/vm/zone_reclaim_mode"]

def validateSupportedReversibleKnob (knob : String) : Except AnyError Unit :=
  if knob ∈ supportedKnobs then .ok ()
  else if knob = "proc/sys/vm/compact_memory" then
    .error (invalidRequest
      ("/proc/sys/vm/compact_memory is a write-only trigger and is not reversible; " ++
      "keep it suggest-only outside VmKnobAction"))
  else .error (unsupportedValue "path" knob)

/-! ## Values -/

def isPlainChar (c : Char) : Bool := c.isAlphanum || c = '_' || c = '-' || c = '+'

def validatePlainValue (knob value : String) : Except AnyError Unit :=
  SysfsRestore.validateText "vm_knobs" knob "value" isPlainChar value

def validateRange (knob : String) (value min max : Nat) : Except AnyError Unit :=
  if value < min ∨ max < value then
    .error (invalidValue knob s!"value {value} is outside allowed range {min}..={max}")
  else .ok ()

/-- `str::parse::<u32>`, with the note of a failure. -/
def parseUnsigned (knob value : String) : Except AnyError Nat :=
  match ActiveConfig.parseU32 value.toList with
  | some parsed => .ok parsed
  | none =>
    .error (pathError s!"VM knob {knob} requires an unsigned integer value"
      (ActiveConfig.parseIntError 32 value.toList))

def thpValues : String → List String
  | "sys/kernel/mm/transparent_hugepage/enabled" => ["always", "madvise", "never"]
  | "sys/kernel/mm/transparent_hugepage/defrag" =>
    ["always", "defer", "defer+madvise", "madvise", "never"]
  | "sys/kernel/mm/transparent_hugepage/khugepaged/defrag" => ["0", "1"]
  | _ => []

def validateThpValue (knob value : String) : Except AnyError Unit := do
  validatePlainValue knob value
  if value ∉ thpValues knob then throw (unsupportedValue "value" value)

def numericRange : String → Option (Nat × Nat)
  | "proc/sys/vm/compaction_proactiveness" => some (0, 100)
  | "proc/sys/vm/swappiness" => some (0, 200)
  | "proc/sys/vm/dirty_background_ratio" => some (0, 100)
  | "proc/sys/vm/dirty_ratio" => some (1, 100)
  | "proc/sys/vm/zone_reclaim_mode" => some (0, 7)
  | _ => none

def validateNumericVmValue (knob value : String) : Except AnyError Unit := do
  validatePlainValue knob value
  let parsed ← parseUnsigned knob value
  match numericRange knob with
  | some (min, max) => validateRange knob parsed min max
  | none => throw (unsupportedValue "numeric_vm_knob" knob)

def validateKnobValue (knob value : String) : Except AnyError Unit :=
  if "sys/kernel/mm/transparent_hugepage/".toList.isPrefixOf knob.toList then
    validateThpValue knob value
  else validateNumericVmValue knob value

def declaredSafeValues : String → Option (List String)
  | "proc/sys/vm/swappiness" => some ["10"]
  | "proc/sys/vm/dirty_background_ratio" => some ["5"]
  | "proc/sys/vm/dirty_ratio" => some ["10"]
  | _ => none

def validateDeclaredSafeValue (knob value : String) : Except AnyError Unit := do
  if let some values := declaredSafeValues knob then
    if value ∉ values then throw (policyDenied "declared_safe_values")
  if knob = "proc/sys/vm/swappiness" then
    let parsed ← parseUnsigned knob value
    validateRange knob parsed 1 60

/-! ## The target files -/

def ensureWritableFile (access : Access) (path knob : String) : Except AnyError Unit :=
  SysfsRestore.ensureWritableFile "vm_knobs" "VM knob" path (access.isFile knob)
    (access.openError knob)

/-- A knob with the path of its file. -/
structure VmKnobTargetFile extends TargetFile where
  relativePath : String

/-- One turn of `collect_target_files`. -/
def collectTargetFile (root : String) (policy : VmKnobPolicy) (access : Access) (knobs : Knobs)
    (change : String × String) : Except AnyError VmKnobTargetFile := do
  let relativePath ← normalizeRelativeKnobPath change.1
  if relativePath ∉ policy.allowedPaths then throw (policyDenied "allowed_paths_contains_target")
  validateSupportedReversibleKnob relativePath
  validateKnobValue relativePath change.2
  validateDeclaredSafeValue relativePath change.2
  let absolutePath := joinPath root relativePath
  ensureWritableFile access absolutePath relativePath
  return ⟨⟨absolutePath, change.2, readTrimmed knobs relativePath⟩, relativePath⟩

def collectTargetFiles (action : VmKnobAction) (policy : VmKnobPolicy) (access : Access)
    (knobs : Knobs) :
    Except AnyError (List VmKnobTargetFile) := do
  validatePolicyAndRequest action policy
  action.changes.mapM (collectTargetFile action.root policy access knobs)

/-! ## Apply and rollback -/

def restorer : SysfsRestore.Restorer Knobs VmKnobTargetFile where
  actionKind := "vm_knobs"
  label := "VM knob"
  path record := record.path
  originalValue record := record.originalValue
  write knobs record := writeTrimmed knobs record.path record.relativePath record.originalValue
  read knobs record := .ok (readTrimmed knobs record.relativePath)

/-- `rollback_vm_knob_records`. -/
def rollbackVmKnobRecords (knobs : Knobs) (records : List VmKnobTargetFile) :
    Except AnyError Unit × Knobs :=
  restorer.rollbackRecords knobs records

/-- The loop of `apply_with_policy`: the records are those of the token. -/
def applyTargets (knobs : Knobs) (records : List VmKnobTargetFile) :
    List VmKnobTargetFile → Except AnyError (List VmKnobTargetFile) × Knobs
  | [] => (.ok records, knobs)
  | target :: rest =>
    let records := records ++ [target]
    if target.originalValue = target.requestedValue then applyTargets knobs records rest
    else match writeTrimmed knobs target.path target.relativePath target.requestedValue with
      | (.error error, knobs) => (.error (error.context ("failed to write " ++ target.path)), knobs)
      | (.ok (), knobs) =>
        let actual := readTrimmed knobs target.relativePath
        if actual ≠ target.requestedValue then
          match rollbackVmKnobRecords knobs records with
          | (.error error, knobs) => (.error error, knobs)
          | (.ok (), knobs) =>
            (.error (restoreFailed "vm_knobs"
              ("VM knob write verification failed for " ++ target.path ++
                ": requested=" ++ ActiveConfig.debugText target.requestedValue ++
                " actual=" ++ ActiveConfig.debugText actual)), knobs)
        else applyTargets knobs records rest

/-- `apply_with_policy`, with the records of its token. -/
def applyWithPolicy (action : VmKnobAction) (policy : VmKnobPolicy) (access : Access)
    (knobs : Knobs) :
    Except AnyError (List VmKnobTargetFile) × Knobs :=
  match validateManualApplyPolicy policy with
  | .error error => (.error error, knobs)
  | .ok () =>
    match collectTargetFiles action policy access knobs with
    | .error error => (.error error, knobs)
    | .ok targets => applyTargets knobs [] targets

end Stutter.VmKnobs

import Mathlib.Logic.Function.Basic
import StutterProof.SysfsApply

/-! # What the sysfs actions share

The errors of the action boundary, and the loop that writes recorded values back, the last record
first.  The loop is told by what a write makes of the files (`rollbackRecords_ok`), and where each
record holds the value of before, by the files of before (`foldl_restore`). -/
namespace Stutter.SysfsRestore

open Sysfs (pathError restoreFailed)

/-! ## Errors -/

def policyDenied (actionKind requirement : String) : AnyError :=
  .boundary actionKind "action_policy_denied"
    s!"action_policy_denied: {actionKind} denied by policy requirement {requirement}"

def invalidValue (actionKind field reason : String) : AnyError :=
  .boundary actionKind "action_invalid_value"
    s!"action_invalid_value: {actionKind} field {field}: {reason}"

def invalidRequest (actionKind reason : String) : AnyError :=
  .boundary actionKind "action_invalid_request" s!"action_invalid_request: {actionKind}: {reason}"

def unsupportedValue (actionKind field value : String) : AnyError :=
  .boundary actionKind "action_unsupported_value"
    s!"action_unsupported_value: {actionKind} field {field}: {value}"

def missingPath (actionKind path : String) : AnyError :=
  .boundary actionKind "action_missing_path"
    s!"action_missing_path: {actionKind} required path does not exist: {path}"

def missingExplicitTargets (actionKind : String) : AnyError :=
  .boundary actionKind "action_missing_explicit_targets"
    s!"action_missing_explicit_targets: {actionKind} requires at least one explicit target"

/-! ## Checks -/

open ActiveConfig (trimmed)

/-- The check of a text that is written to a file. -/
def validateText (actionKind field subject : String) (isPlainChar : Char → Bool) (value : String) :
    Except AnyError Unit :=
  if (trimmed value).isEmpty then
    .error (invalidValue actionKind field s!"{subject} must not be empty")
  else if trimmed value ≠ value then
    .error (invalidValue actionKind field
      s!"{subject} must not contain leading or trailing whitespace")
  else if 64 < value.utf8ByteSize then
    .error (invalidValue actionKind field s!"{subject} is too long")
  else match value.toList.find? fun c => !isPlainChar c with
    | some c =>
      .error (invalidValue actionKind field
        s!"{subject} contains invalid character {ActiveConfig.debugChar c}")
    | none => .ok ()

/-- `ensure_writable_file`. -/
def ensureWritableFile (actionKind what path : String) (isFile : Bool) (openError : Option String) :
    Except AnyError Unit :=
  if !isFile then .error (missingPath actionKind path)
  else match openError with
    | some error => .error (pathError s!"required {what} file is not writable: {path}" error)
    | none => .ok ()

theorem validateText_ok {actionKind field subject value : String} {isPlainChar : Char → Bool}
    (h : validateText actionKind field subject isPlainChar value = .ok ()) :
    trimmed value = value ∧ ∀ c ∈ value.toList, isPlainChar c = true := by
  rw [validateText] at h
  split at h
  · cases h
  · split at h
    · cases h
    · rename_i htrim
      split at h
      · cases h
      · split at h
        · cases h
        · rename_i hnone
          refine ⟨not_not.mp htrim, fun c hc => ?_⟩
          have hplain := List.find?_eq_none.mp hnone c hc
          simpa using hplain

/-! ## Records -/

/-- The files `σ` of a host, as records `ρ` reach them. -/
structure Restorer (σ ρ : Type) where
  actionKind : String
  label : String
  path : ρ → String
  originalValue : ρ → String
  write : σ → ρ → Except AnyError Unit × σ
  read : σ → ρ → Except AnyError String

namespace Restorer
variable {σ ρ κ β : Type} (restorer : Restorer σ ρ)

/-- The loop of a rollback, over the records as it meets them: what failed, and the files. -/
def restoreRecords (files : σ) : List ρ → List String × σ
  | [] => ([], files)
  | record :: rest =>
    match restorer.write files record with
    | (.error error, files) =>
      let (failures, files) := restoreRecords files rest
      ((restorer.path record ++ " restore write failed: " ++ error.text) :: failures, files)
    | (.ok (), files) =>
      let failed := match restorer.read files record with
        | .ok actual =>
          if actual = restorer.originalValue record then []
          else [restorer.path record ++ " restore verification failed: requested=" ++
            ActiveConfig.debugText (restorer.originalValue record) ++ " actual=" ++
              ActiveConfig.debugText actual]
        | .error error =>
          [restorer.path record ++ " restore verification read failed: " ++ error.text]
      let (failures, files) := restoreRecords files rest
      (failed ++ failures, files)

/-- The last record first. -/
def rollbackRecords (files : σ) (records : List ρ) : Except AnyError Unit × σ :=
  let (failures, files) := restorer.restoreRecords files records.reverse
  if failures.isEmpty then (.ok (), files)
  else (.error (restoreFailed restorer.actionKind
    ("failed to rollback " ++ restorer.label ++ " values: " ++
    String.intercalate "; " failures)), files)

/-- A record is written and reads back, from any files that keep `Inv`. -/
def Writes (Inv : σ → Prop) (put : σ → ρ → σ) (record : ρ) : Prop :=
  ∀ files, Inv files → restorer.write files record = (.ok (), put files record) ∧
    restorer.read (put files record) record = .ok (restorer.originalValue record) ∧
      Inv (put files record)

variable {restorer} {Inv : σ → Prop} {put : σ → ρ → σ} {records : List ρ}

theorem restoreRecords_ok (hwrites : ∀ r ∈ records, restorer.Writes Inv put r) {files : σ}
    (hfiles : Inv files) :
    restorer.restoreRecords files records = ([], records.foldl put files) := by
  induction records generalizing files with
  | nil => rfl
  | cons record rest ih =>
    obtain ⟨hwrite, hread, hnext⟩ := hwrites record List.mem_cons_self files hfiles
    have hrest := ih (fun r hr => hwrites r (List.mem_cons_of_mem record hr)) hnext
    rw [restoreRecords, hwrite, List.foldl_cons]
    dsimp only
    rw [hread, hrest]
    dsimp only
    rw [if_pos rfl, List.nil_append]

theorem rollbackRecords_ok (hwrites : ∀ r ∈ records, restorer.Writes Inv put r) {files : σ}
    (hfiles : Inv files) :
    restorer.rollbackRecords files records = (.ok (), records.reverse.foldl put files) := by
  have hreverse : ∀ r ∈ records.reverse, restorer.Writes Inv put r :=
    fun r hr => hwrites r (List.mem_reverse.mp hr)
  rw [rollbackRecords, restoreRecords_ok hreverse hfiles]
  rfl

end Restorer

/-- Cells that are all given their value of before, where the others still have it. -/
theorem foldl_restore {ρ κ β : Type} [DecidableEq κ] {key : ρ → κ} {prior : κ → β}
    {records : List ρ} {now : κ → β} (h : ∀ k, (∀ r ∈ records, key r ≠ k) → now k = prior k) :
    records.foldl (fun now r => Function.update now (key r) (prior (key r))) now = prior := by
  induction records generalizing now with
  | nil =>
    funext k
    exact h k (by simp)
  | cons record rest ih =>
    rw [List.foldl_cons]
    refine ih fun k hother => ?_
    by_cases hkey : k = key record
    · rw [hkey, Function.update_self]
    · rw [Function.update_of_ne hkey]
      exact h k (List.forall_mem_cons.mpr ⟨Ne.symm hkey, hother⟩)

end Stutter.SysfsRestore

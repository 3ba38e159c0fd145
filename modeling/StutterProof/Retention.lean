import Mathlib.Algebra.GroupWithZero.Nat
import Mathlib.Algebra.Order.Ring.Rat
import Mathlib.Data.List.Sort
import Mathlib.Order.Basic
import Mathlib.Tactic.Common

/-! # Retention of recorded runs

The runs under a root directory are pruned by age, then by count with the newest first, then by
bytes with the oldest first.  Each pass goes once through the runs and removes some that are not
protected; what it asks to remove is written to a ledger, which outlives a removal that fails. -/
namespace Stutter.Retention

variable {Path : Type} [LinearOrder Path]

/-- The limits of the recordings. -/
structure RecordingRetentionPolicy where
  maxRunCount : Option Nat := none
  maxTotalBytes : Option Nat := none
  maxAgeSeconds : Option Nat := none
  minFreeBytes : Option Nat := none

def RecordingRetentionPolicy.hasPruneBudget (policy : RecordingRetentionPolicy) : Bool :=
  policy.maxRunCount.isSome || policy.maxTotalBytes.isSome || policy.maxAgeSeconds.isSome

/-- What a pass left. -/
structure RecordingRetentionSummary where
  scannedRuns : Nat := 0
  deletedRuns : Nat := 0
  deletedBytes : Nat := 0
  remainingRuns : Nat := 0
  remainingBytes : Nat := 0

/-- A run, with its time in nanoseconds since the epoch. -/
structure RetentionRun (Path : Type) where
  path : Path
  modified : Int
  sizeBytes : Nat
  deriving DecidableEq

abbrev Runs (Path : Type) := List (RetentionRun Path)

def totalBytes (runs : Runs Path) : Nat := (runs.map (·.sizeBytes)).sum

def maxU64 : Nat := 18446744073709551615

/-! ## The root directory -/

/-- An entry of the root directory: what `symlink_metadata` and `directory_size_bytes` answer for
it. -/
structure Entry (Path : Type) where
  path : Path
  fileName : Option String
  isDir : Bool
  hasSession : Bool
  hasMetadata : Bool
  modified : Option Int
  size : Except String Nat

/-- A root directory.  Its entries have names of their own, and so have its directories, none of
which is a link, when they are resolved. -/
structure Root (Path : Type) where
  path : Path
  found : Bool
  readDir : Except String (List (Except String (Entry Path)))
  canonicalize : Path → Option Path
  removeDirAll : Path → Except String Unit
  display : Path → String
  entries_distinct : ∀ listing, readDir = .ok listing →
    (listing.filterMap Except.toOption).Pairwise fun a b => a.path ≠ b.path
  canonical_distinct : ∀ listing, readDir = .ok listing → ∀ a ∈ listing.filterMap Except.toOption,
    ∀ b ∈ listing.filterMap Except.toOption, a.isDir = true → b.isDir = true →
      ∀ path, canonicalize a.path = some path → canonicalize b.path = some path → a.path = b.path

/-- `splitn(3, '_')`: the third part keeps its separators. -/
def looksLikeTimestampedRunName (name : String) : Bool :=
  match name.toList.splitOn '_' with
  | seconds :: nanos :: first :: rest =>
    !(['_'].intercalate (first :: rest)).isEmpty && seconds.all Char.isDigit && nanos.length == 9 &&
      nanos.all Char.isDigit
  | _ => false

def looksLikeStutterRunDir (entry : Entry Path) : Bool :=
  if entry.hasSession || entry.hasMetadata then true
  else entry.fileName.any looksLikeTimestampedRunName

def discoverEntries : List (Except String (Entry Path)) → Except String (Runs Path)
  | [] => .ok []
  | .error error :: _ => .error error
  | .ok entry :: rest =>
    if !entry.isDir || !looksLikeStutterRunDir entry then discoverEntries rest
    else
      match entry.size with
      | .error error => .error error
      | .ok size => (discoverEntries rest).map (⟨entry.path, entry.modified.getD 0, size⟩ :: ·)

namespace Root

variable (root : Root Path)

def discoverRetentionRuns : Except String (Runs Path) :=
  match root.readDir with
  | .error _ => .error s!"failed to scan recording run directory {root.display root.path}"
  | .ok listing => discoverEntries listing

def deleteRun (run : RetentionRun Path) : Except String Unit :=
  (root.removeDirAll run.path).mapError fun _ =>
    s!"failed to delete old recording run {root.display run.path}"

def pathIsProtected (path : Path) (protectedPath : Option Path) : Bool :=
  match protectedPath with
  | none => false
  | some protectedPath => (root.canonicalize path).any (· == protectedPath)

end Root

/-! ## Passes -/

def newestFirst (a b : RetentionRun Path) : Bool :=
  b.modified < a.modified || (a.modified = b.modified && a.path ≤ b.path)

def oldestFirst (a b : RetentionRun Path) : Bool :=
  a.modified < b.modified || (a.modified = b.modified && a.path ≤ b.path)

def sortNewestFirst (runs : Runs Path) : Runs Path := runs.mergeSort newestFirst
def sortOldestFirst (runs : Runs Path) : Runs Path := runs.mergeSort oldestFirst

/-- What a call has asked to remove, and its counters. -/
structure Ledger (Path : Type) where
  attempts : Runs Path := []
  deletedRuns : Nat := 0
  deletedBytes : Nat := 0

def Ledger.attempt (ledger : Ledger Path) (run : RetentionRun Path) : Ledger Path :=
  { ledger with attempts := ledger.attempts ++ [run] }

/-- The counters after a removal; `saturating_add`. -/
def Ledger.count (ledger : Ledger Path) (run : RetentionRun Path) : Ledger Path :=
  { ledger with
    deletedRuns := ledger.deletedRuns + 1
    deletedBytes := min maxU64 (ledger.deletedBytes + run.sizeBytes) }

/-- One limit's sweep over the runs. -/
abbrev Pass (Path : Type) := Runs Path → Ledger Path → Ledger Path × Except String (Runs Path)

section Passes

variable (root : Root Path) (protectedPath : Option Path)

/-- One pass, with what it carries from run to run: the condition to remove a run, and the state
after it. -/
def sweep {σ : Type} (condemns : σ → RetentionRun Path → Bool)
    (next : σ → RetentionRun Path → Bool → σ) : σ → Pass Path
  | _, [], ledger => (ledger, .ok [])
  | state, run :: rest, ledger =>
    if condemns state run && !root.pathIsProtected run.path protectedPath then
      match root.deleteRun run with
      | .error error => (ledger.attempt run, .error error)
      | .ok () => sweep condemns next (next state run true) rest ((ledger.attempt run).count run)
    else
      let (ledger, retained) := sweep condemns next (next state run false) rest ledger
      (ledger, retained.map (run :: ·))

/-- `duration_since`, which fails for a later time. -/
def expired (now : Int) (maxAgeSeconds : Nat) (run : RetentionRun Path) : Bool :=
  run.modified ≤ now && (maxAgeSeconds : Int) * 1000000000 < now - run.modified

def agePass (now : Int) (maxAgeSeconds : Nat) : Pass Path :=
  sweep root protectedPath (fun _ run => expired now maxAgeSeconds run) (fun state _ _ => state) ()

def countPass (maxRunCount : Nat) : Pass Path :=
  sweep root protectedPath (fun index _ => decide (maxRunCount ≤ index))
    (fun index _ _ => index + 1) 0

/-- `saturating_sub`. -/
def totalAfter (total : Nat) (run : RetentionRun Path) (deleted : Bool) : Nat :=
  if deleted then total - run.sizeBytes else total

def sweepBytes (maxTotalBytes : Nat) : Nat → Pass Path :=
  sweep root protectedPath (fun total _ => decide (maxTotalBytes < total)) totalAfter

/-- The sum of a `u64` wraps. -/
def bytesPass (maxTotalBytes : Nat) : Pass Path := fun runs ledger =>
  sweepBytes root protectedPath maxTotalBytes (totalBytes runs % (maxU64 + 1))
    (sortOldestFirst runs) ledger

/-- A pass that its limit asks for. -/
def Pass.ifSome (limit : Option Nat) (pass : Nat → Pass Path) : Pass Path :=
  match limit with
  | none => fun runs ledger => (ledger, .ok runs)
  | some limit => pass limit

def Pass.andThen (first second : Pass Path) : Pass Path := fun runs ledger =>
  match first runs ledger with
  | (ledger, .error error) => (ledger, .error error)
  | (ledger, .ok runs) => second runs ledger

def prune (policy : RecordingRetentionPolicy) (now : Int) : Pass Path :=
  (Pass.ifSome policy.maxAgeSeconds (agePass root protectedPath now)).andThen
    (Pass.andThen (fun runs ledger => (ledger, .ok (sortNewestFirst runs)))
      ((Pass.ifSome policy.maxRunCount (countPass root protectedPath)).andThen
        (Pass.ifSome policy.maxTotalBytes (bytesPass root protectedPath))))

end Passes

/-- The ledger of a call, and what it returns. -/
def applyRecordingRetention (root : Root Path) (policy : RecordingRetentionPolicy)
    (protectedPath : Option Path) (now : Int) :
    Ledger Path × Except String RecordingRetentionSummary :=
  if !policy.hasPruneBudget || !root.found then ({}, .ok {})
  else
    match root.discoverRetentionRuns with
    | .error error => ({}, .error error)
    | .ok runs =>
      match prune root (protectedPath.bind root.canonicalize) policy now runs {} with
      | (ledger, .error error) => (ledger, .error error)
      | (ledger, .ok remaining) =>
        (ledger, .ok ⟨runs.length, ledger.deletedRuns, ledger.deletedBytes, remaining.length,
          totalBytes remaining % (maxU64 + 1)⟩)

end Stutter.Retention

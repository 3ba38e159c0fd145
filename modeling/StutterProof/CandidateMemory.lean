import StutterProof.Candidate
import StutterProof.DurableStore

/-! # Candidate memory

What was tried, for which action, in which workload context, and when.  The memory is
kept beside the controller journal and read back at the next start, so that a restart
does not retry a losing candidate at once.  It is advisory: an unreadable file starts
empty, a record whose context hash collides is set aside as degraded, and no more than
512 records are kept.

`Retains` is what spacing rests on: the memory still holds a usable record of an
action that is no older than a given time. -/
namespace Stutter

/-- How a try ended. -/
inductive CandidateMemoryResult where
  | tried | kept | reverted | faulted | inconclusive | rejected
  deriving DecidableEq

/-- A try of a candidate in a context. -/
structure CandidateMemoryRecord where
  actionId : ActionId
  candidateName : String
  lastTriedUnixNanos : Nat
  result : CandidateMemoryResult
  contextHash : String
  identitySummary : Option String
  degradedReason : Option String
  scoreDelta : Int
  rollbackReason : Option String
  cooldownExpiresUnixNanos : Option Nat

def CandidateMemoryRecord.isDegraded (r : CandidateMemoryRecord) : Bool := r.degradedReason.isSome

structure CandidateMemory where
  records : List CandidateMemoryRecord

def CandidateMemory.empty : CandidateMemory := ⟨[]⟩

/-- A result to record. -/
structure CandidateResultRecordInput where
  candidate : CandidateAction
  context : MemoryContext
  nowUnixNanos : Nat
  result : CandidateMemoryResult
  diagnosticBaselineRawScoreTotal : Option Nat
  diagnosticCurrentRawScoreTotal : Option Nat
  rollbackReason : Option String
  cooldownExpiresUnixNanos : Option Nat

/-- The text without the white space around it; nothing if nothing is left. -/
def normalizeOwnedReason (reason : Option String) : Option String :=
  reason.bind fun text =>
    let trimmed := ((text.toList.dropWhile isTrimmed).reverse.dropWhile isTrimmed).reverse
    if trimmed.isEmpty then none else some (String.ofList trimmed)

/-- The difference of two `u64` totals, clamped to an `i64`. -/
def diagnosticRawScoreDelta (baseline current : Option Nat) : Int :=
  match baseline, current with
  | some baseline, some current =>
    max (-(2 ^ 63 : Int)) (min ((current : Int) - baseline) (2 ^ 63 - 1))
  | _, _ => 0

namespace CandidateResultRecordInput

/-- The record `record_result` stores. -/
def record (input : CandidateResultRecordInput) : CandidateMemoryRecord :=
  ⟨input.candidate.actionId, input.candidate.candidateName, input.nowUnixNanos, input.result,
    input.context.contextKey, some input.context.identitySummary, none,
    diagnosticRawScoreDelta input.diagnosticBaselineRawScoreTotal
      input.diagnosticCurrentRawScoreTotal,
    normalizeOwnedReason input.rollbackReason, input.cooldownExpiresUnixNanos⟩

end CandidateResultRecordInput

namespace CandidateMemory

def maxRecords : Nat := 512

/-- The records with this one in the place of the first of the same action and
context, or at the end. -/
def store (record : CandidateMemoryRecord) : List CandidateMemoryRecord → List CandidateMemoryRecord
  | [] => [record]
  | r :: rest =>
    if r.actionId = record.actionId ∧ r.contextHash = record.contextHash then record :: rest
    else r :: store record rest

/-- `enforce_bounds`: the newest records, by a stable sort, once there are too many. -/
def enforceBounds (records : List CandidateMemoryRecord) : List CandidateMemoryRecord :=
  if maxRecords < records.length then
    (records.mergeSort fun a b => decide (b.lastTriedUnixNanos ≤ a.lastTriedUnixNanos)).take
      maxRecords
  else records

/-- `record_result`. -/
def recordResult (m : CandidateMemory) (input : CandidateResultRecordInput) : CandidateMemory :=
  ⟨enforceBounds (store input.record m.records)⟩

/-- The later of two records; a tie goes to the second (`max_by_key`). -/
def newer (best : Option CandidateMemoryRecord) (r : CandidateMemoryRecord) :
    Option CandidateMemoryRecord :=
  match best with
  | none => some r
  | some b => if b.lastTriedUnixNanos ≤ r.lastTriedUnixNanos then some r else some b

/-- `last_for_action`: whatever the context, degraded records left out. -/
def lastForAction (m : CandidateMemory) (actionId : ActionId) : Option CandidateMemoryRecord :=
  (m.records.filter fun r => r.actionId = actionId && !r.isDegraded).foldl newer none

/-- Time left, as a `Duration` of at most `u64::MAX` nanoseconds. -/
def durationFromRemainingNanos (remaining : Nat) : Nat := min remaining u64Max

/-- `cooldown_remaining_for_action`. -/
def cooldownRemainingForAction (m : CandidateMemory) (actionId : ActionId) (now : Nat) :
    Option Nat := do
  let record ← m.lastForAction actionId
  let expires ← record.cooldownExpiresUnixNanos
  if expires ≤ now then none else some (durationFromRemainingNanos (expires - now))

/-! ## Saving and loading -/

/-- Two records of one context hash that disagree on what the context was. -/
def contextCollides (records : List CandidateMemoryRecord) (contextHash : String) : Bool :=
  match records.findSome? fun r => if r.contextHash = contextHash then r.identitySummary
  else none with
  | none => false
  | some first => records.any fun r =>
    r.contextHash = contextHash && r.identitySummary.any fun summary => summary ≠ first

/-- `mark_loaded_identity_collisions`. -/
def markLoadedIdentityCollisions (m : CandidateMemory) : CandidateMemory :=
  ⟨m.records.map fun r =>
    let reason := s!"candidate memory identity collision for context_hash {r.contextHash}"
    if contextCollides m.records r.contextHash then { r with degradedReason := some reason } else r⟩

/-- Every record names an action. -/
def identityStringsValid (m : CandidateMemory) : Bool :=
  m.records.all fun r => (validateNonEmpty "ActionId" r.actionId).isOk

/-- `CandidateMemory::load`: a missing, unreadable or invalid file starts empty. -/
def load (file : StoreFile CandidateMemory) : CandidateMemory :=
  match file with
  | .missing | .corrupt => empty
  | .content m => if m.identityStringsValid then m.markLoadedIdentityCollisions else empty

/-! ## What the memory retains -/

/-- A usable record of the action, no older than `since`. -/
def Retains (m : CandidateMemory) (actionId : ActionId) (since : Nat) : Prop :=
  ∃ r ∈ m.records, r.actionId = actionId ∧ r.isDegraded = false ∧ since ≤ r.lastTriedUnixNanos

theorem newer_ge (best : Option CandidateMemoryRecord) (r : CandidateMemoryRecord) :
    ∃ b, newer best r = some b ∧ r.lastTriedUnixNanos ≤ b.lastTriedUnixNanos ∧
      ∀ a, best = some a → a.lastTriedUnixNanos ≤ b.lastTriedUnixNanos := by
  unfold newer
  cases best with
  | none => exact ⟨r, rfl, Nat.le_refl _, nofun⟩
  | some a =>
    by_cases h : a.lastTriedUnixNanos ≤ r.lastTriedUnixNanos
    · refine ⟨r, if_pos h, Nat.le_refl _, ?_⟩
      intro a' ha'
      cases ha'
      exact h
    · refine ⟨a, if_neg h, by omega, ?_⟩
      intro a' ha'
      cases ha'
      exact Nat.le_refl _

/-- The fold's answer is no older than any record it went over, nor than the one it
started with. -/
theorem foldl_newer_ge (records : List CandidateMemoryRecord)
    (best : Option CandidateMemoryRecord) :
    (∀ a, best = some a → ∃ b, records.foldl newer best = some b ∧
      a.lastTriedUnixNanos ≤ b.lastTriedUnixNanos) ∧
    ∀ r ∈ records, ∃ b, records.foldl newer best = some b ∧
      r.lastTriedUnixNanos ≤ b.lastTriedUnixNanos := by
  induction records generalizing best with
  | nil => exact ⟨fun a ha => ⟨a, ha, Nat.le_refl _⟩, nofun⟩
  | cons r rest ih =>
    obtain ⟨b, hb, hrb, hab⟩ := newer_ge best r
    obtain ⟨hstart, hrest⟩ := ih (newer best r)
    obtain ⟨c, hc, hbc⟩ := hstart b hb
    rw [List.foldl_cons]
    refine ⟨fun a ha => ⟨c, hc, Nat.le_trans (hab a ha) hbc⟩, ?_⟩
    intro x hx
    rcases List.mem_cons.mp hx with rfl | hx
    · exact ⟨c, hc, Nat.le_trans hrb hbc⟩
    · exact hrest x hx

/-- A retained record shows in what the controller looks up. -/
theorem Retains.lastForAction {m : CandidateMemory} {actionId : ActionId} {since : Nat}
    (h : m.Retains actionId since) :
    ∃ r, m.lastForAction actionId = some r ∧ since ≤ r.lastTriedUnixNanos := by
  obtain ⟨r, hr, haction, hdegraded, hsince⟩ := h
  have hmem : r ∈ m.records.filter fun r => r.actionId = actionId && !r.isDegraded := by
    simp [hr, haction, hdegraded]
  obtain ⟨b, hb, hle⟩ := (foldl_newer_ge _ none).2 r hmem
  exact ⟨b, hb, Nat.le_trans hsince hle⟩

end CandidateMemory
end Stutter

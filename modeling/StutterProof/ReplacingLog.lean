import Mathlib.Data.List.Basic
import Mathlib.Data.List.Nodup
import Mathlib.Tactic.Common

/-! # Logs with one entry per key

A `put` takes the earlier entries of its key out of the log and adds its entry at the end; a `drop`
takes the entries of its key out.  What a sequence of changes leaves is what it found, without the
keys it names, and behind it each entry that no later change names, in the order of the changes. -/
namespace ReplacingLog

variable {α κ : Type} [DecidableEq κ] (key : α → κ)

/-- An entry is put or its key dropped. -/
inductive Change (α κ : Type) where
  | put (entry : α)
  | drop (key : κ)

namespace Change

/-- The key that a change names. -/
def named : Change α κ → κ
  | put entry => key entry
  | drop k => k

def entry? : Change α κ → Option α
  | put entry => some entry
  | drop _ => none

end Change

def without (k : κ) (log : List α) : List α := log.filter (key · ≠ k)

def apply (log : List α) : Change α κ → List α
  | .put entry => without key (key entry) log ++ [entry]
  | .drop k => without key k log

def replay (log : List α) (changes : List (Change α κ)) : List α := changes.foldl (apply key) log

/-- No change names this key. -/
def Untouched (changes : List (Change α κ)) (k : κ) : Prop :=
  ∀ change ∈ changes, change.named key ≠ k

instance (changes : List (Change α κ)) (k : κ) : Decidable (Untouched key changes k) :=
  inferInstanceAs (Decidable (∀ change ∈ changes, change.named key ≠ k))

/-- The entries that no later change names. -/
def lasting : List (Change α κ) → List α
  | [] => []
  | .drop _ :: rest => lasting rest
  | .put entry :: rest =>
    if Untouched key rest (key entry) then entry :: lasting rest else lasting rest

variable {key} {log : List α} {changes rest : List (Change α κ)} {change : Change α κ} {entry : α}
    {k : κ}

omit [DecidableEq κ] in
theorem untouched_cons :
    Untouched key (change :: rest) k ↔ change.named key ≠ k ∧ Untouched key rest k := by
  simp [Untouched]

theorem replay_eq (log : List α) (changes : List (Change α κ)) :
    replay key log changes =
      log.filter (fun entry => Untouched key changes (key entry)) ++ lasting key changes := by
  induction changes generalizing log with
  | nil => simp [replay, Untouched, lasting]
  | cons change rest ih =>
    have hfilter : (without key (change.named key) log).filter
        (fun entry => Untouched key rest (key entry)) =
          log.filter fun entry => Untouched key (change :: rest) (key entry) := by
      rw [without, List.filter_filter]
      refine List.filter_congr fun entry _ => ?_
      rw [Bool.eq_iff_iff, Bool.and_eq_true, decide_eq_true_iff, decide_eq_true_iff,
        decide_eq_true_iff, untouched_cons, and_comm, ne_comm]
    show replay key (apply key log change) rest = _
    cases change with
    | drop k =>
      rw [apply, ih, lasting]
      exact congrArg (· ++ _) hfilter
    | put entry =>
      rw [apply, ih, lasting, List.filter_append, List.append_assoc]
      refine congrArg₂ (· ++ ·) hfilter ?_
      by_cases huntouched : Untouched key rest (key entry)
      · rw [if_pos huntouched]
        simp [huntouched]
      · rw [if_neg huntouched]
        simp [huntouched]

/-- An entry lasts if it was put and no later change names its key. -/
theorem mem_lasting : entry ∈ lasting key changes ↔
    ∃ before after, changes = before ++ .put entry :: after ∧ Untouched key after (key entry) := by
  induction changes with
  | nil =>
    refine iff_of_false List.not_mem_nil ?_
    rintro ⟨before, after, h, -⟩
    cases before <;> cases h
  | cons change rest ih =>
    have hlater : (∃ before after, rest = before ++ .put entry :: after ∧
        Untouched key after (key entry)) → ∃ before after,
          change :: rest = before ++ .put entry :: after ∧ Untouched key after (key entry) := by
      rintro ⟨before, after, rfl, huntouched⟩
      exact ⟨change :: before, after, rfl, huntouched⟩
    cases change with
    | drop k =>
      rw [lasting, ih]
      refine ⟨hlater, ?_⟩
      rintro ⟨before, after, h, huntouched⟩
      cases before with
      | nil => cases h
      | cons first before => exact ⟨before, after, (List.cons.inj h).2, huntouched⟩
    | put first =>
      rw [lasting]
      constructor
      · intro hmem
        split at hmem
        · next huntouched =>
          obtain rfl | hmem := List.mem_cons.mp hmem
          · exact ⟨[], rest, rfl, huntouched⟩
          · exact hlater (ih.mp hmem)
        · exact hlater (ih.mp hmem)
      · rintro ⟨before, after, h, huntouched⟩
        cases before with
        | nil =>
          cases h
          rw [if_pos huntouched]
          exact List.mem_cons_self
        | cons other before =>
          have hrest := ih.mpr ⟨before, after, (List.cons.inj h).2, huntouched⟩
          split
          · exact List.mem_cons_of_mem _ hrest
          · exact hrest

/-- What lasts is in the order in which it was put. -/
theorem lasting_sublist (changes : List (Change α κ)) :
    (lasting key changes).Sublist (changes.filterMap Change.entry?) := by
  induction changes with
  | nil => exact List.Sublist.refl _
  | cons change rest ih =>
    cases change with
    | drop k => exact ih
    | put entry =>
      rw [lasting]
      split
      · exact ih.cons_cons entry
      · exact ih.cons entry

theorem untouched_of_mem_lasting (h : Untouched key changes k)
    (hmem : entry ∈ lasting key changes) :
    key entry ≠ k := by
  obtain ⟨before, after, rfl, -⟩ := mem_lasting.mp hmem
  exact h (.put entry) (by simp)

/-- One entry lasts for each key. -/
theorem nodup_lasting (changes : List (Change α κ)) : ((lasting key changes).map key).Nodup := by
  induction changes with
  | nil => exact List.nodup_nil
  | cons change rest ih =>
    cases change with
    | drop k => exact ih
    | put entry =>
      rw [lasting]
      split
      · next huntouched =>
        refine List.nodup_cons.mpr ⟨?_, ih⟩
        intro hmem
        obtain ⟨other, hother, heq⟩ := List.mem_map.mp hmem
        exact untouched_of_mem_lasting huntouched hother heq
      · exact ih

end ReplacingLog

import Mathlib.Algebra.BigOperators.Group.List.Basic
import Mathlib.Data.List.Induction

/-! # Readings of a counter and the deltas made of them

A counter is read now and then, and each reading is recorded with a delta.  Where a delta is what
the counter grew by since the reading before (`Sound`), the deltas of a stretch of readings add up
to what it grew by over the stretch (`Kept.telescopes`); a record without a reading, or a baseline
that was dropped, starts over. -/
namespace CounterReadings

variable {C : Type}

/-- A record with its reading, if the counter could be read, or the baseline being dropped. -/
inductive Entry (C : Type) where
  | recorded (reading : Option C) (delta : C)
  | dropped
  deriving DecidableEq

/-- The reading that the next one is compared with. -/
def base (entries : List (Entry C)) : Option C :=
  entries.getLast?.bind fun entry =>
    match entry with
    | .recorded reading _ => reading
    | .dropped => none

@[simp] theorem base_nil : base ([] : List (Entry C)) = none := rfl

@[simp] theorem base_concat_recorded (entries : List (Entry C)) (reading : Option C) (delta : C) :
    base (entries ++ [.recorded reading delta]) = reading := by
  simp [base]

@[simp] theorem base_concat_dropped (entries : List (Entry C)) :
    base (entries ++ [.dropped]) = none := by
  simp [base]

variable [AddCommMonoid C]

def Entry.delta : Entry C → C
  | .recorded _ delta => delta
  | .dropped => 0

/-- The delta of an entry is what the counter grew by since the baseline, and zero where there is no
baseline or no reading. -/
def Sound : Option C → Entry C → Prop
  | some start, .recorded (some reading) delta => start + delta = reading
  | none, .recorded (some _) delta => delta = 0
  | _, .recorded none delta => delta = 0
  | _, .dropped => True

/-- Every entry is sound after the entries before it. -/
def Kept (entries : List (Entry C)) : Prop :=
  ∀ before entry after, entries = before ++ entry :: after → Sound (base before) entry

theorem kept_nil : Kept ([] : List (Entry C)) := by
  rintro before entry after h
  cases before <;> cases h

theorem Kept.concat {entries : List (Entry C)} (h : Kept entries) {entry : Entry C}
    (hsound : Sound (base entries) entry) : Kept (entries ++ [entry]) := by
  intro before other after heq
  rcases List.eq_nil_or_concat after with rfl | ⟨rest, last, rfl⟩
  · obtain ⟨rfl, hsingle⟩ := List.append_inj' heq rfl
    obtain rfl := List.head_eq_of_cons_eq hsingle
    exact hsound
  · -- the entry is among the earlier ones
    rw [List.concat_eq_append, ← List.cons_append, ← List.append_assoc] at heq
    obtain ⟨rfl, _⟩ := List.append_inj' heq rfl
    exact h before other rest rfl

theorem Kept.front {before after : List (Entry C)} (h : Kept (before ++ after)) : Kept before := by
  rintro front entry rest rfl
  exact h front entry (rest ++ after) (by simp)

/-- The deltas of a stretch of readings, after the one it starts from. -/
theorem Kept.telescopes {before stretch : List (Entry C)} {start delta : C}
    (h : Kept (before ++ .recorded (some start) delta :: stretch))
    (hread : ∀ entry ∈ stretch, ∃ reading delta, entry = .recorded (some reading) delta) :
    base (before ++ .recorded (some start) delta :: stretch) =
      some (start + (stretch.map Entry.delta).sum) := by
  induction stretch using List.reverseRecOn with
  | nil => rw [base_concat_recorded, List.map_nil, List.sum_nil, add_zero]
  | append_singleton stretch entry ih =>
    have hsplit : before ++ .recorded (some start) delta :: (stretch ++ [entry]) =
        (before ++ .recorded (some start) delta :: stretch) ++ [entry] := by simp
    rw [hsplit] at h ⊢
    have hbase := ih h.front fun other hmem => hread other (List.mem_append_left _ hmem)
    obtain ⟨reading, grown, rfl⟩ := hread entry (List.mem_append_right _ List.mem_cons_self)
    have hsound := h _ _ [] rfl
    rw [hbase] at hsound
    have hgrown : start + (stretch.map Entry.delta).sum + grown = reading := hsound
    rw [base_concat_recorded, List.map_append, List.sum_append, ← add_assoc, ← hgrown]
    simp [Entry.delta]

end CounterReadings

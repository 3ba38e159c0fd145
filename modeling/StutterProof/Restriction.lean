import Mathlib.Algebra.GroupWithZero.Nat
import Mathlib.Algebra.Order.Ring.Rat
import Mathlib.Data.List.Basic
import Mathlib.Data.List.Induction

/-! # Reading a restricted list

A list is restricted to the items worth keeping, and later read through finer tests.  Each lemma
says exactly when the reading is the one of the whole list. -/
namespace Restriction

variable {α : Type}

theorem filter_eq_iff (keep test : α → Bool) (items : List α) :
    (items.filter keep).filter test = items.filter test ↔
      ∀ a ∈ items, test a = true → keep a = true := by
  rw [List.filter_filter]
  constructor
  · intro h a ha htest
    have hmem : a ∈ items.filter test := List.mem_filter.mpr ⟨ha, htest⟩
    rw [← h, List.mem_filter, Bool.and_eq_true] at hmem
    exact hmem.2.2
  · intro h
    apply List.filter_congr
    intro a ha
    cases htest : test a with
    | false => rfl
    | true => simp [h a ha htest]

theorem filter_filter_eq_iff (keep load test : α → Bool) (items : List α) :
    ((items.filter keep).filter load).filter test = (items.filter load).filter test ↔
      ∀ a ∈ items, load a = true → test a = true → keep a = true := by
  have hkept : ((items.filter keep).filter load).filter test =
      (items.filter keep).filter fun a => test a && load a := List.filter_filter
  have hall : (items.filter load).filter test = items.filter fun a => test a && load a :=
    List.filter_filter
  rw [hkept, hall, filter_eq_iff]
  constructor
  · intro h a ha hload htest
    exact h a ha (by simp [hload, htest])
  · intro h a ha hboth
    rw [Bool.and_eq_true] at hboth
    exact h a ha hboth.2 hboth.1

/-! ## Groups of matches -/

/-- Nothing if no item is loaded, else the loaded items that pass each of the tests. -/
def matchesOf (load : α → Bool) (tests : List (α → Bool)) (items : List α) :
    Option (List (List α)) :=
  let pool := items.filter load
  if pool.isEmpty then none else some (tests.map fun test => pool.filter test)

theorem isEmpty_filter_iff (load : α → Bool) (items : List α) :
    (items.filter load).isEmpty = true ↔ ¬ ∃ a ∈ items, load a = true := by
  rw [List.isEmpty_iff, List.filter_eq_nil_iff]
  simp

/-- The groups of a restricted list are those of the whole one exactly when some loaded item was
kept, if there is one, and every item that a group takes was kept. -/
theorem matchesOf_eq_iff (keep load : α → Bool) (tests : List (α → Bool)) (items : List α) :
    matchesOf load tests (items.filter keep) = matchesOf load tests items ↔
      ((∃ a ∈ items, load a = true) → ∃ a ∈ items, load a = true ∧ keep a = true) ∧
        ∀ test ∈ tests, ∀ a ∈ items, load a = true → test a = true → keep a = true := by
  have hkept : (∃ a ∈ items.filter keep, load a = true) ↔
      ∃ a ∈ items, load a = true ∧ keep a = true := by
    constructor
    · rintro ⟨a, ha, hload⟩
      obtain ⟨hmem, hkeep⟩ := List.mem_filter.mp ha
      exact ⟨a, hmem, hload, hkeep⟩
    · rintro ⟨a, hmem, hload, hkeep⟩
      exact ⟨a, List.mem_filter.mpr ⟨hmem, hkeep⟩, hload⟩
  unfold matchesOf
  simp only
  by_cases hall : ∃ a ∈ items, load a = true
  · have hpool : ¬ (items.filter load).isEmpty = true :=
      fun h => (isEmpty_filter_iff load items).mp h hall
    rw [if_neg hpool]
    by_cases hsome : ∃ a ∈ items, load a = true ∧ keep a = true
    · have hkeptPool : ¬ ((items.filter keep).filter load).isEmpty = true :=
        fun h => (isEmpty_filter_iff load _).mp h (hkept.mpr hsome)
      rw [if_neg hkeptPool, Option.some.injEq, List.map_inj_left]
      simp only [hall, hsome, forall_const, true_and]
      exact forall₂_congr fun test _ => filter_filter_eq_iff keep load test items
    · have hkeptPool : ((items.filter keep).filter load).isEmpty = true :=
        (isEmpty_filter_iff load _).mpr fun h => hsome (hkept.mp h)
      rw [if_pos hkeptPool]
      exact iff_of_false (by simp) fun h => hsome (h.1 hall)
  · have hpool : (items.filter load).isEmpty = true := (isEmpty_filter_iff load items).mpr hall
    have hkeptPool : ((items.filter keep).filter load).isEmpty = true :=
      (isEmpty_filter_iff load _).mpr fun h => hall (by
        obtain ⟨a, ha, hload, _⟩ := hkept.mp h
        exact ⟨a, ha, hload⟩)
    rw [if_pos hpool, if_pos hkeptPool]
    refine iff_of_true rfl ⟨fun h => absurd h hall, fun test _ a ha hload _ => ?_⟩
    exact absurd ⟨a, ha, hload⟩ hall

/-! ## The last of the highest -/

/-- The last of the items with the highest key, of those that pass the test. -/
def latest (key : α → Nat) (test : α → Bool) (items : List α) : Option α :=
  items.foldl (fun best a =>
    if test a then
      match best with
      | none => some a
      | some b => if key b ≤ key a then some a else some b
    else best) none

section Latest
variable {key : α → Nat} {test : α → Bool}

theorem latest_append (items : List α) (a : α) :
    latest key test (items ++ [a]) =
      if test a then
        match latest key test items with
        | none => some a
        | some b => if key b ≤ key a then some a else some b
      else latest key test items := by
  unfold latest
  rw [List.foldl_append]
  rfl

theorem latest_spec (items : List α) :
    (∀ b, latest key test items = some b → b ∈ items ∧ test b = true ∧
      ∀ a ∈ items, test a = true → key a ≤ key b) ∧
    (latest key test items = none → ∀ a ∈ items, test a = false) := by
  induction items using List.reverseRecOn with
  | nil => simp [latest]
  | append_singleton items a ih =>
    obtain ⟨ihSome, ihNone⟩ := ih
    rw [latest_append]
    cases htest : test a with
    | false =>
      simp only [Bool.false_eq_true, if_false]
      refine ⟨fun b hb => ?_, fun hnone c hc => ?_⟩
      · obtain ⟨hmem, hpass, hmax⟩ := ihSome b hb
        refine ⟨List.mem_append_left _ hmem, hpass, fun c hc hcTest => ?_⟩
        rcases List.mem_append.mp hc with hc | hc
        · exact hmax c hc hcTest
        · rw [List.mem_singleton.mp hc, htest] at hcTest
          cases hcTest
      · rcases List.mem_append.mp hc with hc | hc
        · exact ihNone hnone c hc
        · rw [List.mem_singleton.mp hc, htest]
    | true =>
      simp only [if_true]
      cases hlatest : latest key test items with
      | none =>
        refine ⟨fun b hb => ?_, fun h => by cases h⟩
        cases hb
        refine ⟨by simp, htest, fun c hc hcTest => ?_⟩
        rcases List.mem_append.mp hc with hc | hc
        · rw [ihNone hlatest c hc] at hcTest
          cases hcTest
        · exact Nat.le_of_eq (congrArg key (List.mem_singleton.mp hc))
      | some best =>
        obtain ⟨hmem, hpass, hmax⟩ := ihSome best hlatest
        by_cases hle : key best ≤ key a
        · simp only [hle, if_true]
          refine ⟨fun b hb => ?_, fun h => by cases h⟩
          cases hb
          refine ⟨by simp, htest, fun c hc hcTest => ?_⟩
          rcases List.mem_append.mp hc with hc | hc
          · exact Nat.le_trans (hmax c hc hcTest) hle
          · exact Nat.le_of_eq (congrArg key (List.mem_singleton.mp hc))
        · simp only [hle, if_false]
          refine ⟨fun b hb => ?_, fun h => by cases h⟩
          cases hb
          refine ⟨List.mem_append_left _ hmem, hpass, fun c hc hcTest => ?_⟩
          rcases List.mem_append.mp hc with hc | hc
          · exact hmax c hc hcTest
          · rw [List.mem_singleton.mp hc]
            omega

/-- The latest of a restricted list is the one of the whole list exactly when that was kept. -/
theorem latest_eq_iff (keep : α → Bool) (items : List α) :
    latest key test (items.filter keep) = latest key test items ↔
      ∀ a, latest key test items = some a → keep a = true := by
  constructor
  · intro h a ha
    rw [← h] at ha
    exact (List.mem_filter.mp ((latest_spec _).1 a ha).1).2
  · intro h
    induction items using List.reverseRecOn with
    | nil => rfl
    | append_singleton items a ih =>
      rw [latest_append] at h ⊢
      -- what the last item becomes in the restricted list
      have hfilter : latest key test ((items ++ [a]).filter keep) =
          if keep a then latest key test (items.filter keep ++ [a])
          else latest key test (items.filter keep) := by
        rw [List.filter_append]
        cases hkeep : keep a with
        | false => simp [hkeep]
        | true => simp [hkeep]
      rw [hfilter, latest_append]
      cases htest : test a with
      | false =>
        simp only [htest, Bool.false_eq_true, if_false, ite_self] at h ⊢
        exact ih h
      | true =>
        simp only [htest, if_true] at h ⊢
        cases hlatest : latest key test items with
        | none =>
          simp only [hlatest] at h ⊢
          have hkeep : keep a = true := h a rfl
          have hrest : latest key test (items.filter keep) = none :=
            (ih (by simp [hlatest])).trans hlatest
          simp [hkeep, hrest]
        | some best =>
          simp only [hlatest] at h ⊢
          by_cases hle : key best ≤ key a
          · simp only [hle, if_true] at h ⊢
            have hkeep : keep a = true := h a rfl
            simp only [hkeep, if_true]
            cases hrest : latest key test (items.filter keep) with
            | none => rfl
            | some other =>
              obtain ⟨hmem, hpass, _⟩ := (latest_spec _).1 other hrest
              have hbelow := ((latest_spec items).1 best hlatest).2.2 other
                (List.mem_of_mem_filter hmem) hpass
              simp [Nat.le_trans hbelow hle]
          · simp only [hle, if_false] at h ⊢
            have hrest : latest key test (items.filter keep) = some best :=
              (ih fun b hb => h b (hlatest ▸ hb)).trans hlatest
            simp [hrest, hle]

end Latest

end Restriction

import Mathlib.Algebra.BigOperators.Fin
import Mathlib.Data.List.Count

/-! # Counting in buckets

Values of a linear order are sorted into buckets by increasing upper bounds, with one bucket more
for what is above all of them.  A bound cuts the buckets exactly where it cuts the values, so a
count of values above a bound is a sum over buckets. -/
namespace Buckets

variable {α : Type} [LinearOrder α]

/-- The first bucket whose upper bound is not below the value. -/
def index (bounds : List α) (x : α) : Fin (bounds.length + 1) :=
  ⟨bounds.findIdx (x ≤ ·), Nat.lt_succ_of_le List.findIdx_le_length⟩

/-- A value is in a later bucket iff it is above the bound. -/
theorem lt_index_iff {bounds : List α} (sorted : bounds.Pairwise (· < ·)) {i : Nat}
    (below : i < bounds.length) (x : α) : i < (index bounds x).val ↔ bounds[i] < x := by
  show i < bounds.findIdx (x ≤ ·) ↔ bounds[i] < x
  constructor
  · intro later
    have above := List.not_of_lt_findIdx later
    simpa using above
  · intro above
    apply List.lt_findIdx_of_not below
    intro j le covered
    -- the bounds before are smaller still
    have bound : bounds[j] ≤ bounds[i] := by
      rcases Nat.eq_or_lt_of_le le with rfl | lt
      · exact le_refl _
      · exact le_of_lt (List.pairwise_iff_getElem.mp sorted j i (by omega) below lt)
    have covered : x ≤ bounds[j] := by simpa using covered
    exact absurd (lt_of_lt_of_le above (covered.trans bound)) (lt_irrefl _)

/-- The bound of a bucket before another one is below it. -/
theorem getElem_lt_iff {bounds : List α} (sorted : bounds.Pairwise (· < ·)) {i j : Nat}
    (hi : i < bounds.length) (hj : j < bounds.length) : bounds[i] < bounds[j] ↔ i < j := by
  constructor
  · intro lt
    by_contra le
    rcases Nat.eq_or_lt_of_le (Nat.le_of_not_lt le) with rfl | gt
    · exact lt_irrefl _ lt
    · exact lt_asymm lt (List.pairwise_iff_getElem.mp sorted j i hj hi gt)
  · exact List.pairwise_iff_getElem.mp sorted i j hi hj

/-- The values whose bucket has a property, bucket by bucket. -/
theorem sum_countP {β : Type} {n : Nat} (f : β → Fin n) (p : Fin n → Bool) (values : List β) :
    (∑ i, if p i then values.countP (fun x => f x = i) else 0) = values.countP fun x =>
      p (f x) := by
  induction values with
  | nil => simp
  | cons x values ih =>
    rw [List.countP_cons, ← ih]
    have split : ∀ i, (if p i then (x :: values).countP (fun x => f x = i) else 0)
        = (if p i then values.countP (fun x => f x = i) else 0) + if f x = i then
          (if p i then 1 else 0)
        else 0 := by
      intro i
      rw [List.countP_cons]
      by_cases here : f x = i
      · by_cases counted : p i <;> simp [here, counted]
      · by_cases counted : p i <;> simp [here, counted]
    simp only [split, Finset.sum_add_distrib, Finset.sum_ite_eq, Finset.mem_univ, if_true]

/-- All values. -/
theorem sum_countP_eq_length {β : Type} {n : Nat} (f : β → Fin n) (values : List β) :
    ∑ i, values.countP (fun x => f x = i) = values.length := by
  have all := sum_countP f (fun _ => true) values
  simpa using all

end Buckets

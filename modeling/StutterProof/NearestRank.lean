import Mathlib.Algebra.BigOperators.Fin
import Mathlib.Data.List.Sort
import StutterProof.Buckets
import StutterProof.Quantiles

/-! # Nearest ranks

The value of a rank among values of a linear order: the lowest has rank 1.  It is at most a bound
iff that many values are (`value_le_iff`), which gives its order in the rank, its independence of
the order of the values, and the bucket it is in: the one that the counts of the buckets give for
the rank (`index_value`). -/
namespace NearestRank

section LinearOrders
variable {α : Type} [LinearOrder α] {fallback : α} {values : List α} {rank : Nat}

/-- The value of a rank, or the fallback where there are fewer values. -/
def value (fallback : α) (values : List α) (rank : Nat) : α :=
  (values.insertionSort (· ≤ ·)).getD (rank - 1) fallback

/-- An entry of a sorted list is at most a bound iff more entries than those before it are. -/
theorem getElem_le_iff {sorted : List α} (hsorted : sorted.Pairwise (· ≤ ·)) {i : Nat}
    (hi : i < sorted.length) (bound : α) : sorted[i] ≤ bound ↔ i < sorted.countP (· ≤ bound) := by
  induction sorted generalizing i with
  | nil => exact absurd hi (Nat.not_lt_zero i)
  | cons head rest ih =>
    obtain ⟨hhead, hrest⟩ := List.pairwise_cons.mp hsorted
    by_cases hle : head ≤ bound
    · rw [List.countP_cons_of_pos (by simpa using hle)]
      cases i with
      | zero => exact iff_of_true hle (Nat.succ_pos _)
      | succ i =>
        rw [List.getElem_cons_succ, ih hrest, Nat.add_lt_add_iff_right]
    · have habove : ∀ entry ∈ head :: rest, ¬entry ≤ bound := by
        intro entry hentry hbound
        rcases List.mem_cons.mp hentry with rfl | hentry
        · exact hle hbound
        · exact hle ((hhead entry hentry).trans hbound)
      have hnone : (head :: rest).countP (· ≤ bound) = 0 :=
        List.countP_eq_zero.mpr fun entry hentry => by simpa using habove entry hentry
      rw [hnone]
      exact iff_of_false (habove _ (List.getElem_mem hi)) (Nat.not_lt_zero i)

theorem rank_sub_one_lt (hpos : 0 < rank) (hrank : rank ≤ values.length) :
    rank - 1 < (values.insertionSort (· ≤ ·)).length := by
  rw [List.length_insertionSort]
  omega

theorem value_eq_getElem (h : rank - 1 < (values.insertionSort (· ≤ ·)).length) :
    value fallback values rank = (values.insertionSort (· ≤ ·))[rank - 1] := by
  rw [value, List.getD, List.getElem?_eq_getElem, Option.getD_some]

theorem value_le_iff (hpos : 0 < rank) (hrank : rank ≤ values.length) (bound : α) :
    value fallback values rank ≤ bound ↔ rank ≤ values.countP (· ≤ bound) := by
  rw [value_eq_getElem (rank_sub_one_lt hpos hrank),
    getElem_le_iff (List.pairwise_insertionSort (· ≤ ·) values),
    (List.perm_insertionSort (· ≤ ·) values).countP_eq]
  omega

theorem value_mem (hpos : 0 < rank) (hrank : rank ≤ values.length) :
    value fallback values rank ∈ values := by
  rw [value_eq_getElem (rank_sub_one_lt hpos hrank)]
  exact (List.perm_insertionSort (· ≤ ·) values).mem_iff.mp (List.getElem_mem _)

/-- A higher rank has no lower value. -/
theorem value_mono {rank' : Nat} (hpos : 0 < rank) (hle : rank ≤ rank')
    (hrank : rank' ≤ values.length) :
    value fallback values rank ≤ value fallback values rank' := by
  rw [value_le_iff hpos (hle.trans hrank)]
  exact hle.trans ((value_le_iff (hpos.trans_le hle) hrank _).mp le_rfl)

/-! ## Buckets -/

open Buckets

/-- How many values each bucket has. -/
def bucketCounts (bounds values : List α) : List Nat :=
  List.ofFn fun i : Fin (bounds.length + 1) => values.countP fun x => index bounds x = i

@[simp] theorem length_bucketCounts (bounds values : List α) :
    (bucketCounts bounds values).length = bounds.length + 1 := List.length_ofFn

/-- The buckets up to one hold the values up to its bound. -/
theorem sum_take_bucketCounts {bounds : List α} (hsorted : bounds.Pairwise (· < ·))
    (values : List α) {n : Nat} (hn : n < bounds.length) :
    ((bucketCounts bounds values).take (n + 1)).sum = values.countP (· ≤ bounds[n]) := by
  have hcount := sum_countP (index bounds) (fun i => decide (i.val < n + 1)) values
  rw [bucketCounts, List.sum_take_ofFn, Finset.sum_filter]
  simp only [decide_eq_true_eq] at hcount
  rw [hcount]
  refine List.countP_congr fun x _ => ?_
  have hindex := lt_index_iff hsorted hn x
  rw [decide_eq_true_iff, decide_eq_true_iff, Nat.lt_succ_iff, ← not_lt, ← not_lt, hindex]

theorem sum_bucketCounts (bounds values : List α) :
    (bucketCounts bounds values).sum = values.length := by
  rw [bucketCounts, List.sum_ofFn]
  exact sum_countP_eq_length (index bounds) values

/-- The bucket of the value of a rank. -/
theorem index_value {bounds : List α} (hsorted : bounds.Pairwise (· < ·)) (hpos : 0 < rank)
    (hrank : rank ≤ values.length) :
    (index bounds (value fallback values rank)).val =
      Quantiles.rankIndex rank (bucketCounts bounds values) := by
  have hbelow : ∀ n < bounds.length, n < (index bounds (value fallback values rank)).val ↔
      n < Quantiles.rankIndex rank (bucketCounts bounds values) := by
    intro n hn
    rw [lt_index_iff hsorted hn,
      Quantiles.lt_rankIndex_iff (by simpa using Nat.lt_succ_of_lt hn),
      sum_take_bucketCounts hsorted values hn, ← not_le, value_le_iff hpos hrank, not_le]
  have hlast : Quantiles.rankIndex rank (bucketCounts bounds values) ≤ bounds.length := by
    have hall : bounds.length < Quantiles.rankIndex rank (bucketCounts bounds values) ↔
        ((bucketCounts bounds values).take (bounds.length + 1)).sum < rank :=
      Quantiles.lt_rankIndex_iff (by simp)
    rw [List.take_of_length_le (by simp), sum_bucketCounts] at hall
    omega
  have hindex := (index bounds (value fallback values rank)).isLt
  rcases lt_trichotomy (index bounds (value fallback values rank)).val
    (Quantiles.rankIndex rank (bucketCounts bounds values)) with hlt | heq | hgt
  · exact absurd ((hbelow _ (by omega)).mpr hlt) (lt_irrefl _)
  · exact heq
  · exact absurd ((hbelow _ (by omega)).mp hgt) (lt_irrefl _)

end LinearOrders

end NearestRank

import Mathlib.Algebra.GroupWithZero.Nat
import Mathlib.Algebra.Order.Ring.Rat
import Mathlib.Data.List.Basic
import Mathlib.Logic.Relation
import Mathlib.Tactic.Common

/-! # Quantiles of counted values

A list of counts stands for values that are sorted into buckets, the lowest bucket first.
`rankIndex rank counts` is the bucket of the `rank`-th lowest value.  A move takes values from one
bucket to a higher one.  After moves the counts dominate those before: each bucket and all below it
hold no more values, so no quantile is in a lower bucket and no upper part holds fewer values. -/
namespace Quantiles

def rankIndex : Nat → List Nat → Nat
  | _, [] => 0
  | rank, count :: rest => if rank ≤ count then 0 else rankIndex (rank - count) rest + 1

/-- `k` values more in one bucket. -/
inductive Added (k : Nat) : List Nat → List Nat → Prop
  | here (count : Nat) (rest : List Nat) : Added k (count :: rest) ((count + k) :: rest)
  | above (count : Nat) {rest rest' : List Nat} (h : Added k rest rest') :
      Added k (count :: rest) (count :: rest')

/-- Some values of one bucket are in a higher one. -/
inductive Moved : List Nat → List Nat → Prop
  | here (count k : Nat) {rest rest' : List Nat} (h : Added k rest rest') :
      Moved ((count + k) :: rest) (count :: rest')
  | above (count : Nat) {rest rest' : List Nat} (h : Moved rest rest') :
      Moved (count :: rest) (count :: rest')

/-- `counts'` has no more of the small ones. -/
structure Dominates (counts counts' : List Nat) : Prop where
  length : counts'.length = counts.length
  total : counts'.sum = counts.sum
  below : ∀ n, (counts'.take n).sum ≤ (counts.take n).sum

variable {counts counts' counts'' : List Nat} {k n rank : Nat}

theorem Added.length (h : Added k counts counts') : counts'.length = counts.length := by
  induction h with
  | here => rfl
  | above _ _ ih => rw [List.length_cons, List.length_cons, ih]

theorem Added.total (h : Added k counts counts') : counts'.sum = counts.sum + k := by
  induction h with
  | here count rest =>
    rw [List.sum_cons, List.sum_cons]
    omega
  | above count _ ih => rw [List.sum_cons, List.sum_cons, ih, Nat.add_assoc]

theorem Added.take_le (h : Added k counts counts') (n : Nat) :
    (counts'.take n).sum ≤ (counts.take n).sum + k := by
  induction h generalizing n with
  | here count rest =>
    cases n with
    | zero => exact Nat.zero_le _
    | succ n =>
      rw [List.take_succ_cons, List.take_succ_cons, List.sum_cons, List.sum_cons]
      omega
  | above count _ ih =>
    cases n with
    | zero => exact Nat.zero_le _
    | succ n =>
      have hrest := ih n
      rw [List.take_succ_cons, List.take_succ_cons, List.sum_cons, List.sum_cons]
      omega

theorem Moved.dominates (h : Moved counts counts') : Dominates counts counts' := by
  induction h with
  | here count k h =>
    refine ⟨by rw [List.length_cons, List.length_cons, h.length], ?_, fun n => ?_⟩
    · rw [List.sum_cons, List.sum_cons, h.total]
      omega
    · cases n with
      | zero => exact Nat.le_refl _
      | succ n =>
        have hrest := h.take_le n
        rw [List.take_succ_cons, List.take_succ_cons, List.sum_cons, List.sum_cons]
        omega
  | above count _ ih =>
    refine ⟨by rw [List.length_cons, List.length_cons, ih.length], ?_, fun n => ?_⟩
    · rw [List.sum_cons, List.sum_cons, ih.total]
    · cases n with
      | zero => exact Nat.le_refl _
      | succ n => exact Nat.add_le_add_left (ih.below n) count

theorem Dominates.refl (counts : List Nat) : Dominates counts counts :=
  ⟨rfl, rfl, fun _ => Nat.le_refl _⟩

theorem Dominates.trans (h : Dominates counts counts') (h' : Dominates counts' counts'') :
    Dominates counts counts'' :=
  ⟨h'.length.trans h.length, h'.total.trans h.total, fun n => Nat.le_trans (h'.below n) (h.below n)⟩

theorem lt_rankIndex_iff (hn : n < counts.length) :
    n < rankIndex rank counts ↔ (counts.take (n + 1)).sum < rank := by
  induction counts generalizing n rank with
  | nil => exact absurd hn (Nat.not_lt_zero n)
  | cons count rest ih =>
    rw [rankIndex, List.take_succ_cons, List.sum_cons]
    by_cases hrank : rank ≤ count
    · rw [if_pos hrank]
      exact iff_of_false (Nat.not_lt_zero n) (by omega)
    · rw [if_neg hrank]
      cases n with
      | zero =>
        rw [List.take_zero, List.sum_nil]
        omega
      | succ n =>
        rw [Nat.add_lt_add_iff_right, ih (Nat.lt_of_succ_lt_succ hn)]
        omega

theorem rankIndex_le_length (rank : Nat) (counts : List Nat) :
    rankIndex rank counts ≤ counts.length := by
  induction counts generalizing rank with
  | nil => exact Nat.le_refl 0
  | cons count rest ih =>
    rw [rankIndex]
    split
    · exact Nat.zero_le _
    · exact Nat.succ_le_succ (ih _)

theorem Dominates.rankIndex_le (h : Dominates counts counts') (rank : Nat) :
    rankIndex rank counts ≤ rankIndex rank counts' := by
  by_contra hless
  have hlength := rankIndex_le_length rank counts
  have hn : rankIndex rank counts' < counts.length := by omega
  have hbefore : (counts.take (rankIndex rank counts' + 1)).sum < rank :=
    (lt_rankIndex_iff hn).mp (by omega)
  have hafter : (counts'.take (rankIndex rank counts' + 1)).sum < rank :=
    Nat.lt_of_le_of_lt (h.below _) hbefore
  exact absurd ((lt_rankIndex_iff (by rwa [h.length])).mpr hafter) (Nat.lt_irrefl _)

theorem sum_take_add_sum_drop (counts : List Nat) (n : Nat) :
    (counts.take n).sum + (counts.drop n).sum = counts.sum := by
  rw [← List.sum_append, List.take_append_drop]

theorem Dominates.drop_le (h : Dominates counts counts') (n : Nat) :
    (counts.drop n).sum ≤ (counts'.drop n).sum := by
  have hcounts := sum_take_add_sum_drop counts n
  have hcounts' := sum_take_add_sum_drop counts' n
  have hbelow := h.below n
  have htotal := h.total
  omega

end Quantiles

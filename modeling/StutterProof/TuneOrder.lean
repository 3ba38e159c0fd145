import Mathlib.Data.List.Rotate
import StutterProof.BlockCount
import StutterProof.TuneRecommendation

/-! # The order of the profiles

A tuning run measures every profile once in each iteration, and the order changes from one iteration
to the next so that no profile has an advantage from its place.  The alternating order turns the
list by one place an iteration and runs every second block of iterations backwards; whatever the
number of profiles, a block brings every profile to every place once.  The warnings about an
unbalanced order come from a separate count of the recorded orders. -/
namespace Stutter.Tune

/-! ## The orders -/

/-- `TuneOrderStrategy`. -/
inductive TuneOrderStrategy where
  | alternating
  | fixed
  | seed (seed : UInt64)

/-- `candidate_order_for_iteration`; the iterations are counted from 1. -/
def candidateOrderForIteration (profileCount iteration : Nat) : List Nat :=
  let order := List.range profileCount
  if profileCount ≤ 1 then order
  else if profileCount = 2 then
    if iteration % 2 = 0 then order.reverse else order
  else
    let zeroBased := iteration - 1
    let rotation := zeroBased % profileCount
    let reverseBlock := zeroBased / profileCount % 2 = 1
    (if reverseBlock then order.reverse else order).rotate rotation

/-- `splitmix64`: the word and the state after it. -/
def splitmix64 (state : UInt64) : UInt64 × UInt64 :=
  let state := state + 0x9e3779b97f4a7c15
  let z := state
  let z := (z ^^^ (z >>> 30)) * 0xbf58476d1ce4e5b9
  let z := (z ^^^ (z >>> 27)) * 0x94d049bb133111eb
  (z ^^^ (z >>> 31), state)

theorem drawn_lt {n i : Nat} (word : UInt64) (hi : i < n) : word.toNat % (i + 1) < n :=
  (Nat.lt_succ_iff.mp (Nat.mod_lt _ (Nat.succ_pos i))).trans_lt hi

/-- The loop of `seeded_order`, from the place `i` down to the second, drawing words from a
generator. -/
def shuffleDown (draw : UInt64 → UInt64 × UInt64) {n : Nat} :
    (i : Nat) → i < n → Vector Nat n → UInt64 → Vector Nat n
  | 0, _, order, _ => order
  | i + 1, hi, order, state =>
    let (word, state) := draw state
    let r := word.toNat % (i + 1 + 1)
    shuffleDown draw i (Nat.lt_of_succ_lt hi) (order.swap (i + 1) r hi (drawn_lt word hi)) state

/-- `seeded_order`. -/
def seededOrder (profileCount iteration : Nat) (seed : UInt64) : List Nat :=
  let order := Vector.range profileCount
  if h : profileCount ≤ 1 then order.toList
  else
    let state := seed + UInt64.ofNat iteration
    (shuffleDown splitmix64 (profileCount - 1) (by omega) order state).toList

/-- `candidate_order_for_iteration_with_strategy`. -/
def candidateOrderForIterationWithStrategy (profileCount iteration : Nat) :
    TuneOrderStrategy → List Nat
  | .alternating => candidateOrderForIteration profileCount iteration
  | .fixed => List.range profileCount
  | .seed seed => seededOrder profileCount iteration seed

/-- `TuneIterationOrder`. -/
structure TuneIterationOrder where
  iteration : Nat
  profiles : List String

/-- `1..=runs`. -/
def iterations (runs : Nat) : List Nat := List.range' 1 runs

/-- `tune_candidate_order`, of the names of the profiles; `none` where it would index past them. -/
def tuneCandidateOrder (profiles : List String) (runs : Nat) (strategy : TuneOrderStrategy) :
    Option (List TuneIterationOrder) :=
  (iterations runs).mapM fun iteration => do
    let order := candidateOrderForIterationWithStrategy profiles.length iteration strategy
    let names ← order.mapM fun profileIdx => profiles[profileIdx]?
    some ⟨iteration, names⟩

variable (n iteration : Nat)

/-! ## Every order is a permutation -/

theorem candidateOrderForIteration_perm :
    (candidateOrderForIteration n iteration).Perm (List.range n) := by
  unfold candidateOrderForIteration
  have hreverse : (List.range n).reverse.Perm (List.range n) := List.reverse_perm _
  dsimp only
  split_ifs with hone htwo heven hblock
  · exact .refl _
  · exact hreverse
  · exact .refl _
  · exact (List.rotate_perm _ _).trans hreverse
  · exact List.rotate_perm _ _

theorem shuffleDown_perm (draw : UInt64 → UInt64 × UInt64) {n : Nat} (i : Nat) (hi : i < n)
    (order : Vector Nat n) (state : UInt64) :
    (shuffleDown draw i hi order state).toList.Perm order.toList := by
  induction i generalizing order state with
  | zero => exact .refl _
  | succ i ih =>
    rw [shuffleDown]
    exact (ih _ _ _).trans (Vector.swap_perm _ _).toList

theorem seededOrder_perm (seed : UInt64) : (seededOrder n iteration seed).Perm (List.range n) := by
  have hrange : (Vector.range n).toList = List.range n := Array.toList_range
  unfold seededOrder
  split
  · rw [hrange]
  · rw [← hrange]
    exact shuffleDown_perm _ _ _ _ _

theorem candidateOrderForIterationWithStrategy_perm (strategy : TuneOrderStrategy) :
    (candidateOrderForIterationWithStrategy n iteration strategy).Perm (List.range n) := by
  cases strategy with
  | alternating => exact candidateOrderForIteration_perm n iteration
  | fixed => exact .refl _
  | seed seed => exact seededOrder_perm n iteration seed

/-! ## The alternating order over the blocks -/

/-- Who is at a place in the alternating order: the list turned, and mirrored in every second
block. -/
theorem candidateOrderForIteration_getElem? {n : Nat} (z : Nat) {position : Nat}
    (hposition : position < n) :
    (candidateOrderForIteration n (z + 1))[position]? =
      some (if 3 ≤ n ∧ z / n % 2 = 1 then n - 1 - (position + z) % n else (position + z) % n) := by
  have hmod : (position + z) % n < n := Nat.mod_lt _ (Nat.zero_lt_of_lt hposition)
  unfold candidateOrderForIteration
  dsimp only
  by_cases hone : n ≤ 1
  · obtain rfl : n = 1 := by omega
    obtain rfl : position = 0 := by omega
    simp [Nat.mod_one]
  rw [if_neg hone]
  by_cases htwo : n = 2
  · subst htwo
    have hwhole : ¬ (3 ≤ 2 ∧ z / 2 % 2 = 1) := fun h => absurd h.1 (by decide)
    rw [if_pos rfl, if_neg hwhole]
    split
    · rw [List.getElem?_reverse (by simpa using hposition), List.length_range,
        List.getElem?_range (by omega)]
      exact congrArg some (by omega)
    · rw [List.getElem?_range hposition]
      exact congrArg some (by omega)
  · have hthree : 3 ≤ n := by omega
    rw [if_neg htwo, Nat.add_sub_cancel]
    by_cases hblock : z / n % 2 = 1
    · rw [if_pos hblock, if_pos ⟨hthree, hblock⟩, List.getElem?_rotate (by simpa using hposition),
        List.length_reverse, List.length_range, Nat.add_mod_mod,
        List.getElem?_reverse (by simpa using hmod), List.length_range,
        List.getElem?_range (by omega)]
    · rw [if_neg hblock, if_neg fun h => hblock h.2,
        List.getElem?_rotate (by simpa using hposition),
        List.length_range, Nat.add_mod_mod, List.getElem?_range hmod]

/-- A profile is at a place in an iteration, these counted from 0. -/
def Occupies (n profile position z : Nat) : Prop :=
  (candidateOrderForIteration n (z + 1))[position]? = some profile

instance (n profile position : Nat) : DecidablePred (Occupies n profile position) := fun z =>
  inferInstanceAs (Decidable ((candidateOrderForIteration n (z + 1))[position]? = some profile))

theorem occupies_block {n profile position : Nat} (hprofile : profile < n)
    (hposition : position < n) (b : Nat) :
    Nat.count (fun r => Occupies n profile position (b * n + r)) n = 1 := by
  have hn : 0 < n := Nat.zero_lt_of_lt hprofile
  -- in a mirrored block it is the mirrored profile that the turned list has at the place
  obtain ⟨value, hvalue, heq⟩ : ∃ value < n, ∀ r < n,
      Occupies n profile position (b * n + r) ↔ (position + r) % n = value := by
    refine ⟨if 3 ≤ n ∧ b % 2 = 1 then n - 1 - profile else profile, by split <;> omega,
      fun r hr => ?_⟩
    have hdiv : (b * n + r) / n = b := by rw [Nat.mul_comm, Nat.mul_add_div hn, Nat.div_eq_of_lt hr,
        Nat.add_zero]
    have hrot : (position + (b * n + r)) % n = (position + r) % n := by
      rw [Nat.add_left_comm, Nat.mul_comm, Nat.mul_add_mod]
    have hmod : (position + r) % n < n := Nat.mod_lt _ hn
    rw [Occupies, candidateOrderForIteration_getElem? _ hposition, hdiv, hrot, Option.some_inj]
    split <;> omega
  rw [← BlockCount.count_rotation position hvalue, Nat.count_eq_card_filter_range,
    Nat.count_eq_card_filter_range]
  exact congrArg Finset.card (Finset.filter_congr fun r hr => heq r (Finset.mem_range.mp hr))

theorem countP_iterations (n profile position runs : Nat) :
    ((iterations runs).countP fun iteration =>
      (candidateOrderForIteration n iteration)[position]? = some profile) =
      Nat.count (Occupies n profile position) runs := by
  rw [iterations, List.range'_eq_map_range, List.countP_map]
  refine List.countP_congr fun z _ => ?_
  simp only [Function.comp, Occupies, Nat.add_comm 1]
  exact decide_eq_true_iff.trans decide_eq_true_iff.symm

end Stutter.Tune

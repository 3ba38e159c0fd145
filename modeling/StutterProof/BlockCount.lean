import Mathlib.Data.Int.CardIntervalMod
import Mathlib.Data.Nat.Count

/-! # Counting over blocks

Where a property of numbers holds equally often in every block of `n` consecutive numbers, it holds
that often for each block of a longer range (`count_blocks`), and a range that ends within a block
is between the two whole ones around it (`count_between`).  A rotation meets every value once in a
block (`count_rotation`). -/
namespace BlockCount

variable {p : Nat → Prop} [DecidablePred p] {n c : Nat}

theorem count_blocks (hblock : ∀ b, Nat.count (fun r => p (b * n + r)) n = c) (k : Nat) :
    Nat.count p (k * n) = k * c := by
  induction k with
  | zero => simp
  | succ k ih =>
    calc Nat.count p ((k + 1) * n)
        = Nat.count p (k * n + n) := by rw [Nat.succ_mul]
      _ = Nat.count p (k * n) + Nat.count (fun r => p (k * n + r)) n := Nat.count_add p _ _
      _ = (k + 1) * c := by rw [ih, hblock, Nat.succ_mul]

/-- A range of any length has its whole blocks, and is within one more. -/
theorem count_between (hn : 0 < n) (hblock : ∀ b, Nat.count (fun r => p (b * n + r)) n = c)
    (total : Nat) :
    total / n * c ≤ Nat.count p total ∧ Nat.count p total ≤ (total / n + 1) * c := by
  have hlow : total / n * n ≤ total := Nat.div_mul_le_self total n
  have hhigh : total ≤ (total / n + 1) * n := by
    rw [Nat.succ_mul]
    exact (Nat.lt_div_mul_add hn).le
  rw [← count_blocks hblock, ← count_blocks hblock]
  exact ⟨Nat.count_monotone p hlow, Nat.count_monotone p hhigh⟩

theorem count_rotation (start : Nat) {value : Nat} (hvalue : value < n) :
    Nat.count (fun r => (start + r) % n = value) n = 1 := by
  have hn : 0 < n := Nat.zero_lt_of_lt hvalue
  have hall (total : Nat) : Nat.count (fun x => x % n = value) total =
      total / n + if value % n < total % n then 1 else 0 := by
    rw [← Nat.count_modEq_card total hn value]
    simp only [Nat.ModEq, Nat.mod_eq_of_lt hvalue]
  -- the block is what the longer range has more than the shorter
  have hsplit := Nat.count_add (fun x => x % n = value) start n
  rw [hall, hall, Nat.add_div_right start hn, Nat.add_mod_right] at hsplit
  omega

end BlockCount

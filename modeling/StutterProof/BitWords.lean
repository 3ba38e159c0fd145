import Mathlib.Data.List.Basic
import Mathlib.Tactic.Common

/-! # Sets of numbers as vectors of words

A vector of `w`-bit words holds the number `n` in bit `n % w` of word `n / w`, and nothing beyond
its last word.  `insert` grows the vector as far as it must.  A vector without a trailing zero word
is `Trimmed`; two of these that hold the same numbers are equal. -/
namespace BitWords

variable {w : Nat} (words : List (BitVec w))

def testBit (n : Nat) : Bool := words[n / w]?.any (·.getLsbD (n % w))

/-- The vector, with zero words up to this length. -/
def padTo (length : Nat) : List (BitVec w) := words ++ List.replicate (length - words.length) 0#w

def insert (n : Nat) : List (BitVec w) :=
  (padTo words (n / w + 1)).modify (n / w) (· ||| BitVec.twoPow w (n % w))

def isSubset (other : List (BitVec w)) : Bool :=
  words.zipIdx.all fun (word, i) => word &&& ~~~ other[i]?.getD 0#w = 0#w

def isZero : Bool := words.all (· = 0#w)

def Trimmed : Prop := ∀ word ∈ words.getLast?, word ≠ 0#w

variable {words} {other : List (BitVec w)} {n : Nat}

@[simp] theorem testBit_nil (n : Nat) : testBit ([] : List (BitVec w)) n = false := rfl

theorem testBit_eq_getD (n : Nat) : testBit words n = (words[n / w]?.getD 0#w).getLsbD (n % w) := by
  unfold testBit
  cases words[n / w]? with
  | none => exact (BitVec.getLsbD_zero).symm
  | some word => rfl

/-- Words beyond the end are zero words. -/
theorem getD_padTo (length i : Nat) : (padTo words length)[i]?.getD 0#w = words[i]?.getD 0#w := by
  unfold padTo
  by_cases hi : i < words.length
  · rw [List.getElem?_append_left hi]
  · rw [List.getElem?_append_right (by omega), List.getElem?_eq_none (by omega : words.length ≤ i),
      List.getElem?_replicate]
    split <;> rfl

theorem length_padTo (length : Nat) : (padTo words length).length = max words.length length := by
  unfold padTo
  rw [List.length_append, List.length_replicate]
  omega

theorem getD_insert (n i : Nat) : (insert words n)[i]?.getD 0#w =
    if i = n / w then words[i]?.getD 0#w ||| BitVec.twoPow w (n % w) else words[i]?.getD 0#w := by
  unfold insert
  by_cases hi : i = n / w
  · subst hi
    have hlength : n / w < (padTo words (n / w + 1)).length := by
      rw [length_padTo]
      omega
    rw [if_pos rfl, List.getElem?_modify_eq, ← getD_padTo (n / w + 1),
      List.getElem?_eq_getElem hlength]
    rfl
  · rw [if_neg hi, List.getElem?_modify_ne _ _ (Ne.symm hi), getD_padTo]

/-- The numbers `n` and `m` are in one bit of one word only if they are equal. -/
theorem eq_iff_word_bit (n m : Nat) : m = n ↔ m / w = n / w ∧ m % w = n % w := by
  constructor
  · rintro rfl
    exact ⟨rfl, rfl⟩
  · rintro ⟨hword, hbit⟩
    rw [← Nat.div_add_mod m w, ← Nat.div_add_mod n w, hword, hbit]

theorem testBit_insert (hw : 0 < w) (n m : Nat) :
    testBit (insert words n) m = (decide (m = n) || testBit words m) := by
  rw [testBit_eq_getD, testBit_eq_getD, getD_insert]
  by_cases hword : m / w = n / w
  · have hbit : m = n ↔ n % w = m % w := by
      rw [eq_iff_word_bit n m]
      exact ⟨fun h => h.2.symm, fun h => ⟨hword, h.symm⟩⟩
    rw [if_pos hword, BitVec.getLsbD_or, BitVec.getLsbD_twoPow, Bool.or_comm]
    have hlt : m % w < w := Nat.mod_lt m hw
    have hlt' : n % w < w := Nat.mod_lt n hw
    simp [hbit, hlt']
  · have hne : m ≠ n := fun h => hword (congrArg (· / w) h)
    simp [hword, hne]

theorem trimmed_nil : Trimmed ([] : List (BitVec w)) := nofun

/-- A number that is added fills the last word, or the last word is what it was. -/
theorem trimmed_insert (hw : 0 < w) (h : Trimmed words) (n : Nat) : Trimmed (insert words n) := by
  intro word hword hzero
  subst hzero
  have hlength : (insert words n).length = max words.length (n / w + 1) := by
    rw [insert, List.length_modify, length_padTo]
  rw [List.getLast?_eq_getElem?, hlength] at hword
  have hlast : (insert words n)[max words.length (n / w + 1) - 1]?.getD 0#w = 0#w := by
    rw [hword, Option.getD_some]
  rw [getD_insert] at hlast
  generalize hq : n / w = q at hlast
  split at hlast
  · next hn =>
    have hbit := congrArg (·.getLsbD (n % w)) hlast
    simp [Nat.mod_lt n hw] at hbit
  · next hn =>
    have hlonger : q + 1 < words.length := by omega
    rw [Nat.max_eq_left (Nat.le_of_lt hlonger)] at hlast
    have hmem := List.getElem?_eq_getElem (by omega : words.length - 1 < words.length)
    rw [hmem, Option.getD_some] at hlast
    exact h _ (by rw [List.getLast?_eq_getElem?, hmem]; rfl) hlast

theorem exists_bit_of_ne_zero {word : BitVec w} (h : word ≠ 0#w) :
    ∃ i, i < w ∧ word.getLsbD i = true := by
  by_contra hnone
  apply h
  apply BitVec.eq_of_getLsbD_eq
  intro i hi
  rw [BitVec.getLsbD_zero, ← Bool.not_eq_true]
  exact fun hbit => hnone ⟨i, hi, hbit⟩

/-- The last word of a trimmed vector holds a number. -/
theorem exists_testBit_last (h : Trimmed words) (hwords : words ≠ []) :
    ∃ n, n / w = words.length - 1 ∧ testBit words n = true := by
  obtain ⟨word, hword⟩ : ∃ word, words.getLast? = some word :=
    ⟨_, List.getLast?_eq_some_getLast hwords⟩
  obtain ⟨i, hi, hbit⟩ := exists_bit_of_ne_zero (h word hword)
  refine ⟨w * (words.length - 1) + i, ?_, ?_⟩
  · rw [Nat.mul_add_div (by omega), Nat.div_eq_of_lt hi, Nat.add_zero]
  · rw [List.getLast?_eq_getElem?] at hword
    rw [testBit, Nat.mul_add_div (by omega), Nat.div_eq_of_lt hi, Nat.add_zero, hword,
      Nat.mul_add_mod, Nat.mod_eq_of_lt hi]
    exact hbit

theorem length_le_of_testBit (h : Trimmed words)
    (hsub : ∀ n, testBit words n = true → testBit other n = true) :
    words.length ≤ other.length := by
  by_cases hwords : words = []
  · rw [hwords]
    exact Nat.zero_le _
  · obtain ⟨n, hn, hbit⟩ := exists_testBit_last h hwords
    have hother := hsub n hbit
    by_contra hshort
    rw [testBit, hn, List.getElem?_eq_none (by omega)] at hother
    cases hother

/-- Trimmed vectors are equal if they hold the same numbers. -/
theorem eq_of_testBit (hw : 0 < w) (h : Trimmed words) (hother : Trimmed other)
    (heq : ∀ n, testBit words n = testBit other n) : words = other := by
  have hlength : words.length = other.length :=
    Nat.le_antisymm (length_le_of_testBit h fun n hn => heq n ▸ hn)
      (length_le_of_testBit hother fun n hn => (heq n).symm ▸ hn)
  refine List.ext_getElem hlength fun i hi hi' => ?_
  apply BitVec.eq_of_getLsbD_eq
  intro j hj
  have hbit := heq (w * i + j)
  simpa only [testBit, Nat.mul_add_div hw, Nat.div_eq_of_lt hj, Nat.add_zero, Nat.mul_add_mod,
    Nat.mod_eq_of_lt hj, List.getElem?_eq_getElem hi, List.getElem?_eq_getElem hi',
    Option.any_some] using hbit

theorem isZero_iff (hw : 0 < w) : isZero words = true ↔ ∀ n, testBit words n = false := by
  unfold isZero
  rw [List.all_eq_true]
  constructor
  · intro h n
    rw [testBit_eq_getD]
    cases hword : words[n / w]? with
    | none => exact BitVec.getLsbD_zero
    | some word =>
      have hzero := h word (List.mem_of_getElem? hword)
      rw [Option.getD_some, of_decide_eq_true hzero]
      exact BitVec.getLsbD_zero
  · intro h word hmem
    rw [decide_eq_true_iff]
    by_contra hne
    obtain ⟨i, hi, hbit⟩ := exists_bit_of_ne_zero hne
    obtain ⟨k, hk⟩ := List.mem_iff_getElem?.mp hmem
    have hn := h (w * k + i)
    rw [testBit, Nat.mul_add_div hw, Nat.div_eq_of_lt hi, Nat.add_zero, hk, Nat.mul_add_mod,
      Nat.mod_eq_of_lt hi, Option.any_some, hbit] at hn
    cases hn

theorem isSubset_iff (hw : 0 < w) :
    isSubset words other = true ↔ ∀ n, testBit words n = true → testBit other n = true := by
  unfold isSubset
  rw [List.all_eq_true]
  constructor
  · intro h n hn
    rw [testBit_eq_getD] at hn ⊢
    cases hword : words[n / w]? with
    | none =>
      rw [hword] at hn
      simp at hn
    | some word =>
      rw [hword, Option.getD_some] at hn
      have hmem : (word, n / w) ∈ words.zipIdx := List.mem_zipIdx_iff_getElem?.mpr hword
      have hand := congrArg (·.getLsbD (n % w)) (of_decide_eq_true (h _ hmem))
      simpa [hn, Nat.mod_lt n hw] using hand
  · rintro h ⟨word, i⟩ hmem
    rw [decide_eq_true_iff]
    have hword := List.mem_zipIdx_iff_getElem?.mp hmem
    apply BitVec.eq_of_getLsbD_eq
    intro j hj
    have hn := h (w * i + j)
    rw [testBit_eq_getD, testBit_eq_getD, Nat.mul_add_div hw, Nat.div_eq_of_lt hj, Nat.add_zero,
      Nat.mul_add_mod, Nat.mod_eq_of_lt hj, hword, Option.getD_some] at hn
    simp only [BitVec.getLsbD_and, BitVec.getLsbD_not, hj, decide_true, Bool.true_and,
      BitVec.getLsbD_zero]
    cases hbit : word.getLsbD j with
    | false => rfl
    | true => rw [hn hbit]; rfl

end BitWords

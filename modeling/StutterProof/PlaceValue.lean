import Mathlib.Data.Nat.Digits.Lemmas

/-! # Numbers in places

A number is written with its greatest digit first.  `value` reads it back, leading zeros apart
(`strip_eq_iff`), and `places` writes it with a fixed number of digits. -/
namespace PlaceValue

variable {base : ℕ} {digits other : List ℕ}

/-- The number of digits whose last counts least. -/
def value (base : ℕ) (digits : List ℕ) : ℕ := Nat.ofDigits base digits.reverse

/-- The digits without the zeros before them. -/
def strip (digits : List ℕ) : List ℕ := digits.dropWhile (· = 0)

/-- A number in so many digits, or its last ones. -/
def places (base width number : ℕ) : List ℕ :=
  (List.range width).reverse.map fun i => number / base ^ i % base

theorem value_cons (digit : ℕ) (digits : List ℕ) :
    value base (digit :: digits) = digit * base ^ digits.length + value base digits := by
  rw [value, List.reverse_cons, Nat.ofDigits_append, Nat.ofDigits_singleton, List.length_reverse,
    value]
  ring

theorem value_append (digits more : List ℕ) :
    value base (digits ++ more) = value base digits * base ^ more.length + value base more := by
  induction digits with
  | nil => simp [value]
  | cons digit digits ih =>
    rw [List.cons_append, value_cons, value_cons, ih, List.length_append, Nat.pow_add]
    ring

theorem value_strip (digits : List ℕ) : value base (strip digits) = value base digits := by
  induction digits with
  | nil => rfl
  | cons digit digits ih =>
    by_cases hzero : digit = 0
    · rw [strip, List.dropWhile_cons_of_pos (by simpa using hzero), value_cons, hzero, Nat.zero_mul,
        Nat.zero_add]
      exact ih
    · rw [strip, List.dropWhile_cons_of_neg (by simpa using hzero)]

theorem mem_of_mem_strip {digit : ℕ} (h : digit ∈ strip digits) : digit ∈ digits :=
  (List.dropWhile_suffix _).subset h

theorem head_strip_ne_zero {first : ℕ} {rest : List ℕ} (h : strip digits = first :: rest) :
    first ≠ 0 := by
  rw [strip] at h
  have hne : digits.dropWhile (· = 0) ≠ [] := by
    rw [h]
    exact List.cons_ne_nil first rest
  have hhead := List.head_dropWhile_not (fun digit => decide (digit = 0)) hne
  simp only [h, List.head_cons, decide_eq_false_iff_not] at hhead
  exact hhead

/-- Stripped digits are the digits of the number. -/
theorem strip_eq (hbase : 1 < base) (hdigits : ∀ digit ∈ digits, digit < base) :
    strip digits = (Nat.digits base (value base digits)).reverse := by
  rw [← value_strip, value, Nat.digits_ofDigits base hbase, List.reverse_reverse]
  · intro digit hdigit
    exact hdigits digit (mem_of_mem_strip (List.mem_reverse.mp hdigit))
  · intro hne
    obtain ⟨first, rest, hstrip⟩ := List.exists_cons_of_ne_nil (List.reverse_ne_nil_iff.mp hne)
    simp only [hstrip, List.reverse_cons, List.getLast_append_singleton]
    exact head_strip_ne_zero hstrip

/-- Two digit lists are one number exactly if they are the same without leading zeros. -/
theorem strip_eq_iff (hbase : 1 < base) (hdigits : ∀ digit ∈ digits, digit < base)
    (hother : ∀ digit ∈ other, digit < base) :
    strip digits = strip other ↔ value base digits = value base other := by
  constructor
  · intro h
    rw [← value_strip, h, value_strip]
  · intro h
    rw [strip_eq hbase hdigits, strip_eq hbase hother, h]

/-- As many digits of one number are the same digits. -/
theorem eq_of_value_eq (hbase : 1 < base) (hdigits : ∀ digit ∈ digits, digit < base)
    (hother : ∀ digit ∈ other, digit < base) (hlength : digits.length = other.length)
    (h : value base digits = value base other) : digits = other := by
  refine List.reverse_injective (Nat.ofDigits_inj_of_len_eq hbase ?_ ?_ ?_ h)
  · simpa only [List.length_reverse] using hlength
  · exact fun digit hdigit => hdigits digit (List.mem_reverse.mp hdigit)
  · exact fun digit hdigit => hother digit (List.mem_reverse.mp hdigit)

theorem value_places (base width number : ℕ) :
    value base (places base width number) = number % base ^ width := by
  induction width with
  | zero => simp [places, value, Nat.mod_one]
  | succ width ih =>
    have hcons : places base (width + 1) number =
        number / base ^ width % base :: places base width number := by
      rw [places, List.range_succ, List.reverse_concat, List.map_cons, places]
    have hlength : (places base width number).length = width := by simp [places]
    rw [hcons, value_cons, ih, hlength, Nat.mod_pow_succ]
    ring

end PlaceValue

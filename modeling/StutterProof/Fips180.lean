import Mathlib.Analysis.SpecialFunctions.Pow.Real
import Mathlib.NumberTheory.PrimeCounting
import StutterProof.PlaceValue

/-! # The Secure Hash Standard: SHA-256

The standard hashes strings of bits.  A message is padded (`pad`), cut into blocks of sixteen words
(`blockWord`), and each block is worked into eight words (`digest`).  The constants are the first
bits of the fractional parts of roots of primes, which is how the standard explains its tables
(`rootFraction_eq` computes one). -/
namespace Fips180

open PlaceValue

abbrev Word := BitVec 32

/-! ## Bits -/

/-- So many bits of a number, the highest first. -/
def bitsOf (width number : ℕ) : List Bool := (List.range width).reverse.map number.testBit

def bitsValue (bits : List Bool) : ℕ := value 2 (bits.map Bool.toNat)

def wordOf (bits : List Bool) : Word := BitVec.ofNat 32 (bitsValue bits)

/-- Each four bits are a hexadecimal digit. -/
def hexOf : List Bool → List Char
  | a :: b :: c :: d :: rest => Nat.digitChar (bitsValue [a, b, c, d]) :: hexOf rest
  | _ => []

variable (width number : ℕ)

theorem map_bitsOf : (bitsOf width number).map Bool.toNat = places 2 width number := by
  rw [bitsOf, places, List.map_map]
  refine List.map_congr_left fun i _ => ?_
  rw [Function.comp_apply, Nat.toNat_testBit]

@[simp] theorem length_bitsOf : (bitsOf width number).length = width := by
  simp [bitsOf]

theorem bitsValue_bitsOf : bitsValue (bitsOf width number) = number % 2 ^ width := by
  rw [bitsValue, map_bitsOf, value_places]

theorem bitsValue_append (bits more : List Bool) :
    bitsValue (bits ++ more) = bitsValue bits * 2 ^ more.length + bitsValue more := by
  rw [bitsValue, List.map_append, value_append, List.length_map]
  rfl

theorem bitsOf_add (width more number : ℕ) :
    bitsOf (width + more) number = bitsOf width (number / 2 ^ more) ++ bitsOf more number := by
  rw [bitsOf, Nat.add_comm, List.range_add, List.reverse_append, List.map_append]
  congr 1
  rw [← List.map_reverse, List.map_map]
  refine List.map_congr_left fun i _ => ?_
  rw [Function.comp_apply, Nat.testBit_div_two_pow, Nat.add_comm]

/-- The digits of a number are read off its bits four by four. -/
theorem hexOf_bitsOf_append (rest : List Bool) :
    hexOf (bitsOf (4 * width) number ++ rest) =
      (places 16 width number).map Nat.digitChar ++ hexOf rest := by
  induction width with
  | zero => rfl
  | succ width ih =>
    have hpow : 2 ^ (4 * width) = 16 ^ width := by
      rw [pow_mul]
      norm_num
    have hbits : bitsOf (4 * (width + 1)) number =
        bitsOf 4 (number / 16 ^ width) ++ bitsOf (4 * width) number := by
      rw [Nat.mul_succ, Nat.add_comm, bitsOf_add, hpow]
    have hplaces : places 16 (width + 1) number =
        number / 16 ^ width % 16 :: places 16 width number := by
      rw [places, List.range_succ, List.reverse_concat, List.map_cons, places]
    have hdigit : bitsValue (bitsOf 4 (number / 16 ^ width)) = number / 16 ^ width % 16 :=
      bitsValue_bitsOf 4 (number / 16 ^ width)
    rw [hbits, hplaces, List.append_assoc, List.map_cons, List.cons_append, ← ih, ← hdigit]
    rfl

/-! ## Functions and constants -/

def rotr (n : ℕ) (x : Word) : Word := x >>> n ||| x <<< (32 - n)
def shr (n : ℕ) (x : Word) : Word := x >>> n

def ch (x y z : Word) : Word := (x &&& y) ^^^ (~~~x &&& z)
def maj (x y z : Word) : Word := (x &&& y) ^^^ (x &&& z) ^^^ (y &&& z)

def upperSigma0 (x : Word) : Word := rotr 2 x ^^^ rotr 13 x ^^^ rotr 22 x
def upperSigma1 (x : Word) : Word := rotr 6 x ^^^ rotr 11 x ^^^ rotr 25 x
def lowerSigma0 (x : Word) : Word := rotr 7 x ^^^ rotr 18 x ^^^ shr 3 x
def lowerSigma1 (x : Word) : Word := rotr 17 x ^^^ rotr 19 x ^^^ shr 10 x

/-- The first thirty-two bits of the fractional part of a root. -/
noncomputable def rootFraction (degree number : ℕ) : Word :=
  BitVec.ofNat 32 ⌊Int.fract ((number : ℝ) ^ (degree : ℝ)⁻¹) * 2 ^ 32⌋₊

/-- From the cube roots of the first sixty-four primes. -/
noncomputable def roundConstant (t : ℕ) : Word := rootFraction 3 (Nat.nth Nat.Prime t)

/-- From the square roots of the first eight primes. -/
noncomputable def initialWord (i : ℕ) : Word := rootFraction 2 (Nat.nth Nat.Prime i)

/-- The bits are found by whole numbers: those of the root that many places to the left. -/
theorem rootFraction_eq {degree number root : ℕ} (hdegree : degree ≠ 0)
    (hlow : root ^ degree ≤ number * (2 ^ 32) ^ degree)
    (hhigh : number * (2 ^ 32) ^ degree < (root + 1) ^ degree) :
    rootFraction degree number = BitVec.ofNat 32 root := by
  -- the whole part of the root, and the bits behind it
  obtain ⟨whole, bits, hbits, rfl⟩ : ∃ whole bits, bits < 2 ^ 32 ∧ root = whole * 2 ^ 32 + bits :=
    ⟨root / 2 ^ 32, root % 2 ^ 32, Nat.mod_lt _ (Nat.two_pow_pos 32),
      (Nat.div_add_mod' root (2 ^ 32)).symm⟩
  set x : ℝ := (number : ℝ) ^ (degree : ℝ)⁻¹ with hx
  have hnonneg : 0 ≤ x := Real.rpow_nonneg (Nat.cast_nonneg number) _
  have hpow : x ^ degree = number := Real.rpow_inv_natCast_pow (Nat.cast_nonneg number) hdegree
  have hscaled : (x * 2 ^ 32) ^ degree = number * (2 ^ 32) ^ degree := by rw [mul_pow, hpow]
  have hroot : (whole : ℝ) * 2 ^ 32 + bits ≤ x * 2 ^ 32 := by
    rw [← pow_le_pow_iff_left₀ (by positivity) (by positivity) hdegree, hscaled]
    exact_mod_cast hlow
  have hnext : x * 2 ^ 32 < (whole : ℝ) * 2 ^ 32 + bits + 1 := by
    rw [← pow_lt_pow_iff_left₀ (by positivity) (by positivity) hdegree, hscaled]
    exact_mod_cast hhigh
  have hrest : (bits : ℝ) + 1 ≤ 2 ^ 32 := by exact_mod_cast hbits
  have hbits_nonneg : (0 : ℝ) ≤ bits := Nat.cast_nonneg bits
  have hfract : Int.fract x = x - whole := by
    refine Int.fract_eq_iff.mpr ⟨by linarith, by linarith, whole, ?_⟩
    rw [sub_sub_cancel, Int.cast_natCast]
  have hfloor : ⌊Int.fract x * 2 ^ 32⌋₊ = bits := by
    rw [hfract, Nat.floor_eq_iff (by linarith)]
    exact ⟨by linarith, by linarith⟩
  rw [rootFraction, ← hx, hfloor]
  exact BitVec.eq_of_toNat_eq (by rw [BitVec.toNat_ofNat, BitVec.toNat_ofNat, Nat.mul_add_mod'])

theorem count_eq_length (p : ℕ → Prop) [DecidablePred p] (bound : ℕ) :
    Nat.count p bound = ((List.range bound).filter p).length := by
  induction bound with
  | zero => rfl
  | succ bound ih =>
    rw [Nat.count_succ, ih, List.range_succ, List.filter_append, List.length_append]
    by_cases hp : p bound
    · simp [hp]
    · simp [hp]

/-- A list of the numbers below a bound that have a property is the first of them in order. -/
theorem nth_eq_of_filter {p : ℕ → Prop} [DecidablePred p] {bound i number : ℕ}
    (h : ((List.range bound).filter p)[i]? = some number) : Nat.nth p i = number := by
  induction bound with
  | zero => cases h
  | succ bound ih =>
    rw [List.range_succ, List.filter_append] at h
    by_cases hlt : i < ((List.range bound).filter p).length
    · rw [List.getElem?_append_left hlt] at h
      exact ih h
    · rw [List.getElem?_append_right (Nat.le_of_not_lt hlt)] at h
      obtain ⟨hlast, hnumber⟩ := List.getElem?_eq_some_iff.mp h
      have hmem := List.mem_filter.mp (hnumber ▸ List.getElem_mem hlast)
      obtain rfl := List.mem_singleton.mp hmem.1
      have hp : p number := of_decide_eq_true hmem.2
      have hzero : i - ((List.range number).filter p).length = 0 := by
        have hone : ([number].filter p).length ≤ 1 := List.length_filter_le _ _
        omega
      have hcount : Nat.count p number = i := by
        rw [count_eq_length]
        omega
      rw [← hcount, Nat.nth_count hp]

/-! ## Preprocessing -/

theorem exists_zeros (length : ℕ) : ∃ k, (length + 1 + k) % 512 = 448 :=
  ⟨(511 - length % 512 + 448) % 512, by omega⟩

/-- The smallest number of zeros that leaves room for the length. -/
def zeros (length : ℕ) : ℕ := Nat.find (exists_zeros length)

def pad (message : List Bool) : List Bool :=
  message ++ true :: List.replicate (zeros message.length) false ++ bitsOf 64 message.length

def blockCount (padded : List Bool) : ℕ := padded.length / 512

def blockWord (padded : List Bool) (i t : ℕ) : Word :=
  wordOf ((padded.drop (512 * i + 32 * t)).take 32)

theorem zeros_eq {length k : ℕ} (hk : k < 512) (h : (length + 1 + k) % 512 = 448) :
    zeros length = k := by
  refine le_antisymm (Nat.find_le h) ?_
  have hfound : (length + 1 + zeros length) % 512 = 448 := Nat.find_spec (exists_zeros length)
  have hle : zeros length ≤ k := Nat.find_le h
  omega

/-! ## Hash computation -/

/-- The message schedule of a block. -/
def schedule (block : ℕ → Word) (t : ℕ) : Word :=
  if t < 16 then block t
  else lowerSigma1 (schedule block (t - 2)) + schedule block (t - 7) + lowerSigma0
    (schedule block (t - 15)) +
    schedule block (t - 16)

/-- The eight working variables, or the eight words of a hash value. -/
@[ext] structure Variables where
  (a b c d e f g h : Word)

def Variables.add (x y : Variables) : Variables :=
  ⟨x.a + y.a, x.b + y.b, x.c + y.c, x.d + y.d, x.e + y.e, x.f + y.f, x.g + y.g, x.h + y.h⟩

def Variables.words (x : Variables) : List Word := [x.a, x.b, x.c, x.d, x.e, x.f, x.g, x.h]

/-- One round, with its constant and its word of the schedule. -/
def round (constant word : Word) (x : Variables) : Variables :=
  let t1 := x.h + upperSigma1 x.e + ch x.e x.f x.g + constant + word
  let t2 := upperSigma0 x.a + maj x.a x.b x.c
  ⟨t1 + t2, x.a, x.b, x.c, x.d + t1, x.e, x.f, x.g⟩

/-- The working variables after so many rounds. -/
noncomputable def rounds (block : ℕ → Word) (start : Variables) : ℕ → Variables
  | 0 => start
  | t + 1 => round (roundConstant t) (schedule block t) (rounds block start t)

noncomputable def initialHash : Variables :=
  ⟨initialWord 0, initialWord 1, initialWord 2, initialWord 3, initialWord 4, initialWord 5,
    initialWord 6, initialWord 7⟩

/-- The hash value after so many blocks. -/
noncomputable def hashValue (padded : List Bool) : ℕ → Variables
  | 0 => initialHash
  | i + 1 => (rounds (blockWord padded i) (hashValue padded i) 64).add (hashValue padded i)

/-- The message digest: the words of the last hash value, one after another. -/
noncomputable def digest (message : List Bool) : List Bool :=
  (hashValue (pad message) (blockCount (pad message))).words.flatMap fun word =>
    bitsOf 32 word.toNat

end Fips180

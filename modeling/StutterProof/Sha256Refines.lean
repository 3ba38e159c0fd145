import StutterProof.Sha256Padding

/-! # The hash is the standard's

`compress` fills its schedule and turns its registers as the standard says (`compress_refines`), so
the state after the blocks is the hash value (`state_refines`). -/
namespace Stutter.Hash

open Fips180 (Word blockWord roundConstant rootFraction rotr schedule wordOf)
open PlaceValue (value)

/-! ## Constants -/

def firstPrimes : List Nat := [
  2, 3, 5, 7, 11, 13, 17, 19, 23, 29, 31, 37, 41, 43, 47, 53, 59, 61, 67, 71, 73, 79, 83, 89, 97,
    101, 103, 107,
  109, 113, 127, 131, 137, 139, 149, 151, 157, 163, 167, 173, 179, 181, 191, 193, 197, 199, 211,
  223, 227, 229, 233, 239, 241, 251, 257, 263, 269, 271, 277, 281, 283, 293, 307, 311]

theorem filter_prime : (List.range 312).filter (fun p => decide (Nat.Prime p)) = firstPrimes := by
  have hdivisors : (List.range 312).filter (fun p => decide (2 ≤ p ∧ ∀ m < p, m ∣ p → m = 1)) =
      firstPrimes := by
    decide +kernel
  rw [← hdivisors]
  refine List.filter_congr fun p _ => ?_
  rw [decide_eq_decide, Nat.prime_def_lt]

open Fips180

theorem nth_prime {i number : Nat} (h : firstPrimes[i]? = some number) :
    Nat.nth Nat.Prime i = number :=
  nth_eq_of_filter (filter_prime ▸ h)

/-- The words of a table are the bits of roots, each after some whole part. -/
def RootTable (degree : Nat) (numbers : List Nat) (table : List U32) : Prop :=
  ∀ i < table.length, ∃ whole < 20,
    (whole * 4294967296 + (table.getD i 0).toNat) ^ degree ≤
      numbers.getD i 0 * 4294967296 ^ degree ∧
    numbers.getD i 0 * 4294967296 ^ degree <
      (whole * 4294967296 + (table.getD i 0).toNat + 1) ^ degree

instance (degree : Nat) (numbers : List Nat) (table : List U32) :
    Decidable (RootTable degree numbers table) :=
  inferInstanceAs (Decidable (∀ i < _, _))

theorem rootFraction_of_table {degree i : Nat} {table : List U32} (hdegree : degree ≠ 0)
    (h : RootTable degree firstPrimes table) (hi : i < table.length)
    (hprime : i < firstPrimes.length) :
    rootFraction degree (Nat.nth Nat.Prime i) = table.getD i 0 := by
  obtain ⟨whole, -, hlow, hhigh⟩ := h i hi
  have hnth : Nat.nth Nat.Prime i = firstPrimes.getD i 0 :=
    nth_prime (by rw [List.getD_eq_getElem _ _ hprime, List.getElem?_eq_getElem hprime])
  rw [hnth, rootFraction_eq hdegree hlow hhigh]
  refine BitVec.eq_of_toNat_eq ?_
  rw [BitVec.toNat_ofNat, Nat.mul_add_mod']
  exact Nat.mod_eq_of_lt (table.getD i 0).isLt

theorem rootTable_K : RootTable 3 firstPrimes K := by decide +kernel
theorem rootTable_initialState : RootTable 2 firstPrimes initialState.words := by decide +kernel

theorem K_getD {t : Nat} (ht : t < 64) : K.getD t 0 = roundConstant t :=
  (rootFraction_of_table (by omega) rootTable_K ht ht).symm

def State.toVariables (state : State) : Variables :=
  ⟨state.a, state.b, state.c, state.d, state.e, state.f, state.g, state.h⟩

theorem initialState_refines : initialState.toVariables = initialHash := by
  have hword : ∀ i < 8, initialWord i = initialState.words.getD i 0 := fun i hi =>
    rootFraction_of_table (by omega) rootTable_initialState hi (Nat.lt_of_lt_of_le hi (by decide))
  ext1
  · exact (hword 0 (by omega)).symm
  · exact (hword 1 (by omega)).symm
  · exact (hword 2 (by omega)).symm
  · exact (hword 3 (by omega)).symm
  · exact (hword 4 (by omega)).symm
  · exact (hword 5 (by omega)).symm
  · exact (hword 6 (by omega)).symm
  · exact (hword 7 (by omega)).symm

/-! ## The message schedule -/

theorem rotateRight_eq {n : Nat} (hn : n < 32) (x : U32) : x.rotateRight n = rotr n x := by
  rw [BitVec.rotateRight, BitVec.rotateRightAux, Nat.mod_eq_of_lt hn]
  rfl

/-- Words stored one after another. -/
theorem foldl_set {α : Type} (f : α → U32) (xs : List α) (k : Nat) (w : List U32)
    (hk : k + xs.length ≤ w.length) :
    (xs.zipIdx k).foldl (fun w (x, index) => w.set index (f x)) w =
      w.take k ++ xs.map f ++ w.drop (k + xs.length) := by
  induction xs generalizing k w with
  | nil => simp
  | cons x xs ih =>
    rw [List.length_cons] at hk
    have hset : w.set k (f x) = (w.take k ++ [f x]) ++ w.drop (k + 1) := by
      rw [List.set_eq_take_append_cons_drop, if_pos (by omega), List.append_assoc,
        List.singleton_append]
    have hlength : (w.take k ++ [f x]).length = k + 1 := by
      rw [List.length_append, List.length_take, List.length_singleton]
      omega
    rw [List.zipIdx_cons, List.foldl_cons]
    dsimp only
    rw [ih (k + 1) _ (by rw [List.length_set]; omega), hset,
      List.take_left' hlength, List.drop_append, hlength, List.drop_eq_nil_of_le (by omega),
      List.drop_drop]
    have hdrop : k + 1 + (k + 1 + xs.length - (k + 1)) = k + (xs.length + 1) := by omega
    simp only [List.map_cons, List.append_assoc, List.singleton_append, List.nil_append,
      List.length_cons, hdrop]

/-- The word that four bytes of a block are. -/
def wordAt (block : List Byte) (t : Nat) : U32 := fromBeBytes ((block.drop (4 * t)).take 4)

variable {block : List Byte}

theorem loadWords_eq (hlength : block.length = 64) :
    loadWords block = (List.range 16).map (wordAt block) ++ List.replicate 48 0 := by
  have hchunks : chunksExact 4 block = (List.range 16).map fun i =>
      (block.drop (4 * i)).take 4 := by
    rw [chunksExact, hlength]
  have hcount : (chunksExact 4 block).length =
      16 := by rw [hchunks, List.length_map, List.length_range]
  rw [loadWords, foldl_set fromBeBytes _ 0 _ (by rw [hcount, List.length_replicate]; omega), hcount,
    hchunks, List.map_map, List.take_zero, List.nil_append, List.drop_replicate]
  rfl

theorem loadWords_getD {t : Nat} (hlength : block.length = 64) (ht : t < 16) :
    (loadWords block).getD t 0 = wordAt block t := by
  rw [loadWords_eq hlength, List.getD_append _ _ _ _ (by simpa using ht),
    List.getD_eq_getElem _ _ (by simpa using ht),
    List.getElem_map, List.getElem_range]

variable {message : Nat → Word}

/-- Every word below the index is the standard's, and stays. -/
theorem extendWord_schedule {w : List U32} (hlength : w.length = 64)
    (hload : ∀ t < 16, w.getD t 0 = message t) {count : Nat} (hcount : count ≤ 48) :
    ((List.range' 16 count).foldl extendWord w).length = 64 ∧
      ∀ t < 16 + count, ((List.range' 16 count).foldl extendWord w).getD t 0 =
        schedule message t := by
  induction count with
  | zero =>
    refine ⟨hlength, fun t ht => ?_⟩
    rw [schedule, if_pos ht]
    exact hload t ht
  | succ count ih =>
    obtain ⟨hfilled, hwords⟩ := ih (by omega)
    rw [List.range'_concat, List.foldl_append, List.foldl_cons, List.foldl_nil, Nat.one_mul]
    set filled := (List.range' 16 count).foldl extendWord w
    refine ⟨by rw [extendWord, List.length_set, hfilled], fun t ht => ?_⟩
    by_cases hnew : t = 16 + count
    · subst hnew
      have hback : ∀ n, 0 < n → n ≤ 16 →
          filled.getD (16 + count - n) 0 = schedule message (16 + count - n) :=
        fun n _ _ => hwords _ (by omega)
      rw [schedule, if_neg (by omega), extendWord,
        List.getD_eq_getElem _ _ (by rw [List.length_set]; omega),
        List.getElem_set_self]
      dsimp only
      rw [hback 16 (by omega) (by omega), hback 15 (by omega) (by omega),
        hback 7 (by omega) (by omega), hback 2 (by omega) (by omega)]
      simp only [rotateRight_eq (show 7 < 32 by omega), rotateRight_eq (show 18 < 32 by omega),
        rotateRight_eq (show 17 < 32 by omega), rotateRight_eq (show 19 < 32 by omega)]
      change _ + lowerSigma0 _ + _ + lowerSigma1 _ = _
      ac_rfl
    · have hsame : (extendWord filled (16 + count)).getD t 0 = filled.getD t 0 := by
        rw [extendWord, List.getD_eq_getElem?_getD, List.getElem?_set_ne (fun h => hnew h.symm),
          ← List.getD_eq_getElem?_getD]
      rw [hsame]
      exact hwords t (by omega)

variable (state : State)

/-! ## The rounds -/

theorem compressRound_refines {w : List U32} {t : Nat} (ht : t < 64)
    (hword : w.getD t 0 = schedule message t) :
    (compressRound w state t).toVariables = round (roundConstant t)
      (schedule message t) state.toVariables := by
  rw [compressRound, K_getD ht, hword]
  simp only [rotateRight_eq (show 6 < 32 by omega), rotateRight_eq (show 11 < 32 by omega),
    rotateRight_eq (show 25 < 32 by omega), rotateRight_eq (show 2 < 32 by omega),
    rotateRight_eq (show 13 < 32 by omega), rotateRight_eq (show 22 < 32 by omega)]
  rfl

theorem rounds_refine {w : List U32} (hwords : ∀ t < 64, w.getD t 0 = schedule message t)
    {count : Nat} (hcount : count ≤ 64) :
    ((List.range count).foldl (compressRound w) state).toVariables =
      rounds message state.toVariables count := by
  induction count with
  | zero => rfl
  | succ count ih =>
    rw [List.range_succ, List.foldl_append, List.foldl_cons, List.foldl_nil,
      compressRound_refines _ (by omega) (hwords count (by omega)), ih (by omega), rounds]

theorem compress_refines (hlength : block.length = 64)
    (hmessage : ∀ t < 16, wordAt block t = message t) :
    (compress state block).toVariables =
      (rounds message state.toVariables 64).add state.toVariables := by
  have hload : ∀ t < 16, (loadWords block).getD t 0 = message t := fun t ht => by
    rw [loadWords_getD hlength ht, hmessage t ht]
  have hloaded : (loadWords block).length = 64 := by
    rw [loadWords_eq hlength]
    simp
  obtain ⟨-, hwords⟩ := extendWord_schedule hloaded hload (Nat.le_refl 48)
  rw [← rounds_refine state hwords (Nat.le_refl 64), compress]
  ext1 <;> exact BitVec.add_comm _ _

/-! ## The blocks -/

theorem toNat_append {n m : Nat} (x : BitVec n) (y : BitVec m) :
    (x ++ y).toNat = x.toNat * 2 ^ m + y.toNat := by
  rw [BitVec.toNat_append, ← Nat.shiftLeft_add_eq_or_of_lt y.isLt, Nat.shiftLeft_eq]

theorem wordOf_messageBits (b0 b1 b2 b3 : Byte) :
    wordOf (messageBits [b0, b1, b2, b3]) = fromBeBytes [b0, b1, b2, b3] := by
  have hbyte : ∀ byte : Byte, bitsValue (bitsOf 8 byte.toNat) = byte.toNat :=
      fun byte => by
    rw [bitsValue_bitsOf, Nat.mod_eq_of_lt byte.isLt]
  have hword : (fromBeBytes [b0, b1, b2, b3]).toNat =
      ((b0.toNat * 2 ^ 8 + b1.toNat) * 2 ^ 8 + b2.toNat) * 2 ^ 8 + b3.toNat := by
    change (b0 ++ b1 ++ b2 ++ b3).toNat = _
    rw [toNat_append, toNat_append, toNat_append]
  have hbits : bitsValue (messageBits [b0, b1, b2, b3]) =
      (fromBeBytes [b0, b1, b2, b3]).toNat := by
    have hsplit : messageBits [b0, b1, b2, b3] =
        ((bitsOf 8 b0.toNat ++ bitsOf 8 b1.toNat) ++ bitsOf 8 b2.toNat) ++
          bitsOf 8 b3.toNat := by
      simp only [messageBits, List.flatMap_cons, List.flatMap_nil, List.append_nil,
        List.append_assoc]
    rw [hsplit, hword]
    simp only [bitsValue_append, length_bitsOf, hbyte]
  rw [wordOf, hbits, BitVec.ofNat_toNat, BitVec.setWidth_eq]

/-- A word of the padded message is four bytes of a block. -/
theorem wordAt_eq {padded : List Byte} {i t : Nat} (hi : i < padded.length / 64) (ht : t < 16) :
    wordAt ((padded.drop (64 * i)).take 64) t = blockWord (messageBits padded) i t := by
  have hbits : ((messageBits padded).drop (512 * i + 32 * t)).take 32 =
      messageBits ((padded.drop (64 * i + 4 * t)).take 4) := by
    have hstart : 512 * i + 32 * t = 8 * (64 * i + 4 * t) := by omega
    rw [hstart, drop_messageBits, ← take_messageBits 4]
  have hbytes : ((((padded.drop (64 * i)).take 64).drop (4 * t)).take 4) =
      (padded.drop (64 * i + 4 * t)).take 4 := by
    rw [List.drop_take, List.drop_drop, List.take_take, Nat.min_eq_left (by omega)]
  have hlength : ((padded.drop (64 * i + 4 * t)).take 4).length = 4 := by
    rw [List.length_take, List.length_drop]
    omega
  rw [wordAt, hbytes, blockWord, hbits]
  obtain ⟨b0, b1, b2, b3, hword⟩ := List.length_eq_four.mp hlength
  rw [hword, wordOf_messageBits]

theorem state_refines (padded : List Byte) {count : Nat} (hcount : count ≤ padded.length / 64) :
    ((((List.range count).map fun i => (padded.drop (64 * i)).take 64).foldl compress
      initialState).toVariables) =
      hashValue (messageBits padded) count := by
  induction count with
  | zero => exact initialState_refines
  | succ count ih =>
    have hlength : ((padded.drop (64 * count)).take 64).length = 64 := by
      rw [List.length_take, List.length_drop]
      omega
    rw [List.range_succ, List.map_append, List.foldl_append, List.map_singleton, List.foldl_cons,
      List.foldl_nil,
      compress_refines _ hlength fun t ht => wordAt_eq (by omega) ht, ih (by omega),
      hashValue]

/-! ## The digest -/

theorem hexOf_words (words : List Word) :
    hexOf (words.flatMap fun word => bitsOf 32 word.toNat) =
      words.flatMap hex08 := by
  induction words with
  | nil => rfl
  | cons word words ih =>
    rw [List.flatMap_cons, List.flatMap_cons, ← ih]
    exact hexOf_bitsOf_append 8 word.toNat _

/-- `sha256_hex` is the digest of the standard in hexadecimal, and no two inputs are padded to the
same blocks. -/
theorem sha256Hex_fips (data : List Byte) (hlength : data.length < 2 ^ 61) :
    sha256Hex data = hexOf (digest (messageBits data)) ∧
      ∀ other : List Byte, other.length < 2 ^ 61 → other ≠ data → blocks other ≠ blocks data := by
  refine ⟨?_, fun other hother hne h => hne (blocks_injective hother hlength h)⟩
  have hcount : blockCount (messageBits (paddedBytes data)) =
      (paddedBytes data).length / 64 := by
    rw [blockCount, length_messageBits]
    omega
  have hstate : (sha256State data).toVariables =
      hashValue (messageBits (paddedBytes data)) ((paddedBytes data).length / 64) := by
    rw [sha256State_eq, blocks_eq, chunksExact, state_refines _ (Nat.le_refl _)]
  rw [digest, ← messageBits_paddedBytes hlength, hcount, ← hstate, hexOf_words]
  rfl

/-- Seventy letters, which fill two blocks. -/
theorem sha256Hex_fips_twoBlocks :
    hexOf (digest (messageBits (List.replicate 70 97))) =
        "6bd5e5034855a11241f0dee8fc72850ffd9955b28347a86428b5fa19119f6ad0".toList ∧
      ∀ other : List Byte, other.length < 2 ^ 61 → other ≠ List.replicate 70 97 →
        blocks other ≠ blocks (List.replicate 70 97) := by
  obtain ⟨hdigest, hblocks⟩ := sha256Hex_fips (List.replicate 70 97) (by decide)
  refine ⟨hdigest.symm.trans ?_, hblocks⟩
  decide +kernel

end Stutter.Hash

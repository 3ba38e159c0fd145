import StutterProof.Fips180
import StutterProof.Sha256

/-! # The blocks of the hash are those of the standard

What `sha256_hex` works is the input with one padding behind it (`blocks_eq`), and its bits are
those of the padded message (`messageBits_paddedBytes`).  The padding can be taken off again
(`blocks_injective`). -/
namespace Stutter.Hash

open Fips180 (bitsOf bitsValue bitsValue_bitsOf bitsOf_add blockWord pad wordOf zeros)

/-- The bits of a byte string. -/
def messageBits (data : List Byte) : List Bool := data.flatMap fun byte => bitsOf 8 byte.toNat

theorem messageBits_cons (byte : Byte) (data : List Byte) :
    messageBits (byte :: data) = bitsOf 8 byte.toNat ++ messageBits data := List.flatMap_cons

theorem messageBits_append (data more : List Byte) :
    messageBits (data ++ more) = messageBits data ++ messageBits more := List.flatMap_append

variable (data : List Byte)

@[simp] theorem length_messageBits : (messageBits data).length = 8 * data.length := by
  induction data with
  | nil => rfl
  | cons byte data ih =>
    rw [messageBits_cons, List.length_append, ih, Fips180.length_bitsOf, List.length_cons]
    omega

theorem drop_messageBits (n : Nat) (data : List Byte) :
    (messageBits data).drop (8 * n) = messageBits (data.drop n) := by
  by_cases hn : n ≤ data.length
  · have hsplit : messageBits data = messageBits (data.take n) ++ messageBits (data.drop n) := by
      rw [← messageBits_append, List.take_append_drop]
    rw [hsplit, List.drop_left' (by rw [length_messageBits, List.length_take, Nat.min_eq_left hn])]
  · rw [List.drop_eq_nil_of_le (by rw [length_messageBits]; omega),
      List.drop_eq_nil_of_le (by omega)]
    rfl

theorem take_messageBits (n : Nat) (data : List Byte) :
    (messageBits data).take (8 * n) = messageBits (data.take n) := by
  by_cases hn : n ≤ data.length
  · have hsplit : messageBits data = messageBits (data.take n) ++ messageBits (data.drop n) := by
      rw [← messageBits_append, List.take_append_drop]
    rw [hsplit, List.take_left' (by rw [length_messageBits, List.length_take, Nat.min_eq_left hn])]
  · rw [List.take_of_length_le (by rw [length_messageBits]; omega),
      List.take_of_length_le (by omega)]

/-! ## Slices -/

section Chunks

variable {α : Type} {size : Nat}

theorem chunksExact_append (hsize : 0 < size) {xs : List α} (hdvd : size ∣ xs.length)
    (ys : List α) :
    chunksExact size (xs ++ ys) = chunksExact size xs ++ chunksExact size ys := by
  obtain ⟨n, hn⟩ := hdvd
  have hcount : (xs ++ ys).length / size = n + ys.length / size := by
    rw [List.length_append, hn, Nat.mul_add_div hsize]
  rw [chunksExact, hcount, List.range_add, List.map_append, List.map_map, chunksExact, hn,
    Nat.mul_div_cancel_left n hsize]
  congr 1
  · refine List.map_congr_left fun i hi => ?_
    have hlt : size * i + size ≤ xs.length := by
      rw [hn, ← Nat.mul_succ]
      exact Nat.mul_le_mul_left size (List.mem_range.mp hi)
    rw [List.drop_append_of_le_length (by omega),
      List.take_append_of_le_length (by rw [List.length_drop]; omega)]
  · refine List.map_congr_left fun i _ => ?_
    rw [Function.comp_apply, Nat.mul_add, ← hn, List.drop_length_add_append]

theorem flatten_map_chunks (xs : List α) (n : Nat) :
    ((List.range n).map fun i => (xs.drop (size * i)).take size).flatten = xs.take (size * n) := by
  induction n with
  | zero => simp
  | succ n ih =>
    rw [List.range_succ, List.map_append, List.flatten_append, ih, List.map_singleton,
      List.flatten_singleton, Nat.mul_succ, List.take_add]

theorem flatten_chunksExact {xs : List α} (hdvd : size ∣ xs.length) :
    (chunksExact size xs).flatten = xs := by
  rw [chunksExact, flatten_map_chunks, Nat.mul_div_cancel' hdvd, List.take_length]

end Chunks

/-! ## The padding -/

/-- The zeros that the loop pushes. -/
def zeroCount (length : Nat) : Nat := (119 - length % 64) % 64

theorem pushZeros_eq {fuel count : Nat} {tail : List Byte} (hfuel : count ≤ fuel)
    (hcount : count < 64) (hlength : (tail.length + count) % 64 = 56) :
    pushZeros fuel tail = tail ++ List.replicate count 0 := by
  induction fuel generalizing tail count with
  | zero =>
    obtain rfl : count = 0 := by omega
    rw [pushZeros, List.replicate_zero, List.append_nil]
  | succ fuel ih =>
    rw [pushZeros]
    by_cases hdone : tail.length % 64 = 56
    · obtain rfl : count = 0 := by omega
      rw [if_neg (not_not_intro hdone), List.replicate_zero, List.append_nil]
    · obtain ⟨count, rfl⟩ : ∃ rest, count = rest + 1 := ⟨count - 1, by omega⟩
      have hnext : ((tail ++ [0]).length + count) % 64 = 56 := by
        rw [List.length_append, List.length_singleton]
        omega
      rw [if_pos hdone, ih (by omega) (by omega) hnext, List.append_assoc, List.singleton_append,
        List.replicate_succ]

/-- What is put behind the input. -/
def padding (length : Nat) : List Byte :=
  0x80 :: List.replicate (zeroCount length) 0 ++ toBeBytes (BitVec.ofNat 64 length * 8)

def paddedBytes (data : List Byte) : List Byte := data ++ padding data.length

theorem length_remainder : (remainder 64 data).length = data.length % 64 := by
  rw [remainder, List.length_drop]
  omega

theorem paddedTail_eq : paddedTail data = remainder 64 data ++ padding data.length := by
  have hlength : ((remainder 64 data ++ [0x80]).length + zeroCount data.length) % 64 = 56 := by
    rw [List.length_append, length_remainder, List.length_singleton, zeroCount]
    omega
  have hcount : zeroCount data.length < 64 := Nat.mod_lt _ (by omega)
  rw [paddedTail, pushZeros_eq hcount.le hcount hlength, padding]
  simp only [List.append_assoc, List.cons_append, List.nil_append]

variable (number : BitVec 64)

@[simp] theorem length_toBeBytes : (toBeBytes number).length = 8 := by
  simp [toBeBytes]

theorem length_paddedBytes : 64 ∣ (paddedBytes data).length := by
  rw [paddedBytes, List.length_append, padding, List.length_append, List.length_cons,
    List.length_replicate, length_toBeBytes, zeroCount]
  omega

/-- The streamed blocks and those of the tail are the blocks of the padded input. -/
theorem blocks_eq : blocks data = chunksExact 64 (paddedBytes data) := by
  have hwhole : (data.take (64 * (data.length / 64))).length = 64 * (data.length / 64) := by
    rw [List.length_take]
    omega
  have hdata : data = data.take (64 * (data.length / 64)) ++ remainder 64 data :=
    (List.take_append_drop _ _).symm
  have hrest : chunksExact 64 (remainder 64 data) = [] := by
    rw [chunksExact, length_remainder, Nat.div_eq_of_lt (Nat.mod_lt _ (by omega)), List.range_zero,
      List.map_nil]
  have hdvd : 64 ∣ (data.take (64 * (data.length / 64))).length := by
    rw [hwhole]
    exact Nat.dvd_mul_right 64 _
  have hstreamed : chunksExact 64 data = chunksExact 64 (data.take (64 * (data.length / 64))) := by
    conv_lhs => rw [hdata]
    rw [chunksExact_append (by omega) hdvd, hrest, List.append_nil]
  have hpadded : paddedBytes data = data.take (64 * (data.length / 64)) ++ paddedTail data := by
    rw [paddedTail_eq, ← List.append_assoc, ← hdata, paddedBytes]
  rw [blocks, hstreamed, hpadded, chunksExact_append (by omega) hdvd]

/-! ## Its bits -/

theorem bitsOf_mod (width number : Nat) :
    bitsOf width (number % 2 ^ width) = bitsOf width number := by
  refine List.map_congr_left fun i hi => ?_
  have hlt : i < width := List.mem_range.mp (List.mem_reverse.mp hi)
  rw [Nat.testBit_mod_two_pow, decide_eq_true hlt, Bool.true_and]

theorem messageBits_bytes (count : Nat) :
    messageBits ((List.range count).reverse.map fun i => (number >>> (8 * i)).setWidth 8) =
      bitsOf (8 * count) number.toNat := by
  induction count with
  | zero => rfl
  | succ count ih =>
    have hbyte : bitsOf 8 ((number >>> (8 * count)).setWidth 8 : Byte).toNat =
        bitsOf 8 (number.toNat / 2 ^ (8 * count)) := by
      rw [BitVec.toNat_setWidth, BitVec.toNat_ushiftRight, Nat.shiftRight_eq_div_pow, bitsOf_mod]
    rw [List.range_succ, List.reverse_concat, List.map_cons, messageBits_cons, ih, hbyte,
      Nat.mul_succ, Nat.add_comm, bitsOf_add]

theorem messageBits_toBeBytes : messageBits (toBeBytes number) = bitsOf 64 number.toNat :=
  messageBits_bytes number 8

theorem messageBits_zeros (count : Nat) :
    messageBits (List.replicate count 0) = List.replicate (8 * count) false := by
  induction count with
  | zero => rfl
  | succ count ih =>
    rw [List.replicate_succ, messageBits_cons, ih, Nat.mul_succ, Nat.add_comm, List.replicate_add]
    rfl

/-- The number whose bytes end the padding: the length in bits. -/
theorem lengthBits_toNat {length : Nat} (h : length < 2 ^ 61) :
    (BitVec.ofNat 64 length * 8).toNat = 8 * length := by
  have hlt : 8 * length < 2 ^ 64 := by omega
  rw [BitVec.toNat_mul, BitVec.toNat_ofNat, Nat.mod_eq_of_lt (by omega : length < 2 ^ 64)]
  change length * 8 % 2 ^ 64 = 8 * length
  rw [Nat.mul_comm, Nat.mod_eq_of_lt hlt]

/-- The padded input is the padded message. -/
theorem messageBits_paddedBytes {data : List Byte} (hlength : data.length < 2 ^ 61) :
    messageBits (paddedBytes data) = pad (messageBits data) := by
  have hzeros : zeros (messageBits data).length = 7 + 8 * zeroCount data.length := by
    rw [length_messageBits]
    refine Fips180.zeros_eq ?_ ?_
    · have hcount : zeroCount data.length < 64 := Nat.mod_lt _ (by omega)
      omega
    · rw [zeroCount]
      omega
  have hfirst : bitsOf 8 (0x80 : Byte).toNat = true :: List.replicate 7 false := by decide
  rw [paddedBytes, padding, messageBits_append, messageBits_append, messageBits_cons,
    messageBits_zeros,
    messageBits_toBeBytes, lengthBits_toNat hlength, pad, hzeros, List.replicate_add, hfirst,
    length_messageBits]
  simp only [List.append_assoc, List.cons_append]

/-- Distinct inputs are padded to distinct blocks. -/
theorem blocks_injective {data other : List Byte} (hdata : data.length < 2 ^ 61)
    (hother : other.length < 2 ^ 61) (h : blocks data = blocks other) : data = other := by
  have hpadded : paddedBytes data = paddedBytes other := by
    rw [← flatten_chunksExact (length_paddedBytes data),
      ← flatten_chunksExact (length_paddedBytes other),
      ← blocks_eq, ← blocks_eq, h]
  have hends : ∀ input : List Byte, paddedBytes input =
      (input ++ 0x80 :: List.replicate (zeroCount input.length) 0) ++ toBeBytes
        (BitVec.ofNat 64 input.length * 8) := by
    intro input
    rw [paddedBytes, padding, List.append_assoc]
  -- the last eight bytes give the length back
  have htail : toBeBytes (BitVec.ofNat 64 data.length * 8) =
      toBeBytes (BitVec.ofNat 64 other.length * 8) := by
    rw [hends data, hends other] at hpadded
    exact (List.append_inj' hpadded (by rw [length_toBeBytes, length_toBeBytes])).2
  have hbits : bitsOf 64 (8 * data.length) = bitsOf 64 (8 * other.length) := by
    rw [← lengthBits_toNat hdata, ← lengthBits_toNat hother, ← messageBits_toBeBytes,
      ← messageBits_toBeBytes, htail]
  have hmod : 8 * data.length % 2 ^ 64 = 8 * other.length % 2 ^ 64 := by
    rw [← bitsValue_bitsOf, ← bitsValue_bitsOf, hbits]
  have hlength : data.length = other.length := by omega
  exact (List.append_inj hpadded hlength).1

end Stutter.Hash

import Mathlib.Data.List.Basic

/-! # Text as bytes

Decoding a whole read with replacement characters, and decoding that refuses, both told by the
encoding of a text.  The bytes are decoded one character at a time by
`ByteArray.utf8DecodeChar?`. -/
namespace Utf8Text

/-- The bytes of a text. -/
def encode (text : List Char) : List UInt8 := text.flatMap String.utf8EncodeChar

/-- The characters of bytes that are a text. -/
def strict (bytes : List UInt8) : Option (List Char) :=
  bytes.toByteArray.utf8Decode?.map Array.toList

def isContinuation (byte : UInt8) : Bool := decide (0x80 ≤ byte ∧ byte ≤ 0xBF)

/-- The second byte that a first byte allows, and how many bytes the character has. -/
def secondByte (first : UInt8) : Option ((UInt8 → Bool) × Nat) :=
  if 0xC2 ≤ first ∧ first ≤ 0xDF then some (isContinuation, 2)
  else if first = 0xE0 then some (fun byte => decide (0xA0 ≤ byte ∧ byte ≤ 0xBF), 3)
  else if first = 0xED then some (fun byte => decide (0x80 ≤ byte ∧ byte ≤ 0x9F), 3)
  else if 0xE1 ≤ first ∧ first ≤ 0xEF then some (isContinuation, 3)
  else if first = 0xF0 then some (fun byte => decide (0x90 ≤ byte ∧ byte ≤ 0xBF), 4)
  else if 0xF1 ≤ first ∧ first ≤ 0xF3 then some (isContinuation, 4)
  else if first = 0xF4 then some (fun byte => decide (0x80 ≤ byte ∧ byte ≤ 0x8F), 4)
  else none

/-- How many bytes of a broken character one replacement stands for: the longest start of a
character. -/
def brokenLength : List UInt8 → Nat
  | [] => 0
  | [_] => 1
  | first :: second :: rest =>
    match secondByte first with
    | none => 1
    | some (allows, size) =>
      if allows second then 2 + ((rest.take (size - 3)).takeWhile isContinuation).length else 1

def replacement : Char := Char.ofNat 0xFFFD

/-- `String::from_utf8_lossy`. -/
def lossy : List UInt8 → List Char
  | [] => []
  | first :: rest =>
    match (first :: rest).toByteArray.utf8DecodeChar? 0 with
    | some c => c :: lossy (rest.drop (c.utf8Size - 1))
    | none => replacement :: lossy (rest.drop (brokenLength (first :: rest) - 1))
  termination_by bytes => bytes.length

theorem encode_append (text more : List Char) :
    encode (text ++ more) = encode text ++ encode more :=
  List.flatMap_append

theorem strict_encode (text : List Char) : strict (encode text) = some text := by
  have hbytes : (encode text).toByteArray = text.utf8Encode := rfl
  rw [strict, hbytes, List.utf8Decode?_utf8Encode, Option.map_some]

theorem decode_encode_cons (c : Char) (bytes : List UInt8) :
    (String.utf8EncodeChar c ++ bytes).toByteArray.utf8DecodeChar? 0 = some c := by
  rw [List.toByteArray_append]
  exact ByteArray.utf8DecodeChar?_utf8EncodeChar_append

theorem lossy_encode (text : List Char) : lossy (encode text) = text := by
  induction text with
  | nil => rw [encode, List.flatMap_nil, lossy]
  | cons c text ih =>
    have hdecode := decode_encode_cons c (encode text)
    have hlength := String.length_utf8EncodeChar c
    rw [encode, List.flatMap_cons]
    cases hbytes : String.utf8EncodeChar c with
    | nil => exact absurd hbytes String.utf8EncodeChar_ne_nil
    | cons first more =>
      rw [hbytes, List.cons_append] at hdecode
      rw [hbytes, List.length_cons] at hlength
      have hsize : c.utf8Size - 1 = more.length := by omega
      rw [List.cons_append, lossy]
      have htail : text.flatMap String.utf8EncodeChar = encode text := rfl
      rw [htail, hdecode]
      dsimp only
      rw [hsize, List.drop_left, ih]

/-- Only the line feed is written with the byte 10. -/
theorem newline_not_mem {c : Char} (hc : c ≠ '\n') : (10 : UInt8) ∉ String.utf8EncodeChar c := by
  intro hmem
  obtain ⟨i, hi, hbyte⟩ := List.getElem_of_mem hmem
  have hfirst : (String.utf8EncodeChar c)[i].IsUTF8FirstByte := by
    rw [hbyte]
    decide
  obtain rfl := UInt8.isUTF8FirstByte_getElem_utf8EncodeChar.mp hfirst
  cases hbytes : String.utf8EncodeChar c with
  | nil => exact absurd hbytes String.utf8EncodeChar_ne_nil
  | cons first more =>
    have hten : first = 10 := by
      simpa only [hbytes, List.getElem_cons_zero] using hbyte
    -- what starts with the byte 10 is decoded as a line feed
    have hchar := decode_encode_cons c []
    have hnewline := decode_encode_cons '\n' more
    have hencoded : String.utf8EncodeChar '\n' = [10] := by
      decide
    rw [hbytes, hten, List.append_nil] at hchar
    rw [hencoded, List.singleton_append, hchar] at hnewline
    exact hc (Option.some.inj hnewline)

end Utf8Text

import Mathlib.Data.List.Basic
import Mathlib.Tactic.Common
import StutterProof.PlaceValue

/-! # The hash of a binary

`sha256_hex` works the whole blocks of its input as they are, and pads what remains of it into one
or two more.  `blocks` is every block that it works. -/
namespace Stutter.Hash

open PlaceValue (places)

abbrev U32 := BitVec 32
abbrev Byte := BitVec 8

def K : List U32 := [
  0x428a2f98, 0x71374491, 0xb5c0fbcf, 0xe9b5dba5, 0x3956c25b, 0x59f111f1, 0x923f82a4, 0xab1c5ed5,
  0xd807aa98, 0x12835b01, 0x243185be, 0x550c7dc3, 0x72be5d74, 0x80deb1fe, 0x9bdc06a7, 0xc19bf174,
  0xe49b69c1, 0xefbe4786, 0x0fc19dc6, 0x240ca1cc, 0x2de92c6f, 0x4a7484aa, 0x5cb0a9dc, 0x76f988da,
  0x983e5152, 0xa831c66d, 0xb00327c8, 0xbf597fc7, 0xc6e00bf3, 0xd5a79147, 0x06ca6351, 0x14292967,
  0x27b70a85, 0x2e1b2138, 0x4d2c6dfc, 0x53380d13, 0x650a7354, 0x766a0abb, 0x81c2c92e, 0x92722c85,
  0xa2bfe8a1, 0xa81a664b, 0xc24b8b70, 0xc76c51a3, 0xd192e819, 0xd6990624, 0xf40e3585, 0x106aa070,
  0x19a4c116, 0x1e376c08, 0x2748774c, 0x34b0bcb5, 0x391c0cb3, 0x4ed8aa4a, 0x5b9cca4f, 0x682e6ff3,
  0x748f82ee, 0x78a5636f, 0x84c87814, 0x8cc70208, 0x90befffa, 0xa4506ceb, 0xbef9a3f7, 0xc67178f2]

/-! ## Slices -/

/-- `chunks_exact`. -/
def chunksExact {α : Type} (size : Nat) (xs : List α) : List (List α) :=
  (List.range (xs.length / size)).map fun i => (xs.drop (size * i)).take size

/-- What `chunks_exact` leaves. -/
def remainder {α : Type} (size : Nat) (xs : List α) : List α := xs.drop (size * (xs.length / size))

def fromBeBytes (word : List Byte) : U32 :=
  word.getD 0 0 ++ word.getD 1 0 ++ word.getD 2 0 ++ word.getD 3 0

def toBeBytes (number : BitVec 64) : List Byte :=
  (List.range 8).reverse.map fun i => (number >>> (8 * i)).setWidth 8

/-- `{word:08x}`. -/
def hex08 (word : U32) : List Char := (places 16 8 word.toNat).map Nat.digitChar

/-! ## compress -/

def loadWords (block : List Byte) : List U32 :=
  (chunksExact 4 block).zipIdx.foldl (fun w (word, index) => w.set index (fromBeBytes word))
    (List.replicate 64 0)

def extendWord (w : List U32) (index : Nat) : List U32 :=
  let back (n : Nat) : U32 := w.getD (index - n) 0
  let s0 := (back 15).rotateRight 7 ^^^ (back 15).rotateRight 18 ^^^ back 15 >>> 3
  let s1 := (back 2).rotateRight 17 ^^^ (back 2).rotateRight 19 ^^^ back 2 >>> 10
  w.set index (back 16 + s0 + back 7 + s1)

/-- The `[u32; 8]` of a state, by its names in `compress`. -/
structure State where
  (a b c d e f g h : U32)

def State.words (state : State) : List U32 :=
  [state.a, state.b, state.c, state.d, state.e, state.f, state.g, state.h]

def compressRound (w : List U32) (state : State) (index : Nat) : State :=
  let ⟨a, b, c, d, e, f, g, h⟩ := state
  let s1 := e.rotateRight 6 ^^^ e.rotateRight 11 ^^^ e.rotateRight 25
  let ch := (e &&& f) ^^^ (~~~e &&& g)
  let t1 := h + s1 + ch + K.getD index 0 + w.getD index 0
  let s0 := a.rotateRight 2 ^^^ a.rotateRight 13 ^^^ a.rotateRight 22
  let maj := (a &&& b) ^^^ (a &&& c) ^^^ (b &&& c)
  let t2 := s0 + maj
  ⟨t1 + t2, a, b, c, d + t1, e, f, g⟩

def compress (state : State) (block : List Byte) : State :=
  let w := (List.range' 16 48).foldl extendWord (loadWords block)
  let worked := (List.range 64).foldl (compressRound w) state
  ⟨state.a + worked.a, state.b + worked.b, state.c + worked.c, state.d + worked.d,
    state.e + worked.e, state.f + worked.f, state.g + worked.g, state.h + worked.h⟩

/-! ## sha256_hex -/

/-- The loop that pushes zeros, which ends within so many turns. -/
def pushZeros : Nat → List Byte → List Byte
  | 0, tail => tail
  | fuel + 1, tail => if tail.length % 64 ≠ 56 then pushZeros fuel (tail ++ [0]) else tail

def paddedTail (data : List Byte) : List Byte :=
  pushZeros 64 (remainder 64 data ++ [0x80]) ++ toBeBytes (BitVec.ofNat 64 data.length * 8)

def initialState : State :=
  ⟨0x6a09e667, 0xbb67ae85, 0x3c6ef372, 0xa54ff53a, 0x510e527f, 0x9b05688c, 0x1f83d9ab, 0x5be0cd19⟩

def sha256State (data : List Byte) : State :=
  (chunksExact 64 (paddedTail data)).foldl compress
    ((chunksExact 64 data).foldl compress initialState)

def sha256Hex (data : List Byte) : List Char := (sha256State data).words.flatMap hex08

example : sha256Hex [] =
    "e3b0c44298fc1c149afbf4c8996fb92427ae41e4649b934ca495991b7852b855".toList := by
  decide +kernel

/-- Every block that is worked. -/
def blocks (data : List Byte) : List (List Byte) :=
  chunksExact 64 data ++ chunksExact 64 (paddedTail data)

theorem sha256State_eq (data : List Byte) :
    sha256State data = (blocks data).foldl compress initialState := by
  rw [sha256State, blocks, List.foldl_append]

end Stutter.Hash

import Mathlib.Data.List.FinRange
import Mathlib.Data.List.TakeWhile
import StutterProof.ActiveConfig
import StutterProof.BitWords
import StutterProof.Runs

/-! # CPU masks as word vectors

A CPU mask is the vector of 64-bit words that it is in memory.  The vector is private to the type:
every constructor sets bits of CPUs below `CPU_SETSIZE` only and leaves no zero word at the end, and
this is part of the structure. -/
namespace Stutter.Affinity
open ActiveConfig (trim splitOnce parseU32 cpuSetSize)

def wordBits : Nat := 64

/-- A set of CPUs, as words with no zero word last. -/
structure CpuMask where
  words : List (BitVec wordBits)
  trimmed : BitWords.Trimmed words
  bounded : words.length ≤ cpuSetSize / wordBits

/-- Why a list of CPUs is refused. -/
inductive CpuMaskError where
  | invalidCpu (value : String)
  | outsideSupported (cpu : Nat)
  | startAfterEnd (part : String)
  | noCpu

/-- A CPU number that `parse_cpu` lets through. -/
abbrev Cpu := Fin cpuSetSize

namespace CpuMask

@[ext] theorem ext {mask other : CpuMask} (h : mask.words = other.words) : mask = other := by
  cases mask
  cases other
  cases h
  rfl

def empty : CpuMask := ⟨[], BitWords.trimmed_nil, Nat.zero_le _⟩

theorem length_insert_le {words : List (BitVec wordBits)} (h : words.length ≤ cpuSetSize / wordBits)
    (cpu : Cpu) : (BitWords.insert words cpu).length ≤ cpuSetSize / wordBits := by
  have hcpu : cpu.val / wordBits < cpuSetSize / wordBits :=
    Nat.div_lt_of_lt_mul (by simpa [cpuSetSize, wordBits] using cpu.isLt)
  rw [BitWords.insert, List.length_modify, BitWords.length_padTo]
  exact Nat.max_le.mpr ⟨h, hcpu⟩

def set (mask : CpuMask) (cpu : Cpu) : CpuMask where
  words := BitWords.insert mask.words cpu
  trimmed := BitWords.trimmed_insert (by decide) mask.trimmed cpu
  bounded := length_insert_le mask.bounded cpu

/-- `from_legacy_bits`: masks were once saved as one number. -/
def fromLegacyBits (bits : BitVec wordBits) : CpuMask :=
  if h : bits = 0 then empty
  else ⟨[bits], by rintro _ ⟨rfl⟩; exact h, show 1 ≤ 16 by decide⟩

def contains (mask : CpuMask) (cpu : Nat) : Bool := BitWords.testBit mask.words cpu

def isSubsetOf (mask other : CpuMask) : Bool := BitWords.isSubset mask.words other.words

def isEmpty (mask : CpuMask) : Bool := BitWords.isZero mask.words

def cpus (mask : CpuMask) : List Nat := (List.range cpuSetSize).filter mask.contains

/-! ## Texts -/

def renderRange (range : Nat × Nat) : String :=
  if range.1 = range.2 then toString range.1 else s!"{range.1}-{range.2}"

def renderRanges (ranges : List (Nat × Nat)) : String := ",".intercalate (ranges.map renderRange)

def toRangeString (mask : CpuMask) : String :=
  renderRanges (ActiveConfig.CpuMask.ranges mask.cpus none)

def parseCpu (value : List Char) : Except CpuMaskError Cpu :=
  match parseU32 (trim value) with
  | none => .error (.invalidCpu (String.ofList value))
  | some cpu => if h : cpu < cpuSetSize then .ok ⟨cpu, h⟩ else .error (.outsideSupported cpu)

/-- The two ends of one part. -/
def parseRange (part : List Char) : Except CpuMaskError (Cpu × Cpu) :=
  match splitOnce '-' part with
  | some (start, stop) => do
    let start ← parseCpu start
    let stop ← parseCpu stop
    return (start, stop)
  | none => do
    let cpu ← parseCpu part
    return (cpu, cpu)

/-- The CPUs of `start..=end`. -/
def rangeInclusive (start stop : Cpu) : List Cpu :=
  (List.finRange cpuSetSize).filter fun cpu => start ≤ cpu && cpu ≤ stop

/-- One turn of the loop of `parse`. -/
def parsePart (mask : CpuMask) (part : List Char) : Except CpuMaskError CpuMask := do
  let (start, stop) ← parseRange part
  if stop < start then throw (.startAfterEnd (String.ofList part))
  return (rangeInclusive start stop).foldl set mask

def parts (text : String) : List (List Char) :=
  ((text.toList.splitOn ',').map trim).filter (!·.isEmpty)

def parse (text : String) : Except CpuMaskError CpuMask := do
  let mask ← (parts text).foldlM parsePart empty
  if mask.isEmpty then throw .noCpu
  return mask

/-! ## Saved masks -/

/-- What a saved mask is read from. -/
inductive Saved where
  | text (value : String)
  | number (bits : BitVec wordBits)

def serialize (mask : CpuMask) : Saved := .text mask.toRangeString

def deserialize : Saved → Except CpuMaskError CpuMask
  | .text value => parse value
  | .number bits => .ok (fromLegacyBits bits)

/-! ## Masks as sets -/

variable {mask other : CpuMask} {text : String}

theorem contains_set (mask : CpuMask) (cpu : Cpu) (n : Nat) :
    (mask.set cpu).contains n = (decide (n = cpu) || mask.contains n) :=
  BitWords.testBit_insert (by decide) cpu n

theorem contains_foldl_set (cpus : List Cpu) (mask : CpuMask) (n : Nat) :
    (cpus.foldl set mask).contains n = true ↔
      (∃ cpu ∈ cpus, n = cpu.val) ∨ mask.contains n = true := by
  induction cpus generalizing mask with
  | nil => simp
  | cons cpu rest ih =>
    rw [List.foldl_cons, ih, contains_set, Bool.or_eq_true, decide_eq_true_iff,
      List.exists_mem_cons_iff, or_left_comm, or_assoc]

/-- Two masks are equal if they hold the same CPUs. -/
theorem eq_of_contains (h : ∀ n, mask.contains n = other.contains n) : mask = other :=
  ext (BitWords.eq_of_testBit (by decide) mask.trimmed other.trimmed h)

theorem lt_of_contains {n : Nat} (h : mask.contains n = true) : n < cpuSetSize := by
  by_contra hge
  have hword : mask.words.length ≤ n / wordBits := by
    refine Nat.le_trans mask.bounded (Nat.div_le_div_right ?_)
    omega
  rw [contains, BitWords.testBit, List.getElem?_eq_none hword] at h
  cases h

@[simp] theorem mem_cpus {n : Nat} : n ∈ mask.cpus ↔ mask.contains n = true := by
  rw [cpus, List.mem_filter, List.mem_range]
  exact ⟨fun h => h.2, fun h => ⟨lt_of_contains h, h⟩⟩

theorem ascending_cpus (mask : CpuMask) : mask.cpus.Pairwise (· < ·) :=
  List.pairwise_lt_range.filter _

theorem isEmpty_iff : mask.isEmpty = true ↔ ∀ n, mask.contains n = false :=
  BitWords.isZero_iff (by decide)

theorem isSubsetOf_iff :
    mask.isSubsetOf other = true ↔ ∀ n, mask.contains n = true → other.contains n = true :=
  BitWords.isSubset_iff (by decide)

/-! ## Ranges -/

open Runs

theorem ranges_eq_runsFrom (numbers : List Nat) (first last : Nat) :
    ActiveConfig.CpuMask.ranges numbers (some (first, last)) =
      runsFrom first last numbers := by
  induction numbers generalizing first last with
  | nil => rfl
  | cons n rest ih => simp only [ActiveConfig.CpuMask.ranges, runsFrom, ih]

theorem ranges_eq_runs (numbers : List Nat) :
    ActiveConfig.CpuMask.ranges numbers none = runs numbers := by
  cases numbers with
  | nil => rfl
  | cons n rest => exact ranges_eq_runsFrom rest n n

theorem toRangeString_eq (mask : CpuMask) :
    mask.toRangeString = renderRanges (runs mask.cpus) := by
  rw [toRangeString, ranges_eq_runs]

variable (n : Nat)

theorem covers_runs_cpus : Covers (runs mask.cpus) n ↔ mask.contains n = true := by
  rw [covers_runs (ascending_cpus mask), mem_cpus]

/-! ## Digits -/

/-- The characters of a range's text. -/
def isRangeChar (c : Char) : Bool := c.isDigit || c == '-'

theorem not_isTrimmed_of_isRangeChar {c : Char} (h : isRangeChar c = true) :
    isTrimmed c = false := by
  have hnat : (48 ≤ c.toNat ∧ c.toNat ≤ 57) ∨ c.toNat = 45 := by
    rw [isRangeChar, Bool.or_eq_true] at h
    obtain hdigit | hdash := h
    · left
      exact Char.isDigit_iff_toNat.mp hdigit
    · right
      rw [eq_of_beq hdash]
      rfl
  refine Bool.eq_false_iff.mpr fun htrimmed => ?_
  simp only [isTrimmed, Bool.or_eq_true, Bool.and_eq_true, decide_eq_true_eq,
    beq_iff_eq] at htrimmed
  omega

theorem trim_eq_self {chars : List Char} (h : chars.all isRangeChar = true) :
    trim chars = chars := by
  have hkeep : ∀ {l : List Char}, l.all isRangeChar = true → l.dropWhile isTrimmed = l := by
    intro l hl
    cases l with
    | nil => rfl
    | cons c rest =>
      rw [List.all_cons, Bool.and_eq_true] at hl
      rw [List.dropWhile_cons_of_neg]
      rw [not_isTrimmed_of_isRangeChar hl.1]
      exact Bool.false_ne_true
  rw [trim, hkeep h, hkeep (by rwa [List.all_reverse]), List.reverse_reverse]

theorem toList_toString : (toString n).toList = Nat.toDigits 10 n := by
  rw [Nat.toString_eq_repr, Nat.toList_repr]

theorem all_isDigit_toDigits : (Nat.toDigits 10 n).all Char.isDigit = true :=
  List.all_eq_true.mpr fun _ hmem => Nat.isDigit_of_mem_toDigits (by decide) (by decide) hmem

theorem all_isRangeChar_toDigits : (Nat.toDigits 10 n).all isRangeChar = true := by
  refine List.all_eq_true.mpr fun c hmem => ?_
  rw [isRangeChar, List.all_eq_true.mp (all_isDigit_toDigits n) c hmem, Bool.true_or]

theorem not_mem_toDigits {c : Char} (hc : c.isDigit = false) (n : Nat) : c ∉ Nat.toDigits 10 n := by
  intro hmem
  rw [List.all_eq_true.mp (all_isDigit_toDigits n) c hmem] at hc
  cases hc

theorem foldl_digits_eq (digits : List Char) (n : Nat) :
    digits.foldl (fun n c => n * 10 + (c.toNat - '0'.toNat)) n = Nat.ofDigitChars 10 digits n := by
  rw [Nat.ofDigitChars_eq_foldl]
  congr 1
  funext sofar c
  rw [Nat.mul_comm]

theorem parseU32_toDigits {n : Nat} (hn : n < 2 ^ 32) : parseU32 (Nat.toDigits 10 n) = some n := by
  have hempty : (Nat.toDigits 10 n).isEmpty = false := by
    rw [List.isEmpty_eq_false_iff]
    exact Nat.toDigits_ne_nil
  simp only [parseU32]
  split
  · next rest hdigits =>
    have hplus := not_mem_toDigits (c := '+') (by decide) n
    rw [hdigits] at hplus
    exact absurd List.mem_cons_self hplus
  · rw [foldl_digits_eq, Nat.ofDigitChars_ten_toDigits, hempty, all_isDigit_toDigits, if_pos hn]
    rfl

theorem parseCpu_toDigits (cpu : Cpu) : parseCpu (Nat.toDigits 10 cpu) = .ok cpu := by
  have hcpu : cpu.val < 2 ^ 32 := Nat.lt_trans cpu.isLt (by decide)
  unfold parseCpu
  rw [trim_eq_self (all_isRangeChar_toDigits _), parseU32_toDigits hcpu]
  exact dif_pos cpu.isLt

/-! ## The text of one range -/

theorem toList_renderRange_single : (renderRange (n, n)).toList = Nat.toDigits 10 n := by
  rw [renderRange, if_pos rfl, toList_toString]

theorem toList_renderRange {range : Nat × Nat} (h : range.1 ≠ range.2) :
    (renderRange range).toList = Nat.toDigits 10 range.1 ++ '-' :: Nat.toDigits 10 range.2 := by
  rw [renderRange, if_neg h]
  simp only [String.toList_append, toList_toString, List.append_assoc]
  rfl

theorem ne_dash_of_mem_toDigits : ∀ c ∈ Nat.toDigits 10 n, decide (c ≠ '-') = true := by
  intro c hmem
  refine decide_eq_true fun hc => ?_
  exact not_mem_toDigits (by decide) n (hc ▸ hmem)

theorem splitOnce_digits : splitOnce '-' (Nat.toDigits 10 n) = none := by
  rw [splitOnce, List.dropWhile_eq_nil_iff.mpr (ne_dash_of_mem_toDigits n)]

theorem splitOnce_dash (rest : List Char) :
    splitOnce '-' (Nat.toDigits 10 n ++ '-' :: rest) = some (Nat.toDigits 10 n, rest) := by
  have hdash := ne_dash_of_mem_toDigits n
  rw [splitOnce, List.dropWhile_append_of_pos hdash, List.takeWhile_append_of_pos hdash,
    List.dropWhile_cons_of_neg (by simp), List.takeWhile_cons_of_neg (by simp), List.append_nil]

theorem parseRange_renderRange (start stop : Cpu) :
    parseRange (renderRange (start, stop)).toList = .ok (start, stop) := by
  by_cases h : start.val = stop.val
  · obtain rfl : start = stop := Fin.ext h
    rw [toList_renderRange_single, parseRange, splitOnce_digits]
    simp only [parseCpu_toDigits]
    rfl
  · rw [toList_renderRange h, parseRange, splitOnce_dash]
    simp only [parseCpu_toDigits]
    rfl

theorem all_isRangeChar_renderRange (range : Nat × Nat) :
    (renderRange range).toList.all isRangeChar = true := by
  by_cases h : range.1 = range.2
  · rw [renderRange, if_pos h, toList_toString]
    exact all_isRangeChar_toDigits _
  · rw [toList_renderRange h, List.all_append, List.all_cons, all_isRangeChar_toDigits,
      all_isRangeChar_toDigits]
    rfl

theorem toList_renderRange_ne_nil (range : Nat × Nat) : (renderRange range).toList ≠ [] := by
  by_cases h : range.1 = range.2
  · rw [renderRange, if_pos h, toList_toString]
    exact Nat.toDigits_ne_nil
  · rw [toList_renderRange h]
    exact List.append_ne_nil_of_left_ne_nil Nat.toDigits_ne_nil _

/-- The parts of a printed mask are the texts of its ranges. -/
theorem parts_renderRanges (ranges : List (Nat × Nat)) :
    parts (renderRanges ranges) = ranges.map fun range => (renderRange range).toList := by
  by_cases hranges : ranges = []
  · subst hranges
    decide
  have hcomma : ∀ part ∈ (ranges.map renderRange).map String.toList, ',' ∉ part := by
    intro part hpart hmem
    obtain ⟨_, htext, rfl⟩ := List.mem_map.mp hpart
    obtain ⟨range, -, rfl⟩ := List.mem_map.mp htext
    have hchar := List.all_eq_true.mp (all_isRangeChar_renderRange range) _ hmem
    exact absurd hchar (by decide)
  have hsplit : (renderRanges ranges).toList.splitOn ',' =
      ranges.map fun range => (renderRange range).toList := by
    rw [renderRanges, String.toList_intercalate]
    refine (List.splitOn_intercalate ',' hcomma ?_).trans (List.map_map ..)
    simpa using hranges
  rw [parts, hsplit, List.map_map]
  have htrim : (trim ∘ fun range => (renderRange range).toList) = fun range =>
      (renderRange range).toList :=
    funext fun range => trim_eq_self (all_isRangeChar_renderRange range)
  rw [htrim, List.filter_eq_self]
  intro part hpart
  obtain ⟨range, -, rfl⟩ := List.mem_map.mp hpart
  simpa using toList_renderRange_ne_nil range

/-! ## Reading a text -/

theorem mem_rangeInclusive {start stop cpu : Cpu} :
    cpu ∈ rangeInclusive start stop ↔ start ≤ cpu ∧ cpu ≤ stop := by
  simp [rangeInclusive]

theorem contains_rangeInclusive (mask : CpuMask) (start stop : Cpu) (n : Nat) :
    ((rangeInclusive start stop).foldl set mask).contains n = true ↔
      (start.val ≤ n ∧ n ≤ stop.val) ∨ mask.contains n = true := by
  rw [contains_foldl_set]
  refine or_congr_left ⟨?_, ?_⟩
  · rintro ⟨cpu, hmem, rfl⟩
    exact mem_rangeInclusive.mp hmem
  · rintro ⟨hstart, hstop⟩
    exact ⟨⟨n, Nat.lt_of_le_of_lt hstop stop.isLt⟩, mem_rangeInclusive.mpr ⟨hstart, hstop⟩, rfl⟩

theorem parsePart_eq_ok {part : List Char} {after : CpuMask} :
    parsePart mask part = .ok after ↔ ∃ range, parseRange part = .ok range ∧ range.1 ≤ range.2 ∧
      after = (rangeInclusive range.1 range.2).foldl set mask := by
  unfold parsePart
  cases parseRange part with
  | error e => exact ⟨nofun, nofun⟩
  | ok range =>
    by_cases h : range.2 < range.1
    · refine ⟨fun hok => ?_, ?_⟩
      · simp [h, bind, Except.bind, throw, throwThe, MonadExceptOf.throw] at hok
      · rintro ⟨_, ⟨rfl⟩, hle, -⟩
        exact absurd h (Fin.not_lt.mpr hle)
    · constructor
      · intro hok
        simp only [bind, Except.bind, h, if_false, pure, Except.pure, Except.ok.injEq] at hok
        exact ⟨range, rfl, Fin.not_lt.mp h, hok.symm⟩
      · rintro ⟨parsed, hparsed, -, hafter⟩
        obtain rfl := Except.ok.inj hparsed
        rw [hafter]
        simp only [bind, Except.bind, h, if_false, pure, Except.pure]

/-- The numbers that some part of a list denotes. -/
def DenotedBy (list : List (List Char)) (n : Nat) : Prop :=
  ∃ part ∈ list, ∃ range, parseRange part = .ok range ∧ range.1.val ≤ n ∧ n ≤ range.2.val

/-- The CPUs that a text denotes: those of its ranges. -/
def Denotes (text : String) (cpu : Nat) : Prop := DenotedBy (parts text) cpu

theorem contains_foldlM_parsePart {list : List (List Char)} {after : CpuMask}
    (h : list.foldlM parsePart mask = .ok after) (n : Nat) :
    after.contains n = true ↔ DenotedBy list n ∨ mask.contains n = true := by
  induction list generalizing mask with
  | nil =>
    obtain rfl : mask = after := Except.ok.inj h
    simp [DenotedBy]
  | cons part rest ih =>
    rw [List.foldlM_cons] at h
    cases hpart : parsePart mask part with
    | error e =>
      rw [hpart] at h
      cases h
    | ok next =>
      rw [hpart] at h
      obtain ⟨range, hrange, -, hnext⟩ := parsePart_eq_ok.mp hpart
      rw [ih h, hnext, contains_rangeInclusive, DenotedBy, DenotedBy, List.exists_mem_cons_iff,
        hrange]
      simp only [Except.ok.injEq, exists_eq_left']
      rw [or_left_comm, or_assoc]

theorem foldlM_parsePart_ok {list : List (List Char)}
    (h : ∀ part ∈ list, ∃ range, parseRange part = .ok range ∧ range.1 ≤ range.2) (mask : CpuMask) :
    ∃ after, list.foldlM parsePart mask = .ok after := by
  induction list generalizing mask with
  | nil => exact ⟨mask, rfl⟩
  | cons part rest ih =>
    obtain ⟨range, hrange, hle⟩ := h part List.mem_cons_self
    rw [List.foldlM_cons, parsePart_eq_ok.mpr ⟨range, hrange, hle, rfl⟩]
    exact ih (fun part hmem => h part (List.mem_cons_of_mem _ hmem)) _

theorem parse_eq_ok : parse text = .ok mask ↔
    (parts text).foldlM parsePart empty = .ok mask ∧ mask.isEmpty = false := by
  unfold parse
  cases (parts text).foldlM parsePart empty with
  | error e => exact ⟨nofun, nofun⟩
  | ok next =>
    simp only [bind, Except.bind]
    cases hempty : next.isEmpty with
    | true =>
      refine ⟨nofun, ?_⟩
      rintro ⟨⟨rfl⟩, h⟩
      rw [hempty] at h
      cases h
    | false =>
      refine ⟨?_, ?_⟩
      · rintro ⟨rfl⟩
        exact ⟨rfl, hempty⟩
      · rintro ⟨⟨rfl⟩, -⟩
        rfl

theorem contains_parse (h : parse text = .ok mask) (n : Nat) :
    mask.contains n = true ↔ Denotes text n := by
  rw [contains_foldlM_parsePart (parse_eq_ok.mp h).1 n]
  exact or_iff_left (by simp [contains, empty])

/-- Ranges in any order, overlapping or not, are read as the numbers they cover. -/
theorem parse_renderRanges {ranges : List (Nat × Nat)} (hranges : ranges ≠ [])
    (h : ∀ range ∈ ranges, range.1 ≤ range.2 ∧ range.2 < cpuSetSize) :
    ∃ mask, parse (renderRanges ranges) = .ok mask ∧
      ∀ n, mask.contains n = true ↔ Covers ranges n := by
  have hparse : ∀ range ∈ ranges, ∃ parsed : Cpu × Cpu,
      parseRange (renderRange range).toList = .ok parsed ∧ parsed.1.val = range.1 ∧
        parsed.2.val = range.2 := by
    rintro ⟨first, last⟩ hmem
    obtain ⟨hle, hlt⟩ := h _ hmem
    have hparsed := parseRange_renderRange ⟨first, Nat.lt_of_le_of_lt hle hlt⟩ ⟨last, hlt⟩
    exact ⟨_, hparsed, rfl, rfl⟩
  have hok : ∀ part ∈ parts (renderRanges ranges), ∃ range, parseRange part = .ok range ∧
      range.1 ≤ range.2 := by
    intro part hpart
    rw [parts_renderRanges] at hpart
    obtain ⟨range, hmem, rfl⟩ := List.mem_map.mp hpart
    obtain ⟨parsed, hparsed, hfirst, hlast⟩ := hparse range hmem
    refine ⟨parsed, hparsed, ?_⟩
    rw [Fin.le_def, hfirst, hlast]
    exact (h range hmem).1
  have hdenoted : ∀ n, DenotedBy (parts (renderRanges ranges)) n ↔ Covers ranges n := by
    intro n
    rw [parts_renderRanges]
    constructor
    · rintro ⟨part, hpart, parsed, hparsed, hn⟩
      obtain ⟨range, hmem, rfl⟩ := List.mem_map.mp hpart
      obtain ⟨parsed', hparsed', hfirst, hlast⟩ := hparse range hmem
      obtain rfl : parsed' = parsed := Except.ok.inj (hparsed'.symm.trans hparsed)
      rw [hfirst, hlast] at hn
      exact ⟨range, hmem, hn⟩
    · rintro ⟨range, hmem, hn⟩
      obtain ⟨parsed, hparsed, hfirst, hlast⟩ := hparse range hmem
      refine ⟨_, List.mem_map_of_mem hmem, parsed, hparsed, ?_⟩
      rwa [hfirst, hlast]
  obtain ⟨mask, hmask⟩ := foldlM_parsePart_ok hok empty
  have hcontains : ∀ n, mask.contains n = true ↔ Covers ranges n := by
    intro n
    rw [contains_foldlM_parsePart hmask n, hdenoted]
    exact or_iff_left (by simp [contains, empty])
  refine ⟨mask, parse_eq_ok.mpr ⟨hmask, ?_⟩, hcontains⟩
  obtain ⟨range, hmem⟩ := List.exists_mem_of_ne_nil ranges hranges
  have hcovered : Covers ranges range.1 := ⟨range, hmem, Nat.le_refl _, (h range hmem).1⟩
  refine Bool.eq_false_iff.mpr fun hempty => ?_
  have habsent := isEmpty_iff.mp hempty range.1
  rw [(hcontains range.1).mpr hcovered] at habsent
  cases habsent

/-! ## The round trip -/

theorem eq_empty_of_isEmpty (h : mask.isEmpty = true) : mask = empty :=
  eq_of_contains fun n => isEmpty_iff.mp h n

theorem runs_cpus_ne_nil (h : mask.isEmpty = false) : runs mask.cpus ≠ [] := by
  intro hruns
  refine Bool.eq_false_iff.mp h (isEmpty_iff.mpr fun n => Bool.eq_false_iff.mpr fun hn => ?_)
  have hcovered := (covers_runs_cpus n).mpr hn
  rw [hruns] at hcovered
  exact not_covers_nil n hcovered

theorem mem_runs_cpus {range : Nat × Nat} (hrange : range ∈ runs mask.cpus) :
    range.1 ≤ range.2 ∧ range.2 < cpuSetSize := by
  have hle := (maximal_runs (ascending_cpus mask)).nonempty range hrange
  have hcovered : Covers (runs mask.cpus) range.2 := ⟨range, hrange, hle, Nat.le_refl _⟩
  exact ⟨hle, lt_of_contains ((covers_runs_cpus _).mp hcovered)⟩

theorem parse_toRangeString (h : mask.isEmpty = false) : parse mask.toRangeString = .ok mask := by
  rw [toRangeString_eq]
  obtain ⟨parsed, hparsed, hcontains⟩ :=
    parse_renderRanges (runs_cpus_ne_nil h) fun range => mem_runs_cpus
  rw [hparsed]
  refine congrArg Except.ok (eq_of_contains fun n => Bool.eq_iff_iff.mpr ?_)
  rw [hcontains, covers_runs_cpus]

/-- The text of the empty mask is the empty text, which `parse` refuses. -/
theorem parse_toRangeString_empty : parse empty.toRangeString = .error .noCpu := by
  have hcpus : empty.cpus = [] := List.filter_eq_nil_iff.mpr fun n _ => Bool.false_ne_true
  rw [toRangeString_eq, hcpus, parse, parts_renderRanges]
  rfl

/-- A mask is read back from what it was saved as, unless it is empty. -/
theorem deserialize_serialize (mask : CpuMask) :
    deserialize mask.serialize = if mask.isEmpty then .error .noCpu else .ok mask := by
  show parse mask.toRangeString = _
  cases h : mask.isEmpty with
  | true =>
    rw [eq_empty_of_isEmpty h, parse_toRangeString_empty]
    rfl
  | false =>
    rw [parse_toRangeString h]
    rfl

theorem toRangeString_injective (h : mask.toRangeString = other.toRangeString) : mask = other := by
  have hread : deserialize mask.serialize = deserialize other.serialize :=
    congrArg (fun text => deserialize (.text text)) h
  rw [deserialize_serialize, deserialize_serialize] at hread
  cases hmask : mask.isEmpty with
  | true =>
    cases hother : other.isEmpty with
    | true => rw [eq_empty_of_isEmpty hmask, eq_empty_of_isEmpty hother]
    | false => simp [hmask, hother] at hread
  | false =>
    cases hother : other.isEmpty with
    | true => simp [hmask, hother] at hread
    | false => simpa [hmask, hother] using hread

theorem toRangeString_inj :
    mask.toRangeString = other.toRangeString ↔ ∀ n, n ∈ mask.cpus ↔ n ∈ other.cpus := by
  constructor
  · intro h n
    rw [toRangeString_injective h]
  · intro h
    have heq : mask = other := eq_of_contains fun n => Bool.eq_iff_iff.mpr (by simpa using h n)
    rw [heq]

theorem isSubsetOf_parse {text' : String} (h : parse text = .ok mask)
    (h' : parse text' = .ok other) :
    mask.isSubsetOf other = true ↔ ∀ n, Denotes text n → Denotes text' n := by
  rw [isSubsetOf_iff]
  refine forall_congr' fun n => ?_
  rw [contains_parse h, contains_parse h']

/-- The mask that a legacy file with the number 0 is read as. -/
theorem legacy_zero_not_reparsed : ¬ ∀ mask : CpuMask, parse mask.toRangeString = .ok mask := by
  intro h
  have hlegacy := h (fromLegacyBits 0)
  rw [fromLegacyBits, dif_pos rfl, parse_toRangeString_empty] at hlegacy
  cases hlegacy

/-- Every mask but the empty one is read back from its text; the text is that of the only maximal
ranges that cover the mask; and what a text is read as holds the CPUs that its ranges denote. -/
theorem toRangeString_laws :
    (∀ mask : CpuMask, parse mask.toRangeString =
      if mask.isEmpty then .error .noCpu else .ok mask) ∧
    (∀ mask : CpuMask, ∃ ranges, mask.toRangeString = renderRanges ranges ∧ Maximal ranges ∧
      ∀ n, Covers ranges n ↔ n ∈ mask.cpus) ∧
    (∀ mask other : CpuMask,
      mask.toRangeString = other.toRangeString ↔ ∀ n, n ∈ mask.cpus ↔ n ∈ other.cpus) ∧
    (∀ ranges, ranges ≠ [] → (∀ range ∈ ranges, range.1 ≤ range.2 ∧ range.2 < cpuSetSize) →
      ∃ mask, parse (renderRanges ranges) = .ok mask ∧ ∀ n, n ∈ mask.cpus ↔ Covers ranges n) ∧
    (∀ text mask, parse text = .ok mask →
      mask.cpus.Pairwise (· < ·) ∧ ∀ n, n ∈ mask.cpus ↔ Denotes text n) ∧
    (∀ text text' mask other, parse text = .ok mask → parse text' = .ok other →
      (mask.isSubsetOf other = true ↔ ∀ n, Denotes text n → Denotes text' n)) ∧
    (∀ (mask : CpuMask) (cpu : Cpu) (n : Nat), n ∈ (mask.set cpu).cpus ↔
      n = cpu ∨ n ∈ mask.cpus) := by
  refine ⟨deserialize_serialize, fun mask => ?_, fun _ _ => toRangeString_inj, ?_, ?_, ?_, ?_⟩
  · refine ⟨_, toRangeString_eq mask, maximal_runs (ascending_cpus mask), fun n => ?_⟩
    rw [covers_runs_cpus, mem_cpus]
  · intro ranges hranges h
    obtain ⟨mask, hmask, hcontains⟩ := parse_renderRanges hranges h
    exact ⟨mask, hmask, fun n => mem_cpus.trans (hcontains n)⟩
  · exact fun text mask h => ⟨ascending_cpus mask, fun n => mem_cpus.trans (contains_parse h n)⟩
  · exact fun text text' mask other h h' => isSubsetOf_parse h h'
  · intro mask cpu n
    rw [mem_cpus, mem_cpus, contains_set, Bool.or_eq_true, decide_eq_true_iff]

end CpuMask

end Stutter.Affinity

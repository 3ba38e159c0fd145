import StutterProof.CpuMaskWords
import StutterProof.TextLaws

/-! # The start time in a stat line

A line of `/proc/<pid>/stat` has the name of the process in parentheses, with nothing escaped, and
then numbers and one letter, with blanks between them.  Four parsers look for the last parenthesis
that closes and count from there: the one of the process table with the blank after it, the three of
the actions without.

**`starttime_parsers_agree`**: on every line all four read the twenty-second field. -/
namespace Stutter.StatLine

open Affinity.CpuMask (all_isDigit_toDigits foldl_digits_eq not_mem_toDigits)

/-! ## The parsers -/

/-- `str::rsplit_once`: the last place where the pattern is. -/
def rsplitOnce (pattern : List Char) : List Char → Option (List Char × List Char)
  | [] => none
  | c :: rest =>
    match rsplitOnce pattern rest with
    | some (before, after) => some (c :: before, after)
    | none =>
      if pattern.isPrefixOf (c :: rest) then some ([], (c :: rest).drop pattern.length) else none

/-- `str::split_whitespace`. -/
def splitWhitespace (text : List Char) : List (List Char) :=
  (text.splitOnP isTrimmed).filter (· ≠ [])

/-- A sign `+` is allowed. -/
def unsigned : List Char → List Char
  | '+' :: rest => rest
  | text => text

/-- `str::parse::<u64>`. -/
def parseU64 (text : List Char) : Except String Nat :=
  let digits := unsigned text
  if digits = [] ∨ digits.all Char.isDigit = false then .error (ActiveConfig.parseIntError 64 text)
  else
    let value := digits.foldl (fun n c => n * 10 + (c.toNat - '0'.toNat)) 0
    if value < 2 ^ 64 then .ok value else .error (ActiveConfig.parseIntError 64 text)

/-- `parse_proc_stat_starttime` of the process table. -/
def parseProcStatStarttime (stat : List Char) : Option Nat := do
  let (_, afterComm) ← rsplitOnce [')', ' '] stat
  let field ← (splitWhitespace afterComm)[19]?
  (parseU64 field).toOption

/-- What the three parsers of the actions do. -/
def parseActionStarttime (stat : List Char) : Except AnyError Nat :=
  match rsplitOnce [')'] stat with
  | none => .error (.message "stat line does not contain closing comm parenthesis")
  | some (_, afterComm) =>
    match (splitWhitespace afterComm)[19]? with
    | none => .error (.message "stat line missing starttime field")
    | some field =>
      match parseU64 field with
      | .error error => .error ((AnyError.message error).context "invalid starttime field")
      | .ok starttimeTicks => .ok starttimeTicks

/-- `parse_stat_starttime` of the cgroup action. -/
def Cgroup.parseStatStarttime (stat : List Char) : Except AnyError Nat := parseActionStarttime stat

/-- `parse_stat_starttime` of the uclamp action. -/
def Uclamp.parseStatStarttime (stat : List Char) : Except AnyError Nat := parseActionStarttime stat

/-- `parse_stat_starttime` of the ioprio action. -/
def Ioprio.parseStatStarttime (stat : List Char) : Except AnyError Nat := parseActionStarttime stat

/-! ## The line -/

/-- What is behind the name: a number, or a letter for the state. -/
inductive Field where
  | number (value : Int)
  | state (letter : Char) (isAlpha : letter.isAlpha = true)

namespace Field

def text : Field → List Char
  | .number (.ofNat n) => Nat.toDigits 10 n
  | .number (.negSucc n) => '-' :: Nat.toDigits 10 (n + 1)
  | .state letter _ => [letter]

/-- The field as a `u64`, where it is one. -/
def toU64 : Field → Option Nat
  | .number (.ofNat n) => if n < 2 ^ 64 then some n else none
  | .number (.negSucc _) | .state .. => none

end Field

/-- The fields from the third on, each after a blank but the first, and the end of the line. -/
def fieldsText (fields : List Field) (newline : Bool) : List Char :=
  [' '].intercalate (fields.map Field.text) ++ if newline then ['\n'] else []

/-- `pid (comm) f3 f4 ...`: as the kernel writes it, a blank follows the parenthesis in any case,
also where no field does. -/
def statLine (pid : Nat) (comm : List Char) (fields : List Field) (newline : Bool) : List Char :=
  Nat.toDigits 10 pid ++ [' ', '('] ++ comm ++ [')', ' '] ++ fieldsText fields newline

/-- The twenty-second field of the line is the twentieth behind the name. -/
def starttime (fields : List Field) : Option Nat := fields[19]?.bind Field.toU64

/-! ## The last parenthesis -/

theorem rsplitOnce_none {pattern : List Char} {text : List Char} (h : ')' ∉ text) :
    rsplitOnce (')' :: pattern) text = none := by
  induction text with
  | nil => rfl
  | cons c rest ih =>
    obtain ⟨hc, hrest⟩ := not_or.mp (mt List.mem_cons.mpr h)
    have hnot : ¬(')' :: pattern).isPrefixOf (c :: rest) = true := by
      rw [List.isPrefixOf_iff_prefix]
      exact fun hstarts => hc (List.cons_prefix_cons.mp hstarts).1
    rw [rsplitOnce, ih hrest]
    exact if_neg hnot

/-- The name may have every text in it: what counts is that nothing after it closes. -/
theorem rsplitOnce_append {pattern after : List Char} (before : List Char)
    (h : ')' ∉ pattern ++ after) :
    rsplitOnce (')' :: pattern) (before ++ (')' :: pattern) ++ after) = some (before, after) := by
  induction before with
  | nil =>
    have hstarts : (')' :: pattern).isPrefixOf (')' :: (pattern ++ after)) = true := by
      rw [List.isPrefixOf_iff_prefix]
      exact List.prefix_append (')' :: pattern) after
    rw [List.nil_append, List.cons_append, rsplitOnce, rsplitOnce_none h]
    simp [hstarts]
  | cons c before ih => rw [List.cons_append, List.cons_append, rsplitOnce, ih]

/-! ## Fields -/

theorem Field.text_ne_nil (field : Field) : field.text ≠ [] := by
  match field with
  | .number (.ofNat n) => exact Nat.toDigits_ne_nil
  | .number (.negSucc n) => exact List.cons_ne_nil _ _
  | .state letter _ => exact List.cons_ne_nil _ _

theorem isAlpha_iff {c : Char} :
    c.isAlpha = true ↔ 65 ≤ c.toNat ∧ c.toNat ≤ 90 ∨ 97 ≤ c.toNat ∧ c.toNat ≤ 122 := by
  have hbool : c.isAlpha = (decide (c.val ≥ 'A'.val ∧ c.val ≤ 'Z'.val) ||
      (decide (c.val ≥ 'a'.val) && decide (c.val ≤ 'z'.val))) := rfl
  rw [hbool]
  simp only [Bool.or_eq_true, Bool.and_eq_true, decide_eq_true_eq, UInt32.le_iff_toNat_le,
    ge_iff_le]
  exact Iff.rfl

/-- A field is of digits, a letter or a sign. -/
theorem Field.text_char {field : Field} {c : Char} (h : c ∈ field.text) :
    c.isAlphanum = true ∨ c = '-' := by
  have hdigit : ∀ {n : Nat}, c ∈ Nat.toDigits 10 n → c.isAlphanum = true := by
    intro n hmem
    rw [Char.isAlphanum, List.all_eq_true.mp (all_isDigit_toDigits n) c hmem, Bool.or_true]
  match field with
  | .number (.ofNat n) => exact .inl (hdigit h)
  | .number (.negSucc n) =>
    rcases List.mem_cons.mp h with rfl | h
    · exact .inr rfl
    · exact .inl (hdigit h)
  | .state letter isAlpha =>
    obtain rfl := List.mem_singleton.mp h
    exact .inl (by rw [Char.isAlphanum, isAlpha, Bool.true_or])

theorem Field.text_plain {field : Field} {c : Char} (h : c ∈ field.text) :
    isTrimmed c = false ∧ c ≠ ')' := by
  rcases Field.text_char h with halpha | rfl
  · simp only [Char.isAlphanum, Bool.or_eq_true, isAlpha_iff, Char.isDigit, Bool.and_eq_true,
      decide_eq_true_eq, UInt32.le_iff_toNat_le, ge_iff_le] at halpha
    have hcode : c.toNat = c.val.toNat := rfl
    have hdigit : '0'.val.toNat = 48 ∧ '9'.val.toNat = 57 := ⟨rfl, rfl⟩
    constructor
    · simp only [isTrimmed, Bool.or_eq_false_iff, Bool.and_eq_false_iff, decide_eq_false_iff_not,
        beq_eq_false_iff_ne]
      omega
    · rintro rfl
      have hclose : ')'.val.toNat = 41 := rfl
      omega
  · decide

theorem close_not_mem_fieldsText (fields : List Field) (newline : Bool) :
    ')' ∉ fieldsText fields newline := by
  intro hmem
  rcases List.mem_append.mp hmem with hmem | hmem
  · rcases fields with _ | ⟨first, others⟩
    · contradiction
    rw [List.map_cons, TextLaws.intercalate_cons, List.mem_append, List.mem_flatMap] at hmem
    rcases hmem with hmem | ⟨text, htext, hmem⟩
    · exact (Field.text_plain hmem).2 rfl
    · obtain ⟨field, -, rfl⟩ := List.mem_map.mp htext
      rcases List.mem_cons.mp hmem with hblank | hmem
      · contradiction
      · exact (Field.text_plain hmem).2 rfl
  · rcases newline with _ | _
    · contradiction
    · exact absurd (List.mem_singleton.mp hmem) (by decide)

/-- A word, what ends it, and the words after that. -/
theorem splitWhitespace_word {word : List Char} (hne : word ≠ [])
    (hword : ∀ c ∈ word, isTrimmed c = false) {blank : Char} (hblank : isTrimmed blank = true)
    (rest : List Char) :
    splitWhitespace (word ++ blank :: rest) = word :: splitWhitespace rest := by
  rw [splitWhitespace, List.splitOnP_append_cons_of_forall_mem hword blank hblank,
    List.filter_cons_of_pos (by simpa using hne)]
  rfl

theorem splitWhitespace_last {word : List Char} (hne : word ≠ [])
    (hword : ∀ c ∈ word, isTrimmed c = false) :
    splitWhitespace word = [word] := by
  rw [splitWhitespace, List.splitOnP_eq_singleton hword,
    List.filter_cons_of_pos (by simpa using hne), List.filter_nil]

theorem splitWhitespace_blank {blank : Char} (hblank : isTrimmed blank = true) (rest : List Char) :
    splitWhitespace (blank :: rest) = splitWhitespace rest := by
  have h : ([] ++ blank :: rest).splitOnP isTrimmed = [] :: rest.splitOnP isTrimmed :=
    List.splitOnP_append_cons_of_forall_mem (fun _ h => by cases h) blank hblank rest
  rw [splitWhitespace, show blank :: rest = [] ++ blank :: rest from rfl, h,
    List.filter_cons_of_neg (by simp)]
  rfl

theorem splitWhitespace_fieldsText (fields : List Field) (newline : Bool) :
    splitWhitespace (fieldsText fields newline) = fields.map Field.text := by
  have hplain : ∀ field : Field, ∀ c ∈ field.text, isTrimmed c = false :=
    fun field c hc => (Field.text_plain hc).1
  rcases fields with _ | ⟨first, others⟩
  · rcases newline with _ | _ <;> decide
  rw [fieldsText, List.map_cons, TextLaws.intercalate_cons]
  induction others generalizing first with
  | nil =>
    rw [List.map_nil, List.flatMap_nil, List.append_nil]
    rcases newline with _ | _
    · rw [if_neg Bool.false_ne_true, List.append_nil]
      exact splitWhitespace_last first.text_ne_nil (hplain first)
    · rw [if_pos rfl, splitWhitespace_word first.text_ne_nil (hplain first) (by decide)]
      rfl
  | cons other others ih =>
    rw [List.map_cons, List.flatMap_cons, List.append_assoc, List.append_assoc, List.cons_append,
      splitWhitespace_word first.text_ne_nil (hplain first) (by decide), ← List.append_assoc,
      ih other]

theorem unsigned_eq {text : List Char} (h : '+' ∉ text) : unsigned text = text := by
  rw [unsigned]
  rintro rest rfl
  exact h List.mem_cons_self

theorem toOption_parseU64 (field : Field) : (parseU64 field.text).toOption = field.toU64 := by
  match field with
  | .number (.ofNat n) =>
    have hne : Nat.toDigits 10 n ≠ [] := Nat.toDigits_ne_nil
    simp only [Field.text, parseU64, unsigned_eq (not_mem_toDigits (by decide) n)]
    rw [if_neg (by simp [hne, all_isDigit_toDigits]), foldl_digits_eq,
      Nat.ofDigitChars_ten_toDigits, Field.toU64]
    split_ifs with hsmall
    · rfl
    · rfl
  | .number (.negSucc n) => rfl
  | .state letter isAlpha =>
    have hdigit : letter.isDigit = false := by
      have hletter := isAlpha_iff.mp isAlpha
      have hcode : letter.toNat = letter.val.toNat := rfl
      have hdigits : '0'.val.toNat = 48 ∧ '9'.val.toNat = 57 := ⟨rfl, rfl⟩
      simp only [Char.isDigit, Bool.and_eq_false_iff, decide_eq_false_iff_not,
        UInt32.le_iff_toNat_le, ge_iff_le]
      omega
    have hplus : '+' ∉ [letter] := by
      rw [List.mem_singleton]
      rintro rfl
      contradiction
    simp [Field.text, Field.toU64, parseU64, unsigned_eq hplus, hdigit, Except.toOption]

/-- **The four parsers agree.**  Whatever the name is, each gives the twenty-second field, and fails
exactly if there is none or it is no `u64`. -/
theorem starttime_parsers_agree (pid : Nat) (comm : List Char) (fields : List Field)
    (newline : Bool) :
    parseProcStatStarttime (statLine pid comm fields newline) = starttime fields ∧
    (Cgroup.parseStatStarttime (statLine pid comm fields newline)).toOption = starttime fields ∧
    (Uclamp.parseStatStarttime (statLine pid comm fields newline)).toOption = starttime fields ∧
    (Ioprio.parseStatStarttime (statLine pid comm fields newline)).toOption = starttime fields := by
  have hclose := close_not_mem_fieldsText fields newline
  have hfield : (fields.map Field.text)[19]? = fields[19]?.map Field.text := List.getElem?_map ..
  have htable : rsplitOnce [')', ' '] (statLine pid comm fields newline) =
      some (Nat.toDigits 10 pid ++ [' ', '('] ++ comm, fieldsText fields newline) :=
    rsplitOnce_append _ (by simpa using hclose)
  have haction : rsplitOnce [')'] (statLine pid comm fields newline) =
      some (Nat.toDigits 10 pid ++ [' ', '('] ++ comm, ' ' :: fieldsText fields newline) := by
    have h : rsplitOnce [')']
        (Nat.toDigits 10 pid ++ [' ', '('] ++ comm ++ [')'] ++ ' ' :: fieldsText fields newline) =
        _ :=
      rsplitOnce_append (Nat.toDigits 10 pid ++ [' ', '('] ++ comm) (by simpa using hclose)
    simpa [statLine] using h
  have hactions : (parseActionStarttime (statLine pid comm fields newline)).toOption =
      starttime fields := by
    simp only [parseActionStarttime, haction,
      splitWhitespace_blank (show isTrimmed ' ' = true by decide),
      splitWhitespace_fieldsText, hfield, starttime]
    rcases fields[19]? with _ | field
    · rfl
    have hparse := toOption_parseU64 field
    simp only [Option.map_some, Option.bind_some]
    rcases hresult : parseU64 field.text with error | starttimeTicks
    · rw [hresult] at hparse
      exact hparse
    · rw [hresult] at hparse
      exact hparse
  refine ⟨?_, hactions, hactions, hactions⟩
  simp only [parseProcStatStarttime, htable, splitWhitespace_fieldsText, hfield, starttime,
    Option.bind_eq_bind, Option.bind_some]
  rcases fields[19]? with _ | field
  · rfl
  · exact toOption_parseU64 field

end Stutter.StatLine

import StutterProof.MangoHud
import StutterProof.TextLaws

/-! # The live reader and the batch reader of a log

Both readers find the same rows in the same lines, however the live one is fed.  They differ in what
they make of a row's elapsed time, and in which lines they read: the live reader waits for the end
of a line and leaves out comments. -/
namespace Stutter.MangoHud

open ActiveConfig (trim)
open Report (Time)
open Float64
open Utf8Text (encode)

variable {F : Type} [Float64 F] {schema : MangoHudCsvSchema} {alignment : Alignment}

/-! ## Fields of a trimmed line -/

theorem isTrimmed_quote : isTrimmed '"' = false := by decide

theorem isTrimmed_comma : isTrimmed ',' = false := by decide

theorem trim_blank_cons {c : Char} (hc : isTrimmed c = true) (text : List Char) :
    trim (c :: text) = trim text := by
  rw [trim, trim, List.dropWhile_cons_of_pos hc]

variable {blanks : List Char}

theorem trim_blanks_append (h : ∀ c ∈ blanks, isTrimmed c = true) (text : List Char) :
    trim (blanks ++ text) = trim text := by
  induction blanks with
  | nil => rfl
  | cons c blanks ih =>
    obtain ⟨hc, hblanks⟩ := List.forall_mem_cons.mp h
    rw [List.cons_append, trim_blank_cons hc, ih hblanks]

theorem trim_append_blanks (h : ∀ c ∈ blanks, isTrimmed c = true) (text : List Char) :
    trim (text ++ blanks) = trim text := by
  induction blanks generalizing text with
  | nil => rw [List.append_nil]
  | cons c blanks ih =>
    obtain ⟨hc, hblanks⟩ := List.forall_mem_cons.mp h
    rw [List.append_cons, ih hblanks, TextLaws.trim_append_blank hc]

/-- Blanks before a field are trimmed with it. -/
theorem splitFields_blanks (h : ∀ c ∈ blanks, isTrimmed c = true) (field : List Char)
    (inQuotes skipped : Bool) (line : List Char) :
    splitFields (blanks ++ field) inQuotes skipped line =
      splitFields field inQuotes skipped line := by
  induction line generalizing field inQuotes skipped with
  | nil => rw [splitFields, splitFields, trim_blanks_append h]
  | cons c line ih =>
    rw [splitFields, splitFields]
    simp only [List.append_assoc, ih, trim_blanks_append h]

/-- Blanks go into the field. -/
theorem splitFields_blanks_append (h : ∀ c ∈ blanks, isTrimmed c = true) (field : List Char)
    (inQuotes : Bool) (line : List Char) :
    splitFields field inQuotes false (blanks ++ line) =
      splitFields (field ++ blanks) inQuotes false line := by
  induction blanks generalizing field with
  | nil => rw [List.nil_append, List.append_nil]
  | cons c blanks ih =>
    obtain ⟨hc, hblanks⟩ := List.forall_mem_cons.mp h
    have hquote : c ≠ '"' := by
      rintro rfl
      rw [isTrimmed_quote] at hc
      cases hc
    have hcomma : c ≠ ',' := by
      rintro rfl
      rw [isTrimmed_comma] at hc
      cases hc
    rw [List.cons_append, splitFields, if_neg (by decide), if_neg hquote, if_neg (by simp [hcomma]),
      ih hblanks, List.append_assoc, List.singleton_append]

/-- Blanks at the end of a line are trimmed with its last field. -/
theorem splitFields_append_blanks (h : ∀ c ∈ blanks, isTrimmed c = true) (field : List Char)
    (inQuotes skipped : Bool) (line : List Char) (hskipped : skipped = false ∨ line ≠ []) :
    splitFields field inQuotes skipped (line ++ blanks) =
      splitFields field inQuotes skipped line := by
  induction line generalizing field inQuotes skipped with
  | nil =>
    obtain rfl : skipped = false := hskipped.resolve_right (not_not.mpr rfl)
    have hfields := splitFields_blanks_append h field inQuotes []
    rw [List.append_nil] at hfields
    rw [List.nil_append, hfields, splitFields, splitFields, trim_append_blanks h]
  | cons c line ih =>
    have hpeek : (line ++ blanks).head? = some '"' ↔ line.head? = some '"' := by
      cases line with
      | nil =>
        rw [List.nil_append, List.head?_nil]
        refine ⟨fun hhead => ?_, fun hhead => by cases hhead⟩
        have hquote := h '"' (List.mem_of_mem_head? hhead)
        rw [isTrimmed_quote] at hquote
        cases hquote
      | cons d line => rfl
    have hrest := fun field inQuotes => ih field inQuotes false (.inl rfl)
    rw [List.cons_append, splitFields, splitFields]
    by_cases hskip : skipped = true
    · rw [if_pos hskip, if_pos hskip, hrest]
    · rw [if_neg hskip, if_neg hskip]
      by_cases hquote : c = '"'
      · rw [if_pos hquote, if_pos hquote]
        by_cases hdouble : line.head? = some '"'
        · have hline : line ≠ [] := by
            rintro rfl
            cases hdouble
          rw [hpeek.mpr hdouble, hdouble, hrest, ih _ _ true (.inr hline)]
        · rw [decide_eq_false (mt hpeek.mp hdouble), decide_eq_false hdouble, Bool.and_false,
            if_neg (by decide), if_neg (by decide), hrest]
      · rw [if_neg hquote, if_neg hquote, hrest, hrest]

variable (line : List Char)

/-- `trim` takes blanks off both ends. -/
theorem trim_spec : ∃ before after, line = before ++ trim line ++ after ∧
    (∀ c ∈ before, isTrimmed c = true) ∧ ∀ c ∈ after, isTrimmed c = true := by
  have hback : ∀ text : List Char, ∃ after,
      text = (text.reverse.dropWhile isTrimmed).reverse ++ after ∧
      ∀ c ∈ after, isTrimmed c = true := by
    intro text
    refine ⟨(text.reverse.takeWhile isTrimmed).reverse, ?_, fun c hc => ?_⟩
    · rw [← List.reverse_append, List.takeWhile_append_dropWhile, List.reverse_reverse]
    · exact List.mem_takeWhile_imp (List.mem_reverse.mp hc)
  obtain ⟨after, hafter, hblanks⟩ := hback (line.dropWhile isTrimmed)
  refine ⟨line.takeWhile isTrimmed, after, ?_, fun c hc => List.mem_takeWhile_imp hc, hblanks⟩
  rw [List.append_assoc, trim, ← hafter, List.takeWhile_append_dropWhile]

/-- A row is read the same with and without the blanks around it. -/
theorem parseFrameLine_trim :
    parseFrameLine (F := F) schema (trim line) = parseFrameLine schema line := by
  obtain ⟨before, after, hline, hbefore, hafter⟩ := trim_spec line
  have hfields : splitCsvLine line = splitCsvLine (trim line) := by
    have hfront := splitFields_blanks hbefore [] false false (trim line)
    rw [List.append_nil] at hfront
    conv => lhs; rw [hline]
    rw [splitCsvLine, splitFields_append_blanks hafter _ _ _ _ (.inl rfl),
      splitFields_blanks_append hbefore, List.nil_append, hfront, splitCsvLine]
  rw [parseFrameLine, parseFrameLine, hfields]

/-! ## Rows -/

/-- The rows that both readers keep. -/
def rowsOf (schema : MangoHudCsvSchema) (previous : Option Time) :
    List (List Char) → List (Option Time × F)
  | [] => []
  | line :: rest =>
    if trim line = [] then rowsOf schema previous rest
    else match parseFrameLine (F := F) schema line with
      | none => rowsOf schema previous rest
      | some (raw, frametimeMs) =>
        match accept previous raw frametimeMs with
        | none => rowsOf schema previous rest
        | some previous => (raw, frametimeMs) :: rowsOf schema previous rest

/-- A row with the elapsed time that it has itself. -/
def rawFrame (row : Option Time × F) : FrameEvent F := ⟨row.1.getD 0, row.2⟩

/-- Rows with their elapsed times in the run. -/
def alignRows (alignment : Alignment) (first : Option Time) (accumulatedMs : F) :
    List (Option Time × F) → List (FrameEvent F)
  | [] => []
  | (raw, frametimeMs) :: rest =>
    let elapsedMs := alignedElapsedMs alignment raw (first.or raw) accumulatedMs
    let accumulated := if raw.isNone then add accumulatedMs frametimeMs else accumulatedMs
    ⟨elapsedMs, frametimeMs⟩ :: alignRows alignment (first.or raw) accumulated rest

def isComment (line : List Char) : Bool := decide ((trim line).head? = some '#')

theorem parseLines_ok (state : ParserState F) (lines : List (List Char)) :
    parseLines schema alignment state (lines.map .ok) =
      .ok (alignRows alignment state.firstElapsedMs state.accumulatedMs
        (rowsOf schema state.previousElapsedMs lines)) := by
  induction lines generalizing state with
  | nil => rfl
  | cons line lines ih =>
    rw [List.map_cons, parseLines, rowsOf]
    by_cases hblank : trim line = []
    · rw [if_pos hblank, if_pos hblank, ih]
    · rw [if_neg hblank, if_neg hblank]
      cases hparsed : parseFrameLine (F := F) schema line with
      | none =>
        dsimp only
        rw [ih]
      | some row =>
        obtain ⟨raw, frametimeMs⟩ := row
        dsimp only
        cases haccept : accept state.previousElapsedMs raw frametimeMs with
        | none =>
          dsimp only
          rw [ih]
        | some previous =>
          dsimp only
          rw [ih, alignRows]
          rfl

variable (previous : Option Time)

theorem parseLiveLines_append (lines more : List (List Char)) :
    (parseLiveLines (F := F) schema previous (lines ++ more)).1 =
      (parseLiveLines (F := F) schema previous lines).1 ++
        (parseLiveLines (F := F) schema (parseLiveLines (F := F) schema previous lines).2
          more).1 := by
  induction lines generalizing previous with
  | nil => rfl
  | cons line lines ih =>
    rw [List.cons_append, parseLiveLines, parseLiveLines, ih, List.append_assoc]

/-- The live reader keeps the rows of the lines that are not comments. -/
theorem parseLiveLines_eq (lines : List (List Char)) :
    (parseLiveLines (F := F) schema previous lines).1 =
      (rowsOf schema previous ((lines.map dropReturn).filter fun line => !isComment line)).map
        rawFrame := by
  induction lines generalizing previous with
  | nil => rfl
  | cons line lines ih =>
    rw [parseLiveLines, List.map_cons]
    dsimp only
    rw [ih]
    generalize dropReturn line = text
    by_cases hcomment : isComment text = true
    · have hskip : (trim text = [] || decide ((trim text).head? = some '#')) = true := by
        rw [isComment] at hcomment
        rw [hcomment, Bool.or_true]
      rw [List.filter_cons_of_neg (by simp [hcomment]), parseLine, if_pos hskip]
      rfl
    · have hhash : decide ((trim text).head? = some '#') = false := Bool.eq_false_iff.mpr hcomment
      rw [List.filter_cons_of_pos (by simp [hcomment]), rowsOf, parseLine, hhash, Bool.or_false]
      by_cases hblank : trim text = []
      · rw [if_pos (decide_eq_true hblank), if_pos hblank]
        rfl
      · rw [if_neg (by simp [hblank]), if_neg hblank, parseFrameLine_trim]
        cases hparsed : parseFrameLine (F := F) schema text with
        | none => rfl
        | some row =>
          obtain ⟨raw, frametimeMs⟩ := row
          dsimp only
          cases haccept : accept previous raw frametimeMs with
          | none => rfl
          | some after => rfl

/-- The reads are cut between characters: their frames are those of the finished lines. -/
theorem tailReads_eq (pending : List Char) (pieces : List (List Char)) :
    tailReads (F := F) schema previous pending (pieces.map encode) =
      (parseLiveLines (F := F) schema previous (LineSplit.feed '\n' pending pieces).1).1 := by
  induction pieces generalizing previous pending with
  | nil => rfl
  | cons piece pieces ih =>
    rw [List.map_cons, tailReads, LineSplit.feed, Utf8Text.lossy_encode]
    dsimp only
    rw [parseLiveLines_append, ih]

/-! ## Files -/

theorem lines_encode (text : List Char) : LineSplit.lines 10 (encode text) =
    ((LineSplit.lines '\n' text).1.map encode, encode (LineSplit.lines '\n' text).2) :=
  LineSplit.lines_flatMap (by decide) (fun _ hc => Utf8Text.newline_not_mem hc) text

theorem encode_eq_nil_iff {text : List Char} : encode text = [] ↔ text = [] := by
  constructor
  · intro h
    have hdecode := Utf8Text.lossy_encode text
    rw [h, Utf8Text.lossy] at hdecode
    exact hdecode.symm
  · rintro rfl
    rfl

theorem decodeLine_encode : decodeLine (encode line) = .ok line := by
  rw [decodeLine, Utf8Text.strict_encode]

/-- The finished lines of a text. -/
def finishedLines (text : List Char) : List (List Char) :=
  (LineSplit.lines '\n' text).1.map dropReturn

/-- The end of a text after its last line feed, where there is one. -/
def unfinishedLine (text : List Char) : List (List Char) :=
  if (LineSplit.lines '\n' text).2 = [] then [] else [(LineSplit.lines '\n' text).2]

/-- The finished lines that are not comments. -/
def liveLines (text : List Char) : List (List Char) :=
  (finishedLines text).filter fun line => !isComment line

theorem textLines_encode (text : List Char) :
    textLines (encode text) = (finishedLines text ++ unfinishedLine text).map .ok := by
  have hlines : ((LineSplit.lines '\n' text).1.map encode).map
      (fun line => (decodeLine line).map dropReturn) =
      (finishedLines text).map .ok := by
    rw [finishedLines, List.map_map, List.map_map]
    refine List.map_congr_left fun line _ => ?_
    show (decodeLine (encode line)).map dropReturn = .ok (dropReturn line)
    rw [decodeLine_encode]
    rfl
  rw [textLines, lines_encode, hlines, List.map_append, unfinishedLine]
  dsimp only
  by_cases hleft : (LineSplit.lines '\n' text).2 = []
  · rw [if_pos (encode_eq_nil_iff.mpr hleft), if_pos hleft, List.map_nil]
  · rw [if_neg (mt encode_eq_nil_iff.mp hleft), if_neg hleft, decodeLine_encode, List.map_singleton]

/-! ## The two readers -/

/-- A log in UTF-8 with the reads of the live reader, which begin at a row and are cut between
characters. -/
structure TailedLog where
  opened : List UInt8
  content : List UInt8
  layout : MangoHudCsvLayout
  offset : Nat
  pieces : List (List Char)
  opened_layout : detectLayout opened = .ok layout
  content_layout : detectLayout content = .ok layout
  offset_le : layout.dataStartOffset ≤ offset
  at_row : offset = layout.dataStartOffset ∨ content[offset - 1]? = some 10
  data : content.drop offset = encode pieces.flatten

namespace TailedLog
variable (log : TailedLog)

def text : List Char := log.pieces.flatten

theorem tailFrames_eq : tailFrames (F := F) log.opened (log.pieces.map encode) =
    .ok ((rowsOf log.layout.schema none (liveLines log.text)).map rawFrame) := by
  rw [tailFrames, log.opened_layout, Except.map, tailReads_eq, parseLiveLines_eq,
    LineSplit.feed_eq _ _ List.not_mem_nil, List.nil_append]
  rfl

theorem readFrameEvents_eq (alignment : Alignment) :
    readFrameEvents (F := F) log.content log.offset alignment =
      parseFrameEventsWithSchema log.layout.schema
        ((finishedLines log.text ++ unfinishedLine log.text).map .ok) alignment := by
  have hseek : Nat.max log.offset log.layout.dataStartOffset = log.offset :=
    Nat.max_eq_left log.offset_le
  have hskip : (decide (log.layout.dataStartOffset < log.offset) &&
      decide (log.content[log.offset - 1]? ≠ some 10)) = false := by
    rcases log.at_row with hstart | hbyte
    · rw [hstart, decide_eq_false (lt_irrefl _), Bool.false_and]
    · rw [hbyte, decide_eq_false (not_not.mpr rfl), Bool.and_false]
  rw [readFrameEvents, log.content_layout]
  dsimp only
  rw [hseek, hskip, if_neg (by decide), log.data, textLines_encode]
  rfl

end TailedLog

theorem alignRows_frametimes (alignment : Alignment) (first : Option Time) (accumulatedMs : F)
    (rows : List (Option Time × F)) :
    (alignRows alignment first accumulatedMs rows).map (·.frametimeMs) = rows.map Prod.snd := by
  induction rows generalizing first accumulatedMs with
  | nil => rfl
  | cons row rows ih => rw [alignRows, List.map_cons, List.map_cons, ih]

/-- **The live reader keeps the rows of the finished lines that are not comments.**  They are the
rows that the batch parser keeps of these lines, with the same frame times; each live frame has the
elapsed time of its row. -/
theorem live_rows (F : Type) [Float64 F] (log : TailedLog) (alignment : Alignment) :
    ∃ (rows : List (Option Time × F)) (batch : List (FrameEvent F)),
      tailFrames log.opened (log.pieces.map encode) = .ok (rows.map rawFrame) ∧
      parseFrameEventsWithSchema log.layout.schema ((liveLines log.text).map .ok) alignment =
        .ok batch ∧
      batch = alignRows alignment none (literal 0) rows ∧
      batch.map (·.frametimeMs) = (rows.map rawFrame).map (·.frametimeMs) ∧
      readFrameEvents (F := F) log.content log.offset alignment =
        parseFrameEventsWithSchema log.layout.schema
        ((finishedLines log.text ++ unfinishedLine log.text).map .ok) alignment := by
  refine ⟨rowsOf log.layout.schema none (liveLines log.text), _, log.tailFrames_eq,
    parseLines_ok ParserState.initial (liveLines log.text), rfl, ?_,
    log.readFrameEvents_eq alignment⟩
  rw [alignRows_frametimes, List.map_map]
  rfl

/-! ## A log whose first row is not at zero -/

/-- Whole numbers, which `f64` has exactly up to `2 ^ 53`. -/
def parseWhole (text : List Char) : Option Rat :=
  if text = [] || !text.all Char.isDigit then none
  else some (text.foldl (fun value c => value * 10 + (c.toNat - '0'.toNat)) 0 : Nat)

/-- Numbers without rounding. -/
instance : Float64 Rat where
  parse := parseWhole
  isFinite _ := true
  lt a b := decide (a < b)
  le a b := decide (a ≤ b)
  totalLe a b := decide (a ≤ b)
  literal value := value
  ofU64 value := value.val
  toU64 value := Fin.ofNat (2 ^ 64) (min value.floor.toNat (2 ^ 64 - 1))
  add a b := a + b
  mul a b := a * b
  div a b := a / b
  fmax a b := max a b
  fmin a b := min a b

/-- A header on the first line. -/
theorem detectLayout_header {header data : List Char} (hheader : '\n' ∉ header)
    (h : schemaFromHeaders (splitCsvLine (header ++ ['\n'])) = some schema) :
    detectLayout (encode (header ++ '\n' :: data)) =
      .ok ⟨schema, (encode (header ++ ['\n'])).length⟩ := by
  have hfirst : encode header ++ [10] = encode (header ++ ['\n']) := by
    rw [Utf8Text.encode_append]
    rfl
  rw [detectLayout, byteLines, lines_encode, LineSplit.lines_append_separator hheader]
  dsimp only
  rw [List.map_cons, List.map_cons, List.cons_append, detectLayoutFrom, hfirst, decodeLine_encode]
  dsimp only
  rw [h, Nat.zero_add]

def plainHeader : List Char := "elapsed_ms,frametime_ms".toList

/-- A log of two columns, which is read from its first row on. -/
def plainLog (pieces : List (List Char)) : TailedLog where
  opened := encode (plainHeader ++ '\n' :: pieces.flatten)
  content := encode (plainHeader ++ '\n' :: pieces.flatten)
  layout := ⟨⟨1, some 0, .milliseconds⟩, (encode (plainHeader ++ ['\n'])).length⟩
  offset := (encode (plainHeader ++ ['\n'])).length
  pieces := pieces
  opened_layout := detectLayout_header (by decide) (by decide)
  content_layout := detectLayout_header (by decide) (by decide)
  offset_le := le_refl _
  at_row := .inl rfl
  data := by
    rw [List.append_cons, Utf8Text.encode_append]
    exact List.drop_left

/-- One row at ten milliseconds, in two reads. -/
def lateRow : TailedLog := plainLog ["10,1".toList, "6\n".toList]

/-- The live reader shows the row at ten milliseconds, the batch reader at zero. -/
theorem lateRow_differs :
    ¬ ∀ log : TailedLog, tailFrames (F := Rat) log.opened (log.pieces.map encode) =
      readFrameEvents log.content log.offset ⟨none, none, none⟩ := by
  intro h
  have hframes := h lateRow
  rw [lateRow.tailFrames_eq, lateRow.readFrameEvents_eq, parseFrameEventsWithSchema,
    parseLines_ok] at hframes
  have hlists := Except.ok.inj hframes
  revert hlists
  decide +kernel

end Stutter.MangoHud

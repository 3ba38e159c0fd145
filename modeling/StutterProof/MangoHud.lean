import StutterProof.CorrelationWindows
import StutterProof.ActiveConfig
import StutterProof.LineSplit
import StutterProof.Utf8Text

/-! # MangoHud logs

The header, the rows and the frames of a MangoHud log: the batch reader, and the live reader that
follows a log that grows.  Numbers with a fraction are a parameter. -/
namespace Stutter.MangoHud

open ActiveConfig (trim trimmed)
open Report (Time)

/-- `f64`: the operations that the readers use. -/
class Float64 (F : Type) where
  parse : List Char → Option F
  isFinite : F → Bool
  lt : F → F → Bool
  le : F → F → Bool
  /-- `total_cmp` is not greater. -/
  totalLe : F → F → Bool
  literal : Rat → F
  ofU64 : Time → F
  /-- `as u64` -/
  toU64 : F → Time
  add : F → F → F
  mul : F → F → F
  div : F → F → F
  fmax : F → F → F
  fmin : F → F → F

variable {F : Type} [Float64 F]
open Float64

/-! ## The header -/

inductive ElapsedUnit where
  | milliseconds | nanoseconds
  deriving DecidableEq

/-- Where the columns are. -/
structure MangoHudCsvSchema where
  frametimeIdx : Nat
  elapsedIdx : Option Nat
  elapsedUnit : ElapsedUnit
  deriving DecidableEq

/-- The columns, and where the rows begin. -/
structure MangoHudCsvLayout where
  schema : MangoHudCsvSchema
  dataStartOffset : Nat

def frametimeHeaders : List String :=
  ["frametime", "frametime_ms", "frame_time", "frame_time_ms", "frame time", "frame time ms"]

def elapsedHeaders : List String :=
  ["elapsed_ms", "time_ms", "ms", "time", "elapsed", "elapsed_ns", "time_ns", "ns"]

/-- The fields of a line; `skipped` is a quote that was read ahead. -/
def splitFields (field : List Char) (inQuotes skipped : Bool) : List Char → List (List Char)
  | [] => [trim field]
  | c :: rest =>
    if skipped then splitFields field inQuotes false rest
    else if c = '"' then
      if inQuotes && rest.head? = some '"' then splitFields (field ++ ['"']) true true rest
      else splitFields field (!inQuotes) false rest
    else if c = ',' && !inQuotes then trim field :: splitFields [] inQuotes false rest
    else splitFields (field ++ [c]) inQuotes false rest

/-- `split_csv_line`. -/
def splitCsvLine (line : List Char) : List (List Char) := splitFields [] false false line

def normalizedHeader (header : List Char) : String := String.ofList ((trim header).map Char.toLower)

def findHeader (headers : List (List Char)) (candidates : List String) : Option Nat :=
  headers.findIdx? fun header => decide (normalizedHeader header ∈ candidates)

def elapsedUnitForHeader (header : List Char) : ElapsedUnit :=
  if normalizedHeader header ∈ ["elapsed", "elapsed_ns", "time_ns", "ns"] then .nanoseconds
  else .milliseconds

/-- `schema_from_headers`. -/
def schemaFromHeaders (headers : List (List Char)) : Option MangoHudCsvSchema :=
  match findHeader headers frametimeHeaders with
  | none => none
  | some frametimeIdx =>
    let elapsedIdx := findHeader headers elapsedHeaders
    let header := elapsedIdx.bind fun idx => headers[idx]?
    some ⟨frametimeIdx, elapsedIdx, (header.map elapsedUnitForHeader).getD .milliseconds⟩

/-! ## Rows -/

/-- `elapsed_value_to_ms`. -/
def elapsedValueToMs (raw : F) (unit : ElapsedUnit) : Time :=
  let raw := fmax raw (literal 0)
  match unit with
  | .milliseconds => toU64 raw
  | .nanoseconds => toU64 (div raw (literal 1000000))

/-- `parse_frame_line`: the elapsed time and the frame time of a row. -/
def parseFrameLine (schema : MangoHudCsvSchema) (line : List Char) : Option (Option Time × F) :=
  let columns := splitCsvLine line
  let frametimeMs : Option F := (columns[schema.frametimeIdx]?.bind parse).filter fun value =>
    isFinite value && lt (literal 0) value
  let elapsedMs : Option F :=
    ((schema.elapsedIdx.bind fun idx => columns[idx]?).bind parse).filter isFinite
  frametimeMs.map fun frametimeMs =>
    (elapsedMs.map fun raw => elapsedValueToMs raw schema.elapsedUnit, frametimeMs)

/-- `frametime_is_plausible`. -/
def frametimeIsPlausible (frametimeMs : F) (previousElapsedMs currentElapsedMs : Option Time) :
    Bool :=
  if !isFinite frametimeMs || le frametimeMs (literal 0) || lt (literal 300000) frametimeMs then
    false
  else match currentElapsedMs, previousElapsedMs with
    | none, _ => true
    | some current, none => le frametimeMs (add (ofU64 current) (literal 100))
    | some current, some previous =>
      if current ≤ previous then le frametimeMs (literal 100)
      else
        let elapsedDeltaMs : F := ofU64 ⟨current.val - previous.val, by omega⟩
        le frametimeMs (fmax (mul elapsedDeltaMs (literal 2)) (add elapsedDeltaMs (literal 100)))

/-- `MangoHudFramePlausibilityFilter::accept`: the filter's elapsed time after a row it accepts. -/
def accept (previousElapsedMs elapsedMs : Option Time) (frametimeMs : F) : Option (Option Time) :=
  if frametimeIsPlausible frametimeMs previousElapsedMs elapsedMs then
    some (elapsedMs.or previousElapsedMs)
  else none

/-- A frame of the log. -/
structure FrameEvent (F : Type) where
  elapsedMs : Time
  frametimeMs : F
  deriving DecidableEq

/-! ## The batch reader -/

/-- What the recorder observed of the first frame. -/
structure Alignment where
  monotonicNs : Option Time
  rawElapsedMs : Option Time
  recorderStartNs : Option Time

/-- `alignment_recorder_elapsed_ms`. -/
def Alignment.recorderElapsedMs (alignment : Alignment) : Option Nat :=
  match alignment.monotonicNs, alignment.recorderStartNs with
  | some monotonic, some start => some ((monotonic.val - start.val) / 1000000)
  | _, _ => none

/-- What the batch reader carries from row to row. -/
structure ParserState (F : Type) where
  previousElapsedMs : Option Time
  firstElapsedMs : Option Time
  accumulatedMs : F

def ParserState.initial : ParserState F := ⟨none, none, literal 0⟩

/-- The sum that `aligned_elapsed_ms` computes. -/
def elapsedSum (alignment : Alignment) (raw first : Option Time) (accumulatedMs : F) : Nat :=
  match raw, alignment.rawElapsedMs, alignment.recorderElapsedMs with
  | some raw, some firstRaw, some observed => observed + (raw.val - firstRaw.val)
  | some raw, _, _ => raw.val - (first.map Fin.val).getD 0
  | none, _, some observed => observed + (toU64 accumulatedMs).val
  | none, _, none => (toU64 accumulatedMs).val

/-- `aligned_elapsed_ms`; the sum wraps. -/
def alignedElapsedMs (alignment : Alignment) (raw first : Option Time) (accumulatedMs : F) : Time :=
  Fin.ofNat (2 ^ 64) (elapsedSum alignment raw first accumulatedMs)

/-- The state after a row that the filter accepts; rows without an elapsed time add up. -/
def ParserState.next (state : ParserState F) (previous raw : Option Time) (frametimeMs : F) :
    ParserState F where
  previousElapsedMs := previous
  firstElapsedMs := state.firstElapsedMs.or raw
  accumulatedMs := if raw.isNone then add state.accumulatedMs frametimeMs else state.accumulatedMs

/-- The loop of `parse_frame_events_with_schema`. -/
def parseLines (schema : MangoHudCsvSchema) (alignment : Alignment) (state : ParserState F) :
    List (Except String (List Char)) → Except String (List (FrameEvent F))
  | [] => .ok []
  | .error error :: _ => .error error
  | .ok line :: rest =>
    if trim line = [] then parseLines schema alignment state rest
    else match parseFrameLine (F := F) schema line with
      | none => parseLines schema alignment state rest
      | some (raw, frametimeMs) =>
        match accept state.previousElapsedMs raw frametimeMs with
        | none => parseLines schema alignment state rest
        | some previous =>
          let next := state.next previous raw frametimeMs
          let elapsedMs := alignedElapsedMs alignment raw next.firstElapsedMs state.accumulatedMs
          (parseLines schema alignment next rest).map fun events =>
            ⟨elapsedMs, frametimeMs⟩ :: events

def parseFrameEventsWithSchema (schema : MangoHudCsvSchema)
    (lines : List (Except String (List Char))) (alignment : Alignment) :
    Except String (List (FrameEvent F)) :=
  parseLines schema alignment .initial lines

/-! ## Files -/

/-- A line with its line feed, as `read_line` reads it. -/
def byteLines (bytes : List UInt8) : List (List UInt8) :=
  (LineSplit.lines 10 bytes).1.map (· ++ [10]) ++
    if (LineSplit.lines 10 bytes).2 = [] then [] else [(LineSplit.lines 10 bytes).2]

def decodeLine (bytes : List UInt8) : Except String (List Char) :=
  match Utf8Text.strict bytes with
  | some line => .ok line
  | none => .error "stream did not contain valid UTF-8"

/-- A finished line ends before its carriage return. -/
def dropReturn (line : List Char) : List Char :=
  if line.getLast? = some '\r' then line.dropLast else line

/-- `BufRead::lines`. -/
def textLines (bytes : List UInt8) : List (Except String (List Char)) :=
  (LineSplit.lines 10 bytes).1.map (fun line => (decodeLine line).map dropReturn) ++
    if (LineSplit.lines 10 bytes).2 = [] then [] else [decodeLine (LineSplit.lines 10 bytes).2]

/-- The loop of `detect_layout_from_reader`, with the text of `detect_layout` where no line is a
header. -/
def detectLayoutFrom (offset : Nat) : List (List UInt8) → Except String MangoHudCsvLayout
  | [] => .error "MangoHud CSV did not contain a recognized frame header"
  | line :: rest =>
    match decodeLine line with
    | .error error => .error error
    | .ok text =>
      match schemaFromHeaders (splitCsvLine text) with
      | some schema => .ok ⟨schema, offset + line.length⟩
      | none => detectLayoutFrom (offset + line.length) rest

def detectLayout (content : List UInt8) : Except String MangoHudCsvLayout :=
  detectLayoutFrom 0 (byteLines content)

/-- `read_frame_events`; a row that was cut by the offset is left out. -/
def readFrameEvents (content : List UInt8) (ignoreOffset : Nat) (alignment : Alignment) :
    Except String (List (FrameEvent F)) :=
  match detectLayout content with
  | .error error => .error error
  | .ok layout =>
    let seekOffset := Nat.max ignoreOffset layout.dataStartOffset
    let skipFirstLine := layout.dataStartOffset < seekOffset && content[seekOffset - 1]? ≠ some 10
    let lines := textLines (content.drop seekOffset)
    parseFrameEventsWithSchema layout.schema (if skipFirstLine then lines.drop 1 else lines)
      alignment

/-! ## The live reader -/

/-- `MangoHudLiveParser::parse_line`, with the filter's elapsed time before and after. -/
def parseLine (schema : MangoHudCsvSchema) (previous : Option Time) (line : List Char) :
    Option (FrameEvent F) × Option Time :=
  let line := trim line
  if line = [] || line.head? = some '#' then (none, previous)
  else match parseFrameLine (F := F) schema line with
    | none => (none, previous)
    | some (raw, frametimeMs) =>
      match accept previous raw frametimeMs with
      | none => (none, previous)
      | some previous => (some ⟨raw.getD 0, frametimeMs⟩, previous)

/-- The lines of one read. -/
def parseLiveLines (schema : MangoHudCsvSchema) (previous : Option Time) :
    List (List Char) → List (FrameEvent F) × Option Time
  | [] => ([], previous)
  | line :: rest =>
    let parsed := parseLine (F := F) schema previous (dropReturn line)
    let later := parseLiveLines schema parsed.2 rest
    (parsed.1.toList ++ later.1, later.2)

/-- The loop of `tail_frames`: what it hands to the channel. -/
def tailReads (schema : MangoHudCsvSchema) (previous : Option Time) (pending : List Char) :
    List (List UInt8) → List (FrameEvent F)
  | [] => []
  | read :: reads =>
    let found := LineSplit.lines '\n' (pending ++ Utf8Text.lossy read)
    let parsed := parseLiveLines (F := F) schema previous found.1
    parsed.1 ++ tailReads schema parsed.2 found.2 reads

/-- `tail_frames`, of a log that it finds with a content and then reads on in pieces. -/
def tailFrames (opened : List UInt8) (reads : List (List UInt8)) :
    Except String (List (FrameEvent F)) :=
  (detectLayout opened).map fun layout => tailReads layout.schema none [] reads

end Stutter.MangoHud

import Mathlib.Data.List.Dedup
import StutterProof.Runtime

/-! # Texts, CPU masks and tasks

What the readers of the active configuration share: trimmed and split texts, a CPU mask as the
number of its bits, and how a task is classed and named. -/
namespace Stutter.ActiveConfig

/-! ## Texts -/

/-- `str::trim`. -/
def trim (text : List Char) : List Char :=
  ((text.dropWhile isTrimmed).reverse.dropWhile isTrimmed).reverse

/-- `str::trim`, of a string. -/
def trimmed (text : String) : String := String.ofList (trim text.toList)

/-- A character of a `{:?}` between two of `delimiter`.  Beyond ASCII every character stands for
itself. -/
def escapeDebug (delimiter c : Char) : String :=
  match c with
  | '\t' => "\\t"
  | '\n' => "\\n"
  | '\r' => "\\r"
  | '\\' => "\\\\"
  | c =>
    if c.toNat = 0 then "\\0"
    else if c = delimiter then "\\" ++ c.toString
    else if c.toNat < 32 ∨ c.toNat = 127 then
      "\\u\x7b" ++ String.ofList (Nat.toDigits 16 c.toNat) ++ "\x7d"
    else c.toString

/-- `{:?}` of a character. -/
def debugChar (c : Char) : String := "'" ++ escapeDebug '\'' c ++ "'"

/-- `{:?}` of a text. -/
def debugText (text : String) : String :=
  "\"" ++ String.join (text.toList.map (escapeDebug '"')) ++ "\""

/-- `str::split_once`. -/
def splitOnce (separator : Char) (text : List Char) : Option (List Char × List Char) :=
  match text.dropWhile (· ≠ separator) with
  | [] => none
  | _ :: rest => some (text.takeWhile (· ≠ separator), rest)

/-- `str::parse::<u32>`: a sign `+` is allowed. -/
def parseU32 (text : List Char) : Option Nat :=
  let digits := match text with
    | '+' :: rest => rest
    | _ => text
  if digits.isEmpty || !digits.all Char.isDigit then none
  else
    let value := digits.foldl (fun n c => n * 10 + (c.toNat - '0'.toNat)) 0
    if value < 2 ^ 32 then some value else none

/-- What `str::parse` says of a text that is no unsigned integer of so many bits.  It reads from the
left, so that a number too large comes before a character behind it that is no digit. -/
def parseIntError (bits : Nat) (text : List Char) : String :=
  let digits := match text with
    | '+' :: rest => rest
    | _ => text
  let leading : Nat :=
    (digits.takeWhile Char.isDigit).foldl (fun n c => n * 10 + (c.toNat - '0'.toNat)) 0
  if text = [] then "cannot parse integer from empty string"
  else if 2 ^ bits ≤ leading then "number too large to fit in target type"
  else "invalid digit found in string"

/-! ## CPU masks -/

/-- A set of CPUs, by its bits. -/
structure CpuMask where
  bits : Nat
  deriving DecidableEq

/-- `libc::CPU_SETSIZE`. -/
def cpuSetSize : Nat := 1024

namespace CpuMask

def contains (mask : CpuMask) (cpu : Nat) : Bool := mask.bits.testBit cpu

def cpus (mask : CpuMask) : List Nat := (List.range cpuSetSize).filter mask.contains

/-- The runs of consecutive CPUs, the last one still open. -/
def ranges : List Nat → Option (Nat × Nat) → List (Nat × Nat)
  | [], none => []
  | [], some run => [run]
  | cpu :: cpus, none => ranges cpus (some (cpu, cpu))
  | cpu :: cpus, some (first, last) =>
    if cpu = last + 1 then ranges cpus (some (first, cpu))
    else (first, last) :: ranges cpus (some (cpu, cpu))

/-- `to_range_string`. -/
def toRangeString (mask : CpuMask) : String :=
  ",".intercalate ((ranges mask.cpus none).map fun run =>
    if run.1 = run.2 then toString run.1 else s!"{run.1}-{run.2}")

end CpuMask

/-! ## Tasks -/

/-- What a task is for. -/
inductive TaskClass where
  | audioRealtime | input | game | gameHelper | gameRenderThread | gameWorkerThread | launcher
  | wineServer | gameScope | compositor | browserForeground | browserBackground | browserRenderer
  | browserGpu | browserNetwork | buildJob | compiler | linker | indexer | packageManager | editor
  | terminal | shell | media | recorder | virtualMachine | kernelThread | irqThread | service
  | networkDaemon | storageDaemon | steamRuntime | render | helper | unknown
  deriving DecidableEq

/-- The task classes in their order, with the texts of `as_str`. -/
def taskClassNames : List (TaskClass × String) :=
  [(.audioRealtime, "AudioRealtime"), (.input, "Input"), (.game, "Game"),
    (.gameHelper, "GameHelper"), (.gameRenderThread, "GameRenderThread"),
    (.gameWorkerThread, "GameWorkerThread"), (.launcher, "Launcher"), (.wineServer, "WineServer"),
    (.gameScope, "GameScope"), (.compositor, "Compositor"),
    (.browserForeground, "BrowserForeground"), (.browserBackground, "BrowserBackground"),
    (.browserRenderer, "BrowserRenderer"), (.browserGpu, "BrowserGpu"),
    (.browserNetwork, "BrowserNetwork"), (.buildJob, "BuildJob"), (.compiler, "Compiler"),
    (.linker, "Linker"), (.indexer, "Indexer"), (.packageManager, "PackageManager"),
    (.editor, "Editor"), (.terminal, "Terminal"), (.shell, "Shell"), (.media, "Media"),
    (.recorder, "Recorder"), (.virtualMachine, "VirtualMachine"), (.kernelThread, "KernelThread"),
    (.irqThread, "IrqThread"), (.service, "Service"), (.networkDaemon, "NetworkDaemon"),
    (.storageDaemon, "StorageDaemon"), (.steamRuntime, "SteamRuntime"), (.render, "Render"),
    (.helper, "Helper"), (.unknown, "Unknown")]

def TaskClass.asStr (taskClass : TaskClass) : String := (taskClassNames.lookup taskClass).getD ""

/-- `normalized_eq_ignore_ascii_case`. -/
def normalizedEqIgnoreAsciiCase (value expected : String) : Bool :=
  (value.toList.filter fun c => c != '_' && c != '-' && !isTrimmed c).map Char.toLower =
    expected.toList.map Char.toLower

/-- `TaskClass::from_str_opt`, whose texts are those of `as_str` in lower case. -/
def TaskClass.fromStrOpt (s : String) : Option TaskClass :=
  (taskClassNames.find? fun entry => normalizedEqIgnoreAsciiCase s entry.2).map Prod.fst

/-- `contains_ignore_ascii_case`. -/
def containsIgnoreAsciiCase (haystack needle : String) : Bool :=
  (haystack.toList.map Char.toLower).tails.any fun tail =>
    (needle.toList.map Char.toLower).isPrefixOf tail

/-- A pattern between slashes is a regular expression, given by what it matches. -/
structure CompiledPattern where
  raw : String
  regex : Option (String → Bool)

def CompiledPattern.matches (pattern : CompiledPattern) (value : String) : Bool :=
  match pattern.regex with
  | some regex => regex value
  | none => containsIgnoreAsciiCase value pattern.raw

/-- A target task as a candidate names it. -/
structure TaskIdentity where
  tid : Nat
  processPid : Option Nat
  comm : Option String
  starttimeTicks : Option Nat

end Stutter.ActiveConfig

import StutterProof.IrqAffinity
import StutterProof.StepLoop

/-! # Workload progress

The markers of a fixed piece of work, what makes two of them a measurement, and the reader that
follows the log they are appended to.  The JSON reader is a parameter. -/
namespace Stutter.Workload

open ActiveConfig (splitOnce trimmed)
open Irq (isHexDigit)

/-! ## Markers -/

inductive WorkloadKind where
  | compile | custom
  deriving DecidableEq

/-- The work that is measured. -/
structure FixedWorkIdentity where
  kind : WorkloadKind
  sourceTree : String
  target : String
  buildState : String
  cachePolicy : String
  jobCount : Nat
  command : List String
  workingDirectory : String
  toolchain : String
  environment : String
  deriving DecidableEq

/-- The digest of a source tree has a length of its kind. -/
def validDigest (kind digest : List Char) : Bool :=
  let bytes := (String.ofList digest).utf8ByteSize
  (kind = "git".toList && (bytes = 40 || bytes = 64) || kind = "sha256".toList && bytes = 64) &&
    digest.all isHexDigit

/-- `value.trim().is_empty()`. -/
def isBlank (value : String) : Bool := (trimmed value).isEmpty

/-- `FixedWorkIdentity::validate`. -/
def FixedWorkIdentity.validate (identity : FixedWorkIdentity) : Except String Unit :=
  let validSource := match splitOnce ':' identity.sourceTree.toList with
    | some (kind, digest) => validDigest kind digest
    | none => false
  if !validSource then .error "fixed work requires an immutable source tree identity"
  else if identity.jobCount = 0 ∨ identity.command.head?.all isBlank ∨
      [identity.target, identity.buildState, identity.cachePolicy, identity.workingDirectory,
        identity.toolchain, identity.environment].any isBlank then
    .error "fixed-work identity is incomplete"
  else .ok ()

inductive ProgressSource where
  | scenarioCompletion | externalMarker | customCommand
  deriving DecidableEq

/-- The phases of the work. -/
inductive WorkloadPhase where
  | start | complete | failed
  deriving DecidableEq

/-- A marker of the work. -/
structure WorkloadProgress where
  schemaVersion : Nat
  executionId : String
  identity : FixedWorkIdentity
  source : ProgressSource
  phase : WorkloadPhase
  targetRootPid : Nat
  targetStarttimeTicks : Nat
  monotonicNs : Nat
  elapsedNs : Nat
  completedUnits : Nat
  totalUnits : Option Nat
  deriving DecidableEq

structure WorkloadProgressRecord where
  elapsedMs : Nat
  progress : WorkloadProgress
  deriving DecidableEq

/-- The checks of `WorkloadProgress::validate` that depend on the phase. -/
def WorkloadProgress.validatePhase (progress : WorkloadProgress) : Except String Unit :=
  match progress.phase with
  | .start =>
    if progress.completedUnits ≠ 0 ∨ progress.elapsedNs ≠ 0 then
      .error "workload start must have zero elapsed time and completed units"
    else .ok ()
  | .complete =>
    if some progress.completedUnits ≠ progress.totalUnits ∨ progress.elapsedNs = 0 then
      .error "workload completion must finish all fixed work with positive elapsed time"
    else .ok ()
  | .failed => .error "workload execution failed"

/-- `WorkloadProgress::validate`. -/
def WorkloadProgress.validate (progress : WorkloadProgress) : Except String Unit :=
  match progress.identity.validate with
  | .error error => .error error
  | .ok () =>
    if progress.schemaVersion ≠ 1 ∨ isBlank progress.executionId ∨ progress.targetRootPid = 0 ∨
        progress.targetStarttimeTicks = 0 ∨ progress.monotonicNs = 0 ∨
          progress.totalUnits.all (· = 0) ∨
        progress.totalUnits.any (· < progress.completedUnits) then
      .error "invalid workload progress version, identity, timestamp or units"
    else progress.validatePhase

/-! ## Measurements -/

/-- The start and the end of the work. -/
structure FixedWorkMeasurement where
  start : WorkloadProgress
  complete : WorkloadProgress
  deriving DecidableEq

/-- `u64::checked_sub`. -/
def checkedSub (left right : Nat) : Option Nat := if left < right then none else some (left - right)

/-- `FixedWorkMeasurement::validate`. -/
def FixedWorkMeasurement.validate (measurement : FixedWorkMeasurement) : Except String Unit :=
  let start := measurement.start
  let complete := measurement.complete
  match start.validate with
  | .error error => .error error
  | .ok () =>
  match complete.validate with
  | .error error => .error error
  | .ok () =>
    if start.phase ≠ .start ∨ complete.phase ≠ .complete ∨
      start.executionId ≠ complete.executionId ∨
        start.identity ≠ complete.identity ∨ start.source ≠ complete.source ∨
        start.targetRootPid ≠ complete.targetRootPid ∨
        start.targetStarttimeTicks ≠ complete.targetStarttimeTicks ∨
          start.totalUnits ≠ complete.totalUnits ∨
        checkedSub complete.monotonicNs start.monotonicNs ≠ some complete.elapsedNs then
      .error "fixed-work completion does not match its start marker"
    else .ok ()

/-- `FixedWorkMeasurement::elapsed_ns`. -/
def FixedWorkMeasurement.elapsedNs (measurement : FixedWorkMeasurement) : Except String Nat :=
  match measurement.validate with
  | .error error => .error error
  | .ok () => .ok measurement.complete.elapsedNs

def completedFixedWork (markers : List WorkloadProgress) : Except String FixedWorkMeasurement :=
  match markers with
  | [start, complete] =>
    let measurement : FixedWorkMeasurement := ⟨start, complete⟩
    match measurement.validate with
    | .error error => .error error
    | .ok () => .ok measurement
  | _ =>
    .error "fixed work requires exactly one paired start and successful completion in the window"

/-! ## The reader -/

/-- The log as it stands: which file it is, and its bytes. -/
structure LogFile where
  identity : Nat × Nat
  content : List UInt8

/-- `WorkloadProgressReader`: `position` is the stream position, which leaves out what is
buffered. -/
structure WorkloadProgressReader where
  identity : Nat × Nat
  position : Nat
  pending : List UInt8

/-- `WorkloadProgressReader::open_tail`, of a regular file. -/
def openTail (file : LogFile) : WorkloadProgressReader where
  identity := file.identity
  position := file.content.length
  pending := []

/-- What the host answers during one poll: why `fs::metadata` fails, how many bytes the buffer has
at each turn, and the clock after each line. -/
structure PollHost where
  metadataFails : Option String
  fillBuf : Nat → Except String Nat
  clockGettimeNs : Nat → Except String Nat

/-- One call of `poll`. -/
structure PollCall where
  host : PollHost
  monitorStartNs : Nat
  nowNs : Nat

def newline : UInt8 := 10

section

variable (parse : List UInt8 → Option WorkloadProgress)

/-- What one line is to a poll: refused, from before the monitor's start, or a record. -/
def readMarker (call : PollCall) (clock : Except String Nat) (line : List UInt8) :
    Except String (Option WorkloadProgressRecord) :=
  match parse line with
  | none => .error "malformed workload progress marker"
  | some progress =>
    match clock with
    | .error error => .error error
    | .ok clock =>
      if max call.nowNs clock < progress.monotonicNs then
        .error "workload progress timestamp is in the future"
      else match checkedSub progress.monotonicNs call.monitorStartNs with
        | none => .ok none
        | some delta => .ok (some ⟨delta / 1_000_000, progress⟩)

/-- Inside the loop of a poll; `unread` is the rest of the file. -/
structure PollState where
  turn : Nat
  processed : Nat
  pending : List UInt8
  unread : List UInt8
  records : List WorkloadProgressRecord
  deriving DecidableEq

/-- What a poll leaves and answers. -/
structure Polled where
  pending : List UInt8
  unread : List UInt8
  result : Except String (List WorkloadProgressRecord)
  deriving DecidableEq

def PollState.stop (state : PollState) (result : Except String (List WorkloadProgressRecord)) :
    Polled :=
  ⟨state.pending, state.unread, result⟩

/-- The end of the first line, or of the bytes. -/
def lineEnd (available : List UInt8) : Nat :=
  match available.findIdx? (· = newline) with
  | some index => index + 1
  | none => available.length

/-- The part of a turn after a line was finished: it is taken out of the buffer before it is
parsed. -/
def finishLine (call : PollCall) (state : PollState) : PollState ⊕ Polled :=
  let processed := state.processed + 1
  let taken := { state with pending := [], processed }
  match readMarker parse call (call.host.clockGettimeNs state.processed) state.pending with
  | .error error => .inr (taken.stop (.error error))
  | .ok none => .inl taken
  | .ok (some record) => .inl { taken with records := state.records ++ [record] }

/-- One turn of the loop of `WorkloadProgressReader::poll`. -/
def pollTurn (call : PollCall) (state : PollState) : PollState ⊕ Polled :=
  if state.processed < 128 then
    match call.host.fillBuf state.turn with
    | .error error => .inr (state.stop (.error error))
    | .ok size =>
      let available := state.unread.take (max 1 size)
      if available.isEmpty then .inr (state.stop (.ok state.records))
      else
        let count := lineEnd available
        if 65_536 < state.pending.length + count then
          .inr (state.stop (.error "workload progress marker exceeds 64 KiB"))
        else
          let read : PollState :=
            { state with
              turn := state.turn + 1
              pending := state.pending ++ available.take count
              unread := state.unread.drop count }
          if read.pending.getLast? ≠ some newline then .inl read else finishLine parse call read
  else .inr (state.stop (.ok state.records))

/-- The checks of a poll before its loop. -/
def checkLog (reader : WorkloadProgressReader) (file : LogFile) (call : PollCall) :
    Except String Unit :=
  match call.host.metadataFails with
  | some error => .error error
  | none =>
    if file.identity ≠ reader.identity ∨ file.content.length < reader.position then
      .error "workload progress log was replaced or truncated"
    else .ok ()

def WorkloadProgressReader.begin (reader : WorkloadProgressReader) (file : LogFile) : PollState :=
  ⟨0, 0, reader.pending, file.content.drop reader.position, []⟩

/-- The reader after a loop that left so much unread. -/
def WorkloadProgressReader.leave (reader : WorkloadProgressReader) (file : LogFile)
    (polled : Polled) :
    WorkloadProgressReader :=
  { reader with
    position := file.content.length - polled.unread.length
    pending := polled.pending }

/-- `WorkloadProgressReader::poll` leaves the reader so and gives the result. -/
inductive Poll (file : LogFile) (call : PollCall) (reader : WorkloadProgressReader) :
    WorkloadProgressReader → Except String (List WorkloadProgressRecord) → Prop where
  | refused {error : String} : checkLog reader file call = .error error →
      Poll file call reader reader (.error error)
  | read {polled : Polled} : checkLog reader file call = .ok () →
      StepLoop.Ends (pollTurn parse call) (reader.begin file) polled →
      Poll file call reader (reader.leave file polled) polled.result

end

end Stutter.Workload

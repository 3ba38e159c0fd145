import StutterProof.MangoHudTail

/-! # The range of frame times

A frame's elapsed time comes from a sum in the parser, and its moment from a product and a sum in
the report.  Both wrap; this module says which logs keep them in a `u64`. -/
namespace Stutter.MangoHud

open Report (Time frameNs frameSpan windowMs paddingMs)
open Float64

variable {F : Type} [Float64 F] {schema : MangoHudCsvSchema} {alignment : Alignment}

/-! ## Slow frames -/

/-- `calculate_median_frametime`. -/
def calculateMedianFrametime (frametimes : List F) : F :=
  let times := frametimes.mergeSort totalLe
  let mid := times.length / 2
  if times.length = 0 then literal 0
  else if times.length % 2 = 0 then
    div (add (times.getD (mid - 1) (literal 0)) (times.getD mid (literal 0))) (literal 2)
  else times.getD mid (literal 0)

def spikeThreshold (median : F) : F :=
  if isFinite median && lt (literal 0) median then
    fmin (mul (literal (3 / 2)) median) (literal (333 / 10))
  else literal (333 / 10)

/-- What makes a frame slow. -/
def isSpike (median frametimeMs : F) : Bool :=
  isFinite frametimeMs && lt (spikeThreshold median) frametimeMs

/-- `identify_frame_spikes`. -/
def identifyFrameSpikes (frames : List (FrameEvent F)) (median : F) : List (FrameEvent F) :=
  frames.filter fun frame => isSpike median frame.frametimeMs

/-- The slow frames of a report. -/
def frameSpikes (frames : List (FrameEvent F)) : List (FrameEvent F) :=
  identifyFrameSpikes frames (calculateMedianFrametime (frames.map (·.frametimeMs)))

def reportFrame (frame : FrameEvent F) : Report.FrameEvent := ⟨frame.elapsedMs⟩

/-! ## Accepted logs -/

/-- The lines that `read_frame_events` parses. -/
def readLines (content : List UInt8) (ignoreOffset : Nat) (layout : MangoHudCsvLayout) :
    List (Except String (List Char)) :=
  let seekOffset := Nat.max ignoreOffset layout.dataStartOffset
  let lines := textLines (content.drop seekOffset)
  if layout.dataStartOffset < seekOffset && content[seekOffset - 1]? ≠ some 10 then lines.drop 1
  else lines

/-- A log that the batch reader accepts, with its frames. -/
structure AcceptedLog (F : Type) [Float64 F] where
  content : List UInt8
  ignoreOffset : Nat
  alignment : Alignment
  frames : List (FrameEvent F)
  accepted : readFrameEvents content ignoreOffset alignment = .ok frames

/-- The rows of a log: what the readers keep of its lines. -/
def AcceptedLog.rows (log : AcceptedLog F) : List (Option Time × F) :=
  match detectLayout log.content with
  | .error _ => []
  | .ok layout =>
    rowsOf layout.schema none
      ((readLines log.content log.ignoreOffset layout).filterMap Except.toOption)

theorem parseLines_of_ok {state : ParserState F} {lines : List (Except String (List Char))}
    {frames : List (FrameEvent F)} (h : parseLines schema alignment state lines = .ok frames) :
    lines = (lines.filterMap Except.toOption).map .ok := by
  induction lines generalizing state frames with
  | nil => rfl
  | cons line lines ih =>
    cases line with
    | error error => cases h
    | ok line =>
      have hrest : ∃ state frames, parseLines (F := F) schema alignment state lines =
          .ok frames := by
        rw [parseLines] at h
        split at h
        · exact ⟨_, _, h⟩
        · split at h
          · exact ⟨_, _, h⟩
          · split at h
            · exact ⟨_, _, h⟩
            · dsimp only at h
              cases hparsed : parseLines schema alignment (state.next _ _ _) lines with
              | error error =>
                rw [hparsed] at h
                cases h
              | ok frames => exact ⟨_, _, hparsed⟩
      obtain ⟨state, frames, hrest⟩ := hrest
      rw [List.filterMap_cons_some (by rfl), List.map_cons, ← ih hrest]

/-- The frames of an accepted log are its rows with their elapsed times in the run. -/
theorem AcceptedLog.frames_eq (log : AcceptedLog F) :
    log.frames = alignRows log.alignment none (literal 0) log.rows := by
  have haccepted := log.accepted
  rw [AcceptedLog.rows]
  rw [readFrameEvents] at haccepted
  cases hlayout : detectLayout log.content with
  | error error =>
    rw [hlayout] at haccepted
    cases haccepted
  | ok layout =>
    rw [hlayout] at haccepted
    dsimp only at haccepted ⊢
    have hlines : parseFrameEventsWithSchema layout.schema
        (readLines log.content log.ignoreOffset layout)
        log.alignment = .ok log.frames := haccepted
    rw [parseFrameEventsWithSchema, parseLines_of_ok hlines, parseLines_ok] at hlines
    exact (Except.ok.inj hlines).symm

/-! ## In range -/

/-- The sums that the parser computes for the rows. -/
def elapsedSums (alignment : Alignment) (first : Option Time) (accumulatedMs : F) :
    List (Option Time × F) → List Nat
  | [] => []
  | (raw, frametimeMs) :: rest =>
    let accumulated := if raw.isNone then add accumulatedMs frametimeMs else accumulatedMs
    elapsedSum alignment raw (first.or raw) accumulatedMs :: elapsedSums alignment (first.or raw)
      accumulated rest

/-- No sum or product wraps, and the windows end in a `u64`. -/
structure InRange (log : AcceptedLog F) (start : Option Time) : Prop where
  sums : ∀ sum ∈ elapsedSums log.alignment none (literal 0) log.rows, sum < 2 ^ 64
  moments : ∀ s, start = some s → ∀ frame ∈ frameSpikes log.frames,
    frameNs s (reportFrame frame) = s.val + frame.elapsedMs.val * 1000000
  windows : ∀ windowNs : Time, ∀ frame ∈ frameSpikes log.frames,
    (windowMs (paddingMs windowNs) frame.elapsedMs frame.elapsedMs).2 < 2 ^ 64 ∧
      ∀ s, start = some s → (frameSpan windowNs s (reportFrame frame)).2 < 2 ^ 64

/-- How large the elapsed time of a row may be for its sum. -/
def SumFits (alignment : Alignment) (raw : Option Time) (accumulatedMs : F) : Prop :=
  match raw, alignment.rawElapsedMs, alignment.recorderElapsedMs with
  | some raw, some firstRaw, some observed => raw.val ≤ firstRaw.val + (2 ^ 64 - 1 - observed)
  | none, _, some observed => (toU64 accumulatedMs).val ≤ 2 ^ 64 - 1 - observed
  | _, _, _ => True

/-- The last elapsed time whose moment is a `u64`. -/
def lastElapsedMs (start : Time) : Nat := (2 ^ 64 - 1 - start.val) / 1000000

/-- How large the elapsed time of a slow row may be for its moment. -/
def MomentFits (alignment : Alignment) (start : Time) (raw first : Option Time)
    (accumulatedMs : F) : Prop :=
  match raw, alignment.rawElapsedMs, alignment.recorderElapsedMs with
  | some raw, some firstRaw, some observed =>
    observed ≤ lastElapsedMs start ∧ raw.val ≤ firstRaw.val + (lastElapsedMs start - observed)
  | some raw, _, _ => raw.val ≤ (first.map Fin.val).getD 0 + lastElapsedMs start
  | none, _, some observed =>
    observed ≤ lastElapsedMs start ∧ (toU64 accumulatedMs).val ≤ lastElapsedMs start - observed
  | none, _, none => (toU64 accumulatedMs).val ≤ lastElapsedMs start

/-- Every row fits. -/
def RowsFit (alignment : Alignment) (start : Option Time) (spike : F → Bool) (first : Option Time)
    (accumulatedMs : F) : List (Option Time × F) → Prop
  | [] => True
  | (raw, frametimeMs) :: rest =>
    let accumulated := if raw.isNone then add accumulatedMs frametimeMs else accumulatedMs
    SumFits alignment raw accumulatedMs ∧
      (spike frametimeMs = true → ∀ s, start = some s →
        MomentFits alignment s raw (first.or raw) accumulatedMs) ∧
      RowsFit alignment start spike (first.or raw) accumulated rest

theorem recorderElapsedMs_lt {observed : Nat} (h : alignment.recorderElapsedMs = some observed) :
    observed < 2 ^ 64 := by
  rw [Alignment.recorderElapsedMs] at h
  split at h
  · rename_i monotonic start hmonotonic hstart
    have hobserved := Option.some.inj h
    have hlt := monotonic.isLt
    omega
  · cases h

theorem elapsedSum_lt_iff (raw first : Option Time) (accumulatedMs : F) :
    elapsedSum alignment raw first accumulatedMs < 2 ^ 64 ↔
      SumFits alignment raw accumulatedMs := by
  have hcounted := (toU64 accumulatedMs).isLt
  rw [elapsedSum.eq_def, SumFits.eq_def]
  cases raw with
  | none =>
    cases hobserved : alignment.recorderElapsedMs with
    | none => simp only [hcounted]
    | some observed =>
      have hlt := recorderElapsedMs_lt hobserved
      dsimp only
      omega
  | some raw =>
    have hraw := raw.isLt
    cases hfirst : alignment.rawElapsedMs with
    | none =>
      dsimp only
      rw [iff_true]
      omega
    | some firstRaw =>
      cases hobserved : alignment.recorderElapsedMs with
      | none =>
        dsimp only
        rw [iff_true]
        omega
      | some observed =>
        have hlt := recorderElapsedMs_lt hobserved
        dsimp only
        omega

theorem moment_lt_iff (start : Time) (elapsed : Nat) :
    start.val + elapsed * 1000000 < 2 ^ 64 ↔ elapsed ≤ lastElapsedMs start := by
  have hstart := start.isLt
  rw [lastElapsedMs, Nat.le_div_iff_mul_le (by decide)]
  omega

theorem elapsedSum_le_iff (start : Time) (raw first : Option Time) (accumulatedMs : F) :
    elapsedSum alignment raw first accumulatedMs ≤ lastElapsedMs start ↔
      MomentFits alignment start raw first accumulatedMs := by
  rw [elapsedSum.eq_def, MomentFits.eq_def]
  generalize lastElapsedMs start = most
  cases raw with
  | none =>
    cases alignment.recorderElapsedMs with
    | none => rfl
    | some observed =>
      dsimp only
      omega
  | some raw =>
    cases alignment.rawElapsedMs with
    | none =>
      dsimp only
      omega
    | some firstRaw =>
      cases alignment.recorderElapsedMs with
      | none =>
        dsimp only
        omega
      | some observed =>
        dsimp only
        omega

omit [Float64 F] in
/-- A moment does not wrap exactly where the exact sum is a `u64`. -/
theorem frameNs_eq_iff (start : Time) (frame : FrameEvent F) :
    frameNs start (reportFrame frame) = start.val + frame.elapsedMs.val * 1000000 ↔
      start.val + frame.elapsedMs.val * 1000000 < 2 ^ 64 := by
  rw [frameNs, reportFrame]
  exact Nat.mod_eq_iff_lt (by decide)

theorem rowsFit_iff (start : Option Time) (spike : F → Bool) (first : Option Time)
    (accumulatedMs : F) (rows : List (Option Time × F)) :
    RowsFit alignment start spike first accumulatedMs rows ↔
      (∀ sum ∈ elapsedSums alignment first accumulatedMs rows, sum < 2 ^ 64) ∧
      ∀ s, start = some s →
        ∀ frame ∈ (alignRows alignment first accumulatedMs rows).filter fun frame =>
        spike frame.frametimeMs, frameNs s (reportFrame frame) =
          s.val + frame.elapsedMs.val * 1000000 := by
  induction rows generalizing first accumulatedMs with
  | nil => simp [RowsFit, elapsedSums, alignRows]
  | cons row rows ih =>
    obtain ⟨raw, frametimeMs⟩ := row
    rw [RowsFit, elapsedSums, alignRows, ih, List.forall_mem_cons, elapsedSum_lt_iff]
    by_cases hsum : SumFits alignment raw accumulatedMs
    · have hlt := (elapsedSum_lt_iff raw (first.or raw) accumulatedMs).mpr hsum
      have hframe : ∀ s : Time,
          frameNs s (reportFrame
              (⟨alignedElapsedMs alignment raw (first.or raw) accumulatedMs, frametimeMs⟩ :
                FrameEvent F)) =
              s.val + (alignedElapsedMs alignment raw (first.or raw) accumulatedMs).val * 1000000 ↔
            MomentFits alignment s raw (first.or raw) accumulatedMs := by
        intro s
        have hval : (alignedElapsedMs alignment raw (first.or raw) accumulatedMs).val =
            elapsedSum alignment raw (first.or raw) accumulatedMs := Nat.mod_eq_of_lt hlt
        rw [← elapsedSum_le_iff, ← moment_lt_iff, ← hval]
        exact frameNs_eq_iff s _
      by_cases hspike : spike frametimeMs = true
      · simp only [List.filter_cons, hspike, if_true, List.forall_mem_cons, hframe, hsum, true_and,
          true_implies]
        constructor
        · rintro ⟨hmoment, hsums, hmoments⟩
          exact ⟨hsums, fun s hs => ⟨hmoment s hs, hmoments s hs⟩⟩
        · rintro ⟨hsums, hmoments⟩
          exact ⟨fun s hs => (hmoments s hs).1, hsums, fun s hs => (hmoments s hs).2⟩
      · simp only [List.filter_cons, hspike, if_false, hsum, true_and, false_implies,
          Bool.false_eq_true]
    · simp only [hsum, false_and]

/-- The condition on a log: the rows' own elapsed times, or the frame times before a row without
one, are not past what is left of a `u64`. -/
def ElapsedBounded (log : AcceptedLog F) (start : Option Time) : Prop :=
  RowsFit log.alignment start (isSpike (calculateMedianFrametime (log.rows.map Prod.snd))) none
    (literal 0) log.rows

/-- **The arithmetic on frame times stays in range exactly where the elapsed times are bounded.** -/
theorem inRange_iff (F : Type) [Float64 F] (log : AcceptedLog F) (start : Option Time) :
    InRange log start ↔ ElapsedBounded log start := by
  have hspikes : frameSpikes log.frames =
      (alignRows log.alignment none (literal 0) log.rows).filter fun frame =>
        isSpike (calculateMedianFrametime (log.rows.map Prod.snd)) frame.frametimeMs := by
    rw [frameSpikes, identifyFrameSpikes, log.frames_eq, alignRows_frametimes]
  rw [ElapsedBounded, rowsFit_iff, ← hspikes]
  constructor
  · rintro ⟨hsums, hmoments, -⟩
    exact ⟨hsums, hmoments⟩
  · rintro ⟨hsums, hmoments⟩
    refine ⟨hsums, hmoments, fun windowNs frame _ => ⟨?_, fun s _ => ?_⟩⟩
    · have hwindow := windowNs.isLt
      simp only [windowMs, paddingMs, Report.satAdd]
      omega
    · simp only [frameSpan, Report.satAdd]
      omega

/-! ## A log whose frame is past the end -/

/-- One slow row, twenty trillion milliseconds into the run. -/
def distantRow : TailedLog := plainLog ["20000000000000,50\n".toList]

theorem distantRow_accepted : readFrameEvents (F := Rat) distantRow.content distantRow.offset
    ⟨some 0, some 0, some 0⟩ = .ok [⟨20000000000000, 50⟩] := by
  rw [distantRow.readFrameEvents_eq, parseFrameEventsWithSchema, parseLines_ok]
  refine congrArg Except.ok ?_
  decide +kernel

def distantLog : AcceptedLog Rat where
  content := distantRow.content
  ignoreOffset := distantRow.offset
  alignment := ⟨some 0, some 0, some 0⟩
  frames := [⟨20000000000000, 50⟩]
  accepted := distantRow_accepted

/-- The moment of the frame wraps. -/
theorem distantLog_wraps :
    ¬ ∀ (log : AcceptedLog Rat) (start : Option Time), InRange log start := by
  intro h
  have hmoments := (h distantLog (some 0)).moments 0 rfl
  have hspikes : frameSpikes distantLog.frames = distantLog.frames := by
    show frameSpikes [(⟨20000000000000, 50⟩ : FrameEvent Rat)] = [⟨20000000000000, 50⟩]
    rw [frameSpikes, List.map_singleton, calculateMedianFrametime, List.mergeSort_singleton]
    decide +kernel
  rw [hspikes] at hmoments
  have hwraps := hmoments ⟨20000000000000, 50⟩ List.mem_cons_self
  revert hwraps
  decide +kernel

end Stutter.MangoHud

import StutterProof.Restriction

/-! # The correlation windows of a report

A report loads only the recorded events near a spike cluster or a slow frame
(`compute_correlation_windows`, `load_correlations`), and later looks among them for what overlaps a
cluster or a frame, each look with a reach of its own.  A `Reading` is everything the correlation
sections, the diagnoses of clusters, of frames and of the display path, and the foreground
annotations are computed from; the question is when the reading of the restricted events is the one
of all of them.  The frame events are never restricted. -/
namespace Stutter.Report

/-- A `u64`. -/
abbrev Time := Fin (2 ^ 64)

instance time_neZero : NeZero (2 ^ 64) := ⟨(Nat.two_pow_pos 64).ne'⟩

/-- `u64::saturating_add`. -/
def satAdd (a b : Nat) : Nat := min (a + b) (2 ^ 64 - 1)

/-- `a.abs_diff(b) <= distance`. -/
def within (distance a b : Nat) : Bool := decide (a ≤ b + distance ∧ b ≤ a + distance)

/-! ## Recorded events -/

structure IrqEventRecord where
  enterNs : Time
  exitNs : Time
  deriving DecidableEq

structure GpuSample where
  elapsedMs : Time
  deriving DecidableEq

structure MigrationEventRecord where
  timestampNs : Time
  deriving DecidableEq

structure CpuFreqRecord where
  timestampNs : Time
  elapsedMs : Time
  deriving DecidableEq

structure BlockIoRecord where
  timestampNs : Time
  durationNs : Time
  deriving DecidableEq

structure ScxEvent where
  elapsedMs : Time
  deriving DecidableEq

structure IntervalRecord where
  elapsedMs : Time
  deriving DecidableEq

structure RuntimeSliceRecord where
  elapsedMs : Time
  valid : Bool
  deriving DecidableEq

structure KmsFlipEventRecord where
  elapsedMs : Time
  timestampNs : Time
  requestNs : Option Time
  doneNs : Option Time
  durationNs : Option Time
  deriving DecidableEq

structure DrmFenceEventRecord where
  elapsedMs : Time
  timestampNs : Time
  source : String
  driver : Option String
  gpuRole : Option String
  waitStartNs : Option Time
  waitDoneNs : Option Time
  durationNs : Option Time
  exporterDriver : Option String
  importerDriver : Option String
  deriving DecidableEq

structure WaylandPresentationEventRecord where
  elapsedMs : Time
  source : String
  surfaceRole : Option String
  commitNs : Option Time
  presentedNs : Option Time
  commitToPresentNs : Option Time
  deriving DecidableEq

structure ForegroundEvent where
  elapsedMs : Time
  deriving DecidableEq

structure FrameEvent where
  elapsedMs : Time

/-- The events of a run that are restricted before they are read. -/
structure RunArtifacts where
  irqEvents : List IrqEventRecord := []
  gpuSamples : List GpuSample := []
  migrationEvents : List MigrationEventRecord := []
  cpuFreqEvents : List CpuFreqRecord := []
  blockIoEvents : List BlockIoRecord := []
  scxEvents : List ScxEvent := []
  intervals : List IntervalRecord := []
  runtimeSlices : List RuntimeSliceRecord := []
  kmsFlipEvents : List KmsFlipEventRecord := []
  drmFenceEvents : List DrmFenceEventRecord := []
  waylandPresentationEvents : List WaylandPresentationEventRecord := []
  foregroundEvents : List ForegroundEvent := []

structure SpikePoint where
  switchNs : Time
  elapsedMs : Option Time

/-- Spikes that are close together. -/
structure SpikeCluster where
  points : List SpikePoint
  minSwitchNs : Nat
  maxSwitchNs : Nat

/-- The elapsed times of a cluster's points. -/
def SpikeCluster.elapsedTimes (cluster : SpikeCluster) : List Nat :=
  (cluster.points.filterMap (·.elapsedMs)).map (·.val)

/-- `cluster_elapsed`. -/
def clusterElapsed (cluster : SpikeCluster) : Option Nat := cluster.elapsedTimes.min?

/-- `cluster_elapsed_range`. -/
def clusterElapsedRange (cluster : SpikeCluster) : Option (Nat × Nat) :=
  match cluster.elapsedTimes with
  | [] => none
  | first :: rest => some (rest.foldl min first, rest.foldl max first)

/-- The nanoseconds a cluster reaches, the window included. -/
def clusterSpan (windowNs : Nat) (cluster : SpikeCluster) : Nat × Nat :=
  (cluster.minSwitchNs - windowNs, satAdd cluster.maxSwitchNs windowNs)

/-- Everything a report is asked about: the clusters, the slow frames, the frames that are shown
with the foreground window, and the run itself. -/
structure ReportInput where
  monotonicStartNs : Option Time
  clusters : List SpikeCluster
  spikePoints : List SpikePoint
  frameSpikes : List FrameEvent
  outlierFrames : List FrameEvent
  clusterWindowNs : Nat
  maxForegroundStaleMs : Nat
  top : Nat
  artifacts : RunArtifacts

/-! ## The windows -/

/-- The windows artifacts are kept in. -/
structure CorrelationWindows where
  windowsMs : List (Nat × Nat) := []
  windowsNs : List (Nat × Nat) := []

/-- A moment inside a span. -/
def momentIn (moment : Nat) (span : Nat × Nat) : Bool :=
  decide (span.1 ≤ moment ∧ moment ≤ span.2)

/-- A stretch of time that overlaps a span. -/
def stretchIn (start stop : Nat) (span : Nat × Nat) : Bool :=
  decide (span.1 ≤ stop ∧ start ≤ span.2)

def CorrelationWindows.isInMs (windows : CorrelationWindows) (ms : Nat) : Bool :=
  windows.windowsMs.any (momentIn ms)

def CorrelationWindows.isInNs (windows : CorrelationWindows) (ns : Nat) : Bool :=
  windows.windowsNs.any (momentIn ns)

/-- The moment of a frame; the sum wraps. -/
def frameNs (start : Time) (frame : FrameEvent) : Nat :=
  (start.val + frame.elapsedMs.val * 1000000) % 2 ^ 64

/-- The nanoseconds a frame reaches. -/
def frameSpan (windowNs : Nat) (start : Time) (frame : FrameEvent) : Nat × Nat :=
  (frameNs start frame - windowNs, satAdd (frameNs start frame) windowNs)

def paddingMs (clusterWindowNs : Nat) : Nat := max (clusterWindowNs / 1000000) 1

/-- The window in milliseconds around a range of elapsed times. -/
def windowMs (padding lo hi : Nat) : Nat × Nat :=
  (max (lo - 2000) padding, max (satAdd hi 2000) padding)

/-- `compute_correlation_windows`. -/
def computeCorrelationWindows (input : ReportInput) : CorrelationWindows :=
  let padding := paddingMs input.clusterWindowNs
  { windowsMs :=
      (input.clusters.filterMap clusterElapsedRange).map (fun range =>
        windowMs padding range.1 range.2) ++
      input.frameSpikes.map fun frame =>
        windowMs padding frame.elapsedMs frame.elapsedMs
    windowsNs :=
      input.clusters.map (clusterSpan input.clusterWindowNs) ++
      match input.monotonicStartNs with
      | none => []
      | some start => input.frameSpikes.map (frameSpan input.clusterWindowNs start) }

/-! What of an event lies in a span of nanoseconds. -/

def irqIn (event : IrqEventRecord) : Nat × Nat → Bool := stretchIn event.enterNs event.exitNs

def blockIoIn (event : BlockIoRecord) : Nat × Nat → Bool :=
  stretchIn (event.timestampNs.val - event.durationNs.val) event.timestampNs

/-- By the moment of the event, or by its stretch where both ends are known. -/
def timedIn (moment : Nat) (start done : Option Time) (span : Nat × Nat) : Bool :=
  momentIn moment span ||
    match start, done with
    | some start, some done => stretchIn start done span
    | _, _ => false

def kmsFlipIn (event : KmsFlipEventRecord) : Nat × Nat → Bool :=
  timedIn event.timestampNs event.requestNs event.doneNs

def drmFenceIn (event : DrmFenceEventRecord) : Nat × Nat → Bool :=
  timedIn event.timestampNs event.waitStartNs event.waitDoneNs

/-- A presentation goes by its nanoseconds; one without both ends may also go by its elapsed
time. -/
def CorrelationWindows.keepsPresentation (windows : CorrelationWindows)
    (event : WaylandPresentationEventRecord) : Bool :=
  match event.commitNs, event.presentedNs with
  | some commit, some presented => windows.windowsNs.any (timedIn presented commit presented)
  | none, some presented => windows.isInNs presented || windows.isInMs event.elapsedMs
  | _, none => windows.isInMs event.elapsedMs

/-- No window at all. -/
def CorrelationWindows.isEmpty (windows : CorrelationWindows) : Bool :=
  windows.windowsMs.isEmpty && windows.windowsNs.isEmpty

/-- `load_correlations`, of the recorded run.  Without a window the artifacts stay as the report
loaded them: the flips, the fences, the presentations and the foreground events whole, the others
not at all. -/
def loadCorrelations (windows : CorrelationWindows) (recorded : RunArtifacts) : RunArtifacts :=
  if windows.isEmpty then
    { kmsFlipEvents := recorded.kmsFlipEvents
      drmFenceEvents := recorded.drmFenceEvents
      waylandPresentationEvents := recorded.waylandPresentationEvents
      foregroundEvents := recorded.foregroundEvents }
  else
    { irqEvents := recorded.irqEvents.filter fun e => windows.windowsNs.any (irqIn e)
      gpuSamples := recorded.gpuSamples.filter fun e => windows.isInMs e.elapsedMs
      migrationEvents := recorded.migrationEvents.filter fun e => windows.isInNs e.timestampNs
      cpuFreqEvents := recorded.cpuFreqEvents.filter fun e => windows.isInNs e.timestampNs
      blockIoEvents := recorded.blockIoEvents.filter fun e => windows.windowsNs.any (blockIoIn e)
      scxEvents := recorded.scxEvents.filter fun e => windows.isInMs e.elapsedMs
      intervals := recorded.intervals.filter fun e => windows.isInMs e.elapsedMs
      runtimeSlices := recorded.runtimeSlices.filter fun e => windows.isInMs e.elapsedMs
      kmsFlipEvents := recorded.kmsFlipEvents.filter fun e => windows.windowsNs.any (kmsFlipIn e)
      drmFenceEvents := recorded.drmFenceEvents.filter fun e => windows.windowsNs.any (drmFenceIn e)
      waylandPresentationEvents :=
        recorded.waylandPresentationEvents.filter windows.keepsPresentation
      foregroundEvents := recorded.foregroundEvents.filter fun e => windows.isInMs e.elapsedMs }

/-! ## What a report reads -/

/-- Near the first point of a cluster. -/
def nearCluster (distance : Nat) (cluster : SpikeCluster) (elapsed : Nat) : Bool :=
  (clusterElapsed cluster).any fun first => within distance elapsed first

/-- Near the range of a cluster's points. -/
def nearRange (cluster : SpikeCluster) (elapsed : Nat) : Bool :=
  (clusterElapsedRange cluster).any fun range =>
    decide (range.1 - 1000 ≤ elapsed ∧ elapsed ≤ satAdd range.2 1000)

/-- The events that `diagnose_cluster` looks at; its causes and scores are computed from these and
the cluster. -/
structure DiagnosisInputs where
  irqEvents : List IrqEventRecord
  gpuSamples : List GpuSample
  drmFenceEvents : List DrmFenceEventRecord
  ioEvents : List BlockIoRecord
  cpuFreqEvents : List CpuFreqRecord
  migrationEvents : List MigrationEventRecord
  intervalRecords : List IntervalRecord
  runtimeSlices : List RuntimeSliceRecord
  deriving DecidableEq

/-- The filters at the head of `diagnose_cluster_with_config`. -/
def diagnosisInputs (windowNs : Nat) (artifacts : RunArtifacts) (cluster : SpikeCluster) :
    DiagnosisInputs :=
  let span := clusterSpan windowNs cluster
  { irqEvents := artifacts.irqEvents.filter fun e => irqIn e span
    gpuSamples := artifacts.gpuSamples.filter fun e => nearCluster 50 cluster e.elapsedMs
    drmFenceEvents := artifacts.drmFenceEvents.filter fun e => drmFenceIn e span
    ioEvents := artifacts.blockIoEvents.filter fun e => blockIoIn e span
    cpuFreqEvents := artifacts.cpuFreqEvents.filter fun e => momentIn e.timestampNs span
    migrationEvents := artifacts.migrationEvents.filter fun e => momentIn e.timestampNs span
    intervalRecords := artifacts.intervals.filter fun e => nearRange cluster e.elapsedMs
    runtimeSlices := artifacts.runtimeSlices.filter fun e =>
      e.valid && nearRange cluster e.elapsedMs }

/-! The display path. -/

/-- `drm_fence_event_near_frame_spikes`, and the same look of a presentation. -/
def nearFrameSpikes (distance elapsed : Nat) (spikes : List FrameEvent) : Bool :=
  spikes.any fun frame => within distance elapsed frame.elapsedMs

/-- `drm_fence_event_near_kms_delay`, of a flip that took a millisecond. -/
def nearKmsDelay (elapsed : Nat) (flips : List KmsFlipEventRecord) : Bool :=
  flips.any fun flip =>
    flip.durationNs.any (fun ns => decide (1000000 ≤ ns.val)) && within 50 elapsed flip.elapsedMs

/-- `drm_fence_is_display_side`. -/
def drmFenceIsDisplaySide (event : DrmFenceEventRecord) : Bool :=
  event.gpuRole == some "display" || event.importerDriver == some "i915" ||
    event.driver == some "i915"

/-- `drm_fence_driver_path_suggests_cross_gpu`. -/
def drmFenceDriverPathSuggestsCrossGpu (event : DrmFenceEventRecord) : Bool :=
  (event.importerDriver == some "i915" || event.driver == some "i915" || event.source == "i915") &&
    (event.exporterDriver == some "amdgpu" || event.source == "amdgpu" ||
      event.driver == some "amdgpu")

/-- A presentation of the game that waited in the compositor. -/
def isCompositorQueued (event : WaylandPresentationEventRecord) : Bool :=
  event.commitToPresentNs.isSome &&
    event.surfaceRole.any (fun role => role == "game" || role == "gamescope_output") &&
    event.source == "gamescope"

/-- What `build_display_path_diagnosis_summary` looks at.  It is given counts and percentiles of all
the flips, fence waits and presentations, and the events that its proximity checks match. -/
structure DisplayPathInputs where
  kmsFlipEvents : List KmsFlipEventRecord
  drmFenceEvents : List DrmFenceEventRecord
  waylandPresentationEvents : List WaylandPresentationEventRecord
  waitsNearFrameOutliers : List DrmFenceEventRecord
  waitsNearKmsDelays : List DrmFenceEventRecord
  /-- With whether each is near a slow frame, and near a late flip. -/
  crossGpuCandidates : List (DrmFenceEventRecord × Bool × Bool)
  delaysNearFrameOutliers : List WaylandPresentationEventRecord
  delaysNearKmsDelays : List WaylandPresentationEventRecord
  compositorQueueCandidates : List WaylandPresentationEventRecord
  deriving DecidableEq

/-- `build_drm_fence_timing_summary`, `build_cross_gpu_fence_summary` and
`build_wayland_presentation_summary`, as far as the diagnosis of the display path takes from
them. -/
def displayPathInputs (spikes : List FrameEvent) (flips : List KmsFlipEventRecord)
    (fences : List DrmFenceEventRecord) (presentations : List WaylandPresentationEventRecord) :
    DisplayPathInputs :=
  let waits := fences.filter (·.durationNs.isSome)
  let delays := presentations.filter (·.commitToPresentNs.isSome)
  { kmsFlipEvents := flips
    drmFenceEvents := fences
    waylandPresentationEvents := presentations
    waitsNearFrameOutliers := waits.filter fun e => nearFrameSpikes 50 e.elapsedMs spikes
    waitsNearKmsDelays := waits.filter fun e => nearKmsDelay e.elapsedMs flips
    crossGpuCandidates :=
      (waits.filter fun e => drmFenceIsDisplaySide e && drmFenceDriverPathSuggestsCrossGpu e).map
        fun e => (e, nearFrameSpikes 50 e.elapsedMs spikes, nearKmsDelay e.elapsedMs flips)
    delaysNearFrameOutliers := delays.filter fun e => nearFrameSpikes 16 e.elapsedMs spikes
    delaysNearKmsDelays := delays.filter fun e =>
      flips.any fun flip => flip.durationNs.isSome && within 16 e.elapsedMs flip.elapsedMs
    compositorQueueCandidates := presentations.filter fun e =>
      isCompositorQueued e && nearFrameSpikes 16 e.elapsedMs spikes }

/-- The cluster `perform_frame_diagnosis` makes of the points near a frame. -/
def frameCluster (input : ReportInput) (frame : FrameEvent) : SpikeCluster :=
  let moment := match input.monotonicStartNs with
    | some start => frameNs start frame
    | none => 0
  let points := input.spikePoints.filter fun point =>
    within input.clusterWindowNs point.switchNs moment
  let switches := points.map (·.switchNs.val)
  ⟨points, switches.min?.getD 0, switches.max?.getD 0⟩

/-- The nanoseconds from the first cluster's reach to the last one's. -/
def overallSpan (input : ReportInput) : Nat × Nat :=
  let spans := input.clusters.map (clusterSpan input.clusterWindowNs)
  ((spans.map (·.1)).min?.getD 0, (spans.map (·.2)).max?.getD 0)

/-- The load predicate of a section that goes by elapsed time. -/
def nearOverall (input : ReportInput) (distance elapsed : Nat) : Bool :=
  let times := input.clusters.filterMap clusterElapsed
  match times.min?, times.max? with
  | some first, some last => decide (first - distance ≤ elapsed ∧ elapsed ≤ satAdd last distance)
  | _, _ => false

/-- `build_text_correlation_section`: the matches each of the top clusters prints. -/
def sectionMatches {α : Type} (input : ReportInput) (load : α → Bool)
    (matchCluster : SpikeCluster → α → Bool) (items : List α) : Option (List (List α)) :=
  Restriction.matchesOf load ((input.clusters.take input.top).map matchCluster) items

/-- `foreground_for_elapsed_ms`. -/
def foregroundForElapsedMs (elapsed maxStaleMs : Nat) (events : List ForegroundEvent) :
    Option ForegroundEvent :=
  Restriction.latest (fun e => e.elapsedMs.val)
    (fun e => decide (e.elapsedMs.val ≤ elapsed ∧ elapsed - e.elapsedMs.val ≤ maxStaleMs)) events

/-- Everything the sections, the diagnoses and the annotations of a report are computed from. -/
structure Reading where
  irqOverlap : Option (List (List IrqEventRecord))
  gpuNear : Option (List (List GpuSample))
  migrationOverlap : Option (List (List MigrationEventRecord))
  cpuFreqNear : Option (List (List CpuFreqRecord))
  blockIoOverlap : Option (List (List BlockIoRecord))
  scxNear : Option (List (List ScxEvent))
  clusterDiagnoses : List DiagnosisInputs
  frameDiagnoses : List DiagnosisInputs
  displayPath : DisplayPathInputs
  clusterForeground : List (Option ForegroundEvent)
  frameForeground : List (Option ForegroundEvent)
  deriving DecidableEq

/-- `text_report_correlation_sections`, the diagnoses of clusters, of frames and of the display
path, and the foreground of clusters and outlier frames, from the loaded artifacts. -/
def reading (input : ReportInput) (artifacts : RunArtifacts) : Reading :=
  let span := clusterSpan input.clusterWindowNs
  let overall := overallSpan input
  { irqOverlap := sectionMatches input (irqIn · overall) (fun c e => irqIn e (span c))
      artifacts.irqEvents
    gpuNear := sectionMatches input (fun e => nearOverall input 50 e.elapsedMs)
      (fun c e => nearCluster 50 c e.elapsedMs) artifacts.gpuSamples
    migrationOverlap := sectionMatches input (fun e => momentIn e.timestampNs overall)
      (fun c e => momentIn e.timestampNs (span c)) artifacts.migrationEvents
    cpuFreqNear := sectionMatches input (fun e => nearOverall input 50 e.elapsedMs)
      (fun c e => nearCluster 50 c e.elapsedMs) artifacts.cpuFreqEvents
    blockIoOverlap := sectionMatches input (blockIoIn · overall) (fun c e => blockIoIn e (span c))
      artifacts.blockIoEvents
    scxNear := sectionMatches input (fun e => nearOverall input 2000 e.elapsedMs)
      (fun c e => nearCluster 2000 c e.elapsedMs) artifacts.scxEvents
    clusterDiagnoses := input.clusters.map (diagnosisInputs input.clusterWindowNs artifacts)
    frameDiagnoses := input.frameSpikes.map fun frame =>
      diagnosisInputs input.clusterWindowNs artifacts (frameCluster input frame)
    displayPath := displayPathInputs input.frameSpikes artifacts.kmsFlipEvents
      artifacts.drmFenceEvents artifacts.waylandPresentationEvents
    clusterForeground := input.clusters.map fun cluster =>
      (clusterElapsed cluster).bind fun elapsed =>
        foregroundForElapsedMs elapsed input.maxForegroundStaleMs artifacts.foregroundEvents
    frameForeground := input.outlierFrames.map fun frame =>
      foregroundForElapsedMs frame.elapsedMs input.maxForegroundStaleMs
        artifacts.foregroundEvents }

/-- The filter loses nothing. -/
def Lossless (input : ReportInput) : Prop :=
  reading input (loadCorrelations (computeCorrelationWindows input) input.artifacts) =
    reading input input.artifacts

instance (input : ReportInput) : Decidable (Lossless input) := inferInstanceAs (Decidable (_ = _))

/-! ## What the windows keep -/

open CorrelationWindows

/-- `load_correlations` as one filter for each kind of event. -/
theorem loadCorrelations_eq (windows : CorrelationWindows) (recorded : RunArtifacts) :
    loadCorrelations windows recorded =
      { irqEvents := recorded.irqEvents.filter fun e => windows.windowsNs.any (irqIn e)
        gpuSamples := recorded.gpuSamples.filter fun e => windows.isInMs e.elapsedMs
        migrationEvents := recorded.migrationEvents.filter fun e => windows.isInNs e.timestampNs
        cpuFreqEvents := recorded.cpuFreqEvents.filter fun e => windows.isInNs e.timestampNs
        blockIoEvents := recorded.blockIoEvents.filter fun e => windows.windowsNs.any (blockIoIn e)
        scxEvents := recorded.scxEvents.filter fun e => windows.isInMs e.elapsedMs
        intervals := recorded.intervals.filter fun e => windows.isInMs e.elapsedMs
        runtimeSlices := recorded.runtimeSlices.filter fun e => windows.isInMs e.elapsedMs
        kmsFlipEvents := recorded.kmsFlipEvents.filter fun e =>
          windows.isEmpty || windows.windowsNs.any (kmsFlipIn e)
        drmFenceEvents := recorded.drmFenceEvents.filter fun e =>
          windows.isEmpty || windows.windowsNs.any (drmFenceIn e)
        waylandPresentationEvents := recorded.waylandPresentationEvents.filter fun e =>
          windows.isEmpty || windows.keepsPresentation e
        foregroundEvents := recorded.foregroundEvents.filter fun e =>
          windows.isEmpty || windows.isInMs e.elapsedMs } := by
  unfold loadCorrelations
  cases hempty : windows.isEmpty with
  | false => simp
  | true =>
    unfold isEmpty at hempty
    rw [Bool.and_eq_true, List.isEmpty_iff, List.isEmpty_iff] at hempty
    simp [isInMs, isInNs, hempty]

/-- Some cluster or some frame reaches what the test asks for. -/
def ReachedNs (input : ReportInput) (test : Nat × Nat → Bool) : Prop :=
  (∃ cluster ∈ input.clusters, test (clusterSpan input.clusterWindowNs cluster) = true) ∨
    ∃ start, input.monotonicStartNs = some start ∧
      ∃ frame ∈ input.frameSpikes, test (frameSpan input.clusterWindowNs start frame) = true

/-- At most two seconds away from a range of elapsed times; a range that ends two seconds before
the padding still reaches the padding itself. -/
def AroundMs (padding lo hi ms : Nat) : Prop := lo ≤ ms + 2000 ∧ (ms ≤ hi + 2000 ∨ ms = padding)

/-- Not before the padding, and around a cluster or a frame. -/
def ReachedMs (input : ReportInput) (ms : Nat) : Prop :=
  let padding := paddingMs input.clusterWindowNs
  padding ≤ ms ∧
    ((∃ cluster ∈ input.clusters, ∃ lo hi, clusterElapsedRange cluster = some (lo, hi) ∧
        AroundMs padding lo hi ms) ∨
      ∃ frame ∈ input.frameSpikes, AroundMs padding frame.elapsedMs frame.elapsedMs ms)

variable (input : ReportInput)

theorem windowsNs_any_iff (test : Nat × Nat → Bool) :
    (computeCorrelationWindows input).windowsNs.any test = true ↔ ReachedNs input test := by
  unfold computeCorrelationWindows ReachedNs
  rw [List.any_append, Bool.or_eq_true, List.any_map, List.any_eq_true]
  refine or_congr Iff.rfl ?_
  cases input.monotonicStartNs with
  | none => simp
  | some start => simp

theorem momentIn_windowMs_iff (padding lo hi : Nat) (ms : Time) :
    momentIn ms (windowMs padding lo hi) = true ↔ padding ≤ ms ∧ AroundMs padding lo hi ms := by
  have hbound := ms.isLt
  unfold momentIn windowMs satAdd AroundMs
  rw [decide_eq_true_eq]
  omega

theorem isInMs_iff (ms : Time) :
    (computeCorrelationWindows input).isInMs ms = true ↔ ReachedMs input ms := by
  unfold computeCorrelationWindows isInMs ReachedMs
  rw [List.any_append, Bool.or_eq_true, List.any_map, List.any_map, List.any_eq_true,
    List.any_eq_true]
  simp only [Function.comp_apply, momentIn_windowMs_iff, List.mem_filterMap]
  constructor
  · rintro (⟨⟨lo, hi⟩, ⟨cluster, hcluster, hrange⟩, hpadding, haround⟩ |
      ⟨frame, hframe, hpadding, haround⟩)
    · exact ⟨hpadding, .inl ⟨cluster, hcluster, lo, hi, hrange, haround⟩⟩
    · exact ⟨hpadding, .inr ⟨frame, hframe, haround⟩⟩
  · rintro ⟨hpadding, ⟨cluster, hcluster, lo, hi, hrange, haround⟩ | ⟨frame, hframe, haround⟩⟩
    · exact .inl ⟨(lo, hi), ⟨cluster, hcluster, hrange⟩, hpadding, haround⟩
    · exact .inr ⟨frame, hframe, hpadding, haround⟩

/-- A presentation that `keepsPresentation` keeps. -/
def ReachedPresentation (input : ReportInput) (event : WaylandPresentationEventRecord) : Prop :=
  match event.commitNs, event.presentedNs with
  | some commit, some presented => ReachedNs input (timedIn presented commit presented)
  | none, some presented => ReachedNs input (momentIn presented) ∨ ReachedMs input event.elapsedMs
  | _, none => ReachedMs input event.elapsedMs

theorem keepsPresentation_iff (event : WaylandPresentationEventRecord) :
    (computeCorrelationWindows input).keepsPresentation event = true ↔
      ReachedPresentation input event := by
  unfold keepsPresentation ReachedPresentation
  rcases event.commitNs with _ | commit
  · rcases event.presentedNs with _ | presented
    · exact isInMs_iff input event.elapsedMs
    · dsimp only
      rw [Bool.or_eq_true, isInMs_iff, isInNs, windowsNs_any_iff]
  · rcases event.presentedNs with _ | presented
    · exact isInMs_iff input event.elapsedMs
    · exact windowsNs_any_iff input _

theorem isEmpty_iff :
    (computeCorrelationWindows input).isEmpty = true ↔
      input.clusters = [] ∧ input.frameSpikes = [] := by
  unfold isEmpty computeCorrelationWindows
  constructor
  · intro h
    simp only [Bool.and_eq_true, List.isEmpty_iff, List.append_eq_nil_iff, List.map_eq_nil_iff] at h
    exact ⟨h.2.1, h.1.2⟩
  · rintro ⟨hclusters, hframes⟩
    rw [hclusters, hframes]
    cases input.monotonicStartNs with
    | none => rfl
    | some start => rfl

section
variable {input : ReportInput} {cluster : SpikeCluster}

theorem reachedNs_of_cluster (hcluster : cluster ∈ input.clusters) {test : Nat × Nat → Bool}
    (h : test (clusterSpan input.clusterWindowNs cluster) = true) : ReachedNs input test :=
  .inl ⟨cluster, hcluster, h⟩

theorem reachedMs_of_range (hcluster : cluster ∈ input.clusters) {range : Nat × Nat}
    (hrange : clusterElapsedRange cluster = some range) {ms : Nat} (hlow : range.1 ≤ ms + 2000)
    (hhigh : ms ≤ range.2 + 2000) (hpadding : paddingMs input.clusterWindowNs ≤ ms) :
    ReachedMs input ms :=
  ⟨hpadding, .inl ⟨cluster, hcluster, range.1, range.2, hrange, hlow, .inl hhigh⟩⟩

theorem foldl_min_le_max (first : Nat) (rest : List Nat) :
    rest.foldl min first ≤ first ∧ first ≤ rest.foldl max first := by
  induction rest generalizing first with
  | nil => exact ⟨Nat.le_refl _, Nat.le_refl _⟩
  | cons value rest ih =>
    obtain ⟨hmin, _⟩ := ih (min first value)
    obtain ⟨_, hmax⟩ := ih (max first value)
    exact ⟨Nat.le_trans hmin (Nat.min_le_left _ _), Nat.le_trans (Nat.le_max_left _ _) hmax⟩

theorem clusterElapsedRange_le {range : Nat × Nat}
    (h : clusterElapsedRange cluster = some range) : range.1 ≤ range.2 := by
  unfold clusterElapsedRange at h
  cases htimes : cluster.elapsedTimes with
  | nil =>
    rw [htimes] at h
    cases h
  | cons first rest =>
    rw [htimes] at h
    cases h
    obtain ⟨hmin, hmax⟩ := foldl_min_le_max first rest
    exact Nat.le_trans hmin hmax

/-- The first point is at the lower end of the range. -/
theorem clusterElapsed_eq (cluster : SpikeCluster) :
    clusterElapsed cluster = (clusterElapsedRange cluster).map (·.1) := by
  unfold clusterElapsed clusterElapsedRange
  cases cluster.elapsedTimes with
  | nil => rfl
  | cons first rest => rfl

theorem range_of_nearCluster {distance elapsed : Nat}
    (h : nearCluster distance cluster elapsed = true) :
    ∃ range, clusterElapsedRange cluster = some range ∧ elapsed ≤ range.1 + distance ∧
      range.1 ≤ elapsed + distance := by
  unfold nearCluster at h
  rw [clusterElapsed_eq] at h
  cases hrange : clusterElapsedRange cluster with
  | none =>
    rw [hrange] at h
    cases h
  | some range =>
    rw [hrange] at h
    exact ⟨range, rfl, of_decide_eq_true h⟩

/-- **An event near a cluster is reached exactly when it is not earlier than the padding.** -/
theorem reachedMs_iff_of_nearCluster (hcluster : cluster ∈ input.clusters) {distance : Nat}
    (hdistance : distance ≤ 2000) {ms : Nat} (h : nearCluster distance cluster ms = true) :
    ReachedMs input ms ↔ paddingMs input.clusterWindowNs ≤ ms := by
  obtain ⟨range, hrange, hhigh, hlow⟩ := range_of_nearCluster h
  have hle := clusterElapsedRange_le hrange
  exact ⟨And.left,
    fun hpadding => reachedMs_of_range hcluster hrange (by omega) (by omega) hpadding⟩

theorem reachedMs_iff_of_nearRange (hcluster : cluster ∈ input.clusters) {ms : Nat}
    (h : nearRange cluster ms = true) :
    ReachedMs input ms ↔ paddingMs input.clusterWindowNs ≤ ms := by
  unfold nearRange at h
  cases hrange : clusterElapsedRange cluster with
  | none =>
    rw [hrange] at h
    cases h
  | some range =>
    rw [hrange, Option.any_some, decide_eq_true_eq] at h
    obtain ⟨hlow, hhigh⟩ := h
    unfold satAdd at hhigh
    exact ⟨And.left,
      fun hpadding => reachedMs_of_range hcluster hrange (by omega) (by omega) hpadding⟩

/-- What is near a cluster is near the clusters overall. -/
theorem nearOverall_of_nearCluster (hcluster : cluster ∈ input.clusters) {distance : Nat}
    {ms : Time} (h : nearCluster distance cluster ms = true) :
    nearOverall input distance ms = true := by
  obtain ⟨range, hrange, hhigh, hlow⟩ := range_of_nearCluster h
  have hmem : range.1 ∈ input.clusters.filterMap clusterElapsed := by
    refine List.mem_filterMap.mpr ⟨cluster, hcluster, ?_⟩
    rw [clusterElapsed_eq, hrange]
    rfl
  unfold nearOverall
  simp only
  cases hmin : (input.clusters.filterMap clusterElapsed).min? with
  | none =>
    rw [List.min?_eq_none_iff] at hmin
    rw [hmin] at hmem
    cases hmem
  | some first =>
    cases hmax : (input.clusters.filterMap clusterElapsed).max? with
    | none =>
      rw [List.max?_eq_none_iff] at hmax
      rw [hmax] at hmem
      cases hmem
    | some last =>
      have hfirst := (List.min?_eq_some_iff.mp hmin).2 _ hmem
      have hlast := (List.max?_eq_some_iff.mp hmax).2 _ hmem
      have hbound := ms.isLt
      unfold satAdd
      simp only [decide_eq_true_eq]
      omega

end

/-! ## The sections -/

/-- If anything is loaded, so is something that is kept. -/
def Represented {α : Type} (load : α → Bool) (kept : α → Prop) (items : List α) : Prop :=
  (∃ a ∈ items, load a = true) → ∃ a ∈ items, load a = true ∧ kept a

section
variable {α : Type} {input : ReportInput} {keep : α → Bool}

theorem sectionMatches_eq_iff {kept : α → Prop} (hkeep : ∀ a, keep a = true ↔ kept a)
    (load : α → Bool) (matchCluster : SpikeCluster → α → Bool) (items : List α) :
    sectionMatches input load matchCluster (items.filter keep) =
        sectionMatches input load matchCluster items ↔
      Represented load kept items ∧ ∀ cluster ∈ input.clusters.take input.top, ∀ a ∈ items,
        load a = true → matchCluster cluster a = true → kept a := by
  unfold sectionMatches Represented
  rw [Restriction.matchesOf_eq_iff]
  simp only [hkeep, List.mem_map, forall_exists_index, and_imp, forall_apply_eq_imp_iff₂]

/-- What overlaps a cluster is always kept. -/
theorem overlapSection_eq_iff (input : ReportInput) (inside : α → Nat × Nat → Bool)
    (hkeep : ∀ a, keep a = true ↔ ReachedNs input (inside a)) (items : List α) :
    sectionMatches input (inside · (overallSpan input))
          (fun c a => inside a (clusterSpan input.clusterWindowNs c)) (items.filter keep) =
        sectionMatches input (inside · (overallSpan input))
          (fun c a => inside a (clusterSpan input.clusterWindowNs c)) items ↔
      Represented (inside · (overallSpan input)) (fun a => ReachedNs input (inside a)) items := by
  rw [sectionMatches_eq_iff hkeep]
  constructor
  · exact And.left
  · intro h
    refine ⟨h, fun cluster hcluster a _ _ hmatch => ?_⟩
    exact reachedNs_of_cluster (List.mem_of_mem_take hcluster) hmatch

/-- The load predicate of a section by elapsed time asks for nothing more than its matches do. -/
theorem nearSection_eq_iff (input : ReportInput) {kept : α → Prop}
    (hkeep : ∀ a, keep a = true ↔ kept a) (elapsed : α → Time) (distance : Nat) (items : List α) :
    sectionMatches input (fun a => nearOverall input distance (elapsed a))
          (fun c a => nearCluster distance c (elapsed a)) (items.filter keep) =
        sectionMatches input (fun a => nearOverall input distance (elapsed a))
          (fun c a => nearCluster distance c (elapsed a)) items ↔
      Represented (fun a => nearOverall input distance (elapsed a)) kept items ∧
        ∀ cluster ∈ input.clusters.take input.top, ∀ a ∈ items,
          nearCluster distance cluster (elapsed a) = true → kept a := by
  rw [sectionMatches_eq_iff hkeep]
  refine and_congr_right fun _ => forall₂_congr fun cluster hcluster => forall₂_congr fun a _ => ?_
  constructor
  · intro h hnear
    exact h (nearOverall_of_nearCluster (List.mem_of_mem_take hcluster) hnear) hnear
  · intro h _ hnear
    exact h hnear

end

/-! ## The diagnoses -/

/-- Every event the diagnosis of a cluster looks at is reached. -/
structure DiagnosisCovered (input : ReportInput) (cluster : SpikeCluster) : Prop where
  irq : ∀ e ∈ input.artifacts.irqEvents,
    irqIn e (clusterSpan input.clusterWindowNs cluster) = true → ReachedNs input (irqIn e)
  gpu : ∀ e ∈ input.artifacts.gpuSamples,
    nearCluster 50 cluster e.elapsedMs = true → ReachedMs input e.elapsedMs
  drmFence : ∀ e ∈ input.artifacts.drmFenceEvents,
    drmFenceIn e (clusterSpan input.clusterWindowNs cluster) = true →
      ReachedNs input (drmFenceIn e)
  io : ∀ e ∈ input.artifacts.blockIoEvents,
    blockIoIn e (clusterSpan input.clusterWindowNs cluster) = true → ReachedNs input (blockIoIn e)
  cpuFreq : ∀ e ∈ input.artifacts.cpuFreqEvents,
    momentIn e.timestampNs (clusterSpan input.clusterWindowNs cluster) = true →
      ReachedNs input (momentIn e.timestampNs)
  migration : ∀ e ∈ input.artifacts.migrationEvents,
    momentIn e.timestampNs (clusterSpan input.clusterWindowNs cluster) = true →
      ReachedNs input (momentIn e.timestampNs)
  interval : ∀ e ∈ input.artifacts.intervals,
    nearRange cluster e.elapsedMs = true → ReachedMs input e.elapsedMs
  runtimeSlice : ∀ e ∈ input.artifacts.runtimeSlices,
    e.valid = true → nearRange cluster e.elapsedMs = true → ReachedMs input e.elapsedMs

theorem diagnosisInputs_eq_iff (cluster : SpikeCluster)
    (hsome : ¬ (computeCorrelationWindows input).isEmpty = true) :
    diagnosisInputs input.clusterWindowNs
          (loadCorrelations (computeCorrelationWindows input) input.artifacts) cluster =
        diagnosisInputs input.clusterWindowNs input.artifacts cluster ↔
      DiagnosisCovered input cluster := by
  rw [loadCorrelations_eq]
  unfold diagnosisInputs
  rw [DiagnosisInputs.mk.injEq]
  simp only [Restriction.filter_eq_iff, hsome, Bool.false_or, isInNs,
    windowsNs_any_iff, isInMs_iff, Bool.and_eq_true, and_imp]
  constructor
  · rintro ⟨hirq, hgpu, hfence, hio, hfreq, hmigration, hinterval, hslice⟩
    exact ⟨hirq, hgpu, hfence, hio, hfreq, hmigration, hinterval, hslice⟩
  · intro h
    exact ⟨h.irq, h.gpu, h.drmFence, h.io, h.cpuFreq, h.migration, h.interval, h.runtimeSlice⟩

/-- What the diagnosis of a cluster looks at is reached, but for what the padding cuts off. -/
structure NotEarly (input : ReportInput) (cluster : SpikeCluster) : Prop where
  gpu : ∀ e ∈ input.artifacts.gpuSamples,
    nearCluster 50 cluster e.elapsedMs = true → paddingMs input.clusterWindowNs ≤ e.elapsedMs
  interval : ∀ e ∈ input.artifacts.intervals,
    nearRange cluster e.elapsedMs = true → paddingMs input.clusterWindowNs ≤ e.elapsedMs
  runtimeSlice : ∀ e ∈ input.artifacts.runtimeSlices, e.valid = true →
    nearRange cluster e.elapsedMs = true → paddingMs input.clusterWindowNs ≤ e.elapsedMs

theorem diagnosisCovered_iff {input : ReportInput} {cluster : SpikeCluster}
    (hcluster : cluster ∈ input.clusters) :
    DiagnosisCovered input cluster ↔ NotEarly input cluster := by
  constructor
  · intro h
    exact ⟨fun e he hnear => (h.gpu e he hnear).1, fun e he hnear => (h.interval e he hnear).1,
      fun e he hvalid hnear => (h.runtimeSlice e he hvalid hnear).1⟩
  · intro h
    exact {
      irq := fun e _ hin => reachedNs_of_cluster hcluster hin
      gpu := fun e he hnear =>
        (reachedMs_iff_of_nearCluster hcluster (by omega) hnear).mpr (h.gpu e he hnear)
      drmFence := fun e _ hin => reachedNs_of_cluster hcluster hin
      io := fun e _ hin => reachedNs_of_cluster hcluster hin
      cpuFreq := fun e _ hin => reachedNs_of_cluster hcluster hin
      migration := fun e _ hin => reachedNs_of_cluster hcluster hin
      interval := fun e he hnear =>
        (reachedMs_iff_of_nearRange hcluster hnear).mpr (h.interval e he hnear)
      runtimeSlice := fun e he hvalid hnear =>
        (reachedMs_iff_of_nearRange hcluster hnear).mpr (h.runtimeSlice e he hvalid hnear) }

/-! ## The display path -/

/-- The diagnosis of the display path looks at all its events. -/
theorem displayPathInputs_inj {spikes : List FrameEvent} {flips others : List KmsFlipEventRecord}
    {fences otherFences : List DrmFenceEventRecord}
    {presentations otherPresentations : List WaylandPresentationEventRecord} :
    displayPathInputs spikes flips fences presentations =
        displayPathInputs spikes others otherFences otherPresentations ↔
      flips = others ∧ fences = otherFences ∧ presentations = otherPresentations := by
  constructor
  · intro h
    exact ⟨congrArg DisplayPathInputs.kmsFlipEvents h, congrArg DisplayPathInputs.drmFenceEvents h,
      congrArg DisplayPathInputs.waylandPresentationEvents h⟩
  · rintro ⟨rfl, rfl, rfl⟩
    rfl

/-- Nothing is restricted, or every flip, fence and presentation is reached. -/
structure DisplayPathCovered (input : ReportInput) : Prop where
  kmsFlip : ∀ e ∈ input.artifacts.kmsFlipEvents,
    (input.clusters = [] ∧ input.frameSpikes = []) ∨ ReachedNs input (kmsFlipIn e)
  drmFence : ∀ e ∈ input.artifacts.drmFenceEvents,
    (input.clusters = [] ∧ input.frameSpikes = []) ∨ ReachedNs input (drmFenceIn e)
  presentation : ∀ e ∈ input.artifacts.waylandPresentationEvents,
    (input.clusters = [] ∧ input.frameSpikes = []) ∨ ReachedPresentation input e

theorem displayPath_eq_iff :
    displayPathInputs input.frameSpikes
          (loadCorrelations (computeCorrelationWindows input) input.artifacts).kmsFlipEvents
          (loadCorrelations (computeCorrelationWindows input) input.artifacts).drmFenceEvents
          (loadCorrelations (computeCorrelationWindows input)
            input.artifacts).waylandPresentationEvents =
        displayPathInputs input.frameSpikes input.artifacts.kmsFlipEvents
          input.artifacts.drmFenceEvents input.artifacts.waylandPresentationEvents ↔
      DisplayPathCovered input := by
  rw [displayPathInputs_inj, loadCorrelations_eq]
  simp only [List.filter_eq_self, Bool.or_eq_true, isEmpty_iff, windowsNs_any_iff,
    keepsPresentation_iff]
  constructor
  · rintro ⟨hflip, hfence, hpresentation⟩
    exact ⟨hflip, hfence, hpresentation⟩
  · intro h
    exact ⟨h.kmsFlip, h.drmFence, h.presentation⟩

/-! ## The foreground -/

/-- The foreground at a moment, of all the recorded events, is kept. -/
def ForegroundCovered (input : ReportInput) (elapsed : Nat) : Prop :=
  ∀ event, foregroundForElapsedMs elapsed input.maxForegroundStaleMs
      input.artifacts.foregroundEvents = some event →
    (input.clusters = [] ∧ input.frameSpikes = []) ∨ ReachedMs input event.elapsedMs

theorem foreground_eq_iff (elapsed : Nat) :
    foregroundForElapsedMs elapsed input.maxForegroundStaleMs
          (loadCorrelations (computeCorrelationWindows input) input.artifacts).foregroundEvents =
        foregroundForElapsedMs elapsed input.maxForegroundStaleMs
          input.artifacts.foregroundEvents ↔
      ForegroundCovered input elapsed := by
  rw [loadCorrelations_eq]
  unfold foregroundForElapsedMs ForegroundCovered
  rw [Restriction.latest_eq_iff]
  simp only [Bool.or_eq_true, isEmpty_iff, isInMs_iff]
  rfl

/-- **When the windows are wide enough.**  Each section that has an event between the clusters has
one that is reached; near a cluster nothing is earlier than the padding; the frequency samples near
a shown cluster, taken by elapsed time, are reached in nanoseconds too; everything the diagnosis of
a frame or of the display path looks at is reached, and so is the foreground of every cluster and
outlier frame. -/
structure Covered (input : ReportInput) : Prop where
  irqShown : Represented (irqIn · (overallSpan input)) (fun e => ReachedNs input (irqIn e))
    input.artifacts.irqEvents
  gpuShown : Represented (fun e : GpuSample => nearOverall input 50 e.elapsedMs)
    (fun e => ReachedMs input e.elapsedMs) input.artifacts.gpuSamples
  migrationShown : Represented
    (fun e : MigrationEventRecord => momentIn e.timestampNs (overallSpan input))
    (fun e => ReachedNs input (momentIn e.timestampNs)) input.artifacts.migrationEvents
  cpuFreqShown : Represented (fun e : CpuFreqRecord => nearOverall input 50 e.elapsedMs)
    (fun e => ReachedNs input (momentIn e.timestampNs)) input.artifacts.cpuFreqEvents
  blockIoShown : Represented (blockIoIn · (overallSpan input))
    (fun e => ReachedNs input (blockIoIn e)) input.artifacts.blockIoEvents
  scxShown : Represented (fun e : ScxEvent => nearOverall input 2000 e.elapsedMs)
    (fun e => ReachedMs input e.elapsedMs) input.artifacts.scxEvents
  notEarly : ∀ cluster ∈ input.clusters, NotEarly input cluster
  scxNotEarly : ∀ cluster ∈ input.clusters.take input.top, ∀ e ∈ input.artifacts.scxEvents,
    nearCluster 2000 cluster e.elapsedMs = true →
      paddingMs input.clusterWindowNs ≤ e.elapsedMs
  cpuFreqNear : ∀ cluster ∈ input.clusters.take input.top, ∀ e ∈ input.artifacts.cpuFreqEvents,
    nearCluster 50 cluster e.elapsedMs = true → ReachedNs input (momentIn e.timestampNs)
  frames : ∀ frame ∈ input.frameSpikes, DiagnosisCovered input (frameCluster input frame)
  displayPath : DisplayPathCovered input
  clusterForeground : ∀ cluster ∈ input.clusters, ∀ elapsed,
    clusterElapsed cluster = some elapsed → ForegroundCovered input elapsed
  frameForeground : ∀ frame ∈ input.outlierFrames, ForegroundCovered input frame.elapsedMs

/-! Each part of the reading, and the part of `Covered` it comes down to. -/

section
variable (input : ReportInput)

theorem clusterDiagnoses_eq_iff :
    input.clusters.map (diagnosisInputs input.clusterWindowNs
          (loadCorrelations (computeCorrelationWindows input) input.artifacts)) =
        input.clusters.map (diagnosisInputs input.clusterWindowNs input.artifacts) ↔
      ∀ cluster ∈ input.clusters, NotEarly input cluster := by
  rw [List.map_inj_left]
  refine forall₂_congr fun cluster hcluster => ?_
  have hsome : ¬ (computeCorrelationWindows input).isEmpty = true := by
    intro h
    rw [((isEmpty_iff input).mp h).1] at hcluster
    cases hcluster
  rw [diagnosisInputs_eq_iff input cluster hsome, diagnosisCovered_iff hcluster]

theorem frameDiagnoses_eq_iff :
    (input.frameSpikes.map fun frame => diagnosisInputs input.clusterWindowNs
          (loadCorrelations (computeCorrelationWindows input) input.artifacts)
          (frameCluster input frame)) =
        (input.frameSpikes.map fun frame =>
          diagnosisInputs input.clusterWindowNs input.artifacts (frameCluster input frame)) ↔
      ∀ frame ∈ input.frameSpikes, DiagnosisCovered input (frameCluster input frame) := by
  rw [List.map_inj_left]
  refine forall₂_congr fun frame hframe => ?_
  have hsome : ¬ (computeCorrelationWindows input).isEmpty = true := by
    intro h
    rw [((isEmpty_iff input).mp h).2] at hframe
    cases hframe
  exact diagnosisInputs_eq_iff input _ hsome

theorem clusterForeground_eq_iff :
    (input.clusters.map fun cluster => (clusterElapsed cluster).bind fun elapsed =>
        foregroundForElapsedMs elapsed input.maxForegroundStaleMs
          (loadCorrelations (computeCorrelationWindows input) input.artifacts).foregroundEvents) =
        (input.clusters.map fun cluster => (clusterElapsed cluster).bind fun elapsed =>
          foregroundForElapsedMs elapsed input.maxForegroundStaleMs
            input.artifacts.foregroundEvents) ↔
      ∀ cluster ∈ input.clusters, ∀ elapsed,
        clusterElapsed cluster = some elapsed → ForegroundCovered input elapsed := by
  rw [List.map_inj_left]
  refine forall₂_congr fun cluster _ => ?_
  cases clusterElapsed cluster with
  | none => simp
  | some elapsed =>
    rw [Option.bind_some, Option.bind_some, foreground_eq_iff]
    simp

theorem frameForeground_eq_iff :
    (input.outlierFrames.map fun frame =>
        foregroundForElapsedMs frame.elapsedMs input.maxForegroundStaleMs
          (loadCorrelations (computeCorrelationWindows input) input.artifacts).foregroundEvents) =
        (input.outlierFrames.map fun frame =>
          foregroundForElapsedMs frame.elapsedMs input.maxForegroundStaleMs
            input.artifacts.foregroundEvents) ↔
      ∀ frame ∈ input.outlierFrames, ForegroundCovered input frame.elapsedMs := by
  rw [List.map_inj_left]
  exact forall₂_congr fun frame _ => foreground_eq_iff input frame.elapsedMs

end

/-- Three tasks that spike four milliseconds into the run. -/
def earlyPoints : List SpikePoint :=
  [⟨4001000, some 4⟩, ⟨4002000, some 4⟩, ⟨4003000, some 4⟩]

/-- Their cluster, read with the default window of five milliseconds, and a GPU sample one
millisecond before it. -/
def earlySample : ReportInput :=
  { monotonicStartNs := some 1000
    clusters := [⟨earlyPoints, 4001000, 4003000⟩]
    spikePoints := earlyPoints
    frameSpikes := []
    outlierFrames := []
    clusterWindowNs := 5000000
    maxForegroundStaleMs := 2500
    top := 10
    artifacts := { gpuSamples := [⟨3⟩] } }

end Stutter.Report

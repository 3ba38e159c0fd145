import StutterProof.ActiveConfig
import StutterProof.Buckets

/-! # Interval histograms

The monitor records every scheduling latency of an interval in counters and in a histogram; the
objective reads intervals back and checks the two against each other before it uses them.  The
monitor counts a latency that is exactly a threshold as over it, the objective takes the buckets
above the threshold, and a latency that is exactly a bound is in the bucket of that bound. -/
namespace Stutter.Metrics

open ActiveConfig (TaskClass)

/-- `u64` arithmetic of the counters. -/
def wrapU64 (n : Nat) : Nat := n % 2 ^ 64

/-- `u64::checked_add`. -/
def checkedAdd (a b : Nat) : Option Nat := if a + b < 2 ^ 64 then some (a + b) else none

/-! ## The monitor's side -/

/-- `MAX_EXACT_SAMPLES`. -/
def maxExactSamples : Nat := 1024

/-- `LATENCY_HISTOGRAM_BUCKETS_NS`. -/
def latencyHistogramBucketsNs : List Nat :=
  [1000, 2000, 5000, 10000, 20000, 50000, 100000, 200000, 500000, 1000000, 2000000, 5000000,
    10000000, 20000000, 50000000]

/-- `LATENCY_HISTOGRAM_BUCKET_COUNT`. -/
abbrev latencyHistogramBucketCount : Nat := latencyHistogramBucketsNs.length + 1

/-- A bucket of a recorded histogram. -/
structure LatencyHistogramBucket where
  upperBoundNs : Option Nat
  count : Nat
  deriving DecidableEq

/-- The counts of the buckets. -/
abbrev LatencyHistogram := Fin latencyHistogramBucketCount → Nat

def LatencyHistogram.new : LatencyHistogram := fun _ => 0

/-- `LatencyHistogram::record`. -/
def LatencyHistogram.record (histogram : LatencyHistogram) (latencyNs : Nat) : LatencyHistogram :=
  let bucketIdx := Buckets.index latencyHistogramBucketsNs latencyNs
  fun i => if i = bucketIdx then wrapU64 (histogram i + 1) else histogram i

/-- `LatencyHistogram::snapshot`. -/
def LatencyHistogram.snapshot (histogram : LatencyHistogram) : List LatencyHistogramBucket :=
  List.ofFn fun i => ⟨latencyHistogramBucketsNs[i.val]?, histogram i⟩

/-- The statistics of a task's latencies. -/
structure LatencyStats where
  count : Nat
  minNs : Nat
  maxNs : Nat
  sumNs : Nat
  over1ms : Nat
  over2ms : Nat
  over5ms : Nat
  samplesNs : List Nat
  samplesTruncated : Nat
  histogram : LatencyHistogram

def LatencyStats.new : LatencyStats := ⟨0, 0, 0, 0, 0, 0, 0, [], 0, .new⟩

/-- `LatencyStats::record`. -/
def LatencyStats.record (stats : LatencyStats) (latencyNs : Nat) : LatencyStats where
  count := wrapU64 (stats.count + 1)
  minNs := if stats.count = 0 then latencyNs else min stats.minNs latencyNs
  maxNs := if stats.count = 0 then latencyNs else max stats.maxNs latencyNs
  sumNs := (stats.sumNs + latencyNs) % 2 ^ 128
  over1ms := if 1000000 ≤ latencyNs then wrapU64 (stats.over1ms + 1) else stats.over1ms
  over2ms := if 2000000 ≤ latencyNs then wrapU64 (stats.over2ms + 1) else stats.over2ms
  over5ms := if 5000000 ≤ latencyNs then wrapU64 (stats.over5ms + 1) else stats.over5ms
  samplesNs :=
    if stats.samplesNs.length < maxExactSamples then stats.samplesNs ++ [latencyNs]
    else stats.samplesNs
  samplesTruncated :=
    if stats.samplesNs.length < maxExactSamples then stats.samplesTruncated
    else wrapU64 (stats.samplesTruncated + 1)
  histogram := stats.histogram.record latencyNs

/-- A snapshot, without the percentiles. -/
structure LatencySnapshot where
  count : Nat
  storedSamples : Nat
  minNs : Nat
  avgNs : Nat
  maxNs : Nat
  over1ms : Nat
  over2ms : Nat
  over5ms : Nat
  samplesTruncated : Nat
  percentileScope : String
  histogram : List LatencyHistogramBucket

/-- `LatencyStats::snapshot`. -/
def LatencyStats.snapshot (stats : LatencyStats) : Option LatencySnapshot :=
  if stats.count = 0 then none
  else some {
    count := stats.count
    storedSamples := min stats.count maxExactSamples
    minNs := stats.minNs
    avgNs := wrapU64 (stats.sumNs / stats.count)
    maxNs := stats.maxNs
    over1ms := stats.over1ms
    over2ms := stats.over2ms
    over5ms := stats.over5ms
    samplesTruncated := stats.samplesTruncated
    percentileScope := if 0 < stats.samplesTruncated then "histogram" else "exact"
    histogram := stats.histogram.snapshot }

/-- An interval record, as far as the objective reads it. -/
structure IntervalRecord where
  taskClass : TaskClass
  samples : Nat
  maxNs : Nat
  over1ms : Nat
  over2ms : Nat
  over5ms : Nat
  histogram : List LatencyHistogramBucket

/-- `interval_record_from_snapshot`. -/
def intervalRecordFromSnapshot (taskClass : TaskClass) (latency : LatencySnapshot) :
    IntervalRecord where
  taskClass := taskClass
  samples := latency.count
  maxNs := latency.maxNs
  over1ms := latency.over1ms
  over2ms := latency.over2ms
  over5ms := latency.over5ms
  histogram := latency.histogram

/-! ## The objective's side -/

/-- `is_primary_game_class`. -/
def isPrimaryGameClass : TaskClass → Bool
  | .game | .gameRenderThread | .gameWorkerThread | .gameHelper | .wineServer => true
  | _ => false

/-- The histogram of a window. -/
structure WindowHistogram where
  buckets : List LatencyHistogramBucket
  samples : Nat
  maxNs : Nat
  deriving DecidableEq

def WindowHistogram.empty : WindowHistogram := ⟨LatencyHistogram.new.snapshot, 0, 0⟩

/-- `tail_count`. -/
def tailCount (buckets : List LatencyHistogramBucket) (threshold : Nat) : Nat :=
  wrapU64 ((buckets.filter fun bucket => bucket.upperBoundNs.all (threshold < ·)).map (·.count)).sum

/-- The thresholds of the tail counters. -/
def tailThresholds : List Nat := [1000000, 2000000, 5000000]

/-- The producer's counter of a threshold. -/
def IntervalRecord.expectedTail (record : IntervalRecord) (threshold : Nat) : Nat :=
  if threshold = 1000000 then record.over1ms
  else if threshold = 2000000 then record.over2ms
  else record.over5ms

/-- The loop that looks for a populated bucket that begins at the maximum or above it. -/
def disagreesWithMaximum (maxNs : Nat) : Option Nat → List LatencyHistogramBucket → Bool
  | _, [] => false
  | lowerBound, bucket :: rest =>
    (0 < bucket.count && lowerBound.any (maxNs ≤ ·)) || disagreesWithMaximum maxNs
      bucket.upperBoundNs rest

/-- The counts of two histograms, bucket by bucket. -/
def mergeBuckets : List LatencyHistogramBucket → List LatencyHistogramBucket →
    Option (List LatencyHistogramBucket)
  | bucket :: buckets, incoming :: rest => do
    let count ← checkedAdd bucket.count incoming.count
    let merged ← mergeBuckets buckets rest
    return ⟨bucket.upperBoundNs, count⟩ :: merged
  | buckets, _ => some buckets

/-- A record that says nothing. -/
def IntervalRecord.isSilent (record : IntervalRecord) : Bool :=
  record.samples = 0 && record.over1ms = 0 && record.over2ms = 0 && record.over5ms = 0 &&
    record.histogram.all (·.count = 0)

/-- One turn of `WindowHistogram::from_records`. -/
def WindowHistogram.add (window : WindowHistogram) (record : IntervalRecord) :
    Except String WindowHistogram :=
  if record.isSilent then .ok window
  else if record.histogram.length ≠ window.buckets.length ||
      (record.histogram.zip window.buckets).any fun (incoming, expected) =>
        incoming.upperBoundNs ≠ expected.upperBoundNs then
    .error "missing or incompatible runnable-latency histogram"
  else match record.histogram.foldlM (fun total bucket => checkedAdd total bucket.count) 0 with
  | none => .error "runnable-latency histogram count overflow"
  | some count =>
    if count ≠ record.samples then .error "inconsistent runnable-latency histogram population"
    else if tailThresholds.any fun threshold =>
        tailCount record.histogram threshold ≠ record.expectedTail threshold then
      .error "runnable-latency histogram disagrees with tail counters"
    else if disagreesWithMaximum record.maxNs none record.histogram then
      .error "runnable-latency histogram disagrees with maximum"
    else if (record.histogram.find? fun bucket => bucket.upperBoundNs.all (record.maxNs ≤ ·)).all
        (·.count = 0) then
      .error "runnable-latency maximum has no histogram observation"
    else match checkedAdd window.samples count with
    | none => .error "runnable-latency window count overflow"
    | some samples =>
      match mergeBuckets window.buckets record.histogram with
      | none => .error "runnable-latency bucket count overflow"
      | some buckets => .ok ⟨buckets, samples, max window.maxNs record.maxNs⟩

open WindowHistogram

/-- `WindowHistogram::from_records`. -/
def WindowHistogram.fromRecords (records : List IntervalRecord) : Except String WindowHistogram :=
  do
  let window ← (records.filter (isPrimaryGameClass ·.taskClass)).foldlM add .empty
  if window.samples = 0 then
    .error "direct runnable-latency signal unavailable: no game scheduler samples"
  else .ok window

/-! ## What the counters of a sequence are

As long as a `u64` counts the samples, every counter is the number of samples it is named for. -/

def LatencyStats.recordAll (samples : List Nat) : LatencyStats :=
  samples.foldl LatencyStats.record .new

theorem latencyHistogramBucketsNs_sorted : latencyHistogramBucketsNs.Pairwise (· < ·) := by decide

/-- The number of samples of a bucket. -/
def inBucket (samples : List Nat) (i : Fin latencyHistogramBucketCount) : Nat :=
  samples.countP fun sample => Buckets.index latencyHistogramBucketsNs sample = i

/-- The statistics count the samples. -/
structure LatencyStats.Counts (stats : LatencyStats) (samples : List Nat) : Prop where
  count : stats.count = samples.length
  over1ms : stats.over1ms = samples.countP (1000000 ≤ ·)
  over2ms : stats.over2ms = samples.countP (2000000 ≤ ·)
  over5ms : stats.over5ms = samples.countP (5000000 ≤ ·)
  histogram : ∀ i, stats.histogram i = inBucket samples i
  le_maxNs : ∀ sample ∈ samples, sample ≤ stats.maxNs
  maxNs_mem : samples ≠ [] → stats.maxNs ∈ samples

theorem wrapU64_of_lt {n : Nat} (lt : n < 2 ^ 64) : wrapU64 n = n := Nat.mod_eq_of_lt lt

/-- A counter of the samples with a property counts one more. -/
theorem countP_record (samples : List Nat) (fits : samples.length + 1 < 2 ^ 64) (p : Nat → Bool)
    (sample : Nat) :
    (if p sample then wrapU64 (samples.countP p + 1) else samples.countP p)
      = (samples ++ [sample]).countP p := by
  have bound := List.countP_le_length (p := p) (l := samples)
  rw [List.countP_append, List.countP_singleton]
  by_cases counted : p sample
  · rw [if_pos counted, if_pos counted, wrapU64_of_lt (by omega)]
  · rw [if_neg counted, if_neg counted, Nat.add_zero]

variable {samples : List Nat} {stats : LatencyStats}

theorem LatencyStats.Counts.record (counts : stats.Counts samples)
    (fits : samples.length + 1 < 2 ^ 64) (sample : Nat) :
    (stats.record sample).Counts (samples ++ [sample]) where
  count := by
    show wrapU64 (stats.count + 1) = _
    rw [counts.count, wrapU64_of_lt fits, List.length_append, List.length_singleton]
  over1ms := by
    have next := countP_record samples fits (1000000 ≤ ·) sample
    simpa [LatencyStats.record, counts.over1ms] using next
  over2ms := by
    have next := countP_record samples fits (2000000 ≤ ·) sample
    simpa [LatencyStats.record, counts.over2ms] using next
  over5ms := by
    have next := countP_record samples fits (5000000 ≤ ·) sample
    simpa [LatencyStats.record, counts.over5ms] using next
  histogram := by
    intro i
    have next := countP_record samples fits
      (fun sample => Buckets.index latencyHistogramBucketsNs sample = i) sample
    rw [inBucket, ← next]
    show (if i = _ then wrapU64 (stats.histogram i + 1) else stats.histogram i) = _
    rw [counts.histogram, inBucket]
    by_cases here : i = Buckets.index latencyHistogramBucketsNs sample
    · rw [if_pos here, if_pos (by simpa using here.symm)]
    · rw [if_neg here, if_neg (by simpa using fun same => here (Eq.symm same))]
  le_maxNs := by
    intro other mem
    show other ≤ if stats.count = 0 then sample else max stats.maxNs sample
    have zero := counts.count
    rcases List.mem_append.mp mem with before | now
    · have nonempty : samples.length ≠ 0 := fun none => by
        rw [List.length_eq_zero_iff] at none
        simp [none] at before
      rw [if_neg (by omega)]
      exact le_max_of_le_left (counts.le_maxNs other before)
    · rw [List.mem_singleton.mp now]
      split
      · exact le_refl _
      · exact le_max_right _ _
  maxNs_mem := by
    intro _
    show (if stats.count = 0 then sample else max stats.maxNs sample) ∈ _
    rw [List.mem_append, List.mem_singleton]
    by_cases zero : stats.count = 0
    · rw [if_pos zero]
      exact .inr rfl
    · rw [if_neg zero]
      have nonempty : samples ≠ [] := fun none => zero (by rw [counts.count, none, List.length_nil])
      rcases max_choice stats.maxNs sample with old | new
      · rw [old]
        exact .inl (counts.maxNs_mem nonempty)
      · rw [new]
        exact .inr rfl

open LatencyStats

theorem LatencyStats.counts_recordAll (samples : List Nat) (fits : samples.length < 2 ^ 64) :
    (recordAll samples).Counts samples := by
  induction samples using List.reverseRecOn with
  | nil => exact ⟨rfl, rfl, rfl, rfl, fun _ => rfl, nofun, fun none => absurd rfl none⟩
  | append_singleton samples sample ih =>
    rw [List.length_append, List.length_singleton] at fits
    unfold recordAll
    rw [List.foldl_append]
    exact (ih (by omega)).record fits sample

/-! ## The checks of one record -/

/-- The record of a sequence: `snapshot` and `interval_record_from_snapshot`. -/
def recordOf (taskClass : TaskClass) (samples : List Nat) : IntervalRecord where
  taskClass := taskClass
  samples := samples.length
  maxNs := (recordAll samples).maxNs
  over1ms := samples.countP (1000000 ≤ ·)
  over2ms := samples.countP (2000000 ≤ ·)
  over5ms := samples.countP (5000000 ≤ ·)
  histogram := LatencyHistogram.snapshot (inBucket samples)

theorem intervalRecord_eq (fits : samples.length < 2 ^ 64)
    {latency : LatencySnapshot} (found : (recordAll samples).snapshot = some latency)
    (taskClass : TaskClass) :
    samples ≠ [] ∧ intervalRecordFromSnapshot taskClass latency = recordOf taskClass samples := by
  have counts := counts_recordAll samples fits
  have histogram : (recordAll samples).histogram = inBucket samples :=
    funext counts.histogram
  unfold snapshot at found
  split at found
  · cases found
  · rename_i some
    cases found
    constructor
    · intro none
      rw [none] at some
      exact some rfl
    · simp only [intervalRecordFromSnapshot, recordOf, counts.count, counts.over1ms, counts.over2ms,
        counts.over5ms, histogram]

theorem snapshot_isSome (fits : samples.length < 2 ^ 64) (nonempty : samples ≠ []) :
    ∃ latency, (recordAll samples).snapshot = some latency := by
  have counts := counts_recordAll samples fits
  have positive := List.length_pos_iff.mpr nonempty
  unfold snapshot
  rw [if_neg (by rw [counts.count]; omega)]
  exact ⟨_, rfl⟩

variable (histogram : LatencyHistogram)

/-- The counts of a histogram's buckets that have a property. -/
theorem sum_snapshot (p : Option Nat → Bool) :
    ((histogram.snapshot.filter fun bucket => p bucket.upperBoundNs).map (·.count)).sum
      = ∑ i, if p latencyHistogramBucketsNs[i.val]? then histogram i else 0 := by
  have sum_filter : ∀ buckets : List LatencyHistogramBucket,
      ((buckets.filter fun bucket => p bucket.upperBoundNs).map (·.count)).sum
        = (buckets.map fun bucket => if p bucket.upperBoundNs then bucket.count else 0).sum := by
    intro buckets
    induction buckets with
    | nil => rfl
    | cons bucket rest ih =>
      by_cases counted : p bucket.upperBoundNs
      · simp [counted, ih]
      · simp [counted, ih]
  rw [sum_filter, LatencyHistogram.snapshot, List.map_ofFn, List.sum_ofFn]
  rfl

/-- The buckets above a bound hold the samples above it. -/
theorem tailCount_snapshot (fits : samples.length < 2 ^ 64) {k : Nat}
    (below : k < latencyHistogramBucketsNs.length) :
    tailCount (LatencyHistogram.snapshot (inBucket samples)) latencyHistogramBucketsNs[k]
      = samples.countP (latencyHistogramBucketsNs[k] < ·) := by
  have above : ∀ i : Fin latencyHistogramBucketCount,
      (latencyHistogramBucketsNs[i.val]?.all (latencyHistogramBucketsNs[k] < ·)) =
        decide (k < i.val) := by
    intro i
    by_cases last : i.val < latencyHistogramBucketsNs.length
    · rw [List.getElem?_eq_getElem last, Option.all_some]
      exact decide_eq_decide.mpr
        (Buckets.getElem_lt_iff latencyHistogramBucketsNs_sorted below last)
    · rw [List.getElem?_eq_none (by omega), Option.all_none]
      simp only [true_eq_decide_iff]
      omega
  have sum := sum_snapshot (inBucket samples)
    (fun upper => upper.all (latencyHistogramBucketsNs[k] < ·))
  unfold tailCount
  rw [sum]
  simp only [above]
  have count := Buckets.sum_countP (Buckets.index latencyHistogramBucketsNs)
    (fun i => decide (k < i.val)) samples
  have same : (samples.countP fun sample =>
        decide (k < (Buckets.index latencyHistogramBucketsNs sample).val))
      = samples.countP (latencyHistogramBucketsNs[k] < ·) := by
    apply List.countP_congr
    intro sample _
    simpa using Buckets.lt_index_iff latencyHistogramBucketsNs_sorted below sample
  rw [same] at count
  have bound :=
    List.countP_le_length (p := fun sample => decide (latencyHistogramBucketsNs[k] < sample))
    (l := samples)
  show wrapU64 (∑ i, if decide (k < i.val) = true then inBucket samples i else 0) = _
  unfold inBucket
  rw [count]
  exact wrapU64_of_lt (by omega)

/-- Counted from a threshold on, or above it: the difference is the samples exactly there. -/
theorem countP_le_eq (samples : List Nat) (threshold : Nat) :
    samples.countP (threshold ≤ ·) = samples.countP (threshold < ·) + samples.count threshold := by
  induction samples with
  | nil => rfl
  | cons sample rest ih =>
    simp only [List.countP_cons, List.count_cons, decide_eq_true_eq, beq_iff_eq]
    rw [ih]
    split_ifs <;> omega

theorem length_snapshot : histogram.snapshot.length = latencyHistogramBucketCount := by
  rw [LatencyHistogram.snapshot, List.length_ofFn]

theorem getElem_snapshot {i : Nat} (below : i < histogram.snapshot.length) :
    histogram.snapshot[i] = ⟨latencyHistogramBucketsNs[i]?,
      histogram ⟨i, by rw [length_snapshot] at below; exact below⟩⟩ := by
  exact List.getElem_ofFn below

/-- Two histograms have the same bounds. -/
theorem snapshot_bounds (histogram other : LatencyHistogram) :
    ((histogram.snapshot.zip other.snapshot).any fun (incoming, expected) =>
      incoming.upperBoundNs ≠ expected.upperBoundNs) = false := by
  rw [List.any_eq_false]
  intro pair mem
  obtain ⟨i, below, found⟩ := List.getElem_of_mem mem
  subst found
  simp only [List.getElem_zip, getElem_snapshot, ne_eq, not_true_eq_false, decide_false,
    Bool.false_eq_true, not_false_eq_true]

theorem foldlM_checkedAdd (buckets : List LatencyHistogramBucket) (total : Nat)
    (fits : total + (buckets.map (·.count)).sum < 2 ^ 64) :
    buckets.foldlM (fun total bucket => checkedAdd total bucket.count) total
      = some (total + (buckets.map (·.count)).sum) := by
  induction buckets generalizing total with
  | nil => simp
  | cons bucket rest ih =>
    rw [List.map_cons, List.sum_cons] at fits ⊢
    have first : checkedAdd total bucket.count = some (total + bucket.count) := if_pos (by omega)
    rw [List.foldlM_cons, first]
    show rest.foldlM _ (total + bucket.count) = _
    rw [ih _ (by omega), Nat.add_assoc]

/-- The histogram counts every sample once. -/
theorem sum_inBucket (samples : List Nat) :
    ((LatencyHistogram.snapshot (inBucket samples)).map (·.count)).sum = samples.length := by
  rw [LatencyHistogram.snapshot, List.map_ofFn, List.sum_ofFn]
  exact Buckets.sum_countP_eq_length (Buckets.index latencyHistogramBucketsNs) samples

/-- The loop over the lower bounds finds nothing when every populated bucket begins below. -/
theorem disagreesWithMaximum_eq_false {maxNs : Nat} {lowerBound : Option Nat}
    {buckets : List LatencyHistogramBucket}
    (first : ∀ bucket ∈ buckets.head?, 0 < bucket.count → ∀ lower ∈ lowerBound, lower < maxNs)
    (next : ∀ i, ∀ below : i + 1 < buckets.length, 0 < buckets[i + 1].count →
      ∀ lower ∈ buckets[i].upperBoundNs, lower < maxNs) :
    disagreesWithMaximum maxNs lowerBound buckets = false := by
  induction buckets generalizing lowerBound with
  | nil => rfl
  | cons bucket rest ih =>
    rw [disagreesWithMaximum, Bool.or_eq_false_iff]
    constructor
    · by_cases populated : 0 < bucket.count
      · rcases lowerBound with _ | lower
        · simp
        · have lt := first bucket rfl populated lower rfl
          simp only [Option.any_some, Bool.and_eq_false_iff, decide_eq_false_iff_not]
          exact .inr (by omega)
      · simp [populated]
    · apply ih
      · intro head mem populated
        cases rest with
        | nil => cases mem
        | cons head' rest' =>
          cases mem
          exact next 0 (by simp) populated
      · intro i below populated
        exact next (i + 1) (by simpa using below) populated

theorem inBucket_le (samples : List Nat) (i : Fin latencyHistogramBucketCount) :
    inBucket samples i ≤ samples.length := List.countP_le_length

/-- A populated bucket holds a sample. -/
theorem exists_of_inBucket {i : Fin latencyHistogramBucketCount}
    (populated : 0 < inBucket samples i) :
    ∃ sample ∈ samples, Buckets.index latencyHistogramBucketsNs sample = i := by
  simpa [inBucket, List.countP_pos_iff] using populated

theorem populated_below_maximum (counts : stats.Counts samples) :
    disagreesWithMaximum stats.maxNs none (LatencyHistogram.snapshot (inBucket samples)) =
      false := by
  apply disagreesWithMaximum_eq_false
  · intro _ _ _ lower none
    cases none
  · intro i below populated lower isLower
    rw [getElem_snapshot] at populated isLower
    obtain ⟨sample, mem, index⟩ := exists_of_inBucket populated
    have le := counts.le_maxNs sample mem
    rw [length_snapshot] at below
    have bound : i < latencyHistogramBucketsNs.length := Nat.lt_of_succ_lt_succ below
    have lt := (Buckets.lt_index_iff latencyHistogramBucketsNs_sorted bound sample).mp
      (by rw [index]; exact Nat.lt_succ_self i)
    have isLower : latencyHistogramBucketsNs[i]? = some lower := isLower
    rw [List.getElem?_eq_getElem bound] at isLower
    cases isLower
    omega

/-- The bucket of the maximum is the first that is not below it, and the maximum is in it. -/
theorem maximum_observed (counts : stats.Counts samples) (nonempty : samples ≠ []) :
    ((LatencyHistogram.snapshot (inBucket samples)).find? fun bucket =>
      bucket.upperBoundNs.all (stats.maxNs ≤ ·)).all (·.count = 0) = false := by
  let i := Buckets.index latencyHistogramBucketsNs stats.maxNs
  have below : i.val < (LatencyHistogram.snapshot (inBucket samples)).length := by
    rw [length_snapshot]
    exact i.isLt
  have found : (LatencyHistogram.snapshot (inBucket samples)).find? (fun bucket =>
      bucket.upperBoundNs.all (stats.maxNs ≤ ·)) =
        some ⟨latencyHistogramBucketsNs[i.val]?, inBucket samples i⟩ := by
    rw [List.find?_eq_some_iff_getElem]
    refine ⟨?_, i.val, below, getElem_snapshot _ below, ?_⟩
    · by_cases bound : i.val < latencyHistogramBucketsNs.length
      · have covered :=
          mt (Buckets.lt_index_iff latencyHistogramBucketsNs_sorted bound stats.maxNs).mpr
          (Nat.lt_irrefl _)
        rw [List.getElem?_eq_getElem bound]
        simpa using covered
      · rw [List.getElem?_eq_none (by omega)]
        rfl
    · intro j before
      have bound : j < latencyHistogramBucketsNs.length := by
        have := i.isLt
        omega
      have above :=
        (Buckets.lt_index_iff latencyHistogramBucketsNs_sorted bound stats.maxNs).mp before
      rw [getElem_snapshot, List.getElem?_eq_getElem bound]
      simpa using above
  have positive : 0 < inBucket samples i := by
    rw [inBucket, List.countP_pos_iff]
    exact ⟨stats.maxNs, counts.maxNs_mem nonempty, by simp [i]⟩
  rw [found]
  simp only [Option.all_some, decide_eq_false_iff_not]
  omega

theorem mergeBuckets_zero {buckets : List LatencyHistogramBucket}
    (fits : ∀ bucket ∈ buckets, bucket.count < 2 ^ 64) :
    mergeBuckets (buckets.map fun bucket => ⟨bucket.upperBoundNs, 0⟩) buckets = some buckets := by
  induction buckets with
  | nil => rfl
  | cons bucket rest ih =>
    have count : checkedAdd 0 bucket.count = some bucket.count := by
      rw [checkedAdd, Nat.zero_add, if_pos (fits bucket List.mem_cons_self)]
    have merged := ih fun other mem => fits other (List.mem_cons_of_mem _ mem)
    simp only [List.map_cons, mergeBuckets, count, merged, Option.bind_eq_bind, Option.bind_some,
      Option.pure_def]

variable (taskClass : TaskClass) {threshold : Nat}

theorem expectedTail_recordOf (samples : List Nat) (mem : threshold ∈ tailThresholds) :
    (recordOf taskClass samples).expectedTail threshold = samples.countP (threshold ≤ ·) := by
  simp only [tailThresholds, List.mem_cons, List.not_mem_nil, or_false] at mem
  rcases mem with rfl | rfl | rfl <;> rfl

theorem tailCount_recordOf (fits : samples.length < 2 ^ 64) (mem : threshold ∈ tailThresholds) :
    tailCount (recordOf taskClass samples).histogram threshold =
      samples.countP (threshold < ·) := by
  simp only [tailThresholds, List.mem_cons, List.not_mem_nil, or_false] at mem
  rcases mem with rfl | rfl | rfl
  · exact tailCount_snapshot fits (k := 9) (by decide)
  · exact tailCount_snapshot fits (k := 10) (by decide)
  · exact tailCount_snapshot fits (k := 11) (by decide)

/-- The two sides agree on a threshold iff no sample is exactly there. -/
theorem tail_agrees_iff (fits : samples.length < 2 ^ 64) (mem : threshold ∈ tailThresholds) :
    tailCount (recordOf taskClass samples).histogram threshold
      = (recordOf taskClass samples).expectedTail threshold ↔ threshold ∉ samples := by
  rw [tailCount_recordOf taskClass fits mem, expectedTail_recordOf taskClass samples mem,
    countP_le_eq, ← List.count_eq_zero]
  omega

/-- A record that is taken has agreeing tails. -/
theorem WindowHistogram.add_ok {window taken : WindowHistogram} {record : IntervalRecord}
    (ok : window.add record = .ok taken) (speaks : record.isSilent = false)
    (mem : threshold ∈ tailThresholds) :
    tailCount record.histogram threshold = record.expectedTail threshold := by
  unfold add at ok
  rw [if_neg (by simp [speaks])] at ok
  split at ok
  · cases ok
  split at ok
  · cases ok
  split at ok
  · cases ok
  split at ok
  · cases ok
  · rename_i agree
    have agree := mt List.any_eq_true.mpr agree
    by_contra differ
    exact agree ⟨threshold, mem, by simpa using differ⟩

/-- A record with no sample at a threshold is taken as it is. -/
theorem WindowHistogram.add_recordOf (fits : samples.length < 2 ^ 64) (nonempty : samples ≠ [])
    (off : ∀ threshold ∈ tailThresholds, threshold ∉ samples) :
    empty.add (recordOf taskClass samples)
      = .ok ⟨(recordOf taskClass samples).histogram, samples.length,
          max 0 (recordAll samples).maxNs⟩ := by
  have counts := counts_recordAll samples fits
  have positive := List.length_pos_iff.mpr nonempty
  have speaks : (recordOf taskClass samples).isSilent = false := by
    have some : ¬ samples.length = 0 := by omega
    simp [IntervalRecord.isSilent, recordOf, some]
  have shape : ((recordOf taskClass samples).histogram.length ≠
      empty.buckets.length ||
      ((recordOf taskClass samples).histogram.zip empty.buckets).any
        fun (incoming, expected) => incoming.upperBoundNs ≠ expected.upperBoundNs) = false := by
    rw [Bool.or_eq_false_iff]
    refine ⟨?_, snapshot_bounds _ _⟩
    simp only [recordOf, empty, length_snapshot, ne_eq, not_true_eq_false,
      decide_false]
  have population : (recordOf taskClass samples).histogram.foldlM
      (fun total bucket => checkedAdd total bucket.count) 0 = some samples.length := by
    have sum := sum_inBucket samples
    have fold := foldlM_checkedAdd (recordOf taskClass samples).histogram 0
      (by rw [Nat.zero_add]; exact sum.symm ▸ fits)
    rw [Nat.zero_add] at fold
    rw [fold]
    exact congrArg some sum
  have tails : (tailThresholds.any fun threshold =>
      tailCount (recordOf taskClass samples).histogram threshold
        ≠ (recordOf taskClass samples).expectedTail threshold) = false := by
    rw [List.any_eq_false]
    intro threshold mem
    simpa using (tail_agrees_iff taskClass fits mem).mpr (off threshold mem)
  have merged : mergeBuckets empty.buckets (recordOf taskClass samples).histogram
      = some (recordOf taskClass samples).histogram := by
    have zeros : empty.buckets
        = (recordOf taskClass samples).histogram.map fun bucket => ⟨bucket.upperBoundNs, 0⟩ := by
      simp only [empty, recordOf, LatencyHistogram.snapshot, LatencyHistogram.new,
        List.map_ofFn]
      rfl
    rw [zeros]
    apply mergeBuckets_zero
    intro bucket mem
    obtain ⟨i, below, found⟩ := List.getElem_of_mem mem
    have bucket_eq := getElem_snapshot (inBucket samples) below
    have found : (LatencyHistogram.snapshot (inBucket samples))[i] = bucket := found
    rw [← found, bucket_eq]
    exact Nat.lt_of_le_of_lt (inBucket_le samples _) fits
  have window : checkedAdd empty.samples samples.length = some samples.length := by
    rw [checkedAdd, if_pos (by simpa [empty] using fits)]
    simp [empty]
  have below : disagreesWithMaximum (recordOf taskClass samples).maxNs none
      (recordOf taskClass samples).histogram = false := populated_below_maximum counts
  have observed : ((recordOf taskClass samples).histogram.find? fun bucket =>
      bucket.upperBoundNs.all ((recordOf taskClass samples).maxNs ≤ ·)).all (·.count = 0) = false :=
    maximum_observed counts nonempty
  unfold add
  rw [if_neg (by simp [speaks]), if_neg (by rw [shape]; simp), population]
  simp only
  rw [if_neg (fun differ => differ rfl), if_neg (by rw [tails]; simp), if_neg (by rw [below]; simp),
    if_neg (by rw [observed]; simp), window]
  simp only
  rw [merged]
  rfl

theorem WindowHistogram.fromRecords_singleton {record : IntervalRecord}
    (game : isPrimaryGameClass record.taskClass = true) :
    fromRecords [record] = empty.add record >>= fun window =>
      if window.samples = 0 then
        .error "direct runnable-latency signal unavailable: no game scheduler samples"
      else .ok window := by
  simp only [fromRecords, List.filter_cons, game, if_true, List.filter_nil,
    List.foldlM_cons, List.foldlM_nil, bind_pure]

/-- What the monitor wrote passes the check, and the thresholds count what it counted. -/
def IntervalRecord.Agrees (record : IntervalRecord) : Prop :=
  ∃ window, fromRecords [record] = .ok window ∧
    ∀ threshold ∈ tailThresholds, tailCount window.buckets threshold = record.expectedTail threshold

/-- For every sequence of samples that a `u64` counts: the objective takes the record of a game
task as it was counted iff no sample is exactly 1, 2 or 5 ms. -/
theorem interval_record_agrees_iff (samples : List Nat) (fits : samples.length < 2 ^ 64) :
    (∀ taskClass, isPrimaryGameClass taskClass → ∀ latency,
        (recordAll samples).snapshot = some latency →
        (intervalRecordFromSnapshot taskClass latency).Agrees) ↔
      ∀ sample ∈ samples, sample ≠ 1000000 ∧ sample ≠ 2000000 ∧ sample ≠ 5000000 := by
  have off_iff : (∀ threshold ∈ tailThresholds, threshold ∉ samples) ↔
      ∀ sample ∈ samples, sample ≠ 1000000 ∧ sample ≠ 2000000 ∧ sample ≠ 5000000 := by
    simp only [tailThresholds, List.mem_cons, List.not_mem_nil, or_false, forall_eq_or_imp,
      forall_eq]
    constructor
    · rintro ⟨one, two, five⟩ sample mem
      exact ⟨fun same => one (same ▸ mem), fun same => two (same ▸ mem),
        fun same => five (same ▸ mem)⟩
    · intro off
      exact ⟨fun mem => (off _ mem).1 rfl, fun mem => (off _ mem).2.1 rfl,
        fun mem => (off _ mem).2.2 rfl⟩
  rw [← off_iff]
  constructor
  · intro agrees threshold mem sample
    have nonempty : samples ≠ [] := List.ne_nil_of_mem sample
    obtain ⟨latency, found⟩ := snapshot_isSome fits nonempty
    obtain ⟨-, record_eq⟩ := intervalRecord_eq fits found .game
    obtain ⟨window, ok, -⟩ := agrees .game rfl latency found
    rw [record_eq] at ok
    have speaks : (recordOf .game samples).isSilent = false := by
      have some : ¬ samples.length = 0 := fun none => nonempty (List.length_eq_zero_iff.mp none)
      simp [IntervalRecord.isSilent, recordOf, some]
    -- the one record was taken
    have taken : ∃ taken, empty.add (recordOf .game samples) = .ok taken := by
      rw [fromRecords_singleton rfl] at ok
      rcases added : empty.add (recordOf .game samples) with error | taken
      · rw [added] at ok
        cases ok
      · exact ⟨taken, rfl⟩
    obtain ⟨taken, added⟩ := taken
    exact (tail_agrees_iff .game fits mem).mp (add_ok added speaks mem) sample
  · intro off taskClass game latency found
    obtain ⟨nonempty, record_eq⟩ := intervalRecord_eq fits found taskClass
    rw [record_eq]
    have positive := List.length_pos_iff.mpr nonempty
    have game : isPrimaryGameClass (recordOf taskClass samples).taskClass = true := game
    have added := add_recordOf taskClass fits nonempty off
    refine ⟨⟨(recordOf taskClass samples).histogram, samples.length,
        max 0 (recordAll samples).maxNs⟩, ?_,
      fun threshold mem => (tail_agrees_iff taskClass fits mem).mpr (off threshold mem)⟩
    rw [fromRecords_singleton game, added]
    exact if_neg (by simp only; omega)

/-- Five latencies around the thresholds, none of them exactly there. -/
theorem interval_record_agrees_around :
    ∃ latency,
      (recordAll [999999, 1000001, 2000001, 5000001, 70000000]).snapshot =
        some latency ∧
      (intervalRecordFromSnapshot .game latency).Agrees := by
  obtain ⟨latency, found⟩ : ∃ latency,
      (recordAll [999999, 1000001, 2000001, 5000001, 70000000]).snapshot =
        some latency :=
    ⟨_, rfl⟩
  have agrees := (interval_record_agrees_iff [999999, 1000001, 2000001, 5000001, 70000000]
    (by decide)).mpr (by decide)
  exact ⟨latency, found, agrees .game rfl latency found⟩

/-- One latency of exactly 1 ms. -/
theorem interval_record_rejected :
    ¬ ∀ samples taskClass, isPrimaryGameClass taskClass → ∀ latency,
      (recordAll samples).snapshot = some latency →
      (intervalRecordFromSnapshot taskClass latency).Agrees := by
  intro agrees
  obtain ⟨latency, found⟩ : ∃ latency, (recordAll [1000000]).snapshot = some latency :=
    ⟨_, rfl⟩
  obtain ⟨window, ok, -⟩ := agrees [1000000] .game rfl latency found
  cases found
  have rejected : fromRecords [intervalRecordFromSnapshot .game
      ((recordAll [1000000]).snapshot.get rfl)]
      = .error "runnable-latency histogram disagrees with tail counters" := by decide +kernel
  exact absurd (ok.symm.trans rejected) (by simp)

end Stutter.Metrics

import Mathlib.Algebra.Order.BigOperators.Group.List
import Mathlib.Algebra.Order.Floor.Semifield
import Mathlib.Data.Rat.Floor
import StutterProof.LatencyWindow
import StutterProof.NearestRank

/-! # The percentiles of a snapshot

A snapshot gives two percentiles of the latencies it counts.  While all of them are stored they are
the nearest ranks.  Beyond that they are the upper bounds of the buckets of these, and the maximum
where the bucket has no bound; there the bound may be above the maximum.  The ranks are exact
here. -/
namespace Stutter.Metrics

/-! ## The monitor's side -/

/-- The loop of `percentile_upper_bound`. -/
def upperBoundFrom (rank : Nat) : Nat → List LatencyHistogramBucket → Option Nat
  | _, [] => none
  | cumulative, bucket :: rest =>
    let cumulative := wrapU64 (cumulative + bucket.count)
    if rank ≤ cumulative then bucket.upperBoundNs else upperBoundFrom rank cumulative rest

/-- `LatencyHistogram::percentile_upper_bound`. -/
def LatencyHistogram.percentileUpperBound (histogram : LatencyHistogram) (totalCount : Nat)
    (percentile : ℚ) : Option Nat :=
  if totalCount = 0 then some 0
  else
    let rank := max ⌈totalCount * percentile⌉₊ 1
    upperBoundFrom rank 0 histogram.snapshot

/-- `percentile_from_sorted`. -/
def percentileFromSorted (samples : List Nat) (percentile : ℚ) : Nat :=
  if samples.isEmpty then 0
  else
    let rank := ⌈samples.length * percentile⌉₊ - 1
    let idx := min rank (samples.length - 1)
    samples.getD idx 0

/-- A snapshot, with the percentiles. -/
structure LatencyPercentileSnapshot extends LatencySnapshot where
  p95Ns : Nat
  p99Ns : Nat

/-- A percentile of `LatencyStats::snapshot`. -/
def LatencyStats.percentile (stats : LatencyStats) (percentile : ℚ) : Nat :=
  if 0 < stats.samplesTruncated then
    -- the last bucket has no upper bound
    (stats.histogram.percentileUpperBound stats.count percentile).getD stats.maxNs
  else percentileFromSorted (stats.samplesNs.insertionSort (· ≤ ·)) percentile

/-- `LatencyStats::snapshot`, with the percentiles. -/
def LatencyStats.percentileSnapshot (stats : LatencyStats) : Option LatencyPercentileSnapshot :=
  stats.snapshot.map fun latency =>
    { latency with p95Ns := stats.percentile (95 / 100), p99Ns := stats.percentile (99 / 100) }

/-! ## What a snapshot is to say -/

open NearestRank

/-- The nearest rank of a percentile among the samples. -/
def exactPercentile (samples : List Nat) (percentile : ℚ) : Nat :=
  value 0 samples ⌈samples.length * percentile⌉₊

open Buckets

/-- The upper bound of a latency's bucket. -/
def upperBoundOf (latencyNs : Nat) : Option Nat :=
  latencyHistogramBucketsNs[(index latencyHistogramBucketsNs latencyNs).val]?

/-- The order the summary keeps, beside the samples. -/
structure LatencyPercentileSnapshot.Bounded (latency : LatencyPercentileSnapshot)
    (samples : List Nat) :
    Prop where
  min_le_avg : latency.minNs ≤ latency.avgNs
  avg_le_max : latency.avgNs ≤ latency.maxNs
  min_le_p95 : latency.minNs ≤ latency.p95Ns
  p95_le_p99 : latency.p95Ns ≤ latency.p99Ns
  p99_le_max : latency.p99Ns ≤ latency.maxNs
  population : (latency.histogram.map (·.count)).sum = latency.count
  over5_le_over2 : latency.over5ms ≤ latency.over2ms
  over2_le_over1 : latency.over2ms ≤ latency.over1ms
  over1_le_count : latency.over1ms ≤ latency.count
  exact_le_p95 : latency.percentileScope = "histogram" →
    exactPercentile samples (95 / 100) ≤ latency.p95Ns
  exact_le_p99 : latency.percentileScope = "histogram" →
    exactPercentile samples (99 / 100) ≤ latency.p99Ns

/-- Some sample reaches the upper bound of the bucket of the 99th percentile, if it has one. -/
def ReachesBound (samples : List Nat) : Prop :=
  ∀ upper, upperBoundOf (exactPercentile samples (99 / 100)) = some upper →
    ∃ sample ∈ samples, upper ≤ sample

/-! ## Ranks -/

section Ranks
variable {samples : List Nat} {percentile : ℚ}

theorem rank_pos (hsamples : samples ≠ []) (hpos : 0 < percentile) :
    0 < ⌈samples.length * percentile⌉₊ := by
  have hlength : (0 : ℚ) < samples.length := by exact_mod_cast List.length_pos_iff.mpr hsamples
  exact Nat.ceil_pos.mpr (mul_pos hlength hpos)

theorem rank_le_length (hone : percentile ≤ 1) :
    ⌈samples.length * percentile⌉₊ ≤ samples.length := by
  rw [Nat.ceil_le]
  exact mul_le_of_le_one_right (Nat.cast_nonneg _) hone

theorem rank_mono {percentile' : ℚ} (hle : percentile ≤ percentile') :
    ⌈samples.length * percentile⌉₊ ≤ ⌈samples.length * percentile'⌉₊ :=
  Nat.ceil_mono (mul_le_mul_of_nonneg_left hle (Nat.cast_nonneg _))

theorem exactPercentile_mem (hsamples : samples ≠ []) (hpos : 0 < percentile)
    (hone : percentile ≤ 1) :
    exactPercentile samples percentile ∈ samples :=
  value_mem (rank_pos hsamples hpos) (rank_le_length hone)

theorem exactPercentile_mono {percentile' : ℚ} (hsamples : samples ≠ []) (hpos : 0 < percentile)
    (hle : percentile ≤ percentile') (hone : percentile' ≤ 1) :
    exactPercentile samples percentile ≤ exactPercentile samples percentile' :=
  value_mono (rank_pos hsamples hpos) (rank_mono hle) (rank_le_length hone)

/-- While all samples are stored a percentile is the nearest rank. -/
theorem percentileFromSorted_eq (hsamples : samples ≠ []) (hone : percentile ≤ 1) :
    percentileFromSorted (samples.insertionSort (· ≤ ·)) percentile =
      exactPercentile samples percentile := by
  have hlength := List.length_pos_iff.mpr hsamples
  have hrank : ⌈samples.length * percentile⌉₊ ≤ samples.length := rank_le_length hone
  have hidx : min (⌈samples.length * percentile⌉₊ - 1) (samples.length - 1) =
      ⌈samples.length * percentile⌉₊ - 1 := by omega
  have hempty : (samples.insertionSort (· ≤ ·)).isEmpty = false := by
    rw [← Bool.not_eq_true, List.isEmpty_iff_length_eq_zero, List.length_insertionSort]
    omega
  simp only [percentileFromSorted, hempty, Bool.false_eq_true, if_false, List.length_insertionSort,
    hidx]
  rfl

end Ranks

/-! ## Buckets -/

theorem upperBoundOf_eq_some {latencyNs upper : Nat} (h : upperBoundOf latencyNs = some upper) :
    latencyNs ≤ upper := by
  obtain ⟨hbelow, hupper⟩ := List.getElem?_eq_some_iff.mp h
  have hindex := (lt_index_iff latencyHistogramBucketsNs_sorted hbelow latencyNs).not
  have hle := hindex.mp (lt_irrefl _)
  rw [hupper] at hle
  omega

/-- The bound of the bucket, or a maximum in the last one, is no lower for a larger latency. -/
theorem upperBoundOf_mono {a b maxNs : Nat} (hle : a ≤ b) (hmax : b ≤ maxNs) :
    (upperBoundOf a).getD maxNs ≤ (upperBoundOf b).getD maxNs := by
  have hindex : (index latencyHistogramBucketsNs a).val ≤
      (index latencyHistogramBucketsNs b).val := by
    by_contra hlt
    have hbelow : (index latencyHistogramBucketsNs b).val <
        latencyHistogramBucketsNs.length := by
      have hlast := (index latencyHistogramBucketsNs a).isLt
      omega
    have ha := (lt_index_iff latencyHistogramBucketsNs_sorted hbelow a).mp (by omega)
    have hb := (lt_index_iff latencyHistogramBucketsNs_sorted hbelow b).not.mp (lt_irrefl _)
    omega
  cases hb : upperBoundOf b with
  | some upper =>
    obtain ⟨hbelow, hupper⟩ := List.getElem?_eq_some_iff.mp hb
    have hlt : (index latencyHistogramBucketsNs a).val <
        latencyHistogramBucketsNs.length := by
      omega
    have ha : upperBoundOf a = some latencyHistogramBucketsNs[(index
        latencyHistogramBucketsNs a).val] := List.getElem?_eq_getElem hlt
    rw [ha, Option.getD_some, Option.getD_some, ← hupper]
    exact latencyHistogramBucketsNs_sorted.sortedLT.sortedLE.getElem_le_getElem_of_le hindex
  | none =>
    rw [Option.getD_none]
    cases ha : upperBoundOf a with
    | none => exact le_rfl
    | some upper =>
      -- the last bucket holds what is above all bounds
      have hlast := List.getElem?_eq_none_iff.mp hb
      obtain ⟨hbelow, rfl⟩ := List.getElem?_eq_some_iff.mp ha
      have habove := (lt_index_iff latencyHistogramBucketsNs_sorted hbelow b).mp (by omega)
      rw [Option.getD_some]
      omega

theorem upperBoundFrom_eq {rank cumulative : Nat} {buckets : List LatencyHistogramBucket}
    (hfits : cumulative + (buckets.map (·.count)).sum < 2 ^ 64) :
    upperBoundFrom rank cumulative buckets =
      (buckets.map (·.upperBoundNs))[Quantiles.rankIndex (rank - cumulative)
        (buckets.map (·.count))]?.join := by
  induction buckets generalizing cumulative with
  | nil => rfl
  | cons bucket rest ih =>
    rw [List.map_cons, List.sum_cons] at hfits
    have hwrap : wrapU64 (cumulative + bucket.count) = cumulative + bucket.count :=
      wrapU64_of_lt (by omega)
    simp only [upperBoundFrom, hwrap, List.map_cons, Quantiles.rankIndex]
    by_cases hrank : rank ≤ cumulative + bucket.count
    · rw [if_pos hrank, if_pos (by omega)]
      rfl
    · rw [if_neg hrank, if_neg (by omega), ih (by omega), List.getElem?_cons_succ, Nat.sub_add_eq]

theorem snapshot_counts (samples : List Nat) :
    (LatencyHistogram.snapshot (inBucket samples)).map (·.count) =
      bucketCounts latencyHistogramBucketsNs samples := by
  rw [LatencyHistogram.snapshot, List.map_ofFn]
  rfl

theorem snapshot_upperBounds (histogram : LatencyHistogram) :
    histogram.snapshot.map (·.upperBoundNs) = latencyHistogramBucketsNs.map some ++ [none] := by
  rw [LatencyHistogram.snapshot, List.map_ofFn]
  rfl

theorem getElem?_upperBounds (i : Nat) :
    (latencyHistogramBucketsNs.map some ++ [none])[i]?.join = latencyHistogramBucketsNs[i]? := by
  by_cases hi : i < latencyHistogramBucketsNs.length
  · rw [List.getElem?_append_left (by rwa [List.length_map]), List.getElem?_map,
      List.getElem?_eq_getElem hi]
    rfl
  · rw [List.getElem?_append_right (by rwa [List.length_map, ← Nat.not_lt]),
      List.getElem?_eq_none (Nat.le_of_not_lt hi)]
    cases i - (latencyHistogramBucketsNs.map some).length with
    | zero => rfl
    | succ n => rfl

variable {samples : List Nat}

/-- What the histogram of samples gives for a percentile is the bound of the nearest rank's
bucket. -/
theorem percentileUpperBound_eq {percentile : ℚ} (hsamples : samples ≠ [])
    (fits : samples.length < 2 ^ 64) (hpos : 0 < percentile) (hone : percentile ≤ 1) :
    LatencyHistogram.percentileUpperBound (inBucket samples) samples.length percentile =
      upperBoundOf (exactPercentile samples percentile) := by
  have hlength := List.length_pos_iff.mpr hsamples
  have hrank := rank_pos hsamples hpos
  have hsum := sum_bucketCounts latencyHistogramBucketsNs samples
  have hindex : (index latencyHistogramBucketsNs (value 0 samples
      ⌈samples.length * percentile⌉₊)).val = Quantiles.rankIndex ⌈samples.length * percentile⌉₊
        (bucketCounts latencyHistogramBucketsNs samples) :=
    index_value latencyHistogramBucketsNs_sorted hrank (rank_le_length hone)
  rw [LatencyHistogram.percentileUpperBound, if_neg (by omega), max_eq_left hrank,
    upperBoundFrom_eq (by rw [snapshot_counts, hsum]; omega), snapshot_counts, snapshot_upperBounds,
    getElem?_upperBounds, Nat.sub_zero, upperBoundOf, exactPercentile, hindex]

/-! ## What the counters track -/

/-- The rest of what a sequence of latencies leaves; `Counts` has the counters. -/
structure LatencyStats.Tracks (stats : LatencyStats) (samples : List Nat) : Prop where
  minNs_le : ∀ sample ∈ samples, stats.minNs ≤ sample
  sumNs : stats.sumNs = samples.sum
  samplesNs : stats.samplesNs = samples.take maxExactSamples
  samplesTruncated : stats.samplesTruncated = samples.length - maxExactSamples

theorem sum_lt (fits : samples.length < 2 ^ 64) (hsamples : ∀ sample ∈ samples, sample < 2 ^ 64) :
    samples.sum < 2 ^ 128 := by
  have hbound :=
    List.sum_le_card_nsmul samples (2 ^ 64) fun sample hmem => (hsamples sample hmem).le
  calc samples.sum ≤ samples.length * 2 ^ 64 := by simpa using hbound
    _ < 2 ^ 64 * 2 ^ 64 := Nat.mul_lt_mul_of_pos_right fits (by decide)
    _ = 2 ^ 128 := by decide

theorem LatencyStats.Tracks.record {stats : LatencyStats} (h : stats.Tracks samples)
    (counts : stats.Counts samples) (fits : samples.length + 1 < 2 ^ 64) {sample : Nat}
    (hsum : (samples ++ [sample]).sum < 2 ^ 128) :
    (stats.record sample).Tracks (samples ++ [sample]) := by
  have hlength : stats.samplesNs.length = min maxExactSamples samples.length := by
    rw [h.samplesNs, List.length_take]
  refine ⟨?_, ?_, ?_, ?_⟩
  · intro other hmem
    show (if stats.count = 0 then sample else min stats.minNs sample) ≤ other
    rcases List.mem_append.mp hmem with hbefore | hnow
    · have hsome : stats.count ≠ 0 := by
        rw [counts.count]
        exact (List.length_pos_of_mem hbefore).ne'
      rw [if_neg hsome]
      exact (min_le_left _ _).trans (h.minNs_le other hbefore)
    · rw [List.mem_singleton.mp hnow]
      split
      · exact le_rfl
      · exact min_le_right _ _
  · show (stats.sumNs + sample) % 2 ^ 128 = _
    rw [List.sum_append, List.sum_singleton, ← h.sumNs] at hsum ⊢
    exact Nat.mod_eq_of_lt hsum
  · show (if stats.samplesNs.length < maxExactSamples then stats.samplesNs ++ [sample]
      else stats.samplesNs) = _
    by_cases hroom : samples.length < maxExactSamples
    · rw [if_pos (by omega), h.samplesNs, List.take_of_length_le hroom.le,
        List.take_of_length_le (by simpa using Nat.succ_le_of_lt hroom)]
    · rw [if_neg (by omega), h.samplesNs, List.take_append_of_le_length (by omega)]
  · show (if stats.samplesNs.length < maxExactSamples then stats.samplesTruncated
      else wrapU64 (stats.samplesTruncated + 1)) = _
    rw [List.length_append, List.length_singleton]
    have htruncated := h.samplesTruncated
    by_cases hroom : samples.length < maxExactSamples
    · rw [if_pos (by omega)]
      omega
    · rw [if_neg (by omega), wrapU64_of_lt (by omega)]
      omega

open LatencyStats

theorem LatencyStats.tracks_recordAll (fits : samples.length < 2 ^ 64)
    (hsamples : ∀ sample ∈ samples, sample < 2 ^ 64) :
    (recordAll samples).Tracks samples := by
  induction samples using List.reverseRecOn with
  | nil => exact ⟨nofun, rfl, rfl, rfl⟩
  | append_singleton samples sample ih =>
    have hsum := sum_lt fits hsamples
    rw [List.length_append, List.length_singleton] at fits
    have hbefore := ih (by omega) fun other hmem => hsamples other (List.mem_append_left _ hmem)
    unfold recordAll
    rw [List.foldl_append]
    exact hbefore.record (counts_recordAll samples (by omega)) fits hsum

/-! ## The snapshot -/

section Snapshots
variable {samples : List Nat} {latency : LatencyPercentileSnapshot} {percentile : ℚ}

/-- A percentile of a sequence: the nearest rank, or what its bucket has as a bound. -/
theorem percentile_recordAll (fits : samples.length < 2 ^ 64)
    (hsamples : ∀ sample ∈ samples, sample < 2 ^ 64) (hsome : samples ≠ []) (hpos : 0 < percentile)
    (hone : percentile ≤ 1) : (recordAll samples).percentile percentile =
      if maxExactSamples < samples.length then
        (upperBoundOf (exactPercentile samples percentile)).getD
          (recordAll samples).maxNs
      else exactPercentile samples percentile := by
  have counts := counts_recordAll samples fits
  have tracks := tracks_recordAll fits hsamples
  have histogram : (recordAll samples).histogram = inBucket samples :=
    funext counts.histogram
  rw [LatencyStats.percentile, tracks.samplesTruncated]
  by_cases htruncated : maxExactSamples < samples.length
  · rw [if_pos (by omega), if_pos htruncated, histogram, counts.count,
      percentileUpperBound_eq hsome fits hpos hone]
  · rw [if_neg (by omega), if_neg htruncated, tracks.samplesNs,
      List.take_of_length_le (Nat.le_of_not_lt htruncated), percentileFromSorted_eq hsome hone]

/-- The snapshot of a sequence that is not empty. -/
theorem percentileSnapshot_recordAll (fits : samples.length < 2 ^ 64) (hsome : samples ≠ []) :
    let stats := recordAll samples
    stats.percentileSnapshot = some {
      count := stats.count
      storedSamples := min stats.count maxExactSamples
      minNs := stats.minNs
      avgNs := wrapU64 (stats.sumNs / stats.count)
      maxNs := stats.maxNs
      over1ms := stats.over1ms
      over2ms := stats.over2ms
      over5ms := stats.over5ms
      samplesTruncated := stats.samplesTruncated
      percentileScope := if 0 < stats.samplesTruncated then "histogram" else "exact"
      histogram := stats.histogram.snapshot
      p95Ns := stats.percentile (95 / 100)
      p99Ns := stats.percentile (99 / 100) } := by
  intro stats
  have hcount : stats.count ≠ 0 := by
    rw [(counts_recordAll samples fits).count]
    exact (List.length_pos_iff.mpr hsome).ne'
  rw [percentileSnapshot, snapshot, if_neg hcount]
  rfl

/-- The minimum is at most every percentile. -/
theorem minNs_le_percentile (fits : samples.length < 2 ^ 64)
    (hsamples : ∀ sample ∈ samples, sample < 2 ^ 64) (hsome : samples ≠ []) (hpos : 0 < percentile)
    (hone : percentile ≤ 1) :
    (recordAll samples).minNs ≤ exactPercentile samples percentile ∧
      exactPercentile samples percentile ≤
        (recordAll samples).percentile percentile := by
  have hmem := exactPercentile_mem hsome hpos hone
  refine ⟨(tracks_recordAll fits hsamples).minNs_le _ hmem, ?_⟩
  rw [percentile_recordAll fits hsamples hsome hpos hone]
  split
  · cases hupper : upperBoundOf (exactPercentile samples percentile) with
    | some upper => exact upperBoundOf_eq_some hupper
    | none => exact (counts_recordAll samples fits).le_maxNs _ hmem
  · exact le_rfl

theorem percentile_mono {percentile' : ℚ} (fits : samples.length < 2 ^ 64)
    (hsamples : ∀ sample ∈ samples, sample < 2 ^ 64) (hsome : samples ≠ []) (hpos : 0 < percentile)
    (hle : percentile ≤ percentile') (hone : percentile' ≤ 1) :
    (recordAll samples).percentile percentile ≤
      (recordAll samples).percentile percentile' := by
  have hmono := exactPercentile_mono hsome hpos hle hone
  have hmem := exactPercentile_mem hsome (hpos.trans_le hle) hone
  rw [percentile_recordAll fits hsamples hsome hpos (hle.trans hone),
    percentile_recordAll fits hsamples hsome (hpos.trans_le hle) hone]
  split
  · exact upperBoundOf_mono hmono ((counts_recordAll samples fits).le_maxNs _ hmem)
  · exact hmono

/-- The 99th percentile is at most the maximum iff all samples are stored or one reaches its
bound. -/
theorem p99_le_maxNs_iff (fits : samples.length < 2 ^ 64)
    (hsamples : ∀ sample ∈ samples, sample < 2 ^ 64) (hsome : samples ≠ []) :
    (recordAll samples).percentile (99 / 100) ≤
      (recordAll samples).maxNs ↔
      (maxExactSamples < samples.length → ReachesBound samples) := by
  have counts := counts_recordAll samples fits
  rw [percentile_recordAll fits hsamples hsome (by norm_num) (by norm_num)]
  by_cases htruncated : maxExactSamples < samples.length
  · rw [if_pos htruncated, ReachesBound]
    constructor
    · intro hle _ upper hupper
      rw [hupper, Option.getD_some] at hle
      exact ⟨_, counts.maxNs_mem hsome, hle⟩
    · intro hreaches
      cases hupper : upperBoundOf (exactPercentile samples (99 / 100)) with
      | none => exact le_rfl
      | some upper =>
        obtain ⟨sample, hmem, hle⟩ := hreaches htruncated upper hupper
        exact hle.trans (counts.le_maxNs sample hmem)
  · rw [if_neg htruncated]
    refine iff_of_true ?_ fun h => absurd h htruncated
    exact counts.le_maxNs _ (exactPercentile_mem hsome (by norm_num) (by norm_num))

theorem countP_le_countP {low high : Nat} (hle : low ≤ high) (samples : List Nat) :
    samples.countP (high ≤ ·) ≤ samples.countP (low ≤ ·) := by
  refine List.countP_mono_left fun sample _ habove => ?_
  rw [decide_eq_true_iff] at habove ⊢
  exact hle.trans habove

/-- The mean is between the minimum and the maximum. -/
theorem avgNs_between (fits : samples.length < 2 ^ 64)
    (hsamples : ∀ sample ∈ samples, sample < 2 ^ 64) (hsome : samples ≠ []) :
    let stats := recordAll samples
    stats.minNs ≤ wrapU64 (stats.sumNs / stats.count) ∧
      wrapU64 (stats.sumNs / stats.count) ≤ stats.maxNs := by
  intro stats
  have counts := counts_recordAll samples fits
  have tracks := tracks_recordAll fits hsamples
  have hlength := List.length_pos_iff.mpr hsome
  have hlow : samples.length * stats.minNs ≤ samples.sum := by
    simpa using List.card_nsmul_le_sum samples stats.minNs tracks.minNs_le
  have hhigh : samples.sum ≤ samples.length * stats.maxNs := by
    simpa using List.sum_le_card_nsmul samples stats.maxNs counts.le_maxNs
  have hmax := hsamples _ (counts.maxNs_mem hsome)
  have havg : samples.sum / samples.length ≤ stats.maxNs := by
    rw [Nat.div_le_iff_le_mul_add_pred hlength]
    omega
  rw [tracks.sumNs, counts.count, wrapU64_of_lt (havg.trans_lt hmax)]
  exact ⟨(Nat.le_div_iff_mul_le hlength).mpr (by rwa [Nat.mul_comm]), havg⟩

/-- **The snapshot.**  It is bounded, and its percentiles cover the nearest ranks, iff all samples
are stored or the largest one reaches the bound that is given for the 99th percentile. -/
theorem snapshot_bounded_iff (samples : List Nat) (fits : samples.length < 2 ^ 64)
    (hsamples : ∀ sample ∈ samples, sample < 2 ^ 64) :
    (∀ latency, (recordAll samples).percentileSnapshot = some latency →
      latency.Bounded samples) ↔
      (maxExactSamples < samples.length → ReachesBound samples) := by
  by_cases hsome : samples = []
  · subst hsome
    exact iff_of_true (fun latency h => by cases h) fun h => absurd h (by decide)
  have counts := counts_recordAll samples fits
  rw [← p99_le_maxNs_iff fits hsamples hsome]
  have hsnapshot := percentileSnapshot_recordAll fits hsome
  constructor
  · intro hbounded
    exact (hbounded _ hsnapshot).p99_le_max
  · intro hmax latency hlatency
    obtain rfl := Option.some.inj (hsnapshot.symm.trans hlatency)
    have h95 :=
      minNs_le_percentile fits hsamples hsome (by norm_num : (0 : ℚ) < 95 / 100) (by norm_num)
    have h99 :=
      minNs_le_percentile fits hsamples hsome (by norm_num : (0 : ℚ) < 99 / 100) (by norm_num)
    obtain ⟨hmin, havg⟩ := avgNs_between fits hsamples hsome
    refine ⟨hmin, havg, h95.1.trans h95.2, ?_, hmax, ?_, ?_, ?_, ?_, fun _ => h95.2, fun _ => h99.2⟩
    · exact percentile_mono fits hsamples hsome (by norm_num) (by norm_num) (by norm_num)
    · show ((LatencyHistogram.snapshot _).map (·.count)).sum = _
      rw [show (recordAll samples).histogram =
        inBucket samples from funext counts.histogram,
        snapshot_counts, sum_bucketCounts, counts.count]
    · show (recordAll samples).over5ms ≤ _
      rw [counts.over5ms, counts.over2ms]
      exact countP_le_countP (by decide) samples
    · show (recordAll samples).over2ms ≤ _
      rw [counts.over2ms, counts.over1ms]
      exact countP_le_countP (by decide) samples
    · show (recordAll samples).over1ms ≤ _
      rw [counts.over1ms, counts.count]
      exact List.countP_le_length

/-- More than a thousand latencies of 1 us, the bound of the first bucket. -/
theorem snapshot_bounded_at_bound : ∃ latency,
    (recordAll (List.replicate 1025 1000)).percentileSnapshot = some latency ∧
      latency.Bounded (List.replicate 1025 1000) := by
  have hsnapshot := percentileSnapshot_recordAll (by decide +kernel :
    (List.replicate 1025 1000).length < 2 ^ 64) (by decide +kernel)
  refine ⟨_, hsnapshot, ?_⟩
  refine (snapshot_bounded_iff (List.replicate 1025 1000) (by decide +kernel) ?_).mpr ?_ _ hsnapshot
  · intro sample hmem
    rw [List.eq_of_mem_replicate hmem]
    decide
  · intro _ upper hupper
    have hexact : exactPercentile (List.replicate 1025 1000)
        (99 / 100) ∈ List.replicate 1025 1000 :=
      exactPercentile_mem (by decide +kernel) (by norm_num) (by norm_num)
    rw [List.eq_of_mem_replicate hexact] at hupper
    obtain rfl := Option.some.inj ((by decide : upperBoundOf 1000 = some 1000).symm.trans hupper)
    exact ⟨1000, List.mem_replicate.mpr ⟨by decide, rfl⟩, le_rfl⟩

/-- A thousand latencies and more, all of 1.5 us: the 99th percentile is 2 us. -/
theorem snapshot_above_maximum : ¬ ∀ samples latency,
    (recordAll samples).percentileSnapshot = some latency →
      latency.Bounded samples := by
  intro h
  obtain ⟨samples, hall, hlength⟩ : ∃ samples : List Nat,
      (∀ sample ∈ samples, sample = 1500) ∧ samples.length = 1025 :=
    ⟨List.replicate 1025 1500, fun _ => List.eq_of_mem_replicate, List.length_replicate⟩
  have hsome : samples ≠ [] := List.ne_nil_of_length_pos (by omega)
  have fits : samples.length < 2 ^ 64 := by omega
  have hsamples : ∀ sample ∈ samples, sample < 2 ^ 64 := by
    intro sample hmem
    rw [hall sample hmem]
    decide
  have hmax := (h _ _ (percentileSnapshot_recordAll fits hsome)).p99_le_max
  have hreaches := (p99_le_maxNs_iff fits hsamples hsome).mp hmax (hlength.symm ▸ by decide)
  have hexact := exactPercentile_mem hsome (by norm_num : (0 : ℚ) < 99 / 100) (by norm_num)
  rw [ReachesBound, hall _ hexact] at hreaches
  obtain ⟨sample, hmem, hle⟩ := hreaches 2000 (by decide)
  rw [hall sample hmem] at hle
  exact absurd hle (by decide)

end Snapshots

end Stutter.Metrics

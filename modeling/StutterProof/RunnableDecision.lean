import Mathlib.Algebra.Order.Field.Basic
import Mathlib.Algebra.Order.Ring.Rat
import Mathlib.Data.Nat.Cast.Order.Ring
import Mathlib.Tactic.GCongr
import Mathlib.Tactic.Linarith
import Mathlib.Tactic.Positivity
import StutterProof.LatencyWindow
import StutterProof.Quantiles

/-! # The decision on runnable latencies

The objective of a game compares the whole-window latencies of a baseline and a candidate: their
counts, their counts above 5 ms, and the 99th percentiles of their histograms.  The rates above 5 ms
are compared by products of 128 bits.  The percentages are exact here.

A candidate whose samples are moved to slower buckets has the same count, no lower percentile and no
lower rate, so it is not found improved where the candidate before was not. -/
namespace Stutter.Metrics

/-! ## Populations -/

/-- `WindowHistogram::percentile`'s loop. -/
def WindowHistogram.percentileFrom (window : WindowHistogram) (rank : Nat) :
    Nat → List LatencyHistogramBucket → Nat
  | _, [] => window.maxNs
  | cumulative, bucket :: rest =>
    let cumulative := wrapU64 (cumulative + bucket.count)
    if rank ≤ cumulative then min (bucket.upperBoundNs.getD window.maxNs) window.maxNs
    else percentileFrom window rank cumulative rest

/-- `WindowHistogram::percentile`. -/
def WindowHistogram.percentile (window : WindowHistogram) (perThousand : Nat) : Nat :=
  let rank := wrapU64 ((window.samples * perThousand % 2 ^ 128 + 999) / 1000)
  window.percentileFrom rank 0 window.buckets

/-- The latencies of one whole window. -/
structure RunnableSummary where
  p99Ns : Nat
  samples : BitVec 64
  over5ms : BitVec 64

def WindowHistogram.summary (window : WindowHistogram) : RunnableSummary where
  p99Ns := window.percentile 990
  samples := BitVec.ofNat 64 window.samples
  over5ms := BitVec.ofNat 64 (tailCount window.buckets 5000000)

/-- Where a signal comes from. -/
inductive ObjectiveSignalQuality where
  | direct
  | derived
  | approximate
  | missing
  deriving DecidableEq

/-- The signals of a window, as far as this objective reads them. -/
structure ObjectiveSignals where
  runnableLatency : ObjectiveSignalQuality
  runnableLatencySource : Option String
  runnableTargetRootPid : Option Nat
  runnableTargetStarttimeTicks : Option Nat
  runnableLatencyP99Ns : Option Nat
  runnableSamples : Option (BitVec 64)
  runnableOver5ms : Option (BitVec 64)
  runnableLatencyMaxNs : Option Nat
  runnableLatencyUnavailableReason : Option String

/-- `RUNNABLE_HISTOGRAM_SOURCE`. -/
def runnableHistogramSource : String := "target-game-scheduler-histogram-v1"

def minimumRunnableSamples : Nat := 1000

/-- The counts of a direct signal, if they agree. -/
def population (signals : ObjectiveSignals) : Except String RunnableSummary :=
  if signals.runnableLatency ≠ .direct ||
      signals.runnableLatencySource ≠ some runnableHistogramSource ||
      signals.runnableTargetRootPid.all (· = 0) ||
      signals.runnableTargetStarttimeTicks.all (· = 0) then
    .error (signals.runnableLatencyUnavailableReason.getD
      "direct runnable-latency signal unavailable for identified target")
  else match signals.runnableLatencyP99Ns, signals.runnableSamples, signals.runnableOver5ms,
      signals.runnableLatencyMaxNs with
  | some p99Ns, some samples, some over5ms, some maxNs =>
    if samples.toNat < minimumRunnableSamples then
      .error s!"insufficient runnable-latency samples: {samples.toNat} < {minimumRunnableSamples}"
    else if samples < over5ms || maxNs < p99Ns then
      .error "inconsistent runnable-latency population or percentile bounds"
    else .ok ⟨p99Ns, samples, over5ms⟩
  | _, _, _, _ => .error "direct runnable-latency population incomplete"

/-! ## The decision -/

/-- When a change counts. -/
structure RunnableThresholds where
  minImprovementPercent : Rat
  maxRegressionPercent : Rat
  minSamples : Nat

/-- The product's thresholds. -/
def RunnableThresholds.default : RunnableThresholds := ⟨25 / 2, 15 / 2, minimumRunnableSamples⟩

/-- `ExperimentResult`, with the percentages as numbers. -/
inductive RunnableResult where
  | improved (improvementPercent : Rat)
  | regressed (regressionPercent : Rat)
  | inconclusive (reason : String)

def RunnableResult.isImproved : RunnableResult → Bool
  | improved _ => true
  | _ => false

/-- `u128::from`. -/
def u128 (n : BitVec 64) : BitVec 128 := n.setWidth 128

/-- The comparison of the rates above 5 ms. -/
def tailExceeds (baseline candidate : RunnableSummary) : Bool :=
  decide (u128 baseline.over5ms * u128 candidate.samples <
    u128 candidate.over5ms * u128 baseline.samples)

/-- The rate of the latencies above 5 ms. -/
def RunnableSummary.tailRate (summary : RunnableSummary) : Rat :=
  summary.over5ms.toNat / summary.samples.toNat

def tailRegressionPercent (baseline candidate : RunnableSummary) : Rat :=
  let base := baseline.tailRate
  let candidate := candidate.tailRate
  if base = 0 then 100 else (candidate - base) / base * 100

def changePercent (baseline candidate : RunnableSummary) : Rat :=
  if baseline.p99Ns = 0 then if 0 < candidate.p99Ns then 100 else 0
  else ((candidate.p99Ns : Rat) - baseline.p99Ns) / baseline.p99Ns * 100

section Decisions
-- How a percentage is printed, with two decimals and in full.
variable (twoDecimals inFull : Rat → String)

/-- The verdict on two windows. -/
def decideRunnable (baseline candidate : RunnableSummary) (thresholds : RunnableThresholds) :
    RunnableResult :=
  if baseline.samples.toNat < thresholds.minSamples || candidate.samples.toNat <
    thresholds.minSamples then
    .inconclusive
      (s!"insufficient runnable-latency samples: baseline {baseline.samples.toNat} " ++
        s!"candidate {candidate.samples.toNat} < {thresholds.minSamples}")
  else if tailExceeds baseline candidate then .regressed (tailRegressionPercent baseline candidate)
  else
    let change := changePercent baseline candidate
    if thresholds.maxRegressionPercent ≤ change then .regressed change
    else if thresholds.minImprovementPercent ≤ -change then .improved (-change)
    else .inconclusive
      (s!"runnable p99 change {twoDecimals change}% did not meet conservative thresholds " ++
        s!"(improvement {inFull thresholds.minImprovementPercent}%, " ++
        s!"regression {inFull thresholds.maxRegressionPercent}%); no score fallback")

def targetChanged (baseline candidate : ObjectiveSignals) : Bool :=
  baseline.runnableTargetRootPid ≠ candidate.runnableTargetRootPid ||
    baseline.runnableTargetStarttimeTicks ≠ candidate.runnableTargetStarttimeTicks

/-- `compare`, with the answer of `reject_if_frame_pacing_regressed`. -/
def compareRunnable (framePacing : Option RunnableResult) (baseline candidate : ObjectiveSignals) :
    RunnableResult :=
  match population baseline with
  | .error reason => .inconclusive s!"baseline: {reason}"
  | .ok baselinePopulation =>
    match population candidate with
    | .error reason => .inconclusive s!"candidate: {reason}"
    | .ok candidatePopulation =>
      if targetChanged baseline candidate then
        .inconclusive "runnable-latency target changed between windows"
      else framePacing.getD
        (decideRunnable twoDecimals inFull baselinePopulation candidatePopulation .default)

end Decisions

def tailRegressed (baseline candidate : ObjectiveSignals) : Bool :=
  match baseline.runnableOver5ms, baseline.runnableSamples, candidate.runnableOver5ms,
      candidate.runnableSamples with
  | some base, some baseSamples, some over5ms, some samples =>
    if 0 < baseSamples && 0 < samples then
      decide (u128 base * u128 samples < u128 over5ms * u128 baseSamples)
    else false
  | _, _, _, _ => false

/-! ## The products -/

variable {baseline candidate : RunnableSummary} {thresholds : RunnableThresholds}

theorem toNat_u128 (n : BitVec 64) : (u128 n).toNat = n.toNat := by
  rw [u128, BitVec.toNat_setWidth]
  exact Nat.mod_eq_of_lt (Nat.lt_trans n.isLt (by decide))

/-- No product of two 64-bit numbers overflows 128 bits. -/
theorem toNat_u128_mul (n m : BitVec 64) : (u128 n * u128 m).toNat = n.toNat * m.toNat := by
  have hfits : n.toNat * m.toNat < 2 ^ 128 :=
    calc n.toNat * m.toNat < 2 ^ 64 * 2 ^ 64 := Nat.mul_lt_mul'' n.isLt m.isLt
      _ = 2 ^ 128 := by decide
  rw [BitVec.toNat_mul, toNat_u128, toNat_u128, Nat.mod_eq_of_lt hfits]

theorem tailExceeds_iff : tailExceeds baseline candidate = true ↔
    baseline.over5ms.toNat * candidate.samples.toNat <
      candidate.over5ms.toNat * baseline.samples.toNat := by
  rw [tailExceeds, decide_eq_true_iff, BitVec.lt_def, toNat_u128_mul, toNat_u128_mul]

open RunnableSummary

/-- Where both windows hold samples, the rates are what is compared. -/
theorem tailExceeds_iff_tailRate (hbaseline : 0 < baseline.samples.toNat)
    (hcandidate : 0 < candidate.samples.toNat) :
    tailExceeds baseline candidate = true ↔ baseline.tailRate < candidate.tailRate := by
  have hbase : (0 : Rat) < baseline.samples.toNat := by exact_mod_cast hbaseline
  have hcand : (0 : Rat) < candidate.samples.toNat := by exact_mod_cast hcandidate
  rw [tailExceeds_iff, tailRate, tailRate,
    div_lt_div_iff₀ hbase hcand]
  exact_mod_cast Iff.rfl

/-! ## Windows of records -/

open LatencyHistogram

/-- The counts of a window that records were merged to: in the histogram's buckets, and as many as a
`u64` counts. -/
structure WindowHistogram.Valid (window : WindowHistogram) : Prop where
  bounds : window.buckets.map (·.upperBoundNs) = new.snapshot.map (·.upperBoundNs)
  total : (window.buckets.map (·.count)).sum = window.samples
  fits : window.samples < 2 ^ 64

theorem checkedAdd_eq_some {a b sum : Nat} (h : checkedAdd a b = some sum) :
    sum = a + b ∧ a + b < 2 ^ 64 := by
  unfold checkedAdd at h
  by_cases hfits : a + b < 2 ^ 64
  · rw [if_pos hfits] at h
    exact ⟨(Option.some.inj h).symm, hfits⟩
  · rw [if_neg hfits] at h
    cases h

theorem eq_of_foldlM_checkedAdd {buckets : List LatencyHistogramBucket} {total count : Nat}
    (h : buckets.foldlM (fun total bucket => checkedAdd total bucket.count) total = some count) :
    count = total + (buckets.map (·.count)).sum := by
  induction buckets generalizing total with
  | nil => exact (Option.some.inj h).symm
  | cons bucket rest ih =>
    rw [List.foldlM_cons] at h
    obtain ⟨next, hnext, hrest⟩ := Option.bind_eq_some_iff.mp h
    rw [ih hrest, (checkedAdd_eq_some hnext).1, List.map_cons, List.sum_cons, Nat.add_assoc]

theorem mergeBuckets_eq_some {buckets incoming merged : List LatencyHistogramBucket}
    (hlength : incoming.length = buckets.length) (h : mergeBuckets buckets incoming = some merged) :
    merged.map (·.upperBoundNs) = buckets.map (·.upperBoundNs) ∧
      (merged.map (·.count)).sum = (buckets.map (·.count)).sum + (incoming.map (·.count)).sum := by
  induction buckets generalizing incoming merged with
  | nil =>
    obtain rfl := List.length_eq_zero_iff.mp hlength
    cases h
    exact ⟨rfl, rfl⟩
  | cons bucket rest ih =>
    cases incoming with
    | nil => cases hlength
    | cons added more =>
      rw [mergeBuckets] at h
      obtain ⟨count, hcount, h⟩ := Option.bind_eq_some_iff.mp h
      obtain ⟨others, hothers, h⟩ := Option.bind_eq_some_iff.mp h
      obtain rfl := Option.some.inj h
      obtain ⟨hbounds, hsum⟩ := ih (Nat.succ.inj hlength) hothers
      refine ⟨by rw [List.map_cons, List.map_cons, hbounds], ?_⟩
      simp only [List.map_cons, List.sum_cons, hsum, (checkedAdd_eq_some hcount).1]
      omega

variable {window after : WindowHistogram}

/-- What `from_records` does with a record that it takes. -/
theorem WindowHistogram.add_cases {record : IntervalRecord} (h : window.add record = .ok after) :
    record.isSilent = true ∧ after = window ∨
      record.isSilent = false ∧ record.histogram.length = window.buckets.length ∧
      window.samples + (record.histogram.map (·.count)).sum < 2 ^ 64 ∧
      ∃ buckets, mergeBuckets window.buckets record.histogram = some buckets ∧
        after = ⟨buckets, window.samples + (record.histogram.map (·.count)).sum,
          max window.maxNs record.maxNs⟩ := by
  unfold WindowHistogram.add at h
  split at h
  · next hsilent => exact .inl ⟨hsilent, (Except.ok.inj h).symm⟩
  next hspeaks =>
  split at h
  · cases h
  · next hshape =>
    split at h
    · cases h
    · next count hcount =>
      obtain rfl : count = (record.histogram.map (·.count)).sum := by
        simpa using eq_of_foldlM_checkedAdd hcount
      split at h
      · cases h
      split at h
      · cases h
      split at h
      · cases h
      split at h
      · cases h
      split at h
      · cases h
      · next samples hsamples =>
        obtain ⟨rfl, hfits⟩ := checkedAdd_eq_some hsamples
        split at h
        · cases h
        · next buckets hbuckets =>
          refine .inr ⟨Bool.eq_false_iff.mpr hspeaks, ?_, hfits, buckets, hbuckets,
            (Except.ok.inj h).symm⟩
          by_contra hlength
          exact hshape (by simp [hlength])

theorem WindowHistogram.Valid.add {record : IntervalRecord} (hvalid : window.Valid)
    (h : window.add record = .ok after) : after.Valid := by
  obtain ⟨-, rfl⟩ | ⟨-, hlength, hfits, buckets, hbuckets, rfl⟩ := add_cases h
  · exact hvalid
  · obtain ⟨hbounds, hsum⟩ := mergeBuckets_eq_some hlength hbuckets
    exact ⟨hbounds.trans hvalid.bounds, by rw [hsum, hvalid.total], hfits⟩

theorem WindowHistogram.Valid.foldlM {records : List IntervalRecord} (hvalid : window.Valid)
    (h : records.foldlM WindowHistogram.add window = .ok after) : after.Valid := by
  induction records generalizing window with
  | nil =>
    obtain rfl : window = after := Except.ok.inj h
    exact hvalid
  | cons record rest ih =>
    rw [List.foldlM_cons] at h
    cases hadd : window.add record with
    | error reason =>
      rw [hadd] at h
      cases h
    | ok next =>
      rw [hadd] at h
      exact ih (hvalid.add hadd) h

theorem WindowHistogram.valid_empty : WindowHistogram.empty.Valid := ⟨rfl, by decide, by decide⟩

variable {window : WindowHistogram}

theorem WindowHistogram.valid_fromRecords {records : List IntervalRecord}
    (h : WindowHistogram.fromRecords records = .ok window) : window.Valid ∧ 0 < window.samples := by
  unfold WindowHistogram.fromRecords at h
  cases hfold : (records.filter (isPrimaryGameClass ·.taskClass)).foldlM WindowHistogram.add
    .empty with
  | error reason =>
    rw [hfold] at h
    cases h
  | ok merged =>
    rw [hfold] at h
    by_cases hempty : merged.samples = 0
    · simp [bind, Except.bind, hempty] at h
    · simp only [bind, Except.bind, hempty, if_false, Except.ok.injEq] at h
      subst h
      exact ⟨valid_empty.foldlM hfold, Nat.pos_of_ne_zero hempty⟩

/-! ## Percentiles and tails -/

/-- What a percentile is in a bucket. -/
def WindowHistogram.bound (window : WindowHistogram) (bucket : Option (Option Nat)) : Nat :=
  min ((bucket.getD none).getD window.maxNs) window.maxNs

theorem WindowHistogram.percentileFrom_eq (window : WindowHistogram) (rank : Nat)
    {cumulative : Nat} {buckets : List LatencyHistogramBucket}
    (hfits : cumulative + (buckets.map (·.count)).sum < 2 ^ 64) :
    window.percentileFrom rank cumulative buckets =
      window.bound (buckets.map (·.upperBoundNs))[Quantiles.rankIndex (rank - cumulative)
        (buckets.map (·.count))]? := by
  induction buckets generalizing cumulative with
  | nil => exact (Nat.min_self _).symm
  | cons bucket rest ih =>
    rw [List.map_cons, List.sum_cons] at hfits
    have hwrap : wrapU64 (cumulative + bucket.count) = cumulative + bucket.count :=
      wrapU64_of_lt (by omega)
    simp only [percentileFrom, hwrap, List.map_cons, Quantiles.rankIndex]
    by_cases hrank : rank ≤ cumulative + bucket.count
    · rw [if_pos hrank, if_pos (by omega)]
      rfl
    · rw [if_neg hrank, if_neg (by omega), ih (by omega), List.getElem?_cons_succ, Nat.sub_add_eq]

/-- The rank that the percentile looks for. -/
def rankOf (samples perThousand : Nat) : Nat :=
  wrapU64 ((samples * perThousand % 2 ^ 128 + 999) / 1000)

theorem WindowHistogram.Valid.percentile_eq (h : window.Valid)
    (perThousand : Nat) : window.percentile perThousand =
      window.bound (new.snapshot.map (·.upperBoundNs))[Quantiles.rankIndex
        (rankOf window.samples perThousand) (window.buckets.map (·.count))]? := by
  have hfits : 0 + (window.buckets.map (·.count)).sum < 2 ^ 64 := by
    rw [Nat.zero_add, h.total]
    exact h.fits
  exact (window.percentileFrom_eq _ hfits).trans (by rw [h.bounds]; rfl)

/-- A later bucket of the histogram has no lower bound. -/
theorem bounds_ascending {i j : Nat} (hle : i ≤ j) (maxNs : Nat) :
    min (((new.snapshot.map (·.upperBoundNs))[i]?.getD none).getD maxNs) maxNs ≤
      ((new.snapshot.map (·.upperBoundNs))[j]?.getD none).getD maxNs := by
  have hbounds : new.snapshot.map (·.upperBoundNs) =
      latencyHistogramBucketsNs.map some ++ [none] := by decide
  rw [hbounds]
  by_cases hj : j < latencyHistogramBucketsNs.length
  · have hi : i < latencyHistogramBucketsNs.length := by omega
    have hij : latencyHistogramBucketsNs[i] ≤ latencyHistogramBucketsNs[j] := by
      obtain rfl | hlt := Nat.eq_or_lt_of_le hle
      · exact Nat.le_refl _
      · exact Nat.le_of_lt
          (List.pairwise_iff_getElem.mp latencyHistogramBucketsNs_sorted i j hi hj hlt)
    rw [List.getElem?_append_left (by rwa [List.length_map]), List.getElem?_append_left
      (by rwa [List.length_map]), List.getElem?_map, List.getElem?_map, List.getElem?_eq_getElem hi,
      List.getElem?_eq_getElem hj]
    exact Nat.le_trans (Nat.min_le_left _ _) hij
  · have hlast : ((latencyHistogramBucketsNs.map some ++ [none])[j]?.getD none).getD maxNs =
        maxNs := by
      rw [List.getElem?_append_right (by rwa [List.length_map, ← Nat.not_lt])]
      cases j - (latencyHistogramBucketsNs.map some).length with
      | zero => rfl
      | succ n => rfl
    rw [hlast]
    exact Nat.min_le_right _ _

theorem filter_eq_drop {α : Type} {p : α → Bool} {list : List α} {n m : Nat}
    (h : list.map p = List.replicate n false ++ List.replicate m true) :
    list.filter p = list.drop n := by
  induction n generalizing list with
  | zero =>
    refine List.filter_eq_self.mpr fun x hmem => ?_
    have hx := List.mem_map_of_mem (f := p) hmem
    rw [h] at hx
    exact (List.mem_replicate.mp hx).2
  | succ n ih =>
    cases list with
    | nil => cases h
    | cons x rest =>
      rw [List.map_cons, List.replicate_succ, List.cons_append] at h
      obtain ⟨hx, hrest⟩ := List.cons.inj h
      rw [List.filter_cons_of_neg (by simp [hx]), ih hrest, List.drop_succ_cons]

/-- The counts of the buckets above 5 ms. -/
theorem WindowHistogram.Valid.tailCount_eq (h : window.Valid) :
    tailCount window.buckets 5000000 = ((window.buckets.map (·.count)).drop 12).sum := by
  have hbuckets : window.buckets.map (fun bucket => bucket.upperBoundNs.all (5000000 < ·)) =
      List.replicate 12 false ++ List.replicate 4 true := by
    calc window.buckets.map (fun bucket => bucket.upperBoundNs.all (5000000 < ·))
        = (window.buckets.map (·.upperBoundNs)).map (·.all (5000000 < ·)) := by
          rw [List.map_map]; rfl
      _ = List.replicate 12 false ++ List.replicate 4 true := by rw [h.bounds]; decide
  have hsum := Quantiles.sum_take_add_sum_drop (window.buckets.map (·.count)) 12
  rw [h.total] at hsum
  have hfits := h.fits
  rw [tailCount, filter_eq_drop hbuckets, List.map_drop, wrapU64_of_lt (by omega)]

theorem WindowHistogram.Valid.toNat_over5ms (h : window.Valid) :
    window.summary.over5ms.toNat = ((window.buckets.map (·.count)).drop 12).sum := by
  have hsum := Quantiles.sum_take_add_sum_drop (window.buckets.map (·.count)) 12
  rw [h.total] at hsum
  have hfits := h.fits
  rw [summary, BitVec.toNat_ofNat, h.tailCount_eq, Nat.mod_eq_of_lt (by omega)]

/-! ## Slower windows -/

/-- Samples of one bucket are in a slower one.  The samples that are not moved stay as they are, so
the largest latency is no smaller. -/
structure WindowHistogram.Moved (window after : WindowHistogram) : Prop where
  bounds : after.buckets.map (·.upperBoundNs) = window.buckets.map (·.upperBoundNs)
  counts : Quantiles.Moved (window.buckets.map (·.count)) (after.buckets.map (·.count))
  samples : after.samples = window.samples
  maxNs : window.maxNs ≤ after.maxNs

/-- The window after any number of such moves. -/
def WindowHistogram.Slower : WindowHistogram → WindowHistogram → Prop :=
  Relation.ReflTransGen WindowHistogram.Moved

/-- What moves lead to. -/
structure WindowHistogram.SlowerThan (window after : WindowHistogram) : Prop where
  valid : after.Valid
  counts : Quantiles.Dominates (window.buckets.map (·.count)) (after.buckets.map (·.count))
  samples : after.samples = window.samples
  maxNs : window.maxNs ≤ after.maxNs

theorem WindowHistogram.SlowerThan.step {window between after : WindowHistogram}
    (h : window.SlowerThan between) (hmoved : between.Moved after) : window.SlowerThan after := by
  have hdominates := hmoved.counts.dominates
  refine ⟨⟨hmoved.bounds.trans h.valid.bounds, ?_, ?_⟩, h.counts.trans hdominates,
    hmoved.samples.trans h.samples, Nat.le_trans h.maxNs hmoved.maxNs⟩
  · rw [hdominates.total, h.valid.total, hmoved.samples]
  · rw [hmoved.samples]
    exact h.valid.fits

theorem WindowHistogram.Slower.slowerThan (h : window.Slower after) (hvalid : window.Valid) :
    window.SlowerThan after := by
  induction h with
  | refl => exact ⟨hvalid, .refl _, rfl, Nat.le_refl _⟩
  | tail _ hmoved ih => exact ih.step hmoved

theorem WindowHistogram.SlowerThan.percentile_le (h : window.SlowerThan after)
    (hvalid : window.Valid) (perThousand : Nat) :
    window.percentile perThousand ≤ after.percentile perThousand := by
  rw [hvalid.percentile_eq, h.valid.percentile_eq, h.samples]
  have hrank := h.counts.rankIndex_le (rankOf window.samples perThousand)
  have hbounds := bounds_ascending hrank window.maxNs
  refine Nat.le_min.mpr ⟨Nat.le_trans hbounds ?_, Nat.le_trans (Nat.min_le_right _ _) h.maxNs⟩
  cases (new.snapshot.map (·.upperBoundNs))[Quantiles.rankIndex
      (rankOf window.samples perThousand) (after.buckets.map (·.count))]?.getD none with
  | none => exact h.maxNs
  | some bound => exact Nat.le_refl _

/-- A summary with no fewer latencies above 5 ms and no lower percentile. -/
structure RunnableSummary.SlowerThan (summary after : RunnableSummary) : Prop where
  p99Ns : summary.p99Ns ≤ after.p99Ns
  samples : after.samples = summary.samples
  over5ms : summary.over5ms.toNat ≤ after.over5ms.toNat

theorem WindowHistogram.SlowerThan.summary (h : window.SlowerThan after) (hvalid : window.Valid) :
    window.summary.SlowerThan after.summary where
  p99Ns := h.percentile_le hvalid 990
  samples := congrArg (BitVec.ofNat 64) h.samples
  over5ms := by
    rw [hvalid.toNat_over5ms, h.valid.toNat_over5ms]
    exact h.counts.drop_le 12

/-! ## What is found improved -/

variable (twoDecimals inFull : Rat → String)

theorem decideRunnable_improved_iff {percent : Rat} :
    decideRunnable twoDecimals inFull baseline candidate thresholds = .improved percent ↔
      (thresholds.minSamples ≤ baseline.samples.toNat ∧
        thresholds.minSamples ≤ candidate.samples.toNat) ∧
      candidate.over5ms.toNat * baseline.samples.toNat ≤
        baseline.over5ms.toNat * candidate.samples.toNat ∧
      changePercent baseline candidate < thresholds.maxRegressionPercent ∧
      thresholds.minImprovementPercent ≤ -changePercent baseline candidate ∧
      percent = -changePercent baseline candidate := by
  have htail := @tailExceeds_iff baseline candidate
  unfold decideRunnable
  by_cases hsamples : baseline.samples.toNat < thresholds.minSamples ∨
      candidate.samples.toNat < thresholds.minSamples
  · rw [if_pos (by simpa using hsamples)]
    refine iff_of_false nofun ?_
    rintro ⟨⟨hbaseline, hcandidate⟩, -⟩
    omega
  rw [if_neg (by simpa using hsamples)]
  by_cases hexceeds : tailExceeds baseline candidate = true
  · rw [if_pos hexceeds]
    refine iff_of_false nofun ?_
    rintro ⟨-, hle, -⟩
    exact absurd (htail.mp hexceeds) (Nat.not_lt.mpr hle)
  rw [if_neg hexceeds]
  rw [htail, Nat.not_lt] at hexceeds
  have henough : thresholds.minSamples ≤ baseline.samples.toNat ∧
      thresholds.minSamples ≤ candidate.samples.toNat := by omega
  by_cases hregressed : thresholds.maxRegressionPercent ≤ changePercent baseline candidate
  · simp only [if_pos hregressed]
    refine iff_of_false nofun ?_
    rintro ⟨-, -, hlt, -⟩
    exact absurd hlt (not_lt.mpr hregressed)
  simp only [if_neg hregressed]
  by_cases himproved : thresholds.minImprovementPercent ≤ -changePercent baseline candidate
  · rw [if_pos himproved, RunnableResult.improved.injEq]
    constructor
    · intro h
      exact ⟨henough, hexceeds, not_le.mp hregressed, himproved, h.symm⟩
    · rintro ⟨-, -, -, -, h⟩
      exact h.symm
  · rw [if_neg himproved]
    refine iff_of_false nofun ?_
    rintro ⟨-, -, -, hle, -⟩
    exact himproved hle

theorem changePercent_le {after : RunnableSummary} (h : candidate.p99Ns ≤ after.p99Ns) :
    changePercent baseline candidate ≤ changePercent baseline after := by
  unfold changePercent
  by_cases hzero : baseline.p99Ns = 0
  · rw [if_pos hzero, if_pos hzero]
    by_cases hcandidate : 0 < candidate.p99Ns
    · rw [if_pos hcandidate, if_pos (by omega)]
    · rw [if_neg hcandidate]
      split
      · norm_num
      · exact le_refl _
  · rw [if_neg hzero, if_neg hzero]
    have hle : (candidate.p99Ns : Rat) ≤ after.p99Ns := by exact_mod_cast h
    gcongr

theorem RunnableSummary.SlowerThan.improved {after : RunnableSummary}
    (h : candidate.SlowerThan after)
    (himproved : (decideRunnable twoDecimals inFull baseline after thresholds).isImproved = true) :
    (decideRunnable twoDecimals inFull baseline candidate thresholds).isImproved = true := by
  cases hafter : decideRunnable twoDecimals inFull baseline after thresholds with
  | regressed percent => rw [hafter] at himproved; cases himproved
  | inconclusive reason => rw [hafter] at himproved; cases himproved
  | improved percent =>
    obtain ⟨hsamples, htail, hregressed, himproved, -⟩ :=
      (decideRunnable_improved_iff twoDecimals inFull).mp hafter
    have hchange : changePercent baseline candidate ≤ changePercent baseline after :=
      changePercent_le h.p99Ns
    have hresult : decideRunnable twoDecimals inFull baseline candidate thresholds =
        .improved (-changePercent baseline candidate) :=
      (decideRunnable_improved_iff twoDecimals inFull).mpr
      ⟨by rwa [← h.samples], ?_, lt_of_le_of_lt hchange hregressed,
        le_trans himproved (neg_le_neg hchange), rfl⟩
    · rw [hresult]
      rfl
    · rw [← h.samples]
      exact Nat.le_trans (Nat.mul_le_mul_right _ h.over5ms) htail

theorem tailRate_le_of_mul_le (hbaseline : 0 < baseline.samples.toNat)
    (hcandidate : 0 < candidate.samples.toNat)
    (h : candidate.over5ms.toNat * baseline.samples.toNat ≤
      baseline.over5ms.toNat * candidate.samples.toNat) :
        candidate.tailRate ≤ baseline.tailRate := by
  refine not_lt.mp fun hless => ?_
  have hexceeds := tailExceeds_iff.mp ((tailExceeds_iff_tailRate hbaseline hcandidate).mpr hless)
  omega

theorem tailRegressed_iff {baseline candidate : ObjectiveSignals} :
    tailRegressed baseline candidate = true ↔ ∃ base baseSamples over5ms samples,
      baseline.runnableOver5ms = some base ∧ baseline.runnableSamples = some baseSamples ∧
      candidate.runnableOver5ms = some over5ms ∧ candidate.runnableSamples = some samples ∧
      0 < baseSamples.toNat ∧ 0 < samples.toNat ∧
      tailRate ⟨0, baseSamples, base⟩ <
        tailRate ⟨0, samples, over5ms⟩ := by
  unfold tailRegressed
  split
  · next base baseSamples over5ms samples hbase hbaseSamples hover5ms hsamples =>
    have hrates := @tailExceeds_iff_tailRate ⟨0, baseSamples, base⟩ ⟨0, samples, over5ms⟩
    by_cases hpositive : 0 < baseSamples.toNat ∧ 0 < samples.toNat
    · have hguard : (decide (0 < baseSamples) && decide (0 < samples)) = true := by
        simpa [BitVec.lt_def] using hpositive
      rw [if_pos hguard]
      refine (hrates hpositive.1 hpositive.2).trans ⟨fun h => ?_, ?_⟩
      · exact ⟨base, baseSamples, over5ms, samples, hbase, hbaseSamples, hover5ms, hsamples,
          hpositive.1, hpositive.2, h⟩
      · rintro ⟨_, _, _, _, hbase', hbaseSamples', hover5ms', hsamples', -, -, h⟩
        obtain rfl := Option.some.inj (hbase.symm.trans hbase')
        obtain rfl := Option.some.inj (hbaseSamples.symm.trans hbaseSamples')
        obtain rfl := Option.some.inj (hover5ms.symm.trans hover5ms')
        obtain rfl := Option.some.inj (hsamples.symm.trans hsamples')
        exact h
    · have hguard : ¬ (decide (0 < baseSamples) && decide (0 < samples)) = true := by
        simpa [BitVec.lt_def] using hpositive
      rw [if_neg hguard]
      refine iff_of_false Bool.false_ne_true ?_
      rintro ⟨_, _, _, _, -, hbaseSamples', -, hsamples', hbaseline, hcandidate, -⟩
      obtain rfl := Option.some.inj (hbaseSamples.symm.trans hbaseSamples')
      obtain rfl := Option.some.inj (hsamples.symm.trans hsamples')
      exact hpositive ⟨hbaseline, hcandidate⟩
  · next hmissing =>
    refine iff_of_false Bool.false_ne_true ?_
    rintro ⟨_, _, _, _, hbase, hbaseSamples, hover5ms, hsamples, -⟩
    exact hmissing _ _ _ _ hbase hbaseSamples hover5ms hsamples

/-- The populations that are compared hold what `population` asks for. -/
theorem population_ok {signals : ObjectiveSignals} {summary : RunnableSummary}
    (h : population signals = .ok summary) :
    minimumRunnableSamples ≤ summary.samples.toNat ∧
      summary.over5ms.toNat ≤ summary.samples.toNat := by
  unfold population at h
  split at h
  · cases h
  split at h
  · next samples over5ms maxNs _ _ _ _ =>
    by_cases hfew : samples.toNat < minimumRunnableSamples
    · rw [if_pos hfew] at h
      cases h
    rw [if_neg hfew] at h
    split at h
    · cases h
    · next hconsistent =>
      obtain rfl := Except.ok.inj h
      simp only [BitVec.lt_def, Bool.or_eq_true, decide_eq_true_iff, not_or] at hconsistent
      exact ⟨Nat.not_lt.mp hfew, Nat.not_lt.mp hconsistent.1⟩
  · cases h

theorem compareRunnable_improved {baseline candidate : ObjectiveSignals} {percent : Rat}
    (h : compareRunnable twoDecimals inFull none baseline candidate = .improved percent) :
    ∃ base cand, population baseline = .ok base ∧ population candidate = .ok cand ∧
      minimumRunnableSamples ≤ base.samples.toNat ∧ minimumRunnableSamples ≤ cand.samples.toNat ∧
      cand.tailRate ≤ base.tailRate := by
  unfold compareRunnable at h
  split at h
  · cases h
  · next base hbase =>
    split at h
    · cases h
    · next cand hcand =>
      split at h
      · cases h
      · obtain ⟨-, htail, -⟩ := (decideRunnable_improved_iff twoDecimals inFull).mp h
        have hbaseEnough := (population_ok hbase).1
        have hcandEnough := (population_ok hcand).1
        have hpositive : 0 < minimumRunnableSamples := by decide
        exact ⟨base, cand, hbase, hcand, hbaseEnough, hcandEnough,
          tailRate_le_of_mul_le (by omega) (by omega) htail⟩

/-- The products do not overflow, so the rates are compared exactly; only enough samples with no
higher rate are found improved; and a candidate window that is found improved was so before any of
its samples were moved to slower buckets. -/
theorem runnable_decision_exact :
    (∀ n m : BitVec 64, (u128 n * u128 m).toNat = n.toNat * m.toNat) ∧
    (∀ baseline candidate : RunnableSummary, 0 < baseline.samples.toNat →
      0 < candidate.samples.toNat →
      (tailExceeds baseline candidate = true ↔ baseline.tailRate < candidate.tailRate)) ∧
    (∀ baseline candidate : ObjectiveSignals,
      tailRegressed baseline candidate = true ↔ ∃ base baseSamples over5ms samples,
        baseline.runnableOver5ms = some base ∧ baseline.runnableSamples = some baseSamples ∧
        candidate.runnableOver5ms = some over5ms ∧ candidate.runnableSamples = some samples ∧
        0 < baseSamples.toNat ∧ 0 < samples.toNat ∧
        tailRate ⟨0, baseSamples, base⟩ <
          tailRate ⟨0, samples, over5ms⟩) ∧
    (∀ baseline candidate thresholds percent,
      decideRunnable twoDecimals inFull baseline candidate thresholds = .improved percent ↔
        (thresholds.minSamples ≤ baseline.samples.toNat ∧
          thresholds.minSamples ≤ candidate.samples.toNat) ∧
        candidate.over5ms.toNat * baseline.samples.toNat ≤
          baseline.over5ms.toNat * candidate.samples.toNat ∧
        changePercent baseline candidate < thresholds.maxRegressionPercent ∧
        thresholds.minImprovementPercent ≤ -changePercent baseline candidate ∧
        percent = -changePercent baseline candidate) ∧
    (∀ baseline candidate percent,
      compareRunnable twoDecimals inFull none baseline candidate = .improved percent →
        ∃ base cand, population baseline = .ok base ∧ population candidate = .ok cand ∧
          minimumRunnableSamples ≤ base.samples.toNat ∧
            minimumRunnableSamples ≤ cand.samples.toNat ∧
          cand.tailRate ≤ base.tailRate) ∧
    (∀ records window after, WindowHistogram.fromRecords records = .ok window →
      window.Slower after →
      ∀ baseline thresholds,
        (decideRunnable twoDecimals inFull baseline after.summary thresholds).isImproved = true →
        (decideRunnable twoDecimals inFull baseline window.summary thresholds).isImproved =
          true) := by
  refine ⟨toNat_u128_mul, fun _ _ => tailExceeds_iff_tailRate, fun _ _ => tailRegressed_iff,
    fun _ _ _ _ => decideRunnable_improved_iff twoDecimals inFull,
    fun _ _ _ => compareRunnable_improved twoDecimals inFull, ?_⟩
  intro records window after hwindow hslower baseline thresholds
  have hvalid := (WindowHistogram.valid_fromRecords hwindow).1
  exact ((hslower.slowerThan hvalid).summary hvalid).improved twoDecimals inFull

end Stutter.Metrics

import StutterProof.LatencyPercentiles
import StutterProof.RunnableDecision

/-! # Percentiles of merged records

The objective merges the histograms of all records of a window and reads percentiles off the merged
counts.  The samples themselves are gone; here they stand beside the records that count them.  What
is merged depends on the samples of all records together only (`Holds.unique`), and a percentile is
the bound of the bucket of the nearest rank among them, cut at their maximum. -/
namespace Stutter.Metrics

open LatencyHistogram

/-- The record counts the samples. -/
structure IntervalRecord.Describes (record : IntervalRecord) (samples : List Nat) : Prop where
  silent : record.isSilent = true → samples = []
  histogram : record.isSilent = false →
    record.histogram = snapshot (inBucket samples)
  le_maxNs : record.isSilent = false → ∀ sample ∈ samples, sample ≤ record.maxNs
  maxNs_mem : record.isSilent = false → record.maxNs ∈ samples

/-- A record and the samples that it counts. -/
abbrev Described := IntervalRecord × List Nat

/-- The samples that a window is about: those of the game's records. -/
def underlying (described : List Described) : List Nat :=
  (described.filter (isPrimaryGameClass ·.1.taskClass)).flatMap (·.2)

/-- What a window holds of the samples that were merged to it. -/
structure WindowHistogram.Holds (window : WindowHistogram) (samples : List Nat) : Prop where
  buckets : window.buckets = snapshot (inBucket samples)
  population : window.samples = samples.length
  fits : samples.length < 2 ^ 64
  le_maxNs : ∀ sample ∈ samples, sample ≤ window.maxNs
  maxNs_mem : samples ≠ [] → window.maxNs ∈ samples
  maxNs_zero : samples = [] → window.maxNs = 0

/-! ## Merging -/

section Merging
variable {samples more : List Nat} {window after : WindowHistogram} {record : IntervalRecord}

theorem inBucket_append (samples more : List Nat) (i : Fin latencyHistogramBucketCount) :
    inBucket (samples ++ more) i = inBucket samples i + inBucket more i := List.countP_append

theorem inBucket_perm (h : samples.Perm more) : inBucket samples = inBucket more :=
  funext fun _ => h.countP_eq _

theorem mergeBuckets_eq_zipWith {buckets incoming merged : List LatencyHistogramBucket}
    (hlength : incoming.length = buckets.length) (h : mergeBuckets buckets incoming = some merged) :
    merged = List.zipWith (fun bucket added => ⟨bucket.upperBoundNs, bucket.count + added.count⟩)
      buckets incoming := by
  induction buckets generalizing incoming merged with
  | nil =>
    obtain rfl := List.length_eq_zero_iff.mp hlength
    cases h
    rfl
  | cons bucket rest ih =>
    cases incoming with
    | nil => cases hlength
    | cons added more =>
      rw [mergeBuckets] at h
      obtain ⟨count, hcount, h⟩ := Option.bind_eq_some_iff.mp h
      obtain ⟨others, hothers, h⟩ := Option.bind_eq_some_iff.mp h
      obtain rfl := Option.some.inj h
      rw [ih (Nat.succ.inj hlength) hothers, (checkedAdd_eq_some hcount).1]
      rfl

/-- The merged histogram of two lists of samples is that of both. -/
theorem mergeBuckets_snapshot {merged : List LatencyHistogramBucket}
    (h : mergeBuckets (snapshot (inBucket samples))
      (snapshot (inBucket more)) = some merged) :
    merged = snapshot (inBucket (samples ++ more)) := by
  rw [mergeBuckets_eq_zipWith (by rw [length_snapshot, length_snapshot]) h]
  refine List.ext_getElem ?_ fun i hi hi' => ?_
  · rw [List.length_zipWith, length_snapshot, length_snapshot, length_snapshot, Nat.min_self]
  · rw [List.getElem_zipWith, getElem_snapshot, getElem_snapshot, getElem_snapshot, inBucket_append]

/-- What a record adds to a window is the samples it counts. -/
theorem WindowHistogram.Holds.add (h : window.Holds samples) (hdescribes : record.Describes more)
    (hadd : window.add record = .ok after) : after.Holds (samples ++ more) := by
  obtain ⟨hsilent, rfl⟩ | ⟨hspeaks, -, hfits, buckets, hbuckets, rfl⟩ :=
    WindowHistogram.add_cases hadd
  · rw [hdescribes.silent hsilent, List.append_nil]
    exact h
  · have hmax := hdescribes.maxNs_mem hspeaks
    have hcount : (record.histogram.map (·.count)).sum = more.length := by
      rw [hdescribes.histogram hspeaks, snapshot_counts, NearestRank.sum_bucketCounts]
    rw [hcount, h.population] at hfits ⊢
    refine ⟨?_, ?_, ?_, ?_, ?_, ?_⟩
    · rw [h.buckets, hdescribes.histogram hspeaks] at hbuckets
      exact mergeBuckets_snapshot hbuckets
    · exact List.length_append.symm
    · rwa [List.length_append]
    · intro sample hmem
      rcases List.mem_append.mp hmem with hbefore | hnow
      · exact le_max_of_le_left (h.le_maxNs sample hbefore)
      · exact le_max_of_le_right (hdescribes.le_maxNs hspeaks sample hnow)
    · intro _
      rw [List.mem_append]
      rcases max_choice window.maxNs record.maxNs with hold | hnew
      · simp only [hold]
        by_cases hsome : samples = []
        · -- the maximum of no sample is 0
          have hzero := h.maxNs_zero hsome
          have hle : record.maxNs ≤ window.maxNs := max_eq_left_iff.mp hold
          have hsame : window.maxNs = record.maxNs := by omega
          rw [hsame]
          exact .inr hmax
        · exact .inl (h.maxNs_mem hsome)
      · simp only [hnew]
        exact .inr hmax
    · intro hnone
      rw [List.append_eq_nil_iff] at hnone
      rw [hnone.2] at hmax
      cases hmax

theorem WindowHistogram.holds_empty : WindowHistogram.empty.Holds [] :=
  ⟨rfl, rfl, by decide, nofun, fun h => absurd rfl h, fun _ => rfl⟩

theorem WindowHistogram.Holds.foldlM {described : List Described} (h : window.Holds samples)
    (hdescribes : ∀ pair ∈ described, pair.1.Describes pair.2)
    (hfold : (described.map (·.1)).foldlM WindowHistogram.add window = .ok after) :
    after.Holds (samples ++ described.flatMap (·.2)) := by
  induction described generalizing window samples with
  | nil =>
    obtain rfl : window = after := Except.ok.inj hfold
    rwa [List.flatMap_nil, List.append_nil]
  | cons pair rest ih =>
    rw [List.map_cons, List.foldlM_cons] at hfold
    cases hadd : window.add pair.1 with
    | error reason =>
      rw [hadd] at hfold
      cases hfold
    | ok next =>
      rw [hadd] at hfold
      have hnext := h.add (hdescribes pair List.mem_cons_self) hadd
      rw [List.flatMap_cons, ← List.append_assoc]
      exact ih hnext (fun other hmem => hdescribes other (List.mem_cons_of_mem _ hmem)) hfold

/-- A window is what the samples are together. -/
theorem WindowHistogram.Holds.unique (h : window.Holds samples) (h' : after.Holds more)
    (hperm : samples.Perm more) : window = after := by
  have hmax : window.maxNs = after.maxNs := by
    by_cases hsome : samples = []
    · rw [h.maxNs_zero hsome, h'.maxNs_zero (by rw [hsome] at hperm; exact hperm.nil_eq.symm)]
    · have hsome' : more ≠ [] := fun hnone => hsome (by rw [hnone] at hperm; exact hperm.eq_nil)
      refine le_antisymm ?_ ?_
      · exact h'.le_maxNs _ (hperm.mem_iff.mp (h.maxNs_mem hsome))
      · exact h.le_maxNs _ (hperm.mem_iff.mpr (h'.maxNs_mem hsome'))
  have hbuckets : window.buckets = after.buckets := by rw [h.buckets, h'.buckets,
      inBucket_perm hperm]
  have hcount : window.samples = after.samples := by rw [h.population, h'.population,
      hperm.length_eq]
  cases window
  cases after
  rw [WindowHistogram.mk.injEq]
  exact ⟨hbuckets, hcount, hmax⟩

end Merging

/-! ## Percentiles -/

section Percentiles
variable {samples : List Nat} {window : WindowHistogram} {perThousand : Nat}

theorem WindowHistogram.Holds.valid (h : window.Holds samples) : window.Valid where
  bounds := by rw [h.buckets, snapshot_upperBounds, snapshot_upperBounds]
  total := by rw [h.buckets, snapshot_counts, NearestRank.sum_bucketCounts, h.population]
  fits := by rw [h.population]; exact h.fits

/-- The rank in whole numbers is the exact one. -/
theorem ceil_eq (count perThousand : Nat) :
    ⌈(count * (perThousand / 1000) : ℚ)⌉₊ = (count * perThousand + 999) / 1000 := by
  have hexact : (count * (perThousand / 1000) : ℚ) = ((count * perThousand : ℕ) : ℚ) / 1000 := by
    push_cast
    ring
  rw [hexact]
  refine le_antisymm ?_ ?_
  · rw [Nat.ceil_le, div_le_iff₀ (by norm_num)]
    have hle : count * perThousand ≤ (count * perThousand + 999) / 1000 * 1000 := by omega
    exact_mod_cast hle
  · have hceil := Nat.le_ceil (((count * perThousand : ℕ) : ℚ) / 1000)
    rw [div_le_iff₀ (by norm_num)] at hceil
    have hle : count * perThousand ≤ ⌈((count * perThousand : ℕ) : ℚ) / 1000⌉₊ * 1000 := by
      exact_mod_cast hceil
    omega

/-- No product and no sum of the rank overflows. -/
theorem rank_fits {count : Nat} (hcount : count < 2 ^ 64) (hone : perThousand ≤ 1000) :
    count * perThousand + 999 < 2 ^ 128 ∧ (count * perThousand + 999) / 1000 < 2 ^ 64 := by
  have hproduct : count * perThousand ≤ count * 1000 := Nat.mul_le_mul_left count hone
  omega

theorem rankOf_eq {count : Nat} (hcount : count < 2 ^ 64) (hone : perThousand ≤ 1000) :
    rankOf count perThousand = ⌈(count * (perThousand / 1000) : ℚ)⌉₊ := by
  obtain ⟨hproduct, hrank⟩ := rank_fits hcount hone
  rw [ceil_eq, rankOf, Nat.mod_eq_of_lt (by omega), wrapU64_of_lt hrank]

theorem fraction_between (hpos : 1 ≤ perThousand) (hone : perThousand ≤ 1000) :
    (0 : ℚ) < perThousand / 1000 ∧ (perThousand / 1000 : ℚ) ≤ 1 := by
  have hlow : (1 : ℚ) ≤ perThousand := by exact_mod_cast hpos
  have hhigh : (perThousand : ℚ) ≤ 1000 := by exact_mod_cast hone
  constructor
  · linarith
  · linarith

/-- A percentile is the bound of the nearest rank's bucket, cut at the maximum. -/
theorem WindowHistogram.Holds.percentile_eq (h : window.Holds samples) (hsome : samples ≠ [])
    (hpos : 1 ≤ perThousand) (hone : perThousand ≤ 1000) : window.percentile perThousand =
      min ((upperBoundOf (exactPercentile samples (perThousand / 1000))).getD window.maxNs)
        window.maxNs := by
  obtain ⟨hpositive, hatMost⟩ := fraction_between hpos hone
  have hindex : (Buckets.index latencyHistogramBucketsNs
      (exactPercentile samples (perThousand / 1000))).val = Quantiles.rankIndex
        ⌈(samples.length * (perThousand / 1000) : ℚ)⌉₊
        (NearestRank.bucketCounts latencyHistogramBucketsNs samples) :=
    NearestRank.index_value latencyHistogramBucketsNs_sorted (rank_pos hsome hpositive)
      (rank_le_length hatMost)
  rw [h.valid.percentile_eq, h.buckets, snapshot_counts, snapshot_upperBounds, h.population,
    rankOf_eq h.fits hone, ← hindex, WindowHistogram.bound]
  have hjoin : ∀ bound : Option (Option Nat), bound.getD none = bound.join := by
    intro bound
    cases bound with
    | none => rfl
    | some bound => rfl
  rw [hjoin, getElem?_upperBounds]
  rfl

/-- What the percentiles of a window say of the samples. -/
structure WindowHistogram.Summarizes (window : WindowHistogram) (samples : List Nat) : Prop where
  quantile_le : ∀ perThousand : Nat, 1 ≤ perThousand → perThousand ≤ 1000 →
    exactPercentile samples (perThousand / 1000) ≤ window.percentile perThousand
  le_maximum : ∀ perThousand, 1 ≤ perThousand → perThousand ≤ 1000 →
    ∃ sample ∈ samples, window.percentile perThousand ≤ sample
  monotone : ∀ perThousand perThousand', 1 ≤ perThousand → perThousand ≤ perThousand' →
    perThousand' ≤ 1000 → window.percentile perThousand ≤ window.percentile perThousand'
  rank_fits : ∀ perThousand ≤ 1000, window.samples * perThousand + 999 < 2 ^ 128 ∧
    (window.samples * perThousand + 999) / 1000 < 2 ^ 64
  sums_fit : ∀ n, ((window.buckets.map (·.count)).take n).sum < 2 ^ 64

theorem WindowHistogram.Holds.summarizes (h : window.Holds samples) (hsome : samples ≠ []) :
    window.Summarizes samples := by
  refine ⟨?_, ?_, ?_, ?_, ?_⟩
  · intro perThousand hpos hone
    obtain ⟨hpositive, hatMost⟩ := fraction_between hpos hone
    have hle := h.le_maxNs _ (exactPercentile_mem hsome hpositive hatMost)
    rw [h.percentile_eq hsome hpos hone]
    refine le_min ?_ hle
    cases hupper : upperBoundOf (exactPercentile samples (perThousand / 1000)) with
    | some upper => exact upperBoundOf_eq_some hupper
    | none => exact hle
  · intro perThousand hpos hone
    rw [h.percentile_eq hsome hpos hone]
    exact ⟨_, h.maxNs_mem hsome, min_le_right _ _⟩
  · intro perThousand perThousand' hpos hle hone
    obtain ⟨hpositive, -⟩ := fraction_between hpos (hle.trans hone)
    obtain ⟨hpositive', hatMost⟩ := fraction_between (hpos.trans hle) hone
    have hmax := h.le_maxNs _ (exactPercentile_mem hsome hpositive' hatMost)
    have hcast : (perThousand : ℚ) ≤ perThousand' := by exact_mod_cast hle
    rw [h.percentile_eq hsome hpos (hle.trans hone), h.percentile_eq hsome (hpos.trans hle) hone]
    refine min_le_min_right _ (upperBoundOf_mono ?_ hmax)
    exact exactPercentile_mono hsome hpositive (by linarith) hatMost
  · intro perThousand hone
    rw [h.population]
    exact rank_fits h.fits hone
  · intro n
    have hsum := Quantiles.sum_take_add_sum_drop (window.buckets.map (·.count)) n
    have htotal := h.valid.total
    have hfits := h.valid.fits
    omega

end Percentiles

/-! ## Acceptance -/

/-- What `from_records` asks of a record that it merges, whatever it has merged before. -/
structure IntervalRecord.Coherent (record : IntervalRecord) : Prop where
  bounds : record.histogram.map (·.upperBoundNs) =
    new.snapshot.map (·.upperBoundNs)
  fits : (record.histogram.map (·.count)).sum < 2 ^ 64
  population : (record.histogram.map (·.count)).sum = record.samples
  tails : ∀ threshold ∈ tailThresholds,
    tailCount record.histogram threshold = record.expectedTail threshold
  below : disagreesWithMaximum record.maxNs none record.histogram = false
  observed : (record.histogram.find? fun bucket =>
    bucket.upperBoundNs.all (record.maxNs ≤ ·)).all (·.count = 0) = false

section Acceptance
variable {window after : WindowHistogram} {record : IntervalRecord}

theorem zip_any_ne_iff {buckets incoming : List LatencyHistogramBucket}
    (hlength : incoming.length = buckets.length) :
    ((incoming.zip buckets).any fun (incoming, expected) =>
      incoming.upperBoundNs ≠ expected.upperBoundNs) = false ↔
      incoming.map (·.upperBoundNs) = buckets.map (·.upperBoundNs) := by
  induction incoming generalizing buckets with
  | nil =>
    obtain rfl := List.length_eq_zero_iff.mp hlength.symm
    simp
  | cons added more ih =>
    cases buckets with
    | nil => cases hlength
    | cons bucket rest =>
      rw [List.zip_cons_cons, List.any_cons, Bool.or_eq_false_iff, ih (Nat.succ.inj hlength),
        List.map_cons, List.map_cons, List.cons.injEq]
      simp

theorem mergeBuckets_isSome {buckets incoming : List LatencyHistogramBucket}
    (hfits : (buckets.map (·.count)).sum + (incoming.map (·.count)).sum < 2 ^ 64) :
    ∃ merged, mergeBuckets buckets incoming = some merged := by
  induction buckets generalizing incoming with
  | nil => exact ⟨[], rfl⟩
  | cons bucket rest ih =>
    cases incoming with
    | nil => exact ⟨_, rfl⟩
    | cons added more =>
      simp only [List.map_cons, List.sum_cons] at hfits
      obtain ⟨merged, hmerged⟩ := @ih more (by omega)
      have hcount : checkedAdd bucket.count added.count = some (bucket.count + added.count) :=
        if_pos (by omega)
      exact ⟨_, by rw [mergeBuckets, hcount, hmerged]; rfl⟩

/-- The shape that a record is to have is that of every valid window. -/
theorem WindowHistogram.Valid.shape_iff (hvalid : window.Valid) :
    (record.histogram.length ≠ window.buckets.length ||
      (record.histogram.zip window.buckets).any fun (incoming, expected) =>
        incoming.upperBoundNs ≠ expected.upperBoundNs) = false ↔
      record.histogram.map (·.upperBoundNs) =
        new.snapshot.map (·.upperBoundNs) := by
  rw [← hvalid.bounds, Bool.or_eq_false_iff, decide_eq_false_iff_not, not_not]
  constructor
  · rintro ⟨hlength, hany⟩
    exact (zip_any_ne_iff hlength).mp hany
  · intro hbounds
    have hlength : record.histogram.length = window.buckets.length := by
      simpa using congrArg List.length hbounds
    exact ⟨hlength, (zip_any_ne_iff hlength).mpr hbounds⟩

theorem WindowHistogram.Valid.coherent_of_add (hvalid : window.Valid)
    (hspeaks : record.isSilent = false) (hadd : window.add record = .ok after) :
    record.Coherent := by
  unfold WindowHistogram.add at hadd
  rw [if_neg (by simp [hspeaks])] at hadd
  split at hadd
  · cases hadd
  next hshape =>
  split at hadd
  · cases hadd
  next count hcount =>
  obtain rfl : count = (record.histogram.map (·.count)).sum := by
    simpa using eq_of_foldlM_checkedAdd hcount
  split at hadd
  · cases hadd
  next hpopulation =>
  split at hadd
  · cases hadd
  next htails =>
  split at hadd
  · cases hadd
  next hbelow =>
  split at hadd
  · cases hadd
  next hobserved =>
  split at hadd
  · cases hadd
  next samples hsamples =>
  have hfits := (checkedAdd_eq_some hsamples).2
  refine ⟨hvalid.shape_iff.mp (Bool.eq_false_iff.mpr hshape), by omega, not_not.mp hpopulation, ?_,
    Bool.eq_false_iff.mpr hbelow, Bool.eq_false_iff.mpr hobserved⟩
  intro threshold hmem
  by_contra hdiffer
  exact htails (List.any_eq_true.mpr ⟨threshold, hmem, by simpa using hdiffer⟩)

/-- A record is merged iff it is coherent and the counts still fit; one that says nothing is
passed. -/
theorem WindowHistogram.add_ok_iff (hvalid : window.Valid) :
    (∃ after, window.add record = .ok after) ↔ record.isSilent = true ∨
      record.Coherent ∧ window.samples + (record.histogram.map (·.count)).sum < 2 ^ 64 := by
  constructor
  · rintro ⟨after, hadd⟩
    obtain ⟨hsilent, -⟩ | ⟨hspeaks, -, hfits, -⟩ := WindowHistogram.add_cases hadd
    · exact .inl hsilent
    · exact .inr ⟨hvalid.coherent_of_add hspeaks hadd, hfits⟩
  · intro h
    cases hsilent : record.isSilent with
    | true => exact ⟨window, by rw [WindowHistogram.add, if_pos hsilent]⟩
    | false =>
      obtain ⟨hcoherent, hfits⟩ := h.resolve_left (by simp [hsilent])
      obtain ⟨merged, hmerged⟩ := mergeBuckets_isSome (hvalid.total.symm ▸ hfits)
      have hcount :=
        foldlM_checkedAdd record.histogram 0 (by rw [Nat.zero_add]; exact hcoherent.fits)
      have htails : (tailThresholds.any fun threshold =>
          tailCount record.histogram threshold ≠ record.expectedTail threshold) = false := by
        rw [List.any_eq_false]
        intro threshold hmem
        simpa using hcoherent.tails threshold hmem
      refine ⟨⟨merged, window.samples + (record.histogram.map (·.count)).sum,
        max window.maxNs record.maxNs⟩, ?_⟩
      unfold WindowHistogram.add
      rw [if_neg (by simp [hsilent]), if_neg (by rw [hvalid.shape_iff.mpr hcoherent.bounds]; simp),
        hcount]
      simp only [Nat.zero_add]
      rw [if_neg (not_not.mpr hcoherent.population), if_neg (by rw [htails]; simp),
        if_neg (by rw [hcoherent.below]; simp), if_neg (by rw [hcoherent.observed]; simp),
        checkedAdd, if_pos hfits]
      simp only
      rw [hmerged]

theorem sum_count_of_isSilent (h : record.isSilent = true) :
    (record.histogram.map (·.count)).sum = 0 := by
  rw [IntervalRecord.isSilent, Bool.and_eq_true, List.all_eq_true] at h
  rw [List.sum_eq_zero_iff]
  intro count hmem
  obtain ⟨bucket, hbucket, rfl⟩ := List.mem_map.mp hmem
  simpa using h.2 bucket hbucket

theorem WindowHistogram.samples_add (hadd : window.add record = .ok after) :
    after.samples = window.samples + (record.histogram.map (·.count)).sum := by
  obtain ⟨hsilent, rfl⟩ | ⟨-, -, -, -, -, rfl⟩ := WindowHistogram.add_cases hadd
  · rw [sum_count_of_isSilent hsilent, Nat.add_zero]
  · rfl

/-- Records are merged iff each of them is passed or coherent, and all their counts fit. -/
theorem WindowHistogram.foldlM_ok_iff {records : List IntervalRecord} (hvalid : window.Valid) :
    (∃ after, records.foldlM WindowHistogram.add window = .ok after) ↔
      (∀ record ∈ records, record.isSilent = true ∨ record.Coherent) ∧
        window.samples + (records.map fun record => (record.histogram.map (·.count)).sum).sum <
          2 ^ 64 := by
  induction records generalizing window with
  | nil => exact iff_of_true ⟨window, rfl⟩ ⟨nofun, hvalid.fits⟩
  | cons record rest ih =>
    rw [List.foldlM_cons, List.forall_mem_cons, List.map_cons, List.sum_cons, ← Nat.add_assoc]
    constructor
    · rintro ⟨after, hfold⟩
      cases hadd : window.add record with
      | error reason =>
        rw [hadd] at hfold
        cases hfold
      | ok next =>
        rw [hadd] at hfold
        obtain ⟨hrest, hfits⟩ := (ih (hvalid.add hadd)).mp ⟨after, hfold⟩
        rw [WindowHistogram.samples_add hadd] at hfits
        have hrecord := (WindowHistogram.add_ok_iff hvalid).mp ⟨next, hadd⟩
        exact ⟨⟨hrecord.imp_right And.left, hrest⟩, hfits⟩
    · rintro ⟨⟨hrecord, hrest⟩, hfits⟩
      obtain ⟨next, hadd⟩ := (WindowHistogram.add_ok_iff hvalid).mpr
        (hrecord.imp_right fun hcoherent => ⟨hcoherent, by omega⟩)
      rw [hadd]
      refine (ih (hvalid.add hadd)).mpr ⟨hrest, ?_⟩
      rwa [WindowHistogram.samples_add hadd]

end Acceptance

/-! ## The window of the game's records -/

section Windows
variable {described : List Described} {window : WindowHistogram}

theorem filter_map_fst (described : List Described) :
    (described.map (·.1)).filter (isPrimaryGameClass ·.taskClass) =
      (described.filter (isPrimaryGameClass ·.1.taskClass)).map (·.1) := List.filter_map

theorem WindowHistogram.fromRecords_ok_iff {records : List IntervalRecord} :
    WindowHistogram.fromRecords records = .ok window ↔
      (records.filter (isPrimaryGameClass ·.taskClass)).foldlM WindowHistogram.add .empty =
        .ok window ∧
        window.samples ≠ 0 := by
  unfold WindowHistogram.fromRecords
  cases hfold : (records.filter (isPrimaryGameClass ·.taskClass)).foldlM WindowHistogram.add
    .empty with
  | error reason => exact iff_of_false nofun fun h => nomatch h.1
  | ok merged =>
    by_cases hempty : merged.samples = 0
    · simp only [bind, Except.bind, hempty, if_true]
      refine iff_of_false nofun ?_
      rintro ⟨hsame, hsome⟩
      exact hsome (by rw [← Except.ok.inj hsame, hempty])
    · simp only [bind, Except.bind, hempty, if_false, Except.ok.injEq]
      exact ⟨fun hsame => ⟨hsame, by rwa [← hsame]⟩, And.left⟩

/-- Every record of the game counts its samples. -/
def DescribedAll (described : List Described) : Prop :=
  ∀ pair ∈ described, isPrimaryGameClass pair.1.taskClass = true → pair.1.Describes pair.2

/-- What is read back of the records holds their samples. -/
theorem holds_fromRecords (hdescribed : DescribedAll described)
    (hwindow : WindowHistogram.fromRecords (described.map (·.1)) = .ok window) :
    window.Holds (underlying described) := by
  obtain ⟨hfold, -⟩ := WindowHistogram.fromRecords_ok_iff.mp hwindow
  rw [filter_map_fst] at hfold
  have hholds := WindowHistogram.holds_empty.foldlM (fun pair hmem =>
    hdescribed pair (List.mem_filter.mp hmem).1 (List.mem_filter.mp hmem).2) hfold
  rwa [List.nil_append] at hholds

theorem underlying_perm {described' : List Described} (h : described.Perm described') :
    (underlying described).Perm (underlying described') :=
  (h.filter _).flatMap_right _

/-- Records in another order are accepted, and give the same window. -/
theorem fromRecords_perm {described' : List Described} (hdescribed : DescribedAll described)
    (hwindow : WindowHistogram.fromRecords (described.map (·.1)) = .ok window)
    (hperm : described.Perm described') :
    WindowHistogram.fromRecords (described'.map (·.1)) = .ok window := by
  obtain ⟨hfold, hsome⟩ := WindowHistogram.fromRecords_ok_iff.mp hwindow
  have hrecords : ((described.map (·.1)).filter (isPrimaryGameClass ·.taskClass)).Perm
      ((described'.map (·.1)).filter (isPrimaryGameClass ·.taskClass)) := (hperm.map _).filter _
  obtain ⟨hcoherent, hfits⟩ := (WindowHistogram.foldlM_ok_iff WindowHistogram.valid_empty).mp
    ⟨window, hfold⟩
  obtain ⟨after, hafter⟩ := (WindowHistogram.foldlM_ok_iff WindowHistogram.valid_empty).mpr
    ⟨fun record hmem => hcoherent record (hrecords.mem_iff.mpr hmem), by
      rwa [← (hrecords.map fun record => (record.histogram.map (·.count)).sum).sum_eq]⟩
  have hdescribed' : DescribedAll described' :=
    fun pair hmem => hdescribed pair (hperm.mem_iff.mpr hmem)
  have hholds := holds_fromRecords hdescribed hwindow
  have hholds' : after.Holds (underlying described') := by
    rw [filter_map_fst] at hafter
    have hholds := WindowHistogram.holds_empty.foldlM (fun pair hmem =>
      hdescribed' pair (List.mem_filter.mp hmem).1 (List.mem_filter.mp hmem).2) hafter
    rwa [List.nil_append] at hholds
  rw [WindowHistogram.fromRecords_ok_iff, hholds.unique hholds' (underlying_perm hperm)]
  refine ⟨hafter, ?_⟩
  rwa [← hholds.unique hholds' (underlying_perm hperm)]

/-- No sum over the buckets of an accepted record overflows. -/
theorem sum_count_lt (hwindow : WindowHistogram.fromRecords (described.map (·.1)) = .ok window)
    {pair : Described} (hmem : pair ∈ described)
    (hgame : isPrimaryGameClass pair.1.taskClass = true) :
    (pair.1.histogram.map (·.count)).sum < 2 ^ 64 := by
  obtain ⟨hfold, -⟩ := WindowHistogram.fromRecords_ok_iff.mp hwindow
  obtain ⟨hcoherent, -⟩ :=
    (WindowHistogram.foldlM_ok_iff WindowHistogram.valid_empty).mp ⟨window, hfold⟩
  rcases hcoherent pair.1 (List.mem_filter.mpr ⟨List.mem_map_of_mem hmem, hgame⟩) with
    hsilent | hcoherent
  · rw [sum_count_of_isSilent hsilent]
    decide
  · exact hcoherent.fits

/-- **Merged percentiles.**  The percentiles of an accepted window cover the nearest ranks of all
samples and are at most the largest one; they depend neither on the order of the records nor on how
the samples were split among them. -/
theorem merged_percentiles (described : List Described) (window : WindowHistogram)
    (hdescribed : DescribedAll described)
    (hwindow : WindowHistogram.fromRecords (described.map (·.1)) = .ok window) :
    window.Summarizes (underlying described) ∧
      (∀ pair ∈ described, isPrimaryGameClass pair.1.taskClass = true →
        (pair.1.histogram.map (·.count)).sum < 2 ^ 64) ∧
      (∀ described' : List Described, described.Perm described' →
        WindowHistogram.fromRecords (described'.map (·.1)) = .ok window) ∧
      ∀ (described' : List Described) (window' : WindowHistogram), DescribedAll described' →
        WindowHistogram.fromRecords (described'.map (·.1)) = .ok window' →
        (underlying described).Perm (underlying described') → window' = window := by
  have hholds := holds_fromRecords hdescribed hwindow
  refine ⟨hholds.summarizes ?_, fun pair => sum_count_lt hwindow, ?_, ?_⟩
  · intro hnone
    have hsome := (WindowHistogram.fromRecords_ok_iff.mp hwindow).2
    rw [hholds.population, hnone] at hsome
    exact hsome rfl
  · intro described' hperm
    exact fromRecords_perm hdescribed hwindow hperm
  · intro described' window' hdescribed' hwindow' hperm
    exact (hholds.unique (holds_fromRecords hdescribed' hwindow') hperm).symm

/-- The record that the monitor writes for some samples counts them. -/
theorem describes_recordOf (taskClass : ActiveConfig.TaskClass) {samples : List Nat}
    (fits : samples.length < 2 ^ 64) (hsome : samples ≠ []) :
    (recordOf taskClass samples).Describes samples := by
  have counts := LatencyStats.counts_recordAll samples fits
  refine ⟨fun hsilent => ?_, fun _ => rfl, fun _ => counts.le_maxNs,
    fun _ => counts.maxNs_mem hsome⟩
  simp only [IntervalRecord.isSilent, recordOf, Bool.and_eq_true] at hsilent
  exact List.length_eq_zero_iff.mp (of_decide_eq_true hsilent.1.1.1.1)

/-- Three samples in the records of two tasks. -/
def twoTasks : List Described :=
  [(recordOf .game [1500], [1500]), (recordOf .gameWorkerThread [3000, 60000000], [3000, 60000000])]

theorem twoTasks_summarized :
    ∃ window, WindowHistogram.fromRecords (twoTasks.map (·.1)) = .ok window ∧
    window.Summarizes [1500, 3000, 60000000] := by
  obtain ⟨window, hwindow⟩ : ∃ window,
      WindowHistogram.fromRecords (twoTasks.map (·.1)) = .ok window := ⟨_, rfl⟩
  have hdescribed : DescribedAll twoTasks := by
    intro pair hmem _
    simp only [twoTasks, List.mem_cons, List.not_mem_nil, or_false] at hmem
    rcases hmem with rfl | rfl
    · exact describes_recordOf .game (by decide) (by decide)
    · exact describes_recordOf .gameWorkerThread (by decide) (by decide)
  exact ⟨window, hwindow, (merged_percentiles twoTasks window hdescribed hwindow).1⟩

end Windows

end Stutter.Metrics

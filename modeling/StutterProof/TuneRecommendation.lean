import StutterProof.Tally
import StutterProof.TuneRanking

/-! # The tuning recommendation

What a whole tuning run concludes: the runs must be comparable or there is no summary at all, the
order of the candidates may lower the confidence, and a recommendation also asks for a formal
comparison with the baseline or the runner-up. -/
namespace Stutter.Tune

/-! ## Comparability -/

inductive TuneComparabilitySeverity where
  | info | warning | reject

/-- Why profiles may not be compared. -/
structure TuneComparabilityWarning where
  profile : Option String
  kind : String
  severity : TuneComparabilitySeverity

/-- Why the runs cannot be compared. -/
inductive NotComparable where
  | zeroForSome (label : String) (max : Nat)
  | variesTwofold (label : String) (min max : Nat)
  | identityMismatch (common total : Nat)
  | noScoredSamplesForSome (max : Nat)
  | scoredSamplesVaryTwofold (min max : Nat)
  | noFramesForSome
  deriving DecidableEq

def minOrZero (values : List Nat) : Nat := values.min?.getD 0

def maxOrZero (values : List Nat) : Nat := values.max?.getD 0

/-- The median of a field, of every profile. -/
def profileMedians (grouped : Grouped) (field : TuneCandidateSummary → Nat) : List Nat :=
  grouped.entries.map fun entry => medianU64 (entry.2.map field)

/-- `check_tune_metric_ratio`. -/
def checkTuneMetricRatio (label : String) (values : List Nat) : Except NotComparable Unit :=
  let min := minOrZero values
  let max := maxOrZero values
  if min = 0 ∧ 0 < max then .error (.zeroForSome label max)
  else if 0 < min ∧ 2 * min < max then .error (.variesTwofold label min max)
  else .ok ()

/-- `scored_identity_counts_to_map`, read at one identity. -/
def identityCount (counts : List (TaskIdentity × Nat)) (identity : TaskIdentity) : Nat :=
  ((counts.filter fun item => item.1 = identity).map (·.2)).sum

/-- `scored_identity_overlap`. -/
def scoredIdentityOverlap (left right : List (TaskIdentity × Nat)) (combine : Nat → Nat → Nat) :
    Nat :=
  (((left ++ right).map (·.1)).dedup.map fun identity =>
    combine (identityCount left identity) (identityCount right identity)).sum

def checkScoredIdentities : List TuneCandidateSummary → Except NotComparable Unit
  | [] => .ok ()
  | first :: others =>
    others.forM fun other =>
      let left := first.coverage.scoredIdentityCounts
      let right := other.coverage.scoredIdentityCounts
      let common := scoredIdentityOverlap left right min
      let total := scoredIdentityOverlap left right max
      if 0 < total ∧ 4 * common < 3 * total then .error (.identityMismatch common total) else .ok ()

/-- `check_tune_sample_comparability`. -/
def checkTuneSampleComparability (grouped : Grouped) : Except NotComparable Unit :=
  let medians := profileMedians grouped (·.scoredSamples)
  let min := minOrZero medians
  let max := maxOrZero medians
  if min = 0 ∧ 0 < max then .error (.noScoredSamplesForSome max)
  else if 0 < min ∧ 2 * min < max then .error (.scoredSamplesVaryTwofold min max)
  else .ok ()

/-- `check_tune_frame_comparability`. -/
def checkTuneFrameComparability (grouped : Grouped) : Except NotComparable Unit :=
  let medians := profileMedians grouped (·.frameCount)
  if 0 < maxOrZero medians ∧ minOrZero medians = 0 then .error .noFramesForSome else .ok ()

/-- `check_tune_coverage_comparability`. -/
def checkTuneCoverageComparability (grouped : Grouped) : Except NotComparable Unit := do
  checkTuneMetricRatio "unique tracked tasks"
    (profileMedians grouped (·.coverage.uniqueTrackedTasks))
  checkTuneMetricRatio "unique scored tasks"
    (profileMedians grouped (·.coverage.uniqueScoredTasks))
  checkScoredIdentities (grouped.entries.filterMap fun entry => entry.2.head?)
  checkTuneMetricRatio "active target minimum"
    (profileMedians grouped (·.coverage.activeTargetMin))
  checkTuneMetricRatio "active target maximum"
    (profileMedians grouped (·.coverage.activeTargetMax))
  checkTuneSampleComparability grouped
  checkTuneFrameComparability grouped

/-- `push_median_ratio_warning`: a profile without any is rejected, a ratio above 1.2 is told with
the given severity. -/
def medianRatioWarnings (kind : String) (severity : TuneComparabilitySeverity)
    (values : List (String × Nat)) : List TuneComparabilityWarning :=
  let min := minOrZero (values.map (·.2))
  let max := maxOrZero (values.map (·.2))
  if min = 0 ∧ 0 < max then values.map fun value => ⟨some value.1, kind, .reject⟩
  else if 0 < min ∧ 6 * min < 5 * max then values.map fun value => ⟨some value.1, kind, severity⟩
  else []

/-- The median of a field, beside the name of its profile. -/
def namedMedians (grouped : Grouped) (field : TuneCandidateSummary → Nat) : List (String × Nat) :=
  grouped.entries.map fun entry => (entry.1, medianU64 (entry.2.map field))

/-- `tune_comparability_warnings`. -/
def tuneComparabilityWarnings (grouped : Grouped) : List TuneComparabilityWarning :=
  let frames := namedMedians grouped (·.frameCount)
  let missingFrames :=
    if (frames.any fun value => value.2 = 0) ∧ (frames.any fun value => 0 < value.2) then
      (frames.filter fun value => value.2 = 0).map fun value =>
        ⟨some value.1, "missing-frame-data", .reject⟩
    else []
  let perProfile := grouped.entries.flatMap fun entry =>
    (if 0 < maxOrZero (entry.2.map (·.coverage.dropCounterTotal)) then
      [⟨some entry.1, "drop-counters-nonzero", .warning⟩] else []) ++
    (if entry.2.any (·.appliedTasks = 0) then
      [⟨some entry.1, "applied-task-count-zero", .warning⟩] else [])
  let counts := grouped.entries.map fun entry => (validRuns entry.2).length
  let mismatch :=
    if minOrZero counts ≠ maxOrZero counts then
      grouped.entries.map fun entry => ⟨some entry.1, "valid-run-count-mismatch", .warning⟩
    else []
  medianRatioWarnings "scored-sample-count-mismatch" .warning
      (namedMedians grouped (·.scoredSamples)) ++
    medianRatioWarnings "frame-count-mismatch" .warning frames ++
    missingFrames ++ perProfile ++ mismatch

def candidateOrderNotCounterbalancedKind : String := "candidate-order-not-counterbalanced"

/-- `tune_candidate_order_warnings`, of the profiles of every iteration. -/
def tuneCandidateOrderWarnings (order : List (List String)) : List TuneComparabilityWarning :=
  match order with
  | [] => [⟨none, "candidate-order-metadata-missing", .warning⟩]
  | first :: rest =>
    if 0 < rest.length ∧ rest.all (· = first) then
      [⟨none, candidateOrderNotCounterbalancedKind, .warning⟩]
    else
      let firsts := order.filterMap List.head?
      let names := firsts.dedup.insertionSort fun a b => ¬ b < a
      let counts := (names.map fun name => firsts.count name).insertionSort (· ≥ ·)
      -- a margin of one is what an odd number of alternating runs leaves
      if 0 < firsts.length ∧ counts.getD 1 0 + 2 ≤ counts.getD 0 0 then
        [⟨names.reverse.argmax fun name => firsts.count name,
          candidateOrderNotCounterbalancedKind, .warning⟩]
      else []

/-- `has_candidate_order_counterbalance_warning`. -/
def hasCandidateOrderCounterbalanceWarning (warnings : List TuneComparabilityWarning) : Bool :=
  warnings.any fun warning => warning.kind = candidateOrderNotCounterbalancedKind

/-- `ranking_confidence_after_comparability_warnings`. -/
def rankingConfidenceAfter (confidence : RankingConfidence)
    (warnings : List TuneComparabilityWarning) : RankingConfidence :=
  if hasCandidateOrderCounterbalanceWarning warnings then
    match confidence with
    | .high | .medium => .low
    | .low => .low
    | .unstable => .unstable
  else confidence

/-! ## The summary of a tuning run -/

/-- The outcome of a tuning. -/
structure TuneSummary where
  runs : Nat
  bestProfile : String
  candidateOrder : List (List String)
  profileStats : List TuneProfileStats
  rankingConfidence : RankingConfidence
  rankingNotes : List RankingNote
  comparabilityWarnings : List TuneComparabilityWarning

/-- The summary of runs that passed the checks. -/
def summarize (grouped : Grouped) (candidateOrder : List (List String)) (runs : Nat) :
    TuneSummary :=
  let warnings := tuneComparabilityWarnings grouped ++ tuneCandidateOrderWarnings candidateOrder
  let stats := profileStatsFromGrouped grouped
  let selected := selectBestProfile grouped
  let assessed := assessRankingConfidence stats selected runs
  let adjusted := rankingConfidenceAfter assessed.1 warnings
  { runs := runs
    bestProfile := if adjusted = .unstable then "" else selected
    candidateOrder := candidateOrder
    profileStats := stats
    rankingConfidence := adjusted
    rankingNotes :=
      if adjusted = assessed.1 then assessed.2 else assessed.2 ++ [.orderNotCounterbalanced]
    comparabilityWarnings := warnings }

variable {grouped : Grouped} {order : List (List String)}

theorem summarize_bestProfile {runs : Nat}
    (h : (summarize grouped order runs).rankingConfidence ≠ .unstable) :
    (summarize grouped order runs).bestProfile = selectBestProfile grouped := by
  unfold summarize at h ⊢
  simp only at h ⊢
  rw [if_neg h]

/-- The part of `tune` from the grouped runs on: runs with a valid one among them are checked. -/
def tuneSummary (grouped : Grouped) (candidateOrder : List (List String)) (runs : Nat) :
    Except NotComparable TuneSummary := do
  if grouped.entries.any fun entry => entry.2.any (·.valid) then
    checkTuneCoverageComparability grouped
  .ok (summarize grouped candidateOrder runs)

/-! ## The recommendation -/

inductive TuneRecommendationVerdict where
  | recommended | needsRetest | noRecommendation
  deriving DecidableEq

/-- What the verdict reads of a `FormalMetricComparison`. -/
structure FormalMetricComparison where
  enoughSamples : Bool
  statisticallySignificant : Bool
  improvementDelta : Int

/-- The comparison keeps a strong confidence from becoming a recommendation. -/
def FormalMetricComparison.blocks (metric : FormalMetricComparison) : Bool :=
  !metric.enoughSamples || !metric.statisticallySignificant || decide (metric.improvementDelta ≤ 0)

def minFormalSamplesPerSide : Nat := 3

/-- `compare_lower_is_better_metric`; whether the bootstrap interval excludes zero is given. -/
def compareLowerIsBetterMetric (baseline tuned : List Nat) (excludesZero : Bool) :
    FormalMetricComparison :=
  let enough := decide (minFormalSamplesPerSide ≤ baseline.length) &&
    decide (minFormalSamplesPerSide ≤ tuned.length)
  { enoughSamples := enough
    statisticallySignificant := enough && excludesZero
    improvementDelta := (medianU64 baseline : Int) - medianU64 tuned }

/-- The scores of the valid runs of a profile. -/
def scoresOf (grouped : Grouped) (profile : String) : List Nat :=
  match grouped.entries.find? fun entry => entry.1 = profile with
  | some entry => (validRuns entry.2).map (·.diagnosticRawScoreTotal)
  | none => []

/-- `valid_stat`. -/
def validStat (summary : TuneSummary) (profile : String) : Option TuneProfileStats :=
  summary.profileStats.find? fun stat => stat.profile = profile ∧ 0 < stat.validRuns

/-- `best_valid_non_best_stat`. -/
def bestValidNonBestStat (summary : TuneSummary) (bestProfile : String) : Option TuneProfileStats :=
  (summary.profileStats.filter fun stat => stat.profile ≠ bestProfile ∧ 0 < stat.validRuns).argmin
    (·.median)

/-- `choose_comparison_stat`. -/
def chooseComparisonStat (summary : TuneSummary) (baselineProfile : Option String)
    (bestProfile : String) : Option TuneProfileStats :=
  match baselineProfile with
  | some baseline =>
    if baseline ≠ bestProfile then
      match validStat summary baseline with
      | some stat => some stat
      | none => bestValidNonBestStat summary bestProfile
    else bestValidNonBestStat summary bestProfile
  | none => bestValidNonBestStat summary bestProfile

/-- The profile to use. -/
structure TuneRecommendation where
  verdict : TuneRecommendationVerdict
  bestProfile : Option String
  comparison : Option TuneProfileStats
  confidence : RankingConfidence

/-- `build_tune_recommendation`; `excludesZero` is what the bootstrap says of two lists of
scores. -/
def buildTuneRecommendation (grouped : Grouped) (summary : TuneSummary)
    (baselineProfile : Option String) (excludesZero : List Nat → List Nat → Bool) :
    TuneRecommendation :=
  -- the order warnings the summary already has are not added twice
  let missing := (tuneCandidateOrderWarnings summary.candidateOrder).filter fun warning =>
    !summary.comparabilityWarnings.any fun existing =>
      existing.kind = warning.kind ∧ existing.profile = warning.profile
  let confidence := rankingConfidenceAfter summary.rankingConfidence
    (summary.comparabilityWarnings ++ missing)
  let best := if summary.bestProfile = "" then none else validStat summary summary.bestProfile
  match confidence, best with
  | .unstable, _ => ⟨.noRecommendation, none, none, .unstable⟩
  | confidence, none => ⟨.noRecommendation, none, none, confidence⟩
  | confidence, some _ =>
    let comparison := chooseComparisonStat summary baselineProfile summary.bestProfile
    let blocked := match comparison with
      | none => true
      | some other =>
        let baseline := scoresOf grouped other.profile
        let tuned := scoresOf grouped summary.bestProfile
        (compareLowerIsBetterMetric baseline tuned (excludesZero baseline tuned)).blocks
    let verdict := match confidence with
      | .high | .medium => if blocked then .needsRetest else .recommended
      | .low => .needsRetest
      | .unstable => .noRecommendation
    ⟨verdict, some summary.bestProfile, comparison, confidence⟩

/-! ## Comparable runs leave no rejection -/

theorem minOrZero_eq_zero {values : List Nat} (h : 0 ∈ values) : minOrZero values = 0 := by
  unfold minOrZero
  cases hmin : values.min? with
  | none => rfl
  | some least =>
    have hle := (List.min?_eq_some_iff.mp hmin).2 0 h
    exact Nat.le_zero.mp hle

theorem maxOrZero_pos {values : List Nat} {value : Nat} (h : value ∈ values) (hpos : 0 < value) :
    0 < maxOrZero values := by
  unfold maxOrZero
  cases hmax : values.max? with
  | none =>
    rw [List.max?_eq_none_iff] at hmax
    rw [hmax] at h
    cases h
  | some most =>
    have hle := (List.max?_eq_some_iff.mp hmax).2 value h
    exact Nat.lt_of_lt_of_le hpos hle

theorem namedMedians_snd (grouped : Grouped) (field : TuneCandidateSummary → Nat) :
    (namedMedians grouped field).map (·.2) = profileMedians grouped field := by
  simp [namedMedians, profileMedians]

variable {warning : TuneComparabilityWarning}

theorem medianRatioWarnings_severity {kind : String} {values : List (String × Nat)}
    (h : ¬ (minOrZero (values.map (·.2)) = 0 ∧ 0 < maxOrZero (values.map (·.2))))
    (hmem : warning ∈ medianRatioWarnings kind .warning values) : warning.severity ≠ .reject := by
  unfold medianRatioWarnings at hmem
  simp only [h, if_false] at hmem
  split at hmem
  · obtain ⟨value, _, rfl⟩ := List.mem_map.mp hmem
    simp
  · cases hmem

/-- The two checks that a rejection would fail. -/
theorem checkTuneCoverageComparability_ok (h : checkTuneCoverageComparability grouped = .ok ()) :
    checkTuneSampleComparability grouped = .ok () ∧
      checkTuneFrameComparability grouped = .ok () := by
  obtain ⟨_, _, h⟩ := Tally.ok_of_bind h
  obtain ⟨_, _, h⟩ := Tally.ok_of_bind h
  obtain ⟨_, _, h⟩ := Tally.ok_of_bind h
  obtain ⟨_, _, h⟩ := Tally.ok_of_bind h
  obtain ⟨_, _, h⟩ := Tally.ok_of_bind h
  obtain ⟨_, hsamples, hframes⟩ := Tally.ok_of_bind h
  exact ⟨hsamples, hframes⟩

theorem tuneComparabilityWarnings_severity (h : checkTuneCoverageComparability grouped = .ok ())
    (hmem : warning ∈ tuneComparabilityWarnings grouped) : warning.severity ≠ .reject := by
  obtain ⟨hsamples, hframes⟩ := checkTuneCoverageComparability_ok h
  have hsampleMedians : ¬ (minOrZero (profileMedians grouped (·.scoredSamples)) = 0 ∧
      0 < maxOrZero (profileMedians grouped (·.scoredSamples))) := by
    intro hzero
    simp [checkTuneSampleComparability, hzero] at hsamples
  have hframeMedians : ¬ (minOrZero (profileMedians grouped (·.frameCount)) = 0 ∧
      0 < maxOrZero (profileMedians grouped (·.frameCount))) := by
    intro hzero
    simp [checkTuneFrameComparability, hzero] at hframes
  simp only [tuneComparabilityWarnings, List.mem_append] at hmem
  rcases hmem with (((hmem | hmem) | hmem) | hmem) | hmem
  · exact medianRatioWarnings_severity (by rwa [namedMedians_snd]) hmem
  · exact medianRatioWarnings_severity (by rwa [namedMedians_snd]) hmem
  · -- a profile without frames beside one with frames fails the frame check
    split at hmem
    · rename_i hmixed
      obtain ⟨⟨empty, hempty, hzero⟩, ⟨full, hfull, hpos⟩⟩ :=
        And.intro (List.any_eq_true.mp hmixed.1) (List.any_eq_true.mp hmixed.2)
      rw [decide_eq_true_eq] at hzero hpos
      rw [← namedMedians_snd] at hframeMedians
      have hleast : 0 ∈ (namedMedians grouped (·.frameCount)).map (·.2) :=
        List.mem_map.mpr ⟨empty, hempty, hzero⟩
      exact absurd ⟨minOrZero_eq_zero hleast, maxOrZero_pos (List.mem_map_of_mem hfull) hpos⟩
        hframeMedians
    · cases hmem
  · obtain ⟨entry, _, hmem⟩ := List.mem_flatMap.mp hmem
    rcases List.mem_append.mp hmem with hmem | hmem
    · split at hmem
      · simp_all
      · cases hmem
    · split at hmem
      · simp_all
      · cases hmem
  · split at hmem
    · obtain ⟨entry, _, rfl⟩ := List.mem_map.mp hmem
      simp
    · cases hmem

theorem tuneCandidateOrderWarnings_severity (hmem : warning ∈ tuneCandidateOrderWarnings order) :
    warning.severity = .warning := by
  unfold tuneCandidateOrderWarnings at hmem
  cases order with
  | nil =>
    rw [List.mem_singleton] at hmem
    rw [hmem]
  | cons first rest =>
    simp only at hmem
    split at hmem
    · rw [List.mem_singleton] at hmem
      rw [hmem]
    · split at hmem
      · rw [List.mem_singleton] at hmem
        rw [hmem]
      · cases hmem

theorem rankingConfidenceAfter_strong {confidence : RankingConfidence}
    {warnings : List TuneComparabilityWarning}
    (h : (rankingConfidenceAfter confidence warnings).Strong) :
    rankingConfidenceAfter confidence warnings = confidence ∧ confidence.Strong ∧
      hasCandidateOrderCounterbalanceWarning warnings = false := by
  unfold rankingConfidenceAfter at h ⊢
  cases hwarned : hasCandidateOrderCounterbalanceWarning warnings with
  | false => simpa [hwarned] using h
  | true => cases confidence <;> simp [hwarned, RankingConfidence.Strong] at h

theorem RankingConfidence.Strong.ne_unstable {confidence : RankingConfidence}
    (h : confidence.Strong) : confidence ≠ .unstable := by
  rcases h with rfl | rfl
  · decide
  · decide

/-! ## What the confidence and the verdict stand on -/

/-- What a high or medium confidence of a summary stands on. -/
structure Evidence (summary : TuneSummary) : Prop where
  counterbalanced : hasCandidateOrderCounterbalanceWarning summary.comparabilityWarnings = false
  comparable : ∀ warning ∈ summary.comparabilityWarnings, warning.severity ≠ .reject
  /-- The selected profile has no invalid run and is far from the runner-up.  If it is not above
  it, it is strictly better than every other profile by the same margins; and it is not above it
  where no profile with valid runs has an invalid one. -/
  graded : ∃ best second, best.profile = summary.bestProfile ∧
    Graded summary.profileStats summary.runs best second ∧
    (best.median ≤ second.median →
      ∀ other ∈ summary.profileStats, 0 < other.validRuns → other.profile ≠ best.profile →
        best.median < other.median ∧ other.median < 20 * (other.median - best.median) ∧
        best.iqr < other.median - best.median ∧ second.iqr < other.median - best.median) ∧
    ((∀ stat ∈ summary.profileStats, 0 < stat.validRuns → stat.invalidRuns = 0) →
      best.median ≤ second.median)

/-- What else a recommendation stands on: three valid runs on either side of the formal
comparison, and a median strictly below the compared profile's. -/
def Compared (summary : TuneSummary) (other : TuneProfileStats) : Prop :=
  other ∈ summary.profileStats ∧ other.profile ≠ summary.bestProfile ∧ 3 ≤ other.validRuns ∧
    ∃ best ∈ summary.profileStats, best.profile = summary.bestProfile ∧ 3 ≤ best.validRuns ∧
      best.median < other.median

variable {summary : TuneSummary}

theorem tuneSummary_ok {runs : Nat} (h : tuneSummary grouped order runs = .ok summary) :
    ((grouped.entries.any fun entry => entry.2.any (·.valid)) = true →
      checkTuneCoverageComparability grouped = .ok ()) ∧
    summary = summarize grouped order runs := by
  unfold tuneSummary at h
  by_cases hvalid : (grouped.entries.any fun entry => entry.2.any (·.valid)) = true
  · rw [if_pos hvalid] at h
    obtain ⟨_, hcheck, h⟩ := Tally.ok_of_bind h
    exact ⟨fun _ => hcheck, (Except.ok.inj h).symm⟩
  · rw [if_neg hvalid] at h
    exact ⟨fun hv => absurd hv hvalid, (Except.ok.inj h).symm⟩

theorem evidence_of_strong {runs : Nat} (h : tuneSummary grouped order runs = .ok summary)
    (hstrong : summary.rankingConfidence.Strong) : Evidence summary := by
  obtain ⟨hcheck, rfl⟩ := tuneSummary_ok h
  obtain ⟨_, hassessed, hbalanced⟩ := rankingConfidenceAfter_strong hstrong
  have hselected := summarize_bestProfile hstrong.ne_unstable
  obtain ⟨best, second, hprofile, hgraded⟩ := assessRankingConfidence_strong hassessed
  -- the selected profile has valid runs, so the runs were checked
  have hcomparable : checkTuneCoverageComparability grouped = .ok () := by
    apply hcheck
    obtain ⟨entry, hentry, rfl⟩ := List.mem_map.mp hgraded.best_mem
    have hvalid : 0 < (validRuns entry.2).length :=
      Nat.lt_of_lt_of_le Nat.zero_lt_two hgraded.best_valid
    exact List.any_eq_true.mpr ⟨entry, hentry, (any_valid_iff entry.2).mpr hvalid⟩
  refine ⟨hbalanced, fun warning hmem => ?_, best, second, hprofile.trans hselected.symm, ?_, ?_,
    ?_⟩
  · rcases List.mem_append.mp hmem with hmem | hmem
    · exact tuneComparabilityWarnings_severity hcomparable hmem
    · simp [tuneCandidateOrderWarnings_severity hmem]
  · exact hgraded
  · intro hlowest other hmem hvalid hne
    exact hgraded.strictly_better hlowest hmem hvalid hne
  · intro hclean
    exact selectBestProfile_lowest hgraded.best_mem hprofile hgraded.second_mem
      hgraded.second_valid (hclean second hgraded.second_mem hgraded.second_valid)

variable {stat : TuneProfileStats}

theorem scoresOf_stat (h : stat ∈ profileStatsFromGrouped grouped) :
    (scoresOf grouped stat.profile).length = stat.validRuns ∧
      medianU64 (scoresOf grouped stat.profile) = stat.median := by
  obtain ⟨entry, hentry, rfl⟩ := List.mem_map.mp h
  have hfind : (grouped.entries.find? fun other => other.1 = entry.1) = some entry := by
    cases hfound : grouped.entries.find? fun other => other.1 = entry.1 with
    | none =>
      have := List.find?_eq_none.mp hfound entry hentry
      simp at this
    | some other =>
      have hname : other.1 = entry.1 := by simpa using List.find?_some hfound
      rw [grouped.entry_unique (List.mem_of_find?_eq_some hfound) hentry hname]
  have hscores : scoresOf grouped (profileStats entry).profile =
      (validRuns entry.2).map (·.diagnosticRawScoreTotal) := by
    show scoresOf grouped entry.1 = _
    simp [scoresOf, hfind]
  rw [hscores, List.length_map]
  exact ⟨rfl, rfl⟩

theorem bestValidNonBestStat_spec {profile : String}
    (h : bestValidNonBestStat summary profile = some stat) :
    stat ∈ summary.profileStats ∧ stat.profile ≠ profile := by
  have hmem := List.argmin_mem h
  rw [List.mem_filter, decide_eq_true_eq] at hmem
  exact ⟨hmem.1, hmem.2.1⟩

variable {baseline : Option String}

/-- Whatever the comparison is with, it is another profile. -/
theorem chooseComparisonStat_spec {profile : String}
    (h : chooseComparisonStat summary baseline profile = some stat) :
    stat ∈ summary.profileStats ∧ stat.profile ≠ profile := by
  cases baseline with
  | none => exact bestValidNonBestStat_spec h
  | some baseline =>
    simp only [chooseComparisonStat] at h
    by_cases hsame : baseline ≠ profile
    · rw [if_pos hsame] at h
      cases hstat : validStat summary baseline with
      | none =>
        rw [hstat] at h
        exact bestValidNonBestStat_spec h
      | some found =>
        rw [hstat] at h
        cases h
        have hname := List.find?_some hstat
        rw [decide_eq_true_eq] at hname
        exact ⟨List.mem_of_find?_eq_some hstat, hname.1 ▸ hsame⟩
    · rw [if_neg hsame] at h
      exact bestValidNonBestStat_spec h

/-- A metric that does not block has three samples on either side and a lower tuned median. -/
theorem compareLowerIsBetterMetric_open {baseline tuned : List Nat} {excludesZero : Bool}
    (h : (compareLowerIsBetterMetric baseline tuned excludesZero).blocks = false) :
    3 ≤ baseline.length ∧ 3 ≤ tuned.length ∧ medianU64 tuned < medianU64 baseline := by
  unfold FormalMetricComparison.blocks at h
  rw [Bool.or_eq_false_iff, Bool.or_eq_false_iff] at h
  obtain ⟨⟨hshort, _⟩, hdelta⟩ := h
  rw [Bool.not_eq_false'] at hshort
  have henough : (decide (3 ≤ baseline.length) && decide (3 ≤ tuned.length)) = true := hshort
  have hlower : ¬ ((medianU64 baseline : Int) - medianU64 tuned ≤ 0) := of_decide_eq_false hdelta
  rw [Bool.and_eq_true, decide_eq_true_eq, decide_eq_true_eq] at henough
  omega

theorem compared_of_open {best other : TuneProfileStats} {excludesZero : Bool}
    (hstats : summary.profileStats = profileStatsFromGrouped grouped)
    (hbest : (if summary.bestProfile = "" then none
      else validStat summary summary.bestProfile) = some best)
    (hother : chooseComparisonStat summary baseline summary.bestProfile = some other)
    (hblocks : (compareLowerIsBetterMetric (scoresOf grouped other.profile)
      (scoresOf grouped summary.bestProfile) excludesZero).blocks = false) :
    Compared summary other := by
  obtain ⟨hmem, hne⟩ := chooseComparisonStat_spec hother
  by_cases hempty : summary.bestProfile = ""
  · simp [hempty] at hbest
  rw [if_neg hempty] at hbest
  have hname := List.find?_some hbest
  rw [decide_eq_true_eq] at hname
  have hbestMem : best ∈ summary.profileStats := List.mem_of_find?_eq_some hbest
  obtain ⟨hbestRuns, hbestMedian⟩ := scoresOf_stat (hstats ▸ hbestMem)
  obtain ⟨hotherRuns, hotherMedian⟩ := scoresOf_stat (hstats ▸ hmem)
  rw [← hname.1] at hblocks
  obtain ⟨hthree, hbestThree, hlower⟩ := compareLowerIsBetterMetric_open hblocks
  exact ⟨hmem, hne, hotherRuns ▸ hthree, best, hbestMem, hname.1, hbestRuns ▸ hbestThree,
    hbestMedian ▸ hotherMedian ▸ hlower⟩

/-- A recommendation has a strong confidence, and a comparison that does not block it. -/
theorem buildTuneRecommendation_recommended {excludesZero : List Nat → List Nat → Bool}
    (hstats : summary.profileStats = profileStatsFromGrouped grouped)
    (h : (buildTuneRecommendation grouped summary baseline excludesZero).verdict = .recommended) :
    summary.rankingConfidence.Strong ∧
      ∃ other, (buildTuneRecommendation grouped summary baseline excludesZero).comparison =
        some other ∧ Compared summary other := by
  unfold buildTuneRecommendation at h ⊢
  simp only at h ⊢
  generalize summary.comparabilityWarnings ++ _ = warnings at h ⊢
  cases hbest : (if summary.bestProfile = "" then none
      else validStat summary summary.bestProfile) with
  | none =>
    rw [hbest] at h
    cases hc : rankingConfidenceAfter summary.rankingConfidence warnings <;> simp [hc] at h
  | some best =>
    rw [hbest] at h
    cases hc : rankingConfidenceAfter summary.rankingConfidence warnings with
    | unstable => simp [hc] at h
    | low => simp [hc] at h
    | high | medium =>
      have hstrong : (rankingConfidenceAfter summary.rankingConfidence warnings).Strong := by
        rw [hc]
        simp [RankingConfidence.Strong]
      have hsummary := (rankingConfidenceAfter_strong hstrong).2.1
      rw [hc] at h
      cases hother : chooseComparisonStat summary baseline summary.bestProfile with
      | none => simp [hother] at h
      | some other =>
        simp only [hother] at h
        cases hblocks : (compareLowerIsBetterMetric (scoresOf grouped other.profile)
            (scoresOf grouped summary.bestProfile) (excludesZero (scoresOf grouped other.profile)
              (scoresOf grouped summary.bestProfile))).blocks with
        | true => simp [hblocks] at h
        | false =>
          exact ⟨hsummary, other, rfl, compared_of_open hstats hbest hother hblocks⟩

/-! ## Soundness -/

/-- **What a strong confidence and a recommendation stand on**, for every set of grouped runs,
every order of the candidates and whatever the bootstrap says. -/
theorem tune_evidence (grouped : Grouped) (order : List (List String)) (runs : Nat)
    (baseline : Option String) (excludesZero : List Nat → List Nat → Bool) (summary : TuneSummary)
    (h : tuneSummary grouped order runs = .ok summary) :
    (summary.rankingConfidence.Strong → Evidence summary) ∧
    ((buildTuneRecommendation grouped summary baseline excludesZero).verdict = .recommended →
      Evidence summary ∧
        ∃ other, (buildTuneRecommendation grouped summary baseline excludesZero).comparison =
          some other ∧ Compared summary other) := by
  refine ⟨evidence_of_strong h, fun hverdict => ?_⟩
  have hstats : summary.profileStats = profileStatsFromGrouped grouped := by
    rw [(tuneSummary_ok h).2]
    rfl
  obtain ⟨hstrong, hother⟩ := buildTuneRecommendation_recommended hstats hverdict
  exact ⟨evidence_of_strong h hstrong, hother⟩

/-- A summary that passes a test, from one evaluation. -/
theorem exists_of_any_toOption {ε α : Type} (x : Except ε α) (test : α → Bool)
    (h : x.toOption.any test = true) : ∃ a, x = .ok a ∧ test a = true := by
  cases x with
  | error e => cases h
  | ok a => exact ⟨a, rfl, h⟩

/-- A run that differs from others by its score and its validity only. -/
def sampleRun (score : Nat) (valid : Bool) : TuneCandidateSummary where
  appliedTasks := 4
  scoredSamples := 100
  diagnosticRawScoreTotal := score
  over1ms := 0
  over2ms := 0
  over5ms := 0
  maxLatencyNs := 1000
  frameCount := 600
  frameMaxUs := 20000
  frameP99Us := 17000
  frameOver16ms := 3
  frameOver33ms := 0
  frameOver50ms := 0
  coverage := ⟨8, 4, 4, 4, 0, []⟩
  valid := valid

/-- Two profiles, measured in alternating order. -/
def sampleGrouped (tuned baseline : List TuneCandidateSummary) : Grouped :=
  ⟨[("fast", tuned), ("plain", baseline)], by
    show ["fast", "plain"].Pairwise (· < ·)
    decide⟩

def alternatingOrder : List (List String) :=
  [["fast", "plain"], ["plain", "fast"], ["fast", "plain"]]

/-- Three runs at 90 against three at 120. -/
def clearGrouped : Grouped :=
  sampleGrouped [sampleRun 90 true, sampleRun 90 true, sampleRun 90 true]
    [sampleRun 120 true, sampleRun 120 true, sampleRun 120 true]

/-- A clear winner is recommended, on the evidence above. -/
theorem clearGrouped_recommended :
    ∃ summary, tuneSummary clearGrouped alternatingOrder 3 = .ok summary ∧
      (buildTuneRecommendation clearGrouped summary (some "plain") fun _ _ => true).verdict =
        .recommended ∧ Evidence summary := by
  obtain ⟨summary, hsummary, htest⟩ := exists_of_any_toOption
    (tuneSummary clearGrouped alternatingOrder 3) (fun summary => decide
      ((buildTuneRecommendation clearGrouped summary (some "plain") fun _ _ => true).verdict =
        .recommended)) (by decide +kernel)
  have hverdict := of_decide_eq_true htest
  exact ⟨summary, hsummary, hverdict,
    ((tune_evidence clearGrouped alternatingOrder 3 (some "plain") (fun _ _ => true) summary
      hsummary).2 hverdict).1⟩

/-- The compared profile has one valid run left of three. -/
def thinGrouped : Grouped :=
  sampleGrouped [sampleRun 90 true, sampleRun 90 true, sampleRun 90 true]
    [sampleRun 120 true, sampleRun 0 false, sampleRun 0 false]

/-- A high confidence against a single valid run: the minimum of three on either side is asked of
the verdict, not of the confidence. -/
theorem thinGrouped_high :
    ∃ summary, tuneSummary thinGrouped alternatingOrder 3 = .ok summary ∧
      summary.rankingConfidence = .high ∧ summary.bestProfile = "fast" ∧
      ∃ other ∈ summary.profileStats, other.profile = "plain" ∧ other.validRuns = 1 := by
  obtain ⟨summary, hsummary, htest⟩ := exists_of_any_toOption
    (tuneSummary thinGrouped alternatingOrder 3) (fun summary => decide
      (summary.rankingConfidence = .high ∧ summary.bestProfile = "fast" ∧
        ∃ other ∈ summary.profileStats, other.profile = "plain" ∧ other.validRuns = 1))
    (by decide +kernel)
  exact ⟨summary, hsummary, of_decide_eq_true htest⟩

end Stutter.Tune

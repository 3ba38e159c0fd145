import Mathlib.Algebra.BigOperators.Group.List.Basic
import Mathlib.Data.List.Lex
import Mathlib.Data.List.MinMax
import Mathlib.Data.List.Sort
import Mathlib.Data.Rat.Defs
import StutterProof.ActiveConfig

/-! # Ranking the tuned profiles

A tuning run measures every profile several times.  The profile with the fewest invalid runs and,
among those, the lowest median score is selected; how far its median is from the lowest other one
decides the confidence.  Scores are whole numbers and everything computed from them is exact; a
frame time is given by the microseconds it is ranked by. -/
namespace Stutter.Tune

open ActiveConfig (TaskClass)

/-! ## The measured runs -/

structure TaskIdentity where
  taskClass : TaskClass
  processComm : String
  comm : String
  processStarttimeTicks : Option Nat
  taskStarttimeTicks : Option Nat
  exeDev : Option Nat
  exeIno : Option Nat
  deriving DecidableEq

/-- What a run covered. -/
structure TuneCoverageMetrics where
  uniqueTrackedTasks : Nat
  uniqueScoredTasks : Nat
  activeTargetMin : Nat
  activeTargetMax : Nat
  dropCounterTotal : Nat
  scoredIdentityCounts : List (TaskIdentity × Nat)

/-- One measured run of a profile. -/
structure TuneCandidateSummary where
  appliedTasks : Nat
  scoredSamples : Nat
  diagnosticRawScoreTotal : Nat
  over1ms : Nat
  over2ms : Nat
  over5ms : Nat
  maxLatencyNs : Nat
  frameCount : Nat
  frameMaxUs : Nat
  frameP99Us : Nat
  frameOver16ms : Nat
  frameOver33ms : Nat
  frameOver50ms : Nat
  coverage : TuneCoverageMetrics
  valid : Bool

/-- The runs by profile, the profiles in the order of their names. -/
structure Grouped where
  entries : List (String × List TuneCandidateSummary)
  sorted : (entries.map (·.1)).Pairwise (· < ·)

def validRuns (runs : List TuneCandidateSummary) : List TuneCandidateSummary :=
  runs.filter (·.valid)

/-! ## Statistics over exact numbers -/

/-- `median_u64`: the upper of the two middle values, 0 of nothing. -/
def medianU64 (values : List Nat) : Nat :=
  (values.insertionSort (· ≤ ·)).getD (values.length / 2) 0

/-- `worst_u64`. -/
def worstU64 (values : List Nat) : Nat := values.foldr max 0

/-- `percentile_nearest_rank_u64`, of a whole percentage. -/
def percentileNearestRankU64 (values : List Nat) (percentile : Nat) : Nat :=
  let rank := (percentile * values.length + 99) / 100
  (values.insertionSort (· ≤ ·)).getD (min (rank - 1) (values.length - 1)) 0

/-- `iqr_u64`. -/
def iqrU64 (values : List Nat) : Nat :=
  percentileNearestRankU64 values 75 - percentileNearestRankU64 values 25

def meanU64 (values : List Nat) : ℚ :=
  if values.isEmpty then 0 else (values.sum : ℚ) / values.length

/-- The square of `sample_stddev_u64`. -/
def sampleVarianceU64 (values : List Nat) : ℚ :=
  if values.length < 2 then 0
  else (values.map fun value => ((value : ℚ) - meanU64 values) ^ 2).sum / (values.length - 1)

/-- The square of `pooled_stddev`. -/
def pooledVariance (left : ℚ) (leftN : Nat) (right : ℚ) (rightN : Nat) : ℚ :=
  if leftN < 2 ∨ rightN < 2 then 0
  else ((leftN - 1) * left + (rightN - 1) * right) / (leftN + rightN - 2)

/-- `u64::abs_diff`. -/
def absDiff (a b : Nat) : Nat := max a b - min a b

/-- `normalized_effect_size` is there and below one half, told by the squares. -/
def smallEffect (delta : Nat) (variance : ℚ) : Prop :=
  (1 / 2 ^ 104 : ℚ) < variance ∧ ((2 * min delta (2 ^ 63 - 1) : Nat) : ℚ) ^ 2 < variance

instance (delta : Nat) (variance : ℚ) : Decidable (smallEffect delta variance) :=
  inferInstanceAs (Decidable (_ ∧ _))

/-! ## Selecting a profile -/

/-- `aggregate_profile_rank`: compared from the left. -/
def aggregateProfileRank (runs : List TuneCandidateSummary) : List Nat :=
  let valid := validRuns runs
  let median := fun field : TuneCandidateSummary → Nat => medianU64 (valid.map field)
  let worst := fun field : TuneCandidateSummary → Nat => worstU64 (valid.map field)
  [runs.countP (!·.valid), median (·.diagnosticRawScoreTotal), median (·.over5ms),
    median (·.over2ms), median (·.over1ms), median (·.frameOver50ms), median (·.frameOver33ms),
    median (·.frameOver16ms), worst (·.diagnosticRawScoreTotal), worst (·.frameP99Us),
    worst (·.frameMaxUs), worst (·.maxLatencyNs)]

/-- `select_best_profile`: the first of the best ranked. -/
def selectBestProfile (grouped : Grouped) : String :=
  let candidates := grouped.entries.filter fun entry => entry.2.any (·.valid)
  ((candidates.argmin fun entry => aggregateProfileRank entry.2).map (·.1)).getD ""

/-- `TuneProfileStats`, as far as the ranking reads it; `variance` is the square of the standard
deviation. -/
structure TuneProfileStats where
  profile : String
  validRuns : Nat
  invalidRuns : Nat
  median : Nat
  iqr : Nat
  variance : ℚ

def profileStats (entry : String × List TuneCandidateSummary) : TuneProfileStats :=
  let scores := (validRuns entry.2).map (·.diagnosticRawScoreTotal)
  { profile := entry.1
    validRuns := (validRuns entry.2).length
    invalidRuns := entry.2.length - (validRuns entry.2).length
    median := medianU64 scores
    iqr := iqrU64 scores
    variance := sampleVarianceU64 scores }

/-- `profile_stats_from_grouped`. -/
def profileStatsFromGrouped (grouped : Grouped) : List TuneProfileStats :=
  grouped.entries.map profileStats

/-! ## Confidence -/

/-- How sure the ranking is. -/
inductive RankingConfidence where
  | high | medium | low | unstable
  deriving DecidableEq

/-- Why the ranking is less sure. -/
inductive RankingNote where
  | fewerThanTwoProfiles
  | bestWithoutValidRuns
  | bestFewerThanTwoValidRuns
  | noSecondProfile
  | smallEffectSize (diff : Nat)
  | closeRelativeToVariance (diff maxIqr : Nat)
  | fewerThanThreeRuns
  | bestHasInvalidRuns
  | withinFivePercent (diff : Nat)
  | bestIqrNonZero
  | orderNotCounterbalanced

/-- The last part of `assess_ranking_confidence`: the selected profile against the runner-up. -/
def gradeAgainst (best second : TuneProfileStats) (runs : Nat) :
    RankingConfidence × List RankingNote :=
  let diff := absDiff second.median best.median
  let variance := pooledVariance best.variance best.validRuns second.variance second.validRuns
  let maxIqr := max best.iqr second.iqr
  if smallEffect diff variance then (.unstable, [.smallEffectSize diff])
  else if diff ≤ maxIqr ∧ 0 < maxIqr then (.unstable, [.closeRelativeToVariance diff maxIqr])
  else
    let closeToSecond := diff ≤ second.median / 20
    let notes := (if runs < 3 then [.fewerThanThreeRuns] else []) ++
      (if 0 < best.invalidRuns then [.bestHasInvalidRuns] else []) ++
      (if closeToSecond then [.withinFivePercent diff] else []) ++
      (if 0 < best.iqr then [.bestIqrNonZero] else [])
    if runs < 3 ∨ 0 < best.invalidRuns ∨ closeToSecond then (.low, notes)
    else if 0 < best.iqr ∨ 0 < second.iqr ∨ notes ≠ [] then (.medium, notes)
    else (.high, notes)

/-- The stats with valid runs, the lowest median first. -/
def rankedStats (stats : List TuneProfileStats) : List TuneProfileStats :=
  (stats.filter fun stat => 0 < stat.validRuns).insertionSort fun a b => a.median ≤ b.median

/-- `assess_ranking_confidence`. -/
def assessRankingConfidence (stats : List TuneProfileStats) (bestProfile : String) (runs : Nat) :
    RankingConfidence × List RankingNote :=
  let ranked := rankedStats stats
  if ranked.length < 2 then (.unstable, [.fewerThanTwoProfiles])
  else
    match ranked.find? fun stat => stat.profile = bestProfile with
    | none => (.unstable, [.bestWithoutValidRuns])
    | some best =>
      if 3 ≤ runs ∧ best.validRuns < 2 then (.unstable, [.bestFewerThanTwoValidRuns])
      else
        match ranked.find? fun stat => stat.profile ≠ best.profile with
        | none => (.unstable, [.noSecondProfile])
        | some second => gradeAgainst best second runs

/-! ## What a grade stands on -/

/-- High or medium. -/
def RankingConfidence.Strong (confidence : RankingConfidence) : Prop :=
  confidence = .high ∨ confidence = .medium

instance (confidence : RankingConfidence) : Decidable confidence.Strong :=
  inferInstanceAs (Decidable (_ ∨ _))

/-- The medians differ by more than five percent of the runner-up's and by more than either
interquartile range. -/
def Separated (best second : TuneProfileStats) : Prop :=
  second.median < 20 * absDiff second.median best.median ∧
    best.iqr < absDiff second.median best.median ∧ second.iqr < absDiff second.median best.median

open RankingConfidence

theorem gradeAgainst_strong {best second : TuneProfileStats} {runs : Nat}
    (h : (gradeAgainst best second runs).1.Strong) :
    3 ≤ runs ∧ best.invalidRuns = 0 ∧ Separated best second := by
  unfold Strong gradeAgainst at h
  by_cases hsmall : smallEffect (absDiff second.median best.median)
      (pooledVariance best.variance best.validRuns second.variance second.validRuns)
  · simp [hsmall] at h
  by_cases hnear : absDiff second.median best.median ≤ max best.iqr second.iqr ∧
      0 < max best.iqr second.iqr
  · simp [hsmall, hnear] at h
  by_cases hlow : runs < 3 ∨ 0 < best.invalidRuns ∨
      absDiff second.median best.median ≤ second.median / 20
  · simp only [hsmall, hnear, hlow, if_true, if_false] at h
    simp at h
  · unfold Separated
    omega

variable {stats : List TuneProfileStats}

theorem mem_rankedStats {stat : TuneProfileStats} :
    stat ∈ rankedStats stats ↔ stat ∈ stats ∧ 0 < stat.validRuns := by
  unfold rankedStats
  rw [List.mem_insertionSort, List.mem_filter, decide_eq_true_eq]

theorem rankedStats_sorted (stats : List TuneProfileStats) :
    (rankedStats stats).Pairwise fun a b => a.median ≤ b.median := by
  have : Std.Total fun a b : TuneProfileStats => a.median ≤ b.median :=
    ⟨fun a b => Nat.le_total a.median b.median⟩
  have : IsTrans TuneProfileStats fun a b => a.median ≤ b.median :=
    ⟨fun a b c => Nat.le_trans⟩
  exact List.pairwise_insertionSort _ _

/-- The first of the ranked stats that passes a test has the lowest median of those that do. -/
theorem rankedStats_find {test : TuneProfileStats → Bool}
    {stat other : TuneProfileStats} (h : (rankedStats stats).find? test = some stat)
    (hother : other ∈ stats) (hvalid : 0 < other.validRuns) (htest : test other = true) :
    stat.median ≤ other.median := by
  obtain ⟨_, before, after, hsplit, hbefore⟩ := List.find?_eq_some_iff_append.mp h
  have hmem : other ∈ before ++ stat :: after := hsplit ▸ mem_rankedStats.mpr ⟨hother, hvalid⟩
  have hsorted := rankedStats_sorted stats
  rw [hsplit, List.pairwise_append] at hsorted
  rcases List.mem_append.mp hmem with hin | hin
  · have := hbefore other hin
    simp [htest] at this
  · rcases List.mem_cons.mp hin with rfl | hin
    · exact Nat.le_refl _
    · exact (List.pairwise_cons.mp hsorted.2.1).1 other hin

/-- What a strong grade stands on: the selected profile has no invalid run, and the runner-up is
the lowest of the others and far away. -/
structure Graded (stats : List TuneProfileStats) (runs : Nat) (best second : TuneProfileStats) :
    Prop where
  enough : 3 ≤ runs
  best_mem : best ∈ stats
  best_valid : 2 ≤ best.validRuns
  best_clean : best.invalidRuns = 0
  second_mem : second ∈ stats
  second_valid : 0 < second.validRuns
  second_other : second.profile ≠ best.profile
  second_lowest : ∀ other ∈ stats, 0 < other.validRuns → other.profile ≠ best.profile →
    second.median ≤ other.median
  separated : Separated best second

theorem assessRankingConfidence_strong {bestProfile : String}
    {runs : Nat} (h : (assessRankingConfidence stats bestProfile runs).1.Strong) :
    ∃ best second, best.profile = bestProfile ∧ Graded stats runs best second := by
  unfold assessRankingConfidence at h
  by_cases hfew : (rankedStats stats).length < 2
  · simp [hfew, Strong] at h
  simp only [hfew, if_false] at h
  cases hbest : (rankedStats stats).find? fun stat => stat.profile = bestProfile with
  | none => simp [hbest, Strong] at h
  | some best =>
    simp only [hbest] at h
    by_cases htwo : 3 ≤ runs ∧ best.validRuns < 2
    · simp [htwo, Strong] at h
    simp only [htwo, if_false] at h
    cases hsecond : (rankedStats stats).find? fun stat => stat.profile ≠ best.profile with
    | none =>
      simp only [hsecond] at h
      simp [Strong] at h
    | some second =>
      simp only [hsecond] at h
      obtain ⟨hruns, hclean, hseparated⟩ := gradeAgainst_strong h
      have hprofile : best.profile = bestProfile := by simpa using List.find?_some hbest
      have hother : second.profile ≠ best.profile := by simpa using List.find?_some hsecond
      obtain ⟨hbestMem, _⟩ := mem_rankedStats.mp (List.mem_of_find?_eq_some hbest)
      obtain ⟨hsecondMem, hsecondValid⟩ := mem_rankedStats.mp (List.mem_of_find?_eq_some hsecond)
      refine ⟨best, second, hprofile, hruns, hbestMem, by omega, hclean, hsecondMem, hsecondValid,
        hother, fun other hmem hvalid hne => ?_, hseparated⟩
      exact rankedStats_find hsecond hmem hvalid (by simpa using hne)

/-- Where no other profile has a lower median, the selected one is strictly better than every
other, by the margins it was separated from the runner-up by. -/
theorem Graded.strictly_better {runs : Nat}
    {best second other : TuneProfileStats} (h : Graded stats runs best second)
    (hlowest : best.median ≤ second.median) (hmem : other ∈ stats) (hvalid : 0 < other.validRuns)
    (hne : other.profile ≠ best.profile) :
    best.median < other.median ∧ other.median < 20 * (other.median - best.median) ∧
      best.iqr < other.median - best.median ∧ second.iqr < other.median - best.median := by
  have hle := h.second_lowest other hmem hvalid hne
  have hseparated := h.separated
  unfold Separated absDiff at hseparated
  omega

/-! ## What the selection guarantees -/

theorem selectBestProfile_spec {grouped : Grouped} {entry : String × List TuneCandidateSummary}
    (hentry : entry ∈ grouped.entries) (hvalid : entry.2.any (·.valid) = true) :
    ∃ best ∈ grouped.entries, best.1 = selectBestProfile grouped ∧
      ∀ other ∈ grouped.entries, other.2.any (·.valid) = true →
        aggregateProfileRank best.2 ≤ aggregateProfileRank other.2 := by
  have hmem : entry ∈ grouped.entries.filter fun entry => entry.2.any (·.valid) :=
    List.mem_filter.mpr ⟨hentry, hvalid⟩
  cases hargmin : (grouped.entries.filter fun entry => entry.2.any (·.valid)).argmin
      fun entry => aggregateProfileRank entry.2 with
  | none =>
    rw [List.argmin_eq_none] at hargmin
    rw [hargmin] at hmem
    cases hmem
  | some best =>
    refine ⟨best, (List.mem_filter.mp (List.argmin_mem hargmin)).1, ?_, fun other hother hv => ?_⟩
    · simp [selectBestProfile, hargmin]
    · have hin : other ∈ grouped.entries.filter fun entry => entry.2.any (·.valid) :=
        List.mem_filter.mpr ⟨hother, hv⟩
      have hnot := List.not_lt_of_mem_argmin hin hargmin
      exact not_lt.mp hnot

theorem countP_invalid (runs : List TuneCandidateSummary) :
    runs.countP (!·.valid) = runs.length - (validRuns runs).length := by
  have hsplit : runs.countP (!·.valid) + (validRuns runs).length = runs.length := by
    induction runs with
    | nil => rfl
    | cons run rest ih =>
      unfold validRuns at ih ⊢
      cases hvalid : run.valid with
      | false =>
        simp only [List.countP_cons, List.filter_cons, hvalid, List.length_cons]
        simp
        omega
      | true =>
        simp only [List.countP_cons, List.filter_cons, hvalid, List.length_cons]
        simp
        omega
  omega

/-- Among profiles without an invalid run the better ranked has the lower median. -/
theorem median_le_of_rank_le {entry other : String × List TuneCandidateSummary}
    (h : aggregateProfileRank entry.2 ≤ aggregateProfileRank other.2)
    (hother : (profileStats other).invalidRuns = 0) :
    (profileStats entry).median ≤ (profileStats other).median := by
  have hclean : other.2.countP (!·.valid) = 0 := (countP_invalid other.2).trans hother
  by_contra hlower
  apply not_lt.mpr h
  -- the other rank is lower at the invalid runs, or equal there and lower at the median
  unfold aggregateProfileRank
  by_cases hinvalid : entry.2.countP (!·.valid) = 0
  · rw [hclean, hinvalid]
    exact List.Lex.cons (List.Lex.rel (Nat.lt_of_not_le hlower))
  · rw [hclean]
    exact List.Lex.rel (Nat.pos_of_ne_zero hinvalid)

theorem any_valid_iff (runs : List TuneCandidateSummary) :
    runs.any (·.valid) = true ↔ 0 < (validRuns runs).length := by
  unfold validRuns
  rw [List.length_filter_pos_iff, List.any_eq_true]

/-- Names are unique. -/
theorem Grouped.entry_unique (grouped : Grouped) {entry other : String × List TuneCandidateSummary}
    (hentry : entry ∈ grouped.entries) (hother : other ∈ grouped.entries)
    (hname : entry.1 = other.1) : entry = other := by
  have hnodup : (grouped.entries.map (·.1)).Nodup :=
    grouped.sorted.imp fun hlt => by
      rintro rfl
      exact String.lt_irrefl _ hlt
  exact List.inj_on_of_nodup_map hnodup hentry hother hname

/-- **Where no profile with valid runs has an invalid one, the selected profile has the lowest
median.** -/
theorem selectBestProfile_lowest {grouped : Grouped} {best other : TuneProfileStats}
    (hbest : best ∈ profileStatsFromGrouped grouped)
    (hselected : best.profile = selectBestProfile grouped)
    (hother : other ∈ profileStatsFromGrouped grouped) (hvalid : 0 < other.validRuns)
    (hclean : other.invalidRuns = 0) : best.median ≤ other.median := by
  obtain ⟨entry, hentry, rfl⟩ := List.mem_map.mp hbest
  obtain ⟨other, hotherMem, rfl⟩ := List.mem_map.mp hother
  have hany : other.2.any (·.valid) = true := (any_valid_iff other.2).mpr hvalid
  obtain ⟨first, hfirst, hname, hrank⟩ := selectBestProfile_spec hotherMem hany
  -- the stats found by name are those of the selected entry
  have hsame : first = entry := grouped.entry_unique hfirst hentry (hname.trans hselected.symm)
  subst hsame
  exact median_le_of_rank_le (hrank other hotherMem hany) hclean

end Stutter.Tune

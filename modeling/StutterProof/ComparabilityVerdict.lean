import Mathlib.Algebra.BigOperators.Group.Finset.Basic
import Mathlib.Data.Multiset.ZeroCons
import StutterProof.TuneRecommendation

/-! # What the comparability check depends on

The check of the grouped runs compares medians over the profiles, and the scored identities of one
representative of each profile against those of the first.  The medians are the same whatever the
profiles are called and in whatever order the profiles and the runs stand.  The identities are not:
the representative is a profile's first run, the one all are compared with is that of the first
name, and that two profiles are each close enough to a third does not make them close to each
other. -/
namespace Stutter.Tune

variable {values others : List Nat}

/-! ## Lists read in any order -/

theorem medianU64_perm (h : values.Perm others) : medianU64 values = medianU64 others := by
  have hsorted : values.insertionSort (· ≤ ·) = others.insertionSort (· ≤ ·) := by
    have hperm := ((List.perm_insertionSort (· ≤ ·) values).trans h).trans
      (List.perm_insertionSort (· ≤ ·) others).symm
    exact hperm.eq_of_pairwise (fun a b _ _ => le_antisymm) (List.pairwise_insertionSort _ _)
      (List.pairwise_insertionSort _ _)
  rw [medianU64, medianU64, hsorted, h.length_eq]

theorem minOrZero_perm (h : values.Perm others) : minOrZero values = minOrZero others := by
  have hmin : values.min? = others.min? := by
    ext least
    simp only [List.min?_eq_some_iff, h.mem_iff]
  rw [minOrZero, minOrZero, hmin]

theorem maxOrZero_perm (h : values.Perm others) : maxOrZero values = maxOrZero others := by
  have hmax : values.max? = others.max? := by
    ext greatest
    simp only [List.max?_eq_some_iff, h.mem_iff]
  rw [maxOrZero, maxOrZero, hmax]

/-! ## Rearranged families -/

/-- The runs of the profiles, without the names and without an order of the profiles. -/
def Grouped.profiles (grouped : Grouped) : Multiset (List TuneCandidateSummary) :=
  (grouped.entries.map (·.2) : List (List TuneCandidateSummary))

/-- The profiles are renamed and reordered, and the runs of each are permuted. -/
def Rearranged (grouped other : Grouped) : Prop :=
  Multiset.Rel (fun runs runs' => runs.Perm runs') grouped.profiles other.profiles

theorem map_eq_of_rel {α β : Type} {r : α → α → Prop} {s t : Multiset α} (h : Multiset.Rel r s t)
    {f : α → β} (hf : ∀ a b, r a b → f a = f b) : s.map f = t.map f :=
  Multiset.rel_eq.mp (Multiset.rel_map.mpr (h.mono fun a _ b _ => hf a b))

theorem Rearranged.profileMedians {grouped other : Grouped} (h : Rearranged grouped other)
    (field : TuneCandidateSummary → Nat) :
    (profileMedians grouped field).Perm (Tune.profileMedians other field) := by
  have hmap := map_eq_of_rel h fun runs runs' hperm => medianU64_perm (hperm.map field)
  rw [Grouped.profiles, Grouped.profiles, Multiset.map_coe, Multiset.map_coe, List.map_map,
    List.map_map] at hmap
  exact Multiset.coe_eq_coe.mp hmap

/-! ## The overlap of two profiles -/

theorem identityCount_eq_zero {counts : List (TaskIdentity × Nat)} {identity : TaskIdentity}
    (h : identity ∉ counts.map (·.1)) : identityCount counts identity = 0 := by
  have hnone : counts.filter (fun item => item.1 = identity) = [] := by
    refine List.filter_eq_nil_iff.mpr fun item hitem heq => h ?_
    rw [← of_decide_eq_true heq]
    exact List.mem_map_of_mem hitem
  rw [identityCount, hnone]
  rfl

variable {combine : Nat → Nat → Nat}

/-- The overlap is a sum over any set that has the identities of both sides. -/
theorem scoredIdentityOverlap_eq_sum {left right : List (TaskIdentity × Nat)}
    (hzero : combine 0 0 = 0) {identities : Finset TaskIdentity}
    (hsub : ∀ identity ∈ (left ++ right).map (·.1), identity ∈ identities) :
    scoredIdentityOverlap left right combine =
      ∑ identity ∈ identities, combine (identityCount left identity)
        (identityCount right identity) := by
  rw [scoredIdentityOverlap, ← List.sum_toFinset _ (List.nodup_dedup _)]
  refine Finset.sum_subset (fun identity hmem => ?_) fun identity _ hout => ?_
  · rw [List.mem_toFinset, List.mem_dedup] at hmem
    exact hsub identity hmem
  · -- an identity of neither side counts nothing
    rw [List.mem_toFinset, List.mem_dedup, List.map_append, List.mem_append, not_or] at hout
    rw [identityCount_eq_zero hout.1, identityCount_eq_zero hout.2, hzero]

theorem scoredIdentityOverlap_congr {left right left' right' : List (TaskIdentity × Nat)}
    (hzero : combine 0 0 = 0) (hleft : identityCount left = identityCount left')
    (hright : identityCount right = identityCount right') :
    scoredIdentityOverlap left right combine = scoredIdentityOverlap left' right' combine := by
  have hall : ∀ identity, identity ∈ (left ++ right).map (·.1) ∨
      identity ∈ (left' ++ right').map (·.1) →
      identity ∈ (((left ++ right).map (·.1)) ++ (left' ++ right').map (·.1)).toFinset := by
    intro identity hmem
    rw [List.mem_toFinset, List.mem_append]
    exact hmem
  rw [scoredIdentityOverlap_eq_sum hzero fun identity hmem => hall identity (.inl hmem),
    scoredIdentityOverlap_eq_sum hzero fun identity hmem => hall identity (.inr hmem), hleft,
    hright]

theorem scoredIdentityOverlap_comm (left right : List (TaskIdentity × Nat))
    (hzero : combine 0 0 = 0) (hcomm : ∀ a b, combine a b = combine b a) :
    scoredIdentityOverlap left right combine = scoredIdentityOverlap right left combine := by
  have hall : ∀ identity, identity ∈ (left ++ right).map (·.1) ∨
      identity ∈ (right ++ left).map (·.1) →
      identity ∈ ((left ++ right).map (·.1)).toFinset := by
    intro identity hmem
    rw [List.mem_toFinset]
    simp only [List.map_append, List.mem_append] at hmem ⊢
    exact hmem.elim id Or.symm
  rw [scoredIdentityOverlap_eq_sum hzero fun identity hmem => hall identity (.inl hmem),
    scoredIdentityOverlap_eq_sum hzero fun identity hmem => hall identity (.inr hmem)]
  exact Finset.sum_congr rfl fun identity _ => hcomm _ _

/-- The scored identities of a run, however its counts are listed. -/
def scoredIdentities (run : TuneCandidateSummary) : TaskIdentity → Nat :=
  identityCount run.coverage.scoredIdentityCounts

/-- Three quarters of the identities of two runs are common to them. -/
def Overlaps (run other : TuneCandidateSummary) : Prop :=
  let left := run.coverage.scoredIdentityCounts
  let right := other.coverage.scoredIdentityCounts
  ¬ (0 < scoredIdentityOverlap left right max ∧
    4 * scoredIdentityOverlap left right min < 3 * scoredIdentityOverlap left right max)

theorem Overlaps.congr {run other run' other' : TuneCandidateSummary}
    (hrun : scoredIdentities run = scoredIdentities run')
    (hother : scoredIdentities other = scoredIdentities other') :
    Overlaps run other ↔ Overlaps run' other' := by
  simp only [Overlaps, scoredIdentityOverlap_congr (Nat.max_self 0) hrun hother,
    scoredIdentityOverlap_congr (Nat.min_self 0) hrun hother]

theorem Overlaps.refl (run : TuneCandidateSummary) : Overlaps run run := by
  have hsame (combine : Nat → Nat → Nat) (hself : ∀ a, combine a a = a) :
      scoredIdentityOverlap run.coverage.scoredIdentityCounts run.coverage.scoredIdentityCounts
        combine =
        scoredIdentityOverlap run.coverage.scoredIdentityCounts run.coverage.scoredIdentityCounts
          max := by
    simp only [scoredIdentityOverlap, hself, Nat.max_self]
  rintro ⟨_, hlow⟩
  rw [hsame min Nat.min_self] at hlow
  omega

theorem Overlaps.symm {run other : TuneCandidateSummary} (h : Overlaps run other) :
    Overlaps other run := by
  dsimp only [Overlaps] at h ⊢
  rwa [scoredIdentityOverlap_comm _ _ (Nat.max_self 0) Nat.max_comm,
    scoredIdentityOverlap_comm _ _ (Nat.min_self 0) Nat.min_comm]

/-! ## The verdict -/

theorem bind_eq_ok_iff {ε : Type} {first rest : Except ε Unit} :
    (first >>= fun _ => rest) = .ok () ↔ first = .ok () ∧ rest = .ok () := by
  constructor
  · intro h
    obtain ⟨_, hfirst, hrest⟩ := Tally.ok_of_bind h
    exact ⟨hfirst, hrest⟩
  · rintro ⟨rfl, rfl⟩
    rfl

theorem forM_eq_ok_iff {α ε : Type} {f : α → Except ε Unit} {items : List α} :
    items.forM f = .ok () ↔ ∀ a ∈ items, f a = .ok () := by
  induction items with
  | nil => exact iff_of_true rfl (by simp)
  | cons a rest ih =>
    rw [List.forall_mem_cons, ← ih]
    exact bind_eq_ok_iff

/-- The first runs of the profiles that have any, in the order of the profiles' names. -/
def Grouped.representatives (grouped : Grouped) : List TuneCandidateSummary :=
  grouped.entries.filterMap fun entry => entry.2.head?

theorem checkScoredIdentities_ok_iff {representatives : List TuneCandidateSummary} :
    checkScoredIdentities representatives = .ok () ↔
      ∀ first ∈ representatives.head?, ∀ run ∈ representatives, Overlaps first run := by
  cases representatives with
  | nil => exact iff_of_true rfl (by simp)
  | cons first others =>
    rw [checkScoredIdentities, forM_eq_ok_iff]
    have hturn (run : TuneCandidateSummary) : (if 0 < scoredIdentityOverlap
        first.coverage.scoredIdentityCounts run.coverage.scoredIdentityCounts max ∧
        4 * scoredIdentityOverlap first.coverage.scoredIdentityCounts
          run.coverage.scoredIdentityCounts min < 3 * scoredIdentityOverlap
          first.coverage.scoredIdentityCounts run.coverage.scoredIdentityCounts max
        then Except.error (NotComparable.identityMismatch
          (scoredIdentityOverlap first.coverage.scoredIdentityCounts
            run.coverage.scoredIdentityCounts min)
          (scoredIdentityOverlap first.coverage.scoredIdentityCounts
            run.coverage.scoredIdentityCounts max))
        else Except.ok ()) = .ok () ↔ Overlaps first run := by
      unfold Overlaps
      split <;> simp_all
    simp only [hturn]
    constructor
    · rintro h _ ⟨⟩ run hrun
      rcases List.mem_cons.mp hrun with rfl | hmem
      · exact Overlaps.refl _
      · exact h run hmem
    · exact fun h run hrun => h first rfl run (List.mem_cons_of_mem _ hrun)

theorem checkTuneCoverageComparability_ok_iff (grouped : Grouped) :
    checkTuneCoverageComparability grouped = .ok () ↔
      (checkTuneMetricRatio "unique tracked tasks"
          (profileMedians grouped (·.coverage.uniqueTrackedTasks)) = .ok () ∧
        checkTuneMetricRatio "unique scored tasks"
          (profileMedians grouped (·.coverage.uniqueScoredTasks)) = .ok ()) ∧
      checkScoredIdentities grouped.representatives = .ok () ∧
      (checkTuneMetricRatio "active target minimum"
          (profileMedians grouped (·.coverage.activeTargetMin)) = .ok () ∧
        checkTuneMetricRatio "active target maximum"
          (profileMedians grouped (·.coverage.activeTargetMax)) = .ok ()) ∧
      checkTuneSampleComparability grouped = .ok () ∧
        checkTuneFrameComparability grouped = .ok () := by
  unfold checkTuneCoverageComparability
  rw [bind_eq_ok_iff, bind_eq_ok_iff, bind_eq_ok_iff, bind_eq_ok_iff, bind_eq_ok_iff,
    bind_eq_ok_iff]
  simp only [Grouped.representatives, and_assoc]

section Rearranged
variable {grouped other : Grouped}

theorem checkTuneMetricRatio_rearranged (h : Rearranged grouped other) (label : String)
    (field : TuneCandidateSummary → Nat) :
    checkTuneMetricRatio label (profileMedians grouped field) =
      checkTuneMetricRatio label (profileMedians other field) := by
  simp only [checkTuneMetricRatio, minOrZero_perm (h.profileMedians field),
    maxOrZero_perm (h.profileMedians field)]

theorem checkTuneSampleComparability_rearranged (h : Rearranged grouped other) :
    checkTuneSampleComparability grouped = checkTuneSampleComparability other := by
  simp only [checkTuneSampleComparability, minOrZero_perm (h.profileMedians _),
    maxOrZero_perm (h.profileMedians _)]

theorem checkTuneFrameComparability_rearranged (h : Rearranged grouped other) :
    checkTuneFrameComparability grouped = checkTuneFrameComparability other := by
  simp only [checkTuneFrameComparability, minOrZero_perm (h.profileMedians _),
    maxOrZero_perm (h.profileMedians _)]

/-- Only the scored identities can tell rearranged families apart. -/
theorem checkTuneCoverageComparability_of_identities (h : Rearranged grouped other)
    (hidentities : checkScoredIdentities grouped.representatives = .ok () ↔
      checkScoredIdentities other.representatives = .ok ()) :
    checkTuneCoverageComparability grouped = .ok () ↔
      checkTuneCoverageComparability other = .ok () := by
  rw [checkTuneCoverageComparability_ok_iff, checkTuneCoverageComparability_ok_iff, hidentities,
    checkTuneMetricRatio_rearranged h, checkTuneMetricRatio_rearranged h,
    checkTuneMetricRatio_rearranged h, checkTuneMetricRatio_rearranged h,
    checkTuneSampleComparability_rearranged h,
    checkTuneFrameComparability_rearranged h]

end Rearranged

/-! ## Families with the same first runs -/

/-- The runs are permuted, and the first of them still scores the same identities. -/
def SameFirst (runs runs' : List TuneCandidateSummary) : Prop :=
  runs.Perm runs' ∧ runs.head?.map scoredIdentities = runs'.head?.map scoredIdentities

section SameFirst
variable {grouped other : Grouped}

theorem representatives_map (h : Multiset.Rel SameFirst grouped.profiles other.profiles) :
    (grouped.representatives.map scoredIdentities).Perm
      (other.representatives.map scoredIdentities) := by
  have hheads := map_eq_of_rel h fun runs runs' hsame => hsame.2
  rw [Grouped.profiles, Grouped.profiles, Multiset.map_coe, Multiset.map_coe,
    Multiset.coe_eq_coe] at hheads
  have hfiltered := hheads.filterMap id
  simpa [Grouped.representatives, List.map_filterMap, List.filterMap_map,
    Function.comp_def] using hfiltered

/-- A run of the one family has a run of the other with the same scored identities. -/
theorem exists_representative (h : Multiset.Rel SameFirst grouped.profiles other.profiles)
    {run : TuneCandidateSummary} (hmem : run ∈ grouped.representatives) :
    ∃ run' ∈ other.representatives, scoredIdentities run' = scoredIdentities run :=
  List.mem_map.mp ((representatives_map h).mem_iff.mp (List.mem_map_of_mem hmem))

/-- With the same profile to compare with, the families agree on it. -/
theorem checkScoredIdentities_of_reference
    (h : Multiset.Rel SameFirst grouped.profiles other.profiles)
    (hfirst : grouped.representatives.head?.map scoredIdentities =
      other.representatives.head?.map scoredIdentities)
    (hok : checkScoredIdentities other.representatives = .ok ()) :
    checkScoredIdentities grouped.representatives = .ok () := by
  rw [checkScoredIdentities_ok_iff] at hok ⊢
  intro first hhead run hrun
  rw [Option.mem_def.mp hhead, Option.map_some] at hfirst
  obtain ⟨first', hhead', hsame⟩ := Option.map_eq_some_iff.mp hfirst.symm
  obtain ⟨run', hrun', hsameRun⟩ := exists_representative h hrun
  exact (Overlaps.congr hsame hsameRun).mp (hok first' hhead' run' hrun')

/-- Of two runs it does not matter which is compared with the other. -/
theorem overlaps_of_two {representatives : List TuneCandidateSummary}
    (hfew : representatives.length ≤ 2) (hok : checkScoredIdentities representatives = .ok ())
    {run run' : TuneCandidateSummary} (hrun : run ∈ representatives)
    (hrun' : run' ∈ representatives) : Overlaps run run' := by
  rw [checkScoredIdentities_ok_iff] at hok
  match representatives, hfew with
  | [], _ => cases hrun
  | [a], _ =>
    obtain rfl := List.mem_singleton.mp hrun
    obtain rfl := List.mem_singleton.mp hrun'
    exact Overlaps.refl _
  | [a, b], _ =>
    have hab : Overlaps a b := hok a rfl b (List.mem_cons_of_mem a List.mem_cons_self)
    rcases List.mem_pair.mp hrun with rfl | rfl <;> rcases List.mem_pair.mp hrun' with rfl | rfl
    · exact Overlaps.refl _
    · exact hab
    · exact hab.symm
    · exact Overlaps.refl _

theorem checkScoredIdentities_of_two (h : Multiset.Rel SameFirst grouped.profiles other.profiles)
    (hfew : other.representatives.length ≤ 2)
    (hok : checkScoredIdentities other.representatives = .ok ()) :
    checkScoredIdentities grouped.representatives = .ok () := by
  rw [checkScoredIdentities_ok_iff]
  intro first hhead run hrun
  obtain ⟨first', hfirst', hsame⟩ := exists_representative h (List.mem_of_head? hhead)
  obtain ⟨run', hrun', hsameRun⟩ := exists_representative h hrun
  exact (Overlaps.congr hsame hsameRun).mp (overlaps_of_two hfew hok hfirst' hrun')

theorem rel_sameFirst_symm (h : Multiset.Rel SameFirst grouped.profiles other.profiles) :
    Multiset.Rel SameFirst other.profiles grouped.profiles :=
  Multiset.rel_flip.mp (h.mono fun _ _ _ _ hsame => ⟨hsame.1.symm, hsame.2.symm⟩)

/-- The verdict is the same for families with renamed and reordered profiles and permuted runs,
where the first run of each profile scores the identities it did and, with three profiles or more
that have runs, so does that of the first profile. -/
theorem checkTuneCoverageComparability_rearranged
    (h : Multiset.Rel SameFirst grouped.profiles other.profiles)
    (hfirst : grouped.representatives.length ≤ 2 ∨
      grouped.representatives.head?.map scoredIdentities =
        other.representatives.head?.map scoredIdentities) :
    checkTuneCoverageComparability grouped = .ok () ↔
      checkTuneCoverageComparability other = .ok () := by
  have hlength : grouped.representatives.length = other.representatives.length := by
    simpa using (representatives_map h).length_eq
  refine checkTuneCoverageComparability_of_identities (h.mono fun _ _ _ _ hsame => hsame.1) ?_
  rcases hfirst with hfew | hfirst
  · exact ⟨checkScoredIdentities_of_two (rel_sameFirst_symm h) hfew,
      checkScoredIdentities_of_two h (hlength ▸ hfew)⟩
  · exact ⟨checkScoredIdentities_of_reference (rel_sameFirst_symm h) hfirst.symm,
      checkScoredIdentities_of_reference h hfirst⟩

end SameFirst

/-- A run whose coverage has so many threads of one scored identity for each name. -/
def identityRun (counts : List (String × Nat)) : TuneCandidateSummary :=
  { sampleRun 100 true with
    coverage := ⟨8, 4, 4, 4, 0, counts.map fun item =>
      (⟨.game, "game", item.1, none, none, none, none⟩, item.2)⟩ }

/-- Three profiles of one run each, told apart by their number of worker threads. -/
def threeProfiles (first second third : String) (a b c : Nat)
    (sorted : [first, second, third].Pairwise (· < ·)) : Grouped :=
  ⟨[(first, [identityRun [("worker", a)]]), (second, [identityRun [("worker", b)]]),
    (third, [identityRun [("worker", c)]])], sorted⟩

/-- The second and the third profile exchange their names. -/
theorem checkTuneCoverageComparability_renamed :
    checkTuneCoverageComparability (threeProfiles "base" "fast" "plain" 9 12 7 (by decide)) =
      .ok () := by
  have hbefore : checkTuneCoverageComparability
      (threeProfiles "base" "fast" "plain" 9 7 12 (by decide)) = .ok () := by decide +kernel
  have hswap : (threeProfiles "base" "fast" "plain" 9 7 12 (by decide)).profiles =
      (threeProfiles "base" "fast" "plain" 9 12 7 (by decide)).profiles :=
    Multiset.coe_eq_coe.mpr (.cons _ (.swap _ _ _))
  have hsame : Multiset.Rel SameFirst
      (threeProfiles "base" "fast" "plain" 9 7 12 (by decide)).profiles
      (threeProfiles "base" "fast" "plain" 9 12 7 (by decide)).profiles := by
    rw [hswap]
    exact Multiset.rel_refl_of_refl_on fun runs _ => ⟨.refl _, rfl⟩
  exact (checkTuneCoverageComparability_rearranged hsame (.inr rfl)).mp hbefore

/-- The runs of one profile permuted make a verdict fail that holds, and so does another name for
the profile that the others are compared with. -/
theorem verdict_not_invariant :
    (Rearranged
        (sampleGrouped [identityRun [("render", 1)],
          identityRun [("audio", 1)]] [identityRun [("render", 1)]])
        (sampleGrouped [identityRun [("audio", 1)],
          identityRun [("render", 1)]] [identityRun [("render", 1)]]) ∧
      checkTuneCoverageComparability (sampleGrouped
        [identityRun [("render", 1)], identityRun [("audio", 1)]]
          [identityRun [("render", 1)]]) = .ok () ∧
      checkTuneCoverageComparability (sampleGrouped
        [identityRun [("audio", 1)], identityRun [("render", 1)]] [identityRun [("render", 1)]]) =
          .error (.identityMismatch 0 2)) ∧
    (Rearranged (threeProfiles "base" "fast" "plain" 9 7 12 (by decide))
        (threeProfiles "fast" "plain" "stock" 7 12 9 (by decide)) ∧
      checkTuneCoverageComparability (threeProfiles "base" "fast" "plain" 9 7 12 (by decide)) =
        .ok () ∧
      checkTuneCoverageComparability (threeProfiles "fast" "plain" "stock" 7 12 9 (by decide)) =
        .error (.identityMismatch 7 12)) := by
  refine ⟨⟨?_, by decide +kernel, by decide +kernel⟩, ?_, by decide +kernel, by decide +kernel⟩
  · exact .cons (.swap _ _ _) (.cons (.refl _) .zero)
  · have hturned : (threeProfiles "base" "fast" "plain" 9 7 12 (by decide)).profiles =
        (threeProfiles "fast" "plain" "stock" 7 12 9 (by decide)).profiles :=
      Multiset.coe_eq_coe.mpr ((List.Perm.swap _ _ _).trans (.cons _ (.swap _ _ _)))
    rw [Rearranged, hturned]
    exact Multiset.rel_refl_of_refl_on fun runs _ => .refl _

end Stutter.Tune

import StutterProof.ClusterSweep

/-! # What the spike clusters are

Every cluster is the window of a position, so it spans at most the length of a window and reports
what is true of its points; no two have a time in common; and the first is not below any window that
has enough tasks. -/
namespace Stutter.Report.Clusters

variable {R : Type} {points : List (SpikePoint R)} {clusterWindowNs right : Nat}

/-! ## A candidate -/

def minSwitch (points : List (SpikePoint R)) : Nat := (points.map (·.switchNs)).min?.getD 0

/-- The order of clusters, of a list of points. -/
def rankOf (points : List (SpikePoint R)) : ClusterRank :=
  clusterRank (distinctTasks points) (maxLatency points) points.length (minSwitch points)

/-- The window of a position is a slice that ends there. -/
theorem windowAt_eq_slice (clusterWindowNs : Nat) (hsorted : Sorted points)
    (hright : right < points.length) :
    ∃ left ≤ right, slice points left (right + 1) = windowAt points clusterWindowNs right ∧
      (∀ i < left, clusterWindowNs < switchAt points right - switchAt points i) ∧
      switchAt points right - switchAt points left ≤ clusterWindowNs := by
  have hnear : ∃ i, switchAt points right - switchAt points i ≤ clusterWindowNs :=
    ⟨right, by rw [Nat.sub_self]; exact Nat.zero_le _⟩
  have hle : Nat.find hnear ≤ right := Nat.find_le (by rw [Nat.sub_self]; exact Nat.zero_le _)
  have hbehind : ∀ i < Nat.find hnear,
      clusterWindowNs < switchAt points right - switchAt points i :=
    fun i hi => Nat.lt_of_not_le (Nat.find_min hnear hi)
  exact ⟨Nat.find hnear, hle, slice_eq_windowAt hsorted hle hright hbehind (Nat.find_spec hnear),
    hbehind, Nat.find_spec hnear⟩

/-- A candidate of a position, as what it says of the window there. -/
structure IsCandidate (points : List (SpikePoint R)) (clusterWindowNs right : Nat)
    (candidate : SpikeClusterCandidate) : Prop where
  right_lt : right < points.length
  start_le : candidate.startIdx ≤ right
  end_eq : candidate.endIdx = right + 1
  window : slice points candidate.startIdx candidate.endIdx = windowAt points clusterWindowNs right
  behind : ∀ i < candidate.startIdx, clusterWindowNs < switchAt points right - switchAt points i
  min_eq : candidate.minSwitchNs = switchAt points candidate.startIdx
  max_eq : candidate.maxSwitchNs = switchAt points right
  near : candidate.maxSwitchNs - candidate.minSwitchNs ≤ clusterWindowNs
  tasks : candidate.distinctTasks = distinctTasks (windowAt points clusterWindowNs right)
  latency : candidate.maxLatencyNs = maxLatency (windowAt points clusterWindowNs right)
  enough : minClusterTasks ≤ distinctTasks (windowAt points clusterWindowNs right)

variable {candidate : SpikeClusterCandidate}

theorem isCandidate_of_candidateAt (hsorted : Sorted points) (hright : right < points.length)
    (h : candidateAt points clusterWindowNs right = some candidate) :
    IsCandidate points clusterWindowNs right candidate := by
  obtain ⟨left, hle, hslice, hbehind, hnear⟩ := windowAt_eq_slice clusterWindowNs hsorted hright
  have hstart : right + 1 - (windowAt points clusterWindowNs right).length = left := by
    rw [← hslice, length_slice hright]
    omega
  rw [candidateAt] at h
  split at h
  · rename_i henough
    obtain rfl := Option.some.inj h
    simp only [describe, hstart]
    exact ⟨hright, hle, rfl, hslice, hbehind, rfl, rfl, hnear, rfl, rfl, henough⟩
  · cases h

/-- The candidates of all positions. -/
theorem mem_candidates (hsorted : Sorted points) :
    candidate ∈ (List.range points.length).filterMap (candidateAt points clusterWindowNs) →
      ∃ right, IsCandidate points clusterWindowNs right candidate := by
  intro h
  obtain ⟨right, hright, hcandidate⟩ := List.mem_filterMap.mp h
  exact ⟨right, isCandidate_of_candidateAt hsorted (List.mem_range.mp hright) hcandidate⟩

theorem minSwitch_slice (hsorted : Sorted points) {left : Nat} (hle : left ≤ right)
    (hright : right < points.length) :
    minSwitch (slice points left (right + 1)) = switchAt points left := by
  have hmin : ((slice points left (right + 1)).map (·.switchNs)).min? =
      some (switchAt points left) := by
    rw [List.min?_eq_some_iff]
    refine ⟨List.mem_map.mpr ⟨points[left], mem_slice.mpr ⟨left, le_rfl, by omega,
      List.getElem?_eq_getElem (by omega)⟩, (switchAt_eq (by omega)).symm⟩, fun time htime => ?_⟩
    obtain ⟨point, hpoint, rfl⟩ := List.mem_map.mp htime
    obtain ⟨i, hleft, hi, hget⟩ := mem_slice.mp hpoint
    obtain ⟨hlength, rfl⟩ := List.getElem?_eq_some_iff.mp hget
    have := hsorted.switchAt_mono hleft hlength
    rwa [switchAt_eq hlength] at this
  rw [minSwitch, hmin]
  rfl

namespace IsCandidate
variable {candidate : SpikeClusterCandidate}

theorem min_le_max (h : IsCandidate points clusterWindowNs right candidate)
    (hsorted : Sorted points) :
    candidate.minSwitchNs ≤ candidate.maxSwitchNs := by
  rw [h.min_eq, h.max_eq]
  exact hsorted.switchAt_mono h.start_le h.right_lt

theorem mem_bounds (h : IsCandidate points clusterWindowNs right candidate)
    (hsorted : Sorted points) {point : SpikePoint R}
    (hpoint : point ∈ windowAt points clusterWindowNs right) :
    candidate.minSwitchNs ≤ point.switchNs ∧ point.switchNs ≤ candidate.maxSwitchNs := by
  rw [← h.window, h.end_eq] at hpoint
  obtain ⟨i, hleft, hi, hget⟩ := mem_slice.mp hpoint
  obtain ⟨hlength, rfl⟩ := List.getElem?_eq_some_iff.mp hget
  rw [h.min_eq, h.max_eq, ← switchAt_eq hlength]
  exact ⟨hsorted.switchAt_mono hleft hlength, hsorted.switchAt_mono (by omega) h.right_lt⟩

/-- Both ends of the window are times of points in it. -/
theorem ends_mem (h : IsCandidate points clusterWindowNs right candidate) :
    (∃ point ∈ windowAt points clusterWindowNs right, point.switchNs = candidate.minSwitchNs) ∧
      ∃ point ∈ windowAt points clusterWindowNs right, point.switchNs = candidate.maxSwitchNs := by
  have hright := h.right_lt
  have hstart := h.start_le
  rw [← h.window, h.end_eq, h.min_eq, h.max_eq]
  refine ⟨⟨points[candidate.startIdx], mem_slice.mpr ⟨candidate.startIdx, le_rfl, by omega,
    List.getElem?_eq_getElem (by omega)⟩, (switchAt_eq (by omega)).symm⟩, ⟨points[right],
    mem_slice.mpr ⟨right, hstart, by omega, List.getElem?_eq_getElem hright⟩,
    (switchAt_eq hright).symm⟩⟩

theorem rank_eq (h : IsCandidate points clusterWindowNs right candidate) (hsorted : Sorted points) :
    candidate.rank = rankOf (windowAt points clusterWindowNs right) := by
  have hmin := minSwitch_slice hsorted h.start_le h.right_lt
  have hlength : (slice points candidate.startIdx (right + 1)).length =
      right + 1 - candidate.startIdx :=
    length_slice h.right_lt
  rw [← h.end_eq, h.window] at hmin hlength
  rw [SpikeClusterCandidate.rank, rankOf, h.tasks, h.latency, hmin, hlength, h.min_eq]

end IsCandidate

variable {window other : List (SpikePoint R)}

/-! ## A cluster -/

theorem maxLatency_perm (h : window.Perm other) : maxLatency window = maxLatency other := by
  have hmax : (window.map (·.latencyNs)).max? = (other.map (·.latencyNs)).max? := by
    apply Option.ext
    intro latency
    rw [List.max?_eq_some_iff, List.max?_eq_some_iff]
    have hmem : ∀ b, b ∈ window.map (·.latencyNs) ↔ b ∈ other.map (·.latencyNs) :=
      fun b => (h.map _).mem_iff
    simp only [hmem]
  rw [maxLatency, maxLatency, hmax]

theorem distinctTasks_perm (h : window.Perm other) : distinctTasks window = distinctTasks other :=
  ((h.map _).dedup).length_eq

theorem minSwitch_perm (h : window.Perm other) : minSwitch window = minSwitch other := by
  have hmin : (window.map (·.switchNs)).min? = (other.map (·.switchNs)).min? := by
    apply Option.ext
    intro time
    rw [List.min?_eq_some_iff, List.min?_eq_some_iff]
    have hmem : ∀ b, b ∈ window.map (·.switchNs) ↔ b ∈ other.map (·.switchNs) :=
      fun b => (h.map _).mem_iff
    simp only [hmem]
  rw [minSwitch, minSwitch, hmin]

theorem rankOf_perm (h : window.Perm other) : rankOf window = rankOf other := by
  rw [rankOf, rankOf, distinctTasks_perm h, maxLatency_perm h, minSwitch_perm h, h.length_eq]

/-- The points of a cluster, sorted. -/
def sortCluster (points : List (SpikePoint R)) : List (SpikePoint R) :=
  points.insertionSort fun a b => a.sortKey ≤ b.sortKey

theorem sortCluster_perm (points : List (SpikePoint R)) : (sortCluster points).Perm points :=
  List.perm_insertionSort _ _

theorem pairwise_sortCluster (points : List (SpikePoint R)) :
    (sortCluster points).Pairwise fun a b => a.sortKey ≤ b.sortKey := by
  have htotal : Std.Total fun a b : SpikePoint R => a.sortKey ≤ b.sortKey :=
    ⟨fun a b => le_total ..⟩
  have htrans : IsTrans (SpikePoint R) fun a b => a.sortKey ≤ b.sortKey := ⟨fun a b c => le_trans⟩
  exact List.pairwise_insertionSort _ points

theorem switchNs_le_of_sortKey {a b : SpikePoint R} (h : a.sortKey ≤ b.sortKey) :
    a.switchNs ≤ b.switchNs := by
  obtain hlt | ⟨heq, -⟩ := (Prod.Lex.toLex_le_toLex).mp h
  · exact hlt.le
  · exact heq.le

/-- The ends that a cluster reports are the least and the greatest time of its points. -/
theorem clusterFromPoints_ends {window : List (SpikePoint R)} {earliest latest : Nat}
    (hbounds : ∀ point ∈ window, earliest ≤ point.switchNs ∧ point.switchNs ≤ latest)
    (hearliest : ∃ point ∈ window, point.switchNs = earliest)
    (hlatest : ∃ point ∈ window, point.switchNs = latest) (distinct : Nat) :
    (clusterFromPoints window distinct).minSwitchNs = earliest ∧
      (clusterFromPoints window distinct).maxSwitchNs = latest := by
  have hsorted := pairwise_sortCluster window
  have hmem : ∀ point, point ∈ sortCluster window ↔ point ∈ window :=
    fun point => (sortCluster_perm window).mem_iff
  show ((sortCluster window).head?.map (·.switchNs)).getD 0 = earliest ∧
    ((sortCluster window).getLast?.map (·.switchNs)).getD 0 = latest
  obtain ⟨first, hfirst, rfl⟩ := hearliest
  obtain ⟨last, hlast, rfl⟩ := hlatest
  rw [← hmem] at hfirst hlast
  constructor
  · cases hhead : (sortCluster window).head? with
    | none =>
      rw [List.head?_eq_none_iff.mp hhead] at hfirst
      cases hfirst
    | some head =>
      obtain ⟨rest, hrest⟩ := List.head?_eq_some_iff.mp hhead
      have hlow := (hbounds head ((hmem head).mp (List.mem_of_head? hhead))).1
      rw [hrest] at hfirst hsorted
      show head.switchNs = first.switchNs
      obtain rfl | htail := List.mem_cons.mp hfirst
      · rfl
      · exact le_antisymm (switchNs_le_of_sortKey ((List.pairwise_cons.mp hsorted).1 first htail))
          hlow
  · cases hend : (sortCluster window).getLast? with
    | none =>
      rw [List.getLast?_eq_none_iff.mp hend] at hlast
      cases hlast
    | some final =>
      obtain ⟨before, hbefore⟩ := List.getLast?_eq_some_iff.mp hend
      have hhigh := (hbounds final ((hmem final).mp (List.mem_of_getLast? hend))).2
      rw [hbefore] at hlast hsorted
      show final.switchNs = last.switchNs
      obtain hfront | hsame := List.mem_append.mp hlast
      · have hle :=
          (List.pairwise_append.mp hsorted).2.2 last hfront final (List.mem_singleton.mpr rfl)
        exact le_antisymm hhigh (switchNs_le_of_sortKey hle)
      · rw [List.mem_singleton.mp hsame]

/-- A cluster reports what is true of the window it was made from. -/
structure Reports (clusterWindowNs : Nat) (window : List (SpikePoint R))
    (cluster : SpikeCluster R) :
    Prop where
  points : cluster.points.Perm window
  tasks : cluster.distinctTasks = distinctTasks cluster.points
  latency : cluster.maxLatencyNs = maxLatency cluster.points
  bounds : ∀ point ∈ cluster.points,
    cluster.minSwitchNs ≤ point.switchNs ∧ point.switchNs ≤ cluster.maxSwitchNs
  span : cluster.maxSwitchNs - cluster.minSwitchNs ≤ clusterWindowNs

/-- The cluster of a candidate. -/
def SpikeClusterCandidate.cluster (points : List (SpikePoint R))
    (candidate : SpikeClusterCandidate) :
    SpikeCluster R :=
  clusterFromPoints (slice points candidate.startIdx candidate.endIdx) candidate.distinctTasks

theorem IsCandidate.ends_cluster
    (h : IsCandidate points clusterWindowNs right candidate) (hsorted : Sorted points) :
    (candidate.cluster points).minSwitchNs = candidate.minSwitchNs ∧
      (candidate.cluster points).maxSwitchNs = candidate.maxSwitchNs := by
  rw [SpikeClusterCandidate.cluster, h.window]
  exact clusterFromPoints_ends (fun point hpoint => h.mem_bounds hsorted hpoint) h.ends_mem.1
    h.ends_mem.2 _

theorem IsCandidate.reports
    (h : IsCandidate points clusterWindowNs right candidate) (hsorted : Sorted points) :
    Reports clusterWindowNs (windowAt points clusterWindowNs right) (candidate.cluster points) := by
  obtain ⟨hmin, hmax⟩ := h.ends_cluster hsorted
  have hperm : (candidate.cluster points).points.Perm (windowAt points clusterWindowNs right) := by
    rw [SpikeClusterCandidate.cluster, h.window]
    exact sortCluster_perm _
  refine ⟨hperm, ?_, rfl, fun point hpoint => ?_, ?_⟩
  · rw [distinctTasks_perm hperm, ← h.tasks]
    rfl
  · rw [hmin, hmax]
    exact h.mem_bounds hsorted (hperm.mem_iff.mp hpoint)
  · rw [hmin, hmax]
    exact h.near

/-! ## The selection -/

/-- The windows with enough tasks, of points in any order. -/
def candidateWindows (points : List (SpikePoint R)) (clusterWindowNs : Nat) :
    List (List (SpikePoint R)) :=
  let points := sortBySwitch points
  ((List.range points.length).map (windowAt points clusterWindowNs)).filter
    (minClusterTasks ≤ distinctTasks ·)

/-- What the clusters of a list of points are. -/
structure IsClustering (points : List (SpikePoint R)) (clusterWindowNs : Nat)
    (clusters : List (SpikeCluster R)) : Prop where
  disjoint : clusters.Pairwise fun a b => a.maxSwitchNs < b.minSwitchNs ∨
    b.maxSwitchNs < a.minSwitchNs
  windows : ∀ cluster ∈ clusters, minClusterTasks ≤ cluster.distinctTasks ∧
    ∃ window ∈ candidateWindows points clusterWindowNs, Reports clusterWindowNs window cluster
  first : ∀ window ∈ candidateWindows points clusterWindowNs,
    ∃ first, clusters.head? = some first ∧ rankOf window ≤ rankOf first.points

theorem mem_candidateWindows {window : List (SpikePoint R)} :
    window ∈ candidateWindows points clusterWindowNs ↔
      ∃ right < points.length, windowAt (sortBySwitch points) clusterWindowNs right = window ∧
        minClusterTasks ≤ distinctTasks window := by
  simp only [candidateWindows, List.mem_filter, List.mem_map, List.mem_range, decide_eq_true_eq,
    (sortBySwitch_perm points).length_eq]
  constructor
  · rintro ⟨⟨right, hright, hwindow⟩, henough⟩
    exact ⟨right, hright, hwindow, henough⟩
  · rintro ⟨right, hright, hwindow, henough⟩
    exact ⟨⟨right, hright, hwindow⟩, henough⟩

/-- The candidates in the order of selection. -/
def ranked (candidates : List SpikeClusterCandidate) : List SpikeClusterCandidate :=
  candidates.insertionSort fun a b => b.rank ≤ a.rank

variable (candidates : List SpikeClusterCandidate)

theorem ranked_perm : (ranked candidates).Perm candidates :=
  List.perm_insertionSort _ _

theorem pairwise_ranked : (ranked candidates).Pairwise fun a b => b.rank ≤ a.rank := by
  have htotal : Std.Total fun a b : SpikeClusterCandidate => b.rank ≤ a.rank :=
    ⟨fun a b => le_total ..⟩
  have htrans : IsTrans SpikeClusterCandidate fun a b => b.rank ≤ a.rank :=
    ⟨fun a b c hab hbc => hbc.trans hab⟩
  exact List.pairwise_insertionSort _ candidates

/-- What is selected first has the greatest rank of the candidates. -/
theorem head?_selectCandidates {candidates : List SpikeClusterCandidate} (top : Nat)
    (h : candidate ∈ candidates) :
    ∃ first ∈ candidates, (selectCandidates candidates top).head? = some first ∧
      candidate.rank ≤ first.rank := by
  have hperm := ranked_perm candidates
  have hsorted := pairwise_ranked candidates
  have hmem : candidate ∈ ranked candidates := hperm.mem_iff.mpr h
  show ∃ first ∈ candidates, (GreedySelection.select overlaps _ [] (ranked candidates)).head? =
    some first ∧ _
  cases hranked : ranked candidates with
  | nil =>
    rw [hranked] at hmem
    cases hmem
  | cons first rest =>
    rw [hranked] at hmem hsorted hperm
    refine ⟨first, hperm.mem_iff.mp List.mem_cons_self, GreedySelection.head?_select first, ?_⟩
    obtain rfl | hrest := List.mem_cons.mp hmem
    · exact le_rfl
    · exact (List.pairwise_cons.mp hsorted).1 candidate hrest

theorem mem_of_mem_selectCandidates {candidates : List SpikeClusterCandidate} {top : Nat}
    (h : candidate ∈ selectCandidates candidates top) :
    candidate ∈ candidates := by
  obtain hnil | hmem := GreedySelection.mem_of_mem_select h
  · cases hnil
  · exact (ranked_perm candidates).mem_iff.mp hmem

theorem selectCandidates_disjoint (top : Nat) :
    (selectCandidates candidates top).Pairwise fun a b =>
      a.maxSwitchNs < b.minSwitchNs ∨ b.maxSwitchNs < a.minSwitchNs := by
  refine (GreedySelection.select_pairwise List.Pairwise.nil).imp fun {a b} h => ?_
  simp only [overlaps, Bool.and_eq_false_iff, decide_eq_false_iff_not] at h
  omega

theorem mem_sweepPoints_candidates (hsorted : Sorted points)
    (h : candidate ∈ (sweepPoints points clusterWindowNs).candidates) :
    ∃ right, IsCandidate points clusterWindowNs right candidate := by
  rw [sweepPoints_candidates hsorted] at h
  obtain hmem | hnil := GreedySelection.mem_of_mem_foldl h
  · exact mem_candidates hsorted hmem
  · cases hnil

/-- **What the clusters are**: for all points, windows and numbers of clusters. -/
theorem isClustering (points : List (SpikePoint R)) (clusterWindowNs top : Nat) :
    IsClustering points clusterWindowNs (spikeClustersFromPoints points clusterWindowNs top) := by
  have hsorted := sorted_sortBySwitch points
  have hlength := (sortBySwitch_perm points).length_eq
  have hcandidate : ∀ candidate ∈ selectCandidates
      (sweepPoints (sortBySwitch points) clusterWindowNs).candidates top,
      ∃ right, IsCandidate (sortBySwitch points) clusterWindowNs right candidate :=
    fun candidate h => mem_sweepPoints_candidates hsorted (mem_of_mem_selectCandidates h)
  show IsClustering points clusterWindowNs ((selectCandidates
    (sweepPoints (sortBySwitch points) clusterWindowNs).candidates top).map
      (SpikeClusterCandidate.cluster (sortBySwitch points)))
  refine ⟨?_, ?_, ?_⟩
  · rw [List.pairwise_map]
    refine (selectCandidates_disjoint _ top).imp_of_mem fun {a b} ha hb hab => ?_
    obtain ⟨rightA, hA⟩ := hcandidate a ha
    obtain ⟨rightB, hB⟩ := hcandidate b hb
    rw [(hA.ends_cluster hsorted).1, (hA.ends_cluster hsorted).2, (hB.ends_cluster hsorted).1,
      (hB.ends_cluster hsorted).2]
    exact hab
  · intro cluster hcluster
    obtain ⟨candidate, hmem, rfl⟩ := List.mem_map.mp hcluster
    obtain ⟨right, h⟩ := hcandidate candidate hmem
    refine ⟨?_, _, mem_candidateWindows.mpr ⟨right, hlength ▸ h.right_lt, rfl, h.enough⟩,
      h.reports hsorted⟩
    show minClusterTasks ≤ candidate.distinctTasks
    rw [h.tasks]
    exact h.enough
  · intro window hwindow
    obtain ⟨right, hright, rfl, henough⟩ := mem_candidateWindows.mp hwindow
    obtain ⟨candidate, hat⟩ : ∃ candidate,
        candidateAt (sortBySwitch points) clusterWindowNs right = some candidate := by
      rw [candidateAt, if_pos henough]
      exact ⟨_, rfl⟩
    have h := isCandidate_of_candidateAt hsorted (hlength.symm ▸ hright) hat
    -- a candidate that was dropped was dropped for one as good
    obtain ⟨kept, hkept, hrank⟩ :
        ∃ kept ∈ (sweepPoints (sortBySwitch points) clusterWindowNs).candidates,
        candidate.rank ≤ kept.rank := by
      rw [sweepPoints_candidates hsorted]
      refine GreedySelection.foldl_dominates (by decide)
        (.inl (List.mem_filterMap.mpr ⟨right, ?_, hat⟩))
      exact List.mem_range.mpr (hlength.symm ▸ hright)
    obtain ⟨first, hfirst, hhead, hbest⟩ := head?_selectCandidates top hkept
    obtain ⟨rightFirst, hF⟩ := mem_sweepPoints_candidates hsorted hfirst
    refine ⟨first.cluster (sortBySwitch points), by rw [List.head?_map, hhead]; rfl, ?_⟩
    rw [rankOf_perm (hF.reports hsorted).points, ← hF.rank_eq hsorted, ← h.rank_eq hsorted]
    exact hrank.trans hbest

end Stutter.Report.Clusters

import Mathlib.Data.List.Perm.Basic
import StutterProof.ClusterSelection
import StutterProof.OrderedTable

/-! # Spike clusters and the order of the points

Points of one time stand in the sorted list as they came.  The candidates before the last of them
depend on that order; but the last one has all of them, is better and covers the same time, so the
others are never selected (`selectCandidates_eq_filter`).  Where no candidate is dropped the order
changes only how points of one time and one latency stand in a cluster. -/
namespace Stutter.Report.Clusters

variable {R : Type}

/-! ## The wake graph -/

section WakeGraph

/-- One more wake of an edge. -/
def bumpWake (entry : Option (Nat × Nat)) (point : SpikePoint R) : Option (Nat × Nat) :=
  some ((entry.getD (0, 0)).1 + 1, max (entry.getD (0, 0)).2 point.latencyNs)

/-- A point's part in what is read at one edge. -/
def bumpAt (key : WakeKey) (entry : Option (Nat × Nat)) (point : SpikePoint R) :
    Option (Nat × Nat) :=
  if point.wakerTid ≠ 0 ∧ key = point.wakeKey then bumpWake entry point else entry

theorem bumpWake_comm (entry : Option (Nat × Nat)) (a b : SpikePoint R) :
    bumpWake (bumpWake entry a) b = bumpWake (bumpWake entry b) a := by
  simp only [bumpWake, Option.getD_some, max_assoc, max_comm a.latencyNs]

theorem bumpAt_comm (key : WakeKey) (entry : Option (Nat × Nat)) (a b : SpikePoint R) :
    bumpAt key (bumpAt key entry a) b = bumpAt key (bumpAt key entry b) a := by
  simp only [bumpAt]
  by_cases ha : a.wakerTid ≠ 0 ∧ key = a.wakeKey
  · by_cases hb : b.wakerTid ≠ 0 ∧ key = b.wakeKey
    · simp only [if_pos ha, if_pos hb, bumpWake_comm]
    · simp only [if_pos ha, if_neg hb]
  · simp only [if_neg ha]

theorem get_countWake (edges : Table WakeKey (Nat × Nat)) (point : SpikePoint R) (key : WakeKey) :
    (countWake edges point).get key = bumpAt key (edges.get key) point := by
  rw [countWake, bumpAt]
  by_cases hwaker : point.wakerTid ≠ 0
  · rw [if_pos hwaker, Table.get_insert]
    by_cases hkey : key = point.wakeKey
    · rw [if_pos hkey, if_pos ⟨hwaker, hkey⟩, hkey]
      rfl
    · rw [if_neg hkey, if_neg fun h => hkey h.2]
  · rw [if_neg hwaker, if_neg fun h => hwaker h.1]

theorem get_foldl_countWake (points : List (SpikePoint R)) (edges : Table WakeKey (Nat × Nat))
    (key : WakeKey) :
    (points.foldl countWake edges).get key = points.foldl (bumpAt key) (edges.get key) := by
  induction points generalizing edges with
  | nil => rfl
  | cons point rest ih => rw [List.foldl_cons, ih, get_countWake, List.foldl_cons]

/-- The graph does not depend on the order of the points. -/
theorem buildWakeGraph_perm {points other : List (SpikePoint R)} (h : points.Perm other) :
    buildWakeGraph points = buildWakeGraph other := by
  have hreads : ∀ key, (points.foldl countWake Table.empty).get key =
      (other.foldl countWake Table.empty).get key := by
    intro key
    have hcomm : RightCommutative (bumpAt (R := R) key) := ⟨bumpAt_comm key⟩
    rw [get_foldl_countWake, get_foldl_countWake, h.foldl_eq]
  have hsorted : (points.foldl countWake Table.empty).entries.insertionSort (fun a b => a.1 ≤ b.1) =
      (other.foldl countWake Table.empty).entries.insertionSort fun a b => a.1 ≤ b.1 :=
    Table.inOrder_congr hreads
  simp only [buildWakeGraph, hsorted]

end WakeGraph

/-! ## Ranks -/

theorem clusterRank_lt {tasks tasks' latency latency' length length' start start' : Nat}
    (htasks : tasks ≤ tasks') (hlatency : latency ≤ latency') (hlength : length < length') :
    clusterRank tasks latency length start < clusterRank tasks' latency' length' start' := by
  simp only [clusterRank, Prod.Lex.toLex_lt_toLex]
  omega

theorem clusterRank_inj {tasks tasks' latency latency' length length' start start' : Nat}
    (h : clusterRank tasks latency length start = clusterRank tasks' latency' length' start') :
    tasks = tasks' ∧ latency = latency' ∧ length = length' ∧ start = start' := by
  have hpair := toLex.injective h
  have hrest := toLex.injective (Prod.mk.inj hpair).2
  have hlast := toLex.injective (Prod.mk.inj hrest).2
  exact ⟨(Prod.mk.inj hpair).1, (Prod.mk.inj hrest).1, (Prod.mk.inj hlast).1,
    OrderDual.toDual.injective (Prod.mk.inj hlast).2⟩

section Ranks
variable {points : List (SpikePoint R)} {clusterWindowNs right right' : Nat}
  {candidate other : SpikeClusterCandidate}

/-- The window of a time starts at one position. -/
theorem IsCandidate.start_eq (h : IsCandidate points clusterWindowNs right candidate)
    (h' : IsCandidate points clusterWindowNs right' other)
    (hmin : candidate.minSwitchNs = other.minSwitchNs) : candidate.startIdx = other.startIdx := by
  have hnear := h.near
  have hnear' := h'.near
  rw [h.min_eq, h'.min_eq] at hmin
  rw [h.min_eq, h.max_eq] at hnear
  rw [h'.min_eq, h'.max_eq] at hnear'
  obtain hlt | heq | hgt := Nat.lt_trichotomy candidate.startIdx other.startIdx
  · have := h'.behind _ hlt
    omega
  · exact heq
  · have := h.behind _ hgt
    omega

/-- Two candidates of one rank are the same. -/
theorem IsCandidate.eq_of_rank (h : IsCandidate points clusterWindowNs right candidate)
    (h' : IsCandidate points clusterWindowNs right' other) (hrank : candidate.rank = other.rank) :
    candidate = other := by
  obtain ⟨htasks, hlatency, hlength, hmin⟩ := clusterRank_inj hrank
  have hstart := h.start_eq h' hmin
  have hend : candidate.endIdx = other.endIdx := by
    have := h.start_le
    have := h'.start_le
    have := h.end_eq
    have := h'.end_eq
    omega
  have hright : right = right' := by
    have := h.end_eq
    have := h'.end_eq
    omega
  have hmax : candidate.maxSwitchNs = other.maxSwitchNs := by rw [h.max_eq, h'.max_eq, hright]
  cases candidate
  cases other
  simp only at htasks hlatency hstart hend hmin hmax
  rw [htasks, hlatency, hstart, hend, hmin, hmax]

theorem distinctTasks_mono {window wider : List (SpikePoint R)} (h : window ⊆ wider) :
    distinctTasks window ≤ distinctTasks wider := by
  refine (List.subperm_of_subset (List.nodup_dedup _) fun task htask => ?_).length_le
  rw [List.mem_dedup] at htask ⊢
  exact List.map_subset _ h htask

theorem maxLatency_mono {window wider : List (SpikePoint R)} (h : window ⊆ wider) :
    maxLatency window ≤ maxLatency wider := by
  rw [maxLatency, maxLatency]
  cases hmax : (window.map (·.latencyNs)).max? with
  | none => exact Nat.zero_le _
  | some latency =>
    have hmem := List.map_subset (·.latencyNs) h ((List.max?_eq_some_iff.mp hmax).1)
    cases hwider : (wider.map (·.latencyNs)).max? with
    | none =>
      rw [List.max?_eq_none_iff.mp hwider] at hmem
      cases hmem
    | some greatest => exact (List.max?_eq_some_iff.mp hwider).2 latency hmem

end Ranks

/-! ## The last point of a time -/

open SpikeClusterCandidate

section Last
variable {points : List (SpikePoint R)} {clusterWindowNs right : Nat}
    {candidate : SpikeClusterCandidate}

/-- The position is the last of its time. -/
def IsLast (points : List (SpikePoint R)) (right : Nat) : Prop :=
  right + 1 < points.length → switchAt points right < switchAt points (right + 1)

instance (points : List (SpikePoint R)) (right : Nat) : Decidable (IsLast points right) :=
  inferInstanceAs (Decidable (_ → _))

/-- Every position has a last one of its time. -/
theorem exists_isLast (hsorted : Sorted points) (hright : right < points.length) :
    ∃ last, right ≤ last ∧ last < points.length ∧ IsLast points last ∧
      switchAt points last = switchAt points right := by
  obtain ⟨more, hmore⟩ : ∃ more, points.length = right + 1 + more :=
    ⟨points.length - (right + 1), by omega⟩
  induction more generalizing right with
  | zero => exact ⟨right, le_rfl, hright, fun h => by omega, rfl⟩
  | succ more ih =>
    by_cases hlast : IsLast points right
    · exact ⟨right, le_rfl, hright, hlast, rfl⟩
    · have hnext : right + 1 < points.length := by omega
      have hle := hsorted.switchAt_mono (Nat.le_add_right right 1) hnext
      have hsame : switchAt points (right + 1) = switchAt points right := by
        refine le_antisymm (Nat.le_of_not_lt fun hlt => hlast fun _ => hlt) hle
      obtain ⟨last, hlastLe, hlastLt, hisLast, hswitch⟩ := ih hnext (by omega)
      exact ⟨last, by omega, hlastLt, hisLast, hswitch.trans hsame⟩

/-- The candidate of the last point of a time is better than those of the others, and has the same
times. -/
theorem exists_better (hsorted : Sorted points)
    (h : IsCandidate points clusterWindowNs right candidate) (hnot : ¬ IsLast points right) :
    ∃ last better, candidateAt points clusterWindowNs last = some better ∧
      IsCandidate points clusterWindowNs last better ∧ IsLast points last ∧
      candidate.rank < better.rank ∧ better.minSwitchNs = candidate.minSwitchNs ∧
      better.maxSwitchNs = candidate.maxSwitchNs := by
  obtain ⟨last, hle, hlt, hisLast, hswitch⟩ := exists_isLast hsorted h.right_lt
  have hrightLt : right < last := by
    refine Nat.lt_of_le_of_ne hle fun heq => hnot ?_
    rwa [heq]
  have hstart := h.start_le
  have hnear := h.near
  rw [h.min_eq, h.max_eq] at hnear
  have hwindow : slice points candidate.startIdx (last + 1) =
      windowAt points clusterWindowNs last := by
    refine slice_eq_windowAt hsorted (by omega) hlt (fun i hi => ?_) ?_
    · rw [hswitch]
      exact h.behind i hi
    · rw [hswitch]
      exact hnear
  have hsubset : windowAt points clusterWindowNs right ⊆ windowAt points clusterWindowNs last := by
    rw [← h.window, ← hwindow, h.end_eq]
    intro point hpoint
    obtain ⟨i, hleft, hi, hget⟩ := mem_slice.mp hpoint
    exact mem_slice.mpr ⟨i, hleft, by omega, hget⟩
  have henough : minClusterTasks ≤ distinctTasks (windowAt points clusterWindowNs last) :=
    h.enough.trans (distinctTasks_mono hsubset)
  have hat : candidateAt points clusterWindowNs last =
      some (describe points last (windowAt points clusterWindowNs last)) := by
    rw [candidateAt, if_pos henough]
  have hbetter := isCandidate_of_candidateAt hsorted hlt hat
  have hlength : (windowAt points clusterWindowNs last).length = last + 1 - candidate.startIdx := by
    rw [← hwindow, length_slice hlt]
  have hsameStart : (describe points last (windowAt points clusterWindowNs last)).startIdx =
      candidate.startIdx := by
    show last + 1 - (windowAt points clusterWindowNs last).length = candidate.startIdx
    omega
  refine ⟨last, _, hat, hbetter, hisLast, ?_, ?_, ?_⟩
  · rw [rank, rank, h.tasks, h.latency, hbetter.tasks,
      hbetter.latency, hsameStart, h.end_eq, hbetter.end_eq]
    exact clusterRank_lt (distinctTasks_mono hsubset) (maxLatency_mono hsubset) (by omega)
  · rw [hbetter.min_eq, hsameStart, h.min_eq]
  · rw [hbetter.max_eq, hswitch, h.max_eq]

/-- Of the candidates only those of the last points of their times are selected. -/
theorem selectCandidates_eq_filter (hsorted : Sorted points)
    {candidates : List SpikeClusterCandidate}
    (hperm : candidates.Perm
      ((List.range points.length).filterMap (candidateAt points clusterWindowNs)))
    (top : Nat) :
    selectCandidates candidates top = GreedySelection.select overlaps
      (min (min (top * 4) (2 ^ 64 - 1)) maxClusterCandidates) []
      ((ranked candidates).filter fun candidate =>
        decide (IsLast points (candidate.endIdx - 1))) := by
  have hcandidate : ∀ candidate ∈ ranked candidates, ∃ right,
      IsCandidate points clusterWindowNs right candidate :=
    fun candidate hmem => mem_candidates hsorted
      (hperm.mem_iff.mp ((ranked_perm _).mem_iff.mp hmem))
  refine GreedySelection.select_filter (fun candidate hmem => ?_)
    fun before item after hsplit hnot => ?_
  · obtain ⟨right, h⟩ := hcandidate candidate hmem
    have := h.min_le_max hsorted
    simp only [overlaps, this, decide_true, Bool.and_self]
  · obtain ⟨right, h⟩ := hcandidate item (by
      show item ∈ ranked candidates
      unfold ranked
      rw [hsplit]
      exact List.mem_append_right _ List.mem_cons_self)
    rw [h.end_eq, Nat.add_sub_cancel, decide_eq_false_iff_not] at hnot
    obtain ⟨last, better, hat, hbetter, hisLast, hrank, hmin, hmax⟩ := exists_better hsorted h hnot
    refine .inr ⟨better, ?_, ?_, fun b => ?_⟩
    · -- it is among the candidates, and not after a worse one
      have hmem : better ∈ ranked candidates := by
        refine (ranked_perm _).mem_iff.mpr
          (hperm.mem_iff.mpr (List.mem_filterMap.mpr ⟨last, ?_, hat⟩))
        exact List.mem_range.mpr hbetter.right_lt
      have hpairwise := pairwise_ranked candidates
      have hsplit : ranked candidates = before ++ item :: after := hsplit
      rw [hsplit] at hmem hpairwise
      obtain hbefore | hrest := List.mem_append.mp hmem
      · exact hbefore
      · obtain rfl | hafter := List.mem_cons.mp hrest
        · exact absurd hrank (lt_irrefl _)
        · have := (List.pairwise_cons.mp (List.pairwise_append.mp hpairwise).2.1).1 better hafter
          exact absurd hrank (not_lt.mpr this)
    · rw [hbetter.end_eq, Nat.add_sub_cancel, decide_eq_true hisLast]
    · simp only [overlaps, hmin, hmax]

end Last

/-! ## Two orders of the points -/

section Order
variable {points other : List (SpikePoint R)} {clusterWindowNs right : Nat}

/-- The times of the positions do not depend on the order. -/
theorem switchAt_perm (hsorted : Sorted points) (hother : Sorted other) (hperm : points.Perm other)
    (idx : Nat) : switchAt points idx = switchAt other idx := by
  have htimes : points.map (·.switchNs) = other.map (·.switchNs) :=
    List.Perm.eq_of_pairwise (fun a b _ _ hab hba => Nat.le_antisymm hab hba)
      (List.pairwise_map.mpr hsorted) (List.pairwise_map.mpr hother) (hperm.map _)
  rw [switchAt, switchAt, ← List.getElem?_map, ← List.getElem?_map, htimes]

theorem isLast_perm (hsorted : Sorted points) (hother : Sorted other) (hperm : points.Perm other)
    (idx : Nat) : IsLast points idx ↔ IsLast other idx := by
  rw [IsLast, IsLast, switchAt_perm hsorted hother hperm, switchAt_perm hsorted hother hperm,
    hperm.length_eq]

/-- The points up to the last of a time are those that are not later. -/
theorem take_eq_filter (hsorted : Sorted points) (hright : right < points.length)
    (hlast : IsLast points right) :
    points.take (right + 1) = points.filter (·.switchNs ≤ switchAt points right) := by
  have hin : (points.take (right + 1)).filter (·.switchNs ≤ switchAt points right) =
      points.take (right + 1) := by
    refine List.filter_eq_self.mpr fun point hpoint => ?_
    obtain ⟨i, hi, rfl⟩ := List.mem_iff_getElem.mp hpoint
    rw [List.length_take] at hi
    rw [List.getElem_take, ← switchAt_eq (by omega), decide_eq_true_eq]
    exact hsorted.switchAt_mono (by omega) hright
  have hout : (points.drop (right + 1)).filter (·.switchNs ≤ switchAt points right) = [] := by
    refine List.filter_eq_nil_iff.mpr fun point hpoint => ?_
    obtain ⟨i, hi, rfl⟩ := List.mem_iff_getElem.mp hpoint
    rw [List.length_drop] at hi
    rw [List.getElem_drop, ← switchAt_eq (by omega), decide_eq_true_eq, not_le]
    exact (hlast (by omega)).trans_le (hsorted.switchAt_mono (by omega) (by omega))
  have hboth := congrArg (List.filter (·.switchNs ≤ switchAt points right))
    (List.take_append_drop (right + 1) points)
  rw [List.filter_append, hin, hout, List.append_nil] at hboth
  exact hboth

/-- The window of the last point of a time has the same points in both orders. -/
theorem windowAt_perm (clusterWindowNs : Nat) (hsorted : Sorted points) (hother : Sorted other)
    (hperm : points.Perm other) (hright : right < points.length) (hlast : IsLast points right) :
    (windowAt points clusterWindowNs right).Perm (windowAt other clusterWindowNs right) := by
  rw [windowAt, windowAt, take_eq_filter hsorted hright hlast, take_eq_filter hother
    (hperm.length_eq ▸ hright) ((isLast_perm hsorted hother hperm right).mp hlast),
    switchAt_perm hsorted hother hperm]
  exact (hperm.filter _).filter _

theorem candidateAt_perm (hsorted : Sorted points) (hother : Sorted other)
    (hperm : points.Perm other) (hright : right < points.length) (hlast : IsLast points right) :
    candidateAt points clusterWindowNs right = candidateAt other clusterWindowNs right := by
  have hwindow := windowAt_perm clusterWindowNs hsorted hother hperm hright hlast
  simp only [candidateAt, describe, distinctTasks_perm hwindow, maxLatency_perm hwindow,
    hwindow.length_eq, switchAt_perm hsorted hother hperm]

/-- The candidates of the last points are the same in both orders. -/
theorem lastCandidates_perm (hsorted : Sorted points) (hother : Sorted other)
    (hperm : points.Perm other) :
    ((List.range points.length).filterMap (candidateAt points clusterWindowNs)).filter
        (fun candidate => decide (IsLast points (candidate.endIdx - 1))) =
      ((List.range other.length).filterMap (candidateAt other clusterWindowNs)).filter
        fun candidate => decide (IsLast other (candidate.endIdx - 1)) := by
  have hsame : (fun candidate : SpikeClusterCandidate =>
      decide (IsLast points (candidate.endIdx - 1))) =
      fun candidate => decide (IsLast other (candidate.endIdx - 1)) :=
    funext fun candidate => decide_eq_decide.mpr (isLast_perm hsorted hother hperm _)
  rw [← hsame, ← hperm.length_eq, List.filter_filterMap, List.filter_filterMap]
  refine List.filterMap_congr fun right hright => ?_
  rw [List.mem_range] at hright
  by_cases hlast : IsLast points right
  · rw [candidateAt_perm hsorted hother hperm hright hlast]
  · have hnone : ∀ window : List (SpikePoint R), ∀ list : List (SpikePoint R),
        Option.filter (fun candidate : SpikeClusterCandidate =>
          decide (IsLast points (candidate.endIdx - 1)))
          (some (describe list right window)) = none := by
      intro window list
      rw [Option.filter_some, if_neg]
      show ¬ decide (IsLast points (right + 1 - 1)) = true
      rwa [Nat.add_sub_cancel, decide_eq_true_eq]
    rw [candidateAt, candidateAt]
    split <;> split <;> simp only [hnone, Option.filter_none]

/-- Two clusters that differ at most in how points of one time and latency stand in them. -/
structure SameUpToTies (a b : SpikeCluster R) : Prop where
  points : a.points.Perm b.points
  keys : a.points.map SpikePoint.sortKey = b.points.map SpikePoint.sortKey
  rest : { a with points := b.points } = b

theorem IsCandidate.sameUpToTies {candidate : SpikeClusterCandidate}
    (h : IsCandidate points clusterWindowNs right candidate)
    (hother : IsCandidate other clusterWindowNs right candidate) (hsorted : Sorted points)
    (hsortedOther : Sorted other)
    (hwindow : (windowAt points clusterWindowNs right).Perm
      (windowAt other clusterWindowNs right)) :
    SameUpToTies (candidate.cluster points) (candidate.cluster other) := by
  have hperm : (candidate.cluster points).points.Perm (candidate.cluster other).points :=
    ((h.reports hsorted).points.trans hwindow).trans (hother.reports hsortedOther).points.symm
  have hkeys : (candidate.cluster points).points.map SpikePoint.sortKey =
      (candidate.cluster other).points.map SpikePoint.sortKey :=
    List.Perm.eq_of_pairwise (fun a b _ _ hab hba => le_antisymm hab hba)
      (List.pairwise_map.mpr (pairwise_sortCluster _))
        (List.pairwise_map.mpr (pairwise_sortCluster _))
      (hperm.map _)
  refine ⟨hperm, hkeys, ?_⟩
  have hmin := (h.ends_cluster hsorted).1.trans (hother.ends_cluster hsortedOther).1.symm
  have hmax := (h.ends_cluster hsorted).2.trans (hother.ends_cluster hsortedOther).2.symm
  have hlatency : (candidate.cluster points).maxLatencyNs =
      (candidate.cluster other).maxLatencyNs :=
    maxLatency_perm hperm
  have hgraph : (candidate.cluster points).wakeGraph = (candidate.cluster other).wakeGraph :=
    buildWakeGraph_perm hperm
  rw [hmin, hmax, hlatency, hgraph]
  rfl

theorem length_candidateWindows (points : List (SpikePoint R)) (clusterWindowNs : Nat) :
    (candidateWindows points clusterWindowNs).length =
      ((List.range (sortBySwitch points).length).filterMap
      (candidateAt (sortBySwitch points) clusterWindowNs)).length := by
  rw [candidateWindows, List.length_filterMap_eq_countP, ← List.countP_eq_length_filter,
    List.countP_map]
  refine List.countP_congr fun right _ => ?_
  simp only [Function.comp_apply, candidateAt, decide_eq_true_eq]
  split <;> simp_all

/-- Where there is room for all candidates, the selection is one of the last points' candidates. -/
theorem selectCandidates_sweepPoints (hsorted : Sorted points)
    (hroom : ((List.range points.length).filterMap (candidateAt points clusterWindowNs)).length ≤
      maxClusterCandidates) (top : Nat) :
    selectCandidates (sweepPoints points clusterWindowNs).candidates top =
      GreedySelection.select overlaps
      (min (min (top * 4) (2 ^ 64 - 1)) maxClusterCandidates) []
      (ranked (((List.range points.length).filterMap (candidateAt points clusterWindowNs)).filter
        fun candidate => decide (IsLast points (candidate.endIdx - 1)))) := by
  have hkept : (sweepPoints points clusterWindowNs).candidates.Perm
      ((List.range points.length).filterMap (candidateAt points clusterWindowNs)) := by
    rw [sweepPoints_candidates hsorted, GreedySelection.foldl_of_room (by simpa using hroom),
      List.append_nil]
    exact List.reverse_perm _
  rw [selectCandidates_eq_filter hsorted hkept]
  congr 1
  have hperm := (((ranked_perm _).trans hkept).filter
    fun candidate => decide (IsLast points (candidate.endIdx - 1))).trans (ranked_perm _).symm
  refine List.Perm.eq_of_pairwise ?_ ((pairwise_ranked _).filter _) (pairwise_ranked _) hperm
  intro a b ha hb hba hab
  obtain ⟨_, hA⟩ := mem_candidates hsorted
    (hkept.mem_iff.mp ((ranked_perm _).mem_iff.mp (List.mem_of_mem_filter ha)))
  obtain ⟨_, hB⟩ := mem_candidates hsorted (List.mem_of_mem_filter ((ranked_perm _).mem_iff.mp hb))
  exact hA.eq_of_rank hB (le_antisymm hab hba)

theorem sameUpToTies_of_room (hperm : points.Perm other)
    (hroom : (candidateWindows points clusterWindowNs).length ≤ maxClusterCandidates)
    (hroomOther : (candidateWindows other clusterWindowNs).length ≤ maxClusterCandidates)
    (top : Nat) :
    List.Forall₂ SameUpToTies (spikeClustersFromPoints points clusterWindowNs top)
      (spikeClustersFromPoints other clusterWindowNs top) := by
  have hsorted := sorted_sortBySwitch points
  have hsortedOther := sorted_sortBySwitch other
  have hsortedPerm : (sortBySwitch points).Perm (sortBySwitch other) :=
    ((sortBySwitch_perm points).trans hperm).trans (sortBySwitch_perm other).symm
  rw [length_candidateWindows] at hroom hroomOther
  show List.Forall₂ SameUpToTies ((selectCandidates _ top).map (cluster _))
    ((selectCandidates _ top).map (cluster _))
  rw [selectCandidates_sweepPoints hsorted hroom,
    selectCandidates_sweepPoints hsortedOther hroomOther,
    lastCandidates_perm hsorted hsortedOther hsortedPerm, List.forall₂_map_left_iff,
    List.forall₂_map_right_iff, List.forall₂_same]
  intro candidate hcandidate
  obtain hnil | hranked := GreedySelection.mem_of_mem_select hcandidate
  · cases hnil
  · have hlastOther := (ranked_perm _).mem_iff.mp hranked
    have hlast := hlastOther
    rw [← lastCandidates_perm hsorted hsortedOther hsortedPerm] at hlast
    obtain ⟨hmem, hisLast⟩ := List.mem_filter.mp hlast
    obtain ⟨right, h⟩ := mem_candidates hsorted hmem
    obtain ⟨rightOther, hother⟩ := mem_candidates hsortedOther (List.mem_of_mem_filter hlastOther)
    obtain rfl : right = rightOther := Nat.succ.inj (h.end_eq.symm.trans hother.end_eq)
    rw [h.end_eq, Nat.add_sub_cancel, decide_eq_true_eq] at hisLast
    exact h.sameUpToTies hother hsorted hsortedOther
      (windowAt_perm clusterWindowNs hsorted hsortedOther hsortedPerm h.right_lt hisLast)

/-- **The spike clusters** of any points are disjoint windows with what they report of them, the
first of which is not below any window; and they depend on the order of the points, where no
candidate is dropped, only in how points of one time and latency stand in a cluster. -/
theorem spikeClusters_sound (points : List (SpikePoint R)) (clusterWindowNs top : Nat) :
    IsClustering points clusterWindowNs (spikeClustersFromPoints points clusterWindowNs top) ∧
    ∀ other : List (SpikePoint R), points.Perm other →
      (candidateWindows points clusterWindowNs).length ≤ maxClusterCandidates →
      (candidateWindows other clusterWindowNs).length ≤ maxClusterCandidates →
      List.Forall₂ SameUpToTies (spikeClustersFromPoints points clusterWindowNs top)
        (spikeClustersFromPoints other clusterWindowNs top) :=
  ⟨isClustering points clusterWindowNs top,
    fun _ hperm hroom hroomOther => sameUpToTies_of_room hperm hroom hroomOther top⟩

end Order

end Stutter.Report.Clusters

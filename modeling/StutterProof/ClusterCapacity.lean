import StutterProof.ClusterOrder

/-! # More candidates than there is room for

Spikes of one time give a candidate for every position from which on there are enough tasks, so how
many there are is a matter of their order.  Where they fill all the room, a later window that is
below them is dropped, although it overlaps none of them (`crowded_length_le`); in an order that
gives one candidate it is selected (`length_of_one`). -/
namespace Stutter.Report.Clusters

def tiePoint (task latencyNs switchNs : Nat) : SpikePoint Unit :=
  ⟨task, "", latencyNs, switchNs, 0, "", ()⟩

/-- Spikes of three tasks at a later time. -/
def latePoints : List (SpikePoint Unit) := [tiePoint 4 1 10, tiePoint 5 1 10, tiePoint 6 1 10]

section Crowd
variable {early : List (SpikePoint Unit)} {right : Nat} {candidate : SpikeClusterCandidate}

/-- Spikes at one time, each with a greater latency than the later ones. -/
def IsEarly (early : List (SpikePoint Unit)) : Prop :=
  ∀ point ∈ early, point.switchNs = 0 ∧ point.latencyNs = 9

theorem IsEarly.sorted (h : IsEarly early) : Sorted (early ++ latePoints) := by
  refine List.pairwise_append.mpr ⟨?_, by decide, fun a ha b _ => ?_⟩
  · refine List.pairwise_of_forall_mem_list fun a ha b _ => ?_
    rw [(h a ha).1]
    exact Nat.zero_le _
  · rw [(h a ha).1]
    exact Nat.zero_le _

theorem IsEarly.sortBySwitch_eq (h : IsEarly early) :
    sortBySwitch (early ++ latePoints) = early ++ latePoints :=
  h.sorted.insertionSort_eq

theorem IsEarly.switchAt_early (h : IsEarly early) (hright : right < early.length) :
    switchAt (early ++ latePoints) right = 0 := by
  rw [switchAt, List.getElem?_append_left hright, List.getElem?_eq_getElem hright]
  exact (h _ (List.getElem_mem hright)).1

theorem IsEarly.windowAt_early (h : IsEarly early) (hright : right < early.length) :
    windowAt (early ++ latePoints) 0 right = early.take (right + 1) := by
  rw [windowAt, h.switchAt_early hright, List.take_append_of_le_length hright]
  refine List.filter_eq_self.mpr fun point _ => ?_
  rw [Nat.zero_sub, decide_eq_true_eq]

theorem switchAt_late (later : Nat) (hlater : later < 3) :
    switchAt (early ++ latePoints) (early.length + later) = 10 := by
  rw [switchAt, List.getElem?_append_right (Nat.le_add_right ..), Nat.add_sub_cancel_left]
  obtain rfl | rfl | rfl : later = 0 ∨ later = 1 ∨ later = 2 := by omega
  · rfl
  · rfl
  · rfl

theorem IsEarly.windowAt_late (h : IsEarly early) {later : Nat} (hlater : later < 3) :
    windowAt (early ++ latePoints) 0 (early.length + later) = latePoints.take (later + 1) := by
  have htake : (early ++ latePoints).take (early.length + later + 1) =
      early ++ latePoints.take (later + 1) := by
    rw [Nat.add_assoc, List.take_length_add_append]
  rw [windowAt, switchAt_late later hlater, htake, List.filter_append]
  have hearly : early.filter (fun point => 10 - point.switchNs ≤ 0) = [] := by
    refine List.filter_eq_nil_iff.mpr fun point hpoint => ?_
    rw [(h point hpoint).1]
    decide
  rw [hearly, List.nil_append]
  obtain rfl | rfl | rfl : later = 0 ∨ later = 1 ∨ later = 2 := by omega
  · decide
  · decide
  · decide

/-- The candidate of the later time. -/
def lateCandidate (early : List (SpikePoint Unit)) : SpikeClusterCandidate :=
  describe (early ++ latePoints) (early.length + 2) latePoints

theorem IsEarly.candidates_eq (h : IsEarly early) :
    (List.range (early ++ latePoints).length).filterMap (candidateAt (early ++ latePoints) 0) =
      (List.range early.length).filterMap
        (candidateAt (early ++ latePoints) 0) ++ [lateCandidate early] := by
  have hfirst : candidateAt (early ++ latePoints) 0 early.length = none := by
    rw [candidateAt, ← Nat.add_zero early.length, h.windowAt_late (by decide), if_neg (by decide)]
  have hsecond : candidateAt (early ++ latePoints) 0 (early.length + 1) = none := by
    rw [candidateAt, h.windowAt_late (by decide), if_neg (by decide)]
  have hthird : candidateAt (early ++ latePoints) 0 (early.length + 2) =
      some (lateCandidate early) := by
    rw [candidateAt, h.windowAt_late (by decide), if_pos (by decide)]
    rfl
  have hlength : (early ++ latePoints).length = early.length + 3 := List.length_append
  rw [hlength, List.range_succ, List.range_succ, List.range_succ, List.filterMap_append,
    List.filterMap_append, List.filterMap_append]
  simp only [List.filterMap_cons, List.filterMap_nil, hfirst, hsecond, hthird, List.append_nil]

theorem clusterRank_lt_of_latency {tasks tasks' latency latency' length length' start start' : Nat}
    (htasks : tasks ≤ tasks') (hlatency : latency < latency') :
    clusterRank tasks latency length start < clusterRank tasks' latency' length' start' := by
  simp only [clusterRank, Prod.Lex.toLex_lt_toLex]
  omega

theorem IsEarly.maxLatency_eq (h : IsEarly early) (hright : right < early.length) :
    maxLatency (early.take (right + 1)) = 9 := by
  have hmax : ((early.take (right + 1)).map (·.latencyNs)).max? = some 9 := by
    rw [List.max?_eq_some_iff]
    have hall : ∀ latency ∈ (early.take (right + 1)).map (·.latencyNs), latency = 9 := by
      intro latency hlatency
      obtain ⟨point, hpoint, rfl⟩ := List.mem_map.mp hlatency
      exact (h point (List.mem_of_mem_take hpoint)).2
    refine ⟨?_, fun latency hlatency => (hall latency hlatency).le⟩
    have hlength : right < (early.take (right + 1)).length := by
      rw [List.length_take]
      omega
    have hmem : (early.take (right + 1))[right] ∈ early.take (right + 1) := List.getElem_mem hlength
    rw [← hall _ (List.mem_map_of_mem hmem)]
    exact List.mem_map_of_mem hmem
  rw [maxLatency, hmax]
  rfl

/-- A candidate of the earlier time lies there, and is better than the later one. -/
theorem IsEarly.better (h : IsEarly early) (hright : right < early.length)
    (hcandidate : candidateAt (early ++ latePoints) 0 right = some candidate) :
    candidate.minSwitchNs = 0 ∧ candidate.maxSwitchNs = 0 ∧
      (lateCandidate early).rank < candidate.rank := by
  have hlength : right < (early ++ latePoints).length := by
    rw [List.length_append]
    omega
  have his := isCandidate_of_candidateAt h.sorted hlength hcandidate
  have hstart := his.start_le
  have hmin := his.min_eq
  have hmax := his.max_eq
  rw [h.switchAt_early (by omega)] at hmin hmax
  refine ⟨hmin, hmax, ?_⟩
  have htasks := his.enough
  have hlatency := his.latency
  rw [← his.tasks] at htasks
  rw [h.windowAt_early hright, h.maxLatency_eq hright] at hlatency
  rw [SpikeClusterCandidate.rank, SpikeClusterCandidate.rank, hlatency]
  refine clusterRank_lt_of_latency htasks ?_
  show maxLatency latePoints < 9
  decide

open GreedySelection

/-- **Where the candidates of the earlier time fill the room, the later one is dropped**, and there
is at most one cluster. -/
theorem crowded_length_le (h : IsEarly early) (hfull : ((List.range early.length).filterMap
    (candidateAt (early ++ latePoints) 0)).length = maxClusterCandidates) (top : Nat) :
    (spikeClustersFromPoints (early ++ latePoints) 0 top).length ≤ 1 := by
  have hbetter : ∀ candidate ∈
      (List.range early.length).filterMap (candidateAt (early ++ latePoints) 0),
      candidate.minSwitchNs = 0 ∧ candidate.maxSwitchNs = 0 ∧
        (lateCandidate early).rank < candidate.rank := by
    intro candidate hmem
    obtain ⟨right, hright, hcandidate⟩ := List.mem_filterMap.mp hmem
    exact h.better (List.mem_range.mp hright) hcandidate
  have hkept : (sweepPoints (early ++ latePoints) 0).candidates =
      ((List.range early.length).filterMap (candidateAt (early ++ latePoints) 0)).reverse := by
    have hfirst : ((List.range early.length).filterMap (candidateAt (early ++ latePoints) 0)).foldl
        (keepBest SpikeClusterCandidate.rank maxClusterCandidates) [] =
          ((List.range early.length).filterMap (candidateAt (early ++ latePoints) 0)).reverse := by
      rw [foldl_of_room (by rw [List.length_nil, hfull, Nat.zero_add]),
        List.append_nil]
    rw [sweepPoints_candidates h.sorted, h.candidates_eq, List.foldl_append, hfirst,
      List.foldl_cons, List.foldl_nil, keepBest, List.length_reverse, hfull,
      if_neg (lt_irrefl _)]
    split
    · rename_i worst hworst
      have hmem := List.mem_reverse.mp (List.argmin_mem hworst)
      rw [if_neg (not_lt.mpr (hbetter worst hmem).2.2.le)]
    · rfl
  rw [spikeClustersFromPoints, h.sortBySwitch_eq, List.length_map, hkept]
  have hzero : ∀ candidate ∈ selectCandidates ((List.range early.length).filterMap
      (candidateAt (early ++ latePoints) 0)).reverse top,
      candidate.minSwitchNs = 0 ∧ candidate.maxSwitchNs = 0 := by
    intro candidate hmem
    have := hbetter candidate (List.mem_reverse.mp (mem_of_mem_selectCandidates hmem))
    exact ⟨this.1, this.2.1⟩
  have hdisjoint := selectCandidates_disjoint ((List.range early.length).filterMap
    (candidateAt (early ++ latePoints) 0)).reverse top
  -- two of them would lie at one time
  generalize selectCandidates _ top = selected at hzero hdisjoint
  rcases selected with _ | ⟨a, _ | ⟨b, rest⟩⟩
  · exact Nat.zero_le _
  · exact le_rfl
  · have hab := (List.pairwise_cons.mp hdisjoint).1 b List.mem_cons_self
    have ha := hzero a List.mem_cons_self
    have hb := hzero b (List.mem_cons_of_mem _ List.mem_cons_self)
    omega

/-- Where the earlier time has one candidate, the later one is selected after it. -/
theorem length_of_one (h : IsEarly early) (hone : (List.range early.length).filterMap
    (candidateAt (early ++ latePoints) 0) = [candidate]) (top : Nat) (htop : 0 < top) :
    (spikeClustersFromPoints (early ++ latePoints) 0 top).length = 2 := by
  obtain ⟨right, hright, hcandidate⟩ := List.mem_filterMap.mp
    (show candidate ∈ (List.range early.length).filterMap (candidateAt (early ++ latePoints) 0) by
      rw [hone]
      exact List.mem_singleton.mpr rfl)
  obtain ⟨hmin, hmax, hrank⟩ := h.better (List.mem_range.mp hright) hcandidate
  have hlateMin : (lateCandidate early).minSwitchNs = 10 := by
    show switchAt (early ++ latePoints) (early.length + 2 + 1 - latePoints.length) = 10
    exact switchAt_late 0 (by decide)
  have hkept : (sweepPoints (early ++ latePoints) 0).candidates =
      [lateCandidate early, candidate] := by
    rw [sweepPoints_candidates h.sorted, h.candidates_eq, hone,
      foldl_of_room (show 0 + 2 ≤ maxClusterCandidates by decide)]
    rfl
  have hranked : ranked [lateCandidate early, candidate] = [candidate, lateCandidate early] := by
    rw [ranked, List.insertionSort_cons, List.insertionSort_cons, List.insertionSort_nil,
      List.orderedInsert_nil, List.orderedInsert_cons, if_neg (not_le.mpr hrank),
      List.orderedInsert_nil]
  have hapart : overlaps candidate (lateCandidate early) = false := by
    rw [overlaps, hlateMin, hmax]
    rfl
  have hlimit : 2 < min (min (top * 4) (2 ^ 64 - 1)) maxClusterCandidates := by
    rw [maxClusterCandidates]
    omega
  rw [spikeClustersFromPoints, h.sortBySwitch_eq, List.length_map, hkept]
  show (select overlaps _ [] (ranked [lateCandidate early, candidate])).length = 2
  rw [hranked, select, List.any_nil, if_neg Bool.false_ne_true, List.nil_append,
    if_neg (by rw [List.length_singleton]; omega), select, List.any_cons, hapart,
    List.any_nil, Bool.or_false, if_neg Bool.false_ne_true]
  split
  · rfl
  · rfl

/-- Spikes of one time: two of a task each, and any number of a third. -/
def crowd (n : Nat) : List (SpikePoint Unit) :=
  tiePoint 2 9 0 :: tiePoint 3 9 0 :: List.replicate n (tiePoint 1 9 0)

theorem isEarly_crowd (n : Nat) : IsEarly (crowd n) := by
  intro point hpoint
  obtain rfl | rfl | hrest : point = tiePoint 2 9 0 ∨ point = tiePoint 3 9 0 ∨
      point ∈ List.replicate n (tiePoint 1 9 0) := by simpa [crowd] using hpoint
  · exact ⟨rfl, rfl⟩
  · exact ⟨rfl, rfl⟩
  · rw [List.eq_of_mem_replicate hrest]
    exact ⟨rfl, rfl⟩

/-- With the two first, each of the others ends a window with three tasks. -/
theorem length_candidates_crowd (n : Nat) : ((List.range (crowd n).length).filterMap
    (candidateAt (crowd n ++ latePoints) 0)).length = n := by
  have hlength : (crowd n).length = 2 + n := by
    rw [crowd, List.length_cons, List.length_cons, List.length_replicate]
    omega
  have hfirst : candidateAt (crowd n ++ latePoints) 0 0 = none := by
    rw [candidateAt, (isEarly_crowd n).windowAt_early (by omega), if_neg]
    show ¬ minClusterTasks ≤ distinctTasks [tiePoint 2 9 0]
    decide
  have hsecond : candidateAt (crowd n ++ latePoints) 0 1 = none := by
    rw [candidateAt, (isEarly_crowd n).windowAt_early (by omega), if_neg]
    show ¬ minClusterTasks ≤ distinctTasks [tiePoint 2 9 0, tiePoint 3 9 0]
    decide
  have hothers : ∀ k < n, (candidateAt (crowd n ++ latePoints) 0 (2 + k)).isSome = true := by
    intro k hk
    rw [candidateAt, (isEarly_crowd n).windowAt_early (by omega), if_pos, Option.isSome_some]
    have hsubset : [tiePoint 2 9 0, tiePoint 3 9 0, tiePoint 1 9 0] ⊆ (crowd n).take
        (2 + k + 1) := by
      obtain ⟨m, rfl⟩ : ∃ m, n = m + 1 := ⟨n - 1, by omega⟩
      rw [show 2 + k + 1 = k + 1 + 1 + 1 by omega, crowd, List.take_succ_cons, List.take_succ_cons,
        List.replicate_succ, List.take_succ_cons]
      intro point hpoint
      simp only [List.mem_cons, List.not_mem_nil, or_false] at hpoint ⊢
      tauto
    exact (show minClusterTasks ≤ distinctTasks [tiePoint 2 9 0, tiePoint 3 9 0, tiePoint 1 9 0] by
      decide).trans (distinctTasks_mono hsubset)
  rw [hlength, List.range_add, List.filterMap_append, List.filterMap_map, List.length_append,
    List.length_filterMap_eq_countP, List.length_filterMap_eq_countP]
  have hrange : List.range 2 = [0, 1] := rfl
  have hall : (List.range n).countP (fun k =>
      (candidateAt (crowd n ++ latePoints) 0 (2 + k)).isSome) = n := by
    rw [List.countP_eq_length.mpr fun k hk => hothers k (List.mem_range.mp hk), List.length_range]
  simp only [hrange, List.countP_cons, List.countP_nil, hfirst, hsecond, Option.isSome_none,
    Bool.false_eq_true, if_false, Function.comp_def, hall]
  omega

/-- With the two last, only the last of all does. -/
theorem candidates_crowd_reverse {n : Nat} (hn : 0 < n) : ∃ candidate,
    (List.range (crowd n).reverse.length).filterMap
      (candidateAt ((crowd n).reverse ++ latePoints) 0) =
      [candidate] := by
  have hearly : IsEarly (crowd n).reverse :=
    fun point hpoint => isEarly_crowd n point (List.mem_reverse.mp hpoint)
  have hlength : (crowd n).reverse.length = n + 1 + 1 := by
    rw [List.length_reverse, crowd, List.length_cons, List.length_cons, List.length_replicate]
  have hcrowd : (crowd n).reverse = (List.replicate n (tiePoint 1 9 0) ++ [tiePoint 3 9 0]) ++
      [tiePoint 2 9 0] := by
    rw [crowd, List.reverse_cons, List.reverse_cons, List.reverse_replicate]
  have hbefore : (List.range (n + 1)).filterMap (candidateAt ((crowd n).reverse ++ latePoints) 0) =
      [] := by
    refine List.filterMap_eq_nil_iff.mpr fun right hright => ?_
    rw [List.mem_range] at hright
    rw [candidateAt, hearly.windowAt_early (by omega), if_neg]
    have hsubset : (crowd n).reverse.take (right + 1) ⊆ [tiePoint 1 9 0, tiePoint 3 9 0] := by
      rw [hcrowd, List.take_append_of_le_length (by simp; omega)]
      intro point hpoint
      obtain hone | htwo := List.mem_append.mp (List.mem_of_mem_take hpoint)
      · rw [List.eq_of_mem_replicate hone]
        exact List.mem_cons_self
      · exact List.mem_cons_of_mem _ htwo
    have hfew : distinctTasks [tiePoint 1 9 0, tiePoint 3 9 0] < minClusterTasks := by decide
    exact not_le.mpr ((distinctTasks_mono hsubset).trans_lt hfew)
  have hlast : ∃ candidate, candidateAt ((crowd n).reverse ++ latePoints) 0 (n + 1) =
      some candidate := by
    rw [candidateAt, hearly.windowAt_early (by omega), if_pos]
    · exact ⟨_, rfl⟩
    · rw [List.take_of_length_le (by omega)]
      have hsubset : [tiePoint 1 9 0, tiePoint 3 9 0, tiePoint 2 9 0] ⊆ (crowd n).reverse := by
        obtain ⟨m, rfl⟩ : ∃ m, n = m + 1 := ⟨n - 1, by omega⟩
        rw [hcrowd, List.replicate_succ]
        intro point hpoint
        simp only [List.mem_cons, List.mem_append, List.not_mem_nil, or_false] at hpoint ⊢
        tauto
      exact (show minClusterTasks ≤ distinctTasks [tiePoint 1 9 0, tiePoint 3 9 0,
        tiePoint 2 9 0] by
        decide).trans (distinctTasks_mono hsubset)
  obtain ⟨candidate, hcandidate⟩ := hlast
  refine ⟨candidate, ?_⟩
  rw [hlength, List.range_succ, List.filterMap_append, hbefore, List.filterMap_cons, hcandidate]
  rfl

/-- The order of points of one time changes how they stand in a cluster and, with more candidates
than there is room for, which clusters there are. -/
theorem clusters_depend_on_order :
    spikeClustersFromPoints [tiePoint 1 5 0, tiePoint 2 5 0, tiePoint 3 5 0] 0 1 ≠
      spikeClustersFromPoints [tiePoint 2 5 0, tiePoint 1 5 0, tiePoint 3 5 0] 0 1 ∧
    (spikeClustersFromPoints (crowd maxClusterCandidates ++ latePoints) 0 10).length ≠
      (spikeClustersFromPoints ((crowd maxClusterCandidates).reverse ++ latePoints) 0
        10).length := by
  refine ⟨by decide, ?_⟩
  have hfront := crowded_length_le (isEarly_crowd maxClusterCandidates)
    (length_candidates_crowd maxClusterCandidates) 10
  obtain ⟨candidate, hone⟩ := candidates_crowd_reverse (n := maxClusterCandidates) (by decide)
  have hback :=
    length_of_one (fun point hpoint => isEarly_crowd _ point (List.mem_reverse.mp hpoint))
    hone 10 (by decide)
  omega

end Crowd

end Stutter.Report.Clusters

import StutterProof.SpikeClusters

/-! # The sweep of the spike clusters

The window of a position holds the points up to it that are not too old.  The sweep keeps exactly
this window: its counts, its queue and its left edge are those of the window at every position, so a
candidate says of its points what is true of them (`sweepPoints_candidates`). -/
namespace Stutter.Report.Clusters

open TwoPointer (Counts IsQueue)

variable {R : Type}

/-! ## Windows -/

def distinctTasks (points : List (SpikePoint R)) : Nat := (points.map (·.task)).dedup.length

section Windows
variable (points : List (SpikePoint R)) (clusterWindowNs : Nat)

/-- The window that ends at a position of the sorted points. -/
def windowAt (rightIdx : Nat) : List (SpikePoint R) :=
  (points.take (rightIdx + 1)).filter fun point =>
    switchAt points rightIdx - point.switchNs ≤ clusterWindowNs

/-- What a candidate says of a window. -/
def describe (rightIdx : Nat) (window : List (SpikePoint R)) : SpikeClusterCandidate where
  startIdx := rightIdx + 1 - window.length
  endIdx := rightIdx + 1
  distinctTasks := distinctTasks window
  minSwitchNs := switchAt points (rightIdx + 1 - window.length)
  maxSwitchNs := switchAt points rightIdx
  maxLatencyNs := maxLatency window

/-- The candidate of a position. -/
def candidateAt (rightIdx : Nat) : Option SpikeClusterCandidate :=
  if minClusterTasks ≤ distinctTasks (windowAt points clusterWindowNs rightIdx) then
    some (describe points rightIdx (windowAt points clusterWindowNs rightIdx))
  else none

end Windows

/-- Sorted by time. -/
def Sorted (points : List (SpikePoint R)) : Prop :=
  points.Pairwise fun a b => a.switchNs ≤ b.switchNs

theorem sorted_sortBySwitch (points : List (SpikePoint R)) : Sorted (sortBySwitch points) :=
  List.pairwise_insertionSort (fun a b : SpikePoint R => a.switchNs ≤ b.switchNs) points

theorem sortBySwitch_perm (points : List (SpikePoint R)) : (sortBySwitch points).Perm points :=
  List.perm_insertionSort _ _

/-! ## Slices -/

section Slices
variable {points : List (SpikePoint R)} {clusterWindowNs left right idx : Nat}

theorem switchAt_eq (h : idx < points.length) : switchAt points idx = points[idx].switchNs := by
  rw [switchAt, List.getElem?_eq_getElem h]
  rfl

theorem latencyAt_eq (h : idx < points.length) : latencyAt points idx = points[idx].latencyNs := by
  rw [latencyAt, List.getElem?_eq_getElem h]
  rfl

theorem taskAt_eq (h : idx < points.length) : taskAt points idx = points[idx].task := by
  rw [taskAt, List.getElem?_eq_getElem h]
  rfl

theorem Sorted.switchAt_mono (h : Sorted points) {i j : Nat} (hij : i ≤ j)
    (hj : j < points.length) :
    switchAt points i ≤ switchAt points j := by
  rw [switchAt_eq hj, switchAt_eq (by omega)]
  obtain rfl | hlt := Nat.eq_or_lt_of_le hij
  · exact le_rfl
  · exact List.pairwise_iff_getElem.mp h i j (by omega) hj hlt

theorem slice_self : slice points left left = [] := by
  rw [slice, Nat.sub_self, List.take_zero]

theorem length_slice (hright : right ≤ points.length) :
    (slice points left right).length = right - left := by
  rw [slice, List.length_take, List.length_drop]
  omega

theorem getElem?_slice (i : Nat) :
    (slice points left right)[i]? = if i < right - left then points[left + i]? else none := by
  rw [slice, List.getElem?_take, List.getElem?_drop]

/-- The point after a slice. -/
theorem slice_succ (hle : left ≤ right) (h : right < points.length) :
    slice points left (right + 1) = slice points left right ++ [points[right]] := by
  have hlength : right - left < (points.drop left).length := by
    rw [List.length_drop]
    omega
  rw [slice, slice, Nat.succ_sub hle, List.take_succ_eq_append_getElem hlength, List.getElem_drop]
  simp only [Nat.add_sub_cancel' hle]

/-- The first point of a slice. -/
theorem slice_cons (hlt : left < right) (h : left < points.length) :
    slice points left right = points[left] :: slice points (left + 1) right := by
  rw [slice, slice, List.drop_eq_getElem_cons h,
    show right - left = right - (left + 1) + 1 by omega,
    List.take_succ_cons]

theorem mem_slice {point : SpikePoint R} :
    point ∈ slice points left right ↔ ∃ i, left ≤ i ∧ i < right ∧ points[i]? = some point := by
  rw [List.mem_iff_getElem?]
  constructor
  · rintro ⟨i, hi⟩
    rw [getElem?_slice] at hi
    split at hi
    · exact ⟨left + i, by omega, by omega, hi⟩
    · cases hi
  · rintro ⟨i, hleft, hright, hi⟩
    refine ⟨i - left, ?_⟩
    rw [getElem?_slice, if_pos (by omega), Nat.add_sub_cancel' hleft, hi]

theorem take_eq_append_slice (hle : left ≤ right) :
    points.take right = points.take left ++ slice points left right := by
  rw [slice, ← List.take_add, Nat.add_sub_cancel' hle]

/-- A slice is the window of its last position, if what is before it is too old and it is not. -/
theorem slice_eq_windowAt (hsorted : Sorted points) (hle : left ≤ right)
    (hright : right < points.length)
    (hold : ∀ i < left, clusterWindowNs < switchAt points right - switchAt points i)
    (hnear : switchAt points right - switchAt points left ≤ clusterWindowNs) :
    slice points left (right + 1) = windowAt points clusterWindowNs right := by
  rw [windowAt, take_eq_append_slice (Nat.le_succ_of_le hle), List.filter_append]
  have hbefore : (points.take left).filter
      (fun point => switchAt points right - point.switchNs ≤ clusterWindowNs) = [] := by
    refine List.filter_eq_nil_iff.mpr fun point hpoint => ?_
    obtain ⟨i, hi, rfl⟩ := List.mem_iff_getElem.mp hpoint
    rw [List.length_take] at hi
    have := hold i (by omega)
    rw [switchAt_eq (by omega : i < points.length)] at this
    rw [List.getElem_take, decide_eq_true_eq]
    omega
  have hin : (slice points left (right + 1)).filter
      (fun point => switchAt points right - point.switchNs ≤ clusterWindowNs) =
        slice points left (right + 1) := by
    refine List.filter_eq_self.mpr fun point hpoint => ?_
    obtain ⟨i, hleft, hi, hget⟩ := mem_slice.mp hpoint
    obtain ⟨hlength, rfl⟩ := List.getElem?_eq_some_iff.mp hget
    have := hsorted.switchAt_mono hleft hlength
    rw [switchAt_eq hlength] at this
    rw [decide_eq_true_eq]
    omega
  rw [hbefore, hin, List.nil_append]

/-- The greatest latency of a slice is that of a position of it that no other exceeds. -/
theorem maxLatency_slice {front : Nat} (hfront : left ≤ front) (hlt : front < right)
    (hright : right ≤ points.length)
    (hmax : ∀ i, left ≤ i → i < right → latencyAt points i ≤ latencyAt points front) :
    maxLatency (slice points left right) = latencyAt points front := by
  have hmem : points[front] ∈ slice points left right :=
    mem_slice.mpr ⟨front, hfront, hlt, List.getElem?_eq_getElem (by omega)⟩
  have hsome : ((slice points left right).map (·.latencyNs)).max? =
      some (latencyAt points front) := by
    rw [List.max?_eq_some_iff]
    refine ⟨List.mem_map.mpr ⟨_, hmem, (latencyAt_eq (by omega)).symm⟩, fun latency hlatency => ?_⟩
    obtain ⟨point, hpoint, rfl⟩ := List.mem_map.mp hlatency
    obtain ⟨i, hleft, hi, hget⟩ := mem_slice.mp hpoint
    obtain ⟨hlength, rfl⟩ := List.getElem?_eq_some_iff.mp hget
    have := hmax i hleft hi
    rwa [latencyAt_eq hlength] at this
  rw [maxLatency, hsome]
  rfl

end Slices

/-! ## The loop -/

section Loop
variable {points : List (SpikePoint R)} {clusterWindowNs right : Nat} {sweep : Sweep}

/-- The sweep is at the window from its left edge to before a position. -/
structure Sweep.AtWindow (points : List (SpikePoint R)) (sweep : Sweep) (right : Nat) : Prop where
  left_le : sweep.leftIdx ≤ right
  right_le : right ≤ points.length
  counts : Counts sweep.taskCounts ((slice points sweep.leftIdx right).map (·.task))
  queue : IsQueue (latencyAt points) sweep.leftIdx right sweep.maxLatencyCandidates

theorem Sweep.AtWindow.enter (h : sweep.AtWindow points right) (hright : right < points.length) :
    (sweep.enter points right).AtWindow points (right + 1) where
  left_le := Nat.le_succ_of_le h.left_le
  right_le := hright
  counts := by
    show Counts (TwoPointer.increment _ _) ((slice points sweep.leftIdx (right + 1)).map _)
    rw [slice_succ h.left_le hright, List.map_append, List.map_singleton, taskAt_eq hright]
    exact h.counts.increment _
  queue := h.queue.pushBack h.left_le

theorem Sweep.AtWindow.leave (h : sweep.AtWindow points right) (hlt : sweep.leftIdx < right) :
    (sweep.leave points).AtWindow points right where
  left_le := hlt
  right_le := h.right_le
  counts := by
    have hlength : sweep.leftIdx < points.length := Nat.lt_of_lt_of_le hlt h.right_le
    have hcounts := h.counts
    rw [slice_cons hlt hlength, List.map_cons] at hcounts
    show Counts (TwoPointer.decrement _ (taskAt points sweep.leftIdx)) _
    rw [taskAt_eq hlength]
    exact hcounts.decrement
  queue := h.queue.popFront

/-- Everything before the left edge is too old at a position. -/
def Sweep.LeftBehind (points : List (SpikePoint R)) (clusterWindowNs : Nat) (sweep : Sweep)
    (right : Nat) : Prop :=
  ∀ i < sweep.leftIdx, clusterWindowNs < switchAt points right - switchAt points i

/-- The loop over the left edge ends at the window of the right one. -/
theorem dropOld_spec {fuel : Nat} (hfuel : sweep.leftIdx + fuel = right + 1)
    (h : sweep.AtWindow points (right + 1)) (hle : sweep.leftIdx ≤ right)
    (hbehind : sweep.LeftBehind points clusterWindowNs right) :
    let after := dropOld points clusterWindowNs right fuel sweep
    after.AtWindow points (right + 1) ∧ after.leftIdx ≤ right ∧
      after.LeftBehind points clusterWindowNs right ∧
      switchAt points right - switchAt points after.leftIdx ≤ clusterWindowNs ∧
      after.candidates = sweep.candidates := by
  induction fuel generalizing sweep with
  | zero => omega
  | succ fuel ih =>
    simp only [dropOld]
    by_cases hold : clusterWindowNs < switchAt points right - switchAt points sweep.leftIdx
    · rw [if_pos hold]
      have hlt : sweep.leftIdx < right := by
        refine Nat.lt_of_le_of_ne hle fun heq => ?_
        rw [heq] at hold
        omega
      have hfuel : (sweep.leave points).leftIdx + fuel = right + 1 := by
        show sweep.leftIdx + 1 + fuel = right + 1
        omega
      refine ih hfuel (h.leave (by omega)) hlt fun i hi => ?_
      have hi : i < sweep.leftIdx + 1 := hi
      obtain rfl | hbefore := Nat.eq_or_lt_of_le (Nat.le_of_lt_succ hi)
      · exact hold
      · exact hbehind i hbefore
    · rw [if_neg hold]
      exact ⟨h, hle, hbehind, by omega, rfl⟩

/-- The candidate of the sweep, at the window of a position. -/
theorem Sweep.candidate_eq (hsorted : Sorted points) (h : sweep.AtWindow points (right + 1))
    (hle : sweep.leftIdx ≤ right) (hbehind : sweep.LeftBehind points clusterWindowNs right)
    (hnear : switchAt points right - switchAt points sweep.leftIdx ≤ clusterWindowNs) :
    sweep.taskCounts.entries.length = distinctTasks (windowAt points clusterWindowNs right) ∧
      sweep.candidate points right = describe points right
        (windowAt points clusterWindowNs right) := by
  have hslice := slice_eq_windowAt hsorted hle h.right_le hbehind hnear
  have hlength : (windowAt points clusterWindowNs right).length = right + 1 - sweep.leftIdx := by
    rw [← hslice, length_slice h.right_le]
  have hleft : right + 1 - (windowAt points clusterWindowNs right).length =
      sweep.leftIdx := by omega
  have hcounts : sweep.taskCounts.entries.length =
      distinctTasks (windowAt points clusterWindowNs right) := by
    rw [h.counts.length_eq, hslice, distinctTasks]
  obtain ⟨front, hfront, hfrontLe, hfrontLt, hmax⟩ := h.queue.front (Nat.lt_succ_of_le hle)
  have hlatency : maxLatency (windowAt points clusterWindowNs right) = latencyAt points front := by
    rw [← hslice]
    exact maxLatency_slice hfrontLe hfrontLt h.right_le hmax
  refine ⟨hcounts, ?_⟩
  simp only [Sweep.candidate, describe, hleft, hcounts, hlatency, hfront, Option.map_some,
    Option.getD_some]

/-- The sweep has handled the positions before one. -/
structure Sweep.Before (points : List (SpikePoint R)) (clusterWindowNs : Nat) (sweep : Sweep)
    (right : Nat) : Prop where
  atWindow : sweep.AtWindow points right
  behind : right < points.length → sweep.LeftBehind points clusterWindowNs right
  candidates : sweep.candidates =
    ((List.range right).filterMap (candidateAt points clusterWindowNs)).foldl
    (GreedySelection.keepBest SpikeClusterCandidate.rank maxClusterCandidates) []

theorem Sweep.Before.sweepPoint (hsorted : Sorted points)
    (h : sweep.Before points clusterWindowNs right) (hright : right < points.length) :
    (sweepPoint points clusterWindowNs sweep right).Before points clusterWindowNs (right + 1) := by
  obtain ⟨after, hafter⟩ : ∃ after, dropOld points clusterWindowNs right
      (right + 1 - (sweep.enter points right).leftIdx) (sweep.enter points right) = after :=
        ⟨_, rfl⟩
  have hfuel : (sweep.enter points right).leftIdx +
      (right + 1 - (sweep.enter points right).leftIdx) =
      right + 1 := Nat.add_sub_cancel' (Nat.le_succ_of_le h.atWindow.left_le)
  have hspec := dropOld_spec hfuel (h.atWindow.enter hright) h.atWindow.left_le (h.behind hright)
  simp only [hafter] at hspec
  obtain ⟨hwindow, hle, hbehind, hnear, hkept⟩ := hspec
  have hkept : after.candidates = sweep.candidates := hkept
  obtain ⟨hcounts, hcandidate⟩ := Sweep.candidate_eq hsorted hwindow hle hbehind hnear
  -- what is too old at a position is too old at the next
  have hnext : right + 1 < points.length → after.LeftBehind points clusterWindowNs (right + 1) := by
    intro hlength i hi
    have hlater := hsorted.switchAt_mono (Nat.le_add_right right 1) hlength
    have := hbehind i hi
    omega
  simp only [Clusters.sweepPoint, hafter]
  by_cases henough : minClusterTasks ≤ distinctTasks (windowAt points clusterWindowNs right)
  · rw [if_pos (hcounts ▸ henough)]
    refine ⟨⟨hwindow.left_le, hwindow.right_le, hwindow.counts, hwindow.queue⟩, hnext, ?_⟩
    show GreedySelection.keepBest _ _ _ _ = _
    rw [hkept, hcandidate, h.candidates, List.range_succ, List.filterMap_append, List.foldl_append]
    simp only [List.filterMap_cons, candidateAt, if_pos henough, List.filterMap_nil,
      List.foldl_cons, List.foldl_nil]
  · rw [if_neg (hcounts ▸ henough)]
    refine ⟨⟨hwindow.left_le, hwindow.right_le, hwindow.counts, hwindow.queue⟩, hnext, ?_⟩
    rw [hkept, h.candidates, List.range_succ, List.filterMap_append, List.foldl_append]
    simp only [List.filterMap_cons, candidateAt, if_neg henough, List.filterMap_nil, List.foldl_nil]

/-- **The candidates of the sweep** are those of the positions, as far as there is room for them. -/
theorem sweepPoints_candidates (hsorted : Sorted points) :
    (sweepPoints points clusterWindowNs).candidates =
      ((List.range points.length).filterMap (candidateAt points clusterWindowNs)).foldl
        (GreedySelection.keepBest SpikeClusterCandidate.rank maxClusterCandidates) [] := by
  have hrun : ∀ n ≤ points.length,
      ((List.range n).foldl (sweepPoint points clusterWindowNs) {}).Before
      points clusterWindowNs n := by
    intro n hn
    induction n with
    | zero =>
      refine ⟨⟨le_rfl, Nat.zero_le _, ?_, .empty⟩, fun _ => nofun, rfl⟩
      show Counts Table.empty ((slice points 0 0).map _)
      rw [slice_self]
      exact .empty
    | succ n ih =>
      rw [List.range_succ, List.foldl_append]
      exact (ih (by omega)).sweepPoint hsorted hn
  exact (hrun points.length le_rfl).candidates

end Loop

end Stutter.Report.Clusters

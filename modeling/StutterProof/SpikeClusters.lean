import Mathlib.Data.Prod.Lex
import Mathlib.Data.String.Basic
import StutterProof.GreedySelection
import StutterProof.TwoPointer

/-! # Spike clusters

A report looks for windows of time in which spikes of several tasks come together.  It sorts the
spikes by time and lets the window move over them; every position at which the window has enough
tasks gives a candidate, of which the best are kept.  From these it takes, the best first, those
that do not overlap.

A candidate is the window of a position and not of a time, so where spikes have one time the
candidates before the last of them hold only some of these. -/
namespace Stutter.Report.Clusters

variable {R : Type}

/-- A spike; `other` is what the clusters carry along. -/
structure SpikePoint (R : Type) where
  task : Nat
  comm : String
  latencyNs : Nat
  switchNs : Nat
  wakerTid : Nat
  wakerComm : String
  other : R
  deriving DecidableEq

/-- A window of spikes that may be reported. -/
structure SpikeClusterCandidate where
  startIdx : Nat
  endIdx : Nat
  distinctTasks : Nat
  minSwitchNs : Nat
  maxSwitchNs : Nat
  maxLatencyNs : Nat
  deriving DecidableEq

/-- Who woke whom, and how often. -/
structure WakeGraphEdge where
  wakerTid : Nat
  wakerComm : String
  wakeeTid : Nat
  wakeeComm : String
  count : Nat
  maxLatencyNs : Nat
  deriving DecidableEq

/-- A cluster as it is built; what later steps of a report note on it is left out. -/
structure SpikeCluster (R : Type) where
  points : List (SpikePoint R)
  distinctTasks : Nat
  minSwitchNs : Nat
  maxSwitchNs : Nat
  maxLatencyNs : Nat
  wakeGraph : List WakeGraphEdge
  deriving DecidableEq

def minClusterTasks : Nat := 3

def maxClusterCandidates : Nat := 4096

/-! ## The order of clusters -/

/-- More tasks first, then the greater latency, then more points, then the earlier. -/
abbrev ClusterRank := Nat ×ₗ Nat ×ₗ Nat ×ₗ Natᵒᵈ

def clusterRank (distinctTasks maxLatencyNs points minSwitchNs : Nat) : ClusterRank :=
  toLex (distinctTasks, toLex (maxLatencyNs, toLex (points, OrderDual.toDual minSwitchNs)))

/-- `Ord for SpikeClusterCandidate`. -/
def SpikeClusterCandidate.rank (candidate : SpikeClusterCandidate) : ClusterRank :=
  clusterRank candidate.distinctTasks candidate.maxLatencyNs (candidate.endIdx - candidate.startIdx)
    candidate.minSwitchNs

/-! ## The wake graph -/

/-- An edge of the graph: the waker and the task it woke, each with its name. -/
abbrev WakeKey := Nat ×ₗ String ×ₗ Nat ×ₗ String

def SpikePoint.wakeKey (point : SpikePoint R) : WakeKey :=
  toLex (point.wakerTid, toLex (point.wakerComm, toLex (point.task, point.comm)))

/-- One point's part in the edges: their counts and greatest latencies. -/
def countWake (edges : Table WakeKey (Nat × Nat)) (point : SpikePoint R) :
    Table WakeKey (Nat × Nat) :=
  if point.wakerTid ≠ 0 then
    let entry := (edges.get point.wakeKey).getD (0, 0)
    edges.insert point.wakeKey (entry.1 + 1, max entry.2 point.latencyNs)
  else edges

def wakeGraphEdge (entry : WakeKey × Nat × Nat) : WakeGraphEdge where
  wakerTid := (ofLex entry.1).1
  wakerComm := (ofLex (ofLex entry.1).2).1
  wakeeTid := (ofLex (ofLex (ofLex entry.1).2).2).1
  wakeeComm := (ofLex (ofLex (ofLex entry.1).2).2).2
  count := entry.2.1
  maxLatencyNs := entry.2.2

/-- `build_wake_graph`. -/
def buildWakeGraph (points : List (SpikePoint R)) : List WakeGraphEdge :=
  let edges := points.foldl countWake Table.empty
  let result := (edges.entries.insertionSort fun a b => a.1 ≤ b.1).map wakeGraphEdge
  (result.insertionSort fun a b =>
    toLex (b.count, b.maxLatencyNs) ≤ toLex (a.count, a.maxLatencyNs)).take 16

/-! ## A cluster -/

/-- The order of the points in a cluster: by time, and the greater latency first. -/
def SpikePoint.sortKey (point : SpikePoint R) : Nat ×ₗ Natᵒᵈ :=
  toLex (point.switchNs, OrderDual.toDual point.latencyNs)

def maxLatency (points : List (SpikePoint R)) : Nat := (points.map (·.latencyNs)).max?.getD 0

/-- `cluster_from_points`. -/
def clusterFromPoints (points : List (SpikePoint R)) (distinctTasks : Nat) : SpikeCluster R :=
  let points := points.insertionSort fun a b => a.sortKey ≤ b.sortKey
  { points
    distinctTasks
    minSwitchNs := (points.head?.map (·.switchNs)).getD 0
    maxSwitchNs := (points.getLast?.map (·.switchNs)).getD 0
    maxLatencyNs := maxLatency points
    wakeGraph := buildWakeGraph points }

/-! ## The sweep -/

section Sweep
variable (points : List (SpikePoint R)) (clusterWindowNs : Nat)

def taskAt (idx : Nat) : Nat := (points[idx]?.map (·.task)).getD 0
def latencyAt (idx : Nat) : Nat := (points[idx]?.map (·.latencyNs)).getD 0
def switchAt (idx : Nat) : Nat := (points[idx]?.map (·.switchNs)).getD 0

/-- `points[start..end]`. -/
def slice (startIdx endIdx : Nat) : List (SpikePoint R) :=
  (points.drop startIdx).take (endIdx - startIdx)

/-- The loop's variables. -/
structure Sweep where
  taskCounts : Table Nat Nat := Table.empty
  maxLatencyCandidates : List Nat := []
  leftIdx : Nat := 0
  candidates : List SpikeClusterCandidate := []

/-- The point at `right_idx` enters the window. -/
def Sweep.enter (sweep : Sweep) (rightIdx : Nat) : Sweep :=
  { sweep with
    taskCounts := TwoPointer.increment sweep.taskCounts (taskAt points rightIdx)
    maxLatencyCandidates :=
      TwoPointer.pushBack (latencyAt points) sweep.maxLatencyCandidates rightIdx }

/-- The point at `left_idx` leaves it; `decrement_task_count`. -/
def Sweep.leave (sweep : Sweep) : Sweep :=
  { sweep with
    taskCounts := TwoPointer.decrement sweep.taskCounts (taskAt points sweep.leftIdx)
    maxLatencyCandidates := TwoPointer.popFront sweep.maxLatencyCandidates sweep.leftIdx
    leftIdx := sweep.leftIdx + 1 }

/-- The loop over the left edge, which goes at most to the right one: so many positions are left. -/
def dropOld (rightIdx : Nat) : Nat → Sweep → Sweep
  | 0, sweep => sweep
  | left + 1, sweep =>
    if clusterWindowNs < switchAt points rightIdx - switchAt points sweep.leftIdx then
      dropOld rightIdx left (sweep.leave points)
    else sweep

/-- The window as it stands. -/
def Sweep.candidate (sweep : Sweep) (rightIdx : Nat) : SpikeClusterCandidate where
  startIdx := sweep.leftIdx
  endIdx := rightIdx + 1
  distinctTasks := sweep.taskCounts.entries.length
  minSwitchNs := switchAt points sweep.leftIdx
  maxSwitchNs := switchAt points rightIdx
  maxLatencyNs := (sweep.maxLatencyCandidates.head?.map (latencyAt points)).getD 0

/-- One turn of the loop.  The heap is the list of what it holds. -/
def sweepPoint (sweep : Sweep) (rightIdx : Nat) : Sweep :=
  let sweep := sweep.enter points rightIdx
  let sweep := dropOld points clusterWindowNs rightIdx (rightIdx + 1 - sweep.leftIdx) sweep
  if minClusterTasks ≤ sweep.taskCounts.entries.length then
    { sweep with
      candidates := GreedySelection.keepBest SpikeClusterCandidate.rank maxClusterCandidates
        sweep.candidates (sweep.candidate points rightIdx) }
  else sweep

/-- The candidates of the points, which are sorted by time. -/
def sweepPoints : Sweep :=
  (List.range points.length).foldl (sweepPoint points clusterWindowNs) {}

end Sweep

/-! ## The selection -/

/-- Whether a candidate has a time in common with one that is selected. -/
def overlaps (existing candidate : SpikeClusterCandidate) : Bool :=
  candidate.minSwitchNs ≤ existing.maxSwitchNs && existing.minSwitchNs ≤ candidate.maxSwitchNs

def selectCandidates (candidates : List SpikeClusterCandidate) (top : Nat) :
    List SpikeClusterCandidate :=
  GreedySelection.select overlaps (min (min (top * 4) (2 ^ 64 - 1)) maxClusterCandidates) []
    (candidates.insertionSort fun a b => b.rank ≤ a.rank)

def sortBySwitch (points : List (SpikePoint R)) : List (SpikePoint R) :=
  points.insertionSort fun a b => a.switchNs ≤ b.switchNs

/-- `spike_clusters_from_points`. -/
def spikeClustersFromPoints (points : List (SpikePoint R)) (clusterWindowNs top : Nat) :
    List (SpikeCluster R) :=
  let points := sortBySwitch points
  (selectCandidates (sweepPoints points clusterWindowNs).candidates top).map fun candidate =>
    clusterFromPoints (slice points candidate.startIdx candidate.endIdx) candidate.distinctTasks

end Stutter.Report.Clusters

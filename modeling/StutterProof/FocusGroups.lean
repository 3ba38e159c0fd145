import StutterProof.ClaimLoop
import StutterProof.ProcessWalkLaws

/-! # Focus groups

The groups of a snapshot are built one builder after the other, and a pid that one of them took is
left alone by the later ones.  Within a builder that makes more groups than one the roots are taken
by preference, and a root that an earlier group of the builder took in is passed by. -/
namespace Stutter.FocusGroups

open ActiveConfig (TaskClass containsIgnoreAsciiCase)
open ClaimLoop (formed)
open GraphSearch (chainTurn depthTurn)
open LastGreatest (maxByKey)
open ProcessTree
open StepLoop (resultOf)

/-! ## Walks -/

theorem descendantsOfPid_isSome (table : ProcessTable) (rootPid : Nat) :
    ∃ fuel, (table.descendantsOfPid rootPid fuel).isSome := by
  obtain ⟨fuel, result, hrun, -⟩ := table.descendantsOfPid_exact rootPid
  exact ⟨fuel, by rw [hrun]; rfl⟩

theorem hasAncestorInSet_isSome (table : ProcessTable) (pid : Nat) (pids : Finset Nat) :
    ∃ fuel, (table.hasAncestorInSet pid pids fuel).isSome := by
  obtain ⟨fuel, answer, hrun, -⟩ := table.hasAncestorInSet_answer pid pids
  exact ⟨fuel, by rw [hrun]; rfl⟩

/-- `descendants_of_pid`, of as many turns as it takes. -/
def descendants (table : ProcessTable) (rootPid : Nat) : Finset Nat :=
  resultOf (depthTurn (fun _ => true) table.children) ⟨[rootPid], ∅⟩
    (descendantsOfPid_isSome table rootPid)

/-- `has_ancestor_in_set`, of as many turns as it takes. -/
def hasAncestor (table : ProcessTable) (pids : List Nat) (pid : Nat) : Bool :=
  resultOf (chainTurn (table.ancestorInSetLook pids.toFinset)) (pid, ∅)
    (hasAncestorInSet_isSome table pid pids.toFinset)

/-! ## Processes -/

/-- `process_identity_text`; who looks for a text in it does not mind the case. -/
def processIdentityText (process : FocusProcess) : String :=
  let cgroupPath := "/".intercalate (process.cgroupPath.getD [])
  s!"{process.comm} {process.cmdline} {cgroupPath}"

def containsGameRuntimeText (process : FocusProcess) : Bool :=
  ["steamapps", "pressure-vessel", "proton", "wineserver"].any
    (containsIgnoreAsciiCase (processIdentityText process))

def isGameRuntimeProcess (process : FocusProcess) : Bool :=
  ["pressure-vessel", "steam-runtime", "proton", "steamapps"].any
    (containsIgnoreAsciiCase (processIdentityText process))

def isGameClass (taskClass : TaskClass) : Bool :=
  taskClass ∈ [.game, .gameRenderThread, .gameWorkerThread, .wineServer, .gameScope]

def isBrowserClass (taskClass : TaskClass) : Bool :=
  taskClass ∈ [.browserForeground, .browserBackground, .browserRenderer, .browserGpu,
    .browserNetwork]

def isCompileClass (taskClass : TaskClass) : Bool :=
  taskClass ∈ [.buildJob, .compiler, .linker, .indexer, .packageManager]

def isNonServiceInteractiveClass (taskClass : TaskClass) : Bool :=
  taskClass ∈ [.audioRealtime, .input, .game, .gameRenderThread, .gameWorkerThread, .wineServer,
    .gameScope, .compositor,
    .browserForeground, .browserRenderer, .browserGpu, .browserNetwork, .editor, .terminal, .shell,
    .media, .recorder, .virtualMachine]

/-! ## Groups -/

inductive FocusGroupKind where
  | game | browser | compile | media | recording | virtualMachine | desktop | idle | unknown
  deriving DecidableEq

/-- `focus_group_kind_for_class`. -/
def focusGroupKindForClass (taskClass : TaskClass) : FocusGroupKind :=
  if isGameClass taskClass then .game
  else if isBrowserClass taskClass then .browser
  else if isCompileClass taskClass then .compile
  else
    match taskClass with
    | .media => .media
    | .recorder => .recording
    | .virtualMachine => .virtualMachine
    | .compositor | .audioRealtime | .input => .desktop
    | .storageDaemon | .networkDaemon | .kernelThread | .irqThread | .service => .idle
    | _ => .unknown

/-- `root_pids` and `member_pids` are sorted and without repetitions. -/
structure FocusGroup where
  kind : FocusGroupKind
  rootPids : Finset Nat
  memberPids : Finset Nat

/-- `make_focus_group`: none without members. -/
def makeFocusGroup (kind : FocusGroupKind) (rootPids memberPids : Finset Nat) : Option FocusGroup :=
  if memberPids = ∅ then none else some ⟨kind, rootPids, memberPids⟩

/-- What is read of a snapshot, and what is measured of a process and of a group. -/
structure FocusSnapshot (S : Type*) where
  table : ProcessTable
  /-- `process_focus_score`. -/
  focusScore : FocusProcess → S
  cpuTimeTicksDelta : FocusProcess → Nat
  /-- What the finished groups are sorted by: their scores, their bands and their names. -/
  outranks : FocusGroup → FocusGroup → Bool

namespace FocusSnapshot
variable {S : Type*} (snapshot : FocusSnapshot S) (claimedPids : Finset Nat)

/-- The pids of the rows that are not claimed, in their order. -/
def unclaimed (predicate : FocusProcess → Bool) : List Nat :=
  ((snapshot.table.processes.filter (·.pid ∉ claimedPids)).filter predicate).map (·.pid)

/-- What a row says, and no without one. -/
def rowIs (predicate : FocusProcess → Bool) (pid : Nat) : Bool :=
  ((snapshot.table.get pid).map predicate).getD false

/-- The descendants that are not claimed. -/
def unclaimedDescendants (rootPid : Nat) : Finset Nat :=
  (descendants snapshot.table rootPid).filter (· ∉ claimedPids)

def sameNonEmptyCgroup (left right : FocusProcess) : Bool :=
  match left.cgroupPath, right.cgroupPath with
  | some left, some right => !left.isEmpty && !right.isEmpty && left = right
  | _, _ => false

def processAppearsTiedToRoot (pid rootPid : Nat) : Bool :=
  if pid = rootPid then true
  else
    match snapshot.table.get pid, snapshot.table.get rootPid with
    | some process, some root =>
      pid ∈ descendants snapshot.table rootPid || process.ppid =
        root.ppid || sameNonEmptyCgroup process root ||
        (containsGameRuntimeText process && containsGameRuntimeText root)
    | _, _ => false

variable [LinearOrder S] [Zero S]

/-- `compare_process_preference`: the score, and of one score the pid. -/
def preference (pid : Nat) : S ×ₗ Nat :=
  toLex (((snapshot.table.get pid).map snapshot.focusScore).getD 0, pid)

/-- The roots by a key, the greatest first. -/
def byKey {K : Type*} [LinearOrder K] (key : Nat → K) (roots : List Nat) : List Nat :=
  roots.mergeSort fun left right => key right ≤ key left

/-! ## One group -/

def gameLikePids : List Nat :=
  snapshot.unclaimed claimedPids fun process =>
    isGameClass process.taskClass || isGameRuntimeProcess process

def hasGameBelow (pid : Nat) : Bool :=
  ∃ below ∈ descendants snapshot.table pid,
    snapshot.rowIs (fun child => child.taskClass ∈ [.game, .gameRenderThread, .gameWorkerThread])
      below

/-- The root of the game's group: gamescope, a game, a runtime with a game below it, or else any. -/
def gameRoot : Option Nat :=
  let gameLike := snapshot.gameLikePids claimedPids
  (maxByKey snapshot.preference
    (gameLike.filter (snapshot.rowIs fun process => process.taskClass = .gameScope))).or
    ((maxByKey snapshot.preference
      ((gameLike.filter (snapshot.rowIs fun process => process.taskClass = .game)).filter
        fun pid => !hasAncestor snapshot.table gameLike pid)).or
    ((maxByKey snapshot.preference
      (gameLike.filter fun pid => snapshot.rowIs isGameRuntimeProcess pid &&
        snapshot.hasGameBelow pid)).or
    (maxByKey snapshot.preference gameLike)))

def buildGameGroup : Option FocusGroup := do
  let rootPid ← snapshot.gameRoot claimedPids
  let wineServers :=
    (snapshot.unclaimed claimedPids fun process => process.taskClass = .wineServer).filter
    (snapshot.processAppearsTiedToRoot · rootPid)
  let tied :=
    (snapshot.gameLikePids claimedPids).filter (snapshot.processAppearsTiedToRoot · rootPid)
  makeFocusGroup .game {rootPid}
    (snapshot.unclaimedDescendants claimedPids rootPid ∪ wineServers.toFinset ∪ tied.toFinset)

/-- `root_pids_from_members`: those whose parent is no member. -/
def rootPidsFromMembers (memberPids : Finset Nat) : Finset Nat :=
  memberPids.filter fun pid => snapshot.rowIs (fun process => process.ppid ∉ memberPids) pid

/-- `build_desktop_group` and `build_idle_group`. -/
def buildGroupOfKind (kind : FocusGroupKind) : Option FocusGroup :=
  let pids :=
    snapshot.unclaimed claimedPids fun process => focusGroupKindForClass process.taskClass = kind
  makeFocusGroup kind (snapshot.rootPidsFromMembers pids.toFinset) pids.toFinset

def buildDesktopGroup : Option FocusGroup := snapshot.buildGroupOfKind claimedPids .desktop

def buildIdleGroup : Option FocusGroup := snapshot.buildGroupOfKind claimedPids .idle

def buildFallbackGroup : Option FocusGroup := do
  let root ← maxByKey (fun process =>
      toLex (snapshot.cpuTimeTicksDelta process, snapshot.focusScore process))
    ((snapshot.table.processes.filter (·.pid ∉ claimedPids)).filter fun process =>
      isNonServiceInteractiveClass process.taskClass)
  makeFocusGroup .unknown {root.pid} (snapshot.unclaimedDescendants claimedPids root.pid)

/-! ## More groups -/

/-- The loop over the roots of a builder, which keeps what its groups used up. -/
def groupsOf (kind : FocusGroupKind) (members : Nat → Option (Finset Nat)) (roots : List Nat) :
    List FocusGroup :=
  (formed members ∅ roots).filterMap fun pair => makeFocusGroup kind {pair.1} pair.2

/-- No members are no group. -/
def nonEmpty (memberPids : Finset Nat) : Option (Finset Nat) :=
  if memberPids = ∅ then none else some memberPids

def matchingPids (taskClass : TaskClass) : List Nat :=
  snapshot.unclaimed claimedPids fun process => process.taskClass = taskClass

/-- Those without an ancestor among them, and all if each has one. -/
def topPids (pids : List Nat) : List Nat :=
  let tops := pids.filter fun pid => !hasAncestor snapshot.table pids pid
  if tops.isEmpty then pids else tops

def treeMembers (taskClass : TaskClass) (rootPid : Nat) : Option (Finset Nat) :=
  nonEmpty ((snapshot.unclaimedDescendants claimedPids rootPid).filter fun pid =>
    pid ∈ snapshot.matchingPids claimedPids taskClass ∨ pid = rootPid)

/-- `build_tree_groups_for_kind`. -/
def buildTreeGroupsForKind (kind : FocusGroupKind) (taskClass : TaskClass) : List FocusGroup :=
  groupsOf kind (snapshot.treeMembers claimedPids taskClass)
    (byKey snapshot.preference (snapshot.topPids (snapshot.matchingPids claimedPids taskClass)))

def browserPids : List Nat :=
  snapshot.unclaimed claimedPids fun process => isBrowserClass process.taskClass

def browserRoots : List Nat :=
  let pids := snapshot.browserPids claimedPids
  pids.filter fun pid =>
    snapshot.rowIs (fun process =>
      process.taskClass = .browserForeground || !hasAncestor snapshot.table pids pid) pid

def browserMembers (rootPid : Nat) : Option (Finset Nat) :=
  nonEmpty (insert rootPid ((snapshot.unclaimedDescendants claimedPids rootPid).filter fun pid =>
    snapshot.rowIs (fun process => isBrowserClass process.taskClass) pid))

def buildBrowserGroups : List FocusGroup :=
  groupsOf .browser (snapshot.browserMembers claimedPids)
    (byKey snapshot.preference (snapshot.browserRoots claimedPids))

def compilePids : List Nat :=
  snapshot.unclaimed claimedPids fun process => isCompileClass process.taskClass

/-- The stable build roots; without one the roots of the sessions, and without one of these the
processes that no other is above. -/
def compileRoots (fuel : Nat) : Option (List Nat) :=
  let pids := snapshot.compilePids claimedPids
  let stable := pids.filter (snapshot.rowIs isStableBuildRoot)
  if stable.isEmpty then do
    let nearest ← pids.mapM fun pid =>
        snapshot.table.nearestCompileSessionRoot snapshot.focusScore pid fuel
    let sessions := (nearest.filterMap id).toFinset.sort (· ≤ ·)
    return if sessions.isEmpty then snapshot.topPids pids else sessions
  else some stable

def stableBuildRootRank (pid : Nat) : Nat :=
  ((snapshot.table.get pid).map fun process =>
    if isStableBuildRoot process then 3
    else if process.taskClass = .terminal then 2
    else if process.taskClass = .shell then 1
    else 0).getD 0

def compileMembers (rootPid : Nat) : Option (Finset Nat) :=
  if rootPid ∈ claimedPids then none
  else
    let below := (snapshot.unclaimedDescendants claimedPids rootPid).filter fun pid =>
      snapshot.rowIs (fun process => isCompileClass process.taskClass || process.pid = rootPid ||
        process.taskClass = .terminal || process.taskClass = .shell) pid
    let members :=
      if rootPid ∈ snapshot.compilePids claimedPids then insert rootPid below else below
    if ∃ pid ∈ members, pid ∈ snapshot.compilePids claimedPids then some members else none

def buildCompileGroups (fuel : Nat) : Option (List FocusGroup) :=
  if (snapshot.compilePids claimedPids).isEmpty then some []
  else
    (snapshot.compileRoots claimedPids fuel).map fun roots =>
      groupsOf .compile (snapshot.compileMembers claimedPids)
        (byKey (fun pid => toLex (snapshot.stableBuildRootRank pid, snapshot.preference pid)) roots)

end FocusSnapshot

/-! ## The builders -/

/-- The builders, in their order. -/
inductive Builder where
  | game | browser | compile
  | tree (kind : FocusGroupKind) (taskClass : TaskClass)
  | desktop | idle | fallback

def focusBuilders : List Builder :=
  [.game, .browser, .compile, .tree .media .media, .tree .recording .recorder,
    .tree .virtualMachine .virtualMachine, .desktop, .idle, .fallback]

namespace FocusSnapshot
variable {S : Type*} [LinearOrder S] [Zero S] (snapshot : FocusSnapshot S)

/-- The groups of one builder, where so many turns are enough for the sessions. -/
def groups (fuel : Nat) (claimedPids : Finset Nat) : Builder → Option (List FocusGroup)
  | .game => some (snapshot.buildGameGroup claimedPids).toList
  | .browser => some (snapshot.buildBrowserGroups claimedPids)
  | .compile => snapshot.buildCompileGroups claimedPids fuel
  | .tree kind taskClass => some (snapshot.buildTreeGroupsForKind claimedPids kind taskClass)
  | .desktop => some (snapshot.buildDesktopGroup claimedPids).toList
  | .idle => some (snapshot.buildIdleGroup claimedPids).toList
  | .fallback => some (snapshot.buildFallbackGroup claimedPids).toList

/-- `claimed_pids.extend`, of each group. -/
def claim (claimedPids : Finset Nat) (groups : List FocusGroup) : Finset Nat :=
  groups.foldl (fun claimed group => claimed ∪ group.memberPids) claimedPids

def runBuilders (fuel : Nat) : List Builder → Finset Nat → Option (List FocusGroup)
  | [], _ => some []
  | builder :: builders, claimedPids => do
    let built ← snapshot.groups fuel claimedPids builder
    let later ← runBuilders fuel builders (claim claimedPids built)
    return built ++ later

/-- `build_focus_groups`. -/
def buildFocusGroups (fuel : Nat) : Option (List FocusGroup) :=
  (snapshot.runBuilders fuel focusBuilders ∅).map (·.mergeSort snapshot.outranks)

end FocusSnapshot

end Stutter.FocusGroups

import Mathlib.Data.Finset.Union
import StutterProof.FocusGroups

/-! # Focus groups that are disjoint

What a builder takes is never of an earlier builder, and a group's roots are its members.  Two
groups of one builder can share members: a root that is preferred to one above it has its group made
first, and the one above then takes the same processes again, since only the roots are looked up in
what is used.

**`buildFocusGroups_disjoint_iff`**: the groups are disjoint exactly if, at each builder of more
groups than one, no root that stands is below another that stands. -/
namespace Stutter.FocusGroups

open ActiveConfig (TaskClass)
open ClaimLoop ProcessTree Relation StepLoop
open FocusSnapshot (byKey claim groupsOf nonEmpty)

theorem mem_descendants {table : ProcessTable} {pid rootPid : Nat} :
    pid ∈ descendants table rootPid ↔ ReflTransGen table.Parent pid rootPid := by
  obtain ⟨fuel, result, hrun, hresult⟩ := table.descendantsOfPid_exact rootPid
  have hsame : descendants table rootPid = result := (ends_resultOf _).unique ⟨fuel, hrun⟩
  rw [hsame, hresult]

/-! ## What decides -/

/-- The roots of a builder, in no order, and what it asks of them. -/
structure Pass (K : Type*) where
  roots : List Nat
  /-- The root has a group. -/
  viable : Nat → Prop
  /-- A group takes it from below its root. -/
  takes : Nat → Prop
  /-- The greatest root comes first. -/
  key : Nat → K

namespace Pass
variable {K : Type*} [LinearOrder K] (pass : Pass K) (table : ProcessTable)

/-- No root that comes before it takes it in. -/
def Stands (root : Nat) : Prop :=
  root ∈ pass.roots ∧ pass.viable root ∧ ∀ other ∈ pass.roots, pass.viable other →
    pass.key root < pass.key other →
    ReflTransGen table.Parent root other → ¬pass.takes root

/-- No root that stands is below another one. -/
def Apart : Prop :=
  ∀ left right, pass.Stands table left → pass.Stands table right →
    ReflTransGen table.Parent left right → left = right

end Pass

/-- All that the roots take, in whichever order they come. -/
def takenBelow (members : Nat → Option (Finset Nat)) (roots : List Nat) : Finset Nat :=
  roots.toFinset.biUnion fun root => (members root).getD ∅

namespace FocusSnapshot
variable {S : Type*} [LinearOrder S] [Zero S] (snapshot : FocusSnapshot S)
    (claimedPids : Finset Nat)

def browserPass : Pass (S ×ₗ Nat) where
  roots := snapshot.browserRoots claimedPids
  viable _ := True
  takes pid := pid ∈ snapshot.browserPids claimedPids
  key := snapshot.preference

def treePass (taskClass : TaskClass) : Pass (S ×ₗ Nat) where
  roots := snapshot.topPids (snapshot.matchingPids claimedPids taskClass)
  viable _ := True
  takes pid := pid ∈ snapshot.matchingPids claimedPids taskClass
  key := snapshot.preference

/-- Terminals and shells are taken too, but a group is made where a compile process is below the
root. -/
def compilePass (roots : List Nat) : Pass (Nat ×ₗ S ×ₗ Nat) where
  roots := roots
  viable root :=
    root ∉ claimedPids ∧ ∃ pid ∈ snapshot.compilePids claimedPids,
      ReflTransGen snapshot.table.Parent pid root
  takes pid := pid ∈ snapshot.unclaimed claimedPids fun process =>
    isCompileClass process.taskClass || process.taskClass = .terminal || process.taskClass = .shell
  key pid := toLex (snapshot.stableBuildRootRank pid, snapshot.preference pid)

/-- What a builder finds, where the earlier ones claimed these pids. -/
def Apart (fuel : Nat) : Builder → Prop
  | .browser => (snapshot.browserPass claimedPids).Apart snapshot.table
  | .compile => ∀ roots, snapshot.compileRoots claimedPids fuel = some roots →
      (snapshot.compilePass claimedPids roots).Apart snapshot.table
  | .tree _ taskClass => (snapshot.treePass claimedPids taskClass).Apart snapshot.table
  | .game | .desktop | .idle | .fallback => True

/-- What a builder takes, by its roots and not by the groups it makes. -/
def taken (fuel : Nat) : Builder → Finset Nat
  | .game => ((snapshot.buildGameGroup claimedPids).map (·.memberPids)).getD ∅
  | .browser => takenBelow (snapshot.browserMembers claimedPids) (snapshot.browserRoots claimedPids)
  | .compile =>
    takenBelow (snapshot.compileMembers claimedPids)
      ((snapshot.compileRoots claimedPids fuel).getD [])
  | .tree _ taskClass =>
    takenBelow (snapshot.treeMembers claimedPids taskClass)
      (snapshot.topPids (snapshot.matchingPids claimedPids taskClass))
  | .desktop => ((snapshot.buildDesktopGroup claimedPids).map (·.memberPids)).getD ∅
  | .idle => ((snapshot.buildIdleGroup claimedPids).map (·.memberPids)).getD ∅
  | .fallback => ((snapshot.buildFallbackGroup claimedPids).map (·.memberPids)).getD ∅

/-- Each builder finds its roots apart, of what the ones before it left. -/
def ApartAlong (fuel : Nat) : List Builder → Finset Nat → Prop
  | [], _ => True
  | builder :: builders, claimedPids =>
    snapshot.Apart claimedPids fuel builder ∧
      ApartAlong fuel builders (claimedPids ∪ snapshot.taken claimedPids fuel builder)

end FocusSnapshot

/-! ## Rows -/

open FocusSnapshot ProcessTable

section Rows
variable {S : Type*} {snapshot : FocusSnapshot S} {claimedPids : Finset Nat} {pid rootPid : Nat}
variable {predicate : FocusProcess → Bool}

theorem rowIs_iff : snapshot.rowIs predicate pid = true ↔
    ∃ process, snapshot.table.get pid = some process ∧ predicate process = true := by
  rw [rowIs]
  rcases snapshot.table.get pid with _ | process
  · simp
  · simp

theorem mem_unclaimed :
    pid ∈ snapshot.unclaimed claimedPids predicate ↔
      pid ∉ claimedPids ∧ snapshot.rowIs predicate pid = true := by
  rw [rowIs_iff, unclaimed, List.mem_map]
  constructor
  · rintro ⟨process, hmem, rfl⟩
    obtain ⟨hrow, hpredicate⟩ := List.mem_filter.mp hmem
    obtain ⟨hrow, hfree⟩ := List.mem_filter.mp hrow
    exact ⟨of_decide_eq_true hfree, process, get_eq_some_iff.mpr ⟨hrow, rfl⟩,
      hpredicate⟩
  · rintro ⟨hfree, process, hget, hpredicate⟩
    obtain ⟨hrow, rfl⟩ := get_eq_some_iff.mp hget
    exact ⟨process, List.mem_filter.mpr ⟨List.mem_filter.mpr ⟨hrow, decide_eq_true hfree⟩,
      hpredicate⟩, rfl⟩

theorem unclaimed_nodup : (snapshot.unclaimed claimedPids predicate).Nodup := by
  have hordered : (snapshot.table.processes.map (·.pid)).Nodup :=
    (List.pairwise_map.mpr snapshot.table.ordered).imp fun hless => ne_of_lt hless
  exact hordered.sublist ((List.filter_sublist.trans List.filter_sublist).map _)

theorem mem_unclaimedDescendants : pid ∈ snapshot.unclaimedDescendants claimedPids rootPid ↔
    ReflTransGen snapshot.table.Parent pid rootPid ∧ pid ∉ claimedPids := by
  rw [unclaimedDescendants, Finset.mem_filter, mem_descendants]

theorem mem_topPids {pids : List Nat} (h : pid ∈ snapshot.topPids pids) : pid ∈ pids := by
  rw [topPids] at h
  split_ifs at h with hempty
  · exact h
  · exact (List.mem_filter.mp h).1

theorem topPids_nodup {pids : List Nat} (h : pids.Nodup) : (snapshot.topPids pids).Nodup := by
  rw [topPids]
  split_ifs with hempty
  · exact h
  · exact h.filter _

theorem sessionTurn_row {pid root : Nat} {nearest : Option Nat}
    (h : Ends snapshot.table.sessionTurn pid nearest) (hroot : nearest = some root) :
    ∃ process, snapshot.table.get root = some process := by
  refine Ends.post (fun _ => True) (fun nearest => ∀ root, nearest = some root →
    ∃ process, snapshot.table.get root = some process)
    h trivial (fun _ _ _ _ => trivial) ?_ root hroot
  intro current nearest _ hturn root hroot
  rw [sessionTurn] at hturn
  rcases hget : snapshot.table.get current with _ | process
  · simp only [hget, Sum.inr.injEq] at hturn
    rw [← hturn] at hroot
    contradiction
  obtain ⟨hrow, rfl⟩ := get_eq_some_iff.mp hget
  simp only [hget] at hturn
  split_ifs at hturn with hbuild hshell hstop
  all_goals
    obtain rfl := Sum.inr.inj hturn
    try contradiction
  all_goals
    obtain rfl := Option.some.inj hroot
    exact ⟨process, hget⟩

theorem compilePids_row {pid : Nat} (h : pid ∈ snapshot.compilePids claimedPids) :
    ∃ process, snapshot.table.get pid = some process := by
  obtain ⟨process, hget, -⟩ := rowIs_iff.mp (mem_unclaimed.mp h).2
  exact ⟨process, hget⟩

theorem mapM_mem {α β : Type*} {f : α → Option β} {xs : List α} {ys : List β}
    (h : xs.mapM f = some ys) {y : β} (hy : y ∈ ys) :
    ∃ x ∈ xs, f x = some y := by
  induction xs generalizing ys with
  | nil =>
    obtain rfl := Option.some.inj h
    contradiction
  | cons x xs ih =>
    rw [List.mapM_cons] at h
    obtain ⟨first, hfirst, h⟩ := Option.bind_eq_some_iff.mp h
    obtain ⟨rest, hrest, h⟩ := Option.bind_eq_some_iff.mp h
    obtain rfl := Option.some.inj h
    rcases List.mem_cons.mp hy with rfl | hy
    · exact ⟨x, List.mem_cons_self, hfirst⟩
    · obtain ⟨x', hx', hfound⟩ := ih hrest hy
      exact ⟨x', List.mem_cons_of_mem _ hx', hfound⟩

variable [LinearOrder S] {fuel : Nat} {roots : List Nat}

theorem nearestCompileSessionRoot_row {pid root : Nat}
    (h : snapshot.table.nearestCompileSessionRoot snapshot.focusScore pid fuel = some (some root)) :
    ∃ process, snapshot.table.get root = some process := by
  obtain ⟨nearest, hrun, hnearest⟩ := Option.map_eq_some_iff.mp h
  rcases nearest with _ | found
  · obtain ⟨cgroup, -, hbest⟩ := Option.bind_eq_some_iff.mp hnearest
    obtain ⟨best, hgreatest, hpid⟩ := Option.bind_eq_some_iff.mp hbest
    obtain ⟨before, after, hsplit, -⟩ := LastGreatest.exists_of_maxByKey hgreatest
    have hmem : best ∈ snapshot.table.processes :=
      List.mem_of_mem_filter
        (List.mem_of_mem_filter (hsplit ▸ List.mem_append_right _ List.mem_cons_self))
    exact ⟨best, get_eq_some_iff.mpr ⟨hmem, Option.some.inj hpid⟩⟩
  · obtain rfl := Option.some.inj hnearest
    exact sessionTurn_row ⟨fuel, hrun⟩ rfl

theorem compileRoots_rows (h : snapshot.compileRoots claimedPids fuel = some roots) :
    roots.Nodup ∧ ∀ root ∈ roots, ∃ process, snapshot.table.get root = some process := by
  rw [compileRoots] at h
  split_ifs at h with hstable
  · obtain ⟨nearest, hnearest, h⟩ := Option.bind_eq_some_iff.mp h
    obtain rfl := Option.some.inj h
    split_ifs with hsessions
    · exact ⟨topPids_nodup unclaimed_nodup, fun root hroot => compilePids_row (mem_topPids hroot)⟩
    · refine ⟨Finset.sort_nodup _ _, fun root hroot => ?_⟩
      obtain ⟨found, hfound, hsome⟩ :=
        List.mem_filterMap.mp (List.mem_toFinset.mp ((Finset.mem_sort _).mp hroot))
      obtain rfl : found = some root := hsome
      obtain ⟨pid, -, hpid⟩ := mapM_mem hnearest hfound
      exact nearestCompileSessionRoot_row hpid
  · obtain rfl := Option.some.inj h
    exact ⟨unclaimed_nodup.filter _, fun root hroot =>
      compilePids_row (List.mem_of_mem_filter hroot)⟩

end Rows

/-! ## Groups of one builder -/

theorem makeFocusGroup_eq_some {kind : FocusGroupKind} {rootPids memberPids : Finset Nat}
    {group : FocusGroup} (h : makeFocusGroup kind rootPids memberPids = some group) :
    group.rootPids = rootPids ∧ group.memberPids = memberPids := by
  rw [makeFocusGroup] at h
  split_ifs at h
  obtain rfl := Option.some.inj h
  exact ⟨rfl, rfl⟩

/-- What a builder owes the later ones and each of its groups. -/
structure Lawful (claimedPids : Finset Nat) (groups : List FocusGroup) : Prop where
  rooted : ∀ group ∈ groups, group.rootPids ⊆ group.memberPids
  fresh : ∀ group ∈ groups, Disjoint group.memberPids claimedPids

def Separate (left right : FocusGroup) : Prop := Disjoint left.memberPids right.memberPids

theorem mem_claim {claimedPids : Finset Nat} {groups : List FocusGroup} {pid : Nat} :
    pid ∈ claim claimedPids groups ↔ pid ∈ claimedPids ∨ ∃ group ∈ groups,
      pid ∈ group.memberPids := by
  rw [claim]
  induction groups generalizing claimedPids with
  | nil => simp
  | cons group groups ih =>
    rw [List.foldl_cons, ih, Finset.mem_union, or_assoc, List.exists_mem_cons_iff]

theorem mem_nonEmpty {memberPids : Finset Nat} {pid : Nat} :
    (∃ found, nonEmpty memberPids = some found ∧ pid ∈ found) ↔ pid ∈ memberPids := by
  rw [nonEmpty]
  by_cases hempty : memberPids = ∅
  · simp [hempty]
  · simp [hempty]

section Loop
variable {kind : FocusGroupKind} {members : Nat → Option (Finset Nat)} {roots : List Nat}

theorem mem_groupsOf {group : FocusGroup} (h : group ∈ groupsOf kind members roots) :
    ∃ root ∈ roots, group.rootPids = {root} ∧ members root = some group.memberPids := by
  obtain ⟨pair, hpair, hgroup⟩ := List.mem_filterMap.mp h
  obtain ⟨hroot, -, hmembers⟩ := members_of_formed hpair
  obtain ⟨hroots, hset⟩ := makeFocusGroup_eq_some hgroup
  exact ⟨pair.1, hroot, hroots, hset ▸ hmembers⟩

/-- A set without members is no group and shares none. -/
theorem separate_groupsOf_iff : (groupsOf kind members roots).Pairwise Separate ↔
    (formed members ∅ roots).Pairwise fun left right => Disjoint left.2 right.2 := by
  rw [groupsOf, List.pairwise_filterMap]
  refine List.Pairwise.iff fun {left right} => ?_
  constructor
  · intro h
    by_cases hleft : left.2 = ∅
    · rw [hleft]
      exact Finset.disjoint_empty_left _
    by_cases hright : right.2 = ∅
    · rw [hright]
      exact Finset.disjoint_empty_right _
    exact h _ (if_neg hleft) _ (if_neg hright)
  · intro h leftGroup hleft rightGroup hright
    rw [Separate, (makeFocusGroup_eq_some hleft).2, (makeFocusGroup_eq_some hright).2]
    exact h

theorem mem_groupsOf_members {pid : Nat} :
    (∃ group ∈ groupsOf kind members roots, pid ∈ group.memberPids) ↔
    ∃ pair ∈ formed members ∅ roots, pid ∈ pair.2 := by
  constructor
  · rintro ⟨group, hgroup, hpid⟩
    obtain ⟨pair, hpair, hmake⟩ := List.mem_filterMap.mp hgroup
    exact ⟨pair, hpair, (makeFocusGroup_eq_some hmake).2 ▸ hpid⟩
  · rintro ⟨pair, hpair, hpid⟩
    refine ⟨_, List.mem_filterMap.mpr ⟨pair, hpair, if_neg ?_⟩, hpid⟩
    exact Finset.ne_empty_of_mem hpid

end Loop

/-! ## The passes -/

/-- What the sets of a builder are, root by root.  `own` says of a root that it is in its own
set. -/
structure Pass.Gives {K : Type*} (pass : Pass K) (table : ProcessTable) (claimedPids : Finset Nat)
    (members : Nat → Option (Finset Nat)) (own : Nat → Prop) : Prop where
  nodup : pass.roots.Nodup
  covers : ∀ root pid, Covers members root pid ↔
    pass.viable root ∧ ReflTransGen table.Parent pid root ∧ (pass.takes pid ∨ pid = root ∧ own root)
  isSome_iff : ∀ root ∈ pass.roots, (members root).isSome ↔ pass.viable root
  seed : ∀ root ∈ pass.roots, pass.viable root →
    ∃ pid, pass.takes pid ∧ ReflTransGen table.Parent pid root
  own : ∀ root ∈ pass.roots, own root
  free : ∀ root ∈ pass.roots, pass.viable root → root ∉ claimedPids
  takes_free : ∀ pid, pass.takes pid → pid ∉ claimedPids

section Gives
variable {K : Type*} [LinearOrder K] {pass : Pass K} {table : ProcessTable}
    {claimedPids : Finset Nat}
variable {members : Nat → Option (Finset Nat)} {own : Nat → Prop} {kind : FocusGroupKind}

theorem mem_byKey {key : Nat → K} {roots : List Nat} {root : Nat} :
    root ∈ byKey key roots ↔ root ∈ roots :=
  List.mem_mergeSort

theorem byKey_pairwise {key : Nat → K} (hkey : Function.Injective key) {roots : List Nat}
    (hnodup : roots.Nodup) :
    (byKey key roots).Pairwise fun left right => key right < key left := by
  have hsorted : (byKey key roots).Pairwise fun left right => key right ≤ key left := by
    refine (List.pairwise_mergeSort ?_ ?_ roots).imp fun h => of_decide_eq_true h
    · intro a b c hab hbc
      exact decide_eq_true ((of_decide_eq_true hbc).trans (of_decide_eq_true hab))
    · intro a b
      simpa using le_total (key b) (key a)
  have hdistinct : (byKey key roots).Pairwise (· ≠ ·) :=
    (List.mergeSort_perm roots _).nodup_iff.mpr hnodup
  exact (hsorted.and hdistinct).imp fun h => lt_of_le_of_ne h.1 fun hsame => h.2 (hkey hsame).symm

omit [LinearOrder K] in
theorem Pass.Gives.covers_trans (h : pass.Gives table claimedPids members own)
    (root other pid : Nat) (hother : Covers members root other) (hpid : Covers members other pid) :
    Covers members root pid := by
  obtain ⟨hviable, hbelow, -⟩ := (h.covers root other).mp hother
  obtain ⟨-, hunder, htakes | ⟨rfl, -⟩⟩ := (h.covers other pid).mp hpid
  · exact (h.covers root pid).mpr ⟨hviable, hunder.trans hbelow, .inl htakes⟩
  · exact hother

theorem Pass.Gives.stands_iff (h : pass.Gives table claimedPids members own) {root : Nat} :
    ClaimLoop.Stands members pass.key (byKey pass.key pass.roots) root ↔
      pass.Stands table root := by
  rw [ClaimLoop.Stands, Pass.Stands, mem_byKey]
  refine and_congr_right fun hroot => and_congr (h.isSome_iff root hroot)
    (forall_congr' fun other => ?_)
  rw [mem_byKey]
  refine forall_congr' fun hother => ?_
  rw [h.covers]
  constructor
  · intro hnot hviable hless hbelow htakes
    exact hnot hless ⟨hviable, hbelow, .inl htakes⟩
  · rintro hnot hless ⟨hviable, hbelow, htakes | ⟨rfl, -⟩⟩
    · exact hnot hviable hless hbelow htakes
    · exact lt_irrefl _ hless

theorem Pass.Gives.lawful (h : pass.Gives table claimedPids members own) :
    Lawful claimedPids (groupsOf kind members (byKey pass.key pass.roots)) := by
  constructor
  · intro group hgroup
    obtain ⟨root, hroot, hroots, hmembers⟩ := mem_groupsOf hgroup
    rw [mem_byKey] at hroot
    have hviable := (h.isSome_iff root hroot).mp (by rw [hmembers]; rfl)
    obtain ⟨found, hfound, hin⟩ :=
      (h.covers root root).mpr ⟨hviable, .refl, .inr ⟨rfl, h.own root hroot⟩⟩
    obtain rfl := Option.some.inj (hmembers.symm.trans hfound)
    rw [hroots, Finset.singleton_subset_iff]
    exact hin
  · intro group hgroup
    obtain ⟨root, hroot, -, hmembers⟩ := mem_groupsOf hgroup
    rw [mem_byKey] at hroot
    rw [Finset.disjoint_left]
    intro pid hpid
    obtain ⟨hviable, -, htakes | ⟨rfl, -⟩⟩ := (h.covers root pid).mp ⟨_, hmembers, hpid⟩
    · exact h.takes_free pid htakes
    · exact h.free pid hroot hviable

/-- Two sets share a process exactly if one root is below the other: the sets' seeds are then in
both, and above a process there is one line of parents. -/
theorem Pass.Gives.separate_iff (h : pass.Gives table claimedPids members own)
    (hkey : Function.Injective pass.key) :
    (groupsOf kind members (byKey pass.key pass.roots)).Pairwise Separate ↔ pass.Apart table := by
  rw [separate_groupsOf_iff, formed_disjoint_iff (byKey_pairwise hkey h.nodup) h.covers_trans]
  simp only [h.stands_iff]
  constructor
  · intro hnone left right hleft hright hbelow
    by_contra hne
    obtain ⟨seed, htakes, hseed⟩ := h.seed left hleft.1 hleft.2.1
    exact hnone left right hleft hright hne
      ⟨seed, (h.covers left seed).mpr ⟨hleft.2.1, hseed, .inl htakes⟩,
        (h.covers right seed).mpr ⟨hright.2.1, hseed.trans hbelow, .inl htakes⟩⟩
  · rintro hapart left right hleft hright hne ⟨pid, hpidLeft, hpidRight⟩
    have hunderLeft := ((h.covers left pid).mp hpidLeft).2.1
    have hunderRight := ((h.covers right pid).mp hpidRight).2.1
    have hline : Relator.RightUnique table.Parent := fun _ _ _ hone htwo => hone.unique htwo
    rcases ReflTransGen.total_of_right_unique hline hunderLeft hunderRight with hbelow | hbelow
    · exact hne (hapart left right hleft hright hbelow)
    · exact hne (hapart right left hright hleft hbelow).symm

theorem Pass.Gives.claim_eq (h : pass.Gives table claimedPids members own) :
    claim claimedPids (groupsOf kind members (byKey pass.key pass.roots)) =
      claimedPids ∪ takenBelow members pass.roots := by
  have hmem : ∀ pid, pid ∈ takenBelow members pass.roots ↔
      ∃ root ∈ byKey pass.key pass.roots, Covers members root pid := by
    intro pid
    simp only [takenBelow, Finset.mem_biUnion, List.mem_toFinset, mem_byKey, Covers]
    refine exists_congr fun root => and_congr_right fun _ => ?_
    rcases members root with _ | found
    · simp
    · simp
  have hclosed : Closed members ∅ := fun root hin => absurd hin (Finset.notMem_empty root)
  have hformed : ∀ pid, pid ∈ (∅ : Finset Nat) ∨
      (∃ pair ∈ formed members ∅ (byKey pass.key pass.roots), pid ∈ pair.2) ↔
        pid ∈ (∅ : Finset Nat) ∨ ∃ root ∈ byKey pass.key pass.roots, Covers members root pid :=
    fun pid => mem_used_or_formed h.covers_trans hclosed
  ext pid
  rw [mem_claim, Finset.mem_union, mem_groupsOf_members, hmem]
  have hpid := hformed pid
  rw [or_iff_right (Finset.notMem_empty pid), or_iff_right (Finset.notMem_empty pid)] at hpid
  rw [hpid]

end Gives

section Builders
variable {S : Type*} [Zero S] {snapshot : FocusSnapshot S} {claimedPids : Finset Nat}

theorem preference_injective : Function.Injective snapshot.preference := by
  intro left right h
  exact congrArg (fun key : S ×ₗ Nat => (ofLex key).2) h

theorem browserPass_gives : (snapshot.browserPass claimedPids).Gives snapshot.table claimedPids
    (snapshot.browserMembers claimedPids) fun _ => True where
  nodup := unclaimed_nodup.filter _
  covers root pid := by
    rw [Covers, browserMembers, mem_nonEmpty, Finset.mem_insert, Finset.mem_filter,
      mem_unclaimedDescendants]
    simp only [FocusSnapshot.browserPass, browserPids, mem_unclaimed, true_and,
      and_true]
    constructor
    · rintro (rfl | ⟨⟨hbelow, hfree⟩, hbrowser⟩)
      · exact ⟨.refl, .inr rfl⟩
      · exact ⟨hbelow, .inl ⟨hfree, hbrowser⟩⟩
    · rintro ⟨hbelow, ⟨hfree, hbrowser⟩ | rfl⟩
      · exact .inr ⟨⟨hbelow, hfree⟩, hbrowser⟩
      · exact .inl rfl
  isSome_iff root _ := by
    rw [browserMembers, nonEmpty, if_neg (Finset.insert_ne_empty _ _)]
    exact iff_of_true rfl trivial
  seed root hroot _ := ⟨root, List.mem_of_mem_filter hroot, .refl⟩
  own _ _ := trivial
  free root hroot _ := (mem_unclaimed.mp (List.mem_of_mem_filter hroot)).1
  takes_free _ htakes := (mem_unclaimed.mp htakes).1

theorem treePass_gives (snapshot : FocusSnapshot S) (claimedPids : Finset Nat)
    (taskClass : TaskClass) :
    (snapshot.treePass claimedPids taskClass).Gives snapshot.table claimedPids
    (snapshot.treeMembers claimedPids taskClass) fun root => root ∉ claimedPids := by
  have hcovers : ∀ root pid, Covers (snapshot.treeMembers claimedPids taskClass) root pid ↔
      ReflTransGen snapshot.table.Parent pid root ∧
        (pid ∈ snapshot.matchingPids claimedPids taskClass ∨ pid = root ∧ root ∉ claimedPids) := by
    intro root pid
    rw [Covers, treeMembers, mem_nonEmpty, Finset.mem_filter,
      mem_unclaimedDescendants]
    constructor
    · rintro ⟨⟨hbelow, hfree⟩, hmatching | rfl⟩
      · exact ⟨hbelow, .inl hmatching⟩
      · exact ⟨hbelow, .inr ⟨rfl, hfree⟩⟩
    · rintro ⟨hbelow, hmatching | ⟨rfl, hfree⟩⟩
      · exact ⟨⟨hbelow, (mem_unclaimed.mp hmatching).1⟩, .inl hmatching⟩
      · exact ⟨⟨hbelow, hfree⟩, .inr rfl⟩
  have hfree : ∀ pid ∈ snapshot.topPids (snapshot.matchingPids claimedPids taskClass),
      pid ∉ claimedPids :=
    fun pid hpid => (mem_unclaimed.mp (mem_topPids hpid)).1
  constructor
  case nodup => exact topPids_nodup unclaimed_nodup
  case covers =>
    intro root pid
    simp [hcovers, FocusSnapshot.treePass]
  case isSome_iff =>
    intro root hroot
    obtain ⟨found, hfound, -⟩ := (hcovers root root).mpr ⟨.refl, .inr ⟨rfl, hfree root hroot⟩⟩
    rw [hfound]
    exact iff_of_true rfl trivial
  case seed => exact fun root hroot _ => ⟨root, mem_topPids hroot, .refl⟩
  case own => exact hfree
  case free => exact fun root hroot _ => hfree root hroot
  case takes_free => exact fun pid htakes => (mem_unclaimed.mp htakes).1

variable {fuel : Nat} {roots : List Nat}

/-- The members of a root that is not claimed, before one asks for a compile process among them. -/
theorem mem_compileCandidates (snapshot : FocusSnapshot S) (roots : List Nat) {root : Nat}
    (pid : Nat)
    (hfree : root ∉ claimedPids) {below : Finset Nat}
    (hbelow : below = (snapshot.unclaimedDescendants claimedPids root).filter fun pid =>
      snapshot.rowIs (fun process => isCompileClass process.taskClass || process.pid = root ||
        process.taskClass = .terminal || process.taskClass = .shell) pid) :
    pid ∈ (if root ∈ snapshot.compilePids claimedPids then insert root below else below) ↔
      ReflTransGen snapshot.table.Parent pid root ∧
        ((snapshot.compilePass claimedPids roots).takes pid ∨
          pid = root ∧ ∃ process, snapshot.table.get root = some process) := by
  have hmem : pid ∈ below ↔ ReflTransGen snapshot.table.Parent pid root ∧
      ((snapshot.compilePass claimedPids roots).takes pid ∨
        pid = root ∧ ∃ process, snapshot.table.get root = some process) := by
    rw [hbelow, Finset.mem_filter, mem_unclaimedDescendants, rowIs_iff, and_assoc]
    refine and_congr_right fun _ => ?_
    constructor
    · rintro ⟨hpid, process, hget, hkind⟩
      simp only [Bool.or_eq_true, decide_eq_true_eq] at hkind
      rcases hkind with ((hkind | hroot) | hkind) | hkind
      · exact .inl (mem_unclaimed.mpr ⟨hpid, rowIs_iff.mpr ⟨process, hget, by simp [hkind]⟩⟩)
      · have hsame := (get_eq_some_iff.mp hget).2
        obtain rfl : pid = root := hsame.symm.trans hroot
        exact .inr ⟨rfl, process, hget⟩
      · exact .inl (mem_unclaimed.mpr ⟨hpid, rowIs_iff.mpr ⟨process, hget, by simp [hkind]⟩⟩)
      · exact .inl (mem_unclaimed.mpr ⟨hpid, rowIs_iff.mpr ⟨process, hget, by simp [hkind]⟩⟩)
    · rintro (htakes | ⟨rfl, process, hget⟩)
      · obtain ⟨hpid, hrow⟩ := mem_unclaimed.mp htakes
        obtain ⟨process, hget, hkind⟩ := rowIs_iff.mp hrow
        simp only [Bool.or_eq_true, decide_eq_true_eq] at hkind
        refine ⟨hpid, process, hget, ?_⟩
        rcases hkind with (hkind | hkind) | hkind
        · simp [hkind]
        · simp [hkind]
        · simp [hkind]
      · exact ⟨hfree, process, hget, by simp [(get_eq_some_iff.mp hget).2]⟩
  split_ifs with hcompile
  · rw [Finset.mem_insert, hmem, or_iff_right_iff_imp]
    rintro rfl
    exact ⟨.refl, .inr ⟨rfl, compilePids_row hcompile⟩⟩
  · exact hmem

theorem compilePass_takes {pid : Nat} (h : pid ∈ snapshot.compilePids claimedPids) :
    (snapshot.compilePass claimedPids roots).takes pid := by
  obtain ⟨hfree, hrow⟩ := mem_unclaimed.mp h
  obtain ⟨process, hget, hcompile⟩ := rowIs_iff.mp hrow
  exact mem_unclaimed.mpr ⟨hfree, rowIs_iff.mpr ⟨process, hget, by simp [hcompile]⟩⟩

theorem compileMembers_cases (snapshot : FocusSnapshot S) (claimedPids : Finset Nat)
    (roots : List Nat) (root : Nat) :
    (¬(snapshot.compilePass claimedPids roots).viable root ∧
      snapshot.compileMembers claimedPids root = none) ∨
    ((snapshot.compilePass claimedPids roots).viable root ∧ ∃ found,
      snapshot.compileMembers claimedPids root = some found ∧
      ∀ pid, pid ∈ found ↔ ReflTransGen snapshot.table.Parent pid root ∧
        ((snapshot.compilePass claimedPids roots).takes pid ∨
          pid = root ∧ ∃ process, snapshot.table.get root = some process)) := by
  by_cases hclaimed : root ∈ claimedPids
  · exact .inl ⟨fun hviable => hviable.1 hclaimed, if_pos hclaimed⟩
  have hmem := fun pid => mem_compileCandidates snapshot roots pid hclaimed rfl
  rw [compileMembers, if_neg hclaimed]
  by_cases hseed : ∃ pid ∈ snapshot.compilePids claimedPids,
    ReflTransGen snapshot.table.Parent pid root
  · obtain ⟨pid, hpid, hbelow⟩ := hseed
    exact .inr ⟨⟨hclaimed, pid, hpid, hbelow⟩, _,
      if_pos ⟨pid, (hmem pid).mpr ⟨hbelow, .inl (compilePass_takes hpid)⟩, hpid⟩, hmem⟩
  · refine .inl ⟨fun hviable => hseed hviable.2, if_neg ?_⟩
    rintro ⟨pid, hin, hpid⟩
    exact hseed ⟨pid, hpid, ((hmem pid).mp hin).1⟩

variable [LinearOrder S]

theorem compilePass_gives (h : snapshot.compileRoots claimedPids fuel = some roots) :
    (snapshot.compilePass claimedPids roots).Gives snapshot.table claimedPids
      (snapshot.compileMembers claimedPids)
      fun root => ∃ process, snapshot.table.get root = some process := by
  obtain ⟨hnodup, hrows⟩ := compileRoots_rows h
  constructor
  case nodup => exact hnodup
  case covers =>
    intro root pid
    rcases compileMembers_cases snapshot claimedPids roots root with
      ⟨hnot, hnone⟩ | ⟨hviable, found, hfound, hmem⟩
    · simp [Covers, hnone, hnot]
    · simp only [Covers, hfound, Option.some.injEq, exists_eq_left', hmem, hviable, true_and]
  case isSome_iff =>
    intro root _
    rcases compileMembers_cases snapshot claimedPids roots root with
      ⟨hnot, hnone⟩ | ⟨hviable, found, hfound, -⟩
    · simp [hnone, hnot]
    · simp [hfound, hviable]
  case seed =>
    rintro root - ⟨-, pid, hpid, hbelow⟩
    exact ⟨pid, compilePass_takes hpid, hbelow⟩
  case own => exact hrows
  case free => exact fun root _ hviable => hviable.1
  case takes_free => exact fun pid htakes => (mem_unclaimed.mp htakes).1

theorem buildCompileGroups_eq : snapshot.buildCompileGroups claimedPids fuel =
    (snapshot.compileRoots claimedPids fuel).map fun roots =>
      groupsOf .compile (snapshot.compileMembers claimedPids)
        (byKey (snapshot.compilePass claimedPids roots).key roots) := by
  rw [buildCompileGroups]
  split_ifs with hempty
  · have hpids : snapshot.compilePids claimedPids = [] := List.isEmpty_iff.mp hempty
    have hroots : snapshot.compileRoots claimedPids fuel = some [] := by
      simp [compileRoots, topPids, hpids]
    rw [hroots, Option.map_some, byKey, List.mergeSort_nil]
    rfl
  · rfl

/-- Of a builder that makes one group at most. -/
theorem single_spec {group : Option FocusGroup}
    (h : ∀ g, group = some g → g.rootPids ⊆ g.memberPids ∧ Disjoint g.memberPids claimedPids) :
    Lawful claimedPids group.toList ∧ (group.toList.Pairwise Separate ↔ True) ∧
      claim claimedPids group.toList = claimedPids ∪ (group.map (·.memberPids)).getD ∅ := by
  rcases group with _ | group
  · exact ⟨⟨nofun, nofun⟩, iff_of_true .nil trivial, (Finset.union_empty _).symm⟩
  · obtain ⟨hrooted, hfresh⟩ := h group rfl
    refine ⟨⟨fun g hg => ?_, fun g hg => ?_⟩, iff_of_true (List.pairwise_singleton _ _) trivial,
      rfl⟩
    · obtain rfl := List.mem_singleton.mp hg
      exact hrooted
    · obtain rfl := List.mem_singleton.mp hg
      exact hfresh

theorem mem_of_maxByKey {α K : Type*} [LinearOrder K] {key : α → K} {xs : List α} {best : α}
    (h : LastGreatest.maxByKey key xs = some best) : best ∈ xs := by
  obtain ⟨before, after, rfl, -⟩ := LastGreatest.exists_of_maxByKey h
  exact List.mem_append_right _ List.mem_cons_self

theorem gameRoot_mem {root : Nat} (h : snapshot.gameRoot claimedPids = some root) :
    root ∈ snapshot.gameLikePids claimedPids := by
  simp only [gameRoot, Option.or_eq_some_iff] at h
  rcases h with h | ⟨-, h | ⟨-, h | ⟨-, h⟩⟩⟩
  · exact List.mem_of_mem_filter (mem_of_maxByKey h)
  · exact List.mem_of_mem_filter (List.mem_of_mem_filter (mem_of_maxByKey h))
  · exact List.mem_of_mem_filter (mem_of_maxByKey h)
  · exact mem_of_maxByKey h

variable {group : FocusGroup}

theorem buildGameGroup_lawful (h : snapshot.buildGameGroup claimedPids = some group) :
    group.rootPids ⊆ group.memberPids ∧ Disjoint group.memberPids claimedPids := by
  obtain ⟨root, hroot, hmake⟩ := Option.bind_eq_some_iff.mp h
  obtain ⟨hroots, hmembers⟩ := makeFocusGroup_eq_some hmake
  have hfree := (mem_unclaimed.mp (gameRoot_mem hroot)).1
  rw [hroots, hmembers, Finset.singleton_subset_iff, Finset.disjoint_left]
  constructor
  · refine Finset.mem_union_left _ (Finset.mem_union_left _ ?_)
    exact mem_unclaimedDescendants.mpr ⟨.refl, hfree⟩
  · intro pid hpid
    rcases Finset.mem_union.mp hpid with hpid | hpid
    · rcases Finset.mem_union.mp hpid with hpid | hpid
      · exact (mem_unclaimedDescendants.mp hpid).2
      · exact (mem_unclaimed.mp (List.mem_of_mem_filter (List.mem_toFinset.mp hpid))).1
    · exact (mem_unclaimed.mp (List.mem_of_mem_filter (List.mem_toFinset.mp hpid))).1

omit [Zero S] [LinearOrder S] in
theorem buildGroupOfKind_lawful {kind : FocusGroupKind}
    (h : snapshot.buildGroupOfKind claimedPids kind = some group) :
    group.rootPids ⊆ group.memberPids ∧ Disjoint group.memberPids claimedPids := by
  obtain ⟨hroots, hmembers⟩ := makeFocusGroup_eq_some h
  rw [hroots, hmembers, Finset.disjoint_left]
  exact ⟨Finset.filter_subset _ _, fun pid hpid => (mem_unclaimed.mp (List.mem_toFinset.mp hpid)).1⟩

omit [Zero S] in
theorem buildFallbackGroup_lawful (h : snapshot.buildFallbackGroup claimedPids = some group) :
    group.rootPids ⊆ group.memberPids ∧ Disjoint group.memberPids claimedPids := by
  obtain ⟨root, hroot, hmake⟩ := Option.bind_eq_some_iff.mp h
  obtain ⟨hroots, hmembers⟩ := makeFocusGroup_eq_some hmake
  have hrow := List.mem_of_mem_filter (mem_of_maxByKey hroot)
  rw [hroots, hmembers, Finset.singleton_subset_iff, Finset.disjoint_left]
  constructor
  · exact mem_unclaimedDescendants.mpr ⟨.refl, of_decide_eq_true (List.mem_filter.mp hrow).2⟩
  · exact fun pid hpid => (mem_unclaimedDescendants.mp hpid).2

/-- A builder leaves alone what is claimed, its groups are disjoint exactly if its roots are apart,
and what it takes can be told from its roots. -/
theorem groups_spec {builder : Builder} {built : List FocusGroup}
    (h : snapshot.groups fuel claimedPids builder = some built) :
    Lawful claimedPids built ∧ (built.Pairwise Separate ↔ snapshot.Apart claimedPids fuel builder) ∧
      claim claimedPids built = claimedPids ∪ snapshot.taken claimedPids fuel builder := by
  cases builder with
  | game =>
    obtain rfl := Option.some.inj h
    exact single_spec fun _ => buildGameGroup_lawful
  | browser =>
    obtain rfl := Option.some.inj h
    exact ⟨browserPass_gives.lawful, browserPass_gives.separate_iff preference_injective,
      browserPass_gives.claim_eq⟩
  | compile =>
    rw [FocusSnapshot.groups, buildCompileGroups_eq] at h
    obtain ⟨roots, hroots, rfl⟩ := Option.map_eq_some_iff.mp h
    have hgives := compilePass_gives hroots
    have hkey : Function.Injective (snapshot.compilePass claimedPids roots).key := by
      intro left right hsame
      exact preference_injective (congrArg (fun key : Nat ×ₗ S ×ₗ Nat => (ofLex key).2) hsame)
    refine ⟨hgives.lawful, (hgives.separate_iff hkey).trans ?_, hgives.claim_eq.trans ?_⟩
    · rw [FocusSnapshot.Apart, hroots]
      constructor
      · intro hapart other hother
        obtain rfl := Option.some.inj hother
        exact hapart
      · exact fun hapart => hapart roots rfl
    · rw [FocusSnapshot.taken, hroots]
      rfl
  | tree kind taskClass =>
    obtain rfl := Option.some.inj h
    have hgives := treePass_gives snapshot claimedPids taskClass
    exact ⟨hgives.lawful, hgives.separate_iff preference_injective, hgives.claim_eq⟩
  | desktop =>
    obtain rfl := Option.some.inj h
    exact single_spec fun _ => buildGroupOfKind_lawful
  | idle =>
    obtain rfl := Option.some.inj h
    exact single_spec fun _ => buildGroupOfKind_lawful
  | fallback =>
    obtain rfl := Option.some.inj h
    exact single_spec fun _ => buildFallbackGroup_lawful

/-! ## The run -/

/-- The induction is on the builders, for whatever was claimed before. -/
theorem runBuilders_spec {builders : List Builder} {built : List FocusGroup}
    (h : snapshot.runBuilders fuel builders claimedPids = some built) :
    Lawful claimedPids built ∧ (built.Pairwise Separate ↔
      snapshot.ApartAlong fuel builders claimedPids) := by
  induction builders generalizing claimedPids built with
  | nil =>
    obtain rfl := Option.some.inj h
    exact ⟨⟨nofun, nofun⟩, iff_of_true .nil trivial⟩
  | cons builder builders ih =>
    obtain ⟨first, hfirst, h⟩ := Option.bind_eq_some_iff.mp h
    obtain ⟨later, hlater, h⟩ := Option.bind_eq_some_iff.mp h
    obtain rfl := Option.some.inj h
    obtain ⟨hlawful, hseparate, hclaim⟩ := groups_spec hfirst
    rw [hclaim] at hlater
    obtain ⟨hlawfulLater, hseparateLater⟩ := ih hlater
    have hbetween : ∀ group ∈ first, ∀ other ∈ later, Separate group other := by
      intro group hgroup other hother
      refine (Finset.disjoint_of_subset_right ?_ (hlawfulLater.fresh other hother)).symm
      rw [← hclaim]
      exact fun pid hpid => mem_claim.mpr (.inr ⟨group, hgroup, hpid⟩)
    refine ⟨⟨?_, ?_⟩, ?_⟩
    · intro group hgroup
      rcases List.mem_append.mp hgroup with hgroup | hgroup
      · exact hlawful.rooted group hgroup
      · exact hlawfulLater.rooted group hgroup
    · intro group hgroup
      rcases List.mem_append.mp hgroup with hgroup | hgroup
      · exact hlawful.fresh group hgroup
      · exact (Finset.disjoint_union_right.mp (hlawfulLater.fresh group hgroup)).1
    · rw [List.pairwise_append, hseparate, hseparateLater, and_iff_left hbetween]
      rfl

/-- Only the compile groups need fuel. -/
theorem runBuilders_some
    (hcompile : ∀ claimedPids, ∃ built, snapshot.buildCompileGroups claimedPids fuel = some built)
    (builders : List Builder) (claimedPids : Finset Nat) :
    ∃ built, snapshot.runBuilders fuel builders claimedPids = some built := by
  induction builders generalizing claimedPids with
  | nil => exact ⟨[], rfl⟩
  | cons builder builders ih =>
    have hfirst : ∃ first, snapshot.groups fuel claimedPids builder = some first := by
      cases builder with
      | compile => exact hcompile claimedPids
      | _ => exact ⟨_, rfl⟩
    obtain ⟨first, hfirst⟩ := hfirst
    obtain ⟨later, hlater⟩ := ih (claim claimedPids first)
    exact ⟨first ++ later,
      by rw [runBuilders, hfirst, Option.bind_eq_bind, Option.bind_some, hlater]; rfl⟩

theorem separate_comm {left right : FocusGroup} (h : Separate left right) :
    Separate right left :=
  Disjoint.symm h

theorem buildFocusGroups_spec {groups : List FocusGroup}
    (h : snapshot.buildFocusGroups fuel = some groups) :
    (∀ group ∈ groups, group.rootPids ⊆ group.memberPids) ∧
      (groups.Pairwise Separate ↔ snapshot.ApartAlong fuel focusBuilders ∅) := by
  obtain ⟨built, hbuilt, rfl⟩ := Option.map_eq_some_iff.mp h
  obtain ⟨hlawful, hseparate⟩ := runBuilders_spec hbuilt
  refine ⟨fun group hgroup => hlawful.rooted group (List.mem_mergeSort.mp hgroup), ?_⟩
  rw [← hseparate]
  exact (List.mergeSort_perm built _).pairwise_iff separate_comm

/-- **When focus groups are disjoint.**  A group's roots are always among its members. -/
theorem buildFocusGroups_disjoint_iff {groups : List FocusGroup}
    (h : snapshot.buildFocusGroups fuel = some groups) :
    (∀ group ∈ groups, group.rootPids ⊆ group.memberPids) ∧
      (groups.Pairwise (fun left right => Disjoint left.memberPids right.memberPids) ↔
        snapshot.ApartAlong fuel focusBuilders ∅) := buildFocusGroups_spec h

end Builders

/-! ## A browser and its zygote -/

/-- Two processes that are named alike, one the parent of the other. -/
def browserRows : List FocusProcess :=
  [⟨30, 1, "chrome", "chrome", none, .browserForeground⟩,
    ⟨31, 30, "chrome", "chrome --type=zygote", none, .browserForeground⟩]

/-- Neither did anything since the last scan, so their scores are the same. -/
def browserAndZygote : FocusSnapshot Nat where
  table := ⟨browserRows, by decide, by decide⟩
  focusScore _ := 70
  cpuTimeTicksDelta _ := 0
  outranks _ _ := true

theorem browserAndZygote_unclaimed {claimedPids : Finset Nat} {predicate : FocusProcess → Bool}
    (h : ∀ process ∈ browserRows, predicate process = false) :
    browserAndZygote.unclaimed claimedPids predicate = [] := by
  have hnone : (browserRows.filter (·.pid ∉ claimedPids)).filter predicate = [] := by
    rw [List.filter_eq_nil_iff]
    intro process hprocess
    rw [h process (List.mem_of_mem_filter hprocess)]
    exact Bool.false_ne_true
  exact congrArg (List.map (·.pid)) hnone

theorem browserAndZygote_groups : ∃ groups, browserAndZygote.buildFocusGroups 0 = some groups := by
  have hcompile : ∀ claimedPids, browserAndZygote.buildCompileGroups claimedPids 0 = some [] := by
    intro claimedPids
    have hpids : browserAndZygote.compilePids claimedPids = [] :=
      browserAndZygote_unclaimed (by decide)
    rw [buildCompileGroups, hpids]
    rfl
  obtain ⟨built, hbuilt⟩ :=
    runBuilders_some (fun claimedPids => ⟨[], hcompile claimedPids⟩) focusBuilders ∅
  exact ⟨_, congrArg (Option.map _) hbuilt⟩

/-- The zygote is preferred for its greater pid, and its parent takes it in again. -/
theorem browserAndZygote_not_apart : ¬browserAndZygote.ApartAlong 0 focusBuilders ∅ := by
  rintro ⟨-, hapart, -⟩
  have hlike : browserAndZygote.gameLikePids ∅ = [] := browserAndZygote_unclaimed (by decide)
  have hroot : browserAndZygote.gameRoot ∅ = none := by
    rw [gameRoot, hlike]
    rfl
  have htaken : browserAndZygote.taken ∅ 0 .game = ∅ := by
    rw [FocusSnapshot.taken, buildGameGroup, hroot]
    rfl
  rw [htaken, Finset.empty_union] at hapart
  have hroots : ∀ root, root ∈ browserAndZygote.browserRoots ∅ ↔ root = 30 ∨ root = 31 := by
    intro root
    simp only [browserRoots, browserPids, List.mem_filter,
      mem_unclaimed, rowIs_iff]
    constructor
    · rintro ⟨⟨-, process, hget, -⟩, -⟩
      obtain ⟨hrow, rfl⟩ := get_eq_some_iff.mp hget
      rcases List.mem_cons.mp hrow with rfl | hrow
      · exact .inl rfl
      · exact .inr (congrArg (·.pid) (List.mem_singleton.mp hrow))
    · rintro (rfl | rfl)
      · exact ⟨⟨Finset.notMem_empty _, _, rfl, rfl⟩, _, rfl, rfl⟩
      · exact ⟨⟨Finset.notMem_empty _, _, rfl, rfl⟩, _, rfl, rfl⟩
  have hzygote : (browserAndZygote.browserPass ∅).Stands browserAndZygote.table 31 := by
    refine ⟨(hroots 31).mpr (.inr rfl), trivial, fun other hother _ hless => ?_⟩
    rcases (hroots other).mp hother with rfl | rfl
    · exact absurd hless (by decide)
    · exact absurd hless (lt_irrefl _)
  have hbrowser : (browserAndZygote.browserPass ∅).Stands browserAndZygote.table 30 := by
    refine ⟨(hroots 30).mpr (.inl rfl), trivial, fun other hother _ hless hbelow => ?_⟩
    rcases (hroots other).mp hother with rfl | rfl
    · exact absurd hless (lt_irrefl _)
    -- the browser's own parent has no row
    rcases ReflTransGen.cases_head hbelow with hsame | ⟨parent, ⟨process, hget, hparent⟩, hrest⟩
    · contradiction
    obtain rfl := Option.some.inj hget
    obtain rfl : 1 = parent := hparent
    rcases ReflTransGen.cases_head hrest with hsame | ⟨next, ⟨process, hget, -⟩, -⟩
    · contradiction
    · contradiction
  have hbelow : ReflTransGen browserAndZygote.table.Parent 31 30 := .single ⟨_, rfl, rfl⟩
  exact absurd (hapart 31 30 hzygote hbrowser hbelow) (by decide)

theorem buildFocusGroups_browserAndZygote :
    ∃ groups, browserAndZygote.buildFocusGroups 0 = some groups ∧
    (∀ group ∈ groups, group.rootPids ⊆ group.memberPids) ∧
      (groups.Pairwise (fun left right => Disjoint left.memberPids right.memberPids) ↔
        browserAndZygote.ApartAlong 0 focusBuilders ∅) := by
  obtain ⟨groups, hgroups⟩ := browserAndZygote_groups
  exact ⟨groups, hgroups, buildFocusGroups_disjoint_iff hgroups⟩

/-- The zygote is in two groups. -/
theorem browserAndZygote_shared : ¬∀ groups, browserAndZygote.buildFocusGroups 0 = some groups →
    groups.Pairwise fun left right => Disjoint left.memberPids right.memberPids := by
  intro hall
  obtain ⟨groups, hgroups⟩ := browserAndZygote_groups
  exact browserAndZygote_not_apart ((buildFocusGroups_spec hgroups).2.mp (hall groups hgroups))

end Stutter.FocusGroups

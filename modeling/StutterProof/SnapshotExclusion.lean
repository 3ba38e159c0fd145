import StutterProof.TargetSnapshot

/-! # Excluded trees in a target snapshot

Every task of a snapshot was asked for, and the filters allow it.  That none is a thread of an
excluded process fails in one way: a pid that is asked for and is a thread of an excluded process is
not looked up, but with `keep_missing_pid` it is kept as if it were missing. -/
namespace Stutter.Snapshot

open Relation (ReflTransGen)
open Tasks (TaskInfo TaskMap)
open Tasks.TaskTracker (missingTask)

/-! ## What a snapshot is to respect -/

section Spec
variable (input : TargetSnapshotInput)

/-- The process belongs to one of the trees. -/
def InTrees (rootPids : List Nat) (pid : Nat) : Prop :=
  ∃ root ∈ rootPids, input.processes.Has root ∧ ReflTransGen input.processes.walks.Parent pid root

def Excluded (pid : Nat) : Prop := InTrees input input.excludeTreePids pid

/-- A thread of a process, its main thread even where its task directory cannot be read. -/
def IsThread (tid pid : Nat) : Prop :=
  some tid ∈ input.threads.entries pid ∨ tid = pid ∧ input.processes.Has pid

/-- The process is asked for by its pid, by its cgroup or by a tree. -/
def Requested (pid : Nat) : Prop :=
  pid ∈ askedPids input ∧ input.processes.Has pid ∨ InTrees input input.treePids pid

/-- What a target snapshot is to respect. -/
structure Respects (snapshot : TargetSnapshot) : Prop where
  inScope : ∀ tid task, snapshot.tasks.get tid = some task →
    (∃ pid, IsThread input tid pid ∧ Requested input pid) ∨ tid ∈ askedPids input
  notExcluded : ∀ tid task, snapshot.tasks.get tid = some task →
    ∀ pid, Excluded input pid → ¬ IsThread input tid pid
  allowed : ∀ tid task, snapshot.tasks.get tid = some task → input.filters.allows task = true

/-- No pid that is asked for, and is a thread of an excluded process, is kept as a missing one. -/
def NoExcludedKept : Prop :=
  ∀ tid ∈ askedPids input, ¬ input.processes.Has tid →
    (∃ pid, Excluded input pid ∧ some tid ∈ input.threads.entries pid) →
    ¬ (input.keepMissingPid = true ∧ input.filters.allows (missingTask tid) = true)

end Spec

/-! ## Threads and trees -/

theorem mem_threadIdsFrom {maxThreads tid : Nat} {tids : Finset Nat} {entries : List (Option Nat)}
    (h : tid ∈ threadIdsFrom maxThreads tids entries) : tid ∈ tids ∨ some tid ∈ entries := by
  induction entries generalizing tids with
  | nil => exact .inl h
  | cons entry rest ih =>
    unfold threadIdsFrom at h
    split at h
    · exact .inl h
    · rcases entry with _ | other
      · exact (ih h).imp_right (List.mem_cons_of_mem _)
      · rcases ih h with hmem | hmem
        · rcases Finset.mem_insert.mp hmem with rfl | hold
          · exact .inr List.mem_cons_self
          · exact .inl hold
        · exact .inr (List.mem_cons_of_mem _ hmem)

theorem ThreadTable.mem_threadIdsOfAtLimited {processes : Processes}
    {threads : ThreadTable processes} {tid pid maxThreads : Nat}
    (h : tid ∈ threads.threadIdsOfAtLimited pid maxThreads) :
    some tid ∈ threads.entries pid := by
  rw [ThreadTable.threadIdsOfAtLimited, Finset.mem_sort] at h
  exact (mem_threadIdsFrom h).resolve_left (Finset.notMem_empty tid)

namespace Processes
variable {processes : Processes} {pid : Nat}

theorem has_of_get {row : ProcInfo} (h : processes.get pid = some row) : processes.Has pid :=
  ⟨row, List.mem_of_find?_eq_some h, of_decide_eq_true (List.find?_some h :)⟩

end Processes

section Input
variable {input : TargetSnapshotInput}

/-- A thread belongs to one process. -/
theorem IsThread.unique {tid left right : Nat} (hleft : IsThread input tid left)
    (hright : IsThread input tid right) : left = right := by
  rcases hleft with hleft | ⟨rfl, hleft⟩ <;> rcases hright with hright | ⟨rfl, hright⟩
  · exact input.threads.owner_unique tid left right hleft hright
  · exact input.threads.leader tid left hright hleft
  · exact (input.threads.leader tid right hleft hright).symm
  · rfl

theorem mem_membersOfTrees {rootPids : List Nat} {fuel : Nat} {members : Finset Nat}
    (h : membersOfTrees input fuel rootPids = some members) (pid : Nat) :
    pid ∈ members ↔ InTrees input rootPids pid := by
  induction rootPids generalizing members with
  | nil =>
    obtain rfl := Option.some.inj h
    simp [InTrees]
  | cons root rest ih =>
    rw [membersOfTrees] at h
    obtain ⟨others, hothers, h⟩ := Option.bind_eq_some_iff.mp h
    have hsplit : InTrees input (root :: rest) pid ↔ (input.processes.Has root ∧
        ReflTransGen input.processes.walks.Parent pid root) ∨ InTrees input rest pid := by
      simp [InTrees]
    rw [hsplit, ← ih hothers]
    by_cases hroot : input.processes.Has root
    · rw [if_pos hroot] at h
      obtain ⟨descendants, hdescendants, h⟩ := Option.bind_eq_some_iff.mp h
      obtain rfl := Option.some.inj h
      obtain ⟨fuel', result, hrun, hexact⟩ := input.processes.walks.descendantsOf_exact root
      obtain rfl : descendants = result := StepLoop.Ends.unique ⟨fuel, hdescendants⟩ ⟨fuel', hrun⟩
      rw [Finset.mem_union, Finset.mem_insert, hexact]
      have hself : pid = root → ReflTransGen input.processes.walks.Parent pid root :=
        fun h => h ▸ .refl
      tauto
    · rw [if_neg hroot] at h
      obtain rfl := Option.some.inj h
      simp [hroot]

theorem membersOfTrees_ends (input : TargetSnapshotInput) (rootPids : List Nat) :
    ∃ fuel, ∀ more, fuel ≤ more → ∃ members, membersOfTrees input more rootPids = some members := by
  induction rootPids with
  | nil => exact ⟨0, fun _ _ => ⟨∅, rfl⟩⟩
  | cons root rest ih =>
    obtain ⟨fuel, hfuel⟩ := ih
    obtain ⟨fuel', result, hrun, -⟩ := input.processes.walks.descendantsOf_exact root
    refine ⟨max fuel fuel', fun more hmore => ?_⟩
    obtain ⟨others, hothers⟩ := hfuel more ((le_max_left _ _).trans hmore)
    have hdescendants : input.processes.walks.descendantsOf root more = some result :=
      StepLoop.run_mono ((le_max_right _ _).trans hmore) hrun
    rw [membersOfTrees, hothers]
    by_cases hroot : input.processes.Has root <;> simp [hroot, hdescendants]

/-- The owners of an index are those of the table. -/
def OwnersRight (input : TargetSnapshotInput) (owners : Table Nat Nat) : Prop :=
  ∀ tid pid, owners.get tid = some pid → some tid ∈ input.threads.entries pid

theorem ownersRight_threadOwnerIndexAt : OwnersRight input (threadOwnerIndexAt input) := by
  refine List.foldlRecOn (motive := OwnersRight input) _ _ (fun tid pid h => by cases h)
    fun owners howners row _ => ?_
  refine List.foldlRecOn (motive := OwnersRight input) _ _ howners
    fun owners howners other hother tid pid h => ?_
  rw [Table.get_insert] at h
  split at h
  · next hsame =>
    obtain rfl := Option.some.inj h
    exact hsame ▸ ThreadTable.mem_threadIdsOfAtLimited hother
  · exact howners tid pid h

/-! ## Where the tasks come from -/

/-- The way in of a task. -/
inductive Origin (input : TargetSnapshotInput) (tid : Nat) : Prop where
  | expanded (pid : Nat) (hrequested : Requested input pid) (hnot : ¬ Excluded input pid)
      (hthread : IsThread input tid pid)
  | thread (pid : Nat) (hasked : tid ∈ askedPids input) (hnot : ¬ Excluded input pid)
      (hthread : IsThread input tid pid)
  | missing (hasked : tid ∈ askedPids input) (hnone : ¬ input.processes.Has tid)
      (hkept : input.keepMissingPid = true ∧ input.filters.allows (missingTask tid) = true)

def AllFrom (input : TargetSnapshotInput) (tasks : TaskMap) : Prop :=
  ∀ tid task, tasks.get tid = some task → Origin input tid

theorem allFrom_empty (input : TargetSnapshotInput) :
    AllFrom input .empty :=
  fun _ _ h => by cases h

variable (tasks : TaskMap)

theorem get_insert (task : TaskInfo) (tid : Nat) :
    (tasks.insert task).get tid = if tid = task.tid then some task else tasks.get tid :=
  Table.get_insert _ _ _ _

theorem AllFrom.insert {tasks : TaskMap} (h : AllFrom input tasks) {task : TaskInfo}
    (horigin : Origin input task.tid) : AllFrom input (tasks.insert task) := by
  intro tid other hget
  rw [get_insert] at hget
  split at hget
  · next hsame => exact hsame ▸ horigin
  · exact h tid other hget

theorem allFrom_expandTasksAt {processPids : Finset Nat}
    (h : ∀ pid ∈ processPids, Requested input pid ∧ ¬ Excluded input pid) :
    AllFrom input (expandTasksAt input processPids) := by
  refine List.foldlRecOn (motive := AllFrom input) _ _ (allFrom_empty input)
    fun tasks htasks pid hpid => ?_
  obtain ⟨hrequested, hnot⟩ := h pid ((Finset.mem_sort _).mp hpid)
  unfold expandTurn
  rcases hget : input.processes.get pid with _ | procInfo
  · exact htasks
  · dsimp only
    split
    · exact htasks.insert (.expanded pid hrequested hnot (.inr ⟨rfl, Processes.has_of_get hget⟩))
    · refine List.foldlRecOn (motive := AllFrom input) _ _ htasks fun tasks htasks tid htid => ?_
      exact htasks.insert (.expanded pid hrequested hnot
        (.inl (ThreadTable.mem_threadIdsOfAtLimited htid)))

section Unresolved
variable {excludedPids : Finset Nat} {owners : Table Nat Nat}

/-- What one unresolved pid adds: a task that is no thread of an excluded process, or a missing
pid. -/
theorem unresolvedTurn_cases (howners : OwnersRight input owners)
    (acc : Finset Nat × TaskMap × List Nat) (tid : Nat) :
    (∃ task pid, task.tid = tid ∧ pid ∉ excludedPids ∧ some tid ∈ input.threads.entries pid ∧
      (unresolvedTurn input excludedPids owners acc tid).2 = (acc.2.1.insert task, acc.2.2)) ∨
    (input.keepMissingPid = true ∧
      (unresolvedTurn input excludedPids owners acc tid).2 = (acc.2.1, acc.2.2 ++ [tid])) ∨
    input.keepMissingPid = false ∧ (unresolvedTurn input excludedPids owners acc tid).2 =
      acc.2 := by
  obtain ⟨requestedRoots, tasks, missing⟩ := acc
  unfold unresolvedTurn
  dsimp only
  rcases hfound : (owners.get tid).bind fun processPid =>
    if processPid ∈ excludedPids then none
    else (input.processes.get processPid).map fun procInfo =>
      (processPid, procInfo) with _ | ⟨pid, procInfo⟩
  · right
    rcases hkeep : input.keepMissingPid with _ | _
    · exact .inr ⟨rfl, rfl⟩
    · exact .inl ⟨rfl, rfl⟩
  · left
    obtain ⟨owner, howner, hrow⟩ := Option.bind_eq_some_iff.mp hfound
    split at hrow
    · cases hrow
    · next hnot =>
      obtain ⟨row, -, hpair⟩ := Option.map_eq_some_iff.mp hrow
      obtain ⟨rfl, rfl⟩ := Prod.mk.inj hpair
      exact ⟨taskInfoFromTidAt input tid owner row, owner, rfl, hnot, howners tid owner howner, rfl⟩

theorem foldl_unresolvedTurn (howners : OwnersRight input owners)
    (hexcluded : ∀ pid, Excluded input pid → pid ∈ excludedPids) {tids : List Nat}
    (hasked : ∀ tid ∈ tids, tid ∈ askedPids input ∧ ¬ input.processes.Has tid)
    (acc : Finset Nat × TaskMap × List Nat) (htasks : AllFrom input acc.2.1) :
    AllFrom input (tids.foldl (unresolvedTurn input excludedPids owners) acc).2.1 ∧
      (∀ tid ∈ (tids.foldl (unresolvedTurn input excludedPids owners) acc).2.2,
        tid ∈ acc.2.2 ∨ tid ∈ tids ∧ input.keepMissingPid = true) ∧
      ∀ tid, tid ∈ acc.2.2 ∨ tid ∈ tids ∧ input.keepMissingPid = true ∧
        (∃ pid, Excluded input pid ∧ some tid ∈ input.threads.entries pid) →
        tid ∈ (tids.foldl (unresolvedTurn input excludedPids owners) acc).2.2 := by
  induction tids generalizing acc with
  | nil =>
    exact ⟨htasks, fun tid h => .inl h, fun tid h => h.resolve_right fun hmem => nomatch hmem.1⟩
  | cons tid rest ih =>
    have hrest := fun other hmem => hasked other (List.mem_cons_of_mem tid hmem)
    rw [List.foldl_cons]
    rcases unresolvedTurn_cases howners acc tid with ⟨task, pid, htid, hnot, hthread, hturn⟩ |
      ⟨hkeep, hturn⟩ | ⟨hkeep, hturn⟩
    · have horigin : Origin input task.tid := htid ▸
        .thread pid (hasked tid List.mem_cons_self).1 (fun h => hnot (hexcluded pid h))
          (.inl hthread)
      obtain ⟨hfrom, hsound, hcomplete⟩ :=
        ih hrest (unresolvedTurn input excludedPids owners acc tid)
        (by rw [hturn]; exact htasks.insert horigin)
      rw [hturn] at hsound hcomplete
      refine ⟨hfrom, fun other hmem => ?_, fun other hother => hcomplete other ?_⟩
      · exact (hsound other hmem).imp_right fun h => ⟨List.mem_cons_of_mem _ h.1, h.2⟩
      · refine hother.imp_right fun ⟨hmem, hkeep, pid', hpid', hthread'⟩ => ?_
        rcases List.mem_cons.mp hmem with rfl | hmem
        · -- a thread of an excluded process is not looked up
          obtain rfl := input.threads.owner_unique _ pid pid' hthread hthread'
          exact absurd (hexcluded pid hpid') hnot
        · exact ⟨hmem, hkeep, pid', hpid', hthread'⟩
    · obtain ⟨hfrom, hsound, hcomplete⟩ :=
        ih hrest (unresolvedTurn input excludedPids owners acc tid)
        (by rw [hturn]; exact htasks)
      rw [hturn] at hsound hcomplete
      refine ⟨hfrom, fun other hmem => ?_, fun other hother => hcomplete other ?_⟩
      · rcases hsound other hmem with hold | ⟨hmem, hkeep⟩
        · rcases List.mem_append.mp hold with hold | hnew
          · exact .inl hold
          · obtain rfl := List.mem_singleton.mp hnew
            exact .inr ⟨List.mem_cons_self, hkeep⟩
        · exact .inr ⟨List.mem_cons_of_mem _ hmem, hkeep⟩
      · rcases hother with hold | ⟨hmem, hkeep, hbad⟩
        · exact .inl (List.mem_append_left _ hold)
        · rcases List.mem_cons.mp hmem with rfl | hmem
          · exact .inl (List.mem_append_right _ List.mem_cons_self)
          · exact .inr ⟨hmem, hkeep, hbad⟩
    · obtain ⟨hfrom, hsound, hcomplete⟩ :=
        ih hrest (unresolvedTurn input excludedPids owners acc tid)
        (by rw [hturn]; exact htasks)
      rw [hturn] at hsound hcomplete
      refine ⟨hfrom, fun other hmem => ?_, fun other hother => hcomplete other ?_⟩
      · exact (hsound other hmem).imp_right fun h => ⟨List.mem_cons_of_mem _ h.1, h.2⟩
      · exact hother.imp_right fun h => absurd h.2.1 (by rw [hkeep]; decide)

end Unresolved

/-- What the loop over the missing pids leaves under a tid. -/
theorem get_foldl_missingTurn (missing : List Nat) (tasks : TaskMap) (tid : Nat) :
    (missing.foldl (missingTurn input) tasks).get tid =
      if tid ∈ missing ∧ input.filters.allows (missingTask tid) = true then some (missingTask tid)
      else tasks.get tid := by
  induction missing generalizing tasks with
  | nil => simp
  | cons pid rest ih =>
    simp only [List.foldl_cons, ih, List.mem_cons]
    by_cases hrest : tid ∈ rest ∧ input.filters.allows (missingTask tid) = true
    · rw [if_pos hrest, if_pos ⟨.inr hrest.1, hrest.2⟩]
    · rw [if_neg hrest]
      unfold missingTurn
      have htid (pid : Nat) : (missingTask pid).tid = pid := rfl
      by_cases hsame : tid = pid
      · subst hsame
        by_cases hallows : input.filters.allows (missingTask tid) = true
        · rw [if_pos hallows, get_insert, if_pos (htid tid).symm, if_pos ⟨.inl rfl, hallows⟩]
        · rw [if_neg hallows, if_neg fun h => hallows h.2]
      · have hother : ¬ ((tid = pid ∨ tid ∈ rest) ∧
            input.filters.allows (missingTask tid) = true) := by
          rintro ⟨hpid | hmem, hallows⟩
          · exact hsame hpid
          · exact hrest ⟨hmem, hallows⟩
        rw [if_neg hother]
        split
        · rw [get_insert, htid, if_neg hsame]
        · rfl

/-! ## The snapshot -/

theorem get_retain (keep : TaskInfo → Bool) (tid : Nat) (task : TaskInfo) :
    (retain tasks keep).get tid = some task ↔ tasks.get tid = some task ∧ keep task = true := by
  show (retain tasks keep).table.get tid = some task ↔ tasks.table.get tid = some task ∧ _
  rw [← Table.mem_entries, ← Table.mem_entries]
  exact List.mem_filter

theorem get_describe (change : TaskInfo → TaskInfo)
    (hchange : ∀ task, (change task).tid = task.tid) (tid : Nat) :
    (describe tasks change hchange).get tid = (tasks.get tid).map change :=
  Table.get_mapValues _ _ _

/-- The filters read the names only. -/
theorem allows_congr {filters : TaskFilters} {task other : TaskInfo}
    (hcomm : task.comm = other.comm) (hprocess : task.processComm = other.processComm) :
    filters.allows task = filters.allows other := by
  have hmatches (patterns : List ActiveConfig.CompiledPattern) :
      matchesAny patterns task = matchesAny patterns other := by
    rw [matchesAny, matchesAny, hcomm, hprocess]
  rw [TaskFilters.allows, TaskFilters.allows, hmatches, hmatches]

/-- What a finished snapshot consists of. -/
theorem targetSnapshot_spec {fuel : Nat} {snapshot : TargetSnapshot}
    (h : targetSnapshot input fuel = some snapshot) :
    ∃ merged : TaskMap, ∃ requestedRoots,
      (∀ tid task, snapshot.tasks.get tid = some task ↔ ∃ before, merged.get tid = some before ∧
        task = describeTask input requestedRoots before ∧ input.filters.allows task = true) ∧
      AllFrom input merged ∧
      ∀ tid ∈ askedPids input, ¬ input.processes.Has tid →
        (∃ pid, Excluded input pid ∧ some tid ∈ input.threads.entries pid) →
        input.keepMissingPid = true ∧ input.filters.allows (missingTask tid) = true →
        merged.get tid = some (missingTask tid) := by
  obtain ⟨treeMembers, htree, h⟩ := Option.bind_eq_some_iff.mp h
  obtain ⟨excludedPids, hexcluded, h⟩ := Option.bind_eq_some_iff.mp h
  obtain rfl := Option.some.inj h
  have hexcluded := mem_membersOfTrees hexcluded
  have hasked : ∀ tid ∈ (askedPids input).filter fun pid => ¬ input.processes.Has pid,
      tid ∈ askedPids input ∧ ¬ input.processes.Has tid := fun tid hmem => by simpa using hmem
  generalize hroots : (((askedPids input).filter fun pid => input.processes.Has pid).toFinset ∪
    treeMembers) \
    excludedPids = processRoots
  have hexpanded : AllFrom input (expandTasksAt input processRoots) := by
    refine allFrom_expandTasksAt fun pid hpid => ?_
    rw [← hroots, Finset.mem_sdiff, Finset.mem_union, hexcluded, mem_membersOfTrees htree] at hpid
    exact ⟨hpid.1.imp_left fun hmem => by simpa using hmem, hpid.2⟩
  obtain ⟨hfrom, hsound, hcomplete⟩ := foldl_unresolvedTurn ownersRight_threadOwnerIndexAt
    (fun pid hpid => (hexcluded pid).mpr hpid) hasked
    (((askedPids input).filter fun pid => input.processes.Has pid).toFinset ∪
      input.treePids.toFinset, expandTasksAt input processRoots, []) hexpanded
  generalize ((askedPids input).filter fun pid => ¬ input.processes.Has pid).foldl
    (unresolvedTurn input excludedPids (threadOwnerIndexAt input))
    (((askedPids input).filter fun pid => input.processes.Has pid).toFinset ∪
      input.treePids.toFinset, expandTasksAt input processRoots,
        []) = acc at hfrom hsound hcomplete ⊢
  refine ⟨acc.2.2.foldl (missingTurn input) acc.2.1, acc.1, fun tid task => ?_,
    fun tid task hget => ?_, fun tid hmem hnone hbad hkept => ?_⟩
  · rw [get_retain, get_describe, Option.map_eq_some_iff]
    constructor
    · rintro ⟨⟨before, hbefore, rfl⟩, hallows⟩
      exact ⟨before, hbefore, rfl, hallows⟩
    · rintro ⟨before, hbefore, rfl, hallows⟩
      exact ⟨⟨before, hbefore, rfl⟩, hallows⟩
  · rw [get_foldl_missingTurn] at hget
    split at hget
    · next hmissing =>
      obtain ⟨hmem, hkeep⟩ := (hsound tid hmissing.1).resolve_left (List.not_mem_nil)
      exact .missing (hasked tid hmem).1 (hasked tid hmem).2 ⟨hkeep, hmissing.2⟩
    · exact hfrom tid task hget
  · have hunresolved : tid ∈ (askedPids input).filter fun pid => ¬ input.processes.Has pid := by
      simpa using And.intro hmem hnone
    rw [get_foldl_missingTurn, if_pos ⟨hcomplete tid (.inr ⟨hunresolved, hkept.1, hbad⟩), hkept.2⟩]

theorem inScope_of_origin {tid : Nat} (h : Origin input tid) :
    (∃ pid, IsThread input tid pid ∧ Requested input pid) ∨ tid ∈ askedPids input := by
  cases h with
  | expanded pid hrequested hnot hthread => exact .inl ⟨pid, hthread, hrequested⟩
  | thread pid hasked hnot hthread => exact .inr hasked
  | missing hasked hnone hkept => exact .inr hasked

/-- Two of the ways in keep the threads of excluded processes out. -/
theorem not_isThread_of_origin {tid : Nat} (h : Origin input tid) (hkept : NoExcludedKept input)
    {pid : Nat} (hexcluded : Excluded input pid) : ¬ IsThread input tid pid := by
  intro hthread
  cases h with
  | expanded owner hrequested hnot howner => exact hnot (howner.unique hthread ▸ hexcluded)
  | thread owner hasked hnot howner => exact hnot (howner.unique hthread ▸ hexcluded)
  | missing hasked hnone hmissing =>
    rcases hthread with hthread | ⟨rfl, hprocess⟩
    · exact hkept tid hasked hnone ⟨pid, hexcluded, hthread⟩ hmissing
    · exact hnone hprocess

end Input

/-- The snapshot is made for every input, and it respects what was asked for, the exclusions and the
filters exactly if no thread of an excluded process is kept as a missing pid. -/
theorem targetSnapshot_respects_iff (input : TargetSnapshotInput) :
    (∃ fuel snapshot, targetSnapshot input fuel = some snapshot) ∧
      ∀ fuel snapshot, targetSnapshot input fuel = some snapshot →
        (Respects input snapshot ↔ NoExcludedKept input) := by
  constructor
  · obtain ⟨fuel, hfuel⟩ := membersOfTrees_ends input input.treePids
    obtain ⟨fuel', hfuel'⟩ := membersOfTrees_ends input input.excludeTreePids
    obtain ⟨treeMembers, htree⟩ := hfuel (max fuel fuel') (le_max_left _ _)
    obtain ⟨excludedPids, hexcluded⟩ := hfuel' (max fuel fuel') (le_max_right _ _)
    refine ⟨max fuel fuel', ?_⟩
    unfold targetSnapshot
    rw [htree, hexcluded]
    exact ⟨_, rfl⟩
  · intro fuel snapshot h
    obtain ⟨merged, requestedRoots, hget, hfrom, hmissing⟩ := targetSnapshot_spec h
    constructor
    · intro hrespects tid hasked hnone hbad hkept
      have hmerged := hmissing tid hasked hnone hbad hkept
      obtain ⟨htid, _, hcomm, hprocess⟩ := describeTask_same input requestedRoots (missingTask tid)
      have hallows : input.filters.allows (describeTask input requestedRoots (missingTask tid)) =
          true :=
        (allows_congr hcomm hprocess).trans hkept.2
      have htask := (hget tid _).mpr ⟨missingTask tid, hmerged, rfl, hallows⟩
      obtain ⟨pid, hpid, hthread⟩ := hbad
      exact hrespects.notExcluded tid _ htask pid hpid (.inl hthread)
    · intro hkept
      refine ⟨fun tid task htask => ?_, fun tid task htask pid hpid => ?_,
        fun tid task htask => ?_⟩ <;>
        obtain ⟨before, hbefore, htaskEq, hallows⟩ := (hget tid task).mp htask
      · exact inScope_of_origin (hfrom tid before hbefore)
      · exact not_isThread_of_origin (hfrom tid before hbefore) hkept hpid
      · exact hallows

/-- One process with two threads. -/
def oneProcess : Processes where
  rows := [⟨10, 1, "game", "game", "/bin/game", "/user.slice", some 500, some 0, some 1, some 2⟩]
  ordered := List.pairwise_singleton _ _
  pid_ne_zero := by decide

def twoThreads : ThreadTable oneProcess where
  entries := fun pid => if pid = 10 then [some 10, some 11] else []
  comm := fun _ tid => if tid = 11 then some "render" else none
  stat := fun _ _ => (some 501, some 0)
  owner_unique := by
    intro tid left right hleft hright
    split at hleft
    · split at hright
      · simp_all
      · cases hright
    · cases hleft
  leader := by
    intro pid owner hprocess hmem
    obtain ⟨row, hrow, rfl⟩ := hprocess
    obtain rfl := List.mem_singleton.mp hrow
    split at hmem
    · assumption
    · cases hmem

/-- The second thread of the process is asked for, and the tree of the process is excluded. -/
def excludedThread (keepMissingPid : Bool) : TargetSnapshotInput where
  processes := oneProcess
  threads := twoThreads
  manualPids := [11]
  treePids := []
  cgroupPids := ∅
  excludeTreePids := [10]
  filters := ⟨[], []⟩
  keepMissingPid := keepMissingPid
  previousTasks := none
  maxThreadsPerProcess := 4096
  communityRules := none
  classifyTask := fun _ _ _ => .unknown

theorem excludedThread_ends (keepMissingPid : Bool) :
    ∃ snapshot, targetSnapshot (excludedThread keepMissingPid) 3 = some snapshot := by
  refine Option.isSome_iff_exists.mp ?_
  cases keepMissingPid <;> decide +kernel

/-- The thread is left out where missing pids are not kept. -/
theorem excludedThread_dropped :
    ∃ snapshot, targetSnapshot (excludedThread false) 3 = some snapshot ∧
    Respects (excludedThread false) snapshot := by
  obtain ⟨snapshot, hsnapshot⟩ := excludedThread_ends false
  refine ⟨snapshot, hsnapshot,
    ((targetSnapshot_respects_iff (excludedThread false)).2 3 snapshot hsnapshot).mpr ?_⟩
  intro tid _ _ _ hkept
  cases hkept.1

/-- It is kept, without its name, where they are. -/
theorem excludedThread_kept :
    (∃ snapshot task, targetSnapshot (excludedThread true) 3 = some snapshot ∧
      snapshot.tasks.get 11 = some task ∧ task.comm = "?") ∧
    Excluded (excludedThread true) 10 ∧ IsThread (excludedThread true) 11 10 ∧
    ¬ ∀ input fuel snapshot, targetSnapshot input fuel = some snapshot →
      Respects input snapshot := by
  have hexcluded : Excluded (excludedThread true) 10 :=
    ⟨10, List.mem_singleton_self 10, by decide, .refl⟩
  have hthread : some 11 ∈ (excludedThread true).threads.entries 10 := by decide
  obtain ⟨snapshot, hsnapshot⟩ := excludedThread_ends true
  obtain ⟨merged, requestedRoots, hget, -, hmissing⟩ := targetSnapshot_spec hsnapshot
  have hmerged : merged.get 11 = some (missingTask 11) :=
    hmissing 11 (List.mem_append_right _ (List.mem_singleton_self 11))
      (by decide) ⟨10, hexcluded, hthread⟩
      ⟨rfl, rfl⟩
  have htask := (hget 11 _).mpr ⟨missingTask 11, hmerged, rfl, rfl⟩
  refine ⟨⟨snapshot, _, hsnapshot, htask,
    (describeTask_same _ requestedRoots (missingTask 11)).2.2.1⟩,
    hexcluded, .inl hthread, fun hall => ?_⟩
  exact (hall _ 3 snapshot hsnapshot).notExcluded 11 _ htask 10 hexcluded (.inl hthread)

end Stutter.Snapshot

import StutterProof.ProcessWalkLaws
import StutterProof.RepeatedRefresh

/-! # The target snapshot

A snapshot of the process tree lists the tasks to monitor.  Tasks come in on four ways: their
process is asked for by its pid, by its cgroup or by a tree it belongs to, or the task is asked for
itself.  Trees can be excluded, and names filtered.  A pid that is no process is looked up among the
threads, and where it is none of those either it can be kept as a missing one. -/
namespace Stutter.Snapshot

open ActiveConfig (CompiledPattern TaskClass)
open ProcessTree (FocusProcess ProcessTable)
open Tasks (TaskInfo TaskMap)
open Tasks.TaskTracker (missingTask)

/-! ## Processes and threads -/

/-- A process as `/proc` shows it. -/
structure ProcInfo where
  pid : Nat
  ppid : Nat
  comm : String
  cmdline : String
  exePath : String
  cgroupPath : String
  starttimeTicks : Option Nat
  schedPolicy : Option Nat
  exeDev : Option Nat
  exeIno : Option Nat

/-- What `scan_processes_at` found, in the order of the pids. -/
structure Processes where
  rows : List ProcInfo
  ordered : rows.Pairwise (·.pid < ·.pid)
  pid_ne_zero : ∀ row ∈ rows, row.pid ≠ 0

namespace Processes
variable (processes : Processes)

def get (pid : Nat) : Option ProcInfo := processes.rows.find? (·.pid = pid)

/-- `processes.contains_key`. -/
def Has (pid : Nat) : Prop := ∃ row ∈ processes.rows, row.pid = pid

instance : DecidablePred processes.Has := fun pid =>
  inferInstanceAs (Decidable (∃ row ∈ processes.rows, row.pid = pid))

/-- The rows as the walks over them read them. -/
def walks : ProcessTable where
  processes :=
    processes.rows.map fun row => ⟨row.pid, row.ppid, row.comm, row.cmdline, none, .unknown⟩
  ordered := List.pairwise_map.mpr processes.ordered
  pid_ne_zero := by
    intro process hmem
    obtain ⟨row, hrow, rfl⟩ := List.mem_map.mp hmem
    exact processes.pid_ne_zero row hrow

end Processes

/-- The task directories of the processes.  A thread is one of a single process, and a process's own
pid is a thread of no other. -/
structure ThreadTable (processes : Processes) where
  /-- the names in `/proc/<pid>/task`, as far as they are numbers -/
  entries : Nat → List (Option Nat)
  /-- `task_comm_at`, of a pid and a tid -/
  comm : Nat → Nat → Option String
  /-- the start time and the policy of `stat_starttime_and_policy_at` -/
  stat : Nat → Nat → Option Nat × Option Nat
  owner_unique : ∀ tid left right, some tid ∈ entries left → some tid ∈ entries right → left = right
  leader : ∀ pid owner, processes.Has pid → some pid ∈ entries owner → owner = pid

/-- The loop of `thread_ids_of_at_limited`. -/
def threadIdsFrom (maxThreads : Nat) (tids : Finset Nat) : List (Option Nat) → Finset Nat
  | [] => tids
  | entry :: rest =>
    if maxThreads ≤ tids.card then tids
    else
      match entry with
      | none => threadIdsFrom maxThreads tids rest
      | some tid => threadIdsFrom maxThreads (insert tid tids) rest

/-- `thread_ids_of_at_limited`. -/
def ThreadTable.threadIdsOfAtLimited {processes : Processes} (threads : ThreadTable processes)
    (pid maxThreads : Nat) : List Nat :=
  (threadIdsFrom maxThreads ∅ (threads.entries pid)).sort (· ≤ ·)

/-- `TaskFilters`. -/
structure TaskFilters where
  includeComm : List CompiledPattern
  excludeComm : List CompiledPattern

/-- A pattern of the list matches the task's name or its process's. -/
def matchesAny (patterns : List CompiledPattern) (task : TaskInfo) : Bool :=
  patterns.any fun pattern => pattern.matches task.comm || pattern.matches task.processComm

def TaskFilters.allows (filters : TaskFilters) (task : TaskInfo) : Bool :=
  if filters.excludeComm.isEmpty && filters.includeComm.isEmpty then true
  else if matchesAny filters.excludeComm task then false
  else filters.includeComm.isEmpty || matchesAny filters.includeComm task

/-- `CommunityProcessIdentity`. -/
structure CommunityProcessIdentity where
  threadComm : String
  processComm : String
  cmdline : String
  exePath : String
  cgroupPath : String

/-- `TargetSnapshotInput`, with what is read of the host. -/
structure TargetSnapshotInput where
  processes : Processes
  threads : ThreadTable processes
  manualPids : List Nat
  treePids : List Nat
  /-- `collect_cgroup_pids_at` of the cgroup's path, nothing without one -/
  cgroupPids : Finset Nat
  excludeTreePids : List Nat
  filters : TaskFilters
  keepMissingPid : Bool
  previousTasks : Option TaskMap
  maxThreadsPerProcess : Nat
  /-- `classify_process_identity_with_db` -/
  communityRules : Option (CommunityProcessIdentity → Option TaskClass)
  /-- `classify_task_with_context`, of a task's name, its process and the policy -/
  classifyTask : String → ProcInfo → Option Nat → TaskClass

/-- The roots and the tasks that are measured. -/
structure TargetSnapshot where
  processRoots : Finset Nat
  tasks : TaskMap

/-! ## Task maps -/

/-- `retain`. -/
def retain (tasks : TaskMap) (keep : TaskInfo → Bool) : TaskMap where
  table :=
    { entries := tasks.table.entries.filter fun entry => keep entry.2
      nodup := tasks.table.nodup.sublist (List.filter_sublist.map _) }
  keyed := fun tid task h => tasks.keyed tid task
    (tasks.table.mem_entries.mp (List.mem_filter.mp ((Table.mem_entries _).mpr h)).1)

/-- `values_mut`, with a change that leaves the tid. -/
def describe (tasks : TaskMap) (change : TaskInfo → TaskInfo)
    (hchange : ∀ task, (change task).tid = task.tid) :
    TaskMap where
  table := tasks.table.mapValues change
  keyed := fun tid task h => by
    rw [Table.get_mapValues] at h
    obtain ⟨before, hbefore, rfl⟩ := Option.map_eq_some_iff.mp h
    exact (hchange before).trans (tasks.keyed tid before hbefore)

/-! ## Task information -/

section Tasks
variable (input : TargetSnapshotInput)

/-- `task_starttime_and_policy_at`. -/
def taskStarttimeAndPolicyAt (processPid tid : Nat) (procInfo : ProcInfo) :
    Option Nat × Option Nat :=
  if tid = processPid then (procInfo.starttimeTicks, procInfo.schedPolicy)
  else input.threads.stat processPid tid

/-- `task_info_from_parts`. -/
def taskInfoFromParts (tid processPid : Nat) (comm : String) (procInfo : ProcInfo)
    (starttimeAndPolicy : Option Nat × Option Nat) : TaskInfo where
  tid
  processPid
  processPpid := procInfo.ppid
  comm
  processComm := procInfo.comm
  processStarttimeTicks := procInfo.starttimeTicks
  taskStarttimeTicks := starttimeAndPolicy.1
  exeDev := procInfo.exeDev
  exeIno := procInfo.exeIno
  taskClass := input.classifyTask comm procInfo starttimeAndPolicy.2
  schedPolicy := starttimeAndPolicy.2
  fromCgroup := false

/-- `task_info_from_proc`. -/
def taskInfoFromProc (tid processPid : Nat) (comm : String) (procInfo : ProcInfo) : TaskInfo :=
  taskInfoFromParts input tid processPid comm procInfo
    (taskStarttimeAndPolicyAt input processPid tid procInfo)

/-- `task_info_from_tid_at`: a name that cannot be read is the one the same task had before, or the
process's. -/
def taskInfoFromTidAt (tid processPid : Nat) (procInfo : ProcInfo) : TaskInfo :=
  let starttimeAndPolicy := taskStarttimeAndPolicyAt input processPid tid procInfo
  let previous := (input.previousTasks.bind fun tasks => tasks.get tid).filter fun prev =>
    prev.processPid = processPid && prev.taskStarttimeTicks = starttimeAndPolicy.1
  let comm := (input.threads.comm processPid tid).getD ((previous.map (·.comm)).getD procInfo.comm)
  taskInfoFromParts input tid processPid comm procInfo starttimeAndPolicy

/-! ## The ways in -/

/-- One turn of `expand_tasks_at`. -/
def expandTurn (tasks : TaskMap) (pid : Nat) : TaskMap :=
  match input.processes.get pid with
  | none => tasks
  | some procInfo =>
    let tids := input.threads.threadIdsOfAtLimited pid input.maxThreadsPerProcess
    if tids.isEmpty then tasks.insert (taskInfoFromProc input pid pid procInfo.comm procInfo)
    else tids.foldl (fun tasks tid => tasks.insert (taskInfoFromTidAt input tid pid procInfo)) tasks

/-- `expand_tasks_at`. -/
def expandTasksAt (processPids : Finset Nat) : TaskMap :=
  (processPids.sort (· ≤ ·)).foldl (expandTurn input) .empty

/-- `thread_owner_index_at`. -/
def threadOwnerIndexAt : Table Nat Nat :=
  input.processes.rows.foldl (fun owners row =>
    (input.threads.threadIdsOfAtLimited row.pid input.maxThreadsPerProcess).foldl
      (fun owners tid => owners.insert tid row.pid) owners) .empty

/-- The roots that are processes, each with its descendants. -/
def membersOfTrees (fuel : Nat) : List Nat → Option (Finset Nat)
  | [] => some ∅
  | rootPid :: rest => do
    let others ← membersOfTrees fuel rest
    if input.processes.Has rootPid then
      let descendants ← input.processes.walks.descendantsOf rootPid fuel
      some (insert rootPid descendants ∪ others)
    else some others

/-- What the unresolved pids are looked up in, and what is made of them: the requested roots, the
tasks and the missing pids. -/
def unresolvedTurn (excludedPids : Finset Nat) (owners : Table Nat Nat)
    (acc : Finset Nat × TaskMap × List Nat) (tid : Nat) : Finset Nat × TaskMap × List Nat :=
  let (requestedRoots, tasks, missing) := acc
  let found := (owners.get tid).bind fun processPid =>
    if processPid ∈ excludedPids then none
    else (input.processes.get processPid).map fun procInfo => (processPid, procInfo)
  match found with
  | some (processPid, procInfo) =>
    (insert processPid requestedRoots,
      tasks.insert (taskInfoFromTidAt input tid processPid procInfo), missing)
  | none =>
    if input.keepMissingPid then (insert tid requestedRoots, tasks, missing ++ [tid]) else acc

/-- One turn of the loop over the missing pids. -/
def missingTurn (tasks : TaskMap) (pid : Nat) : TaskMap :=
  if input.filters.allows (missingTask pid) then tasks.insert (missingTask pid) else tasks

/-- `apply_community_rules_to_unknown_task`, of a task whose process is known. -/
def applyCommunityRules (task : TaskInfo) : TaskInfo :=
  if task.taskClass ≠ .unknown then task
  else
    match input.communityRules, input.processes.get task.processPid with
    | some classify, some procInfo =>
      match classify ⟨task.comm, procInfo.comm, procInfo.cmdline, procInfo.exePath,
        procInfo.cgroupPath⟩ with
      | some taskClass => { task with taskClass }
      | none => task
    | _, _ => task

/-- The loop over the tasks: where they come from, and their classes. -/
def describeTask (requestedRoots : Finset Nat) (task : TaskInfo) : TaskInfo :=
  let task := if task.tid ∈ input.cgroupPids then { task with fromCgroup := true } else task
  let task := applyCommunityRules input task
  if task.taskClass = .unknown ∧ task.processPid ∉ requestedRoots then
    { task with taskClass := .helper }
  else task

theorem describeTask_same (requestedRoots : Finset Nat) (task : TaskInfo) :
    (describeTask input requestedRoots task).tid = task.tid ∧
      (describeTask input requestedRoots task).processPid = task.processPid ∧
      (describeTask input requestedRoots task).comm = task.comm ∧
      (describeTask input requestedRoots task).processComm = task.processComm := by
  have hrules (task : TaskInfo) : (applyCommunityRules input task).tid = task.tid ∧
      (applyCommunityRules input task).processPid = task.processPid ∧
      (applyCommunityRules input task).comm = task.comm ∧
      (applyCommunityRules input task).processComm = task.processComm := by
    unfold applyCommunityRules
    split
    · exact ⟨rfl, rfl, rfl, rfl⟩
    · split
      · split <;> exact ⟨rfl, rfl, rfl, rfl⟩
      · exact ⟨rfl, rfl, rfl, rfl⟩
  unfold describeTask
  dsimp only
  split <;> split <;> simp [hrules]

/-- The pids that are asked for by a cgroup or one by one, the cgroup's first. -/
def askedPids : List Nat := input.cgroupPids.sort (· ≤ ·) ++ input.manualPids

/-- `target_snapshot`. -/
def targetSnapshot (fuel : Nat) : Option TargetSnapshot := do
  let resolved := (askedPids input).filter fun pid => input.processes.Has pid
  let unresolved := (askedPids input).filter fun pid => ¬ input.processes.Has pid
  let treeMembers ← membersOfTrees input fuel input.treePids
  let excludedPids ← membersOfTrees input fuel input.excludeTreePids
  let processRoots := (resolved.toFinset ∪ treeMembers) \ excludedPids
  let requestedRoots := resolved.toFinset ∪ input.treePids.toFinset
  let tasks := expandTasksAt input processRoots
  let (requestedRoots, tasks, missing) :=
    unresolved.foldl (unresolvedTurn input excludedPids (threadOwnerIndexAt input))
      (requestedRoots, tasks, [])
  let tasks := missing.foldl (missingTurn input) tasks
  let tasks := describe tasks (describeTask input requestedRoots) fun task =>
    (describeTask_same input requestedRoots task).1
  return ⟨processRoots, retain tasks input.filters.allows⟩

end Tasks

end Stutter.Snapshot

import Mathlib.Data.Finset.Sort
import StutterProof.ActiveConfig
import StutterProof.GraphSearch
import StutterProof.LastGreatest

/-! # Walks over parent links

The process table is a map from pids to rows, each with the pid of its parent.  Rows are read one
after the other and some are kept from an earlier scan, so nothing says that the parents make a
tree.

The descendants of a pid are searched in three places, its ancestors are followed in three, and the
tree is printed by a recursion.  A loop is given here by its turns (`StepLoop`), the recursion by
its levels. -/
namespace Stutter.ProcessTree

open ActiveConfig (TaskClass)
open GraphSearch (Search breadthTurn chainTurn depthTurn)
open StepLoop (run)

/-! ## The table -/

/-- What the walks read of a process (`ProcInfo`, `FocusProcess`). -/
structure FocusProcess where
  pid : Nat
  ppid : Nat
  comm : String
  cmdline : String
  /-- By its components. -/
  cgroupPath : Option (List String)
  taskClass : TaskClass

/-- The rows in the order of their pids. -/
structure ProcessTable where
  processes : List FocusProcess
  ordered : processes.Pairwise (·.pid < ·.pid)
  pid_ne_zero : ∀ process ∈ processes, process.pid ≠ 0

namespace ProcessTable
variable (table : ProcessTable)

def get (pid : Nat) : Option FocusProcess := table.processes.find? (·.pid = pid)

/-- `children_by_parent`. -/
def children (pid : Nat) : List Nat := (table.processes.filter (·.ppid = pid)).map (·.pid)

/-! ## Descendants -/

/-- `descendants_of_pid`: the first child comes up first. -/
def descendantsOfPid (rootPid fuel : Nat) : Option (Finset Nat) :=
  run (depthTurn (fun _ => true) table.children) fuel ⟨[rootPid], ∅⟩

/-- `descendants_of_process`: the last child comes up first, and pids without a row are left out. -/
def descendantsOfProcess (rootPid fuel : Nat) : Option (List Nat) :=
  (run (depthTurn (fun pid => (table.get pid).isSome) fun pid => (table.children pid).reverse) fuel
    ⟨(table.children rootPid).reverse, ∅⟩).map (·.sort (· ≤ ·))

/-- `descendants_of`. -/
def descendantsOf (rootPid fuel : Nat) : Option (Finset Nat) :=
  run (breadthTurn table.children) fuel ⟨[rootPid], {rootPid}⟩

/-! ## Ancestors -/

def ancestorLook (ancestorPid current : Nat) : Nat ⊕ Bool :=
  match table.get current with
  | none => .inr false
  | some process =>
    if process.ppid = ancestorPid then .inr true
    else if process.ppid = 0 ∨ process.ppid = current then .inr false
    else .inl process.ppid

def isProcessAncestor (ancestorPid descendantPid fuel : Nat) : Option Bool :=
  run (chainTurn (table.ancestorLook ancestorPid)) fuel (descendantPid, ∅)

def ancestorInSetLook (pids : Finset Nat) (current : Nat) : Nat ⊕ Bool :=
  match table.get current with
  | none => .inr false
  | some process =>
    if process.ppid = current ∨ process.ppid = 0 then .inr false
    else if process.ppid ∈ pids then .inr true
    else .inl process.ppid

/-- A pid without a row is answered like one that was seen. -/
def hasAncestorInSet (pid : Nat) (pids : Finset Nat) (fuel : Nat) : Option Bool :=
  run (chainTurn (table.ancestorInSetLook pids)) fuel (pid, ∅)

end ProcessTable

/-! ## The root of a compile session -/

def isStableBuildRoot (process : FocusProcess) : Bool :=
  process.comm.map Char.toLower ∈ ["cargo", "ninja", "make", "cmake", "meson", "scons"] ||
    process.taskClass = .buildJob

def isTerminalOrShell (process : FocusProcess) : Bool :=
  process.taskClass = .terminal ∨ process.taskClass = .shell

namespace ProcessTable
variable (table : ProcessTable)

/-- One turn of `nearest_compile_session_root`: no pid is remembered. -/
def sessionTurn (current : Nat) : Nat ⊕ Option Nat :=
  match table.get current with
  | none => .inr none
  | some process =>
    if isStableBuildRoot process then .inr (some process.pid)
    else if isTerminalOrShell process then .inr (some process.pid)
    else if process.ppid = current ∨ process.ppid = 0 then .inr none
    else .inl process.ppid

/-- The terminal or shell of the process's cgroup with the greatest score. -/
def sessionOfCgroup {S : Type*} [LinearOrder S] (focusScore : FocusProcess → S) (pid : Nat) :
    Option Nat :=
  do
  let cgroup ← (table.get pid).bind (·.cgroupPath)
  let best ← LastGreatest.maxByKey focusScore
    ((table.processes.filter (·.cgroupPath = some cgroup)).filter isTerminalOrShell)
  return best.pid

def nearestCompileSessionRoot {S : Type*} [LinearOrder S] (focusScore : FocusProcess → S)
    (pid fuel : Nat) :
    Option (Option Nat) :=
  (run table.sessionTurn fuel pid).map fun nearest =>
    nearest.or (table.sessionOfCgroup focusScore pid)

end ProcessTable

/-! ## The printed tree -/

def classSuffix (taskClass : TaskClass) : String :=
  if taskClass = .unknown then "" else s!" [{taskClass.asStr}]"

/-- A row of the process tree. -/
inductive TreeEntry where
  | process (pid : Nat) (comm : String) (taskClass : TaskClass)
  | task (tid : Nat) (comm : String) (taskClass : TaskClass)

def TreeEntry.id : TreeEntry → Nat
  | .process pid .. => pid
  | .task tid .. => tid

/-- What is read while the tree is printed, and the rules that name a class. -/
structure Rendering where
  procRoot : String
  /-- `thread_ids_of_at`. -/
  threadIds : Nat → List Nat
  /-- `task_comm_at`, of a pid and a tid. -/
  taskComm : Nat → Nat → Option String
  /-- `classify_task`, of a task's name, its process's and the command line. -/
  classifyTask : String → String → String → TaskClass

namespace Rendering
variable (host : Rendering) (table : ProcessTable)

def markHelper (markUnknownAsHelper : Bool) (taskClass : TaskClass) : TaskClass :=
  if taskClass = .unknown && markUnknownAsHelper then .helper else taskClass

def processEntries (pid : Nat) (markUnknownAsHelper : Bool) : List TreeEntry :=
  (table.children pid).filterMap fun child =>
    (table.get child).map fun process =>
      .process child process.comm
        (markHelper markUnknownAsHelper
          (host.classifyTask process.comm process.comm process.cmdline))

def taskEntries (pid : Nat) (markUnknownAsHelper : Bool) : List TreeEntry :=
  ((host.threadIds pid).filter fun tid => tid ≠ pid && (table.get tid).isNone).map fun tid =>
    let comm := (host.taskComm pid tid).getD (((table.get pid).map (·.comm)).getD "?")
    let taskClass := ((table.get pid).map fun process =>
      host.classifyTask comm process.comm process.cmdline).getD .unknown
    .task tid comm (markHelper markUnknownAsHelper taskClass)

def entries (pid : Nat) (markUnknownAsHelper : Bool) : List TreeEntry :=
  (host.processEntries table pid markUnknownAsHelper ++
    host.taskEntries table pid markUnknownAsHelper).mergeSort
    fun left right => left.id ≤ right.id

/-- `render_children`, of so many levels: the text it puts out. -/
def renderChildren : Nat → Nat → String → Bool → Option String
  | 0, _, _, _ => none
  | fuel + 1, pid, before, markUnknownAsHelper => do
    let entries := host.entries table pid markUnknownAsHelper
    let texts ← entries.zipIdx.mapM fun entry =>
      let isLast := entry.2 + 1 = entries.length
      let branch := if isLast then "└─ " else "├─ "
      let childPrefix := if isLast then s!"{before}   " else s!"{before}│  "
      match entry.1 with
      | .process pid comm taskClass =>
        (renderChildren fuel pid childPrefix true).map fun below =>
          s!"{before}{branch}{pid} {comm}{classSuffix taskClass}\n" ++ below
      | .task tid comm taskClass => some s!"{before}{branch}{tid} {comm}{classSuffix taskClass}\n"
    return String.join texts

/-- `render_tree_at`, of the table that was scanned. -/
def renderTreeAt (rootPid fuel : Nat) : Option (Except AnyError String) :=
  match table.get rootPid with
  | none => some (.error (.message s!"process {rootPid} not found under {host.procRoot}"))
  | some root =>
    let rootClass := host.classifyTask root.comm root.comm root.cmdline
    (host.renderChildren table fuel rootPid "" false).map fun below =>
      .ok (s!"root {root.pid} {root.comm}{classSuffix rootClass}\n" ++ below)

end Rendering

end Stutter.ProcessTree

import Mathlib.Data.Set.Finite.Basic
import StutterProof.ProcessWalks

/-! # Laws of the walks

Every search and every chain that remembers where it was ends, on every table, with the closure of
the parent relation.  The walk to a compile session's root remembers nothing and the recursion that
prints the tree neither: they end exactly off the cycles. -/
namespace Stutter.ProcessTree

open GraphSearch StepLoop Relation TransGen

namespace ProcessTable
variable {table : ProcessTable} {pid : Nat}

/-- What a row says: its process has this parent. -/
def Parent (table : ProcessTable) (pid parent : Nat) : Prop :=
  ∃ process, table.get pid = some process ∧ process.ppid = parent

/-! ## Rows -/

theorem get_eq_some_iff {process : FocusProcess} :
    table.get pid = some process ↔ process ∈ table.processes ∧ process.pid = pid := by
  constructor
  · intro h
    exact ⟨List.mem_of_find?_eq_some h, of_decide_eq_true (List.find?_some h :)⟩
  · rintro ⟨hmem, rfl⟩
    obtain ⟨before, after, hsplit⟩ := List.append_of_mem hmem
    have hordered := table.ordered
    rw [hsplit, List.pairwise_append] at hordered
    have hnot : before.find? (fun other => decide (other.pid = process.pid)) = none := by
      rw [List.find?_eq_none]
      intro other hother
      have hless := hordered.2.2 other hother process List.mem_cons_self
      simp only [decide_eq_true_eq]
      omega
    rw [get, hsplit, List.find?_append, hnot, Option.none_or, List.find?_cons_of_pos (by simp)]

variable {parent : Nat}

theorem mem_children : pid ∈ table.children parent ↔ table.Parent pid parent := by
  rw [children, List.mem_map]
  constructor
  · rintro ⟨process, hmem, hpid⟩
    obtain ⟨hrow, hparent⟩ := List.mem_filter.mp hmem
    exact ⟨process, get_eq_some_iff.mpr ⟨hrow, hpid⟩, of_decide_eq_true hparent⟩
  · rintro ⟨process, hget, hparent⟩
    obtain ⟨hrow, hpid⟩ := get_eq_some_iff.mp hget
    exact ⟨process, List.mem_filter.mpr ⟨hrow, decide_eq_true hparent⟩, hpid⟩

theorem Parent.unique {left right : Nat} (hleft : table.Parent pid left)
    (hright : table.Parent pid right) :
    left = right := by
  obtain ⟨process, hget, rfl⟩ := hleft
  obtain ⟨other, hother, rfl⟩ := hright
  rw [Option.some.inj (hget.symm.trans hother)]

theorem Parent.ne_zero (h : table.Parent pid parent) : pid ≠ 0 := by
  obtain ⟨process, hget, -⟩ := h
  obtain ⟨hrow, rfl⟩ := get_eq_some_iff.mp hget
  exact table.pid_ne_zero process hrow

/-- The pids that have a row. -/
def rowPids (table : ProcessTable) : Finset Nat := (table.processes.map (·.pid)).toFinset

theorem Parent.mem_rowPids (h : table.Parent pid parent) : pid ∈ table.rowPids := by
  obtain ⟨process, hget, -⟩ := h
  obtain ⟨hrow, rfl⟩ := get_eq_some_iff.mp hget
  exact List.mem_toFinset.mpr (List.mem_map_of_mem hrow)

/-! ## Searches -/

variable {root : Nat} {links : Nat → List Nat}

/-- Links down are parents up, in whichever order a search takes them. -/
theorem reflTransGen_link (hlinks : ∀ node other, other ∈ links node ↔ table.Parent other node) :
    ReflTransGen (Link links) root pid ↔ ReflTransGen table.Parent pid root := by
  have hswap : Link links = Function.swap table.Parent := by
    funext node other
    exact propext (hlinks node other)
  rw [hswap, reflTransGen_swap]

theorem reached_children (hlinks : ∀ node other, other ∈ links node ↔ table.Parent other node) :
    Reached links (links root) pid ↔ TransGen table.Parent pid root := by
  rw [Reached, tail'_iff]
  constructor
  · rintro ⟨start, hstart, hpath⟩
    exact ⟨start, (reflTransGen_link hlinks).mp hpath, (hlinks root start).mp hstart⟩
  · rintro ⟨start, hpath, hstart⟩
    exact ⟨start, (hlinks root start).mpr hstart, (reflTransGen_link hlinks).mpr hpath⟩

theorem reached_root (hlinks : ∀ node other, other ∈ links node ↔ table.Parent other node) :
    Reached links [root] pid ↔ ReflTransGen table.Parent pid root := by
  rw [← reflTransGen_link hlinks, Reached]
  simp

theorem mem_rowPids_of_transGen (h : TransGen table.Parent pid root) : pid ∈ table.rowPids := by
  obtain ⟨parent, hparent, -⟩ := head'_iff.mp h
  exact hparent.mem_rowPids

theorem mem_insert_rowPids (h : ReflTransGen table.Parent pid root) :
    pid ∈ insert root table.rowPids := by
  rcases reflTransGen_iff_eq_or_transGen.mp h with rfl | h
  · exact Finset.mem_insert_self _ _
  · exact Finset.mem_insert_of_mem (mem_rowPids_of_transGen h)

theorem descendantsOfPid_exact (table : ProcessTable) (rootPid : Nat) :
    ∃ fuel result, table.descendantsOfPid rootPid fuel = some result ∧
      ∀ pid, pid ∈ result ↔ ReflTransGen table.Parent pid rootPid := by
  obtain ⟨result, ⟨fuel, hrun⟩, hresult⟩ := depth_ends (fun _ => true) table.children [rootPid]
    (insert rootPid table.rowPids) (fun _ _ => rfl)
    fun pid h => mem_insert_rowPids ((reached_root fun _ _ => mem_children).mp h)
  exact ⟨fuel, result, hrun, fun pid => (hresult pid).trans (reached_root fun _ _ => mem_children)⟩

theorem descendantsOfProcess_exact (table : ProcessTable) (rootPid : Nat) :
    ∃ fuel result, table.descendantsOfProcess rootPid fuel = some result ∧
      ∀ pid, pid ∈ result ↔ TransGen table.Parent pid rootPid := by
  have hlinks : ∀ node other, other ∈ (table.children node).reverse ↔ table.Parent other node :=
    fun node other => List.mem_reverse.trans mem_children
  obtain ⟨result, ⟨fuel, hrun⟩, hresult⟩ := depth_ends (fun pid => (table.get pid).isSome)
    (fun pid => (table.children pid).reverse) (table.children rootPid).reverse table.rowPids
    (fun pid h => by
      obtain ⟨parent, ⟨process, hget, -⟩, -⟩ :=
        head'_iff.mp ((reached_children hlinks).mp h)
      rw [hget]
      rfl)
    fun pid h => mem_rowPids_of_transGen ((reached_children hlinks).mp h)
  refine ⟨fuel, _, by rw [descendantsOfProcess, hrun, Option.map_some], fun pid => ?_⟩
  rw [Finset.mem_sort]
  exact (hresult pid).trans (reached_children hlinks)

theorem descendantsOf_exact (table : ProcessTable) (rootPid : Nat) :
    ∃ fuel result, table.descendantsOf rootPid fuel = some result ∧
      ∀ pid, pid ∈ result ↔ ReflTransGen table.Parent pid rootPid := by
  obtain ⟨result, ⟨fuel, hrun⟩, hresult⟩ := breadth_ends table.children rootPid
    (insert rootPid table.rowPids)
    fun pid h => mem_insert_rowPids ((reached_root fun _ _ => mem_children).mp h)
  exact ⟨fuel, result, hrun, fun pid => (hresult pid).trans (reached_root fun _ _ => mem_children)⟩

/-! ## Chains -/

/-- A set of pids that has a cycle's parents has the ancestors of its members. -/
theorem mem_of_transGen {r : Nat → Nat → Prop} {seen : Finset Nat}
    (hunique : ∀ {a b c}, r a b → r a c → b = c)
    (hseen : ∀ node ∈ seen, ∃ next ∈ seen, r node next) {node other : Nat} (hnode : node ∈ seen)
    (h : TransGen r node other) : ∃ last ∈ seen, r last other := by
  have hstays : ∀ {target : Nat}, ReflTransGen r node target → target ∈ seen := by
    intro target hpath
    induction hpath with
    | refl => exact hnode
    | tail _ hstep ih =>
      obtain ⟨next, hnext, hnode⟩ := hseen _ ih
      exact hunique hnode hstep ▸ hnext
  obtain ⟨last, hpath, hstep⟩ := tail'_iff.mp h
  exact ⟨last, hstays hpath, hstep⟩

theorem ancestorLook_inl {ancestorPid next : Nat}
    (h : table.ancestorLook ancestorPid pid = .inl next) :
    table.Parent pid next ∧ next ≠ ancestorPid := by
  rw [ancestorLook] at h
  rcases hget : table.get pid with _ | process
  · rw [hget] at h
    contradiction
  · simp only [hget] at h
    split_ifs at h with hhere hstop
    obtain rfl := Sum.inl.inj h
    exact ⟨⟨process, hget, rfl⟩, hhere⟩

theorem not_parent_of_get_eq_none (h : table.get pid = none) (parent : Nat) :
    ¬table.Parent pid parent := by
  rintro ⟨process, hget, -⟩
  rw [h] at hget
  contradiction

/-- Where the chain answers, it is right. -/
theorem ancestorLook_inr {ancestorPid : Nat} {answer : Bool}
    (h : table.ancestorLook ancestorPid pid = .inr answer) :
    answer = true ↔ TransGen table.Parent pid ancestorPid := by
  rw [ancestorLook] at h
  rcases hget : table.get pid with _ | process
  · simp only [hget] at h
    obtain rfl : false = answer := Sum.inr.inj h
    refine ⟨nofun, fun hup => ?_⟩
    obtain ⟨parent, hparent, -⟩ := head'_iff.mp hup
    exact absurd hparent (not_parent_of_get_eq_none hget parent)
  have hrow : table.Parent pid process.ppid := ⟨process, hget, rfl⟩
  simp only [hget] at h
  split_ifs at h with hhere hstop
  · obtain rfl : true = answer := Sum.inr.inj h
    exact ⟨fun _ => .single (hhere ▸ hrow), fun _ => rfl⟩
  · obtain rfl : false = answer := Sum.inr.inj h
    refine ⟨nofun, fun hup => ?_⟩
    exfalso
    -- the one parent is no pid with a row, or the pid itself: in both cases no more is reached
    rcases hstop with hzero | hself
    · obtain ⟨parent, hparent, hrest⟩ := head'_iff.mp hup
      rw [hrow.unique hparent] at hhere hzero
      rcases ReflTransGen.cases_head hrest with rfl | ⟨next, hnext, -⟩
      · exact hhere rfl
      · exact hnext.ne_zero hzero
    · rw [hself] at hrow hhere
      obtain ⟨last, hlast, hstep⟩ := mem_of_transGen (r := table.Parent) Parent.unique
        (fun node hnode => ⟨pid, Finset.mem_singleton_self pid,
          Finset.mem_singleton.mp hnode ▸ hrow⟩)
        (Finset.mem_singleton_self pid) hup
      rw [Finset.mem_singleton.mp hlast] at hstep
      exact hhere (hrow.unique hstep)

theorem isProcessAncestor_exact (table : ProcessTable) (ancestorPid descendantPid : Nat) :
    ∃ fuel answer, table.isProcessAncestor ancestorPid descendantPid fuel = some answer ∧
      (answer = true ↔ TransGen table.Parent descendantPid ancestorPid) := by
  obtain ⟨answer, fuel, hrun⟩ := chain_ends (table.ancestorLook ancestorPid) table.rowPids
    (fun node next h => (ancestorLook_inl h).1.mem_rowPids) descendantPid
  refine ⟨fuel, answer, hrun, chain_answer (fun pid => TransGen table.Parent pid ancestorPid)
    (fun node answer => ancestorLook_inr) (fun node next h => ?_)
      (fun seen hseen node hnode hup => ?_) ⟨fuel, hrun⟩⟩
  · obtain ⟨hparent, hne⟩ := ancestorLook_inl h
    constructor
    · intro hup
      obtain ⟨parent, hother, hrest⟩ := head'_iff.mp hup
      obtain rfl := hparent.unique hother
      rcases reflTransGen_iff_eq_or_transGen.mp hrest with rfl | hrest
      · exact absurd rfl hne
      · exact hrest
    · exact head hparent
  · obtain ⟨last, hlast, hstep⟩ := mem_of_transGen (r := table.Parent) Parent.unique
      (fun node hnode => by
        obtain ⟨next, hnext, hlook⟩ := hseen node hnode
        exact ⟨next, hnext, (ancestorLook_inl hlook).1⟩) hnode hup
    obtain ⟨next, -, hlook⟩ := hseen last hlast
    obtain ⟨hparent, hne⟩ := ancestorLook_inl hlook
    exact hne (hparent.unique hstep)

/-- The parents that `has_ancestor_in_set` goes on to or looks up in the set. -/
def OtherParent (table : ProcessTable) (pid parent : Nat) : Prop :=
  table.Parent pid parent ∧ parent ≠ pid ∧ parent ≠ 0

theorem OtherParent.unique {left right : Nat} (hleft : table.OtherParent pid left)
    (hright : table.OtherParent pid right) : left = right := hleft.1.unique hright.1

variable {pids : Finset Nat}

theorem ancestorInSetLook_inl {next : Nat} (h : table.ancestorInSetLook pids pid = .inl next) :
    table.OtherParent pid next ∧ next ∉ pids := by
  rw [ancestorInSetLook] at h
  rcases hget : table.get pid with _ | process
  · rw [hget] at h
    contradiction
  · simp only [hget] at h
    split_ifs at h with hstop hin
    obtain rfl := Sum.inl.inj h
    exact ⟨⟨⟨process, hget, rfl⟩, fun hself => hstop (.inl hself), fun hzero => hstop (.inr hzero)⟩,
      hin⟩

theorem ancestorInSetLook_inr {answer : Bool} (h : table.ancestorInSetLook pids pid = .inr answer) :
    answer = true ↔ ∃ q ∈ pids, TransGen table.OtherParent pid q := by
  have hstuck : (∀ parent, ¬table.OtherParent pid parent) →
      ¬∃ q ∈ pids, TransGen table.OtherParent pid q := by
    rintro hno ⟨q, -, hup⟩
    obtain ⟨parent, hparent, -⟩ := head'_iff.mp hup
    exact hno parent hparent
  rw [ancestorInSetLook] at h
  rcases hget : table.get pid with _ | process
  · simp only [hget] at h
    obtain rfl : false = answer := Sum.inr.inj h
    refine ⟨nofun, fun hup => absurd hup (hstuck fun parent hparent => ?_)⟩
    exact not_parent_of_get_eq_none hget parent hparent.1
  have hrow : table.Parent pid process.ppid := ⟨process, hget, rfl⟩
  simp only [hget] at h
  split_ifs at h with hstop hin
  · obtain rfl : false = answer := Sum.inr.inj h
    refine ⟨nofun, fun hup => absurd hup (hstuck fun parent hparent => ?_)⟩
    obtain rfl := hrow.unique hparent.1
    rcases hstop with hself | hzero
    · exact hparent.2.1 hself
    · exact hparent.2.2 hzero
  · obtain rfl : true = answer := Sum.inr.inj h
    rw [not_or] at hstop
    exact ⟨fun _ => ⟨process.ppid, hin, .single ⟨hrow, hstop.1, hstop.2⟩⟩, fun _ => rfl⟩

/-- What is answered: whether the set has an ancestor over other parents. -/
theorem hasAncestorInSet_answer (table : ProcessTable) (pid : Nat) (pids : Finset Nat) :
    ∃ fuel answer, table.hasAncestorInSet pid pids fuel = some answer ∧
      (answer = true ↔ ∃ q ∈ pids, TransGen table.OtherParent pid q) := by
  obtain ⟨answer, fuel, hrun⟩ := chain_ends (table.ancestorInSetLook pids) table.rowPids
    (fun node next h => (ancestorInSetLook_inl h).1.1.mem_rowPids) pid
  refine ⟨fuel, answer, hrun, chain_answer (fun pid => ∃ q ∈ pids, TransGen table.OtherParent pid q)
    (fun node answer => ancestorInSetLook_inr) (fun node next h => ?_) ?_ ⟨fuel, hrun⟩⟩
  · obtain ⟨hparent, hnot⟩ := ancestorInSetLook_inl h
    constructor
    · rintro ⟨q, hq, hup⟩
      obtain ⟨parent, hother, hrest⟩ := head'_iff.mp hup
      obtain rfl := hparent.unique hother
      rcases reflTransGen_iff_eq_or_transGen.mp hrest with rfl | hrest
      · exact absurd hq hnot
      · exact ⟨q, hq, hrest⟩
    · rintro ⟨q, hq, hup⟩
      exact ⟨q, hq, head hparent hup⟩
  · rintro seen hseen node hnode ⟨q, hq, hup⟩
    obtain ⟨last, hlast, hstep⟩ := mem_of_transGen (r := table.OtherParent) OtherParent.unique
      (fun node hnode => by
        obtain ⟨next, hnext, hlook⟩ := hseen node hnode
        exact ⟨next, hnext, (ancestorInSetLook_inl hlook).1⟩) hnode hup
    obtain ⟨next, -, hlook⟩ := hseen last hlast
    obtain ⟨hparent, hnot⟩ := ancestorInSetLook_inl hlook
    exact hnot (hparent.unique hstep ▸ hq)

/-- The other parents give all ancestors but the pid itself, where it is its own parent. -/
theorem transGen_otherParent {other : Nat} (h : TransGen table.Parent pid other) (hne : other ≠ 0) :
    TransGen table.OtherParent pid other ∨ other = pid ∧ table.Parent pid pid := by
  induction h with
  | @single other hparent =>
    by_cases hself : other = pid
    · exact .inr ⟨hself, hself ▸ hparent⟩
    · exact .inl (.single ⟨hparent, hself, hne⟩)
  | @tail last other _ hparent ih =>
    rcases ih hparent.ne_zero with hup | ⟨rfl, hself⟩
    · by_cases hsame : other = last
      · exact .inl (hsame ▸ hup)
      · exact .inl (hup.tail ⟨hparent, hsame, hne⟩)
    · obtain rfl := hself.unique hparent
      exact .inr ⟨rfl, hself⟩

/-- A pid that is its own parent has no other one. -/
theorem not_transGen_otherParent (h : table.Parent pid pid) (other : Nat) :
    ¬TransGen table.OtherParent pid other := by
  intro hup
  obtain ⟨parent, hparent, -⟩ := head'_iff.mp hup
  exact hparent.2.1 (hparent.1.unique h)

theorem hasAncestorInSet_exact_iff (hpids : 0 ∉ pids) :
    (∃ fuel answer, table.hasAncestorInSet pid pids fuel = some answer ∧
      (answer = true ↔ ∃ q ∈ pids, TransGen table.Parent pid q)) ↔
        ¬(table.Parent pid pid ∧ pid ∈ pids) := by
  obtain ⟨fuel, answer, hrun, hanswer⟩ := hasAncestorInSet_answer table pid pids
  constructor
  · rintro ⟨more, other, hother, hexact⟩ ⟨hself, hin⟩
    obtain rfl : answer = other := Ends.unique ⟨fuel, hrun⟩ ⟨more, hother⟩
    obtain ⟨q, -, hup⟩ := hanswer.mp (hexact.mpr ⟨pid, hin, .single hself⟩)
    exact not_transGen_otherParent hself q hup
  · intro hno
    refine ⟨fuel, answer, hrun, hanswer.trans ⟨?_, ?_⟩⟩
    · rintro ⟨q, hq, hup⟩
      exact ⟨q, hq, mono (fun _ _ h => h.1) _ _ hup⟩
    · rintro ⟨q, hq, hup⟩
      rcases transGen_otherParent hup (fun hzero => hpids (hzero ▸ hq)) with hup | ⟨rfl, hself⟩
      · exact ⟨q, hq, hup⟩
      · exact absurd ⟨hself, hq⟩ hno

/-! ## The walk that remembers nothing -/

/-- The walk to a session's root goes on from a process to its parent. -/
def Passes (table : ProcessTable) (pid parent : Nat) : Prop :=
  ∃ process, table.get pid = some process ∧ isStableBuildRoot process = false ∧
    isTerminalOrShell process = false ∧
    process.ppid = parent ∧ parent ≠ pid ∧ parent ≠ 0

theorem goes_sessionTurn : Goes table.sessionTurn pid parent ↔ table.Passes pid parent := by
  rw [Goes, sessionTurn, Passes]
  rcases table.get pid with _ | process
  · simp
  rcases hbuild : isStableBuildRoot process with _ | _
  · rcases hshell : isTerminalOrShell process with _ | _
    · by_cases hstop : process.ppid = pid ∨ process.ppid = 0
      · simp only [hbuild, hshell, Bool.false_eq_true, if_false, if_pos hstop, Option.some.injEq,
          exists_eq_left']
        constructor
        · rintro ⟨⟩
        · rintro ⟨-, -, rfl, hne, hzero⟩
          exact absurd hstop (not_or.mpr ⟨hne, hzero⟩)
      · simp only [hbuild, hshell, Bool.false_eq_true, if_false, if_neg hstop, Option.some.injEq,
          exists_eq_left', true_and, Sum.inl.injEq]
        constructor
        · rintro rfl
          exact ⟨rfl, not_or.mp hstop⟩
        · rintro ⟨rfl, -⟩
          rfl
    · simp [hbuild, hshell]
  · simp [hbuild]

theorem nearestCompileSessionRoot_ends_iff {S : Type*} [LinearOrder S] (table : ProcessTable)
    (focusScore : FocusProcess → S) (pid : Nat) :
    (∃ fuel result, table.nearestCompileSessionRoot focusScore pid fuel = some result) ↔
      ¬∃ again, ReflTransGen table.Passes pid again ∧ TransGen table.Passes again again := by
  have hpasses : table.Passes = Goes table.sessionTurn := by
    funext pid parent
    exact propext goes_sessionTurn.symm
  have hfinite : {pid | pid ∈ table.rowPids}.Finite := table.rowPids.finite_toSet
  rw [hpasses, ← ends_iff_no_cycle hfinite
    fun pid parent h => by
      obtain ⟨process, hget, -⟩ := goes_sessionTurn.mp h
      exact Parent.mem_rowPids ⟨process, hget, rfl⟩]
  constructor
  · rintro ⟨fuel, result, hresult⟩
    obtain ⟨nearest, hrun, -⟩ := Option.map_eq_some_iff.mp hresult
    exact ⟨nearest, fuel, hrun⟩
  · rintro ⟨nearest, fuel, hrun⟩
    exact ⟨fuel, _, by rw [nearestCompileSessionRoot, hrun, Option.map_some]⟩

end ProcessTable

/-! ## The recursion -/

namespace Rendering
variable {host : Rendering} {table : ProcessTable}

theorem mapM_isSome {α β : Type*} {f : α → Option β} {xs : List α} :
    (xs.mapM f).isSome = true ↔ ∀ x ∈ xs, (f x).isSome = true := by
  induction xs with
  | nil => simp
  | cons x xs ih =>
    rw [List.mapM_cons, List.forall_mem_cons, ← ih]
    rcases f x with _ | y
    · simp
    · rcases xs.mapM f with _ | ys
      · simp
      · simp

/-- The entries that are printed with a tree below them are the children. -/
theorem process_mem_entries {pid child : Nat} {markUnknownAsHelper : Bool} :
    (∃ comm taskClass, TreeEntry.process child comm taskClass ∈ host.entries table pid
      markUnknownAsHelper) ↔
      child ∈ table.children pid := by
  simp only [entries, List.mem_mergeSort, List.mem_append]
  constructor
  · rintro ⟨comm, taskClass, hmem | hmem⟩
    · obtain ⟨other, hother, hentry⟩ := List.mem_filterMap.mp hmem
      obtain ⟨process, -, hsame⟩ := Option.map_eq_some_iff.mp hentry
      obtain ⟨rfl, -⟩ := TreeEntry.process.inj hsame
      exact hother
    · obtain ⟨tid, -, hentry⟩ := List.mem_map.mp hmem
      contradiction
  · intro hchild
    obtain ⟨process, hget, -⟩ := ProcessTable.mem_children.mp hchild
    refine ⟨process.comm,
      markHelper markUnknownAsHelper (host.classifyTask process.comm process.comm process.cmdline),
      .inl (List.mem_filterMap.mpr ⟨child, hchild, ?_⟩)⟩
    rw [hget, Option.map_some]

theorem renderChildren_isSome {fuel pid : Nat} {before : String} {markUnknownAsHelper : Bool} :
    (host.renderChildren table fuel pid before markUnknownAsHelper).isSome = true ↔
      Descends table.children fuel pid := by
  induction fuel generalizing pid before markUnknownAsHelper with
  | zero => exact ⟨nofun, False.elim⟩
  | succ fuel ih =>
    rw [renderChildren, Option.bind_eq_bind, Option.isSome_bind]
    simp only [Option.pure_def, Option.isSome_some, Option.any_true]
    rw [mapM_isSome, Descends]
    constructor
    · intro hall child hchild
      obtain ⟨comm, taskClass, hmem⟩ := process_mem_entries.mpr hchild
      obtain ⟨index, hindex⟩ := List.getElem?_of_mem hmem
      have hentry := hall (_, index) (List.mem_zipIdx_iff_getElem?.mpr hindex)
      rw [Option.isSome_map] at hentry
      exact ih.mp hentry
    · rintro hall ⟨entry, index⟩ hmem
      have hentry := List.fst_mem_of_mem_zipIdx hmem
      rcases entry with ⟨child, comm, taskClass⟩ | ⟨tid, comm, taskClass⟩
      · rw [Option.isSome_map]
        exact ih.mpr (hall child (process_mem_entries.mp ⟨comm, taskClass, hentry⟩))
      · rfl

/-- A parent is on the cycle that its child is on. -/
theorem cycle_of_reached {again root : Nat} (hpath : ReflTransGen table.Parent again root)
    (hcycle : TransGen table.Parent again again) : TransGen table.Parent root root := by
  induction hpath with
  | refl => exact hcycle
  | tail _ hparent ih =>
    obtain ⟨other, hother, hrest⟩ := head'_iff.mp ih
    obtain rfl := hparent.unique hother
    exact tail' hrest hparent

theorem renderTreeAt_ends_iff (host : Rendering) (table : ProcessTable) (rootPid : Nat) :
    (∃ fuel result, host.renderTreeAt table rootPid fuel = some result) ↔
      ¬TransGen table.Parent rootPid rootPid := by
  rcases hget : table.get rootPid with _ | root
  · have hno : ¬TransGen table.Parent rootPid rootPid := by
      intro hup
      obtain ⟨parent, hparent, -⟩ := head'_iff.mp hup
      exact ProcessTable.not_parent_of_get_eq_none hget parent hparent
    constructor
    · exact fun _ => hno
    · exact fun _ => ⟨0, .error (.message s!"process {rootPid} not found under {host.procRoot}"), by
        rw [renderTreeAt, hget]⟩
  have hrender : (∃ fuel result, host.renderTreeAt table rootPid fuel = some result) ↔
      ∃ fuel, Descends table.children fuel rootPid := by
    refine exists_congr fun fuel => ?_
    have hbelow : Descends table.children fuel rootPid ↔
        (host.renderChildren table fuel rootPid "" false).isSome = true :=
          renderChildren_isSome.symm
    rw [hbelow, renderTreeAt, hget, ← Option.isSome_iff_exists, Option.isSome_map]
  have hswap : Link table.children = Function.swap table.Parent := by
    funext node other
    exact propext ProcessTable.mem_children
  have hfinite : {pid | pid ∈ (table.processes.map (·.ppid)).toFinset}.Finite :=
    (table.processes.map (·.ppid)).toFinset.finite_toSet
  rw [hrender, descends_iff_no_cycle hfinite fun node other hlink => ?_, hswap]
  · refine not_congr ⟨?_, fun hcycle => ⟨rootPid, .refl, transGen_swap.mpr hcycle⟩⟩
    rintro ⟨again, hreach, hcycle⟩
    exact cycle_of_reached (reflTransGen_swap.mp hreach) (transGen_swap.mp hcycle)
  · obtain ⟨process, hrow, hparent⟩ := ProcessTable.mem_children.mp hlink
    exact List.mem_toFinset.mpr
      (List.mem_map.mpr ⟨process, (ProcessTable.get_eq_some_iff.mp hrow).1, hparent⟩)

end Rendering

/-! ## All walks -/

/-- What the walks are to do: end, and find what the parents lead to. -/
structure WalksRight {S : Type*} [LinearOrder S] (host : Rendering) (focusScore : FocusProcess → S)
    (table : ProcessTable) (pid ancestorPid rootPid : Nat) (pids : Finset Nat) : Prop where
  descendantsOfPid : ∃ fuel result, table.descendantsOfPid rootPid fuel = some result ∧
    ∀ pid, pid ∈ result ↔ ReflTransGen table.Parent pid rootPid
  descendantsOfProcess : ∃ fuel result, table.descendantsOfProcess rootPid fuel = some result ∧
    ∀ pid, pid ∈ result ↔ TransGen table.Parent pid rootPid
  descendantsOf : ∃ fuel result, table.descendantsOf rootPid fuel = some result ∧
    ∀ pid, pid ∈ result ↔ ReflTransGen table.Parent pid rootPid
  isProcessAncestor : ∃ fuel answer, table.isProcessAncestor ancestorPid pid fuel = some answer ∧
    (answer = true ↔ TransGen table.Parent pid ancestorPid)
  hasAncestorInSet : ∃ fuel answer, table.hasAncestorInSet pid pids fuel = some answer ∧
    (answer = true ↔ ∃ q ∈ pids, TransGen table.Parent pid q)
  nearestCompileSessionRoot : ∃ fuel result,
    table.nearestCompileSessionRoot focusScore pid fuel = some result
  renderTreeAt : ∃ fuel result, host.renderTreeAt table rootPid fuel = some result

/-- The walks are right exactly where the pid is not a member of the set and its own parent, its
session walk comes to no cycle, and the root of the tree is on none. -/
theorem walksRight_iff {S : Type*} [LinearOrder S] (host : Rendering)
    (focusScore : FocusProcess → S) (table : ProcessTable) (pid ancestorPid rootPid : Nat)
    (pids : Finset Nat) (hpids : 0 ∉ pids) :
    WalksRight host focusScore table pid ancestorPid rootPid pids ↔
      ¬(table.Parent pid pid ∧ pid ∈ pids) ∧
      (¬∃ again, ReflTransGen table.Passes pid again ∧ TransGen table.Passes again again) ∧
      ¬TransGen table.Parent rootPid rootPid := by
  rw [← ProcessTable.hasAncestorInSet_exact_iff hpids,
    ← ProcessTable.nearestCompileSessionRoot_ends_iff table focusScore pid,
    ← Rendering.renderTreeAt_ends_iff host table rootPid]
  constructor
  · intro h
    exact ⟨h.hasAncestorInSet, h.nearestCompileSessionRoot, h.renderTreeAt⟩
  · rintro ⟨hancestor, hsession, hrender⟩
    exact ⟨table.descendantsOfPid_exact rootPid, table.descendantsOfProcess_exact rootPid,
      table.descendantsOf_exact rootPid, table.isProcessAncestor_exact ancestorPid pid, hancestor,
      hsession, hrender⟩

/-- Nothing but the table is read. -/
def quietRendering : Rendering := ⟨"/proc", fun _ => [], fun _ _ => none, fun _ _ _ => .unknown⟩

/-- Where parents have smaller pids there is no cycle. -/
theorem lt_of_transGen {table : ProcessTable}
    (h : ∀ process ∈ table.processes, process.ppid < process.pid) {pid ancestor : Nat}
    (hup : TransGen table.Parent pid ancestor) : ancestor < pid := by
  have hstep : ∀ {pid parent : Nat}, table.Parent pid parent → parent < pid := by
    rintro pid parent ⟨process, hget, rfl⟩
    obtain ⟨hrow, rfl⟩ := ProcessTable.get_eq_some_iff.mp hget
    exact h process hrow
  induction hup with
  | single hparent => exact hstep hparent
  | tail _ hparent ih => exact (hstep hparent).trans ih

def sessionTable : ProcessTable where
  processes := [⟨1, 0, "init", "init", none, .service⟩, ⟨10, 1, "bash", "bash", none, .shell⟩,
    ⟨11, 10, "cc1", "cc1", none, .compiler⟩]
  ordered := by decide
  pid_ne_zero := by decide

theorem walksRight_sessionTable :
    WalksRight quietRendering (fun process => process.pid) sessionTable 11 1 1 {10} := by
  have hless : ∀ process ∈ sessionTable.processes, process.ppid < process.pid := by decide
  refine (walksRight_iff quietRendering _ sessionTable 11 1 1 {10} (by decide)).mpr ⟨?_, ?_, ?_⟩
  · rintro ⟨hself, -⟩
    exact (lt_of_transGen hless (.single hself)).false
  · rintro ⟨again, -, hcycle⟩
    have hup : ∀ pid parent, sessionTable.Passes pid parent → sessionTable.Parent pid parent :=
      fun pid parent ⟨process, hget, _, _, hparent, _⟩ => ⟨process, hget, hparent⟩
    exact (lt_of_transGen hless (mono hup _ _ hcycle)).false
  · exact fun hcycle => (lt_of_transGen hless hcycle).false

/-- Two processes that are each other's parent, as rows of different scans can say. -/
def cyclicTable : ProcessTable where
  processes := [⟨10, 11, "cc1", "cc1", none, .compiler⟩, ⟨11, 10, "app", "app", none, .unknown⟩]
  ordered := by decide
  pid_ne_zero := by decide

theorem cyclicTable_no_end :
    (∀ fuel, cyclicTable.nearestCompileSessionRoot (fun process => process.pid) 10 fuel = none) ∧
    ∀ fuel, quietRendering.renderTreeAt cyclicTable 10 fuel = none := by
  have hpasses : TransGen cyclicTable.Passes 10 10 :=
    .head (b := 11) ⟨_, rfl, by decide +kernel, rfl, rfl, by decide, by decide⟩
      (.single ⟨_, rfl, by decide +kernel, rfl, rfl, by decide, by decide⟩)
  have hparents : TransGen cyclicTable.Parent 10 10 :=
    .head (b := 11) ⟨_, rfl, rfl⟩ (.single ⟨_, rfl, rfl⟩)
  constructor
  · intro fuel
    by_contra hsome
    obtain ⟨result, hresult⟩ := Option.ne_none_iff_exists'.mp hsome
    exact (cyclicTable.nearestCompileSessionRoot_ends_iff _ 10).mp ⟨fuel, result, hresult⟩
      ⟨10, .refl, hpasses⟩
  · intro fuel
    by_contra hsome
    obtain ⟨result, hresult⟩ := Option.ne_none_iff_exists'.mp hsome
    exact (Rendering.renderTreeAt_ends_iff quietRendering cyclicTable 10).mp ⟨fuel, result, hresult⟩
      hparents

end Stutter.ProcessTree

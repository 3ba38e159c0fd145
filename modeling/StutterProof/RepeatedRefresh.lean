import StutterProof.TrackerConsistency

/-! # A refresh with the same snapshot

`same_logical_task` compares start times where both tasks have them, and the executables else.  A
task that has neither is not even the same as itself.  With tasks that have one of the two a second
refresh changes nothing (`refreshInternal_again`). -/
namespace Stutter.Tasks

/-! ## Logical tasks -/

/-- Both start times are known. -/
def TaskInfo.Timed (task : TaskInfo) : Prop :=
  task.processStarttimeTicks.isSome = true ∧ task.taskStarttimeTicks.isSome = true

/-- The executable is known. -/
def TaskInfo.Located (task : TaskInfo) : Prop :=
  task.exeDev.isSome = true ∧ task.exeIno.isSome = true

instance (task : TaskInfo) : Decidable task.Timed := inferInstanceAs (Decidable (_ ∧ _))
instance (task : TaskInfo) : Decidable task.Located := inferInstanceAs (Decidable (_ ∧ _))

/-- What the tasks are compared by. -/
structure SameTimes (left right : TaskInfo) : Prop where
  process : left.processStarttimeTicks = right.processStarttimeTicks
  task : left.taskStarttimeTicks = right.taskStarttimeTicks

/-- One executable under one name. -/
structure SameExe (left right : TaskInfo) : Prop where
  dev : left.exeDev = right.exeDev
  ino : left.exeIno = right.exeIno
  comm : left.comm = right.comm

variable {left right : TaskInfo}

theorem sameLogicalTask_of_timed (hleft : left.Timed) (hright : right.Timed) :
    sameLogicalTask left right = true ↔
      left.processPid = right.processPid ∧ SameTimes left right := by
  obtain ⟨⟨lp, hlp⟩, ⟨lt, hlt⟩⟩ := hleft.imp Option.isSome_iff_exists.mp Option.isSome_iff_exists.mp
  obtain ⟨⟨rp, hrp⟩, ⟨rt, hrt⟩⟩ :=
    hright.imp Option.isSome_iff_exists.mp Option.isSome_iff_exists.mp
  have htimes : SameTimes left right ↔ lp = rp ∧ lt = rt := by
    refine ⟨fun h => ?_, fun h => ⟨?_, ?_⟩⟩
    · have hprocess := h.process
      have htask := h.task
      rw [hlp, hrp, Option.some.injEq] at hprocess
      rw [hlt, hrt, Option.some.injEq] at htask
      exact ⟨hprocess, htask⟩
    · rw [hlp, hrp, h.1]
    · rw [hlt, hrt, h.2]
  rw [htimes, sameLogicalTask, hlp, hrp, hlt, hrt]
  by_cases hpid : left.processPid = right.processPid
  · simp [hpid]
  · simp [hpid]

/-- The fallback. -/
def sameExecutable (left right : TaskInfo) : Bool :=
  match left.exeDev, right.exeDev, left.exeIno, right.exeIno with
  | some ld, some rd, some li, some ri => ld == rd && li == ri && left.comm == right.comm
  | _, _, _, _ => false

theorem sameExecutable_iff (left right : TaskInfo) :
    sameExecutable left right = true ↔ left.Located ∧ right.Located ∧ SameExe left right := by
  by_cases hboth : left.Located ∧ right.Located
  · obtain ⟨hleft, hright⟩ := hboth
    obtain ⟨⟨ld, hld⟩, ⟨li, hli⟩⟩ :=
      hleft.imp Option.isSome_iff_exists.mp Option.isSome_iff_exists.mp
    obtain ⟨⟨rd, hrd⟩, ⟨ri, hri⟩⟩ :=
      hright.imp Option.isSome_iff_exists.mp Option.isSome_iff_exists.mp
    have hexe : SameExe left right ↔ (ld = rd ∧ li = ri) ∧ left.comm = right.comm := by
      refine ⟨fun h => ?_, fun h => ⟨?_, ?_, h.2⟩⟩
      · have hdev := h.dev
        have hino := h.ino
        rw [hld, hrd, Option.some.injEq] at hdev
        rw [hli, hri, Option.some.injEq] at hino
        exact ⟨⟨hdev, hino⟩, h.comm⟩
      · rw [hld, hrd, h.1.1]
      · rw [hli, hri, h.1.2]
    rw [hexe, sameExecutable, hld, hrd, hli, hri]
    simp [hleft, hright]
  · have hfalse : sameExecutable left right = false := by
      unfold sameExecutable
      split
      · rename_i hld hrd hli hri
        exact absurd ⟨⟨by rw [hld]; rfl, by rw [hli]; rfl⟩, by rw [hrd]; rfl, by rw [hri]; rfl⟩
          hboth
      · rfl
    rw [hfalse]
    exact iff_of_false Bool.false_ne_true fun h => hboth ⟨h.1, h.2.1⟩

theorem sameLogicalTask_of_untimed (h : ¬(left.Timed ∧ right.Timed)) :
    sameLogicalTask left right = true ↔
      left.processPid = right.processPid ∧ left.Located ∧ right.Located ∧ SameExe left right := by
  rw [← sameExecutable_iff, sameLogicalTask]
  by_cases hpid : left.processPid = right.processPid
  · rw [if_neg (not_not_intro hpid)]
    split
    · rename_i hlp hrp hlt hrt
      exact absurd ⟨⟨by rw [hlp]; rfl, by rw [hlt]; rfl⟩, by rw [hrp]; rfl, by rw [hrt]; rfl⟩ h
    · exact (and_iff_right hpid).symm
  · rw [if_pos hpid]
    exact iff_of_false Bool.false_ne_true fun h => hpid h.1

theorem sameLogicalTask_symm (h : sameLogicalTask left right = true) :
    sameLogicalTask right left = true := by
  by_cases htimed : left.Timed ∧ right.Timed
  · obtain ⟨hpid, htimes⟩ := (sameLogicalTask_of_timed htimed.1 htimed.2).mp h
    exact (sameLogicalTask_of_timed htimed.2 htimed.1).mpr
      ⟨hpid.symm, htimes.process.symm, htimes.task.symm⟩
  · obtain ⟨hpid, hleft, hright, hexe⟩ := (sameLogicalTask_of_untimed htimed).mp h
    exact (sameLogicalTask_of_untimed fun h => htimed h.symm).mpr
      ⟨hpid.symm, hright, hleft, hexe.dev.symm, hexe.ino.symm, hexe.comm.symm⟩

theorem sameLogicalTask_self (task : TaskInfo) :
    sameLogicalTask task task = true ↔ task.Timed ∨ task.Located := by
  by_cases htimed : task.Timed
  · exact iff_of_true ((sameLogicalTask_of_timed htimed htimed).mpr ⟨rfl, rfl, rfl⟩) (.inl htimed)
  · rw [sameLogicalTask_of_untimed fun h => htimed h.1]
    exact ⟨fun h => .inr h.2.1, fun h =>
      ⟨rfl, h.resolve_left htimed, h.resolve_left htimed, rfl, rfl, rfl⟩⟩

def timedAmong (tasks : List TaskInfo) : Nat := tasks.countP fun task => task.Timed

/-- The relation goes on from task to task, unless two of three have start times and the third has
none. -/
theorem sameLogicalTask_trans {a b c : TaskInfo} (hkind : timedAmong [a, b, c] ≠ 2)
    (hab : sameLogicalTask a b = true) (hbc : sameLogicalTask b c = true) :
    sameLogicalTask a c = true := by
  by_cases hall : a.Timed ∧ b.Timed ∧ c.Timed
  · obtain ⟨ha, hb, hc⟩ := hall
    obtain ⟨hpid, htimes⟩ := (sameLogicalTask_of_timed ha hb).mp hab
    obtain ⟨hpid', htimes'⟩ := (sameLogicalTask_of_timed hb hc).mp hbc
    exact (sameLogicalTask_of_timed ha hc).mpr
      ⟨hpid.trans hpid', htimes.process.trans htimes'.process, htimes.task.trans htimes'.task⟩
  · have hpair : ¬(a.Timed ∧ b.Timed) ∧ ¬(b.Timed ∧ c.Timed) ∧ ¬(a.Timed ∧ c.Timed) := by
      by_cases ha : a.Timed <;> by_cases hb : b.Timed <;> by_cases hc : c.Timed <;>
        simp_all [timedAmong]
    obtain ⟨hpid, hlocated, -, hexe⟩ := (sameLogicalTask_of_untimed hpair.1).mp hab
    obtain ⟨hpid', -, hlocated', hexe'⟩ := (sameLogicalTask_of_untimed hpair.2.1).mp hbc
    exact (sameLogicalTask_of_untimed hpair.2.2).mpr ⟨hpid.trans hpid', hlocated, hlocated',
      hexe.dev.trans hexe'.dev, hexe.ino.trans hexe'.ino, hexe.comm.trans hexe'.comm⟩

/-! ## Refreshing again -/

namespace TaskTracker

variable {classify : Classify} {tracker after : TaskTracker} {input : RefreshInput}

theorem handleReplacements_settled (hself : ∀ tid desired, input.snapshot.get tid = some desired →
      ∀ active, tracker.activeTargets.get tid = some active →
        sameLogicalTask active desired = true) :
    tracker.handleReplacements classify input = tracker := by
  have hturn : ∀ desired ∈ input.snapshot.values,
      tracker.handleReplacement classify input desired = tracker := by
    intro desired hdesired
    rw [handleReplacement]
    cases hactive : tracker.activeTargets.get desired.tid with
    | none => rfl
    | some active =>
      have hsame := hself desired.tid desired ((mem_values _ _).mp hdesired) active hactive
      dsimp only
      rw [if_pos hsame]
  rw [handleReplacements]
  generalize input.snapshot.values = tasks at hturn
  induction tasks with
  | nil => rfl
  | cons desired rest ih =>
    rw [List.foldl_cons, hturn desired List.mem_cons_self]
    exact ih fun other hother => hturn other (List.mem_cons_of_mem desired hother)

theorem diffTasks_settled
    (hkeys : ∀ tid, tracker.activeTargets.contains tid = input.snapshot.contains tid) :
    diffTasks tracker.activeTargets input.snapshot = [] := by
  refine List.eq_nil_iff_forall_not_mem.mpr fun diff hdiff => ?_
  have hsame := hkeys diff.task.tid
  rw [TaskMap.contains, TaskMap.contains] at hsame
  rcases (mem_diffTasks _ _ _).mp hdiff with ⟨-, hnew, hold⟩ | ⟨-, hold, hnew⟩
  · rw [hold, hnew] at hsame
    contradiction
  · rw [hold, hnew] at hsame
    contradiction

/-- After a refresh that returned Ok, one with the same snapshot leaves everything as it is,
whatever the eBPF map would answer. -/
theorem refreshInternal_again {first second : RefreshInput}
    (hsnapshot : second.snapshot = first.snapshot)
    (h : tracker.refreshInternal classify first = (after, .ok ()))
    (htold : ∀ tid task, first.snapshot.get tid = some task → task.Timed ∨ task.Located) :
    (after.refreshInternal classify second).1 = after ∧
      (first.maxTasks ≤ second.maxTasks → (after.refreshInternal classify second).2 = .ok ()) := by
  have hreplaced : after.handleReplacements classify second = after := by
    refine handleReplacements_settled fun tid desired hdesired active hactive => ?_
    rw [hsnapshot] at hdesired
    obtain rfl : desired.tid = tid := first.snapshot.keyed tid desired hdesired
    rcases settled_of_refresh_ok h hdesired active hactive with rfl | hsame
    · exact (sameLogicalTask_self active).mpr (htold _ active hdesired)
    · exact hsame
  have hdiffs : diffTasks after.activeTargets second.snapshot = [] :=
    diffTasks_settled fun tid => by rw [hsnapshot, keys_of_refresh_ok h]
  have hfits : first.snapshot.size ≤ first.maxTasks ∧ first.snapshot.size ≤ targetPidsMax := by
    unfold TaskTracker.refreshInternal at h
    split at h
    · cases h
    · split at h
      · cases h
      · omega
  unfold TaskTracker.refreshInternal
  rw [hreplaced]
  dsimp only
  rw [hdiffs, hsnapshot]
  by_cases hmax : second.maxTasks < first.snapshot.size
  · rw [if_pos hmax]
    exact ⟨rfl, fun hle => by omega⟩
  · rw [if_neg hmax, if_neg (by omega)]
    exact ⟨rfl, fun _ => rfl⟩

/-- `same_logical_task` is symmetric, it relates a task with itself exactly if the task has start
times or an executable, and it goes on from task to task of one kind.  With such tasks a second
refresh changes nothing. -/
theorem refresh_unchanged (classify : Classify) :
    (∀ left right, sameLogicalTask left right = true ↔ sameLogicalTask right left = true) ∧
    (∀ task, sameLogicalTask task task = true ↔ task.Timed ∨ task.Located) ∧
    (∀ a b c, timedAmong [a, b, c] ≠ 2 → sameLogicalTask a b = true → sameLogicalTask b c = true →
      sameLogicalTask a c = true) ∧
    ∀ (tracker after : TaskTracker) (first second : RefreshInput),
      second.snapshot = first.snapshot →
      tracker.refreshInternal classify first = (after, .ok ()) →
      (∀ tid task, first.snapshot.get tid = some task → task.Timed ∨ task.Located) →
        (after.refreshInternal classify second).1 = after ∧
          (first.maxTasks ≤ second.maxTasks → (after.refreshInternal classify second).2 = .ok ()) :=
  ⟨fun _ _ => ⟨sameLogicalTask_symm, sameLogicalTask_symm⟩, sameLogicalTask_self,
    fun _ _ _ => sameLogicalTask_trans, fun _ _ _ _ => refreshInternal_again⟩

/-- A task whose start times are unknown, with an executable. -/
def shader : TaskInfo :=
  ⟨8, 101, 1, "shader", "game", none, none, some 3, some 77, .game, none, false⟩

/-- Two targets of which each is known by another of the two. -/
def workerAndShader : TaskMap := (TaskMap.empty.insert worker).insert shader

theorem get_workerAndShader (tid : Nat) :
    workerAndShader.get tid = if tid = 8 then some shader else if tid = 7 then some worker
    else none := by
  show (workerAndShader.table).get tid = _
  simp only [workerAndShader, TaskMap.insert, TaskMap.empty, Table.get_insert]
  rfl

/-- The tracker that has found both. -/
def bothFound : TaskTracker :=
  (TaskTracker.new.refreshInternal (fun _ => .unknown) (refreshOf workerAndShader none)).1

theorem refresh_unchanged_targets :
    bothFound.treeEvents.length = 2 ∧
      (bothFound.refreshInternal (fun _ => .unknown) (refreshOf workerAndShader (some "EBUSY"))).1 =
        bothFound := by
  refine ⟨by decide +kernel, ?_⟩
  have htold : ∀ tid task, (refreshOf workerAndShader none).snapshot.get tid = some task →
      task.Timed ∨ task.Located := by
    intro tid task htask
    have htask := (get_workerAndShader tid).symm.trans htask
    split_ifs at htask
    · obtain rfl := Option.some.inj htask
      exact .inr (by decide)
    · obtain rfl := Option.some.inj htask
      exact .inl (by decide)
  exact ((refresh_unchanged fun _ => .unknown).2.2.2 .new _ (refreshOf workerAndShader none)
    (refreshOf workerAndShader (some "EBUSY")) rfl rfl htold).1

/-- The task that stands for a missing pid. -/
def missingTask (pid : Nat) : TaskInfo :=
  ⟨pid, pid, 0, "?", "?", none, none, none, none, .unknown, none, false⟩

/-- It is not the same as itself, so every refresh replaces it. -/
theorem missingTask_replaced :
    ¬(Equivalence fun left right => sameLogicalTask left right = true) ∧
    ¬∀ (classify : Classify) (tracker after : TaskTracker) (first second : RefreshInput),
      second.snapshot = first.snapshot → tracker.refreshInternal classify first = (after, .ok ()) →
        (after.refreshInternal classify second).1 = after := by
  constructor
  · intro h
    exact absurd (h.refl (missingTask 42)) (by decide)
  · intro h
    have hsame := h (fun _ => .unknown) .new _ (refreshOf (.insert .empty (missingTask 42)) none)
      (refreshOf (.insert .empty (missingTask 42)) none) rfl rfl
    exact absurd (congrArg (fun tracker => tracker.treeEvents.length) hsame) (by decide +kernel)

end TaskTracker

end Stutter.Tasks

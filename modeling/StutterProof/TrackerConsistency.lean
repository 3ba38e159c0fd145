import StutterProof.TaskTracker

/-! # The tracker's maps agree

Everything the tracker knows of one tid is a `View`, and every operation changes the view of one tid
only.  What must hold of a view (`View.Sound`) is kept by every operation, also by those that end a
refresh early, so it holds between any two steps; a refresh that returns Ok has in addition applied
every difference to the snapshot. -/
namespace Stutter.Tasks

open Metrics

/-! ## What is known of one tid -/

/-- The tracker's books about one tid. -/
structure View where
  active : Option TaskInfo
  known : Option TaskInfo
  stats : Option TaskStats
  inKernel : Bool
  replayed : Bool
  removalFailed : Bool

/-- The set that the tree events build up. -/
def replay (events : List TreeEvent) : Nat → Bool :=
  events.foldl (fun targets event => Function.update targets event.tid event.action.adds)
    fun _ => false

theorem replay_append (events : List TreeEvent) (event : TreeEvent) (tid : Nat) :
    replay (events ++ [event]) tid =
      if tid = event.tid then event.action.adds else replay events tid := by
  unfold replay
  rw [List.foldl_append]
  exact Function.update_apply ..

namespace TaskTracker

def view (tracker : TaskTracker) (tid : Nat) : View where
  active := tracker.activeTargets.get tid
  known := tracker.knownTargets.get tid
  stats := tracker.statsByTask.get tid
  inKernel := (tracker.targetPidMap.get tid).isSome
  replayed := replay tracker.treeEvents tid
  removalFailed := tracker.removalFailed tid

end TaskTracker

namespace View

/-- The statistics are those of an active target. -/
def statsActive (view : View) : Prop :=
  ∃ stats, view.stats = some stats ∧ stats.active = true ∧ stats.removedMs = none

/-- The maps agree on the tid.  A removal that the eBPF map refused has marked the statistics and
the log although the target stays. -/
structure Sound (view : View) : Prop where
  kernel : view.inKernel = view.active.isSome
  known : view.active.isSome = true → view.known.isSome = true
  stats : view.known.isSome = true → ∃ stats, view.stats = some stats ∧
    (view.removalFailed = false → stats.active = view.active.isSome ∧
      (view.active.isSome = true → stats.removedMs = none))
  replay : view.removalFailed = false → view.replayed = view.active.isSome

theorem Sound.statsActive_iff {view : View} (h : view.Sound)
    (hsettled : view.removalFailed = false) (hknown : view.known.isSome = true) :
    view.statsActive ↔ view.active.isSome = true := by
  obtain ⟨stats, hfound, hmarks⟩ := h.stats hknown
  obtain ⟨hactive, hremoved⟩ := hmarks hsettled
  constructor
  · rintro ⟨stats', hfound', hactive', -⟩
    rw [hfound, Option.some.injEq] at hfound'
    rw [← hactive, hfound', hactive']
  · intro hisActive
    exact ⟨stats, hfound, by rw [hactive, hisActive], hremoved hisActive⟩

end View

/-! ## What an operation does to the views -/

namespace TaskTracker
variable {classify : Classify} {tracker after : TaskTracker} {input : RefreshInput}

theorem view_setTarget (task : TaskInfo) (tid : Nat) :
    (tracker.setTarget task).view tid =
      if tid = task.tid then
        { tracker.view tid with active := some task, known := some task, removalFailed := false }
      else tracker.view tid := by
  by_cases same : tid = task.tid
  · simp [view, setTarget, TaskMap.get, TaskMap.insert, same]
  · simp [view, setTarget, TaskMap.get, TaskMap.insert, same]

@[simp] theorem view_updateTaskExeInfo (task : TaskInfo) (tid : Nat) :
    (tracker.updateTaskExeInfo task).view tid = tracker.view tid := rfl

@[simp] theorem view_removePrevFaultsState (other tid : Nat) :
    (tracker.removePrevFaultsState input other).view tid = tracker.view tid := rfl

theorem view_pushTreeEvent (action : TreeAction) (task : TaskInfo) (tid : Nat) :
    (tracker.pushTreeEvent input action task).view tid =
      if tid = task.tid then { tracker.view tid with replayed := action.adds }
      else tracker.view tid := by
  by_cases same : tid = task.tid
  · subst same
    simp [view, pushTreeEvent, replay_append, treeEvent]
  · simp [view, pushTreeEvent, replay_append, treeEvent, same]

theorem view_resetStatsForTaskChange (task : TaskInfo) (tid : Nat) :
    (tracker.resetStatsForTaskChange classify input task).view tid =
      if tid = task.tid then
        { tracker.view tid with stats := some (freshStats classify input task) }
      else tracker.view tid := by
  by_cases same : tid = task.tid
  · simp [view, resetStatsForTaskChange, same]
  · simp [view, resetStatsForTaskChange, same]

/-- Statistics that are reset or reactivated are those of an active target. -/
theorem freshStats_active (classify : Classify) (input : RefreshInput) (task : TaskInfo) :
    (freshStats classify input task).active = true ∧
      (freshStats classify input task).removedMs = none := by
  unfold freshStats TaskStats.recordingStarted
  cases input.recordingStarted with
  | false => exact ⟨rfl, rfl⟩
  | true =>
    simp only [if_true]
    split <;> exact ⟨rfl, rfl⟩

theorem view_reactivateOrResetStats (classify : Classify) (input : RefreshInput)
    (tracker : TaskTracker) (task : TaskInfo) :
    ∃ stats : TaskStats, stats.active = true ∧ stats.removedMs = none ∧
      ∀ tid, (tracker.reactivateOrResetStats classify input task).view tid =
        if tid = task.tid then { tracker.view tid with stats := some stats }
        else tracker.view tid := by
  have hreset : ∃ stats : TaskStats, stats.active = true ∧ stats.removedMs = none ∧
      ∀ tid, (tracker.resetStatsForTaskChange classify input task).view tid =
        if tid = task.tid then { tracker.view tid with stats := some stats }
        else tracker.view tid :=
    ⟨_, (freshStats_active classify input task).1, (freshStats_active classify input task).2,
      view_resetStatsForTaskChange task⟩
  unfold reactivateOrResetStats
  split
  · rename_i stats hstats
    by_cases hsame : sameTaskInfo task stats.taskInfo = true
    · rw [if_pos hsame]
      refine ⟨{ stats with active := true, removedMs := none }, rfl, rfl, fun tid => ?_⟩
      by_cases same : tid = task.tid
      · simp [view, same]
      · simp [view, same]
    · rw [if_neg hsame]
      exact hreset
  · exact hreset

theorem handleReplacement_eq (desired : TaskInfo) (tid : Nat) :
    (tracker.handleReplacement classify input desired).view tid =
      if tid = desired.tid ∧
          (tracker.activeTargets.get desired.tid).any (fun active =>
            !sameLogicalTask active desired) = true then
        { tracker.view tid with
          active := some desired, known := some desired, replayed := true, removalFailed := false,
          stats := some (freshStats classify input desired) }
      else tracker.view tid := by
  unfold handleReplacement
  cases hactive : tracker.activeTargets.get desired.tid with
  | none => simp
  | some active =>
    by_cases hsame : sameLogicalTask active desired = true
    · simp [hsame]
    · by_cases same : tid = desired.tid
      · simp [hsame, same, view_setTarget, view_resetStatsForTaskChange, view_pushTreeEvent,
          TreeAction.adds]
      · simp [hsame, same, view_setTarget, view_resetStatsForTaskChange, view_pushTreeEvent]

variable {task : TaskInfo}

/-- An added target that the eBPF map takes. -/
theorem view_addTarget (h : tracker.addTarget classify input task = (after, .ok ())) :
    ∃ stats : TaskStats, stats.active = true ∧ stats.removedMs = none ∧
      ∀ tid, after.view tid =
        if tid = task.tid then ⟨some task, some task, some stats, true, true, false⟩
        else tracker.view tid := by
  unfold addTarget at h
  split at h
  · cases h
  · cases h
    obtain ⟨stats, hactive, hremoved, hview⟩ := view_reactivateOrResetStats classify input
      (({ tracker with targetPidMap := tracker.targetPidMap.insert task.tid () }
        : TaskTracker).pushTreeEvent input (addedAction task.fromCgroup) task) task
    refine ⟨stats, hactive, hremoved, fun tid => ?_⟩
    have hadds : (addedAction task.fromCgroup).adds = true := by
      unfold addedAction
      cases task.fromCgroup <;> rfl
    rw [view_setTarget, view_updateTaskExeInfo, hview, view_pushTreeEvent]
    by_cases same : tid = task.tid
    · simp [same, view, hadds]
    · simp [same, view]

theorem view_addTarget_error {error : String}
    (h : tracker.addTarget classify input task = (after, .error error)) : after = tracker := by
  unfold addTarget at h
  split at h
  · cases h
    rfl
  · cases h

/-- What a removal writes before it calls the eBPF map. -/
def markRemoved (elapsedMs : Nat) (stats : TaskStats) : TaskStats :=
  { stats with active := false, removedMs := some elapsedMs }

/-- A removed target, with the eBPF map's consent or without. -/
theorem view_removeTarget (task : TaskInfo) (tid : Nat) :
    (tracker.removeTarget input task).1.view tid =
      if tid = task.tid then
        if (input.removeError task.tid).isSome then
          { tracker.view tid with
            stats := (tracker.view tid).stats.map (markRemoved input.elapsedMs)
            replayed := false
            removalFailed := true }
        else
          ⟨none, (tracker.view tid).known,
            (tracker.view tid).stats.map (markRemoved input.elapsedMs),
            false, false, false⟩
      else tracker.view tid := by
  have hadds : (removedAction task.fromCgroup).adds = false := by
    unfold removedAction
    cases task.fromCgroup <;> rfl
  unfold removeTarget
  cases herror : input.removeError task.tid with
  | some error =>
    by_cases same : tid = task.tid
    · subst same
      simp only [view, removePrevFaultsState, pushTreeEvent, replay_append, treeEvent,
        Table.get_modify, hadds, Function.update_self, if_true]
      rfl
    · simp [view, removePrevFaultsState, pushTreeEvent, replay_append, treeEvent, same]
  | none =>
    by_cases same : tid = task.tid
    · subst same
      simp [view, removePrevFaultsState, pushTreeEvent, replay_append, treeEvent, hadds,
        TaskMap.get, TaskMap.remove]
      rfl
    · simp [view, removePrevFaultsState, pushTreeEvent, replay_append, treeEvent, same, TaskMap.get,
        TaskMap.remove]

theorem removeTarget_ok (h : tracker.removeTarget input task = (after, .ok ())) :
    (input.removeError task.tid).isSome = false := by
  unfold removeTarget at h
  cases herror : input.removeError task.tid with
  | none => rfl
  | some error => simp [herror] at h

/-! ## Every operation keeps the views sound -/

/-- The views are sound. -/
def Sound (tracker : TaskTracker) : Prop := ∀ tid, (tracker.view tid).Sound

theorem sound_active {stats : TaskStats} (hactive : stats.active = true)
    (hremoved : stats.removedMs = none) :
    View.Sound ⟨some task, some task, some stats, true, true, false⟩ :=
  ⟨rfl, fun _ => rfl, fun _ => ⟨stats, rfl, fun _ => ⟨hactive, fun _ => hremoved⟩⟩, fun _ => rfl⟩

theorem Sound.new : TaskTracker.new.Sound := by
  intro tid
  exact ⟨rfl, nofun, nofun, fun _ => rfl⟩

theorem Sound.handleReplacement (h : tracker.Sound) (desired : TaskInfo) :
    (tracker.handleReplacement classify input desired).Sound := by
  intro tid
  rw [handleReplacement_eq]
  split
  · rename_i hreplaced
    obtain ⟨rfl, hactive⟩ := hreplaced
    obtain ⟨hstats, hremoved⟩ := freshStats_active classify input desired
    have hkernel : (tracker.view desired.tid).inKernel = true := by
      rw [(h desired.tid).kernel]
      change (tracker.activeTargets.get desired.tid).isSome = true
      cases hget : tracker.activeTargets.get desired.tid with
      | none => simp [hget] at hactive
      | some active => rfl
    show View.Sound ⟨some desired, some desired, some (freshStats classify input desired),
      (tracker.view desired.tid).inKernel, true, false⟩
    rw [hkernel]
    exact sound_active hstats hremoved
  · exact h tid

theorem Sound.applyDiff (h : tracker.Sound) (diff : TargetDiff) :
    (tracker.applyDiff classify input diff).1.Sound := by
  unfold TaskTracker.applyDiff
  intro tid
  cases diff.action with
  | added =>
    cases hadd : tracker.addTarget classify input diff.task with
    | mk after result =>
      cases result with
      | error error =>
        rw [view_addTarget_error hadd]
        exact h tid
      | ok _ =>
        obtain ⟨stats, hactive, hremoved, hview⟩ := view_addTarget hadd
        change (after.view tid).Sound
        rw [hview]
        split
        · exact sound_active hactive hremoved
        · exact h tid
  | removed =>
    change ((tracker.removeTarget input diff.task).1.view tid).Sound
    rw [view_removeTarget]
    split
    · obtain ⟨hkernel, hknown, hstats, -⟩ := h tid
      split
      · -- The eBPF map has refused: the statistics and the log say that the target is gone.
        refine ⟨hkernel, hknown, fun hk => ?_, nofun⟩
        obtain ⟨stats, hfound, -⟩ := hstats hk
        exact ⟨markRemoved input.elapsedMs stats, by rw [hfound]; rfl, nofun⟩
      · refine ⟨rfl, nofun, fun hk => ?_, fun _ => rfl⟩
        obtain ⟨stats, hfound, -⟩ := hstats hk
        exact ⟨markRemoved input.elapsedMs stats, by rw [hfound]; rfl, fun _ => ⟨rfl, nofun⟩⟩
    · exact h tid

theorem Sound.applyDiffs (diffs : List TargetDiff) (h : tracker.Sound) :
    (TaskTracker.applyDiffs classify input tracker diffs).1.Sound := by
  induction diffs generalizing tracker with
  | nil => exact h
  | cons diff rest ih =>
    have hnext : (tracker.applyDiff classify input diff).1.Sound := h.applyDiff diff
    unfold TaskTracker.applyDiffs
    split
    · rename_i hdiff
      rw [hdiff] at hnext
      exact hnext
    · rename_i hdiff
      rw [hdiff] at hnext
      exact ih hnext

theorem Sound.handleReplacements (h : tracker.Sound) :
    (tracker.handleReplacements classify input).Sound :=
  List.foldlRecOn _ _ h fun _ h desired _ => h.handleReplacement desired

theorem Sound.refreshInternal (h : tracker.Sound) :
    (tracker.refreshInternal classify input).1.Sound := by
  unfold TaskTracker.refreshInternal
  split
  · exact h
  · split
    · exact h
    · exact h.handleReplacements.applyDiffs _

/-- The event of a tid that was a target once marks the statistics as the active targets say. -/
theorem describeStats_known {event : SchedulerEvent}
    (hknown : (tracker.view event.tid).known.isSome = true) (cgroupv2Active : Bool)
    (stats : TaskStats) :
    (tracker.describeStats cgroupv2Active event stats).active =
        (tracker.view event.tid).active.isSome ∧
      (tracker.describeStats cgroupv2Active event stats).removedMs = stats.removedMs := by
  obtain ⟨taskInfo, hinfo⟩ : ∃ taskInfo, (tracker.activeTargets.get event.tid).or
      (tracker.knownTargets.get event.tid) = some taskInfo := by
    obtain ⟨taskInfo, hinfo⟩ := Option.isSome_iff_exists.mp hknown
    cases hactive : tracker.activeTargets.get event.tid with
    | none => exact ⟨taskInfo, hinfo⟩
    | some active => exact ⟨active, rfl⟩
  unfold describeStats
  rw [hinfo]
  refine ⟨rfl, ?_⟩
  unfold TaskStats.applyTaskInfo
  split <;> rfl

/-- An event keeps what is known of the tid but for names and latencies. -/
theorem Sound.interpretSchedulerEvent (h : tracker.Sound) (event : SchedulerEvent)
    (cgroupv2Active : Bool) (elapsedMs : Nat) :
    (tracker.interpretSchedulerEvent classify event cgroupv2Active elapsedMs).Sound := by
  intro tid
  by_cases same : tid = event.tid
  · subst same
    obtain ⟨hkernel, hknown, hstats, hreplay⟩ := h event.tid
    refine ⟨hkernel, hknown, fun hk => ?_, hreplay⟩
    obtain ⟨stats, hfound, hactive⟩ := hstats hk
    obtain ⟨hmarked, hremoved⟩ := describeStats_known hk cgroupv2Active stats
    have hafter : ((tracker.interpretSchedulerEvent classify event cgroupv2Active elapsedMs).view
        event.tid).stats =
          some ((tracker.describeStats cgroupv2Active event stats).record event.latencyNs
            elapsedMs) := by
      have hget : tracker.statsByTask.get event.tid = some stats := hfound
      simp [view, TaskTracker.interpretSchedulerEvent, hget]
    refine ⟨_, hafter, fun hsettled => ⟨hmarked, fun hisActive => ?_⟩⟩
    exact hremoved.trans ((hactive hsettled).2 hisActive)
  · have hview : (tracker.interpretSchedulerEvent classify event cgroupv2Active elapsedMs).view
        tid =
        tracker.view tid := by
      simp [view, TaskTracker.interpretSchedulerEvent, same]
    rw [hview]
    exact h tid

theorem Sound.handleExecEvent (h : tracker.Sound) (tid : Nat) (comm : String) :
    (tracker.handleExecEvent classify tid comm).Sound := by
  intro other
  obtain ⟨hkernel, hknown, hstats, hreplay⟩ := h other
  by_cases same : other = tid
  · subst same
    have hview : (tracker.handleExecEvent classify other comm).view other =
        { tracker.view other with
          active := (tracker.view other).active.map fun task =>
            { task with comm, taskClass := classify comm }
          stats := (tracker.view other).stats.map fun stats =>
            { stats with comm, taskClass := classify comm } } := by
      simp [view, TaskTracker.handleExecEvent, TaskMap.get, TaskMap.rename]
    rw [hview]
    refine ⟨by simpa using hkernel, by simpa using hknown, fun hk => ?_, by simpa using hreplay⟩
    obtain ⟨stats, hfound, hactive⟩ := hstats hk
    refine ⟨{ stats with comm, taskClass := classify comm }, by simp [hfound], ?_⟩
    simpa using hactive
  · have hview : (tracker.handleExecEvent classify tid comm).view other = tracker.view other := by
      simp [view, TaskTracker.handleExecEvent, TaskMap.get, TaskMap.rename, same]
    rw [hview]
    exact ⟨hkernel, hknown, hstats, hreplay⟩

theorem Sound.collectIntervalSummaries (h : tracker.Sound) :
    tracker.collectIntervalSummaries.Sound := by
  intro tid
  obtain ⟨hkernel, hknown, hstats, hreplay⟩ := h tid
  have hview : tracker.collectIntervalSummaries.view tid =
      { tracker.view tid with stats := (tracker.view tid).stats.map collectStats } := by
    simp [view, TaskTracker.collectIntervalSummaries]
  rw [hview]
  refine ⟨hkernel, hknown, fun hk => ?_, hreplay⟩
  obtain ⟨stats, hfound, hactive⟩ := hstats hk
  have hsame : (collectStats stats).active = stats.active ∧
      (collectStats stats).removedMs = stats.removedMs := by
    unfold collectStats
    split <;> exact ⟨rfl, rfl⟩
  refine ⟨collectStats stats, by simp [hfound], ?_⟩
  rw [hsame.1, hsame.2]
  exact hactive

theorem Sound.step (h : tracker.Sound) (s : Step) : (tracker.step classify s).Sound := by
  cases s with
  | refresh input => exact h.refreshInternal
  | schedulerEvent event cgroupv2Active elapsedMs =>
    exact h.interpretSchedulerEvent event cgroupv2Active elapsedMs
  | execEvent tid comm => exact h.handleExecEvent tid comm
  | faults counters => exact fun tid => h tid
  | collect => exact h.collectIntervalSummaries

theorem sound_run (classify : Classify) (steps : List Step) : (run classify steps).Sound :=
  List.foldlRecOn _ _ Sound.new fun _ h s _ => h.step s

/-! ## A refresh that returns Ok -/

theorem mem_values (tasks : TaskMap) (task : TaskInfo) :
    task ∈ tasks.values ↔ tasks.get task.tid = some task := by
  unfold TaskMap.values
  rw [List.mem_insertionSort]
  constructor
  · intro hmem
    obtain ⟨⟨tid, task'⟩, hentry, rfl⟩ := List.mem_map.mp hmem
    have hget := tasks.table.mem_entries.mp hentry
    have hkeyed : task'.tid = tid := tasks.keyed tid task' hget
    subst hkeyed
    exact hget
  · intro hget
    exact List.mem_map.mpr ⟨(task.tid, task), tasks.table.mem_entries.mpr hget, rfl⟩

theorem mem_diffTasks (oldTasks newTasks : TaskMap) (diff : TargetDiff) :
    diff ∈ diffTasks oldTasks newTasks ↔
      (diff.action = .added ∧ newTasks.get diff.task.tid = some diff.task ∧
        oldTasks.get diff.task.tid = none) ∨
      (diff.action = .removed ∧ oldTasks.get diff.task.tid = some diff.task ∧
        newTasks.get diff.task.tid = none) := by
  obtain ⟨action, task⟩ := diff
  unfold diffTasks
  rw [List.mem_insertionSort]
  cases action <;>
    simp [mem_values, TaskMap.contains]

/-- What a difference makes of the active target of its tid. -/
def target (diff : TargetDiff) : Option TaskInfo :=
  match diff.action with
  | .added => some diff.task
  | .removed => none

theorem active_applyDiff {diff : TargetDiff}
    (h : tracker.applyDiff classify input diff = (after, .ok ())) (tid : Nat) :
    (after.view tid).active =
      if tid = diff.task.tid then target diff else (tracker.view tid).active := by
  unfold TaskTracker.applyDiff at h
  unfold target
  cases haction : diff.action with
  | added =>
    simp only [haction] at h
    obtain ⟨stats, -, -, hview⟩ := view_addTarget h
    rw [hview]
    split <;> rfl
  | removed =>
    simp only [haction] at h
    have hview : (tracker.removeTarget input diff.task).1.view tid = _ :=
      view_removeTarget diff.task tid
    rw [h, removeTarget_ok h] at hview
    rw [hview]
    by_cases same : tid = diff.task.tid
    · simp [same]
    · simp [same]

/-- Differences of one tid are the same difference. -/
def Functional (diffs : List TargetDiff) : Prop :=
  ∀ diff ∈ diffs, ∀ other ∈ diffs, other.task.tid = diff.task.tid → other = diff

theorem active_applyDiffs {diffs : List TargetDiff} (hdiffs : Functional diffs)
    (h : applyDiffs classify input tracker diffs = (after, .ok ())) :
    (∀ diff ∈ diffs, (after.view diff.task.tid).active = target diff) ∧
      ∀ tid, (∀ diff ∈ diffs, diff.task.tid ≠ tid) →
        (after.view tid).active = (tracker.view tid).active := by
  induction diffs generalizing tracker with
  | nil =>
    cases h
    exact ⟨fun diff hmem => absurd hmem List.not_mem_nil, fun _ _ => rfl⟩
  | cons diff rest ih =>
    unfold applyDiffs at h
    split at h
    · cases h
    · rename_i mid hmid
      have hrest : Functional rest := fun a ha b hb =>
        hdiffs a (List.mem_cons_of_mem diff ha) b (List.mem_cons_of_mem diff hb)
      obtain ⟨hdone, huntouched⟩ := ih hrest h
      constructor
      · intro other hother
        by_cases hagain : ∃ again ∈ rest, again.task.tid = other.task.tid
        · obtain ⟨again, hagain, htid⟩ := hagain
          have hsame : again = other :=
            hdiffs other hother again (List.mem_cons_of_mem diff hagain) htid
          rw [← hsame]
          exact hdone again hagain
        · have hlast := huntouched other.task.tid fun again hmem htid => hagain ⟨again, hmem, htid⟩
          rw [hlast, active_applyDiff hmid]
          rcases List.mem_cons.mp hother with rfl | hmem
          · rw [if_pos rfl]
          · exact absurd ⟨other, hmem, rfl⟩ hagain
      · intro tid hnone
        have hhead : diff.task.tid ≠ tid := hnone diff List.mem_cons_self
        rw [huntouched tid fun other hmem => hnone other (List.mem_cons_of_mem diff hmem),
          active_applyDiff hmid, if_neg (fun heq => hhead heq.symm)]

theorem functional_diffTasks (oldTasks newTasks : TaskMap) :
    Functional (diffTasks oldTasks newTasks) := by
  rintro ⟨action, task⟩ hdiff ⟨action', task'⟩ hother htid
  rw [mem_diffTasks] at hdiff hother
  simp only at htid hdiff hother
  rw [htid] at hother
  rcases hdiff with ⟨rfl, hnew, hold⟩ | ⟨rfl, hold, hnew⟩ <;>
    rcases hother with ⟨rfl, hnew', hold'⟩ | ⟨rfl, hold', hnew'⟩
  · rw [hnew, Option.some.injEq] at hnew'
    rw [hnew']
  · rw [hold] at hold'
    cases hold'
  · rw [hold] at hold'
    cases hold'
  · rw [hold, Option.some.injEq] at hold'
    rw [hold']

/-- An active target that is the one of the snapshot. -/
def Settled (desired : TaskInfo) (view : View) : Prop :=
  ∀ active, view.active = some active → active = desired ∨ sameLogicalTask active desired = true

theorem settled_handleReplacement (desired : TaskInfo) :
    Settled desired ((tracker.handleReplacement classify input desired).view desired.tid) := by
  intro active hactive
  rw [handleReplacement_eq] at hactive
  split at hactive
  · exact .inl (Option.some.inj hactive).symm
  · rename_i hkept
    right
    by_contra hdiffer
    have hget : tracker.activeTargets.get desired.tid = some active := hactive
    exact hkept ⟨rfl, by simp [hget, hdiffer]⟩

theorem settled_foldl (tasks : List TaskInfo) (desired : TaskInfo)
    (honce : ∀ other ∈ tasks, other.tid = desired.tid → other = desired)
    (h : desired ∈ tasks ∨ Settled desired (tracker.view desired.tid)) :
    Settled desired ((tasks.foldl (fun tracker desired =>
      tracker.handleReplacement classify input desired) tracker).view desired.tid) := by
  induction tasks generalizing tracker with
  | nil => exact h.resolve_left List.not_mem_nil
  | cons head rest ih =>
    refine ih (fun other hother => honce other (List.mem_cons_of_mem head hother)) ?_
    by_cases htid : head.tid = desired.tid
    · have hhead : head = desired := honce head List.mem_cons_self htid
      subst hhead
      exact .inr (settled_handleReplacement head)
    · rcases h with hmem | hsettled
      · rcases List.mem_cons.mp hmem with rfl | hmem
        · exact absurd rfl htid
        · exact .inl hmem
      · right
        rw [handleReplacement_eq, if_neg (fun hcond => htid hcond.1.symm)]
        exact hsettled

/-- **What holds after a refresh that returns Ok.**  The keys of the active targets, of the eBPF map
and of the snapshot are the same, and every active target is that of the snapshot.  But for the tids
whose removal the eBPF map refused, the statistics of the targets, past and present, are marked
active exactly for the active ones, and the tree events build up the active set. -/
structure Consistent (snapshot : TaskMap) (tracker : TaskTracker) : Prop where
  keys : ∀ tid, tracker.activeTargets.contains tid = snapshot.contains tid
  kernelKeys : ∀ tid, (tracker.targetPidMap.get tid).isSome = snapshot.contains tid
  logical : ∀ tid active desired, tracker.activeTargets.get tid = some active →
    snapshot.get tid = some desired → active = desired ∨ sameLogicalTask active desired = true
  known : ∀ tid, tracker.activeTargets.contains tid = true →
    tracker.knownTargets.contains tid = true
  stats : ∀ tid, tracker.removalFailed tid = false → tracker.knownTargets.contains tid = true →
    ((tracker.view tid).statsActive ↔ tracker.activeTargets.contains tid = true)
  replayed : ∀ tid, tracker.removalFailed tid = false →
    replay tracker.treeEvents tid = tracker.activeTargets.contains tid

/-- The differences that were applied make the active targets those of the snapshot. -/
theorem active_refreshed {replaced : TaskTracker}
    (h : applyDiffs classify input replaced (diffTasks replaced.activeTargets input.snapshot) =
      (after, .ok ())) (tid : Nat) :
    (after.view tid).active =
      if input.snapshot.contains tid ∧ replaced.activeTargets.contains tid then
        replaced.activeTargets.get tid
      else input.snapshot.get tid := by
  obtain ⟨hdone, huntouched⟩ := active_applyDiffs (functional_diffTasks _ _) h
  cases hnew : input.snapshot.get tid with
  | none =>
    cases hold : replaced.activeTargets.get tid with
    | none =>
      have hnone := huntouched tid (by
        rintro ⟨action, task⟩ hdiff rfl
        rw [mem_diffTasks] at hdiff
        simp [hnew, hold] at hdiff)
      rw [hnone]
      simp [TaskMap.contains, hnew, view, hold]
    | some active =>
      have htid : active.tid = tid := replaced.activeTargets.keyed tid active hold
      subst htid
      have hremoved := hdone ⟨.removed, active⟩ (by
        rw [mem_diffTasks]
        exact .inr ⟨rfl, hold, hnew⟩)
      rw [hremoved]
      simp [TaskMap.contains, hnew, target]
  | some desired =>
    have htid : desired.tid = tid := input.snapshot.keyed tid desired hnew
    subst htid
    cases hold : replaced.activeTargets.get desired.tid with
    | none =>
      have hadded := hdone ⟨.added, desired⟩ (by
        rw [mem_diffTasks]
        exact .inl ⟨rfl, hnew, hold⟩)
      rw [hadded]
      simp [TaskMap.contains, hold, target]
    | some active =>
      have hkept := huntouched desired.tid (by
        rintro ⟨action, task⟩ hdiff htask
        rw [mem_diffTasks] at hdiff
        simp only at htask
        rw [htask, hnew, hold] at hdiff
        simp at hdiff)
      rw [hkept]
      simp [TaskMap.contains, hnew, hold, view]

/-- A refresh that returns Ok replaced, and then applied the differences. -/
theorem applyDiffs_of_refresh_ok (h : tracker.refreshInternal classify input = (after, .ok ())) :
    applyDiffs classify input (tracker.handleReplacements classify input)
      (diffTasks (tracker.handleReplacements classify input).activeTargets input.snapshot) =
        (after, .ok ()) := by
  unfold TaskTracker.refreshInternal at h
  split at h
  · cases h
  · split at h
    · cases h
    · exact h

theorem keys_of_refresh_ok (h : tracker.refreshInternal classify input = (after, .ok ()))
    (tid : Nat) :
    after.activeTargets.contains tid = input.snapshot.contains tid := by
  change (after.view tid).active.isSome = input.snapshot.contains tid
  rw [active_refreshed (applyDiffs_of_refresh_ok h)]
  split
  · rename_i hboth
    rw [hboth.1]
    exact hboth.2
  · rfl

theorem settled_of_refresh_ok (h : tracker.refreshInternal classify input = (after, .ok ()))
    {desired : TaskInfo} (hdesired : input.snapshot.get desired.tid = some desired) :
    Settled desired (after.view desired.tid) := by
  intro active hactive
  rw [active_refreshed (applyDiffs_of_refresh_ok h)] at hactive
  split at hactive
  · refine settled_foldl input.snapshot.values desired ?_ ?_ active hactive
    · intro other hother hsame
      rw [mem_values, hsame, hdesired, Option.some.injEq] at hother
      exact hother.symm
    · exact .inl ((mem_values _ _).mpr hdesired)
  · rw [hdesired, Option.some.injEq] at hactive
    exact .inl hactive.symm

/-- **The tracker's maps.**  After any steps, a refresh that returns Ok leaves them consistent. -/
theorem consistent_of_refresh_ok {steps : List Step}
    (h : (run classify steps).refreshInternal classify input = (after, .ok ())) :
    Consistent input.snapshot after := by
  have hsound : after.Sound := by
    have hrefreshed : ((run classify steps).refreshInternal classify input).1.Sound :=
      (sound_run classify steps).refreshInternal
    rw [h] at hrefreshed
    exact hrefreshed
  have hkeys : ∀ tid, (after.view tid).active.isSome = input.snapshot.contains tid :=
    keys_of_refresh_ok h
  refine ⟨hkeys, fun tid => (hsound tid).kernel.trans (hkeys tid), ?_,
    fun tid => (hsound tid).known, ?_, ?_⟩
  · intro tid active desired hget hdesired
    have htid : desired.tid = tid := input.snapshot.keyed tid desired hdesired
    subst htid
    exact settled_of_refresh_ok h hdesired active hget
  · exact fun tid hsettled hknown => (hsound tid).statsActive_iff hsettled hknown
  · exact fun tid hsettled => (hsound tid).replay hsettled

/-! ## A target whose removal fails -/

def worker : TaskInfo :=
  ⟨7, 100, 1, "worker", "game", some 10, some 20, none, none, .game, none, false⟩

def refreshOf (snapshot : TaskMap) (removeError : Option String) : RefreshInput :=
  ⟨snapshot, 64, 5, false, fun _ => none, fun _ => removeError, fun _ => true⟩

/-- The worker is added and its removal fails. -/
def failedRemoval : List Step :=
  [.refresh (refreshOf (.insert .empty worker) none), .refresh (refreshOf .empty (some "EBUSY"))]

/-- The next refresh removes it after all. -/
theorem failedRemoval_retried :
    ∃ after, (run (fun _ => .unknown) failedRemoval).refreshInternal (fun _ => .unknown)
        (refreshOf .empty none) = (after, .ok ()) ∧ Consistent .empty after := by
  have hok : ((run (fun _ => .unknown) failedRemoval).refreshInternal (fun _ => .unknown)
      (refreshOf .empty none)).2 = .ok () := rfl
  have hpair : (run (fun _ => .unknown) failedRemoval).refreshInternal (fun _ => .unknown)
      (refreshOf .empty none) = (_, .ok ()) := Prod.ext rfl hok
  exact ⟨_, hpair, consistent_of_refresh_ok hpair⟩

/-- A target that is back before its removal was retried is active with the marks of a removed one;
and the event of a tid that never was a target leaves statistics that are active. -/
theorem marks_without_target :
    (∃ after, (run (fun _ => .unknown) failedRemoval).refreshInternal (fun _ => .unknown)
        (refreshOf (.insert .empty worker) none) = (after, .ok ()) ∧
      after.activeTargets.contains 7 = true ∧ ¬ (after.view 7).statsActive ∧
      replay after.treeEvents 7 = false) ∧
    ∃ after, (run (fun _ => .unknown) [.schedulerEvent ⟨9, "job", 100⟩ true 3]).refreshInternal
        (fun _ => .unknown) (refreshOf .empty none) = (after, .ok ()) ∧
      after.activeTargets.contains 9 = false ∧ (after.view 9).statsActive := by
  refine ⟨⟨_, rfl, by decide, ?_, by decide⟩, ⟨_, rfl, by decide, ?_⟩⟩
  · rintro ⟨stats, hstats, hactive, -⟩
    cases hstats
    cases hactive
  · exact ⟨_, rfl, rfl, rfl⟩

end TaskTracker

end Stutter.Tasks

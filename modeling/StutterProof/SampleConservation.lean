import StutterProof.TaskTracker

/-! # No latency sample is lost but by a reset

Every scheduler event is one sample of an interval and of a session.  An interval tick turns the
interval's samples into a record; a reset drops those that are pending.  As long as a `u64` counts
the events, the samples of the records, the pending ones and the dropped ones are all there were,
and a session's latencies are the merge of its records and of the pending interval. -/
namespace Stutter.Metrics

/-! ## What is merged of latencies -/

/-- The counts a summary reports. -/
structure Summary where
  count : Nat
  maxNs : Nat
  over1ms : Nat
  over2ms : Nat
  over5ms : Nat

namespace Summary

def none : Summary := ⟨0, 0, 0, 0, 0⟩

def merge (a b : Summary) : Summary :=
  ⟨a.count + b.count, max a.maxNs b.maxNs, a.over1ms + b.over1ms, a.over2ms + b.over2ms,
    a.over5ms + b.over5ms⟩

/-- The summary of one sample. -/
def sample (latencyNs : Nat) : Summary :=
  ⟨1, latencyNs, if 1000000 ≤ latencyNs then 1 else 0, if 2000000 ≤ latencyNs then 1 else 0,
    if 5000000 ≤ latencyNs then 1 else 0⟩

theorem merge_assoc (a b c : Summary) : (a.merge b).merge c = a.merge (b.merge c) := by
  simp [merge, Nat.add_assoc, max_assoc]

@[simp] theorem merge_none (a : Summary) : a.merge none = a := by
  simp [merge, none]

def mergeAll (summaries : List Summary) : Summary := summaries.foldl merge none

theorem mergeAll_append_toList (summaries : List Summary) (more : Option Summary) :
    mergeAll (summaries ++ more.toList) = (mergeAll summaries).merge (more.getD none) := by
  cases more with
  | none => simp
  | some summary => simp [mergeAll]

end Summary

def LatencyStats.summary (stats : LatencyStats) : Summary :=
  ⟨stats.count, stats.maxNs, stats.over1ms, stats.over2ms, stats.over5ms⟩

def IntervalRecord.summary (record : IntervalRecord) : Summary :=
  ⟨record.samples, record.maxNs, record.over1ms, record.over2ms, record.over5ms⟩

/-- Counters of at most `bound` samples. -/
structure LatencyStats.Fits (stats : LatencyStats) (bound : Nat) : Prop where
  count : stats.count ≤ bound
  over1ms : stats.over1ms ≤ stats.count
  over2ms : stats.over2ms ≤ stats.count
  over5ms : stats.over5ms ≤ stats.count
  maxNs : stats.count = 0 → stats.maxNs = 0

theorem LatencyStats.fits_new (bound : Nat) : LatencyStats.new.Fits bound :=
  ⟨Nat.zero_le _, Nat.le_refl _, Nat.le_refl _, Nat.le_refl _, fun _ => rfl⟩

variable {stats : LatencyStats}

theorem LatencyStats.Fits.mono {bound bound' : Nat} (h : stats.Fits bound) (hle : bound ≤ bound') :
    stats.Fits bound' :=
  ⟨h.count.trans hle, h.over1ms, h.over2ms, h.over5ms, h.maxNs⟩

/-- A counter of latencies over a threshold. -/
theorem over_record {late count bound : Nat} (hlate : late ≤ count) (hcount : count ≤ bound)
    (hbound : bound + 1 < 2 ^ 64) (exceeds : Prop) [Decidable exceeds] :
    (if exceeds then wrapU64 (late + 1) else late) = late + if exceeds then 1 else 0 := by
  by_cases h : exceeds
  · rw [if_pos h, if_pos h, wrapU64_of_lt (by omega)]
  · rw [if_neg h, if_neg h, Nat.add_zero]

theorem LatencyStats.Fits.summary_record {bound : Nat} (h : stats.Fits bound)
    (hbound : bound + 1 < 2 ^ 64) (latencyNs : Nat) :
    (stats.record latencyNs).summary = stats.summary.merge (.sample latencyNs) := by
  have hcount : wrapU64 (stats.count + 1) = stats.count + 1 := by
    have := h.count
    exact wrapU64_of_lt (by omega)
  have hmax : (if stats.count = 0 then latencyNs else max stats.maxNs latencyNs) =
      max stats.maxNs latencyNs := by
    by_cases hzero : stats.count = 0
    · rw [if_pos hzero, h.maxNs hzero, Nat.zero_max]
    · rw [if_neg hzero]
  simp only [summary, record, Summary.merge, Summary.sample, hcount, hmax,
    over_record h.over1ms h.count hbound, over_record h.over2ms h.count hbound,
    over_record h.over5ms h.count hbound]

theorem LatencyStats.Fits.record {bound : Nat} (h : stats.Fits bound) (hbound : bound + 1 < 2 ^ 64)
    (latencyNs : Nat) : (stats.record latencyNs).Fits (bound + 1) := by
  have hsummary := h.summary_record hbound latencyNs
  have hle : ∀ (late : Nat) (exceeds : Prop) [Decidable exceeds], late ≤ stats.count →
      (late + if exceeds then 1 else 0) ≤ stats.count + 1 := by
    intro late exceeds _ hlate
    split <;> omega
  have hcount : (stats.record latencyNs).count = stats.count + 1 := congrArg Summary.count hsummary
  have := h.count
  refine ⟨by omega, ?_, ?_, ?_, by omega⟩
  · rw [hcount, show (stats.record latencyNs).over1ms = _ from congrArg Summary.over1ms hsummary]
    exact hle _ _ h.over1ms
  · rw [hcount, show (stats.record latencyNs).over2ms = _ from congrArg Summary.over2ms hsummary]
    exact hle _ _ h.over2ms
  · rw [hcount, show (stats.record latencyNs).over5ms = _ from congrArg Summary.over5ms hsummary]
    exact hle _ _ h.over5ms

end Stutter.Metrics

namespace Stutter.Tasks

open Metrics

namespace TaskTracker
variable {classify : Classify} {tracker after : TaskTracker} {input : RefreshInput}

/-! ## The accounts of a tracker -/

/-- The interval's and the session's latencies of a tid. -/
def accounts (tracker : TaskTracker) (tid : Nat) : Option (LatencyStats × LatencyStats) :=
  (tracker.statsByTask.get tid).map fun stats => (stats.intervalLatency, stats.sessionLatency)

/-- The samples of all interval records. -/
def emitted (tracker : TaskTracker) : Nat :=
  (tracker.intervalRecords.map (·.record.samples)).sum

/-- The samples that no interval record has yet. -/
def pendingTotal (tracker : TaskTracker) : Nat :=
  tracker.statsByTask.total (·.intervalLatency.count)

/-- What is pending of a tid. -/
def intervalSummary (tracker : TaskTracker) (tid : Nat) : Summary :=
  ((tracker.accounts tid).map (·.1.summary)).getD .none

def sessionSummary (tracker : TaskTracker) (tid : Nat) : Summary :=
  ((tracker.accounts tid).map (·.2.summary)).getD .none

/-- The interval records that were taken from the present statistics of a tid. -/
def recordsOf (tracker : TaskTracker) (tid : Nat) : List Summary :=
  (tracker.intervalRecords.filter fun record =>
    record.task = tid ∧ record.generation = tracker.resets tid).map (·.record.summary)

/-- **Conservation.**  The samples of the records, the pending ones and those that resets dropped
are the events that were interpreted; and the latencies of a task's session are the merge of its
records and of what is pending. -/
structure Conserved (tracker : TaskTracker) : Prop where
  samples : tracker.emitted + tracker.pendingTotal + tracker.discarded = tracker.interpreted
  merged : ∀ tid, tracker.sessionSummary tid =
    (Summary.mergeAll (tracker.recordsOf tid)).merge (tracker.intervalSummary tid)

/-- Conservation, with what it takes to keep it. -/
structure Accounted (tracker : TaskTracker) : Prop extends tracker.Conserved where
  generations : ∀ record ∈ tracker.intervalRecords,
    record.generation ≤ tracker.resets record.task
  fits : ∀ tid interval session, tracker.accounts tid = some (interval, session) →
    interval.Fits tracker.interpreted ∧ session.Fits tracker.interpreted

theorem Accounted.new : TaskTracker.new.Accounted :=
  ⟨⟨rfl, fun _ => rfl⟩, nofun, nofun⟩

/-- A step that leaves the latencies alone. -/
structure SameAccounts (tracker after : TaskTracker) : Prop where
  accounts : ∀ tid, after.accounts tid = tracker.accounts tid
  intervalRecords : after.intervalRecords = tracker.intervalRecords
  resets : after.resets = tracker.resets
  discarded : after.discarded = tracker.discarded
  interpreted : after.interpreted = tracker.interpreted

theorem pendingTotal_congr (h : ∀ tid, after.accounts tid = tracker.accounts tid) :
    after.pendingTotal = tracker.pendingTotal := by
  refine Table.total_congr_map fun tid => ?_
  have hcounts := congrArg (Option.map fun account => account.1.count) (h tid)
  unfold TaskTracker.accounts at hcounts
  rw [Option.map_map, Option.map_map] at hcounts
  exact hcounts

theorem Accounted.congr (h : tracker.Accounted) (hsame : SameAccounts tracker after) :
    after.Accounted := by
  refine ⟨⟨?_, ?_⟩, ?_, ?_⟩
  · unfold emitted
    rw [hsame.intervalRecords, pendingTotal_congr hsame.accounts, hsame.discarded,
      hsame.interpreted]
    exact h.samples
  · intro tid
    unfold sessionSummary intervalSummary recordsOf
    rw [hsame.accounts, hsame.intervalRecords, hsame.resets]
    exact h.merged tid
  · rw [hsame.intervalRecords, hsame.resets]
    exact h.generations
  · intro tid
    rw [hsame.accounts, hsame.interpreted]
    exact h.fits tid

variable (tid : Nat)

theorem pending_eq : tracker.pending tid = (tracker.intervalSummary tid).count := by
  unfold pending intervalSummary TaskTracker.accounts
  cases tracker.statsByTask.get tid <;> rfl

/-! ## Resets -/

theorem freshStats_latency (classify : Classify) (input : RefreshInput) (task : TaskInfo) :
    (freshStats classify input task).intervalLatency = .new ∧
      (freshStats classify input task).sessionLatency = .new := by
  unfold freshStats TaskStats.recordingStarted
  cases input.recordingStarted with
  | false => exact ⟨rfl, rfl⟩
  | true =>
    simp only [if_true]
    split <;> exact ⟨rfl, rfl⟩

theorem accounts_resetStatsForTaskChange (task : TaskInfo) (tid : Nat) :
    (tracker.resetStatsForTaskChange classify input task).accounts tid =
      if tid = task.tid then some (.new, .new) else tracker.accounts tid := by
  obtain ⟨hinterval, hsession⟩ := freshStats_latency classify input task
  by_cases same : tid = task.tid
  · simp [TaskTracker.accounts, resetStatsForTaskChange, same, hinterval, hsession]
  · simp [TaskTracker.accounts, resetStatsForTaskChange, same]

/-- No record is of the statistics that a reset makes. -/
theorem recordsOf_resetStatsForTaskChange (h : tracker.Accounted) (task : TaskInfo) (tid : Nat) :
    (tracker.resetStatsForTaskChange classify input task).recordsOf tid =
      if tid = task.tid then [] else tracker.recordsOf tid := by
  by_cases same : tid = task.tid
  · subst same
    rw [if_pos rfl]
    unfold recordsOf
    rw [List.map_eq_nil_iff, List.filter_eq_nil_iff]
    intro record hrecord
    have hgeneration := h.generations record hrecord
    simp only [resetStatsForTaskChange, Function.update_self, decide_eq_true_eq, not_and]
    intro htask
    rw [htask] at hgeneration
    omega
  · simp [recordsOf, resetStatsForTaskChange, same]

theorem Accounted.resetStatsForTaskChange (h : tracker.Accounted) (task : TaskInfo) :
    (tracker.resetStatsForTaskChange classify input task).Accounted := by
  have haccounts : ∀ tid,
      (tracker.resetStatsForTaskChange classify input task).accounts tid = _ :=
    accounts_resetStatsForTaskChange task
  refine ⟨⟨?_, ?_⟩, ?_, ?_⟩
  · have hcount : (freshStats classify input task).intervalLatency.count = 0 := by
      rw [(freshStats_latency classify input task).1]
      rfl
    have htotal : (tracker.resetStatsForTaskChange classify input task).pendingTotal +
        tracker.pending task.tid = tracker.pendingTotal + _ :=
      tracker.statsByTask.total_insert (·.intervalLatency.count) task.tid
        (freshStats classify input task)
    rw [hcount] at htotal
    have hsamples := h.samples
    change tracker.emitted + _ + (tracker.discarded + tracker.pending task.tid) =
      tracker.interpreted
    omega
  · intro tid
    unfold sessionSummary intervalSummary
    rw [haccounts, recordsOf_resetStatsForTaskChange h]
    by_cases same : tid = task.tid
    · rw [if_pos same, if_pos same]
      rfl
    · rw [if_neg same, if_neg same]
      exact h.merged tid
  · intro record hrecord
    have hgeneration := h.generations record hrecord
    change record.generation ≤ Function.update tracker.resets task.tid _ record.task
    by_cases same : record.task = task.tid
    · rw [same] at hgeneration
      rw [same, Function.update_self]
      omega
    · rw [Function.update_of_ne same]
      exact hgeneration
  · intro tid interval session hfound
    rw [haccounts] at hfound
    by_cases same : tid = task.tid
    · rw [if_pos same, Option.some.injEq] at hfound
      cases hfound
      exact ⟨LatencyStats.fits_new _, LatencyStats.fits_new _⟩
    · rw [if_neg same] at hfound
      exact h.fits tid interval session hfound

/-! ## Refreshes -/

/-- Statistics that are changed in place but for their latencies. -/
theorem sameAccounts_insert {stats stats' : TaskStats} {tid : Nat}
    (hstats : tracker.statsByTask.get tid = some stats)
    (hlatency : stats'.intervalLatency = stats.intervalLatency ∧
      stats'.sessionLatency = stats.sessionLatency) :
    SameAccounts tracker
      { tracker with statsByTask := tracker.statsByTask.insert tid stats' } := by
  refine ⟨fun other => ?_, rfl, rfl, rfl, rfl⟩
  unfold TaskTracker.accounts
  rw [Table.get_insert]
  by_cases same : other = tid
  · rw [if_pos same, same, hstats, Option.map_some, Option.map_some, hlatency.1, hlatency.2]
  · rw [if_neg same]

theorem accounts_modify {f : TaskStats → TaskStats}
    (hlatency : ∀ stats, (f stats).intervalLatency = stats.intervalLatency ∧
      (f stats).sessionLatency = stats.sessionLatency) (other : Nat) :
    ((tracker.statsByTask.modify tid f).get other).map
        (fun stats => (stats.intervalLatency, stats.sessionLatency)) = tracker.accounts other := by
  unfold TaskTracker.accounts
  rw [Table.get_modify]
  by_cases same : other = tid
  · rw [if_pos same, Option.map_map]
    congr 1
    funext stats
    simp [hlatency stats]
  · rw [if_neg same]

theorem Accounted.reactivateOrResetStats (h : tracker.Accounted) (task : TaskInfo) :
    (tracker.reactivateOrResetStats classify input task).Accounted := by
  unfold TaskTracker.reactivateOrResetStats
  split
  · rename_i stats hstats
    split
    · exact h.congr (sameAccounts_insert hstats ⟨rfl, rfl⟩)
    · exact h.resetStatsForTaskChange task
  · exact h.resetStatsForTaskChange task

theorem Accounted.handleReplacement (h : tracker.Accounted) (desired : TaskInfo) :
    (tracker.handleReplacement classify input desired).Accounted := by
  unfold TaskTracker.handleReplacement
  split
  · split
    · exact h
    · have hpushed : (tracker.pushTreeEvent input .replaced desired).Accounted :=
        h.congr ⟨fun _ => rfl, rfl, rfl, rfl, rfl⟩
      exact (hpushed.resetStatsForTaskChange desired).congr ⟨fun _ => rfl, rfl, rfl, rfl, rfl⟩
  · exact h

theorem Accounted.addTarget (h : tracker.Accounted) (task : TaskInfo) :
    (tracker.addTarget classify input task).1.Accounted := by
  unfold TaskTracker.addTarget
  split
  · exact h
  · have hpushed : Accounted (({ tracker with
        targetPidMap := tracker.targetPidMap.insert task.tid () } : TaskTracker).pushTreeEvent input
          (addedAction task.fromCgroup) task) :=
      h.congr ⟨fun _ => rfl, rfl, rfl, rfl, rfl⟩
    exact (hpushed.reactivateOrResetStats task).congr ⟨fun _ => rfl, rfl, rfl, rfl, rfl⟩

theorem Accounted.removeTarget (h : tracker.Accounted) (task : TaskInfo) :
    (tracker.removeTarget input task).1.Accounted := by
  have hmarked : ∀ other, ((tracker.statsByTask.modify task.tid fun stats =>
      { stats with active := false, removedMs := some input.elapsedMs }).get other).map
        (fun stats => (stats.intervalLatency, stats.sessionLatency)) = tracker.accounts other :=
    accounts_modify task.tid fun _ => ⟨rfl, rfl⟩
  unfold TaskTracker.removeTarget
  split
  · exact h.congr ⟨hmarked, rfl, rfl, rfl, rfl⟩
  · exact h.congr ⟨hmarked, rfl, rfl, rfl, rfl⟩

theorem Accounted.applyDiffs (diffs : List TargetDiff) (h : tracker.Accounted) :
    (TaskTracker.applyDiffs classify input tracker diffs).1.Accounted := by
  induction diffs generalizing tracker with
  | nil => exact h
  | cons diff rest ih =>
    have hnext : (tracker.applyDiff classify input diff).1.Accounted := by
      unfold TaskTracker.applyDiff
      cases diff.action with
      | added => exact h.addTarget diff.task
      | removed => exact h.removeTarget diff.task
    unfold TaskTracker.applyDiffs
    split
    · rename_i hdiff
      rw [hdiff] at hnext
      exact hnext
    · rename_i hdiff
      rw [hdiff] at hnext
      exact ih hnext

theorem Accounted.refreshInternal (h : tracker.Accounted) :
    (tracker.refreshInternal classify input).1.Accounted := by
  unfold TaskTracker.refreshInternal
  split
  · exact h
  · split
    · exact h
    · refine Accounted.applyDiffs _ ?_
      exact List.foldlRecOn _ _ h fun _ h desired _ => h.handleReplacement desired

theorem Accounted.handleExecEvent (h : tracker.Accounted) (tid : Nat) (comm : String) :
    (tracker.handleExecEvent classify tid comm).Accounted := by
  refine h.congr ⟨?_, rfl, rfl, rfl, rfl⟩
  exact accounts_modify tid fun _ => ⟨rfl, rfl⟩

/-! ## Events -/

theorem describeStats_latency (cgroupv2Active : Bool) (event : SchedulerEvent) (stats : TaskStats) :
    (tracker.describeStats cgroupv2Active event stats).intervalLatency = stats.intervalLatency ∧
      (tracker.describeStats cgroupv2Active event stats).sessionLatency = stats.sessionLatency := by
  unfold describeStats
  cases shouldReplaceUnknownComm stats.comm event.comm <;>
    cases (tracker.activeTargets.get event.tid).or (tracker.knownTargets.get event.tid) <;>
      cases cgroupv2Active <;> exact ⟨rfl, rfl⟩

/-- The latencies of a tid, which are none at first. -/
def latencies (tracker : TaskTracker) (tid : Nat) : LatencyStats × LatencyStats :=
  (tracker.accounts tid).getD (.new, .new)

theorem intervalSummary_eq : tracker.intervalSummary tid = (tracker.latencies tid).1.summary := by
  unfold intervalSummary latencies
  cases tracker.accounts tid <;> rfl

theorem sessionSummary_eq : tracker.sessionSummary tid = (tracker.latencies tid).2.summary := by
  unfold sessionSummary latencies
  cases tracker.accounts tid <;> rfl

theorem Accounted.fits_latencies (h : tracker.Accounted) (tid : Nat) :
    (tracker.latencies tid).1.Fits tracker.interpreted ∧
      (tracker.latencies tid).2.Fits tracker.interpreted := by
  unfold latencies
  cases haccounts : tracker.accounts tid with
  | none => exact ⟨LatencyStats.fits_new _, LatencyStats.fits_new _⟩
  | some account => exact h.fits tid account.1 account.2 haccounts

theorem accounts_interpretSchedulerEvent (classify : Classify) (tracker : TaskTracker)
    (event : SchedulerEvent) (cgroupv2Active : Bool) (elapsedMs tid : Nat) :
    (tracker.interpretSchedulerEvent classify event cgroupv2Active elapsedMs).accounts tid =
      if tid = event.tid then
        some ((tracker.latencies tid).1.record event.latencyNs,
          (tracker.latencies tid).2.record event.latencyNs)
      else tracker.accounts tid := by
  by_cases same : tid = event.tid
  · subst same
    rw [if_pos rfl]
    unfold TaskTracker.accounts TaskTracker.interpretSchedulerEvent
    rw [Table.get_insert, if_pos rfl, Option.map_some, Option.some.injEq]
    unfold TaskStats.record latencies TaskTracker.accounts
    simp only [describeStats_latency]
    cases tracker.statsByTask.get event.tid <;> rfl
  · simp [TaskTracker.accounts, TaskTracker.interpretSchedulerEvent, same]

/-- An event changes what is pending of its tid only. -/
theorem pendingTotal_add_pending (classify : Classify) (tracker : TaskTracker)
    (event : SchedulerEvent) (cgroupv2Active : Bool) (elapsedMs : Nat) :
    (tracker.interpretSchedulerEvent classify event cgroupv2Active elapsedMs).pendingTotal +
        tracker.pending event.tid =
      tracker.pendingTotal +
        (tracker.interpretSchedulerEvent classify event cgroupv2Active elapsedMs).pending
          event.tid := by
  have htotal := tracker.statsByTask.total_insert (·.intervalLatency.count) event.tid
    ((tracker.describeStats cgroupv2Active event ((tracker.statsByTask.get event.tid).getD
      (TaskStats.new classify event.tid event.comm elapsedMs))).record event.latencyNs elapsedMs)
  unfold pendingTotal pending TaskTracker.interpretSchedulerEvent
  rw [Table.get_insert, if_pos rfl]
  exact htotal

theorem pending_latencies : tracker.pending tid = (tracker.latencies tid).1.count := by
  rw [pending_eq, intervalSummary_eq]
  rfl

theorem pending_interpretSchedulerEvent (classify : Classify) (tracker : TaskTracker)
    (event : SchedulerEvent) (cgroupv2Active : Bool) (elapsedMs : Nat) :
    (tracker.interpretSchedulerEvent classify event cgroupv2Active elapsedMs).pending event.tid =
      wrapU64 (tracker.pending event.tid + 1) := by
  rw [pending_latencies, pending_latencies]
  have hafter := accounts_interpretSchedulerEvent classify tracker event cgroupv2Active elapsedMs
    event.tid
  rw [if_pos rfl] at hafter
  unfold latencies at hafter ⊢
  rw [hafter]
  rfl

theorem Accounted.interpretSchedulerEvent (h : tracker.Accounted)
    (hbound : tracker.interpreted + 1 < 2 ^ 64) (event : SchedulerEvent) (cgroupv2Active : Bool)
    (elapsedMs : Nat) :
    (tracker.interpretSchedulerEvent classify event cgroupv2Active elapsedMs).Accounted := by
  have haccounts := accounts_interpretSchedulerEvent classify tracker event cgroupv2Active elapsedMs
  have hlatencies : ∀ tid, tid ≠ event.tid →
      (tracker.interpretSchedulerEvent classify event cgroupv2Active elapsedMs).latencies tid =
        tracker.latencies tid := by
    intro tid hother
    unfold latencies
    rw [haccounts, if_neg hother]
  have hrecorded :
      (tracker.interpretSchedulerEvent classify event cgroupv2Active elapsedMs).latencies
        event.tid =
        ((tracker.latencies event.tid).1.record event.latencyNs,
          (tracker.latencies event.tid).2.record event.latencyNs) := by
    unfold latencies
    rw [haccounts, if_pos rfl]
    rfl
  obtain ⟨hinterval, hsession⟩ := h.fits_latencies event.tid
  refine ⟨⟨?_, ?_⟩, h.generations, ?_⟩
  · have hsamples := h.samples
    have htotal := pendingTotal_add_pending classify tracker event cgroupv2Active elapsedMs
    rw [pending_interpretSchedulerEvent, wrapU64_of_lt (by
      rw [pending_latencies]
      have := hinterval.count
      omega)] at htotal
    change tracker.emitted + _ + tracker.discarded = tracker.interpreted + 1
    omega
  · intro tid
    have hmerged := h.merged tid
    rw [sessionSummary_eq, intervalSummary_eq] at hmerged ⊢
    change _ = (Summary.mergeAll (tracker.recordsOf tid)).merge _
    by_cases same : tid = event.tid
    · subst same
      rw [hrecorded, hinterval.summary_record hbound, hsession.summary_record hbound, hmerged,
        Summary.merge_assoc]
    · rw [hlatencies tid same]
      exact hmerged
  · intro tid interval session hfound
    rw [haccounts] at hfound
    by_cases same : tid = event.tid
    · subst same
      rw [if_pos rfl, Option.some.injEq] at hfound
      cases hfound
      exact ⟨hinterval.record hbound _, hsession.record hbound _⟩
    · rw [if_neg same] at hfound
      obtain ⟨hinterval, hsession⟩ := h.fits tid interval session hfound
      exact ⟨hinterval.mono (Nat.le_succ _), hsession.mono (Nat.le_succ _)⟩

/-! ## Interval ticks -/

/-- The interval's latencies after a tick. -/
def collected (interval : LatencyStats) : LatencyStats :=
  match interval.snapshot with
  | some _ => .new
  | none => interval

theorem accounts_collectIntervalSummaries :
    tracker.collectIntervalSummaries.accounts tid =
      (tracker.accounts tid).map fun account => (collected account.1, account.2) := by
  unfold TaskTracker.accounts TaskTracker.collectIntervalSummaries
  rw [Table.get_mapValues, Option.map_map, Option.map_map]
  congr 1
  funext stats
  simp only [Function.comp_apply, collectStats, collected]
  cases stats.intervalLatency.snapshot <;> rfl

/-- Nothing is pending after a tick. -/
theorem summary_collected {interval : LatencyStats} {bound : Nat} (h : interval.Fits bound) :
    (collected interval).summary = .none := by
  unfold collected LatencyStats.snapshot
  by_cases hzero : interval.count = 0
  · have h1 := h.over1ms
    have h2 := h.over2ms
    have h5 := h.over5ms
    rw [if_pos hzero]
    simp only [LatencyStats.summary, Summary.none, Summary.mk.injEq]
    exact ⟨hzero, h.maxNs hzero, by omega, by omega, by omega⟩
  · rw [if_neg hzero]
    rfl

theorem fits_collected {interval : LatencyStats} {bound : Nat} (h : interval.Fits bound) :
    (collected interval).Fits bound := by
  unfold collected
  split
  · exact LatencyStats.fits_new bound
  · exact h

/-- A record has the samples that were pending. -/
theorem samples_intervalRecord (entry : Nat × TaskStats) :
    ((tracker.intervalRecord entry).map fun record => record.record.samples).getD 0 =
      entry.2.intervalLatency.count := by
  unfold intervalRecord LatencyStats.snapshot
  by_cases hzero : entry.2.intervalLatency.count = 0
  · rw [if_pos hzero, hzero]
    rfl
  · rw [if_neg hzero]
    rfl

theorem summary_intervalRecord (entry : Nat × TaskStats) {bound : Nat}
    (h : entry.2.intervalLatency.Fits bound) :
    ((tracker.intervalRecord entry).map fun record => record.record.summary).getD .none =
      entry.2.intervalLatency.summary := by
  unfold intervalRecord
  have hcollected := summary_collected h
  unfold collected LatencyStats.snapshot at hcollected
  unfold LatencyStats.snapshot
  by_cases hzero : entry.2.intervalLatency.count = 0
  · rw [if_pos hzero] at hcollected ⊢
    exact hcollected.symm
  · rw [if_neg hzero]
    rfl

theorem sum_samples (entries : List (Nat × TaskStats)) :
    ((entries.filterMap tracker.intervalRecord).map (·.record.samples)).sum =
      (entries.map fun entry => entry.2.intervalLatency.count).sum := by
  induction entries with
  | nil => rfl
  | cons entry rest ih =>
    have hhead : ((tracker.intervalRecord entry).map _).getD 0 = _ := samples_intervalRecord entry
    rw [List.map_cons, List.sum_cons, ← ih, ← hhead]
    cases hrecord : tracker.intervalRecord entry with
    | none => simp [hrecord]
    | some record => simp [hrecord]

/-- The tick's record of one tid. -/
theorem filter_records (entries : List (Nat × TaskStats)) (hnodup : (entries.map Prod.fst).Nodup) :
    (entries.filterMap tracker.intervalRecord).filter (fun record =>
        record.task = tid ∧ record.generation = tracker.resets tid) =
      ((entries.lookup tid).bind fun stats => tracker.intervalRecord (tid, stats)).toList := by
  induction entries with
  | nil => rfl
  | cons entry rest ih =>
    obtain ⟨hfresh, hrest⟩ := List.nodup_cons.mp hnodup
    have ih := ih hrest
    obtain ⟨key, stats⟩ := entry
    have htask : ∀ record, tracker.intervalRecord (key, stats) = some record →
        record.task = key ∧ record.generation = tracker.resets key := by
      intro record hrecord
      obtain ⟨latency, -, rfl⟩ := Option.map_eq_some_iff.mp hrecord
      exact ⟨rfl, rfl⟩
    by_cases same : tid = key
    · subst same
      have hnone : rest.lookup tid = none := by
        rw [List.lookup_eq_none_iff]
        rintro ⟨key, stats⟩ hmem
        simp only [bne_iff_ne, ne_eq]
        rintro rfl
        exact hfresh (List.mem_map.mpr ⟨_, hmem, rfl⟩)
      rw [hnone] at ih
      cases hrecord : tracker.intervalRecord (tid, stats) with
      | none => simpa [hrecord] using ih
      | some record => simpa [hrecord, htask record hrecord] using ih
    · have differ : (tid == key) = false := by simpa using same
      have hother : ∀ record, tracker.intervalRecord (key, stats) = some record →
          record.task ≠ tid := by
        intro record hrecord htid
        exact same (htid.symm.trans (htask record hrecord).1)
      rw [List.lookup_cons, differ]
      cases hrecord : tracker.intervalRecord (key, stats) with
      | none => simpa [hrecord] using ih
      | some record => simpa [hrecord, hother record hrecord] using ih

theorem recordsOf_collectIntervalSummaries :
    tracker.collectIntervalSummaries.recordsOf tid =
      tracker.recordsOf tid ++ (((tracker.statsByTask.get tid).bind fun stats =>
        tracker.intervalRecord (tid, stats)).map (·.record.summary)).toList := by
  have hperm := List.perm_insertionSort
    (fun a b : Nat × TaskStats => a.1 ≤ b.1) tracker.statsByTask.entries
  have hnodup := (hperm.map Prod.fst).nodup_iff.mpr tracker.statsByTask.nodup
  unfold recordsOf
  change ((tracker.intervalRecords ++ _).filter _).map _ = _
  rw [List.filter_append, List.map_append]
  congr 1
  change ((List.filterMap tracker.intervalRecord _).filter fun record =>
    record.task = tid ∧ record.generation = tracker.resets tid).map _ = _
  rw [filter_records tid _ hnodup, tracker.statsByTask.lookup_perm hperm, Option.toList_map]

theorem Accounted.collectIntervalSummaries (h : tracker.Accounted) :
    tracker.collectIntervalSummaries.Accounted := by
  have haccounts : ∀ tid, tracker.collectIntervalSummaries.accounts tid = _ :=
    accounts_collectIntervalSummaries
  refine ⟨⟨?_, ?_⟩, ?_, ?_⟩
  · have hperm := List.perm_insertionSort
      (fun a b : Nat × TaskStats => a.1 ≤ b.1) tracker.statsByTask.entries
    have hemitted : tracker.collectIntervalSummaries.emitted =
        tracker.emitted + tracker.pendingTotal := by
      unfold emitted
      change ((tracker.intervalRecords ++ _).map _).sum = _
      rw [List.map_append, List.sum_append, ((hperm.filterMap _).map _).sum_nat, sum_samples]
      rfl
    have hpending : tracker.collectIntervalSummaries.pendingTotal = 0 := by
      unfold pendingTotal
      change (tracker.statsByTask.mapValues collectStats).total _ = 0
      rw [Table.total_mapValues]
      have hzero : ((fun stats : TaskStats => stats.intervalLatency.count) ∘ collectStats) =
          fun _ => 0 := by
        funext stats
        simp only [Function.comp_apply, collectStats, LatencyStats.snapshot]
        by_cases hcount : stats.intervalLatency.count = 0
        · simp [hcount]
        · simp [hcount, LatencyStats.new]
      rw [hzero]
      simp [Table.total]
    rw [hemitted, hpending]
    exact h.samples
  · intro tid
    have hmerged := h.merged tid
    rw [recordsOf_collectIntervalSummaries, Summary.mergeAll_append_toList]
    unfold sessionSummary intervalSummary at hmerged ⊢
    rw [haccounts]
    unfold TaskTracker.accounts at hmerged ⊢
    cases hget : tracker.statsByTask.get tid with
    | none => simpa [hget] using hmerged
    | some stats =>
      have hfits := (h.fits tid stats.intervalLatency stats.sessionLatency (by
        unfold TaskTracker.accounts
        rw [hget]
        rfl)).1
      have hrecord : ((tracker.intervalRecord (tid, stats)).map _).getD Summary.none = _ :=
        summary_intervalRecord (tid, stats) hfits
      simp only [hget, Option.map_some, Option.getD_some, Option.bind_some] at hmerged ⊢
      rw [hrecord, summary_collected hfits, Summary.merge_none]
      exact hmerged
  · intro record hrecord
    rcases List.mem_append.mp hrecord with hold | hnew
    · exact h.generations record hold
    · obtain ⟨entry, -, hentry⟩ := List.mem_filterMap.mp hnew
      obtain ⟨latency, -, rfl⟩ := Option.map_eq_some_iff.mp hentry
      exact Nat.le_refl _
  · intro tid interval session hfound
    rw [haccounts] at hfound
    obtain ⟨⟨before, session'⟩, hbefore, hpair⟩ := Option.map_eq_some_iff.mp hfound
    cases hpair
    obtain ⟨hinterval, hsession⟩ := h.fits tid before session' hbefore
    exact ⟨fits_collected hinterval, hsession⟩

/-! ## Runs -/

theorem interpreted_reactivateOrResetStats (task : TaskInfo) :
    (tracker.reactivateOrResetStats classify input task).interpreted = tracker.interpreted := by
  unfold reactivateOrResetStats
  split
  · split <;> rfl
  · rfl

theorem interpreted_handleReplacement (desired : TaskInfo) :
    (tracker.handleReplacement classify input desired).interpreted = tracker.interpreted := by
  unfold handleReplacement
  split
  · split <;> rfl
  · rfl

theorem interpreted_applyDiff (diff : TargetDiff) :
    (tracker.applyDiff classify input diff).1.interpreted = tracker.interpreted := by
  unfold applyDiff
  cases diff.action with
  | added =>
    unfold addTarget
    cases input.insertError diff.task.tid with
    | some error => rfl
    | none => exact interpreted_reactivateOrResetStats diff.task
  | removed =>
    unfold removeTarget
    cases input.removeError diff.task.tid <;> rfl

theorem interpreted_applyDiffs (diffs : List TargetDiff) :
    (applyDiffs classify input tracker diffs).1.interpreted = tracker.interpreted := by
  induction diffs generalizing tracker with
  | nil => rfl
  | cons diff rest ih =>
    have hnext : (tracker.applyDiff classify input diff).1.interpreted = tracker.interpreted :=
      interpreted_applyDiff diff
    unfold applyDiffs
    split
    · rename_i hdiff
      rw [hdiff] at hnext
      exact hnext
    · rename_i hdiff
      rw [hdiff] at hnext
      exact ih.trans hnext

/-- A refresh interprets nothing. -/
theorem interpreted_refreshInternal :
    (tracker.refreshInternal classify input).1.interpreted = tracker.interpreted := by
  unfold refreshInternal
  split
  · rfl
  · split
    · rfl
    · rw [interpreted_applyDiffs]
      refine List.foldlRecOn (motive := fun next : TaskTracker =>
        next.interpreted = tracker.interpreted) _ _ rfl ?_
      exact fun next hnext desired _ => (interpreted_handleReplacement desired).trans hnext

theorem interpreted_step (s : Step) :
    tracker.interpreted ≤ (tracker.step classify s).interpreted := by
  cases s with
  | refresh input => exact interpreted_refreshInternal.ge
  | schedulerEvent event cgroupv2Active elapsedMs => exact Nat.le_succ _
  | execEvent tid comm => exact Nat.le_refl _
  | faults counters => exact Nat.le_refl _
  | collect => exact Nat.le_refl _

theorem Accounted.step (h : tracker.Accounted) (s : Step)
    (hbound : (tracker.step classify s).interpreted < 2 ^ 64) :
    (tracker.step classify s).Accounted := by
  cases s with
  | refresh input => exact h.refreshInternal
  | schedulerEvent event cgroupv2Active elapsedMs =>
    exact h.interpretSchedulerEvent hbound event cgroupv2Active elapsedMs
  | execEvent tid comm => exact h.handleExecEvent tid comm
  | faults counters => exact h.congr ⟨fun _ => rfl, rfl, rfl, rfl, rfl⟩
  | collect => exact h.collectIntervalSummaries

theorem accounted_run (classify : Classify) (steps : List Step) :
    (run classify steps).interpreted < 2 ^ 64 → (run classify steps).Accounted := by
  refine List.foldlRecOn (motive := fun tracker : TaskTracker =>
    tracker.interpreted < 2 ^ 64 → tracker.Accounted) _ _ (fun _ => Accounted.new) ?_
  intro tracker h s _ hbound
  exact (h (lt_of_le_of_lt (interpreted_step s) hbound)).step s hbound

/-- **The samples of a run.**  In every run of fewer than 2^64 scheduler events they are
conserved. -/
theorem conserved_of_run (classify : Classify) (steps : List Step)
    (hbound : (run classify steps).interpreted < 2 ^ 64) : (run classify steps).Conserved :=
  (accounted_run classify steps hbound).toConserved

/-- A target of tid 7 whose process has started so many ticks after boot. -/
def workerSince (starttimeTicks : Nat) : TaskInfo :=
  ⟨7, 100, 1, "worker", "game", some starttimeTicks, some starttimeTicks, none, none, .game, none,
    false⟩

/-- A refresh that finds this target only. -/
def refreshWith (target : TaskInfo) (elapsedMs : Nat) : Step :=
  .refresh ⟨.insert .empty target, 64, elapsedMs, false, fun _ => none, fun _ => none,
    fun _ => true⟩

/-- A target is found; an event, a tick, and another event. -/
def tickBetween : List Step :=
  [refreshWith (workerSince 10) 0, .schedulerEvent ⟨7, "worker", 3000000⟩ false 1, .collect,
    .schedulerEvent ⟨7, "worker", 1000⟩ false 2]

theorem tickBetween_conserved : (run (fun _ => .unknown) tickBetween).Conserved :=
  conserved_of_run (fun _ => .unknown) tickBetween (by decide)

/-! ## Where samples get lost -/

/-- A target has a sample pending when another task has taken its tid. -/
def eventThenReplaced : List Step :=
  [refreshWith (workerSince 10) 0, .schedulerEvent ⟨7, "worker", 100⟩ false 1,
    refreshWith (workerSince 90) 2]

/-- A target, and the same event of it again and again. -/
def repeated (n : Nat) : List Step :=
  refreshWith (workerSince 10) 0 :: List.replicate n (.schedulerEvent ⟨7, "worker", 100⟩ false 1)

/-- The one counter of a repeated event wraps. -/
theorem run_repeated (classify : Classify) (n : Nat) :
    (run classify (repeated n)).emitted = 0 ∧ (run classify (repeated n)).discarded = 0 ∧
      (run classify (repeated n)).interpreted = n ∧
      (run classify (repeated n)).pending 7 = n % 2 ^ 64 ∧
      (run classify (repeated n)).pendingTotal = n % 2 ^ 64 := by
  induction n with
  | zero => exact ⟨rfl, rfl, rfl, rfl, rfl⟩
  | succ n ih =>
    obtain ⟨hemitted, hdiscarded, hinterpreted, hpending, htotal⟩ := ih
    have hrun : run classify (repeated (n + 1)) =
        (run classify (repeated n)).interpretSchedulerEvent classify
          ⟨7, "worker", 100⟩ false 1 := by
      unfold run repeated
      rw [List.replicate_succ', ← List.cons_append, List.foldl_append]
      rfl
    rw [hrun]
    have htotal' := pendingTotal_add_pending classify (run classify (repeated n))
      ⟨7, "worker", 100⟩ false 1
    have hpending' := pending_interpretSchedulerEvent classify (run classify (repeated n))
      ⟨7, "worker", 100⟩ false 1
    simp only at htotal' hpending'
    have hwrap : wrapU64 (n % 2 ^ 64 + 1) = (n + 1) % 2 ^ 64 := Nat.mod_add_mod n (2 ^ 64) 1
    rw [hpending, hwrap] at hpending'
    refine ⟨hemitted, hdiscarded, ?_, hpending', ?_⟩
    · change (run classify (repeated n)).interpreted + 1 = n + 1
      rw [hinterpreted]
    · omega

/-- A reset drops the sample that was pending, and 2^64 events are none. -/
theorem samples_not_conserved :
    (∃ steps, (run (fun _ => .unknown) steps).interpreted < 2 ^ 64 ∧
      (run (fun _ => .unknown) steps).emitted + (run (fun _ => .unknown) steps).pendingTotal ≠
        (run (fun _ => .unknown) steps).interpreted) ∧
    ∃ steps, (run (fun _ => .unknown) steps).emitted +
        (run (fun _ => .unknown) steps).pendingTotal +
        (run (fun _ => .unknown) steps).discarded ≠
          (run (fun _ => .unknown) steps).interpreted := by
  refine ⟨⟨eventThenReplaced, by decide, by decide⟩, repeated (2 ^ 64), ?_⟩
  obtain ⟨hemitted, hdiscarded, hinterpreted, -, htotal⟩ :=
    run_repeated (fun _ => .unknown) (2 ^ 64)
  rw [hemitted, htotal, hdiscarded, hinterpreted, Nat.mod_self]
  decide

end TaskTracker

end Stutter.Tasks

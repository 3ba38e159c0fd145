import StutterProof.RegressionCheck

/-! # When the regression check fails

The merged tasks of a session are told by what one more task does to them
(`forall_foldl_aggregateTask`).  A task that exceeds a threshold is among the regressions or the new
scored tasks, and one that is among them exceeds it (`exists_violation_iff`). -/
namespace Stutter.Report.Diff
open ActiveConfig (TaskClass)

/-! ## The merged tasks -/

section Aggregates

/-- What holds of every entry: each task keeps it, of the entry of its identity. -/
theorem forall_foldl_aggregateTask {P : TaskIdentitySummary → AggregatedTaskSummary → Prop}
    {tasks : List SessionTask}
    (hstep : ∀ task ∈ tasks, ∀ entry, entry = emptyAggregate task ∨ P task.identity entry →
      P task.identity (addLatency entry task.latency))
    (table : Table TaskIdentitySummary AggregatedTaskSummary)
    (htable : ∀ identity entry, table.get identity = some entry → P identity entry) :
    ∀ identity entry, (tasks.foldl aggregateTask table).get identity = some entry →
      P identity entry := by
  induction tasks generalizing table with
  | nil => exact htable
  | cons task rest ih =>
    rw [List.foldl_cons]
    refine ih (fun other hmem => hstep other (List.mem_cons_of_mem _ hmem)) _ ?_
    intro identity entry hget
    rw [aggregateTask, Table.get_insert] at hget
    by_cases hsame : identity = task.identity
    · rw [if_pos hsame] at hget
      obtain rfl := Option.some.inj hget
      rw [hsame]
      apply hstep task List.mem_cons_self
      rcases hold : table.get task.identity with _ | old
      · exact Or.inl rfl
      · exact Or.inr (htable _ _ hold)
    · rw [if_neg hsame] at hget
      exact htable _ _ hget

theorem identity_of_aggregateTasks (session : SessionFile) (filterClass : Option TaskClass) :
    ∀ identity entry, (aggregateTasks session filterClass).get identity = some entry →
      entry.identity = identity := by
  apply forall_foldl_aggregateTask
  · intro task _ entry hentry
    rcases hentry with rfl | hentry
    · rfl
    · exact hentry
  · intro identity entry hget
    contradiction

/-- The recorded latencies are below `2^63`. -/
def SessionFile.Small (session : SessionFile) : Prop :=
  ∀ task ∈ session.tasks, task.latency.p99Ns.toNat < 2 ^ 63 ∧ task.latency.maxNs.toNat < 2 ^ 63

theorem max_toNat_lt {a b : UInt64} {bound : Nat} (ha : a.toNat < bound) (hb : b.toNat < bound) :
    (max a b).toNat < bound := by
  show (if a ≤ b then b else a).toNat < bound
  split
  · exact hb
  · exact ha

theorem small_of_aggregateTasks {session : SessionFile} (hsmall : session.Small)
    (filterClass : Option TaskClass) (metric : RegressionMetric) :
    ∀ identity entry, (aggregateTasks session filterClass).get identity = some entry →
      (metric.value entry).toNat < 2 ^ 63 := by
  refine forall_foldl_aggregateTask ?_ _ ?_
  · intro task hmem entry hentry
    have hlatency := hsmall task (List.mem_of_mem_filter hmem)
    have hold : (metric.value entry).toNat < 2 ^ 63 := by
      rcases hentry with rfl | hentry
      · have hzero : metric.value (emptyAggregate task) = 0 := by
          rcases metric <;> rfl
        rw [hzero]
        decide
      · exact hentry
    rcases metric with _ | _
    · exact max_toNat_lt hold hlatency.1
    · exact max_toNat_lt hold hlatency.2
  · intro identity entry hget
    contradiction

end Aggregates

/-! ## The difference of the merged tasks -/

section Views
variable (baseline current : SessionFile) (filterClass : Option TaskClass)

theorem recordOf_reportTasks (session : SessionFile) (identity : TaskIdentitySummary) :
    recordOf (reportTasks (aggregateTasks session filterClass)) identity =
      ((aggregateTasks session filterClass).get identity).map reportTaskFromAggregate := by
  apply recordOf_of_tasksOf
  rw [tasksOf, reportTasks, ← List.filterMap_eq_map,
    Table.filter_filterMap_inOrder _ _ ReportDiffTask.identity]
  · rcases (aggregateTasks session filterClass).get identity with _ | entry <;> rfl
  · intro key entry made hget hmade
    obtain rfl := Option.some.inj hmade
    exact identity_of_aggregateTasks session filterClass key entry hget

/-- The two runs as the difference is given them. -/
def diffInput : ReportRunDiffInput TaskIdentitySummary :=
  ⟨{}, {}, reportTasks (aggregateTasks baseline filterClass),
    reportTasks (aggregateTasks current filterClass)⟩

/-- A regression comes from the merged tasks of its identity. -/
theorem mem_regressions_iff (delta : ReportTaskDelta TaskIdentitySummary) :
    delta ∈ (diffReportRuns (diffInput baseline current filterClass)).regressions ↔
      ∃ before after, (aggregateTasks baseline filterClass).get delta.identity = some before ∧
        (aggregateTasks current filterClass).get delta.identity = some after ∧
        taskDelta delta.identity (reportTaskFromAggregate before)
          (reportTaskFromAggregate after) = delta ∧
        delta.grew = true := by
  rw [mem_regressions, sharedDelta, diffInput]
  simp only [recordOf_reportTasks, Option.bind_map, Option.map_map, Option.bind_eq_some_iff,
    Option.map_eq_some_iff, Function.comp_apply]
  constructor
  · rintro ⟨⟨before, hbefore, after, hafter, hdelta⟩, hgrew⟩
    exact ⟨before, after, hbefore, hafter, hdelta, hgrew⟩
  · rintro ⟨before, after, hbefore, hafter, hdelta, hgrew⟩
    exact ⟨⟨before, hbefore, after, hafter, hdelta⟩, hgrew⟩

theorem mem_newScoredTasks_iff (task : ReportDiffTask TaskIdentitySummary) :
    task ∈ (diffReportRuns (diffInput baseline current filterClass)).newScoredTasks ↔
      ∃ after, (aggregateTasks baseline filterClass).get task.identity = none ∧
        (aggregateTasks current filterClass).get task.identity = some after ∧
        reportTaskFromAggregate after = task ∧ task.scored = true := by
  rw [mem_newScoredTasks, loneRecord, diffInput]
  simp only [recordOf_reportTasks, Option.filter_eq_some_iff, Option.map_eq_some_iff,
    Option.isNone_map, Option.isNone_iff_eq_none]
  constructor
  · rintro ⟨⟨⟨after, hafter, htask⟩, hnone⟩, hscored⟩
    exact ⟨after, hnone, hafter, htask, hscored⟩
  · rintro ⟨after, hnone, hafter, htask, hscored⟩
    exact ⟨⟨⟨after, hafter, htask⟩, hnone⟩, hscored⟩

end Views

/-! ## The verdict -/

section Verdict
variable {baseline current : SessionFile} {filterClass : Option TaskClass}
    {metric : RegressionMetric}
  {thresholdNs : Int64}

/-- A task of both runs that grew by more than the threshold, or a scored task of the current run
alone that is above it. -/
def Exceeds (metric : RegressionMetric)
    (baseline current : Table TaskIdentitySummary AggregatedTaskSummary) (thresholdNs : Int64) :
    Prop :=
  (∃ identity before after, baseline.get identity = some before ∧
    current.get identity = some after ∧
    thresholdNs.toInt < ((metric.value after).toNat : ℤ) - (metric.value before).toNat) ∨
  ∃ identity after, baseline.get identity = none ∧ current.get identity = some after ∧
    after.scored = true ∧ thresholdNs.toInt < (metric.value after).toNat

theorem metric_delta_taskDelta (metric : RegressionMetric) (identity : TaskIdentitySummary)
    (before after : AggregatedTaskSummary) :
    metric.delta (taskDeltaFromReport (taskDelta identity (reportTaskFromAggregate before)
      (reportTaskFromAggregate after))) = delta (metric.value before) (metric.value after) := by
  rcases metric with _ | _ <;> rfl

/-- A delta above zero makes a regression. -/
theorem grew_of_metric_delta {delta : ReportTaskDelta TaskIdentitySummary}
    (h : 0 < (metric.delta (taskDeltaFromReport delta)).toInt) : delta.grew = true := by
  rw [grew_iff]
  rcases metric with _ | _
  · exact ⟨delta.deltaP99Ns, by simp [ReportTaskDelta.measures], h⟩
  · exact ⟨delta.deltaMaxNs, by simp [ReportTaskDelta.measures], h⟩

theorem mem_metricViolations {diff : RunDiffSummary} {violation : RegressionViolation} :
    violation ∈ metricViolations diff metric thresholdNs ↔
      (∃ delta ∈ diff.regressions, thresholdNs.toInt < (metric.delta delta).toInt ∧
        violationFromDelta metric delta (metric.delta delta) thresholdNs = violation) ∨
      ∃ task ∈ diff.newScoredTasks, thresholdNs.toInt < (metric.value task).toInt64.toInt ∧
        violationFromNewTask metric task thresholdNs = violation := by
  simp only [metricViolations, List.mem_append, List.mem_map, List.mem_filter, decide_eq_true_eq,
    gt_iff_lt, Int64.lt_iff_toInt_lt, and_assoc]

/-- A threshold that is not negative is violated where a task exceeds it. -/
theorem exists_violation_iff (hbaseline : baseline.Small) (hcurrent : current.Small)
    (hthreshold : 0 ≤ thresholdNs.toInt) :
    (∃ violation, violation ∈
      metricViolations (runDiffSummaryFromSessions baseline current filterClass) metric
        thresholdNs) ↔
    Exceeds metric (aggregateTasks baseline filterClass)
      (aggregateTasks current filterClass) thresholdNs := by
  have hbefore := small_of_aggregateTasks hbaseline filterClass metric
  have hafter := small_of_aggregateTasks hcurrent filterClass metric
  constructor
  · rintro ⟨violation, hmem⟩
    rcases mem_metricViolations.mp hmem with ⟨_, hdelta, habove, -⟩ | ⟨_, htask, habove, -⟩
    · obtain ⟨delta, hlisted, rfl⟩ := List.mem_map.mp hdelta
      obtain ⟨before, after, hget, hget', heq, -⟩ :=
        (mem_regressions_iff baseline current filterClass delta).mp hlisted
      rw [← heq, metric_delta_taskDelta,
        toInt_delta (hbefore _ _ hget) (hafter _ _ hget')] at habove
      exact Or.inl ⟨delta.identity, before, after, hget, hget', habove⟩
    · obtain ⟨task, hlisted, rfl⟩ := List.mem_map.mp htask
      obtain ⟨after, hget, hget', rfl, hscored⟩ :=
        (mem_newScoredTasks_iff baseline current filterClass task).mp hlisted
      have hvalue : metric.value (aggregateFromReportTask (reportTaskFromAggregate after)) =
          metric.value after := rfl
      rw [hvalue, toInt_toInt64 (hafter _ _ hget')] at habove
      exact Or.inr ⟨after.identity, after, hget, hget', hscored, habove⟩
  · rintro (⟨identity, before, after, hget, hget', habove⟩ | ⟨identity, after, hget, hget', hscored,
      habove⟩)
    · rw [← toInt_delta (hbefore _ _ hget) (hafter _ _ hget'),
        ← metric_delta_taskDelta metric identity] at habove
      refine ⟨_, mem_metricViolations.mpr (Or.inl ⟨_, List.mem_map_of_mem ?_, habove, rfl⟩)⟩
      exact (mem_regressions_iff baseline current filterClass _).mpr
        ⟨before, after, hget, hget', rfl, grew_of_metric_delta (hthreshold.trans_lt habove)⟩
    · rw [← toInt_toInt64 (hafter _ _ hget')] at habove
      obtain rfl := identity_of_aggregateTasks current filterClass _ _ hget'
      refine ⟨_, mem_metricViolations.mpr (Or.inr
        ⟨aggregateFromReportTask (reportTaskFromAggregate after), List.mem_map_of_mem ?_, habove,
          rfl⟩)⟩
      exact (mem_newScoredTasks_iff baseline current filterClass
        (reportTaskFromAggregate after)).mpr
        ⟨after, hget, hget', rfl, hscored⟩

theorem mem_violations {diff : RunDiffSummary} {thresholds : Thresholds}
    {violation : RegressionViolation} :
    violation ∈ violations diff thresholds ↔
      ∃ metric thresholdNs, thresholds.of metric = some thresholdNs ∧
        violation ∈ metricViolations diff metric thresholdNs := by
  rw [violations, (List.perm_insertionSort _ _).mem_iff, List.mem_append]
  simp only [List.mem_flatMap, Option.mem_toList]
  constructor
  · rintro (⟨thresholdNs, hof, hmem⟩ | ⟨thresholdNs, hof, hmem⟩)
    · exact ⟨.p99, thresholdNs, hof, hmem⟩
    · exact ⟨.max, thresholdNs, hof, hmem⟩
  · rintro ⟨metric, thresholdNs, hof, hmem⟩
    rcases metric with _ | _
    · exact Or.inl ⟨thresholdNs, hof, hmem⟩
    · exact Or.inr ⟨thresholdNs, hof, hmem⟩

/-- On sessions that load the check fails where there is a violation, and names the first. -/
theorem checkRegression_eq (baseline current : SessionFile) (thresholds : Thresholds) (top : Nat)
    (filterClass : Option TaskClass) :
    checkRegression (.ok baseline) (.ok current) thresholds top filterClass =
      match (violations (runDiffSummaryFromSessions baseline current filterClass)
        thresholds).head? with
      | some first => .error (.regressionCheckFailed (some first))
      | none => .ok () := by
  show (if !(violations _ _).isEmpty then Except.error _ else Except.ok ()) = _
  rcases hlist : violations (runDiffSummaryFromSessions baseline current filterClass)
    thresholds with
    _ | ⟨first, rest⟩
  · rfl
  · simp [regressionCheckSummary, hlist]

/-- The check fails where a task exceeds a threshold that is given. -/
theorem checkRegression_fails_iff (hbaseline : baseline.Small) (hcurrent : current.Small)
    {thresholds : Thresholds}
    (hthresholds : ∀ metric thresholdNs, thresholds.of metric = some thresholdNs →
      0 ≤ thresholdNs.toInt)
    (top : Nat) :
    (∃ first, checkRegression (.ok baseline) (.ok current) thresholds top filterClass =
      .error (.regressionCheckFailed (some first))) ↔
    ∃ metric thresholdNs, thresholds.of metric = some thresholdNs ∧
      Exceeds metric (aggregateTasks baseline filterClass)
        (aggregateTasks current filterClass) thresholdNs := by
  rw [checkRegression_eq]
  have hviolation : (∃ violation, violation ∈
      violations (runDiffSummaryFromSessions baseline current filterClass) thresholds) ↔
      ∃ metric thresholdNs, thresholds.of metric = some thresholdNs ∧
        Exceeds metric (aggregateTasks baseline filterClass)
          (aggregateTasks current filterClass) thresholdNs := by
    constructor
    · rintro ⟨violation, hmem⟩
      obtain ⟨metric, thresholdNs, hof, hmem⟩ := mem_violations.mp hmem
      exact ⟨metric, thresholdNs, hof,
        (exists_violation_iff hbaseline hcurrent (hthresholds _ _ hof)).mp ⟨violation, hmem⟩⟩
    · rintro ⟨metric, thresholdNs, hof, hexceeds⟩
      obtain ⟨violation, hmem⟩ :=
        (exists_violation_iff hbaseline hcurrent (hthresholds _ _ hof)).mpr hexceeds
      exact ⟨violation, mem_violations.mpr ⟨metric, thresholdNs, hof, hmem⟩⟩
  rw [← hviolation]
  rcases violations (runDiffSummaryFromSessions baseline current filterClass) thresholds with
    _ | ⟨first, rest⟩
  · simp
  · simp

end Verdict

/-- Tasks are listed by their exact differences, swapping the runs exchanges the lists except where
a task both grew and shrank, and the check fails where a task exceeds a threshold. -/
theorem runDiff_sound :
    (∀ (I : Type) [LinearOrder I] (input : ReportRunDiffInput I),
      Placed input ∧ Antisymmetric input) ∧
    ∀ (baseline current : SessionFile) (thresholds : Thresholds) (top : Nat)
      (filterClass : Option TaskClass),
      baseline.Small → current.Small →
      (∀ metric thresholdNs, thresholds.of metric = some thresholdNs → 0 ≤ thresholdNs.toInt) →
      ((∃ first, checkRegression (.ok baseline) (.ok current) thresholds top filterClass =
        .error (.regressionCheckFailed (some first))) ↔
      ∃ metric thresholdNs, thresholds.of metric = some thresholdNs ∧
        Exceeds metric (aggregateTasks baseline filterClass) (aggregateTasks current filterClass)
          thresholdNs) := by
  refine ⟨fun I _ input => ⟨placed input, antisymmetric input⟩, ?_⟩
  intro baseline current thresholds top filterClass hbaseline hcurrent hthresholds
  exact checkRegression_fails_iff hbaseline hcurrent hthresholds top

/-- One task whose worst latency fell while its usual one rose, one that went and one that came. -/
def mixedRuns : ReportRunDiffInput String :=
  ⟨{}, {}, [⟨"render", 10, 5, 10, 40, 0, 0, 0, true⟩, ⟨"audio", 10, 5, 10, 40, 0, 0, 0, true⟩],
    [⟨"shader", 10, 5, 10, 40, 0, 0, 0, true⟩, ⟨"render", 10, 5, 20, 30, 0, 0, 0, true⟩]⟩

/-- Two threads of one identity, and a third that the later run does not have. -/
def quietSession : SessionFile :=
  ⟨[⟨.game, "game", "render", ⟨10, 100, 200, 0, 0, 0⟩⟩,
    ⟨.game, "game", "audio", ⟨10, 50, 90, 0, 0, 0⟩⟩,
    ⟨.game, "game", "render", ⟨20, 80, 300, 0, 0, 0⟩⟩]⟩

/-- The second thread of the identity is slow, and a scored task is new. -/
def noisySession : SessionFile :=
  ⟨[⟨.game, "game", "render", ⟨10, 90, 200, 0, 0, 0⟩⟩,
    ⟨.game, "game", "shader", ⟨10, 700, 900, 0, 0, 0⟩⟩,
    ⟨.game, "game", "render", ⟨20, 5000, 400, 0, 0, 0⟩⟩]⟩

/-- A task of both ways, and a run whose usual latency rose by more than a microsecond. -/
theorem runDiff_sound_mixed :
    deltasOf "render" (diffReportRuns mixedRuns.swap).regressions =
      (deltasOf "render" (diffReportRuns mixedRuns).regressions).map ReportTaskDelta.swap ∧
    ∃ first, checkRegression (.ok quietSession) (.ok noisySession) ⟨some 1000, none⟩ 10 none =
      .error (.regressionCheckFailed (some first)) := by
  refine ⟨((runDiff_sound.1 String mixedRuns).2.mixed "render" ⟨"render", 10, 5, 10, 40, 0, 0, 0,
    true⟩
    ⟨"render", 10, 5, 20, 30, 0, 0, 0, true⟩ (by decide +kernel) (by decide +kernel)
    (by simp [ReportDiffTask.Small, ReportDiffTask.measures])
    (by simp [ReportDiffTask.Small, ReportDiffTask.measures]) (by decide +kernel)
      (by decide +kernel)).1, ?_⟩
  refine (runDiff_sound.2 quietSession noisySession ⟨some 1000, none⟩ 10 none
    (by simp [SessionFile.Small, quietSession])
      (by simp [SessionFile.Small, noisySession]) ?_).mpr ?_
  · rintro (_ | _) thresholdNs hof
    · obtain rfl := Option.some.inj hof
      decide
    · contradiction
  · refine ⟨.p99, 1000, rfl, Or.inl ⟨⟨.game, "game", "render"⟩,
      ⟨⟨.game, "game", "render"⟩, 30, 100, 300, 0, 0, 0, true⟩,
      ⟨⟨.game, "game", "render"⟩, 30, 5000, 400, 0, 0, 0, true⟩, ?_, ?_, ?_⟩⟩ <;> decide +kernel

/-- A maximum that is no `i64`. -/
def wrappedRuns : ReportRunDiffInput String :=
  ⟨{}, {}, [⟨"render", 10, 0, 0, 0, 0, 0, 0, true⟩],
    [⟨"render", 10, 0, 0, 9223372036854775808, 0, 0, 0, true⟩]⟩

/-- Scores further apart than an `i64` reaches. -/
def distantScores : ReportRunDiffInput String :=
  ⟨{ score := some Int64.minValue }, { score := some 0 }, [], []⟩

theorem diff_not_antisymmetric :
    ((diffReportRuns mixedRuns).regressions ≠ [] ∧ (diffReportRuns mixedRuns).improvements = [] ∧
      (diffReportRuns mixedRuns.swap).regressions =
        (diffReportRuns mixedRuns).regressions.map ReportTaskDelta.swap ∧
      (diffReportRuns mixedRuns.swap).improvements = []) ∧
    ((∃ baseline ∈ wrappedRuns.baselineTasks, ∃ current ∈ wrappedRuns.currentTasks,
        Grew baseline current ∧ ¬Shrank baseline current) ∧
      (diffReportRuns wrappedRuns).regressions = [] ∧
        (diffReportRuns wrappedRuns).improvements ≠ []) ∧
    (diffReportRuns distantScores.swap).scoreDelta ≠
      (diffReportRuns distantScores).scoreDelta.map ReportNumericDelta.swap := by
  decide +kernel

end Stutter.Report.Diff

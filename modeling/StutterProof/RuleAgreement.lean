import StutterProof.ProfilePending

/-! # The rule of a task, evaluated and applied

The evaluation of a profile sees snapshots of the tasks, the plan that is applied sees the tasks of
the process table.  A snapshot does not hold the name of the process; the evaluation puts the name
of the thread in its place.  So a rule that matches a thread by the name of its process only is
passed over by the evaluation, and a later rule, or none, is taken for it. -/
namespace Stutter.Profiles

open ActiveConfig (CpuMask TaskClass CompiledPattern)

/-- A task as the evaluation sees it. -/
structure ActiveTaskSnapshot where
  tid : Nat
  processPid : Nat
  comm : String
  taskClass : TaskClass
  processStarttimeTicks : Option Nat
  taskStarttimeTicks : Option Nat
  cgroupPath : Option String

/-- What the evaluation asks for. -/
structure ProfileTaskPlan where
  tid : Nat
  processPid : Nat
  comm : String
  taskClass : TaskClass
  requestedMask : String
  matchedRuleIndex : Nat
  matchedRuleName : Option String

/-- One task of `active_task_snapshots_from_active_tasks`. -/
def activeTaskSnapshot (cgroupPath : Nat → Option String) (task : TaskInfo) :
    ActiveTaskSnapshot where
  tid := task.tid
  processPid := task.processPid
  comm := task.comm
  taskClass := task.taskClass
  processStarttimeTicks := task.processStarttimeTicks
  taskStarttimeTicks := task.taskStarttimeTicks
  cgroupPath := cgroupPath task.tid

/-- `task_info_from_active_snapshot`: the thread's name stands for the process's. -/
def taskInfoFromActiveSnapshot (task : ActiveTaskSnapshot) : TaskInfo where
  tid := task.tid
  processPid := task.processPid
  comm := task.comm
  processComm := task.comm
  taskClass := task.taskClass
  processStarttimeTicks := task.processStarttimeTicks
  taskStarttimeTicks := task.taskStarttimeTicks

/-- `matching_profile_rule_with_index`. -/
def matchingProfileRuleWithIndex (task : TaskInfo) (profile : Profile) :
    Option (Nat × ProfileRule) :=
  (matchingProfileRuleWithEvidence task profile).map fun found => (found.1, found.2.1)

/-- `evaluate_profile_for_tasks`. -/
def evaluateProfileForTasks (profile : Profile) (activeTasks : List ActiveTaskSnapshot) :
    List ProfileTaskPlan :=
  activeTasks.filterMap fun task => do
    let (ruleIndex, rule) ← matchingProfileRuleWithIndex (taskInfoFromActiveSnapshot task) profile
    let affinity ← rule.affinity
    return { tid := task.tid
             processPid := task.processPid
             comm := task.comm
             taskClass := task.taskClass
             requestedMask := affinity.toRangeString
             matchedRuleIndex := ruleIndex
             matchedRuleName := none }

/-! ## What a rule matches -/

variable (task : TaskInfo) (rule : ProfileRule)

def classMatches : Bool := rule.matchClass.isEmpty || rule.matchClass.contains task.taskClass

/-- The rule matches the task without a look at the name of its process. -/
def matchesOwnName : Bool :=
  classMatches task rule && (rule.matchComm.isEmpty || rule.matchComm.any (·.matches task.comm))

/-- The rule matches the task by the name of its process only. -/
def matchesProcessNameOnly : Bool :=
  classMatches task rule && rule.matchComm.any (·.matches task.processComm) &&
    !rule.matchComm.any (·.matches task.comm)

variable {task rule} {profile : Profile}

theorem isEmpty_flatMap_patternHits (patterns : List CompiledPattern) (k : Nat) :
    ((patterns.zipIdx k).flatMap (patternHits task)).isEmpty =
      !patterns.any fun pattern => pattern.matches task.comm || pattern.matches
        task.processComm := by
  induction patterns generalizing k with
  | nil => rfl
  | cons pattern rest ih =>
    have happend : ∀ hits more : List CommPatternHit,
        (hits ++ more).isEmpty = (hits.isEmpty && more.isEmpty) := by
      intro hits more
      cases hits <;> rfl
    rw [List.zipIdx_cons, List.flatMap_cons, happend, ih, List.any_cons, Bool.not_or]
    congr 1
    unfold patternHits
    cases pattern.matches task.comm <;> cases pattern.matches task.processComm <;> rfl

/-- A rule matches by the thread's name, or by the process's. -/
theorem isSome_profileRuleMatchEvidence :
    (profileRuleMatchEvidence task rule).isSome =
      (classMatches task rule && (rule.matchComm.isEmpty || rule.matchComm.any fun pattern =>
        pattern.matches task.comm || pattern.matches task.processComm)) := by
  unfold profileRuleMatchEvidence classMatches
  simp only [isEmpty_flatMap_patternHits]
  cases rule.matchClass.isEmpty <;> cases rule.matchClass.contains task.taskClass <;>
    cases rule.matchComm.isEmpty <;>
    cases rule.matchComm.any fun pattern =>
      pattern.matches task.comm || pattern.matches task.processComm <;> rfl

/-- The evaluation's rules are those that match the thread's own name. -/
theorem isSome_evidence_of_snapshot (cgroupPath : Nat → Option String) :
    (profileRuleMatchEvidence (taskInfoFromActiveSnapshot (activeTaskSnapshot cgroupPath task))
      rule).isSome = matchesOwnName task rule := by
  rw [isSome_profileRuleMatchEvidence]
  simp only [taskInfoFromActiveSnapshot, activeTaskSnapshot, Bool.or_self]
  rfl

/-- The plan's rules match the thread's own name, or the name of the process only. -/
theorem isSome_evidence_of_task :
    (profileRuleMatchEvidence task rule).isSome =
      (matchesOwnName task rule || matchesProcessNameOnly task rule) := by
  have hany : (rule.matchComm.any fun pattern =>
      pattern.matches task.comm || pattern.matches task.processComm) =
        (rule.matchComm.any (·.matches task.comm) ||
          rule.matchComm.any (·.matches task.processComm)) := by
    induction rule.matchComm with
    | nil => rfl
    | cons pattern rest ih =>
      rw [List.any_cons, List.any_cons, List.any_cons, ih]
      cases pattern.matches task.comm <;> cases pattern.matches task.processComm <;> simp
  rw [isSome_profileRuleMatchEvidence, hany]
  unfold matchesOwnName matchesProcessNameOnly
  cases hempty : rule.matchComm with
  | nil => cases classMatches task rule <;> rfl
  | cons pattern rest =>
    cases classMatches task rule <;> cases (pattern :: rest).any (·.matches task.comm) <;>
      cases (pattern :: rest).any (·.matches task.processComm) <;> rfl

/-! ## Which rule comes first -/

/-- A wider test finds the same element iff each element that only it takes comes after one that the
narrow test takes. -/
theorem find?_eq_find?_or_iff {α : Type} {p q : α → Bool} (hpq : ∀ x, q x = true → p x = false)
    (items : List α) :
    items.find? p = items.find? (fun x => p x || q x) ↔
      ∀ before x after, items = before ++ x :: after → q x = true → ∃ y ∈ before, p y = true := by
  induction items with
  | nil =>
    refine ⟨fun _ before x after heq => ?_, fun _ => rfl⟩
    simp at heq
  | cons item rest ih =>
    cases hp : p item with
    | true =>
      -- both tests stop here, and any later element has `item` before it
      rw [List.find?_cons_of_pos hp, List.find?_cons_of_pos (by simp [hp])]
      refine ⟨fun _ before x after heq hq => ?_, fun _ => rfl⟩
      cases before with
      | nil =>
        obtain ⟨rfl, -⟩ := List.cons.inj heq
        exact absurd hp (by simp [hpq _ hq])
      | cons first more =>
        obtain ⟨rfl, -⟩ := List.cons.inj heq
        exact ⟨item, List.mem_cons_self, hp⟩
    | false =>
      rw [List.find?_cons_of_neg (by simp [hp])]
      cases hq : q item with
      | true =>
        rw [List.find?_cons_of_pos (by simp [hq])]
        constructor
        · intro hfind
          have hfound := List.find?_some hfind
          exact absurd hfound (by simp [hp])
        · intro h
          obtain ⟨y, hy, -⟩ := h [] item rest rfl hq
          cases hy
      | false =>
        rw [List.find?_cons_of_neg (by simp [hp, hq]), ih]
        constructor
        · intro h before x after heq hx
          cases before with
          | nil =>
            obtain ⟨rfl, -⟩ := List.cons.inj heq
            exact absurd hx (by simp [hq])
          | cons first more =>
            obtain ⟨rfl, hrest⟩ := List.cons.inj heq
            obtain ⟨y, hy, hpy⟩ := h more x after hrest hx
            exact ⟨y, List.mem_cons_of_mem _ hy, hpy⟩
        · intro h before x after heq hx
          obtain ⟨y, hy, hpy⟩ := h (item :: before) x after (by rw [heq]; rfl) hx
          rcases List.mem_cons.mp hy with rfl | hy
          · exact absurd hpy (by simp [hp])
          · exact ⟨y, hy, hpy⟩

/-- The first rule that matches, with its index. -/
theorem matchingProfileRuleWithIndex_eq_find? :
    matchingProfileRuleWithIndex task profile =
      (profile.rules.zipIdx.find? fun rule => (profileRuleMatchEvidence task rule.1).isSome).map
        fun rule => (rule.2, rule.1) := by
  unfold matchingProfileRuleWithIndex matchingProfileRuleWithEvidence
  induction profile.rules.zipIdx with
  | nil => rfl
  | cons rule rest ih =>
    rw [List.findSome?_cons, List.find?_cons]
    cases profileRuleMatchEvidence task rule.1 with
    | none => exact ih
    | some evidence => rfl

/-- The rule of the plan is the one that the index of the evaluation names. -/
theorem matchingProfileRule_eq_map_snd :
    matchingProfileRule task profile = (matchingProfileRuleWithIndex task profile).map (·.2) := by
  unfold matchingProfileRule matchingProfileRuleWithIndex
  rw [Option.map_map]
  rfl

theorem matchingProfileRule_eq_find? :
    matchingProfileRule task profile =
      profile.rules.find? fun rule => (profileRuleMatchEvidence task rule).isSome := by
  rw [matchingProfileRule_eq_map_snd, matchingProfileRuleWithIndex_eq_find?, Option.map_map]
  generalize hk : (0 : Nat) = k
  clear hk
  induction profile.rules generalizing k with
  | nil => rfl
  | cons rule rest ih =>
    rw [List.zipIdx_cons, List.find?_cons, List.find?_cons]
    cases profileRuleMatchEvidence task rule with
    | none => exact ih (k + 1)
    | some evidence => rfl

/-- No rule is reached for the name of the process alone: before each rule that matches so, a rule
matches the thread's own name. -/
def OwnNamesDecide (profile : Profile) (task : TaskInfo) : Prop :=
  ∀ before rule after, profile.rules = before ++ rule :: after →
    matchesProcessNameOnly task rule = true → ∃ earlier ∈ before, matchesOwnName task earlier = true

theorem not_matchesOwnName_of_processNameOnly (rule : ProfileRule)
    (h : matchesProcessNameOnly task rule = true) : matchesOwnName task rule = false := by
  unfold matchesProcessNameOnly at h
  simp only [Bool.and_eq_true, Bool.not_eq_true'] at h
  unfold matchesOwnName
  rw [h.2, h.1.1, Bool.true_and, Bool.or_false]
  -- the process's name is matched by a pattern, so there is one
  cases hpatterns : rule.matchComm with
  | nil => simp [hpatterns] at h
  | cons pattern rest => rfl

theorem matchingProfileRule_of_snapshot_eq_iff (cgroupPath : Nat → Option String) :
    matchingProfileRule (taskInfoFromActiveSnapshot (activeTaskSnapshot cgroupPath task)) profile =
      matchingProfileRule task profile ↔ OwnNamesDecide profile task := by
  rw [matchingProfileRule_eq_find?, matchingProfileRule_eq_find?]
  simp only [isSome_evidence_of_snapshot]
  simp only [isSome_evidence_of_task]
  exact find?_eq_find?_or_iff not_matchesOwnName_of_processNameOnly profile.rules

/-- The same for the rule with its index. -/
theorem matchingProfileRuleWithIndex_of_snapshot_eq_iff (cgroupPath : Nat → Option String) :
    matchingProfileRuleWithIndex (taskInfoFromActiveSnapshot (activeTaskSnapshot cgroupPath task))
        profile = matchingProfileRuleWithIndex task profile ↔ OwnNamesDecide profile task := by
  constructor
  · intro h
    rw [← matchingProfileRule_of_snapshot_eq_iff cgroupPath, matchingProfileRule_eq_map_snd, h,
      ← matchingProfileRule_eq_map_snd]
  · intro h
    rw [matchingProfileRuleWithIndex_eq_find?, matchingProfileRuleWithIndex_eq_find?]
    simp only [isSome_evidence_of_snapshot]
    simp only [isSome_evidence_of_task]
    congr 1
    refine (find?_eq_find?_or_iff (p := fun rule : ProfileRule × Nat => matchesOwnName task rule.1)
      (q := fun rule => matchesProcessNameOnly task rule.1)
      (fun rule => not_matchesOwnName_of_processNameOnly rule.1) _).mpr ?_
    intro before rule after heq hrule
    have hrules : profile.rules = before.map Prod.fst ++ rule.1 :: after.map Prod.fst := by
      rw [← List.zipIdx_map_fst 0 profile.rules, heq, List.map_append, List.map_cons]
    obtain ⟨earlier, hearlier, hown⟩ := h _ _ _ hrules hrule
    obtain ⟨found, hfound, rfl⟩ := List.mem_map.mp hearlier
    exact ⟨found, hfound, hown⟩

/-! ## What the evaluation requests and the plan changes -/

/-- **What the evaluation requests**: for each task whose snapshot a rule matches, the mask of that
rule, with its index. -/
theorem mem_evaluateProfileForTasks {snapshots : List ActiveTaskSnapshot}
    {entry : ProfileTaskPlan} :
    entry ∈ evaluateProfileForTasks profile snapshots ↔
      ∃ snapshot ∈ snapshots, ∃ index rule mask,
        matchingProfileRuleWithIndex (taskInfoFromActiveSnapshot snapshot) profile =
          some (index, rule) ∧
        rule.affinity = some mask ∧
        entry = { tid := snapshot.tid
                  processPid := snapshot.processPid
                  comm := snapshot.comm
                  taskClass := snapshot.taskClass
                  requestedMask := mask.toRangeString
                  matchedRuleIndex := index
                  matchedRuleName := none } := by
  unfold evaluateProfileForTasks
  rw [List.mem_filterMap]
  refine exists_congr fun snapshot => and_congr_right fun _ => ?_
  simp only [Option.bind_eq_bind, Option.bind_eq_some_iff, Option.pure_def, Option.some.injEq,
    Prod.exists]
  constructor
  · rintro ⟨index, rule, hrule, mask, hmask, rfl⟩
    exact ⟨index, rule, mask, hrule, hmask, rfl⟩
  · rintro ⟨index, rule, mask, hrule, hmask, rfl⟩
    exact ⟨index, rule, hrule, mask, hmask, rfl⟩

/-- The change is of one of the tasks and sets the mask of the rule that the task is matched by. -/
def ChosenFor (profile : Profile) (tasks : List TaskInfo) (change : PlannedChange CpuMask) : Prop :=
  ∃ task ∈ tasks, ∃ rule, matchingProfileRule task profile = some rule ∧
    rule.affinity = some change.applied ∧ change.tid = task.tid

variable {readers : Readers}

/-- A decision on a task's affinity wants the mask of the rule. -/
theorem desired_of_decideProfileTaskActions {decision : ProfileTaskActionDecision}
    (h : decideProfileTaskActions task rule readers = .ok decision) :
    decision.affinity.bind (·.desired) = rule.affinity := by
  unfold decideProfileTaskActions at h
  cases hrule : rule.affinity with
  | none =>
    have hreached : affinityGone readers task rule = false := by simp [affinityGone, hrule]
    have hnice := decideNice_spec (d := {}) ⟨rfl, rfl⟩ hreached
    simp only [hrule] at h
    rw [h] at hnice
    cases hnice with
    | ok _ _ hP => rw [hP.1]; rfl
  | some desired =>
    simp only [hrule] at h
    cases hread : readers.readAllowedMask task.tid with
    | error e =>
      simp only [hread] at h
      split at h
      · cases h
        rfl
      · cases h
    | ok current =>
      have hreached : affinityGone readers task rule = false := by
        simp [affinityGone, hrule, hread, isGone]
      have hnice := decideNice_spec (d := withAffinity task current desired) ⟨rfl, rfl⟩ hreached
      simp only [hread] at h
      rw [show decideNice task rule readers (withAffinity task current desired) =
        .ok decision from h]
        at hnice
      cases hnice with
      | ok _ _ hP => rw [hP.1]; rfl

theorem mem_planned {α : Type} {pending : Bool} {current desired : Option α} {kind : String}
    {needs : List (Bool × String)} {records : List (PlannedChange α)} {change : PlannedChange α}
    (h : planned task pending current desired kind needs = .ok records)
    (hchange : change ∈ records) :
    change.tid = task.tid ∧ desired = some change.applied := by
  unfold planned at h
  split at h
  · cases h
    cases hchange
  · split at h
    · cases h
    · cases h
      obtain ⟨original, -, hmap⟩ := Option.bind_eq_some_iff.mp (Option.mem_toList.mp hchange)
      obtain ⟨applied, rfl, rfl⟩ := Option.map_eq_some_iff.mp hmap
      exact ⟨rfl, rfl⟩

/-- The changes a decided task adds to the plan's, if any, are of this task. -/
theorem affinityChanges_of_planDecided {decision : ProfileTaskActionDecision}
    {state after : PlanState} (h : planDecided task rule decision state = .ok after) :
    ∃ added, after.plan.affinityChanges = state.plan.affinityChanges ++ added ∧
      ∀ change ∈ added, change.tid = task.tid ∧
        decision.affinity.bind (·.desired) = some change.applied := by
  unfold planDecided at h
  obtain ⟨affinity, haffinity, h⟩ := Tally.ok_of_bind h
  obtain ⟨nice, -, h⟩ := Tally.ok_of_bind h
  obtain ⟨ionice, -, h⟩ := Tally.ok_of_bind h
  refine ⟨affinity, ?_, fun change hchange => mem_planned haffinity hchange⟩
  split at h
  · cases h
    rfl
  · cases h
    rfl

/-- **One turn of the plan's loop** adds changes for its task only, from the task's rule. -/
theorem planTurn_chosen {tasks : List TaskInfo} {state after : PlanState}
    (hstate : ∀ change ∈ state.plan.affinityChanges, ChosenFor profile tasks change)
    (htask : task ∈ tasks) (h : planTurn profile readers state task = .ok after) :
    ∀ change ∈ after.plan.affinityChanges, ChosenFor profile tasks change := by
  unfold planTurn at h
  cases hrule : matchingProfileRule task profile with
  | none =>
    simp only [hrule] at h
    cases h
    exact hstate
  | some rule =>
    simp only [hrule] at h
    split at h
    · cases h
      exact hstate
    · obtain ⟨decision, hdecision, h⟩ := Tally.ok_of_bind h
      split at h
      · cases h
        exact hstate
      · obtain ⟨added, hadded, hof⟩ := affinityChanges_of_planDecided h
        intro change hchange
        rw [hadded] at hchange
        rcases List.mem_append.mp hchange with hold | hnew
        · exact hstate change hold
        · obtain ⟨htid, hdesired⟩ := hof change hnew
          rw [desired_of_decideProfileTaskActions hdecision] at hdesired
          exact ⟨task, htask, rule, hrule, hdesired, htid⟩

/-- **What the plan changes**: each task it gives a mask is matched by a rule with this mask. -/
theorem chosen_of_plannedProfileApplyWithReaders {tasks : TaskMap}
    {cache : Option (List ProfileApplyCacheKey)} {plan : ProfileApplyPlan}
    {summary : ProfileApplySummary} {left : Option (List ProfileApplyCacheKey)}
    (h : plannedProfileApplyWithReaders tasks profile cache readers = .ok (plan, summary, left)) :
    ∀ change ∈ plan.affinityChanges, ChosenFor profile tasks.values change := by
  have hloop : ∀ (rest : List TaskInfo) (state after : PlanState),
      (∀ task ∈ rest, task ∈ tasks.values) →
      (∀ change ∈ state.plan.affinityChanges, ChosenFor profile tasks.values change) →
      rest.foldlM (planTurn profile readers) state = .ok after →
      ∀ change ∈ after.plan.affinityChanges, ChosenFor profile tasks.values change := by
    intro rest
    induction rest with
    | nil =>
      intro state after _ hstate hfold
      cases hfold
      exact hstate
    | cons task rest ih =>
      intro state after hrest hstate hfold
      rw [List.foldlM_cons] at hfold
      obtain ⟨next, hnext, hfold⟩ := Tally.ok_of_bind hfold
      exact ih next after (fun other hother => hrest other (List.mem_cons_of_mem _ hother))
        (planTurn_chosen hstate (hrest task List.mem_cons_self) hnext) hfold
  unfold plannedProfileApplyWithReaders at h
  obtain ⟨state, hstate, h⟩ := Tally.ok_of_bind h
  cases h
  refine hloop _ _ _ (fun _ hmem => hmem) ?_ hstate
  intro change hchange
  cases hchange

/-! ## Agreement -/

/-- The rule the evaluation selects for a task, from the task's snapshot. -/
def evaluatedRule (cgroupPath : Nat → Option String) (profile : Profile) (task : TaskInfo) :
    Option (Nat × ProfileRule) :=
  matchingProfileRuleWithIndex (taskInfoFromActiveSnapshot (activeTaskSnapshot cgroupPath task))
    profile

/-- Where the names of the threads decide, the evaluation covers what the plan changes. -/
theorem evaluated_of_planned {cgroupPath : Nat → Option String} {tasks : TaskMap}
    {change : PlannedChange CpuMask} (hown : ∀ task ∈ tasks.values, OwnNamesDecide profile task)
    (h : ChosenFor profile tasks.values change) :
    ∃ entry ∈ evaluateProfileForTasks profile (tasks.values.map (activeTaskSnapshot cgroupPath)),
      entry.tid = change.tid ∧ entry.requestedMask = change.applied.toRangeString := by
  obtain ⟨task, htask, rule, hrule, haffinity, htid⟩ := h
  have hsame := (matchingProfileRuleWithIndex_of_snapshot_eq_iff cgroupPath).mpr (hown task htask)
  rw [matchingProfileRule_eq_map_snd] at hrule
  obtain ⟨found, hfound, rfl⟩ := Option.map_eq_some_iff.mp hrule
  rw [hfound] at hsame
  refine ⟨_, mem_evaluateProfileForTasks.mpr ⟨activeTaskSnapshot cgroupPath task,
    List.mem_map_of_mem htask, found.1, found.2, change.applied, hsame, haffinity, rfl⟩,
    htid.symm, ?_⟩
  simp only

/-- **When the evaluation and the plan select the same rule.**  An entry of the evaluation is of the
rule that `evaluatedRule` gives, a change of the plan is of the rule that `matchingProfileRule`
gives, and the two are the same for a task exactly when no rule is reached for its process's name
alone. -/
theorem evaluation_and_plan_rules (profile : Profile) (cgroupPath : Nat → Option String)
    (tasks : TaskMap) :
    (∀ entry ∈ evaluateProfileForTasks profile (tasks.values.map (activeTaskSnapshot cgroupPath)),
      ∃ task ∈ tasks.values, entry.tid = task.tid ∧ ∃ rule mask,
        evaluatedRule cgroupPath profile task = some (entry.matchedRuleIndex, rule) ∧
        rule.affinity = some mask ∧ entry.requestedMask = mask.toRangeString) ∧
    (∀ cache readers plan summary left,
      plannedProfileApplyWithReaders tasks profile cache readers = .ok (plan, summary, left) →
      (∀ change ∈ plan.affinityChanges, ChosenFor profile tasks.values change) ∧
      ((∀ task ∈ tasks.values, OwnNamesDecide profile task) → ∀ change ∈ plan.affinityChanges,
        ∃ entry ∈
            evaluateProfileForTasks profile (tasks.values.map (activeTaskSnapshot cgroupPath)),
          entry.tid = change.tid ∧ entry.requestedMask = change.applied.toRangeString)) ∧
    ∀ task,
      (evaluatedRule cgroupPath profile task = matchingProfileRuleWithIndex task profile ↔
        OwnNamesDecide profile task) ∧
      ((evaluatedRule cgroupPath profile task).map (·.2) = matchingProfileRule task profile ↔
        OwnNamesDecide profile task) := by
  refine ⟨fun entry hentry => ?_, fun cache readers plan summary left h => ?_, fun task => ⟨?_, ?_⟩⟩
  · obtain ⟨snapshot, hsnapshot, index, rule, mask, hrule, hmask, rfl⟩ :=
      mem_evaluateProfileForTasks.mp hentry
    obtain ⟨task, htask, rfl⟩ := List.mem_map.mp hsnapshot
    refine ⟨task, htask, rfl, rule, mask, hrule, hmask, ?_⟩
    simp only
  · have hchosen := chosen_of_plannedProfileApplyWithReaders h
    exact ⟨hchosen, fun hown change hchange => evaluated_of_planned hown (hchosen change hchange)⟩
  · exact matchingProfileRuleWithIndex_of_snapshot_eq_iff cgroupPath
  · show (matchingProfileRuleWithIndex _ profile).map (·.2) = _ ↔ _
    rw [← matchingProfileRule_eq_map_snd]
    exact matchingProfileRule_of_snapshot_eq_iff cgroupPath

/-! A worker thread of a game, and a rule for the game's name. -/

def workerTask : TaskInfo := ⟨11, 10, "worker", "game.exe", .game, some 1, some 2⟩

def processNameProfile : Profile := ⟨"by process", [⟨some ⟨1⟩, none, none, [], [⟨"game", none⟩]⟩]⟩

def workerReaders : Readers where
  readAllowedMask _ := .ok ⟨7⟩
  readNice _ := .ok 0
  readIoprio _ := .ok 0

/-- The plan gives the worker the mask of the rule, the evaluation does not see the worker. -/
theorem processName_rule_not_evaluated :
    evaluateProfileForTasks processNameProfile [activeTaskSnapshot (fun _ => none) workerTask] =
      [] ∧
    ((plannedProfileApplyWithReaders ⟨[workerTask], by decide⟩ processNameProfile none
      workerReaders).toOption.map fun result => result.1.affinityChanges.map fun change =>
        (change.tid, change.applied)) = some [(11, ⟨1⟩)] ∧
    ¬ ∀ profile cgroupPath task,
      evaluatedRule cgroupPath profile task = matchingProfileRuleWithIndex task profile := by
  refine ⟨by decide +kernel, by decide +kernel, fun h => ?_⟩
  have hsame := congrArg Option.isSome (h processNameProfile (fun _ => none) workerTask)
  exact absurd hsame (by decide +kernel)

end Stutter.Profiles

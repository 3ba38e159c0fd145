import StutterProof.ProfilePending

/-! # The three counts of a profile's pending changes

Each loop's count of an attribute, as a sum over the tasks, and when the three counts agree. -/
namespace Stutter.Profiles

open Tally

section Loops
variable (profile : Profile) (readers : Readers) (which : Attribute)

/-- The task matches a rule that has the property. -/
def onMatch (P : TaskInfo → ProfileRule → Bool) (task : TaskInfo) : Bool :=
  (matchingProfileRule task profile).any (P task)

open ProfileApplyCacheKey

def isCached (cache : Option (List ProfileApplyCacheKey)) (task : TaskInfo) (rule : ProfileRule) :
    Bool :=
  cache.any (new task rule ∈ ·)

/-- The explanation counts an attribute that differs, of a task with a complete identity. -/
def explainCounts (task : TaskInfo) (rule : ProfileRule) : Bool :=
  differs readers task rule which && taskHasCompleteIdentity task

/-- The plan also leaves out what is cached, and a task that is found gone at any of its reads. -/
def planCounts (cache : Option (List ProfileApplyCacheKey)) (task : TaskInfo)
    (rule : ProfileRule) : Bool :=
  !isCached cache task rule && !vanishes readers task rule &&
    explainCounts readers which task rule

variable {P : TaskInfo → ProfileRule → Bool} {task : TaskInfo}

theorem onMatch_none (h : matchingProfileRule task profile = none) :
    onMatch profile P task = false := by
  simp [onMatch, h]

theorem onMatch_some {rule : ProfileRule} (h : matchingProfileRule task profile = some rule) :
    onMatch profile P task = P task rule := by
  simp [onMatch, h]

theorem onMatch_eq_true :
    onMatch profile P task = true ↔
      ∃ rule, matchingProfileRule task profile = some rule ∧ P task rule = true := by
  unfold onMatch
  cases matchingProfileRule task profile <;> simp

/-! ## The summary -/

theorem summaryTurn_spec (state : SummaryState) (task : TaskInfo) :
    Turns (onMatch profile (summaryFails readers) task)
      (fun after => after.summary.pendingOf which = state.summary.pendingOf which +
        (onMatch profile (fun t r => differs readers t r which) task).toNat)
      (summaryTurn profile readers state task) := by
  unfold summaryTurn
  cases hmatch : matchingProfileRule task profile with
  | none =>
    rw [onMatch_none profile hmatch]
    exact .ok _ rfl (by rw [onMatch_none profile hmatch]; rfl)
  | some rule =>
    rw [onMatch_some profile hmatch, onMatch_some profile hmatch]
    refine (summariseTask_spec readers task rule _).mono fun after h => ?_
    rw [h which]
    cases which <;> rfl

variable (tasks : TaskMap)

/-- **The summary's count of an attribute.** -/
theorem profileApplySummary_count :
    (profileApplySummaryWithReaders tasks profile readers).toOption.map (·.pendingOf which) =
      total (onMatch profile (summaryFails readers))
        (fun task => (onMatch profile (fun t r => differs readers t r which) task).toNat)
        tasks.values := by
  have hloop := foldlM_tally (fun _ _ => True)
    (fun state : SummaryState => state.summary.pendingOf which)
    (fun task _ state _ => (summaryTurn_spec profile readers which state task).mono fun _ h =>
      ⟨h, trivial⟩)
    tasks.values {} trivial
  have hzero : ({} : SummaryState).summary.pendingOf which = 0 := by cases which <;> rfl
  simp only [hzero, Nat.zero_add, Option.map_id'] at hloop
  rw [← hloop]
  unfold profileApplySummaryWithReaders
  cases tasks.values.foldlM (summaryTurn profile readers) {} with
  | error e => rfl
  | ok state => cases which <;> rfl

/-! ## The explanation -/

/-- A matched rule is one of the profile's. -/
theorem matchingProfileRule_index {found : Nat × ProfileRule × RuleMatchEvidence}
    (h : matchingProfileRuleWithEvidence task profile = some found) :
    found.1 < profile.rules.length := by
  obtain ⟨rule, hrule, hfound⟩ := List.exists_of_findSome?_eq_some h
  obtain ⟨evidence, -, rfl⟩ := Option.map_eq_some_iff.mp hfound
  have := (List.mem_zipIdx hrule).2.1
  simpa using this

theorem ProfileRuleExplain.add_pendingOf (decision : ProfileTaskActionDecision)
    (rule : ProfileRuleExplain) :
    (rule.add decision).pendingOf which =
      rule.pendingOf which + (decision.pendingFor which).toNat := by
  cases which <;> rfl

theorem explainTurn_spec (state : ExplainState) (task : TaskInfo)
    (hrules : state.rules.length = profile.rules.length) :
    Turns (onMatch profile (decideFails readers) task)
      (fun after => (after.rules.map (·.pendingOf which)).sum =
          (state.rules.map (·.pendingOf which)).sum +
            (onMatch profile (explainCounts readers which) task).toNat ∧
        after.rules.length = profile.rules.length)
      (explainTurn profile readers state task) := by
  unfold explainTurn
  cases hfound : matchingProfileRuleWithEvidence task profile with
  | none =>
    have hmatch : matchingProfileRule task profile = none := by simp [matchingProfileRule, hfound]
    rw [onMatch_none profile hmatch]
    exact .ok _ rfl ⟨by rw [onMatch_none profile hmatch]; rfl, hrules⟩
  | some found =>
    obtain ⟨index, rule, evidence⟩ := found
    have hmatch : matchingProfileRule task profile = some rule := by
      simp [matchingProfileRule, hfound]
    have hindex : index < state.rules.length := hrules ▸ matchingProfileRule_index profile hfound
    rw [onMatch_some profile hmatch, onMatch_some profile hmatch]
    dsimp only
    have hdecided := decideProfileTaskActions_spec readers task rule
    generalize decideProfileTaskActions task rule readers = result at hdecided
    cases hdecided with
    | error e hfails => exact .error e hfails
    | ok decision hfails h =>
      refine .ok _ hfails ⟨?_, by simpa using hrules⟩
      have hsum := sum_modify (·.pendingOf which)
        (fun r => ProfileRuleExplain.add_pendingOf which decision r) hindex
      rwa [h.pendingFor_eq which] at hsum

/-- **The explanation's count of an attribute.** -/
theorem explainProfile_count :
    (explainProfileForSnapshot profile tasks readers).toOption.map (·.pendingOf which) =
      total (onMatch profile (decideFails readers))
        (fun task => (onMatch profile (explainCounts readers which) task).toNat)
        tasks.values := by
  have hloop := foldlM_tally
    (fun _ (state : ExplainState) => state.rules.length = profile.rules.length)
    (fun state => (state.rules.map (·.pendingOf which)).sum)
    (fun task _ state hrules => explainTurn_spec profile readers which state task hrules)
    tasks.values { rules := profile.rules.zipIdx.map fun rule => { ruleIndex := rule.2 } }
    (by simp)
  have hzero : ((profile.rules.zipIdx.map fun rule : ProfileRule × Nat =>
      ({ ruleIndex := rule.2 } : ProfileRuleExplain)).map (·.pendingOf which)).sum = 0 := by
    rw [List.map_map, List.sum_eq_zero]
    intro n hn
    obtain ⟨rule, -, rfl⟩ := List.mem_map.mp hn
    cases which <;> rfl
  simp only [hzero, Nat.zero_add, Option.map_id'] at hloop
  rw [← hloop]
  unfold explainProfileForSnapshot
  cases tasks.values.foldlM (explainTurn profile readers)
      { rules := profile.rules.zipIdx.map fun rule => { ruleIndex := rule.2 } } with
  | error e => rfl
  | ok state => cases which <;> rfl

/-! ## The plan -/

variable (cache : Option (List ProfileApplyCacheKey))

/-- The tasks that are left have ids of their own, and the cache says of them what it said at
first: a turn adds only its own task's key. -/
structure CacheKept (rest : List TaskInfo) (state : PlanState) : Prop where
  nodup : (rest.map (·.tid)).Nodup
  known : ∀ task ∈ rest, ∀ rule, isCached state.known task rule = isCached cache task rule

variable {cache}

theorem CacheKept.tail {rest : List TaskInfo} {state after : PlanState}
    (h : CacheKept cache (task :: rest) state) (rule : ProfileRule)
    (hknown : after.known = state.known ∨
      after.known = state.known.map (new task rule :: ·)) :
    CacheKept cache rest after where
  nodup := (List.nodup_cons.mp h.nodup).2
  known := by
    intro other hother rule'
    have hbefore := h.known other (List.mem_cons_of_mem _ hother) rule'
    obtain hsame | hadded := hknown
    · rw [hsame]
      exact hbefore
    · have hne : new other rule' ≠ new task rule := by
        intro heq
        have htid : other.tid = task.tid := congrArg tid heq
        exact (List.nodup_cons.mp h.nodup).1 (List.mem_map.mpr ⟨other, hother, htid⟩)
      rw [← hbefore, hadded]
      unfold isCached
      cases state.known with
      | none => rfl
      | some keys => simp [hne]

theorem planTurn_spec (state : PlanState) (task : TaskInfo) (rest : List TaskInfo)
    (hcache : CacheKept cache (task :: rest) state) :
    Turns
      (onMatch profile (fun t r => !isCached cache t r && decideFails readers t r) task)
      (fun after => after.plan.changesOf which = state.plan.changesOf which +
          (onMatch profile (planCounts readers which cache) task).toNat ∧
        CacheKept cache rest after)
      (planTurn profile readers state task) := by
  unfold planTurn
  cases hmatch : matchingProfileRule task profile with
  | none =>
    rw [onMatch_none profile hmatch, onMatch_none profile hmatch]
    exact .ok _ rfl ⟨rfl, (List.nodup_cons.mp hcache.nodup).2,
      fun other hother => hcache.known other (List.mem_cons_of_mem _ hother)⟩
  | some rule =>
    rw [onMatch_some profile hmatch, onMatch_some profile hmatch]
    have hkey : (state.known.any fun keys => decide (new task rule ∈ keys)) =
        isCached cache task rule := hcache.known task List.mem_cons_self rule
    unfold planCounts
    dsimp only
    rw [hkey]
    cases hcached : isCached cache task rule with
    | true =>
      rw [if_pos rfl]
      exact .ok _ rfl ⟨rfl, hcache.tail rule (.inl rfl)⟩
    | false =>
      simp only [Bool.false_eq_true, if_false, Bool.not_false, Bool.true_and]
      have hdecided := decideProfileTaskActions_spec readers task rule
      generalize decideProfileTaskActions task rule readers = result at hdecided
      cases hdecided with
      | error e hfails => exact .error e hfails
      | ok decision hfails h =>
        simp only [bind, Except.bind, h.taskDisappeared_eq]
        cases hvanishes : vanishes readers task rule with
        | true => exact .ok _ hfails ⟨by simp, hcache.tail rule (.inl rfl)⟩
        | false =>
          obtain ⟨after, hafter, hcounts, hknown⟩ := planDecided_spec h { state with
            counted := { state.counted with summary := { state.counted.summary with
              checkedTasks := state.counted.summary.checkedTasks + 1 } }
            seen := new task rule :: state.seen }
          simp only [Bool.false_eq_true, if_false, hafter]
          refine .ok _ hfails ⟨?_, hcache.tail rule hknown⟩
          rw [hcounts which, h.pendingFor_eq which]
          rfl

/-- **The plan's count of an attribute.** -/
theorem plannedProfileApply_count :
    (plannedProfileApplyWithReaders tasks profile cache readers).toOption.map
        (·.1.changesOf which) =
      total (onMatch profile (fun t r => !isCached cache t r && decideFails readers t r))
        (fun task => (onMatch profile (planCounts readers which cache) task).toNat)
        tasks.values := by
  have hloop := foldlM_tally (CacheKept cache)
    (fun state : PlanState => state.plan.changesOf which)
    (fun task rest state hcache => planTurn_spec profile readers which state task rest hcache)
    tasks.values { known := cache } ⟨tasks.nodup, fun _ _ _ => rfl⟩
  have hzero : ({} : ProfileApplyPlan).changesOf which = 0 := by cases which <;> rfl
  simp only [hzero, Nat.zero_add, Option.map_id'] at hloop
  rw [← hloop]
  unfold plannedProfileApplyWithReaders
  cases tasks.values.foldlM (planTurn profile readers) { known := cache } with
  | error e => rfl
  | ok state => rfl

end Loops

/-! ## Agreement -/

section Agreement
variable (profile : Profile) (tasks : TaskMap) (cache : Option (List ProfileApplyCacheKey))
  (readers : Readers)

/-- The explanation, the summary and the plan have the same count of every attribute.  A loop that
fails has no count. -/
def CountsAgree : Prop :=
  ∀ which : Attribute,
    (explainProfileForSnapshot profile tasks readers).toOption.map (·.pendingOf which) =
        (profileApplySummaryWithReaders tasks profile readers).toOption.map (·.pendingOf which) ∧
      (profileApplySummaryWithReaders tasks profile readers).toOption.map (·.pendingOf which) =
        (plannedProfileApplyWithReaders tasks profile cache readers).toOption.map
          (·.1.changesOf which)

/-- Each loop finds a task at which it fails. -/
def AllFail : Prop :=
  (∃ task ∈ tasks.values, onMatch profile (summaryFails readers) task = true) ∧
    ∃ task ∈ tasks.values,
      onMatch profile (fun t r => !isCached cache t r && decideFails readers t r) task = true

/-- No loop fails, and a matched task that has to be changed has a complete identity, is not in the
cache and is there at each of its reads. -/
def Steady : Prop :=
  ∀ task ∈ tasks.values, ∀ rule, matchingProfileRule task profile = some rule →
    decideFails readers task rule = false ∧
      ∀ which, differs readers task rule which = true →
        taskHasCompleteIdentity task = true ∧ isCached cache task rule = false ∧
          vanishes readers task rule = false

variable {profile tasks cache readers}

/-- Where the summary fails, the decision does. -/
theorem decideFails_of_summaryFails {task : TaskInfo} {rule : ProfileRule}
    (h : summaryFails readers task rule = true) : decideFails readers task rule = true := by
  unfold summaryFails breaks breaksFromNice at h
  unfold decideFails breaks breaksFromNice
  revert h
  cases isBroken (readers.readIoprio task.tid) with
  | true => exact id
  | false =>
    cases unencodable rule with
    | true =>
      cases isGone (readers.readIoprio task.tid) with
      | true =>
        simp only [Bool.or_true, Bool.not_true, Bool.false_and, Bool.and_false,
          Bool.or_false, Bool.or_eq_true, Bool.and_eq_true]
        exact fun h => h.imp id fun h => ⟨h.1, .inl h.2⟩
      | false => exact id
    | false => simp

theorem any_onMatch_mono {P Q : TaskInfo → ProfileRule → Bool} {items : List TaskInfo}
    (hPQ : ∀ task rule, P task rule = true → Q task rule = true)
    (h : items.any (onMatch profile P) = true) : items.any (onMatch profile Q) = true := by
  obtain ⟨task, htask, hP⟩ := List.any_eq_true.mp h
  obtain ⟨rule, hrule, hP⟩ := (onMatch_eq_true profile).mp hP
  exact List.any_eq_true.mpr ⟨task, htask, (onMatch_eq_true profile).mpr ⟨rule, hrule, hPQ _ _ hP⟩⟩

theorem sum_onMatch_eq_iff {P Q : TaskInfo → ProfileRule → Bool} (items : List TaskInfo)
    (hPQ : ∀ task rule, P task rule = true → Q task rule = true) :
    (items.map fun task => (onMatch profile P task).toNat).sum =
        (items.map fun task => (onMatch profile Q task).toNat).sum ↔
      ∀ task ∈ items, ∀ rule, matchingProfileRule task profile = some rule →
        Q task rule = true → P task rule = true := by
  rw [sum_eq_iff]
  · refine forall₂_congr fun task _ => ?_
    cases hmatch : matchingProfileRule task profile with
    | none => simp [onMatch_none profile hmatch]
    | some rule =>
      rw [onMatch_some profile hmatch, onMatch_some profile hmatch]
      have hle := hPQ task rule
      revert hle
      cases hP : P task rule <;> cases hQ : Q task rule <;> simp [hP, hQ]
  · intro task _
    cases hmatch : matchingProfileRule task profile with
    | none => simp [onMatch_none profile hmatch]
    | some rule =>
      rw [onMatch_some profile hmatch, onMatch_some profile hmatch]
      exact Bool.toNat_le_toNat (hPQ task rule)

theorem any_onMatch_eq_false {P : TaskInfo → ProfileRule → Bool} {items : List TaskInfo} :
    items.any (onMatch profile P) = false ↔
      ∀ task ∈ items, ∀ rule, matchingProfileRule task profile = some rule →
        P task rule = false := by
  simp only [List.any_eq_false, onMatch_eq_true, not_exists, not_and, Bool.not_eq_true]

/-- **The three counts agree exactly when every loop fails, or the tasks are steady.** -/
theorem counts_agree_iff :
    CountsAgree profile tasks cache readers ↔
      AllFail profile tasks cache readers ∨ Steady profile tasks cache readers := by
  have hsummary : ∀ task rule, summaryFails readers task rule = true →
      decideFails readers task rule = true := fun _ _ => decideFails_of_summaryFails
  have hplan : ∀ task rule, (!isCached cache task rule && decideFails readers task rule) = true →
      decideFails readers task rule = true := fun _ _ h => (Bool.and_eq_true_iff.mp h).2
  have hexplained : ∀ which task rule, explainCounts readers which task rule = true →
      differs readers task rule which = true := fun _ _ _ h => (Bool.and_eq_true_iff.mp h).1
  have hplanned : ∀ which task rule, planCounts readers which cache task rule = true →
      differs readers task rule which = true :=
    fun which task rule h => hexplained which task rule (Bool.and_eq_true_iff.mp h).2
  unfold CountsAgree
  simp only [explainProfile_count, profileApplySummary_count, plannedProfileApply_count,
    total_eq_iff]
  constructor
  · intro h
    obtain ⟨⟨-, hfails⟩ | ⟨hfails, -, -⟩, hrest⟩ := h .affinity
    · obtain ⟨-, hfails'⟩ | ⟨hnot, -⟩ := hrest
      · exact .inl ⟨List.any_eq_true.mp hfails, List.any_eq_true.mp hfails'⟩
      · rw [hnot] at hfails
        cases hfails
    · refine .inr fun task htask rule hrule => ?_
      refine ⟨any_onMatch_eq_false.mp hfails task htask rule hrule, fun which hdiffers => ?_⟩
      -- The explanation fails nowhere, so the counts are sums, and they are equal item by item.
      obtain ⟨⟨hbad, -⟩ | ⟨-, hfine, hexplain⟩, hrest⟩ := h which
      · rw [hfails] at hbad
        cases hbad
      · obtain ⟨hbad, -⟩ | ⟨-, -, hsums⟩ := hrest
        · rw [hfine] at hbad
          cases hbad
        · have hcounted := (sum_onMatch_eq_iff tasks.values (hplanned which)).mp hsums.symm task
            htask rule hrule hdiffers
          simp only [planCounts, explainCounts, Bool.and_eq_true, Bool.not_eq_true'] at hcounted
          exact ⟨hcounted.2.2, hcounted.1.1, hcounted.1.2⟩
  · rintro (⟨hfails, hfails'⟩ | hsteady) which
    · have h := List.any_eq_true.mpr hfails
      exact ⟨.inl ⟨any_onMatch_mono hsummary h, h⟩, .inl ⟨h, List.any_eq_true.mpr hfails'⟩⟩
    · have hfine : tasks.values.any (onMatch profile (decideFails readers)) = false :=
        any_onMatch_eq_false.mpr fun task htask rule hrule => (hsteady task htask rule hrule).1
      have hsummaryFine : tasks.values.any (onMatch profile (summaryFails readers)) = false := by
        rw [← Bool.not_eq_true] at hfine ⊢
        exact fun h => hfine (any_onMatch_mono hsummary h)
      refine ⟨.inr ⟨hfine, hsummaryFine, ?_⟩, .inr ⟨hsummaryFine, ?_, Eq.symm ?_⟩⟩
      · refine (sum_onMatch_eq_iff tasks.values (hexplained which)).mpr ?_
        intro task htask rule hrule hdiffers
        have h := (hsteady task htask rule hrule).2 which hdiffers
        simp [explainCounts, hdiffers, h.1]
      · rw [← Bool.not_eq_true] at hfine ⊢
        exact fun h => hfine (any_onMatch_mono hplan h)
      · refine (sum_onMatch_eq_iff tasks.values (hplanned which)).mpr ?_
        intro task htask rule hrule hdiffers
        have h := (hsteady task htask rule hrule).2 which hdiffers
        simp [planCounts, explainCounts, hdiffers, h.1, h.2.1, h.2.2]

/-! A task whose affinity is not the wanted one exits before its nice value is read: the explanation
and the summary have counted its affinity, the plan leaves the whole task out. -/

def leavingTask : TaskInfo := ⟨80, 80, "Main", "Main", .game, some 1, some 2⟩

def leavingProfile : Profile := ⟨"parity", [⟨some ⟨1⟩, some 5, none, [.game], []⟩]⟩

def leavingReaders : Readers where
  readAllowedMask _ := .ok ⟨2⟩
  readNice _ := .error ⟨some esrch, "No such process"⟩
  readIoprio _ := .ok 0

theorem leavingTask_counts_differ :
    ¬ CountsAgree leavingProfile ⟨[leavingTask], by decide⟩ none leavingReaders := by
  intro h
  exact absurd (h .affinity).2 (by decide +kernel)

end Agreement

end Stutter.Profiles

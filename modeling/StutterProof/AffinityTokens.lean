import StutterProof.AffinityCommit

/-! # The token of a prepared apply

A commit sets a mask only right after it has found the task unchanged, and it reports a started
mutation exactly when it made a set call.  So a failed apply carries a token exactly when it may
have changed a task, and the restore file of this token holds a record of every such task. -/
namespace Stutter.Profiles

open ActiveConfig (CpuMask)
open ProfileRestore

/-- The last three calls found the start times and the mask of the record. -/
def JustMatched (record : AffinityRecord) (log : Log) : Prop :=
  ∃ earlier pid processTicks taskTicks, record.processPid = some pid ∧
    record.processStarttimeTicks = some processTicks ∧ record.taskStarttimeTicks = some taskTicks ∧
    log = earlier ++ [.stat (.process pid) (.ok (some processTicks)),
      .stat (.process record.tid) (.ok (some taskTicks)), .mask record.tid (.ok record.original)]

variable {record : AffinityRecord}

theorem JustMatched.append {reads : Log} (h : JustMatched record reads) (log : Log) :
    JustMatched record (log ++ reads) := by
  obtain ⟨earlier, pid, processTicks, taskTicks, hpid, hprocess, htask, rfl⟩ := h
  exact ⟨log ++ earlier, pid, processTicks, taskTicks, hpid, hprocess, htask,
    (List.append_assoc ..).symm⟩

/-- A set call is of a prepared record, with its mask, right after the record's task was found as it
was planned. -/
def Matched (records : List AffinityRecord) (before : Log) : Event → Prop
  | .stat .. | .mask .. => True
  | .setAffinity tid mask _ => ∃ record ∈ records, record.tid = tid ∧ record.applied = mask ∧
      JustMatched record before
  | .setNice .. | .setIoprio .. => False

variable {event : Event}

theorem matched_of_quiet (records : List AffinityRecord) (before : Log) (h : event.isSet = false) :
    Matched records before event := by
  cases event with
  | stat | mask => trivial
  | setAffinity | setNice | setIoprio => cases h

variable {records : List AffinityRecord}

theorem Matched.append {before : Log} (h : Matched records before event) (log : Log) :
    Matched records (log ++ before) event := by
  cases event with
  | stat | mask => trivial
  | setAffinity tid mask answer =>
    obtain ⟨record, hrecord, htid, hmask, hmatched⟩ := h
    exact ⟨record, hrecord, htid, hmask, hmatched.append log⟩
  | setNice | setIoprio => exact h

variable {log : Log}

open EventLog

/-- Each set call of a clean log is of a prepared record. -/
theorem exists_record_of_clean (h : Clean (Matched records) log) (hevent : event ∈ log)
    (hset : event.isSet = true) :
    ∃ record ∈ records, ∃ answer, event = .setAffinity record.tid record.applied answer := by
  obtain ⟨before, after, hlog⟩ := List.append_of_mem hevent
  have hmatched := h before event after hlog
  cases event with
  | stat | mask => cases hset
  | setAffinity tid mask answer =>
    obtain ⟨record, hrecord, rfl, rfl, -⟩ := hmatched
    exact ⟨record, hrecord, answer, rfl⟩
  | setNice | setIoprio => exact hmatched.elim

/-! ## Validation -/

/-- What a check of a record says, by the calls it made. -/
structure Validated (record : AffinityRecord) (reads : Log) (result : Except AnyError Bool) :
    Prop where
  quiet : ∀ event ∈ reads, event.isSet = false
  matched : result = .ok true → JustMatched record reads

theorem processStarttimeAt_spec (host : ProfileRestore.Host) (pid : Nat) (log : Log) :
    ∃ event ticks, host.processStarttimeAt pid log = (ticks, log ++ [event]) ∧ event.isSet = false ∧
      ∀ found, ticks = some found → event = .stat (.process pid) (.ok (some found)) := by
  refine ⟨_, _, rfl, rfl, fun found hfound => ?_⟩
  generalize host.stat log (.process pid) = answer at hfound
  rcases answer with error | _ | ticks
  · cases hfound
  · cases hfound
  · cases hfound
    rfl

theorem validateRecord_spec (host : ProfileRestore.Host) (record : AffinityRecord) (log : Log) :
    ∃ reads result, validateRecord host record log = (result, log ++ reads) ∧
      Validated record reads result := by
  have hrefused : ∀ text, ∃ reads result,
      ((Except.error (.message text), log) : Except AnyError Bool × Log) = (result, log ++ reads) ∧
        Validated record reads result :=
    fun text => ⟨[], .error (.message text), by rw [List.append_nil], by simp, nofun⟩
  unfold validateRecord
  cases hpid : record.processPid with
  | none => exact hrefused _
  | some pid =>
    cases hprocess : record.processStarttimeTicks.filter (0 < ·) with
    | none => exact hrefused _
    | some processTicks =>
      cases htask : record.taskStarttimeTicks.filter (0 < ·) with
      | none => exact hrefused _
      | some taskTicks =>
        dsimp only
        split
        · exact hrefused _
        · obtain ⟨process, processFound, hread, hquiet, hfound⟩ :=
            processStarttimeAt_spec host pid log
          rw [hread]
          cases processFound with
          | none => exact ⟨[process], .ok false, rfl, by simpa using hquiet, nofun⟩
          | some currentProcess =>
            obtain ⟨task, taskFound, hreadTask, hquietTask, hfoundTask⟩ :=
              processStarttimeAt_spec host record.tid (log ++ [process])
            dsimp only
            rw [hreadTask, List.append_assoc]
            have hboth : ∀ event ∈ [process] ++ [task], event.isSet = false := by
              simpa using ⟨hquiet, hquietTask⟩
            cases taskFound with
            | none => exact ⟨[process] ++ [task], .ok false, rfl, hboth, nofun⟩
            | some currentTask =>
              dsimp only
              split
              · exact ⟨[process] ++ [task], _, rfl, hboth, nofun⟩
              · rename_i hsame
                obtain ⟨rfl, rfl⟩ : currentProcess = processTicks ∧ currentTask = taskTicks := by
                  rwa [not_or, not_not, not_not] at hsame
                rw [Host.readAllowedMask_eq, List.append_assoc]
                generalize host.mask _ record.tid = answer
                have hall : ∀ event ∈ [process] ++ [task] ++ [.mask record.tid answer],
                    event.isSet = false := by
                  intro event hevent
                  rcases List.mem_append.mp hevent with hevent | hevent
                  · exact hboth event hevent
                  · obtain rfl := List.mem_singleton.mp hevent
                    rfl
                rcases answer with error | mask
                · dsimp only
                  split
                  · exact ⟨_, .ok false, rfl, hall, nofun⟩
                  · exact ⟨_, _, rfl, hall, nofun⟩
                · dsimp only
                  split
                  · exact ⟨_, _, rfl, hall, nofun⟩
                  · rename_i hmask
                    obtain rfl := not_not.mp hmask
                    refine ⟨_, .ok true, rfl, hall,
                      fun _ => ⟨[], pid, currentProcess, currentTask, hpid,
                      (Option.filter_eq_some_iff.mp hprocess).1,
                      (Option.filter_eq_some_iff.mp htask).1, ?_⟩⟩
                    rw [hfound _ rfl, hfoundTask _ rfl]
                    rfl

theorem validatePlan_spec (host : ProfileRestore.Host) (records : List AffinityRecord) (log : Log) :
    ∃ reads result, validatePlan host records log = (result, log ++ reads) ∧
      ∀ event ∈ reads, event.isSet = false := by
  induction records generalizing log with
  | nil => exact ⟨[], .ok (), by rw [validatePlan, List.append_nil], by simp⟩
  | cons record rest ih =>
    obtain ⟨reads, result, hrecord, hvalid⟩ := validateRecord_spec host record log
    rw [validatePlan, hrecord]
    cases result with
    | error error => exact ⟨reads, .error error, rfl, hvalid.quiet⟩
    | ok present =>
      obtain ⟨later, result, hrest, hquiet⟩ := ih (log ++ reads)
      refine ⟨reads ++ later, result, ?_, fun event hevent => ?_⟩
      · dsimp only
        rw [hrest, List.append_assoc]
      · exact (List.mem_append.mp hevent).elim (hvalid.quiet event) (hquiet event)

/-! ## The commit -/

/-- A set call was made. -/
def Touched (log : Log) : Prop := ∃ event ∈ log, event.isSet = true

theorem not_touched_of_quiet (h : ∀ event ∈ log, event.isSet = false) : ¬Touched log := by
  rintro ⟨event, hevent, hset⟩
  rw [h event hevent] at hset
  cases hset

theorem touched_append {log later : Log} :
    Touched (log ++ later) ↔ Touched log ∨ Touched later := by
  constructor
  · rintro ⟨event, hevent, hset⟩
    exact (List.mem_append.mp hevent).imp (⟨event, ·, hset⟩) (⟨event, ·, hset⟩)
  · rintro (⟨event, hevent, hset⟩ | ⟨event, hevent, hset⟩)
    · exact ⟨event, List.mem_append_left _ hevent, hset⟩
    · exact ⟨event, List.mem_append_right _ hevent, hset⟩

/-- The invariant of the loop of a commit that started at `log`: `segment` is the calls made
since. -/
structure CommitInv (records : List AffinityRecord) (log segment : Log) (state : Commit) :
    Prop where
  log_eq : state.log = log ++ segment
  matched : Clean (Matched records) segment
  started : state.mutationStarted = true ↔ Touched segment

namespace CommitInv
variable {records : List AffinityRecord} {log segment : Log} {state : Commit}

/-- Reading keeps the invariant. -/
theorem read (h : CommitInv records log segment state) {reads : Log}
    (hquiet : ∀ event ∈ reads, event.isSet = false) :
    CommitInv records log (segment ++ reads) { state with log := state.log ++ reads } where
  log_eq := by rw [h.log_eq, List.append_assoc]
  matched := clean_append.mpr
    ⟨h.matched, clean_of_forall fun event hevent before =>
    matched_of_quiet records _ (hquiet event hevent)⟩
  started := by
    rw [touched_append, h.started]
    exact ⟨.inl, fun htouched => htouched.resolve_right (not_touched_of_quiet hquiet)⟩

/-- The set call of a record that was just matched keeps the invariant. -/
theorem set (h : CommitInv records log segment state) {record : AffinityRecord}
    (hrecord : record ∈ records) (hmatched : JustMatched record segment)
    (answer : Except ReadError Unit) {after : Commit} (hstarted : after.mutationStarted = true)
    (hlog : after.log = state.log ++ [.setAffinity record.tid record.applied answer]) :
    CommitInv records log (segment ++ [.setAffinity record.tid record.applied answer]) after where
  log_eq := by rw [hlog, h.log_eq, List.append_assoc]
  matched := clean_concat.mpr ⟨h.matched, record, hrecord, rfl, rfl, hmatched⟩
  started := by
    rw [hstarted, touched_append]
    exact ⟨fun _ => .inr ⟨_, List.mem_singleton.mpr rfl, rfl⟩, fun _ => rfl⟩

end CommitInv

variable {state : Commit}

/-- **One turn of the commit** keeps its invariant, whether it fails or not. -/
theorem commitChange_inv {log segment : Log} (h : CommitInv records log segment state)
    (host : ProfileRestore.Host) (hrecord : record ∈ records) :
    ∃ later, CommitInv records log later (commitChange host state record).2 := by
  obtain ⟨reads, result, hvalidate, hvalid⟩ := validateRecord_spec host record state.log
  have hread := h.read hvalid.quiet
  unfold commitChange
  rw [hvalidate]
  rcases result with error | _ | _
  · exact ⟨segment ++ reads, hread⟩
  · exact ⟨segment ++ reads, hread⟩
  · have hmatched : JustMatched record (segment ++ reads) := (hvalid.matched rfl).append segment
    unfold Setter.call
    dsimp only
    generalize affinitySetter.answer host _ record.tid record.applied = answer
    refine ⟨_, hread.set hrecord hmatched answer ?_ ?_⟩
    · rcases answer with error | done
      · dsimp only
        split <;> rfl
      · rfl
    · rcases answer with error | done
      · dsimp only
        split <;> rfl
      · rfl

theorem commitChanges_inv {log segment : Log} (h : CommitInv records log segment state)
    (host : ProfileRestore.Host) (rest : List AffinityRecord)
    (hrest : ∀ record ∈ rest, record ∈ records) :
    ∃ later, CommitInv records log later (commitChanges host rest state).2 := by
  induction rest generalizing segment state with
  | nil => exact ⟨segment, h⟩
  | cons record rest ih =>
    obtain ⟨later, hstep⟩ := commitChange_inv h host (hrest record List.mem_cons_self)
    rw [commitChanges]
    generalize commitChange host state record = turn at hstep
    obtain ⟨error | done, after⟩ := turn
    · exact ⟨later, hstep⟩
    · exact ih hstep fun other hother => hrest other (List.mem_cons_of_mem _ hother)

/-- What a commit did; `segment` is the calls it made. -/
structure CommitSpec (records : List AffinityRecord) (segment : Log)
    (result : Except AffinityCommitFailure ProfileApplyResult) : Prop where
  matched : Clean (Matched records) segment
  started : ∀ failure, result = .error failure → (failure.mutationStarted = true ↔ Touched segment)

open PreparedAffinityProfile

/-- **A commit** sets the masks of matching tasks only, and says whether it made a set call. -/
theorem commit_spec (host : ProfileRestore.Host) (prepared : PreparedAffinityProfile) (log : Log) :
    ∃ segment result, prepared.commit host log = (result, log ++ segment) ∧
      CommitSpec prepared.plan.affinityRecords segment result := by
  obtain ⟨reads, result, hvalidate, hquiet⟩ :=
    validatePlan_spec host prepared.plan.affinityRecords log
  unfold commit
  rw [hvalidate]
  cases result with
  | error source =>
    refine ⟨reads, .error ⟨source, false⟩, rfl, ?_, ?_⟩
    · exact clean_of_forall fun event hevent before =>
        matched_of_quiet _ before (hquiet event hevent)
    · rintro failure ⟨⟩
      exact iff_of_false (by simp) (not_touched_of_quiet hquiet)
  | ok done =>
    have hmatched : Clean (Matched prepared.plan.affinityRecords) reads :=
      clean_of_forall fun event hevent before =>
        matched_of_quiet _ before (hquiet event hevent)
    have hstart : CommitInv prepared.plan.affinityRecords log reads { log := log ++ reads } :=
      ⟨rfl, hmatched, iff_of_false (by simp) (not_touched_of_quiet hquiet)⟩
    obtain ⟨segment, hinv⟩ := commitChanges_inv hstart host _ fun _ hrecord => hrecord
    dsimp only
    generalize commitChanges host _ _ = run at hinv ⊢
    obtain ⟨source | done, state⟩ := run
    · refine ⟨segment, .error ⟨source, state.mutationStarted⟩, ?_, hinv.matched, ?_⟩
      · dsimp only
        rw [hinv.log_eq]
      · rintro failure ⟨⟩
        exact hinv.started
    · refine ⟨segment, _, congrArg (Prod.mk _) hinv.log_eq, hinv.matched, ?_⟩
      rintro failure ⟨⟩

variable {host : ProfileRestore.Host} {source : AnyError}

/-- A plan that does not pass validation is not begun. -/
theorem commit_of_invalid {prepared : PreparedAffinityProfile}
    (h : (validatePlan host prepared.plan.affinityRecords log).1 = .error source) :
    ∃ reads, prepared.commit host log = (.error ⟨source, false⟩, log ++ reads) ∧
      ¬Touched reads := by
  obtain ⟨reads, result, hvalidate, hquiet⟩ :=
    validatePlan_spec host prepared.plan.affinityRecords log
  rw [hvalidate] at h
  obtain rfl : result = .error source := h
  refine ⟨reads, ?_, not_touched_of_quiet hquiet⟩
  unfold commit
  rw [hvalidate]

/-- The plan passes validation, and the loop of the commit comes through the first records. -/
def PreparedAffinityProfile.Reaches (host : ProfileRestore.Host)
    (prepared : PreparedAffinityProfile) (log : Log) (earlier : List AffinityRecord)
    (state : Commit) : Prop :=
  ∃ checked, validatePlan host prepared.plan.affinityRecords log = (.ok (), checked) ∧
    commitChanges host earlier { log := checked } = (.ok (), state)

theorem commitChanges_append {earlier : List AffinityRecord} {state after : Commit}
    (h : commitChanges host earlier state = (.ok (), after)) (rest : List AffinityRecord) :
    commitChanges host (earlier ++ rest) state = commitChanges host rest after := by
  induction earlier generalizing state with
  | nil =>
    rw [commitChanges] at h
    cases h
    rfl
  | cons record earlier ih =>
    rw [commitChanges] at h
    rw [List.cons_append, commitChanges]
    generalize commitChange host state record = turn at h ⊢
    obtain ⟨source | done, next⟩ := turn
    · cases h
    · exact ih h

/-- A record that fails its validation in the loop ends the commit: no call follows the checks. -/
theorem commit_of_invalid_turn {prepared : PreparedAffinityProfile}
    {earlier rest : List AffinityRecord}
    (hsplit : prepared.plan.affinityRecords = earlier ++ record :: rest)
    (hreaches : prepared.Reaches host log earlier state)
    (hinvalid : (validateRecord host record state.log).1 = .error source) :
    prepared.commit host log =
      (.error ⟨source, state.mutationStarted⟩, (validateRecord host record state.log).2) := by
  obtain ⟨checked, hvalid, hrun⟩ := hreaches
  have hturn : commitChange host state record =
      (.error source, { state with log := (validateRecord host record state.log).2 }) := by
    unfold commitChange
    rcases hrecord : validateRecord host record state.log with ⟨result, after⟩
    rw [hrecord] at hinvalid
    obtain rfl : result = .error source := hinvalid
    rfl
  unfold commit
  rw [hvalid]
  dsimp only
  rw [hsplit, commitChanges_append hrun, commitChanges, hturn]

/-! ## The apply -/

/-- The restore file that a token names holds a record of each task that a call of the log may have
changed. -/
def Covers (records : List AffinityRecord) (content : Option FileContent) (log : Log) :
    RollbackToken → Prop
  | .cpuAffinityRestoreFile path _ => ∃ state, loadRestoreState path content = .ok state ∧
      ∀ event ∈ log, event.isSet = true → ∃ record ∈ records, ∃ answer,
        event = .setAffinity record.tid record.applied answer ∧
        ∃ saved ∈ state.affinityRecords, saved.key = record.key
  | _ => False

theorem loadRestoreState_written (path : String) (state : ProfileRestoreState) :
    loadRestoreState path (some (.state { state with version := schemaVersion })) =
      .ok { state with version := schemaVersion } := by
  rw [loadRestoreState]
  exact if_pos rfl

/-- What a saved file holds. -/
theorem saveMergedRestoreState_holds {path : String} {save : SaveAnswer}
    {content after : Option FileContent} {force : Bool}
    (h : saveMergedRestoreState path save content records [] [] force = (.ok (), after)) :
    ∃ state, loadRestoreState path after = .ok state ∧
      ∀ record ∈ records, ∃ saved ∈ state.affinityRecords, saved.key = record.key := by
  have hsaved : ∀ newState : ProfileRestoreState,
      saveRestoreState save content newState = (.ok (), after) →
      after = some (.state { newState with version := schemaVersion }) := by
    intro newState h
    unfold saveRestoreState at h
    cases save with
    | saved =>
      cases h
      rfl
    | failed error renamed => cases h
  unfold saveMergedRestoreState at h
  split at h
  · rw [hsaved _ h]
    exact ⟨_, loadRestoreState_written path _, fun record hrecord => ⟨record, hrecord, rfl⟩⟩
  · split at h
    · cases h
    · rw [hsaved _ h]
      exact ⟨_, loadRestoreState_written path _,
        fun record hrecord => exists_mem_mergeRecords _ hrecord⟩

/-- What an apply did: the records it planned, and the calls it made. -/
structure ApplySpec (action : CpuAffinityProfileAction) (site : ApplySite)
    (records : List AffinityRecord) (outcome : ApplyOutcome) : Prop where
  planned : records = [] ∨ ∃ plan summary left, plannedProfileApplyWithReaders site.tasks
    action.profile none site.readers = .ok (plan, summary, left) ∧ records = plan.affinityRecords
  matched : Clean (Matched records) outcome.log
  token : ∀ failure, outcome.result = .error failure →
    (failure.rollback.isSome ↔ Touched outcome.log)
  covers : ∀ token, (outcome.result = .ok token ∨
    ∃ source, outcome.result = .error ⟨source, some token⟩) →
    Covers records outcome.content outcome.log token

/-- An apply that ends before its commit. -/
theorem ApplySpec.refused {action : CpuAffinityProfileAction} {site : ApplySite}
    {content : Option FileContent} (hquiet : ∀ event ∈ log, event.isSet = false) :
    ApplySpec action site [] ⟨.error ⟨source, none⟩, content, log⟩ where
  planned := .inl rfl
  matched := clean_of_forall fun event hevent before =>
    matched_of_quiet _ before (hquiet event hevent)
  token := by
    rintro failure ⟨⟩
    exact iff_of_false (by simp) (not_touched_of_quiet hquiet)
  covers := by
    rintro token (h | ⟨_, h⟩) <;> cases h

/-- What preparation leaves: no call that changes a task, and, if it succeeds, a file with a record
of every planned task. -/
structure PrepareSpec (site : ApplySite) (profile : Profile) (path : String)
    (result : Except AnyError PreparedAffinityProfile) (content : Option FileContent) (log : Log) :
    Prop where
  quiet : ∀ event ∈ log, event.isSet = false
  planned : ∀ prepared, result = .ok prepared → prepared.restorePath = path ∧
    ∃ left, plannedProfileApplyWithReaders site.tasks profile none site.readers =
      .ok (prepared.plan, prepared.summary, left)
  holds : ∀ prepared, result = .ok prepared → ∃ state, loadRestoreState path content = .ok state ∧
    ∀ record ∈ prepared.plan.affinityRecords, ∃ saved ∈ state.affinityRecords,
      saved.key = record.key

theorem prepareAffinityProfile_spec (site : ApplySite) (profile : Profile) (path : String)
    (force : Bool) :
    ∃ result content log, prepareAffinityProfile site profile path force = (result, content, log) ∧
      PrepareSpec site profile path result content log := by
  have hrefused : ∀ (error : AnyError) (content : Option FileContent) (log : Log),
      (∀ event ∈ log, event.isSet = false) →
      ∃ result after reads, ((Except.error error, content, log) :
        Except AnyError PreparedAffinityProfile × Option FileContent × Log) =
          (result, after, reads) ∧
        PrepareSpec site profile path result after reads :=
    fun error content log hquiet =>
      ⟨.error error, content, log, rfl, hquiet, by rintro _ ⟨⟩, by rintro _ ⟨⟩⟩
  unfold prepareAffinityProfile
  split
  · exact hrefused _ _ _ (by simp)
  · cases hplan : plannedProfileApplyWithReaders site.tasks profile none site.readers with
    | error error => exact hrefused _ _ _ (by simp)
    | ok planned =>
      obtain ⟨plan, summary, left⟩ := planned
      dsimp only
      split
      · exact hrefused _ _ _ (by simp)
      · obtain ⟨reads, valid, hvalidate, hquiet⟩ :=
          validatePlan_spec site.host plan.affinityRecords []
        rw [hvalidate]
        cases valid with
        | error error => exact hrefused _ _ _ hquiet
        | ok done =>
          dsimp only
          cases hsave : saveMergedRestoreState path site.save site.content plan.affinityRecords []
            []
              force with
          | mk saved content =>
            cases saved with
            | error error => exact hrefused _ _ _ hquiet
            | ok done =>
              refine ⟨.ok ⟨plan, summary, path⟩, content, [] ++ reads, rfl, hquiet, ?_, ?_⟩
              · rintro prepared ⟨⟩
                exact ⟨rfl, left, hplan⟩
              · rintro prepared ⟨⟩
                exact saveMergedRestoreState_holds hsave

variable (action : CpuAffinityProfileAction)

open CpuAffinityProfileAction

/-- **An apply with preparation**: it touches matching tasks only, it fails with a token exactly
when it made a set call, and the file of the token holds a record of each task it may have
changed. -/
theorem applyWithPreparedRollback_spec (site : ApplySite) (apply : ApplySite → ApplyOutcome)
    (beforeMutation : RollbackToken → Except AnyError Unit)
    (hpriority : profileUsesPriorityActions action.profile = false) :
    ∃ records, ApplySpec action site records
      (action.applyWithPreparedRollback site apply beforeMutation) := by
  unfold applyWithPreparedRollback
  rw [hpriority]
  simp only [Bool.false_eq_true, if_false]
  cases action.preflight site.content with
  | error source => exact ⟨[], .refused (by simp)⟩
  | ok warnings =>
    obtain ⟨result, content, log, hprepare, hspec⟩ :=
      prepareAffinityProfile_spec site action.profile
      action.restorePath action.forceRestoreOverwrite
    dsimp only
    rw [hprepare]
    cases result with
    | error source => exact ⟨[], .refused hspec.quiet⟩
    | ok prepared =>
      dsimp only
      obtain ⟨hpath, left, hplan⟩ := hspec.planned prepared rfl
      obtain ⟨state, hload, hheld⟩ := hspec.holds prepared rfl
      cases beforeMutation _ with
      | error source => exact ⟨[], .refused hspec.quiet⟩
      | ok done =>
        obtain ⟨segment, committed, hcommit, hdone⟩ := commit_spec site.host prepared log
        dsimp only
        rw [hcommit]
        have hmatched : Clean (Matched prepared.plan.affinityRecords)
            (log ++ segment) := by
          refine clean_append.mpr
            ⟨clean_of_forall fun event hevent before => ?_, ?_⟩
          · exact matched_of_quiet _ before (hspec.quiet event hevent)
          · exact hdone.matched.mono fun before event hevent => hevent.append log
        have htouched : Touched (log ++ segment) ↔ Touched segment := by
          rw [touched_append]
          exact ⟨fun h => h.resolve_left (not_touched_of_quiet hspec.quiet), .inr⟩
        have hcovers : Covers prepared.plan.affinityRecords content (log ++ segment)
            (.cpuAffinityRestoreFile prepared.restorePath prepared.summary.pendingChanges) := by
          refine ⟨state, hpath ▸ hload, fun event hevent hset => ?_⟩
          rcases List.mem_append.mp hevent with hearly | hlate
          · rw [hspec.quiet event hearly] at hset
            cases hset
          · obtain ⟨record, hrecord, answer, rfl⟩ := exists_record_of_clean hdone.matched hlate hset
            exact ⟨record, hrecord, answer, rfl, hheld record hrecord⟩
        refine ⟨prepared.plan.affinityRecords, ?_⟩
        cases committed with
        | error failure =>
          refine ⟨.inr ⟨prepared.plan, prepared.summary, left, hplan, rfl⟩, hmatched, ?_, ?_⟩
          · rintro _ ⟨⟩
            dsimp only
            rw [htouched, ← hdone.started failure rfl]
            cases failure.mutationStarted <;> simp
          · rintro token (h | ⟨source, h⟩)
            · cases h
            · dsimp only at h
              cases hstarted : failure.mutationStarted with
              | true =>
                rw [hstarted] at h
                cases h
                exact hcovers
              | false =>
                rw [hstarted] at h
                cases h
        | ok applied =>
          refine ⟨.inr ⟨prepared.plan, prepared.summary, left, hplan, rfl⟩, hmatched, ?_, ?_⟩
          · rintro failure ⟨⟩
          · rintro token (h | ⟨source, h⟩)
            · cases h
              exact hcovers
            · cases h

/-! ## The script of the apply -/

/-- The writes of a commit from its present state on. -/
def commitScript (host : ProfileRestore.Host) (path : String) (token : RollbackToken) :
    List AffinityRecord → Commit → ApplyScript ApplyResult
  | [], _ => .finish (.ok token)
  | record :: rest, state =>
    match commitChange host state record with
    | (.error source, after) =>
      .finish (.error ⟨source, if after.mutationStarted then some token else none⟩)
    | (.ok (), after) =>
      -- only a set call that succeeds adds its record
      if after.affinityRecords.length = state.affinityRecords.length then
        commitScript host path token rest after
      else .write (.affinity path record.tid) (commitScript host path token rest after)

/-- `apply_with_prepared_rollback` of a profile without priorities, write by write. -/
def CpuAffinityProfileAction.script (action : CpuAffinityProfileAction) (site : ApplySite) :
    ApplyScript ApplyResult :=
  match action.preflight site.content with
  | .error source => .finish (.error ⟨source, none⟩)
  | .ok _ =>
    match prepareAffinityProfile site action.profile action.restorePath
        action.forceRestoreOverwrite with
    | (.error source, _, _) => .finish (.error ⟨source, none⟩)
    | (.ok prepared, _, log) =>
      let token := RollbackToken.cpuAffinityRestoreFile prepared.restorePath
        prepared.summary.pendingChanges
      .prepared token fun hooked =>
        match hooked with
        | .error source => .finish (.error ⟨source, none⟩)
        | .ok _ =>
          match validatePlan site.host prepared.plan.affinityRecords log with
          | (.error source, _) => .finish (.error ⟨source, none⟩)
          | (.ok (), log) => commitScript site.host prepared.restorePath token
              prepared.plan.affinityRecords { log }

/-- The answer of an apply whose commit has ended so. -/
def commitAnswer (token : RollbackToken) : Except AnyError Unit × Commit → ApplyResult
  | (.error source, state) => .error ⟨source, if state.mutationStarted then some token else none⟩
  | (.ok (), _) => .ok token

theorem concluded_commitScript (host : ProfileRestore.Host) (path : String) (token : RollbackToken)
    (answer : RollbackToken → Except AnyError Unit) (records : List AffinityRecord)
    (state : Commit) :
    (commitScript host path token records state).concluded answer =
      commitAnswer token (commitChanges host records state) := by
  induction records generalizing state with
  | nil => rfl
  | cons record rest ih =>
    rw [commitScript, commitChanges]
    rcases commitChange host state record with ⟨source | done, after⟩
    · rfl
    · dsimp only
      split
      · exact ih after
      · exact ih after

/-- The script ends as the apply does. -/
theorem applyWithPreparedRollback_eq_script (site : ApplySite) (apply : ApplySite → ApplyOutcome)
    (beforeMutation : RollbackToken → Except AnyError Unit)
    (hpriority : profileUsesPriorityActions action.profile = false) :
    (action.applyWithPreparedRollback site apply beforeMutation).result =
      (action.script site).concluded beforeMutation := by
  unfold applyWithPreparedRollback script
  rw [hpriority]
  simp only [Bool.false_eq_true, if_false]
  cases action.preflight site.content with
  | error source => rfl
  | ok warnings =>
    dsimp only
    rcases prepareAffinityProfile site action.profile action.restorePath
      action.forceRestoreOverwrite with ⟨source | prepared, content, log⟩
    · rfl
    · dsimp only
      rw [ApplyScript.concluded]
      cases beforeMutation _ with
      | error source => rfl
      | ok done =>
        unfold commit
        dsimp only
        rcases validatePlan site.host prepared.plan.affinityRecords log with ⟨source | valid, log⟩
        · rfl
        · dsimp only
          rw [concluded_commitScript]
          rcases commitChanges site.host prepared.plan.affinityRecords { log } with
            ⟨source | done, after⟩
          · rfl
          · rfl

/-- A turn that ends well leaves the records, or it has made a set call. -/
theorem commitChange_started (host : ProfileRestore.Host) (state : Commit)
    (record : AffinityRecord) :
    (commitChange host state record).2.mutationStarted = true ∨
      (commitChange host state record).2.affinityRecords = state.affinityRecords ∧
        (commitChange host state record).2.mutationStarted = state.mutationStarted := by
  unfold commitChange
  split
  · exact .inr ⟨rfl, rfl⟩
  · exact .inr ⟨rfl, rfl⟩
  · split
    · exact .inl rfl
    · split <;> exact .inl rfl

theorem commitScript_committed {path : String} {tasks : Nat} (records : List AffinityRecord)
    {issued : List HostWrite}
    (hcovered : ∀ x ∈ issued, (RollbackToken.cpuAffinityRestoreFile path tasks).covers x)
    (hstarted : state.mutationStarted = false → issued = []) :
    ApplyScript.Committed applySettled (.cpuAffinityRestoreFile path tasks) issued
      (commitScript host path (.cpuAffinityRestoreFile path tasks) records state) := by
  induction records generalizing state issued with
  | nil => exact .finish hcovered
  | cons record rest ih =>
    have hturn := commitChange_started host state record
    rw [commitScript]
    generalize commitChange host state record = turn at hturn ⊢
    obtain ⟨source | done, after⟩ := turn
    · refine .finish ?_
      cases hafter : after.mutationStarted with
      | true => exact hcovered
      | false =>
        rcases hturn with htrue | ⟨-, hsame⟩
        · exact absurd (hafter.symm.trans htrue) Bool.false_ne_true
        · exact hstarted (hsame.symm.trans hafter)
    · dsimp only
      split
      · refine ih hcovered fun hafter => ?_
        rcases hturn with htrue | ⟨-, hsame⟩
        · exact absurd (hafter.symm.trans htrue) Bool.false_ne_true
        · exact hstarted (hsame.symm.trans hafter)
      · rename_i hgrown
        refine .write (by simp [RollbackToken.covers]) (ih (fun x hx => ?_) fun hafter => ?_)
        · rcases List.mem_append.mp hx with hx | hx
          · exact hcovered x hx
          · obtain rfl := List.mem_singleton.mp hx
            simp [RollbackToken.covers]
        · exact absurd (hafter.symm.trans (hturn.resolve_right fun h => hgrown (congrArg _ h.1)))
            Bool.false_ne_true

/-- **The affinity profile keeps the contract** of a prepared provider. -/
theorem affinityProfile_prepared (site : ApplySite) : (action.script site).IsPreparedAction := by
  unfold script
  cases action.preflight site.content with
  | error source => exact .refuse trivial
  | ok warnings =>
    dsimp only
    rcases prepareAffinityProfile site action.profile action.restorePath
      action.forceRestoreOverwrite with ⟨source | prepared, content, log⟩
    · exact .refuse trivial
    · refine .commit (fun source => ⟨_, rfl, trivial⟩) ?_
      dsimp only
      rcases validatePlan site.host prepared.plan.affinityRecords log with ⟨source | valid, log⟩
      · exact .finish rfl
      · exact commitScript_committed _ (by simp) fun _ => rfl

/-- **Commit is all or token.**  A commit sets the mask of a task only right after it found the task
as it was prepared, and a plan that fails validation is not begun; a failed apply carries a token
exactly when a set call was made, and the restore file of the token holds a record of each task of
such a call. -/
theorem prepared_affinity_all_or_token :
    (∀ (host : ProfileRestore.Host) (prepared : PreparedAffinityProfile) (log : Log),
      ∃ segment result, prepared.commit host log = (result, log ++ segment) ∧
        CommitSpec prepared.plan.affinityRecords segment result ∧
        (∀ source, (validatePlan host prepared.plan.affinityRecords log).1 = .error source →
          result = .error ⟨source, false⟩ ∧ ¬Touched segment) ∧
        ∀ earlier record rest state source,
          prepared.plan.affinityRecords = earlier ++ record :: rest →
          prepared.Reaches host log earlier state →
          (validateRecord host record state.log).1 = .error source →
            result = .error ⟨source, state.mutationStarted⟩ ∧
              log ++ segment = (validateRecord host record state.log).2) ∧
    ∀ (action : CpuAffinityProfileAction) (site : ApplySite) (apply : ApplySite → ApplyOutcome)
      (beforeMutation : RollbackToken → Except AnyError Unit),
      profileUsesPriorityActions action.profile = false →
      ∃ records, ApplySpec action site records
        (action.applyWithPreparedRollback site apply beforeMutation) := by
  refine ⟨fun host prepared log => ?_, fun action site apply beforeMutation hpriority =>
    applyWithPreparedRollback_spec action site apply beforeMutation hpriority⟩
  obtain ⟨segment, result, hcommit, hspec⟩ := commit_spec host prepared log
  refine ⟨segment, result, hcommit, hspec, fun source hinvalid => ?_, ?_⟩
  · obtain ⟨reads, hfailed, huntouched⟩ := commit_of_invalid hinvalid
    obtain ⟨rfl, hreads⟩ := Prod.ext_iff.mp (hcommit.symm.trans hfailed)
    obtain rfl := List.append_cancel_left hreads
    exact ⟨rfl, huntouched⟩
  · intro earlier record rest state source hsplit hreaches hinvalid
    have hended := commit_of_invalid_turn hsplit hreaches hinvalid
    exact Prod.ext_iff.mp (hcommit.symm.trans hended)

end Stutter.Profiles

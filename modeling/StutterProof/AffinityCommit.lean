import StutterProof.ProcessHost
import StutterProof.RuleAgreement

/-! # The prepared apply of an affinity profile

A profile that changes affinities only is planned, its restore records are saved, the caller keeps
the rollback token, and only then the plan is committed: task by task, each checked again right
before its mask is set.  Between any two calls the tasks can exit, be replaced or change. -/
namespace Stutter.Profiles

open ActiveConfig (CpuMask)
open ProfileRestore

/-! ## The plan -/

def ProfileError.anyError : ProfileError → AnyError
  | invalidValue actionKind field reason => .boundary actionKind "action_invalid_value"
      s!"action_invalid_value: {actionKind} field {field}: {reason}"
  | readAffinity tid error => .message s!"failed to read CPU affinity for TID {tid}: {error.text}"
  | readNice tid error =>
    (AnyError.message error.text).context s!"failed to read nice for profile target TID {tid}"
  | readIoprio tid error =>
    (AnyError.message error.text).context
      s!"failed to read I/O priority for profile target TID {tid}"
  | internal message => .message message

def PlannedChange.affinityRecord (change : PlannedChange CpuMask) : AffinityRecord where
  tid := change.tid
  processPid := some change.processPid
  processStarttimeTicks := change.processStarttimeTicks
  taskStarttimeTicks := change.taskStarttimeTicks
  original := change.original
  applied := change.applied

/-- `affinity_records`. -/
def ProfileApplyPlan.affinityRecords (plan : ProfileApplyPlan) : List AffinityRecord :=
  plan.affinityChanges.map PlannedChange.affinityRecord

def ProfileApplyPlan.isEmpty (plan : ProfileApplyPlan) : Bool :=
  plan.affinityChanges.isEmpty && plan.niceRecords.isEmpty && plan.ioniceRecords.isEmpty

/-- `profile_uses_priority_actions`. -/
def profileUsesPriorityActions (profile : Profile) : Bool :=
  profile.rules.any fun rule => rule.nice.isSome || rule.ionice.isSome

/-! ## Validation -/

open ProfileRestore

/-- `validate_record`: whether the task is still there and as it was planned. -/
def validateRecord (host : Host) (record : AffinityRecord) (log : Log) :
    Except AnyError Bool × Log :=
  match record.processPid with
  | none => (.error (.message "prepared affinity requires process identity"), log)
  | some pid =>
    match record.processStarttimeTicks.filter (0 < ·) with
    | none => (.error (.message "prepared affinity requires process start time"), log)
    | some processTicks =>
      match record.taskStarttimeTicks.filter (0 < ·) with
      | none => (.error (.message "prepared affinity requires task start time"), log)
      | some taskTicks =>
        if pid = 0 ∨ record.tid = 0 then
          (.error (.message "prepared affinity requires nonzero IDs"), log)
        else
          match host.processStarttimeAt pid log with
          | (none, log) => (.ok false, log)
          | (some currentProcess, log) =>
            match host.processStarttimeAt record.tid log with
            | (none, log) => (.ok false, log)
            | (some currentTask, log) =>
              if currentProcess ≠ processTicks ∨ currentTask ≠ taskTicks then
                (.error (.message s!"prepared affinity identity changed for TID {record.tid}"), log)
              else
                match host.readAllowedMask record.tid log with
                | (.ok mask, log) =>
                  if mask ≠ record.original then
                    (.error (.message
                      s!"prepared affinity original mask changed for TID {record.tid}"),
                      log)
                  else (.ok true, log)
                | (.error error, log) =>
                  if error.isGone then (.ok false, log)
                  else (.error ((AnyError.message error.text).context
                    "failed to revalidate prepared affinity mask"), log)

/-- `validate_plan`. -/
def validatePlan (host : Host) :
    List AffinityRecord → Log → Except AnyError Unit × Log
  | [], log => (.ok (), log)
  | record :: rest, log =>
    match validateRecord host record log with
    | (.error error, log) => (.error error, log)
    | (.ok _, log) => validatePlan host rest log

/-! ## The commit -/

/-- A plan and where its token will be. -/
structure PreparedAffinityProfile where
  plan : ProfileApplyPlan
  summary : ProfileApplySummary
  restorePath : String

/-- A failed commit, and whether it wrote. -/
structure AffinityCommitFailure where
  source : AnyError
  mutationStarted : Bool

/-- What an apply changed. -/
structure ProfileApplyResult where
  affinityRecords : List AffinityRecord := []
  niceRecords : List NiceRestoreRecordV2 := []
  ioniceRecords : List IoPrioRestoreRecordV2 := []
  summary : ProfileApplySummary := {}

/-- The loop's variables. -/
structure Commit where
  mutationStarted : Bool := false
  affinityRecords : List AffinityRecord := []
  log : Log

/-- One turn of the loop of `commit`. -/
def commitChange (host : Host) (state : Commit) (record : AffinityRecord) :
    Except AnyError Unit × Commit :=
  match validateRecord host record state.log with
  | (.error error, log) => (.error error, { state with log })
  | (.ok false, log) => (.ok (), { state with log })
  | (.ok true, log) =>
    match affinitySetter.call host record.tid record.applied log with
    | (.ok (), log) => (.ok (), { state with
        mutationStarted := true, affinityRecords := state.affinityRecords ++ [record], log })
    | (.error error, log) =>
      if error.isGone then (.ok (), { state with mutationStarted := true, log })
      else (.error ((AnyError.message error.text).context "prepared affinity commit failed"),
        { state with mutationStarted := true, log })

def commitChanges (host : Host) : List AffinityRecord → Commit →
    Except AnyError Unit × Commit
  | [], state => (.ok (), state)
  | record :: rest, state =>
    match commitChange host state record with
    | (.error error, state) => (.error error, state)
    | (.ok (), state) => commitChanges host rest state

/-- `PreparedAffinityProfile::commit`. -/
def PreparedAffinityProfile.commit (host : Host) (prepared : PreparedAffinityProfile)
    (log : Log) : Except AffinityCommitFailure ProfileApplyResult × Log :=
  match validatePlan host prepared.plan.affinityRecords log with
  | (.error source, log) => (.error ⟨source, false⟩, log)
  | (.ok (), log) =>
    match commitChanges host prepared.plan.affinityRecords { log } with
    | (.error source, state) => (.error ⟨source, state.mutationStarted⟩, state.log)
    | (.ok (), state) => (.ok
        { affinityRecords := state.affinityRecords.mergeSort fun a b => decide (a.tid ≤ b.tid)
          summary := prepared.summary }, state.log)

/-! ## The action -/

/-- The action of an affinity profile. -/
structure CpuAffinityProfileAction where
  restorePath : String
  treePid : Nat
  profile : Profile
  forceRestoreOverwrite : Bool

/-- What an apply finds: the tasks of the tree and their attributes at the time of the plan, the
restore file, how its write ends, and the answers of the host from then on. -/
structure ApplySite where
  tasks : TaskMap
  readers : Readers
  content : Option FileContent
  save : SaveAnswer
  host : Host

/-- `preflight_for_restore_path`. -/
def CpuAffinityProfileAction.preflight (action : CpuAffinityProfileAction)
    (content : Option FileContent) : Except AnyError (List String) :=
  if action.treePid = 0 then
    .error (.boundary "cpu_affinity_profile" "action_invalid_target_tid"
      (s!"action_invalid_target_tid: cpu_affinity_profile target tid {action.treePid} " ++
        "must be greater than zero"))
  else if action.profile.rules.isEmpty then
    .error (.boundary "cpu_affinity_profile" "action_invalid_request"
      (s!"action_invalid_request: cpu_affinity_profile: profile '{action.profile.name}' " ++
        "has no rules"))
  else if content.isSome && !action.forceRestoreOverwrite then
    .ok [s!"restore file already exists at {action.restorePath}; " ++
      "new affinity records will be merged"]
  else .ok []

/-- `prepare_affinity_profile`, the restore file it leaves, and the calls it made. -/
def prepareAffinityProfile (site : ApplySite) (profile : Profile) (restorePath : String)
    (force : Bool) :
    Except AnyError PreparedAffinityProfile × Option FileContent × Log :=
  if profileUsesPriorityActions profile then
    (.error (.message "prepared affinity transaction does not authorize priority mutation"),
      site.content, [])
  else
    match plannedProfileApplyWithReaders site.tasks profile none site.readers with
    | .error error => (.error error.anyError, site.content, [])
    | .ok (plan, summary, _) =>
      if plan.isEmpty then
        (.error (.message "prepared affinity transaction has no effective changes"), site.content,
          [])
      else
        match validatePlan site.host plan.affinityRecords [] with
        | (.error error, log) => (.error error, site.content, log)
        | (.ok (), log) =>
          match saveMergedRestoreState restorePath site.save site.content plan.affinityRecords [] []
              force with
          | (.error error, content) => (.error error, content, log)
          | (.ok (), content) => (.ok ⟨plan, summary, restorePath⟩, content, log)

/-- What an apply leaves: its answer, the restore file, and the calls it made. -/
structure ApplyOutcome where
  result : ApplyResult
  content : Option FileContent
  log : Log

/-- `apply_with_prepared_rollback`; `apply` is the one without preparation, for profiles that change
priorities. -/
def CpuAffinityProfileAction.applyWithPreparedRollback (action : CpuAffinityProfileAction)
    (site : ApplySite) (apply : ApplySite → ApplyOutcome)
    (beforeMutation : RollbackToken → Except AnyError Unit) : ApplyOutcome :=
  if profileUsesPriorityActions action.profile then apply site
  else
    match action.preflight site.content with
    | .error source => ⟨.error ⟨source, none⟩, site.content, []⟩
    | .ok _ =>
      match prepareAffinityProfile site action.profile action.restorePath
          action.forceRestoreOverwrite with
      | (.error source, content, log) => ⟨.error ⟨source, none⟩, content, log⟩
      | (.ok prepared, content, log) =>
        let token := RollbackToken.cpuAffinityRestoreFile prepared.restorePath
          prepared.summary.pendingChanges
        match beforeMutation token with
        | .error source => ⟨.error ⟨source, none⟩, content, log⟩
        | .ok () =>
          match prepared.commit site.host log with
          | (.error failure, log) =>
            ⟨.error ⟨failure.source, if failure.mutationStarted then some token else none⟩, content,
              log⟩
          | (.ok _, log) => ⟨.ok token, content, log⟩

end Stutter.Profiles

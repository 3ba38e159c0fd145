import StutterProof.ActiveConfig
import StutterProof.PreparedTransaction
import StutterProof.RollbackRegistry
import StutterProof.Tally

/-! # The prepared apply of nice

The planned loop of the actions and the transaction of nice around it, on the tasks of `/proc`.
Between the two readings of the targets the caller's hook runs; what the other processes of the host
do in this time is part of what the hook does.  The kernel answers each `setpriority` call as it
likes, and an accepted call changes the nice value of its task. -/
namespace Stutter.Nice

open ActiveConfig (TaskIdentity trimmed)

/-! ## The planned loop -/

section Loop
variable {R σ : Type} (applyFn : R → σ → Option AnyError × σ) (makeToken : List R → RollbackToken)

/-- `ApplyTransaction::partial_token`. -/
def partialToken (applied : List R) : Option RollbackToken :=
  if applied.isEmpty then none else some (makeToken applied)

/-- `ApplyTransaction::apply_planned_loop`, on the host that `applyFn` changes. -/
def applyPlannedLoop (applied : List R) : List R → σ → ApplyResult × σ
  | [], host => (.ok (makeToken applied), host)
  | record :: planned, host =>
    match applyFn record host with
    | (none, host) => applyPlannedLoop (applied ++ [record]) planned host
    | (some source, host) => (.error ⟨source, partialToken makeToken applied⟩, host)

end Loop

/-! ## The tasks of `/proc` -/

/-- What `stat` says of a task.  The start time is read on its own by the check of an identity. -/
inductive StatReading where
  | unreadable (error : String)
  | malformed (error : String) (starttimeTicks : Option Nat)
  | read (nice : Int) (starttimeTicks : Nat)
  deriving DecidableEq

def StatReading.starttime : StatReading → Option Nat
  | .unreadable _ => none
  | .malformed _ starttimeTicks => starttimeTicks
  | .read _ starttimeTicks => some starttimeTicks

/-- `/proc/<tid>`; `tgid` is what `status` says, if it can be read. -/
structure ProcTask where
  stat : StatReading
  comm : Option String
  exe : Option String
  tgid : Option (Option Nat)
  present : Bool

abbrev Proc := Nat → ProcTask

def ProcTask.withNice (nice : Int) (task : ProcTask) : ProcTask :=
  { task with stat := match task.stat with
      | .read _ starttimeTicks => .read nice starttimeTicks
      | other => other }

def Proc.setNice (tid : Nat) (nice : Int) (proc : Proc) : Proc :=
  Function.update proc tid ((proc tid).withNice nice)

/-- The error of a system call. -/
structure OsError where
  rawOsError : Option Int
  text : String

/-- The kernel's answer to a `setpriority` call, after the calls before it. -/
abbrev Kernel := List (Nat × Int) → Nat → Int → Option OsError

/-- The host in the course of an apply: the tasks, the calls made and the token the hook took. -/
structure Host where
  proc : Proc
  calls : List (Nat × Int) := []
  durable : Option RollbackToken := none

/-- `set_task_nice`. -/
def setTaskNice (kernel : Kernel) (tid : Nat) (nice : Int) (host : Host) : Option OsError × Host :=
  let called := { host with calls := host.calls ++ [(tid, nice)] }
  match kernel host.calls tid nice with
  | some error => (some { error with
      text := s!"setpriority(PRIO_PROCESS, {tid}, {nice}) failed: {error.text}" }, called)
  | none => (none, { called with proc := host.proc.setNice tid nice })

/-! ## The action -/

/-- The nice values that are allowed. -/
structure NicePolicy where
  allowNiceChanges : Bool := true
  minNice : Int := -20
  maxNice : Int := 19

def linuxMinNice : Int := -20
def linuxMaxNice : Int := 19

/-- The targets and their new nice value. -/
structure NiceAction where
  targets : List TaskIdentity
  nice : Int
  policy : NicePolicy

def invalidNicePolicy (reason : String) : AnyError :=
  .boundary "nice" "action_invalid_policy" s!"action_invalid_policy: nice: {reason}"

def invalidNiceValue (reason : String) : AnyError :=
  .boundary "nice" "action_invalid_value" s!"action_invalid_value: nice field nice: {reason}"

/-- `validate_policy_and_request`. -/
def validatePolicyAndRequest (policy : NicePolicy) (requestedNice : Int) : Except AnyError Unit :=
  if !policy.allowNiceChanges then
    .error (.boundary "nice" "action_policy_denied"
      "action_policy_denied: nice denied by policy requirement allow_nice_changes")
  else if policy.minNice < linuxMinNice || linuxMaxNice < policy.maxNice then
    .error (invalidNicePolicy
      (s!"invalid nice policy range {policy.minNice}..={policy.maxNice}; " ++
      s!"Linux nice range is {linuxMinNice}..={linuxMaxNice}"))
  else if policy.maxNice < policy.minNice then
    .error (invalidNicePolicy
      (s!"invalid nice policy range {policy.minNice}..={policy.maxNice}: " ++
      "min is greater than max"))
  else if requestedNice < linuxMinNice || linuxMaxNice < requestedNice then
    .error (invalidNiceValue (s!"requested nice {requestedNice} is outside Linux nice range " ++
      s!"{linuxMinNice}..={linuxMaxNice}"))
  else if requestedNice < policy.minNice || policy.maxNice < requestedNice then
    .error (invalidNiceValue (s!"requested nice {requestedNice} is outside policy range " ++
      s!"{policy.minNice}..={policy.maxNice}"))
  else .ok ()

/-- A target as `/proc` shows it. -/
structure NiceTargetSnapshot where
  tid : Nat
  processPid : Option Nat
  currentNice : Int
  comm : Option String
  starttimeTicks : Option Nat
  exe : Option String
  deriving DecidableEq

/-- `read_target_snapshot_at`. -/
def readTargetSnapshotAt (procRoot : String) (proc : Proc) (target : TaskIdentity) :
    Except AnyError NiceTargetSnapshot :=
  let statPath := s!"{procRoot}/{target.tid}/stat"
  if target.tid = 0 then
    .error (.boundary "nice" "action_invalid_target_tid"
      s!"action_invalid_target_tid: nice target tid {target.tid} must be greater than zero")
  else
    match (proc target.tid).stat with
    | .unreadable error => .error
        ((AnyError.message error).context
          s!"target task does not exist or stat is unreadable: {statPath}")
    | .malformed error _ => .error
        ((AnyError.message error).context s!"failed to parse nice/starttime from {statPath}")
    | .read currentNice starttimeTicks =>
      if target.starttimeTicks.any (· ≠ starttimeTicks) then
        .error (.boundary "nice" "action_target_identity_mismatch"
          (s!"action_target_identity_mismatch: nice tid={target.tid} starttime mismatch: " ++
            s!"expected={target.starttimeTicks.getD 0} actual={starttimeTicks}"))
      else .ok
        { tid := target.tid
          processPid := target.processPid
          currentNice := currentNice
          comm := ((proc target.tid).comm.map trimmed).filter (· ≠ "")
          starttimeTicks := some starttimeTicks
          exe := (proc target.tid).exe }

section Action
variable (action : NiceAction) (procRoot : String)

/-- `collect_target_snapshots_at`, less the warnings. -/
def collectTargetSnapshotsAt (proc : Proc) : Except AnyError (List NiceTargetSnapshot) := do
  validatePolicyAndRequest action.policy action.nice
  if action.targets.isEmpty then
    .error (.boundary "nice" "action_missing_explicit_targets"
      "action_missing_explicit_targets: nice requires at least one explicit target")
  else
    action.targets.mapM fun target =>
      (readTargetSnapshotAt procRoot proc target).mapError
        (·.context s!"failed to preflight nice target tid={target.tid}")

/-- The restore record of a snapshot. -/
def restoreRecord (snapshot : NiceTargetSnapshot) : NiceRestoreRecord where
  tid := snapshot.tid
  originalNice := snapshot.currentNice
  identity := some
    { tid := snapshot.tid
      processPid := snapshot.processPid
      starttimeTicks := snapshot.starttimeTicks
      comm := snapshot.comm
      exe := snapshot.exe }

/-- The loop of `plan_records`. -/
def planSnapshots (requireIdentity : Bool) :
    List NiceTargetSnapshot → Except AnyError (List NiceRestoreRecord)
  | [] => .ok []
  | snapshot :: rest =>
    if requireIdentity && !(snapshot.starttimeTicks.isSome && snapshot.processPid.isSome) then
      .error (.message s!"nice target tid={snapshot.tid} lacks a complete task identity")
    else do
      let plan ← planSnapshots requireIdentity rest
      if snapshot.currentNice = action.nice then return plan
      else return restoreRecord snapshot :: plan

/-- `plan_records`. -/
def planRecords (proc : Proc) (requireIdentity : Bool) : Except AnyError (List NiceRestoreRecord) :=
  do
  let snapshots ← collectTargetSnapshotsAt action procRoot proc
  planSnapshots action requireIdentity snapshots

/-- `NiceRestoreRecord::tid`. -/
def recordTid (record : NiceRestoreRecord) : Nat := (record.identity.map (·.tid)).getD record.tid

/-- What `apply_plan` does with one record. -/
def applyRecord (kernel : Kernel) (record : NiceRestoreRecord) (host : Host) :
    Option AnyError × Host :=
  let (error, host) := setTaskNice kernel (recordTid record) action.nice host
  (error.map fun e => .message s!"failed to set nice for tid={recordTid record}: {e.text}", host)

/-- `apply_plan`. -/
def applyPlan (kernel : Kernel) (plan : List NiceRestoreRecord) (host : Host) :
    ApplyResult × Host :=
  applyPlannedLoop (applyRecord action kernel) .niceRestore [] plan host

/-- What `before_mutation` answers, and the tasks it leaves. -/
abbrev Hook := RollbackToken → Proc → Except AnyError Unit × Proc

/-- `apply_prepared_at`. -/
def applyPreparedAt (kernel : Kernel) (beforeMutation : Hook) (proc : Proc) : ApplyResult × Host :=
  match planRecords action procRoot proc true with
  | .error source => (.error ⟨source, none⟩, { proc })
  | .ok plan =>
    match beforeMutation (.niceRestore plan) proc with
    | (.error source, proc) => (.error ⟨source, none⟩, { proc })
    | (.ok _, proc) =>
      let host : Host := { proc, durable := some (.niceRestore plan) }
      match planRecords action procRoot proc true with
      | .error source => (.error ⟨source, none⟩, host)
      | .ok current =>
        if current ≠ plan then
          (.error ⟨.message
            "nice target drifted between preparation and commit; nothing was written", none⟩, host)
        else applyPlan action kernel plan host

end Action

/-! ## The rollback -/

/-- `verify_task_identity`, for an identity without a start time of its process. -/
def verifyTaskIdentity (proc : Proc) (identity : TaskRestoreIdentity) : RestoreIdentityStatus :=
  match (proc identity.tid).stat with
  | .unreadable _ => .missing
  | stat =>
    match identity.starttimeTicks, stat.starttime with
    | none, _ => .unknownLegacy
    | some _, none => .mismatch "unable to parse current starttime"
    | some expected, some actual =>
      if expected ≠ actual then
        .mismatch s!"starttime_ticks mismatch: expected={expected} actual={actual}"
      else
        match identity.processPid with
        | none => .sameTask
        | some expectedPid =>
          match (proc identity.tid).tgid with
          | none => .mismatch "unable to read current process_pid"
          | some none => .mismatch "unable to parse current process_pid"
          | some (some actualPid) =>
            if actualPid ≠ expectedPid then
              .mismatch s!"process_pid mismatch: expected={expectedPid} actual={actualPid}"
            else .sameTask

/-- `NiceRestoreRecord::restore_identity`. -/
def restoreIdentity (record : NiceRestoreRecord) : TaskRestoreIdentity :=
  record.identity.getD ⟨record.tid, none, none, none, none⟩

/-- `classify_restore_write_error`; 3 is `ESRCH` and 2 is `ENOENT`. -/
def classifyRestoreWriteError (proc : Proc) (tid : Nat) (error : OsError) : RestoreWriteError :=
  if error.rawOsError = some 3 || (error.rawOsError = some 2 && !(proc tid).present) then
    .missingTask
  else .failed error.text

/-- What a rollback did. -/
structure RestoreSummary where
  restored : Nat := 0
  skippedMissing : Nat := 0
  skippedIdentityMismatch : Nat := 0
  failed : Nat := 0
  failures : List String := []

/-- The write of a record whose identity passed. -/
def rollbackWrite (kernel : Kernel) (record : NiceRestoreRecord) (summary : RestoreSummary)
    (host : Host) :
    RestoreSummary × Host :=
  let tid := (restoreIdentity record).tid
  match setTaskNice kernel tid record.originalNice host with
  | (none, host) => ({ summary with restored := summary.restored + 1 }, host)
  | (some error, host) =>
    match classifyRestoreWriteError host.proc tid error with
    | .missingTask => ({ summary with skippedMissing := summary.skippedMissing + 1 }, host)
    | .failed text =>
      let failure := s!"failed to restore original nice={record.originalNice} for tid={tid}: {text}"
      ({ summary with failed := summary.failed + 1, failures := summary.failures ++ [failure] },
        host)

/-- One turn of the loop of `rollback`. -/
def rollbackRecord (kernel : Kernel) (state : RestoreSummary × Host) (record : NiceRestoreRecord) :
    RestoreSummary × Host :=
  match verifyTaskIdentity state.2.proc (restoreIdentity record) with
  | .sameTask | .unknownLegacy => rollbackWrite kernel record state.1 state.2
  | .missing => ({ state.1 with skippedMissing := state.1.skippedMissing + 1 }, state.2)
  | .mismatch _ =>
    ({ state.1 with skippedIdentityMismatch := state.1.skippedIdentityMismatch + 1 }, state.2)

/-- `NiceAction::rollback`. -/
def rollback (kernel : Kernel) (token : RollbackToken) (host : Host) :
    Except AnyError Unit × Host :=
  match token with
  | .niceRestore records =>
    let (summary, host) := records.foldl (rollbackRecord kernel) ({}, host)
    let errors := String.intercalate "; " summary.failures
    if 0 < summary.failed then
      (.error (.boundary "nice" "action_restore_failed"
        (s!"action_restore_failed: nice: failed to rollback nice after attempting all records: " ++
          s!"restored={summary.restored} skipped_missing={summary.skippedMissing} " ++
          s!"skipped_identity_mismatch={summary.skippedIdentityMismatch} " ++
          s!"failed={summary.failed} errors={errors}")), host)
    else (.ok (), host)
  | token => (.error (.message
      s!"invalid rollback token: expected nice-restore, actual {token.kind}"), host)

/-! ## What the loop leaves -/

section Loop
variable {R σ : Type} {applyFn : R → σ → Option AnyError × σ} {makeToken : List R → RollbackToken}

variable (applyFn) in
/-- The records were applied in this order, each without an error. -/
inductive Applied : List R → σ → σ → Prop where
  | nil (host : σ) : Applied [] host host
  | cons {record : R} {rest : List R} {host mid after : σ} (h : applyFn record host = (none, mid))
      (hrest : Applied rest mid after) : Applied (record :: rest) host after

variable (applyFn makeToken) in
/-- How the loop ends: each record was applied and the token holds them all, or one failed and the
token holds those before it. -/
inductive LoopEnds (applied : List R) : List R → σ → ApplyResult × σ → Prop where
  | finished {planned : List R} {host after : σ} (h : Applied applyFn planned host after) :
      LoopEnds applied planned host (.ok (makeToken (applied ++ planned)), after)
  | stopped {written rest : List R} {failed : R} {source : AnyError} {host mid after : σ}
      (h : Applied applyFn written host mid) (hfailed : applyFn failed mid = (some source, after)) :
      LoopEnds applied (written ++ failed :: rest) host
        (.error ⟨source, partialToken makeToken (applied ++ written)⟩, after)

variable (applyFn makeToken) in
/-- **The loop's token holds the records that were applied**, in their order. -/
theorem applyPlannedLoop_ends (applied planned : List R) (host : σ) :
    LoopEnds applyFn makeToken applied planned host
      (applyPlannedLoop applyFn makeToken applied planned host) := by
  induction planned generalizing applied host with
  | nil =>
    have h : LoopEnds applyFn makeToken applied [] host (.ok (makeToken (applied ++ [])), host) :=
      .finished (.nil host)
    rwa [List.append_nil] at h
  | cons record planned ih =>
    rw [applyPlannedLoop]
    rcases hrecord : applyFn record host with ⟨answer, mid⟩
    cases answer with
    | some source =>
      have h : LoopEnds applyFn makeToken applied ([] ++ record :: planned) host
          (.error ⟨source, partialToken makeToken (applied ++ [])⟩, mid) :=
            .stopped (.nil host) hrecord
      rwa [List.append_nil] at h
    | none =>
      have h := ih (applied ++ [record]) mid
      show LoopEnds applyFn makeToken applied (record :: planned) host
        (applyPlannedLoop applyFn makeToken (applied ++ [record]) planned mid)
      generalize applyPlannedLoop applyFn makeToken (applied ++ [record]) planned mid = out at h
      cases h with
      | finished h =>
        rw [List.append_assoc]
        exact .finished (.cons hrecord h)
      | stopped h hfailed =>
        rw [List.append_assoc]
        exact .stopped (.cons hrecord h) hfailed

end Loop

/-! ## The nice values of the host -/

theorem withNice_withNice (first last : Int) (task : ProcTask) :
    (task.withNice first).withNice last = task.withNice last := by
  unfold ProcTask.withNice
  cases task.stat <;> rfl

theorem withNice_of_stat {task : ProcTask} {nice : Int} {starttimeTicks : Nat}
    (h : task.stat = .read nice starttimeTicks) : task.withNice nice = task := by
  cases task
  cases h
  rfl

/-- Another nice value is another task. -/
theorem withNice_ne {task : ProcTask} {nice other : Int} {starttimeTicks : Nat}
    (h : task.stat = .read nice starttimeTicks) (hne : nice ≠ other) :
    task.withNice other ≠ task := by
  intro heq
  have hstat := congrArg ProcTask.stat heq
  unfold ProcTask.withNice at hstat
  rw [h] at hstat
  cases hstat
  exact hne rfl

theorem setNice_apply (proc : Proc) (tid other : Nat) (nice : Int) :
    proc.setNice tid nice other = if other = tid then (proc other).withNice nice
    else proc other := by
  unfold Proc.setNice
  by_cases h : other = tid
  · rw [h, Function.update_self, if_pos rfl]
  · rw [Function.update_of_ne h, if_neg h]

/-- What a set call makes of the host. -/
theorem setTaskNice_spec (kernel : Kernel) (tid : Nat) (nice : Int) (host : Host) :
    (setTaskNice kernel tid nice host).2.calls = host.calls ++ [(tid, nice)] ∧
      (setTaskNice kernel tid nice host).2.durable = host.durable ∧
      (setTaskNice kernel tid nice host).2.proc =
        if (setTaskNice kernel tid nice host).1 = none then host.proc.setNice tid nice
        else host.proc := by
  unfold setTaskNice
  cases kernel host.calls tid nice with
  | some error => exact ⟨rfl, rfl, rfl⟩
  | none => exact ⟨rfl, rfl, rfl⟩

section Writes
variable {action : NiceAction} {kernel : Kernel}

/-- The call that a record stands for. -/
def callOf (action : NiceAction) (record : NiceRestoreRecord) : Nat × Int :=
  (recordTid record, action.nice)

theorem applyRecord_snd (record : NiceRestoreRecord) (host : Host) :
    (applyRecord action kernel record host).2 =
      (setTaskNice kernel (recordTid record) action.nice host).2 := rfl

variable {record : NiceRestoreRecord}

theorem applyRecord_fst_eq_none {host : Host} :
    (applyRecord action kernel record host).1 = none ↔
      (setTaskNice kernel (recordTid record) action.nice host).1 = none :=
  Option.map_eq_none_iff

variable {host after : Host}

theorem applyRecord_ok (h : applyRecord action kernel record host = (none, after)) :
    after.calls = host.calls ++ [callOf action record] ∧ after.durable = host.durable ∧
      after.proc = host.proc.setNice (recordTid record) action.nice := by
  obtain ⟨hcalls, hdurable, hproc⟩ := setTaskNice_spec kernel (recordTid record) action.nice host
  have hnone := applyRecord_fst_eq_none.mp (congrArg Prod.fst h)
  rw [if_pos hnone] at hproc
  rw [← applyRecord_snd, h] at hcalls hdurable hproc
  exact ⟨hcalls, hdurable, hproc⟩

/-- A call that fails changes no task. -/
theorem applyRecord_error {source : AnyError}
    (h : applyRecord action kernel record host = (some source, after)) :
    after.calls = host.calls ++ [callOf action record] ∧ after.durable = host.durable ∧
      after.proc = host.proc := by
  obtain ⟨hcalls, hdurable, hproc⟩ := setTaskNice_spec kernel (recordTid record) action.nice host
  have hsome : (setTaskNice kernel (recordTid record) action.nice host).1 ≠ none := by
    rw [Ne, ← applyRecord_fst_eq_none, h]
    simp
  rw [if_neg hsome] at hproc
  rw [← applyRecord_snd, h] at hcalls hdurable hproc
  exact ⟨hcalls, hdurable, hproc⟩

/-- **The writes of applied records**: their calls, and the requested value at their tasks. -/
theorem Applied.writes {written : List NiceRestoreRecord}
    (h : Applied (applyRecord action kernel) written host after) :
    after.calls = host.calls ++ written.map (callOf action) ∧ after.durable = host.durable ∧
      ∀ tid, after.proc tid = if tid ∈ written.map recordTid then
        (host.proc tid).withNice action.nice
        else host.proc tid := by
  induction h with
  | nil host => simp
  | @cons record rest host mid after hrecord hrest ih =>
    obtain ⟨hcalls, hdurable, hproc⟩ := applyRecord_ok hrecord
    obtain ⟨ihcalls, ihdurable, ihproc⟩ := ih
    refine ⟨by rw [ihcalls, hcalls, List.map_cons, List.append_assoc]; rfl,
      ihdurable.trans hdurable, fun tid => ?_⟩
    rw [ihproc tid, hproc, setNice_apply, List.map_cons]
    by_cases hrest : tid ∈ rest.map recordTid
    · rw [if_pos hrest, if_pos (List.mem_cons_of_mem _ hrest)]
      split
      · exact withNice_withNice ..
      · rfl
    · rw [if_neg hrest]
      by_cases heq : tid = recordTid record
      · rw [if_pos heq, if_pos (heq ▸ List.mem_cons_self)]
      · rw [if_neg heq, if_neg (by simp [heq, hrest])]

end Writes

/-! ## What the plan holds -/

section Plan
variable {action : NiceAction} {procRoot : String} {proc : Proc} {target : TaskIdentity}

/-- The record a target has in the plan. -/
def plannedRecord (action : NiceAction) (procRoot : String) (proc : Proc) (target : TaskIdentity) :
    Option NiceRestoreRecord :=
  match readTargetSnapshotAt procRoot proc target with
  | .error _ => none
  | .ok snapshot =>
    if snapshot.currentNice = action.nice then none else some (restoreRecord snapshot)

/-- A target that was read, as its task then was. -/
theorem readTargetSnapshotAt_ok {snapshot : NiceTargetSnapshot}
    (h : readTargetSnapshotAt procRoot proc target = .ok snapshot) :
    ∃ starttimeTicks, (proc target.tid).stat = .read snapshot.currentNice starttimeTicks ∧
      (∀ expected, target.starttimeTicks = some expected → expected = starttimeTicks) ∧
      snapshot =
        { tid := target.tid
          processPid := target.processPid
          currentNice := snapshot.currentNice
          comm := ((proc target.tid).comm.map trimmed).filter (· ≠ "")
          starttimeTicks := some starttimeTicks
          exe := (proc target.tid).exe } := by
  unfold readTargetSnapshotAt at h
  simp only at h
  split at h
  · cases h
  · split at h
    · cases h
    · cases h
    · rename_i nice starttimeTicks hstat
      split at h
      · cases h
      · rename_i hsame
        refine ⟨starttimeTicks, ?_, ?_, ?_⟩
        · rw [hstat, ← Except.ok.inj h]
        · intro expected hexpected
          by_contra hne
          exact hsame (by rw [hexpected]; simpa using hne)
        · rw [← Except.ok.inj h]

variable {plan : List NiceRestoreRecord}

theorem planSnapshots_ok {snapshots : List NiceTargetSnapshot}
    (h : planSnapshots action true snapshots = .ok plan) :
    plan = snapshots.filterMap fun snapshot =>
      if snapshot.currentNice = action.nice then none else some (restoreRecord snapshot) := by
  induction snapshots generalizing plan with
  | nil =>
    cases h
    rfl
  | cons snapshot rest ih =>
    unfold planSnapshots at h
    split at h
    · cases h
    · obtain ⟨more, hmore, h⟩ := Tally.ok_of_bind h
      rw [List.filterMap_cons, ← ih hmore]
      split at h
      · rename_i hsame
        cases h
        rw [if_pos hsame]
      · rename_i hother
        cases h
        rw [if_neg hother]

variable (action) in
theorem mapM_read_ok {targets : List TaskIdentity} {snapshots : List NiceTargetSnapshot}
    (h : (targets.mapM fun target => (readTargetSnapshotAt procRoot proc target).mapError
      (·.context s!"failed to preflight nice target tid={target.tid}")) = .ok snapshots) :
    (∀ target ∈ targets, ∃ snapshot, readTargetSnapshotAt procRoot proc target = .ok snapshot) ∧
      (snapshots.filterMap fun snapshot =>
        if snapshot.currentNice = action.nice then none else some (restoreRecord snapshot)) =
      targets.filterMap (plannedRecord action procRoot proc) := by
  induction targets generalizing snapshots with
  | nil =>
    cases h
    exact ⟨fun target hmem => absurd hmem List.not_mem_nil, rfl⟩
  | cons target rest ih =>
    rw [List.mapM_cons] at h
    obtain ⟨snapshot, hread, h⟩ := Tally.ok_of_bind h
    obtain ⟨more, hmore, h⟩ := Tally.ok_of_bind h
    cases h
    obtain ⟨ihread, ihplan⟩ := ih hmore
    have hsnapshot : readTargetSnapshotAt procRoot proc target = .ok snapshot := by
      cases hresult : readTargetSnapshotAt procRoot proc target with
      | error e =>
        rw [hresult] at hread
        cases hread
      | ok found =>
        rw [hresult] at hread
        cases hread
        rfl
    refine ⟨fun other hother => ?_, ?_⟩
    · rcases List.mem_cons.mp hother with rfl | hmem
      · exact ⟨snapshot, hsnapshot⟩
      · exact ihread other hmem
    · rw [List.filterMap_cons, List.filterMap_cons, ihplan]
      unfold plannedRecord
      rw [hsnapshot]

/-- **The plan is the records of its targets**, each of which was read. -/
theorem planRecords_ok (h : planRecords action procRoot proc true = .ok plan) :
    (∀ target ∈ action.targets, ∃ snapshot,
      readTargetSnapshotAt procRoot proc target = .ok snapshot) ∧
      plan = action.targets.filterMap (plannedRecord action procRoot proc) := by
  unfold planRecords at h
  obtain ⟨snapshots, hsnapshots, h⟩ := Tally.ok_of_bind h
  unfold collectTargetSnapshotsAt at hsnapshots
  obtain ⟨-, -, hsnapshots⟩ := Tally.ok_of_bind hsnapshots
  split at hsnapshots
  · cases hsnapshots
  · obtain ⟨hread, hplan⟩ := mapM_read_ok action hsnapshots
    exact ⟨hread, (planSnapshots_ok h).trans hplan⟩

/-- A planned record is of a target that is off the requested value. -/
theorem plannedRecord_eq_some {record : NiceRestoreRecord} :
    plannedRecord action procRoot proc target = some record ↔
      ∃ snapshot, readTargetSnapshotAt procRoot proc target = .ok snapshot ∧
        snapshot.currentNice ≠ action.nice ∧ restoreRecord snapshot = record := by
  unfold plannedRecord
  cases readTargetSnapshotAt procRoot proc target with
  | error e => simp
  | ok snapshot => by_cases h : snapshot.currentNice = action.nice <;> simp [h]

/-- What a record of the plan says of its task. -/
theorem stat_of_mem_plan {record : NiceRestoreRecord}
    (h : planRecords action procRoot proc true = .ok plan) (hmem : record ∈ plan) :
    (∃ starttimeTicks, (proc (recordTid record)).stat = .read record.originalNice starttimeTicks) ∧
      record.originalNice ≠ action.nice ∧ (restoreIdentity record).tid = recordTid record ∧
      (restoreIdentity record).starttimeTicks.isSome = true := by
  rw [(planRecords_ok h).2, List.mem_filterMap] at hmem
  obtain ⟨target, -, hrecord⟩ := hmem
  obtain ⟨snapshot, hread, hoff, rfl⟩ := plannedRecord_eq_some.mp hrecord
  obtain ⟨starttimeTicks, hstat, -, hsnapshot⟩ := readTargetSnapshotAt_ok hread
  refine ⟨⟨starttimeTicks, ?_⟩, hoff, rfl, ?_⟩
  · rw [hsnapshot]
    exact hstat
  · rw [hsnapshot]
    rfl

/-- Two readings of a task that agree on its record agree. -/
theorem read_eq_of_restoreRecord_eq {after : Proc} {other : TaskIdentity}
    {first second third : NiceTargetSnapshot}
    (hfirst : readTargetSnapshotAt procRoot proc target = .ok first)
    (hsecond : readTargetSnapshotAt procRoot after other = .ok second)
    (hthird : readTargetSnapshotAt procRoot after target = .ok third)
    (hsame : restoreRecord second = restoreRecord first) : third = first := by
  obtain ⟨start, hstat, -, hfirst⟩ := readTargetSnapshotAt_ok hfirst
  obtain ⟨start', hstat', -, hsecond⟩ := readTargetSnapshotAt_ok hsecond
  obtain ⟨start'', hstat'', -, hthird⟩ := readTargetSnapshotAt_ok hthird
  obtain ⟨htid, hnice, hidentity⟩ := NiceRestoreRecord.mk.inj hsame
  obtain ⟨-, -, hstart, hcomm, hexe⟩ := TaskRestoreIdentity.mk.inj (Option.some.inj hidentity)
  have htid : other.tid = target.tid := by
    rw [hfirst, hsecond] at htid
    exact htid
  rw [htid, hstat''] at hstat'
  obtain ⟨hniceAfter, rfl⟩ := StatReading.read.inj hstat'
  rw [hfirst, hsecond] at hstart hcomm hexe
  rw [htid] at hcomm hexe
  rw [hthird, hfirst]
  congr 1
  · exact hniceAfter.trans hnice

end Plan

/-! ## What the rollback leaves -/

section Rollback
variable {kernel : Kernel} {proc : Proc}

/-- The rollback writes the record. -/
def Verified (proc : Proc) (record : NiceRestoreRecord) : Bool :=
  match verifyTaskIdentity proc (restoreIdentity record) with
  | .sameTask | .unknownLegacy => true
  | _ => false

/-- The check of an identity does not depend on nice values. -/
theorem verifyTaskIdentity_congr (proc : Proc) (nice : Int) {after : Proc}
    {identity : TaskRestoreIdentity} (h : after identity.tid = proc identity.tid ∨
      after identity.tid = (proc identity.tid).withNice nice) :
    verifyTaskIdentity after identity = verifyTaskIdentity proc identity := by
  rcases h with h | h
  · unfold verifyTaskIdentity
    rw [h]
  · unfold verifyTaskIdentity
    rw [h]
    unfold ProcTask.withNice
    cases (proc identity.tid).stat <;> rfl

theorem verified_setNice (tid : Nat) (nice : Int) (record : NiceRestoreRecord) :
    Verified (proc.setNice tid nice) record = Verified proc record := by
  unfold Verified
  rw [verifyTaskIdentity_congr proc nice]
  rw [setNice_apply]
  split
  · exact .inr rfl
  · exact .inl rfl

theorem setTaskNice_accepted (haccepts : ∀ calls tid nice, kernel calls tid nice = none) (tid : Nat)
    (nice : Int) (host : Host) :
    setTaskNice kernel tid nice host =
      (none, { host with
        calls := host.calls ++ [(tid, nice)], proc := host.proc.setNice tid nice }) := by
  unfold setTaskNice
  rw [haccepts]

/-- One turn of a rollback whose calls are accepted. -/
theorem rollbackRecord_accepted (haccepts : ∀ calls tid nice, kernel calls tid nice = none)
    (state : RestoreSummary × Host) (record : NiceRestoreRecord) :
    (rollbackRecord kernel state record).2.proc =
      if Verified state.2.proc record then
        state.2.proc.setNice (restoreIdentity record).tid record.originalNice
      else state.2.proc := by
  have hwrite : (rollbackWrite kernel record state.1 state.2).2.proc =
      state.2.proc.setNice (restoreIdentity record).tid record.originalNice := by
    unfold rollbackWrite
    simp only [setTaskNice_accepted haccepts]
  unfold rollbackRecord Verified
  cases verifyTaskIdentity state.2.proc (restoreIdentity record) with
  | sameTask => exact hwrite
  | unknownLegacy => exact hwrite
  | missing => rfl
  | mismatch reason => rfl

/-- **What an accepted rollback leaves**: each task with a record that passed has the value that the
records of this task hold. -/
theorem rollbackRecords_proc (haccepts : ∀ calls tid nice, kernel calls tid nice = none)
    (original : Nat → Int) (records : List NiceRestoreRecord)
    (horiginal : ∀ record ∈ records, record.originalNice = original (restoreIdentity record).tid)
    (state : RestoreSummary × Host) (tid : Nat) :
    (records.foldl (rollbackRecord kernel) state).2.proc tid =
      if ∃ record ∈ records, (restoreIdentity record).tid = tid ∧
        Verified state.2.proc record = true
      then (state.2.proc tid).withNice (original tid) else state.2.proc tid := by
  induction records generalizing state with
  | nil => simp
  | cons record rest ih =>
    have hturn := rollbackRecord_accepted haccepts state record
    rw [List.foldl_cons, ih fun other hother => horiginal other (List.mem_cons_of_mem _ hother),
      hturn]
    have hnice := horiginal record List.mem_cons_self
    cases hverified : Verified state.2.proc record with
    | false =>
      simp only [Bool.false_eq_true, if_false]
      refine if_congr ?_ rfl rfl
      constructor
      · rintro ⟨other, hother, h⟩
        exact ⟨other, List.mem_cons_of_mem _ hother, h⟩
      · rintro ⟨other, hother, h⟩
        rcases List.mem_cons.mp hother with rfl | hother
        · rw [hverified] at h
          exact absurd h.2 (by simp)
        · exact ⟨other, hother, h⟩
    | true =>
      simp only [if_true, verified_setNice, setNice_apply]
      by_cases htid : tid = (restoreIdentity record).tid
      · -- this record's task: a later record of it writes the same value
        have hwritten : ∃ other ∈ record :: rest,
            (restoreIdentity other).tid = tid ∧ Verified state.2.proc other = true :=
          ⟨record, List.mem_cons_self, htid.symm, hverified⟩
        rw [if_pos htid, if_pos hwritten, hnice, ← htid, withNice_withNice]
        split <;> rfl
      · rw [if_neg htid]
        refine if_congr ?_ rfl rfl
        constructor
        · rintro ⟨other, hother, h⟩
          exact ⟨other, List.mem_cons_of_mem _ hother, h⟩
        · rintro ⟨other, hother, h⟩
          rcases List.mem_cons.mp hother with rfl | hother
          · exact absurd h.1.symm htid
          · exact ⟨other, hother, h⟩

theorem rollback_niceRestore_proc (records : List NiceRestoreRecord) (host : Host) :
    (rollback kernel (.niceRestore records) host).2.proc =
      (records.foldl (rollbackRecord kernel) ({}, host)).2.proc := by
  unfold rollback
  simp only
  split <;> rfl

end Rollback

/-! ## The prepared apply -/

/-- The token of a result, whole or partial. -/
def resultToken : ApplyResult → Option RollbackToken
  | .ok token => some token
  | .error e => e.rollback

/-- The calls that the kernel accepted, after the calls of `history`. -/
def acceptedCalls (kernel : Kernel) (history : List (Nat × Int)) :
    List (Nat × Int) → List (Nat × Int)
  | [] => []
  | call :: calls =>
    let later := acceptedCalls kernel (history ++ [call]) calls
    if (kernel history call.1 call.2).isNone then call :: later else later

section Applying
variable {action : NiceAction} {kernel : Kernel} {host after : Host}

theorem kernel_of_applyRecord_ok {record : NiceRestoreRecord}
    (h : applyRecord action kernel record host = (none, after)) :
    kernel host.calls (recordTid record) action.nice = none := by
  have hnone := applyRecord_fst_eq_none.mp (congrArg Prod.fst h)
  unfold setTaskNice at hnone
  cases hkernel : kernel host.calls (recordTid record) action.nice with
  | none => rfl
  | some error =>
    rw [hkernel] at hnone
    cases hnone

theorem kernel_of_applyRecord_error {record : NiceRestoreRecord} {source : AnyError}
    (h : applyRecord action kernel record host = (some source, after)) :
    kernel host.calls (recordTid record) action.nice ≠ none := by
  intro hkernel
  have hnone : (setTaskNice kernel (recordTid record) action.nice host).1 = none := by
    unfold setTaskNice
    rw [hkernel]
  have hfst := applyRecord_fst_eq_none.mpr hnone
  rw [h] at hfst
  cases hfst

/-- The calls of applied records are accepted, whatever comes after them. -/
theorem Applied.acceptedCalls {written : List NiceRestoreRecord}
    (h : Applied (applyRecord action kernel) written host after) (more : List (Nat × Int)) :
    acceptedCalls kernel host.calls (written.map (callOf action) ++ more) =
      written.map (callOf action) ++ Nice.acceptedCalls kernel after.calls more := by
  induction h with
  | nil host => rfl
  | @cons record rest host mid after hrecord hrest ih =>
    rw [List.map_cons, List.cons_append, Nice.acceptedCalls]
    have hkernel : kernel host.calls (callOf action record).1 (callOf action record).2 = none :=
      kernel_of_applyRecord_ok hrecord
    rw [hkernel, ← (applyRecord_ok hrecord).1, ih]
    rfl

/-- What `apply_plan` did: the records written, the one refused, if any, and those after it. -/
structure PlanApplied (action : NiceAction) (kernel : Kernel) (plan : List NiceRestoreRecord)
    (before : Host) (out : ApplyResult × Host) (written refused : List NiceRestoreRecord) :
    Prop where
  plan_eq : ∃ rest, plan = written ++ refused ++ rest
  calls : out.2.calls = before.calls ++ (written ++ refused).map (callOf action)
  accepted : acceptedCalls kernel before.calls ((written ++ refused).map (callOf action)) =
    written.map (callOf action)
  durable : out.2.durable = before.durable
  proc : ∀ tid, out.2.proc tid = if tid ∈ written.map recordTid
    then (before.proc tid).withNice action.nice else before.proc tid
  token : resultToken out.1 = some (.niceRestore written) ∨ resultToken out.1 = none ∧ written = []
  started : written ++ refused = [] → plan = []

variable (action kernel) in
theorem applyPlan_applied (plan : List NiceRestoreRecord) (before : Host) :
    ∃ written refused, PlanApplied action kernel plan before (applyPlan action kernel plan before)
      written refused := by
  have hends := applyPlannedLoop_ends (applyRecord action kernel) .niceRestore [] plan before
  unfold applyPlan
  generalize applyPlannedLoop (applyRecord action kernel) .niceRestore [] plan before = out at hends
  cases hends with
  | finished happlied =>
    obtain ⟨hcalls, hdurable, hproc⟩ := happlied.writes
    have haccepted := happlied.acceptedCalls []
    refine ⟨plan, [], ⟨[], by simp⟩, by simpa using hcalls, ?_, hdurable, hproc, .inl rfl, ?_⟩
    · simpa [Nice.acceptedCalls] using haccepted
    · simp
  | @stopped written rest failed source _ mid after happlied hfailed =>
    obtain ⟨hcalls, hdurable, hproc⟩ := happlied.writes
    obtain ⟨hcalls', hdurable', hproc'⟩ := applyRecord_error hfailed
    have haccepted := happlied.acceptedCalls [callOf action failed]
    have hkernel : kernel mid.calls (callOf action failed).1 (callOf action failed).2 ≠ none :=
      kernel_of_applyRecord_error hfailed
    refine ⟨written, [failed], ⟨rest, by simp⟩, ?_, ?_, hdurable'.trans hdurable, ?_, ?_, ?_⟩
    · show after.calls = _
      rw [hcalls', hcalls, List.map_append, List.append_assoc]
      rfl
    · rw [List.map_append, List.map_singleton, haccepted, Nice.acceptedCalls]
      simp [Nice.acceptedCalls, Option.isNone_iff_eq_none, hkernel]
    · intro tid
      show after.proc tid = _
      rw [hproc']
      exact hproc tid
    · show partialToken RollbackToken.niceRestore ([] ++ written) = _ ∨
        partialToken RollbackToken.niceRestore ([] ++ written) = none ∧ written = []
      cases written with
      | nil => exact .inr ⟨rfl, rfl⟩
      | cons record more => exact .inl rfl
    · intro h
      simp at h

end Applying

section Prepared
variable (action : NiceAction) (procRoot : String) (kernel : Kernel) (beforeMutation : Hook)
    (proc : Proc)

/-- The tasks at the second reading. -/
def procAtCommit : Proc :=
  match planRecords action procRoot proc true with
  | .ok plan => (beforeMutation (.niceRestore plan) proc).2
  | .error _ => proc

/-- The host at the second reading, once the hook took the plan's token. -/
def hostAtCommit (plan : List NiceRestoreRecord) : Host :=
  { proc := procAtCommit action procRoot beforeMutation proc, durable := some (.niceRestore plan) }

/-- The target's task is not what it was when the plan was made. -/
def Drifted (target : TaskIdentity) : Prop :=
  readTargetSnapshotAt procRoot (procAtCommit action procRoot beforeMutation proc) target ≠
    readTargetSnapshotAt procRoot proc target

/-- The target can be read and does not have the requested value. -/
def OffRequest (proc : Proc) (target : TaskIdentity) : Prop :=
  (plannedRecord action procRoot proc target).isSome = true

/-- The hook took the plan's token, and both readings succeeded. -/
def ReachesCommit : Prop :=
  ∃ plan current, planRecords action procRoot proc true = .ok plan ∧
    (beforeMutation (.niceRestore plan) proc).1 = .ok () ∧
    planRecords action procRoot (procAtCommit action procRoot beforeMutation proc) true =
      .ok current

/-- Where the apply gets so far and has something to write, a drift shows at a target that is off
the requested value at one of the readings. -/
def DriftShows : Prop :=
  ReachesCommit action procRoot beforeMutation proc →
  (∃ target ∈ action.targets, OffRequest action procRoot proc target) →
  (∃ target ∈ action.targets, Drifted action procRoot beforeMutation proc target) →
  ∃ target ∈ action.targets, Drifted action procRoot beforeMutation proc target ∧
    (OffRequest action procRoot proc target ∨
      OffRequest action procRoot (procAtCommit action procRoot beforeMutation proc) target)

/-- **An apply either stops before its loop or runs it**, on the tasks the hook left. -/
theorem applyPreparedAt_cases :
    ((applyPreparedAt action procRoot kernel beforeMutation proc).2.calls = [] ∧
      resultToken (applyPreparedAt action procRoot kernel beforeMutation proc).1 = none ∧
      (applyPreparedAt action procRoot kernel beforeMutation proc).2.proc =
        procAtCommit action procRoot beforeMutation proc ∧
      ∀ plan, planRecords action procRoot proc true = .ok plan →
        (beforeMutation (.niceRestore plan) proc).1 = .ok () →
        planRecords action procRoot (procAtCommit action procRoot beforeMutation proc) true ≠
          .ok plan) ∨
    ∃ plan, planRecords action procRoot proc true = .ok plan ∧
      (beforeMutation (.niceRestore plan) proc).1 = .ok () ∧
      planRecords action procRoot (procAtCommit action procRoot beforeMutation proc) true =
        .ok plan ∧
      applyPreparedAt action procRoot kernel beforeMutation proc =
        applyPlan action kernel plan (hostAtCommit action procRoot beforeMutation proc plan) := by
  unfold applyPreparedAt hostAtCommit procAtCommit
  cases hplan : planRecords action procRoot proc true with
  | error source =>
    refine .inl ⟨rfl, rfl, rfl, fun plan h => ?_⟩
    cases h
  | ok plan =>
    simp only
    rcases hhook : beforeMutation (.niceRestore plan) proc with ⟨answer, after⟩
    cases answer with
    | error source =>
      refine .inl ⟨rfl, rfl, rfl, fun other hother hok => ?_⟩
      cases hother
      rw [hhook] at hok
      cases hok
    | ok _ =>
      simp only
      cases hcurrent : planRecords action procRoot after true with
      | error source =>
        refine .inl ⟨rfl, rfl, rfl, fun other _ _ h => ?_⟩
        cases h
      | ok current =>
        by_cases hsame : current = plan
        · subst hsame
          exact .inr ⟨current, rfl, by rw [hhook], rfl, by simp⟩
        · dsimp only
          rw [if_pos (show current ≠ plan from hsame)]
          refine .inl ⟨rfl, rfl, rfl, fun other hother _ h => ?_⟩
          cases hother
          exact hsame (Except.ok.inj h)

variable {action procRoot kernel beforeMutation proc}

/-- A target off the requested value is in the plan, so it reads the same where the plan is the
same. -/
theorem read_eq_of_offRequest {before after : Proc} {plan : List NiceRestoreRecord}
    (hbefore : plan = action.targets.filterMap (plannedRecord action procRoot before))
    (hafter : plan = action.targets.filterMap (plannedRecord action procRoot after))
    {target : TaskIdentity} (htarget : target ∈ action.targets)
    (hoff : OffRequest action procRoot before target) {snapshot : NiceTargetSnapshot}
    (hsnapshot : readTargetSnapshotAt procRoot after target = .ok snapshot) :
    readTargetSnapshotAt procRoot before target = readTargetSnapshotAt procRoot after target := by
  obtain ⟨record, hrecord⟩ := Option.isSome_iff_exists.mp hoff
  have hmem : record ∈ plan := by
    rw [hbefore]
    exact List.mem_filterMap.mpr ⟨target, htarget, hrecord⟩
  rw [hafter] at hmem
  obtain ⟨other, -, hother⟩ := List.mem_filterMap.mp hmem
  obtain ⟨first, hfirst, -, rfl⟩ := plannedRecord_eq_some.mp hrecord
  obtain ⟨second, hsecond, -, hsame⟩ := plannedRecord_eq_some.mp hother
  rw [hsnapshot, hfirst, read_eq_of_restoreRecord_eq hfirst hsecond hsnapshot hsame]

/-- A target off the requested value that drifted changes the plan. -/
theorem not_drifted_of_same_plan {plan : List NiceRestoreRecord}
    (hplan : planRecords action procRoot proc true = .ok plan)
    (hcurrent : planRecords action procRoot (procAtCommit action procRoot beforeMutation proc)
      true =
      .ok plan) {target : TaskIdentity} (htarget : target ∈ action.targets)
    (hoff : OffRequest action procRoot proc target ∨
      OffRequest action procRoot (procAtCommit action procRoot beforeMutation proc) target) :
    ¬ Drifted action procRoot beforeMutation proc target := by
  obtain ⟨hread, hrecords⟩ := planRecords_ok hplan
  obtain ⟨hread', hrecords'⟩ := planRecords_ok hcurrent
  obtain ⟨snapshot, hsnapshot⟩ := hread target htarget
  obtain ⟨snapshot', hsnapshot'⟩ := hread' target htarget
  intro hdrifted
  rcases hoff with hoff | hoff
  · exact hdrifted (read_eq_of_offRequest hrecords hrecords' htarget hoff hsnapshot').symm
  · exact hdrifted (read_eq_of_offRequest hrecords' hrecords htarget hoff hsnapshot)

/-- Targets that drift unseen leave the plan as it was. -/
theorem same_plan_of_unseen {plan current : List NiceRestoreRecord}
    (hplan : planRecords action procRoot proc true = .ok plan)
    (hcurrent : planRecords action procRoot (procAtCommit action procRoot beforeMutation proc)
      true =
      .ok current)
    (hunseen : ∀ target ∈ action.targets, Drifted action procRoot beforeMutation proc target →
      ¬ OffRequest action procRoot proc target ∧
        ¬ OffRequest action procRoot (procAtCommit action procRoot beforeMutation proc) target) :
    current = plan := by
  rw [(planRecords_ok hplan).2, (planRecords_ok hcurrent).2]
  refine List.filterMap_congr fun target htarget => ?_
  by_cases hdrifted : Drifted action procRoot beforeMutation proc target
  · obtain ⟨hbefore, hafter⟩ := hunseen target htarget hdrifted
    unfold OffRequest at hbefore hafter
    rw [Option.not_isSome_iff_eq_none] at hbefore hafter
    rw [hbefore, hafter]
  · have hsame : readTargetSnapshotAt procRoot (procAtCommit action procRoot beforeMutation proc)
        target =
        readTargetSnapshotAt procRoot proc target := not_not.mp hdrifted
    unfold plannedRecord
    rw [hsame]

/-- **When a drift stops the writes.** -/
theorem drift_stops_writes_iff :
    ((∃ target ∈ action.targets, Drifted action procRoot beforeMutation proc target) →
      (applyPreparedAt action procRoot kernel beforeMutation proc).2.calls = []) ↔
      DriftShows action procRoot beforeMutation proc := by
  constructor
  · rintro hstops ⟨plan, current, hplan, hhook, hcurrent⟩ ⟨target, htarget, hoff⟩ hdrift
    by_contra hunseen
    have hsame := same_plan_of_unseen hplan hcurrent fun other hother hdrifted =>
      ⟨fun h => hunseen ⟨other, hother, hdrifted, .inl h⟩,
        fun h => hunseen ⟨other, hother, hdrifted, .inr h⟩⟩
    subst hsame
    rcases applyPreparedAt_cases action procRoot kernel beforeMutation proc with
      ⟨-, -, -, hnot⟩ | ⟨other, hother, -, -, happly⟩
    · exact hnot current hplan hhook hcurrent
    · rw [hplan] at hother
      cases hother
      have hcalls := hstops hdrift
      obtain ⟨written, refused, happlied⟩ := applyPlan_applied action kernel current
        (hostAtCommit action procRoot beforeMutation proc current)
      rw [happly, happlied.calls] at hcalls
      have hnil := happlied.started (List.map_eq_nil_iff.mp hcalls)
      obtain ⟨record, hrecord⟩ := Option.isSome_iff_exists.mp hoff
      have hmem : record ∈ current := by
        rw [(planRecords_ok hplan).2]
        exact List.mem_filterMap.mpr ⟨target, htarget, hrecord⟩
      rw [hnil] at hmem
      cases hmem
  · intro hshows hdrift
    rcases applyPreparedAt_cases action procRoot kernel beforeMutation proc with
      ⟨hcalls, -⟩ | ⟨plan, hplan, hhook, hcurrent, happly⟩
    · exact hcalls
    · obtain ⟨written, refused, happlied⟩ := applyPlan_applied action kernel plan
        (hostAtCommit action procRoot beforeMutation proc plan)
      rw [happly, happlied.calls]
      by_contra hne
      -- a record of the plan is a target off the requested value
      have hplanned : plan ≠ [] := by
        rintro rfl
        obtain ⟨rest, hrest⟩ := happlied.plan_eq
        have hnone : written ++ refused = [] := (List.append_eq_nil_iff.mp hrest.symm).1
        exact hne (by rw [hnone]; rfl)
      obtain ⟨record, hrecord⟩ := List.exists_mem_of_ne_nil plan hplanned
      rw [(planRecords_ok hplan).2] at hrecord
      obtain ⟨target, htarget, hof⟩ := List.mem_filterMap.mp hrecord
      obtain ⟨other, hother, hdrifted, hoff⟩ := hshows ⟨plan, plan, hplan, hhook, hcurrent⟩
        ⟨target, htarget, Option.isSome_iff_exists.mpr ⟨record, hof⟩⟩ hdrift
      exact not_drifted_of_same_plan hplan hcurrent hother hoff hdrifted

end Prepared

/-! ## The script of the transaction -/

/-- The loop ends as its script does, if the answers do not depend on the host. -/
theorem applyPlannedLoop_eq_script {R σ : Type} {applyFn : R → σ → Option AnyError × σ}
    {makeToken : List R → RollbackToken} {effect : R → HostWrite} {failure : R → Option AnyError}
    (hfailure : ∀ record host, (applyFn record host).1 = failure record)
    (answer : RollbackToken → Except AnyError Unit) (applied planned : List R) (host : σ) :
    (applyPlannedLoop applyFn makeToken applied planned host).1 =
      (Stutter.applyPlannedLoop failure effect makeToken applied planned).concluded answer := by
  induction planned generalizing applied host with
  | nil => rfl
  | cons record planned ih =>
    have hrecord := hfailure record host
    rw [applyPlannedLoop, Stutter.applyPlannedLoop]
    rcases happly : applyFn record host with ⟨error, after⟩
    rw [happly] at hrecord
    cases error with
    | none =>
      rw [← hrecord]
      exact ih (applied ++ [record]) after
    | some source =>
      rw [← hrecord]
      rfl

/-- **The apply is the prepared script of nice**, for a kernel whose answers do not depend on the
calls before. -/
theorem applyPreparedAt_eq_script (action : NiceAction) (procRoot : String) {kernel : Kernel}
    (hkernel : ∀ history tid nice, kernel history tid nice = kernel [] tid nice)
    (beforeMutation : Hook) (proc : Proc) :
    (applyPreparedAt action procRoot kernel beforeMutation proc).1 =
      (niceApplyPrepared (planRecords action procRoot proc true)
        (planRecords action procRoot (procAtCommit action procRoot beforeMutation proc) true)
        fun record => (applyRecord action kernel record { proc }).1).concluded
          fun token => (beforeMutation token proc).1 := by
  have hanswer : ∀ record host,
      (applyRecord action kernel record host).1 =
        (applyRecord action kernel record { proc }).1 := by
    intro record host
    unfold applyRecord setTaskNice
    simp only
    rw [hkernel host.calls]
    cases kernel [] (recordTid record) action.nice <;> rfl
  unfold applyPreparedAt niceApplyPrepared applyPrepared Stutter.applyPlan procAtCommit
  cases hplan : planRecords action procRoot proc true with
  | error source => rfl
  | ok plan =>
    simp only
    rw [ApplyScript.concluded]
    rcases hhook : beforeMutation (.niceRestore plan) proc with ⟨answer, after⟩
    cases answer with
    | error source => rfl
    | ok _ =>
      simp only
      cases planRecords action procRoot after true with
      | error source => rfl
      | ok current =>
        by_cases hsame : current = plan
        · subst hsame
          simp only [ne_eq, not_true_eq_false, if_false, if_true]
          exact applyPlannedLoop_eq_script hanswer _ [] current _
        · simp only [ne_eq, hsame, not_false_eq_true, if_true, if_false]
          rfl

/-! ## The prepared nice action as a whole -/

section Whole
variable {action : NiceAction} {procRoot : String} {kernel : Kernel}

/-- The nice value of a task, where it can be read. -/
def niceOf (task : ProcTask) : Int :=
  match task.stat with
  | .read nice _ => nice
  | _ => 0

/-- A record with a start time passes only as the same task. -/
theorem verified_iff_sameTask {proc : Proc} {record : NiceRestoreRecord}
    (h : (restoreIdentity record).starttimeTicks.isSome = true) :
    Verified proc record = true ↔ verifyTaskIdentity proc (restoreIdentity record) = .sameTask := by
  have hknown : verifyTaskIdentity proc (restoreIdentity record) ≠ .unknownLegacy := by
    obtain ⟨expected, hexpected⟩ := Option.isSome_iff_exists.mp h
    unfold verifyTaskIdentity
    rw [hexpected]
    split
    · simp
    · split
      · rename_i hnone
        cases hnone
      · simp
      · split
        · simp
        · split
          · simp
          · split
            · simp
            · simp
            · split <;> simp
  unfold Verified
  cases hstatus : verifyTaskIdentity proc (restoreIdentity record) with
  | sameTask => simp
  | missing => simp
  | mismatch reason => simp
  | unknownLegacy => exact absurd hstatus hknown

/-- **When the rollback of written records restores the tasks**: iff of each written task a record
passes the check of its identity. -/
theorem rollback_restores_iff {accepting : Kernel} {plan written refused : List NiceRestoreRecord}
    {before : Host} {out : ApplyResult × Host}
    (haccepts : ∀ calls tid nice, accepting calls tid nice = none)
    (hplan : planRecords action procRoot before.proc true = .ok plan)
    (happlied : PlanApplied action kernel plan before out written refused) :
    (rollback accepting (.niceRestore written) out.2).2.proc = before.proc ↔
      ∀ record ∈ written, ∃ other ∈ written, recordTid other = recordTid record ∧
        verifyTaskIdentity before.proc (restoreIdentity other) = .sameTask := by
  have hfacts : ∀ record ∈ written, (∃ starttimeTicks,
      (before.proc (recordTid record)).stat = .read record.originalNice starttimeTicks) ∧
      record.originalNice ≠ action.nice ∧ (restoreIdentity record).tid = recordTid record ∧
      (restoreIdentity record).starttimeTicks.isSome = true := by
    intro record hrecord
    obtain ⟨rest, hrest⟩ := happlied.plan_eq
    refine stat_of_mem_plan hplan ?_
    rw [hrest]
    exact List.mem_append_left _ (List.mem_append_left _ hrecord)
  have hverified : ∀ record ∈ written, Verified out.2.proc record = true ↔
      verifyTaskIdentity before.proc (restoreIdentity record) = .sameTask := by
    intro record hrecord
    rw [verified_iff_sameTask (hfacts record hrecord).2.2.2,
      verifyTaskIdentity_congr before.proc action.nice]
    rw [happlied.proc]
    split
    · exact .inr rfl
    · exact .inl rfl
  have horiginal : ∀ record ∈ written,
      record.originalNice = niceOf (before.proc (restoreIdentity record).tid) := by
    intro record hrecord
    obtain ⟨⟨starttimeTicks, hstat⟩, -, htid, -⟩ := hfacts record hrecord
    rw [htid, niceOf, hstat]
  have hleft : ∀ tid, (rollback accepting (.niceRestore written) out.2).2.proc tid =
      if ∃ record ∈ written, (restoreIdentity record).tid = tid ∧ Verified out.2.proc record = true
      then (out.2.proc tid).withNice (niceOf (before.proc tid)) else out.2.proc tid := by
    intro tid
    rw [rollback_niceRestore_proc]
    exact rollbackRecords_proc haccepts (fun tid => niceOf (before.proc tid)) written horiginal
      ({}, out.2) tid
  constructor
  · intro hrestored record hrecord
    obtain ⟨⟨starttimeTicks, hstat⟩, hoff, -, -⟩ := hfacts record hrecord
    by_contra hnone
    have htask := hleft (recordTid record)
    have hskipped : ¬ ∃ other ∈ written, (restoreIdentity other).tid = recordTid record ∧
        Verified out.2.proc other = true := by
      rintro ⟨other, hother, htid, hpassed⟩
      exact hnone ⟨other, hother, (hfacts other hother).2.2.1.symm.trans htid,
        (hverified other hother).mp hpassed⟩
    rw [if_neg hskipped, happlied.proc, if_pos (List.mem_map_of_mem hrecord), hrestored] at htask
    exact withNice_ne hstat hoff htask.symm
  · intro hall
    funext tid
    rw [hleft tid, happlied.proc tid]
    by_cases hwritten : tid ∈ written.map recordTid
    · obtain ⟨record, hrecord, rfl⟩ := List.mem_map.mp hwritten
      obtain ⟨other, hother, htid, hsame⟩ := hall record hrecord
      obtain ⟨⟨starttimeTicks, hstat⟩, -, -, -⟩ := hfacts record hrecord
      have hpassed : ∃ other ∈ written, (restoreIdentity other).tid = recordTid record ∧
          Verified out.2.proc other = true :=
        ⟨other, hother, (hfacts other hother).2.2.1.trans htid, (hverified other hother).mpr hsame⟩
      rw [if_pos hpassed, if_pos hwritten, withNice_withNice, niceOf, hstat]
      exact withNice_of_stat hstat
    · have hskipped : ¬ ∃ other ∈ written, (restoreIdentity other).tid = tid ∧
          Verified out.2.proc other = true := by
        rintro ⟨other, hother, htid, -⟩
        exact hwritten (List.mem_map.mpr ⟨other, hother,
          (hfacts other hother).2.2.1.symm.trans htid⟩)
      rw [if_neg hskipped, if_neg hwritten]

/-- **The planned loop, and nice's transaction around it.**  The loop's token holds the records that
were applied, in order.  Of the nice action: a drift stops the writes exactly where it shows; each
call is of the token the hook took; the result's token holds the records of the accepted calls, and
its rollback restores the tasks exactly where each written task has a record that names its
process. -/
theorem planned_loop_and_prepared_nice (R σ : Type) (applyFn : R → σ → Option AnyError × σ)
    (makeToken : List R → RollbackToken) (planned : List R) (host : σ) (action : NiceAction)
    (procRoot : String) (kernel : Kernel) (beforeMutation : Hook) (proc : Proc) :
    LoopEnds applyFn makeToken [] planned host
      (applyPlannedLoop applyFn makeToken [] planned host) ∧
    (((∃ target ∈ action.targets, Drifted action procRoot beforeMutation proc target) →
      (applyPreparedAt action procRoot kernel beforeMutation proc).2.calls = []) ↔
      DriftShows action procRoot beforeMutation proc) ∧
    (∀ call ∈ (applyPreparedAt action procRoot kernel beforeMutation proc).2.calls,
      ∃ plan record, (applyPreparedAt action procRoot kernel beforeMutation proc).2.durable =
        some (.niceRestore plan) ∧ record ∈ plan ∧ call = callOf action record) ∧
    (resultToken (applyPreparedAt action procRoot kernel beforeMutation proc).1 = none →
      (applyPreparedAt action procRoot kernel beforeMutation proc).2.proc =
        procAtCommit action procRoot beforeMutation proc) ∧
    ∀ token, resultToken (applyPreparedAt action procRoot kernel beforeMutation proc).1 =
      some token →
      ∃ written, token = .niceRestore written ∧
        acceptedCalls kernel []
          (applyPreparedAt action procRoot kernel beforeMutation proc).2.calls =
          written.map (callOf action) ∧
        ∀ accepting : Kernel, (∀ calls tid nice, accepting calls tid nice = none) →
          ((rollback accepting token
              (applyPreparedAt action procRoot kernel beforeMutation proc).2).2.proc =
            procAtCommit action procRoot beforeMutation proc ↔
          ∀ record ∈ written, ∃ other ∈ written, recordTid other = recordTid record ∧
            verifyTaskIdentity (procAtCommit action procRoot beforeMutation proc)
              (restoreIdentity other) = .sameTask) := by
  refine ⟨applyPlannedLoop_ends applyFn makeToken [] planned host, drift_stops_writes_iff, ?_⟩
  rcases applyPreparedAt_cases action procRoot kernel beforeMutation proc with
    ⟨hcalls, htoken, hproc, -⟩ | ⟨plan, hplan, hhook, hcurrent, happly⟩
  · refine ⟨fun call hcall => ?_, fun _ => hproc, fun token h => ?_⟩
    · rw [hcalls] at hcall
      cases hcall
    · rw [htoken] at h
      cases h
  · obtain ⟨written, refused, happlied⟩ := applyPlan_applied action kernel plan
      (hostAtCommit action procRoot beforeMutation proc plan)
    have hplanned : planRecords action procRoot
        (hostAtCommit action procRoot beforeMutation proc plan).proc true = .ok plan := hcurrent
    have hback : ∀ accepting : Kernel, (∀ calls tid nice, accepting calls tid nice = none) → _ :=
      fun _ haccepts => rollback_restores_iff haccepts hplanned happlied
    rw [happly]
    obtain ⟨rest, hrest⟩ := happlied.plan_eq
    refine ⟨fun call hcall => ?_, fun hnone => ?_, fun token htoken => ?_⟩
    · rw [happlied.calls] at hcall
      obtain ⟨record, hrecord, rfl⟩ := List.mem_map.mp hcall
      refine ⟨plan, record, happlied.durable, ?_, rfl⟩
      rw [hrest]
      exact List.mem_append_left _ hrecord
    · rcases happlied.token with hsome | ⟨-, rfl⟩
      · rw [hnone] at hsome
        cases hsome
      · funext tid
        rw [happlied.proc tid, if_neg (by simp)]
        rfl
    · rcases happlied.token with hsome | ⟨hnone, -⟩
      · rw [htoken] at hsome
        obtain rfl := Option.some.inj hsome
        refine ⟨written, rfl, ?_, hback⟩
        rw [happlied.calls]
        exact happlied.accepted
      · rw [htoken] at hnone
        cases hnone

end Whole

/-! A target that already has the requested value is not in the plan.  Its thread id goes to another
task while the hook runs, and the other target is still written.  And a target can name a process
that its thread is not of: then the rollback of its record is skipped. -/

def taskOf (nice : Int) (starttimeTicks tgid : Nat) : ProcTask :=
  ⟨.read nice starttimeTicks, some "hog", none, some (some tgid), true⟩

def recycledTargets : List TaskIdentity := [⟨1, some 1, none, none⟩, ⟨2, some 2, none, none⟩]

/-- The first task's thread id is recycled: a later start time, the same nice value. -/
def recyclingHook : Hook := fun _ proc => (.ok (), Function.update proc 1 (taskOf 5 900 1))

def twoTasks : Proc := fun tid => if tid = 1 then taskOf 5 100 1 else taskOf 0 100 2

def acceptAll : Kernel := fun _ _ _ => none

def foreignTarget : NiceAction := ⟨[⟨2, some 9, none, none⟩], 5, {}⟩

def foreignRun : ApplyResult × Host :=
  applyPreparedAt foreignTarget "/proc" acceptAll (fun _ proc => (.ok (), proc)) twoTasks

theorem recycled_target_and_foreign_process :
    (∃ target ∈ recycledTargets, readTargetSnapshotAt "/proc"
        (procAtCommit ⟨recycledTargets, 5, {}⟩ "/proc" recyclingHook twoTasks) target ≠
      readTargetSnapshotAt "/proc" twoTasks target) ∧
    (applyPreparedAt ⟨recycledTargets, 5, {}⟩ "/proc" acceptAll recyclingHook twoTasks).2.calls =
      [(2, 5)] ∧
    ((resultToken foreignRun.1).map fun token => ((rollback acceptAll token foreignRun.2).1.isOk,
      ((rollback acceptAll token foreignRun.2).2.proc 2).stat)) = some (true, .read 5 100) ∧
    (twoTasks 2).stat = .read 0 100 := by
  decide +kernel

end Stutter.Nice

import StutterProof.ActiveConfig
import StutterProof.Tally

/-! # The pending changes of a profile

Three loops over the matched tasks count what a profile still has to change: the explanation, the
summary that verification uses, and the plan that is applied.  Each asks the readers for a task's
affinity, nice value and I/O priority in this order; a read that fails with `ESRCH` means that the
task is gone.  The readers are one answer for each attribute and task: no loop asks twice. -/
namespace Stutter.Profiles
open ActiveConfig (CpuMask TaskClass CompiledPattern)

/-! ## Rules and tasks -/

inductive IoPrioClass where
  | none | realtime | bestEffort | idle
  deriving DecidableEq

def IoPrioClass.linuxClass : IoPrioClass → Nat
  | .none => 0
  | .realtime => 1
  | .bestEffort => 2
  | .idle => 3

def IoPrioClass.label : IoPrioClass → String
  | .none => "none"
  | .realtime => "realtime"
  | .bestEffort => "best-effort"
  | .idle => "idle"

/-- A class with its level. -/
structure IoPrioValue where
  ioClass : IoPrioClass
  level : Option Nat
  deriving DecidableEq

/-- An `io::Error`: its OS code, if it has one, and its text. -/
structure ReadError where
  rawOsError : Option Int
  text : String

/-- `libc::ESRCH`. -/
def esrch : Int := 3

def ReadError.isGone (error : ReadError) : Bool := error.rawOsError == some esrch

/-- Why a plan fails. -/
inductive ProfileError where
  | invalidValue (actionKind field reason : String)
  | readAffinity (tid : Nat) (error : ReadError)
  | readNice (tid : Nat) (error : ReadError)
  | readIoprio (tid : Nat) (error : ReadError)
  | internal (message : String)

/-- `validate_ioprio_value`. -/
def validateIoprioValue (value : IoPrioValue) : Except ProfileError Unit :=
  match value.ioClass with
  | .none | .idle =>
    if value.level.isSome then
      .error (.invalidValue "ioprio" "level"
        s!"I/O priority class {value.ioClass.label} must not specify a level")
    else .ok ()
  | .bestEffort | .realtime =>
    match value.level with
    | none => .error (.invalidValue "ioprio" "level"
        s!"I/O priority class {value.ioClass.label} requires level 0..=7")
    | some level =>
      if 7 < level then
        .error (.invalidValue "ioprio" "level"
          s!"I/O priority class {value.ioClass.label} level {level} is outside range 0..=7")
      else .ok ()

def IoPrioValue.encode (value : IoPrioValue) : Except ProfileError Int := do
  validateIoprioValue value
  return ((value.ioClass.linuxClass <<< 13 ||| value.level.getD 0 : Nat) : Int)

/-- A rule of a profile. -/
structure ProfileRule where
  affinity : Option CpuMask
  nice : Option Int
  ionice : Option IoPrioValue
  matchClass : List TaskClass
  matchComm : List CompiledPattern

structure Profile where
  name : String
  rules : List ProfileRule

/-- A task as the rules see it. -/
structure TaskInfo where
  tid : Nat
  processPid : Nat
  comm : String
  processComm : String
  taskClass : TaskClass
  processStarttimeTicks : Option Nat
  taskStarttimeTicks : Option Nat

/-- The tasks of a snapshot, by their thread ids. -/
structure TaskMap where
  values : List TaskInfo
  nodup : (values.map (·.tid)).Nodup

inductive CommField where
  | taskComm | processComm

/-- A pattern that matched. -/
structure CommPatternHit where
  field : CommField
  patternIndex : Nat
  pattern : String
  value : String

/-- Why a rule matched. -/
structure RuleMatchEvidence where
  matchedClass : Bool
  ruleHadMatchClass : Bool
  ruleHadMatchComm : Bool
  commHits : List CommPatternHit

/-- The hits of one pattern, the thread's name before the process's. -/
def patternHits (task : TaskInfo) (pattern : CompiledPattern × Nat) : List CommPatternHit :=
  (if pattern.1.matches task.comm then
    [⟨.taskComm, pattern.2, pattern.1.raw, task.comm⟩] else []) ++
  (if pattern.1.matches task.processComm then
    [⟨.processComm, pattern.2, pattern.1.raw, task.processComm⟩] else [])

/-- `profile_rule_match_evidence`. -/
def profileRuleMatchEvidence (task : TaskInfo) (rule : ProfileRule) : Option RuleMatchEvidence :=
  let ruleHadMatchClass := !rule.matchClass.isEmpty
  let ruleHadMatchComm := !rule.matchComm.isEmpty
  let matchedClass := ruleHadMatchClass && rule.matchClass.contains task.taskClass
  if ruleHadMatchClass && !matchedClass then none
  else
    let commHits := rule.matchComm.zipIdx.flatMap (patternHits task)
    if ruleHadMatchComm && commHits.isEmpty then none
    else some ⟨matchedClass, ruleHadMatchClass, ruleHadMatchComm, commHits⟩

/-- `matching_profile_rule_with_evidence`: the first rule that matches, with its index. -/
def matchingProfileRuleWithEvidence (task : TaskInfo) (profile : Profile) :
    Option (Nat × ProfileRule × RuleMatchEvidence) :=
  profile.rules.zipIdx.findSome? fun rule =>
    (profileRuleMatchEvidence task rule.1).map fun evidence => (rule.2, rule.1, evidence)

/-- `matching_profile_rule`. -/
def matchingProfileRule (task : TaskInfo) (profile : Profile) : Option ProfileRule :=
  (matchingProfileRuleWithEvidence task profile).map (·.2.1)

/-- What the readers answer. -/
structure Readers where
  readAllowedMask : Nat → Except ReadError CpuMask
  readNice : Nat → Except ReadError Int
  readIoprio : Nat → Except ReadError Int

/-! ## The decision for one task -/

/-- What a task needs. -/
inductive ActionStatus where
  | noAction | alreadySatisfied | pending | skippedDeadTask | skippedIncompleteIdentity | readError
  deriving DecidableEq

/-- The decision about one attribute. -/
structure AttributeDecision (α : Type) where
  status : ActionStatus
  current : Option α
  desired : Option α
  reason : Option String

structure ProfileIoniceDecision where
  status : ActionStatus
  currentEncoded : Option Int
  desiredEncoded : Option Int
  desired : Option IoPrioValue
  reason : Option String

/-- The decisions about a task. -/
structure ProfileTaskActionDecision where
  affinity : Option (AttributeDecision CpuMask) := none
  nice : Option (AttributeDecision Int) := none
  ionice : Option ProfileIoniceDecision := none

/-- `task_has_complete_identity`. -/
def taskHasCompleteIdentity (task : TaskInfo) : Bool :=
  task.processStarttimeTicks.isSome && task.taskStarttimeTicks.isSome

/-- The status of a value that was read. -/
def statusOf (task : TaskInfo) (satisfied : Bool) : ActionStatus :=
  if satisfied then .alreadySatisfied
  else if taskHasCompleteIdentity task then .pending
  else .skippedIncompleteIdentity

def reasonOf (status : ActionStatus) : Option String :=
  if status = .skippedIncompleteIdentity then some "task identity was incomplete" else none

section Decide
variable (task : TaskInfo) (rule : ProfileRule) (readers : Readers)

/-- What a rule asks of a task's I/O priority. -/
def decideIonice (decision : ProfileTaskActionDecision) :
    Except ProfileError ProfileTaskActionDecision :=
  match rule.ionice with
  | none => .ok decision
  | some desired =>
    match readers.readIoprio task.tid with
    | .error e =>
      if e.isGone then do
        let encoded ← desired.encode
        return { decision with ionice := some ⟨.skippedDeadTask, none, some encoded, some desired,
          some "task disappeared while reading current I/O priority"⟩ }
      else .error (.readIoprio task.tid e)
    | .ok current => do
      let encoded ← desired.encode
      let status := statusOf task (current == encoded)
      return { decision with
        ionice := some ⟨status, some current, some encoded, some desired, reasonOf status⟩ }

/-- What a rule asks of a task's nice value. -/
def decideNice (decision : ProfileTaskActionDecision) :
    Except ProfileError ProfileTaskActionDecision :=
  match rule.nice with
  | none => decideIonice task rule readers decision
  | some desired =>
    match readers.readNice task.tid with
    | .error e =>
      if e.isGone then
        .ok { decision with nice := some ⟨.skippedDeadTask, none, some desired,
          some "task disappeared while reading current nice"⟩ }
      else .error (.readNice task.tid e)
    | .ok current =>
      let status := statusOf task (current == desired)
      decideIonice task rule readers
        { decision with nice := some ⟨status, some current, some desired, reasonOf status⟩ }

/-- `decide_profile_task_actions`. -/
def decideProfileTaskActions : Except ProfileError ProfileTaskActionDecision :=
  match rule.affinity with
  | none => decideNice task rule readers {}
  | some desired =>
    match readers.readAllowedMask task.tid with
    | .error e =>
      if e.isGone then
        .ok { affinity := some ⟨.skippedDeadTask, none, some desired,
          some "task disappeared while reading current affinity"⟩ }
      else .error (.readAffinity task.tid e)
    | .ok current =>
      let status := statusOf task (current == desired)
      decideNice task rule readers
        { affinity := some ⟨status, some current, some desired, reasonOf status⟩ }

end Decide

/-- The attributes a profile can change. -/
inductive Attribute where
  | affinity | nice | ionice
  deriving DecidableEq

namespace ProfileTaskActionDecision

def statuses (decision : ProfileTaskActionDecision) : List ActionStatus :=
  (decision.affinity.map (·.status)).toList ++ (decision.nice.map (·.status)).toList ++
    (decision.ionice.map (·.status)).toList

def taskDisappeared (decision : ProfileTaskActionDecision) : Bool :=
  decision.statuses.contains .skippedDeadTask

/-- `affinity_pending`, `nice_pending` and `ionice_pending`. -/
def pendingFor (decision : ProfileTaskActionDecision) : Attribute → Bool
  | .affinity => (decision.affinity.map (·.status)) == some .pending
  | .nice => (decision.nice.map (·.status)) == some .pending
  | .ionice => (decision.ionice.map (·.status)) == some .pending

def pending (decision : ProfileTaskActionDecision) : Bool :=
  decision.pendingFor .affinity || decision.pendingFor .nice || decision.pendingFor .ionice

/-- `action_decision_already_satisfied`. -/
def alreadySatisfied (decision : ProfileTaskActionDecision) : Bool :=
  !decision.statuses.isEmpty && decision.statuses.all (· == .alreadySatisfied)

/-- `action_decision_skipped`. -/
def skipped (decision : ProfileTaskActionDecision) : Bool :=
  decision.statuses.any fun status =>
    status == .skippedDeadTask || status == .skippedIncompleteIdentity || status == .readError

end ProfileTaskActionDecision

/-! ## The summary -/

/-- The counts of an apply. -/
structure ProfileApplySummary where
  checkedTasks : Nat := 0
  pendingChanges : Nat := 0
  pendingAffinity : Nat := 0
  pendingNice : Nat := 0
  pendingIonice : Nat := 0

def ProfileApplySummary.pendingOf (summary : ProfileApplySummary) : Attribute → Nat
  | .affinity => summary.pendingAffinity
  | .nice => summary.pendingNice
  | .ionice => summary.pendingIonice

/-- A summary and the `pending_tids` its loop collects. -/
structure SummaryState where
  summary : ProfileApplySummary := {}
  pendingTids : List Nat := []

/-- The set of thread ids with one more. -/
def insertTid (tid : Nat) (tids : List Nat) : List Nat := if tid ∈ tids then tids else tid :: tids

/-- One more pending change of an attribute of a task. -/
def SummaryState.count (state : SummaryState) (tid : Nat) (which : Attribute) : SummaryState where
  summary := match which with
    | .affinity => { state.summary with pendingAffinity := state.summary.pendingAffinity + 1 }
    | .nice => { state.summary with pendingNice := state.summary.pendingNice + 1 }
    | .ionice => { state.summary with pendingIonice := state.summary.pendingIonice + 1 }
  pendingTids := insertTid tid state.pendingTids

section Summary
variable (task : TaskInfo) (rule : ProfileRule) (readers : Readers)

/-- The last part of the loop body of the summary. -/
def summariseIonice (state : SummaryState) : Except ProfileError SummaryState :=
  match rule.ionice with
  | none => .ok state
  | some desired =>
    match readers.readIoprio task.tid with
    | .error e => if e.isGone then .ok state else .error (.readIoprio task.tid e)
    | .ok original => do
      let encoded ← desired.encode
      return if original != encoded then state.count task.tid .ionice else state

def summariseNice (state : SummaryState) : Except ProfileError SummaryState :=
  match rule.nice with
  | none => summariseIonice task rule readers state
  | some desired =>
    match readers.readNice task.tid with
    | .error e => if e.isGone then .ok state else .error (.readNice task.tid e)
    | .ok original => summariseIonice task rule readers
        (if original != desired then state.count task.tid .nice else state)

def summariseTask (state : SummaryState) : Except ProfileError SummaryState :=
  match rule.affinity with
  | none => summariseNice task rule readers state
  | some desired =>
    match readers.readAllowedMask task.tid with
    | .error e => if e.isGone then .ok state else .error (.readAffinity task.tid e)
    | .ok original => summariseNice task rule readers
        (if original != desired then state.count task.tid .affinity else state)

end Summary

/-- One turn of the loop of `profile_apply_summary_with_readers`. -/
def summaryTurn (profile : Profile) (readers : Readers) (state : SummaryState) (task : TaskInfo) :
    Except ProfileError SummaryState :=
  match matchingProfileRule task profile with
  | none => .ok state
  | some rule => summariseTask task rule readers { state with
      summary := { state.summary with checkedTasks := state.summary.checkedTasks + 1 } }

/-- `profile_apply_summary_with_readers`. -/
def profileApplySummaryWithReaders (tasks : TaskMap) (profile : Profile) (readers : Readers) :
    Except ProfileError ProfileApplySummary := do
  let state ← tasks.values.foldlM (summaryTurn profile readers) {}
  return { state.summary with pendingChanges := state.pendingTids.length }

/-! ## The plan -/

/-- A task and what it should have. -/
structure ProfileApplyCacheKey where
  tid : Nat
  processStarttimeTicks : Option Nat
  taskStarttimeTicks : Option Nat
  desiredAffinity : Option CpuMask
  desiredNice : Option Int
  desiredIonice : Option IoPrioValue
  deriving DecidableEq

def ProfileApplyCacheKey.new (task : TaskInfo) (rule : ProfileRule) : ProfileApplyCacheKey where
  tid := task.tid
  processStarttimeTicks := task.processStarttimeTicks
  taskStarttimeTicks := task.taskStarttimeTicks
  desiredAffinity := rule.affinity
  desiredNice := rule.nice
  desiredIonice := rule.ionice

/-- A planned change of one attribute: the task's identity, its value and the one it gets. -/
structure PlannedChange (α : Type) where
  tid : Nat
  processPid : Nat
  processStarttimeTicks : Option Nat
  taskStarttimeTicks : Option Nat
  comm : String
  original : α
  applied : α

def PlannedChange.of {α : Type} (task : TaskInfo) (original applied : α) : PlannedChange α where
  tid := task.tid
  processPid := task.processPid
  processStarttimeTicks := task.processStarttimeTicks
  taskStarttimeTicks := task.taskStarttimeTicks
  comm := task.comm
  original := original
  applied := applied

/-- The plan; the groups of the source are its nice and I/O priority changes by wanted value. -/
structure ProfileApplyPlan where
  affinityChanges : List (PlannedChange CpuMask) := []
  niceRecords : List (PlannedChange Int) := []
  ioniceRecords : List (PlannedChange Int) := []
  cacheKeys : List ProfileApplyCacheKey := []

def ProfileApplyPlan.changesOf (plan : ProfileApplyPlan) : Attribute → Nat
  | .affinity => plan.affinityChanges.length
  | .nice => plan.niceRecords.length
  | .ionice => plan.ioniceRecords.length

/-- The loop's variables; without a cache `known` is `none`. -/
structure PlanState where
  plan : ProfileApplyPlan := {}
  counted : SummaryState := {}
  known : Option (List ProfileApplyCacheKey)
  seen : List ProfileApplyCacheKey := []

/-! What a pending decision has to hold, in the order in which the plan looks for it. -/

def affinityNeeds (decision : Option (AttributeDecision CpuMask)) : List (Bool × String) :=
  [((decision.bind (·.current)).isSome, "current mask"),
    ((decision.bind (·.desired)).isSome, "desired mask")]

def niceNeeds (decision : Option (AttributeDecision Int)) : List (Bool × String) :=
  [((decision.bind (·.desired)).isSome, "desired nice"),
    ((decision.bind (·.current)).isSome, "current nice")]

def ioniceNeeds (decision : Option ProfileIoniceDecision) : List (Bool × String) :=
  [((decision.bind (·.desired)).isSome, "desired I/O priority"),
    ((decision.bind (·.desiredEncoded)).isSome, "encoded desired I/O priority"),
    ((decision.bind (·.currentEncoded)).isSome, "current I/O priority")]

/-- The record of a pending change, if the decision holds what it needs. -/
def planned {α : Type} (task : TaskInfo) (pending : Bool) (current desired : Option α)
    (kind : String) (needs : List (Bool × String)) : Except ProfileError (List (PlannedChange α)) :=
  if !pending then .ok []
  else
    match needs.find? (!·.1) with
    | some (_, missing) => .error (.internal
        s!"internal error: pending {kind} decision for TID {task.tid} is missing {missing}")
    | none => .ok ((current.bind fun original => desired.map (.of task original)).toList)

/-- A task whose decision was taken and that is still there. -/
def planDecided (task : TaskInfo) (rule : ProfileRule) (decision : ProfileTaskActionDecision)
    (state : PlanState) : Except ProfileError PlanState := do
  let affinity ← planned task (decision.pendingFor .affinity)
    (decision.affinity.bind (·.current)) (decision.affinity.bind (·.desired)) "affinity"
    (affinityNeeds decision.affinity)
  let nice ← planned task (decision.pendingFor .nice)
    (decision.nice.bind (·.current)) (decision.nice.bind (·.desired)) "nice"
      (niceNeeds decision.nice)
  let ionice ← planned task (decision.pendingFor .ionice)
    (decision.ionice.bind (·.currentEncoded)) (decision.ionice.bind (·.desiredEncoded)) "ionice"
    (ioniceNeeds decision.ionice)
  let counted := [Attribute.affinity, .nice, .ionice].foldl (fun counted which =>
    if decision.pendingFor which then counted.count task.tid which else counted)
    state.counted
  let key := ProfileApplyCacheKey.new task rule
  let plan := { state.plan with
    affinityChanges := state.plan.affinityChanges ++ affinity
    niceRecords := state.plan.niceRecords ++ nice
    ioniceRecords := state.plan.ioniceRecords ++ ionice }
  if decision.pending then
    return { state with plan := { plan with cacheKeys := plan.cacheKeys ++ [key] }, counted }
  else
    return { state with plan, counted, known := state.known.map (key :: ·) }

/-- One turn of the loop of `planned_profile_apply_with_readers`. -/
def planTurn (profile : Profile) (readers : Readers) (state : PlanState) (task : TaskInfo) :
    Except ProfileError PlanState :=
  match matchingProfileRule task profile with
  | none => .ok state
  | some rule =>
    let key := ProfileApplyCacheKey.new task rule
    let summary := { state.counted.summary with
      checkedTasks := state.counted.summary.checkedTasks + 1 }
    let state := { state with
      counted := { state.counted with summary }, seen := key :: state.seen }
    if state.known.any (key ∈ ·) then .ok state
    else do
      let decision ← decideProfileTaskActions task rule readers
      if decision.taskDisappeared then return state
      else planDecided task rule decision state

/-- `planned_profile_apply_with_readers`: the plan, its summary and the cache it leaves. -/
def plannedProfileApplyWithReaders (tasks : TaskMap) (profile : Profile)
    (cache : Option (List ProfileApplyCacheKey)) (readers : Readers) :
    Except ProfileError (ProfileApplyPlan × ProfileApplySummary ×
      Option (List ProfileApplyCacheKey)) := do
  let state ← tasks.values.foldlM (planTurn profile readers) { known := cache }
  return (state.plan,
    { state.counted.summary with pendingChanges := state.counted.pendingTids.length },
    state.known.map (·.filter (· ∈ state.seen)))

/-! ## The explanation -/

/-- The counts of a rule. -/
structure ProfileRuleExplain where
  ruleIndex : Nat
  matchedTasks : Nat := 0
  pendingUniqueTasks : Nat := 0
  pendingAffinity : Nat := 0
  pendingNice : Nat := 0
  pendingIonice : Nat := 0
  alreadySatisfiedTasks : Nat := 0
  skippedTasks : Nat := 0

def ProfileRuleExplain.pendingOf (rule : ProfileRuleExplain) : Attribute → Nat
  | .affinity => rule.pendingAffinity
  | .nice => rule.pendingNice
  | .ionice => rule.pendingIonice

/-- The counts of a profile. -/
structure ProfileExplainReport where
  profile : String
  snapshotTasks : Nat
  matchedTasks : Nat
  unmatchedTasks : Nat
  pendingUniqueTasks : Nat
  pendingAffinity : Nat
  pendingNice : Nat
  pendingIonice : Nat
  rules : List ProfileRuleExplain
  warnings : List String

def ProfileExplainReport.pendingOf (report : ProfileExplainReport) : Attribute → Nat
  | .affinity => report.pendingAffinity
  | .nice => report.pendingNice
  | .ionice => report.pendingIonice

/-- The explanation so far. -/
structure ExplainState where
  rules : List ProfileRuleExplain
  unmatched : Nat := 0
  pendingTids : List Nat := []

/-- A matched task's decision on its rule's summary. -/
def ProfileRuleExplain.add (decision : ProfileTaskActionDecision) (rule : ProfileRuleExplain) :
    ProfileRuleExplain where
  ruleIndex := rule.ruleIndex
  matchedTasks := rule.matchedTasks + 1
  pendingUniqueTasks := rule.pendingUniqueTasks + decision.pending.toNat
  pendingAffinity := rule.pendingAffinity + (decision.pendingFor .affinity).toNat
  pendingNice := rule.pendingNice + (decision.pendingFor .nice).toNat
  pendingIonice := rule.pendingIonice + (decision.pendingFor .ionice).toNat
  alreadySatisfiedTasks := rule.alreadySatisfiedTasks + decision.alreadySatisfied.toNat
  skippedTasks := rule.skippedTasks + decision.skipped.toNat

/-- One turn of the loop of `explain_profile_for_snapshot`. -/
def explainTurn (profile : Profile) (readers : Readers) (state : ExplainState) (task : TaskInfo) :
    Except ProfileError ExplainState :=
  match matchingProfileRuleWithEvidence task profile with
  | none => .ok { state with unmatched := state.unmatched + 1 }
  | some (ruleIndex, rule, _) => do
    let decision ← decideProfileTaskActions task rule readers
    return { state with
      rules := state.rules.modify ruleIndex (·.add decision)
      pendingTids :=
        if decision.pending then insertTid task.tid state.pendingTids else state.pendingTids }

/-- `explain_profile_for_snapshot`. -/
def explainProfileForSnapshot (profile : Profile) (tasks : TaskMap) (readers : Readers) :
    Except ProfileError ProfileExplainReport := do
  let state ← tasks.values.foldlM (explainTurn profile readers)
    { rules := profile.rules.zipIdx.map fun rule => { ruleIndex := rule.2 } }
  return {
    profile := profile.name
    snapshotTasks := tasks.values.length
    matchedTasks := (state.rules.map (·.matchedTasks)).sum
    unmatchedTasks := state.unmatched
    pendingUniqueTasks := state.pendingTids.length
    pendingAffinity := (state.rules.map (·.pendingAffinity)).sum
    pendingNice := (state.rules.map (·.pendingNice)).sum
    pendingIonice := (state.rules.map (·.pendingIonice)).sum
    rules := state.rules
    warnings := (state.rules.filter (·.matchedTasks == 0)).map fun rule =>
      s!"Rule {rule.ruleIndex} matched 0 tasks. Earlier rules may have matched tasks first; " ++
        "profile matching is first-match-wins." }

/-! ## What the readers say of a task -/

def isGone {α : Type} : Except ReadError α → Bool
  | .error e => e.isGone
  | .ok _ => false

/-- A read that fails for another reason. -/
def isBroken {α : Type} : Except ReadError α → Bool
  | .error e => !e.isGone
  | .ok _ => false

section Readings
variable (readers : Readers) (task : TaskInfo) (rule : ProfileRule)

/-! The reads at which the task can be found gone. -/

def affinityGone : Bool := rule.affinity.isSome && isGone (readers.readAllowedMask task.tid)

def niceGone : Bool :=
  !affinityGone readers task rule && (rule.nice.isSome && isGone (readers.readNice task.tid))

def ioniceGone : Bool :=
  !affinityGone readers task rule && !niceGone readers task rule &&
    (rule.ionice.isSome && isGone (readers.readIoprio task.tid))

def vanishes : Bool :=
  affinityGone readers task rule || niceGone readers task rule || ioniceGone readers task rule

/-- The attribute is read, and its value is not the wanted one. -/
def differs : Attribute → Bool
  | .affinity => match rule.affinity, readers.readAllowedMask task.tid with
    | some desired, .ok current => current != desired
    | _, _ => false
  | .nice => !affinityGone readers task rule &&
    match rule.nice, readers.readNice task.tid with
    | some desired, .ok current => current != desired
    | _, _ => false
  | .ionice => !affinityGone readers task rule && !niceGone readers task rule &&
    match rule.ionice, readers.readIoprio task.tid with
    | some desired, .ok current => desired.encode.toOption.any (current != ·)
    | _, _ => false

/-- The wanted I/O priority has no encoding. -/
def unencodable : Bool := rule.ionice.any fun desired => !desired.encode.isOk

/-- The loop body fails from the nice value on; `last` says whether it fails at the I/O priority. -/
def breaksFromNice (last : Bool) : Bool :=
  (rule.nice.isSome && isBroken (readers.readNice task.tid)) ||
    (!niceGone readers task rule && (rule.ionice.isSome && last))

/-- The loop body fails. -/
def breaks (last : Bool) : Bool :=
  (rule.affinity.isSome && isBroken (readers.readAllowedMask task.tid)) ||
    (!affinityGone readers task rule && breaksFromNice readers task rule last)

/-- The decision fails: at a broken read, or at a priority without an encoding. -/
def decideFails : Bool :=
  breaks readers task rule (isBroken (readers.readIoprio task.tid) || unencodable rule)

/-- The summary fails: it encodes the wanted priority only for a task that is there. -/
def summaryFails : Bool :=
  breaks readers task rule (isBroken (readers.readIoprio task.tid) ||
    (!isGone (readers.readIoprio task.tid) && unencodable rule))

end Readings

/-! ## What each loop counts -/

/-- The status of an attribute, against what its reads say. -/
structure Settled (status : Option ActionStatus) (differs gone complete valued : Bool) : Prop where
  pending : (status == some .pending) = (differs && complete)
  dead : (status == some .skippedDeadTask) = gone
  valued : status = some .pending → valued = true

theorem settled_none {complete valued : Bool} : Settled none false false complete valued :=
  ⟨by cases complete <;> rfl, rfl, fun h => by cases h⟩

theorem settled_dead {complete valued : Bool} :
    Settled (some .skippedDeadTask) false true complete valued :=
  ⟨by cases complete <;> rfl, rfl, fun h => by cases h⟩

theorem settled_read (task : TaskInfo) (satisfied : Bool) :
    Settled (some (statusOf task satisfied)) (!satisfied) false (taskHasCompleteIdentity task)
      true := by
  unfold statusOf
  cases satisfied with
  | true => exact ⟨rfl, rfl, fun h => by cases h⟩
  | false =>
    cases taskHasCompleteIdentity task with
    | true => exact ⟨rfl, rfl, fun _ => rfl⟩
    | false => exact ⟨rfl, rfl, fun h => by cases h⟩

/-- A decision, against the readings. -/
structure Decided (readers : Readers) (task : TaskInfo) (rule : ProfileRule)
    (decision : ProfileTaskActionDecision) : Prop where
  affinity : Settled (decision.affinity.map (·.status)) (differs readers task rule .affinity)
    (affinityGone readers task rule) (taskHasCompleteIdentity task)
    ((affinityNeeds decision.affinity).all (·.1))
  nice : Settled (decision.nice.map (·.status)) (differs readers task rule .nice)
    (niceGone readers task rule) (taskHasCompleteIdentity task)
    ((niceNeeds decision.nice).all (·.1))
  ionice : Settled (decision.ionice.map (·.status)) (differs readers task rule .ionice)
    (ioniceGone readers task rule) (taskHasCompleteIdentity task)
    ((ioniceNeeds decision.ionice).all (·.1))

section Specs
variable {readers : Readers} {task : TaskInfo} {rule : ProfileRule}

theorem decideIonice_spec {d : ProfileTaskActionDecision} (hnone : d.ionice = none)
    (hreached : affinityGone readers task rule = false ∧ niceGone readers task rule = false) :
    Tally.Turns (rule.ionice.isSome && (isBroken (readers.readIoprio task.tid) || unencodable rule))
      (fun decided => decided.affinity = d.affinity ∧ decided.nice = d.nice ∧
        Settled (decided.ionice.map (·.status)) (differs readers task rule .ionice)
          (ioniceGone readers task rule) (taskHasCompleteIdentity task)
          ((ioniceNeeds decided.ionice).all (·.1)))
      (decideIonice task rule readers d) := by
  unfold decideIonice unencodable differs ioniceGone
  simp only [hreached, Bool.not_false, Bool.true_and]
  cases hrule : rule.ionice with
  | none =>
    refine .ok _ rfl ⟨rfl, rfl, ?_⟩
    rw [hnone]
    exact settled_none
  | some desired =>
    cases hread : readers.readIoprio task.tid with
    | error e =>
      cases hgone : e.isGone with
      | false => simpa [hgone] using .error _ (by simp [isBroken, hgone])
      | true =>
        cases hencode : desired.encode with
        | error e' =>
          simpa [hgone, hencode, bind, Except.bind] using .error e'
            (by simp [Except.isOk, Except.toBool])
        | ok encoded =>
          simp only [hgone, hencode, bind, Except.bind, if_true]
          refine .ok _ (by simp [isBroken, hgone, hencode, Except.isOk, Except.toBool])
            ⟨rfl, rfl, ?_⟩
          simpa [isGone, hgone] using settled_dead
    | ok current =>
      cases hencode : desired.encode with
      | error e' =>
        simpa [hencode, bind, Except.bind] using .error e' (by simp [Except.isOk, Except.toBool])
      | ok encoded =>
        simp only [hencode, bind, Except.bind]
        refine .ok _ (by simp [isBroken, hencode, Except.isOk, Except.toBool]) ⟨rfl, rfl, ?_⟩
        simpa [isGone, hencode, bne, Except.toOption, ioniceNeeds] using
          settled_read task (current == encoded)

/-- A decision with a nice value that was read. -/
def withNice (task : TaskInfo) (d : ProfileTaskActionDecision) (current desired : Int) :
    ProfileTaskActionDecision :=
  let status := statusOf task (current == desired)
  { d with nice := some ⟨status, some current, some desired, reasonOf status⟩ }

theorem decideNice_spec {d : ProfileTaskActionDecision} (hnone : d.nice = none ∧ d.ionice = none)
    (hreached : affinityGone readers task rule = false) :
    Tally.Turns (breaksFromNice readers task rule
        (isBroken (readers.readIoprio task.tid) || unencodable rule))
      (fun decided => decided.affinity = d.affinity ∧
        Settled (decided.nice.map (·.status)) (differs readers task rule .nice)
          (niceGone readers task rule) (taskHasCompleteIdentity task)
          ((niceNeeds decided.nice).all (·.1)) ∧
        Settled (decided.ionice.map (·.status)) (differs readers task rule .ionice)
          (ioniceGone readers task rule) (taskHasCompleteIdentity task)
          ((ioniceNeeds decided.ionice).all (·.1)))
      (decideNice task rule readers d) := by
  unfold decideNice breaksFromNice
  cases hrule : rule.nice with
  | none =>
    have hnice : niceGone readers task rule = false := by simp [niceGone, hrule]
    have hdiffers : differs readers task rule .nice = false := by simp [differs, hrule]
    have h := decideIonice_spec hnone.2 ⟨hreached, hnice⟩
    simp only [hnice, Option.isSome_none, Bool.false_and, Bool.false_or, Bool.not_false,
      Bool.true_and]
    refine h.mono fun decided ⟨haffinity, hsame, hionice⟩ => ⟨haffinity, ?_, hionice⟩
    rw [hsame, hnone.1, hdiffers]
    exact settled_none
  | some desired =>
    cases hread : readers.readNice task.tid with
    | error e =>
      have hdiffers : differs readers task rule .nice = false := by simp [differs, hrule, hread]
      cases hgone : e.isGone with
      | false =>
        simp only [hgone, Bool.false_eq_true, if_false]
        exact .error _ (by simp [isBroken, hgone])
      | true =>
        have hnice : niceGone readers task rule = true := by
          simp [niceGone, hreached, hrule, hread, isGone, hgone]
        simp only [hgone, if_true]
        refine .ok _ (by simp [isBroken, hgone, hnice]) ⟨rfl, ?_, ?_⟩
        · rw [hdiffers, hnice]
          exact settled_dead
        · have hionice : differs readers task rule .ionice = false := by simp [differs, hnice]
          have hstays : ioniceGone readers task rule = false := by simp [ioniceGone, hnice]
          simp only [hnone.2, hionice, hstays]
          exact settled_none
    | ok current =>
      have hnice : niceGone readers task rule = false := by simp [niceGone, hrule, hread, isGone]
      have hdiffers : differs readers task rule .nice = !(current == desired) := by
        simp [differs, hreached, hrule, hread, bne]
      have h := decideIonice_spec (d := withNice task d current desired) hnone.2
        ⟨hreached, hnice⟩
      simp only [hnice, isBroken, Bool.and_false, Bool.false_or, Bool.not_false, Bool.true_and]
      refine h.mono fun decided ⟨haffinity, hsame, hionice⟩ => ⟨haffinity, ?_, hionice⟩
      rw [hsame, hdiffers]
      exact settled_read task (current == desired)

/-- A decision with an affinity that was read. -/
def withAffinity (task : TaskInfo) (current desired : CpuMask) : ProfileTaskActionDecision :=
  let status := statusOf task (current == desired)
  { affinity := some ⟨status, some current, some desired, reasonOf status⟩ }

/-- **What the decision of a task says**, and when there is none. -/
theorem decideProfileTaskActions_spec (readers : Readers) (task : TaskInfo) (rule : ProfileRule) :
    Tally.Turns (decideFails readers task rule) (Decided readers task rule)
      (decideProfileTaskActions task rule readers) := by
  unfold decideProfileTaskActions decideFails breaks
  cases hrule : rule.affinity with
  | none =>
    have haffinity : affinityGone readers task rule = false := by simp [affinityGone, hrule]
    have hdiffers : differs readers task rule .affinity = false := by simp [differs, hrule]
    have h := decideNice_spec (d := {}) ⟨rfl, rfl⟩ haffinity
    simp only [haffinity, Option.isSome_none, Bool.false_and, Bool.false_or, Bool.not_false,
      Bool.true_and]
    refine h.mono fun decided ⟨hsame, hnice, hionice⟩ => ⟨?_, hnice, hionice⟩
    rw [hsame, hdiffers, haffinity]
    exact settled_none
  | some desired =>
    cases hread : readers.readAllowedMask task.tid with
    | error e =>
      have hdiffers : differs readers task rule .affinity = false := by simp [differs, hrule, hread]
      cases hgone : e.isGone with
      | false =>
        simp only [hgone, Bool.false_eq_true, if_false]
        exact .error _ (by simp [isBroken, hgone])
      | true =>
        have haffinity : affinityGone readers task rule = true := by
          simp [affinityGone, hrule, hread, isGone, hgone]
        simp only [hgone, if_true]
        refine .ok _ (by simp [isBroken, hgone, haffinity]) ⟨?_, ?_, ?_⟩
        · rw [hdiffers, haffinity]
          exact settled_dead
        · have hnice : differs readers task rule .nice = false := by simp [differs, haffinity]
          have hstays : niceGone readers task rule = false := by simp [niceGone, haffinity]
          rw [hnice, hstays]
          exact settled_none
        · have hionice : differs readers task rule .ionice = false := by simp [differs, haffinity]
          have hstays : ioniceGone readers task rule = false := by simp [ioniceGone, haffinity]
          rw [hionice, hstays]
          exact settled_none
    | ok current =>
      have haffinity : affinityGone readers task rule = false := by
        simp [affinityGone, hrule, hread, isGone]
      have hdiffers : differs readers task rule .affinity = !(current == desired) := by
        simp [differs, hrule, hread, bne]
      have h := decideNice_spec (d := withAffinity task current desired) ⟨rfl, rfl⟩ haffinity
      simp only [haffinity, isBroken, Bool.and_false, Bool.false_or, Bool.not_false, Bool.true_and]
      refine h.mono fun decided ⟨hsame, hnice, hionice⟩ => ⟨?_, hnice, hionice⟩
      rw [hsame, hdiffers, haffinity]
      exact settled_read task (current == desired)

/-- One state counts what the other does and the attributes of `f`. -/
def Counted (f : Attribute → Bool) (before after : SummaryState) : Prop :=
  ∀ which, after.summary.pendingOf which = before.summary.pendingOf which + (f which).toNat

theorem Counted.same {state : SummaryState} {f : Attribute → Bool} (hf : ∀ which, f which = false) :
    Counted f state state := by
  intro which
  simp [hf which]

variable (state : SummaryState)

theorem counted_if (tid : Nat) (which : Attribute) (c : Bool) :
    Counted (fun other => decide (other = which) && c) state
      (if c then state.count tid which else state) := by
  intro other
  cases c with
  | false => simp
  | true => cases which <;> cases other <;> rfl

theorem summariseIonice_spec
    (hreached : affinityGone readers task rule = false ∧ niceGone readers task rule = false) :
    Tally.Turns (rule.ionice.isSome && (isBroken (readers.readIoprio task.tid) ||
        (!isGone (readers.readIoprio task.tid) && unencodable rule)))
      (Counted (fun which => decide (which = .ionice) && differs readers task rule .ionice) state)
      (summariseIonice task rule readers state) := by
  unfold summariseIonice unencodable differs
  simp only [hreached, Bool.not_false, Bool.true_and]
  cases hrule : rule.ionice with
  | none => exact .ok _ rfl (.same fun _ => by simp)
  | some desired =>
    cases hread : readers.readIoprio task.tid with
    | error e =>
      cases hgone : e.isGone with
      | false =>
        simp only [hgone, Bool.false_eq_true, if_false]
        exact .error _ (by simp [isBroken, hgone])
      | true =>
        simp only [hgone, if_true]
        exact .ok _ (by simp [isBroken, isGone, hgone]) (.same fun _ => by simp)
    | ok original =>
      cases hencode : desired.encode with
      | error e' =>
        simp only [hencode, bind, Except.bind]
        exact .error _ (by simp [isGone, hencode, Except.isOk, Except.toBool])
      | ok encoded =>
        simp only [hencode, bind, Except.bind]
        refine .ok _ (by simp [isBroken, hencode, Except.isOk, Except.toBool]) ?_
        exact counted_if state task.tid .ionice (original != encoded)

theorem summariseNice_spec (hreached : affinityGone readers task rule = false) :
    Tally.Turns (breaksFromNice readers task rule (isBroken (readers.readIoprio task.tid) ||
        (!isGone (readers.readIoprio task.tid) && unencodable rule)))
      (Counted (fun which => decide (which ≠ .affinity) && differs readers task rule which) state)
      (summariseNice task rule readers state) := by
  unfold summariseNice breaksFromNice
  cases hrule : rule.nice with
  | none =>
    have hnice : niceGone readers task rule = false := by simp [niceGone, hrule]
    have hdiffers : differs readers task rule .nice = false := by simp [differs, hrule]
    simp only [hnice, Option.isSome_none, Bool.false_and, Bool.false_or, Bool.not_false,
      Bool.true_and]
    refine (summariseIonice_spec state ⟨hreached, hnice⟩).mono fun after h which => ?_
    rw [h which]
    cases which <;> simp [hdiffers]
  | some desired =>
    cases hread : readers.readNice task.tid with
    | error e =>
      cases hgone : e.isGone with
      | false =>
        simp only [hgone, Bool.false_eq_true, if_false]
        exact .error _ (by simp [isBroken, hgone])
      | true =>
        have hnice : niceGone readers task rule = true := by
          simp [niceGone, hreached, hrule, hread, isGone, hgone]
        simp only [hgone, if_true]
        refine .ok _ (by simp [isBroken, hgone, hnice]) (.same fun which => ?_)
        cases which <;> simp [differs, hrule, hread, hnice]
    | ok original =>
      have hnice : niceGone readers task rule = false := by simp [niceGone, hrule, hread, isGone]
      have hdiffers : differs readers task rule .nice = (original != desired) := by
        simp [differs, hreached, hrule, hread]
      simp only [hnice, isBroken, Bool.and_false, Bool.false_or, Bool.not_false, Bool.true_and]
      have hcount := counted_if state task.tid .nice (original != desired)
      refine (summariseIonice_spec _ ⟨hreached, hnice⟩).mono fun after h which => ?_
      rw [h which, hcount which]
      cases which <;> simp [hdiffers]

/-- **What the summary counts of a task**, and when it fails. -/
theorem summariseTask_spec (readers : Readers) (task : TaskInfo) (rule : ProfileRule)
    (state : SummaryState) :
    Tally.Turns (summaryFails readers task rule) (Counted (differs readers task rule) state)
      (summariseTask task rule readers state) := by
  unfold summariseTask summaryFails breaks
  cases hrule : rule.affinity with
  | none =>
    have haffinity : affinityGone readers task rule = false := by simp [affinityGone, hrule]
    have hdiffers : differs readers task rule .affinity = false := by simp [differs, hrule]
    simp only [haffinity, Option.isSome_none, Bool.false_and, Bool.false_or, Bool.not_false,
      Bool.true_and]
    refine (summariseNice_spec state haffinity).mono fun after h which => ?_
    rw [h which]
    cases which <;> simp [hdiffers]
  | some desired =>
    cases hread : readers.readAllowedMask task.tid with
    | error e =>
      cases hgone : e.isGone with
      | false =>
        simp only [hgone, Bool.false_eq_true, if_false]
        exact .error _ (by simp [isBroken, hgone])
      | true =>
        have haffinity : affinityGone readers task rule = true := by
          simp [affinityGone, hrule, hread, isGone, hgone]
        simp only [hgone, if_true]
        refine .ok _ (by simp [isBroken, hgone, haffinity]) (.same fun which => ?_)
        cases which <;> simp [differs, hrule, hread, haffinity]
    | ok original =>
      have haffinity : affinityGone readers task rule = false := by
        simp [affinityGone, hrule, hread, isGone]
      have hdiffers : differs readers task rule .affinity = (original != desired) := by
        simp [differs, hrule, hread]
      simp only [haffinity, isBroken, Bool.and_false, Bool.false_or, Bool.not_false, Bool.true_and]
      have hcount := counted_if state task.tid .affinity (original != desired)
      refine (summariseNice_spec _ haffinity).mono fun after h which => ?_
      rw [h which, hcount which]
      cases which <;> simp [hdiffers]

variable {decision : ProfileTaskActionDecision}

/-- A decision's pending attributes are those that differ, on a task with a complete identity. -/
theorem Decided.pendingFor_eq (h : Decided readers task rule decision) (which : Attribute) :
    decision.pendingFor which =
      (differs readers task rule which && taskHasCompleteIdentity task) := by
  cases which with
  | affinity => exact h.affinity.pending
  | nice => exact h.nice.pending
  | ionice => exact h.ionice.pending

theorem Decided.taskDisappeared_eq (h : Decided readers task rule decision) :
    decision.taskDisappeared = vanishes readers task rule := by
  have hcontains : ∀ status : Option ActionStatus,
      status.toList.contains .skippedDeadTask = (status == some .skippedDeadTask) := by
    intro status
    cases status with
    | none => rfl
    | some s => cases s <;> rfl
  unfold ProfileTaskActionDecision.taskDisappeared ProfileTaskActionDecision.statuses vanishes
  rw [← h.affinity.dead, ← h.nice.dead, ← h.ionice.dead, ← hcontains, ← hcontains, ← hcontains]
  simp only [List.contains_append]

theorem planned_ok {α : Type} {pending : Bool} {current desired : Option α} (task : TaskInfo)
    (kind : String)
    {needs : List (Bool × String)} (hneeds : pending = true → needs.all (·.1) = true)
    (hvalues : needs.all (·.1) = true → current.isSome = true ∧ desired.isSome = true) :
    ∃ records, planned task pending current desired kind needs = .ok records ∧
      records.length = pending.toNat := by
  cases pending with
  | false => exact ⟨[], rfl, rfl⟩
  | true =>
    have hall := hneeds rfl
    obtain ⟨hcurrent, hdesired⟩ := hvalues hall
    obtain ⟨original, rfl⟩ := Option.isSome_iff_exists.mp hcurrent
    obtain ⟨applied, rfl⟩ := Option.isSome_iff_exists.mp hdesired
    have hfind : needs.find? (!·.1) = none := by
      rw [List.find?_eq_none]
      intro need hneed
      simp [List.all_eq_true.mp hall need hneed]
    exact ⟨[.of task original applied], by simp [planned, hfind], rfl⟩

/-- The plan has a record of every pending change of a decision.  The task's key may enter the
cache; nothing else does. -/
theorem planDecided_spec (h : Decided readers task rule decision) (state : PlanState) :
    ∃ after, planDecided task rule decision state = .ok after ∧
      (∀ which, after.plan.changesOf which =
        state.plan.changesOf which + (decision.pendingFor which).toNat) ∧
      (after.known = state.known ∨
        after.known = state.known.map (ProfileApplyCacheKey.new task rule :: ·)) := by
  obtain ⟨affinity, haffinity, haffinityLength⟩ := planned_ok task "affinity"
    (fun hp => h.affinity.valued (eq_of_beq hp)) (fun hall => by simpa [affinityNeeds] using hall)
  obtain ⟨nice, hnice, hniceLength⟩ := planned_ok task "nice"
    (fun hp => h.nice.valued (eq_of_beq hp))
    (fun hall => And.symm (by simpa [niceNeeds] using hall))
  obtain ⟨ionice, hionice, hioniceLength⟩ := planned_ok task "ionice"
    (fun hp => h.ionice.valued (eq_of_beq hp))
    (fun hall => And.symm (by simpa [ioniceNeeds] using hall : _ ∧ _ ∧ _).2)
  have hcounted : ∀ (after : ProfileApplyPlan),
      after.affinityChanges = state.plan.affinityChanges ++ affinity →
      after.niceRecords = state.plan.niceRecords ++ nice →
      after.ioniceRecords = state.plan.ioniceRecords ++ ionice →
      ∀ which, after.changesOf which =
        state.plan.changesOf which + (decision.pendingFor which).toNat := by
    intro after h₁ h₂ h₃ which
    cases which with
    | affinity =>
      exact (congrArg _ h₁).trans (List.length_append.trans (congrArg _ haffinityLength))
    | nice => exact (congrArg _ h₂).trans (List.length_append.trans (congrArg _ hniceLength))
    | ionice => exact (congrArg _ h₃).trans (List.length_append.trans (congrArg _ hioniceLength))
  simp only [ProfileTaskActionDecision.pendingFor] at hcounted
  unfold planDecided
  simp only [ProfileTaskActionDecision.pendingFor, haffinity, hnice, hionice, bind, Except.bind]
  cases decision.pending with
  | true => exact ⟨_, rfl, hcounted _ rfl rfl rfl, .inl rfl⟩
  | false => exact ⟨_, rfl, hcounted _ rfl rfl rfl, .inr rfl⟩

end Specs

end Stutter.Profiles

import StutterProof.OpSimulation
import StutterProof.RecoveryCalls

/-! # The executor of a startup recovery

A recovery is generic in the executor that restores tokens.  Here it keeps the calls it makes with
their answers, over the stores; the recovery with the real executor answers the same and leaves the
same stores (`recoverControllerJournal_alike`). -/
namespace Stutter.ExecutorCalls
open Fallible

/-- One restore: what the executor answers, and the text of a token's manual command. -/
structure RecoveryExecutor where
  rollback : RollbackToken → Except AnyError StartupRecoveryRollbackSummary
  manualRestoreText : RollbackToken → String

abbrev Call := RollbackToken × Except AnyError StartupRecoveryRollbackSummary

/-- The stores in the course of a recovery, and the calls of the executor. -/
structure Recovery where
  world : World
  calls : List Call := []

abbrev RecoveryOp (α : Type) := Op Recovery AnyError α

def Recovery.onWorld (world : World) (s : Recovery) : Recovery := { s with world }

def onStores {α : Type} (op : WorldOp α) : RecoveryOp α :=
  Op.zoom Recovery.world Recovery.onWorld op

def callExecutor (executor : RecoveryExecutor) (token : RollbackToken) :
    RecoveryOp StartupRecoveryRollbackSummary :=
  Op.act fun s => (executor.rollback token,
    { s with calls := s.calls ++ [(token, executor.rollback token)] })

/-- What follows a restore that succeeded. -/
def settleRestored (id : ExperimentId) (token : RollbackToken) (source : RecoverySource)
    (outcome : StartupRecoveryOutcome) : WorldOp StartupRecoveryOutcome := do
  let named ← journalNamesToken token
  if source == .journal || named then
    writeControllerJournalClean
  retireKept id
  recordRecovery "audit event"
  recordRecovery "history event"
  recordRecovery "daemon state snapshot"
  return outcome

/-- What follows a restore that failed. -/
def settleFailed (outcome : StartupRecoveryOutcome) : WorldOp StartupRecoveryOutcome := do
  recordRecovery "audit event"
  recordRecovery "history event"
  recordRecovery "daemon state snapshot"
  return outcome

section Recovery
variable (config : StartupRecoveryConfig)

/-- `recover_applied_journal_record`. -/
def recoverAppliedJournalRecord (executor : RecoveryExecutor) (id : ExperimentId)
    (action : ActionId) (token : RollbackToken) (source : RecoverySource) :
    RecoveryOp StartupRecoveryOutcome :=
  do
  let manualCommand := executor.manualRestoreText token
  if !config.rollbackOnCrashRecovery then
    onStores (recordRecovery "daemon state snapshot")
    return .rollbackDisabled id action manualCommand
  match ← Op.attempt (do
      Op.ofExcept (requireAutomaticRecovery token)
      callExecutor executor token) with
  | .ok summary =>
    onStores (settleRestored id token source
      (.recovered id action summary.affectedTasks manualCommand))
  | .error e =>
    onStores (settleFailed (.faulted id action manualCommand
      s!"startup crash recovery rollback failed: {e.text}"))

/-- The entries in order, from restore number `n` on. -/
def recoverEntries (executors : Nat → RecoveryExecutor) :
    Nat → List KeptLedgerEntry → RecoveryOp (List StartupRecoveryOutcome)
  | _, [] => Op.ret []
  | n, entry :: entries => do
    let outcome ← recoverAppliedJournalRecord config (executors n) entry.experimentId entry.actionId
      entry.rollbackToken .ledger
    let outcomes ← recoverEntries executors (n + 1) entries
    return outcome :: outcomes

/-- `recover_kept_ledger`. -/
def recoverKeptLedger (executors : Nat → RecoveryExecutor) :
    RecoveryOp (List StartupRecoveryOutcome) :=
  do
  let ledger ← onStores readKeptLedger
  recoverEntries config executors 0 ledger.entries

/-- The branches of `recover_journal_record` on the record it read. -/
def recoverRecord (executor : RecoveryExecutor) (record : ControllerJournalRecord) :
    RecoveryOp StartupRecoveryOutcome :=
  match record.state with
  | .clean => return .clean
  | .reverted | .planned | .preflighted => do
    onStores writeControllerJournalClean
    return .clean
  | .applying | .applied | .verifying | .measuring | .keeping | .reverting | .faulted => do
    let (id, action) := journalExperimentAction record
    match record.rollbackToken with
    | some token => recoverAppliedJournalRecord config executor id action token .journal
    | none =>
      onStores (recordRecovery "daemon state snapshot")
      return .applyingWithoutRollback id action

/-- `recover_journal_record`. -/
def recoverJournalRecord (executor : RecoveryExecutor) : RecoveryOp StartupRecoveryOutcome := do
  recoverRecord config executor (← onStores readControllerJournal)

/-- `recover_controller_journal_with_executor`. -/
def recoverControllerJournal (executors : Nat → RecoveryExecutor) :
    RecoveryOp StartupRecoveryOutcome :=
  do
  let kept ← recoverKeptLedger config executors
  let journal ← recoverJournalRecord config (executors kept.length)
  return combineOutcomes kept journal

end Recovery

/-! ## The real executor -/

/-- The real executor behind a host. -/
def executorOf (host : StartupHost) : RecoveryExecutor where
  rollback := host.rollbackAnswer
  manualRestoreText := manualRestoreText host

/-- The stores and the coming accesses are the same. -/
structure SameStores (w v : World) : Prop where
  journal : w.journal = v.journal
  ledger : w.ledger = v.ledger
  io : w.io = v.io

/-- The recovery stands at the same stores. -/
abbrev At (s : Recovery) (w : World) : Prop := SameStores s.world w

open Op (Alike)

theorem alike_durable {what : String} {change : World → World}
    (h : ∀ w v, SameStores w v → SameStores (change w) (change v)) :
    Alike SameStores (durable what change) (durable what change) := by
  refine Op.alike_act fun w v hwv => ?_
  have hdrawn : SameStores w.drawn v.drawn := ⟨hwv.journal, hwv.ledger, congrArg List.tail hwv.io⟩
  rw [hwv.io]
  cases v.io.head?.getD .done with
  | done => exact ⟨rfl, h _ _ hdrawn⟩
  | failedBefore => exact ⟨rfl, hdrawn⟩
  | failedAfter => exact ⟨rfl, h _ _ hdrawn⟩

theorem alike_durableRead {α : Type} {what : String} {read : World → Except AnyError α}
    (h : ∀ w v, SameStores w v → read w = read v) :
    Alike SameStores (durableRead what read) (durableRead what read) := by
  refine Op.alike_act fun w v hwv => ?_
  have hdrawn : SameStores w.drawn v.drawn := ⟨hwv.journal, hwv.ledger, congrArg List.tail hwv.io⟩
  rw [hwv.io]
  cases v.io.head?.getD .done with
  | done => exact ⟨h w v hwv, hdrawn⟩
  | failedBefore => exact ⟨rfl, hdrawn⟩
  | failedAfter => exact ⟨rfl, hdrawn⟩

theorem alike_recordRecovery (what : String) :
    Alike SameStores (recordRecovery what) (recordRecovery what) :=
  alike_durable fun _ _ h => h

theorem alike_writeClean :
    Alike SameStores writeControllerJournalClean writeControllerJournalClean := by
  unfold writeControllerJournalClean writeControllerJournalRecord
  exact alike_durable fun _ _ h => ⟨rfl, h.ledger, h.io⟩

theorem alike_readControllerJournal :
    Alike SameStores readControllerJournal readControllerJournal :=
  alike_durableRead fun _ _ h => by rw [h.journal]

theorem alike_readKeptLedger : Alike SameStores readKeptLedger readKeptLedger :=
  alike_durableRead fun _ _ h => by rw [h.ledger]

theorem alike_retireKept (id : ExperimentId) :
    Alike SameStores (retireKept id) (retireKept id) := by
  unfold retireKept
  refine alike_readKeptLedger.bind fun ledger => ?_
  dsimp only
  split
  · exact Op.alike_ret ()
  · split
    · exact alike_durable fun _ _ h => ⟨h.journal, rfl, h.io⟩
    · exact alike_durable fun _ _ h => ⟨h.journal, rfl, h.io⟩

theorem alike_journalNamesToken (token : RollbackToken) :
    Alike SameStores (journalNamesToken token) (journalNamesToken token) := by
  unfold journalNamesToken
  refine alike_readControllerJournal.attempt.bind fun read => ?_
  cases read with
  | ok record => exact Op.alike_pure _
  | error e => exact Op.alike_pure _

theorem alike_settleFailed (outcome : StartupRecoveryOutcome) :
    Alike SameStores (settleFailed outcome) (settleFailed outcome) :=
  (alike_recordRecovery _).bind fun _ => (alike_recordRecovery _).bind fun _ =>
    (alike_recordRecovery _).bind fun _ => Op.alike_pure outcome

theorem alike_settleRestored (id : ExperimentId) (token : RollbackToken) (source : RecoverySource)
    (outcome : StartupRecoveryOutcome) :
    Alike SameStores (settleRestored id token source outcome)
      (settleRestored id token source outcome) := by
  unfold settleRestored
  refine (alike_journalNamesToken token).bind fun named => ?_
  have hrest := (alike_retireKept id).bind fun _ => alike_settleFailed outcome
  dsimp only
  split
  · exact alike_writeClean.bind fun _ => hrest
  · exact hrest

/-- An operation on the stores, next to the same one on the whole world. -/
theorem alike_onStores {α : Type} {op : WorldOp α} (h : Alike SameStores op op) :
    Alike At (onStores op) op :=
  h.zoom (fun _ _ h => h) fun _ _ _ h => h

/-- A call of the executor, next to the real one's restore. -/
theorem alike_callExecutor (host : StartupHost) (token : RollbackToken) :
    Alike At (callExecutor (executorOf host) token) (host.rollback token) := by
  intro s w h
  unfold StartupHost.rollback
  simp only [bind, Op.andThen, Op.update, Op.act, Op.ofExcept, callExecutor, executorOf]
  cases host.discharges token with
  | true => exact ⟨rfl, h.journal, h.ledger, h.io⟩
  | false => exact ⟨rfl, h.journal, h.ledger, h.io⟩

variable (config : StartupRecoveryConfig)

theorem recoverAppliedJournalRecord_alike (host : StartupHost) (id : ExperimentId)
    (action : ActionId) (token : RollbackToken) (source : RecoverySource) :
    Alike At (recoverAppliedJournalRecord config (executorOf host) id action token source)
      (Stutter.recoverAppliedJournalRecord config host id action token source) := by
  unfold recoverAppliedJournalRecord Stutter.recoverAppliedJournalRecord
  dsimp only
  split
  · exact (alike_onStores (alike_recordRecovery _)).bind fun _ => Op.alike_pure _
  · have hgate : Alike At (Op.ofExcept (requireAutomaticRecovery token))
        (Op.ofExcept (requireAutomaticRecovery token)) := Op.alike_ofExcept _
    refine (hgate.bind fun _ => alike_callExecutor host token).attempt.bind fun answer => ?_
    cases answer with
    | ok summary => exact alike_onStores (alike_settleRestored id token source _)
    | error e => exact alike_onStores (alike_settleFailed _)

theorem recoverEntries_alike (hosts : Nat → StartupHost) (n : Nat)
    (entries : List KeptLedgerEntry) :
    Alike At (recoverEntries config (fun n => executorOf (hosts n)) n entries)
      (Stutter.recoverEntries config hosts n entries) := by
  induction entries generalizing n with
  | nil => exact Op.alike_ret []
  | cons entry entries ih =>
    have hentry := recoverAppliedJournalRecord_alike config (hosts n) entry.experimentId
      entry.actionId entry.rollbackToken .ledger
    refine Alike.bind hentry fun outcome => ?_
    exact (ih (n + 1)).bind fun outcomes => Op.alike_pure _

theorem recoverRecord_alike (host : StartupHost) (record : ControllerJournalRecord) :
    Alike At (recoverRecord config (executorOf host) record)
      (Stutter.recoverRecord config host record) := by
  unfold recoverRecord Stutter.recoverRecord
  cases record.state with
  | clean => exact Op.alike_pure _
  | reverted | planned | preflighted =>
    exact (alike_onStores alike_writeClean).bind fun _ => Op.alike_pure _
  | applying | applied | verifying | measuring | keeping | reverting | faulted =>
    dsimp only
    cases record.rollbackToken with
    | some token => exact recoverAppliedJournalRecord_alike config host _ _ token .journal
    | none => exact (alike_onStores (alike_recordRecovery _)).bind fun _ => Op.alike_pure _

/-- **The recovery with the real executor** answers what the generic one does with its answers, and
leaves the same stores. -/
theorem recoverControllerJournal_alike (hosts : Nat → StartupHost) :
    Alike At (recoverControllerJournal config fun n => executorOf (hosts n))
      (Stutter.recoverControllerJournal config hosts) := by
  have hkept : Alike At (recoverKeptLedger config fun n => executorOf (hosts n))
      (Stutter.recoverKeptLedger config hosts) :=
    (alike_onStores alike_readKeptLedger).bind fun ledger =>
      recoverEntries_alike config hosts 0 ledger.entries
  refine hkept.bind fun kept => ?_
  have hjournal : Alike At (recoverJournalRecord config (executorOf (hosts kept.length)))
      (Stutter.recoverJournalRecord config (hosts kept.length)) :=
    (alike_onStores alike_readControllerJournal).bind fun record =>
      recoverRecord_alike config _ record
  exact hjournal.bind fun journal => Op.alike_pure _

end Stutter.ExecutorCalls

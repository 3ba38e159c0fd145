import StutterProof.FallibleOp
import StutterProof.Actions

/-! # The durable stores: controller journal and kept-action ledger

The journal is one record, that of the experiment in flight; every write replaces
it.  The ledger lists the tokens of the actions that were kept.  Both are replaced
by a rename of a synced temporary file, so that a write is atomic; it can still
fail, before the rename (nothing changed) or after it, when the directory sync
fails (the new content is there and the caller is told of a failure).

`World` is what outlives the process: the two files, and the host's writes that
have not been undone.  `World.io` is the schedule of I/O outcomes, one for each
durable access; quantifying over it injects every failure.  `World.journalWrites`
and `World.discharged` are history variables: the journal writes that took effect,
each with what it replaced, and the tokens whose restore was completed. -/
namespace Stutter
open Fallible

/-! ## The controller journal's record -/

/-- The phases the journal records. -/
inductive ControllerJournalState where
  | clean | planned | preflighted | applying | applied | verifying | measuring | keeping
  | reverting | reverted | faulted
  deriving DecidableEq

/-- The journal's one record. -/
structure ControllerJournalRecord where
  schemaVersion : Nat
  state : ControllerJournalState
  experimentId : Option ExperimentId
  actionId : Option ActionId
  candidate : Option String
  workloadIdentity : Option String
  targetIdentity : Option String
  restoreCommand : Option String
  verifyResult : Option String
  mode : Option DaemonMode
  safetyClass : Option SafetyClass
  rollbackToken : Option RollbackToken
  faultReason : Option String

structure ControllerJournalActionMetadata where
  candidate : Option String := none
  workloadIdentity : Option String := none
  targetIdentity : Option String := none
  restoreCommand : Option String := none
  verifyResult : Option String := none
  mode : Option DaemonMode := none
  safetyClass : Option SafetyClass := none

def controllerJournalSchemaVersion : Nat := 1

namespace ControllerJournalRecord

def clean : ControllerJournalRecord :=
  ⟨controllerJournalSchemaVersion, .clean, none, none, none, none, none, none, none, none, none,
    none, none⟩

def forPhase (state : ControllerJournalState) (experimentId : ExperimentId) (actionId : ActionId)
    (rollbackToken : Option RollbackToken) : ControllerJournalRecord :=
  { clean with
    state := state, experimentId := some experimentId, actionId := some actionId,
    rollbackToken := rollbackToken }

/-- A field the metadata does not set keeps the record's value. -/
def withMetadata (r : ControllerJournalRecord) (m : ControllerJournalActionMetadata) :
    ControllerJournalRecord :=
  { r with
    candidate := m.candidate <|> r.candidate
    workloadIdentity := m.workloadIdentity <|> r.workloadIdentity
    targetIdentity := m.targetIdentity <|> r.targetIdentity
    restoreCommand := m.restoreCommand <|> r.restoreCommand
    verifyResult := m.verifyResult <|> r.verifyResult
    mode := m.mode <|> r.mode
    safetyClass := m.safetyClass <|> r.safetyClass }

/-- Every phase from `applying` on, except `reverted`. -/
def mayHaveMutatedSystem (r : ControllerJournalRecord) : Bool :=
  match r.state with
  | .applying | .applied | .verifying | .measuring | .keeping | .reverting | .faulted => true
  | .clean | .planned | .preflighted | .reverted => false

def validateIdentityStrings (r : ControllerJournalRecord) : Except String Unit := do
  if let some id := r.experimentId then validateNonEmpty "ExperimentId" id
  if let some id := r.actionId then validateNonEmpty "ActionId" id

/-- The record carries an unfinished action's token. -/
def outstandingToken (r : ControllerJournalRecord) : Option RollbackToken :=
  if r.mayHaveMutatedSystem then r.rollbackToken else none

@[simp] theorem forPhase_state {state id action token} :
    (forPhase state id action token).state = state := rfl
@[simp] theorem forPhase_experimentId {state id action token} :
    (forPhase state id action token).experimentId = some id := rfl
@[simp] theorem forPhase_actionId {state id action token} :
    (forPhase state id action token).actionId = some action := rfl
@[simp] theorem forPhase_rollbackToken {state id action token} :
    (forPhase state id action token).rollbackToken = token := rfl
@[simp] theorem withMetadata_state {r m} : (withMetadata r m).state = r.state := rfl
@[simp] theorem withMetadata_experimentId {r m} :
    (withMetadata r m).experimentId = r.experimentId := rfl
@[simp] theorem withMetadata_actionId {r m} : (withMetadata r m).actionId = r.actionId := rfl
@[simp] theorem withMetadata_rollbackToken {r m} :
    (withMetadata r m).rollbackToken = r.rollbackToken := rfl
@[simp] theorem withMetadata_schemaVersion {r m} :
    (withMetadata r m).schemaVersion = r.schemaVersion := rfl
@[simp] theorem clean_state : clean.state = .clean := rfl
@[simp] theorem clean_experimentId : clean.experimentId = none := rfl
@[simp] theorem clean_rollbackToken : clean.rollbackToken = none := rfl

end ControllerJournalRecord

/-! ## The kept-action ledger -/

/-- A kept action, with its token. -/
structure KeptLedgerEntry where
  experimentId : ExperimentId
  actionId : ActionId
  candidate : String
  rollbackToken : RollbackToken
  mode : Option DaemonMode
  safetyClass : Option SafetyClass
  keptUnixNanos : Nat

/-- The ledger of kept actions. -/
structure KeptLedger where
  schemaVersion : Nat
  entries : List KeptLedgerEntry

def keptLedgerSchemaVersion : Nat := 1

def KeptLedger.empty : KeptLedger := ⟨keptLedgerSchemaVersion, []⟩

/-! ## The world -/

/-- A durable file: absent, readable, or present but not parseable. -/
inductive StoreFile (α : Type) where
  | missing
  | content (value : α)
  | corrupt

/-- The outcome of one durable access. -/
inductive IoOutcome where
  | done | failedBefore | failedAfter

/-- A journal write that took effect, and the stores and host it found. -/
structure JournalWrite where
  replaced : StoreFile ControllerJournalRecord
  written : ControllerJournalRecord
  ledger : StoreFile KeptLedger
  writes : List HostWrite

/-- The stores, and the host's writes. -/
structure World where
  journal : StoreFile ControllerJournalRecord
  ledger : StoreFile KeptLedger
  /-- The host's writes that have not been undone. -/
  writes : List HostWrite
  /-- The outcomes of the coming durable accesses; none left means success. -/
  io : List IoOutcome
  journalWrites : List JournalWrite
  /-- The tokens of which every item was restored or skipped as stale. -/
  discharged : List RollbackToken

namespace World

/-- An empty host with no journal and no ledger, every access successful. -/
def fresh : World := ⟨.missing, .missing, [], [], [], []⟩

/-- The world after the next I/O outcome was drawn. -/
def drawn (w : World) : World := { w with io := w.io.tail }

/-- The entries a readable ledger of this schema holds. -/
def ledgerEntries (w : World) : List KeptLedgerEntry :=
  match w.ledger with
  | .content ledger => if ledger.schemaVersion = keptLedgerSchemaVersion then ledger.entries else []
  | .missing | .corrupt => []

/-- The record a journal read answers with, if it succeeds. -/
def journalRecord (w : World) : Option ControllerJournalRecord :=
  match w.journal with
  | .content r => some r
  | .missing => some .clean
  | .corrupt => none

def setJournal (w : World) (r : ControllerJournalRecord) : World :=
  { w with
    journal := .content r
    journalWrites := w.journalWrites ++ [⟨w.journal, r, w.ledger, w.writes⟩] }

def setLedger (w : World) (file : StoreFile KeptLedger) : World := { w with ledger := file }

variable (w : World)

@[simp] theorem drawn_journal : w.drawn.journal = w.journal := rfl
@[simp] theorem drawn_ledger : w.drawn.ledger = w.ledger := rfl
@[simp] theorem drawn_writes : w.drawn.writes = w.writes := rfl
@[simp] theorem drawn_journalWrites : w.drawn.journalWrites = w.journalWrites := rfl
@[simp] theorem drawn_discharged : w.drawn.discharged = w.discharged := rfl
@[simp] theorem drawn_ledgerEntries : w.drawn.ledgerEntries = w.ledgerEntries := rfl
@[simp] theorem drawn_journalRecord : w.drawn.journalRecord = w.journalRecord := rfl
@[simp] theorem setJournal_journal (r) : (w.setJournal r).journal = .content r := rfl
@[simp] theorem setJournal_ledger (r) : (w.setJournal r).ledger = w.ledger := rfl
@[simp] theorem setJournal_writes (r) : (w.setJournal r).writes = w.writes := rfl
@[simp] theorem setJournal_ledgerEntries (r) :
    (w.setJournal r).ledgerEntries = w.ledgerEntries := rfl
@[simp] theorem setJournal_journalRecord (r) : (w.setJournal r).journalRecord = some r := rfl
@[simp] theorem setJournal_journalWrites (r) : (w.setJournal r).journalWrites =
    w.journalWrites ++ [⟨w.journal, r, w.ledger, w.writes⟩] := rfl
@[simp] theorem setJournal_discharged (r) : (w.setJournal r).discharged = w.discharged := rfl
@[simp] theorem setLedger_journal (f) : (w.setLedger f).journal = w.journal := rfl
@[simp] theorem setLedger_ledger (f) : (w.setLedger f).ledger = f := rfl
@[simp] theorem setLedger_writes (f) : (w.setLedger f).writes = w.writes := rfl
@[simp] theorem setLedger_journalWrites (f) : (w.setLedger f).journalWrites = w.journalWrites := rfl
@[simp] theorem setLedger_discharged (f) : (w.setLedger f).discharged = w.discharged := rfl

theorem ledgerEntries_congr {w v : World} (h : v.ledger = w.ledger) :
    v.ledgerEntries = w.ledgerEntries := by
  unfold ledgerEntries
  rw [h]

/-- `v` is `w` up to the I/O schedule. -/
structure Same (w v : World) : Prop where
  journal : v.journal = w.journal
  ledger : v.ledger = w.ledger
  writes : v.writes = w.writes
  journalWrites : v.journalWrites = w.journalWrites
  discharged : v.discharged = w.discharged

theorem same_refl : w.Same w := ⟨rfl, rfl, rfl, rfl, rfl⟩

theorem same_drawn : w.Same w.drawn := ⟨rfl, rfl, rfl, rfl, rfl⟩

theorem same_setJournal_drawn (r : ControllerJournalRecord) :
    (w.setJournal r).Same (w.drawn.setJournal r) := ⟨rfl, rfl, rfl, rfl, rfl⟩

end World

/-! ## Durable accesses -/

/-- Operations on the world fail with an opaque error. -/
abbrev WorldOp (α : Type) := Op World AnyError α

open Op

/-- One atomic durable change, under the next I/O outcome. -/
def durable (what : String) (change : World → World) : WorldOp Unit :=
  act fun w =>
    match w.io.head?.getD .done with
    | .done => (.ok (), change w.drawn)
    | .failedBefore => (.error (.message s!"failed to {what}"), w.drawn)
    | .failedAfter => (.error (.message s!"failed to sync after {what}"), change w.drawn)

/-- One durable read, under the next I/O outcome. -/
def durableRead {α : Type} (what : String) (read : World → Except AnyError α) : WorldOp α :=
  act fun w =>
    match w.io.head?.getD .done with
    | .done => (read w, w.drawn)
    | .failedBefore | .failedAfter => (.error (.message s!"failed to open {what}"), w.drawn)

def writeControllerJournalRecord (r : ControllerJournalRecord) : WorldOp Unit :=
  durable "atomically replace autotune controller journal" (World.setJournal · r)

/-- What a start reads of the journal. -/
def parseControllerJournal (file : StoreFile ControllerJournalRecord) :
    Except AnyError ControllerJournalRecord :=
  match file with
  | .missing => .ok .clean
  | .corrupt => .error (.message "failed to parse autotune controller journal")
  | .content r =>
    match r.validateIdentityStrings with
    | .error e => .error (.message s!"invalid autotune controller journal strings: {e}")
    | .ok _ =>
      if r.schemaVersion = controllerJournalSchemaVersion then .ok r
      else .error (.message
        s!"unsupported autotune controller journal schema_version={r.schemaVersion}")

def readControllerJournal : WorldOp ControllerJournalRecord :=
  durableRead "autotune controller journal" fun w => parseControllerJournal w.journal

/-- The record `write_controller_journal_phase_with_metadata` writes. -/
def phaseRecord (state : ControllerJournalState) (experimentId : ExperimentId)
    (actionId : ActionId) (token : Option RollbackToken)
    (metadata : ControllerJournalActionMetadata) : ControllerJournalRecord :=
  (ControllerJournalRecord.forPhase state experimentId actionId token).withMetadata metadata

/-- `write_controller_journal_phase_with_metadata`, the record it returns dropped. -/
def writeControllerJournalPhase (state : ControllerJournalState) (experimentId : ExperimentId)
    (actionId : ActionId) (token : Option RollbackToken)
    (metadata : ControllerJournalActionMetadata) : WorldOp Unit :=
  writeControllerJournalRecord (phaseRecord state experimentId actionId token metadata)

def writeControllerJournalClean : WorldOp Unit := writeControllerJournalRecord .clean

/-- `ExperimentId::try_new` and `ActionId::try_new`. -/
def tryNewId (typeName id : String) : WorldOp String :=
  match validateNonEmpty typeName id with
  | .ok _ => Op.ret id
  | .error e => fail (.message e)

def parseKeptLedger (file : StoreFile KeptLedger) : Except AnyError KeptLedger :=
  match file with
  | .missing => .ok .empty
  | .corrupt => .error (.message "failed to parse kept-action ledger")
  | .content ledger =>
    if ledger.schemaVersion = keptLedgerSchemaVersion then .ok ledger
    else .error (.message s!"unsupported kept-action ledger schema {ledger.schemaVersion}")

/-- `read_kept_ledger`.  That a lookup of the file can fail, which the source takes for its absence,
is left out. -/
def readKeptLedger : WorldOp KeptLedger :=
  durableRead "kept-action ledger" fun w => parseKeptLedger w.ledger

def writeKeptLedger (ledger : KeptLedger) : WorldOp Unit :=
  durable "replace kept-action ledger" (World.setLedger · (.content ledger))

/-- The ledger with the entry in the place of any entry of the same experiment. -/
def KeptLedger.record (ledger : KeptLedger) (entry : KeptLedgerEntry) : KeptLedger :=
  { ledger with
    entries := ledger.entries.filter (fun e => e.experimentId ≠ entry.experimentId) ++ [entry] }

/-- The ledger without the entries of one experiment. -/
def KeptLedger.retire (ledger : KeptLedger) (experimentId : ExperimentId) : KeptLedger :=
  { ledger with entries := ledger.entries.filter (fun e => e.experimentId ≠ experimentId) }

/-- `record_kept`: a repeat of one experiment replaces its earlier entry. -/
def recordKept (entry : KeptLedgerEntry) : WorldOp Unit := do
  writeKeptLedger ((← readKeptLedger).record entry)

/-- `retire_kept`: an absent entry is a no-op, the last entry removes the file. -/
def retireKept (experimentId : ExperimentId) : WorldOp Unit := do
  let ledger ← readKeptLedger
  let remaining := ledger.retire experimentId
  if remaining.entries.length = ledger.entries.length then Op.ret ()
  else if remaining.entries.isEmpty then
    durable "remove kept-action ledger" (World.setLedger · .missing)
  else writeKeptLedger remaining

/-! ## What a durable access can do -/

section Rules
variable {I : World → Prop} {w : World}

variable {what : String} {change : World → World} {Q : Except AnyError Unit → World → Prop}

/-- A durable change happens or not, and the answer says `ok` only if it did; an error
is a text. -/
theorem holds_durable_text (hdone : I (change w.drawn) ∧ Q (.ok ()) (change w.drawn))
    (hbefore : ∀ text, I w.drawn ∧ Q (.error (.message text)) w.drawn)
    (hafter : ∀ text, I (change w.drawn) → Q (.error (.message text)) (change w.drawn)) :
    Holds (durable what change) I Q w := by
  rw [durable, holds_act]
  cases w.io.head?.getD .done with
  | done => exact hdone
  | failedBefore => exact hbefore _
  | failedAfter => exact ⟨hdone.1, hafter _ hdone.1⟩

theorem holds_durable (hdone : I (change w.drawn) ∧ Q (.ok ()) (change w.drawn))
    (hbefore : ∀ e, I w.drawn ∧ Q (.error e) w.drawn)
    (hafter : ∀ e, I (change w.drawn) → Q (.error e) (change w.drawn)) :
    Holds (durable what change) I Q w :=
  holds_durable_text hdone (fun _ => hbefore _) fun _ => hafter _

/-- A durable change that no failure is scheduled for. -/
theorem holds_durable_done (hio : w.io.head?.getD .done = .done)
    (hdone : I (change w.drawn) ∧ Q (.ok ()) (change w.drawn)) :
    Holds (durable what change) I Q w := by
  rw [durable, holds_act, hio]
  exact hdone

/-- A durable change that a failure is scheduled for. -/
theorem holds_durable_failed (hio : w.io.head?.getD .done ≠ .done)
    (h : ∀ e v, I v ∧ Q (.error e) v) : Holds (durable what change) I Q w := by
  rw [durable, holds_act]
  cases houtcome : w.io.head?.getD .done with
  | done => exact absurd houtcome hio
  | failedBefore => exact h _ _
  | failedAfter => exact h _ _

/-- A read changes nothing but the schedule; it answers what is there or fails. -/
theorem holds_durableRead {α : Type} {read : World → Except AnyError α}
    {Q : Except AnyError α → World → Prop} (hI : I w.drawn) (hread : Q (read w) w.drawn)
    (hfail : ∀ e, Q (.error e) w.drawn) : Holds (durableRead what read) I Q w := by
  rw [durableRead, holds_act]
  cases w.io.head?.getD .done with
  | done => exact ⟨hI, hread⟩
  | failedBefore => exact ⟨hI, hfail _⟩
  | failedAfter => exact ⟨hI, hfail _⟩

variable {r : ControllerJournalRecord}

/-- A journal write that fails may or may not have replaced the record. -/
theorem holds_writeControllerJournalRecord (hkept : I w.drawn ∧ ∀ e, Q (.error e) w.drawn)
    (hdone : I (w.drawn.setJournal r) ∧ ∀ a, Q a (w.drawn.setJournal r)) :
    Holds (writeControllerJournalRecord r) I Q w :=
  holds_durable ⟨hdone.1, hdone.2 _⟩ (fun e => ⟨hkept.1, hkept.2 e⟩) fun _ _ => hdone.2 _

theorem holds_writeControllerJournalPhase {state : ControllerJournalState} {id : ExperimentId}
    {actionId : ActionId} {token : Option RollbackToken}
    {metadata : ControllerJournalActionMetadata} (hkept : I w.drawn ∧ ∀ e, Q (.error e) w.drawn)
    (hdone : I (w.drawn.setJournal (phaseRecord state id actionId token metadata)) ∧
      ∀ a, Q a (w.drawn.setJournal (phaseRecord state id actionId token metadata))) :
    Holds (writeControllerJournalPhase state id actionId token metadata) I Q w :=
  holds_writeControllerJournalRecord hkept hdone

theorem holds_writeControllerJournalClean (hkept : I w.drawn ∧ ∀ e, Q (.error e) w.drawn)
    (hdone : I (w.drawn.setJournal .clean) ∧ ∀ a, Q a (w.drawn.setJournal .clean)) :
    Holds writeControllerJournalClean I Q w :=
  holds_writeControllerJournalRecord hkept hdone

theorem holds_tryNewId {typeName id : String} {Q : Except AnyError String → World → Prop}
    (hok : Q (.ok id) w) (hfail : ∀ e, Q (.error e) w) : Holds (tryNewId typeName id) I Q w := by
  unfold tryNewId
  split
  · exact holds_ret.mpr hok
  · exact holds_fail.mpr (hfail _)

/-- An error of the parse is a text. -/
theorem parseControllerJournal_error {file : StoreFile ControllerJournalRecord} {e : AnyError}
    (h : parseControllerJournal file = .error e) : ∃ text, e = .message text := by
  unfold parseControllerJournal at h
  cases file with
  | missing => cases h
  | corrupt =>
    cases h
    exact ⟨_, rfl⟩
  | content r =>
    simp only at h
    split at h
    · cases h
      exact ⟨_, rfl⟩
    · split at h
      · cases h
      · cases h
        exact ⟨_, rfl⟩

theorem eq_ok_of_isOk {ε : Type} {r : Except ε Unit} (h : r.isOk = true) : r = .ok () := by
  cases r with
  | error e => cases h
  | ok _ => rfl

/-- A record under ids that can be written is read back. -/
theorem parseControllerJournal_named {id : ExperimentId} {action : ActionId}
    (hid : r.experimentId = some id) (haction : r.actionId = some action)
    (hversion : r.schemaVersion = controllerJournalSchemaVersion)
    (hidNamed : id.toList.all isTrimmed = false)
    (hactionNamed : action.toList.all isTrimmed = false) :
    parseControllerJournal (.content r) = .ok r := by
  have hvalid : r.validateIdentityStrings = .ok () := by
    unfold ControllerJournalRecord.validateIdentityStrings validateNonEmpty
    rw [hid, haction]
    dsimp only
    rw [if_neg (by simp [hidNamed]), if_neg (by simp [hactionNamed])]
    rfl
  unfold parseControllerJournal
  dsimp only
  rw [hvalid]
  exact if_pos hversion

/-- An id that can be written. -/
theorem tryNewId_of_nonblank {typeName id : String} (h : id.toList.all isTrimmed = false) :
    tryNewId typeName id = Op.ret id := by
  unfold tryNewId validateNonEmpty
  rw [if_neg (by simp [h])]

/-- A readable journal answers with the record it holds. -/
theorem parseControllerJournal_eq_ok {file : StoreFile ControllerJournalRecord}
    (h : parseControllerJournal file = .ok r) :
    (file = .missing ∧ r = .clean) ∨ file = .content r := by
  unfold parseControllerJournal at h
  cases file with
  | missing => exact .inl ⟨rfl, (Except.ok.inj h).symm⟩
  | corrupt => cases h
  | content r' =>
    simp only at h
    split at h
    · cases h
    · split at h
      · exact .inr (congrArg _ (Except.ok.inj h))
      · cases h

/-- A readable ledger answers with the world's entries. -/
theorem parseKeptLedger_eq_ok {ledger : KeptLedger} (h : parseKeptLedger w.ledger = .ok ledger) :
    ledger.entries = w.ledgerEntries ∧ ledger.schemaVersion = keptLedgerSchemaVersion := by
  unfold parseKeptLedger at h
  unfold World.ledgerEntries
  cases hfile : w.ledger with
  | missing =>
    rw [hfile] at h
    cases h
    exact ⟨rfl, rfl⟩
  | corrupt =>
    rw [hfile] at h
    cases h
  | content ledger' =>
    rw [hfile] at h
    simp only at h ⊢
    split at h
    · rename_i hversion
      cases h
      rw [if_pos hversion]
      exact ⟨rfl, hversion⟩
    · cases h

/-- `v` is `w` with the ledger's entries replaced (and the schedule advanced). -/
structure World.LedgerBecomes (w v : World) (entries : List KeptLedgerEntry) : Prop where
  journal : v.journal = w.journal
  writes : v.writes = w.writes
  journalWrites : v.journalWrites = w.journalWrites
  discharged : v.discharged = w.discharged
  entries : v.ledgerEntries = entries

theorem World.ledgerBecomes_drawn : w.LedgerBecomes w.drawn w.ledgerEntries :=
  ⟨rfl, rfl, rfl, rfl, rfl⟩

/-- Writing a ledger of the current schema sets the entries, or leaves them. -/
theorem holds_writeKeptLedger {ledger : KeptLedger}
    (hversion : ledger.schemaVersion = keptLedgerSchemaVersion)
    (hkept : ∀ v, w.LedgerBecomes v w.ledgerEntries → I v ∧ ∀ e, Q (.error e) v)
    (hdone : ∀ v, w.LedgerBecomes v ledger.entries → I v ∧ ∀ r, Q r v) :
    Holds (writeKeptLedger ledger) I Q w := by
  have hset : w.LedgerBecomes (w.drawn.setLedger (.content ledger)) ledger.entries :=
    ⟨rfl, rfl, rfl, rfl, if_pos hversion⟩
  refine holds_durable ?_ ?_ ?_
  · exact ⟨(hdone _ hset).1, (hdone _ hset).2 _⟩
  · exact fun e => ⟨(hkept _ World.ledgerBecomes_drawn).1, (hkept _ World.ledgerBecomes_drawn).2 e⟩
  · exact fun e _ => (hdone _ hset).2 _

/-- `recordKept` puts the entry in the place of its experiment's, or changes
nothing and fails. -/
theorem holds_recordKept {entry : KeptLedgerEntry}
    (hkept : ∀ v, w.LedgerBecomes v w.ledgerEntries → I v ∧ ∀ e, Q (.error e) v)
    (hdone : ∀ v, w.LedgerBecomes v
      (w.ledgerEntries.filter (fun e => e.experimentId ≠ entry.experimentId) ++ [entry]) →
      I v ∧ ∀ r, Q r v) : Holds (recordKept entry) I Q w := by
  have hdrawn := hkept w.drawn World.ledgerBecomes_drawn
  rw [recordKept, holds_bind]
  refine holds_durableRead hdrawn.1 ?_ hdrawn.2
  cases hread : parseKeptLedger w.ledger with
  | error e => exact hdrawn.2 e
  | ok ledger =>
    obtain ⟨hentries, hversion⟩ := parseKeptLedger_eq_ok hread
    refine holds_writeKeptLedger hversion ?_ ?_
    · exact fun v hv => hkept v ⟨hv.journal, hv.writes, hv.journalWrites, hv.discharged, hv.entries⟩
    · intro v hv
      refine hdone v ⟨hv.journal, hv.writes, hv.journalWrites, hv.discharged, ?_⟩
      rw [hv.entries, KeptLedger.record, hentries]

/-- `retireKept` removes the experiment's entries, or changes nothing and fails. -/
theorem holds_retireKept {experimentId : ExperimentId}
    (hkept : ∀ v, w.LedgerBecomes v w.ledgerEntries → I v ∧ ∀ e, Q (.error e) v)
    (hdone : ∀ v, w.LedgerBecomes v
      (w.ledgerEntries.filter (fun e => e.experimentId ≠ experimentId)) → I v ∧ ∀ r, Q r v) :
    Holds (retireKept experimentId) I Q w := by
  have hdrawn := hkept w.drawn World.ledgerBecomes_drawn
  rw [retireKept, holds_bind]
  refine holds_durableRead hdrawn.1 ?_ hdrawn.2
  cases hread : parseKeptLedger w.ledger with
  | error e => exact hdrawn.2 e
  | ok ledger =>
    obtain ⟨hentries, hversion⟩ := parseKeptLedger_eq_ok hread
    simp only
    split
    · -- nothing to retire: the filter kept every entry
      rename_i hlength
      have hsame : w.ledgerEntries.filter (fun e => e.experimentId ≠ experimentId) =
          w.ledgerEntries := by
        rw [← hentries]
        exact List.filter_sublist.eq_of_length hlength
      exact holds_ret.mpr ((hdone _ (by rw [hsame]; exact World.ledgerBecomes_drawn)).2 _)
    · split
      · rename_i hempty
        have hnone : w.ledgerEntries.filter (fun e => e.experimentId ≠ experimentId) = [] := by
          rw [← hentries]
          exact List.isEmpty_iff.mp hempty
        have hremoved : w.LedgerBecomes (w.drawn.drawn.setLedger .missing)
            (w.ledgerEntries.filter (fun e => e.experimentId ≠ experimentId)) :=
          ⟨rfl, rfl, rfl, rfl, hnone.symm⟩
        have hnot : w.LedgerBecomes w.drawn.drawn w.ledgerEntries := ⟨rfl, rfl, rfl, rfl, rfl⟩
        refine holds_durable ⟨(hdone _ hremoved).1, (hdone _ hremoved).2 _⟩ ?_ ?_
        · exact fun e => ⟨(hkept _ hnot).1, (hkept _ hnot).2 e⟩
        · exact fun e _ => (hdone _ hremoved).2 _
      · refine holds_writeKeptLedger hversion ?_ ?_
        · exact fun v hv => hkept v ⟨hv.journal, hv.writes, hv.journalWrites, hv.discharged,
            hv.entries⟩
        · intro v hv
          refine hdone v ⟨hv.journal, hv.writes, hv.journalWrites, hv.discharged, ?_⟩
          rw [hv.entries, KeptLedger.retire, hentries]

end Rules

/-! ## What a schedule can bring about -/

/-- Some I/O schedule takes `m` from `w` to the answer `r` in `v`, and leaves any
schedule that follows it. -/
def CanEnd {α : Type} (m : WorldOp α) (w : World) (r : Except AnyError α) (v : World) : Prop :=
  ∃ ds, ∀ rest, (m.run { w with io := ds ++ rest }).result = r ∧
    (m.run { w with io := ds ++ rest }).state = { v with io := rest }

namespace CanEnd
variable {α β : Type} {m : WorldOp α} {f : α → WorldOp β} {w v u : World} {r : Except AnyError α}

/-- What holds of every run holds of this one. -/
theorem elim {I : World → Prop} {Q : Except AnyError α → World → Prop} (h : CanEnd m w r v)
    (hall : ∀ io, Holds m I Q { w with io := io }) : Q r { v with io := [] } := by
  obtain ⟨ds, hds⟩ := h
  have hq := (hall (ds ++ [])).2
  rwa [(hds []).1, (hds []).2] at hq

/-- An operation that draws no outcome. -/
theorem of_run
    (h : ∀ io, (m.run { w with io := io }).result = r ∧
      (m.run { w with io := io }).state = { v with io := io }) : CanEnd m w r v :=
  ⟨[], h⟩

theorem ret (a : α) : CanEnd (Op.ret a) w (.ok a) w := of_run fun _ => ⟨rfl, rfl⟩

theorem pure (a : α) : CanEnd (Pure.pure a) w (.ok a) w := of_run fun _ => ⟨rfl, rfl⟩

theorem ofExcept (r : Except AnyError α) :
    CanEnd (Op.ofExcept r) w r w :=
  of_run fun _ => ⟨rfl, rfl⟩

theorem update {g : World → World} (hg : ∀ io, g { w with io := io } = { g w with io := io }) :
    CanEnd (Op.update g) w (.ok ()) (g w) :=
  of_run fun io => ⟨rfl, hg io⟩

theorem bind {a : α} {r : Except AnyError β} (hm : CanEnd m w (.ok a) v)
    (hf : CanEnd (f a) v r u) : CanEnd (m >>= f) w r u := by
  obtain ⟨ds, hds⟩ := hm
  obtain ⟨es, hes⟩ := hf
  refine ⟨ds ++ es, fun rest => ?_⟩
  rw [List.append_assoc]
  show ((andThen m f).run _).result = r ∧ ((andThen m f).run _).state = _
  simp only [andThen, (hds (es ++ rest)).1, (hds (es ++ rest)).2]
  exact hes rest

theorem bind_error {e : AnyError} (hm : CanEnd m w (.error e) v) :
    CanEnd (m >>= f) w (.error e) v := by
  obtain ⟨ds, hds⟩ := hm
  refine ⟨ds, fun rest => ?_⟩
  show ((andThen m f).run _).result = _ ∧ ((andThen m f).run _).state = _
  simp only [andThen, (hds rest).1, (hds rest).2]
  exact ⟨trivial, trivial⟩

theorem attempt (hm : CanEnd m w r v) : CanEnd (Op.attempt m) w (.ok r) v := by
  obtain ⟨ds, hds⟩ := hm
  exact ⟨ds, fun rest => ⟨congrArg _ (hds rest).1, (hds rest).2⟩⟩

variable {what : String}

theorem durable_done {change : World → World}
    (hchange : ∀ io, change { w with io := io } = { change w with io := io }) :
    CanEnd (durable what change) w (.ok ()) (change w) :=
  ⟨[.done], fun rest => ⟨rfl, hchange rest⟩⟩

theorem durable_failed {change : World → World} :
    CanEnd (durable what change) w (.error (.message s!"failed to {what}")) w :=
  ⟨[.failedBefore], fun _ => ⟨rfl, rfl⟩⟩

theorem durableRead_done {read : World → Except AnyError α}
    (hread : ∀ io, read { w with io := io } = read w) :
    CanEnd (durableRead what read) w (read w) w :=
  ⟨[.done], fun _ => ⟨hread _, rfl⟩⟩

theorem durableRead_failed {read : World → Except AnyError α} :
    CanEnd (durableRead what read) w (.error (.message s!"failed to open {what}")) w :=
  ⟨[.failedBefore], fun _ => ⟨rfl, rfl⟩⟩

theorem writeControllerJournalClean :
    CanEnd writeControllerJournalClean w (.ok ()) (w.setJournal .clean) := by
  unfold Stutter.writeControllerJournalClean writeControllerJournalRecord
  exact durable_done fun _ => rfl

/-- Retiring can succeed on a readable ledger. -/
theorem retireKept {id : ExperimentId} {ledger : KeptLedger}
    (hread : parseKeptLedger w.ledger = .ok ledger) :
    ∃ v file, CanEnd (retireKept id) w (.ok ()) v ∧ v = w.setLedger file ∧
      (∃ l, parseKeptLedger file = .ok l) ∧
      v.ledgerEntries = w.ledgerEntries.filter (fun e => e.experimentId ≠ id) := by
  obtain ⟨hentries, hversion⟩ := parseKeptLedger_eq_ok hread
  have hstart : ∀ {r : Except AnyError Unit} {v},
      CanEnd (do
        let remaining := ledger.retire id
        if remaining.entries.length = ledger.entries.length then Op.ret ()
        else if remaining.entries.isEmpty then
          durable "remove kept-action ledger" (World.setLedger · .missing)
        else writeKeptLedger remaining) w r v → CanEnd (Stutter.retireKept id) w r v := by
    intro r v h
    exact bind (hread ▸ durableRead_done fun _ => rfl) h
  simp only at hstart
  by_cases hlength : (ledger.retire id).entries.length = ledger.entries.length
  · rw [if_pos hlength] at hstart
    refine ⟨w, w.ledger, hstart (ret ()), rfl, ⟨_, hread⟩, ?_⟩
    rw [← hentries]
    exact (List.filter_sublist.eq_of_length hlength).symm
  · rw [if_neg hlength] at hstart
    by_cases hempty : (ledger.retire id).entries.isEmpty
    · rw [if_pos hempty] at hstart
      refine ⟨_, .missing, hstart (durable_done fun _ => rfl), rfl, ⟨_, rfl⟩, ?_⟩
      rw [← hentries]
      exact (List.isEmpty_iff.mp hempty).symm
    · rw [if_neg hempty] at hstart
      refine ⟨_, .content (ledger.retire id), hstart (durable_done fun _ => rfl), rfl,
        ⟨_, if_pos hversion⟩, ?_⟩
      rw [← hentries]
      exact if_pos hversion

end CanEnd
end Stutter

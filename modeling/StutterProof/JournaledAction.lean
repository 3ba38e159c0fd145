import StutterProof.PreparedTransaction
import StutterProof.RunnerContract

/-! # The journaled action transaction

`applyJournaledAction` wraps the audited runner in the controller journal: an
`Applying` record without a token before the run, the prepared token before the
first write, the `Applied` record before verification, and a clean journal after a
rollback.

`JournaledPostState` says what the journal and the host can look like at any point
of the transaction.  Besides the unchanged, the finished and the token-bearing
journal there is the write-ahead intent: the `Applying` record of this experiment
without a token, when no write of the apply is on the host. -/
namespace Stutter
open Fallible

/-- A prepared action, with the host's answers to one run of it chosen.  The runner
makes each call at most once, so fixed answers lose nothing. -/
structure PreparedAction where
  descriptor : ActionDescriptor
  preflight : Except AnyError (List String)
  dryRun : Except AnyError ActionState
  script : ApplyScript ApplyResult
  isPrepared : script.IsPreparedAction
  verify : Except AnyError ActionState
  rollback : RollbackToken → RollbackAnswer

open Op

/-- The action as the runner calls it; preflight, dry run and verify only read. -/
def PreparedAction.toTuningAction (action : PreparedAction) : TuningAction TransactionState where
  descriptor := action.descriptor
  preflight := ofExcept action.preflight
  dryRun := ofExcept action.dryRun
  applyWithPreparedRollback hook := do
    let result ← action.script.perform hook
    ofExcept result
  verify := ofExcept action.verify
  rollback token := onWorld (rollbackToken token (action.rollback token))

structure JournaledActionInput where
  experimentId : ExperimentId
  metadata : ControllerJournalActionMetadata

/-- A hook that journals a token: it notes the token before it writes. -/
def journalToken (action : ActionDescriptor) (input : JournaledActionInput)
    (state : ControllerJournalState) (verifyResult : String) (token : RollbackToken) :
    Op TransactionState AnyError Unit := do
  assign fun s => { s with rollback := some token }
  let id ← onWorld (tryNewId "ExperimentId" input.experimentId)
  onWorld (writeControllerJournalPhase state id action.actionId (some token)
    { input.metadata with verifyResult := some verifyResult })

/-- The hooks of the transaction. -/
def journalHooks (action : ActionDescriptor) (input : JournaledActionInput) :
    ActionHooks TransactionState where
  afterApply := journalToken action input .applied "applied_pending_verify"
  afterPrepare := journalToken action input .applying "rollback_prepared_before_mutation"
  afterRollback _ := do
    assign fun s => { s with rollbackCompleted := true }
    onWorld writeControllerJournalClean

/-- The error of a failed transaction carries what the hooks saw. -/
def journaledActionFailure (source : ActionError) (locals : TransactionState) : AnyError :=
  .journaled s!"journaled action failed: {source.humanMessage}" locals.rollback
    locals.rollbackCompleted

/-- `apply_journaled_action`. -/
def applyJournaledAction (action : PreparedAction) (policy : ActionRunPolicy)
    (clock : ActionPhase → Nat) (input : JournaledActionInput) : WorldOp AuditedActionResult := do
  let id ← tryNewId "ExperimentId" input.experimentId
  writeControllerJournalPhase .applying id action.descriptor.actionId none input.metadata
  let (result, final) ← withLocals
    (fun w => RunnerState.start action.toTuningAction policy "autotune candidate"
      (TransactionState.mk w none false))
    (fun s => s.world.world)
    (runAuditedAction action.toTuningAction (journalHooks action.descriptor input) policy clock)
  match result with
  | .ok outcome => return outcome
  | .error source => fail (journaledActionFailure source final.world)

/-! ## The post-states -/

/-- The journal holds a record of the experiment whose token covers every write of
the apply, that is, every write that was not there before it. -/
def JournalCovers (base : List HostWrite) (id : ExperimentId) (w : World) : Prop :=
  ∃ r token, w.journal = .content r ∧ (r.state = .applying ∨ r.state = .applied) ∧
    r.experimentId = some id ∧ r.rollbackToken = some token ∧
    ∀ x ∈ w.writes, x ∈ base ∨ token.covers x

/-- The `Applying` record the transaction starts with. -/
def JournalIntent (id : ExperimentId) (action : ActionId) (w : World) : Prop :=
  ∃ r, w.journal = .content r ∧ r.state = .applying ∧ r.experimentId = some id ∧
    r.actionId = some action ∧ r.rollbackToken = none

/-- The post-states of a transaction that found the world `before`. -/
def JournaledPostState (before : World) (id : ExperimentId) (action : ActionId) (w : World) :
    Prop :=
  ((∀ x ∈ w.writes, x ∈ before.writes) ∧
    (w.journal = before.journal ∨ w.journal = .content .clean ∨ JournalIntent id action w)) ∨
  JournalCovers before.writes id w

/-- The record an apply ends with: `Applied`, with the very token. -/
def JournalApplied (id : ExperimentId) (action : ActionId) (token : RollbackToken) (w : World) :
    Prop :=
  ∃ r, w.journal = .content r ∧ r.state = .applied ∧ r.experimentId = some id ∧
    r.actionId = some action ∧ r.rollbackToken = some token

/-- The record is the experiment's own, or names none. -/
def ControllerJournalRecord.Of (r : ControllerJournalRecord) (id : ExperimentId) : Prop :=
  r.experimentId = some id ∨ r.experimentId = none

/-- A journal write of experiment `id`: it replaces what `before` held, with the ledger
and the host as they were, or a record of its own. -/
def OwnWrite (before : World) (id : ExperimentId) (e : JournalWrite) : Prop :=
  e.written.Of id ∧
    ((e.replaced = before.journal ∧ e.ledger = before.ledger ∧ e.writes = before.writes) ∨
      ∃ r, e.replaced = .content r ∧ r.experimentId = some id)

/-- What the transaction of experiment `id` does to the rest of the world: it leaves
the ledger alone, and every journal write but the first replaces a record of its
own. -/
structure TransactionFrame (before : World) (id : ExperimentId) (w : World) : Prop where
  ledger : w.ledger = before.ledger
  history : ∀ e ∈ w.journalWrites, e ∈ before.journalWrites ∨ OwnWrite before id e

open World

namespace TransactionFrame
variable {before w v : World} {id : ExperimentId}

theorem refl (before : World) (id : ExperimentId) : TransactionFrame before id before :=
  ⟨rfl, fun _ h => .inl h⟩

/-- Only the host's writes or the I/O schedule changed. -/
theorem of_eq (h : TransactionFrame before id w) (hledger : v.ledger = w.ledger)
    (hhistory : v.journalWrites = w.journalWrites) : TransactionFrame before id v :=
  ⟨hledger.trans h.ledger, hhistory ▸ h.history⟩

theorem same (h : TransactionFrame before id w) (hv : w.Same v) : TransactionFrame before id v :=
  h.of_eq hv.ledger hv.journalWrites

/-- A journal write over a record of the transaction's own experiment. -/
theorem setJournal (h : TransactionFrame before id w) {r r' : ControllerJournalRecord}
    (hr : r.Of id) (hown : w.journal = .content r') (hid : r'.experimentId = some id) :
    TransactionFrame before id (w.setJournal r) := by
  refine ⟨h.ledger, fun e he => ?_⟩
  simp only [setJournal_journalWrites, List.mem_append, List.mem_singleton] at he
  rcases he with he | rfl
  · exact h.history e he
  · exact .inr ⟨hr, .inr ⟨r', hown, hid⟩⟩

/-- The first journal write of the transaction. -/
theorem first (before : World) {id : ExperimentId} {r : ControllerJournalRecord} (hr : r.Of id) :
    TransactionFrame before id (before.setJournal r) := by
  refine ⟨rfl, fun e he => ?_⟩
  simp only [setJournal_journalWrites, List.mem_append, List.mem_singleton] at he
  rcases he with he | rfl
  · exact .inl he
  · exact .inr ⟨hr, .inl ⟨rfl, rfl, rfl⟩⟩

end TransactionFrame

section Contract
variable (action : PreparedAction) (input : JournaledActionInput) (before : World)

/-- The journal at the start of the run, with nothing of the apply on the host. -/
structure TransactionIdle (s : TransactionState) : Prop where
  frame : TransactionFrame before input.experimentId s.world
  unnoted : s.rollback = none
  running : s.rollbackCompleted = false
  clear : ∀ x ∈ s.world.writes, x ∈ before.writes
  intent : JournalIntent input.experimentId action.descriptor.actionId s.world

/-- The journal covers the apply, and so does the token the runner holds. -/
structure TransactionHeld (token : RollbackToken) (s : TransactionState) : Prop where
  frame : TransactionFrame before input.experimentId s.world
  running : s.rollbackCompleted = false
  noted : ∃ t, s.rollback = some t ∧ ∀ x ∈ s.world.writes, x ∈ before.writes ∨ t.covers x
  journal : JournalCovers before.writes input.experimentId s.world
  covered : ∀ x ∈ s.world.writes, x ∈ before.writes ∨ token.covers x

/-- The post-state of the world among the locals. -/
def TransactionPost (s : TransactionState) : Prop :=
  TransactionFrame before input.experimentId s.world ∧
    JournaledPostState before input.experimentId action.descriptor.actionId s.world

/-- The locals tell what a failed run left on the host: all of it is covered by the
token the hooks noted, nothing if they noted none or the rollback hook ran. -/
structure TransactionNoted (s : TransactionState) : Prop where
  unnoted : s.rollback = none → ∀ x ∈ s.world.writes, x ∈ before.writes
  covered : ∀ t, s.rollback = some t → ∀ x ∈ s.world.writes, x ∈ before.writes ∨ t.covers x
  completed : s.rollbackCompleted = true → ∀ x ∈ s.world.writes, x ∈ before.writes

/-- What a failed run leaves. -/
def TransactionFailed (s : TransactionState) : Prop :=
  TransactionPost action input before s ∧ TransactionNoted before s

variable {token : RollbackToken} {s : TransactionState}

/-- A hook that journals a token fails and leaves the stores, or the record is
there, whatever it answers. -/
theorem holds_journalToken {action : ActionDescriptor} {input : JournaledActionInput}
    {state : ControllerJournalState} {note : String} {I : TransactionState → Prop}
    {Q : Except AnyError Unit → TransactionState → Prop}
    (hkept : ∀ v : World, s.world.Same v → I ⟨v, some token, s.rollbackCompleted⟩ ∧
      ∀ e, Q (.error e) ⟨v, some token, s.rollbackCompleted⟩)
    (hdone : ∀ v : World, (s.world.setJournal (phaseRecord state input.experimentId
        action.actionId (some token) { input.metadata with verifyResult := some note })).Same v →
      I ⟨v, some token, s.rollbackCompleted⟩ ∧ ∀ r, Q r ⟨v, some token, s.rollbackCompleted⟩) :
    Holds (journalToken action input state note token) I Q s := by
  rw [journalToken, holds_bind, holds_assign, holds_bind, holds_onWorld]
  refine holds_tryNewId ?_ (hkept s.world (same_refl _)).2
  exact holds_onWorld.mpr (holds_writeControllerJournalPhase (hkept _ (same_drawn _))
    (hdone _ (same_setJournal_drawn _ _)))

theorem journalCovers_of_subset {base : List HostWrite} {id : ExperimentId} {w v : World}
    (h : JournalCovers base id w) (hjournal : v.journal = w.journal)
    (hwrites : ∀ x ∈ v.writes, x ∈ w.writes) : JournalCovers base id v := by
  obtain ⟨r, token, hr, hstate, hid, htoken, hcovers⟩ := h
  exact ⟨r, token, hjournal.trans hr, hstate, hid, htoken, fun x hx => hcovers x (hwrites x hx)⟩

/-- Journaling over a record of this experiment keeps the frame. -/
theorem JournalCovers.frame_setJournal {base : List HostWrite} {id : ExperimentId} {w : World}
    (h : JournalCovers base id w) (hframe : TransactionFrame before id w)
    {r : ControllerJournalRecord} (hr : r.Of id) : TransactionFrame before id (w.setJournal r) := by
  obtain ⟨r', _, hr', -, hid, -⟩ := h
  exact hframe.setJournal hr hr' hid

theorem transactionPost_of_idle
    (h : TransactionIdle action input before s) : TransactionPost action input before s :=
  ⟨h.frame, .inl ⟨h.clear, .inr (.inr h.intent)⟩⟩

theorem transactionPost_of_held
    (h : TransactionHeld input before token s) : TransactionPost action input before s :=
  ⟨h.frame, .inr h.journal⟩

/-- Nothing of the apply is on the host, whatever the locals say. -/
theorem transactionNoted_of_clear
    (hclear : ∀ x ∈ s.world.writes, x ∈ before.writes) : TransactionNoted before s :=
  ⟨fun _ => hclear, fun _ _ x hx => .inl (hclear x hx), fun _ => hclear⟩

theorem transactionNoted_of_held
    (h : TransactionHeld input before token s) : TransactionNoted before s := by
  obtain ⟨t, ht, hcovers⟩ := h.noted
  refine ⟨fun hnone => ?_, fun t' ht' => ?_, fun hdone => ?_⟩
  · rw [ht] at hnone
    cases hnone
  · rw [ht] at ht'
    cases ht'
    exact hcovers
  · rw [h.running] at hdone
    cases hdone

theorem transactionFailed_of_held
    (h : TransactionHeld input before token s) : TransactionFailed action input before s :=
  ⟨transactionPost_of_held action input before h, transactionNoted_of_held input before h⟩

/-- A hook that failed before its write leaves an idle transaction but for its note. -/
theorem transactionFailed_of_same {s s' : TransactionState}
    (h : TransactionIdle action input before s) (hsame : s.world.Same s'.world) :
    TransactionFailed action input before s' := by
  obtain ⟨hframe, -, -, hclear, r, hr, hrest⟩ := h
  have hclear' : ∀ x ∈ s'.world.writes, x ∈ before.writes := hsame.writes ▸ hclear
  exact ⟨⟨hframe.same hsame, .inl ⟨hclear', .inr (.inr ⟨r, hsame.journal.trans hr, hrest⟩)⟩⟩,
    transactionNoted_of_clear before hclear'⟩

/-- The journal record that a hook leaves, over the transaction's own record. -/
theorem transactionHeld_of_record
    {r : ControllerJournalRecord} {v : World} (hframe : TransactionFrame before
      input.experimentId (s.world.setJournal r)) (hsame : (s.world.setJournal r).Same v)
    (hstate : r.state = .applying ∨ r.state = .applied)
    (hid : r.experimentId = some input.experimentId) (htoken : r.rollbackToken = some token)
    (hcovers : ∀ x ∈ s.world.writes, x ∈ before.writes ∨ token.covers x)
    (hrunning : s.rollbackCompleted = false) :
    TransactionHeld input before token ⟨v, some token, s.rollbackCompleted⟩ := by
  have hwrites : v.writes = s.world.writes := hsame.writes
  exact ⟨hframe.same hsame, hrunning, ⟨token, rfl, hwrites ▸ hcovers⟩,
    ⟨r, token, hsame.journal, hstate, hid, htoken, hwrites ▸ hcovers⟩, hwrites ▸ hcovers⟩

/-- The apply of a prepared action, under the transaction's prepare hook. -/
theorem holds_preparedApply (hs : TransactionIdle action input before s) :
    Holds (action.toTuningAction.applyWithPreparedRollback
        (journalHooks action.descriptor input).afterPrepare) (TransactionPost action input before)
      (fun r s' => match r with
        | .ok token => TransactionHeld input before token s'
        | .error ⟨_, some token⟩ => TransactionHeld input before token s'
        | .error ⟨_, none⟩ => TransactionFailed action input before s') s := by
  -- after the hook: the journal holds the Applying record with the prepared token
  let record : RollbackToken → ControllerJournalRecord := fun token =>
    phaseRecord .applying input.experimentId action.descriptor.actionId (some token)
      { input.metadata with verifyResult := some "rollback_prepared_before_mutation" }
  let F : RollbackToken → TransactionState → Prop := fun token s =>
    (TransactionFrame before input.experimentId s.world ∧
      s.world.journal = .content (record token)) ∧
    s.rollback = some token ∧ s.rollbackCompleted = false
  have hcovers : ∀ token issued s, F token s → (∀ x ∈ issued, token.covers x) →
      ApplyScript.Within before.writes issued s.world →
      JournalCovers before.writes input.experimentId s.world := by
    intro token issued s hF hissued hw
    exact ⟨_, token, hF.1.2, .inl rfl, rfl, rfl, fun x hx => (hw x hx).imp_right (hissued x)⟩
  have hframe : ∀ r : ControllerJournalRecord, r.Of input.experimentId →
      TransactionFrame before input.experimentId (s.world.setJournal r) := by
    obtain ⟨r', hr', -, hid, -⟩ := hs.intent
    exact fun r hr => hs.frame.setJournal hr hr' hid
  have hscript : Holds (action.script.perform
        (journalHooks action.descriptor input).afterPrepare :
          Op TransactionState PartialApplyError ApplyResult)
      (TransactionPost action input before) (fun r s' => ∃ result, r = .ok result ∧
        ((applyRefused result ∧ TransactionFailed action input before s') ∨
          ∃ token issued, applySettled issued result ∧ (∀ x ∈ issued, token.covers x) ∧
            ApplyScript.Within before.writes issued s'.world ∧ F token s')) s :=
    action.isPrepared.holds_perform
    (fun _ _ _ h => ⟨⟨⟨h.1.1.of_eq rfl rfl, h.1.2⟩, h.2⟩, ⟨⟨h.1.1.of_eq rfl rfl, h.1.2⟩, h.2⟩⟩)
    (fun token issued s hF hissued hw => ⟨hF.1.1, .inr (hcovers token issued s hF hissued hw)⟩)
    (transactionFailed_of_same action input before hs (same_refl _)) (by
      intro token
      refine holds_journalToken ?_ ?_
      · intro v hv
        have hfailed : TransactionFailed action input before
            ⟨v, some token, s.rollbackCompleted⟩ :=
          transactionFailed_of_same action input before hs hv
        exact ⟨hfailed.1, fun _ => hfailed⟩
      · intro v hv
        have hheld : TransactionHeld input before token ⟨v, some token, s.rollbackCompleted⟩ :=
          transactionHeld_of_record input before (hframe _ (.inl rfl)) hv (.inl rfl) rfl rfl
            (fun x hx => .inl (hs.clear x hx)) hs.running
        refine ⟨transactionPost_of_held action input before hheld, ?_⟩
        rintro (e | _)
        · exact transactionFailed_of_held action input before hheld
        · exact ⟨⟨⟨hheld.frame, hv.journal⟩, rfl, hs.running⟩,
            fun x hx => .inl (hs.clear x (hv.writes ▸ hx))⟩)
  show Holds (action.script.perform _ >>= fun result => ofExcept result) _ _ s
  rw [holds_bind]
  refine hscript.mono (fun _ h => h) ?_
  rintro _ s' ⟨result, rfl, ⟨hrefused, hpost⟩ | ⟨token, issued, hsettled, hissued, hw, hF⟩⟩
  · refine holds_ofExcept.mpr ?_
    match result, hrefused with
    | .error ⟨_, none⟩, _ => exact hpost
  · have hheld : ∀ t : RollbackToken, (∀ x ∈ issued, t.covers x) →
        TransactionHeld input before t s' := fun t ht =>
      ⟨hF.1.1, hF.2.2, ⟨token, hF.2.1, fun x hx => (hw x hx).imp_right (hissued x)⟩,
        hcovers token issued s' hF hissued hw, fun x hx => (hw x hx).imp_right (ht x)⟩
    refine holds_ofExcept.mpr ?_
    match result, hsettled with
    | .ok t, h => exact hheld t h
    | .error ⟨_, some t⟩, h => exact hheld t h
    | .error ⟨_, none⟩, _ =>
      exact transactionFailed_of_held action input before (hheld token hissued)

/-- The world after a rollback of a held token keeps only what was there before. -/
theorem restore_held (h : TransactionHeld input before token s) :
    ∀ x ∈ (s.world.restore token fun _ => true).writes, x ∈ before.writes := by
  intro x hx
  rw [mem_restore, Bool.and_true] at hx
  rcases h.covered x hx.1 with hbase | hcovers
  · exact hbase
  · rw [hcovers] at hx
    exact absurd hx.2 (by simp)

/-- The transaction as a runner contract. -/
def journaledContract : RunnerContract action.toTuningAction
    (journalHooks action.descriptor input) (TransactionPost action input before) where
  Idle := TransactionIdle action input before
  Held := TransactionHeld input before
  Journaled token s := TransactionHeld input before token s ∧
    JournalApplied input.experimentId action.descriptor.actionId token s.world
  Undone _ s := TransactionFrame before input.experimentId s.world ∧
    (∀ x ∈ s.world.writes, x ∈ before.writes) ∧
    JournalCovers before.writes input.experimentId s.world
  Failed := TransactionFailed action input before
  failed_of_idle _ h := transactionFailed_of_same action input before h (same_refl _)
  preflight _ h := holds_ofExcept.mpr h
  dryRun _ h := holds_ofExcept.mpr h
  apply _ h := holds_preparedApply action input before h
  afterApply token s h := by
    refine holds_journalToken ?_ ?_
    · intro v hv
      have hheld : TransactionHeld input before token ⟨v, some token, s.rollbackCompleted⟩ :=
        ⟨h.frame.same hv, h.running, ⟨token, rfl, hv.writes ▸ h.covered⟩,
          journalCovers_of_subset h.journal hv.journal (hv.writes ▸ fun _ h => h),
          hv.writes ▸ h.covered⟩
      exact ⟨transactionPost_of_held action input before hheld, fun _ => hheld⟩
    · intro v hv
      have hheld := transactionHeld_of_record input before
        (h.journal.frame_setJournal before h.frame (.inl rfl)) hv (.inr rfl) rfl rfl h.covered
          h.running
      refine ⟨transactionPost_of_held action input before hheld, ?_⟩
      rintro (e | _)
      · exact hheld
      · exact ⟨hheld, _, hv.journal, rfl, rfl, rfl, rfl⟩
  held_of_journaled _ _ h := h.1
  verify _ _ h := holds_ofExcept.mpr h
  rollback token s h := by
    -- a rollback only takes writes off the host
    have hpart : ∀ v : World, v.journal = s.world.journal → v.ledger = s.world.ledger →
        v.journalWrites = s.world.journalWrites → (∀ x ∈ v.writes, x ∈ s.world.writes) →
        TransactionHeld input before token { s with world := v } := by
      intro v hjournal hledger hhistory hsub
      obtain ⟨t, ht, hcovers⟩ := h.noted
      exact ⟨h.frame.of_eq hledger hhistory, h.running,
        ⟨t, ht, fun x hx => hcovers x (hsub x hx)⟩,
        journalCovers_of_subset h.journal hjournal hsub, fun x hx => h.covered x (hsub x hx)⟩
    have hsub : ∀ u, ∀ x ∈ (s.world.restore token u).writes, x ∈ s.world.writes :=
      fun u x hx => (mem_restore.mp hx).1
    refine holds_onWorld.mpr (holds_rollbackToken ?_ ?_)
    · intro u
      have hheld := hpart (s.world.restore token u) rfl rfl rfl (hsub u)
      exact ⟨transactionPost_of_held action input before hheld,
        fun _ => transactionFailed_of_held action input before hheld⟩
    · have hheld := hpart ((s.world.restore token fun _ => true).discharge token) rfl rfl rfl
        (hsub _)
      exact ⟨transactionPost_of_held action input before hheld, hheld.frame,
        restore_held input before h, hheld.journal⟩
  afterRollback _ s h := by
    obtain ⟨hframe, hclear, hjournal⟩ := h
    have hkept : ∀ v : World, s.world.Same v →
        TransactionFailed action input before ⟨v, s.rollback, true⟩ := fun v hv =>
      ⟨⟨hframe.same hv, .inr (journalCovers_of_subset hjournal hv.journal
        (hv.writes ▸ fun _ h => h))⟩, transactionNoted_of_clear before (hv.writes ▸ hclear)⟩
    have hclean : ∀ v : World, (s.world.setJournal .clean).Same v →
        TransactionFailed action input before ⟨v, s.rollback, true⟩ := fun v hv =>
      have hclear' : ∀ x ∈ v.writes, x ∈ before.writes := fun x hx => hclear x (hv.writes ▸ hx)
      ⟨⟨(hjournal.frame_setJournal before hframe (.inr rfl)).same hv,
        .inl ⟨hclear', .inr (.inl hv.journal)⟩⟩, transactionNoted_of_clear before hclear'⟩
    show Holds (assign _ >>= fun _ => onWorld writeControllerJournalClean) _ _ s
    rw [holds_bind, holds_assign]
    refine holds_onWorld.mpr (holds_writeControllerJournalClean ?_ ?_)
    · exact ⟨(hkept _ (same_drawn _)).1, fun _ => hkept _ (same_drawn _)⟩
    · exact ⟨(hclean _ (same_setJournal_drawn _ _)).1,
        fun _ => hclean _ (same_setJournal_drawn _ _)⟩

end Contract

/-- What the error of an apply says about the host: its outstanding token covers
every write that is left; without one nothing is left. -/
def FailureSettled (before : World) (e : AnyError) (w : World) : Prop :=
  match e.outstanding with
  | some token => ∀ x ∈ w.writes, x ∈ before.writes ∨ token.covers x
  | none => ∀ x ∈ w.writes, x ∈ before.writes

theorem failureSettled_of_clear {before w : World} (e : AnyError)
    (h : ∀ x ∈ w.writes, x ∈ before.writes) : FailureSettled before e w := by
  unfold FailureSettled
  cases e.outstanding with
  | none => exact h
  | some _ => exact fun x hx => .inl (h x hx)

theorem TransactionNoted.failureSettled {before : World} {s : TransactionState}
    (h : TransactionNoted before s) (source : ActionError) :
    FailureSettled before (journaledActionFailure source s) s.world := by
  unfold FailureSettled journaledActionFailure AnyError.outstanding
  cases hdone : s.rollbackCompleted with
  | true => exact h.completed hdone
  | false =>
    cases hnoted : s.rollback with
    | none => exact h.unnoted hnoted
    | some t => exact h.covered t hnoted

/-- What a transaction leaves behind: a post-state, after `Ok` in apply mode the
`Applied` record with the token of this apply, and after an error what its
outstanding token covers. -/
def JournaledOutcome (action : PreparedAction) (policy : ActionRunPolicy)
    (input : JournaledActionInput) (before : World) (r : Except AnyError AuditedActionResult)
    (w : World) : Prop :=
  JournaledPostState before input.experimentId action.descriptor.actionId w ∧
    (∀ outcome, r = .ok outcome →
      (policy.dryRun = false → ∃ token, outcome.rollback = some token) ∧
      ∀ token, outcome.rollback = some token →
        JournalApplied input.experimentId action.descriptor.actionId token w ∧
        ∀ x ∈ w.writes, x ∈ before.writes ∨ token.covers x) ∧
    ∀ e, r = .error e → FailureSettled before e w

/-- Every crash point of a transaction is a post-state, and so is its end; the rest
of the world keeps its frame. -/
theorem holds_applyJournaledAction (action : PreparedAction) (policy : ActionRunPolicy)
    (clock : ActionPhase → Nat) (input : JournaledActionInput) (w : World) :
    Holds (applyJournaledAction action policy clock input)
      (fun v => TransactionFrame w input.experimentId v ∧
        JournaledPostState w input.experimentId action.descriptor.actionId v)
      (fun r v => TransactionFrame w input.experimentId v ∧
        JournaledOutcome action policy input w r v) w := by
  have hsame : ∀ v : World, w.Same v → TransactionFrame w input.experimentId v ∧
      JournaledPostState w input.experimentId action.descriptor.actionId v := fun v hv =>
    ⟨(TransactionFrame.refl w _).same hv, .inl ⟨hv.writes ▸ fun _ h => h, .inl hv.journal⟩⟩
  have hfailed : ∀ (e : AnyError) (v : World), TransactionFrame w input.experimentId v ∧
      JournaledPostState w input.experimentId action.descriptor.actionId v →
      FailureSettled w e v → TransactionFrame w input.experimentId v ∧
        JournaledOutcome action policy input w (.error e) v :=
    fun e v h hleft => ⟨h.1, h.2, fun _ h => (by cases h), fun _ he => (by cases he; exact hleft)⟩
  have hnothing : ∀ (e : AnyError) (v : World), v.writes = w.writes → FailureSettled w e v :=
    fun e v hv => failureSettled_of_clear e (hv ▸ fun _ h => h)
  rw [applyJournaledAction, holds_bind]
  refine holds_tryNewId ?_ fun e =>
    hfailed e _ (hsame w (same_refl w)) (hnothing e w rfl)
  have hstart : TransactionIdle action input w ⟨w.drawn.setJournal (phaseRecord .applying
      input.experimentId action.descriptor.actionId none input.metadata), none, false⟩ :=
    ⟨(TransactionFrame.first w (.inl rfl)).same (same_setJournal_drawn w _), rfl, rfl,
      fun _ h => h, _, rfl, rfl, rfl, rfl, rfl⟩
  have hpost := transactionPost_of_idle action input w hstart
  refine holds_bind.mpr (holds_writeControllerJournalPhase ?_ ⟨hpost, ?_⟩)
  · exact ⟨hsame _ (same_drawn w), fun e =>
      hfailed e _ (hsame _ (same_drawn w)) (hnothing e _ rfl)⟩
  rintro (e | _)
  · exact hfailed e _ hpost (hnothing e _ rfl)
  refine holds_bind.mpr (holds_withLocals.mpr ?_)
  have hrun := (journaledContract action input w).holds_runAuditedAction policy clock
    (s := .start action.toTuningAction policy "autotune candidate" ⟨_, none, false⟩) hstart
  refine hrun.mono (fun _ h => h) ?_
  rintro (e | ⟨state, _ | token⟩) s' h
  · exact holds_fail.mpr (hfailed _ _ h.1 (h.2.failureSettled e))
  · refine holds_pure.mpr ⟨h.2.frame, (transactionPost_of_idle action input w h.2).2, ?_,
      fun _ he => by cases he⟩
    rintro _ ⟨⟩
    exact ⟨fun hmode => absurd h.1 (by simp [hmode]), fun _ hnone => by cases hnone⟩
  · refine holds_pure.mpr ⟨h.1.frame, .inr h.1.journal, ?_, fun _ he => by cases he⟩
    rintro _ ⟨⟩
    refine ⟨fun _ => ⟨token, rfl⟩, ?_⟩
    rintro _ ⟨⟩
    exact ⟨h.2, h.1.covered⟩

/-- **The journaled transaction's post-states.**  At every crash point and at the
end of every run in apply mode, the journal is unchanged, finished or the intent of
this experiment, with every write of the apply taken back, or it holds a token that
covers every write; after `Ok` it is `Applied` with the token of this apply. -/
theorem applyJournaledAction_postStates (action : PreparedAction) (policy : ActionRunPolicy)
    (clock : ActionPhase → Nat) (input : JournaledActionInput) (before : World)
    (hmode : policy.dryRun = false) :
    (∀ w ∈ ((applyJournaledAction action policy clock input).run before).visited,
      JournaledPostState before input.experimentId action.descriptor.actionId w) ∧
    JournaledPostState before input.experimentId action.descriptor.actionId
      ((applyJournaledAction action policy clock input).run before).state ∧
    ∀ outcome, ((applyJournaledAction action policy clock input).run before).result = .ok outcome →
      ∃ token, outcome.rollback = some token ∧
        JournalApplied input.experimentId action.descriptor.actionId token
          ((applyJournaledAction action policy clock input).run before).state ∧
        ∀ x ∈ ((applyJournaledAction action policy clock input).run before).state.writes,
          x ∈ before.writes ∨ token.covers x := by
  obtain ⟨hvisited, -, hpost, hok, -⟩ := holds_applyJournaledAction action policy clock input before
  refine ⟨fun w hw => (hvisited w hw).2, hpost, fun outcome houtcome => ?_⟩
  obtain ⟨token, htoken⟩ := (hok outcome houtcome).1 hmode
  exact ⟨token, htoken, (hok outcome houtcome).2 token htoken⟩

/-- Raise one task's priority: every check passes and the write succeeds. -/
def sampleNiceAction (preflight : Except AnyError (List String)) : PreparedAction where
  descriptor := .ofTuningAction "nice" .reversibleLowRisk
  preflight := preflight
  dryRun := .ok ⟨false, 1, 1, 1, []⟩
  script := niceApplyPrepared (.ok [demotedRecord]) (.ok [demotedRecord]) fun _ => none
  isPrepared := niceApplyPrepared_prepared ..
  verify := .ok ⟨true, 1, 1, 0, []⟩
  rollback _ := ⟨fun _ => true, none⟩

/-- A policy that allows everything, in apply mode. -/
def permissivePolicy : ActionRunPolicy := ⟨fun _ _ => .ok (), none, none, false⟩

theorem applyJournaledAction_sample_applied :
    ((applyJournaledAction (sampleNiceAction (.ok [])) permissivePolicy (fun _ => 0)
      ⟨"exp-1", {}⟩).run .fresh).state.writes = [.nice demotedRecord] ∧
    ∃ token, JournalApplied "exp-1" "nice" token
      ((applyJournaledAction (sampleNiceAction (.ok [])) permissivePolicy (fun _ => 0)
        ⟨"exp-1", {}⟩).run .fresh).state := by
  obtain ⟨-, -, hok⟩ := applyJournaledAction_postStates (sampleNiceAction (.ok []))
    permissivePolicy (fun _ => 0) ⟨"exp-1", {}⟩ .fresh rfl
  obtain ⟨token, -, happlied, -⟩ := hok _ rfl
  exact ⟨rfl, token, happlied⟩

/-- The two post-states without the write-ahead intent. -/
def StrictPostState (before : World) (id : ExperimentId) (w : World) : Prop :=
  ((∀ x ∈ w.writes, x ∈ before.writes) ∧
    (w.journal = before.journal ∨
      ∃ r, w.journal = .content r ∧ r.mayHaveMutatedSystem = false)) ∨
  JournalCovers before.writes id w

/-- A blocked preflight leaves the `Applying` record without a token: the strict
post-states miss the write-ahead intent. -/
theorem applyJournaledAction_leaves_intent :
    ¬ ∀ (action : PreparedAction) (policy : ActionRunPolicy) (clock : ActionPhase → Nat)
      (input : JournaledActionInput) (before : World), policy.dryRun = false →
      StrictPostState before input.experimentId
        ((applyJournaledAction action policy clock input).run before).state := by
  intro h
  have hleft := h (sampleNiceAction (.error (.message "target is gone"))) permissivePolicy
    (fun _ => 0) ⟨"exp-1", {}⟩ .fresh rfl
  rcases hleft with ⟨-, hj | ⟨r, hr, hdone⟩⟩ | ⟨r, token, hr, -, -, htoken, -⟩
  · cases hj
  · cases hr
    cases hdone
  · cases hr
    cases htoken

end Stutter

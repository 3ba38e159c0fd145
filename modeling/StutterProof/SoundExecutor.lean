import StutterProof.Executor
import StutterProof.SoundStores

/-! # The executor over sound stores

What the runtime's executor does to the journal and the ledger when no durable access
fails.  It never touches the ledger.  An apply that fails without its rollback hands
the token out with its error, and it is the token of the journal's record
(`SoundApply`); the privileged paths keep their token to themselves. -/
namespace Stutter
open Fallible

/-- How an apply leaves the stores. -/
structure SoundApply (before : World) (r : Except AnyError RollbackToken) (w : World) : Prop where
  sound : w.Sound
  ledger : w.ledger = before.ledger
  outstanding : ∀ e token, r = .error e → e.outstanding = some token →
    ∃ record, parseControllerJournal w.journal = .ok record ∧ record.outstandingToken = some token

/-- The answers of the outside name their action, and an action that could not be built was not
journaled. -/
structure ExecutorAnswers.Plain (answers : ExecutorAnswers) : Prop where
  named : ∀ action, answers.action = .ok action →
    action.descriptor.actionId.toList.all isTrimmed = false
  unjournaled : ∀ e, answers.action = .error e → e.outstanding = none

open Op

/-- Whatever a script does, it keeps what the host's writes and the hook keep. -/
theorem ApplyScript.holds_perform_of {ρ ε : Type} {script : ApplyScript ρ}
    {hook : RollbackToken → Op TransactionState AnyError Unit} {F : TransactionState → Prop}
    (hissue : ∀ s c, F s → F { s with world := s.world.issue c })
    (htake : ∀ s c, F s → F { s with world := s.world.takeBack c })
    (hhook : ∀ token s, F s → Holds (hook token) (fun _ => True) (fun _ t => F t) s)
    {s : TransactionState} (hs : F s) :
    Holds (script.perform hook : Op TransactionState ε ρ) (fun _ => True)
      (fun r t => (∃ result, r = .ok result) ∧ F t) s := by
  induction script generalizing s with
  | finish result => exact holds_ret.mpr ⟨⟨result, rfl⟩, hs⟩
  | write change next ih =>
    rw [perform, holds_bind, holds_onWorld, holds_update]
    exact ⟨trivial, ih (hissue s change hs)⟩
  | takeBack change next ih =>
    rw [perform, holds_bind, holds_onWorld, holds_update]
    exact ⟨trivial, ih (htake s change hs)⟩
  | prepared token next ih =>
    rw [perform, holds_bind, holds_attempt]
    exact (hhook token s hs).mono (fun _ h => h) fun answer t ht => ih answer ht

section Applying
variable {input : LiveExperimentManagerInput} {host : ManagerHost}
    {observation : AutotuneObservation}
  {answers : ExecutorAnswers} {candidate : CandidateAction} {id : ExperimentId} {w : World}

/-- The frame of an apply. -/
def ApplyFrame (before w : World) : Prop := w.Sound ∧ w.ledger = before.ledger

variable {before : World}

theorem ApplyFrame.soundApply {r : Except AnyError RollbackToken} (h : ApplyFrame before w)
    (hr : ∀ e, r = .error e → e.outstanding = none) : SoundApply before r w := by
  refine ⟨h.1, h.2, fun e token he htoken => ?_⟩
  rw [hr e he] at htoken
  cases htoken

/-! ## Through the journaled transaction -/

/-- The journal's record is the transaction's, with the token its hooks noted. -/
structure TransactionJournaled (before : World) (s : TransactionState) : Prop where
  frame : ApplyFrame before s.world
  running : s.rollbackCompleted = false
  journal : ∃ record, parseControllerJournal s.world.journal = .ok record ∧
    record.mayHaveMutatedSystem = true ∧ record.rollbackToken = s.rollback

/-- A failed run that was not rolled back still has its journal record. -/
def TransactionOver (before : World) (s : TransactionState) : Prop :=
  TransactionJournaled before s ∨ ApplyFrame before s.world ∧ s.rollbackCompleted = true

variable {s : TransactionState}

theorem holds_journalToken_sound {action : ActionDescriptor} {journaled : JournaledActionInput}
    {state : ControllerJournalState} {note : String} {token : RollbackToken}
    (haction : action.actionId.toList.all isTrimmed = false)
    (hid : journaled.experimentId.toList.all isTrimmed = false)
    (hstate : state = .applying ∨ state = .applied) (hs : TransactionJournaled before s) :
    Holds (journalToken action journaled state note token) (fun _ => True)
      (fun _ t => TransactionJournaled before t) s := by
  rw [journalToken, holds_bind, holds_assign, holds_bind, holds_onWorld,
    tryNewId_of_nonblank hid, holds_ret]
  dsimp only
  rw [holds_onWorld]
  unfold writeControllerJournalPhase writeControllerJournalRecord
  refine holds_durable_sound hs.frame.1 ?_
  refine ⟨⟨hs.frame.1.drawn.setJournal _, hs.frame.2⟩, hs.running, ?_⟩
  refine ⟨_, parseControllerJournal_named rfl rfl rfl hid haction, ?_, rfl⟩
  rcases hstate with rfl | rfl <;> rfl

/-- The transaction as a runner contract, over sound stores. -/
def soundContract (action : PreparedAction) (journaled : JournaledActionInput) (before : World)
    (haction : action.descriptor.actionId.toList.all isTrimmed = false)
    (hid : journaled.experimentId.toList.all isTrimmed = false) :
    RunnerContract action.toTuningAction (journalHooks action.descriptor journaled)
      (fun _ => True) where
  Idle := TransactionJournaled before
  Held _ := TransactionJournaled before
  Journaled _ := TransactionJournaled before
  Undone _ := TransactionJournaled before
  Failed := TransactionOver before
  failed_of_idle _ h := .inl h
  preflight _ h := holds_ofExcept.mpr h
  dryRun _ h := holds_ofExcept.mpr h
  apply s h := by
    show Holds (action.script.perform _ >>= fun result => ofExcept result) _ _ s
    rw [holds_bind]
    refine (ApplyScript.holds_perform_of (F := TransactionJournaled before) ?_ ?_ ?_ h).mono
      (fun _ h => h) ?_
    · exact fun s c hs => ⟨⟨hs.frame.1.of_eq rfl rfl, hs.frame.2⟩, hs.running, hs.journal⟩
    · exact fun s c hs => ⟨⟨hs.frame.1.of_eq rfl rfl, hs.frame.2⟩, hs.running, hs.journal⟩
    · exact fun token s hs => holds_journalToken_sound haction hid (.inl rfl) hs
    · rintro _ s' ⟨⟨result, rfl⟩, hs'⟩
      refine holds_ofExcept.mpr ?_
      match result with
      | .ok _ => exact hs'
      | .error ⟨_, some _⟩ => exact hs'
      | .error ⟨_, none⟩ => exact .inl hs'
  afterApply token s h := by
    refine (holds_journalToken_sound haction hid (.inr rfl) h).mono (fun _ h => h) ?_
    rintro (_ | _) s' hs'
    · exact hs'
    · exact hs'
  held_of_journaled _ _ h := h
  verify _ _ h := holds_ofExcept.mpr h
  rollback token s h := by
    have hrestored : ∀ v : World, v.io = s.world.io → v.ledger = s.world.ledger →
        v.journal = s.world.journal → TransactionJournaled before { s with world := v } := by
      intro v hio hledger hjournal
      refine ⟨⟨h.frame.1.of_eq hio hledger, hledger.trans h.frame.2⟩, h.running, ?_⟩
      rw [hjournal]
      exact h.journal
    refine holds_onWorld.mpr (holds_rollbackToken ?_ ?_)
    · exact fun u => ⟨trivial, fun _ => .inl (hrestored _ rfl rfl rfl)⟩
    · exact ⟨trivial, hrestored _ rfl rfl rfl⟩
  afterRollback _ s h := by
    show Holds (assign _ >>= fun _ => onWorld writeControllerJournalClean) _ _ s
    rw [holds_bind, holds_assign]
    dsimp only
    rw [holds_onWorld]
    unfold writeControllerJournalClean writeControllerJournalRecord
    refine holds_durable_sound h.frame.1 (.inr ⟨⟨h.frame.1.drawn.setJournal _, h.frame.2⟩, rfl⟩)

theorem TransactionOver.soundApply {source : ActionError} (h : TransactionOver before s) :
    SoundApply before (.error (journaledActionFailure source s)) s.world := by
  rcases h with ⟨hframe, hrunning, record, hread, hmutated, htoken⟩ | ⟨hframe, hcompleted⟩
  · refine ⟨hframe.1, hframe.2, ?_⟩
    rintro _ token ⟨⟩ houtstanding
    unfold journaledActionFailure at houtstanding
    rw [hrunning] at houtstanding
    refine ⟨record, hread, ?_⟩
    unfold ControllerJournalRecord.outstandingToken
    rw [if_pos hmutated, htoken]
    exact houtstanding
  · refine hframe.soundApply ?_
    rintro _ ⟨⟩
    unfold journaledActionFailure
    rw [hcompleted]
    rfl

theorem holds_applyJournaled_sound {action : PreparedAction}
    (hnamed : action.descriptor.actionId.toList.all isTrimmed = false)
    (hid : id.toList.all isTrimmed = false) (hw : w.Sound) :
    Holds (applyJournaledAction action ⟨answers.check, none, none, false⟩
        answers.clock ⟨id, journalMetadata input host observation candidate none "pending_apply"⟩)
      (fun _ => True) (fun r v => match r with
        | .ok _ => ApplyFrame w v
        | .error e => SoundApply w (.error e) v) w := by
  rw [applyJournaledAction, tryNewId_of_nonblank hid, holds_bind, holds_ret]
  dsimp only
  rw [holds_bind]
  unfold writeControllerJournalPhase writeControllerJournalRecord
  refine holds_durable_sound hw ?_
  dsimp only
  rw [holds_bind, holds_withLocals]
  have hstart : TransactionJournaled w ⟨w.drawn.setJournal (phaseRecord .applying id
      action.descriptor.actionId none (journalMetadata input host observation candidate none
        "pending_apply")), none, false⟩ :=
    ⟨⟨hw.drawn.setJournal _, rfl⟩, rfl, _, parseControllerJournal_named rfl rfl rfl hid hnamed,
      rfl, rfl⟩
  refine ((soundContract action ⟨id, _⟩ w hnamed hid).holds_runAuditedAction _ answers.clock
    (s := .start action.toTuningAction _ "autotune candidate" ⟨_, none, false⟩) hstart).mono
    (fun _ h => h) ?_
  rintro (e | ⟨state, _ | token⟩) s' h
  · exact holds_fail.mpr (TransactionOver.soundApply h)
  · exact holds_pure.mpr h.2.frame
  · exact holds_pure.mpr h.frame

theorem holds_applyLowRisk_sound (hplain : answers.Plain) (hid : id.toList.all isTrimmed = false)
    (hw : w.Sound) :
    Holds (applyLowRiskCandidate input host observation answers candidate id) (fun _ => True)
      (SoundApply w) w := by
  rw [applyLowRiskCandidate, holds_bind, holds_ofExcept]
  cases haction : answers.action with
  | error e =>
    refine ApplyFrame.soundApply ⟨hw, rfl⟩ ?_
    rintro _ ⟨⟩
    exact hplain.unjournaled e haction
  | ok action =>
    have hnamed := hplain.named action haction
    dsimp only
    refine (holds_applyJournaled_sound hnamed hid hw).bind ?_ fun e v h => h
    rintro ⟨state, _ | token⟩ v h
    · exact holds_fail.mpr (ApplyFrame.soundApply h (by rintro _ ⟨⟩; rfl))
    · exact holds_pure.mpr (ApplyFrame.soundApply h fun _ he => by cases he)

/-! ## Through the privileged worker -/

theorem holds_prepareHook_sound {token : RollbackToken} (hid : id.toList.all isTrimmed = false)
    (hs : ApplyFrame w s.world) :
    Holds (prepareHook input host observation candidate id token) (fun _ => True)
      (fun _ t => ApplyFrame w t.world) s := by
  rw [prepareHook, holds_bind, holds_onWorld, tryNewId_of_nonblank hid, holds_ret]
  dsimp only
  rw [holds_bind, holds_onWorld]
  unfold writeControllerJournalPhase writeControllerJournalRecord
  refine holds_durable_sound hs.1 ?_
  exact holds_assign.mpr ⟨hs.1.drawn.setJournal _, hs.2⟩

theorem holds_cleanWithNote_sound {text : String} {u : World} (note : String)
    (report : AnyError → String) (hu : ApplyFrame w u) :
    Holds (do
      match ← attempt writeControllerJournalClean with
      | .ok _ => return (AnyError.message text).context note
      | .error e => return (AnyError.message text).context (report e) : WorldOp AnyError)
      (fun _ => True) (fun r u => ApplyFrame w u ∧ ∃ e, r = .ok e ∧ e.outstanding = none) u := by
  rw [holds_bind, holds_attempt]
  unfold writeControllerJournalClean writeControllerJournalRecord
  refine holds_durable_sound hu.1 ?_
  refine holds_pure.mpr ⟨⟨hu.1.drawn.setJournal _, hu.2⟩, _, rfl, ?_⟩
  exact AnyError.context_outstanding

/-- Settling a failed apply rolls back and clears, and answers with the error it was given. -/
theorem holds_settleFailed_sound {journaled : Option RollbackToken} {text : String} {v : World}
    (hv : ApplyFrame w v) :
    Holds (settleFailedPreparedApply answers.rollback journaled (.message text)) (fun _ => True)
      (fun r u => ApplyFrame w u ∧ ∃ e, r = .ok e ∧ e.outstanding = none) v := by
  unfold settleFailedPreparedApply
  cases journaled with
  | none =>
    dsimp only
    rw [holds_bind, holds_attempt]
    unfold writeControllerJournalClean writeControllerJournalRecord
    refine holds_durable_sound hv.1 ?_
    exact holds_pure.mpr ⟨⟨hv.1.drawn.setJournal _, hv.2⟩, _, rfl, rfl⟩
  | some token =>
    dsimp only
    rw [holds_bind, holds_attempt]
    refine holds_rollbackToken ?_ ?_
    · refine fun u => ⟨trivial, fun e => ?_⟩
      exact holds_pure.mpr ⟨⟨hv.1.of_eq rfl rfl, hv.2⟩, _, rfl, AnyError.context_outstanding⟩
    · exact ⟨trivial, holds_cleanWithNote_sound _ _ ⟨hv.1.of_eq rfl rfl, hv.2⟩⟩

theorem holds_applyPrepared_sound (hid : id.toList.all isTrimmed = false) (hw : w.Sound) :
    Holds (applyPreparedThroughWorker input host observation answers candidate id)
      (fun _ => True)
      (SoundApply w) w := by
  rw [applyPreparedThroughWorker, holds_bind, holds_withLocals]
  refine (ApplyScript.holds_perform_of (F := fun s => ApplyFrame w s.world) ?_ ?_ ?_
    (show ApplyFrame w w from ⟨hw, rfl⟩)).mono (fun _ h => h) ?_
  · exact fun s c hs => ⟨hs.1.of_eq rfl rfl, hs.2⟩
  · exact fun s c hs => ⟨hs.1.of_eq rfl rfl, hs.2⟩
  · exact fun token s hs => holds_prepareHook_sound hid hs
  · rintro _ s ⟨⟨result, rfl⟩, hs⟩
    dsimp only
    rw [holds_bind, holds_ofExcept]
    cases result with
    | ok token => exact holds_pure.mpr (hs.soundApply fun _ he => nomatch he)
    | error text =>
      dsimp only
      refine (holds_settleFailed_sound hs).bind ?_ ?_
      · rintro e v ⟨hv, _, ⟨⟩, houtstanding⟩
        refine holds_fail.mpr (hv.soundApply ?_)
        rintro _ ⟨⟩
        rw [AnyError.context_outstanding]
        exact houtstanding
      · rintro e v ⟨-, _, hok, -⟩
        cases hok

theorem holds_applyThroughWorker_sound (hw : w.Sound) :
    Holds (applyThroughWorker answers candidate) (fun _ => True) (SoundApply w) w := by
  rw [applyThroughWorker, holds_bind, holds_withLocals]
  refine (ApplyScript.holds_perform_of (F := fun s => ApplyFrame w s.world) ?_ ?_ ?_
    (show ApplyFrame w w from ⟨hw, rfl⟩)).mono (fun _ h => h) ?_
  · exact fun s c hs => ⟨hs.1.of_eq rfl rfl, hs.2⟩
  · exact fun s c hs => ⟨hs.1.of_eq rfl rfl, hs.2⟩
  · exact fun token s hs => holds_ret.mpr hs
  · rintro _ s ⟨⟨result, rfl⟩, hs⟩
    dsimp only
    rw [holds_bind, holds_ofExcept]
    cases result with
    | ok token => exact holds_pure.mpr (hs.soundApply fun _ he => nomatch he)
    | error text => exact holds_fail.mpr (hs.soundApply (by rintro _ ⟨⟩; rfl))

/-- **An apply over sound stores**: the ledger stays, and an outstanding token is the journal's. -/
theorem holds_applyCandidate_sound (hplain : answers.Plain) (hid : id.toList.all isTrimmed = false)
    (hw : w.Sound) :
    Holds ((runtimeExecutor input host observation answers).applyCandidate candidate id)
      (fun _ => True) (SoundApply w) w := by
  unfold runtimeExecutor
  dsimp only
  split
  · rw [holds_bind, holds_ensure]
    split
    · dsimp only
      split
      · exact holds_applyPrepared_sound hid hw
      · exact holds_applyThroughWorker_sound hw
    · exact ApplyFrame.soundApply ⟨hw, rfl⟩ (by rintro _ ⟨⟩; rfl)
  · exact holds_applyLowRisk_sound hplain hid hw

/-- A rollback leaves the stores alone. -/
theorem rollbackAnswers_runtimeExecutor (input : LiveExperimentManagerInput) (host : ManagerHost)
    (observation : AutotuneObservation) (answers : ExecutorAnswers) :
    RollbackAnswers (runtimeExecutor input host observation answers) fun _ _ => True := by
  intro experiment w hw
  refine holds_rollbackCandidate ?_ ?_ ?_
  · exact fun e => ⟨hw, rfl, rfl, trivial⟩
  · exact fun u => ⟨trivial, fun e => ⟨hw.of_eq rfl rfl, rfl, rfl, trivial⟩⟩
  · exact ⟨trivial, hw.of_eq rfl rfl, rfl, rfl, trivial⟩

end Applying
end Stutter

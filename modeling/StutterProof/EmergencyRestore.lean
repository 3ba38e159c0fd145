import StutterProof.RecoveryDischarge

/-! # Emergency restore

The command an operator runs when no controller does.  It restores the token of the
journal's unfinished action and reports what became of it.  The kept-action ledger
is another durable store of tokens, which it does not read, although a failed stop
points at it for the ledger's tokens. -/
namespace Stutter
open Fallible

structure RollbackPreview where
  affectedTasks : Nat
  message : String

/-- What the command restored. -/
structure AutotuneRestoreOutcome where
  status : AutotuneRestoreStatus
  restoredActions : Nat := 0
  failedActions : Nat := 0
  skippedActions : Nat := 0
  restoredRecords : Nat := 0
  skippedMissing : Nat := 0
  skippedIdentityMismatch : Nat := 0
  failedRecords : Nat := 0
  messages : List String
  deriving DecidableEq

/-- What one rollback did. -/
structure RollbackRestoreSummary where
  rollbackKind : String
  restoredItems : Nat
  skippedItems : Nat
  skippedMissing : Nat
  skippedIdentityMismatch : Nat
  failedItems : Nat
  messages : List String

/-- The registry behind the command, with the answers of the host, and where the command
looks for the journal. -/
structure EmergencyHost where
  journalPath : String
  restoreToken : RollbackToken → Except AnyError RollbackResult
  previewToken : RollbackToken → Except AnyError RollbackPreview
  undone : RollbackToken → HostWrite → Bool
  manualRestoreCommand : RollbackToken → String

def rollbackRestoreSummaryFromRegistryResult (token : RollbackToken) (result : RollbackResult) :
    RollbackRestoreSummary where
  rollbackKind := token.kind
  restoredItems := result.restored
  skippedItems := result.skippedDead + result.skippedIdentityMismatch + result.legacyUnverified
  skippedMissing := result.skippedDead
  skippedIdentityMismatch := result.skippedIdentityMismatch
  failedItems := result.errors
  messages := result.messages

/-- The registry's answer stands for a discharged token. -/
def EmergencyHost.discharges (host : EmergencyHost) (token : RollbackToken) : Bool :=
  match host.restoreToken token with
  | .ok result => result.classify == .restored
  | .error _ => false

open Op

/-- The registry's restore: it undoes some of the token's writes, all of them if the
token is discharged, and answers. -/
def EmergencyHost.restore (host : EmergencyHost) (token : RollbackToken) :
    WorldOp RollbackResult := do
  update (World.restore · token (host.undone token))
  if host.discharges token then
    update fun w => (w.restore token fun _ => true).discharge token
  ofExcept (host.restoreToken token)

/-- Audit and history writes of the command. -/
def recordEmergencyRestore (what : String) : WorldOp Unit :=
  durable s!"write emergency restore {what}" fun w => w

def journalIds (experimentId : ExperimentId) (actionId : ActionId) : String :=
  s!"experiment_id={experimentId} action_id={actionId}"

/-- The outcome of a restore that left failed items. -/
def incompleteOutcome (ids : String) (summary : RollbackRestoreSummary) :
    AutotuneRestoreOutcome where
  status := .faulted
  failedActions := 1
  restoredRecords := summary.restoredItems
  skippedMissing := summary.skippedMissing
  skippedIdentityMismatch := summary.skippedIdentityMismatch
  failedRecords := summary.failedItems
  messages := [s!"autotune restore failed: {ids} rollback_kind={summary.rollbackKind} " ++
    s!"restored_items={summary.restoredItems} skipped_items={summary.skippedItems} " ++
    s!"failed_items={summary.failedItems}"]

/-- The outcome of a complete restore. -/
def restoredOutcome (ids : String) (summary : RollbackRestoreSummary) : AutotuneRestoreOutcome where
  status := .restored
  restoredActions := 1
  restoredRecords := summary.restoredItems
  skippedMissing := summary.skippedMissing
  skippedIdentityMismatch := summary.skippedIdentityMismatch
  failedRecords := summary.failedItems
  messages := [s!"autotune restore: restored {ids} rollback_kind={summary.rollbackKind} " ++
    s!"restored_items={summary.restoredItems} skipped_items={summary.skippedItems}"]

section Restore
variable (host : EmergencyHost) (dryRun : Bool)

/-- `restore_applied_journal_record`. -/
def restoreAppliedJournalRecord (experimentId : ExperimentId) (actionId : ActionId)
    (token : RollbackToken) : WorldOp AutotuneRestoreOutcome := do
  let manualCommand := host.manualRestoreCommand token
  let ids := journalIds experimentId actionId
  if dryRun then
    let preview ← ofExcept (host.previewToken token)
    return { status := .dryRun, skippedActions := 1, messages :=
      [s!"autotune restore dry-run: would restore {ids} rollback_kind={token.kind} " ++
        s!"affected_tasks={preview.affectedTasks} manual_restore_command=\"{manualCommand}\"",
       preview.message] }
  match ← attempt (host.restore token) with
  | .ok result =>
    let summary := rollbackRestoreSummaryFromRegistryResult token result
    if 0 < summary.failedItems then
      recordEmergencyRestore "audit event"
      recordEmergencyRestore "history event"
      return incompleteOutcome ids summary
    writeControllerJournalClean
    recordEmergencyRestore "audit event"
    recordEmergencyRestore "history event"
    return restoredOutcome ids summary
  | .error e =>
    recordEmergencyRestore "audit event"
    recordEmergencyRestore "history event"
    return { status := .faulted, failedActions := 1, failedRecords := 1, messages :=
      [s!"autotune restore failed: {ids} rollback_kind={token.kind} error={e.text}",
       s!"manual_restore_command=\"{manualCommand}\""] }

/-- The outcome where the journal has nothing to restore. -/
def noActiveAction : AutotuneRestoreOutcome :=
  { status := .clean
    messages := [s!"autotune restore: no active autotune action in {host.journalPath}"] }

/-- The branches of `restore_known_autotune_actions` on the record it read. -/
def restoreRecord (record : ControllerJournalRecord) : WorldOp AutotuneRestoreOutcome :=
  match record.state with
  | .clean | .planned | .preflighted => return noActiveAction host
  | .reverted => do
    if !dryRun then
      writeControllerJournalClean
    return noActiveAction host
  | .applying | .applied | .verifying | .measuring | .keeping | .reverting | .faulted =>
    let (experimentId, actionId) := journalExperimentAction record
    match record.rollbackToken with
    | some token => restoreAppliedJournalRecord host dryRun experimentId actionId token
    | none => return { status := .applyingWithoutRollbackToken, skippedActions := 1, messages :=
        [s!"autotune restore: journal is {record.state.asStr} without rollback_token " ++
          s!"experiment_id={experimentId} action_id={actionId}; no automatic restore is possible"] }

/-- `restore_known_autotune_actions`. -/
def restoreKnownAutotuneActions : WorldOp AutotuneRestoreOutcome := do
  restoreRecord host dryRun (← readControllerJournal)

end Restore

/-! ## What a reported success covers -/

/-- The statuses that say nothing is left to restore. -/
def AutotuneRestoreStatus.isSuccess : AutotuneRestoreStatus → Bool
  | clean | restored => true
  | applyingWithoutRollbackToken | dryRun | faulted => false

/-- A reported success means that every token durable before was discharged. -/
def EmergencyCovers (host : EmergencyHost) (dryRun : Bool) (before : World) : Prop :=
  Holds (restoreKnownAutotuneActions host dryRun) (fun _ => True)
    (fun result w => ∀ outcome, result = .ok outcome → outcome.status.isSuccess = true →
      ∀ token, before.DurableToken token → token ∈ w.discharged) before

/-- The journal lets the command succeed: it can be read, and either there is nothing
to restore or its token is discharged. -/
def EmergencyRestorable (host : EmergencyHost) (dryRun : Bool)
    (journal : StoreFile ControllerJournalRecord) : Prop :=
  ∃ r, parseControllerJournal journal = .ok r ∧
    ((r.mayHaveMutatedSystem = false) ∨
      ∃ token, r.outstandingToken = some token ∧ dryRun = false ∧ host.discharges token = true)

/-- Every entry of the ledger holds the token of the journal's unfinished action. -/
def LedgerInJournal (journal : StoreFile ControllerJournalRecord) (ledger : StoreFile KeptLedger) :
    Prop :=
  ∀ l e, ledger = .content l → e ∈ l.entries →
    ∃ r, journal = .content r ∧ r.outstandingToken = some e.rollbackToken

section Covers
variable {host : EmergencyHost} {dryRun : Bool}

/-- What the command does with a record. -/
theorem restoreRecord_cases (host : EmergencyHost) (dryRun : Bool) (r : ControllerJournalRecord) :
    (∃ token, r.outstandingToken = some token ∧ restoreRecord host dryRun r =
      restoreAppliedJournalRecord host dryRun (journalExperimentAction r).1
        (journalExperimentAction r).2 token) ∨
    (r.outstandingToken = none ∧ r.mayHaveMutatedSystem = false ∧
      (restoreRecord host dryRun r = (return noActiveAction host) ∨
        restoreRecord host dryRun r =
          (do writeControllerJournalClean; return noActiveAction host))) ∨
    (r.outstandingToken = none ∧ r.mayHaveMutatedSystem = true ∧ ∃ outcome,
      outcome.status = .applyingWithoutRollbackToken ∧
        restoreRecord host dryRun r = (return outcome)) := by
  unfold restoreRecord ControllerJournalRecord.outstandingToken
    ControllerJournalRecord.mayHaveMutatedSystem
  cases r.state with
  | clean | planned | preflighted => exact .inr (.inl ⟨rfl, rfl, .inl rfl⟩)
  | reverted =>
    cases dryRun with
    | true => exact .inr (.inl ⟨rfl, rfl, .inl rfl⟩)
    | false => exact .inr (.inl ⟨rfl, rfl, .inr rfl⟩)
  | applying | applied | verifying | measuring | keeping | reverting | faulted =>
    cases r.rollbackToken with
    | none => exact .inr (.inr ⟨rfl, rfl, _, rfl, rfl⟩)
    | some token => exact .inl ⟨token, rfl, rfl⟩

variable {w : World}

theorem holds_recordEmergencyRestore {what : String}
    {Q : Except AnyError Unit → World → Prop} (h : ∀ r, Q r w.drawn) :
    Holds (recordEmergencyRestore what) (fun _ => True) Q w :=
  holds_durable ⟨trivial, h _⟩ (fun _ => ⟨trivial, h _⟩) fun _ _ => h _

/-- The two reports that end a restore. -/
theorem holds_emergencyOutcome {outcome : AutotuneRestoreOutcome}
    {Q : Except AnyError AutotuneRestoreOutcome → World → Prop}
    (h : ∀ v, v.discharged = w.discharged → Q (.ok outcome) v ∧ ∀ e, Q (.error e) v) :
    Holds (do
      recordEmergencyRestore "audit event"
      recordEmergencyRestore "history event"
      return outcome) (fun _ => True) Q w := by
  have haudit := h w.drawn rfl
  have hhistory := h w.drawn.drawn rfl
  rw [holds_bind]
  refine holds_recordEmergencyRestore ?_
  rintro (e | _)
  · exact haudit.2 e
  · show Holds (_ >>= _) _ _ _
    rw [holds_bind]
    refine holds_recordEmergencyRestore ?_
    rintro (e | _)
    · exact hhistory.2 e
    · exact holds_pure.mpr hhistory.1

variable {token : RollbackToken}

theorem holds_emergencyHost_restore :
    Holds (host.restore token) (fun _ => True) (fun r v => r = host.restoreToken token ∧
      (host.discharges token = true → token ∈ v.discharged)) w := by
  rw [EmergencyHost.restore, holds_bind, holds_update]
  refine ⟨trivial, ?_⟩
  cases host.discharges token with
  | true => simp
  | false => simp

/-- What a reported success of one restore means. -/
def RestoreSucceeded (host : EmergencyHost) (dryRun : Bool) (token : RollbackToken)
    (r : Except AnyError AutotuneRestoreOutcome) (w : World) : Prop :=
  ∀ outcome, r = .ok outcome → outcome.status.isSuccess = true →
    dryRun = false ∧ host.discharges token = true ∧ token ∈ w.discharged

theorem restoreSucceeded_of_status
    {outcome : AutotuneRestoreOutcome} (h : outcome.status.isSuccess = false) :
    RestoreSucceeded host dryRun token (.ok outcome) w := by
  rintro _ ⟨⟩ hsuccess
  rw [h] at hsuccess
  cases hsuccess

theorem restoreSucceeded_error {e : AnyError} : RestoreSucceeded host dryRun token (.error e) w :=
  fun _ he => nomatch he

/-- Only the token's discharge leads to a reported success. -/
theorem holds_restoreAppliedJournalRecord {id : ExperimentId} {action : ActionId} :
    Holds (restoreAppliedJournalRecord host dryRun id action token) (fun _ => True)
      (RestoreSucceeded host dryRun token) w := by
  unfold restoreAppliedJournalRecord
  cases dryRun with
  | true =>
    simp only [if_true, holds_bind, holds_ofExcept]
    cases host.previewToken token with
    | error e => exact restoreSucceeded_error
    | ok preview => exact holds_pure.mpr (restoreSucceeded_of_status rfl)
  | false =>
    simp only [Bool.false_eq_true, if_false]
    rw [holds_bind, holds_attempt]
    refine holds_emergencyHost_restore.mono (fun _ h => h) ?_
    rintro (e | result) v ⟨hresult, hdischarged⟩
    · exact holds_emergencyOutcome fun u _ =>
        ⟨restoreSucceeded_of_status rfl, fun _ => restoreSucceeded_error⟩
    · dsimp only
      by_cases hfailed : 0 < (rollbackRestoreSummaryFromRegistryResult token result).failedItems
      · rw [if_pos hfailed]
        exact holds_emergencyOutcome fun u _ =>
          ⟨restoreSucceeded_of_status rfl, fun _ => restoreSucceeded_error⟩
      · rw [if_neg hfailed, holds_bind]
        have hdone : host.discharges token = true := by
          unfold EmergencyHost.discharges
          rw [← hresult]
          simp only [RollbackResult.classify, beq_iff_eq]
          exact if_neg hfailed
        have hin := hdischarged hdone
        refine holds_writeControllerJournalClean
          ⟨trivial, fun _ => restoreSucceeded_error⟩ ⟨trivial, ?_⟩
        rintro (e | _)
        · exact restoreSucceeded_error
        · refine holds_emergencyOutcome fun u hu => ⟨?_, fun _ => restoreSucceeded_error⟩
          rintro _ ⟨⟩ -
          rw [hu]
          exact ⟨rfl, hdone, hin⟩

/-- A ledger inside the journal's token is covered. -/
theorem emergencyCovers_of_ledgerInJournal {before : World}
    (h : EmergencyRestorable host dryRun before.journal →
      LedgerInJournal before.journal before.ledger) : EmergencyCovers host dryRun before := by
  rw [EmergencyCovers, restoreKnownAutotuneActions, holds_bind]
  refine holds_durableRead trivial ?_ fun e _ he => nomatch he
  cases hparsed : parseControllerJournal before.journal with
  | error e => exact fun _ he => nomatch he
  | ok r =>
    show Holds (restoreRecord host dryRun r) _ _ _
    -- a success covers the ledger if it covers the journal's token
    have hdurable : EmergencyRestorable host dryRun before.journal → ∀ token,
        before.DurableToken token → r.outstandingToken = some token := by
      rintro hrestorable token (⟨l, hl, e, he, rfl⟩ | ⟨r', hr', htoken⟩)
      · obtain ⟨r', hr', htoken⟩ := h hrestorable l e hl he
        rwa [parseControllerJournal_content hparsed hr'] at htoken
      · rwa [parseControllerJournal_content hparsed hr'] at htoken
    obtain ⟨token, htoken, heq⟩ | ⟨hnone, hidle, hcases⟩ | ⟨hnone, hmutated, outcome, hstatus,
        heq⟩ :=
      restoreRecord_cases host dryRun r
    · rw [heq]
      refine holds_restoreAppliedJournalRecord.mono (fun _ h => h) ?_
      intro result v hsucceeded outcome houtcome hsuccess t ht
      obtain ⟨hreal, hdischarges, hin⟩ := hsucceeded outcome houtcome hsuccess
      have := hdurable ⟨r, hparsed, .inr ⟨token, htoken, hreal, hdischarges⟩⟩ t ht
      cases htoken.symm.trans this
      exact hin
    · have hvacuous : ∀ t, ¬ before.DurableToken t := by
        intro t ht
        have := hdurable ⟨r, hparsed, .inl hidle⟩ t ht
        rw [hnone] at this
        cases this
      rcases hcases with heq | heq
      · rw [heq]
        exact holds_pure.mpr fun _ _ _ t ht => absurd ht (hvacuous t)
      · rw [heq, holds_bind]
        refine holds_writeControllerJournalClean ⟨trivial, fun _ _ he => nomatch he⟩ ⟨trivial, ?_⟩
        rintro (e | _)
        · exact fun _ he => nomatch he
        · exact holds_pure.mpr fun _ _ _ t ht => absurd ht (hvacuous t)
    · rw [heq]
      refine holds_pure.mpr ?_
      rintro _ ⟨⟩ hsuccess
      rw [hstatus] at hsuccess
      cases hsuccess

/-- A token that the registry discharges can end in a reported success. -/
theorem canEnd_restoreAppliedJournalRecord
    (id : ExperimentId) (action : ActionId) (h : host.discharges token = true) :
    ∃ outcome v, CanEnd (restoreAppliedJournalRecord host false id action token) w (.ok outcome) v ∧
      outcome.status.isSuccess = true ∧ v.discharged = w.discharged ++ [token] := by
  have hanswer := h
  unfold EmergencyHost.discharges at hanswer
  cases hresult : host.restoreToken token with
  | error e =>
    rw [hresult] at hanswer
    cases hanswer
  | ok result =>
    have hclean : ¬ 0 < (rollbackRestoreSummaryFromRegistryResult token result).failedItems := by
      intro hfailed
      rw [hresult] at hanswer
      simp only [RollbackResult.classify, beq_iff_eq] at hanswer
      rw [if_pos (show 0 < result.errors from hfailed)] at hanswer
      cases hanswer
    have hrestore : CanEnd (host.restore token) w (.ok result)
        (((w.restore token (host.undone token)).restore token fun _ => true).discharge token) := by
      unfold EmergencyHost.restore
      rw [hresult, h]
      exact (CanEnd.update fun _ => rfl).bind
        ((CanEnd.update fun _ => rfl).bind (CanEnd.ofExcept _))
    have hrecord : ∀ {u : World} (what : String),
        CanEnd (recordEmergencyRestore what) u (.ok ()) u :=
      fun what => CanEnd.durable_done fun _ => rfl
    unfold restoreAppliedJournalRecord
    simp only [Bool.false_eq_true, if_false]
    refine ⟨restoredOutcome (journalIds id action)
      (rollbackRestoreSummaryFromRegistryResult token result),
      (((w.restore token (host.undone token)).restore token fun _ => true).discharge
        token).setJournal .clean, hrestore.attempt.bind ?_, rfl, rfl⟩
    dsimp only
    rw [if_neg hclean]
    exact CanEnd.writeControllerJournalClean.bind
      ((hrecord _).bind ((hrecord _).bind (CanEnd.pure _)))

/-- A restorable journal can end in a reported success with only its own token
discharged. -/
theorem canEnd_restoreKnownAutotuneActions
    (h : EmergencyRestorable host dryRun w.journal) (hfresh : w.discharged = []) :
    ∃ outcome v, CanEnd (restoreKnownAutotuneActions host dryRun) w (.ok outcome) v ∧
      outcome.status.isSuccess = true ∧
      ∀ token ∈ v.discharged, ∃ r, w.journal = .content r ∧ r.outstandingToken = some token := by
  obtain ⟨r, hparsed, hcase⟩ := h
  have hread : CanEnd readControllerJournal w (.ok r) w :=
    hparsed ▸ CanEnd.durableRead_done fun _ => rfl
  have hnothing : ∀ token ∈ w.discharged, ∃ r, w.journal = .content r ∧
      r.outstandingToken = some token := by
    rw [hfresh]
    exact fun _ ht => nomatch ht
  obtain ⟨token, htoken, heq⟩ | ⟨-, -, heq | heq⟩ | ⟨hnone, hmutated, -⟩ :=
    restoreRecord_cases host dryRun r
  · obtain hidle | ⟨token', htoken', rfl, hdischarges⟩ := hcase
    · unfold ControllerJournalRecord.outstandingToken at htoken
      rw [if_neg (by simp [hidle])] at htoken
      cases htoken
    · cases htoken.symm.trans htoken'
      obtain ⟨outcome, v, hend, hsuccess, hlog⟩ := @canEnd_restoreAppliedJournalRecord host w token
        (journalExperimentAction r).1 (journalExperimentAction r).2 hdischarges
      refine ⟨outcome, v, hread.bind (heq ▸ hend), hsuccess, fun t ht => ?_⟩
      rw [hlog, hfresh] at ht
      cases List.mem_singleton.mp ht
      obtain ⟨-, rfl⟩ | hcontent := parseControllerJournal_eq_ok hparsed
      · cases htoken
      · exact ⟨r, hcontent, htoken⟩
  · exact ⟨_, w, hread.bind (heq ▸ CanEnd.pure _), rfl, hnothing⟩
  · have hclear : CanEnd (restoreRecord host dryRun r) w (.ok (noActiveAction host))
        (w.setJournal .clean) := by
      rw [heq]
      exact CanEnd.writeControllerJournalClean.bind (CanEnd.pure _)
    exact ⟨_, _, hread.bind hclear, rfl, hnothing⟩
  · obtain hidle | ⟨token, htoken, -⟩ := hcase
    · rw [hmutated] at hidle
      cases hidle
    · rw [hnone] at htoken
      cases htoken

/-- **A reported success of emergency restore covers every durable token exactly when
the ledger holds none but the journal's.**  Where the journal lets the command
succeed, each ledger entry must hold the token of the journal's unfinished action:
the ledger itself is not read. -/
theorem restoreKnownAutotuneActions_covers_iff (host : EmergencyHost) (dryRun : Bool)
    (journal : StoreFile ControllerJournalRecord) (ledger : StoreFile KeptLedger)
    (writes : List HostWrite) :
    (∀ io, EmergencyCovers host dryRun (World.startup journal ledger writes io)) ↔
      (EmergencyRestorable host dryRun journal → LedgerInJournal journal ledger) := by
  constructor
  · intro h hrestorable l e hl he
    obtain ⟨outcome, v, hend, hsuccess, hlog⟩ :=
      @canEnd_restoreKnownAutotuneActions host dryRun (World.startup journal ledger writes [])
        hrestorable rfl
    have hall : ∀ io, Holds (restoreKnownAutotuneActions host dryRun) (fun _ => True)
        (fun result w => ∀ outcome, result = .ok outcome → outcome.status.isSuccess = true →
          ∀ token, (World.startup journal ledger writes []).DurableToken token →
            token ∈ w.discharged)
        { World.startup journal ledger writes [] with io := io } := h
    exact hlog _ (hend.elim hall outcome rfl hsuccess _ (.inl ⟨l, hl, e, he, rfl⟩))
  · intro h io
    exact emergencyCovers_of_ledgerInJournal h

/-- A registry that restores every token it is given. -/
def willingHost : EmergencyHost where
  journalPath := "/home/user/.local/state/stutter/autotune/controller_journal.json"
  restoreToken token := .ok { restored := token.affectedTasks }
  previewToken token := .ok ⟨token.affectedTasks, "would restore"⟩
  undone _ _ := true
  manualRestoreCommand _ := "renice 0 -p 42"

/-- The ledger a stop left after it failed to restore one kept action. -/
def keptNiceLedger : KeptLedger :=
  ⟨keptLedgerSchemaVersion,
    [⟨"exp-1", "nice", "nice", .niceRestore [demotedRecord], none, none, 0⟩]⟩

/-- With a clean journal and a kept action in the ledger the command reports `Clean`,
and the kept action's token is not restored. -/
theorem restoreKnownAutotuneActions_misses_kept_action :
    ((restoreKnownAutotuneActions willingHost false).run
      (.startup .missing (.content keptNiceLedger) [.nice demotedRecord] [])).result =
        .ok (noActiveAction willingHost) ∧
    ((restoreKnownAutotuneActions willingHost false).run
      (.startup .missing (.content keptNiceLedger) [.nice demotedRecord] [])).state.writes =
        [.nice demotedRecord] ∧
    ¬ EmergencyCovers willingHost false
      (.startup .missing (.content keptNiceLedger) [.nice demotedRecord] []) := by
  refine ⟨rfl, rfl, fun h => ?_⟩
  have := h.2 (noActiveAction willingHost) rfl rfl (.niceRestore [demotedRecord])
    (.inl ⟨keptNiceLedger, rfl, _, List.mem_singleton.mpr rfl, rfl⟩)
  cases this

end Covers
end Stutter

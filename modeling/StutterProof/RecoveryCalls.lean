import StutterProof.RecoveryDischarge
import StutterProof.SoundStores

/-! # The calls of a startup recovery

Which tokens a recovery rolls back when no durable access fails: the ledger's, in their
order, and then the token of the journal's unfinished record, unless an entry of the
ledger had it and the record was cleared with the entry.  The executor's calls that
succeed are the tokens it has discharged. -/
namespace Stutter
open Fallible

/-- The token the journal's record names. -/
def notedToken (journal : StoreFile ControllerJournalRecord) : Option RollbackToken :=
  match parseControllerJournal journal with
  | .ok record => record.rollbackToken
  | .error _ => none

/-- The token of the journal's unfinished record. -/
def unfinishedToken (journal : StoreFile ControllerJournalRecord) : Option RollbackToken :=
  match parseControllerJournal journal with
  | .ok record => record.outstandingToken
  | .error _ => none

theorem notedToken_of_unfinished {journal : StoreFile ControllerJournalRecord}
    {token : RollbackToken} (h : unfinishedToken journal = some token) :
    notedToken journal = some token := by
  unfold unfinishedToken at h
  unfold notedToken
  cases hread : parseControllerJournal journal with
  | error e =>
    rw [hread] at h
    cases h
  | ok record =>
    rw [hread] at h
    exact ControllerJournalRecord.rollbackToken_of_outstandingToken h

/-- The journal once the entries of these tokens were recovered. -/
def journalAfter (tokens : List RollbackToken) (journal : StoreFile ControllerJournalRecord) :
    StoreFile ControllerJournalRecord :=
  if ∃ token ∈ tokens, notedToken journal = some token then .content .clean else journal

theorem journalAfter_nil (journal : StoreFile ControllerJournalRecord) :
    journalAfter [] journal = journal := by
  unfold journalAfter
  simp

/-- A record that was cleared names no further token. -/
theorem journalAfter_cons (token : RollbackToken) (tokens : List RollbackToken)
    (journal : StoreFile ControllerJournalRecord) :
    journalAfter tokens (journalAfter [token] journal) =
      journalAfter (token :: tokens) journal := by
  unfold journalAfter
  by_cases hnoted : notedToken journal = some token
  · have hclean : ¬ ∃ other ∈ tokens, notedToken (.content .clean) = some other := by
      rintro ⟨other, -, hother⟩
      cases hother
    simp [hnoted, hclean]
  · simp [hnoted]

section Sound
variable {config : StartupRecoveryConfig} {host : StartupHost} {w : World}

open Op

theorem holds_recordRecovery_sound {what : String} {Q : Except AnyError Unit → World → Prop}
    (hw : w.Sound) (h : Q (.ok ()) w.drawn) : Holds (recordRecovery what) (fun _ => True) Q w :=
  holds_durable_sound hw h

/-- The frame of the steps that follow a restore. -/
structure RecoveryFrame (before w : World) : Prop where
  sound : w.Sound
  discharged : w.discharged = before.discharged

/-- The records of an outcome. -/
theorem holds_recordOutcome_sound {outcome : StartupRecoveryOutcome} {before : World}
    (hw : RecoveryFrame before w) :
    Holds (do
      recordRecovery "audit event"
      recordRecovery "history event"
      recordRecovery "daemon state snapshot"
      return outcome : WorldOp StartupRecoveryOutcome) (fun _ => True)
      (fun r v => r = .ok outcome ∧ RecoveryFrame before v ∧ v.journal = w.journal) w := by
  rw [holds_bind]
  refine holds_recordRecovery_sound hw.sound ?_
  dsimp only
  rw [holds_bind]
  refine holds_recordRecovery_sound hw.sound.drawn ?_
  dsimp only
  rw [holds_bind]
  refine holds_recordRecovery_sound hw.sound.drawn.drawn ?_
  exact holds_pure.mpr ⟨rfl, ⟨hw.sound.drawn.drawn.drawn, hw.discharged⟩, rfl⟩

variable {token : RollbackToken}

/-- A token that the registry restores, or whose file is gone. -/
theorem StartupHost.answers_of_restored
    (hrestored : (host.restoreFileGone token || match host.registry token with
      | .ok result => result.classify == .restored
      | .error _ => false) = true) :
    ∃ summary, (do
      if host.restoreFileGone token then
        return ⟨0, s!"rollback_kind={token.kind} restore file is gone: already restored"⟩
      let result ← (host.registry token).mapError (AnyError.context
        s!"startup crash recovery failed to restore rollback token_kind={token.kind}")
      return startupRecoverySummaryFromRollbackResult token result :
        Except AnyError StartupRecoveryRollbackSummary) = .ok summary := by
  by_cases hgone : host.restoreFileGone token = true
  · exact ⟨_, if_pos hgone⟩
  · rw [if_neg hgone]
    cases hanswer : host.registry token with
    | error e => simp [hgone, hanswer] at hrestored
    | ok result => exact ⟨_, rfl⟩

/-- What was discharged was answered well. -/
theorem StartupHost.answers_of_discharges (h : host.discharges token = true) :
    ∃ summary, host.rollbackAnswer token = .ok summary := by
  unfold StartupHost.discharges at h
  obtain ⟨hgate, hrestored⟩ := Bool.and_eq_true_iff.mp h
  have hgated := eq_ok_of_isOk hgate
  unfold StartupHost.rollbackAnswer
  rw [hgated]
  cases hworker : host.worker with
  | none =>
    rw [hworker] at hrestored
    exact StartupHost.answers_of_restored hrestored
  | some restoreThroughWorker =>
    rw [hworker] at hrestored
    by_cases hprivileged : needsPrivilegedRestore token = true
    · rw [hprivileged] at hrestored
      cases hanswer : restoreThroughWorker token with
      | error e => simp [hanswer, Except.isOk, Except.toBool] at hrestored
      | ok restored =>
        simp only [bind, Except.bind, hprivileged, if_true, hanswer]
        exact ⟨_, rfl⟩
    · have hnot : needsPrivilegedRestore token = false := by simpa using hprivileged
      rw [hnot] at hrestored
      simp only [bind, Except.bind, hnot, Bool.false_eq_true, if_false]
      exact StartupHost.answers_of_restored hrestored

/-- The executor, behind the gate: what it discharged, and an answer if it did. -/
theorem holds_authorizedRollback_sound (hw : w.Sound) :
    Holds (do ofExcept (requireAutomaticRecovery token); host.rollback token :
        WorldOp StartupRecoveryRollbackSummary) (fun _ => True)
      (fun r v => v.Sound ∧ v.journal = w.journal ∧
        v.discharged = w.discharged ++ newlyDischarged host token ∧
        (host.discharges token = true → ∃ summary, r = .ok summary)) w := by
  rw [holds_bind, holds_ofExcept]
  cases hgate : requireAutomaticRecovery token with
  | error e =>
    have hnot : host.discharges token = false := by
      unfold StartupHost.discharges
      rw [hgate]
      rfl
    refine ⟨hw, rfl, ?_, ?_⟩
    · unfold newlyDischarged
      rw [if_neg (by simp [hnot]), List.append_nil]
    · intro hyes
      rw [hnot] at hyes
      cases hyes
  | ok _ =>
    dsimp only
    rw [StartupHost.rollback, holds_bind, holds_update]
    refine ⟨trivial, ?_⟩
    unfold newlyDischarged
    by_cases hdischarges : host.discharges token = true
    · rw [if_pos hdischarges, if_pos hdischarges]
      dsimp only
      rw [holds_bind, holds_update]
      refine ⟨trivial, holds_ofExcept.mpr ⟨hw.of_eq rfl rfl, rfl, rfl, fun _ => ?_⟩⟩
      exact host.answers_of_discharges hdischarges
    · rw [if_neg hdischarges, if_neg hdischarges]
      dsimp only
      refine holds_ofExcept.mpr ⟨hw.of_eq rfl rfl, rfl, ?_, fun h => absurd h hdischarges⟩
      rw [List.append_nil]
      rfl

theorem holds_journalNamesToken_sound {Q : Except AnyError Bool → World → Prop}
    (hw : w.Sound) (h : Q (.ok (decide (notedToken w.journal = some token))) w.drawn) :
    Holds (journalNamesToken token) (fun _ => True) Q w := by
  rw [journalNamesToken, holds_bind, holds_attempt]
  unfold readControllerJournal
  refine holds_durableRead_sound hw ?_
  unfold notedToken at h
  cases hread : parseControllerJournal w.journal with
  | error e =>
    rw [hread] at h
    exact holds_pure.mpr h
  | ok record =>
    rw [hread] at h
    dsimp only at h ⊢
    refine holds_pure.mpr ?_
    rw [beq_eq_decide]
    exact h

/-- One restore: the token is discharged or not; if it is, the record that names it goes. -/
theorem holds_recoverApplied_sound {id : ExperimentId} {action : ActionId}
    {source : RecoverySource} (hon : config.rollbackOnCrashRecovery = true) (hw : w.Sound) :
    Holds (recoverAppliedJournalRecord config host id action token source) (fun _ => True)
      (fun r v => v.Sound ∧ (∃ outcome, r = .ok outcome) ∧
        v.discharged = w.discharged ++ newlyDischarged host token ∧
        (host.discharges token = true → source = .ledger →
          v.journal = journalAfter [token] w.journal))
      w := by
  rw [recoverAppliedJournalRecord, if_neg (by simp [hon]), holds_bind, holds_attempt]
  refine (holds_authorizedRollback_sound hw).mono (fun _ h => h) ?_
  rintro (e | summary) v ⟨hv, hjournal, hdischarged, hanswered⟩
  · refine (holds_recordOutcome_sound ⟨hv, rfl⟩).mono (fun _ h => h) ?_
    rintro r u ⟨hok, hframe, -⟩
    refine ⟨hframe.sound, ⟨_, hok⟩, hframe.discharged.trans hdischarged, fun hdischarges => ?_⟩
    obtain ⟨summary, hbad⟩ := hanswered hdischarges
    cases hbad
  · dsimp only
    rw [holds_bind]
    refine holds_journalNamesToken_sound hv ?_
    -- the entry is retired and the outcome reported, over the journal as it stands
    have hrest : ∀ u : World, u.Sound → u.discharged = v.discharged →
        (source = .ledger → u.journal = journalAfter [token] w.journal) →
        Holds (do
          retireKept id
          recordRecovery "audit event"
          recordRecovery "history event"
          recordRecovery "daemon state snapshot"
          return .recovered id action summary.affectedTasks (manualRestoreText host token) :
            WorldOp StartupRecoveryOutcome) (fun _ => True)
          (fun r v => v.Sound ∧ (∃ outcome, r = .ok outcome) ∧
            v.discharged = w.discharged ++ newlyDischarged host token ∧
            (host.discharges token = true → source = .ledger →
              v.journal = journalAfter [token] w.journal)) u := by
      intro u hu hsame hcleared
      rw [holds_bind]
      refine holds_retireKept_sound hu fun x hx hbecomes => ?_
      refine (holds_recordOutcome_sound ⟨hx, rfl⟩).mono (fun _ h => h) ?_
      rintro r y ⟨hok, hframe, hkept⟩
      refine ⟨hframe.sound, ⟨_, hok⟩, ?_, fun _ hledger => ?_⟩
      · rw [hframe.discharged, hbecomes.discharged, hsame]
        exact hdischarged
      · rw [hkept, hbecomes.journal]
        exact hcleared hledger
    dsimp only
    by_cases hclear : (source == .journal || decide (notedToken v.journal = some token)) = true
    · rw [if_pos hclear, holds_bind]
      unfold writeControllerJournalClean writeControllerJournalRecord
      refine holds_durable_sound hv.drawn (hrest _ (hv.drawn.drawn.setJournal _) rfl ?_)
      rintro rfl
      rw [hjournal] at hclear
      have hnoted : notedToken w.journal = some token := by simpa using hclear
      unfold journalAfter
      rw [if_pos ⟨token, List.mem_singleton.mpr rfl, hnoted⟩]
      rfl
    · rw [if_neg hclear]
      refine hrest _ hv.drawn rfl ?_
      rintro rfl
      rw [hjournal] at hclear
      have hnoted : notedToken w.journal ≠ some token := by simpa using hclear
      unfold journalAfter
      rw [if_neg (by simp [hnoted])]
      exact hjournal

/-- The ledger's entries, all of which are restored. -/
theorem holds_recoverEntries_sound {hosts : Nat → StartupHost} {n : Nat}
    {entries : List KeptLedgerEntry} (hon : config.rollbackOnCrashRecovery = true)
    (hhosts : ∀ n, ∀ entry ∈ entries, (hosts n).discharges entry.rollbackToken = true)
    (hw : w.Sound) :
    Holds (recoverEntries config hosts n entries) (fun _ => True)
      (fun r v => v.Sound ∧ (∃ outcomes, r = .ok outcomes) ∧
        v.discharged = w.discharged ++ entries.map (·.rollbackToken) ∧
        v.journal = journalAfter (entries.map (·.rollbackToken)) w.journal) w := by
  induction entries generalizing w n with
  | nil =>
    refine holds_ret.mpr ⟨hw, ⟨_, rfl⟩, ?_, (journalAfter_nil _).symm⟩
    rw [List.map_nil, List.append_nil]
  | cons entry entries ih =>
    have hdischarges := hhosts n entry (List.mem_cons_self ..)
    rw [recoverEntries]
    refine (holds_recoverApplied_sound hon hw).bind ?_ ?_
    · rintro outcome v ⟨hv, -, hdischarged, hjournal⟩
      refine (ih (fun n e he => hhosts n e (List.mem_cons_of_mem _ he)) hv).bind ?_ ?_
      · rintro outcomes u ⟨hu, -, hall, hafter⟩
        refine holds_pure.mpr ⟨hu, ⟨_, rfl⟩, ?_, ?_⟩
        · rw [hall, hdischarged, newlyDischarged, if_pos hdischarges, List.append_assoc]
          rfl
        · rw [hafter, hjournal hdischarges rfl]
          exact journalAfter_cons ..
      · rintro e u ⟨-, ⟨_, hok⟩, -⟩
        cases hok
    · rintro e v ⟨-, ⟨_, hok⟩, -⟩
      cases hok

/-- The journal's record: the unfinished token is discharged or not, and nothing else is. -/
theorem holds_recoverJournalRecord_sound (hon : config.rollbackOnCrashRecovery = true)
    (hw : w.Sound) :
    Holds (recoverJournalRecord config host) (fun _ => True)
      (fun _ v => v.discharged = w.discharged ++
        (unfinishedToken w.journal).elim [] (newlyDischarged host)) w := by
  rw [recoverJournalRecord, holds_bind]
  unfold readControllerJournal
  refine holds_durableRead_sound hw ?_
  unfold unfinishedToken
  cases parseControllerJournal w.journal with
  | error e =>
    show w.drawn.discharged = w.discharged ++ []
    rw [List.append_nil]
    rfl
  | ok record =>
    dsimp only
    have hnothing : w.drawn.discharged = w.discharged ++ [] := by
      rw [List.append_nil]
      rfl
    rcases recoverRecord_cases host record with ⟨token, houtstanding, hrecord⟩ | ⟨hnone, hrecord⟩
    · rw [hrecord, houtstanding]
      refine (holds_recoverApplied_sound hon hw.drawn).mono (fun _ h => h) ?_
      rintro r v ⟨-, -, hdischarged, -⟩
      exact hdischarged
    · rw [hnone]
      rcases hrecord with hrecord | hrecord | ⟨outcome, hrecord⟩
      · rw [hrecord]
        exact holds_ret.mpr hnothing
      · rw [hrecord, holds_bind]
        unfold writeControllerJournalClean writeControllerJournalRecord
        exact holds_durable_sound hw.drawn (holds_pure.mpr hnothing)
      · rw [hrecord, holds_bind]
        exact holds_recordRecovery_sound hw.drawn (holds_pure.mpr hnothing)

/-- **The calls of a recovery.**  The ledger's tokens, and then the unfinished token of the journal,
if no entry had it. -/
theorem holds_recoverControllerJournal_sound {hosts : Nat → StartupHost}
    (hon : config.rollbackOnCrashRecovery = true)
    (hhosts : ∀ n, ∀ entry ∈ w.ledgerEntries, (hosts n).discharges entry.rollbackToken = true)
    (hw : w.Sound) :
    Holds (recoverControllerJournal config hosts) (fun _ => True)
      (fun _ v => ∃ n, v.discharged = w.discharged ++ w.ledgerEntries.map (·.rollbackToken) ++
        (unfinishedToken (journalAfter (w.ledgerEntries.map (·.rollbackToken)) w.journal)).elim []
          (newlyDischarged (hosts n))) w := by
  obtain ⟨ledger, hread⟩ := hw.ledger
  obtain ⟨hentries, -⟩ := parseKeptLedger_eq_ok hread
  have hkept : Holds (recoverKeptLedger config hosts) (fun _ => True)
      (fun r v => v.Sound ∧ (∃ outcomes, r = .ok outcomes) ∧
        v.discharged = w.discharged ++ w.ledgerEntries.map (·.rollbackToken) ∧
        v.journal = journalAfter (w.ledgerEntries.map (·.rollbackToken)) w.journal) w := by
    rw [recoverKeptLedger, holds_bind]
    unfold readKeptLedger
    refine holds_durableRead_sound hw ?_
    rw [hread]
    dsimp only
    rw [hentries]
    refine (holds_recoverEntries_sound hon hhosts hw.drawn).mono (fun _ h => h) ?_
    exact fun r v hv => hv
  rw [recoverControllerJournal]
  refine hkept.bind ?_ ?_
  · rintro kept v ⟨hv, -, hdischarged, hjournal⟩
    refine (holds_recoverJournalRecord_sound hon hv).bind ?_ ?_
    · intro outcome u hu
      refine holds_pure.mpr ⟨kept.length, ?_⟩
      rw [hu, hdischarged, hjournal]
    · intro e u hu
      refine ⟨kept.length, ?_⟩
      rw [hu, hdischarged, hjournal]
  · rintro e v ⟨-, ⟨_, hok⟩, -⟩
    cases hok

end Sound
end Stutter

import StutterProof.ExecutorCalls

/-! # A startup recovery restores once

What a recovery calls and leaves, when both stores can be read and no durable access fails.  The
ledger's entries are restored in their order, and then the journal's unfinished token, unless an
entry that was restored had it.  A token that recovery may not restore on its own is refused before
the executor. -/
namespace Stutter.ExecutorCalls
open Fallible

/-- The restore of the token is authorized, and the executor's call succeeds. -/
def restored (executor : RecoveryExecutor) (token : RollbackToken) : Bool :=
  (requireAutomaticRecovery token).isOk && (executor.rollback token).isOk

/-- The call made for a token: none without authorization. -/
def callsFor (executor : RecoveryExecutor) (token : RollbackToken) : List Call :=
  if (requireAutomaticRecovery token).isOk then [(token, executor.rollback token)] else []

open Op

section Sound
variable {w : World} {config : StartupRecoveryConfig} {executor : RecoveryExecutor} {s : Recovery}

theorem holds_onStores {α : Type} {op : WorldOp α} {Q : Except AnyError α → Recovery → Prop}
    (h : Holds op (fun _ => True) (fun r v => Q r (s.onWorld v)) s.world) :
    Holds (onStores op) (fun _ => True) Q s :=
  holds_zoom.mpr h

/-- A restore that failed leaves the stores. -/
theorem holds_settleFailed {outcome : StartupRecoveryOutcome} (hw : w.Sound) :
    Holds (settleFailed outcome) (fun _ => True) (fun r v => r = .ok outcome ∧ v.Sound ∧
      v.journal = w.journal ∧ v.ledgerEntries = w.ledgerEntries) w := by
  unfold settleFailed
  rw [holds_bind]
  refine holds_recordRecovery_sound hw ?_
  dsimp only
  rw [holds_bind]
  refine holds_recordRecovery_sound hw.drawn ?_
  dsimp only
  rw [holds_bind]
  refine holds_recordRecovery_sound hw.drawn.drawn ?_
  exact holds_pure.mpr ⟨rfl, hw.drawn.drawn.drawn, rfl, rfl⟩

/-- The journal after a restore: its own record is cleared, an entry's if it names the same
token. -/
def journalSettled (source : RecoverySource) (token : RollbackToken)
    (journal : StoreFile ControllerJournalRecord) : StoreFile ControllerJournalRecord :=
  match source with
  | .journal => .content .clean
  | .ledger => journalAfter [token] journal

/-- A restore that succeeded clears the record and retires the experiment. -/
theorem holds_settleRestored {id : ExperimentId} {token : RollbackToken} {source : RecoverySource}
    {outcome : StartupRecoveryOutcome} (hw : w.Sound) :
    Holds (settleRestored id token source outcome) (fun _ => True) (fun r v => r = .ok outcome ∧
      v.Sound ∧ v.journal = journalSettled source token w.journal ∧
      v.ledgerEntries = w.ledgerEntries.filter fun e => e.experimentId ≠ id) w := by
  have hrest : ∀ u : World, u.Sound → u.journal = journalSettled source token w.journal →
      u.ledgerEntries = w.ledgerEntries →
      Holds (do retireKept id; settleFailed outcome : WorldOp StartupRecoveryOutcome)
        (fun _ => True)
        (fun r v => r = .ok outcome ∧ v.Sound ∧ v.journal = journalSettled source token w.journal ∧
          v.ledgerEntries = w.ledgerEntries.filter fun e => e.experimentId ≠ id) u := by
    intro u hu hjournal hentries
    rw [holds_bind]
    refine holds_retireKept_sound hu fun x hx hbecomes => ?_
    refine (holds_settleFailed hx).mono (fun _ h => h) ?_
    rintro r y ⟨hok, hy, hkept, hleft⟩
    refine ⟨hok, hy, ?_, ?_⟩
    · rw [hkept, hbecomes.journal, hjournal]
    · rw [hleft, hbecomes.entries, hentries]
  unfold settleRestored
  rw [holds_bind]
  refine holds_journalNamesToken_sound hw ?_
  dsimp only
  by_cases hclear : (source == .journal || decide (notedToken w.journal = some token)) = true
  · rw [if_pos hclear, holds_bind]
    unfold writeControllerJournalClean writeControllerJournalRecord
    refine holds_durable_sound hw.drawn (hrest _ (hw.drawn.drawn.setJournal _) ?_ rfl)
    cases source with
    | journal => rfl
    | ledger =>
      have hnoted : notedToken w.journal = some token := by simpa using hclear
      unfold journalSettled journalAfter
      rw [if_pos ⟨token, List.mem_singleton.mpr rfl, hnoted⟩]
      rfl
  · rw [if_neg hclear]
    refine hrest _ hw.drawn ?_ rfl
    cases source with
    | journal => exact absurd rfl hclear
    | ledger =>
      have hnoted : notedToken w.journal ≠ some token := by simpa using hclear
      unfold journalSettled journalAfter
      rw [if_neg (by simp [hnoted])]
      rfl

/-- What one restore does. -/
structure RestoreSpec (executor : RecoveryExecutor) (id : ExperimentId) (token : RollbackToken)
    (source : RecoverySource) (s : Recovery) (r : Except AnyError StartupRecoveryOutcome)
    (t : Recovery) : Prop where
  sound : t.world.Sound
  calls : t.calls = s.calls ++ callsFor executor token
  outcome : ∃ outcome, r = .ok outcome ∧ outcome.isFaulted = !restored executor token
  failed : restored executor token = false → t.world.journal = s.world.journal ∧
    t.world.ledgerEntries = s.world.ledgerEntries
  settled : restored executor token = true →
    t.world.journal = journalSettled source token s.world.journal ∧
    t.world.ledgerEntries = s.world.ledgerEntries.filter fun e => e.experimentId ≠ id

/-- **One restore.** -/
theorem holds_recoverAppliedJournalRecord {id : ExperimentId} {action : ActionId}
    {token : RollbackToken} {source : RecoverySource} (hon : config.rollbackOnCrashRecovery = true)
    (hs : s.world.Sound) :
    Holds (recoverAppliedJournalRecord config executor id action token source) (fun _ => True)
      (RestoreSpec executor id token source s) s := by
  have hfailed : ∀ (t : Recovery) (outcome : StartupRecoveryOutcome), t.world = s.world →
      t.calls = s.calls ++ callsFor executor token → restored executor token = false →
      outcome.isFaulted = true →
      Holds (onStores (settleFailed outcome)) (fun _ => True)
        (RestoreSpec executor id token source s) t := by
    intro t outcome hworld hcalls hnot hfaulted
    refine holds_onStores ?_
    rw [hworld]
    refine (holds_settleFailed hs).mono (fun _ h => h) ?_
    rintro r v ⟨hok, hv, hjournal, hentries⟩
    exact ⟨hv, hcalls, ⟨outcome, hok, by rw [hfaulted, hnot]; rfl⟩, fun _ => ⟨hjournal, hentries⟩,
      fun hyes => absurd hyes (by simp [hnot])⟩
  unfold recoverAppliedJournalRecord
  rw [if_neg (by simp [hon]), holds_bind, holds_attempt, holds_bind, holds_ofExcept]
  cases hgate : requireAutomaticRecovery token with
  | error e =>
    refine hfailed s _ rfl ?_ ?_ rfl
    · simp [callsFor, hgate, Except.isOk, Except.toBool]
    · simp [restored, hgate, Except.isOk, Except.toBool]
  | ok done =>
    have hcalls : callsFor executor token = [(token, executor.rollback token)] := by
      simp [callsFor, hgate, Except.isOk, Except.toBool]
    unfold callExecutor
    rw [holds_act]
    refine ⟨trivial, ?_⟩
    cases hanswer : executor.rollback token with
    | error e =>
      refine hfailed _ _ rfl (by rw [hcalls, hanswer]) ?_ rfl
      simp [restored, hanswer, Except.isOk, Except.toBool]
    | ok summary =>
      have hyes : restored executor token = true := by
        simp [restored, hgate, hanswer, Except.isOk, Except.toBool]
      refine holds_onStores ((holds_settleRestored hs).mono (fun _ h => h) ?_)
      rintro r v ⟨hok, hv, hjournal, hentries⟩
      refine ⟨hv, ?_, ⟨_, hok, ?_⟩, fun hnot => absurd hnot (by simp [hyes]),
        fun _ => ⟨hjournal, hentries⟩⟩
      · rw [hcalls, hanswer]
        rfl
      · rw [hyes]
        rfl

end Sound

/-! ## The ledger -/

section Ledger
variable (executors : Nat → RecoveryExecutor)

/-- The entries with the numbers of their restores, of which the first is `n`. -/
def attempts (n : Nat) (entries : List KeptLedgerEntry) : List (KeptLedgerEntry × Nat) :=
  entries.zipIdx n

def attemptRestored (attempt : KeptLedgerEntry × Nat) : Bool :=
  restored (executors attempt.2) attempt.1.rollbackToken

def restoredEntries (n : Nat) (entries : List KeptLedgerEntry) : List KeptLedgerEntry :=
  ((attempts n entries).filter (attemptRestored executors)).map (·.1)

def ledgerCalls (n : Nat) (entries : List KeptLedgerEntry) : List Call :=
  (attempts n entries).flatMap fun attempt => callsFor (executors attempt.2) attempt.1.rollbackToken

/-- No entry of the experiment was restored. -/
def Unrestored (n : Nat) (entries : List KeptLedgerEntry) (id : ExperimentId) : Prop :=
  ∀ entry ∈ restoredEntries executors n entries, entry.experimentId ≠ id

variable {executors} {n : Nat} {entry : KeptLedgerEntry} {entries : List KeptLedgerEntry}

theorem restoredEntries_cons_pos (h : restored (executors n) entry.rollbackToken = true) :
    restoredEntries executors n (entry :: entries) =
      entry :: restoredEntries executors (n + 1) entries := by
  have hfirst : attemptRestored executors (entry, n) = true := h
  unfold restoredEntries attempts
  rw [List.zipIdx_cons, List.filter_cons_of_pos hfirst]
  rfl

theorem restoredEntries_cons_neg (h : restored (executors n) entry.rollbackToken = false) :
    restoredEntries executors n (entry :: entries) = restoredEntries executors (n + 1) entries := by
  unfold restoredEntries attempts
  rw [List.zipIdx_cons, List.filter_cons_of_neg (by simp [attemptRestored, h])]

theorem mem_restoredEntries {e : KeptLedgerEntry} : e ∈ restoredEntries executors n entries ↔
    ∃ k, (e, k) ∈ attempts n entries ∧ restored (executors k) e.rollbackToken = true := by
  unfold restoredEntries
  rw [List.mem_map]
  constructor
  · rintro ⟨⟨found, k⟩, hmem, rfl⟩
    obtain ⟨hattempt, hrestored⟩ := List.mem_filter.mp hmem
    exact ⟨k, hattempt, hrestored⟩
  · rintro ⟨k, hattempt, hrestored⟩
    exact ⟨(e, k), List.mem_filter.mpr ⟨hattempt, hrestored⟩, rfl⟩

/-- What the restores of the entries do. -/
structure LedgerSpec (executors : Nat → RecoveryExecutor) (n : Nat) (entries : List KeptLedgerEntry)
    (s : Recovery) (r : Except AnyError (List StartupRecoveryOutcome)) (t : Recovery) : Prop where
  sound : t.world.Sound
  calls : t.calls = s.calls ++ ledgerCalls executors n entries
  outcomes : ∃ outcomes, r = .ok outcomes ∧ outcomes.length = entries.length ∧
    ((∃ o ∈ outcomes, o.isFaulted = true) ↔
      ∃ attempt ∈ attempts n entries, attemptRestored executors attempt = false)
  journal : t.world.journal =
    journalAfter ((restoredEntries executors n entries).map (·.rollbackToken)) s.world.journal
  left : ∀ e, e ∈ t.world.ledgerEntries ↔
    e ∈ s.world.ledgerEntries ∧ Unrestored executors n entries e.experimentId

variable {config : StartupRecoveryConfig} {s : Recovery}

/-- **The ledger's restores.** -/
theorem holds_recoverEntries (hon : config.rollbackOnCrashRecovery = true) (hs : s.world.Sound) :
    Holds (recoverEntries config executors n entries) (fun _ => True)
      (LedgerSpec executors n entries s) s := by
  induction entries generalizing n s with
  | nil =>
    refine holds_ret.mpr ⟨hs, (List.append_nil _).symm, ⟨[], rfl, rfl, ?_⟩,
      (journalAfter_nil _).symm, fun e => ?_⟩
    · simp [attempts]
    · exact (and_iff_left (by simp [Unrestored, restoredEntries, attempts])).symm
  | cons entry entries ih =>
    rw [recoverEntries]
    refine (holds_recoverAppliedJournalRecord hon hs).bind ?_ ?_
    · intro outcome t hentry
      obtain ⟨_, hok, hfault⟩ := hentry.outcome
      cases hok
      refine (ih hentry.sound).bind ?_ ?_
      · intro outcomes u hrest
        obtain ⟨_, hok, hlength, hfaults⟩ := hrest.outcomes
        cases hok
        refine holds_pure.mpr ⟨hrest.sound, ?_, ⟨outcome :: outcomes, rfl, ?_, ?_⟩, ?_,
          fun e => ?_⟩
        · rw [hrest.calls, hentry.calls, List.append_assoc]
          rfl
        · rw [List.length_cons, List.length_cons, hlength]
        · have hhead : outcome.isFaulted = true ↔ attemptRestored executors (entry, n) = false := by
            rw [hfault, attemptRestored]
            cases restored (executors n) entry.rollbackToken <;> simp
          unfold attempts at hfaults ⊢
          rw [List.exists_mem_cons_iff, List.zipIdx_cons, List.exists_mem_cons_iff, hhead, hfaults]
        · rw [hrest.journal]
          cases hrestored : restored (executors n) entry.rollbackToken with
          | true =>
            rw [(hentry.settled hrestored).1, restoredEntries_cons_pos hrestored, List.map_cons]
            exact journalAfter_cons ..
          | false =>
            rw [(hentry.failed hrestored).1, restoredEntries_cons_neg hrestored]
        · rw [hrest.left]
          unfold Unrestored
          cases hrestored : restored (executors n) entry.rollbackToken with
          | true =>
            rw [(hentry.settled hrestored).2, restoredEntries_cons_pos hrestored, List.mem_filter,
              List.forall_mem_cons, and_assoc]
            simp only [decide_eq_true_eq, ne_comm]
          | false =>
            rw [(hentry.failed hrestored).2, restoredEntries_cons_neg hrestored]
      · intro e u hrest
        obtain ⟨_, hok, -⟩ := hrest.outcomes
        cases hok
    · intro e t hentry
      obtain ⟨_, hok, -⟩ := hentry.outcome
      cases hok

end Ledger

/-! ## The journal -/

section Journal
variable {config : StartupRecoveryConfig} {executor : RecoveryExecutor} {s : Recovery}

/-- The experiment that a restore of the journal's token retires. -/
def journalExperiment (journal : StoreFile ControllerJournalRecord) : Option ExperimentId :=
  (parseControllerJournal journal).toOption.map fun record => (journalExperimentAction record).1

/-- The journal's unfinished token is restored, and the experiment is its. -/
def JournalRetires (executor : RecoveryExecutor) (journal : StoreFile ControllerJournalRecord)
    (id : ExperimentId) : Prop :=
  (∃ token, unfinishedToken journal = some token ∧ restored executor token = true) ∧
    journalExperiment journal = some id

variable (config executor) in
/-- What recovery does with a record: it restores the unfinished token, or nothing. -/
theorem recoverRecord_cases (record : ControllerJournalRecord) :
    (∃ token, record.outstandingToken = some token ∧ recoverRecord config executor record =
      recoverAppliedJournalRecord config executor (journalExperimentAction record).1
        (journalExperimentAction record).2 token .journal) ∨
    (record.outstandingToken = none ∧ (recoverRecord config executor record = pure .clean ∨
      recoverRecord config executor record =
        (do onStores writeControllerJournalClean; return .clean) ∨
      recoverRecord config executor record = (do
        onStores (recordRecovery "daemon state snapshot")
        return .applyingWithoutRollback (journalExperimentAction record).1
          (journalExperimentAction record).2))) := by
  unfold recoverRecord ControllerJournalRecord.outstandingToken
    ControllerJournalRecord.mayHaveMutatedSystem
  cases record.state with
  | clean => exact .inr ⟨rfl, .inl rfl⟩
  | planned | preflighted | reverted => exact .inr ⟨rfl, .inr (.inl rfl)⟩
  | applying | applied | verifying | measuring | keeping | reverting | faulted =>
    cases record.rollbackToken with
    | none => exact .inr ⟨rfl, .inr (.inr rfl)⟩
    | some token => exact .inl ⟨token, rfl, rfl⟩

/-- What the restore of the journal does. -/
structure JournalSpec (executor : RecoveryExecutor) (s : Recovery)
    (r : Except AnyError StartupRecoveryOutcome) (t : Recovery) : Prop where
  sound : t.world.Sound
  readable : (parseControllerJournal t.world.journal).isOk = true
  calls : t.calls = s.calls ++ (unfinishedToken s.world.journal).elim [] (callsFor executor)
  outcome : ∃ outcome, r = .ok outcome ∧ (outcome.isFaulted = true ↔
    ∃ token, unfinishedToken s.world.journal = some token ∧ restored executor token = false)
  token : unfinishedToken t.world.journal =
    (unfinishedToken s.world.journal).filter fun token => !restored executor token
  left : ∀ e, e ∈ t.world.ledgerEntries ↔
    e ∈ s.world.ledgerEntries ∧ ¬JournalRetires executor s.world.journal e.experimentId

theorem unfinishedToken_of_parse {journal : StoreFile ControllerJournalRecord}
    {record : ControllerJournalRecord} (h : parseControllerJournal journal = .ok record) :
    unfinishedToken journal = record.outstandingToken := by
  rw [unfinishedToken, h]

theorem journalExperiment_of_parse {journal : StoreFile ControllerJournalRecord}
    {record : ControllerJournalRecord} (h : parseControllerJournal journal = .ok record) :
    journalExperiment journal = some (journalExperimentAction record).1 := by
  rw [journalExperiment, h]
  rfl

/-- A record without an unfinished token: nothing is called, and the ledger stays. -/
theorem JournalSpec.idle {t : Recovery} {outcome : StartupRecoveryOutcome}
    (hnone : unfinishedToken s.world.journal = none) (hsound : t.world.Sound)
    (hcalls : t.calls = s.calls) (hledger : t.world.ledgerEntries = s.world.ledgerEntries)
    (hreadable : (parseControllerJournal t.world.journal).isOk = true)
    (htoken : unfinishedToken t.world.journal = none) (hfault : outcome.isFaulted = false) :
    JournalSpec executor s (.ok outcome) t where
  sound := hsound
  readable := hreadable
  calls := by rw [hnone, hcalls]; exact (List.append_nil _).symm
  outcome := ⟨outcome, rfl, by simp [hfault, hnone]⟩
  token := by rw [htoken, hnone]; rfl
  left e := by
    rw [hledger]
    refine (and_iff_left ?_).symm
    rintro ⟨⟨token, htoken, -⟩, -⟩
    rw [hnone] at htoken
    cases htoken

/-- **The journal's restore.** -/
theorem holds_recoverJournalRecord (hon : config.rollbackOnCrashRecovery = true)
    (hs : s.world.Sound) (hreadable : (parseControllerJournal s.world.journal).isOk = true) :
    Holds (recoverJournalRecord config executor) (fun _ => True) (JournalSpec executor s) s := by
  obtain ⟨record, hread⟩ : ∃ record, parseControllerJournal s.world.journal = .ok record := by
    cases hparse : parseControllerJournal s.world.journal with
    | ok record => exact ⟨record, rfl⟩
    | error e =>
      rw [hparse] at hreadable
      cases hreadable
  rw [recoverJournalRecord, holds_bind]
  unfold readControllerJournal
  refine holds_onStores (holds_durableRead_sound hs ?_)
  rw [hread]
  dsimp only
  have hparsed := unfinishedToken_of_parse hread
  have hdrawn : (s.onWorld s.world.drawn).world.Sound := hs.drawn
  rcases recoverRecord_cases config executor record with
    ⟨token, houtstanding, hrecord⟩ | ⟨hnone, hrecord⟩
  · rw [hrecord]
    refine (holds_recoverAppliedJournalRecord hon hdrawn).mono (fun _ h => h) ?_
    intro r t hrestore
    have hunfinished : unfinishedToken s.world.journal = some token := hparsed.trans houtstanding
    obtain ⟨outcome, hok, hfault⟩ := hrestore.outcome
    have hretires : ∀ id, JournalRetires executor s.world.journal id ↔
        restored executor token = true ∧ (journalExperimentAction record).1 = id := by
      intro id
      unfold JournalRetires
      rw [hunfinished, journalExperiment_of_parse hread]
      simp
    refine ⟨hrestore.sound, ?_, ?_, ⟨outcome, hok, ?_⟩, ?_, fun e => ?_⟩
    · cases hrestored : restored executor token with
      | true =>
        rw [(hrestore.settled hrestored).1]
        rfl
      | false =>
        rw [(hrestore.failed hrestored).1]
        exact hreadable
    · rw [hrestore.calls, hunfinished]
      rfl
    · rw [hfault, hunfinished]
      constructor
      · intro hnot
        exact ⟨token, rfl, by simpa using hnot⟩
      · rintro ⟨_, ⟨⟩, hnot⟩
        rw [hnot]
        rfl
    · rw [hunfinished, Option.filter_some]
      cases hrestored : restored executor token with
      | true =>
        rw [(hrestore.settled hrestored).1]
        rfl
      | false =>
        rw [(hrestore.failed hrestored).1]
        exact hunfinished
    · rw [hretires]
      cases hrestored : restored executor token with
      | true =>
        rw [(hrestore.settled hrestored).2, List.mem_filter, decide_eq_true_eq]
        exact and_congr_right fun _ => ⟨fun hne hsame => hne hsame.2.symm,
          fun hne hsame => hne ⟨rfl, hsame.symm⟩⟩
      | false =>
        rw [(hrestore.failed hrestored).2]
        refine (and_iff_left ?_).symm
        rintro ⟨hyes, -⟩
        cases hyes
  · have hidle : unfinishedToken s.world.journal = none := hparsed.trans hnone
    rcases hrecord with hrecord | hrecord | hrecord
    · rw [hrecord]
      exact holds_pure.mpr (.idle hidle hdrawn rfl rfl hreadable hidle rfl)
    · rw [hrecord, holds_bind]
      unfold writeControllerJournalClean writeControllerJournalRecord
      refine holds_onStores (holds_durable_sound hdrawn ?_)
      exact holds_pure.mpr (.idle hidle (hdrawn.drawn.setJournal _) rfl rfl rfl rfl rfl)
    · rw [hrecord, holds_bind]
      refine holds_onStores (holds_recordRecovery_sound hdrawn ?_)
      exact holds_pure.mpr (.idle hidle hdrawn.drawn rfl rfl hreadable hidle rfl)

end Journal

/-! ## The whole recovery -/

section Whole
variable {config : StartupRecoveryConfig} {executors : Nat → RecoveryExecutor}

theorem combineOutcomes_isFaulted_iff (kept : List StartupRecoveryOutcome)
    (journal : StartupRecoveryOutcome) : (combineOutcomes kept journal).isFaulted = true ↔
      (∃ o ∈ kept, o.isFaulted = true) ∨ journal.isFaulted = true := by
  refine ⟨fun h => ?_, fun h => combineOutcomes_isFaulted h.symm⟩
  by_contra hnone
  rw [not_or] at hnone
  obtain ⟨hkept, hjournal⟩ := hnone
  have hfind : kept.find? (·.isFaulted) = none :=
    List.find?_eq_none.mpr fun o ho hfaulted => hkept ⟨o, ho, hfaulted⟩
  unfold combineOutcomes at h
  rw [if_neg hjournal, hfind] at h
  dsimp only at h
  split at h
  · exact hjournal h
  · cases kept with
    | nil => exact hjournal h
    | cons first rest => exact hkept ⟨first, List.mem_cons_self, h⟩

/-- The journal's unfinished token, unless an entry that was restored had it. -/
def pendingToken (executors : Nat → RecoveryExecutor) (w : World) : Option RollbackToken :=
  (unfinishedToken w.journal).filter fun token =>
    token ∉ (restoredEntries executors 0 w.ledgerEntries).map (·.rollbackToken)

theorem unfinishedToken_journalAfter (tokens : List RollbackToken)
    (journal : StoreFile ControllerJournalRecord) :
    unfinishedToken (journalAfter tokens journal) =
      (unfinishedToken journal).filter fun token => token ∉ tokens := by
  unfold journalAfter
  cases hunfinished : unfinishedToken journal with
  | none =>
    split
    · rfl
    · exact hunfinished
  | some token =>
    have hnoted := notedToken_of_unfinished hunfinished
    rw [hnoted, Option.filter_some]
    by_cases hmem : token ∈ tokens
    · rw [if_pos ⟨token, hmem, rfl⟩, if_neg (by simpa using hmem)]
      rfl
    · have hno : ¬∃ other ∈ tokens, some token = some other := by
        rintro ⟨other, hother, ⟨⟩⟩
        exact hmem hother
      rw [if_neg hno, if_pos (by simpa using hmem)]
      exact hunfinished

theorem parse_journalAfter {tokens : List RollbackToken}
    {journal : StoreFile ControllerJournalRecord}
    (h : (parseControllerJournal journal).isOk = true) :
    (parseControllerJournal (journalAfter tokens journal)).isOk = true := by
  unfold journalAfter
  split
  · rfl
  · exact h

/-- The restore of the pending token retires the experiment. -/
def PendingRetires (executors : Nat → RecoveryExecutor) (w : World) (id : ExperimentId) : Prop :=
  (∃ token, pendingToken executors w = some token ∧
    restored (executors w.ledgerEntries.length) token = true) ∧
      journalExperiment w.journal = some id

/-- What a recovery does. -/
structure RecoverySpec (executors : Nat → RecoveryExecutor) (s : Recovery)
    (r : Except AnyError StartupRecoveryOutcome) (t : Recovery) : Prop where
  sound : t.world.Sound
  readable : (parseControllerJournal t.world.journal).isOk = true
  calls : t.calls = s.calls ++ ledgerCalls executors 0 s.world.ledgerEntries ++
    (pendingToken executors s.world).elim [] (callsFor (executors s.world.ledgerEntries.length))
  outcome : ∃ outcome, r = .ok outcome ∧ (outcome.isFaulted = true ↔
    (∃ attempt ∈ attempts 0 s.world.ledgerEntries, attemptRestored executors attempt = false) ∨
    ∃ token, pendingToken executors s.world = some token ∧
      restored (executors s.world.ledgerEntries.length) token = false)
  token : unfinishedToken t.world.journal = (pendingToken executors s.world).filter fun token =>
    !restored (executors s.world.ledgerEntries.length) token
  left : ∀ e, e ∈ t.world.ledgerEntries ↔ e ∈ s.world.ledgerEntries ∧
    Unrestored executors 0 s.world.ledgerEntries e.experimentId ∧
    ¬PendingRetires executors s.world e.experimentId

/-- An experiment that the journal's restore retires after the ledger's. -/
theorem journalRetires_after {executor : RecoveryExecutor} {tokens : List RollbackToken}
    {journal : StoreFile ControllerJournalRecord} {id : ExperimentId} :
    JournalRetires executor (journalAfter tokens journal) id ↔
      (∃ token, ((unfinishedToken journal).filter fun token => token ∉ tokens) = some token ∧
        restored executor token = true) ∧ journalExperiment journal = some id := by
  unfold JournalRetires
  rw [unfinishedToken_journalAfter]
  refine and_congr_right fun hpending => ?_
  obtain ⟨token, hpending, -⟩ := hpending
  obtain ⟨hunfinished, hfresh⟩ := Option.filter_eq_some_iff.mp hpending
  -- the record is still there: no restored entry had its token
  have hsame : journalAfter tokens journal = journal := by
    unfold journalAfter
    refine if_neg ?_
    rintro ⟨other, hother, hnoted⟩
    rw [notedToken_of_unfinished hunfinished] at hnoted
    cases hnoted
    simp [hother] at hfresh
  rw [hsame]

/-- **A recovery**, over readable stores. -/
theorem holds_recoverControllerJournal {s : Recovery} (hon : config.rollbackOnCrashRecovery = true)
    (hs : s.world.Sound) (hreadable : (parseControllerJournal s.world.journal).isOk = true) :
    Holds (recoverControllerJournal config executors) (fun _ => True)
      (RecoverySpec executors s) s := by
  obtain ⟨ledger, hread⟩ := hs.ledger
  obtain ⟨hentries, -⟩ := parseKeptLedger_eq_ok hread
  have hkept : Holds (recoverKeptLedger config executors) (fun _ => True)
      (LedgerSpec executors 0 s.world.ledgerEntries s) s := by
    rw [recoverKeptLedger, holds_bind]
    unfold readKeptLedger
    refine holds_onStores (holds_durableRead_sound hs ?_)
    rw [hread]
    dsimp only
    rw [hentries]
    have hdrawn : (s.onWorld s.world.drawn).world.Sound := hs.drawn
    exact (holds_recoverEntries hon hdrawn).mono (fun _ h => h) fun r t h =>
      ⟨h.sound, h.calls, h.outcomes, h.journal, h.left⟩
  rw [recoverControllerJournal]
  refine hkept.bind ?_ ?_
  · intro kept t hledger
    obtain ⟨_, hok, hlength, hfaults⟩ := hledger.outcomes
    cases hok
    have hparse : (parseControllerJournal t.world.journal).isOk = true := by
      rw [hledger.journal]
      exact parse_journalAfter hreadable
    refine (holds_recoverJournalRecord hon hledger.sound hparse).bind ?_ ?_
    · intro journal u hjournal
      obtain ⟨_, hok, hfault⟩ := hjournal.outcome
      cases hok
      have hpending : unfinishedToken t.world.journal = pendingToken executors s.world := by
        rw [hledger.journal]
        exact unfinishedToken_journalAfter ..
      rw [hpending, hlength] at hfault
      refine holds_pure.mpr ⟨hjournal.sound, hjournal.readable, ?_, ⟨_, rfl, ?_⟩, ?_,
        fun e => ?_⟩
      · rw [hjournal.calls, hledger.calls, hpending, hlength]
      · rw [combineOutcomes_isFaulted_iff, hfaults, hfault]
      · rw [hjournal.token, hpending, hlength]
      · rw [hjournal.left, hledger.left, hledger.journal, journalRetires_after, hlength, and_assoc]
        rfl
    · intro e u hjournal
      obtain ⟨_, hok, -⟩ := hjournal.outcome
      cases hok
  · intro e t hledger
    obtain ⟨_, hok, -⟩ := hledger.outcomes
    cases hok

/-- Recovery may restore every token of the stores on its own. -/
structure Authorized (w : World) : Prop where
  ledger : ∀ entry ∈ w.ledgerEntries, (requireAutomaticRecovery entry.rollbackToken).isOk = true
  journal : ∀ token, unfinishedToken w.journal = some token →
    (requireAutomaticRecovery token).isOk = true

theorem callsFor_of_authorized {executor : RecoveryExecutor} {token : RollbackToken}
    (h : (requireAutomaticRecovery token).isOk = true) :
    callsFor executor token = [(token, executor.rollback token)] :=
  if_pos h

theorem ledgerCalls_tokens (n : Nat) {entries : List KeptLedgerEntry}
    (h : ∀ entry ∈ entries, (requireAutomaticRecovery entry.rollbackToken).isOk = true) :
    (ledgerCalls executors n entries).map (·.1) = entries.map (·.rollbackToken) := by
  induction entries generalizing n with
  | nil => rfl
  | cons entry entries ih =>
    have hrest := ih (n + 1) fun e he => h e (List.mem_cons_of_mem _ he)
    unfold ledgerCalls attempts at hrest ⊢
    rw [List.zipIdx_cons, List.flatMap_cons, List.map_append, hrest,
      callsFor_of_authorized (h entry List.mem_cons_self)]
    rfl

theorem mem_of_attempt {n : Nat} {entries : List KeptLedgerEntry} {attempt : KeptLedgerEntry × Nat}
    (h : attempt ∈ attempts n entries) : attempt.1 ∈ entries := by
  rw [← List.zipIdx_map_fst n entries]
  exact List.mem_map_of_mem h

/-- The calls of a recovery, and what it leaves, when each call that it makes succeeds. -/
structure AllRestored (executors : Nat → RecoveryExecutor) (w : World) (t : Recovery) : Prop where
  ledger : ∀ attempt ∈ attempts 0 w.ledgerEntries, attemptRestored executors attempt = true
  journal : ∀ token, pendingToken executors w = some token →
    restored (executors w.ledgerEntries.length) token = true

variable {w : World} {r : Except AnyError StartupRecoveryOutcome} {t : Recovery}

theorem RecoverySpec.allRestored (h : RecoverySpec executors ⟨w, []⟩ r t)
    (hauthorized : Authorized w) (hok : ∀ call ∈ t.calls, call.2.isOk = true) :
    AllRestored executors w t where
  ledger := by
    intro attempt hattempt
    have hgate := hauthorized.ledger attempt.1 (mem_of_attempt hattempt)
    have hcall : (attempt.1.rollbackToken, (executors attempt.2).rollback attempt.1.rollbackToken) ∈
        ledgerCalls executors 0 w.ledgerEntries := by
      refine List.mem_flatMap.mpr ⟨attempt, hattempt, ?_⟩
      rw [callsFor_of_authorized hgate]
      exact List.mem_singleton.mpr rfl
    have hanswered := hok _ (h.calls ▸ List.mem_append_left _ hcall)
    unfold attemptRestored restored
    rw [hgate, hanswered]
    rfl
  journal := by
    intro token hpending
    have hgate := hauthorized.journal token (Option.filter_eq_some_iff.mp hpending).1
    have hcall : (token, (executors w.ledgerEntries.length).rollback token) ∈ t.calls := by
      rw [h.calls, hpending]
      refine List.mem_append_right _ ?_
      show _ ∈ callsFor _ token
      rw [callsFor_of_authorized hgate]
      exact List.mem_singleton.mpr rfl
    unfold restored
    rw [hgate, hok _ hcall]
    rfl

theorem AllRestored.restoredEntries_eq (h : AllRestored executors w t) :
    restoredEntries executors 0 w.ledgerEntries = w.ledgerEntries := by
  unfold restoredEntries
  rw [List.filter_eq_self.mpr h.ledger]
  exact List.zipIdx_map_fst 0 w.ledgerEntries

/-- Both stores are left without tokens. -/
theorem RecoverySpec.empties (h : RecoverySpec executors ⟨w, []⟩ r t)
    (hall : AllRestored executors w t) :
    t.world.ledgerEntries = [] ∧ unfinishedToken t.world.journal = none := by
  constructor
  · refine List.eq_nil_iff_forall_not_mem.mpr fun e he => ?_
    obtain ⟨hmem, hunrestored, -⟩ := (h.left e).mp he
    refine hunrestored e ?_ rfl
    rw [hall.restoredEntries_eq]
    exact hmem
  · rw [h.token]
    cases hpending : pendingToken executors (⟨w, []⟩ : Recovery).world with
    | none => rfl
    | some token => exact if_neg (by simp [hall.journal token hpending])

/-- No token is called twice, if no two entries share one. -/
theorem RecoverySpec.nodup (h : RecoverySpec executors ⟨w, []⟩ r t) (hauthorized : Authorized w)
    (hall : AllRestored executors w t) (hdistinct : (w.ledgerEntries.map (·.rollbackToken)).Nodup) :
    (t.calls.map (·.1)).Nodup := by
  have hledger : (ledgerCalls executors 0 w.ledgerEntries).map (·.1) =
      w.ledgerEntries.map (·.rollbackToken) := ledgerCalls_tokens 0 hauthorized.ledger
  rw [h.calls, List.nil_append, List.map_append, hledger]
  cases hpending : pendingToken executors (⟨w, []⟩ : Recovery).world with
  | none => exact (List.append_nil _).symm ▸ hdistinct
  | some token =>
    obtain ⟨hunfinished, hfresh⟩ := Option.filter_eq_some_iff.mp hpending
    rw [show (⟨w, []⟩ : Recovery).world = w from rfl, hall.restoredEntries_eq] at hfresh
    show (_ ++ (callsFor _ token).map (·.1)).Nodup
    rw [callsFor_of_authorized (hauthorized.journal token hunfinished)]
    refine List.nodup_append.mpr ⟨hdistinct, by simp, fun a ha b hb => ?_⟩
    rintro rfl
    obtain rfl := List.mem_singleton.mp hb
    simp [ha] at hfresh

/-- A call that failed is a fault. -/
theorem RecoverySpec.faults (h : RecoverySpec executors ⟨w, []⟩ r t)
    (hfailed : ∃ call ∈ t.calls, call.2.isOk = false) :
    (∃ attempt ∈ attempts 0 w.ledgerEntries, attemptRestored executors attempt = false) ∨
      ∃ token, pendingToken executors w = some token ∧
        restored (executors w.ledgerEntries.length) token = false := by
  have hcallsFor : ∀ {executor : RecoveryExecutor} {token : RollbackToken} {call : Call},
      call ∈ callsFor executor token → call.2.isOk = false → restored executor token = false := by
    intro executor token call hcall hnot
    unfold callsFor at hcall
    split at hcall
    · obtain rfl := List.mem_singleton.mp hcall
      unfold restored
      rw [hnot, Bool.and_false]
    · cases hcall
  obtain ⟨call, hcall, hnot⟩ := hfailed
  rw [h.calls, List.nil_append] at hcall
  rcases List.mem_append.mp hcall with hledger | hjournal
  · obtain ⟨attempt, hattempt, hmade⟩ := List.mem_flatMap.mp hledger
    exact .inl ⟨attempt, hattempt, hcallsFor hmade hnot⟩
  · cases hpending : pendingToken executors (⟨w, []⟩ : Recovery).world with
    | none =>
      rw [hpending] at hjournal
      cases hjournal
    | some token =>
      rw [hpending] at hjournal
      exact .inr ⟨token, rfl, hcallsFor hjournal hnot⟩

end Whole

/-- What a recovery that starts from the stores does with their tokens. -/
structure RestoresOnce (config : StartupRecoveryConfig) (executors : Nat → RecoveryExecutor)
    (w : World)
    (r : Except AnyError StartupRecoveryOutcome) (t : Recovery) : Prop where
  /-- The ledger's tokens in their order, and then the pending one of the journal. -/
  calls : t.calls = ledgerCalls executors 0 w.ledgerEntries ++
    (pendingToken executors w).elim [] (callsFor (executors w.ledgerEntries.length))
  succeeds : Authorized w → (∀ call ∈ t.calls, call.2.isOk = true) →
    t.world.ledgerEntries = [] ∧ unfinishedToken t.world.journal = none ∧
    ((w.ledgerEntries.map (·.rollbackToken)).Nodup → (t.calls.map (·.1)).Nodup) ∧
    ∀ again : Nat → RecoveryExecutor,
      ((recoverControllerJournal config again).run ⟨t.world, []⟩).state.calls = []
  faults : ∃ outcome, r = .ok outcome ∧
    ((∃ call ∈ t.calls, call.2.isOk = false) → outcome.isFaulted = true)
  onlyFailed : ∀ e ∈ t.world.ledgerEntries, ∃ k, (e, k) ∈ attempts 0 w.ledgerEntries ∧
    attemptRestored executors (e, k) = false
  failedStay : ∀ attempt ∈ attempts 0 w.ledgerEntries, attemptRestored executors attempt = false →
    Unrestored executors 0 w.ledgerEntries attempt.1.experimentId →
    ¬PendingRetires executors w attempt.1.experimentId → attempt.1 ∈ t.world.ledgerEntries
  journal : ∀ token, unfinishedToken t.world.journal = some token ↔
    pendingToken executors w = some token ∧
      restored (executors w.ledgerEntries.length) token = false

/-- **A startup recovery restores once**, with recovery enabled and both stores readable. -/
theorem startup_recovery_restores_once (config : StartupRecoveryConfig)
    (executors : Nat → RecoveryExecutor) (w : World) (hon : config.rollbackOnCrashRecovery = true)
    (hw : w.Sound) (hreadable : (parseControllerJournal w.journal).isOk = true) :
    RestoresOnce config executors w
      ((recoverControllerJournal config executors).run ⟨w, []⟩).result
      ((recoverControllerJournal config executors).run ⟨w, []⟩).state := by
  have hholds : Holds (recoverControllerJournal config executors) (fun _ => True)
      (RecoverySpec executors ⟨w, []⟩) ⟨w, []⟩ := holds_recoverControllerJournal hon hw hreadable
  have hspec := hholds.2
  refine ⟨?_, fun hauthorized hok => ?_, ?_, fun e he => ?_,
    fun attempt hattempt hnot hunrestored hkept =>
    ?_, fun token => ?_⟩
  · rw [hspec.calls]
    rfl
  · have hall := hspec.allRestored hauthorized hok
    obtain ⟨hledger, hjournal⟩ := hspec.empties hall
    refine ⟨hledger, hjournal, hspec.nodup hauthorized hall, fun again => ?_⟩
    have hsecond : Holds (recoverControllerJournal config again) (fun _ => True)
        (RecoverySpec again ⟨_, []⟩) ⟨_, []⟩ :=
      holds_recoverControllerJournal hon hspec.sound hspec.readable
    rw [hsecond.2.calls]
    unfold pendingToken
    rw [hledger, hjournal]
    rfl
  · obtain ⟨outcome, hresult, hfault⟩ := hspec.outcome
    exact ⟨outcome, hresult, fun hfailed => hfault.mpr (hspec.faults hfailed)⟩
  · obtain ⟨hmem, hunrestored, -⟩ := (hspec.left e).mp he
    rw [show (⟨w, []⟩ : Recovery).world = w from rfl,
      ← List.zipIdx_map_fst 0 w.ledgerEntries] at hmem
    obtain ⟨⟨entry, k⟩, hattempt, rfl⟩ := List.mem_map.mp hmem
    refine ⟨k, hattempt, ?_⟩
    cases hrestored : attemptRestored executors (entry, k) with
    | false => rfl
    | true =>
      exact absurd rfl (hunrestored entry (mem_restoredEntries.mpr ⟨k, hattempt, hrestored⟩))
  · exact (hspec.left attempt.1).mpr ⟨mem_of_attempt hattempt, hunrestored, hkept⟩
  · rw [hspec.token, Option.filter_eq_some_iff]
    simp

/-! ## Stores after a crash -/

def keptOf (id : ExperimentId) (token : RollbackToken) : KeptLedgerEntry where
  experimentId := id
  actionId := id
  candidate := id
  rollbackToken := token
  mode := none
  safetyClass := none
  keptUnixNanos := 1

/-- Stores with these entries, and an applied experiment in flight. -/
def crashedWorld (entries : List KeptLedgerEntry)
    (inFlight : Option (ExperimentId × RollbackToken)) :
    World :=
  { World.fresh with
    ledger := .content ⟨keptLedgerSchemaVersion, entries⟩
    journal := match inFlight with
      | none => .missing
      | some (id, token) => .content (.forPhase .applied id id (some token)) }

/-- An executor that restores the tokens of one kind. -/
def restoringOnly (kind : String) : RecoveryExecutor where
  rollback token := if token.kind = kind then .ok ⟨0, ""⟩ else .error (.message "failed")
  manualRestoreText _ := ""

/-- An entry and the experiment in flight have one token. -/
theorem restores_once_shared_token :
    RestoresOnce ⟨true⟩ (fun _ => restoringOnly "nice-restore")
      (crashedWorld [keptOf "a" (.niceRestore [])] (some ("a", .niceRestore [])))
      ((recoverControllerJournal ⟨true⟩ fun _ => restoringOnly "nice-restore").run
        ⟨crashedWorld [keptOf "a" (.niceRestore [])] (some ("a", .niceRestore [])), []⟩).result
      ((recoverControllerJournal ⟨true⟩ fun _ => restoringOnly "nice-restore").run
        ⟨crashedWorld [keptOf "a" (.niceRestore [])] (some ("a", .niceRestore [])), []⟩).state :=
  startup_recovery_restores_once _ _ _ rfl ⟨by simp [crashedWorld, World.fresh], _, rfl⟩
    (by decide +kernel)

/-- The calls, by whether they succeeded, and the experiments that are left in the ledger. -/
def recoveryTrace (executor : RecoveryExecutor) (w : World) :
    List (RollbackToken × Bool) × List ExperimentId :=
  let t := ((recoverControllerJournal ⟨true⟩ fun _ => executor).run ⟨w, []⟩).state
  (t.calls.map fun call => (call.1, call.2.isOk), t.world.ledgerEntries.map (·.experimentId))

/-- A token that may not be restored automatically stays without a call; two entries with one token
are two calls; and a restore of the journal's token retires the entry of its experiment, whose own
rollback failed. -/
theorem refused_repeated_retired :
    recoveryTrace (restoringOnly "io-prio-restore")
      (crashedWorld [keptOf "a" (.ioPrioRestore [])] none) = ([], ["a"]) ∧
    recoveryTrace (restoringOnly "nice-restore")
      (crashedWorld [keptOf "a" (.niceRestore []), keptOf "b" (.niceRestore [])] none) =
        ([(.niceRestore [], true), (.niceRestore [], true)], []) ∧
    recoveryTrace (restoringOnly "nice-restore")
      (crashedWorld [keptOf "a" (.uclampRestore [])] (some ("a", .niceRestore []))) =
        ([(.uclampRestore [], false), (.niceRestore [], true)], []) := by
  decide +kernel

end Stutter.ExecutorCalls

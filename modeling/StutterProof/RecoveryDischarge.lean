import StutterProof.StartupRecovery

/-! # Recovery retires discharged tokens

A token is discharged when every item of it was restored or skipped as stale.
Recovery must not drop the durable record of any other token, and must report
`Faulted` for it.

Recovery takes the executor's `Ok` for a discharge.  It is one for the privileged
worker and for a restore file that is gone; the registry's `Ok` may report failed
items, which emergency restore classifies as a fault and recovery does not look at.
Besides, a restored record retires every ledger entry of its experiment, whatever
token the entry holds.  `RecoverySafe` says that neither happens on the way, and
`recoverControllerJournal_sound_iff` that this is exactly what soundness takes. -/
namespace Stutter
open Fallible

/-- The world a controller finds when it starts. -/
def World.startup (journal : StoreFile ControllerJournalRecord) (ledger : StoreFile KeptLedger)
    (writes : List HostWrite) (io : List IoOutcome) : World :=
  ⟨journal, ledger, writes, io, [], []⟩

/-- A ledger entry holds the token, or the journal does for an unfinished action. -/
def World.DurableToken (w : World) (token : RollbackToken) : Prop :=
  (∃ l, w.ledger = .content l ∧ ∃ e ∈ l.entries, e.rollbackToken = token) ∨
    ∃ r, w.journal = .content r ∧ r.outstandingToken = some token

/-- Whatever is gone since `before` was discharged; an unreadable ledger stays. -/
structure RetiredDischarged (before w : World) : Prop where
  unreadable : ∀ e, parseKeptLedger before.ledger = .error e → w.ledger = before.ledger
  ledger : ∀ e ∈ before.ledgerEntries, e ∈ w.ledgerEntries ∨ e.rollbackToken ∈ w.discharged
  journal : ∀ r token, before.journal = .content r → r.outstandingToken = some token →
    w.journal = .content r ∨ token ∈ w.discharged

/-- How a sound recovery ends: whatever is gone was discharged, and a token it was
to restore and did not discharge is reported as a fault. -/
structure RecoveryEnds (config : StartupRecoveryConfig) (before : World)
    (result : Except AnyError StartupRecoveryOutcome) (w : World) : Prop where
  retired : RetiredDischarged before w
  reported : ∀ outcome, result = .ok outcome → config.rollbackOnCrashRecovery = true →
    ∀ token, before.DurableToken token → token ∈ w.discharged ∨ outcome.isFaulted = true

open Op

/-- Recovery from `before` is sound: at each of its steps whatever is gone was
discharged, and it ends as it should. -/
def RecoverySound (config : StartupRecoveryConfig) (hosts : Nat → StartupHost) (before : World) :
    Prop :=
  Holds (recoverControllerJournal config hosts) (RetiredDischarged before)
    (RecoveryEnds config before) before

/-! ## The condition -/

/-- What one durable record asks recovery to restore. -/
structure RecoveryItem where
  experimentId : ExperimentId
  token : RollbackToken

def KeptLedgerEntry.item (entry : KeptLedgerEntry) : RecoveryItem :=
  ⟨entry.experimentId, entry.rollbackToken⟩

/-- The journal's item, when it can be read and holds an unfinished action's token. -/
def journalItems (journal : StoreFile ControllerJournalRecord) : List RecoveryItem :=
  match parseControllerJournal journal with
  | .error _ => []
  | .ok r => r.outstandingToken.toList.map fun token => ⟨(journalExperimentAction r).1, token⟩

/-- The tokens restore number `n` adds to the discharged ones. -/
def newlyDischarged (host : StartupHost) (token : RollbackToken) : List RollbackToken :=
  if host.discharges token then [token] else []

/-- The tokens the items discharge, in order, from restore number `n` on. -/
def walkDischarges (hosts : Nat → StartupHost) : Nat → List RecoveryItem → List RollbackToken
  | _, [] => []
  | n, item :: items =>
    newlyDischarged (hosts n) item.token ++ walkDischarges hosts (n + 1) items

/-- The item's own token and the tokens of the experiment's ledger entries: what is
dropped when the executor answers `Ok`. -/
def Drops (entries : List KeptLedgerEntry) (item : RecoveryItem) (token : RollbackToken) : Prop :=
  token = item.token ∨
    ∃ e ∈ entries, e.experimentId = item.experimentId ∧ e.rollbackToken = token

/-- Walking the items, with `log` discharged before: whenever the executor answers
`Ok`, every token dropped for it is discharged by then. -/
def WalkSafe (hosts : Nat → StartupHost) (entries : List KeptLedgerEntry) :
    Nat → List RollbackToken → List RecoveryItem → Prop
  | _, _, [] => True
  | n, log, item :: items =>
    (((hosts n).rollbackAnswer item.token).isOk = true →
      ∀ token, Drops entries item token → token ∈ log ++ newlyDischarged (hosts n) item.token) ∧
    WalkSafe hosts entries (n + 1) (log ++ newlyDischarged (hosts n) item.token) items

/-- Recovery finds the ledger unreadable and stops, or its walk over the ledger and
then the journal is safe. -/
def RecoverySafe (hosts : Nat → StartupHost) (journal : StoreFile ControllerJournalRecord)
    (ledger : StoreFile KeptLedger) : Prop :=
  match parseKeptLedger ledger with
  | .error _ => True
  | .ok l => WalkSafe hosts l.entries 0 [] (l.entries.map (·.item) ++ journalItems journal)

variable {I : World → Prop}

/-! ## Safe walks are sound -/

theorem holds_recordRecovery {what : String} {Q : Except AnyError Unit → World → Prop} {w : World}
    (hI : I w.drawn) (hok : Q (.ok ()) w.drawn) (herr : ∀ e, Q (.error e) w.drawn) :
    Holds (recordRecovery what) I Q w :=
  holds_durable ⟨hI, hok⟩ (fun e => ⟨hI, herr e⟩) fun e _ => herr e

/-- The three reports that end a recovery change no store. -/
theorem holds_recordOutcome {outcome : StartupRecoveryOutcome}
    {Q : Except AnyError StartupRecoveryOutcome → World → Prop} {w : World}
    (h : ∀ v, w.Same v → I v ∧ Q (.ok outcome) v ∧ ∀ e, Q (.error e) v) :
    Holds (do
      recordRecovery "audit event"
      recordRecovery "history event"
      recordRecovery "daemon state snapshot"
      return outcome) I Q w := by
  have h1 := h w.drawn w.same_drawn
  have h2 := h w.drawn.drawn ⟨rfl, rfl, rfl, rfl, rfl⟩
  have h3 := h w.drawn.drawn.drawn ⟨rfl, rfl, rfl, rfl, rfl⟩
  rw [holds_bind]
  refine holds_recordRecovery h1.1 ?_ h1.2.2
  rw [holds_bind]
  refine holds_recordRecovery h2.1 ?_ h2.2.2
  rw [holds_bind]
  refine holds_recordRecovery h3.1 ?_ h3.2.2
  exact holds_pure.mpr h3.2.1

theorem holds_journalNamesToken {token : RollbackToken} {Q : Except AnyError Bool → World → Prop}
    {w : World} (hI : I w.drawn)
    (h : ∀ named, (named = true → ∃ r, parseControllerJournal w.journal = .ok r ∧
      r.rollbackToken = some token) → Q (.ok named) w.drawn) :
    Holds (journalNamesToken token) I Q w := by
  rw [journalNamesToken, holds_bind, holds_attempt]
  refine holds_durableRead hI ?_ fun e => holds_pure.mpr (h false (by simp))
  cases hread : parseControllerJournal w.journal with
  | error e => exact holds_pure.mpr (h false (by simp))
  | ok r =>
    refine holds_pure.mpr (h _ fun hnamed => ⟨r, hread, ?_⟩)
    exact beq_iff_eq.mp hnamed

/-- Where recovery stands: `log` is discharged, what is gone was, and the journal is
as it was or clean. -/
structure Walked (before : World) (log : List RollbackToken) (w : World) : Prop
    extends RetiredDischarged before w where
  discharged : w.discharged = log
  journalKept : w.journal = before.journal ∨ w.journal = .content .clean

open World

namespace Walked
variable {before w v : World} {log log' : List RollbackToken}

theorem start (journal ledger writes io) :
    Walked (startup journal ledger writes io) [] (startup journal ledger writes io) :=
  ⟨⟨fun _ _ => rfl, fun _ h => .inl h, fun _ _ h _ => .inl h⟩, rfl, .inl rfl⟩

/-- The stores are the same and the log has grown. -/
theorem grow (h : Walked before log w) (hjournal : v.journal = w.journal)
    (hledger : v.ledger = w.ledger) (hlog : v.discharged = log') (hsub : log ⊆ log') :
    Walked before log' v := by
  have hdischarged : ∀ t, t ∈ w.discharged → t ∈ v.discharged := by
    rw [h.discharged, hlog]
    exact fun t ht => hsub ht
  refine ⟨⟨?_, ?_, ?_⟩, hlog, hjournal ▸ h.journalKept⟩
  · exact fun e he => hledger.trans (h.unreadable e he)
  · intro e he
    rw [ledgerEntries_congr hledger]
    exact (h.ledger e he).imp_right (hdischarged _)
  · intro r t hr ht
    rw [hjournal]
    exact (h.journal r t hr ht).imp_right (hdischarged t)

theorem same (h : Walked before log w) (hv : w.Same v) : Walked before log v :=
  h.grow hv.journal hv.ledger (hv.discharged.trans h.discharged) (fun _ ht => ht)

/-- The journal is cleared after its token was discharged. -/
theorem clear (h : Walked before log w)
    (hlog : ∀ r t, before.journal = .content r → r.outstandingToken = some t →
      w.journal = .content r → t ∈ log) : Walked before log (w.setJournal .clean) := by
  refine ⟨⟨h.unreadable, h.ledger, fun r t hr ht => .inr ?_⟩, h.discharged, .inr rfl⟩
  show t ∈ w.discharged
  rcases h.journal r t hr ht with hkept | hgone
  · exact h.discharged ▸ hlog r t hr ht hkept
  · exact hgone

/-- The ledger is rewritten; an entry that is left out was discharged. -/
theorem relist (h : Walked before log w) {entries : List KeptLedgerEntry}
    (hreadable : ∃ l, parseKeptLedger before.ledger = .ok l) (hv : w.LedgerBecomes v entries)
    (hleft : ∀ e ∈ before.ledgerEntries, e ∈ w.ledgerEntries →
      e ∈ entries ∨ e.rollbackToken ∈ log) : Walked before log v := by
  obtain ⟨l, hl⟩ := hreadable
  refine ⟨⟨?_, ?_, ?_⟩, hv.discharged.trans h.discharged, hv.journal ▸ h.journalKept⟩
  · intro e he
    rw [hl] at he
    cases he
  · intro e he
    rw [hv.entries, hv.discharged]
    rcases h.ledger e he with hin | hgone
    · exact (hleft e he hin).imp_right fun ht => h.discharged ▸ ht
    · exact .inr hgone
  · intro r t hr ht
    rw [hv.journal, hv.discharged]
    exact h.journal r t hr ht

end Walked

section Sound
variable {config : StartupRecoveryConfig} {before w : World} {log : List RollbackToken}

variable {host : StartupHost} {token : RollbackToken}

/-- The executor's restore: it discharges or not, and the stores stay. -/
theorem Walked.holds_rollback {Q : Except AnyError StartupRecoveryRollbackSummary → World → Prop}
    (h : Walked before log w)
    (hQ : ∀ v, Walked before (log ++ newlyDischarged host token) v →
      Q (host.rollbackAnswer token) v) :
    Holds (host.rollback token) (RetiredDischarged before) Q w := by
  have hpart : Walked before log (w.restore token (host.undone token)) :=
    h.grow rfl rfl h.discharged fun _ ht => ht
  rw [StartupHost.rollback, holds_bind, holds_update]
  refine ⟨hpart.toRetiredDischarged, ?_⟩
  unfold newlyDischarged at hQ
  cases hd : host.discharges token with
  | true =>
    have hall : Walked before (log ++ [token]) (((w.restore token (host.undone token)).restore
        token fun _ => true).discharge token) :=
      hpart.grow rfl rfl (congrArg (· ++ [token]) hpart.discharged) (List.subset_append_left _ _)
    simp only [hd, if_true] at hQ
    simp only [if_true, holds_bind, holds_update, holds_ofExcept]
    exact ⟨hall.toRetiredDischarged, hQ _ hall⟩
  | false =>
    simp only [hd, Bool.false_eq_true, if_false, List.append_nil] at hQ
    simp only [Bool.false_eq_true, if_false, holds_ofExcept]
    exact hQ _ hpart

/-- The gate before the dispatch stops exactly what the executor would refuse. -/
theorem Walked.holds_authorizedRollback (h : Walked before log w) :
    Holds (do
      ofExcept (requireAutomaticRecovery token)
      host.rollback token) (RetiredDischarged before)
      (fun r v => Walked before (log ++ newlyDischarged host token) v ∧
        r.isOk = (host.rollbackAnswer token).isOk) w := by
  rw [holds_bind, holds_ofExcept]
  cases hauth : requireAutomaticRecovery token with
  | ok _ => exact h.holds_rollback fun v hv => ⟨hv, rfl⟩
  | error e =>
    have hnone : newlyDischarged host token = [] := by
      simp [newlyDischarged, StartupHost.discharges, hauth, Except.isOk, Except.toBool]
    have hanswer : host.rollbackAnswer token = .error e := by
      simp [StartupHost.rollbackAnswer, hauth, bind, Except.bind]
    rw [hnone, List.append_nil, hanswer]
    exact ⟨h, rfl⟩

/-- What a restore ends with: the log, and a fault or not. -/
def RestoreEnds (before : World) (log : List RollbackToken) (faulted : Bool)
    (r : Except AnyError StartupRecoveryOutcome) (w : World) : Prop :=
  Walked before log w ∧ ∀ outcome, r = .ok outcome → outcome.isFaulted = faulted

theorem Walked.ends_error (h : Walked before log w) {faulted : Bool} {e : AnyError} :
    RestoreEnds before log faulted (.error e) w :=
  ⟨h, fun _ he => nomatch he⟩

/-- Reporting an outcome from a state the walk has reached. -/
theorem Walked.holds_recordOutcome (h : Walked before log w) (outcome : StartupRecoveryOutcome) :
    Holds (do
      recordRecovery "audit event"
      recordRecovery "history event"
      recordRecovery "daemon state snapshot"
      return outcome) (RetiredDischarged before) (RestoreEnds before log outcome.isFaulted) w := by
  refine Stutter.holds_recordOutcome fun v hv => ⟨(h.same hv).toRetiredDischarged, ⟨h.same hv, ?_⟩,
    fun _ => (h.same hv).ends_error⟩
  rintro _ ⟨⟩
  rfl

/-- Retiring an experiment whose tokens are all discharged, and reporting. -/
theorem Walked.holds_retireAndReport {id : ExperimentId}
    (hreadable : ∃ l, parseKeptLedger before.ledger = .ok l) (h : Walked before log w)
    (hlog : ∀ e ∈ before.ledgerEntries, e.experimentId = id → e.rollbackToken ∈ log)
    (outcome : StartupRecoveryOutcome) :
    Holds (do
      retireKept id
      recordRecovery "audit event"
      recordRecovery "history event"
      recordRecovery "daemon state snapshot"
      return outcome) (RetiredDischarged before) (RestoreEnds before log outcome.isFaulted) w := by
  rw [holds_bind]
  refine holds_retireKept ?_ ?_
  · intro v hv
    have hkept := h.relist hreadable hv fun e _ he => .inl he
    exact ⟨hkept.toRetiredDischarged, fun _ => hkept.ends_error⟩
  · intro v hv
    have hretired := h.relist hreadable hv fun e hbefore he => by
      by_cases hid : e.experimentId = id
      · exact .inr (hlog e hbefore hid)
      · exact .inl (List.mem_filter.mpr ⟨he, by simpa using hid⟩)
    refine ⟨hretired.toRetiredDischarged, ?_⟩
    rintro (e | _)
    · exact hretired.ends_error
    · exact hretired.holds_recordOutcome outcome

theorem ControllerJournalRecord.rollbackToken_of_outstandingToken {r : ControllerJournalRecord}
    {t : RollbackToken} (h : r.outstandingToken = some t) : r.rollbackToken = some t := by
  unfold outstandingToken at h
  split at h
  · exact h
  · cases h

/-- One restore of a recovery that may restore, when everything its `Ok` drops is
discharged by then.  It reports a fault exactly when the executor fails. -/
theorem Walked.holds_recoverAppliedJournalRecord {id : ExperimentId} {action : ActionId}
    {source : RecoverySource} (hon : config.rollbackOnCrashRecovery = true)
    (hreadable : ∃ l, parseKeptLedger before.ledger = .ok l) (h : Walked before log w)
    (hsource : source = .journal → ∀ r t, before.journal = .content r →
      r.outstandingToken = some t → t = token)
    (hsafe : (host.rollbackAnswer token).isOk = true → ∀ t,
      Drops before.ledgerEntries ⟨id, token⟩ t → t ∈ log ++ newlyDischarged host token) :
    Holds (recoverAppliedJournalRecord config host id action token source)
      (RetiredDischarged before)
      (RestoreEnds before (log ++ newlyDischarged host token)
        !(host.rollbackAnswer token).isOk) w := by
  unfold recoverAppliedJournalRecord
  simp only [hon, Bool.not_true, Bool.false_eq_true, if_false]
  rw [holds_bind, holds_attempt]
  refine h.holds_authorizedRollback.mono (fun _ h => h) ?_
  rintro (e | summary) v ⟨hv, hanswer⟩
  · rw [← hanswer]
    exact hv.holds_recordOutcome _
  · have hlog := hsafe hanswer.symm
    have hentries : ∀ e ∈ before.ledgerEntries, e.experimentId = id →
        e.rollbackToken ∈ log ++ newlyDischarged host token :=
      fun e he hid => hlog _ (.inr ⟨e, he, hid, rfl⟩)
    rw [← hanswer]
    show Holds (_ >>= _) _ _ _
    rw [holds_bind]
    have hread := hv.same v.same_drawn
    refine holds_journalNamesToken hread.toRetiredDischarged ?_
    intro named hnamed
    by_cases hclears : (source == .journal || named) = true
    · -- the record that is cleared holds this very token
      have hcleared : Walked before (log ++ newlyDischarged host token)
          (v.drawn.setJournal .clean) := by
        refine hread.clear fun r t hr ht hkept => hlog t (.inl ?_)
        rcases Bool.or_eq_true_iff.mp hclears with hjournal | hname
        · exact hsource (beq_iff_eq.mp hjournal) r t hr ht
        · obtain ⟨r', hparsed, htoken⟩ := hnamed hname
          rw [show v.journal = .content r from hkept] at hparsed
          obtain ⟨hmissing, -⟩ | hcontent := parseControllerJournal_eq_ok hparsed
          · cases hmissing
          · cases hcontent
            have := ControllerJournalRecord.rollbackToken_of_outstandingToken ht
            exact Option.some.inj (this.symm.trans htoken)
      have hkept := hread.same v.drawn.same_drawn
      have hclean := hcleared.same (same_setJournal_drawn v.drawn .clean)
      dsimp only
      rw [if_pos hclears, holds_bind]
      refine holds_writeControllerJournalClean
        ⟨hkept.toRetiredDischarged, fun _ => hkept.ends_error⟩ ⟨hclean.toRetiredDischarged, ?_⟩
      rintro (e | _)
      · exact hclean.ends_error
      · exact hclean.holds_retireAndReport hreadable hentries _
    · dsimp only
      rw [if_neg hclears]
      exact hread.holds_retireAndReport hreadable hentries _

variable {hosts : Nat → StartupHost}

/-- The ledger's walk: every entry was discharged or its outcome is a fault. -/
theorem Walked.holds_recoverEntries (hon : config.rollbackOnCrashRecovery = true)
    (hreadable : ∃ l, parseKeptLedger before.ledger = .ok l) {n : Nat}
    {entries : List KeptLedgerEntry} {items : List RecoveryItem} (h : Walked before log w)
    (hsafe : WalkSafe hosts before.ledgerEntries n log (entries.map (·.item) ++ items)) :
    Holds (recoverEntries config hosts n entries) (RetiredDischarged before)
      (fun r v => match r with
        | .ok outcomes =>
          ∃ log', Walked before log' v ∧ log ⊆ log' ∧ outcomes.length = entries.length ∧
            WalkSafe hosts before.ledgerEntries (n + entries.length) log' items ∧
            ∀ e ∈ entries, e.rollbackToken ∈ log' ∨ ∃ o ∈ outcomes, o.isFaulted = true
        | .error _ => RetiredDischarged before v) w := by
  induction entries generalizing n log w with
  | nil =>
    exact holds_ret.mpr ⟨log, h, fun _ ht => ht, rfl, hsafe, fun _ he => nomatch he⟩
  | cons entry entries ih =>
    obtain ⟨hhead, htail⟩ := hsafe
    have hsource : RecoverySource.ledger = .journal → ∀ r t, before.journal = .content r →
        r.outstandingToken = some t → t = entry.rollbackToken := fun h => nomatch h
    refine (h.holds_recoverAppliedJournalRecord hon hreadable hsource hhead).bind ?_
      fun _ v hv => hv.1.toRetiredDischarged
    rintro outcome v ⟨hv, hfault⟩
    refine (ih hv htail).bind ?_ fun _ u hu => hu
    rintro outcomes u ⟨log', hwalked, hsub, hlength, hrest, hentries⟩
    refine holds_pure.mpr ⟨log', hwalked, ?_, congrArg (· + 1) hlength, ?_, ?_⟩
    · exact fun t ht => hsub (List.mem_append_left _ ht)
    · rwa [List.length_cons, show n + (entries.length + 1) = n + 1 + entries.length by omega]
    · rintro e (_ | ⟨_, he⟩)
      · by_cases hok : ((hosts n).rollbackAnswer entry.rollbackToken).isOk = true
        · exact .inl (hsub (hhead hok _ (.inl rfl)))
        · refine .inr ⟨outcome, List.mem_cons_self .., ?_⟩
          rw [hfault outcome rfl]
          simpa [KeptLedgerEntry.item] using hok
      · refine (hentries e he).imp_right ?_
        rintro ⟨o, ho, hfaulted⟩
        exact ⟨o, List.mem_cons_of_mem _ ho, hfaulted⟩

/-- A report that changes no store. -/
theorem Walked.holds_report (h : Walked before log w) (outcome : StartupRecoveryOutcome) :
    Holds (do
      recordRecovery "daemon state snapshot"
      return outcome) (RetiredDischarged before) (fun _ v => Walked before log v) w := by
  have hdrawn := h.same w.same_drawn
  rw [holds_bind]
  refine holds_recordRecovery hdrawn.toRetiredDischarged ?_ fun _ => hdrawn
  exact holds_pure.mpr hdrawn

/-- Clearing a journal that holds no unfinished action's token. -/
theorem Walked.holds_clearJournal (h : Walked before log w)
    (hkept : ∀ r t, before.journal = .content r → r.outstandingToken = some t →
      w.journal ≠ .content r) :
    Holds (do
      writeControllerJournalClean
      return StartupRecoveryOutcome.clean) (RetiredDischarged before)
      (fun _ v => Walked before log v) w := by
  have hdrawn := h.same w.same_drawn
  have hclean := (h.clear fun r t hr ht hw => absurd hw (hkept r t hr ht)).same
    (same_setJournal_drawn w .clean)
  rw [holds_bind]
  refine holds_writeControllerJournalClean ⟨hdrawn.toRetiredDischarged, fun _ => hdrawn⟩
    ⟨hclean.toRetiredDischarged, ?_⟩
  rintro (e | _)
  · exact hclean
  · exact holds_pure.mpr hclean

/-- What recovery does with a record it read: it restores an unfinished action's
token, and has nothing to restore otherwise. -/
theorem recoverRecord_cases (host : StartupHost) (r : ControllerJournalRecord) :
    (∃ token, r.outstandingToken = some token ∧ recoverRecord config host r =
      recoverAppliedJournalRecord config host (journalExperimentAction r).1
        (journalExperimentAction r).2 token .journal) ∨
    (r.outstandingToken = none ∧ (recoverRecord config host r = ret .clean ∨
      recoverRecord config host r = (do writeControllerJournalClean; return .clean) ∨
      ∃ outcome, recoverRecord config host r = (do
        recordRecovery "daemon state snapshot"
        return outcome))) := by
  unfold recoverRecord ControllerJournalRecord.outstandingToken
    ControllerJournalRecord.mayHaveMutatedSystem
  cases r.state with
  | clean => exact .inr ⟨rfl, .inl rfl⟩
  | planned | preflighted | reverted => exact .inr ⟨rfl, .inr (.inl rfl)⟩
  | applying | applied | verifying | measuring | keeping | reverting | faulted =>
    cases r.rollbackToken with
    | none => exact .inr ⟨rfl, .inr (.inr ⟨_, rfl⟩)⟩
    | some token => exact .inl ⟨token, rfl, rfl⟩

/-- A journal that reads as `r` holds no other record. -/
theorem parseControllerJournal_content {file : StoreFile ControllerJournalRecord}
    {r r' : ControllerJournalRecord} (h : parseControllerJournal file = .ok r)
    (hfile : file = .content r') : r' = r := by
  rw [hfile] at h
  obtain ⟨hmissing, -⟩ | hcontent := parseControllerJournal_eq_ok h
  · cases hmissing
  · cases hcontent
    rfl

/-- A record without an unfinished action's token: nothing is restored. -/
theorem Walked.holds_recoverRecord_idle {r : ControllerJournalRecord}
    (h : Walked before log w) (hparsed : parseControllerJournal w.journal = .ok r)
    (hnone : r.outstandingToken = none) (hcases : recoverRecord config host r = ret .clean ∨
      recoverRecord config host r = (do writeControllerJournalClean; return .clean) ∨
      ∃ outcome, recoverRecord config host r = (do
        recordRecovery "daemon state snapshot"
        return outcome)) :
    Holds (recoverRecord config host r) (RetiredDischarged before)
      (fun _ v => Walked before log v) w := by
  have hkept : ∀ r' t, before.journal = .content r' → r'.outstandingToken = some t →
      w.journal ≠ .content r' := by
    intro r' t _ ht hw
    rw [parseControllerJournal_content hparsed hw, hnone] at ht
    cases ht
  rcases hcases with heq | heq | ⟨outcome, heq⟩
  · rw [heq]
    exact holds_ret.mpr h
  · rw [heq]
    exact h.holds_clearJournal hkept
  · rw [heq]
    exact h.holds_report outcome

/-- The journal's own record: restored, or reported as a fault. -/
theorem Walked.holds_recoverJournalRecord {n : Nat} (hon : config.rollbackOnCrashRecovery = true)
    (hreadable : ∃ l, parseKeptLedger before.ledger = .ok l) (h : Walked before log w)
    (hsafe : WalkSafe hosts before.ledgerEntries n log (journalItems before.journal)) :
    Holds (recoverJournalRecord config (hosts n)) (RetiredDischarged before)
      (fun r v => match r with
        | .ok outcome => ∃ log', Walked before log' v ∧ log ⊆ log' ∧
            ∀ r t, before.journal = .content r → r.outstandingToken = some t →
              t ∈ log' ∨ outcome.isFaulted = true
        | .error _ => RetiredDischarged before v) w := by
  have hread := h.same w.same_drawn
  rw [recoverJournalRecord, holds_bind]
  refine holds_durableRead hread.toRetiredDischarged ?_ fun _ => hread.toRetiredDischarged
  cases hparsed : parseControllerJournal w.journal with
  | error e => exact hread.toRetiredDischarged
  | ok r =>
    show Holds (recoverRecord config (hosts n) r) _ _ _
    obtain ⟨token, htoken, heq⟩ | ⟨hnone, hcases⟩ := @recoverRecord_cases config (hosts n) r
    · have hbefore : w.journal = before.journal := by
        rcases h.journalKept with hkept | hclean
        · exact hkept
        · rw [hclean] at hparsed
          cases hparsed
          cases htoken
      have hitems : journalItems before.journal = [⟨(journalExperimentAction r).1, token⟩] := by
        unfold journalItems
        rw [← hbefore, hparsed]
        simp only [htoken, Option.toList_some, List.map_cons, List.map_nil]
      have hown : RecoverySource.journal = .journal → ∀ r' t, before.journal = .content r' →
          r'.outstandingToken = some t → t = token := by
        intro _ r' t hr' ht
        rw [parseControllerJournal_content hparsed (hbefore.trans hr'), htoken] at ht
        exact (Option.some.inj ht).symm
      rw [hitems] at hsafe
      rw [heq]
      refine (hread.holds_recoverAppliedJournalRecord hon hreadable hown hsafe.1).mono
        (fun _ h => h) ?_
      rintro (e | outcome) v ⟨hv, hfault⟩
      · exact hv.toRetiredDischarged
      · refine ⟨_, hv, List.subset_append_left _ _, fun r' t hr' ht => ?_⟩
        by_cases hok : ((hosts n).rollbackAnswer token).isOk = true
        · exact .inl (hsafe.1 hok _ (.inl (hown rfl r' t hr' ht)))
        · refine .inr ?_
          rw [hfault outcome rfl]
          simpa using hok
    · refine (hread.holds_recoverRecord_idle hparsed hnone hcases).mono (fun _ h => h) ?_
      rintro (e | outcome) v hv
      · exact hv.toRetiredDischarged
      · -- the token recovery started from, if any, was discharged before
        refine ⟨log, hv, fun _ ht => ht, fun r' t hr' ht => .inl ?_⟩
        rcases h.journal r' t hr' ht with hkept | hgone
        · rw [parseControllerJournal_content hparsed hkept, hnone] at ht
          cases ht
        · exact h.discharged ▸ hgone

theorem combineOutcomes_isFaulted {kept : List StartupRecoveryOutcome}
    {journal : StartupRecoveryOutcome}
    (h : journal.isFaulted = true ∨ ∃ o ∈ kept, o.isFaulted = true) :
    (combineOutcomes kept journal).isFaulted = true := by
  unfold combineOutcomes
  by_cases hjournal : journal.isFaulted = true
  · rw [if_pos hjournal]
    exact hjournal
  · rw [if_neg hjournal]
    obtain ⟨o, ho, hfaulted⟩ := h.resolve_left hjournal
    cases hfind : kept.find? (·.isFaulted) with
    | some found => exact List.find?_some hfind
    | none => exact absurd hfaulted (List.find?_eq_none.mp hfind o ho)

/-- A recovery that may not restore keeps every token. -/
theorem Walked.holds_recoverEntries_disabled {n : Nat} {entries : List KeptLedgerEntry}
    (hoff : config.rollbackOnCrashRecovery = false) (h : Walked before log w) :
    Holds (recoverEntries config hosts n entries) (RetiredDischarged before)
      (fun _ v => Walked before log v) w := by
  induction entries generalizing n w with
  | nil => exact holds_ret.mpr h
  | cons entry entries ih =>
    have hreport : Holds (recoverAppliedJournalRecord config (hosts n) entry.experimentId
        entry.actionId entry.rollbackToken .ledger) (RetiredDischarged before)
        (fun _ v => Walked before log v) w := by
      unfold recoverAppliedJournalRecord
      simp only [hoff, Bool.not_false, if_true]
      exact h.holds_report _
    refine hreport.bind (fun _ v hv => ?_) fun _ v hv => hv
    exact (ih hv).bind (fun _ u hu => holds_pure.mpr hu) fun _ u hu => hu

theorem Walked.holds_recoverJournalRecord_disabled
    (hoff : config.rollbackOnCrashRecovery = false) (h : Walked before log w) :
    Holds (recoverJournalRecord config host) (RetiredDischarged before)
      (fun _ v => Walked before log v) w := by
  have hread := h.same w.same_drawn
  rw [recoverJournalRecord, holds_bind]
  refine holds_durableRead hread.toRetiredDischarged ?_ fun _ => hread
  cases hparsed : parseControllerJournal w.journal with
  | error e => exact hread
  | ok r =>
    show Holds (recoverRecord config host r) _ _ _
    obtain ⟨token, -, heq⟩ | ⟨hnone, hcases⟩ := @recoverRecord_cases config host r
    · rw [heq]
      unfold recoverAppliedJournalRecord
      simp only [hoff, Bool.not_false, if_true]
      exact hread.holds_report _
    · exact hread.holds_recoverRecord_idle hparsed hnone hcases

variable {hosts : Nat → StartupHost}

theorem recoverySound_of_disabled (hoff : config.rollbackOnCrashRecovery = false)
    (hstart : Walked before [] before) : RecoverySound config hosts before := by
  have hread := hstart.same before.same_drawn
  have hends : ∀ r v, Walked before [] v → RecoveryEnds config before r v := fun r v hv =>
    ⟨hv.toRetiredDischarged, fun _ _ hon => absurd (hoff.symm.trans hon) (by simp)⟩
  have hkept : Holds (recoverKeptLedger config hosts) (RetiredDischarged before)
      (fun _ v => Walked before [] v) before := by
    rw [recoverKeptLedger, holds_bind]
    refine holds_durableRead hread.toRetiredDischarged ?_ fun _ => hread
    cases parseKeptLedger before.ledger with
    | error e => exact hread
    | ok l => exact hread.holds_recoverEntries_disabled hoff
  refine hkept.bind (fun kept v hv => ?_) fun _ v hv => hends _ v hv
  refine (hv.holds_recoverJournalRecord_disabled hoff).bind (fun _ u hu => ?_)
    fun _ u hu => hends _ u hu
  exact holds_pure.mpr (hends _ u hu)

/-- The ledger's part of a safe walk. -/
theorem Walked.holds_recoverKeptLedger (hon : config.rollbackOnCrashRecovery = true)
    (hsafe : RecoverySafe hosts before.journal before.ledger) (hstart : Walked before [] before) :
    Holds (recoverKeptLedger config hosts) (RetiredDischarged before)
      (fun r v => match r with
        | .ok outcomes => (∃ l, parseKeptLedger before.ledger = .ok l) ∧
          ∃ log, Walked before log v ∧
            WalkSafe hosts before.ledgerEntries outcomes.length log (journalItems before.journal) ∧
            ∀ e ∈ before.ledgerEntries, e.rollbackToken ∈ log ∨ ∃ o ∈ outcomes, o.isFaulted = true
        | .error _ => RetiredDischarged before v) before := by
  have hread := hstart.same before.same_drawn
  rw [recoverKeptLedger, holds_bind]
  refine holds_durableRead hread.toRetiredDischarged ?_ fun _ => hread.toRetiredDischarged
  unfold RecoverySafe at hsafe
  cases hledger : parseKeptLedger before.ledger with
  | error e => exact hread.toRetiredDischarged
  | ok l =>
    rw [hledger] at hsafe
    dsimp only at hsafe
    rw [(parseKeptLedger_eq_ok hledger).1] at hsafe
    show Holds (recoverEntries config hosts 0 l.entries) _ _ _
    rw [(parseKeptLedger_eq_ok hledger).1]
    refine (hread.holds_recoverEntries hon ⟨l, hledger⟩ hsafe).mono (fun _ h => h) ?_
    rintro (e | outcomes) v hv
    · exact hv
    · obtain ⟨log, hwalked, -, hlength, hrest, hentries⟩ := hv
      rw [Nat.zero_add, ← hlength] at hrest
      exact ⟨⟨l, rfl⟩, log, hwalked, hrest, hentries⟩

/-- The entries of a readable ledger are those of the file. -/
theorem parseKeptLedger_content {w : World} {l : KeptLedger}
    (hreadable : ∃ l, parseKeptLedger w.ledger = .ok l) (hl : w.ledger = .content l) :
    w.ledgerEntries = l.entries := by
  obtain ⟨l', hparsed⟩ := hreadable
  unfold ledgerEntries
  rw [hl] at hparsed ⊢
  unfold parseKeptLedger at hparsed
  dsimp only at hparsed ⊢
  split at hparsed
  · rename_i hversion
    rw [if_pos hversion]
  · cases hparsed

theorem recoverySound_of_safe (hon : config.rollbackOnCrashRecovery = true)
    (hsafe : RecoverySafe hosts before.journal before.ledger) (hstart : Walked before [] before) :
    RecoverySound config hosts before := by
  have hstopped : ∀ (e : AnyError) v, RetiredDischarged before v →
      RecoveryEnds config before (.error e) v := fun e v hv => ⟨hv, fun _ he => nomatch he⟩
  refine (hstart.holds_recoverKeptLedger hon hsafe).bind ?_ hstopped
  rintro kept v ⟨hreadable, log, hv, hrest, hentries⟩
  refine (hv.holds_recoverJournalRecord hon hreadable hrest).bind ?_ hstopped
  rintro outcome u ⟨log', hu, hsub, hjournal⟩
  refine holds_pure.mpr ⟨hu.toRetiredDischarged, ?_⟩
  rintro _ ⟨⟩ - token hdurable
  rw [hu.discharged]
  obtain ⟨l, hl, e, he, rfl⟩ | ⟨r, hr, htoken⟩ := hdurable
  · rw [← parseKeptLedger_content hreadable hl] at he
    exact (hentries e he).imp (fun ht => hsub ht) fun hfault =>
      combineOutcomes_isFaulted (.inr hfault)
  · exact (hjournal r token hr htoken).imp_right fun hfault =>
      combineOutcomes_isFaulted (.inl hfault)

end Sound

/-! ## Sound walks are safe

Every schedule has to be sound, so it is enough to follow one: the reads that ask
whether the journal names a token fail, so that the journal stays, and a report
fails right after the step in question. -/

section Safe
variable {config : StartupRecoveryConfig} {w : World}

theorem canEnd_recordRecovery (what : String) : CanEnd (recordRecovery what) w (.ok ()) w :=
  CanEnd.durable_done fun _ => rfl

theorem canEnd_recordOutcome (outcome : StartupRecoveryOutcome) :
    CanEnd (do
      recordRecovery "audit event"
      recordRecovery "history event"
      recordRecovery "daemon state snapshot"
      return outcome) w (.ok outcome) w := by
  refine (canEnd_recordRecovery _).bind ?_
  refine (canEnd_recordRecovery _).bind ?_
  exact (canEnd_recordRecovery _).bind (CanEnd.pure outcome)

theorem canEnd_journalNamesToken (token : RollbackToken) :
    CanEnd (journalNamesToken token) w (.ok false) w :=
  CanEnd.durableRead_failed.attempt.bind (CanEnd.pure false)

theorem canEnd_authorizedRollback (host : StartupHost) (token : RollbackToken) :
    ∃ r v, CanEnd (do
      ofExcept (requireAutomaticRecovery token)
      host.rollback token) w r v ∧ r.isOk = (host.rollbackAnswer token).isOk ∧
      v.journal = w.journal ∧ v.ledger = w.ledger ∧
      v.discharged = w.discharged ++ newlyDischarged host token := by
  cases hauth : requireAutomaticRecovery token with
  | error e =>
    refine ⟨.error e, w, (CanEnd.ofExcept _).bind_error, ?_, rfl, rfl, ?_⟩
    · simp [StartupHost.rollbackAnswer, hauth, bind, Except.bind]
    · simp [newlyDischarged, StartupHost.discharges, hauth, Except.isOk, Except.toBool]
  | ok _ =>
    have hpart : CanEnd (update (restore · token (host.undone token))) w (.ok ())
        (w.restore token (host.undone token)) := CanEnd.update fun _ => rfl
    refine ⟨host.rollbackAnswer token, if host.discharges token then
      ((w.restore token (host.undone token)).restore token fun _ => true).discharge token
      else w.restore token (host.undone token), ?_, rfl, ?_⟩
    · refine (CanEnd.ofExcept _).bind (hpart.bind ?_)
      cases host.discharges token with
      | true => exact (CanEnd.update fun _ => rfl).bind (CanEnd.ofExcept _)
      | false => exact CanEnd.ofExcept _
    · unfold newlyDischarged
      cases host.discharges token with
      | true => exact ⟨rfl, rfl, rfl⟩
      | false => exact ⟨rfl, rfl, (List.append_nil _).symm⟩

/-- A restore can be followed by the next one, with the journal as it was. -/
theorem canEnd_recoverAppliedJournalRecord (host : StartupHost) (id : ExperimentId)
    (action : ActionId) (token : RollbackToken) (hon : config.rollbackOnCrashRecovery = true)
    (hreadable : ∃ l, parseKeptLedger w.ledger = .ok l) :
    ∃ outcome v, CanEnd (recoverAppliedJournalRecord config host id action token .ledger) w
        (.ok outcome) v ∧ v.journal = w.journal ∧ (∃ l, parseKeptLedger v.ledger = .ok l) ∧
      v.discharged = w.discharged ++ newlyDischarged host token := by
  obtain ⟨r, v, hend, -, hjournal, hledger, hlog⟩ := @canEnd_authorizedRollback w host token
  unfold recoverAppliedJournalRecord
  simp only [hon, Bool.not_true, Bool.false_eq_true, if_false]
  cases r with
  | error e =>
    refine ⟨_, v, hend.attempt.bind (canEnd_recordOutcome _), hjournal, ?_, hlog⟩
    rwa [hledger]
  | ok summary =>
    obtain ⟨l, hl⟩ := hreadable
    obtain ⟨u, file, hretire, hset, hparsed, -⟩ := CanEnd.retireKept (hledger.symm ▸ hl)
    refine ⟨_, u, hend.attempt.bind ((canEnd_journalNamesToken token).bind
      (hretire.bind (canEnd_recordOutcome _))), ?_, ?_, ?_⟩
    · rw [hset]
      exact hjournal
    · rw [hset]
      exact hparsed
    · rw [hset]
      exact hlog

/-- A restore answered `Ok` can fail right after it dropped what it drops. -/
theorem canEnd_recoverAppliedJournalRecord_dropped (host : StartupHost) (id : ExperimentId)
    (action : ActionId) (token : RollbackToken) (source : RecoverySource)
    (hon : config.rollbackOnCrashRecovery = true)
    (hreadable : ∃ l, parseKeptLedger w.ledger = .ok l)
    (hok : (host.rollbackAnswer token).isOk = true) :
    ∃ e v, CanEnd (recoverAppliedJournalRecord config host id action token source) w
        (.error e) v ∧ v.ledgerEntries = w.ledgerEntries.filter (fun e => e.experimentId ≠ id) ∧
      (source = .journal → v.journal = .content .clean) ∧
      v.discharged = w.discharged ++ newlyDischarged host token := by
  obtain ⟨r, v, hend, hanswer, -, hledger, hlog⟩ := @canEnd_authorizedRollback w host token
  unfold recoverAppliedJournalRecord
  simp only [hon, Bool.not_true, Bool.false_eq_true, if_false]
  cases r with
  | error e =>
    rw [hok] at hanswer
    cases hanswer
  | ok summary =>
    obtain ⟨l, hl⟩ := hreadable
    have hentries : v.ledgerEntries = w.ledgerEntries := ledgerEntries_congr hledger
    cases source with
    | ledger =>
      obtain ⟨u, file, hretire, hset, -, hleft⟩ := CanEnd.retireKept (hledger.symm ▸ hl)
      refine ⟨_, u, hend.attempt.bind ((canEnd_journalNamesToken token).bind
        (hretire.bind CanEnd.durable_failed.bind_error)), hentries ▸ hleft, by simp, ?_⟩
      rw [hset]
      exact hlog
    | journal =>
      have hl' : parseKeptLedger (v.setJournal .clean).ledger = .ok l := hledger.symm ▸ hl
      obtain ⟨u, file, hretire, hset, -, hleft⟩ := CanEnd.retireKept hl'
      refine ⟨_, u, hend.attempt.bind ((canEnd_journalNamesToken token).bind
        (CanEnd.writeControllerJournalClean.bind (hretire.bind CanEnd.durable_failed.bind_error))),
        hentries ▸ hleft, ?_, ?_⟩
      · rw [hset]
        exact fun _ => rfl
      · rw [hset]
        exact hlog

/-- The entries can all be restored or faulted, with the journal as it was. -/
theorem canEnd_recoverEntries (hosts : Nat → StartupHost) (n : Nat)
    (entries : List KeptLedgerEntry) (hon : config.rollbackOnCrashRecovery = true)
    (hreadable : ∃ l, parseKeptLedger w.ledger = .ok l) :
    ∃ outcomes v, CanEnd (recoverEntries config hosts n entries) w (.ok outcomes) v ∧
      outcomes.length = entries.length ∧ v.journal = w.journal ∧
      (∃ l, parseKeptLedger v.ledger = .ok l) ∧
      v.discharged = w.discharged ++ walkDischarges hosts n (entries.map (·.item)) := by
  induction entries generalizing n w with
  | nil => exact ⟨[], w, CanEnd.ret [], rfl, rfl, hreadable, (List.append_nil _).symm⟩
  | cons entry entries ih =>
    obtain ⟨outcome, v, hend, hjournal, hv, hlog⟩ := canEnd_recoverAppliedJournalRecord (hosts n)
      entry.experimentId entry.actionId entry.rollbackToken hon hreadable
    obtain ⟨outcomes, u, hrest, hlength, hjournal', hu, hlog'⟩ := ih (n + 1) hv
    refine ⟨outcome :: outcomes, u, hend.bind (hrest.bind (CanEnd.pure _)),
      congrArg (· + 1) hlength, hjournal'.trans hjournal, hu, ?_⟩
    rw [hlog', hlog, List.append_assoc]
    rfl

variable {hosts : Nat → StartupHost}

theorem walkSafe_append {entries : List KeptLedgerEntry} {n : Nat}
    {log : List RollbackToken} {items items' : List RecoveryItem}
    (h : WalkSafe hosts entries n log items)
    (h' : WalkSafe hosts entries (n + items.length) (log ++ walkDischarges hosts n items) items') :
    WalkSafe hosts entries n log (items ++ items') := by
  induction items generalizing n log with
  | nil => simpa [walkDischarges] using h'
  | cons item items ih =>
    refine ⟨h.1, ih h.2 ?_⟩
    rw [List.length_cons, walkDischarges, ← List.append_assoc] at h'
    rwa [show n + 1 + items.length = n + (items.length + 1) by omega]

/-- A restore that drops `item` is sound only if the dropped tokens are discharged. -/
theorem dropped_discharged {before v : World} {log : List RollbackToken} {item : RecoveryItem}
    (hretired : RetiredDischarged before { v with io := [] })
    (hleft : ∀ e ∈ v.ledgerEntries, e.experimentId ≠ item.experimentId)
    (hown : item.token ∈ v.discharged) (hlog : v.discharged = log) :
    ∀ token, Drops before.ledgerEntries item token → token ∈ log := by
  rintro token (rfl | ⟨e, he, hid, rfl⟩)
  · exact hlog ▸ hown
  · rcases hretired.ledger e he with hkept | hgone
    · exact absurd hid (hleft e hkept)
    · exact hlog ▸ hgone

/-- The entries' part of the walk, from every way it can be stopped. -/
theorem walkSafe_recoverEntries {before : World} {n : Nat}
    {entries : List KeptLedgerEntry} (hon : config.rollbackOnCrashRecovery = true)
    (hreadable : ∃ l, parseKeptLedger w.ledger = .ok l) (hsub : entries ⊆ before.ledgerEntries)
    (hsound : ∀ e v, CanEnd (recoverEntries config hosts n entries) w (.error e) v →
      RetiredDischarged before { v with io := [] }) :
    WalkSafe hosts before.ledgerEntries n w.discharged (entries.map (·.item)) := by
  induction entries generalizing n w with
  | nil => trivial
  | cons entry entries ih =>
    refine ⟨fun hok => ?_, ?_⟩
    · obtain ⟨e, v, hend, hleft, -, hlog⟩ := canEnd_recoverAppliedJournalRecord_dropped (hosts n)
        entry.experimentId entry.actionId entry.rollbackToken .ledger hon hreadable hok
      have hretired := hsound e v hend.bind_error
      have hgone : ∀ e ∈ v.ledgerEntries, e.experimentId ≠ entry.experimentId := by
        intro e he
        rw [hleft, List.mem_filter] at he
        simpa using he.2
      refine dropped_discharged hretired hgone ?_ hlog
      -- the entry itself is gone, so its token must be discharged
      rcases hretired.ledger entry (hsub (List.mem_cons_self ..)) with hkept | hdone
      · exact absurd rfl (hgone entry hkept)
      · exact hdone
    · obtain ⟨outcome, v, hend, -, hv, hlog⟩ := canEnd_recoverAppliedJournalRecord (hosts n)
        entry.experimentId entry.actionId entry.rollbackToken hon hreadable
      have htail := ih (n := n + 1) hv (fun e he => hsub (List.mem_cons_of_mem _ he))
        fun e u hu => hsound e u (hend.bind hu.bind_error)
      rwa [hlog] at htail

/-- The journal's part of the walk. -/
theorem walkSafe_journal {before : World} {n : Nat} (hon : config.rollbackOnCrashRecovery = true)
    (hreadable : ∃ l, parseKeptLedger w.ledger = .ok l) (hjournal : w.journal = before.journal)
    (hsound : ∀ e v, CanEnd (recoverJournalRecord config (hosts n)) w (.error e) v →
      RetiredDischarged before { v with io := [] }) :
    WalkSafe hosts before.ledgerEntries n w.discharged (journalItems before.journal) := by
  unfold journalItems
  rw [← hjournal]
  cases hparsed : parseControllerJournal w.journal with
  | error e => trivial
  | ok r =>
    dsimp only
    obtain ⟨token, htoken, heq⟩ | ⟨hnone, -⟩ := @recoverRecord_cases config (hosts n) r
    · rw [htoken]
      refine ⟨fun hok => ?_, trivial⟩
      obtain ⟨e, v, hend, hleft, hclean, hlog⟩ := canEnd_recoverAppliedJournalRecord_dropped
        (hosts n) (journalExperimentAction r).1 (journalExperimentAction r).2 token .journal hon
        hreadable hok
      have hread : CanEnd readControllerJournal w (.ok r) w :=
        hparsed ▸ CanEnd.durableRead_done fun _ => rfl
      have hretired := hsound e v (hread.bind (heq ▸ hend))
      refine dropped_discharged hretired ?_ ?_ hlog
      · intro e he
        rw [hleft, List.mem_filter] at he
        simpa using he.2
      · -- the record is gone, so its token must be discharged
        have hcontent : w.journal = .content r := by
          obtain ⟨-, rfl⟩ | hcontent := parseControllerJournal_eq_ok hparsed
          · cases htoken
          · exact hcontent
        rcases hretired.journal r token (hjournal ▸ hcontent) htoken with hkept | hdone
        · have hrecord : StoreFile.content ControllerJournalRecord.clean = .content r :=
            (hclean rfl).symm.trans hkept
          cases hrecord
          cases htoken
        · exact hdone
    · rw [hnone]
      trivial

/-- A recovery that is sound under every schedule is safe. -/
theorem recoverySafe_of_sound
    {journal : StoreFile ControllerJournalRecord} {ledger : StoreFile KeptLedger}
    {writes : List HostWrite} (hon : config.rollbackOnCrashRecovery = true)
    (h : ∀ io, RecoverySound config hosts (startup journal ledger writes io)) :
    RecoverySafe hosts journal ledger := by
  have hall : ∀ io, Holds (recoverControllerJournal config hosts) (fun _ => True)
      (fun _ v => RetiredDischarged (startup journal ledger writes []) v)
      { startup journal ledger writes [] with io := io } := fun io =>
    (h io).mono (fun _ _ => trivial)
      fun _ _ hv => ⟨hv.retired.unreadable, hv.retired.ledger, hv.retired.journal⟩
  unfold RecoverySafe
  cases hledger : parseKeptLedger ledger with
  | error e => trivial
  | ok l =>
    have hread : CanEnd readKeptLedger (startup journal ledger writes []) (.ok l)
        (startup journal ledger writes []) :=
      hledger ▸ CanEnd.durableRead_done fun _ => rfl
    have hentries : l.entries = (startup journal ledger writes []).ledgerEntries :=
      (parseKeptLedger_eq_ok hledger).1
    have hreadable : ∃ l, parseKeptLedger (startup journal ledger writes []).ledger = .ok l :=
      ⟨l, hledger⟩
    dsimp only
    rw [hentries]
    refine walkSafe_append ?_ ?_
    · refine walkSafe_recoverEntries hon hreadable (fun _ h => h) fun e v hv => ?_
      exact (hread.bind (hentries ▸ hv)).bind_error.elim hall
    · obtain ⟨outcomes, v, hend, hlength, hjournal, hv, hlog⟩ := canEnd_recoverEntries hosts 0
        (startup journal ledger writes []).ledgerEntries hon hreadable
      rw [Nat.zero_add, List.length_map, ← hlength]
      rw [show (startup journal ledger writes []).discharged = [] from rfl] at hlog
      rw [← hlog]
      have hkept : CanEnd (recoverKeptLedger config hosts) (startup journal ledger writes [])
          (.ok outcomes) v := hread.bind (hentries ▸ hend)
      refine walkSafe_journal hon hv hjournal fun e u hu => ?_
      exact (hkept.bind hu.bind_error).elim hall

/-- **Startup recovery retires discharged tokens only, exactly when it may not restore
or its walk is safe.**  At every step of every recovery whatever is gone from the
ledger or the journal was discharged, and an undischarged token is reported as a
fault, if and only if rollback is disabled, or each time the executor answers `Ok`
every token that is dropped for it is discharged by then. -/
theorem recoverControllerJournal_sound_iff (config : StartupRecoveryConfig)
    (hosts : Nat → StartupHost) (journal : StoreFile ControllerJournalRecord)
    (ledger : StoreFile KeptLedger) (writes : List HostWrite) :
    (∀ io, RecoverySound config hosts (startup journal ledger writes io)) ↔
      (config.rollbackOnCrashRecovery = false ∨ RecoverySafe hosts journal ledger) := by
  constructor
  · intro h
    cases hconfig : config.rollbackOnCrashRecovery with
    | false => exact .inl rfl
    | true => exact .inr (recoverySafe_of_sound hconfig h)
  · intro h io
    have hstart := Walked.start journal ledger writes io
    cases hconfig : config.rollbackOnCrashRecovery with
    | false => exact recoverySound_of_disabled hconfig hstart
    | true =>
      refine recoverySound_of_safe hconfig (h.resolve_left ?_) hstart
      simp [hconfig]

/-- An ordinary user's host without a worker.  The task that is there was started at tick 9000, so a
record without a start is not verified and one with another start is of another task.  The kernel
refuses to lower the task's nice value again. -/
def refusedNiceHost : StartupHost where
  registry := niceRestoreToken true
    { status := fun record =>
        match record.identity.bind (·.starttimeTicks) with
        | none => .unknownLegacy
        | some expected =>
          if expected = 9000 then .sameTask
          else .mismatch s!"starttime_ticks mismatch: expected={expected} actual=9000"
      setTaskNice := fun _ => .error (.failed "EACCES") }
  worker := none
  restoreFileExists _ := true
  undone _ _ := false
  manualRestoreCommand _ := "renice 0 -p 42"

/-- The journal of a crashed controller that had demoted one task. -/
def interruptedNiceRecord : ControllerJournalRecord :=
  phaseRecord .applied "exp-1" "nice" (some (.niceRestore [demotedRecord])) {}

/-- The handler answers `Ok` with one error; recovery clears the journal, discharges
nothing and reports `Recovered`. -/
theorem recoverControllerJournal_drops_refused_token :
    (refusedNiceHost.registry (.niceRestore [demotedRecord])).toOption.map (·.errors) = some 1 ∧
    ((recoverControllerJournal ⟨true⟩ fun _ => refusedNiceHost).run
      (.startup (.content interruptedNiceRecord) .missing [.nice demotedRecord] [])).state.journal =
        .content .clean ∧
    ¬ RecoverySound ⟨true⟩ (fun _ => refusedNiceHost)
      (.startup (.content interruptedNiceRecord) .missing [.nice demotedRecord] []) := by
  refine ⟨rfl, rfl, fun h => ?_⟩
  rcases h.2.retired.journal interruptedNiceRecord _ rfl rfl with hkept | hdischarged
  · cases hkept
  · cases hdischarged

end Safe
end Stutter

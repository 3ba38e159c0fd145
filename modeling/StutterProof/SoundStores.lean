import StutterProof.ManagerEffects

/-! # Side effects over sound stores

No durable access fails, and the ledger can be read: what the manager's operations then
do to the journal and the ledger.  Only the executor can still fail, and the
verification of a rollback object; `R` below lists what a rollback may answer, so that
the same rules serve a session in which everything succeeds and one in which the host
does not play along. -/
namespace Stutter
open Fallible

/-- No failure is scheduled, and the ledger can be read. -/
structure World.Sound (w : World) : Prop where
  io : ∀ outcome ∈ w.io, outcome = .done
  ledger : ∃ ledger, parseKeptLedger w.ledger = .ok ledger

namespace World.Sound
variable {w : World}

theorem next (h : w.Sound) : w.io.head?.getD .done = .done := by
  cases hio : w.io with
  | nil => rfl
  | cons outcome rest => exact h.io outcome (hio ▸ List.mem_cons_self ..)

theorem drawn (h : w.Sound) : w.drawn.Sound :=
  ⟨fun outcome hmem => h.io outcome (List.mem_of_mem_tail hmem), h.ledger⟩

theorem setJournal (h : w.Sound) (r : ControllerJournalRecord) : (w.setJournal r).Sound :=
  ⟨h.io, h.ledger⟩

/-- The host's writes and the histories do not matter. -/
theorem of_eq (h : w.Sound) {v : World} (hio : v.io = w.io) (hledger : v.ledger = w.ledger) :
    v.Sound :=
  ⟨hio ▸ h.io, hledger ▸ h.ledger⟩

end World.Sound

open Op

section Stores
variable {w : World} {Q : Except AnyError Unit → World → Prop}

theorem holds_durable_sound {what : String} {change : World → World} (hw : w.Sound)
    (h : Q (.ok ()) (change w.drawn)) : Holds (durable what change) (fun _ => True) Q w :=
  holds_durable_done hw.next ⟨trivial, h⟩

theorem holds_durableRead_sound {α : Type} {what : String} {read : World → Except AnyError α}
    {Q : Except AnyError α → World → Prop} (hw : w.Sound) (h : Q (read w) w.drawn) :
    Holds (durableRead what read) (fun _ => True) Q w := by
  rw [durableRead, holds_act, hw.next]
  exact ⟨trivial, h⟩

/-- A ledger of the current schema can be read back. -/
theorem parseKeptLedger_written {ledger : KeptLedger}
    (h : ledger.schemaVersion = keptLedgerSchemaVersion) :
    parseKeptLedger (.content ledger) = .ok ledger := if_pos h

theorem holds_writeKeptLedger_sound {ledger : KeptLedger} (hw : w.Sound)
    (hversion : ledger.schemaVersion = keptLedgerSchemaVersion)
    (h : ∀ v, v.Sound → w.LedgerBecomes v ledger.entries → Q (.ok ()) v) :
    Holds (writeKeptLedger ledger) (fun _ => True) Q w := by
  refine holds_durable_sound hw (h _ ⟨hw.drawn.io, _, parseKeptLedger_written hversion⟩ ?_)
  exact ⟨rfl, rfl, rfl, rfl, if_pos hversion⟩

/-- Recording puts the entry in the place of its experiment's. -/
theorem holds_recordKept_sound {entry : KeptLedgerEntry} (hw : w.Sound)
    (h : ∀ v, v.Sound → w.LedgerBecomes v
      (w.ledgerEntries.filter (fun e => e.experimentId ≠ entry.experimentId) ++ [entry]) →
      Q (.ok ()) v) : Holds (recordKept entry) (fun _ => True) Q w := by
  obtain ⟨ledger, hread⟩ := hw.ledger
  obtain ⟨hentries, hversion⟩ := parseKeptLedger_eq_ok hread
  rw [recordKept, holds_bind]
  refine holds_durableRead_sound hw ?_
  rw [hread]
  refine holds_writeKeptLedger_sound hw.drawn hversion ?_
  intro v hv hbecomes
  refine h v hv ⟨hbecomes.journal, hbecomes.writes, hbecomes.journalWrites, hbecomes.discharged, ?_⟩
  rw [hbecomes.entries, KeptLedger.record, hentries]

/-- Retiring removes the experiment's entries. -/
theorem holds_retireKept_sound {experimentId : ExperimentId} (hw : w.Sound)
    (h : ∀ v, v.Sound → w.LedgerBecomes v
      (w.ledgerEntries.filter fun e => e.experimentId ≠ experimentId) → Q (.ok ()) v) :
    Holds (retireKept experimentId) (fun _ => True) Q w := by
  obtain ⟨ledger, hread⟩ := hw.ledger
  obtain ⟨hentries, hversion⟩ := parseKeptLedger_eq_ok hread
  rw [retireKept, holds_bind]
  refine holds_durableRead_sound hw ?_
  rw [hread]
  dsimp only
  split
  · -- nothing to retire: the filter kept every entry
    rename_i hlength
    refine holds_ret.mpr (h _ hw.drawn ⟨rfl, rfl, rfl, rfl, ?_⟩)
    rw [World.drawn_ledgerEntries, ← hentries]
    exact (List.filter_sublist.eq_of_length hlength).symm
  · split
    · rename_i hempty
      refine holds_durable_sound hw.drawn (h _ ⟨hw.drawn.drawn.io, _, rfl⟩ ⟨rfl, rfl, rfl, rfl, ?_⟩)
      rw [← hentries]
      exact (List.isEmpty_iff.mp hempty).symm
    · refine holds_writeKeptLedger_sound hw.drawn hversion ?_
      intro v hv hbecomes
      refine h v hv
        ⟨hbecomes.journal, hbecomes.writes, hbecomes.journalWrites, hbecomes.discharged, ?_⟩
      rw [hbecomes.entries, KeptLedger.retire, hentries]

end Stores

/-! ## The manager's operations -/

section Manager
variable {input : LiveExperimentManagerInput} {host : ManagerHost} {executor : ActionExecutor}
  {observation : AutotuneObservation} {s : ManagerState} {experiment : LiveExperiment}

theorem experimentIdFor_nonblank (input : LiveExperimentManagerInput)
    (observation : AutotuneObservation) (candidate : CandidateAction) :
    (experimentIdFor input observation candidate).toList.all isTrimmed = false := by
  unfold experimentIdFor
  simp only [toString, String.toList_append, List.append_assoc]
  rfl

/-- The journal after a phase record of the experiment: a session without stores has none. -/
def JournalWritten (input : LiveExperimentManagerInput) (host : ManagerHost)
    (observation : AutotuneObservation) (experiment : LiveExperiment)
    (state : ControllerJournalState) (before w : World) : Prop :=
  if input.storeless then w.journal = before.journal
  else ∃ text, w.journal = .content (journalRecordFor input host observation experiment state text)

theorem JournalWritten.of_eq {state : ControllerJournalState} {before v w : World}
    (h : JournalWritten input host observation experiment state before v)
    (hjournal : w.journal = v.journal) :
    JournalWritten input host observation experiment state before w := by
  unfold JournalWritten at h ⊢
  rw [hjournal]
  exact h

/-- A later record takes the place of an earlier one. -/
theorem JournalWritten.after {state state' : ControllerJournalState} {before v w : World}
    (h : JournalWritten input host observation experiment state before v)
    (h' : JournalWritten input host observation experiment state' v w) :
    JournalWritten input host observation experiment state' before w := by
  unfold JournalWritten at h h' ⊢
  split
  · rename_i hstoreless
    rw [if_pos hstoreless] at h h'
    exact h'.trans h
  · rename_i hstoreless
    rw [if_neg hstoreless] at h'
    exact h'

variable {Q : Except AnyError Unit → ManagerState → Prop}

theorem holds_writeJournalPhaseFor_sound {state : ControllerJournalState} {text : String}
    (hs : s.world.Sound)
    (h : ∀ v : World, v.Sound → v.ledger = s.world.ledger →
      JournalWritten input host observation experiment state s.world v → Q (.ok ()) (s.over v)) :
    Holds (writeJournalPhaseFor input host observation experiment state text)
      (fun _ => True) Q s := by
  unfold writeJournalPhaseFor
  by_cases hstoreless : input.storeless = true
  · rw [if_pos hstoreless, holds_ret]
    refine h s.world hs rfl ?_
    unfold JournalWritten
    rw [if_pos hstoreless]
  · rw [if_neg hstoreless, holds_onStore]
    refine holds_durable_sound hs (h _ (hs.drawn.setJournal _) rfl ?_)
    unfold JournalWritten
    rw [if_neg hstoreless]
    exact ⟨text, rfl⟩

theorem holds_retireKeptDurably_sound {experimentId : ExperimentId} (hs : s.world.Sound)
    (h : ∀ v, v.Sound → s.world.LedgerBecomes v
      (s.world.ledgerEntries.filter fun e => e.experimentId ≠ experimentId) →
        Q (.ok ()) (s.over v)) :
    Holds (retireKeptDurably experimentId) (fun _ => True) Q s := by
  unfold retireKeptDurably
  rw [holds_bind, holds_attempt, holds_onStore]
  exact holds_retireKept_sound hs fun v hv hbecomes => holds_pure.mpr (h v hv hbecomes)

/-- What a rollback of the executor may answer, over stores that it leaves alone. -/
def RollbackAnswers (executor : ActionExecutor)
    (R : LiveExperiment → Except AnyError (Option ActiveConfigSnapshot) → Prop) : Prop :=
  ∀ experiment (w : World), w.Sound →
    Holds (executor.rollbackCandidate experiment) (fun _ => True)
      (fun r v => v.Sound ∧ v.journal = w.journal ∧ v.ledger = w.ledger ∧ R experiment r) w

/-- A simulated rollback answers without a snapshot. -/
theorem holds_rollbackThroughExecutor_sound
    {R : LiveExperiment → Except AnyError (Option ActiveConfigSnapshot) → Prop}
    {Q : Except AnyError (Option ActiveConfigSnapshot) → ManagerState → Prop}
    (hexecutor : RollbackAnswers executor R) (hs : s.world.Sound)
    (h : ∀ answer (t : ManagerState), t.world.Sound → t.world.journal = s.world.journal →
      t.world.ledger = s.world.ledger → t.Holds s.current s.controller s.keptActions →
      (input.simulateActionEffects = true ∧ answer = .ok none) ∨ R experiment answer → Q answer t) :
    Holds (rollbackThroughExecutor input executor experiment) (fun _ => True) Q s := by
  refine holds_rollbackThroughExecutor ?_ ?_
  · exact fun hsim => h _ s hs rfl rfl ⟨rfl, rfl, rfl⟩ (.inl ⟨hsim, rfl⟩)
  · intro _
    refine (hexecutor experiment s.world hs).mono (fun _ h => h) ?_
    rintro answer v ⟨hv, hjournal, hledger, hanswer⟩
    exact h answer _ hv hjournal hledger ⟨rfl, rfl, rfl⟩ (.inr hanswer)

/-- How the rollback of a taken experiment ends. -/
inductive RollbackSettled (input : LiveExperimentManagerInput) (host : ManagerHost)
    (observation : AutotuneObservation) (experiment : LiveExperiment)
    (R : LiveExperiment → Except AnyError (Option ActiveConfigSnapshot) → Prop) (before : World) :
    Except AnyError LiveExperimentOutcome → ManagerState → Prop where
  | failed {t : ManagerState} (e : AnyError) (hanswer : R experiment (.error e))
      (hcurrent : t.current = some experiment)
      (hjournal : JournalWritten input host observation experiment .reverting before t.world) :
      RollbackSettled input host observation experiment R before (.error e) t
  | unverified {t : ManagerState} (snapshot : Option ActiveConfigSnapshot)
      (verification : RollbackVerification) (outcome : LiveExperimentOutcome)
      (hsim : input.simulateActionEffects = false) (hanswer : R experiment (.ok snapshot))
      (hobjects : unverified input host observation experiment snapshot = some verification)
      (hevent : outcome.event = .faulted) (hcurrent : t.current = some experiment)
      (hjournal : JournalWritten input host observation experiment .faulted before t.world) :
      RollbackSettled input host observation experiment R before (.ok outcome) t
  | reverted {t : ManagerState} (outcome : LiveExperimentOutcome)
      (hevent : outcome.event = .reverted)
      (hcurrent : t.current = none)
      (hjournal : JournalWritten input host observation experiment .reverted before t.world) :
      RollbackSettled input host observation experiment R before (.ok outcome) t

variable {R : LiveExperiment → Except AnyError (Option ActiveConfigSnapshot) → Prop}

/-- The frame of an operation on the stores: sound as before, the ledger left alone, the kept
actions as they were. -/
structure ManagerState.LedgerFrame (t s : ManagerState) : Prop where
  sound : t.world.Sound
  ledger : t.world.ledger = s.world.ledger
  kept : t.keptActions = s.keptActions

variable {reason : String}

theorem holds_rollbackTaken_sound (hexecutor : RollbackAnswers executor R) (hs : s.world.Sound)
    (hcurrent : s.current = none) :
    Holds (rollbackTaken input host executor observation experiment reason) (fun _ => True)
      (fun r t => t.LedgerFrame s ∧
        RollbackSettled input host observation experiment R s.world r t) s := by
  rw [rollbackTaken, holds_bind, holds_attempt]
  refine holds_writeJournalPhaseFor_sound hs fun v hv hledger hreverting => ?_
  dsimp only
  rw [holds_bind, holds_attempt]
  refine holds_rollbackThroughExecutor_sound hexecutor hv
    fun answer t ht hjournal hledger' hheld hanswer => ?_
  have hframe : t.world.ledger = s.world.ledger := hledger'.trans hledger
  have hwritten := hreverting.of_eq hjournal
  cases answer with
  | error e =>
    dsimp only
    rw [holds_bind, holds_assign]
    refine holds_fail.mpr ⟨⟨ht, hframe, hheld.kept⟩, .failed e ?_ rfl hwritten⟩
    rcases hanswer with ⟨-, hok⟩ | hanswer
    · cases hok
    · exact hanswer
  | ok snapshot =>
    dsimp only
    cases hobjects : unverified input host observation experiment snapshot with
    | none =>
      dsimp only [finishReverted]
      rw [holds_bind]
      refine holds_writeJournalPhaseFor_sound ht fun u hu hu' hreverted => ?_
      dsimp only
      rw [holds_bind, holds_assign]
      exact holds_pure.mpr ⟨⟨hu, hu'.trans hframe, hheld.kept⟩,
        .reverted _ rfl (hheld.current.trans hcurrent) (hwritten.after hreverted)⟩
    | some verification =>
      have hsim : input.simulateActionEffects = false := by
        unfold unverified at hobjects
        by_cases hsim : input.simulateActionEffects = true
        · rw [if_pos hsim] at hobjects
          cases hobjects
        · simpa using hsim
      have hanswered : R experiment (.ok snapshot) := by
        rcases hanswer with ⟨hsim', -⟩ | hanswer
        · rw [hsim] at hsim'
          cases hsim'
        · exact hanswer
      dsimp only [finishUnverified]
      rw [holds_bind]
      refine holds_writeJournalPhaseFor_sound ht fun u hu hu' hfaulted => ?_
      dsimp only
      rw [holds_bind, holds_assign]
      exact holds_pure.mpr ⟨⟨hu, hu'.trans hframe, hheld.kept⟩,
        .unverified snapshot verification _ hsim hanswered hobjects rfl rfl
          (hwritten.after hfaulted)⟩

theorem holds_rollbackActive_sound (hexecutor : RollbackAnswers executor R) (hs : s.world.Sound)
    (hcurrent : s.current = some experiment) :
    Holds (rollbackActiveExperiment input host executor observation reason) (fun _ => True)
      (fun r t => t.LedgerFrame s ∧
        RollbackSettled input host observation experiment R s.world r t) s := by
  rw [rollbackActiveExperiment, holds_bind, holds_gets]
  dsimp only
  rw [hcurrent]
  dsimp only
  rw [holds_bind, holds_assign]
  refine (holds_rollbackTaken_sound (s := takeCurrent s) hexecutor hs rfl).mono (fun _ h => h) ?_
  rintro r t ⟨hframe, hsettles⟩
  exact ⟨⟨hframe.sound, hframe.ledger, hframe.kept⟩, hsettles⟩

/-- The ledger's entries after a keep was recorded. -/
def keptEntries (input : LiveExperimentManagerInput) (observation : AutotuneObservation)
    (experiment : LiveExperiment) (w : World) : List KeptLedgerEntry :=
  if input.storeless then w.ledgerEntries
  else w.ledgerEntries.filter (fun e => e.experimentId ≠ experiment.experimentId) ++
    [ledgerEntryFor observation experiment]

/-- How the keep of an experiment ends. -/
inductive KeepSettled (input : LiveExperimentManagerInput) (host : ManagerHost)
    (observation : AutotuneObservation) (experiment : LiveExperiment)
    (R : LiveExperiment → Except AnyError (Option ActiveConfigSnapshot) → Prop) (s : ManagerState) :
    Except AnyError LiveExperimentOutcome → ManagerState → Prop where
  | kept {t : ManagerState} (why : String) (outcome : LiveExperimentOutcome)
      (hinsert : s.keptActions.insertIfCompatible (keptStateFor observation experiment why) =
        .ok t.keptActions)
      (hevent : outcome.event = .kept) (hcurrent : t.current = none)
      (hjournal : JournalWritten input host observation experiment .keeping s.world t.world)
      (hledger : t.world.ledgerEntries = keptEntries input observation experiment s.world) :
      KeepSettled input host observation experiment R s (.ok outcome) t
  | clashed {t : ManagerState} (why : String) (e : AnyError)
      (hinsert : s.keptActions.insertIfCompatible (keptStateFor observation experiment why) =
        .error e)
      (hcurrent : t.current = some experiment) (hkept : t.keptActions = s.keptActions)
      (hjournal : JournalWritten input host observation experiment .keeping s.world t.world)
      (hledger : t.world.ledgerEntries =
        s.world.ledgerEntries.filter fun e => e.experimentId ≠ experiment.experimentId) :
      KeepSettled input host observation experiment R s (.error e) t
  | rolledBack {t : ManagerState} {answer : Except AnyError LiveExperimentOutcome}
      (hframe : t.LedgerFrame s)
      (h : RollbackSettled input host observation experiment R s.world answer t) :
      KeepSettled input host observation experiment R s answer t
  /-- The window is not measured: the experiment is not put back. -/
  | unmeasured {t : ManagerState} (e : AnyError)
      (hwindow : validateWindowScoreForApply "candidate" observation.toWindowScore = .error e) :
      KeepSettled input host observation experiment R s (.error e) t

/-- The record of a keep, once the ledger has its entry. -/
theorem holds_recordKeeping_sound {w : World}
    (h : ∀ v : World, v.Sound →
      JournalWritten input host observation experiment .keeping s.world v →
      v.ledgerEntries = keptEntries input observation experiment s.world → Q (.ok ()) (s.over v))
    (hw : w.Sound) (hjournal : w.journal = s.world.journal)
    (hentries : w.ledgerEntries = keptEntries input observation experiment s.world) :
    Holds (do
      match ← attempt (writeJournalPhaseFor input host observation experiment .keeping
          "kept_pending_manual_restore") with
      | .ok _ => return ()
      | .error e => do
        retireKeptDurably experiment.experimentId
        fail e : ManagerOp Unit) (fun _ => True) Q (s.over w) := by
  rw [holds_bind, holds_attempt]
  refine holds_writeJournalPhaseFor_sound (s := s.over w) hw fun v hv hledger hkeeping => ?_
  refine holds_pure.mpr (h v hv ?_ ?_)
  · unfold JournalWritten at hkeeping ⊢
    rw [ManagerState.over_world, hjournal] at hkeeping
    exact hkeeping
  · rw [World.ledgerEntries_congr hledger]
    exact hentries

theorem holds_commitKeepDurably_sound (hs : s.world.Sound)
    (h : ∀ v : World, v.Sound →
      JournalWritten input host observation experiment .keeping s.world v →
      v.ledgerEntries = keptEntries input observation experiment s.world → Q (.ok ()) (s.over v)) :
    Holds (commitKeepDurably input host observation experiment) (fun _ => True) Q s := by
  -- the ledger is written first, unless the session has none
  rw [commitKeepDurably, holds_bind]
  unfold recordKeptDurably
  by_cases hstoreless : input.storeless = true
  · rw [if_pos hstoreless, holds_ret]
    refine holds_recordKeeping_sound h hs rfl ?_
    rw [keptEntries, if_pos hstoreless]
  · rw [if_neg hstoreless, holds_onStore]
    refine holds_recordKept_sound hs fun v hv hbecomes => ?_
    refine holds_recordKeeping_sound h hv hbecomes.journal ?_
    rw [hbecomes.entries, keptEntries, if_neg hstoreless]
    rfl

theorem holds_keepImproved_sound {before : ManagerState} (hs : s.world.Sound)
    (hworld : s.world = before.world) (hkept : s.keptActions = before.keptActions)
    (hcurrent : s.current = none) :
    Holds (keepImproved input host observation experiment reason) (fun _ => True)
      (fun r t => t.world.Sound ∧ KeepSettled input host observation experiment R before r t)
        s := by
  rw [keepImproved, holds_bind, holds_attempt]
  refine holds_commitKeepDurably_sound hs fun v hv hkeeping hentries => ?_
  rw [hworld] at hkeeping hentries
  dsimp only
  rw [holds_bind, holds_gets]
  dsimp only
  cases hinsert : (s.over v).keptActions.insertIfCompatible
      (keptStateFor observation experiment reason) with
  | error e =>
    rw [ManagerState.over_keptActions, hkept] at hinsert
    dsimp only
    rw [holds_bind]
    refine holds_retireKeptDurably_sound hv fun u hu hbecomes => ?_
    dsimp only
    rw [holds_bind, holds_assign]
    refine holds_fail.mpr ⟨hu, .clashed reason e hinsert rfl hkept
      (hkeeping.of_eq hbecomes.journal) ?_⟩
    -- the entry just recorded is the one that goes
    have hsame : (keptEntries input observation experiment before.world).filter
        (fun e => e.experimentId ≠ experiment.experimentId) =
        before.world.ledgerEntries.filter fun e => e.experimentId ≠ experiment.experimentId := by
      unfold keptEntries
      split
      · rfl
      · rw [List.filter_append, List.filter_filter]
        simp [ledgerEntryFor]
    show u.ledgerEntries = _
    rw [hbecomes.entries, ManagerState.over_world, hentries, hsame]
  | ok set =>
    rw [ManagerState.over_keptActions, hkept] at hinsert
    dsimp only
    rw [holds_bind, holds_assign]
    exact holds_pure.mpr ⟨hv, .kept reason _ hinsert rfl hcurrent hkeeping hentries⟩

theorem holds_keepCurrent_sound (hexecutor : RollbackAnswers executor R) (hs : s.world.Sound)
    (hcurrent : s.current = some experiment) :
    Holds (keepCurrentExperiment input host executor observation reason) (fun _ => True)
      (fun r t => t.world.Sound ∧ KeepSettled input host observation experiment R s r t) s := by
  rw [keepCurrentExperiment, holds_bind, holds_gets]
  dsimp only
  rw [hcurrent]
  dsimp only
  rw [holds_bind, holds_assign]
  dsimp only
  rw [holds_bind, holds_ofExcept]
  cases hwindow : validateWindowScoreForApply "candidate" observation.toWindowScore with
  | error e => exact ⟨hs, .unmeasured e hwindow⟩
  | ok _ =>
    dsimp only
    split
    · exact holds_keepImproved_sound (s := takeCurrent s) hs rfl rfl rfl
    · rw [holds_bind, holds_assign]
      dsimp only
      have hsame : holdCurrent experiment (takeCurrent s) = s := by
        unfold holdCurrent takeCurrent
        rw [← hcurrent]
      rw [hsame]
      refine (holds_rollbackActive_sound hexecutor hs hcurrent).mono (fun _ h => h) ?_
      exact fun r t ht => ⟨ht.1.sound, .rolledBack ht.1 ht.2⟩

/-- How a start behind its gates ends; `A` is what the apply may leave. -/
inductive StartSettled (input : LiveExperimentManagerInput) (host : ManagerHost)
    (observation : AutotuneObservation) (candidate : CandidateAction)
    (A : Except AnyError RollbackToken → World → Prop) (s : ManagerState) :
    Except AnyError LiveExperimentOutcome → ManagerState → Prop where
  | failed {t : ManagerState} (e : AnyError) (w : World) (happly : A (.error e) w)
      (hcurrent : t.current = (applyFailed input observation candidate e s).current)
      (hworld : t.world = w) : StartSettled input host observation candidate A s (.error e) t
  | started {t : ManagerState} (token : RollbackToken) (w : World) (outcome : LiveExperimentOutcome)
      (happly : A (.ok token) w) (hevent : outcome.event = .started)
      (hcurrent : t.current = some (experimentFor input observation candidate token
        (deadlinesFromNow input observation.nowUnixNanos)))
      (hjournal : JournalWritten input host observation (experimentFor input observation candidate
        token (deadlinesFromNow input observation.nowUnixNanos)) .measuring w t.world) :
      StartSettled input host observation candidate A s (.ok outcome) t

theorem holds_startValidated_sound {candidate : CandidateAction}
    {A : Except AnyError RollbackToken → World → Prop}
    (happly : Holds (applyCandidateForRuntime input host executor observation candidate
        (experimentIdFor input observation candidate)) (fun _ => True)
      (fun r v => (v.Sound ∧ v.ledger = s.world.ledger) ∧ A r v) s.world) :
    Holds (startValidated input host executor observation candidate) (fun _ => True)
      (fun r t => t.LedgerFrame s ∧ StartSettled input host observation candidate A s r t) s := by
  rw [startValidated, holds_bind, holds_assign]
  dsimp only
  rw [holds_bind, holds_attempt, holds_onStore]
  refine happly.mono (fun _ h => h) ?_
  rintro (e | token) v ⟨⟨hv, hledger⟩, happlied⟩
  · dsimp only
    rw [holds_bind, holds_assign]
    have hfailed := @applyFailed_holds input observation s
      (ManagerState.over { s with failedApplyContext := none } v) candidate e ⟨rfl, rfl, rfl⟩
    have hworld : (applyFailed input observation candidate e
        (ManagerState.over { s with failedApplyContext := none } v)).world = v := by
      unfold applyFailed
      cases e.outstanding <;> rfl
    refine holds_fail.mpr ⟨⟨?_, ?_, hfailed.kept⟩, .failed e v happlied hfailed.current hworld⟩
    · rw [hworld]
      exact hv
    · rw [hworld]
      exact hledger
  · dsimp only
    rw [holds_bind, holds_assign]
    dsimp only
    rw [holds_bind]
    refine holds_writeJournalPhaseFor_sound (s := applySucceeded input observation candidate token
      (ManagerState.over { s with failedApplyContext := none } v)) hv fun u hu hu' hmeasuring => ?_
    exact holds_pure.mpr ⟨⟨hu, hu'.trans hledger, rfl⟩,
      .started token v _ happlied rfl rfl hmeasuring⟩

/-! ## Releasing -/

/-- The journal once the `Keeping` record of a token was cleared. -/
def clearedJournal (token : RollbackToken) (w : World) : StoreFile ControllerJournalRecord :=
  match parseControllerJournal w.journal with
  | .ok record =>
    if record.state = .keeping ∧ record.rollbackToken = some token then .content .clean
    else w.journal
  | .error _ => w.journal

theorem clearedJournal_congr {token : RollbackToken} {w v : World} (h : v.journal = w.journal) :
    clearedJournal token v = clearedJournal token w := by
  unfold clearedJournal
  rw [h]

theorem holds_clearJournalIfItNames_sound {token : RollbackToken} {w : World}
    {Q : Except AnyError Unit → World → Prop} (hw : w.Sound)
    (h : ∀ v : World, v.Sound → v.ledger = w.ledger → v.journal = clearedJournal token w →
      Q (.ok ()) v) : Holds (clearJournalIfItNames token) (fun _ => True) Q w := by
  rw [clearJournalIfItNames, holds_bind, holds_attempt]
  refine holds_durableRead_sound hw ?_
  unfold clearedJournal at h
  cases hread : parseControllerJournal w.journal with
  | error e =>
    rw [hread] at h
    exact holds_pure.mpr (h _ hw.drawn rfl rfl)
  | ok record =>
    rw [hread] at h
    dsimp only at h ⊢
    split
    · rename_i hnames
      rw [if_pos hnames] at h
      rw [holds_bind, holds_attempt]
      unfold writeControllerJournalClean writeControllerJournalRecord
      refine holds_durable_sound hw.drawn ?_
      exact holds_pure.mpr (h _ (hw.drawn.drawn.setJournal _) rfl rfl)
    · rename_i hnames
      rw [if_neg hnames] at h
      exact holds_pure.mpr (h _ hw.drawn rfl rfl)

/-- How the release of one kept action ends. -/
inductive ReleaseSettled (group : ActionConflictGroup) (kept : KeptCandidateState)
    (R : LiveExperiment → Except AnyError (Option ActiveConfigSnapshot) → Prop)
    (experiment : LiveExperiment) (s : ManagerState) :
    Except AnyError Bool → ManagerState → Prop where
  | failed {t : ManagerState} (e : AnyError) (hanswer : R experiment (.error e))
      (hkept : t.keptActions = s.keptActions) (hjournal : t.world.journal = s.world.journal)
      (hledger : t.world.ledgerEntries = s.world.ledgerEntries) :
      ReleaseSettled group kept R experiment s (.ok false) t
  | restored {t : ManagerState} (hkept : t.keptActions = s.keptActions.remove group)
      (hjournal : t.world.journal = clearedJournal kept.rollback s.world)
      (hledger : t.world.ledgerEntries =
        s.world.ledgerEntries.filter fun e => e.experimentId ≠ kept.experimentId) :
      ReleaseSettled group kept R experiment s (.ok true) t

theorem holds_writeReleaseAudit_sound {w : World} {Q : Except AnyError Unit → World → Prop}
    (hw : w.Sound) (h : Q (.ok ()) w.drawn) : Holds writeReleaseAudit (fun _ => True) Q w := by
  rw [writeReleaseAudit, holds_bind, holds_attempt]
  exact holds_durable_sound hw (holds_pure.mpr h)

theorem holds_releaseKept_sound {group : ActionConflictGroup} {kept : KeptCandidateState}
    (hexecutor : RollbackAnswers executor R) (hs : s.world.Sound) :
    Holds (releaseKept input executor group kept) (fun _ => True)
      (fun r t => t.world.Sound ∧
        ReleaseSettled group kept R (kept.asExperiment input) s r t) s := by
  rw [releaseKept, holds_bind, holds_attempt]
  refine holds_rollbackThroughExecutor_sound hexecutor hs
    fun answer t ht hjournal hledger hheld hanswer => ?_
  dsimp only
  rw [holds_bind, holds_onStore]
  refine holds_writeReleaseAudit_sound ht ?_
  cases answer with
  | error e =>
    refine holds_pure.mpr ⟨ht.drawn,
      .failed e ?_ hheld.kept hjournal (World.ledgerEntries_congr hledger)⟩
    rcases hanswer with ⟨-, hok⟩ | hanswer
    · cases hok
    · exact hanswer
  | ok snapshot =>
    dsimp only
    rw [holds_bind]
    refine holds_retireKeptDurably_sound (s := t.over t.world.drawn) ht.drawn fun u hu hbecomes =>
      ?_
    dsimp only
    rw [holds_bind, holds_onStore]
    refine holds_clearJournalIfItNames_sound hu fun v hv hv' hcleared => ?_
    dsimp only
    rw [holds_bind, holds_assign]
    refine holds_pure.mpr ⟨hv, .restored ?_ ?_ ?_⟩
    · show t.keptActions.remove group = _
      rw [hheld.kept]
    · show v.journal = _
      rw [hcleared]
      exact clearedJournal_congr (hbecomes.journal.trans hjournal)
    · show v.ledgerEntries = _
      rw [World.ledgerEntries_congr hv']
      show u.ledgerEntries = _
      rw [hbecomes.entries, ManagerState.over_world, World.drawn_ledgerEntries,
        World.ledgerEntries_congr hledger]

end Manager
end Stutter

import Mathlib.Data.List.Nodup
import StutterProof.PhaseBookkeeping
import StutterProof.RecoveryCalls
import StutterProof.SoundExecutor

/-! # Recovery agrees with the controller

The controller's kept actions and its experiment, the kept-action ledger and the journal
are three copies of one set.  Over sound stores they agree between any two calls of the
runtime: the ledger holds the kept actions, entry for entry (`StoresAgree`), and the
journal's unfinished token is the experiment's, or a kept action's (`JournalAgrees`).
A startup recovery on these stores then rolls back exactly what the controller
believes is applied.

One exception is by design: an apply that failed and could not be rolled back leaves its
token in the journal for the recovery, and a runtime that has faulted and holds
nothing (`FailedStart`). -/
namespace Stutter
open Fallible

/-! ## The agreement -/

/-- The family whose originals a token restores. -/
def RollbackToken.group : RollbackToken → ActionConflictGroup
  | .cpuAffinityRestoreFile .. => .cpuPlacement
  | .niceRestore _ | .uclampRestore _ => .cpuPriority
  | .irqAffinityRestore _ => .irqPlacement
  | .ioPrioRestore _ => .ioPriority
  | .cgroupRestore .. => .cgroupPlacement
  | .cpuPowerRestore _ => .cpuPower
  | .vmKnobRestore _ => .vmMemory
  | .gpuPowerRestore _ => .gpuPower
  | .sysfsRestore .. => .none

/-- The ledger's entries are the kept actions'. -/
structure LedgerAgrees (kept : KeptActionSet) (w : World) : Prop where
  entries : (w.ledgerEntries.map fun e => (e.experimentId, e.rollbackToken)).Perm
    (kept.actions.map fun entry => (entry.2.experimentId, entry.2.rollback))
  single : (kept.actions.map fun entry => entry.2.experimentId).Nodup

/-- What a start gives an experiment: ids that can be written, a token of its family, and an id that
no kept action has. -/
structure ExperimentAgrees (kept : KeptActionSet) (experiment : LiveExperiment) : Prop where
  identified : experiment.experimentId.toList.all isTrimmed = false
  named : experiment.actionId.toList.all isTrimmed = false
  grouped : experiment.candidate.conflictGroup ≠ .none
  fits : experiment.rollback.group = experiment.candidate.conflictGroup
  fresh : ∀ entry ∈ kept.actions, entry.2.experimentId ≠ experiment.experimentId

/-- The stores and the controller's memory, the journal apart. -/
structure StoresAgree (current : Option LiveExperiment) (kept : KeptActionSet) (w : World) :
    Prop where
  readable : ∃ ledger, parseKeptLedger w.ledger = .ok ledger
  ledger : LedgerAgrees kept w
  harmony : Harmony kept current
  fits : ∀ entry ∈ kept.actions, entry.2.rollback.group = entry.2.candidate.conflictGroup
  live : ∀ experiment, current = some experiment → ExperimentAgrees kept experiment

/-- The journal's unfinished token is the experiment's; without one, only a kept action's `Keeping`
record may be left. -/
def JournalAgrees (current : Option LiveExperiment) (kept : KeptActionSet) (w : World) : Prop :=
  ∃ record, parseControllerJournal w.journal = .ok record ∧
    match current with
    | some experiment => record.outstandingToken = some experiment.rollback
    | none => record.outstandingToken = none ∨
        (record.state = .keeping ∧ ∃ entry ∈ kept.actions,
          record.rollbackToken = some entry.2.rollback)

theorem JournalAgrees.of_eq {current : Option LiveExperiment} {kept : KeptActionSet} {w v : World}
    (h : JournalAgrees current kept w) (hjournal : v.journal = w.journal) :
    JournalAgrees current kept v := by
  unfold JournalAgrees at h ⊢
  rw [hjournal]
  exact h

namespace StoresAgree
variable {current : Option LiveExperiment} {kept : KeptActionSet} {w v : World}

/-- Only the journal, the host's writes or the histories changed. -/
theorem of_eq (h : StoresAgree current kept w) (hledger : v.ledger = w.ledger) :
    StoresAgree current kept v := by
  refine ⟨hledger ▸ h.readable, ⟨?_, h.ledger.single⟩, h.harmony, h.fits, h.live⟩
  rw [World.ledgerEntries_congr hledger]
  exact h.ledger.entries

/-- Nothing is asked of no experiment. -/
theorem idle (h : StoresAgree current kept w) : StoresAgree none kept w :=
  ⟨h.readable, h.ledger, .idle h.harmony.kept, h.fits, fun _ hnone => nomatch hnone⟩

/-- The experiment's token is no kept action's: their families differ. -/
theorem token_ne {experiment : LiveExperiment} (h : StoresAgree (some experiment) kept w) :
    ∀ entry ∈ kept.actions, entry.2.rollback ≠ experiment.rollback := by
  intro entry hentry heq
  have hlive := h.live experiment rfl
  have hsame : experiment.candidate.conflictGroup = entry.2.candidate.conflictGroup := by
    rw [← hlive.fits, ← h.fits entry hentry, heq]
  have hapart := h.harmony.live experiment rfl entry hentry
  unfold CandidateAction.conflictsWith ActionConflictGroup.conflictsWith at hapart
  rw [← hsame, if_neg (by simp [hlive.grouped]), if_pos rfl] at hapart
  cases hapart

/-- No entry of the ledger has an id that no kept action has. -/
theorem filter_fresh {id : ExperimentId} (h : StoresAgree current kept w)
    (hfresh : ∀ entry ∈ kept.actions, entry.2.experimentId ≠ id) :
    w.ledgerEntries.filter (fun e => e.experimentId ≠ id) = w.ledgerEntries := by
  refine List.filter_eq_self.mpr fun e he => ?_
  have hmem : (e.experimentId, e.rollbackToken) ∈
      kept.actions.map fun entry => (entry.2.experimentId, entry.2.rollback) :=
    h.ledger.entries.mem_iff.mp (List.mem_map_of_mem he)
  obtain ⟨entry, hentry, heq⟩ := List.mem_map.mp hmem
  have hid : entry.2.experimentId = e.experimentId := congrArg Prod.fst heq
  simpa [← hid] using hfresh entry hentry

end StoresAgree

/-! ## One operation of the manager -/

open Op

section Manager
variable {input : LiveExperimentManagerInput} {host : ManagerHost} {executor : ActionExecutor}
  {observation : AutotuneObservation} {s t : ManagerState} {experiment : LiveExperiment}
  {R : LiveExperiment → Except AnyError (Option ActiveConfigSnapshot) → Prop}

/-- The stores tell a recovery what the manager believes is applied. -/
def ManagerState.Recoverable (s : ManagerState) : Prop :=
  StoresAgree s.current s.keptActions s.world ∧ JournalAgrees s.current s.keptActions s.world

/-- A phase record of an experiment is read back. -/
theorem JournalWritten.read {state : ControllerJournalState} {before w : World}
    (h : JournalWritten input host observation experiment state before w)
    (hstores : input.storeless = false) (hid : experiment.experimentId.toList.all isTrimmed = false)
    (haction : experiment.actionId.toList.all isTrimmed = false) :
    ∃ record, parseControllerJournal w.journal = .ok record ∧ record.state = state ∧
      record.rollbackToken = some experiment.rollback := by
  unfold JournalWritten at h
  rw [if_neg (by simp [hstores])] at h
  obtain ⟨text, hjournal⟩ := h
  refine ⟨journalRecordFor input host observation experiment state text, ?_, rfl, rfl⟩
  rw [hjournal]
  exact parseControllerJournal_named rfl rfl rfl hid haction

open ControllerJournalRecord

/-- A record of an experiment in flight carries its token. -/
theorem JournalWritten.outstanding {state : ControllerJournalState} {before w : World}
    (h : JournalWritten input host observation experiment state before w)
    (hstores : input.storeless = false) (hid : experiment.experimentId.toList.all isTrimmed = false)
    (haction : experiment.actionId.toList.all isTrimmed = false)
    (hstate : state = .measuring ∨ state = .keeping ∨ state = .reverting ∨ state = .faulted) :
    ∃ record, parseControllerJournal w.journal = .ok record ∧
      record.outstandingToken = some experiment.rollback := by
  obtain ⟨record, hread, hrecord, htoken⟩ := h.read hstores hid haction
  refine ⟨record, hread, ?_⟩
  have hmutated : record.mayHaveMutatedSystem = true := by
    unfold mayHaveMutatedSystem
    rw [hrecord]
    rcases hstate with rfl | rfl | rfl | rfl <;> rfl
  unfold outstandingToken
  rw [if_pos hmutated]
  exact htoken

/-- A rollback that ends keeps the experiment with its record, or drops both. -/
theorem RollbackSettled.agrees {before : World} {r : Except AnyError LiveExperimentOutcome}
    (h : RollbackSettled input host observation experiment R before r t)
    (hstores : input.storeless = false) (hframe : t.LedgerFrame s)
    (hs : StoresAgree (some experiment) s.keptActions s.world) : t.Recoverable := by
  have hlive := hs.live experiment rfl
  have hheld : t.current = some experiment → StoresAgree t.current t.keptActions t.world := by
    intro hcurrent
    rw [hcurrent, hframe.kept]
    exact hs.of_eq hframe.ledger
  cases h with
  | failed e hanswer hcurrent hjournal =>
    refine ⟨hheld hcurrent, ?_⟩
    rw [hcurrent]
    exact hjournal.outstanding hstores hlive.identified hlive.named (.inr (.inr (.inl rfl)))
  | unverified snapshot verification outcome hsim hanswer hobjects hevent hcurrent hjournal =>
    refine ⟨hheld hcurrent, ?_⟩
    rw [hcurrent]
    exact hjournal.outstanding hstores hlive.identified hlive.named (.inr (.inr (.inr rfl)))
  | reverted outcome hevent hcurrent hjournal =>
    obtain ⟨record, hread, hrecord, -⟩ := hjournal.read hstores hlive.identified hlive.named
    constructor
    · rw [hcurrent, hframe.kept]
      exact hs.idle.of_eq hframe.ledger
    · rw [hcurrent]
      refine ⟨record, hread, .inl ?_⟩
      unfold outstandingToken mayHaveMutatedSystem
      rw [hrecord]
      rfl

theorem holds_rollbackActive_stores {reason : String} (hstores : input.storeless = false)
    (hexecutor : RollbackAnswers executor R) (hio : s.world.Sound) (hs : s.Recoverable) :
    Holds (rollbackActiveExperiment input host executor observation reason) (fun _ => True)
      (fun _ t => t.world.Sound ∧ t.keptActions = s.keptActions ∧ t.Recoverable) s := by
  cases hcurrent : s.current with
  | none =>
    rw [rollbackActiveExperiment, holds_bind, holds_gets, hcurrent]
    exact holds_pure.mpr ⟨hio, rfl, hs⟩
  | some experiment =>
    refine (holds_rollbackActive_sound hexecutor hio hcurrent).mono (fun _ h => h) ?_
    rintro r t ⟨hframe, hsettled⟩
    exact ⟨hframe.sound, hframe.kept, hsettled.agrees hstores hframe (hcurrent ▸ hs.1)⟩

/-- A keep over a measured window: the entry stands beside the kept action. -/
theorem KeepSettled.agrees {r : Except AnyError LiveExperimentOutcome}
    (h : KeepSettled input host observation experiment R s r t) (hstores : input.storeless = false)
    (hsound : t.world.Sound) (hmeasured : observation.Measured)
    (hs : StoresAgree (some experiment) s.keptActions s.world) : t.Recoverable := by
  have hlive := hs.live experiment rfl
  have hfresh := hs.filter_fresh hlive.fresh
  cases h with
  | kept why outcome hinsert hevent hcurrent hjournal hledger =>
    have hentries : t.world.ledgerEntries =
        s.world.ledgerEntries ++ [ledgerEntryFor observation experiment] := by
      rw [hledger, keptEntries, if_neg (by simp [hstores]), hfresh]
    obtain ⟨hcompatible, hmem⟩ := hs.harmony.kept.insert hinsert
    have hperm : t.keptActions.actions.Perm ((experiment.candidate.conflictGroup,
        keptStateFor observation experiment why) :: s.keptActions.actions) := by
      unfold KeptActionSet.insertIfCompatible at hinsert
      dsimp only at hinsert
      split at hinsert
      · cases hinsert
      rename_i hget
      split at hinsert
      · cases hinsert
      rw [← Except.ok.inj hinsert]
      exact KeptActionSet.insert_perm (KeptActionSet.get_eq_none.mp hget)
    refine ⟨⟨hsound.ledger, ⟨?_, ?_⟩, ?_, ?_, ?_⟩, ?_⟩
    · rw [hentries, List.map_append]
      refine List.perm_append_comm.trans (.trans ?_ (hperm.map _).symm)
      exact .cons _ hs.ledger.entries
    · rw [(hperm.map _).nodup_iff, List.map_cons, List.nodup_cons]
      refine ⟨?_, hs.ledger.single⟩
      intro hid
      obtain ⟨entry, hentry, heq⟩ := List.mem_map.mp hid
      exact hlive.fresh entry hentry heq
    · rw [hcurrent]
      exact .idle hcompatible
    · intro entry hentry
      rcases hmem entry hentry with heq | hold
      · rw [heq]
        exact hlive.fits
      · exact hs.fits entry hold
    · rw [hcurrent]
      exact fun _ hnone => by cases hnone
    · obtain ⟨record, hread, hrecord, htoken⟩ := hjournal.read hstores hlive.identified hlive.named
      rw [hcurrent]
      refine ⟨record, hread, .inr ⟨hrecord, _, hperm.symm.subset (List.mem_cons_self ..), htoken⟩⟩
  | clashed why e hinsert hcurrent hkept hjournal hledger =>
    rw [hfresh] at hledger
    constructor
    · rw [hcurrent, hkept]
      refine ⟨hsound.ledger, ⟨?_, hs.ledger.single⟩, hs.harmony, hs.fits, hs.live⟩
      rw [hledger]
      exact hs.ledger.entries
    · rw [hcurrent]
      exact hjournal.outstanding hstores hlive.identified hlive.named (.inr (.inl rfl))
  | rolledBack hframe h => exact h.agrees hstores hframe hs
  | unmeasured e hwindow =>
    rw [hmeasured.validate] at hwindow
    cases hwindow

theorem holds_keepCurrent_stores {reason : String} (hstores : input.storeless = false)
    (hexecutor : RollbackAnswers executor R) (hio : s.world.Sound)
    (hmeasured : observation.Measured) (hs : s.Recoverable) :
    Holds (keepCurrentExperiment input host executor observation reason) (fun _ => True)
      (fun _ t => t.world.Sound ∧ t.Recoverable) s := by
  cases hcurrent : s.current with
  | none =>
    rw [keepCurrentExperiment, holds_bind, holds_gets, hcurrent]
    exact holds_pure.mpr ⟨hio, hs⟩
  | some experiment =>
    refine (holds_keepCurrent_sound hexecutor hio hcurrent).mono (fun _ h => h) ?_
    rintro r t ⟨hsound, hsettled⟩
    exact ⟨hsound, hsettled.agrees hstores hsound hmeasured (hcurrent ▸ hs.1)⟩

/-- The tokens an apply hands out are of the candidate's family. -/
def TokenFits (executor : ActionExecutor) (candidate : CandidateAction) : Prop :=
  ∀ (id : ExperimentId) (w : World), id.toList.all isTrimmed = false → w.Sound →
    Holds (executor.applyCandidate candidate id) (fun _ => True) (fun r _ =>
      (∀ token, r = .ok token → token.group = candidate.conflictGroup) ∧
      ∀ e token, r = .error e → e.outstanding = some token →
        token.group = candidate.conflictGroup) w

/-- No durable access fails, and the executor is the runtime's own. -/
structure SideEffectAnswers.Quiet (input : LiveExperimentManagerInput)
    (answers : SideEffectAnswers) :
    Prop where
  io : ∀ outcome ∈ answers.io, outcome = .done
  executor : ∃ observation ex, answers.executor =
    runtimeExecutor input answers.host observation ex ∧
    ex.Plain

variable {answers : SideEffectAnswers}

theorem SideEffectAnswers.Quiet.rollback (h : answers.Quiet input) :
    RollbackAnswers answers.executor fun _ _ => True := by
  obtain ⟨observation, ex, hexecutor, -⟩ := h.executor
  rw [hexecutor]
  exact rollbackAnswers_runtimeExecutor input answers.host observation ex

/-- What an apply answers: a token of the family, in the journal if it comes with an error. -/
structure AppliedAs (candidate : CandidateAction) (r : Except AnyError RollbackToken) (w : World) :
    Prop where
  token : ∀ token, r = .ok token → token.group = candidate.conflictGroup
  outstanding : ∀ e token, r = .error e → e.outstanding = some token →
    token.group = candidate.conflictGroup ∧
      ∃ record, parseControllerJournal w.journal = .ok record ∧ record.outstandingToken = some token

variable {candidate : CandidateAction}

/-- A failure that carries no token. -/
theorem AppliedAs.of_plain {e : AnyError} {w : World}
    (h : e.outstanding = none) : AppliedAs candidate (.error e) w := by
  refine ⟨fun _ hok => (nomatch hok), ?_⟩
  rintro _ token ⟨⟩ htoken
  rw [h] at htoken
  cases htoken

theorem holds_applyForRuntime_quiet {w : World} (hsim : input.simulateActionEffects = false)
    (hanswers : answers.Quiet input) (htokens : TokenFits answers.executor candidate)
    (hnamed : candidate.actionId.toList.all isTrimmed = false) (hw : w.Sound) :
    Holds (applyCandidateForRuntime input answers.host answers.executor observation candidate
      (experimentIdFor input observation candidate)) (fun _ => True)
      (fun r v => (v.Sound ∧ v.ledger = w.ledger) ∧ AppliedAs candidate r v) w := by
  have hid := experimentIdFor_nonblank input observation candidate
  have happly : ∀ v : World, v.Sound → v.ledger = w.ledger →
      Holds (answers.executor.applyCandidate candidate
        (experimentIdFor input observation candidate))
        (fun _ => True)
        (fun r u => (u.Sound ∧ u.ledger = w.ledger) ∧ AppliedAs candidate r u) v := by
    intro v hv hledger
    obtain ⟨observation', ex, hexecutor, hplain⟩ := hanswers.executor
    have hsound : Holds (answers.executor.applyCandidate candidate
        (experimentIdFor input observation candidate)) (fun _ => True) (SoundApply v) v := by
      rw [hexecutor]
      exact holds_applyCandidate_sound hplain hid hv
    refine (hsound.and (htokens _ v hid hv)).mono (fun _ _ => trivial) ?_
    rintro r u ⟨hsound, htoken, houtstanding⟩
    refine ⟨⟨hsound.sound, hsound.ledger.trans hledger⟩, htoken, fun e token he hout => ?_⟩
    exact ⟨houtstanding e token he hout, hsound.outstanding e token he hout⟩
  unfold applyCandidateForRuntime
  rw [if_neg (by simp [hsim]), if_neg (by simp [hsim])]
  split
  · rw [tryNewId_of_nonblank hid, holds_bind, holds_ret]
    dsimp only
    rw [tryNewId_of_nonblank hnamed, holds_bind, holds_ret]
    dsimp only
    rw [holds_bind]
    unfold writeControllerJournalPhase writeControllerJournalRecord
    refine holds_durable_sound hw ?_
    dsimp only
    refine (happly _ (hw.drawn.setJournal _) rfl).bind ?_ fun _ _ h => h
    rintro token v ⟨⟨hv, hledger⟩, happlied⟩
    rw [holds_bind]
    refine holds_durable_sound hv ?_
    refine holds_pure.mpr ⟨⟨hv.drawn.setJournal _, hledger⟩, ?_, fun _ _ he => nomatch he⟩
    rintro _ ⟨⟩
    exact happlied.token token rfl
  · refine (happly w hw rfl).bind ?_ fun _ _ h => h
    rintro token v ⟨⟨hv, hledger⟩, happlied⟩
    rw [holds_bind]
    unfold readControllerJournal
    refine holds_durableRead_sound hv ?_
    cases hread : parseControllerJournal v.journal with
    | error e =>
      obtain ⟨text, rfl⟩ := parseControllerJournal_error hread
      exact ⟨⟨hv.drawn, hledger⟩, .of_plain rfl⟩
    | ok record =>
      dsimp only
      rw [holds_bind, holds_ensure]
      split
      · refine holds_pure.mpr ⟨⟨hv.drawn, hledger⟩, ?_, fun _ _ he => nomatch he⟩
        rintro _ ⟨⟩
        exact happlied.token token rfl
      · exact ⟨⟨hv.drawn, hledger⟩, .of_plain rfl⟩

/-- A start puts its experiment beside the kept actions. -/
theorem StoresAgree.started {kept : KeptActionSet} {token : RollbackToken}
    {deadlines : Nat × Nat} {w v : World} (h : StoresAgree none kept w)
      (hledger : v.ledger = w.ledger)
    (hnamed : candidate.actionId.toList.all isTrimmed = false)
    (hgrouped : candidate.conflictGroup ≠ .none) (hapart : kept.conflictingAction candidate = none)
    (hfits : token.group = candidate.conflictGroup) (hfresh : ∀ entry ∈ kept.actions,
      entry.2.experimentId ≠ experimentIdFor input observation candidate) :
    StoresAgree (some (experimentFor input observation candidate token deadlines)) kept v := by
  have hv := h.of_eq hledger
  refine ⟨hv.readable, hv.ledger, harmony_experimentFor h.harmony.kept hapart, hv.fits, ?_⟩
  rintro _ ⟨⟩
  exact ⟨experimentIdFor_nonblank input observation candidate, hnamed, hgrouped, hfits, hfresh⟩

/-- A start agrees with the stores, or it failed and holds nothing. -/
theorem holds_start_stores (hsim : input.simulateActionEffects = false)
    (hanswers : answers.Quiet input) (htokens : TokenFits answers.executor candidate)
    (hnamed : candidate.actionId.toList.all isTrimmed = false)
    (hgrouped : candidate.conflictGroup ≠ .none)
    (hapart : s.keptActions.conflictingAction candidate = none)
    (hfresh : ∀ entry ∈ s.keptActions.actions,
      entry.2.experimentId ≠ experimentIdFor input observation candidate)
    (hcurrent : s.current = none) (hio : s.world.Sound) (hs : s.Recoverable) :
    Holds (startCandidateExperiment input answers.host answers.executor observation candidate)
      (fun _ => True) (fun r t => t.world.Sound ∧ (t.Recoverable ∨
        StoresAgree t.current t.keptActions t.world ∧ t.current = none ∧ ∃ e, r = .error e)) s := by
  have hstores : input.storeless = false := by
    unfold LiveExperimentManagerInput.storeless
    rw [hsim]
    rfl
  have hnone : StoresAgree none s.keptActions s.world := hcurrent ▸ hs.1
  rw [startCandidateExperiment, holds_bind, holds_ofExcept]
  cases validateStartCandidate input.mode input.daemonPolicy candidate with
  | error e => exact ⟨hio, .inl hs⟩
  | ok mayStart =>
    dsimp only
    split
    · rw [holds_bind, holds_ofExcept]
      cases validateAutonomousSupport answers.host candidate with
      | error e => exact ⟨hio, .inl hs⟩
      | ok _ =>
        dsimp only
        rw [holds_bind, holds_ofExcept]
        cases validateWindowScoreForApply "baseline" observation.toWindowScore with
        | error e => exact ⟨hio, .inl hs⟩
        | ok _ =>
          dsimp only
          refine (holds_startValidated_sound
            (holds_applyForRuntime_quiet hsim hanswers htokens hnamed hio)).mono (fun _ h => h) ?_
          rintro r t ⟨hframe, hsettled⟩
          refine ⟨hframe.sound, ?_⟩
          cases hsettled with
          | failed e w happly hheld hworld =>
            cases hout : e.outstanding with
            | none =>
              have hidle : t.current = none := by
                rw [hheld]
                unfold applyFailed
                rw [hout]
                exact hcurrent
              refine .inr ⟨?_, hidle, e, rfl⟩
              rw [hidle, hframe.kept]
              exact hnone.of_eq hframe.ledger
            | some token =>
              obtain ⟨hfits, record, hread, htoken⟩ := happly.outstanding e token rfl hout
              have hheld' : t.current = some (experimentFor input observation candidate token
                  (observation.nowUnixNanos, observation.nowUnixNanos)) := by
                rw [hheld]
                unfold applyFailed
                rw [hout]
              refine .inl ⟨?_, ?_⟩
              · rw [hheld', hframe.kept]
                exact hnone.started hframe.ledger hnamed hgrouped hapart hfits hfresh
              · rw [hheld', hworld]
                exact ⟨record, hread, htoken⟩
          | started token w outcome happly hevent hheld hjournal =>
            have hstarted : StoresAgree (some (experimentFor input observation candidate token
                (deadlinesFromNow input observation.nowUnixNanos))) s.keptActions t.world :=
              hnone.started hframe.ledger hnamed hgrouped hapart (happly.token token rfl) hfresh
            refine .inl ⟨?_, ?_⟩
            · rw [hheld, hframe.kept]
              exact hstarted
            · rw [hheld]
              exact hjournal.outstanding hstores (hstarted.live _ rfl).identified hnamed (.inl rfl)
    · exact holds_ret.mpr ⟨hio, .inl hs⟩

/-! ## Releasing -/

variable {group : ActionConflictGroup} {kept : KeptCandidateState} {set : KeptActionSet}

theorem KeptActionSet.mem_of_get (h : set.get group = some kept) : (group, kept) ∈ set.actions := by
  unfold get at h
  rw [List.lookup_eq_some_iff] at h
  obtain ⟨before, after, heq, -⟩ := h
  rw [heq]
  exact List.mem_append_right _ (List.mem_cons_self ..)

/-- Of the kept actions only the group's has its id, so the ledger loses what the set loses. -/
theorem LedgerAgrees.remove {w v : World} (h : LedgerAgrees set w) (hset : set.Compatible)
    (hget : set.get group = some kept)
    (hledger : v.ledgerEntries = w.ledgerEntries.filter fun e =>
      e.experimentId ≠ kept.experimentId) :
    LedgerAgrees (set.remove group) v := by
  have hmem := KeptActionSet.mem_of_get hget
  have hsame : set.actions.filter (fun entry => entry.1 ≠ group) =
      set.actions.filter fun entry => entry.2.experimentId ≠ kept.experimentId := by
    refine List.filter_congr fun entry hentry => ?_
    by_cases hkey : entry.1 = group
    · have heq : entry = (group, kept) :=
        List.inj_on_of_nodup_map hset.single hentry hmem hkey
      simp [heq]
    · have hid : entry.2.experimentId ≠ kept.experimentId := by
        intro hid
        have heq : entry = (group, kept) := List.inj_on_of_nodup_map h.single hentry hmem hid
        exact hkey (congrArg Prod.fst heq)
      simp [hkey, hid]
  constructor
  · have hboth := h.entries.filter fun pair => decide (pair.1 ≠ kept.experimentId)
    rw [List.filter_map, List.filter_map] at hboth
    unfold KeptActionSet.remove
    rw [hledger, hsame]
    exact hboth
  · exact h.single.sublist ((List.filter_sublist).map _)

/-- What a release does to the agreement. -/
structure ReleaseAgrees (s t : ManagerState) : Prop where
  sound : t.world.Sound
  current : t.current = s.current
  kept : t.keptActions.actions.Sublist s.keptActions.actions
  stores : StoresAgree t.current t.keptActions t.world
  journal : JournalAgrees s.current s.keptActions s.world →
    JournalAgrees t.current t.keptActions t.world

theorem ReleaseAgrees.trans {u : ManagerState} (h : ReleaseAgrees s t) (h' : ReleaseAgrees t u) :
    ReleaseAgrees s u :=
  ⟨h'.sound, h'.current.trans h.current, h'.kept.trans h.kept, h'.stores,
    fun hjournal => h'.journal (h.journal hjournal)⟩

/-- The journal agrees with what is left once a kept action's record is cleared. -/
theorem JournalAgrees.cleared {current : Option LiveExperiment} {w v : World}
    (h : JournalAgrees current set w) (hstores : StoresAgree current set w)
    (hget : set.get group = some kept) (hjournal : v.journal = clearedJournal kept.rollback w) :
    JournalAgrees current (set.remove group) v := by
  obtain ⟨record, hread, hagrees⟩ := h
  have hmem := KeptActionSet.mem_of_get hget
  unfold clearedJournal at hjournal
  rw [hread] at hjournal
  dsimp only at hjournal
  by_cases hnames : record.state = .keeping ∧ record.rollbackToken = some kept.rollback
  · rw [if_pos hnames] at hjournal
    refine ⟨.clean, by rw [hjournal]; rfl, ?_⟩
    cases current with
    | none => exact .inl rfl
    | some experiment =>
      -- the record is the experiment's, and its token is no kept action's
      have htoken : record.rollbackToken = some experiment.rollback := by
        have houtstanding : record.outstandingToken = some experiment.rollback := hagrees
        unfold outstandingToken at houtstanding
        split at houtstanding
        · exact houtstanding
        · cases houtstanding
      rw [hnames.2] at htoken
      exact absurd (Option.some.inj htoken) (hstores.token_ne (group, kept) hmem)
  · rw [if_neg hnames] at hjournal
    refine ⟨record, by rw [hjournal]; exact hread, ?_⟩
    cases current with
    | some experiment => exact hagrees
    | none =>
      rcases hagrees with hnone | ⟨hkeeping, entry, hentry, htoken⟩
      · exact .inl hnone
      · refine .inr ⟨hkeeping, entry, List.mem_filter.mpr ⟨hentry, ?_⟩, htoken⟩
        refine decide_eq_true fun hkey => hnames ⟨hkeeping, ?_⟩
        have heq : entry = (group, kept) :=
          List.inj_on_of_nodup_map hstores.harmony.kept.single hentry hmem hkey
        rw [htoken, heq]

theorem holds_releaseKept_stores (hexecutor : RollbackAnswers executor R) (hio : s.world.Sound)
    (hs : StoresAgree s.current s.keptActions s.world)
    (hget : s.keptActions.get group = some kept) :
    Holds (releaseKept input executor group kept) (fun _ => True)
      (fun _ t => ReleaseAgrees s t) s := by
  refine ((holds_releaseKept_sound hexecutor hio).and holds_releaseKept_frame).mono
    (fun _ _ => trivial) ?_
  rintro r t ⟨⟨hsound, hsettled⟩, hframe⟩
  cases hsettled with
  | failed e hanswer hkept hjournal hledger =>
    refine ⟨hsound, hframe.current, hframe.kept, ?_, ?_⟩
    · rw [hframe.current, hkept]
      refine ⟨hsound.ledger, ⟨?_, hs.ledger.single⟩, hs.harmony, hs.fits, hs.live⟩
      rw [hledger]
      exact hs.ledger.entries
    · intro h
      rw [hframe.current, hkept]
      exact h.of_eq hjournal
  | restored hkept hjournal hledger =>
    refine ⟨hsound, hframe.current, hframe.kept, ?_, ?_⟩
    · rw [hframe.current]
      refine ⟨hsound.ledger, ?_, ⟨hs.harmony.kept.sublist hframe.kept, ?_⟩, ?_, ?_⟩
      · rw [hkept]
        exact hs.ledger.remove hs.harmony.kept hget hledger
      · exact fun experiment hcurrent entry hentry =>
          hs.harmony.live experiment hcurrent entry (hframe.kept.subset hentry)
      · exact fun entry hentry => hs.fits entry (hframe.kept.subset hentry)
      · intro experiment hcurrent
        have hlive := hs.live experiment hcurrent
        exact ⟨hlive.identified, hlive.named, hlive.grouped, hlive.fits,
          fun entry hentry => hlive.fresh entry (hframe.kept.subset hentry)⟩
    · intro h
      rw [hframe.current, hkept]
      exact h.cleared hs hget hjournal

/-- A release takes kept actions off the set and off the ledger. -/
theorem holds_releaseGroups_stores {groups : List ActionConflictGroup} {release : KeptRelease}
    (hexecutor : RollbackAnswers executor R) (hio : s.world.Sound)
    (hs : StoresAgree s.current s.keptActions s.world) :
    Holds (releaseGroups input executor groups release) (fun _ => True)
      (fun _ t => ReleaseAgrees s t) s := by
  induction groups generalizing s release with
  | nil => exact holds_pure.mpr ⟨hio, rfl, .refl _, hs, fun h => h⟩
  | cons group groups ih =>
    rw [releaseGroups, holds_bind, holds_gets]
    dsimp only
    cases hget : s.keptActions.get group with
    | none => exact ih hio hs
    | some kept =>
      refine (holds_releaseKept_stores hexecutor hio hs hget).bind ?_ fun _ _ ht => ht
      intro restored t ht
      exact (ih ht.sound ht.stores).mono (fun _ h => h) fun _ _ hu => ht.trans hu

end Manager

/-! ## One call of the runtime -/

/-- The last decision that was carried out was a start, which failed and left nothing in the
controller's hands. -/
def FailedStart (s : RuntimeState) : Prop :=
  s.phase = .faulted ∧ s.manager.current = none ∧
    ∃ candidate reason, s.executed.getLast? = some (.startExperiment candidate reason)

/-- Between two calls. -/
structure RuntimeAgrees (s : RuntimeState) : Prop where
  stores : StoresAgree s.manager.current s.manager.keptActions s.manager.world
  journal : JournalAgrees s.manager.current s.manager.keptActions s.manager.world ∨ FailedStart s

/-- During a call: the kept actions are among those it found. -/
structure AgreesWithin (found : List (ActionConflictGroup × KeptCandidateState))
    (s : RuntimeState) :
    Prop where
  manager : s.manager.Recoverable
  found : s.manager.keptActions.actions ⊆ found

/-- An evaluation in which no durable access fails and no external mutation is accepted; the ids it
could give are no kept action's. -/
structure EvaluationAnswers.Quiet (config : AutotuneRuntimeConfig)
    (kept : List (ActionConflictGroup × KeptCandidateState)) (answers : EvaluationAnswers) :
    Prop where
  effects : answers.effects.Quiet config.input
  release : answers.release.Quiet config.input
  tokens : ∀ proposal ∈ answers.proposals, TokenFits answers.effects.executor proposal.candidate
  measured : answers.observation.dataQuality.blocksAction = false → answers.observation.Measured
  unaccepted : ¬ Accepts config answers
  fresh : ∀ proposal ∈ answers.proposals, ∀ entry ∈ kept,
    entry.2.experimentId ≠ experimentIdFor config.input answers.observation proposal.candidate

/-- A call all of whose answers are quiet. -/
def RuntimeCall.Quiet (config : AutotuneRuntimeConfig) (call : RuntimeCall) (s : RuntimeState) :
    Prop :=
  call.Answers (·.Quiet config s.manager.keptActions.actions) (·.effects.Quiet config.input)
    (·.Quiet config.input)

section Calls
variable {config : AutotuneRuntimeConfig} {found : List (ActionConflictGroup × KeptCandidateState)}
  {s : RuntimeState}

theorem AgreesWithin.agrees (h : AgreesWithin found s) : RuntimeAgrees s :=
  ⟨h.manager.1, .inl h.manager.2⟩

variable {reason : String}

theorem holds_transition_within {next : AutotuneRuntimePhase} (hs : AgreesWithin found s) :
    Holds (transitionRuntimePhase next reason) (fun _ => True)
      (fun _ t => AgreesWithin found t) s :=
  holds_transitionRuntimePhase (fun _ => ⟨hs.manager, hs.found⟩) fun _ _ => ⟨hs.manager, hs.found⟩

/-- The stores of an operation of the manager are sound. -/
theorem StoresAgree.sound {answers : SideEffectAnswers} (hanswers : answers.Quiet config.input)
    (hs : StoresAgree s.manager.current s.manager.keptActions s.manager.world) :
    (s.manager.scheduled answers.io).world.Sound :=
  ⟨hanswers.io, hs.readable⟩

/-- What the manager's side effects of a decision leave. -/
def EffectRecoverable (decision : AutotuneDecision) (r : Except AnyError LiveExperimentOutcome)
    (t : ManagerState) : Prop :=
  t.Recoverable ∨ StoresAgree t.current t.keptActions t.world ∧ t.current = none ∧
    (∃ e, r = .error e) ∧ ∃ candidate reason, decision = .startExperiment candidate reason

/-- What is known of a decision when it is carried out. -/
structure Decided (config : AutotuneRuntimeConfig) (answers : EvaluationAnswers)
    (decision : AutotuneDecision) (s : RuntimeState) : Prop where
  measured : ∀ id reason, decision = .keepCurrent id reason → answers.observation.Measured
  selected : ∀ candidate reason, decision = .startExperiment candidate reason →
    s.manager.current = none ∧ s.manager.keptActions.conflictingAction candidate = none ∧
      StartAdmitted config answers candidate ∧ ∃ proposal ∈ answers.proposals,
        proposal.candidate = candidate

variable {answers : EvaluationAnswers} {decision : AutotuneDecision} {t : RuntimeState}

theorem Decided.of_plans (h : Decided config answers decision s) (ht : t.PlansAs s) :
    Decided config answers decision t := by
  refine ⟨h.measured, fun candidate reason hstart => ?_⟩
  rw [ht.current, ht.kept]
  exact h.selected candidate reason hstart

/-- The manager's side effects of a decision that an evaluation chose. -/
theorem holds_decided_stores (hsim : config.input.simulateActionEffects = false)
    (hanswers : answers.Quiet config found) (hs : AgreesWithin found s)
    (hdecided : Decided config answers decision s) :
    Holds (applyDecisionSideEffects config.input answers.effects.host answers.effects.executor
      answers.observation decision reason) (fun _ => True) (EffectRecoverable decision)
      (s.manager.scheduled answers.effects.io) := by
  have hstores : config.input.storeless = false := by
    unfold LiveExperimentManagerInput.storeless
    rw [hsim]
    rfl
  have hio := hs.manager.1.sound hanswers.effects
  have hs' : (s.manager.scheduled answers.effects.io).Recoverable :=
    ⟨hs.manager.1.of_eq rfl, hs.manager.2.of_eq rfl⟩
  have hrolled : ∀ why, Holds (rollbackActiveExperiment config.input answers.effects.host
      answers.effects.executor answers.observation why) (fun _ => True)
      (fun _ t => t.world.Sound ∧ t.keptActions =
        (s.manager.scheduled answers.effects.io).keptActions ∧
        t.Recoverable) (s.manager.scheduled answers.effects.io) :=
    fun _ => holds_rollbackActive_stores hstores hanswers.effects.rollback hio hs'
  cases decision with
  | startExperiment candidate why =>
    obtain ⟨hidle, hapart, hadmitted, proposal, hproposal, rfl⟩ :=
      hdecided.selected candidate why rfl
    refine (holds_start_stores (s := s.manager.scheduled answers.effects.io) hsim hanswers.effects
      (hanswers.tokens proposal hproposal) hadmitted.named hadmitted.grouped hapart
      (fun entry hentry => hanswers.fresh proposal hproposal entry (hs.found hentry)) hidle hio
        hs').mono
      (fun _ h => h) ?_
    rintro r t ⟨-, hrecoverable | ⟨hstores, hnone, herror⟩⟩
    · exact .inl hrecoverable
    · exact .inr ⟨hstores, hnone, herror, proposal.candidate, why, rfl⟩
  | keepCurrent id why =>
    exact (holds_keepCurrent_stores hstores hanswers.effects.rollback hio
      (hdecided.measured id why rfl) hs').mono (fun _ h => h) fun _ _ ht => .inl ht.2
  | revert id why => exact (hrolled reason).mono (fun _ h => h) fun _ _ ht => .inl ht.2.2
  | enterCooldown duration why =>
    rw [applyDecisionSideEffects, holds_bind, holds_assign]
    exact holds_pure.mpr (.inl hs')
  | fault why =>
    refine (hrolled reason).bind ?_ fun _ _ ht => .inl ht.2.2
    rintro outcome t ⟨-, -, ht⟩
    rw [holds_bind, holds_assign]
    exact holds_pure.mpr (.inl ht)
  | noop why => exact holds_pure.mpr (.inl hs')
  | suggest candidate why => exact holds_pure.mpr (.inl hs')

/-- The runtime agrees, and of its kept actions `F` holds. -/
def AgreesFor (F : KeptActionSet → Prop) (s : RuntimeState) : Prop :=
  RuntimeAgrees s ∧ F s.manager.keptActions

theorem holds_transition_agreesFor {F : KeptActionSet → Prop} {next : AutotuneRuntimePhase}
    (hs : s.manager.Recoverable) (hF : F s.manager.keptActions) :
    Holds (transitionRuntimePhase next reason) (fun _ => True) (fun _ t => AgreesFor F t) s :=
  holds_transitionRuntimePhase (fun _ => ⟨⟨hs.1, .inl hs.2⟩, hF⟩)
    fun _ _ => ⟨⟨hs.1, .inl hs.2⟩, hF⟩

/-- Carrying out a decision: the moves before it change no store, and a start that fails faults. -/
theorem holds_effects_agrees {F : KeptActionSet → Prop} {answers : SideEffectAnswers}
    {observation : AutotuneObservation} (hs : AgreesWithin found s) (hF : F s.manager.keptActions)
    (hmanager : ∀ t : RuntimeState, AgreesWithin found t → t.PlansAs s →
      Holds (applyDecisionSideEffects config.input answers.host answers.executor observation
        decision reason) (fun _ => True)
          (fun r u => EffectRecoverable decision r u ∧ F u.keptActions)
        (t.manager.scheduled answers.io)) :
    Holds (applyRuntimeSideEffects config answers observation decision reason) (fun _ => True)
      (fun _ t => AgreesFor F t) s := by
  have hrefused : ∀ t : RuntimeState, AgreesWithin found t ∧ t.PlansAs s → AgreesFor F t :=
    fun t ht => ⟨ht.1.agrees, ht.2.kept ▸ hF⟩
  rw [applyRuntimeSideEffects, holds_bind, holds_ensure]
  split
  · dsimp only
    refine (holds_transitionForDecision (P := fun t => AgreesWithin found t ∧ t.PlansAs s)
      (fun t next why ht => ?_) ⟨hs, .refl s⟩).bind ?_ fun _ t ht => hrefused t ht
    · exact ((holds_transition_within ht.1).and (holds_transition_plansAs ht.2)).mono
        (fun _ _ => trivial) fun _ _ h => h
    intro _ t ht
    rw [holds_bind, holds_ofExcept]
    cases answers.service with
    | error e => exact hrefused t ht
    | ok _ =>
      dsimp only
      rw [holds_bind, holds_assign]
      dsimp only
      rw [holds_bind, holds_attempt, holds_onManager]
      refine (hmanager t ht.1 ht.2).mono (fun _ h => h) ?_
      rintro (e | outcome) u ⟨hu, hFu⟩
      · dsimp only
        rw [holds_bind, holds_assign]
        dsimp only
        rw [holds_bind, holds_assign]
        refine holds_fail.mpr ⟨?_, hFu⟩
        rcases hu with hrecoverable | ⟨hstores, hnone, -, candidate, why, rfl⟩
        · exact ⟨hrecoverable.1, .inl hrecoverable.2⟩
        · exact ⟨hstores, .inr ⟨rfl, hnone, candidate, why, List.getLast?_concat⟩⟩
      · rcases hu with hrecoverable | ⟨-, -, ⟨e, he⟩, -⟩
        · dsimp only
          rw [holds_bind]
          refine holds_persistCandidateMemory ?_ fun _ => ?_
          all_goals
            rw [transitionForOutcome, holds_bind, holds_gets]
            exact holds_transition_agreesFor hrecoverable hFu
        · cases he
  · exact hrefused s ⟨hs, .refl s⟩

/-- A failed start that an evaluation finds lets it do nothing. -/
theorem holds_prepare_agrees (hs : RuntimeAgrees s)
    (hfound : s.manager.keptActions.actions ⊆ found) :
    Holds prepareRuntimePhaseForEvaluation (fun _ => True)
      (fun r t => (t.manager.keptActions = s.manager.keptActions ∧ RuntimeAgrees t) ∧
        match r with
        | .ok _ => AgreesWithin found t
        | .error _ => True) s := by
  rw [prepareRuntimePhaseForEvaluation, holds_bind, holds_gets]
  dsimp only
  rcases hs.journal with hjournal | hfailed
  · refine holds_transitionRuntimePhase (fun _ => ?_) fun _ _ => ?_
    · exact ⟨⟨rfl, hs.stores, .inl hjournal⟩, ⟨hs.stores, hjournal⟩, hfound⟩
    · exact ⟨⟨rfl, hs.stores, .inl hjournal⟩, trivial⟩
  · -- it is faulted, and a fault is only left for itself
    have hidle := hfailed.2.1
    rw [ManagerState.hasActiveExperiment, hidle, Option.isSome_none, if_neg (by decide)]
    refine holds_transitionRuntimePhase (fun hallowed => ?_) fun _ _ => ?_
    · rw [hfailed.1] at hallowed
      cases hallowed
    · exact ⟨⟨rfl, hs.stores, .inr ⟨rfl, hidle, hfailed.2.2⟩⟩, trivial⟩

/-- What a release of the runtime does to the agreement. -/
structure ReleasedAs (s t : RuntimeState) : Prop where
  stores : StoresAgree t.manager.current t.manager.keptActions t.manager.world
  current : t.manager.current = s.manager.current
  phase : t.phase = s.phase
  executed : t.executed = s.executed
  kept : t.manager.keptActions.actions ⊆ s.manager.keptActions.actions
  journal : JournalAgrees s.manager.current s.manager.keptActions s.manager.world →
    JournalAgrees t.manager.current t.manager.keptActions t.manager.world

theorem ReleasedAs.within (h : ReleasedAs s t) (hs : AgreesWithin found s) : AgreesWithin found t :=
  ⟨⟨h.stores, h.journal hs.manager.2⟩, fun _ hentry => hs.found (h.kept hentry)⟩

theorem ReleasedAs.agrees (h : ReleasedAs s t) (hs : RuntimeAgrees s) : RuntimeAgrees t := by
  refine ⟨h.stores, hs.journal.imp h.journal ?_⟩
  rintro ⟨hphase, hcurrent, hlast⟩
  exact ⟨h.phase.trans hphase, h.current.trans hcurrent, h.executed ▸ hlast⟩

theorem holds_release_stores {answers : SideEffectAnswers} (hanswers : answers.Quiet config.input)
    (hs : StoresAgree s.manager.current s.manager.keptActions s.manager.world) :
    Holds (releaseRuntimeKeptActions config answers) (fun _ => True)
      (fun _ t => ReleasedAs s t) s := by
  have hnothing : ReleasedAs s s := ⟨hs, rfl, rfl, rfl, List.Subset.refl _, fun h => h⟩
  rw [releaseRuntimeKeptActions, holds_bind, holds_gets]
  dsimp only
  split
  · exact holds_pure.mpr hnothing
  · rw [holds_bind, holds_ofExcept]
    cases answers.service with
    | error e => exact hnothing
    | ok _ =>
      dsimp only
      rw [holds_bind, holds_onManager, releaseKeptActions, holds_bind, holds_gets]
      dsimp only
      refine (holds_releaseGroups_stores hanswers.rollback (hs.sound hanswers)
        (s := s.manager.scheduled answers.io) (hs.of_eq rfl)).mono (fun _ h => h) ?_
      intro r t ht
      have hreleased : ReleasedAs s { s with manager := t } :=
        ⟨ht.stores, ht.current, rfl, rfl, ht.kept.subset, fun h => ht.journal (h.of_eq rfl)⟩
      cases r with
      | error e => exact hreleased
      | ok release => exact holds_pure.mpr hreleased

theorem holds_choose_decided (hsimulated : config.simulatedCandidates = [])
    (hanswers : answers.Quiet config found) (hs : AgreesWithin found s) :
    Holds (chooseDecision config answers) (fun _ => True) (fun r t => AgreesWithin found t ∧
      ∀ decision, r = .ok decision → Decided config answers decision t) s := by
  refine holds_chooseDecision (D := Decided config answers)
    (fun _ _ _ ht => holds_transition_within ht)
    (fun haccepts => absurd haccepts hanswers.unaccepted)
    (fun haccepts => absurd haccepts hanswers.unaccepted) ?_ ?_ hs
  · intro t decision ht hnot hquality
    refine ⟨fun id reason hkeep => hanswers.measured (hquality id reason hkeep), ?_⟩
    rintro candidate reason rfl
    cases hnot
  · intro t candidate reason ht hidle hallowed hselected
    refine ⟨fun _ _ h => (nomatch h), ?_⟩
    rintro _ _ ⟨⟩
    refine ⟨hidle, hselected.apart, hselected.admitted hsimulated hallowed.mode, ?_⟩
    rcases hselected with hmem | ⟨proposal, hmem, rfl, -⟩
    · rw [hsimulated] at hmem
      cases hmem
    · exact ⟨proposal, hmem, rfl⟩

theorem holds_evaluate_agrees (hsimulated : config.simulatedCandidates = [])
    (hsim : config.input.simulateActionEffects = false) (hanswers : answers.Quiet config found)
    (hs : RuntimeAgrees s) (hfound : s.manager.keptActions.actions ⊆ found) :
    Holds (evaluateAndEmit config answers) (fun _ => True) (fun _ t => RuntimeAgrees t) s := by
  refine holds_evaluateAndEmit (M := AgreesWithin found)
    (D := fun decision t => AgreesWithin found t ∧ Decided config answers decision t) ?_ ?_ ?_ ?_ ?_
  · refine (holds_prepare_agrees hs hfound).mono (fun _ h => h) ?_
    rintro (e | _) t ⟨ht, hwithin⟩
    · exact ht.2
    · exact hwithin
  · exact fun t ht => ⟨ht.manager, ht.found⟩
  · exact fun t ht => (holds_release_stores hanswers.release ht.manager.1).mono (fun _ h => h)
      fun _ _ hu => hu.within ht
  · intro t ht
    refine (holds_choose_decided hsimulated hanswers ht).mono (fun _ h => h) ?_
    rintro (e | decision) u ⟨hu, hdecided⟩
    · exact hu.agrees
    · exact ⟨hu, hdecided decision rfl⟩
  · rintro t decision ⟨ht, hdecided⟩
    have hnoted : AgreesWithin found { t with
        decided := t.decided ++ [⟨decision, answers.observation.nowUnixNanos, t.live⟩] } :=
      ⟨ht.manager, ht.found⟩
    refine (holds_effects_agrees (F := fun _ => True) hnoted trivial ?_).mono (fun _ h => h)
      fun _ _ hu => hu.1
    intro u hu hplans
    have hdecided' : Decided config answers decision u :=
      hdecided.of_plans ⟨hplans.current, hplans.kept, hplans.active, hplans.cooldown⟩
    exact (holds_decided_stores hsim hanswers hu hdecided').mono (fun _ h => h)
      fun _ _ hv => ⟨hv, trivial⟩

theorem holds_rollbackLive_agrees {answers : RevertAnswers}
    (hsim : config.input.simulateActionEffects = false)
    (hanswers : answers.effects.Quiet config.input) (hs : AgreesFor (·.actions ⊆ found) s) :
    Holds (rollbackLiveExperiment config answers reason) (fun _ => True)
      (fun _ t => AgreesFor (·.actions ⊆ found) t) s := by
  refine holds_rollbackLiveExperiment (fun observation id hheld => ?_) hs
  have hstores : config.input.storeless = false := by
    unfold LiveExperimentManagerInput.storeless
    rw [hsim]
    rfl
  have hwithin : AgreesWithin found s := by
    refine ⟨⟨hs.1.stores, ?_⟩, hs.2⟩
    rcases hs.1.journal with hjournal | ⟨-, hnone, -⟩
    · exact hjournal
    · rw [hnone] at hheld
      cases hheld
  refine holds_effects_agrees hwithin hs.2 fun t ht hplans => ?_
  refine (holds_rollbackActive_stores (s := t.manager.scheduled answers.effects.io) hstores
    hanswers.rollback (ht.manager.1.sound hanswers)
    ⟨ht.manager.1.of_eq rfl, ht.manager.2.of_eq rfl⟩).mono (fun _ h => h) ?_
  rintro r u ⟨-, hkept, hu⟩
  refine ⟨.inl hu, ?_⟩
  rw [hkept]
  exact ht.found

/-- One call over sound stores. -/
theorem holds_call_agrees {call : RuntimeCall} (hsimulated : config.simulatedCandidates = [])
    (hsim : config.input.simulateActionEffects = false) (hcall : call.Quiet config s)
    (hs : RuntimeAgrees s) :
    Holds (call.perform config) (fun _ => True) (fun _ t => RuntimeAgrees t) s := by
  have hrevert : ∀ (t : RuntimeState) (answers : RevertAnswers) (reason : String),
      answers.effects.Quiet config.input →
      AgreesFor (·.actions ⊆ s.manager.keptActions.actions) t →
      Holds (rollbackLiveExperiment config answers reason) (fun _ => True)
        (fun _ t' => AgreesFor (·.actions ⊆ s.manager.keptActions.actions) t') t :=
    fun _ _ _ hanswers ht => holds_rollbackLive_agrees hsim hanswers ht
  refine holds_call_of (P := AgreesFor (·.actions ⊆ s.manager.keptActions.actions))
    (fun _ ht => ht.1) ?_ hrevert ?_ ?_ hcall ⟨hs, List.Subset.refl _⟩
  · exact fun t answers hanswers ht => holds_evaluate_agrees hsimulated hsim hanswers ht.1 ht.2
  · intro t answers hanswers ht
    refine (holds_release_stores hanswers ht.1.stores).mono (fun _ h => h) ?_
    exact fun _ u hu => ⟨hu.agrees ht.1, fun _ hentry => ht.2 (hu.kept hentry)⟩
  · intro t rollsBack stabilizationMs answers hanswers ht
    refine holds_handleLifecycleEvent ?_ (fun u reason hu => hrevert u answers reason hanswers hu)
      ?_ ht
    · refine (holds_prepare_agrees ht.1 ht.2).mono (fun _ h => h) ?_
      rintro r u ⟨⟨hkept, hu⟩, -⟩
      refine ⟨hu, ?_⟩
      rw [hkept]
      exact ht.2
    · exact fun u deadline hu => ⟨⟨hu.1.stores, hu.1.journal⟩, hu.2⟩

end Calls
/-! ## A recovery on these stores -/

/-- The tokens of what the controller believes is applied: its experiment, and the kept actions. -/
def ManagerState.believedApplied (s : ManagerState) : List RollbackToken :=
  s.keptActions.actions.map (·.2.rollback) ++ s.current.toList.map (·.rollback)

/-- Every rollback that may be made automatically succeeds. -/
def RestoresAll (hosts : Nat → StartupHost) : Prop :=
  ∀ n token, (requireAutomaticRecovery token).isOk = true → (hosts n).discharges token = true

/-- The tokens were rolled back, once each, and no other. -/
def RolledBackBetween (before after : World) (tokens : List RollbackToken) : Prop :=
  ∃ calls, after.discharged = before.discharged ++ calls ∧ calls.Perm tokens

section Recovery
variable {recovery : StartupRecoveryConfig} {hosts : Nat → StartupHost} {s : RuntimeState}
  {io : List IoOutcome}

theorem unfinishedToken_journalAfter_of_none {tokens : List RollbackToken}
    {journal : StoreFile ControllerJournalRecord}
    (h : unfinishedToken journal = none ∨ ∃ token ∈ tokens, notedToken journal = some token) :
    unfinishedToken (journalAfter tokens journal) = none := by
  unfold journalAfter
  split
  · rfl
  · rename_i hnot
    rcases h with hnone | hnoted
    · exact hnone
    · exact absurd hnoted hnot

/-- What the journal adds to the rollbacks of the ledger's tokens. -/
theorem RuntimeAgrees.unfinished {tokens : List RollbackToken} (hs : RuntimeAgrees s)
    (htokens : tokens.Perm (s.manager.keptActions.actions.map (·.2.rollback))) :
    unfinishedToken (journalAfter tokens s.manager.world.journal) =
        s.manager.current.map (·.rollback) ∨ FailedStart s := by
  rcases hs.journal with ⟨record, hread, hagrees⟩ | hfailed
  · left
    have hunfinished : unfinishedToken s.manager.world.journal = record.outstandingToken := by
      unfold unfinishedToken
      rw [hread]
    cases hcurrent : s.manager.current with
    | none =>
      rw [hcurrent] at hagrees
      refine unfinishedToken_journalAfter_of_none ?_
      rcases hagrees with hnone | ⟨-, entry, hentry, htoken⟩
      · exact .inl (hunfinished.trans hnone)
      · refine .inr ⟨entry.2.rollback, htokens.symm.subset (List.mem_map_of_mem hentry), ?_⟩
        unfold notedToken
        rw [hread]
        exact htoken
    | some experiment =>
      rw [hcurrent] at hagrees
      have hmine : unfinishedToken s.manager.world.journal = some experiment.rollback :=
        hunfinished.trans hagrees
      -- no entry of the ledger has the experiment's token
      have hnot : ¬ ∃ token ∈ tokens, notedToken s.manager.world.journal = some token := by
        rintro ⟨token, htoken, hnoted⟩
        rw [notedToken_of_unfinished hmine] at hnoted
        obtain ⟨entry, hentry, heq⟩ := List.mem_map.mp (htokens.subset htoken)
        have hstores : StoresAgree (some experiment) s.manager.keptActions s.manager.world :=
          hcurrent ▸ hs.stores
        exact hstores.token_ne entry hentry (heq.trans (Option.some.inj hnoted).symm)
      unfold journalAfter
      rw [if_neg hnot]
      exact hmine
  · exact .inr hfailed

/-- A recovery rolls back what the controller believes is applied. -/
theorem RuntimeAgrees.holds_recovery (hs : RuntimeAgrees s)
    (hon : recovery.rollbackOnCrashRecovery = true) (hio : ∀ outcome ∈ io, outcome = .done)
    (hhosts : RestoresAll hosts)
    (hautomatic : ∀ token ∈ s.manager.believedApplied,
      (requireAutomaticRecovery token).isOk = true) :
    Holds (recoverControllerJournal recovery hosts) (fun _ => True)
      (fun _ after => ∃ leftover, RolledBackBetween s.manager.world after
          (s.manager.believedApplied ++ leftover) ∧
        (leftover = [] ∨ FailedStart s ∧ ∃ token, leftover = [token]))
      { s.manager.world with io := io } := by
  have htokens : (s.manager.world.ledgerEntries.map (·.rollbackToken)).Perm
      (s.manager.keptActions.actions.map (·.2.rollback)) := by
    have hmap := hs.stores.ledger.entries.map Prod.snd
    rw [List.map_map, List.map_map] at hmap
    exact hmap
  have hledger : ∀ n, ∀ entry ∈ s.manager.world.ledgerEntries,
      (hosts n).discharges entry.rollbackToken = true := by
    intro n entry hentry
    refine hhosts n _ (hautomatic _ (List.mem_append_left _ ?_))
    exact htokens.subset (List.mem_map_of_mem hentry)
  refine (holds_recoverControllerJournal_sound (w := { s.manager.world with io := io }) hon hledger
    ⟨hio, hs.stores.readable⟩).mono (fun _ h => h) ?_
  rintro r after ⟨n, hafter⟩
  have hcalls : after.discharged = s.manager.world.discharged ++
      (s.manager.world.ledgerEntries.map (·.rollbackToken) ++ (unfinishedToken (journalAfter
        (s.manager.world.ledgerEntries.map (·.rollbackToken)) s.manager.world.journal)).elim []
          (newlyDischarged (hosts n))) := by
    rw [← List.append_assoc]
    exact hafter
  rcases hs.unfinished htokens with hmine | hfailed
  · rw [hmine] at hcalls
    refine ⟨[], ⟨_, hcalls, ?_⟩, .inl rfl⟩
    rw [List.append_nil]
    refine htokens.append ?_
    cases hcurrent : s.manager.current with
    | none => exact .refl _
    | some experiment =>
      have hmem : experiment.rollback ∈ s.manager.believedApplied := by
        unfold ManagerState.believedApplied
        rw [hcurrent]
        exact List.mem_append_right _ (List.mem_singleton.mpr rfl)
      show (newlyDischarged (hosts n) experiment.rollback).Perm [experiment.rollback]
      unfold newlyDischarged
      rw [if_pos (hhosts n _ (hautomatic _ hmem))]
  · generalize unfinishedToken (journalAfter (s.manager.world.ledgerEntries.map (·.rollbackToken))
      s.manager.world.journal) = unfinished at hcalls
    refine ⟨unfinished.elim [] (newlyDischarged (hosts n)), ⟨_, hcalls, ?_⟩, ?_⟩
    · refine (htokens.append_right _).trans ?_
      unfold ManagerState.believedApplied
      rw [hfailed.2.1, Option.toList_none, List.map_nil, List.append_nil]
    · cases unfinished with
      | none => exact .inl rfl
      | some token =>
        by_cases hdischarges : (hosts n).discharges token = true
        · exact .inr ⟨hfailed, token, if_pos hdischarges⟩
        · exact .inl (if_neg hdischarges)

end Recovery

/-! ## Whole runs -/

theorem runtimeAgrees_starting (config : AutotuneRuntimeConfig) {w : World} {ledger : KeptLedger}
    {record : ControllerJournalRecord} (hledger : parseKeptLedger w.ledger = .ok ledger)
    (hempty : ledger.entries = []) (hjournal : parseControllerJournal w.journal = .ok record)
    (hsettled : record.outstandingToken = none) (observation : AutotuneObservation)
    (file : StoreFile CandidateMemory) : RuntimeAgrees (.starting config w observation file) := by
  have hnone : w.ledgerEntries = [] := by
    rw [← (parseKeptLedger_eq_ok hledger).1]
    exact hempty
  refine ⟨⟨⟨ledger, hledger⟩, ⟨?_, .nil⟩, harmonious_starting config w observation file, ?_, ?_⟩,
    .inl ⟨record, hjournal, .inl hsettled⟩⟩
  · show (w.ledgerEntries.map _).Perm _
    rw [hnone]
    exact .refl _
  · exact fun _ hentry => absurd hentry List.not_mem_nil
  · exact fun _ hlive => nomatch hlive

/-- **Recovery restores what the controller believes is applied.**  A session begins on settled
stores.  In every state it reaches, the ledger's ids are the kept actions', and a startup recovery
rolls back the kept actions and the experiment, once each.  Only after a start that failed and
faulted the runtime may there be one more rollback, of the token it left in the journal. -/
theorem runtimeRun_recovery_agrees (config : AutotuneRuntimeConfig)
    (hsimulated : config.simulatedCandidates = [])
    (hsim : config.input.simulateActionEffects = false) (w : World) (ledger : KeptLedger)
    (record : ControllerJournalRecord) (hledger : parseKeptLedger w.ledger = .ok ledger)
    (hempty : ledger.entries = []) (hjournal : parseControllerJournal w.journal = .ok record)
    (hsettled : record.outstandingToken = none) (observation : AutotuneObservation)
    (file : StoreFile CandidateMemory) (s : RuntimeState)
    (hrun : Reached (RuntimeCall.perform config) (fun call s => call.Quiet config s)
      (.starting config w observation file) s) :
    (s.manager.world.ledgerEntries.map (·.experimentId)).Perm
      (s.manager.keptActions.actions.map (·.2.experimentId)) ∧
    ∀ (recovery : StartupRecoveryConfig) (hosts : Nat → StartupHost) (io : List IoOutcome),
      recovery.rollbackOnCrashRecovery = true → (∀ outcome ∈ io, outcome = .done) →
      RestoresAll hosts →
      (∀ token ∈ s.manager.believedApplied, (requireAutomaticRecovery token).isOk = true) →
      ∃ leftover, RolledBackBetween s.manager.world
          ((recoverControllerJournal recovery hosts).run { s.manager.world with io := io }).state
          (s.manager.believedApplied ++ leftover) ∧
        (leftover = [] ∨ FailedStart s ∧ ∃ token, leftover = [token]) := by
  have hs : RuntimeAgrees s :=
    hrun.invariant (runtimeAgrees_starting config hledger hempty hjournal hsettled observation file)
      fun _ _ hcall ht => holds_call_agrees hsimulated hsim hcall ht
  constructor
  · have hmap := hs.stores.ledger.entries.map Prod.fst
    rw [List.map_map, List.map_map] at hmap
    exact hmap
  · intro recovery hosts io hon hio hhosts hautomatic
    exact (hs.holds_recovery hon hio hhosts hautomatic).2

/-! ## A privileged session -/

/-- A session that renices a game through the privileged worker. -/
def privilegedInput : LiveExperimentManagerInput :=
  let policy := DaemonPolicy.applyMediumRisk .autotuneRuntime
  ⟨.applyMediumRisk, policy, .fromDaemonPolicy policy "3.0" "3.0", false, 0, 0,
    "stutter daemon emergency-restore", true⟩

theorem none_fake : ∀ candidate ∈ ([] : List CandidateAction), candidate.variant = .fake := by simp

def privilegedConfig : AutotuneRuntimeConfig :=
  ⟨privilegedInput, false, .fault, [], rfl, rfl, none_fake⟩

def niceCandidate : CandidateAction :=
  ⟨.nice, "game-main", "nice:game-main", .reversibleMediumRisk, .nice, .stutterScore, some 42, "5"⟩

def niceRecord : NiceRestoreRecord := ⟨42, 0, some ⟨42, some 42, some 7, none, none⟩⟩

def niceToken : RollbackToken := .niceRestore [niceRecord]

/-- The worker prepares its token, renices the task and answers. -/
def niceScript (result : WorkerResult) : ApplyScript WorkerResult :=
  .prepared niceToken fun
    | .ok _ => .write (.nice niceRecord) (.finish result)
    | .error e => .finish (.error e.text)

/-- A worker that stops after its write, and cannot be reached for the rollback, or one that does
neither. -/
def niceAnswers (stops : Bool) : ExecutorAnswers where
  hasPrivilegedService := true
  prepared := niceScript (if stops then .error "worker stopped" else .ok niceToken)
  isPrepared := by
    refine .commit (fun e => ⟨_, rfl, trivial⟩) (.write (by decide) (.finish ?_))
    cases stops with
    | true => exact trivial
    | false =>
      show ∀ x ∈ _, _
      simp [niceToken, RollbackToken.covers]
  unprepared := .finish (.error "operation has no crash-safe preparation")
  action := .error (.message "not a low-risk action")
  check := fun _ _ => .ok ()
  clock := fun _ => 0
  preview := .ok ()
  rollback := fun _ =>
    if stops then ⟨fun _ => false, some (.message "worker stopped")⟩ else ⟨fun _ => true, none⟩
  postRollbackConfig := none

def niceEffects (now : Nat) (stops : Bool) : SideEffectAnswers :=
  ⟨[], sampleHost, runtimeExecutor privilegedInput sampleHost (sampleObservation now 1)
    (niceAnswers stops), .ok (), true⟩

/-- An interval whose plan proposes the renice. -/
def niceInterval (now : Nat) (stops : Bool) : RuntimeCall :=
  .event (.interval none { sampleEvaluation now [] with
    effects := niceEffects now stops
    release := niceEffects now stops
    proposals := [⟨niceCandidate, .finite 1, false⟩] })

def privilegedRuntime : RuntimeState :=
  .starting privilegedConfig .fresh (sampleObservation 0 0) .missing

theorem niceEffects_quiet (now : Nat) (stops : Bool) :
    (niceEffects now stops).Quiet privilegedInput := by
  refine ⟨fun _ h => absurd h List.not_mem_nil, sampleObservation now 1, niceAnswers stops, rfl, ?_,
    ?_⟩
  · exact fun _ haction => nomatch haction
  · rintro _ ⟨⟩
    rfl

/-- The worker's answer is its own, or it is refused. -/
theorem holds_niceScript {hook : RollbackToken → Op TransactionState AnyError Unit}
    {result : WorkerResult} {s : TransactionState} :
    Holds ((niceScript result).perform hook : Op TransactionState AnyError WorkerResult)
      (fun _ => True) (fun r _ => ∀ token, r = .ok (.ok token) → result = .ok token) s := by
  rw [niceScript, ApplyScript.perform, holds_bind, holds_attempt]
  refine holds_of_forall (fun _ => trivial) ?_
  rintro (e | _) t
  · exact holds_ret.mpr fun _ h => by cases h
  · dsimp only
    rw [ApplyScript.perform, holds_bind, holds_onWorld, holds_update]
    refine ⟨trivial, holds_ret.mpr ?_⟩
    rintro token ⟨⟩
    rfl

theorem niceEffects_tokenFits (now : Nat) (stops : Bool) :
    TokenFits (niceEffects now stops).executor niceCandidate := by
  intro id w hid hw
  show Holds (applyPreparedThroughWorker privilegedInput sampleHost (sampleObservation now 1)
    (niceAnswers stops) niceCandidate id) _ _ w
  have hplain : ∀ r : Except AnyError RollbackToken, (∀ e, r = .error e → e.outstanding = none) →
      (∀ token, r = .ok token → token.group = niceCandidate.conflictGroup) →
      (∀ token, r = .ok token → token.group = niceCandidate.conflictGroup) ∧
        ∀ e token, r = .error e → e.outstanding = some token →
          token.group = niceCandidate.conflictGroup := by
    intro r hnone hfits
    refine ⟨hfits, fun e token he htoken => ?_⟩
    rw [hnone e he] at htoken
    cases htoken
  rw [applyPreparedThroughWorker, holds_bind, holds_withLocals]
  refine ((ApplyScript.holds_perform_of (F := fun s => ApplyFrame w s.world) ?_ ?_ ?_
    (show ApplyFrame w w from ⟨hw, rfl⟩)).and holds_niceScript).mono (fun _ _ => trivial) ?_
  · exact fun s c hs => ⟨hs.1.of_eq rfl rfl, hs.2⟩
  · exact fun s c hs => ⟨hs.1.of_eq rfl rfl, hs.2⟩
  · exact fun token s hs => holds_prepareHook_sound hid hs
  · rintro _ s ⟨⟨⟨result, rfl⟩, hs⟩, hanswer⟩
    dsimp only
    rw [holds_bind, holds_ofExcept]
    cases result with
    | ok token =>
      refine holds_pure.mpr (hplain _ (fun _ he => by cases he) ?_)
      rintro _ ⟨⟩
      have htoken := hanswer token rfl
      cases stops with
      | true => cases htoken
      | false =>
        cases htoken
        rfl
    | error text =>
      dsimp only
      refine (holds_settleFailed_sound hs).bind ?_ ?_
      · rintro e v ⟨-, _, ⟨⟩, houtstanding⟩
        refine holds_fail.mpr (hplain _ ?_ fun _ hok => by cases hok)
        rintro _ ⟨⟩
        rw [AnyError.context_outstanding]
        exact houtstanding
      · rintro e v ⟨-, _, hok, -⟩
        cases hok

theorem niceInterval_quiet (now : Nat) (stops : Bool) (s : RuntimeState)
    (hkept : s.manager.keptActions.actions = []) :
    (niceInterval now stops).Quiet privilegedConfig s := by
  refine ⟨niceEffects_quiet now stops, niceEffects_quiet now stops, ?_, ?_, ?_, ?_⟩
  · intro proposal hproposal
    cases List.mem_singleton.mp hproposal
    exact niceEffects_tokenFits now stops
  · exact fun _ => ⟨Nat.one_pos, Nat.one_pos, Nat.one_pos⟩
  · rintro ⟨hpolicy, -⟩
    cases hpolicy
  · intro proposal _ entry hentry
    rw [hkept] at hentry
    cases hentry

/-- A host on which every rollback succeeds. -/
def restoringHost : StartupHost where
  registry := fun _ => .ok { restored := 1 }
  worker := none
  restoreFileExists := fun _ => true
  undone := fun _ _ => true
  manualRestoreCommand := fun _ => "stutter daemon emergency-restore"

theorem restoringHost_restores : RestoresAll fun _ => restoringHost := by
  intro n token hautomatic
  unfold StartupHost.discharges restoringHost
  rw [hautomatic]
  cases token <;> rfl

/-- The session once the renice is kept: a recovery rolls it back. -/
theorem runtimeRun_recovery_agrees_kept :
    let s := privilegedRuntime.after privilegedConfig [niceInterval 1 false, niceInterval 2 false]
    s.manager.believedApplied = [niceToken] ∧
      RolledBackBetween s.manager.world
        ((recoverControllerJournal ⟨true⟩ fun _ => restoringHost).run
          { s.manager.world with io := [] }).state [niceToken] := by
  intro s
  have hbelieved : s.manager.believedApplied = [niceToken] := by decide +kernel
  have hphase : s.phase = .observingBaseline := by decide +kernel
  have hrun := runtimeRun_recovery_agrees privilegedConfig rfl rfl .fresh _ _ rfl rfl rfl rfl
    (sampleObservation 0 0) .missing s (.step _ (.step _ .start (niceInterval_quiet 1 false _ rfl))
      (niceInterval_quiet 2 false _ (by decide +kernel)))
  obtain ⟨leftover, hrolled, hleftover⟩ := hrun.2 ⟨true⟩ (fun _ => restoringHost) [] rfl
    (fun _ h => absurd h List.not_mem_nil) restoringHost_restores (by rw [hbelieved]; decide)
  refine ⟨hbelieved, ?_⟩
  rw [hbelieved] at hrolled
  rcases hleftover with rfl | ⟨⟨hfaulted, -⟩, -⟩
  · exact hrolled
  · rw [hphase] at hfaulted
    cases hfaulted

/-- A failed renice that could not be rolled back: the controller holds nothing, and a recovery
still rolls back the token the journal keeps for it. -/
theorem runtimeRun_recovery_exceeds :
    ∃ s, Reached (RuntimeCall.perform privilegedConfig)
      (fun call s => call.Quiet privilegedConfig s)
        (.starting privilegedConfig .fresh (sampleObservation 0 0) .missing) s ∧
      s.manager.believedApplied = [] ∧
      ((recoverControllerJournal ⟨true⟩ fun _ => restoringHost).run
        s.manager.world).state.discharged =
        [niceToken] := by
  refine ⟨privilegedRuntime.after privilegedConfig [niceInterval 1 true], ?_, by decide +kernel,
    by decide +kernel⟩
  exact .step _ .start (niceInterval_quiet 1 true _ rfl)

end Stutter

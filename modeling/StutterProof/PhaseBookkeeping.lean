import StutterProof.KeptCompatibility
import StutterProof.SoundStores

/-! # Phase bookkeeping

Four places ask for a move of the runtime's phase: the start of an evaluation, the
planning, the decision and its outcome.  In a session in which everything that is asked
of the outside succeeds none of these moves is denied, short of an explicit fault: the
phase says `MeasuringCandidate` exactly while the manager holds an experiment
(`Steady`), and each decision is made in a phase from which its move is allowed
(`Ready`).

A fault is never left.  After one, every further evaluation asks for a move that is
denied, and the candidates of a simulation pass none of the planner's gates; the result
is about sessions without them. -/
namespace Stutter
open Fallible

/-! ## Healthy sessions -/

/-- The window holds something to compare. -/
def AutotuneObservation.Measured (o : AutotuneObservation) : Prop :=
  0 < o.intervalCount ∧ 0 < o.scoredSamples ∧ 0 < o.scoredTaskCount

theorem AutotuneObservation.Measured.validate {o : AutotuneObservation} (h : o.Measured)
    (label : String) : validateWindowScoreForApply label o.toWindowScore = .ok () := by
  obtain ⟨hintervals, hsamples, htasks⟩ := h
  unfold validateWindowScoreForApply AutotuneObservation.toWindowScore
  rw [if_neg (Nat.ne_of_gt hintervals), if_neg (Nat.ne_of_gt hsamples),
    if_neg (Nat.ne_of_gt htasks)]

/-- A rollback that was made, and that no verification objects to. -/
def Verified (input : LiveExperimentManagerInput) (host : ManagerHost) (experiment : LiveExperiment)
    (r : Except AnyError (Option ActiveConfigSnapshot)) : Prop :=
  ∃ snapshot, r = .ok snapshot ∧
    ∀ observation, unverified input host observation experiment snapshot = none

open Op

/-- What one operation of the manager asks of the outside succeeds: no durable access fails, an
apply answers with its token, which the journal holds unless the manager writes it, and a rollback
verifies. -/
structure SideEffectAnswers.Healthy (input : LiveExperimentManagerInput)
    (answers : SideEffectAnswers) : Prop where
  io : ∀ outcome ∈ answers.io, outcome = .done
  service : answers.service = .ok ()
  apply : ∀ (candidate : CandidateAction) (id : ExperimentId) (w : World),
    candidate.actionId.toList.all isTrimmed = false → id.toList.all isTrimmed = false → w.Sound →
    Holds (answers.executor.applyCandidate candidate id) (fun _ => True)
      (fun r v => (v.Sound ∧ v.ledger = w.ledger) ∧ ∃ token, r = .ok token ∧
        (deferredPrivilegedJournal input candidate = false → ∃ record,
          parseControllerJournal v.journal = .ok record ∧
            namesAppliedToken record id candidate.actionId token = true)) w
  rollback : RollbackAnswers answers.executor (Verified input answers.host)

/-- An evaluation's answers are healthy, and an observation that is not of low quality has measured
something. -/
structure EvaluationAnswers.Healthy (input : LiveExperimentManagerInput)
    (answers : EvaluationAnswers) : Prop where
  effects : answers.effects.Healthy input
  release : answers.release.Healthy input
  measured : answers.observation.dataQuality.blocksAction = false → answers.observation.Measured

/-- A call all of whose answers are healthy. -/
def RuntimeCall.Healthy (input : LiveExperimentManagerInput) (call : RuntimeCall) : Prop :=
  call.Answers (·.Healthy input) (·.effects.Healthy input) (·.Healthy input)

/-! ## The manager in a healthy session -/

section Manager
variable {input : LiveExperimentManagerInput} {answers : SideEffectAnswers}
  {observation : AutotuneObservation} {s : ManagerState}

/-- Every apply of a healthy session answers with its token. -/
theorem holds_applyCandidateForRuntime_healthy {candidate : CandidateAction} {w : World}
    (hanswers : answers.Healthy input) (hnamed : candidate.actionId.toList.all isTrimmed = false)
    (hw : w.Sound) :
    Holds (applyCandidateForRuntime input answers.host answers.executor observation candidate
      (experimentIdFor input observation candidate)) (fun _ => True)
      (fun r v => (v.Sound ∧ v.ledger = w.ledger) ∧ ∃ token, r = .ok token) w := by
  unfold applyCandidateForRuntime
  split
  · exact holds_ret.mpr ⟨⟨hw, rfl⟩, _, rfl⟩
  split
  · exact holds_ret.mpr ⟨⟨hw, rfl⟩, _, rfl⟩
  split
  · -- the manager writes the intent and the token itself
    rw [tryNewId_of_nonblank (experimentIdFor_nonblank input observation candidate), holds_bind,
      holds_ret]
    dsimp only
    rw [tryNewId_of_nonblank hnamed, holds_bind, holds_ret]
    dsimp only
    rw [holds_bind]
    unfold writeControllerJournalPhase writeControllerJournalRecord
    refine holds_durable_sound hw ?_
    dsimp only
    refine (hanswers.apply candidate _ _ hnamed
      (experimentIdFor_nonblank input observation candidate)
      (hw.drawn.setJournal _)).bind ?_ ?_
    · rintro token v ⟨⟨hv, hledger⟩, -⟩
      rw [holds_bind]
      refine holds_durable_sound hv ?_
      exact holds_pure.mpr ⟨⟨hv.drawn.setJournal _, hledger⟩, token, rfl⟩
    · rintro e v ⟨-, token, hok, -⟩
      cases hok
  · rename_i hdeferred
    refine (hanswers.apply candidate _ w hnamed
      (experimentIdFor_nonblank input observation candidate)
      hw).bind ?_ ?_
    · rintro token v ⟨⟨hv, hledger⟩, token', hok, hjournal⟩
      cases hok
      obtain ⟨record, hread, hnames⟩ := hjournal (by simpa using hdeferred)
      rw [holds_bind]
      unfold readControllerJournal
      refine holds_durableRead_sound hv ?_
      rw [hread]
      dsimp only
      rw [holds_bind, holds_ensure, if_pos hnames]
      exact holds_pure.mpr ⟨⟨hv.drawn, hledger⟩, token, rfl⟩
    · rintro e v ⟨-, token, hok, -⟩
      cases hok

variable {experiment : LiveExperiment}

/-- A rollback of a healthy session is a verified one. -/
theorem RollbackSettled.verified {host : ManagerHost} {before : World}
    {r : Except AnyError LiveExperimentOutcome} {t : ManagerState}
    (h : RollbackSettled input host observation experiment (Verified input host) before r t) :
    t.current = none ∧ ∃ outcome, r = .ok outcome ∧ outcome.event = .reverted := by
  cases h with
  | failed e hanswer hheld hjournal =>
    obtain ⟨snapshot, hok, -⟩ := hanswer
    cases hok
  | unverified snapshot verification outcome hsim hanswer hobjects hevent hheld hjournal =>
    obtain ⟨snapshot', hok, hverified⟩ := hanswer
    cases hok
    rw [hverified observation] at hobjects
    cases hobjects
  | reverted outcome hevent hnone hjournal => exact ⟨hnone, outcome, rfl, hevent⟩

theorem holds_rollbackActive_healthy {reason : String} (hanswers : answers.Healthy input)
    (hs : s.world.Sound) (hcurrent : s.current = some experiment) :
    Holds (rollbackActiveExperiment input answers.host answers.executor observation reason)
      (fun _ => True) (fun r t => t.world.Sound ∧ t.current = none ∧
        ∃ outcome, r = .ok outcome ∧ outcome.event = .reverted) s := by
  refine (holds_rollbackActive_sound hanswers.rollback hs hcurrent).mono (fun _ h => h) ?_
  rintro r t ⟨hframe, hsettled⟩
  exact ⟨hframe.sound, RollbackSettled.verified hsettled⟩

/-- A keep of a healthy session keeps or reverts: the action conflicts with no kept one. -/
theorem holds_keepCurrent_healthy {reason : String} (hanswers : answers.Healthy input)
    (hs : s.world.Sound) (hcurrent : s.current = some experiment)
    (hmeasured : observation.Measured)
    (hinsert : ∀ why, ∃ set,
      s.keptActions.insertIfCompatible (keptStateFor observation experiment why) = .ok set) :
    Holds (keepCurrentExperiment input answers.host answers.executor observation reason)
      (fun _ => True) (fun r t => t.world.Sound ∧ t.current = none ∧
        ∃ outcome, r = .ok outcome ∧ (outcome.event = .kept ∨ outcome.event = .reverted)) s := by
  refine (holds_keepCurrent_sound hanswers.rollback hs hcurrent).mono (fun _ h => h) ?_
  rintro r t ⟨hsound, hsettled⟩
  refine ⟨hsound, ?_⟩
  cases hsettled with
  | kept why outcome hset hevent hnone hjournal hledger => exact ⟨hnone, outcome, rfl, .inl hevent⟩
  | clashed why e hset hheld hkept hjournal hledger =>
    obtain ⟨set, hok⟩ := hinsert why
    rw [hok] at hset
    cases hset
  | unmeasured e hwindow =>
    rw [hmeasured.validate] at hwindow
    cases hwindow
  | rolledBack hframe h =>
    obtain ⟨hnone, outcome, hok, hevent⟩ := RollbackSettled.verified h
    exact ⟨hnone, outcome, hok, .inr hevent⟩

/-- A start of a healthy session, once the planner's gates let the candidate through. -/
theorem holds_start_healthy {candidate : CandidateAction} (hanswers : answers.Healthy input)
    (hs : s.world.Sound) (hnamed : candidate.actionId.toList.all isTrimmed = false)
    (hmode : validateStartCandidate input.mode input.daemonPolicy candidate = .ok true)
    (hgate : answers.host.autonomousApplyGate candidate = none) (hmeasured : observation.Measured) :
    Holds (startCandidateExperiment input answers.host answers.executor observation candidate)
      (fun _ => True) (fun r t => t.world.Sound ∧
        ∃ outcome, r = .ok outcome ∧ outcome.event = .started) s := by
  have hsupport : validateAutonomousSupport answers.host candidate = .ok () := by
    unfold validateAutonomousSupport
    rw [hgate]
    split <;> rfl
  rw [startCandidateExperiment, holds_bind, holds_ofExcept, hmode]
  dsimp only
  rw [if_pos rfl, holds_bind, holds_ofExcept, hsupport]
  dsimp only
  rw [holds_bind, holds_ofExcept, hmeasured.validate]
  dsimp only
  refine (holds_startValidated_sound
    (holds_applyCandidateForRuntime_healthy hanswers hnamed hs)).mono (fun _ h => h) ?_
  rintro r t ⟨hframe, hsettled⟩
  refine ⟨hframe.sound, ?_⟩
  cases hsettled with
  | failed e w happly hcurrent hworld =>
    obtain ⟨token, hok⟩ := happly
    cases hok
  | started token w outcome happly hevent hcurrent hjournal => exact ⟨outcome, rfl, hevent⟩

/-- The release of kept actions leaves the stores sound. -/
theorem holds_releaseGroups_healthy {groups : List ActionConflictGroup} {release : KeptRelease}
    (hanswers : answers.Healthy input) (hs : s.world.Sound) :
    Holds (releaseGroups input answers.executor groups release) (fun _ => True)
      (fun _ t => t.world.Sound) s := by
  induction groups generalizing s release with
  | nil => exact holds_pure.mpr hs
  | cons group groups ih =>
    rw [releaseGroups, holds_bind, holds_gets]
    dsimp only
    cases s.keptActions.get group with
    | none => exact ih hs
    | some kept =>
      refine (holds_releaseKept_sound hanswers.rollback hs).bind ?_ fun _ _ ht => ht.1
      exact fun _ _ ht => ih ht.1

end Manager

/-! ## Balanced runtimes -/

/-- What holds of a healthy session's runtime at every step of a call, whatever the phase.  The
last two are about the run so far: only a faulted runtime was denied a move, and only an explicit
decision faulted it. -/
structure Balanced (s : RuntimeState) : Prop where
  agrees : s.manager.current.isSome = s.manager.controller.activeExperiment.isSome
  running : s.manager.controller.phase = .faulted → s.phase = .faulted
  harmony : s.Harmonious
  grouped : ∀ experiment, s.manager.current = some experiment →
    experiment.candidate.conflictGroup ≠ .none
  ledger : ∃ ledger, parseKeptLedger s.manager.world.ledger = .ok ledger
  denied : ∀ move ∈ s.denied, move.1 = .faulted
  explicit : s.phase = .faulted ↔ ∃ reason, AutotuneDecision.fault reason ∈ s.executed

/-- The runtime between two calls: it measures exactly while the manager holds an experiment. -/
structure Steady (s : RuntimeState) : Prop extends Balanced s where
  held : s.manager.current.isSome → s.phase = .measuringCandidate
  idle : s.manager.current = none → s.phase = .idle ∨ s.phase = .observingBaseline ∨
    s.phase = .planning ∨ s.phase = .dryRun ∨ s.phase = .faulted

/-- The runtime at the start of an evaluation. -/
structure Observing (s : RuntimeState) : Prop extends Balanced s where
  held : s.manager.current.isSome → s.phase = .measuringCandidate
  idle : s.manager.current = none → s.phase = .observingBaseline

/-- A phase in which nothing is held and a candidate may be applied. -/
def AutotuneRuntimePhase.plans (phase : AutotuneRuntimePhase) : Prop :=
  phase = .planning ∨ phase = .dryRun

/-- The decision can be carried out from where the runtime is. -/
inductive Ready (config : AutotuneRuntimeConfig) (answers : EvaluationAnswers) :
    AutotuneDecision → RuntimeState → Prop where
  /-- Nothing is done; an experiment that was just abandoned is still being measured. -/
  | passive {t : RuntimeState} (decision : AutotuneDecision) (hbalanced : Balanced t)
      (hdecision : (∃ reason, decision = .noop reason) ∨ ∃ c reason, decision = .suggest c reason)
      (hheld : t.manager.current.isSome → t.phase = .measuringCandidate)
      (hidle : t.manager.current = none → t.phase = .measuringCandidate ∨ t.phase.plans) :
      Ready config answers decision t
  | cooldown {t : RuntimeState} (duration : Nat) (reason : String) (hbalanced : Balanced t)
      (hcurrent : t.manager.current = none) (hphase : t.phase.plans) :
      Ready config answers (.enterCooldown duration reason) t
  | fault {t : RuntimeState} (reason : String) (hbalanced : Balanced t) :
      Ready config answers (.fault reason) t
  | keep {t : RuntimeState} (id : ExperimentId) (reason : String) (experiment : LiveExperiment)
      (hbalanced : Balanced t) (hcurrent : t.manager.current = some experiment)
      (hphase : t.phase = .measuringCandidate) (hmeasured : answers.observation.Measured) :
      Ready config answers (.keepCurrent id reason) t
  | revert {t : RuntimeState} (id : ExperimentId) (reason : String) (experiment : LiveExperiment)
      (hbalanced : Balanced t) (hcurrent : t.manager.current = some experiment)
      (hphase : t.phase = .measuringCandidate) : Ready config answers (.revert id reason) t
  | start {t : RuntimeState} (candidate : CandidateAction) (reason : String)
      (hbalanced : Balanced t)
      (hcurrent : t.manager.current = none) (hphase : t.phase.plans)
      (hmode : config.input.controllerPolicy.canStartExperiment)
      (hselected : Selectable config answers t candidate) :
      Ready config answers (.startExperiment candidate reason) t

section Moves
variable {config : AutotuneRuntimeConfig} {s : RuntimeState}

/-- A move between phases that are no fault. -/
theorem Balanced.moved (h : Balanced s) {next : AutotuneRuntimePhase} {fault : Option String}
    (hphase : s.phase ≠ .faulted) (hnext : next ≠ .faulted) :
    Balanced { s with phase := next, faultReason := fault } := by
  have hexplicit : ¬ ∃ reason, AutotuneDecision.fault reason ∈ s.executed :=
    fun hex => hphase (h.explicit.mpr hex)
  refine ⟨h.agrees, fun hfaulted => absurd (h.running hfaulted) hphase, h.harmony, h.grouped,
    h.ledger, h.denied, ?_⟩
  exact ⟨fun hfaulted => absurd hfaulted hnext, fun hex => absurd hex hexplicit⟩

/-- A move the table allows is made. -/
theorem holds_transition_allowed {next : AutotuneRuntimePhase} {reason : String}
    {Q : Except AnyError Unit → RuntimeState → Prop}
    (hallowed : s.phase.allowsTransitionTo next = true)
    (h : ∀ fault, Q (.ok ()) { s with phase := next, faultReason := fault }) :
    Holds (transitionRuntimePhase next reason) (fun _ => True) Q s := by
  refine holds_transitionRuntimePhase (fun _ => h _) ?_
  intro hdenied
  rw [hallowed] at hdenied
  cases hdenied

/-- A faulted runtime that is denied a move holds nothing and stays as it was. -/
theorem Steady.deny (h : Steady s) (hphase : s.phase = .faulted) (next : AutotuneRuntimePhase)
    (message : String) : Steady (s.deny next message) := by
  have hnone : s.manager.current = none := by
    cases hcurrent : s.manager.current with
    | none => rfl
    | some experiment =>
      have hmeasuring := h.held (by rw [hcurrent]; rfl)
      rw [hphase] at hmeasuring
      cases hmeasuring
  refine ⟨⟨h.agrees, fun _ => rfl, h.harmony, h.grouped, h.ledger, ?_, ?_⟩, ?_, ?_⟩
  · intro move hmove
    rcases List.mem_append.mp hmove with hold | hnew
    · exact h.denied move hold
    · cases List.mem_singleton.mp hnew
      exact hphase
  · exact ⟨fun _ => h.explicit.mp hphase, fun _ => rfl⟩
  · intro hsome
    have hcurrent : s.manager.current.isSome := hsome
    rw [hnone] at hcurrent
    cases hcurrent
  · exact fun _ => .inr (.inr (.inr (.inr rfl)))

/-- The first move of an evaluation: denied to a faulted runtime only. -/
theorem holds_prepare_steady (hs : Steady s) :
    Holds prepareRuntimePhaseForEvaluation (fun _ => True)
      (fun r t => match r with | .ok _ => Observing t | .error _ => Steady t) s := by
  rw [prepareRuntimePhaseForEvaluation, holds_bind, holds_gets]
  dsimp only
  cases hcurrent : s.manager.current with
  | some experiment =>
    have hsome : s.manager.current.isSome := by rw [hcurrent]; rfl
    have hphase := hs.held hsome
    rw [ManagerState.hasActiveExperiment, hcurrent, Option.isSome_some, if_pos rfl]
    refine holds_transition_allowed (by rw [hphase]; rfl) fun fault => ?_
    refine ⟨hs.toBalanced.moved (by rw [hphase]; decide) (by decide), fun _ => rfl, ?_⟩
    intro hnone
    have hnone' : s.manager.current = none := hnone
    rw [hcurrent] at hnone'
    cases hnone'
  | none =>
    rw [ManagerState.hasActiveExperiment, hcurrent, Option.isSome_none, if_neg (by decide)]
    by_cases hfaulted : s.phase = .faulted
    · refine holds_transitionRuntimePhase ?_ fun _ message => hs.deny hfaulted _ message
      intro hallowed
      rw [hfaulted] at hallowed
      cases hallowed
    · have hallowed : s.phase.allowsTransitionTo .observingBaseline = true := by
        rcases hs.idle hcurrent with h | h | h | h | h
        · rw [h]; rfl
        · rw [h]; rfl
        · rw [h]; rfl
        · rw [h]; rfl
        · exact absurd h hfaulted
      refine holds_transition_allowed hallowed fun fault => ?_
      refine ⟨hs.toBalanced.moved hfaulted (by decide), ?_, fun _ => rfl⟩
      intro hsome
      have hsome' : s.manager.current.isSome := hsome
      rw [hcurrent] at hsome'
      cases hsome'

/-- A release takes kept actions away. -/
theorem Balanced.released (h : Balanced s) {t : ManagerState} (ht : t.ReleasedFrom s.manager)
    (hsound : t.world.Sound) : Balanced { s with manager := t } := by
  refine ⟨?_, ?_, ⟨h.harmony.kept.sublist ht.kept, ?_⟩, ?_, hsound.ledger, h.denied, h.explicit⟩
  · show t.current.isSome = t.controller.activeExperiment.isSome
    rw [ht.current, ht.controller]
    exact h.agrees
  · intro hfaulted
    refine h.running ?_
    rw [← ht.controller]
    exact hfaulted
  · intro experiment hcurrent entry hentry
    exact h.harmony.live experiment (ht.current ▸ hcurrent) entry (ht.kept.subset hentry)
  · exact fun experiment hcurrent => h.grouped experiment (ht.current ▸ hcurrent)

variable {answers : SideEffectAnswers}

/-- The world of an operation of the manager is sound. -/
theorem Balanced.sound (h : Balanced s)
    (hanswers : answers.Healthy config.input) : (s.manager.scheduled answers.io).world.Sound :=
  ⟨hanswers.io, h.ledger⟩

theorem holds_release_balanced {P : RuntimeState → Prop}
    (hanswers : answers.Healthy config.input) (hbalanced : Balanced s)
    (hreleased : ∀ t : ManagerState, t.ReleasedFrom s.manager → Balanced { s with manager := t } →
      P { s with manager := t }) (hs : P s) :
    Holds (releaseRuntimeKeptActions config answers) (fun _ => True) (fun _ t => P t) s := by
  rw [releaseRuntimeKeptActions, holds_bind, holds_gets]
  dsimp only
  split
  · exact holds_pure.mpr hs
  · rw [holds_bind, holds_ofExcept, hanswers.service]
    dsimp only
    rw [holds_bind, holds_onManager]
    have hsound : Holds (releaseKeptActions config.input answers.executor) (fun _ => True)
        (fun _ t => t.world.Sound) (s.manager.scheduled answers.io) := by
      rw [releaseKeptActions, holds_bind, holds_gets]
      exact holds_releaseGroups_healthy hanswers (hbalanced.sound hanswers)
    refine (holds_releaseKeptActions_frame.and hsound).mono (fun _ _ => trivial) ?_
    rintro r t ⟨hframe, ht⟩
    have hframe' : t.ReleasedFrom s.manager := ⟨hframe.current, hframe.controller, hframe.kept⟩
    have hP := hreleased t hframe' (hbalanced.released hframe' ht)
    cases r with
    | error e => exact hP
    | ok release => exact holds_pure.mpr hP

theorem holds_release_observing (hanswers : answers.Healthy config.input) (hs : Observing s) :
    Holds (releaseRuntimeKeptActions config answers) (fun _ => True)
      (fun _ t => Observing t) s := by
  refine holds_release_balanced hanswers hs.toBalanced ?_ hs
  intro t ht hbalanced
  refine ⟨hbalanced, fun hsome => hs.held ?_, fun hnone => hs.idle ?_⟩
  · rw [← ht.current]
    exact hsome
  · rw [← ht.current]
    exact hnone

theorem holds_release_steady (hanswers : answers.Healthy config.input) (hs : Steady s) :
    Holds (releaseRuntimeKeptActions config answers) (fun _ => True)
      (fun _ t => Steady t) s := by
  refine holds_release_balanced hanswers hs.toBalanced ?_ hs
  intro t ht hbalanced
  refine ⟨hbalanced, fun hsome => hs.held ?_, fun hnone => hs.idle ?_⟩
  · rw [← ht.current]
    exact hsome
  · rw [← ht.current]
    exact hnone

end Moves

/-! ## Choosing -/

section Choosing
variable {config : AutotuneRuntimeConfig} {answers : EvaluationAnswers} {s : RuntimeState}

theorem Balanced.resync (h : Balanced s) : Balanced s.resync :=
  ⟨rfl, fun hfaulted => (nomatch hfaulted), .idle h.harmony.kept, fun _ hnone => (nomatch hnone),
    h.ledger, h.denied, h.explicit⟩

theorem Balanced.abandonKept (h : Balanced s) :
    Balanced { s with manager := { s.manager with keptActions := .empty } } :=
  ⟨h.agrees, h.running,
    ⟨KeptActionSet.compatible_empty, fun _ _ _ hentry => absurd hentry List.not_mem_nil⟩, h.grouped,
    h.ledger, h.denied, h.explicit⟩

/-- While an experiment is held it is measured, and the controller knows of it. -/
theorem holds_decideHeld_ready {experiment : LiveExperiment} (hs : Observing s)
    (hcurrent : s.manager.current = some experiment)
    (hmeasured : answers.observation.dataQuality.blocksAction = false →
      answers.observation.Measured) :
    Holds (decideHeld config answers experiment) (fun _ => True)
      (fun r t => match r with
        | .ok decision => Ready config answers decision t
        | .error _ => Steady t) s := by
  have hphase : s.phase = .measuringCandidate := hs.held (by rw [hcurrent]; rfl)
  have hpassive : ∀ reason, Ready config answers (.noop reason) s := fun reason =>
    .passive _ hs.toBalanced (.inl ⟨reason, rfl⟩) (fun _ => hphase) fun _ => .inl hphase
  unfold decideHeld
  cases hwindow : activeWindowDecision experiment answers.observation with
  | some decision =>
    obtain ⟨reason, rfl⟩ := activeWindowDecision_noop hwindow
    exact holds_pure.mpr (hpassive reason)
  | none =>
    dsimp only
    split
    · unfold activeExperimentRecoveryDecision
      split
      · exact holds_pure.mpr (.revert _ _ experiment hs.toBalanced hcurrent hphase)
      · rw [holds_bind, holds_gets]
        dsimp only
        rw [holds_bind, holds_assign]
        exact holds_pure.mpr (.passive _ hs.toBalanced.resync (.inl ⟨_, rfl⟩) (fun _ => hphase)
          fun _ => .inl hphase)
      · exact holds_pure.mpr (.fault _ hs.toBalanced)
      · exact holds_pure.mpr (.fault _ hs.toBalanced)
    · rw [controllerDecision, holds_gets]
      dsimp only
      have hrunning : s.manager.controller.phase ≠ .faulted := by
        intro hfaulted
        have hbad := hs.running hfaulted
        rw [hphase] at hbad
        cases hbad
      obtain ⟨active, hactive⟩ : ∃ active, s.manager.controller.activeExperiment = some active := by
        refine Option.isSome_iff_exists.mp ?_
        rw [← hs.agrees, hcurrent]
        rfl
      rcases decide_active hrunning hactive rfl with
        ⟨reason, hd⟩ | ⟨id, reason, hd⟩ | ⟨id, reason, hd, hquality⟩
      · rw [hd]
        exact hpassive reason
      · rw [hd]
        exact .revert id reason experiment hs.toBalanced hcurrent hphase
      · rw [hd]
        exact .keep id reason experiment hs.toBalanced hcurrent hphase (hmeasured hquality)

/-- The runtime while it plans: nothing is held. -/
structure Planning (s : RuntimeState) : Prop extends Balanced s where
  current : s.manager.current = none
  phase : s.phase.plans

theorem Planning.steady (h : Planning s) : Steady s := by
  refine ⟨h.toBalanced, ?_, ?_⟩
  · intro hsome
    rw [h.current] at hsome
    cases hsome
  · intro _
    rcases h.phase with hphase | hphase
    · exact .inr (.inr (.inl hphase))
    · exact .inr (.inr (.inr (.inl hphase)))

theorem Planning.not_faulted (h : Planning s) : s.phase ≠ .faulted := by
  rcases h.phase with hphase | hphase <;> rw [hphase] <;> decide

/-- The plan files are written in the phase for it. -/
theorem holds_writeDryRunPlanFiles_planning (hs : Planning s) (hphase : s.phase = .planning) :
    Holds (writeDryRunPlanFiles config answers) (fun _ => True)
      (fun _ t => Planning t ∧ t.PlansAs s) s := by
  unfold writeDryRunPlanFiles
  split
  · rw [holds_bind, prepareRuntimePhaseForDryRun, holds_bind, holds_gets, hphase]
    refine holds_pure.mpr ?_
    dsimp only
    rw [holds_bind]
    refine holds_transition_allowed (by rw [hphase]; rfl) fun fault => ?_
    dsimp only
    rw [holds_ofExcept]
    exact ⟨⟨hs.toBalanced.moved hs.not_faulted (by decide), hs.current, .inr rfl⟩,
      ⟨rfl, rfl, rfl, rfl⟩⟩
  · exact holds_pure.mpr ⟨hs, .refl s⟩

/-- The plan's own recovery, and then the controller. -/
theorem holds_decidePlanned_ready {candidate : Option CandidateAction} (hs : Planning s)
    (hselected : ∀ c, candidate = some c → Selectable config answers s c) :
    Holds (do
      match ← planExternalMutationRecoveryDecision config answers with
      | some decision => return decision
      | none => controllerDecision config answers candidate : RuntimeOp AutotuneDecision)
      (fun _ => True) (fun r t => match r with
        | .ok decision => Ready config answers decision t
        | .error _ => Steady t) s := by
  have hpassive : ∀ (t : RuntimeState) (decision : AutotuneDecision), Planning t →
      ((∃ reason, decision = .noop reason) ∨ ∃ c reason, decision = .suggest c reason) →
      Ready config answers decision t := by
    intro t decision ht hdecision
    refine .passive decision ht.toBalanced hdecision ?_ fun _ => .inr ht.phase
    intro hsome
    rw [ht.current] at hsome
    cases hsome
  have hcontroller : Holds (controllerDecision config answers candidate) (fun _ => True)
      (fun r t => match r with
        | .ok decision => Ready config answers decision t
        | .error _ => Steady t) s := by
    rw [controllerDecision, holds_gets]
    dsimp only
    have hrunning : s.manager.controller.phase ≠ .faulted :=
      fun hfaulted => hs.not_faulted (hs.running hfaulted)
    have hidle : s.manager.controller.activeExperiment = none := by
      have hagrees := hs.agrees
      rw [hs.current] at hagrees
      exact Option.isSome_eq_false_iff.mp hagrees.symm |> Option.isNone_iff_eq_none.mp
    rcases decide_idle hrunning hidle rfl with
      ⟨reason, hd⟩ | ⟨c, reason, hd⟩ | ⟨duration, reason, hd⟩ | ⟨c, reason, hd⟩
    · rw [hd]
      exact hpassive s _ hs (.inl ⟨reason, rfl⟩)
    · rw [hd]
      exact hpassive s _ hs (.inr ⟨c, reason, rfl⟩)
    · rw [hd]
      exact .cooldown duration reason hs.toBalanced hs.current hs.phase
    · obtain ⟨hcandidate, hallowed⟩ := decide_startExperiment hd
      rw [hd]
      exact .start c reason hs.toBalanced hs.current hs.phase hallowed.mode (hselected c hcandidate)
  rw [holds_bind]
  unfold planExternalMutationRecoveryDecision
  split
  · split
    · exact holds_pure.mpr (holds_pure.mpr (.fault _ hs.toBalanced))
    · rw [holds_bind, holds_gets]
      dsimp only
      rw [holds_bind, holds_assign]
      exact holds_pure.mpr (holds_pure.mpr (hpassive _ _ ⟨hs.toBalanced.resync, rfl, hs.phase⟩
        (.inl ⟨_, rfl⟩)))
    · exact holds_pure.mpr (holds_pure.mpr (.fault _ hs.toBalanced))
    · exact holds_pure.mpr (holds_pure.mpr (.fault _ hs.toBalanced))
  · split
    · split
      · rw [holds_bind, holds_gets]
        dsimp only
        rw [holds_bind, holds_assign]
        exact holds_pure.mpr (holds_pure.mpr (hpassive _ _
          ⟨hs.toBalanced.abandonKept, hs.current, hs.phase⟩ (.inl ⟨_, rfl⟩)))
      all_goals exact holds_pure.mpr (holds_pure.mpr (.fault _ hs.toBalanced))
    · exact holds_pure.mpr hcontroller

/-- **Every decision is made in a phase from which it can be carried out.** -/
theorem holds_choose_ready (hanswers : answers.Healthy config.input) (hs : Observing s) :
    Holds (chooseDecision config answers) (fun _ => True)
      (fun r t => match r with
        | .ok decision => Ready config answers decision t
        | .error _ => Steady t) s := by
  rw [chooseDecision, holds_bind, holds_gets]
  dsimp only
  cases hcurrent : s.manager.current with
  | some experiment => exact holds_decideHeld_ready hs hcurrent hanswers.measured
  | none =>
    have hphase := hs.idle hcurrent
    dsimp only [decideIdle]
    rw [holds_bind]
    refine holds_transition_allowed (by rw [hphase]; rfl) fun fault => ?_
    have hplanning : Planning { s with phase := .planning, faultReason := fault } :=
      ⟨hs.toBalanced.moved (by rw [hphase]; decide) (by decide), hcurrent, .inl rfl⟩
    dsimp only
    refine (holds_selectCandidate_of (P := Planning)
      (holds_writeDryRunPlanFiles_planning hplanning rfl) hplanning).bind ?_ fun e t ht =>
        ht.1.1.steady
    rintro candidate t ⟨⟨ht, -⟩, hselected⟩
    refine holds_decidePlanned_ready ht fun c hc => hselected c ?_
    rw [hc]

end Choosing

/-! ## What the planner's gates are worth to the manager -/

/-- A candidate that the manager's own gates let through. -/
structure StartAdmitted (config : AutotuneRuntimeConfig) (answers : EvaluationAnswers)
    (candidate : CandidateAction) : Prop where
  named : candidate.actionId.toList.all isTrimmed = false
  mode : validateStartCandidate config.input.mode config.input.daemonPolicy candidate = .ok true
  gate : answers.effects.host.autonomousApplyGate candidate = none
  quality : answers.observation.dataQuality.blocksAction = false
  grouped : candidate.conflictGroup ≠ .none

variable {candidate : CandidateAction}

/-- The class and the scope a mode admits are those the manager asks for. -/
theorem validateStartCandidate_of_admits {policy : DaemonPolicy} {confidence : Option F32}
    (hmode : ModeAdmits policy { candidate.descriptor with confidence := confidence })
    (hrisk : candidate.isHighRiskSystemAdjacent = false) :
    validateStartCandidate policy.mode policy candidate = .ok true := by
  unfold ModeAdmits at hmode
  unfold validateStartCandidate
  cases hm : policy.mode with
  | observe => rw [hm] at hmode; exact hmode.elim
  | suggest => rw [hm] at hmode; exact hmode.elim
  | applyHighRisk => rw [hm] at hmode; exact hmode.elim
  | applyLowRisk =>
    rw [hm] at hmode
    have hclass : candidate.safetyClass = .reversibleLowRisk := hmode.1
    dsimp only
    rw [if_neg (by simp [hclass])]
  | applyMediumRisk =>
    rw [hm] at hmode
    obtain ⟨hunlock, hrank, -⟩ := hmode
    have hrank' : candidate.safetyClass.rank ≤ SafetyClass.reversibleMediumRisk.rank := hrank
    dsimp only
    rw [if_neg (by simp [hunlock]), if_neg (by omega), if_neg (by simp [hrisk])]

/-- No mode applies what only observes, so the fake is never admitted. -/
theorem conflictGroup_of_admits {policy : DaemonPolicy} {confidence : Option F32}
    (hmode : ModeAdmits policy { candidate.descriptor with confidence := confidence }) :
    candidate.conflictGroup ≠ .none := by
  have hscope : candidate.effectScope ≠ .observeOnly := by
    intro hobserve
    unfold ModeAdmits at hmode
    have hdescriptor : candidate.descriptor.effectScope = .observeOnly := hobserve
    cases hm : policy.mode <;> rw [hm] at hmode <;> simp only at hmode
    · obtain ⟨-, hscope⟩ := hmode
      rw [hdescriptor] at hscope
      cases hscope
    · obtain ⟨-, -, hscope⟩ := hmode
      rw [hdescriptor] at hscope
      cases hscope
  unfold CandidateAction.conflictGroup
  unfold CandidateAction.effectScope at hscope
  cases hv : candidate.variant <;> rw [hv] at hscope <;> simp_all

/-- **What the planner selects, the manager starts.** -/
theorem Selectable.admitted {config : AutotuneRuntimeConfig} {answers : EvaluationAnswers}
    {s : RuntimeState} (hsimulated : config.simulatedCandidates = [])
    (hmode : config.input.controllerPolicy.canStartExperiment)
    (h : Selectable config answers s candidate) : StartAdmitted config answers candidate := by
  rcases h with hmem | ⟨proposal, -, rfl, heligible⟩
  · rw [hsimulated] at hmem
    cases hmem
  have happly : config.input.daemonPolicy.mode.supportsApply = true := by
    rw [← config.controllerMode]
    exact hmode
  unfold proposalEligible at heligible
  simp only [Bool.and_eq_true, Bool.not_eq_true', happly, Bool.not_true, Bool.false_or,
    Option.isNone_iff_eq_none, policyIntentForMode, if_true] at heligible
  obtain ⟨⟨⟨⟨⟨-, hrisk⟩, hcheck⟩, hgate⟩, -⟩, -⟩ := heligible
  have hadmitted := (checkActionWithContext_apply _ _ _).mp (eq_ok_of_isOk hcheck)
  refine ⟨hadmitted.named.1, ?_, hgate, ?_, conflictGroup_of_admits hadmitted.mode⟩
  · rw [config.managerMode]
    exact validateStartCandidate_of_admits hadmitted.mode hrisk
  · have hquality := hadmitted.context.dataQuality
    simpa [policyContextForInput] using hquality

/-! ## Carrying out -/

section Effects
variable {config : AutotuneRuntimeConfig} {answers : SideEffectAnswers}
  {observation : AutotuneObservation} {decision : AutotuneDecision} {reason : String}
  {s t : RuntimeState}

/-- The runtime in which the manager's answer `u` is read; the memory's file does not matter. -/
structure Answered (t : RuntimeState) (decision : AutotuneDecision) (u : ManagerState)
    (v : RuntimeState) : Prop where
  manager : v.manager = u
  phase : v.phase = t.phase
  executed : v.executed = t.executed ++ [decision]
  denied : v.denied = t.denied

/-- The side effects of a decision whose move is made and whose operation answers. -/
theorem holds_effects_healthy {T : RuntimeState → Prop} (hanswers : answers.Healthy config.input)
    (hstart : (config.dryRunAllSafe && decision.isStart) = false)
    (hmoved : Holds (transitionForDecision decision reason) (fun _ => True)
      (fun r t => r = .ok () ∧ T t) s)
    (hmanager : ∀ t, T t → Holds (applyDecisionSideEffects config.input answers.host
      answers.executor observation decision reason) (fun _ => True) (fun r u => ∃ outcome,
        r = .ok outcome ∧ ∀ v, Answered t decision u v →
          Holds (transitionForOutcome outcome.event) (fun _ => True) (fun _ t => Steady t) v)
      (t.manager.scheduled answers.io)) :
    Holds (applyRuntimeSideEffects config answers observation decision reason) (fun _ => True)
      (fun _ t => Steady t) s := by
  rw [applyRuntimeSideEffects, holds_bind, holds_ensure, if_pos (by rw [hstart]; rfl)]
  dsimp only
  refine hmoved.bind ?_ fun e t ht => by cases ht.1
  rintro _ t ⟨-, ht⟩
  rw [holds_bind, holds_ofExcept, hanswers.service]
  dsimp only
  rw [holds_bind, holds_assign]
  dsimp only
  rw [holds_bind, holds_attempt, holds_onManager]
  refine (hmanager t ht).mono (fun _ h => h) ?_
  rintro _ u ⟨outcome, rfl, hsteady⟩
  dsimp only
  rw [holds_bind]
  exact holds_persistCandidateMemory (hsteady _ ⟨rfl, rfl, rfl, rfl⟩)
    fun _ => hsteady _ ⟨rfl, rfl, rfl, rfl⟩

/-- The manager's own half of `Balanced`. -/
structure ManagerBalanced (u : ManagerState) : Prop where
  agrees : u.current.isSome = u.controller.activeExperiment.isSome
  harmony : Harmony u.keptActions u.current
  grouped : ∀ experiment, u.current = some experiment → experiment.candidate.conflictGroup ≠ .none
  ledger : ∃ ledger, parseKeptLedger u.world.ledger = .ok ledger

/-- A decision that is no fault leaves a runtime that is none. -/
theorem Answered.balanced {u : ManagerState} {v : RuntimeState} (h : Answered t decision u v)
    (ht : Balanced t) (hphase : t.phase ≠ .faulted) (hdecision : ∀ reason, decision ≠ .fault reason)
    (hu : ManagerBalanced u) (hrunning : u.controller.phase ≠ .faulted) : Balanced v := by
  refine ⟨h.manager ▸ hu.agrees, fun hfaulted => absurd (h.manager ▸ hfaulted) hrunning,
    ?_, h.manager ▸ hu.grouped, h.manager ▸ hu.ledger, h.denied ▸ ht.denied, ?_⟩
  · show Harmony v.manager.keptActions v.manager.current
    rw [h.manager]
    exact hu.harmony
  · rw [h.phase, h.executed]
    constructor
    · exact fun hfaulted => absurd hfaulted hphase
    · rintro ⟨reason, hmem⟩
      rcases List.mem_append.mp hmem with hold | hnew
      · exact ht.explicit.mpr ⟨reason, hold⟩
      · exact absurd (List.mem_singleton.mp hnew).symm (hdecision reason)

/-- An outcome after which nothing is held. -/
theorem holds_outcome_idle {event : LiveExperimentEvent} (hs : Balanced s)
    (hcurrent : s.manager.current = none)
    (hevent : event = .kept ∨ event = .reverted ∨ event = .cooldownEntered ∨ event = .noop)
    (hphase : s.phase ≠ .faulted)
    (hallowed : s.phase.allowsTransitionTo .observingBaseline = true) :
    Holds (transitionForOutcome event) (fun _ => True) (fun _ t => Steady t) s := by
  rw [transitionForOutcome, holds_bind, holds_gets]
  dsimp only
  have hsteady : ∀ fault, Steady { s with phase := .observingBaseline, faultReason := fault } := by
    intro fault
    refine ⟨hs.moved hphase (by decide), ?_, fun _ => .inr (.inl rfl)⟩
    intro hsome
    have hsome' : s.manager.current.isSome := hsome
    rw [hcurrent] at hsome'
    cases hsome'
  rcases hevent with rfl | rfl | rfl | rfl
  · exact holds_transition_allowed hallowed hsteady
  · exact holds_transition_allowed hallowed hsteady
  · exact holds_transition_allowed hallowed hsteady
  · dsimp only
    rw [ManagerState.hasActiveExperiment, hcurrent, Option.isSome_none, if_neg (by decide)]
    exact holds_transition_allowed hallowed hsteady

/-- An outcome after which an experiment is held. -/
theorem holds_outcome_held {event : LiveExperimentEvent} (hs : Balanced s)
    (hcurrent : s.manager.current.isSome) (hevent : event = .started ∨ event = .noop)
    (hphase : s.phase ≠ .faulted)
    (hallowed : s.phase.allowsTransitionTo .measuringCandidate = true) :
    Holds (transitionForOutcome event) (fun _ => True) (fun _ t => Steady t) s := by
  rw [transitionForOutcome, holds_bind, holds_gets]
  dsimp only
  have hsteady : ∀ fault, Steady { s with phase := .measuringCandidate, faultReason := fault } := by
    intro fault
    refine ⟨hs.moved hphase (by decide), fun _ => rfl, ?_⟩
    intro hnone
    have hnone' : s.manager.current = none := hnone
    rw [hnone'] at hcurrent
    cases hcurrent
  rcases hevent with rfl | rfl
  · exact holds_transition_allowed hallowed hsteady
  · dsimp only
    rw [ManagerState.hasActiveExperiment, if_pos hcurrent]
    exact holds_transition_allowed hallowed hsteady

/-- What the manager's own state says, over a world whose ledger can be read. -/
theorem ManagerBalanced.of_holds {u : ManagerState} {current : Option LiveExperiment}
    {controller : ControllerRuntimeState} {kept : KeptActionSet}
      (hu : u.Holds current controller kept)
    (hagrees : current.isSome = controller.activeExperiment.isSome)
      (hharmony : Harmony kept current)
    (hgrouped : ∀ experiment, current = some experiment →
      experiment.candidate.conflictGroup ≠ .none)
    (hledger : ∃ ledger, parseKeptLedger u.world.ledger = .ok ledger) : ManagerBalanced u := by
  refine ⟨?_, ?_, ?_, hledger⟩
  · rw [hu.current, hu.controller]
    exact hagrees
  · rw [hu.kept, hu.current]
    exact hharmony
  · rw [hu.current]
    exact hgrouped

/-- Nothing is done: the phase follows what is held. -/
theorem holds_passive_steady (hanswers : answers.Healthy config.input) (hs : Balanced s)
    (hdecision : (∃ reason, decision = .noop reason) ∨ ∃ c reason, decision = .suggest c reason)
    (hheld : s.manager.current.isSome → s.phase = .measuringCandidate)
    (hidle : s.manager.current = none → s.phase = .measuringCandidate ∨ s.phase.plans) :
    Holds (applyRuntimeSideEffects config answers observation decision reason) (fun _ => True)
      (fun _ t => Steady t) s := by
  have hmoved : transitionForDecision decision reason = pure () := by
    rcases hdecision with ⟨_, rfl⟩ | ⟨_, _, rfl⟩ <;> rfl
  have happlied : applyDecisionSideEffects config.input answers.host answers.executor observation
      decision reason = pure .noop := by
    rcases hdecision with ⟨_, rfl⟩ | ⟨_, _, rfl⟩ <;> rfl
  have hnot : decision.isStart = false ∧ ∀ reason, decision ≠ .fault reason := by
    rcases hdecision with ⟨_, rfl⟩ | ⟨_, _, rfl⟩
    · exact ⟨rfl, fun _ h => nomatch h⟩
    · exact ⟨rfl, fun _ h => nomatch h⟩
  refine holds_effects_healthy (T := fun t => t = s) hanswers (by simp [hnot.1]) ?_ ?_
  · rw [hmoved]
    exact holds_pure.mpr ⟨rfl, rfl⟩
  · rintro t rfl
    rw [happlied]
    refine holds_pure.mpr ⟨_, rfl, fun v hv => ?_⟩
    have hcurrent : v.manager.current = t.manager.current := by rw [hv.manager]; rfl
    have hfaulted : t.phase ≠ .faulted := by
      intro hfaulted
      cases hsome : t.manager.current with
      | some experiment =>
        have hphase := hheld (by rw [hsome]; rfl)
        rw [hfaulted] at hphase
        cases hphase
      | none =>
        rcases hidle hsome with hphase | hphase | hphase
        all_goals
          rw [hfaulted] at hphase
          cases hphase
    have hbalanced : Balanced v := hv.balanced hs hfaulted hnot.2
      ⟨hs.agrees, hs.harmony, hs.grouped, hs.ledger⟩ fun h => hfaulted (hs.running h)
    cases hsome : t.manager.current with
    | some experiment =>
      have hphase := hheld (by rw [hsome]; rfl)
      refine holds_outcome_held hbalanced ?_ (.inr rfl) (hv.phase ▸ hfaulted) ?_
      · rw [hcurrent, hsome]
        rfl
      · rw [hv.phase, hphase]
        rfl
    | none =>
      refine holds_outcome_idle hbalanced (hcurrent.trans hsome) (.inr (.inr (.inr rfl)))
        (hv.phase ▸ hfaulted) ?_
      rw [hv.phase]
      rcases hidle hsome with hphase | hphase | hphase
      all_goals
        rw [hphase]
        rfl

variable {why : String}

open AutotuneDecision

theorem holds_cooldown_steady {duration : Nat} (hanswers : answers.Healthy config.input)
    (hs : Planning s) :
    Holds (applyRuntimeSideEffects config answers observation (.enterCooldown duration why)
      reason)
      (fun _ => True) (fun _ t => Steady t) s := by
  refine holds_effects_healthy (T := fun t => t = s) hanswers (by simp [isStart])
    ?_ ?_
  · exact holds_pure.mpr ⟨rfl, rfl⟩
  · rintro t rfl
    rw [applyDecisionSideEffects, holds_bind, holds_assign]
    refine holds_pure.mpr ⟨_, rfl, fun v hv => ?_⟩
    have hrunning : t.manager.controller.phase ≠ .faulted := fun h => hs.not_faulted (hs.running h)
    have hbalanced : Balanced v := by
      refine hv.balanced hs.toBalanced hs.not_faulted (fun _ h => by cases h)
        ⟨hs.agrees, hs.harmony, hs.grouped, hs.ledger⟩ ?_
      show (if t.manager.controller.phase = .faulted then ControllerPhase.faulted else .cooldown) ≠
          _
      rw [if_neg hrunning]
      decide
    refine holds_outcome_idle hbalanced ?_ (.inr (.inr (.inl rfl))) (hv.phase ▸ hs.not_faulted) ?_
    · rw [hv.manager]
      exact hs.current
    · rw [hv.phase]
      rcases hs.phase with hphase | hphase
      all_goals
        rw [hphase]
        rfl

/-- A rollback that answers leaves a controller without an experiment, and not faulted. -/
theorem RollbackEnds.reverted_balanced {before u : ManagerState} {outcome : LiveExperimentOutcome}
    (h : RollbackEnds config.input observation before (.ok outcome) u)
    (hevent : outcome.event = .reverted) (hharmony : Harmony before.keptActions before.current)
    (hledger : ∃ ledger, parseKeptLedger u.world.ledger = .ok ledger) :
    ManagerBalanced u ∧ u.controller.phase ≠ .faulted := by
  cases h with
  | nothing hnone ht => cases hevent
  | unverified experiment verification _ hheld hevent' ht =>
    rw [hevent] at hevent'
    cases hevent'
  | reverted experiment why _ hheld hevent' ht =>
    refine ⟨.of_holds ht rfl (.idle hharmony.kept) (fun _ h => nomatch h) hledger, ?_⟩
    rw [ht.controller]
    exact fun h => nomatch h

theorem holds_revert_steady {experiment : LiveExperiment} {id : ExperimentId}
    (hanswers : answers.Healthy config.input) (hs : Balanced s)
    (hcurrent : s.manager.current = some experiment) (hphase : s.phase = .measuringCandidate) :
    Holds (applyRuntimeSideEffects config answers observation (.revert id why) reason)
      (fun _ => True) (fun _ t => Steady t) s := by
  have hfaulted : s.phase ≠ .faulted := by rw [hphase]; decide
  refine holds_effects_healthy (T := fun t => Balanced t ∧ t.manager = s.manager ∧
    t.phase = .revertingCandidate) hanswers (by simp [isStart]) ?_ ?_
  · refine holds_transition_allowed (by rw [hphase]; rfl) fun fault => ?_
    exact ⟨rfl, hs.moved hfaulted (by decide), rfl, rfl⟩
  · rintro t ⟨ht, hmanager, hreverting⟩
    rw [hmanager]
    have hends := @holds_applyDecision_ends config.input answers.host answers.executor observation
      (s.manager.scheduled answers.io) (.revert id why) reason
    have hrolled : Holds (rollbackActiveExperiment config.input answers.host answers.executor
        observation reason) _ _ (s.manager.scheduled answers.io) :=
      holds_rollbackActive_healthy hanswers (hs.sound hanswers) hcurrent
    refine (hends.and hrolled).mono (fun _ _ => trivial) ?_
    rintro _ u ⟨hends, hsound, hnone, outcome, rfl, hevent⟩
    refine ⟨outcome, rfl, fun v hv => ?_⟩
    have hu : ManagerBalanced u ∧ u.controller.phase ≠ .faulted := by
      cases hends with
      | nothing _ hu => cases hevent
      | rolledBack _ _ h => exact h.reverted_balanced hevent hs.harmony hsound.ledger
    have hrunning : t.phase ≠ .faulted := by rw [hreverting]; decide
    refine holds_outcome_idle (hv.balanced ht hrunning (fun _ h => by cases h) hu.1 hu.2) ?_
      (.inr (.inl hevent)) (hv.phase ▸ hrunning) ?_
    · rw [hv.manager, hnone]
    · rw [hv.phase, hreverting]
      rfl

/-- An experiment in harmony with the kept actions, and in a group, can join them. -/
theorem KeptActionSet.Compatible.insertable {set : KeptActionSet} {kept : KeptCandidateState}
    (h : set.Compatible) (hgroup : kept.candidate.conflictGroup ≠ .none)
    (hapart : ∀ entry ∈ set.actions, kept.candidate.conflictsWith entry.2.candidate = false) :
    ∃ inserted, set.insertIfCompatible kept = .ok inserted := by
  have hfresh : set.get kept.candidate.conflictGroup = none := by
    refine KeptActionSet.get_eq_none.mpr fun entry hentry hkey => ?_
    -- an action of the same group would be in conflict
    have hconflict := hapart entry hentry
    unfold CandidateAction.conflictsWith at hconflict
    rw [← h.keyed entry hentry, hkey] at hconflict
    unfold ActionConflictGroup.conflictsWith at hconflict
    rw [if_neg (by simp [hgroup]), if_pos rfl] at hconflict
    cases hconflict
  refine ⟨set.insert kept.candidate.conflictGroup kept, ?_⟩
  unfold KeptActionSet.insertIfCompatible
  dsimp only
  rw [hfresh, KeptActionSet.conflictingAction_eq_none.mpr hapart]

theorem holds_keep_steady {experiment : LiveExperiment} {id : ExperimentId}
    (hanswers : answers.Healthy config.input) (hs : Balanced s)
    (hcurrent : s.manager.current = some experiment) (hphase : s.phase = .measuringCandidate)
    (hmeasured : observation.Measured) :
    Holds (applyRuntimeSideEffects config answers observation (.keepCurrent id why) reason)
      (fun _ => True) (fun _ t => Steady t) s := by
  have hfaulted : s.phase ≠ .faulted := by rw [hphase]; decide
  refine holds_effects_healthy (T := fun t => Balanced t ∧ t.manager = s.manager ∧
    t.phase = .keepingCandidate) hanswers (by simp [isStart]) ?_ ?_
  · refine holds_transition_allowed (by rw [hphase]; rfl) fun fault => ?_
    exact ⟨rfl, hs.moved hfaulted (by decide), rfl, rfl⟩
  · rintro t ⟨ht, hmanager, hkeeping⟩
    rw [hmanager]
    have hends := @holds_applyDecision_ends config.input answers.host answers.executor observation
      (s.manager.scheduled answers.io) (.keepCurrent id why) reason
    have hinsert : ∀ text, ∃ set, (s.manager.scheduled answers.io).keptActions.insertIfCompatible
        (keptStateFor observation experiment text) = .ok set := by
      intro text
      exact hs.harmony.kept.insertable (hs.grouped experiment hcurrent)
        (hs.harmony.live experiment hcurrent)
    have hkept : Holds (keepCurrentExperiment config.input answers.host answers.executor
        observation reason) _ _ (s.manager.scheduled answers.io) :=
      holds_keepCurrent_healthy hanswers (hs.sound hanswers) hcurrent hmeasured hinsert
    refine (hends.and hkept).mono (fun _ _ => trivial) ?_
    rintro _ u ⟨hends, hsound, hnone, outcome, rfl, hevent⟩
    refine ⟨outcome, rfl, fun v hv => ?_⟩
    have hu : ManagerBalanced u ∧ u.controller.phase ≠ .faulted := by
      cases hends with
      | nothing _ hu => rcases hevent with hevent | hevent <;> cases hevent
      | kept _ _ experiment' set _ hheld hset hkept hu =>
        obtain ⟨text, hinserted⟩ := hset
        refine ⟨.of_holds hu rfl (.idle (hs.harmony.kept.insert hinserted).1)
          (fun _ h => by cases h) hsound.ledger, ?_⟩
        rw [hu.controller]
        exact fun h => by cases h
      | keepRolledBack _ _ h =>
        rcases hevent with hevent | hevent
        · cases h with
          | nothing hcurrent' hu => cases hevent
          | reverted _ _ _ _ hevent' hu =>
            rw [hevent] at hevent'
            cases hevent'
          | unverified _ _ _ _ hevent' hu =>
            rw [hevent] at hevent'
            cases hevent'
        · exact h.reverted_balanced hevent hs.harmony hsound.ledger
    have hrunning : t.phase ≠ .faulted := by rw [hkeeping]; decide
    have hevent' : outcome.event = .kept ∨ outcome.event = .reverted ∨
        outcome.event = .cooldownEntered ∨ outcome.event = .noop :=
      hevent.imp_right .inl
    refine holds_outcome_idle (hv.balanced ht hrunning (fun _ h => by cases h) hu.1 hu.2) ?_ hevent'
      (hv.phase ▸ hrunning) ?_
    · rw [hv.manager, hnone]
    · rw [hv.phase, hkeeping]
      rfl

theorem holds_start_steady {answers : EvaluationAnswers} {candidate : CandidateAction}
    (hanswers : answers.Healthy config.input) (hs : Planning s)
    (hadmitted : StartAdmitted config answers candidate)
    (hapart : s.manager.keptActions.conflictingAction candidate = none) :
    Holds (applyRuntimeSideEffects config answers.effects answers.observation
      (.startExperiment candidate why) reason) (fun _ => True) (fun _ t => Steady t) s := by
  by_cases hdry : config.dryRunAllSafe = true
  · -- a dry run refuses the start before any move
    rw [applyRuntimeSideEffects, holds_bind, holds_ensure,
      if_neg (by simp [hdry, isStart])]
    exact hs.steady
  · have hallowed : s.phase.allowsTransitionTo .applyingCandidate = true := by
      rcases hs.phase with hphase | hphase
      all_goals
        rw [hphase]
        rfl
    refine holds_effects_healthy (T := fun t => Balanced t ∧ t.manager = s.manager ∧
      t.phase = .applyingCandidate) hanswers.effects (by simp [hdry]) ?_ ?_
    · have hprepared : Holds prepareRuntimePhaseForApplyCandidate (fun _ => True)
          (fun r t => r = .ok () ∧ t = s) s := by
        rw [prepareRuntimePhaseForApplyCandidate, holds_bind, holds_gets]
        rcases hs.phase with hphase | hphase
        all_goals
          rw [hphase]
          exact holds_pure.mpr ⟨rfl, rfl⟩
      refine hprepared.bind ?_ fun _ _ ht => by cases ht.1
      rintro _ t ⟨-, rfl⟩
      refine holds_transition_allowed hallowed fun fault => ?_
      exact ⟨rfl, hs.toBalanced.moved hs.not_faulted (by decide), rfl, rfl⟩
    · rintro t ⟨ht, hmanager, happlying⟩
      rw [hmanager]
      have hends := @holds_applyDecision_ends config.input answers.effects.host
        answers.effects.executor answers.observation (s.manager.scheduled answers.effects.io)
        (.startExperiment candidate why) reason
      have hstarted : Holds (startCandidateExperiment config.input answers.effects.host
          answers.effects.executor answers.observation candidate) _ _
          (s.manager.scheduled answers.effects.io) :=
        holds_start_healthy hanswers.effects (hs.toBalanced.sound hanswers.effects) hadmitted.named
          hadmitted.mode hadmitted.gate (hanswers.measured hadmitted.quality)
      refine (hends.and hstarted).mono (fun _ _ => trivial) ?_
      rintro _ u ⟨hends, hsound, outcome, rfl, hevent⟩
      refine ⟨outcome, rfl, fun v hv => ?_⟩
      have hrunning : t.phase ≠ .faulted := by rw [happlying]; decide
      cases hends with
      | nothing _ hu => cases hevent
      | started _ _ token _ hevent' hu =>
        have hbalanced : ManagerBalanced u := by
          refine .of_holds hu rfl (harmony_experimentFor hs.harmony.kept hapart) ?_ hsound.ledger
          rintro _ ⟨⟩
          exact hadmitted.grouped
        refine holds_outcome_held (hv.balanced ht hrunning (fun _ h => by cases h) hbalanced ?_) ?_
          (.inl hevent) (hv.phase ▸ hrunning) ?_
        · rw [hu.controller]
          exact fun h => by cases h
        · rw [hv.manager, hu.current]
          rfl
        · rw [hv.phase, happlying]
          rfl

/-- An explicit fault rolls back what is held and is never left. -/
theorem holds_fault_steady (hanswers : answers.Healthy config.input) (hs : Balanced s) :
    Holds (applyRuntimeSideEffects config answers observation (.fault why) reason)
      (fun _ => True) (fun _ t => Steady t) s := by
  refine holds_effects_healthy (T := fun t => t.phase = .faulted ∧ t.manager = s.manager ∧
    t.denied = s.denied) hanswers (by simp [isStart]) ?_ ?_
  · exact holds_transition_allowed (AutotuneRuntimePhase.allows_faulted _) fun _ =>
      ⟨rfl, rfl, rfl, rfl⟩
  · rintro t ⟨hfaulted, hmanager, hdenied⟩
    rw [hmanager]
    have hrolled : Holds (rollbackActiveExperiment config.input answers.host answers.executor
        observation reason) (fun _ => True) (fun r u => u.world.Sound ∧ u.current = none ∧
          ∃ outcome, r = .ok outcome) (s.manager.scheduled answers.io) := by
      cases hcurrent : s.manager.current with
      | none =>
        rw [rollbackActiveExperiment, holds_bind, holds_gets, ManagerState.scheduled_current,
          hcurrent]
        exact holds_pure.mpr ⟨hs.sound hanswers, hcurrent, _, rfl⟩
      | some experiment =>
        refine (holds_rollbackActive_healthy (s := s.manager.scheduled answers.io) hanswers
          (hs.sound hanswers) hcurrent).mono (fun _ h => h) ?_
        rintro r u ⟨hsound, hnone, outcome, hok, -⟩
        exact ⟨hsound, hnone, outcome, hok⟩
    refine ((holds_rollbackActive_ends.and hrolled).mono (fun _ _ => trivial) fun _ _ h => h).bind
      ?_ ?_
    · rintro outcome u ⟨hends, hsound, hnone, -⟩
      rw [holds_bind, holds_assign]
      refine holds_pure.mpr ⟨_, rfl, fun v hv => ?_⟩
      have hharmony : Harmony u.keptActions none := .idle (hends.harmony hs.harmony).kept
      rw [transitionForOutcome, holds_bind, holds_gets]
      refine holds_transition_allowed (AutotuneRuntimePhase.allows_faulted _) fun fault => ?_
      refine ⟨⟨?_, fun _ => rfl, ?_, ?_, ?_, ?_, ?_⟩, ?_, ?_⟩
      · show v.manager.current.isSome = v.manager.controller.activeExperiment.isSome
        rw [hv.manager]
        show u.current.isSome = false
        rw [hnone]
        rfl
      · show Harmony v.manager.keptActions v.manager.current
        rw [hv.manager]
        show Harmony u.keptActions u.current
        rw [hnone]
        exact hharmony
      · intro experiment hcurrent
        have hcurrent' : v.manager.current = some experiment := hcurrent
        rw [hv.manager] at hcurrent'
        have hsome : u.current = some experiment := hcurrent'
        rw [hnone] at hsome
        cases hsome
      · show ∃ ledger, parseKeptLedger v.manager.world.ledger = .ok ledger
        rw [hv.manager]
        exact hsound.ledger
      · show ∀ move ∈ v.denied, move.1 = .faulted
        rw [hv.denied, hdenied]
        exact hs.denied
      · refine ⟨fun _ => ⟨why, ?_⟩, fun _ => rfl⟩
        show AutotuneDecision.fault why ∈ v.executed
        rw [hv.executed]
        exact List.mem_append_right _ (List.mem_singleton.mpr rfl)
      · intro hsome
        have hsome' : v.manager.current.isSome := hsome
        rw [hv.manager] at hsome'
        have hcurrent : u.current.isSome := hsome'
        rw [hnone] at hcurrent
        cases hcurrent
      · exact fun _ => .inr (.inr (.inr (.inr rfl)))
    · rintro e u ⟨-, -, -, outcome, hok⟩
      cases hok

end Effects

/-! ## Over one call -/

section Calls
variable {config : AutotuneRuntimeConfig} {s : RuntimeState}

/-- An evaluation carries out what it chose. -/
theorem holds_decided_steady {answers : EvaluationAnswers} {decision : AutotuneDecision}
    {reason : String} (hsimulated : config.simulatedCandidates = [])
    (hanswers : answers.Healthy config.input) (hs : Ready config answers decision s) :
    Holds (applyRuntimeSideEffects config answers.effects answers.observation decision reason)
      (fun _ => True) (fun _ t => Steady t)
      { s with
        decided := s.decided ++ [⟨decision, answers.observation.nowUnixNanos, s.live⟩] } := by
  have hnoted : Balanced s → Balanced
      { s with decided := s.decided ++ [⟨decision, answers.observation.nowUnixNanos, s.live⟩] } :=
    fun h => ⟨h.agrees, h.running, h.harmony, h.grouped, h.ledger, h.denied, h.explicit⟩
  cases hs with
  | passive _ hbalanced hdecision hheld hidle =>
    exact holds_passive_steady hanswers.effects (hnoted hbalanced) hdecision hheld hidle
  | cooldown duration why hbalanced hcurrent hphase =>
    exact holds_cooldown_steady hanswers.effects ⟨hnoted hbalanced, hcurrent, hphase⟩
  | fault why hbalanced => exact holds_fault_steady hanswers.effects (hnoted hbalanced)
  | keep id why experiment hbalanced hcurrent hphase hmeasured =>
    exact holds_keep_steady hanswers.effects (hnoted hbalanced) hcurrent hphase hmeasured
  | revert id why experiment hbalanced hcurrent hphase =>
    exact holds_revert_steady hanswers.effects (hnoted hbalanced) hcurrent hphase
  | start candidate why hbalanced hcurrent hphase hmode hselected =>
    exact holds_start_steady hanswers ⟨hnoted hbalanced, hcurrent, hphase⟩
      (hselected.admitted hsimulated hmode) hselected.apart

theorem holds_evaluate_steady {answers : EvaluationAnswers}
    (hsimulated : config.simulatedCandidates = []) (hanswers : answers.Healthy config.input)
    (hs : Steady s) :
    Holds (evaluateAndEmit config answers) (fun _ => True) (fun _ t => Steady t) s := by
  refine holds_evaluateAndEmit (M := Observing) (D := Ready config answers)
    (holds_prepare_steady hs) ?_
    (fun _ ht => holds_release_observing hanswers.release ht)
      (fun _ ht => holds_choose_ready hanswers ht)
    fun _ _ ht => holds_decided_steady hsimulated hanswers ht
  intro t ht
  exact ⟨⟨ht.agrees, ht.running, ht.harmony, ht.grouped, ht.ledger, ht.denied, ht.explicit⟩,
    ht.held, ht.idle⟩

/-- A revert is asked for while the experiment is measured. -/
theorem holds_rollbackLive_steady {answers : RevertAnswers} {reason : String}
    (hanswers : answers.effects.Healthy config.input) (hs : Steady s) :
    Holds (rollbackLiveExperiment config answers reason) (fun _ => True)
      (fun _ t => Steady t) s := by
  refine holds_rollbackLiveExperiment ?_ hs
  intro observation id hsome
  obtain ⟨experiment, hcurrent⟩ := Option.isSome_iff_exists.mp hsome
  exact holds_revert_steady hanswers hs.toBalanced hcurrent (hs.held hsome)

theorem holds_lifecycle_steady {rollsBack : Bool} {stabilizationMs : Option Nat}
    {answers : RevertAnswers} (hanswers : answers.effects.Healthy config.input) (hs : Steady s) :
    Holds (handleLifecycleEvent config rollsBack stabilizationMs answers) (fun _ => True)
      (fun _ t => Steady t) s := by
  refine holds_handleLifecycleEvent ?_ (fun _ _ ht => holds_rollbackLive_steady hanswers ht) ?_ hs
  · refine (holds_prepare_steady hs).mono (fun _ h => h) ?_
    rintro (_ | _) t ht
    · exact ht
    · refine ⟨ht.toBalanced, ht.held, fun hnone => ?_⟩
      exact .inr (.inl (ht.idle hnone))
  · intro t deadline ht
    exact ⟨⟨ht.agrees, ht.running, ht.harmony, ht.grouped, ht.ledger, ht.denied, ht.explicit⟩,
      ht.held, ht.idle⟩

theorem holds_call_steady {call : RuntimeCall} (hsimulated : config.simulatedCandidates = [])
    (hcall : call.Healthy config.input) (hs : Steady s) :
    Holds (call.perform config) (fun _ => True) (fun _ t => Steady t) s :=
  holds_call_of (fun _ h => h) (fun _ _ hanswers ht => holds_evaluate_steady hsimulated hanswers ht)
    (fun _ _ _ hanswers ht => holds_rollbackLive_steady hanswers ht)
    (fun _ _ hanswers ht => holds_release_steady hanswers ht)
    (fun _ _ _ _ hanswers ht => holds_lifecycle_steady hanswers ht) hcall hs

end Calls

/-! ## Whole runs -/

theorem steady_starting (config : AutotuneRuntimeConfig) {w : World}
    (hledger : ∃ ledger, parseKeptLedger w.ledger = .ok ledger) (observation : AutotuneObservation)
    (file : StoreFile CandidateMemory) : Steady (.starting config w observation file) := by
  have hexplicit : (RuntimeState.starting config w observation file).phase = .faulted ↔
      ∃ reason, AutotuneDecision.fault reason ∈
        (RuntimeState.starting config w observation file).executed := by
    constructor
    · exact fun hfaulted => nomatch hfaulted
    · rintro ⟨reason, hmem⟩
      exact absurd hmem List.not_mem_nil
  refine ⟨⟨rfl, ?_, harmonious_starting config w observation file, ?_, hledger, ?_, hexplicit⟩, ?_,
    ?_⟩
  · exact fun hfaulted => nomatch hfaulted
  · exact fun _ hnone => nomatch hnone
  · exact fun _ hmove => absurd hmove List.not_mem_nil
  · exact fun hsome => nomatch hsome
  · exact fun _ => .inl rfl

/-- **Only a faulted runtime is denied a move.**  In every state a healthy run of the planner
reaches, each denied move was asked of a runtime that had faulted, a runtime faults by an explicit
decision only, and an experiment that is held is being measured. -/
theorem runtimeRun_denies_only_faulted (config : AutotuneRuntimeConfig)
    (hsimulated : config.simulatedCandidates = []) (w : World)
    (hledger : ∃ ledger, parseKeptLedger w.ledger = .ok ledger) (observation : AutotuneObservation)
    (file : StoreFile CandidateMemory) (s : RuntimeState)
    (hrun : Reached (RuntimeCall.perform config) (fun call _ => call.Healthy config.input)
      (.starting config w observation file) s) :
    (∀ move ∈ s.denied, move.1 = .faulted) ∧
    (s.phase = .faulted ↔ ∃ reason, AutotuneDecision.fault reason ∈ s.executed) ∧
    (s.manager.current.isSome → s.phase = .measuringCandidate) := by
  have hs : Steady s :=
    hrun.invariant (steady_starting config hledger observation file) fun _ _ hcall ht =>
      holds_call_steady hsimulated hcall ht
  exact ⟨hs.denied, hs.explicit, hs.held⟩

/-- The sample executor, which also collects a snapshot after each rollback. -/
def verifiedExecutor : ActionExecutor where
  applyCandidate := sampleExecutor.applyCandidate
  rollbackCandidate experiment := do
    let _ ← sampleExecutor.rollbackCandidate experiment
    return some ⟨[]⟩

def verifiedEffects : SideEffectAnswers := ⟨[], sampleHost, verifiedExecutor, .ok (), true⟩

/-- An interval over a measured window, with what the live configuration is found to be. -/
def verifiedInterval (now : Nat) (found : ActiveConfigMatch) : RuntimeCall :=
  .event (.interval none { sampleEvaluation now [] with
    observation := { sampleObservation now 1 with activeConfigSnapshot := some ⟨[]⟩ }
    effects := verifiedEffects
    release := verifiedEffects
    activeMatch := found })

theorem verifiedEffects_healthy (input : LiveExperimentManagerInput) :
    verifiedEffects.Healthy input := by
  refine ⟨fun _ h => absurd h List.not_mem_nil, rfl, ?_, ?_⟩
  · intro candidate id w hnamed hid hw
    show Holds (sampleExecutor.applyCandidate candidate id) _ _ w
    unfold sampleExecutor writeControllerJournalPhase writeControllerJournalRecord
    dsimp only
    rw [holds_bind]
    refine holds_durable_sound hw ?_
    dsimp only
    rw [holds_bind, holds_update]
    refine ⟨trivial, ?_⟩
    dsimp only
    rw [holds_bind]
    refine holds_durable_sound ⟨hw.drawn.io, hw.drawn.ledger⟩ ?_
    refine holds_pure.mpr ⟨⟨⟨hw.drawn.drawn.io, hw.drawn.ledger⟩, rfl⟩, sampleToken, rfl,
      fun _ => ?_⟩
    refine ⟨phaseRecord .applied id candidate.actionId (some sampleToken) {}, ?_, ?_⟩
    · exact parseControllerJournal_named rfl rfl rfl hid hnamed
    · simp [namesAppliedToken, phaseRecord]
  · intro experiment w hw
    show Holds (verifiedExecutor.rollbackCandidate experiment) _ _ w
    unfold verifiedExecutor sampleExecutor rollbackToken
    dsimp only
    simp only [holds_bind, holds_update, holds_pure]
    refine ⟨trivial, trivial, ⟨hw.io, hw.ledger⟩, rfl, rfl, some ⟨[]⟩, rfl, ?_⟩
    intro observation
    unfold unverified rollbackVerificationFor
    split
    · rfl
    · split
      · rfl
      · cases experiment.baselineActiveConfig <;> rfl

theorem verifiedInterval_healthy (input : LiveExperimentManagerInput) (now : Nat)
    (found : ActiveConfigMatch) : (verifiedInterval now found).Healthy input :=
  ⟨verifiedEffects_healthy input, verifiedEffects_healthy input,
    fun _ => ⟨Nat.one_pos, Nat.one_pos, Nat.one_pos⟩⟩

/-- The runtime after some calls. -/
def RuntimeState.after (config : AutotuneRuntimeConfig) (s : RuntimeState)
    (calls : List RuntimeCall) :
    RuntimeState :=
  calls.foldl (fun s call => ((call.perform config).run s).state) s

/-- The sample session while its candidate is measured. -/
theorem runtimeRun_denies_only_faulted_started :
    let s := sampleRuntime.after sampleConfig [verifiedInterval 1 (.matches "")]
    s.manager.current.isSome = true ∧ s.phase = .measuringCandidate ∧ ∀ move ∈ s.denied,
      move.1 = .faulted := by
  intro s
  have hheld : s.manager.current.isSome = true := by decide +kernel
  have hrun :=
    runtimeRun_denies_only_faulted sampleConfig rfl .fresh ⟨_, rfl⟩ (sampleObservation 0 0)
    .missing s (.step _ .start (verifiedInterval_healthy _ _ _))
  exact ⟨hheld, hrun.2.2 hheld, hrun.1⟩

/-- A simulation in the mode that applies nothing. -/
def simulationConfig : AutotuneRuntimeConfig where
  input :=
    let policy := buildDaemonPolicy (configForConstructor .applyHighRisk .test false) none
    ⟨.applyHighRisk, policy, .fromDaemonPolicy policy "3.0" "3.0", true, 0, 0,
      "stutter daemon emergency-restore", false⟩
  dryRunAllSafe := false
  externalMutationPolicy := .fault
  simulatedCandidates := [⟨.fake, "fake-profile", "cpu-affinity-profile:simulation-low-risk",
    .reversibleLowRisk, .unclassified, .stutterScore, none, ""⟩]
  managerMode := rfl
  controllerMode := rfl
  simulated := by simp

/-- After the explicit fault of an external mutation the next event asks for a move that is denied,
and a simulated candidate that the manager does not start leaves a phase that nothing leads out
of. -/
theorem runtimeRun_denies_healthy :
    (∃ s, Reached (RuntimeCall.perform sampleConfig) (fun call _ => call.Healthy sampleConfig.input)
      (.starting sampleConfig .fresh (sampleObservation 0 0) .missing) s ∧
      s.denied = [(.faulted, .observingBaseline)]) ∧
    ∃ s, Reached (RuntimeCall.perform simulationConfig)
      (fun call _ => call.Healthy simulationConfig.input)
      (.starting simulationConfig .fresh (sampleObservation 0 0) .missing) s ∧
      s.denied = [(.applyingCandidate, .observingBaseline)] := by
  constructor
  · refine ⟨sampleRuntime.after sampleConfig [verifiedInterval 1 (.matches ""),
      verifiedInterval 2 (.differs "0-3" "0-7"), verifiedInterval 3 (.matches "")], ?_,
      by decide +kernel⟩
    exact .step _ (.step _ (.step _ .start (verifiedInterval_healthy _ _ _))
      (verifiedInterval_healthy _ _ _)) (verifiedInterval_healthy _ _ _)
  · refine ⟨RuntimeState.after simulationConfig
      (.starting simulationConfig .fresh (sampleObservation 0 0)
      .missing) [verifiedInterval 1 (.matches "")], ?_, by decide +kernel⟩
    exact .step _ .start (verifiedInterval_healthy _ _ _)

end Stutter

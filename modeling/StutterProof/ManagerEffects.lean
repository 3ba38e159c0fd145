import StutterProof.ManagerRun

/-! # What the side effects of a decision can do

The manager's own state, apart from the world: the current experiment, the controller
and the kept actions.  `EffectEnds` lists every way in which the side effects of a
decision can leave it, whatever the executor, the stores and the comparisons answer;
the invariants of the controller are read off this list. -/
namespace Stutter
open Fallible

/-- The parts of the manager's state that die with the process. -/
structure ManagerState.Holds (t : ManagerState) (current : Option LiveExperiment)
    (controller : ControllerRuntimeState) (kept : KeptActionSet) : Prop where
  current : t.current = current
  controller : t.controller = controller
  kept : t.keptActions = kept

section Ends
variable (input : LiveExperimentManagerInput) (observation : AutotuneObservation)

/-- How a rollback can end. -/
inductive RollbackEnds (s : ManagerState) :
    Except AnyError LiveExperimentOutcome → ManagerState → Prop
    where
  | nothing {t : ManagerState} (hcurrent : s.current = none)
      (ht : t.Holds none s.controller s.keptActions) : RollbackEnds s (.ok .noop) t
  /-- A step before the executor's answer, or the executor, failed. -/
  | held {t : ManagerState} (experiment : LiveExperiment) (e : AnyError)
      (hcurrent : s.current = some experiment)
      (ht : t.Holds (some experiment) s.controller s.keptActions) : RollbackEnds s (.error e) t
  | reverted {t : ManagerState} (experiment : LiveExperiment) (reason : String)
      (outcome : LiveExperimentOutcome) (hcurrent : s.current = some experiment)
      (hevent : outcome.event = .reverted)
      (ht : t.Holds none (rollbackReverted input observation experiment reason s.controller)
        s.keptActions) : RollbackEnds s (.ok outcome) t
  | unverified {t : ManagerState} (experiment : LiveExperiment)
      (verification : RollbackVerification)
      (outcome : LiveExperimentOutcome) (hcurrent : s.current = some experiment)
      (hevent : outcome.event = .faulted)
      (ht : t.Holds (some experiment)
        (rollbackFaulted input observation experiment verification s.controller) s.keptActions) :
      RollbackEnds s (.ok outcome) t
  /-- The record after the executor's answer could not be written. -/
  | forgotten {t : ManagerState} (experiment : LiveExperiment) (e : AnyError)
      (hcurrent : s.current = some experiment) (ht : t.Holds none s.controller s.keptActions) :
      RollbackEnds s (.error e) t

/-- How the side effects of a decision can end. -/
inductive EffectEnds (s : ManagerState) :
    AutotuneDecision → Except AnyError LiveExperimentOutcome → ManagerState → Prop where
  | nothing {t : ManagerState} (decision : AutotuneDecision)
      (ht : t.Holds s.current s.controller s.keptActions) : EffectEnds s decision (.ok .noop) t
  | refused {t : ManagerState} (decision : AutotuneDecision) (e : AnyError)
      (ht : t.Holds s.current s.controller s.keptActions) : EffectEnds s decision (.error e) t
  | cooldown {t : ManagerState} (duration : Nat) (reason : String)
      (ht : t.Holds s.current (enterCooldown observation duration s.controller) s.keptActions) :
      EffectEnds s (.enterCooldown duration reason) (.ok (.ofEvent .cooldownEntered)) t
  | applyFailed {t : ManagerState} (candidate : CandidateAction) (reason : String) (e : AnyError)
      (ht : t.Holds (applyFailed input observation candidate e s).current
        (applyFailed input observation candidate e s).controller s.keptActions) :
      EffectEnds s (.startExperiment candidate reason) (.error e) t
  /-- The apply succeeded; the answer is an error if the `Measuring` record failed. -/
  | started {t : ManagerState} (candidate : CandidateAction) (reason : String)
      (token : RollbackToken)
      (answer : Except AnyError LiveExperimentOutcome)
      (hevent : ∀ outcome, answer = .ok outcome → outcome.event = .started)
      (ht : t.Holds (applySucceeded input observation candidate token s).current
        (applySucceeded input observation candidate token s).controller s.keptActions) :
      EffectEnds s (.startExperiment candidate reason) answer t
  | kept {t : ManagerState} (id : ExperimentId) (reason : String) (experiment : LiveExperiment)
      (set : KeptActionSet) (outcome : LiveExperimentOutcome)
      (hcurrent : s.current = some experiment)
      (hset : ∃ why, s.keptActions.insertIfCompatible (keptStateFor observation experiment why) =
        .ok set)
      (hevent : outcome.event = .kept)
      (ht : t.Holds none (keepRecorded input observation experiment s.controller) set) :
      EffectEnds s (.keepCurrent id reason) (.ok outcome) t
  /-- A keep whose window is not measured leaves before the experiment is put back. -/
  | keepForgotten {t : ManagerState} (id : ExperimentId) (reason : String)
      (experiment : LiveExperiment) (e : AnyError) (hcurrent : s.current = some experiment)
      (ht : t.Holds none s.controller s.keptActions) :
      EffectEnds s (.keepCurrent id reason) (.error e) t
  | keepRolledBack {t : ManagerState} {answer : Except AnyError LiveExperimentOutcome}
      (id : ExperimentId) (reason : String) (h : RollbackEnds input observation s answer t) :
      EffectEnds s (.keepCurrent id reason) answer t
  | rolledBack {t : ManagerState} {answer : Except AnyError LiveExperimentOutcome}
      (id : ExperimentId) (reason : String) (h : RollbackEnds input observation s answer t) :
      EffectEnds s (.revert id reason) answer t
  | faultFailed {t : ManagerState} (reason : String) (e : AnyError)
      (h : RollbackEnds input observation s (.error e) t) :
      EffectEnds s (.fault reason) (.error e) t
  | faulted {u t : ManagerState} (reason : String) (rolledBack outcome : LiveExperimentOutcome)
      (h : RollbackEnds input observation s (.ok rolledBack) u) (hevent : outcome.event = .faulted)
      (ht : t.Holds u.current
        (u.controller.enterCooldownAfterFault input.controllerPolicy observation.nowUnixNanos)
        u.keptActions) : EffectEnds s (.fault reason) (.ok outcome) t

end Ends

section Proofs
variable {input : LiveExperimentManagerInput} {host : ManagerHost} {executor : ActionExecutor}
  {observation : AutotuneObservation} {s : ManagerState} {experiment : LiveExperiment}

variable {Q : Except AnyError Unit → ManagerState → Prop}

open Op

/-- An operation on the stores leaves the manager's own state alone, whatever becomes of
the world. -/
theorem holds_writeJournalPhaseFor_any {state : ControllerJournalState} {text : String}
    (h : ∀ r w, Q r (s.over w)) :
    Holds (writeJournalPhaseFor input host observation experiment state text)
      (fun _ => True) Q s :=
  holds_writeJournalPhaseFor (fun _ => h _ s.world) (fun _ => ⟨trivial, fun _ => h _ _⟩)
    fun _ => ⟨trivial, fun _ => h _ _⟩

/-- What follows the executor's answer. -/
theorem holds_finishRollback_ends {before t : ManagerState} {reason : String}
    (snapshot : Option ActiveConfigSnapshot) (hbefore : before.current = some experiment)
    (ht : t.Holds none before.controller before.keptActions) :
    Holds (match unverified input host observation experiment snapshot with
      | some verification => finishUnverified input host observation experiment verification
      | none => finishReverted input host observation experiment reason) (fun _ => True)
      (RollbackEnds input observation before) t := by
  cases unverified input host observation experiment snapshot with
  | none =>
    dsimp only [finishReverted]
    rw [holds_bind]
    refine holds_writeJournalPhaseFor_any ?_
    rintro (e | _) w
    · exact .forgotten experiment e hbefore ⟨ht.current, ht.controller, ht.kept⟩
    · dsimp only
      rw [holds_bind, holds_assign]
      refine holds_pure.mpr (.reverted experiment reason _ hbefore rfl ⟨ht.current, ?_, ht.kept⟩)
      exact congrArg (rollbackReverted input observation experiment reason) ht.controller
  | some verification =>
    dsimp only [finishUnverified]
    rw [holds_bind]
    refine holds_writeJournalPhaseFor_any ?_
    rintro (e | _) w
    · exact .forgotten experiment e hbefore ⟨ht.current, ht.controller, ht.kept⟩
    · dsimp only
      rw [holds_bind, holds_assign]
      refine holds_pure.mpr
        (.unverified experiment verification _ hbefore rfl ⟨rfl, ?_, ht.kept⟩)
      exact congrArg (rollbackFaulted input observation experiment verification) ht.controller

variable {before : ManagerState}

/-- The rollback of an experiment that was taken out of `before`. -/
theorem holds_rollbackTaken_ends {reason : String} (hbefore : before.current = some experiment)
    (hs : s.Holds none before.controller before.keptActions) :
    Holds (rollbackTaken input host executor observation experiment reason) (fun _ => True)
      (RollbackEnds input observation before) s := by
  -- a step that fails before the executor's answer puts the experiment back
  have hheld : ∀ (e : AnyError) (t : ManagerState),
      t.Holds none before.controller before.keptActions →
      Holds (do assign (holdCurrent experiment); fail e : ManagerOp LiveExperimentOutcome)
        (fun _ => True) (RollbackEnds input observation before) t := by
    intro e t ht
    rw [holds_bind, holds_assign]
    exact holds_fail.mpr (.held experiment e hbefore ⟨rfl, ht.controller, ht.kept⟩)
  rw [rollbackTaken, holds_bind, holds_attempt]
  refine holds_writeJournalPhaseFor_any ?_
  rintro (e | _) w
  · exact hheld e _ ⟨hs.current, hs.controller, hs.kept⟩
  · dsimp only
    rw [holds_bind, holds_attempt]
    refine holds_rollbackThroughExecutor ?_ ?_
    · exact fun _ => holds_finishRollback_ends none hbefore ⟨hs.current, hs.controller, hs.kept⟩
    · intro _
      refine holds_of_forall (fun _ => trivial) ?_
      rintro (e | snapshot) v
      · exact hheld e _ ⟨hs.current, hs.controller, hs.kept⟩
      · exact holds_finishRollback_ends snapshot hbefore ⟨hs.current, hs.controller, hs.kept⟩

theorem holds_rollbackActive_ends {reason : String} :
    Holds (rollbackActiveExperiment input host executor observation reason) (fun _ => True)
      (RollbackEnds input observation s) s := by
  rw [rollbackActiveExperiment, holds_bind, holds_gets]
  dsimp only
  cases hcurrent : s.current with
  | none => exact holds_pure.mpr (.nothing hcurrent ⟨hcurrent, rfl, rfl⟩)
  | some experiment =>
    dsimp only
    rw [holds_bind, holds_assign]
    exact holds_rollbackTaken_ends hcurrent ⟨rfl, rfl, rfl⟩

/-- The record of a keep, taken back where it cannot be written. -/
theorem holds_recordKeeping_any (h : ∀ r w, Q r (s.over w)) (w : World) :
    Holds (do
      match ← attempt (writeJournalPhaseFor input host observation experiment .keeping
          "kept_pending_manual_restore") with
      | .ok _ => return ()
      | .error e => do
        retireKeptDurably experiment.experimentId
        fail e : ManagerOp Unit) (fun _ => True) Q (s.over w) := by
  have hretire : ∀ (e : AnyError) (w : World),
      Holds (do retireKeptDurably experiment.experimentId; fail e : ManagerOp Unit)
        (fun _ => True) Q (s.over w) := by
    intro e w
    rw [holds_bind]
    refine holds_retireKeptDurably ?_ ?_
    all_goals
      intro v _
      exact ⟨trivial, holds_fail.mpr (h _ v)⟩
  rw [holds_bind, holds_attempt]
  refine holds_writeJournalPhaseFor_any ?_
  rintro (e | _) v
  · exact hretire e v
  · exact holds_pure.mpr (h _ v)

/-- Making a keep durable touches the world only. -/
theorem holds_commitKeepDurably_any (h : ∀ r w, Q r (s.over w)) :
    Holds (commitKeepDurably input host observation experiment) (fun _ => True) Q s := by
  rw [commitKeepDurably, holds_bind]
  refine holds_recordKeptDurably ?_ ?_ ?_
  · exact fun _ => holds_recordKeeping_any h s.world
  · exact fun v _ => ⟨trivial, fun e => h (.error e) v⟩
  · intro v _
    refine ⟨trivial, ?_⟩
    rintro (e | _)
    · exact h (.error e) v
    · exact holds_recordKeeping_any h v

/-- The keep of an experiment that was taken out of `before` and has improved. -/
theorem holds_keepImproved_ends {id : ExperimentId} {reason : String}
    (hbefore : before.current = some experiment)
    (hs : s.Holds none before.controller before.keptActions) :
    Holds (keepImproved input host observation experiment reason) (fun _ => True)
      (EffectEnds input observation before (.keepCurrent id reason)) s := by
  have hheld : ∀ t : ManagerState, t.Holds none before.controller before.keptActions →
      (holdCurrent experiment t).Holds before.current before.controller before.keptActions :=
    fun t ht => ⟨hbefore.symm, ht.controller, ht.kept⟩
  rw [keepImproved, holds_bind, holds_attempt]
  refine holds_commitKeepDurably_any ?_
  rintro (e | _) w
  · dsimp only
    rw [holds_bind, holds_assign]
    exact holds_fail.mpr (.refused _ e (hheld _ ⟨hs.current, hs.controller, hs.kept⟩))
  · dsimp only
    rw [holds_bind, holds_gets]
    dsimp only
    split
    · rename_i e _
      rw [holds_bind]
      refine holds_retireKeptDurably ?_ ?_
      all_goals
        intro v _
        refine ⟨trivial, ?_⟩
        rw [holds_bind, holds_assign]
        exact holds_fail.mpr (.refused _ e (hheld _ ⟨hs.current, hs.controller, hs.kept⟩))
    · rename_i set hset
      rw [holds_bind, holds_assign]
      have hkept : before.keptActions.insertIfCompatible
          (keptStateFor observation experiment reason) =
          .ok set := hs.kept ▸ hset
      refine holds_pure.mpr (.kept id reason experiment set _ hbefore ⟨reason, hkept⟩ rfl
        ⟨hs.current, ?_, rfl⟩)
      exact congrArg (keepRecorded input observation experiment) hs.controller

theorem holds_keepCurrent_ends {id : ExperimentId} {reason : String} :
    Holds (keepCurrentExperiment input host executor observation reason) (fun _ => True)
      (EffectEnds input observation s (.keepCurrent id reason)) s := by
  rw [keepCurrentExperiment, holds_bind, holds_gets]
  dsimp only
  cases hcurrent : s.current with
  | none => exact holds_pure.mpr (.nothing _ ⟨rfl, rfl, rfl⟩)
  | some experiment =>
    dsimp only
    rw [holds_bind, holds_assign]
    dsimp only
    rw [holds_bind, holds_ofExcept]
    cases validateWindowScoreForApply "candidate" observation.toWindowScore with
    | error e => exact .keepForgotten id reason experiment e hcurrent ⟨rfl, rfl, rfl⟩
    | ok _ =>
      dsimp only
      split
      · exact holds_keepImproved_ends hcurrent ⟨rfl, rfl, rfl⟩
      · rw [holds_bind, holds_assign]
        dsimp only
        refine holds_rollbackActive_ends.mono (fun _ h => h) ?_
        intro answer t ht
        have hsame : holdCurrent experiment (takeCurrent s) = s := by
          unfold holdCurrent takeCurrent
          rw [← hcurrent]
        rw [hsame] at ht
        exact .keepRolledBack id reason ht

variable {t : ManagerState}

/-- What a failed apply does depends on the manager's own state only. -/
theorem applyFailed_holds {candidate : CandidateAction} {e : AnyError}
    (ht : t.Holds s.current s.controller s.keptActions) :
    (applyFailed input observation candidate e t).Holds
      (applyFailed input observation candidate e s).current
      (applyFailed input observation candidate e s).controller s.keptActions := by
  unfold applyFailed
  cases e.outstanding with
  | none => exact ⟨ht.current, by rw [ht.controller], ht.kept⟩
  | some token => exact ⟨rfl, by rw [ht.controller], ht.kept⟩

theorem applySucceeded_holds {candidate : CandidateAction} {token : RollbackToken}
    (ht : t.Holds s.current s.controller s.keptActions) :
    (applySucceeded input observation candidate token t).Holds
      (applySucceeded input observation candidate token s).current
      (applySucceeded input observation candidate token s).controller s.keptActions := by
  unfold applySucceeded
  exact ⟨rfl, by rw [ht.controller], ht.kept⟩

theorem holds_start_ends {candidate : CandidateAction} {reason : String} :
    Holds (startCandidateExperiment input host executor observation candidate) (fun _ => True)
      (EffectEnds input observation s (.startExperiment candidate reason)) s := by
  have hstart : Holds (startValidated input host executor observation candidate) (fun _ => True)
      (EffectEnds input observation s (.startExperiment candidate reason)) s := by
    rw [startValidated, holds_bind, holds_assign]
    dsimp only
    rw [holds_bind, holds_attempt, holds_onStore]
    refine holds_of_forall (fun _ => trivial) ?_
    rintro (e | token) w
    · dsimp only
      rw [holds_bind, holds_assign]
      exact holds_fail.mpr (.applyFailed candidate reason e (applyFailed_holds ⟨rfl, rfl, rfl⟩))
    · dsimp only
      rw [holds_bind, holds_assign]
      dsimp only
      rw [holds_bind]
      refine holds_writeJournalPhaseFor_any ?_
      intro answer v
      have hheld := @applySucceeded_holds input observation s
        (ManagerState.over { s with failedApplyContext := none } w) candidate token ⟨rfl, rfl, rfl⟩
      cases answer with
      | error e =>
        refine .started candidate reason token _ (fun _ h => ?_)
          ⟨hheld.current, hheld.controller, hheld.kept⟩
        cases h
      | ok _ =>
        refine holds_pure.mpr (.started candidate reason token _ (fun _ h => ?_)
          ⟨hheld.current, hheld.controller, hheld.kept⟩)
        cases h
        rfl
  rw [startCandidateExperiment, holds_bind, holds_ofExcept]
  cases validateStartCandidate input.mode input.daemonPolicy candidate with
  | error e => exact .refused _ e ⟨rfl, rfl, rfl⟩
  | ok mayStart =>
    cases mayStart with
    | false => exact holds_ret.mpr (.nothing _ ⟨rfl, rfl, rfl⟩)
    | true =>
      dsimp only
      rw [if_pos rfl, holds_bind, holds_ofExcept]
      cases validateAutonomousSupport host candidate with
      | error e => exact .refused _ e ⟨rfl, rfl, rfl⟩
      | ok _ =>
        dsimp only
        rw [holds_bind, holds_ofExcept]
        cases validateWindowScoreForApply "baseline" observation.toWindowScore with
        | error e => exact .refused _ e ⟨rfl, rfl, rfl⟩
        | ok _ => exact hstart

/-- **What the side effects of a decision can do** to the manager's own state. -/
theorem holds_applyDecision_ends {decision : AutotuneDecision} {reason : String} :
    Holds (applyDecisionSideEffects input host executor observation decision reason)
      (fun _ => True) (EffectEnds input observation s decision) s := by
  cases decision with
  | startExperiment candidate why => exact holds_start_ends
  | keepCurrent id why =>
    refine (@holds_keepCurrent_ends input host executor observation s id reason).mono (fun _ h => h)
      ?_
    intro answer t ht
    cases ht with
    | nothing _ ht => exact .nothing _ ht
    | refused _ e ht => exact .refused _ e ht
    | kept _ _ experiment set outcome hcurrent hset hevent ht =>
      exact .kept id why experiment set outcome hcurrent hset hevent ht
    | keepForgotten _ _ experiment e hcurrent ht =>
      exact .keepForgotten id why experiment e hcurrent ht
    | keepRolledBack _ _ h => exact .keepRolledBack id why h
  | revert id why =>
    exact holds_rollbackActive_ends.mono (fun _ h => h) fun _ _ ht => .rolledBack id why ht
  | enterCooldown duration why =>
    rw [applyDecisionSideEffects, holds_bind, holds_assign]
    exact holds_pure.mpr (.cooldown duration why ⟨rfl, rfl, rfl⟩)
  | fault why =>
    refine holds_rollbackActive_ends.bind ?_ ?_
    · intro rolledBack u hu
      rw [holds_bind, holds_assign]
      exact holds_pure.mpr (.faulted why rolledBack _ hu rfl ⟨rfl, rfl, rfl⟩)
    · exact fun e t ht => .faultFailed why e ht
  | noop why => exact holds_pure.mpr (.nothing _ ⟨rfl, rfl, rfl⟩)
  | suggest candidate why => exact holds_pure.mpr (.nothing _ ⟨rfl, rfl, rfl⟩)

/-- What a release leaves alone, and that it only takes kept actions away. -/
structure ManagerState.ReleasedFrom (t s : ManagerState) : Prop where
  current : t.current = s.current
  controller : t.controller = s.controller
  kept : t.keptActions.actions.Sublist s.keptActions.actions

theorem ManagerState.ReleasedFrom.trans {u t : ManagerState} (h : u.ReleasedFrom t)
    (h' : t.ReleasedFrom s) : u.ReleasedFrom s :=
  ⟨h.current.trans h'.current, h.controller.trans h'.controller, h.kept.trans h'.kept⟩

/-- One kept action of a release, once the executor answered. -/
theorem holds_releaseAnswered_frame {group : ActionConflictGroup} {kept : KeptCandidateState}
    (answer : Except AnyError (Option ActiveConfigSnapshot)) (ht : t.ReleasedFrom s) :
    Holds (do
      onStore writeReleaseAudit
      match answer with
      | .error _ => return false
      | .ok _ => do
        retireKeptDurably kept.experimentId
        onStore (clearJournalIfItNames kept.rollback)
        assign fun s => { s with keptActions := s.keptActions.remove group }
        return true : ManagerOp Bool) (fun _ => True) (fun _ t => t.ReleasedFrom s) t := by
  rw [holds_bind, holds_onStore]
  refine holds_of_forall (fun _ => trivial) ?_
  rintro (e | _) w
  · exact ⟨ht.current, ht.controller, ht.kept⟩
  · cases answer with
    | error e => exact holds_pure.mpr ⟨ht.current, ht.controller, ht.kept⟩
    | ok _ =>
      dsimp only
      rw [holds_bind]
      refine holds_retireKeptDurably ?_ ?_
      all_goals
        intro v _
        refine ⟨trivial, ?_⟩
        dsimp only
        rw [holds_bind, holds_onStore]
        refine holds_of_forall (fun _ => trivial) ?_
        rintro (e | _) w
        · exact ⟨ht.current, ht.controller, ht.kept⟩
        · dsimp only
          rw [holds_bind, holds_assign]
          exact holds_pure.mpr
            ⟨ht.current, ht.controller, List.filter_sublist.trans ht.kept⟩

/-- One kept action of a release. -/
theorem holds_releaseKept_frame {group : ActionConflictGroup} {kept : KeptCandidateState} :
    Holds (releaseKept input executor group kept) (fun _ => True)
      (fun _ t => t.ReleasedFrom s) s := by
  rw [releaseKept, holds_bind, holds_attempt]
  refine holds_rollbackThroughExecutor (fun _ => ?_) fun _ => ?_
  · exact (show Holds _ _ _ s from holds_releaseAnswered_frame (.ok none) ⟨rfl, rfl, .refl _⟩)
  · refine holds_of_forall (fun _ => trivial) fun r w => ?_
    exact (show Holds _ _ _ _ from holds_releaseAnswered_frame r ⟨rfl, rfl, .refl _⟩)

/-- The loop: what each round takes away adds up. -/
theorem holds_releaseGroups_frame {groups : List ActionConflictGroup} {release : KeptRelease}
    (hs : s.ReleasedFrom before) :
    Holds (releaseGroups input executor groups release) (fun _ => True)
      (fun _ t => t.ReleasedFrom before) s := by
  induction groups generalizing s release with
  | nil => exact holds_pure.mpr hs
  | cons group groups ih =>
    rw [releaseGroups, holds_bind, holds_gets]
    dsimp only
    cases s.keptActions.get group with
    | none => exact ih hs
    | some kept =>
      refine holds_releaseKept_frame.bind ?_ ?_
      · intro restored t ht
        exact ih (ht.trans hs)
      · exact fun e t ht => ht.trans hs

/-- A release leaves the experiment in flight alone. -/
theorem holds_releaseKeptActions_frame :
    Holds (releaseKeptActions input executor) (fun _ => True)
      (fun _ t => t.ReleasedFrom s) s := by
  rw [releaseKeptActions, holds_bind, holds_gets]
  exact holds_releaseGroups_frame ⟨rfl, rfl, .refl _⟩

end Proofs
end Stutter

import StutterProof.CandidateMemory
import StutterProof.DaemonPolicy

/-! # The controller

`decideAutotuneTransition` turns the controller's state and one observation into a
decision.  Its branches are taken in the source's order: a disabled controller, a
faulted one, an experiment in flight, a running cooldown, and only then the candidate.

`decide_startExperiment` reads the decision backwards: what must have been the case
for it to start an experiment. -/
namespace Stutter

/-- The controller's phases. -/
inductive ControllerPhase where
  | disabled | observing | planning | applying | measuring | keeping | reverting | cooldown
  | faulted
  deriving DecidableEq

/-- Durations are in nanoseconds; the two thresholds are as they are printed. -/
structure ControllerPolicy where
  mode : DaemonMode
  maxSafetyClass : SafetyClass
  minImprovementPercent : String
  maxRegressionPercent : String
  cooldownAfterKeep : Nat
  cooldownAfterRevert : Nat
  cooldownAfterFault : Nat
  minimumTimeBetweenSameAction : Nat

/-- The thresholds are those of `DEFAULT_SCORE_COMPARISON_CONFIG`. -/
def ControllerPolicy.fromDaemonPolicy (policy : DaemonPolicy)
    (minImprovement maxRegression : String) :
    ControllerPolicy :=
  ⟨policy.mode, policy.maxSafetyClass, minImprovement, maxRegression, seconds 60, seconds 120,
    seconds 300, seconds 300⟩

def ControllerPolicy.canStartExperiment (policy : ControllerPolicy) : Bool :=
  policy.mode.supportsApply

/-- The experiment the controller runs. -/
structure ActiveExperiment where
  experimentId : ExperimentId
  candidate : CandidateAction
  baselineScore : WindowScore

/-- What the controller remembers. -/
structure ControllerRuntimeState where
  phase : ControllerPhase
  activeExperiment : Option ActiveExperiment
  cooldownUntilUnixNanos : Option Nat
  candidateMemory : CandidateMemory

/-- A controller that starts, with the memory it loaded. -/
def ControllerRuntimeState.starting (memory : CandidateMemory) : ControllerRuntimeState :=
  ⟨.observing, none, none, memory⟩

/-- What the controller decides. -/
inductive AutotuneDecision where
  | noop (reason : String)
  | suggest (candidate : CandidateAction) (reason : String)
  | startExperiment (candidate : CandidateAction) (reason : String)
  | keepCurrent (experimentId : ExperimentId) (reason : String)
  | revert (experimentId : ExperimentId) (reason : String)
  | enterCooldown (duration : Nat) (reason : String)
  | fault (reason : String)

/-- The decision starts an experiment. -/
def AutotuneDecision.isStart : AutotuneDecision → Bool
  | startExperiment .. => true
  | _ => false

/-! ## Recording and cooldowns -/

namespace ControllerRuntimeState

/-- `record_candidate_result`, and `record_candidate_attempt` with the result
`Tried`. -/
def recordCandidateResult (s : ControllerRuntimeState) (input : CandidateResultRecordInput) :
    ControllerRuntimeState :=
  { s with candidateMemory := s.candidateMemory.recordResult input }

/-- `cooldown_deadline`: a zero duration is no cooldown. -/
def cooldownDeadline (now duration : Nat) : Option Nat :=
  if duration = 0 then none else some (saturatingAdd now duration)

/-- The active experiment stays: its keeper clears it. -/
def enterCooldownAfterKeep (s : ControllerRuntimeState) (policy : ControllerPolicy) (now : Nat) :
    ControllerRuntimeState :=
  { s with
    phase := .cooldown
    cooldownUntilUnixNanos := cooldownDeadline now policy.cooldownAfterKeep }

def enterCooldownAfterRevert (s : ControllerRuntimeState) (policy : ControllerPolicy) (now : Nat) :
    ControllerRuntimeState :=
  { s with
    phase := .cooldown
    activeExperiment := none
    cooldownUntilUnixNanos := cooldownDeadline now policy.cooldownAfterRevert }

def enterCooldownAfterFault (s : ControllerRuntimeState) (policy : ControllerPolicy) (now : Nat) :
    ControllerRuntimeState :=
  { s with
    phase := .faulted
    activeExperiment := none
    cooldownUntilUnixNanos := cooldownDeadline now policy.cooldownAfterFault }

end ControllerRuntimeState

/-! ## The decision -/

section Decide
variable (comparisons : Comparisons) (policy : ControllerPolicy) (state : ControllerRuntimeState)
  (observation : AutotuneObservation)

/-- The CPU-affinity profiles need a game in focus. -/
def candidateRequiresGameFocus (candidate : CandidateAction) : Bool :=
  candidate.variant = .cpuAffinityProfile

/-- Why the focus blocks a start. -/
def focusPolicyBlockReason (candidate : CandidateAction) : Option String :=
  if observation.focusHasCriticalRealtimeWarning &&
      SafetyClass.observeOnly.rank < candidate.safetyClass.rank then
    some ("critical realtime/input process is present in the focus context; unsafe action " ++
      "classes are blocked")
  else if observation.focusIsIdleOrUnknown then
    some "focus is idle or unknown; autotune remains observe-only"
  else
    match observation.focusKind with
    | some .game => none
    | some .idle | some .unknown | none =>
      some "focus is idle or unknown; autotune remains observe-only"
    | some focusKind =>
      if candidateRequiresGameFocus candidate then
        some (s!"{focusKind.debug} focus must not apply game-focus-only CPU-affinity profile " ++
          "candidates")
      else none

/-- `cooldown_block_decision`. -/
def cooldownBlockDecision (reason : String) : Option AutotuneDecision :=
  match state.cooldownUntilUnixNanos with
  | none => none
  | some cooldownUntil =>
    if cooldownUntil ≤ observation.nowUnixNanos then none
    else some (.enterCooldown
      (CandidateMemory.durationFromRemainingNanos (cooldownUntil - observation.nowUnixNanos))
        reason)

/-- `same_action_cooldown_remaining`: the record's own cooldown first, then the
spacing counted from when the action was last tried. -/
def sameActionCooldownRemaining (candidate : CandidateAction) : Option Nat :=
  let now := observation.nowUnixNanos
  match state.candidateMemory.cooldownRemainingForAction candidate.actionId now with
  | some duration => some duration
  | none =>
    if policy.minimumTimeBetweenSameAction = 0 then none
    else match state.candidateMemory.lastForAction candidate.actionId with
      | none => none
      | some record =>
        let nextAllowed :=
          saturatingAdd record.lastTriedUnixNanos policy.minimumTimeBetweenSameAction
        if nextAllowed ≤ now then none
        else some (CandidateMemory.durationFromRemainingNanos (nextAllowed - now))

/-- What is decided about the experiment in flight. -/
def decideActive (active : ActiveExperiment) : AutotuneDecision :=
  let id := active.experimentId
  if !observation.targetPresent then .revert id "target disappeared during active experiment"
  else match observation.dataQuality with
    | .low reasons =>
      let joined := "; ".intercalate reasons
      .revert id s!"low data quality during active experiment: {joined}"
    | .high | .medium _ =>
      match focusPolicyBlockReason observation active.candidate with
      | some reason => .revert id s!"focus policy blocks active experiment: {reason}"
      | none =>
        if active.candidate.objective ≠ .stutterScore then
          let objective := comparisons.explainForObjective active.candidate.objective
            active.baselineScore observation
          if objective.experimentResult.isImproved then .keepCurrent id objective.summary
          else .revert id objective.summary
        else match comparisons.compareScores active.baselineScore observation.toWindowScore with
          | .regressed percent => .revert id (s!"candidate regressed normalized score by " ++
              s!"{percent}% which exceeds max_regression_percent {policy.maxRegressionPercent}%")
          | .improved percent => .keepCurrent id (s!"candidate improved normalized score by " ++
              s!"{percent}% which meets min_improvement_percent {policy.minImprovementPercent}%")
          | .inconclusive reason => .noop s!"active experiment is still inconclusive: {reason}"
          | .invalid reason =>
            .revert id s!"invalid active experiment score comparison: {reason}"

/-- The source's `Debug` name. -/
def SafetyClass.debug : SafetyClass → String
  | .observeOnly => "ObserveOnly"
  | .reversibleLowRisk => "ReversibleLowRisk"
  | .reversibleMediumRisk => "ReversibleMediumRisk"
  | .highRisk => "HighRisk"

/-- What is decided about a candidate that data quality let through. -/
def decideCandidate (candidate : CandidateAction) : AutotuneDecision :=
  match focusPolicyBlockReason observation candidate with
  | some reason => .noop reason
  | none =>
    if policy.maxSafetyClass.rank < candidate.safetyClass.rank then
      .noop (s!"candidate safety class {candidate.safetyClass.debug} exceeds mode maximum " ++
        s!"{policy.maxSafetyClass.debug}")
    else match sameActionCooldownRemaining policy state observation candidate with
      | some duration => .enterCooldown duration
          (s!"same action '{candidate.actionId}' is still cooling down; " ++
            s!"minimum_time_between_same_action is " ++
            s!"{policy.minimumTimeBetweenSameAction / 1000000000}s")
      | none =>
        if policy.mode = .suggest then
          .suggest candidate "suggest mode reports candidate without applying"
        else if !policy.canStartExperiment then
          .noop "current mode is not allowed to start experiments"
        else .startExperiment candidate "candidate passed data-quality and safety gates"

/-- `decide_autotune_transition`. -/
def decideAutotuneTransition (candidate : Option CandidateAction) : AutotuneDecision :=
  if state.phase = .disabled then .noop "controller is disabled"
  else if state.phase = .faulted then
    (cooldownBlockDecision state observation
      "fault cooldown blocks repeated action after controller fault").getD
      (.fault "controller is faulted; manual intervention required")
  else match state.activeExperiment with
    | some active => decideActive comparisons policy observation active
    | none =>
      match cooldownBlockDecision state observation "cooldown blocks repeated action" with
      | some decision => decision
      | none =>
        if policy.mode = .observe then .noop "observe mode never applies or suggests actions"
        else match observation.dataQuality with
          | .low reasons =>
            let joined := "; ".intercalate reasons
            .noop s!"low data quality blocks experiment: {joined}"
          | .high | .medium _ =>
            match candidate with
            | none => .noop "no candidate action available"
            | some candidate => decideCandidate policy state observation candidate

end Decide

/-! ## Reading a decision backwards -/

section Inversion
variable {comparisons : Comparisons} {policy : ControllerPolicy} {state : ControllerRuntimeState}
  {observation : AutotuneObservation}

/-- Nothing is started about an experiment in flight. -/
theorem decideActive_not_start (active : ActiveExperiment) :
    (decideActive comparisons policy observation active).isStart = false := by
  unfold decideActive
  dsimp only
  repeat' split
  all_goals rfl

variable {reason : String} {decision : AutotuneDecision}

theorem cooldownBlockDecision_not_start
    (h : cooldownBlockDecision state observation reason = some decision) :
    decision.isStart = false := by
  unfold cooldownBlockDecision at h
  split at h
  · cases h
  · split at h
    · cases h
    · cases h
      rfl

/-- No cooldown is running when none blocks. -/
theorem cooldown_over (h : cooldownBlockDecision state observation reason = none) :
    ∀ until', state.cooldownUntilUnixNanos = some until' → until' ≤ observation.nowUnixNanos := by
  intro until' huntil
  unfold cooldownBlockDecision at h
  rw [huntil] at h
  dsimp only at h
  split at h
  · assumption
  · cases h

/-- What a `StartExperiment` decision says about the state it was made in. -/
structure StartAllowed (policy : ControllerPolicy) (state : ControllerRuntimeState)
    (observation : AutotuneObservation) (candidate : CandidateAction) : Prop where
  notFaulted : state.phase ≠ .faulted
  idle : state.activeExperiment = none
  cooldownOver : ∀ until', state.cooldownUntilUnixNanos = some until' →
    until' ≤ observation.nowUnixNanos
  spaced : sameActionCooldownRemaining policy state observation candidate = none
  mode : policy.canStartExperiment

theorem decideCandidate_start {candidate started : CandidateAction}
    (h : decideCandidate policy state observation candidate = .startExperiment started reason) :
    started = candidate ∧ sameActionCooldownRemaining policy state observation candidate = none ∧
      policy.canStartExperiment := by
  unfold decideCandidate at h
  split at h
  · cases h
  · split at h
    · cases h
    · split at h
      · cases h
      · rename_i hspaced
        split at h
        · cases h
        · split at h
          · cases h
          · rename_i hmode
            cases h
            refine ⟨rfl, hspaced, ?_⟩
            simpa using hmode

variable {candidate : Option CandidateAction}

/-- **An experiment is started only** by a controller that is not faulted, has none in
flight, is out of its cooldown and has not tried the action too recently; and the
experiment started is the candidate's. -/
theorem decide_startExperiment {started : CandidateAction}
    (h : decideAutotuneTransition comparisons policy state observation candidate =
      .startExperiment started reason) :
    candidate = some started ∧ StartAllowed policy state observation started := by
  unfold decideAutotuneTransition at h
  split at h
  · cases h
  · split at h
    · -- a faulted controller answers with its cooldown or a fault
      cases hblock : cooldownBlockDecision state observation
          "fault cooldown blocks repeated action after controller fault" with
      | none =>
        rw [hblock] at h
        cases h
      | some decision =>
        rw [hblock] at h
        have hnot := cooldownBlockDecision_not_start hblock
        simp only [Option.getD_some] at h
        rw [h] at hnot
        cases hnot
    · rename_i hfaulted
      split at h
      · rename_i active _
        have hnot := @decideActive_not_start comparisons policy observation active
        rw [h] at hnot
        cases hnot
      · rename_i hidle
        split at h
        · rename_i hblock
          have hnot := cooldownBlockDecision_not_start hblock
          rw [h] at hnot
          cases hnot
        · rename_i hover
          split at h
          · cases h
          · split at h
            · cases h
            all_goals
              split at h
              · cases h
              · obtain ⟨rfl, hspaced, hmode⟩ := decideCandidate_start h
                exact ⟨rfl, hfaulted, hidle, cooldown_over hover, hspaced, hmode⟩

/-- About an experiment in flight a controller that is not faulted does nothing, reverts, or keeps
it on data of quality. -/
theorem decide_active {active : ActiveExperiment} (hphase : state.phase ≠ .faulted)
    (hactive : state.activeExperiment = some active)
    (h : decideAutotuneTransition comparisons policy state observation candidate = decision) :
    (∃ reason, decision = .noop reason) ∨ (∃ id reason, decision = .revert id reason) ∨
      ∃ id reason, decision = .keepCurrent id reason ∧
        observation.dataQuality.blocksAction = false := by
  unfold decideAutotuneTransition at h
  rw [if_neg hphase, hactive] at h
  dsimp only at h
  split at h
  · exact .inl ⟨_, h.symm⟩
  · unfold decideActive at h
    dsimp only at h
    split at h
    · exact .inr (.inl ⟨_, _, h.symm⟩)
    · split at h
      · exact .inr (.inl ⟨_, _, h.symm⟩)
      all_goals
        rename_i hquality
        have hok : observation.dataQuality.blocksAction = false := by
          rw [hquality]
          rfl
        split at h
        · exact .inr (.inl ⟨_, _, h.symm⟩)
        · split at h
          · split at h
            · exact .inr (.inr ⟨_, _, h.symm, hok⟩)
            · exact .inr (.inl ⟨_, _, h.symm⟩)
          · split at h
            · exact .inr (.inl ⟨_, _, h.symm⟩)
            · exact .inr (.inr ⟨_, _, h.symm, hok⟩)
            · exact .inl ⟨_, h.symm⟩
            · exact .inr (.inl ⟨_, _, h.symm⟩)

/-- Without one it neither keeps nor reverts, nor does it fault. -/
theorem decide_idle (hphase : state.phase ≠ .faulted) (hidle : state.activeExperiment = none)
    (h : decideAutotuneTransition comparisons policy state observation candidate = decision) :
    (∃ reason, decision = .noop reason) ∨ (∃ c reason, decision = .suggest c reason) ∨
      (∃ duration reason, decision = .enterCooldown duration reason) ∨
      ∃ c reason, decision = .startExperiment c reason := by
  unfold decideAutotuneTransition at h
  rw [if_neg hphase, hidle] at h
  dsimp only at h
  split at h
  · exact .inl ⟨_, h.symm⟩
  · split at h
    · rename_i decision' hblock
      unfold cooldownBlockDecision at hblock
      split at hblock
      · cases hblock
      · split at hblock
        · cases hblock
        · cases hblock
          exact .inr (.inr (.inl ⟨_, _, h.symm⟩))
    · split at h
      · exact .inl ⟨_, h.symm⟩
      · split at h
        · exact .inl ⟨_, h.symm⟩
        all_goals
          split at h
          · exact .inl ⟨_, h.symm⟩
          · unfold decideCandidate at h
            split at h
            · exact .inl ⟨_, h.symm⟩
            · split at h
              · exact .inl ⟨_, h.symm⟩
              · split at h
                · exact .inr (.inr (.inl ⟨_, _, h.symm⟩))
                · split at h
                  · exact .inr (.inl ⟨_, _, h.symm⟩)
                  · split at h
                    · exact .inl ⟨_, h.symm⟩
                    · exact .inr (.inr (.inr ⟨_, _, h.symm⟩))

/-- A keep is decided on data of quality. -/
theorem decide_keepCurrent {id : ExperimentId}
    (h : decideAutotuneTransition comparisons policy state observation candidate =
      .keepCurrent id reason) : observation.dataQuality.blocksAction = false := by
  have hphase : state.phase ≠ .faulted := by
    intro hfaulted
    unfold decideAutotuneTransition cooldownBlockDecision at h
    rw [if_pos hfaulted] at h
    split at h
    · cases h
    · split at h
      · cases h
      · split at h <;> cases h
  cases hactive : state.activeExperiment with
  | some active =>
    rcases decide_active hphase hactive h with ⟨_, hd⟩ | ⟨_, _, hd⟩ | ⟨_, _, -, hquality⟩
    · cases hd
    · cases hd
    · exact hquality
  | none =>
    rcases decide_idle hphase hactive h with ⟨_, hd⟩ | ⟨_, _, hd⟩ | ⟨_, _, hd⟩ | ⟨_, _, hd⟩
    all_goals cases hd

/-- A faulted controller decides on its cooldown or its fault, and on nothing else. -/
theorem decide_faulted (h : state.phase = .faulted) :
    (∃ duration reason, decideAutotuneTransition comparisons policy state observation candidate =
      .enterCooldown duration reason) ∨
    ∃ reason, decideAutotuneTransition comparisons policy state observation candidate =
      .fault reason := by
  unfold decideAutotuneTransition
  rw [if_neg (by rw [h]; decide), if_pos h]
  unfold cooldownBlockDecision
  cases state.cooldownUntilUnixNanos with
  | none => exact .inr ⟨_, rfl⟩
  | some cooldownUntil =>
    dsimp only
    split
    · exact .inr ⟨_, rfl⟩
    · exact .inl ⟨_, _, rfl⟩

end Inversion
end Stutter

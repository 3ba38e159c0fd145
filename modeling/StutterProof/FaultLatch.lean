import StutterProof.Runtime

/-! # The fault latch

A fault is held in two places, the controller's phase and the runtime's.  `Latch` ties
them: the controller is never faulted while the runtime is not.  A faulted runtime
refuses every move an evaluation or a revert would make, and that is what keeps the
latch shut; the controller alone would be taken out of its fault by a revert or a
resync.

The second half of `Latch` is about the experiment in flight: the manager and the
controller never hold two different ones, and nothing is started while either of them
holds one. -/
namespace Stutter
open Fallible

/-- The manager's experiment and the controller's, where both have one, are the same. -/
def SameExperiment (current : Option LiveExperiment) (controller : ControllerRuntimeState) : Prop :=
  ∀ experiment active, current = some experiment → controller.activeExperiment = some active →
    active.experimentId = experiment.experimentId ∧ active.candidate = experiment.candidate

/-- The invariant: a fault of the controller is one of the runtime. -/
structure Latch (s : RuntimeState) : Prop where
  faulted : s.manager.controller.phase = .faulted → s.phase = .faulted
  single : SameExperiment s.manager.current s.manager.controller
  /-- Nothing was started while an experiment was live. -/
  idleStarts : ∀ made ∈ s.decided, made.decision.isStart = true → made.live = false

/-! ## What a decision's side effects do to the fault and to the experiment -/

section Effects
variable {input : LiveExperimentManagerInput} {observation : AutotuneObservation}
  {s t : ManagerState} {answer : Except AnyError LiveExperimentOutcome}

theorem sameExperiment_none (controller : ControllerRuntimeState) :
    SameExperiment none controller :=
  fun _ _ h => nomatch h

variable {controller : ControllerRuntimeState}

theorem sameExperiment_idle (current : Option LiveExperiment)
    (h : controller.activeExperiment = none) : SameExperiment current controller := by
  intro _ _ _ hactive
  rw [h] at hactive
  cases hactive

theorem ManagerState.Holds.sameExperiment {current : Option LiveExperiment} {kept : KeptActionSet}
    (ht : t.Holds current controller kept) (h : SameExperiment current controller) :
    SameExperiment t.current t.controller := by
  rw [ht.current, ht.controller]
  exact h

theorem RollbackEnds.sameExperiment (h : RollbackEnds input observation s answer t)
    (hs : SameExperiment s.current s.controller) : SameExperiment t.current t.controller := by
  cases h with
  | nothing hcurrent ht => exact ht.sameExperiment (sameExperiment_none _)
  | held experiment e hcurrent ht => exact ht.sameExperiment (hcurrent ▸ hs)
  | reverted experiment reason outcome hcurrent hevent ht =>
    exact ht.sameExperiment (sameExperiment_none _)
  | unverified experiment verification outcome hcurrent hevent ht =>
    exact ht.sameExperiment (sameExperiment_idle _ rfl)
  | forgotten experiment e hcurrent ht => exact ht.sameExperiment (sameExperiment_none _)

/-- A start puts one experiment into both hands. -/
theorem sameExperiment_experimentFor {candidate : CandidateAction} {token : RollbackToken}
    {deadlines : Nat × Nat}
    (h : controller.activeExperiment = some (activeExperimentFor input observation candidate)) :
    SameExperiment (some (experimentFor input observation candidate token deadlines))
      controller := by
  intro experiment active hexperiment hactive
  rw [h] at hactive
  cases hexperiment
  cases hactive
  exact ⟨rfl, rfl⟩

theorem EffectEnds.sameExperiment {decision : AutotuneDecision}
    (h : EffectEnds input observation s decision answer t)
    (hs : SameExperiment s.current s.controller) : SameExperiment t.current t.controller := by
  cases h with
  | nothing _ ht => exact ht.sameExperiment hs
  | refused _ e ht => exact ht.sameExperiment hs
  | cooldown duration reason ht => exact ht.sameExperiment hs
  | applyFailed candidate reason e ht =>
    refine ht.sameExperiment ?_
    unfold Stutter.applyFailed
    cases e.outstanding with
    | none => exact hs
    | some token => exact sameExperiment_experimentFor rfl
  | started candidate reason token _ hevent ht =>
    exact ht.sameExperiment (sameExperiment_experimentFor rfl)
  | kept id reason experiment set outcome hcurrent hset hevent ht =>
    exact ht.sameExperiment (sameExperiment_none _)
  | keepForgotten id reason experiment e hcurrent ht =>
    exact ht.sameExperiment (sameExperiment_none _)
  | keepRolledBack id reason h => exact h.sameExperiment hs
  | rolledBack id reason h => exact h.sameExperiment hs
  | faultFailed reason e h => exact h.sameExperiment hs
  | faulted reason rolledBack outcome h hevent ht =>
    exact ht.sameExperiment (sameExperiment_idle _ rfl)

/-- A rollback that answers leaves the controller faulted only if it says so, or if the
controller was. -/
theorem RollbackEnds.faulted {outcome : LiveExperimentOutcome}
    (h : RollbackEnds input observation s (.ok outcome) t)
    (hfaulted : t.controller.phase = .faulted) :
    outcome.event = .faulted ∨ s.controller.phase = .faulted := by
  cases h with
  | nothing hcurrent ht => exact .inr (ht.controller ▸ hfaulted)
  | reverted experiment reason outcome hcurrent hevent ht =>
    rw [ht.controller] at hfaulted
    cases hfaulted
  | unverified experiment verification outcome hcurrent hevent ht => exact .inl hevent

theorem EffectEnds.faulted_event {decision : AutotuneDecision} {outcome : LiveExperimentOutcome}
    (h : EffectEnds input observation s decision (.ok outcome) t)
    (hfaulted : t.controller.phase = .faulted) :
    outcome.event = .faulted ∨ s.controller.phase = .faulted := by
  cases h with
  | nothing _ ht => exact .inr (ht.controller ▸ hfaulted)
  | cooldown duration reason ht =>
    -- a cooldown keeps the fault that was there, and no other
    rw [ht.controller] at hfaulted
    by_cases hs : s.controller.phase = .faulted
    · exact .inr hs
    · rw [enterCooldown, if_neg hs] at hfaulted
      cases hfaulted
  | started candidate reason token _ hevent ht =>
    rw [ht.controller] at hfaulted
    cases hfaulted
  | kept id reason experiment set outcome hcurrent hset hevent ht =>
    rw [ht.controller] at hfaulted
    cases hfaulted
  | keepRolledBack id reason h => exact h.faulted hfaulted
  | rolledBack id reason h => exact h.faulted hfaulted
  | faulted reason rolledBack outcome h hevent ht => exact .inl hevent

end Effects

/-! ## The latch over one call -/

open Op

section Calls
variable {config : AutotuneRuntimeConfig} {s : RuntimeState}

theorem Latch.deny (h : Latch s) (next : AutotuneRuntimePhase) (message : String) :
    Latch (s.deny next message) :=
  ⟨fun _ => rfl, h.single, h.idleStarts⟩

variable {reason : String}

/-- A move keeps the latch: out of a fault there is none. -/
theorem holds_transition_latch {next : AutotuneRuntimePhase} (hs : Latch s) :
    Holds (transitionRuntimePhase next reason) (fun _ => True) (fun _ t => Latch t) s := by
  refine holds_transitionRuntimePhase ?_ fun _ message => hs.deny next message
  intro hallowed
  refine ⟨fun hfaulted => ?_, hs.single, hs.idleStarts⟩
  rw [hs.faulted hfaulted] at hallowed
  exact AutotuneRuntimePhase.faulted_of_allowed hallowed

/-- The side effects of a decision keep the latch: an answer that leaves the controller
faulted moves the runtime to its fault. -/
theorem holds_effects_latch {answers : SideEffectAnswers} {observation : AutotuneObservation}
    {decision : AutotuneDecision} (hs : Latch s) :
    Holds (applyRuntimeSideEffects config answers observation decision reason) (fun _ => True)
      (fun _ t => Latch t) s := by
  refine holds_applyRuntimeSideEffects hs (fun _ _ _ ht => holds_transition_latch ht)
    (fun _ _ ht => ht) ?_ ?_
  · intro t e u ht hu message
    have hsame := hu.sameExperiment ht.single
    exact ⟨fun _ => rfl, hsame, ht.idleStarts⟩
  · intro t outcome u ht hu
    have hsame := hu.sameExperiment ht.single
    -- whatever became of the memory's file
    have houtcome : ∀ v : RuntimeState, v.manager = u → v.phase = t.phase → v.decided = t.decided →
        Holds (transitionForOutcome outcome.event) (fun _ => True) (fun _ t => Latch t) v := by
      rintro v rfl hphase hdecided
      have hstarts : ∀ made ∈ v.decided, made.decision.isStart = true → made.live = false := by
        rw [hdecided]
        exact ht.idleStarts
      rw [transitionForOutcome, holds_bind, holds_gets]
      refine holds_transitionRuntimePhase ?_ fun _ message => ⟨fun _ => rfl, hsame, hstarts⟩
      intro hallowed
      refine ⟨fun hfaulted => ?_, hsame, hstarts⟩
      rcases hu.faulted_event hfaulted with hevent | hbefore
      · dsimp only
        rw [hevent]
      · rw [hphase, ht.faulted hbefore] at hallowed
        exact AutotuneRuntimePhase.faulted_of_allowed hallowed
    rw [holds_bind]
    exact holds_persistCandidateMemory (houtcome _ rfl rfl rfl) fun _ => houtcome _ rfl rfl rfl

variable {answers : RevertAnswers}

theorem holds_rollbackLive_latch (hs : Latch s) :
    Holds (rollbackLiveExperiment config answers reason) (fun _ => True)
      (fun _ t => Latch t) s :=
  holds_rollbackLiveExperiment (fun _ _ _ => holds_effects_latch hs) hs

/-- A release touches neither the fault nor the experiment. -/
theorem holds_release_latch {answers : SideEffectAnswers} (hs : Latch s) :
    Holds (releaseRuntimeKeptActions config answers) (fun _ => True) (fun _ t => Latch t) s := by
  refine holds_releaseRuntimeKeptActions ?_ hs
  intro t ht
  refine ⟨fun hfaulted => hs.faulted ?_, ?_, hs.idleStarts⟩
  · rw [← ht.controller]
    exact hfaulted
  · show SameExperiment t.current t.controller
    rw [ht.current, ht.controller]
    exact hs.single

theorem Latch.resync (h : Latch s) : Latch s.resync :=
  ⟨fun hfaulted => (nomatch hfaulted), sameExperiment_none _, h.idleStarts⟩

/-- The controller starts nothing while it has an experiment, nor is it given a candidate while the
manager has one. -/
theorem holds_chooseDecision_latch {answers : EvaluationAnswers} (hs : Latch s) :
    Holds (chooseDecision config answers) (fun _ => True)
      (fun r t => Latch t ∧
        ∀ decision, r = .ok decision → decision.isStart = true → t.live = false) s := by
  refine holds_chooseDecision (D := fun decision t => decision.isStart = true → t.live = false)
    (fun _ _ _ ht => holds_transition_latch ht) (fun _ _ ht => ht.resync)
    (fun _ _ ht => ⟨ht.faulted, ht.single, ht.idleStarts⟩) ?_ ?_ hs
  · intro t decision _ hnot _ hstart
    rw [hnot] at hstart
    cases hstart
  · intro t candidate reason _ hidle hallowed _ _
    rw [RuntimeState.live, hidle, hallowed.idle]
    rfl

/-- One evaluation keeps the latch. -/
theorem holds_evaluate_latch {answers : EvaluationAnswers} (hs : Latch s) :
    Holds (evaluateAndEmit config answers) (fun _ => True) (fun _ t => Latch t) s := by
  refine holds_evaluateAndEmit (M := Latch)
    (D := fun decision t => Latch t ∧ (decision.isStart = true → t.live = false)) ?_
    (fun _ ht => ⟨ht.faulted, ht.single, ht.idleStarts⟩) (fun _ ht => holds_release_latch ht) ?_ ?_
  · refine (holds_prepareForEvaluation (fun _ _ _ ht => holds_transition_latch ht) hs).mono
      (fun _ h => h) ?_
    rintro (_ | _) t ht
    · exact ht
    · exact ht
  · intro t ht
    refine (holds_chooseDecision_latch ht).mono (fun _ h => h) ?_
    rintro (_ | decision) u hu
    · exact hu.1
    · exact ⟨hu.1, hu.2 decision rfl⟩
  rintro t decision ⟨ht, hidle⟩
  refine holds_effects_latch ⟨ht.faulted, ht.single, ?_⟩
  intro made hmem hstart
  rcases List.mem_append.mp hmem with hold | hnew
  · exact ht.idleStarts made hold hstart
  · cases List.mem_singleton.mp hnew
    exact hidle hstart

theorem holds_lifecycle_latch {rollsBack : Bool} {stabilizationMs : Option Nat} (hs : Latch s) :
    Holds (handleLifecycleEvent config rollsBack stabilizationMs answers) (fun _ => True)
      (fun _ t => Latch t) s :=
  holds_handleLifecycleEvent
    (holds_prepareForEvaluation (fun _ _ _ ht => holds_transition_latch ht) hs)
    (fun _ _ ht => holds_rollbackLive_latch ht)
    (fun _ _ ht => ⟨ht.faulted, ht.single, ht.idleStarts⟩) hs

/-- **One call keeps the latch**, whatever the outside answers. -/
theorem holds_call_latch {call : RuntimeCall} (hs : Latch s) :
    Holds (call.perform config) (fun _ => True) (fun _ t => Latch t) s :=
  holds_call (fun _ _ ht => holds_evaluate_latch ht) (fun _ _ _ ht => holds_rollbackLive_latch ht)
    (fun _ _ ht => holds_release_latch ht) (fun _ _ _ _ ht => holds_lifecycle_latch ht) hs

/-! ## Behind the latch -/

/-- A faulted runtime whose controller is faulted, and that has executed nothing since
`before`. -/
structure StaysFaulted (before t : RuntimeState) : Prop where
  runtime : t.phase = .faulted
  controller : t.manager.controller.phase = .faulted
  executed : t.executed = before.executed

variable {before : RuntimeState}

theorem StaysFaulted.deny (h : StaysFaulted before s) (next : AutotuneRuntimePhase)
    (message : String) : StaysFaulted before (s.deny next message) :=
  ⟨rfl, rfl, h.executed⟩

/-- The table denies every other move. -/
theorem holds_transition_faulted {next : AutotuneRuntimePhase}
    (hnext : next ≠ .faulted) (hs : StaysFaulted before s) :
    Holds (transitionRuntimePhase next reason) (fun _ => True)
      (fun r t => r.isOk = false ∧ StaysFaulted before t) s := by
  refine holds_transitionRuntimePhase ?_ fun _ message => ⟨rfl, hs.deny next message⟩
  intro hallowed
  rw [hs.runtime] at hallowed
  exact absurd (AutotuneRuntimePhase.faulted_of_allowed hallowed) hnext

theorem holds_prepareForEvaluation_faulted (hs : StaysFaulted before s) :
    Holds prepareRuntimePhaseForEvaluation (fun _ => True)
      (fun r t => r.isOk = false ∧ StaysFaulted before t) s := by
  rw [prepareRuntimePhaseForEvaluation, holds_bind, holds_gets]
  refine holds_transition_faulted ?_ hs
  cases s.manager.hasActiveExperiment <;> decide

/-- An evaluation fails at its first step. -/
theorem holds_evaluate_faulted {answers : EvaluationAnswers} (hs : StaysFaulted before s) :
    Holds (evaluateAndEmit config answers) (fun _ => True)
      (fun _ t => StaysFaulted before t) s := by
  refine (holds_prepareForEvaluation_faulted hs).bind ?_ fun _ _ ht => ht.2
  rintro _ t ⟨hok, -⟩
  cases hok

/-- So does a revert; without an experiment there is none. -/
theorem holds_rollbackLive_faulted (hs : StaysFaulted before s) :
    Holds (rollbackLiveExperiment config answers reason) (fun _ => True)
      (fun _ t => StaysFaulted before t) s := by
  refine holds_rollbackLiveExperiment ?_ hs
  intro observation id _
  unfold applyRuntimeSideEffects
  rw [holds_bind, holds_ensure, if_pos (by simp [AutotuneDecision.isStart])]
  dsimp only [transitionForDecision]
  refine (holds_transition_faulted (by decide) hs).bind ?_ fun _ _ ht => ht.2
  rintro _ t ⟨hok, -⟩
  cases hok

theorem holds_release_faulted {answers : SideEffectAnswers} (hs : StaysFaulted before s) :
    Holds (releaseRuntimeKeptActions config answers) (fun _ => True)
      (fun _ t => StaysFaulted before t) s := by
  refine holds_releaseRuntimeKeptActions ?_ hs
  intro t ht
  refine ⟨hs.runtime, ?_, hs.executed⟩
  show t.controller.phase = .faulted
  rw [ht.controller]
  exact hs.controller

theorem holds_lifecycle_faulted {rollsBack : Bool} {stabilizationMs : Option Nat}
    (hs : StaysFaulted before s) :
    Holds (handleLifecycleEvent config rollsBack stabilizationMs answers) (fun _ => True)
      (fun _ t => StaysFaulted before t) s := by
  unfold handleLifecycleEvent
  rw [holds_bind, holds_gets]
  dsimp only
  split
  · refine (holds_prepareForEvaluation_faulted hs).bind ?_ fun _ _ ht => ht.2
    rintro _ t ⟨hok, -⟩
    cases hok
  · cases stabilizationMs with
    | none => exact holds_pure.mpr hs
    | some ms => exact holds_assign.mpr ⟨hs.runtime, hs.controller, hs.executed⟩

/-- **Behind the latch** a call executes nothing and leaves the fault in place. -/
theorem holds_call_faulted {call : RuntimeCall} (hs : StaysFaulted before s) :
    Holds (call.perform config) (fun _ => True) (fun _ t => StaysFaulted before t) s :=
  holds_call (fun _ _ ht => holds_evaluate_faulted ht)
    (fun _ _ _ ht => holds_rollbackLive_faulted ht)
    (fun _ _ ht => holds_release_faulted ht) (fun _ _ _ _ ht => holds_lifecycle_faulted ht) hs

end Calls

/-! ## The controller's own latch -/

section Acts
variable {input : LiveExperimentManagerInput} {s : ManagerState}

/-- The acts that neither keep, revert nor resync: the controller's decisions when it is
faulted, and what the runtime does besides. -/
def ManagerAct.faultSafe : ManagerAct → Bool
  | .keep _ | .revert _ | .resync => false
  | _ => true

/-- A cooldown's or a fault's side effects leave a faulted controller faulted, even where
they fail. -/
theorem EffectEnds.stays_faulted {observation : AutotuneObservation} {t : ManagerState}
    {answer : Except AnyError LiveExperimentOutcome} {decision : AutotuneDecision}
    (h : EffectEnds input observation s decision answer t)
    (hdecision : (∃ duration reason, decision = .enterCooldown duration reason) ∨
      ∃ reason, decision = .fault reason)
    (hs : s.controller.phase = .faulted) : t.controller.phase = .faulted := by
  cases h with
  | nothing _ ht => rw [ht.controller, hs]
  | refused _ e ht => rw [ht.controller, hs]
  | cooldown duration reason ht => rw [ht.controller, enterCooldown, if_pos hs]
  | faultFailed reason e h =>
    cases h with
    | held experiment _ hcurrent ht => rw [ht.controller, hs]
    | forgotten experiment _ hcurrent ht => rw [ht.controller, hs]
  | faulted reason rolledBack outcome h hevent ht =>
    rw [ht.controller]
    rfl
  | _ => rcases hdecision with ⟨_, _, hd⟩ | ⟨_, hd⟩ <;> cases hd

theorem holds_act_faulted {step : ActContext × ManagerAct} (hsafe : step.2.faultSafe = true)
    (hs : s.controller.phase = .faulted) :
    Holds (ManagerAct.perform input step) (fun _ => True)
      (fun _ t => t.controller.phase = .faulted) s := by
  obtain ⟨ctx, act⟩ := step
  rw [ManagerAct.holds_perform]
  cases act with
  | evaluate candidate =>
    rw [ManagerAct.body, holds_bind, holds_gets]
    refine holds_dropped (holds_applyDecision_ends.mono (fun _ h => h) ?_)
    exact fun _ _ ht => ht.stays_faulted (decide_faulted hs) hs
  | fault reason =>
    refine holds_dropped (holds_applyDecision_ends.mono (fun _ h => h) ?_)
    exact fun _ _ ht => ht.stays_faulted (.inr ⟨_, rfl⟩) hs
  | release =>
    refine holds_dropped (holds_releaseKeptActions_frame.mono (fun _ h => h) ?_)
    intro _ t ht
    rw [ht.controller]
    exact hs
  | markFaulted => exact holds_assign.mpr rfl
  | abandonKept => exact holds_assign.mpr hs
  | stabilize settled => exact holds_assign.mpr hs
  | keep reason => cases hsafe
  | revert reason => cases hsafe
  | resync => cases hsafe

/-- A faulted controller starts nothing. -/
theorem decision_not_start_of_faulted {ctx : ActContext} {candidate : Option CandidateAction}
    (hs : s.controller.phase = .faulted) : (ctx.decision input candidate s).isStart = false := by
  unfold ActContext.decision
  rcases decide_faulted hs with ⟨duration, reason, hd⟩ | ⟨reason, hd⟩
  · rw [hd]
    rfl
  · rw [hd]
    rfl

end Acts

/-! ## Whole runs -/

theorem latch_starting (config : AutotuneRuntimeConfig) (w : World)
    (observation : AutotuneObservation) (file : StoreFile CandidateMemory) :
    Latch (.starting config w observation file) :=
  ⟨fun h => (nomatch h), sameExperiment_none _, fun _ h => (nomatch h)⟩

/-- **The fault latch.**  In every state that a run of the runtime reaches, the manager
and the controller hold at most one experiment between them, and no `StartExperiment` was
decided while one was live.  From a state with a faulted controller, no further run
executes a side effect or takes the controller out of its fault.  And a faulted
controller holds by itself: over its own decisions, and whatever else happens short of a
keep, a revert or a resync, which a faulted runtime denies, it stays faulted and starts
nothing. -/
theorem runtimeRun_latches_fault (config : AutotuneRuntimeConfig) (w : World)
    (observation : AutotuneObservation) (file : StoreFile CandidateMemory) (s : RuntimeState)
    (hrun : Reached (RuntimeCall.perform config) (fun _ _ => True)
      (.starting config w observation file) s) :
    SameExperiment s.manager.current s.manager.controller ∧
    (∀ made ∈ s.decided, made.decision.isStart = true → made.live = false) ∧
    (s.manager.controller.phase = .faulted →
      ∀ t, Reached (RuntimeCall.perform config) (fun _ _ => True) s t →
        t.manager.controller.phase = .faulted ∧ t.phase = .faulted ∧ t.executed = s.executed) ∧
    (s.manager.controller.phase = .faulted →
      ∀ m, Reached (ManagerAct.perform config.input) (fun step _ => step.2.faultSafe = true)
        s.manager m →
        m.controller.phase = .faulted ∧
          ∀ ctx candidate, (ActContext.decision config.input ctx candidate m).isStart = false) := by
  have hlatch : Latch s :=
    hrun.invariant (latch_starting config w observation file) fun _ _ _ ht => holds_call_latch ht
  refine ⟨hlatch.single, hlatch.idleStarts, ?_, ?_⟩
  · intro hfaulted t ht
    have hstays : StaysFaulted s t :=
      ht.invariant ⟨hlatch.faulted hfaulted, hfaulted, rfl⟩ fun _ _ _ hu => holds_call_faulted hu
    exact ⟨hstays.controller, hstays.runtime, hstays.executed⟩
  · intro hfaulted m hm
    have hstill : m.controller.phase = .faulted :=
      hm.invariant (P := fun m => m.controller.phase = .faulted) hfaulted
        fun _ _ hsafe hu => holds_act_faulted hsafe hu
    exact ⟨hstill, fun _ _ => decision_not_start_of_faulted hstill⟩

/-- The sample session after a start whose first record could not be written. -/
def sampleFaulted : RuntimeState :=
  (((sampleInterval 1 [.failedBefore]).perform sampleConfig).run sampleRuntime).state

/-- The failed start has faulted the sample session, for good. -/
theorem runtimeRun_latches_fault_failed_start :
    sampleFaulted.manager.controller.phase = .faulted ∧ sampleFaulted.decided.length = 1 ∧
      ∀ t, Reached (RuntimeCall.perform sampleConfig) (fun _ _ => True) sampleFaulted t →
        t.manager.controller.phase = .faulted ∧ t.phase = .faulted ∧
          t.executed = sampleFaulted.executed := by
  have hfaulted : sampleFaulted.manager.controller.phase = .faulted := by decide +kernel
  exact ⟨hfaulted, by decide +kernel, (runtimeRun_latches_fault sampleConfig .fresh
    (sampleObservation 0 0) .missing sampleFaulted (.step _ .start trivial)).2.2.1 hfaulted⟩

end Stutter

import StutterProof.ManagerEffects

/-! # Who holds the experiment

The current experiment is held twice, by the manager (with its rollback token) and by
the controller.  Keeping and rolling back take it out of the manager's hands first and
then go through steps that can fail, so that each failure has to put it back.

`ManagerState.Agrees` says that the two copies stand for the same experiment.  Three
paths break it: a keep whose measurement window is empty returns before the experiment
is put back; a rollback that the executor completed but whose `Reverted` record could
not be written leaves the controller's copy; and a rollback that does not verify leaves
the manager's.  `Meets` rules these out for one decision, and
`managerRun_keeps_custody` is the result for runs whose acts all meet it. -/
namespace Stutter
open Fallible

/-- The manager and the controller hold the same experiment, or none. -/
def ManagerState.Agrees (s : ManagerState) : Prop :=
  match s.current, s.controller.activeExperiment with
  | none, none => True
  | some experiment, some active => active.experimentId = experiment.experimentId
  | _, _ => False

/-- Since `before`, the executor answered that it rolled the experiment back. -/
def RolledBackSince (before : ManagerState) (experiment : LiveExperiment) (after : ManagerState) :
    Prop :=
  (experiment.rollback, true) ∈ after.rollbacks.drop before.rollbacks.length

/-- An operation that took the experiment: it failed with the effect still on the host,
and both copies are there; or the effect was rolled back, and both are gone. -/
structure Custody (before : ManagerState) (experiment : LiveExperiment)
    (answer : Except AnyError Unit) (after : ManagerState) : Prop where
  held : answer.isOk = false → ¬ RolledBackSince before experiment after →
    after.current = some experiment ∧
      after.controller.activeExperiment = before.controller.activeExperiment
  cleared : RolledBackSince before experiment after →
    after.current = none ∧ after.controller.activeExperiment = none

open Op

section Conditions
variable (input : LiveExperimentManagerInput) (host : ManagerHost) (executor : ActionExecutor)
  (observation : AutotuneObservation)

/-- The world once a rollback's intent is in the journal. -/
def intentWorld (experiment : LiveExperiment) (w : World) : World :=
  if input.storeless then w
  else w.drawn.setJournal
    (journalRecordFor input host observation experiment .reverting "rollback_in_progress")

/-- No failure is scheduled for a journal record, or it is skipped. -/
def Records (w : World) : Prop := input.storeless = true ∨ w.io.head?.getD .done = .done

/-- What the executor left verifies, and the record of it can be written. -/
def SettlesWith (experiment : LiveExperiment) (snapshot : Option ActiveConfigSnapshot) (w : World) :
    Prop :=
  unverified input host observation experiment snapshot = none ∧ Records input w

/-- If the executor is called, which it is once the intent is recorded, and answers that it rolled
the experiment back, this settles. -/
def RollbackSettles (experiment : LiveExperiment) (w : World) : Prop :=
  Records input w →
    if input.simulateActionEffects then
      SettlesWith input host observation experiment none
        (intentWorld input host observation experiment w)
    else
      Holds (executor.rollbackCandidate experiment) (fun _ => True)
        (fun r v => ∀ snapshot, r = .ok snapshot →
          SettlesWith input host observation experiment snapshot v)
        (intentWorld input host observation experiment w)

/-- The experiment has improved at its keep point. -/
def improvedAtKeep (experiment : LiveExperiment) : Bool :=
  (host.comparisons.explainForObjective experiment.candidate.objective experiment.baselineScore
    observation).experimentResult.isImproved

/-- The condition on one decision: a keep has a measured window, and a rollback that the
executor completes also settles. -/
def Meets (decision : AutotuneDecision) (s : ManagerState) : Prop :=
  ∀ experiment, s.current = some experiment →
    match decision with
    | .keepCurrent .. =>
      validateWindowScoreForApply "candidate" observation.toWindowScore = .ok () ∧
        (improvedAtKeep host observation experiment = false →
          RollbackSettles input host executor observation experiment s.world)
    | .revert .. | .fault .. => RollbackSettles input host executor observation experiment s.world
    | .noop _ | .suggest .. | .startExperiment .. | .enterCooldown .. => True

/-- The condition on one act. -/
def ActMeets (step : ActContext × ManagerAct) (s : ManagerState) : Prop :=
  let ctx := step.1
  let meets := fun decision =>
    Meets input ctx.host ctx.executor ctx.observation decision (s.scheduled ctx.io)
  match step.2 with
  | .evaluate candidate => meets (ctx.decision input candidate s)
  | .keep reason => meets (.keepCurrent "" reason)
  | .revert reason => meets (.revert "" reason)
  | .fault reason => meets (.fault reason)
  | .release | .markFaulted | .resync | .abandonKept | .stabilize _ => True

end Conditions

open ManagerAct ManagerState

section Proofs
variable {input : LiveExperimentManagerInput} {host : ManagerHost} {executor : ActionExecutor}
  {observation : AutotuneObservation} {s : ManagerState} {experiment : LiveExperiment}

/-- Without an experiment every decision meets the condition. -/
theorem meets_of_no_experiment {decision : AutotuneDecision} (h : s.current = none) :
    Meets input host executor observation decision s := by
  intro experiment hsome
  rw [h] at hsome
  cases hsome

/-- How an operation on a held experiment ends: it lets go of both copies, or fails with
both in place and nothing rolled back. -/
def CustodyEnds {α : Type} (before : ManagerState) (experiment : LiveExperiment)
    (answer : Except AnyError α) (after : ManagerState) : Prop :=
  match answer with
  | .ok _ => after.current = none ∧ after.controller.activeExperiment = none
  | .error _ => after.current = some experiment ∧ after.controller = before.controller ∧
      ¬ RolledBackSince before experiment after

variable {before after : ManagerState}

theorem not_rolledBackSince_of_eq (h : after.rollbacks = before.rollbacks) :
    ¬ RolledBackSince before experiment after := by
  unfold RolledBackSince
  rw [h, List.drop_length]
  exact List.not_mem_nil

/-- A failed rollback is noted as one. -/
theorem not_rolledBackSince_of_failed (token : RollbackToken)
    (h : after.rollbacks = before.rollbacks ++ [(token, false)]) :
    ¬ RolledBackSince before experiment after := by
  unfold RolledBackSince
  rw [h, List.drop_left]
  intro hmem
  have hfalse := List.mem_singleton.mp hmem
  cases hfalse

theorem CustodyEnds.custody {α : Type} {answer : Except AnyError α}
    (h : CustodyEnds before experiment answer after) :
    Custody before experiment (answer.map fun _ => ()) after := by
  cases answer with
  | ok _ => exact ⟨nofun, fun _ => h⟩
  | error e =>
    obtain ⟨hcurrent, hcontroller, hnot⟩ := h
    exact ⟨fun _ _ => ⟨hcurrent, by rw [hcontroller]⟩, fun hrolled => absurd hrolled hnot⟩

theorem CustodyEnds.agrees {α : Type} {answer : Except AnyError α}
    (h : CustodyEnds before experiment answer after) (hcurrent : before.current = some experiment)
    (hbefore : before.Agrees) : after.Agrees := by
  unfold Agrees at hbefore ⊢
  cases answer with
  | ok _ => rw [h.1, h.2]; trivial
  | error e =>
    obtain ⟨hafter, hcontroller, -⟩ := h
    rw [hafter, hcontroller]
    rw [hcurrent] at hbefore
    exact hbefore

variable {reason : String}

/-- Once the executor's part is over, the record is written and both copies go. -/
theorem holds_finishRollback_custody {before t : ManagerState}
    (snapshot : Option ActiveConfigSnapshot) (hnone : t.current = none)
    (h : SettlesWith input host observation experiment snapshot t.world) :
    Holds (match unverified input host observation experiment snapshot with
      | some verification => finishUnverified input host observation experiment verification
      | none => finishReverted input host observation experiment reason) (fun _ => True)
      (CustodyEnds before experiment) t := by
  obtain ⟨hverified, hio⟩ := h
  rw [hverified]
  dsimp only [finishReverted]
  rw [holds_bind]
  refine holds_writeJournalPhaseFor_done hio (fun _ => ?_) fun _ => ⟨trivial, ?_⟩
  all_goals
    rw [holds_bind, holds_assign]
    exact holds_pure.mpr ⟨hnone, rfl⟩

/-- The intent was written, or skipped: the executor runs from `intentWorld`. -/
theorem holds_rollbackIntended_custody {before t : ManagerState} (hnone : t.current = none)
    (hc : t.controller = before.controller) (hr : t.rollbacks = before.rollbacks)
    (hw : t.world = intentWorld input host observation experiment s.world)
    (hintent : Records input s.world)
    (hsettles : RollbackSettles input host executor observation experiment s.world) :
    Holds (do
      match ← attempt (rollbackThroughExecutor input executor experiment) with
      | .error e => do
        assign (holdCurrent experiment)
        fail e
      | .ok snapshot =>
        match unverified input host observation experiment snapshot with
        | some verification => finishUnverified input host observation experiment verification
        | none => finishReverted input host observation experiment reason) (fun _ => True)
      (CustodyEnds before experiment) t := by
  have hends := hsettles hintent
  rw [holds_bind, holds_attempt]
  refine holds_rollbackThroughExecutor ?_ ?_
  · intro hsim
    rw [if_pos hsim, ← hw] at hends
    exact holds_finishRollback_custody none hnone hends
  · intro hsim
    rw [if_neg (by simp [hsim]), ← hw] at hends
    refine hends.mono (fun _ h => h) ?_
    rintro (e | snapshot) w hw'
    · dsimp only
      rw [holds_bind, holds_assign]
      refine holds_fail.mpr ⟨rfl, hc, not_rolledBackSince_of_failed experiment.rollback ?_⟩
      show t.rollbacks ++ [(experiment.rollback, false)] = _
      rw [hr]
    · exact holds_finishRollback_custody snapshot hnone (hw' snapshot rfl)

/-- A rollback that settles ends in custody: `before` is the state in which the
experiment was still held. -/
theorem holds_rollbackTaken_custody {before : ManagerState}
    (hcontroller : s.controller = before.controller) (hrollbacks : s.rollbacks = before.rollbacks)
    (hcurrent : s.current = none)
    (hsettles : RollbackSettles input host executor observation experiment s.world) :
    Holds (rollbackTaken input host executor observation experiment reason) (fun _ => True)
      (CustodyEnds before experiment) s := by
  rw [rollbackTaken, holds_bind, holds_attempt]
  by_cases hintent : Records input s.world
  · refine holds_writeJournalPhaseFor_done hintent (fun hstore => ?_) fun hstore => ⟨trivial, ?_⟩
    · exact holds_rollbackIntended_custody hcurrent hcontroller hrollbacks
        (by rw [intentWorld, if_pos hstore]) hintent hsettles
    · exact holds_rollbackIntended_custody hcurrent hcontroller hrollbacks
        (by rw [intentWorld, if_neg hstore]; rfl) hintent hsettles
  · -- the executor is not called, and the experiment is put back
    refine holds_writeJournalPhaseFor_failed hintent fun e w => ⟨trivial, ?_⟩
    dsimp only
    rw [holds_bind, holds_assign]
    exact holds_fail.mpr ⟨rfl, hcontroller, not_rolledBackSince_of_eq hrollbacks⟩

/-- Rolling back a held experiment. -/
theorem holds_rollbackActive_custody (hcurrent : s.current = some experiment)
    (hsettles : RollbackSettles input host executor observation experiment s.world) :
    Holds (rollbackActiveExperiment input host executor observation reason) (fun _ => True)
      (CustodyEnds s experiment) s := by
  rw [rollbackActiveExperiment, holds_bind, holds_gets]
  dsimp only
  rw [hcurrent]
  dsimp only
  rw [holds_bind, holds_assign]
  exact holds_rollbackTaken_custody rfl rfl rfl hsettles

/-- Without an experiment there is nothing to roll back. -/
theorem holds_rollbackActive_none {I : ManagerState → Prop}
    {Q : Except AnyError LiveExperimentOutcome → ManagerState → Prop} (hcurrent : s.current = none)
    (hq : Q (.ok .noop) s) :
    Holds (rollbackActiveExperiment input host executor observation reason) I Q s := by
  rw [rollbackActiveExperiment, holds_bind, holds_gets]
  dsimp only
  rw [hcurrent]
  exact holds_pure.mpr hq

/-- Keeping an experiment that improved: kept, or put back. -/
theorem holds_keepImproved_custody {before : ManagerState}
    (hcontroller : s.controller = before.controller) (hrollbacks : s.rollbacks = before.rollbacks)
    (hcurrent : s.current = none) :
    Holds (keepImproved input host observation experiment reason) (fun _ => True)
      (CustodyEnds before experiment) s := by
  rw [keepImproved, holds_bind, holds_attempt]
  refine holds_commitKeepDurably_any ?_
  rintro (e | _) w
  · dsimp only
    rw [holds_bind, holds_assign]
    exact holds_fail.mpr ⟨rfl, hcontroller, not_rolledBackSince_of_eq hrollbacks⟩
  · dsimp only
    rw [holds_bind, holds_gets]
    dsimp only
    split
    · rw [holds_bind]
      refine holds_retireKeptDurably ?_ ?_
      all_goals
        intro v _
        refine ⟨trivial, ?_⟩
        rw [holds_bind, holds_assign]
        exact holds_fail.mpr ⟨rfl, hcontroller, not_rolledBackSince_of_eq hrollbacks⟩
    · rw [holds_bind, holds_assign]
      exact holds_pure.mpr ⟨hcurrent, rfl⟩

/-- Keeping a held experiment whose window was measured. -/
theorem holds_keepCurrent_custody (hcurrent : s.current = some experiment)
    (hwindow : validateWindowScoreForApply "candidate" observation.toWindowScore = .ok ())
    (hsettles : improvedAtKeep host observation experiment = false →
      RollbackSettles input host executor observation experiment s.world) :
    Holds (keepCurrentExperiment input host executor observation reason) (fun _ => True)
      (CustodyEnds s experiment) s := by
  rw [keepCurrentExperiment, holds_bind, holds_gets]
  dsimp only
  rw [hcurrent]
  dsimp only
  rw [holds_bind, holds_assign]
  dsimp only
  rw [holds_bind, holds_ofExcept, hwindow]
  dsimp only
  by_cases himproved : improvedAtKeep host observation experiment = true
  · have hthen := himproved
    unfold improvedAtKeep at hthen
    rw [if_pos hthen]
    exact holds_keepImproved_custody rfl rfl rfl
  · have helse := himproved
    unfold improvedAtKeep at helse
    rw [if_neg helse, holds_bind, holds_assign]
    exact holds_rollbackActive_custody rfl (hsettles (by simpa using himproved))

theorem holds_keepCurrent_none {I : ManagerState → Prop}
    {Q : Except AnyError LiveExperimentOutcome → ManagerState → Prop} (hcurrent : s.current = none)
    (hq : Q (.ok .noop) s) :
    Holds (keepCurrentExperiment input host executor observation reason) I Q s := by
  rw [keepCurrentExperiment, holds_bind, holds_gets]
  dsimp only
  rw [hcurrent]
  exact holds_pure.mpr hq

/-- A start sets both copies, or neither. -/
theorem holds_start_agrees {candidate : CandidateAction} (hs : s.Agrees) :
    Holds (startCandidateExperiment input host executor observation candidate) (fun _ => True)
      (fun _ t => t.Agrees) s := by
  refine (@holds_start_ends input host executor observation s candidate "").mono (fun _ h => h) ?_
  intro answer t ht
  unfold Agrees at hs ⊢
  cases ht with
  | nothing _ ht =>
    rw [ht.current, ht.controller]
    exact hs
  | refused _ e ht =>
    rw [ht.current, ht.controller]
    exact hs
  | applyFailed _ _ e ht =>
    rw [ht.current, ht.controller]
    unfold applyFailed
    cases e.outstanding with
    | none => exact hs
    | some token => exact rfl
  | started _ _ token _ hevent ht =>
    rw [ht.current, ht.controller]
    exact rfl

/-- The side effects of a decision that meets the condition. -/
theorem holds_applyDecision_agrees {decision : AutotuneDecision} (hs : s.Agrees)
    (hmeets : Meets input host executor observation decision s) :
    Holds (applyDecisionSideEffects input host executor observation decision reason)
      (fun _ => True) (fun _ t => t.Agrees) s := by
  cases hcurrent : s.current with
  | none =>
    have hidle : s.controller.activeExperiment = none := by
      unfold Agrees at hs
      rw [hcurrent] at hs
      cases hactive : s.controller.activeExperiment with
      | none => rfl
      | some active => rw [hactive] at hs; cases hs
    cases decision with
    | startExperiment candidate _ => exact holds_start_agrees hs
    | keepCurrent _ _ => exact holds_keepCurrent_none hcurrent hs
    | revert _ _ => exact holds_rollbackActive_none hcurrent hs
    | enterCooldown duration _ =>
      rw [applyDecisionSideEffects, holds_bind, holds_assign]
      exact holds_pure.mpr hs
    | fault _ =>
      rw [applyDecisionSideEffects, holds_bind]
      refine holds_rollbackActive_none hcurrent ?_
      dsimp only
      rw [holds_bind, holds_assign]
      refine holds_pure.mpr ?_
      show (match s.current, (none : Option ActiveExperiment) with
        | none, none => True
        | some experiment, some active => active.experimentId = experiment.experimentId
        | _, _ => False)
      rw [hcurrent]
      trivial
    | noop _ => exact holds_pure.mpr hs
    | suggest _ _ => exact holds_pure.mpr hs
  | some experiment =>
    have hmet := hmeets experiment hcurrent
    cases decision with
    | startExperiment candidate _ => exact holds_start_agrees hs
    | keepCurrent _ _ =>
      exact (holds_keepCurrent_custody hcurrent hmet.1 hmet.2).mono (fun _ h => h)
        fun _ _ ht => ht.agrees hcurrent hs
    | revert _ _ =>
      exact (holds_rollbackActive_custody hcurrent hmet).mono (fun _ h => h)
        fun _ _ ht => ht.agrees hcurrent hs
    | enterCooldown duration _ =>
      rw [applyDecisionSideEffects, holds_bind, holds_assign]
      exact holds_pure.mpr hs
    | fault _ =>
      refine (holds_rollbackActive_custody hcurrent hmet).bind ?_ ?_
      · intro outcome t ht
        rw [holds_bind, holds_assign]
        refine holds_pure.mpr ?_
        show (match t.current, (none : Option ActiveExperiment) with
          | none, none => True
          | some experiment, some active => active.experimentId = experiment.experimentId
          | _, _ => False)
        rw [ht.1]
        trivial
      · exact fun e t ht => CustodyEnds.agrees ht hcurrent hs
    | noop _ => exact holds_pure.mpr hs
    | suggest _ _ => exact holds_pure.mpr hs

/-- One act keeps the two copies together. -/
theorem holds_act_agrees {step : ActContext × ManagerAct} (hs : s.Agrees)
    (hmeets : ActMeets input step s) :
    Holds (perform input step) (fun _ => True) (fun _ t => t.Agrees) s := by
  obtain ⟨ctx, act⟩ := step
  have hs' : (s.scheduled ctx.io).Agrees := hs
  rw [holds_perform]
  cases act with
  | evaluate candidate =>
    rw [body, holds_bind, holds_gets]
    exact holds_dropped (holds_applyDecision_agrees hs' hmeets)
  | keep reason => exact holds_dropped (holds_applyDecision_agrees hs' hmeets)
  | revert reason => exact holds_dropped (holds_applyDecision_agrees hs' hmeets)
  | fault reason => exact holds_dropped (holds_applyDecision_agrees hs' hmeets)
  | release =>
    refine holds_dropped ?_
    refine holds_releaseKeptActions_frame.mono (fun _ h => h) ?_
    intro _ t ht
    unfold Agrees at hs' ⊢
    rw [ht.current, ht.controller]
    exact hs'
  | markFaulted => exact holds_assign.mpr hs'
  | resync => exact holds_assign.mpr trivial
  | abandonKept => exact holds_assign.mpr hs'
  | stabilize settled => exact holds_assign.mpr hs'

/-- Keeping or rolling back under the condition is an operation in custody. -/
theorem holds_act_custody {ctx : ActContext} {act : ManagerAct}
    (hact : (∃ reason, act = .keep reason) ∨ ∃ reason, act = .revert reason)
    (hmeets : ActMeets input (ctx, act) s) (hcurrent : s.current = some experiment) :
    Holds (perform input (ctx, act)) (fun _ => True) (Custody s experiment) s := by
  -- the answer of the operation is dropped, its success is not
  have hdrop : ∀ {m : ManagerOp LiveExperimentOutcome},
      Holds m (fun _ => True) (CustodyEnds (s.scheduled ctx.io) experiment)
        (s.scheduled ctx.io) →
      Holds (do let _ ← m; return () : ManagerOp Unit) (fun _ => True) (Custody s experiment)
        (s.scheduled ctx.io) := by
    intro m h
    refine h.bind ?_ ?_
    · intro outcome t ht
      exact holds_pure.mpr ⟨ht.custody.held, ht.custody.cleared⟩
    · intro e t ht
      exact ⟨ht.custody.held, ht.custody.cleared⟩
  have hmet := hmeets
  rw [holds_perform]
  rcases hact with ⟨reason, rfl⟩ | ⟨reason, rfl⟩
  · obtain ⟨hwindow, hsettles⟩ := hmet experiment hcurrent
    exact hdrop (holds_keepCurrent_custody hcurrent hwindow hsettles)
  · exact hdrop (holds_rollbackActive_custody hcurrent (hmet experiment hcurrent))

end Proofs

/-- **Custody over whole runs.**  In every state that a run reaches whose acts meet the
condition, the manager holds an experiment exactly when the controller does; and a keep
or a rollback that meets it either fails with the experiment still in both hands, or,
once the effect was rolled back, leaves it in neither. -/
theorem managerRun_keeps_custody (input : LiveExperimentManagerInput) (w : World)
    (memory : CandidateMemory) (s : ManagerState)
    (hrun : Reached (perform input) (ActMeets input)
      (starting w memory) s) :
    s.Agrees ∧ (s.current.isSome ↔ s.controller.activeExperiment.isSome) ∧
      ∀ ctx act experiment, ((∃ reason, act = .keep reason) ∨ ∃ reason, act = .revert reason) →
        ActMeets input (ctx, act) s → s.current = some experiment →
        Custody s experiment ((perform input (ctx, act)).run s).result
          ((perform input (ctx, act)).run s).state := by
  have hagrees : s.Agrees :=
    hrun.invariant (P := Agrees) trivial fun _ _ hmeets ht =>
      holds_act_agrees ht hmeets
  refine ⟨hagrees, ?_, ?_⟩
  · unfold Agrees at hagrees
    revert hagrees
    cases s.current <;> cases s.controller.activeExperiment <;> simp
  · intro ctx act experiment hact hmeets hcurrent
    exact (holds_act_custody hact hmeets hcurrent).2

/-- The sample session's start is such a run. -/
theorem managerRun_keeps_custody_started :
    sampleStarted.current.isSome ∧
      (sampleStarted.current.isSome ↔ sampleStarted.controller.activeExperiment.isSome) := by
  have hmeets : ActMeets sampleInput
      (sampleContext 1 1, ManagerAct.evaluate (some sampleCandidate))
        (.starting .fresh .empty) := by
    unfold ActMeets
    exact meets_of_no_experiment rfl
  exact ⟨by decide, (managerRun_keeps_custody sampleInput .fresh .empty sampleStarted
    (.step _ .start hmeets)).2.1⟩

/-- The experiment of the sample session. -/
def sampleExperiment : LiveExperiment :=
  experimentFor sampleInput (sampleObservation 1 1) sampleCandidate sampleToken (1, 1)

/-- A keep with an empty window, in the sample session. -/
def sampleEmptyKeep : ActContext × ManagerAct := (sampleContext 2 0, .keep "improved")

/-- **A keep with an empty measurement window forgets the experiment.**  The session has
started an experiment; a keep over no intervals fails, nothing is rolled back, and the
manager has let go of the experiment that the controller still holds. -/
theorem keepCurrent_forgets_experiment :
    sampleStarted.current = some sampleExperiment ∧
      ((perform sampleInput sampleEmptyKeep).run sampleStarted).state.world.writes =
        [.affinity "/run/stutter/restore.json" 42] ∧
      ¬ Custody sampleStarted sampleExperiment
        ((perform sampleInput sampleEmptyKeep).run sampleStarted).result
        ((perform sampleInput sampleEmptyKeep).run sampleStarted).state ∧
      ¬ ∀ s, Reached (perform sampleInput) (fun _ _ => True)
        (.starting .fresh .empty) s →
        (s.current.isSome ↔ s.controller.activeExperiment.isSome) := by
  have hcurrent :
      ((perform sampleInput sampleEmptyKeep).run sampleStarted).state.current =
        none := by
    decide
  refine ⟨by decide +kernel, by decide, ?_, ?_⟩
  · intro hcustody
    have hheld := hcustody.held (by decide) (by unfold RolledBackSince; decide)
    rw [hcurrent] at hheld
    cases hheld.1
  · intro hall
    have hreached : Reached (perform sampleInput) (fun _ _ => True)
        (.starting .fresh .empty)
        ((perform sampleInput sampleEmptyKeep).run sampleStarted).state :=
      .step _ (.step (sampleContext 1 1, ManagerAct.evaluate (some sampleCandidate)) .start trivial)
        trivial
    have hactive : ((perform sampleInput
        sampleEmptyKeep).run sampleStarted).state.controller.activeExperiment.isSome := by decide
    have hsome := (hall _ hreached).mpr hactive
    rw [hcurrent] at hsome
    cases hsome

end Stutter

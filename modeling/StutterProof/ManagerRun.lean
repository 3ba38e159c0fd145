import StutterProof.FallibleRun
import StutterProof.LiveExperiment

/-! # Runs of the live-experiment manager

`ManagerAct` lists what can happen to a manager in one process: an evaluation, whose
decision is the controller's own; a keep, a revert or a fault that something else asked
for; a release of the kept actions; the runtime marking the controller faulted; and the
changes that accept an external mutation or a suspend.  Each act comes with the answers
of the outside and with its own schedule of I/O outcomes, so that a run can fail
anywhere.

The rules of this module say what each operation of the manager can do.  The results
about runs are derived from them. -/
namespace Stutter
open Fallible

/-! ## Acts -/

/-- The answers of the outside to one act. -/
structure ActContext where
  io : List IoOutcome
  host : ManagerHost
  executor : ActionExecutor
  observation : AutotuneObservation

/-- The manager's acts. -/
inductive ManagerAct where
  /-- An evaluation, with the candidate the planner selected. -/
  | evaluate (candidate : Option CandidateAction)
  | keep (reason : String)
  | revert (reason : String)
  | fault (reason : String)
  | release
  /-- The runtime faults: a side effect failed or a phase change was denied. -/
  | markFaulted
  /-- An external mutation is accepted and the experiment abandoned. -/
  | resync
  /-- An external mutation is accepted and the kept actions abandoned. -/
  | abandonKept
  /-- A resume from suspend: measurements settle until the given time. -/
  | stabilize (settled : Nat)

/-- `decision_reason`. -/
def AutotuneDecision.reason : AutotuneDecision → String
  | noop reason | suggest _ reason | startExperiment _ reason | keepCurrent _ reason
  | revert _ reason | enterCooldown _ reason | fault reason => reason

/-- The state with the I/O outcomes of the next act. -/
def ManagerState.scheduled (s : ManagerState) (io : List IoOutcome) : ManagerState :=
  s.over { s.world with io := io }

variable (s : ManagerState)

@[simp] theorem ManagerState.scheduled_current (io) : (s.scheduled io).current = s.current := rfl
@[simp] theorem ManagerState.scheduled_controller (io) :
    (s.scheduled io).controller = s.controller := rfl
@[simp] theorem ManagerState.scheduled_keptActions (io) :
    (s.scheduled io).keptActions = s.keptActions := rfl
@[simp] theorem ManagerState.scheduled_rollbacks (io) :
    (s.scheduled io).rollbacks = s.rollbacks := rfl

open Op

section Acts
variable (input : LiveExperimentManagerInput)

/-- The decision of an evaluation in a state. -/
def ActContext.decision (ctx : ActContext) (candidate : Option CandidateAction) (s : ManagerState) :
    AutotuneDecision :=
  decideAutotuneTransition ctx.host.comparisons input.controllerPolicy s.controller ctx.observation
    candidate

/-- The side effects of a decision, under an act's answers. -/
def ActContext.apply (ctx : ActContext) (decision : AutotuneDecision) (reason : String) :
    ManagerOp Unit := do
  let _ ← applyDecisionSideEffects input ctx.host ctx.executor ctx.observation decision reason
  return ()

/-- What an act does once its schedule is set. -/
def ManagerAct.body (ctx : ActContext) : ManagerAct → ManagerOp Unit
  | .evaluate candidate => do
    let decision ← gets (ctx.decision input candidate)
    ctx.apply input decision decision.reason
  | .keep reason => ctx.apply input (.keepCurrent "" reason) reason
  | .revert reason => ctx.apply input (.revert "" reason) reason
  | .fault reason => ctx.apply input (.fault reason) reason
  | .release => do
    let _ ← releaseKeptActions input ctx.executor
    return ()
  | .markFaulted =>
    assign fun s => { s with controller := { s.controller with phase := .faulted } }
  | .resync => assign fun s => { s with
      current := none
      controller := { s.controller with activeExperiment := none, phase := .observing } }
  | .abandonKept => assign fun s => { s with keptActions := .empty }
  | .stabilize settled => assign fun s => { s with
      controller := { s.controller with
        cooldownUntilUnixNanos :=
          some ((s.controller.cooldownUntilUnixNanos.map (max · settled)).getD
          settled) } }

/-- One act of a run. -/
def ManagerAct.perform (step : ActContext × ManagerAct) : ManagerOp Unit := do
  assign (·.scheduled step.1.io)
  step.2.body input step.1

theorem ManagerAct.holds_perform {step : ActContext × ManagerAct} {I : ManagerState → Prop}
    {Q : Except AnyError Unit → ManagerState → Prop} {s : ManagerState} :
    Holds (ManagerAct.perform input step) I Q s ↔
      Holds (step.2.body input step.1) I Q (s.scheduled step.1.io) := by
  rw [ManagerAct.perform, holds_bind, holds_assign]

end Acts

/-! ## Rules of the manager's operations -/

section Rules
variable {input : LiveExperimentManagerInput} {host : ManagerHost} {executor : ActionExecutor}
  {observation : AutotuneObservation} {I : ManagerState → Prop} {s : ManagerState}

/-- An answer that is dropped: only the state it leaves counts. -/
theorem holds_dropped {α : Type} {m : ManagerOp α} {P : ManagerState → Prop}
    (h : Holds m I (fun _ t => P t) s) :
    Holds (do let _ ← m; return () : ManagerOp Unit) I (fun _ t => P t) s := by
  refine h.bind ?_ fun _ _ ht => ht
  intro _ t ht
  exact holds_pure.mpr ht

variable {experiment : LiveExperiment}
variable {Q : Except AnyError Unit → ManagerState → Prop} {state : ControllerJournalState}
variable {text : String}

/-- A phase record is written, not written and reported so, or skipped by a session
that touches no store. -/
theorem holds_writeJournalPhaseFor (hskip : input.storeless = true → Q (.ok ()) s)
    (hkept : input.storeless = false →
      I (s.over s.world.drawn) ∧ ∀ e, Q (.error e) (s.over s.world.drawn))
    (hdone : input.storeless = false → I (s.over (s.world.drawn.setJournal
        (journalRecordFor input host observation experiment state text))) ∧
      ∀ a, Q a (s.over (s.world.drawn.setJournal
        (journalRecordFor input host observation experiment state text)))) :
    Holds (writeJournalPhaseFor input host observation experiment state text) I Q s := by
  unfold writeJournalPhaseFor
  cases hstore : input.storeless with
  | true =>
    rw [if_pos rfl, holds_ret]
    exact hskip hstore
  | false =>
    rw [if_neg (by simp), holds_onStore]
    exact holds_writeControllerJournalRecord (hkept hstore) (hdone hstore)

/-- The same, when no failure is scheduled for the write. -/
theorem holds_writeJournalPhaseFor_done
    (hio : input.storeless = true ∨ s.world.io.head?.getD .done = .done)
    (hskip : input.storeless = true → Q (.ok ()) s)
    (hdone : ¬input.storeless = true → I (s.over (s.world.drawn.setJournal
        (journalRecordFor input host observation experiment state text))) ∧
      Q (.ok ()) (s.over (s.world.drawn.setJournal
        (journalRecordFor input host observation experiment state text)))) :
    Holds (writeJournalPhaseFor input host observation experiment state text) I Q s := by
  unfold writeJournalPhaseFor
  by_cases hstore : input.storeless = true
  · rw [if_pos hstore, holds_ret]
    exact hskip hstore
  · rw [if_neg hstore, holds_onStore]
    exact holds_durable_done (hio.resolve_left hstore) (hdone hstore)

/-- And when one is. -/
theorem holds_writeJournalPhaseFor_failed
    (hio : ¬(input.storeless = true ∨ s.world.io.head?.getD .done = .done))
    (h : ∀ e w, I (s.over w) ∧ Q (.error e) (s.over w)) :
    Holds (writeJournalPhaseFor input host observation experiment state text) I Q s := by
  rw [not_or] at hio
  rw [writeJournalPhaseFor, if_neg hio.1, holds_onStore]
  exact holds_durable_failed hio.2 h

/-- The executor runs on the world, and its answer is noted. -/
theorem holds_rollbackThroughExecutor
    {Q : Except AnyError (Option ActiveConfigSnapshot) → ManagerState → Prop}
    (hsimulated : input.simulateActionEffects = true → Q (.ok none) s)
    (hran : input.simulateActionEffects = false →
      Holds (executor.rollbackCandidate experiment) (fun w => I (s.over w))
        (fun r w => Q r { s.over w with
          rollbacks := s.rollbacks ++ [(experiment.rollback, r.isOk)] }) s.world) :
    Holds (rollbackThroughExecutor input executor experiment) I Q s := by
  unfold rollbackThroughExecutor
  by_cases hsim : input.simulateActionEffects = true
  · rw [if_pos hsim, holds_ret]
    exact hsimulated hsim
  · rw [if_neg hsim, holds_bind, holds_attempt, holds_onStore]
    refine (hran (by simpa using hsim)).mono (fun _ h => h) ?_
    intro r w hw
    dsimp only
    rw [holds_bind, holds_assign]
    dsimp only
    rw [holds_ofExcept]
    exact hw

/-- Retiring is best effort: the experiment's entries go, or nothing changes. -/
theorem holds_retireKeptDurably {experimentId : ExperimentId}
    (hkept : ∀ v, s.world.LedgerBecomes v s.world.ledgerEntries →
      I (s.over v) ∧ Q (.ok ()) (s.over v))
    (hdone : ∀ v, s.world.LedgerBecomes v
      (s.world.ledgerEntries.filter fun e => e.experimentId ≠ experimentId) →
      I (s.over v) ∧ Q (.ok ()) (s.over v)) : Holds (retireKeptDurably experimentId) I Q s := by
  unfold retireKeptDurably
  rw [holds_bind, holds_attempt, holds_onStore]
  refine holds_retireKept ?_ ?_
  · intro v hv
    exact ⟨(hkept v hv).1, fun _ => holds_pure.mpr (hkept v hv).2⟩
  · intro v hv
    exact ⟨(hdone v hv).1, fun _ => holds_pure.mpr (hdone v hv).2⟩

/-- Recording a kept action in the ledger. -/
theorem holds_recordKeptDurably (hskip : input.storeless = true → Q (.ok ()) s)
    (hkept : ∀ v, s.world.LedgerBecomes v s.world.ledgerEntries →
      I (s.over v) ∧ ∀ e, Q (.error e) (s.over v))
    (hdone : ∀ v, s.world.LedgerBecomes v
      (s.world.ledgerEntries.filter (fun e => e.experimentId ≠ experiment.experimentId) ++
        [ledgerEntryFor observation experiment]) →
      I (s.over v) ∧ ∀ r, Q r (s.over v)) :
    Holds (recordKeptDurably input observation experiment) I Q s := by
  unfold recordKeptDurably
  by_cases hstore : input.storeless = true
  · rw [if_pos hstore, holds_ret]
    exact hskip hstore
  · rw [if_neg hstore, holds_onStore]
    exact holds_recordKept hkept hdone

end Rules

/-! ## A sample session

A low-risk session with a CPU-affinity profile, for runs on concrete inputs. -/

def sampleToken : RollbackToken := .cpuAffinityRestoreFile "/run/stutter/restore.json" 1

def sampleCandidate : CandidateAction :=
  ⟨.cpuAffinityProfile, "game-main", "cpu-affinity-profile:game-main", .reversibleLowRisk,
    .cpuAffinityProfile, .stutterScore, some 42, "render 0-3"⟩

/-- A focused game at a time, over a number of measured intervals. -/
def sampleObservation (now intervals : Nat) : AutotuneObservation where
  nowUnixNanos := now
  elapsedMs := 0
  targetPresent := true
  targetRootPid := some 42
  activeTargetCount := 1
  scoredTaskCount := 1
  intervalCount := intervals
  scoredSamples := 1
  scoreTotal := 1
  dataQuality := .high
  primarySituation := .gameFocused
  focusKind := some .game
  focusReasons := []
  activeConfigSnapshot := none
  memoryContext := fun name => ⟨name, name⟩

/-- Every comparison answers that the candidate improved, every gate lets it pass. -/
def sampleHost : ManagerHost where
  comparisons := ⟨fun _ _ _ => ⟨.improved "10.0", "improved"⟩, fun _ _ => .improved "10.0"⟩
  debugResult := fun _ => "Improved"
  autonomousApplyGate := fun _ => none
  verifyRollbackRestoredBaseline := fun _ _ _ => ⟨true, "", "", ""⟩
  processStarttime := fun _ => none

/-- An executor that journals its token, writes one affinity and restores it. -/
def sampleExecutor : ActionExecutor where
  applyCandidate candidate id := do
    writeControllerJournalPhase .applying id candidate.actionId (some sampleToken) {}
    update (World.issue · (.affinity "/run/stutter/restore.json" 42))
    writeControllerJournalPhase .applied id candidate.actionId (some sampleToken) {}
    return sampleToken
  rollbackCandidate experiment := do
    rollbackToken experiment.rollback ⟨fun _ => true, none⟩
    return none

def sampleDaemonPolicy : DaemonPolicy := .applyLowRisk .autotuneRuntime

def sampleInput : LiveExperimentManagerInput :=
  ⟨.applyLowRisk, sampleDaemonPolicy, .fromDaemonPolicy sampleDaemonPolicy "3.0" "3.0", false, 0, 0,
    "stutter daemon emergency-restore", true⟩

/-- An act at a time, over a number of measured intervals, without I/O failures. -/
def sampleContext (now intervals : Nat) : ActContext :=
  ⟨[], sampleHost, sampleExecutor, sampleObservation now intervals⟩

/-- The session after its first start. -/
def sampleStarted : ManagerState :=
  ((ManagerAct.perform sampleInput (sampleContext 1 1, .evaluate (some sampleCandidate))).run
    (.starting .fresh .empty)).state

end Stutter

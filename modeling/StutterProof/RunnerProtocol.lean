import StutterProof.AuditedRunner

/-! # What one audited run can do

`RunTrace` lists the shapes the runner's calls can have, audit lines aside: it
stops at a gate, or the apply is refused, or the apply is kept, or it is undone by
one rollback.  `runAuditedAction_trace` proves that every run of every action,
under every policy, hook and clock, has one of these shapes; the protocol of the
runner is read off them. -/
namespace Stutter
open Fallible

/-- The calls of a run without the audit lines. -/
def protocolSteps (calls : List RunnerCall) : List RunnerCall :=
  calls.filter fun c => match c with
    | .audit _ => false
    | _ => true

@[simp] theorem protocolSteps_append (a b : List RunnerCall) :
    protocolSteps (a ++ b) = protocolSteps a ++ protocolSteps b := by
  simp [protocolSteps]

@[simp] theorem protocolSteps_audit (e : AuditEvent) : protocolSteps [.audit e] = [] := rfl

/-- The tokens rollback was called with, in order. -/
def rollbackTokens (calls : List RunnerCall) : List RollbackToken :=
  calls.filterMap fun c => match c with
    | .rollback token _ => some token
    | _ => none

def RunnerCall.isGate : RunnerCall → Bool
  | .preflight _ | .policy .. | .dryRun _ | .scope _ => true
  | _ => false

def RunnerCall.isApply : RunnerCall → Bool
  | .apply .. => true
  | _ => false

/-- Everything that must have succeeded before an apply, in the order the runner
asks for it. -/
def passedGates : List RunnerCall :=
  [.preflight true, .policy .dryRun true, .dryRun true, .scope true, .policy .apply true]

/-- The calls that settle a failed run: one rollback, and its hook only if the
rollback succeeded. -/
inductive Settles (token : RollbackToken) : List RunnerCall → Prop where
  | rollbackFailed : Settles token [.rollback token false]
  | rolledBack (ok : Bool) : Settles token [.rollback token true, .afterRollback token ok]

/-- The calls between an apply and the end of the run or its rollback. -/
inductive Forward (token : RollbackToken) : List RunnerCall → Prop where
  | hook (ok : Bool) : Forward token [.afterApply token ok]
  | verified (ok : Bool) : Forward token [.afterApply token true, .verify ok]

/-- The shapes of a run: its calls, and whether it succeeded. -/
inductive RunTrace (dryRun : Bool) : List RunnerCall → Bool → Prop where
  | gated {steps : List RunnerCall} {ok : Bool} (hgates : ∀ c ∈ steps, c.isGate)
      (hok : ok → dryRun) : RunTrace dryRun steps ok
  | refused (hdry : dryRun = false) :
      RunTrace dryRun (passedGates ++ [.apply none false]) false
  | kept (token : RollbackToken) (hdry : dryRun = false) :
      RunTrace dryRun
        (passedGates ++ [.apply (some token) true, .afterApply token true, .verify true]) true
  | undone (token : RollbackToken) (applied : Bool) {forward settle : List RunnerCall}
      (hdry : dryRun = false) (hforward : Forward token forward)
      (hsettle : Settles token settle) :
      RunTrace dryRun (passedGates ++ .apply (some token) applied :: forward ++ settle) false

/-! ## Each part of the run -/

open RunnerCall

section Parts
variable {ω : Type} (action : TuningAction ω) (hooks : ActionHooks ω) (policy : ActionRunPolicy)
variable (clock : ActionPhase → Nat) {I : RunnerState ω → Prop} {s : RunnerState ω}

@[simp] theorem holds_invoke {ε α : Type} {log : Except ε α → RunnerCall} {m : Op ω ε α}
    {Q : Except ActionError (Except ε α) → RunnerState ω → Prop} :
    Op.Holds (invoke log m) I Q s ↔
      Op.Holds m (fun w => I { s with world := w })
        (fun r w => Q (.ok r) { s with world := w, calls := s.calls ++ [log r] }) s.world := by
  simp [Op.Holds, invoke]

@[simp] theorem holds_record {call : RunnerCall}
    {Q : Except ActionError Unit → RunnerState ω → Prop} :
    Op.Holds (record call) I Q s ↔ Q (.ok ()) { s with calls := s.calls ++ [call] } := by
  simp [record]

@[simp] theorem holds_setAuditEvent {f : AuditEvent → AuditEvent}
    {Q : Except ActionError Unit → RunnerState ω → Prop} :
    Op.Holds (setAuditEvent f) I Q s ↔ Q (.ok ()) { s with auditEvent := f s.auditEvent } := by
  simp [setAuditEvent]

/-- What a part of the run adds to the calls, whatever the world does. -/
def Adds {α : Type} (m : RunnerOp ω α) (Q : Except ActionError α → List RunnerCall → Prop) : Prop :=
  ∀ s, Op.Holds m (fun _ => True)
    (fun r s' => ∃ added, protocolSteps s'.calls = protocolSteps s.calls ++ added ∧ Q r added) s

namespace Adds
variable {α β ε : Type} {Q : Except ActionError α → List RunnerCall → Prop}

theorem ret {a : α} (h : Q (.ok a) []) : Adds (Op.ret a : RunnerOp ω α) Q := by
  intro s
  exact Op.holds_ret.mpr ⟨[], by simp, h⟩

theorem fail {e : ActionError} (h : Q (.error e) []) : Adds (Op.fail e : RunnerOp ω α) Q := by
  intro s
  exact Op.holds_fail.mpr ⟨[], by simp, h⟩

/-- Sequencing: the calls of the second part come after those of the first. -/
theorem bind {m : RunnerOp ω β} {f : β → RunnerOp ω α}
    {P : Except ActionError β → List RunnerCall → Prop} (hm : Adds m P)
    (hf : ∀ b first, P (.ok b) first → Adds (f b) fun r added => Q r (first ++ added))
    (he : ∀ e first, P (.error e) first → Q (.error e) first) : Adds (m >>= f) Q := by
  intro s
  rw [Op.holds_bind]
  refine (hm s).mono (fun _ h => h) ?_
  rintro (e | b) s' ⟨first, hfirst, hP⟩
  · exact ⟨first, hfirst, he e first hP⟩
  · refine (hf b first hP s').mono (fun _ h => h) ?_
    rintro r s'' ⟨added, hadded, hQ⟩
    exact ⟨first ++ added, by rw [hadded, hfirst, List.append_assoc], hQ⟩

/-- A call on the world adds itself, whatever it answers. -/
theorem invoke_bind {log : Except ε β → RunnerCall} {m : Op ω ε β}
    {f : Except ε β → RunnerOp ω α} (hlog : ∀ r, protocolSteps [log r] = [log r])
    (hf : ∀ r, Adds (f r) fun x added => Q x (log r :: added)) : Adds (invoke log m >>= f) Q := by
  refine bind (P := fun x added => ∃ r, x = .ok r ∧ added = [log r]) ?_ ?_ ?_
  · intro s
    rw [holds_invoke]
    refine Op.holds_of_forall (fun _ => trivial) fun r w => ?_
    exact ⟨[log r], by rw [protocolSteps_append, hlog], r, rfl, rfl⟩
  · rintro b _ ⟨r, hr, rfl⟩
    cases hr
    exact hf b
  · rintro _ _ ⟨_, h, _⟩
    cases h

theorem record_bind {call : RunnerCall} {f : Unit → RunnerOp ω α}
    (hcall : protocolSteps [call] = [call])
    (hf : Adds (f ()) fun x added => Q x (call :: added)) : Adds (record call >>= f) Q := by
  refine bind (P := fun x added => x = .ok () ∧ added = [call]) ?_ ?_ ?_
  · intro s
    exact holds_record.mpr ⟨[call], by rw [protocolSteps_append, hcall], rfl, rfl⟩
  · rintro _ _ ⟨_, rfl⟩
    exact hf
  · rintro _ _ ⟨h, _⟩
    cases h

/-- A step that touches only the audit trail adds nothing. -/
theorem silent_bind {m : RunnerOp ω Unit} {f : Unit → RunnerOp ω α}
    (hm : Adds m fun x added => x = .ok () ∧ added = []) (hf : Adds (f ()) Q) :
    Adds (m >>= f) Q := by
  refine bind hm ?_ ?_
  · rintro _ _ ⟨_, rfl⟩
    exact hf
  · rintro _ _ ⟨h, _⟩
    cases h

theorem setAuditEvent {f : AuditEvent → AuditEvent} :
    Adds (setAuditEvent f : RunnerOp ω Unit) fun x added => x = .ok () ∧ added = [] := by
  intro s
  exact holds_setAuditEvent.mpr ⟨[], by simp, rfl, rfl⟩

theorem appendRunnerAuditEvent {phase : Option ActionPhase} {success : Bool} {tasks : Nat}
    {path category : Option String} {message : String} :
    Adds (appendRunnerAuditEvent phase success tasks path category message : RunnerOp ω Unit)
      fun x added => x = .ok () ∧ added = [] := by
  intro s
  exact Op.holds_assign.mpr ⟨[], by simp, rfl, rfl⟩

end Adds

/-! Each way of undoing an apply is one rollback of the token it is given. -/

/-- An undo answers with the error of the run, and its calls settle the token. -/
def Undoes (token : RollbackToken) (r : Except ActionError ActionError)
    (added : List RunnerCall) : Prop :=
  (∃ e, r = .ok e) ∧ Settles token added

/-- An answer that makes no further call. -/
def Answers (r : Except ActionError ActionError) (added : List RunnerCall) : Prop :=
  (∃ e, r = .ok e) ∧ added = []

variable {e : ActionError}

theorem answers_ret : Adds (Op.ret e : RunnerOp ω ActionError) Answers :=
  Adds.ret ⟨⟨e, rfl⟩, rfl⟩

/-- An answer after its audit line. -/
theorem answers_audited {token : RollbackToken} {success : Bool} {category : Option String}
    {message : String} :
    Adds (do auditRollback token success category message; return e : RunnerOp ω ActionError)
      Answers :=
  Adds.silent_bind .appendRunnerAuditEvent answers_ret

variable (token : RollbackToken)

/-- The pattern all undo paths share: roll back, run the hook only after a
success, then answer. -/
theorem undo_adds {onFailed onHookFailed : AnyError → RunnerOp ω ActionError}
    {onDone : RunnerOp ω ActionError} (hfailed : ∀ e, Adds (onFailed e) Answers)
    (hhook : ∀ e, Adds (onHookFailed e) Answers) (hdone : Adds onDone Answers) :
    Adds (do
      match ← invoke (logged (.rollback token)) (action.rollback token) with
      | .ok _ =>
        match ← invoke (logged (.afterRollback token)) (hooks.afterRollback token) with
        | .ok _ => onDone
        | .error e => onHookFailed e
      | .error e => onFailed e) (Undoes token) := by
  have weaken : ∀ {m : RunnerOp ω ActionError} {first : List RunnerCall}, Adds m Answers →
      Settles token first → Adds m fun r added => Undoes token r (first ++ added) := by
    intro m first hm hfirst s
    refine (hm s).mono (fun _ h => h) ?_
    rintro r s' ⟨added, hadded, hr, rfl⟩
    exact ⟨[], hadded, hr, by simpa using hfirst⟩
  refine Adds.invoke_bind (fun _ => rfl) fun r => ?_
  cases r with
  | error e => exact weaken (hfailed e) .rollbackFailed
  | ok _ =>
    refine Adds.invoke_bind (fun _ => rfl) fun r => ?_
    cases r with
    | error e => exact weaken (hhook e) (.rolledBack false)
    | ok _ => exact weaken hdone (.rolledBack true)

theorem rollbackAfterTimeout_adds (timeout : ActionTimeout) :
    Adds (rollbackAfterTimeout action hooks token (.timeout timeout)) (Undoes token) :=
  undo_adds action hooks token (fun _ => answers_ret) (fun _ => answers_audited) answers_audited

theorem rollbackAfterApplyHookFailure_adds (hookError : String) :
    Adds (rollbackAfterApplyHookFailure action hooks token hookError) (Undoes token) :=
  undo_adds action hooks token (fun _ => answers_ret) (fun _ => answers_audited) answers_audited

theorem rollbackAfterVerifyFailure_adds (verifyError : AnyError) (token : RollbackToken) :
    Adds (rollbackAfterVerifyFailure action hooks verifyError token) (Undoes token) :=
  Adds.silent_bind .setAuditEvent
    (undo_adds action hooks token (fun _ => answers_ret) (fun _ => answers_ret) answers_audited)

/-- After an apply with `token`, the run's remaining calls undo it. -/
def UndoneAfter (token : RollbackToken) (added : List RunnerCall) : Prop :=
  ∃ forward settle, added = forward ++ settle ∧ Forward token forward ∧ Settles token settle

/-- An undo that follows the calls `forward`. -/
theorem Adds.undoneAfter {token : RollbackToken} {forward : List RunnerCall}
    {m : RunnerOp ω ActionError} (hm : Adds m (Undoes token)) (hforward : Forward token forward) :
    Adds m fun r added => (∃ e, r = .ok e) ∧ UndoneAfter token (forward ++ added) := by
  intro s
  refine (hm s).mono (fun _ h => h) ?_
  rintro r s' ⟨settle, hadded, hr, hsettle⟩
  exact ⟨settle, hadded, hr, forward, settle, rfl, hforward, hsettle⟩

/-- A partial apply is journaled through the hook, then undone. -/
theorem rollbackPartialApply_adds (source : AnyError) (token : RollbackToken) :
    Adds (rollbackPartialApply action hooks source token) fun r added =>
      (∃ e, r = .ok e) ∧ UndoneAfter token added := by
  refine Adds.silent_bind .setAuditEvent (Adds.invoke_bind (fun _ => rfl) fun r => ?_)
  cases r with
  | error _ =>
    exact (rollbackAfterApplyHookFailure_adds action hooks token _).undoneAfter (.hook false)
  | ok _ =>
    exact (undo_adds action hooks token (fun _ => answers_audited) (fun _ => answers_ret)
      answers_audited).undoneAfter (.hook true)

/-! ## The whole run -/

/-- Fail with the answer of an undo. -/
theorem Adds.fail_bind {α : Type} {m : RunnerOp ω ActionError}
    {P : List RunnerCall → Prop} {Q : Except ActionError α → List RunnerCall → Prop}
    (hm : Adds m fun r added => (∃ e, r = .ok e) ∧ P added)
    (hQ : ∀ e added, P added → Q (.error e) added) :
    Adds (m >>= fun e => (Op.fail e : RunnerOp ω α)) Q := by
  refine Adds.bind hm ?_ ?_
  · rintro e first ⟨_, hfirst⟩
    exact .fail (by simpa using hQ e first hfirst)
  · rintro _ _ ⟨⟨_, h⟩, _⟩
    cases h

/-- A total timeout is a plain timeout error, the kind `rollbackAfterTimeout` undoes. -/
theorem totalTimeoutError_eq {phase : ActionPhase}
    (h : totalTimeoutError policy clock phase = some e) : ∃ t, e = .timeout t := by
  unfold totalTimeoutError at h
  cases hlimit : policy.maxTotalDuration with
  | none => simp [hlimit] at h
  | some limit =>
    simp only [hlimit, Option.bind_some] at h
    split at h
    · exact ⟨_, (Option.some.inj h).symm⟩
    · cases h

/-- From a successful apply: kept after hook and verify, or undone. -/
theorem verifyApplied_adds :
    Adds (verifyApplied action hooks policy clock token) fun r added =>
      (r.isOk = true ∧ added = [.afterApply token true, .verify true]) ∨
      (r.isOk = false ∧ UndoneAfter token added) := by
  refine Adds.silent_bind .setAuditEvent (Adds.invoke_bind (fun _ => rfl) fun r => ?_)
  cases r with
  | error _ =>
    refine Adds.silent_bind .setAuditEvent (Adds.fail_bind
      ((rollbackAfterApplyHookFailure_adds action hooks token _).undoneAfter (.hook false)) ?_)
    exact fun _ _ h => .inr ⟨rfl, h⟩
  | ok _ =>
    refine Adds.silent_bind .appendRunnerAuditEvent ?_
    split
    · rename_i timeout htimeout
      obtain ⟨t, rfl⟩ := totalTimeoutError_eq policy clock htimeout
      refine Adds.silent_bind .setAuditEvent (Adds.fail_bind
        ((rollbackAfterTimeout_adds action hooks token t).undoneAfter (.hook true)) ?_)
      exact fun _ _ h => .inr ⟨rfl, h⟩
    · refine Adds.silent_bind .setAuditEvent (Adds.invoke_bind (fun _ => rfl) fun r => ?_)
      cases r with
      | error _ =>
        refine Adds.fail_bind ((rollbackAfterVerifyFailure_adds action hooks _ token).undoneAfter
          (.verified false)) ?_
        exact fun _ _ h => .inr ⟨rfl, h⟩
      | ok _ =>
        refine Adds.silent_bind .appendRunnerAuditEvent ?_
        split
        · rename_i timeout htimeout
          obtain ⟨t, rfl⟩ := totalTimeoutError_eq policy clock htimeout
          refine Adds.silent_bind .setAuditEvent (Adds.fail_bind
            ((rollbackAfterTimeout_adds action hooks token t).undoneAfter (.verified true)) ?_)
          exact fun _ _ h => .inr ⟨rfl, h⟩
        · exact Adds.silent_bind .setAuditEvent (.ret (.inl ⟨rfl, rfl⟩))

/-- A gate adds only gate calls; if it succeeds, exactly the passed ones. -/
def Gates {α : Type} (passed : List RunnerCall) (r : Except ActionError α)
    (added : List RunnerCall) : Prop :=
  (r.isOk → added = passed) ∧ ∀ c ∈ added, c.isGate

theorem failOnTimeout_adds (phase : ActionPhase) :
    Adds (failOnTimeout policy clock phase : RunnerOp ω Unit) (Gates []) := by
  unfold failOnTimeout
  split
  · exact .ret ⟨fun _ => rfl, by simp⟩
  · exact .fail ⟨by simp [Except.isOk, Except.toBool], by simp⟩

theorem checkActionWithExplanation_adds (intent : PolicyIntent) :
    Adds (checkActionWithExplanation action policy intent) (Gates [.policy intent true]) := by
  refine Adds.record_bind rfl ?_
  cases policy.check intent action.descriptor with
  | ok _ => exact .ret ⟨fun _ => rfl, by simp [isGate]⟩
  | error _ => exact .fail ⟨by simp [Except.isOk, Except.toBool], by simp [isGate]⟩

theorem runPreflight_adds : Adds (runPreflight action policy clock) (Gates [.preflight true]) := by
  refine Adds.silent_bind .setAuditEvent (Adds.invoke_bind (fun _ => rfl) fun r => ?_)
  cases r with
  | error _ =>
    exact .fail ⟨by simp [Except.isOk, Except.toBool], by simp [logged, isGate]⟩
  | ok _ =>
    refine Adds.silent_bind .appendRunnerAuditEvent fun s => ?_
    refine (failOnTimeout_adds policy clock .preflight s).mono (fun _ h => h) ?_
    rintro r s' ⟨added, hadded, hok, hgate⟩
    exact ⟨added, hadded, fun h => by rw [hok h]; rfl,
      by simpa [logged, isGate] using hgate⟩

theorem runDryRun_adds (message : String) :
    Adds (runDryRun action policy clock message)
      (Gates [.policy .dryRun true, .dryRun true]) := by
  refine Adds.silent_bind .setAuditEvent
    (Adds.bind (checkActionWithExplanation_adds action policy .dryRun) ?_ ?_)
  · rintro _ first ⟨hok, _⟩
    rw [hok rfl]
    refine Adds.invoke_bind (fun _ => rfl) fun r => ?_
    cases r with
    | error _ =>
      exact .fail ⟨by simp [Except.isOk, Except.toBool], by simp [logged, isGate]⟩
    | ok state =>
      refine Adds.silent_bind .appendRunnerAuditEvent
        (Adds.bind (failOnTimeout_adds policy clock .dryRun) ?_ ?_)
      · rintro _ first ⟨hok, _⟩
        rw [hok rfl]
        exact .ret ⟨fun _ => rfl, by simp [logged, isGate]⟩
      · rintro _ first ⟨_, hgate⟩
        exact ⟨by simp [Except.isOk, Except.toBool],
          by simpa [logged, isGate] using hgate⟩
  · rintro _ first ⟨_, hgate⟩
    exact ⟨by simp [Except.isOk, Except.toBool], hgate⟩

theorem checkScope_adds (state : ActionState) :
    Adds (checkScope policy state : RunnerOp ω Unit) (Gates [.scope true]) := by
  refine Adds.record_bind rfl ?_
  cases hlimit : policy.maxAffectedTasks with
  | none => exact .ret ⟨fun _ => rfl, by simp [isGate]⟩
  | some limit =>
    by_cases hover : limit < state.affectedTasks
    · simp only [hover, if_true]
      exact .fail ⟨by simp [Except.isOk, Except.toBool], by simp [isGate]⟩
    · simp only [hover, if_false]
      have hwithin : state.affectedTasks ≤ limit := by omega
      exact .ret ⟨fun _ => by simp [hwithin], by simp [isGate]⟩

/-- A gate that fails ends the run; one that succeeds hands over its passed calls. -/
theorem Adds.gate_bind {α β : Type} {m : RunnerOp ω β} {f : β → RunnerOp ω α}
    {passed first : List RunnerCall} {dryRun : Bool} (hm : Adds m (Gates passed))
    (hfirst : ∀ c ∈ first, c.isGate) (hf : ∀ b, Adds (f b) fun (r : Except ActionError α) added =>
      RunTrace dryRun (first ++ passed ++ added) r.isOk) :
    Adds (m >>= f) fun r added => RunTrace dryRun (first ++ added) r.isOk := by
  refine Adds.bind hm ?_ ?_
  · rintro b _ ⟨hok, _⟩
    rw [hok rfl]
    simpa only [List.append_assoc] using hf b
  · rintro e added ⟨_, hgate⟩
    refine .gated ?_ (by simp [Except.isOk, Except.toBool])
    intro c hc
    rcases List.mem_append.mp hc with h | h
    · exact hfirst c h
    · exact hgate c h

theorem runPhases_adds :
    Adds (runPhases action hooks policy clock) fun r added =>
      RunTrace policy.dryRun added r.isOk := by
  have hnone : ∀ c ∈ ([] : List RunnerCall), c.isGate := by simp
  refine Adds.gate_bind (runPreflight_adds action policy clock) hnone fun _ => ?_
  split
  · rename_i hdry
    refine Adds.gate_bind (runDryRun_adds action policy clock _) (by simp [isGate])
      fun state => ?_
    exact Adds.silent_bind .setAuditEvent
      (.ret (.gated (by simp [isGate]) fun _ => hdry))
  · rename_i hdry
    replace hdry : policy.dryRun = false := by simpa using hdry
    refine Adds.gate_bind (runDryRun_adds action policy clock _) (by simp [isGate])
      fun state => ?_
    refine Adds.gate_bind (checkScope_adds policy state) (by simp [isGate]) fun _ => ?_
    refine Adds.silent_bind .setAuditEvent (Adds.gate_bind
      (checkActionWithExplanation_adds action policy .apply) (by simp [isGate])
      fun _ => ?_)
    refine Adds.invoke_bind (fun r => by cases r <;> rfl) fun r => ?_
    cases r with
    | ok token =>
      intro s
      refine (verifyApplied_adds action hooks policy clock token s).mono (fun _ h => h) ?_
      rintro r s' ⟨added, hadded, ⟨hok, rfl⟩ | ⟨herr, forward, settle, rfl, hforward, hsettle⟩⟩
      · refine ⟨_, hadded, ?_⟩
        show RunTrace policy.dryRun _ r.isOk
        rw [hok]
        exact .kept token hdry
      · refine ⟨_, hadded, ?_⟩
        show RunTrace policy.dryRun _ r.isOk
        rw [herr]
        exact .undone token true hdry hforward hsettle
    | error failure =>
      cases hrollback : failure.rollback with
      | none =>
        simp only [hrollback, applyLog]
        exact .fail (.refused hdry)
      | some token =>
        simp only [hrollback, applyLog]
        refine Adds.fail_bind (rollbackPartialApply_adds action hooks failure.source token) ?_
        rintro e _ ⟨forward, settle, rfl, hforward, hsettle⟩
        exact .undone token false hdry hforward hsettle

/-- The terminal audit line adds no call and keeps the answer. -/
theorem runAuditedAction_adds :
    Adds (runAuditedAction action hooks policy clock) fun r added =>
      RunTrace policy.dryRun added r.isOk := by
  intro s
  rw [runAuditedAction, Op.holds_bind, Op.holds_attempt]
  refine (runPhases_adds action hooks policy clock s).mono (fun _ h => h) ?_
  rintro (e | a) s' ⟨added, hadded, htrace⟩
  · simp only [appendTerminalAudit, Op.holds_bind, holds_setAuditEvent, Op.holds_assign,
      Op.holds_ofExcept]
    exact ⟨added, by simpa using hadded, htrace⟩
  · simp only [appendTerminalAudit, Op.holds_bind, Op.holds_ret, Op.holds_assign,
      Op.holds_ofExcept]
    exact ⟨added, by simpa using hadded, htrace⟩

/-- **Every run has one of the shapes of `RunTrace`.** -/
theorem runAuditedAction_trace (command : String) (world : ω) :
    RunTrace policy.dryRun
      (protocolSteps ((runAuditedAction action hooks policy clock).run
        (.start action policy command world)).state.calls)
      ((runAuditedAction action hooks policy clock).run
        (.start action policy command world)).result.isOk := by
  obtain ⟨-, added, hadded, htrace⟩ :=
    runAuditedAction_adds action hooks policy clock (.start action policy command world)
  rw [hadded]
  exact htrace

end Parts

/-! ## The protocol -/

/-- The contract of one run: `steps` are its calls, `ok` whether it returned `Ok`. -/
structure RunnerProtocol (dryRun : Bool) (steps : List RunnerCall) (ok : Bool) : Prop where
  /-- Apply is called only outside dry-run mode and after exactly the passed gates. -/
  applyGated : ∀ before token applied after,
    steps = before ++ .apply token applied :: after → dryRun = false ∧ before = passedGates
  /-- A failed run whose apply produced a token rolled that token back once. -/
  rollbackOnce : ∀ token applied, .apply (some token) applied ∈ steps → ok = false →
    rollbackTokens steps = [token]
  /-- The after-rollback hook runs only after a successful rollback of its token. -/
  hookAfterRollback : ∀ before token hooked after,
    steps = before ++ .afterRollback token hooked :: after → .rollback token true ∈ before
  /-- A run that returns `Ok` in apply mode never rolled back. -/
  keptUntouched : ok = true → dryRun = false → rollbackTokens steps = []

/-- A list with one element that satisfies `p` splits at it in one way only. -/
theorem append_cons_unique {α : Type} {p : α → Bool} {a b before after : List α} {x y : α}
    (ha : ∀ c ∈ a, p c = false) (hb : ∀ c ∈ b, p c = false) (hx : p x = true)
    (h : before ++ x :: after = a ++ y :: b) : before = a ∧ x = y := by
  induction before generalizing a with
  | nil =>
    cases a with
    | nil => simpa using (List.cons.inj h).1
    | cons c a =>
      have hc := ha c (List.mem_cons_self ..)
      rw [← (List.cons.inj h).1, hx] at hc
      cases hc
  | cons d before ih =>
    cases a with
    | nil =>
      have hmem : x ∈ b := by
        rw [← (List.cons.inj h).2]
        simp
      rw [hb x hmem] at hx
      cases hx
    | cons c a =>
      obtain ⟨rfl, htail⟩ := List.cons.inj h
      obtain ⟨rfl, hxy⟩ := ih (fun c hc => ha c (List.mem_cons_of_mem _ hc)) htail
      exact ⟨rfl, hxy⟩

/-- The run's calls after an apply are hooks, a verify and rollbacks. -/
theorem not_apply_of_undone {token : RollbackToken} {forward settle : List RunnerCall}
    (hforward : Forward token forward) (hsettle : Settles token settle) :
    ∀ c ∈ forward ++ settle, c.isApply = false := by
  cases hforward <;> cases hsettle <;> simp [isApply]

theorem rollbackTokens_undone {token : RollbackToken} {applied : Bool}
    {forward settle : List RunnerCall} (hforward : Forward token forward)
    (hsettle : Settles token settle) :
    rollbackTokens (passedGates ++ .apply (some token) applied :: forward ++ settle) = [token] := by
  cases hforward <;> cases hsettle <;> simp [passedGates, rollbackTokens]

/-- The hook of an undone run comes directly after the successful rollback. -/
theorem hook_after_rollback_of_undone {token t : RollbackToken} {applied hooked : Bool}
    {forward settle before after : List RunnerCall} (hforward : Forward token forward)
    (hsettle : Settles token settle) (h : before ++ .afterRollback t hooked :: after =
      passedGates ++ .apply (some token) applied :: forward ++ settle) :
    .rollback t true ∈ before := by
  let isHook : RunnerCall → Bool := fun c => match c with
    | .afterRollback .. => true
    | _ => false
  cases hsettle with
  | rollbackFailed =>
    have hmem : afterRollback t hooked ∈
        passedGates ++ .apply (some token) applied :: forward ++ [.rollback token false] := by
      rw [← h]; simp
    cases hforward <;> simp [passedGates] at hmem
  | rolledBack ok =>
    obtain ⟨rfl, heq⟩ := append_cons_unique (p := isHook) (b := [])
      (a := passedGates ++ .apply (some token) applied :: forward ++ [.rollback token true])
      (by cases hforward <;> simp [passedGates, isHook]) (by simp) rfl (by simpa using h)
    cases heq
    simp

theorem RunTrace.protocol {dryRun ok : Bool} {steps : List RunnerCall}
    (h : RunTrace dryRun steps ok) : RunnerProtocol dryRun steps ok := by
  cases h with
  | gated hgates hok =>
    refine ⟨?_, ?_, ?_, ?_⟩
    · rintro before token applied after rfl
      have := hgates (.apply token applied) (by simp)
      simp [isGate] at this
    · intro token applied hmem
      have := hgates _ hmem
      simp [isGate] at this
    · rintro before token hooked after rfl
      have := hgates (.afterRollback token hooked) (by simp)
      simp [isGate] at this
    · intro h hdry
      rw [hok h] at hdry
      cases hdry
  | refused hdry =>
    refine ⟨?_, ?_, ?_, ?_⟩
    · intro before token applied after h
      exact ⟨hdry, (append_cons_unique (p := isApply)
        (by simp [passedGates, isApply]) (by simp) rfl h.symm).1⟩
    · intro token applied hmem
      simp [passedGates] at hmem
    · intro before token hooked after h
      have hmem : afterRollback token hooked ∈
          passedGates ++ [apply none false] := by rw [h]; simp
      simp [passedGates] at hmem
    · intro h
      cases h
  | kept token hdry =>
    refine ⟨?_, ?_, ?_, ?_⟩
    · intro before token applied after h
      exact ⟨hdry, (append_cons_unique (p := isApply)
        (by simp [passedGates, isApply]) (by simp [isApply]) rfl h.symm).1⟩
    · intro _ _ _ h
      cases h
    · intro before t hooked after h
      have hmem : afterRollback t hooked ∈ passedGates ++
          [.apply (some token) true, .afterApply token true, .verify true] := by rw [h]; simp
      simp [passedGates] at hmem
    · intro _ _
      rfl
  | undone token applied hdry hforward hsettle =>
    have hafter := not_apply_of_undone hforward hsettle
    refine ⟨?_, ?_, ?_, ?_⟩
    · intro before t b after h
      exact ⟨hdry, (append_cons_unique (p := isApply)
        (by simp [passedGates, isApply]) hafter rfl (by simpa using h.symm)).1⟩
    · intro t b hmem _
      rw [rollbackTokens_undone hforward hsettle]
      cases hforward <;> cases hsettle <;> simp [passedGates] at hmem <;> simp [hmem.1]
    · intro before t hooked after h
      exact hook_after_rollback_of_undone hforward hsettle h.symm
    · intro h
      cases h

/-- **The audited runner keeps its protocol**, for every action, policy, hooks,
clock and world. -/
theorem runAuditedAction_protocol {ω : Type} (action : TuningAction ω) (hooks : ActionHooks ω)
    (policy : ActionRunPolicy) (clock : ActionPhase → Nat) (command : String) (world : ω) :
    RunnerProtocol policy.dryRun
      (protocolSteps ((runAuditedAction action hooks policy clock).run
        (.start action policy command world)).state.calls)
      ((runAuditedAction action hooks policy clock).run
        (.start action policy command world)).result.isOk :=
  (runAuditedAction_trace action hooks policy clock command world).protocol

end Stutter

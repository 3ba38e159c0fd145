import StutterProof.AuditedRunner
import StutterProof.RunnerProtocol

/-! # Proving an invariant of the world through an audited run

`RunnerContract` asks of an action and its hooks one rule for each call the runner
makes, in terms of what the world looks like between the calls: nothing applied,
applied under a token, journaled, undone.  From these rules
`RunnerContract.holds_runAuditedAction` derives what a whole run does to the world,
crash points included. -/
namespace Stutter
open Fallible Op

/-- One rule for each call of the runner.  `I` is the invariant of every crash
point. -/
structure RunnerContract {ω : Type} (action : TuningAction ω) (hooks : ActionHooks ω)
    (I : ω → Prop) where
  /-- Nothing was applied yet. -/
  Idle : ω → Prop
  /-- An apply produced the token. -/
  Held : RollbackToken → ω → Prop
  /-- The token went through the after-apply hook. -/
  Journaled : RollbackToken → ω → Prop
  /-- The token was rolled back. -/
  Undone : RollbackToken → ω → Prop
  /-- What is left after a failed run. -/
  Failed : ω → Prop
  failed_of_idle : ∀ w, Idle w → Failed w
  preflight : ∀ w, Idle w → Holds action.preflight I (fun _ => Idle) w
  dryRun : ∀ w, Idle w → Holds action.dryRun I (fun _ => Idle) w
  apply : ∀ w, Idle w → Holds (action.applyWithPreparedRollback hooks.afterPrepare) I
    (fun r w' => match r with
      | .ok token => Held token w'
      | .error ⟨_, some token⟩ => Held token w'
      | .error ⟨_, none⟩ => Failed w') w
  afterApply : ∀ token w, Held token w → Holds (hooks.afterApply token) I
    (fun r w' => match r with
      | .ok _ => Journaled token w'
      | .error _ => Held token w') w
  held_of_journaled : ∀ token w, Journaled token w → Held token w
  verify : ∀ token w, Journaled token w → Holds action.verify I (fun _ => Journaled token) w
  rollback : ∀ token w, Held token w → Holds (action.rollback token) I
    (fun r w' => match r with
      | .ok _ => Undone token w'
      | .error _ => Failed w') w
  afterRollback : ∀ token w, Undone token w →
    Holds (hooks.afterRollback token) I (fun _ => Failed) w

/-- From a world with `P`, `m` visits only worlds with `I` and ends as `Q` says. -/
def Keeps {ω α : Type} (I P : ω → Prop) (m : RunnerOp ω α)
    (Q : Except ActionError α → ω → Prop) : Prop :=
  ∀ s, P s.world → Holds m (fun s => I s.world) (fun r s' => Q r s'.world) s

namespace Keeps
variable {ω α β ε : Type} {I P : ω → Prop} {Q : Except ActionError α → ω → Prop}

theorem ret {a : α} (h : ∀ w, P w → Q (.ok a) w) : Keeps I P (Op.ret a) Q :=
  fun _ hs => holds_ret.mpr (h _ hs)

theorem fail {e : ActionError} (h : ∀ w, P w → Q (.error e) w) : Keeps I P (Op.fail e) Q :=
  fun _ hs => holds_fail.mpr (h _ hs)

theorem bind {m : RunnerOp ω β} {f : β → RunnerOp ω α} {R : Except ActionError β → ω → Prop}
    (hm : Keeps I P m R) (hf : ∀ b, Keeps I (R (.ok b)) (f b) Q)
    (he : ∀ e w, R (.error e) w → Q (.error e) w) : Keeps I P (m >>= f) Q := by
  intro s hs
  rw [holds_bind]
  refine (hm s hs).mono (fun _ h => h) ?_
  rintro (e | b) s' h
  · exact he e _ h
  · exact hf b s' h

theorem invoke_bind {log : Except ε β → RunnerCall} {m : Op ω ε β}
    {f : Except ε β → RunnerOp ω α} {R : Except ε β → ω → Prop}
    (hm : ∀ w, P w → Holds m I R w) (hf : ∀ r, Keeps I (R r) (f r) Q) :
    Keeps I P (invoke log m >>= f) Q := by
  intro s hs
  rw [holds_bind, holds_invoke]
  exact (hm _ hs).mono (fun _ h => h) fun r w h => hf r _ h

/-- A step on the runner's own variables leaves the world alone. -/
theorem assign_bind {g : RunnerState ω → RunnerState ω} {f : Unit → RunnerOp ω α}
    (hg : ∀ s, (g s).world = s.world) (hf : Keeps I P (f ()) Q) :
    Keeps I P (assign g >>= f) Q := by
  intro s hs
  rw [holds_bind, holds_assign]
  exact hf _ ((hg s).symm ▸ hs)

theorem mono {m : RunnerOp ω α} {P' : ω → Prop} {Q' : Except ActionError α → ω → Prop}
    (h : Keeps I P m Q) (hP : ∀ w, P' w → P w) (hQ : ∀ r w, Q r w → Q' r w) : Keeps I P' m Q' :=
  fun s hs => (h s (hP _ hs)).mono (fun _ h => h) fun r _ h => hQ r _ h

end Keeps

namespace RunnerContract
variable {ω : Type} {action : TuningAction ω} {hooks : ActionHooks ω} {I : ω → Prop}
variable (c : RunnerContract action hooks I) (policy : ActionRunPolicy)
variable (clock : ActionPhase → Nat)

variable (token : RollbackToken)

/-- Undoing the token ends in `Failed`, whatever the audit lines in between. -/
theorem keeps_undo
    {onFailed onHookFailed : AnyError → RunnerOp ω ActionError}
    {onDone : RunnerOp ω ActionError}
    (hfailed : ∀ e, Keeps I c.Failed (onFailed e) fun _ => c.Failed)
    (hhook : ∀ e, Keeps I c.Failed (onHookFailed e) fun _ => c.Failed)
    (hdone : Keeps I c.Failed onDone fun _ => c.Failed) :
    Keeps I (c.Held token) (do
      match ← invoke (logged (.rollback token)) (action.rollback token) with
      | .ok _ =>
        match ← invoke (logged (.afterRollback token)) (hooks.afterRollback token) with
        | .ok _ => onDone
        | .error e => onHookFailed e
      | .error e => onFailed e) fun _ => c.Failed := by
  refine Keeps.invoke_bind (c.rollback token) fun r => ?_
  cases r with
  | error e => exact hfailed e
  | ok _ =>
    refine Keeps.invoke_bind (c.afterRollback token) fun r => ?_
    cases r with
    | error e => exact hhook e
    | ok _ => exact hdone

theorem keeps_answer {e : ActionError} :
    Keeps I c.Failed (Op.ret e : RunnerOp ω ActionError) fun _ => c.Failed :=
  Keeps.ret fun _ h => h

theorem keeps_auditedAnswer {token : RollbackToken} {success : Bool} {category : Option String}
    {message : String} {e : ActionError} :
    Keeps I c.Failed
      (do auditRollback token success category message; return e : RunnerOp ω ActionError)
      fun _ => c.Failed :=
  Keeps.assign_bind (fun _ => rfl) c.keeps_answer

theorem keeps_rollbackAfterTimeout (timeout : ActionTimeout) :
    Keeps I (c.Held token) (rollbackAfterTimeout action hooks token (.timeout timeout))
      fun _ => c.Failed :=
  c.keeps_undo token (fun _ => c.keeps_answer) (fun _ => c.keeps_auditedAnswer)
    c.keeps_auditedAnswer

theorem keeps_rollbackAfterApplyHookFailure (hookError : String) :
    Keeps I (c.Held token) (rollbackAfterApplyHookFailure action hooks token hookError)
      fun _ => c.Failed :=
  c.keeps_undo token (fun _ => c.keeps_answer) (fun _ => c.keeps_auditedAnswer)
    c.keeps_auditedAnswer

theorem keeps_rollbackAfterVerifyFailure (verifyError : AnyError) (token : RollbackToken) :
    Keeps I (c.Held token) (rollbackAfterVerifyFailure action hooks verifyError token)
      fun _ => c.Failed :=
  Keeps.assign_bind (fun _ => rfl)
    (c.keeps_undo token (fun _ => c.keeps_answer) (fun _ => c.keeps_answer) c.keeps_auditedAnswer)

theorem keeps_rollbackPartialApply (source : AnyError) (token : RollbackToken) :
    Keeps I (c.Held token) (rollbackPartialApply action hooks source token)
      fun _ => c.Failed := by
  refine Keeps.assign_bind (fun _ => rfl) (Keeps.invoke_bind (c.afterApply token) fun r => ?_)
  cases r with
  | error _ => exact c.keeps_rollbackAfterApplyHookFailure token _
  | ok _ =>
    exact (c.keeps_undo token (fun _ => c.keeps_auditedAnswer) (fun _ => c.keeps_answer)
      c.keeps_auditedAnswer).mono (c.held_of_journaled token) fun _ _ h => h

/-- What a run leaves: a journaled token after `Ok` in apply mode, nothing after a
dry run, else `Failed`. -/
def Outcome (r : Except ActionError AuditedActionResult) (w : ω) : Prop :=
  match r with
  | .ok ⟨_, some token⟩ => c.Journaled token w
  | .ok ⟨_, none⟩ => policy.dryRun = true ∧ c.Idle w
  | .error _ => c.Failed w

theorem keeps_fail {P : ω → Prop} {m : RunnerOp ω ActionError}
    (hm : Keeps I P m fun _ => c.Failed) :
    Keeps I P (m >>= fun e => (Op.fail e : RunnerOp ω AuditedActionResult)) (c.Outcome policy) :=
  Keeps.bind hm (fun _ => Keeps.fail fun _ h => h) fun _ _ h => h

theorem keeps_verifyApplied :
    Keeps I (c.Held token) (verifyApplied action hooks policy clock token) (c.Outcome policy) := by
  refine Keeps.assign_bind (fun _ => rfl) (Keeps.invoke_bind (c.afterApply token) fun r => ?_)
  cases r with
  | error _ =>
    exact Keeps.assign_bind (fun _ => rfl)
      (c.keeps_fail policy (c.keeps_rollbackAfterApplyHookFailure token _))
  | ok _ =>
    have hold := c.held_of_journaled token
    refine Keeps.assign_bind (fun _ => rfl) ?_
    cases htimeout : totalTimeoutError policy clock .apply with
    | some timeout =>
      obtain ⟨t, rfl⟩ := totalTimeoutError_eq policy clock htimeout
      exact Keeps.assign_bind (fun _ => rfl)
        (c.keeps_fail policy ((c.keeps_rollbackAfterTimeout token t).mono hold fun _ _ h => h))
    | none =>
      refine Keeps.assign_bind (fun _ => rfl) (Keeps.invoke_bind (c.verify token) fun r => ?_)
      cases r with
      | error e =>
        exact c.keeps_fail policy
          ((c.keeps_rollbackAfterVerifyFailure e token).mono hold fun _ _ h => h)
      | ok state =>
        refine Keeps.assign_bind (fun _ => rfl) ?_
        cases htimeout : totalTimeoutError policy clock .verify with
        | some timeout =>
          obtain ⟨t, rfl⟩ := totalTimeoutError_eq policy clock htimeout
          exact Keeps.assign_bind (fun _ => rfl)
            (c.keeps_fail policy ((c.keeps_rollbackAfterTimeout token t).mono hold fun _ _ h => h))
        | none => exact Keeps.assign_bind (fun _ => rfl) (Keeps.ret fun _ h => h)

theorem keeps_failOnTimeout (phase : ActionPhase) :
    Keeps I c.Idle (failOnTimeout policy clock phase : RunnerOp ω Unit) fun _ => c.Idle := by
  unfold failOnTimeout
  split
  · exact Keeps.ret fun _ h => h
  · exact Keeps.fail fun _ h => h

theorem keeps_runPreflight : Keeps I c.Idle (runPreflight action policy clock) fun _ => c.Idle := by
  refine Keeps.assign_bind (fun _ => rfl) (Keeps.invoke_bind c.preflight fun r => ?_)
  cases r with
  | error _ => exact Keeps.fail fun _ h => h
  | ok _ => exact Keeps.assign_bind (fun _ => rfl) (c.keeps_failOnTimeout policy clock .preflight)

theorem keeps_checkActionWithExplanation (intent : PolicyIntent) :
    Keeps I c.Idle (checkActionWithExplanation action policy intent) fun _ => c.Idle := by
  refine Keeps.assign_bind (fun _ => rfl) ?_
  cases policy.check intent action.descriptor with
  | ok _ => exact Keeps.ret fun _ h => h
  | error _ => exact Keeps.fail fun _ h => h

theorem keeps_runDryRun (message : String) :
    Keeps I c.Idle (runDryRun action policy clock message) fun _ => c.Idle := by
  refine Keeps.assign_bind (fun _ => rfl)
    (Keeps.bind (c.keeps_checkActionWithExplanation policy .dryRun) (fun _ => ?_) fun _ _ h => h)
  refine Keeps.invoke_bind c.dryRun fun r => ?_
  cases r with
  | error _ => exact Keeps.fail fun _ h => h
  | ok _ =>
    exact Keeps.assign_bind (fun _ => rfl) (Keeps.bind (c.keeps_failOnTimeout policy clock .dryRun)
      (fun _ => Keeps.ret fun _ h => h) fun _ _ h => h)

theorem keeps_checkScope (state : ActionState) :
    Keeps I c.Idle (checkScope policy state : RunnerOp ω Unit) fun _ => c.Idle := by
  refine Keeps.assign_bind (fun _ => rfl) ?_
  split
  · split
    · exact Keeps.fail fun _ h => h
    · exact Keeps.ret fun _ h => h
  · exact Keeps.ret fun _ h => h

theorem keeps_runPhases :
    Keeps I c.Idle (runPhases action hooks policy clock) (c.Outcome policy) := by
  have hidle : ∀ (e : ActionError) w, c.Idle w → c.Outcome policy (.error e) w :=
    fun _ => c.failed_of_idle
  refine Keeps.bind (c.keeps_runPreflight policy clock) (fun _ => ?_) hidle
  split
  · rename_i hdry
    refine Keeps.bind (c.keeps_runDryRun policy clock _) (fun _ => ?_) hidle
    exact Keeps.assign_bind (fun _ => rfl) (Keeps.ret fun _ h => ⟨hdry, h⟩)
  · refine Keeps.bind (c.keeps_runDryRun policy clock _) (fun state => ?_) hidle
    refine Keeps.bind (c.keeps_checkScope policy state) (fun _ => ?_) hidle
    refine Keeps.assign_bind (fun _ => rfl)
      (Keeps.bind (c.keeps_checkActionWithExplanation policy .apply) (fun _ => ?_) hidle)
    refine Keeps.invoke_bind c.apply fun r => ?_
    rcases r with ⟨source, _ | token⟩ | token
    · exact Keeps.fail fun _ h => h
    · exact c.keeps_fail policy (c.keeps_rollbackPartialApply source token)
    · exact c.keeps_verifyApplied policy clock token

/-- **The run rule**: a contract for the calls is an invariant of the run. -/
theorem holds_runAuditedAction {s : RunnerState ω} (hs : c.Idle s.world) :
    Holds (runAuditedAction action hooks policy clock) (fun s => I s.world)
      (fun r s' => c.Outcome policy r s'.world) s := by
  rw [runAuditedAction, holds_bind, holds_attempt]
  refine (c.keeps_runPhases policy clock s hs).mono (fun _ h => h) ?_
  rintro (e | a) s' h
  · simpa only [appendTerminalAudit, holds_bind, holds_setAuditEvent, holds_assign,
      holds_ofExcept] using h
  · simpa only [appendTerminalAudit, holds_bind, holds_ret, holds_assign,
      holds_ofExcept] using h

end RunnerContract
end Stutter

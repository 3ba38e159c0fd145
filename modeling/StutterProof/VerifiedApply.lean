import StutterProof.RunnerProtocol

/-! # Verified means applied

An action's `verify` can fail in two ways: it answers with an error, or it answers `Ok` with a
state that is not applied.  The runner looks at the first only.  `reachVerify` follows the action's
own steps up to the verification; from it we read off what every run in apply mode ends with, and
when `Ok` means that the action is in place. -/
namespace Fallible

/-- What a successful call answered, and the state it left. -/
def Op.after {σ ε α : Type} (m : Op σ ε α) (s : σ) : Option (α × σ) :=
  match (m.run s).result with
  | .ok a => some (a, (m.run s).state)
  | .error _ => none

theorem Op.after_eq_some {σ ε α : Type} {m : Op σ ε α} {s s' : σ} {a : α} :
    m.after s = some (a, s') ↔ (m.run s).result = .ok a ∧ (m.run s).state = s' := by
  unfold Op.after
  cases (m.run s).result with
  | error e => simp
  | ok b => simp

theorem Op.run_bind_of_ok {σ ε α β : Type} {m : Op σ ε α} {f : α → Op σ ε β} {s : σ} {a : α}
    (h : (m.run s).result = .ok a) :
    ((m >>= f).run s).result = ((f a).run (m.run s).state).result ∧
      ((m >>= f).run s).state = ((f a).run (m.run s).state).state := by
  simp [bind, Op.andThen, h]

end Fallible

namespace Stutter
open Fallible

variable {ω : Type}

section
variable (action : TuningAction ω) (hooks : ActionHooks ω) (policy : ActionRunPolicy)
variable (clock : ActionPhase → Nat)

/-- In time at the check of a phase. -/
def inTime (phase : ActionPhase) : Bool := (totalTimeoutError policy clock phase).isNone

/-- The world in which the runner applies: the preflight and the dry run went through, in time,
the policy takes both intents and the dry run stays within the limit. -/
def reachApply (w : ω) : Option ω :=
  (action.preflight.after w).bind fun pre =>
    if inTime policy clock .preflight && (policy.check .dryRun action.descriptor).isOk then
      (action.dryRun.after pre.2).bind fun dry =>
        if inTime policy clock .dryRun &&
            (policy.maxAffectedTasks.all fun limit => decide (dry.1.affectedTasks ≤ limit)) &&
            (policy.check .apply action.descriptor).isOk then
          some dry.2
        else none
    else none

/-- The token and the world in which the runner verifies. -/
def reachVerify (w : ω) : Option (RollbackToken × ω) :=
  (reachApply action policy clock w).bind fun w =>
    ((action.applyWithPreparedRollback hooks.afterPrepare).after w).bind fun applied =>
      ((hooks.afterApply applied.1).after applied.2).bind fun hooked =>
        if inTime policy clock .apply then some (applied.1, hooked.2) else none

/-- `Ok` in apply mode comes from a verification that found the action applied; one that answers
`Ok` without that fails the run, and the action is rolled back with its token. -/
structure VerifiedMeansApplied (s : RunnerState ω) : Prop where
  applied : ∀ outcome,
    ((runAuditedAction action hooks policy clock).run s).result = .ok outcome →
      ∃ token w, reachVerify action hooks policy clock s.world = some (token, w) ∧
        (action.verify.run w).result = .ok outcome.state ∧ outcome.state.applied = true
  undone : ∀ token w state, reachVerify action hooks policy clock s.world = some (token, w) →
    (action.verify.run w).result = .ok state → state.applied = false →
      (∃ e, ((runAuditedAction action hooks policy clock).run s).result = .error e) ∧
        ∃ ok, .rollback token ok ∈ ((runAuditedAction action hooks policy clock).run s).state.calls

end

/-! ## What a run ends with -/

section
variable {action : TuningAction ω} {hooks : ActionHooks ω} {policy : ActionRunPolicy}
variable {clock : ActionPhase → Nat}

/-- The runner's operation does to the world what `step` says, and fails where it has nothing. -/
def Follows {α : Type} (m : RunnerOp ω α) (step : ω → Option (α × ω)) : Prop :=
  ∀ s, (m.after s).map (fun x => (x.1, x.2.world)) = step s.world

namespace Follows
variable {α β ε : Type}

theorem ret {a : α} : Follows (Op.ret a : RunnerOp ω α) fun w => some (a, w) := fun _ => rfl

theorem fail {e : ActionError} : Follows (Op.fail e : RunnerOp ω α) fun _ => none := fun _ => rfl

theorem bind {m : RunnerOp ω β} {f : β → RunnerOp ω α} {first : ω → Option (β × ω)}
    {g : β × ω → Option (α × ω)} (hm : Follows m first)
    (hf : ∀ b, Follows (f b) fun w => g (b, w)) : Follows (m >>= f) fun w => (first w).bind g := by
  intro s
  have hfirst := hm s
  show _ = (first s.world).bind _
  rw [← hfirst]
  unfold Op.after
  cases hr : (m.run s).result with
  | error e => simp [Bind.bind, Op.andThen, hr]
  | ok b =>
    have hnext := hf b (m.run s).state
    unfold Op.after at hnext
    simp [Bind.bind, Op.andThen, hr, ← hnext]

/-- A change of the runner's own record leaves the world alone. -/
theorem silent {f : RunnerState ω → RunnerState ω} (hf : ∀ s, (f s).world = s.world) :
    Follows (Op.assign f : RunnerOp ω Unit) fun w => some ((), w) := by
  intro s
  simp [Op.after, Op.assign, hf]

theorem silent_bind {m : RunnerOp ω Unit} {f : Unit → RunnerOp ω α} {next : ω → Option (α × ω)}
    (hm : Follows m fun w => some ((), w)) (hf : Follows (f ()) next) : Follows (m >>= f) next :=
  bind (g := fun x => next x.2) hm fun _ => hf

/-- A call on the world, with a continuation for each answer. -/
theorem invoke_bind {log : Except ε β → RunnerCall} {m : Op ω ε β}
    {f : Except ε β → RunnerOp ω α} {g : β × ω → Option (α × ω)}
    (herror : ∀ e, Follows (f (.error e)) fun _ => none)
    (hok : ∀ b, Follows (f (.ok b)) fun w => g (b, w)) :
    Follows (invoke log m >>= f) fun w => (m.after w).bind g := by
  intro s
  unfold Op.after
  cases hr : (m.run s.world).result with
  | error e =>
    have hnone := herror e ((invoke log m).run s).state
    unfold Op.after at hnone
    simpa [Bind.bind, Op.andThen, invoke, hr] using hnone
  | ok b =>
    have hnext := hok b ((invoke log m).run s).state
    unfold Op.after at hnext
    simpa [Bind.bind, Op.andThen, invoke, hr] using hnext

/-- An operation that computes the error the run fails with. -/
theorem fails {m : RunnerOp ω ActionError} :
    Follows (m >>= fun e => (Op.fail e : RunnerOp ω α)) fun _ => none := by
  intro s
  unfold Op.after
  cases hr : (m.run s).result with
  | error e => simp [Bind.bind, Op.andThen, hr]
  | ok e => simp [Bind.bind, Op.andThen, hr, Op.fail]

end Follows

variable (action hooks policy clock)

theorem failOnTimeout_follows (phase : ActionPhase) :
    Follows (failOnTimeout policy clock phase : RunnerOp ω Unit) fun w =>
      if inTime policy clock phase then some ((), w) else none := by
  unfold failOnTimeout inTime
  cases totalTimeoutError policy clock phase with
  | none => exact .ret
  | some timeout => exact .fail

theorem checkActionWithExplanation_follows (intent : PolicyIntent) :
    Follows (checkActionWithExplanation action policy intent) fun w =>
      if (policy.check intent action.descriptor).isOk then some ((), w) else none := by
  unfold checkActionWithExplanation
  refine .silent_bind (.silent fun _ => rfl) ?_
  cases policy.check intent action.descriptor with
  | ok _ => exact .ret
  | error reason => exact .fail

theorem runPreflight_follows :
    Follows (runPreflight action policy clock) fun w => (action.preflight.after w).bind fun x =>
      if inTime policy clock .preflight then some ((), x.2) else none := by
  unfold runPreflight
  refine .silent_bind (.silent fun _ => rfl) (.invoke_bind (fun _ => .fail) fun warnings => ?_)
  exact .silent_bind (.silent fun _ => rfl) (failOnTimeout_follows policy clock .preflight)

theorem runDryRun_follows (message : String) :
    Follows (runDryRun action policy clock message) fun w =>
      (if (policy.check .dryRun action.descriptor).isOk then some ((), w) else none).bind fun x =>
        (action.dryRun.after x.2).bind fun x =>
          (if inTime policy clock .dryRun then some ((), x.2) else none).bind fun y =>
            some (x.1, y.2) := by
  unfold runDryRun
  refine .silent_bind (.silent fun _ => rfl) ?_
  refine .bind (checkActionWithExplanation_follows action policy .dryRun) fun _ => ?_
  refine .invoke_bind (fun _ => .fail) fun dry => ?_
  refine .silent_bind (.silent fun _ => rfl) ?_
  refine .bind (g := fun y => some (dry, y.2)) (failOnTimeout_follows policy clock .dryRun)
    fun _ => ?_
  exact .ret

theorem checkScope_follows (dry : ActionState) :
    Follows (checkScope policy dry : RunnerOp ω Unit) fun w =>
      if policy.maxAffectedTasks.all fun limit => decide (dry.affectedTasks ≤ limit) then
        some ((), w) else none := by
  unfold checkScope
  refine .silent_bind (.silent fun _ => rfl) ?_
  cases policy.maxAffectedTasks with
  | none => exact .ret
  | some limit =>
    by_cases hover : limit < dry.affectedTasks
    · have hnot : ¬ dry.affectedTasks ≤ limit := by omega
      simpa [hover, hnot] using (.fail : Follows (Op.fail _ : RunnerOp ω Unit) _)
    · have hle : dry.affectedTasks ≤ limit := by omega
      simpa [hover, hle] using (.ret : Follows (Op.ret () : RunnerOp ω Unit) _)

theorem verifyApplied_follows (token : RollbackToken) :
    Follows (verifyApplied action hooks policy clock token) fun w =>
      ((hooks.afterApply token).after w).bind fun x =>
        if inTime policy clock .apply then
          (action.verify.after x.2).bind fun y =>
            if inTime policy clock .verify then some (⟨y.1, some token⟩, y.2) else none
        else none := by
  unfold verifyApplied
  refine .silent_bind (.silent fun _ => rfl) (.invoke_bind (fun _ => ?_) fun _ => ?_)
  · exact .silent_bind (.silent fun _ => rfl) .fails
  · refine .silent_bind (.silent fun _ => rfl) ?_
    unfold inTime
    cases totalTimeoutError policy clock .apply with
    | some timeout => exact .silent_bind (.silent fun _ => rfl) .fails
    | none =>
      refine .silent_bind (.silent fun _ => rfl) (.invoke_bind (fun _ => .fails) fun state => ?_)
      refine .silent_bind (.silent fun _ => rfl) ?_
      cases totalTimeoutError policy clock .verify with
      | some timeout => exact .silent_bind (.silent fun _ => rfl) .fails
      | none => exact .silent_bind (.silent fun _ => rfl) .ret

/-- The part of a run in apply mode before the apply. -/
def runGates : RunnerOp ω Unit := do
  runPreflight action policy clock
  let state ← runDryRun action policy clock "pre-apply dry run successful"
  checkScope policy state
  setAuditEvent ({ · with actionPhase := some .apply })
  checkActionWithExplanation action policy .apply

/-- The part from the apply on. -/
def runApply : RunnerOp ω AuditedActionResult := do
  match ← invoke applyLog (action.applyWithPreparedRollback hooks.afterPrepare) with
  | .ok token => verifyApplied action hooks policy clock token
  | .error failure =>
    match failure.rollback with
    | some token => Op.fail (← rollbackPartialApply action hooks failure.source token)
    | none => Op.fail (.applyError failure.source)

theorem runPhases_eq (hmode : policy.dryRun = false) :
    runPhases action hooks policy clock =
      runGates action policy clock >>= fun _ => runApply action hooks policy clock := by
  unfold runPhases runGates
  simp only [hmode, Bool.false_eq_true, if_false, bind_assoc]
  rfl

theorem runGates_follows :
    Follows (runGates action policy clock) fun w =>
      (reachApply action policy clock w).map fun w => ((), w) := by
  have hraw : Follows (runGates action policy clock) fun w =>
      ((action.preflight.after w).bind fun x =>
        if inTime policy clock .preflight then some ((), x.2) else none).bind fun x =>
      ((if (policy.check .dryRun action.descriptor).isOk then some ((), x.2) else none).bind
        fun x =>
        (action.dryRun.after x.2).bind fun x =>
          (if inTime policy clock .dryRun then some ((), x.2) else none).bind fun y =>
            some (x.1, y.2)).bind fun x =>
      (if policy.maxAffectedTasks.all fun limit => decide (x.1.affectedTasks ≤ limit) then
        some ((), x.2) else none).bind fun x =>
      if (policy.check .apply action.descriptor).isOk then some ((), x.2) else none := by
    refine .bind (runPreflight_follows action policy clock) fun _ => ?_
    refine .bind (runDryRun_follows action policy clock _) fun dry => ?_
    refine .bind (checkScope_follows policy dry) fun _ => ?_
    refine .silent_bind (.silent fun _ => rfl) ?_
    exact checkActionWithExplanation_follows action policy .apply
  intro s
  rw [hraw s]
  unfold reachApply
  dsimp only
  -- each gate of the source is one of the steps of `reachApply`
  cases action.preflight.after s.world with
  | none => rfl
  | some pre =>
    cases inTime policy clock .preflight with
    | false => rfl
    | true =>
      cases (policy.check .dryRun action.descriptor).isOk with
      | false => rfl
      | true =>
        simp only [Option.bind_some, Bool.and_self, if_true]
        cases action.dryRun.after pre.2 with
        | none => rfl
        | some dry =>
          cases inTime policy clock .dryRun with
          | false => rfl
          | true =>
            by_cases hscope : policy.maxAffectedTasks.all
                (fun limit => decide (dry.1.affectedTasks ≤ limit)) = true
            · cases (policy.check .apply action.descriptor).isOk with
              | false => simp
              | true => simp [hscope]
            · simp [hscope]

/-- The steps of the action from the apply on. -/
def applySteps (w : ω) : Option (AuditedActionResult × ω) :=
  ((action.applyWithPreparedRollback hooks.afterPrepare).after w).bind fun x =>
    ((hooks.afterApply x.1).after x.2).bind fun y =>
      if inTime policy clock .apply then
        (action.verify.after y.2).bind fun z =>
          if inTime policy clock .verify then some (⟨z.1, some x.1⟩, z.2) else none
      else none

/-- What a failed apply leaves behind is undone and fails the run. -/
theorem runApply_follows :
    Follows (runApply action hooks policy clock) (applySteps action hooks policy clock) := by
  refine .invoke_bind (fun failure => ?_) fun token =>
    verifyApplied_follows action hooks policy clock token
  cases hrollback : failure.rollback with
  | none =>
    simp only [hrollback]
    exact .fail
  | some token =>
    simp only [hrollback]
    exact .fails

/-- **A run in apply mode follows the action's own steps**: it is `Ok` exactly when the verification
is reached and answers `Ok` in time, whatever state it answers with. -/
theorem runPhases_follows (hmode : policy.dryRun = false) :
    Follows (runPhases action hooks policy clock) fun w =>
      (reachVerify action hooks policy clock w).bind fun x =>
        (action.verify.after x.2).bind fun y =>
          if inTime policy clock .verify then some (⟨y.1, some x.1⟩, y.2) else none := by
  rw [runPhases_eq action hooks policy clock hmode]
  intro s
  rw [Follows.bind (g := fun x => applySteps action hooks policy clock x.2)
    (runGates_follows action policy clock) (fun _ => runApply_follows action hooks policy clock) s]
  unfold reachVerify applySteps
  dsimp only
  cases reachApply action policy clock s.world with
  | none => rfl
  | some w =>
    simp only [Option.map_some, Option.bind_some, Option.bind_assoc]
    refine Option.bind_congr fun applied _ => Option.bind_congr fun hooked _ => ?_
    cases inTime policy clock .apply with
    | false => rfl
    | true => rfl

/-- A run that reached the verification and failed rolled its token back. -/
theorem runPhases_rolls (hmode : policy.dryRun = false) {s : RunnerState ω} {token : RollbackToken}
    {w : ω} (hreach : reachVerify action hooks policy clock s.world = some (token, w))
    (hfails : ((runPhases action hooks policy clock).run s).result.isOk = false) :
    ∃ ok, .rollback token ok ∈ ((runPhases action hooks policy clock).run s).state.calls := by
  unfold reachVerify at hreach
  obtain ⟨w₁, hw₁, hreach⟩ := Option.bind_eq_some_iff.mp hreach
  obtain ⟨⟨t, w₂⟩, hw₂, hreach⟩ := Option.bind_eq_some_iff.mp hreach
  obtain ⟨_, _, hreach⟩ := Option.bind_eq_some_iff.mp hreach
  obtain rfl : t = token := by
    split at hreach
    · exact congrArg Prod.fst (Option.some.inj hreach)
    · cases hreach
  -- the gates pass, so the run is the one of the apply from where they leave
  have hgates := runGates_follows action policy clock s
  dsimp only at hgates
  rw [hw₁] at hgates
  obtain ⟨⟨_, s₁⟩, hs₁, hworld⟩ := Option.map_eq_some_iff.mp hgates
  have hworld : s₁.world = w₁ := congrArg Prod.snd hworld
  rw [runPhases_eq action hooks policy clock hmode] at hfails ⊢
  obtain ⟨hok, rfl⟩ := Op.after_eq_some.mp hs₁
  have hrun := Op.run_bind_of_ok (f := fun _ => runApply action hooks policy clock) hok
  rw [hrun.1] at hfails
  rw [hrun.2]
  -- the apply succeeds, so the rest is the verification's part
  obtain ⟨happlied, _⟩ := Op.after_eq_some.mp hw₂
  rw [← hworld] at happlied
  have hinvoke : ((invoke applyLog (action.applyWithPreparedRollback hooks.afterPrepare)).run
      ((runGates action policy clock).run s).state).result = .ok (.ok t) := by
    simp [invoke, happlied]
  unfold runApply at hfails ⊢
  rw [(Op.run_bind_of_ok hinvoke).1] at hfails
  rw [(Op.run_bind_of_ok hinvoke).2]
  obtain ⟨-, added, hadded, hundone⟩ := verifyApplied_adds action hooks policy clock t
    ((invoke applyLog (action.applyWithPreparedRollback hooks.afterPrepare)).run
      ((runGates action policy clock).run s).state).state
  rcases hundone with ⟨hkept, _⟩ | ⟨_, forward, settle, rfl, _, hsettle⟩
  · rw [hfails] at hkept
    cases hkept
  · obtain ⟨ok, hmem⟩ : ∃ ok, RunnerCall.rollback t ok ∈ settle := by
      cases hsettle with
      | rollbackFailed => exact ⟨false, by simp⟩
      | rolledBack ok => exact ⟨true, by simp⟩
    have hsteps : RunnerCall.rollback t ok ∈ protocolSteps
        ((verifyApplied action hooks policy clock t).run
          ((invoke applyLog (action.applyWithPreparedRollback hooks.afterPrepare)).run
            ((runGates action policy clock).run s).state).state).state.calls := by
      rw [hadded]
      exact List.mem_append_right _ (List.mem_append_right _ hmem)
    exact ⟨ok, List.mem_of_mem_filter hsteps⟩

/-- The terminal audit line changes neither the answer nor what was called before. -/
theorem runAuditedAction_ends (s : RunnerState ω) :
    ((runAuditedAction action hooks policy clock).run s).result =
        ((runPhases action hooks policy clock).run s).result ∧
      ∀ call ∈ ((runPhases action hooks policy clock).run s).state.calls,
        call ∈ ((runAuditedAction action hooks policy clock).run s).state.calls := by
  unfold runAuditedAction appendTerminalAudit
  cases hr : ((runPhases action hooks policy clock).run s).result with
  | ok outcome =>
    simp [bind, Op.andThen, Op.attempt, hr, Op.ofExcept, Op.assign, Op.ret]
    exact fun call h => .inl h
  | error e =>
    simp [bind, Op.andThen, Op.attempt, hr, Op.ofExcept, Op.assign, setAuditEvent]
    exact fun call h => .inl h

/-- The answer of a run in apply mode that reaches the verification and is told `Ok`. -/
theorem runAuditedAction_answers (hmode : policy.dryRun = false) {s : RunnerState ω}
    (outcome : AuditedActionResult) :
    ((runAuditedAction action hooks policy clock).run s).result = .ok outcome ↔
      ∃ token w, reachVerify action hooks policy clock s.world = some (token, w) ∧
        (action.verify.run w).result = .ok outcome.state ∧ outcome.rollback = some token ∧
        inTime policy clock .verify = true := by
  rw [(runAuditedAction_ends action hooks policy clock s).1]
  have hfollows := runPhases_follows action hooks policy clock hmode s
  dsimp only at hfollows
  constructor
  · intro hok
    have hafter := Op.after_eq_some.mpr ⟨hok, rfl⟩
    rw [hafter, Option.map_some] at hfollows
    obtain ⟨⟨token, w⟩, hreach, hverify⟩ := Option.bind_eq_some_iff.mp hfollows.symm
    obtain ⟨⟨state, w'⟩, hstate, hverify⟩ := Option.bind_eq_some_iff.mp hverify
    split at hverify
    · rename_i htime
      obtain rfl : ⟨state, some token⟩ = outcome := congrArg Prod.fst (Option.some.inj hverify)
      exact ⟨token, w, hreach, (Op.after_eq_some.mp hstate).1, rfl, htime⟩
    · cases hverify
  · rintro ⟨token, w, hreach, hstate, hrollback, htime⟩
    rw [hreach, Option.bind_some, Op.after_eq_some.mpr ⟨hstate, rfl⟩, Option.bind_some,
      if_pos htime] at hfollows
    obtain ⟨⟨answer, s'⟩, hafter, hanswer⟩ := Option.map_eq_some_iff.mp hfollows
    rw [(Op.after_eq_some.mp hafter).1]
    have heq : answer = ⟨outcome.state, some token⟩ := congrArg Prod.fst hanswer
    rw [heq, ← hrollback]

/-- **Exactly when `Ok` means applied**: the verification, if the run reaches it, does not answer
`Ok` with a state that is not applied, unless the run is then over its time. -/
theorem verified_means_applied_iff (s : RunnerState ω) (hmode : policy.dryRun = false) :
    VerifiedMeansApplied action hooks policy clock s ↔
      ∀ token w state, reachVerify action hooks policy clock s.world = some (token, w) →
        (action.verify.run w).result = .ok state → state.applied = false →
          inTime policy clock .verify = false := by
  have hanswers := runAuditedAction_answers action hooks policy clock hmode (s := s)
  constructor
  · intro h token w state hreach hstate hnot
    cases htime : inTime policy clock .verify with
    | false => rfl
    | true =>
      have hok := (hanswers ⟨state, some token⟩).mpr ⟨token, w, hreach, hstate, rfl, htime⟩
      obtain ⟨_, _, _, _, happlied⟩ := h.applied _ hok
      rw [hnot] at happlied
      cases happlied
  · intro h
    constructor
    · intro outcome hok
      obtain ⟨token, w, hreach, hstate, _, htime⟩ := (hanswers outcome).mp hok
      refine ⟨token, w, hreach, hstate, ?_⟩
      cases happlied : outcome.state.applied with
      | true => rfl
      | false =>
        rw [h token w _ hreach hstate happlied] at htime
        cases htime
    · intro token w state hreach hstate hnot
      have htime := h token w state hreach hstate hnot
      have hends := runAuditedAction_ends action hooks policy clock s
      cases hresult : ((runAuditedAction action hooks policy clock).run s).result with
      | ok outcome =>
        obtain ⟨_, _, _, _, _, hin⟩ := (hanswers outcome).mp hresult
        rw [htime] at hin
        cases hin
      | error e =>
        have hfails : ((runPhases action hooks policy clock).run s).result.isOk = false := by
          rw [← hends.1, hresult]
          rfl
        obtain ⟨ok, hmem⟩ := runPhases_rolls action hooks policy clock hmode hreach hfails
        exact ⟨⟨e, rfl⟩, ok, hends.2 _ hmem⟩

end

/-! ## An action that another writer undoes -/

/-- An action whose verification finds a change pending. -/
def racedAction : TuningAction Unit where
  descriptor := ⟨"profile", "cpu-affinity", .reversibleLowRisk, .localProcessTree,
    .requiredBeforeApply, false, false, false, none⟩
  preflight := Op.ret []
  dryRun := Op.ret ⟨false, 1, 1, 1, []⟩
  applyWithPreparedRollback _ := Op.ret (.cpuAffinityRestoreFile "restore.json" 1)
  verify := Op.ret ⟨false, 0, 1, 1, []⟩
  rollback _ := Op.ret ()

/-- A policy that takes everything, in apply mode and without limits. -/
def openPolicy : ActionRunPolicy := ⟨fun _ _ => .ok (), none, none, false⟩

/-- The same action when nobody interferes. -/
theorem settledAction_verified :
    VerifiedMeansApplied { racedAction with verify := Op.ret ⟨true, 1, 1, 0, []⟩ } {} openPolicy
      (fun _ => 0) (.start racedAction openPolicy "profile" ()) := by
  refine (verified_means_applied_iff _ _ _ _ _ rfl).mpr fun token w state _ hstate hnot => ?_
  cases hstate
  cases hnot

/-- The run answers `Ok` with a change pending and calls no rollback. -/
theorem racedAction_kept :
    let ran := (runAuditedAction racedAction {} openPolicy (fun _ => 0)).run
      (.start racedAction openPolicy "profile" ())
    (∃ outcome, ran.result = .ok outcome ∧ outcome.state.applied = false) ∧
      rollbackTokens ran.state.calls = [] ∧
      ¬ VerifiedMeansApplied racedAction {} openPolicy (fun _ => 0)
        (.start racedAction openPolicy "profile" ()) := by
  have hok : ∃ outcome, ((runAuditedAction racedAction {} openPolicy (fun _ => 0)).run
      (.start racedAction openPolicy "profile" ())).result = .ok outcome ∧
      outcome.state.applied = false := ⟨_, rfl, rfl⟩
  refine ⟨hok, rfl, fun h => ?_⟩
  obtain ⟨outcome, hresult, hnot⟩ := hok
  obtain ⟨_, _, _, _, happlied⟩ := h.applied outcome hresult
  rw [hnot] at happlied
  cases happlied

end Stutter

import Mathlib.Logic.Function.Basic
import StutterProof.AgentHandlers
import StutterProof.GuardedRun

/-! # Autotune requests that interleave

`AgentHandlers` runs a handler as one step.  Here it runs from one `await` to the next, and between
two of its steps any other request, and any controller task, can take theirs.  The handle of the
active controller is in a slot of its own, behind a lock that a start keeps until it has written the
daemon's state; the daemon's state is behind a second lock that no handler keeps over an `await`. -/
namespace Stutter.Agent

/-! ## Controllers -/

/-- A controller's task.  One that was told to stop still has its rollback to do. -/
inductive ControllerTask where
  | running
  | stopping
  | finished (join : Join AutotuneControllerExit)

namespace ControllerTask

def result : ControllerTask → Option (Join AutotuneControllerExit)
  | running | stopping => none
  | finished join => some join

def live (task : ControllerTask) : Bool := task.result.isNone

/-- `stop_tx.send(())`. -/
def stop : ControllerTask → ControllerTask
  | running => stopping
  | task => task

end ControllerTask

/-- `AutotuneControllerHandle`; the task is known by its number, in the order of the starts. -/
structure ControllerHandle where
  mode : String
  watchProcess : Option String
  treePid : Option Nat
  startedUnixNanos : Nat
  task : Nat

/-! ## Requests -/

/-- The two routes that restore. -/
inductive RestoreRoute where
  | autotune | daemon

def RestoreRoute.handler : RestoreRoute → World → AgentState → AuthHeader → AgentState × Response
  | autotune => autotuneRestoreHandler
  | daemon => daemonRestoreHandler

/-- The autotune requests. -/
inductive AutotuneCall where
  | start (request : AutotuneStartRequest)
  | stop
  | status
  | restore (route : RestoreRoute)

/-- The route the call comes by. -/
def AutotuneCall.route : AutotuneCall → Request
  | start request => .autotuneStart request
  | stop => .autotuneStop
  | status => .autotuneStatus
  | restore .autotune => .autotuneRestore
  | restore .daemon => .daemonRestore

/-- The handler that goes on after `reap_finished_autotune`. -/
inductive AfterReap where
  | start (policy : DaemonPolicy) (request : AutotuneStartRequest)
  | status

/-- On whose behalf the daemon's state is written: of a controller that was started, or of a stop or
reap that looked at the slot when so many controllers had been started. -/
inductive Author where
  | started (task : Nat)
  | ended (seen : Nat)
  | other

/-- The `await` a request is at. -/
inductive Position where
  | arrived (header : AuthHeader) (call : AutotuneCall)
  /-- `reap_finished_autotune` waits for the slot. -/
  | reaping (next : AfterReap)
  /-- It has taken a finished controller out of the slot and waits for the daemon's state. -/
  | reaped (seen : Nat) (daemonState : DaemonState) (next : AfterReap)
  /-- A start waits for the slot. -/
  | locking (policy : DaemonPolicy) (request : AutotuneStartRequest)
  /-- A status waits for the slot, and then for the daemon's state. -/
  | viewing
  | reading
  /-- A stop waits for the slot, and then for the controller it has taken out of it. -/
  | taking
  | joining (handle : ControllerHandle) (seen : Nat)
  /-- The restore runs; there is no `await` in it, but other threads go on. -/
  | restoring (route : RestoreRoute) (header : AuthHeader)
  /-- The handler waits for the daemon's state, and `rest` is what it does then. -/
  | writing (author : Author) (rest : AgentState → AgentState × Response)
  | answered (response : Response)

namespace Position

def isRestoring : Position → Bool
  | restoring _ _ => true
  | _ => false

/-- Whether the server can drop the request here. -/
def awaits : Position → Bool
  | restoring _ _ | answered _ => false
  | _ => true

end Position

def AfterReap.position : AfterReap → Position
  | start policy request => .locking policy request
  | status => .viewing

/-! ## The runtime -/

/-- The agent with its tasks and locks. -/
structure AgentRuntime where
  activeRun : Option RunHandle
  /-- `active_autotune`. -/
  active : Option ControllerHandle
  /-- The request that keeps the lock of `active` over an `await`. -/
  owner : Option Nat
  daemonState : DaemonState
  auth : AgentAuth
  listener : Listener
  limits : AgentLimits
  autotuneLimits : AgentAutotuneLimits
  tasks : List ControllerTask
  requests : Nat → Option Position
  /-- Who has written the daemon's state, the oldest first. -/
  authors : List Author

inductive AgentRuntime.Event where
  | arrive (i : Nat) (header : AuthHeader) (call : AutotuneCall)
  /-- The request runs to its next `await`. -/
  | advance (i : Nat) (world : World)
  | finish (task : Nat) (join : Join AutotuneControllerExit)
  /-- The client has gone and the server drops the handler. -/
  | disconnect (i : Nat)
  /-- A handler of another part of the agent writes the daemon's state. -/
  | elsewhere (daemonState : DaemonState)

namespace AgentRuntime

/-- An agent that has just started, with what its startup recovery has recorded. -/
def initial (daemonState : DaemonState) (auth : AgentAuth) (listener : Listener)
    (limits : AgentLimits) (autotuneLimits : AgentAutotuneLimits) : AgentRuntime where
  activeRun := none
  active := none
  owner := none
  daemonState := daemonState
  auth := auth
  listener := listener
  limits := limits
  autotuneLimits := autotuneLimits
  tasks := []
  requests := fun _ => none
  authors := []

variable (runtime : AgentRuntime)

def result (task : Nat) : Option (Join AutotuneControllerExit) :=
  runtime.tasks[task]?.bind ControllerTask.result

/-- What the handlers of `AgentHandlers` see. -/
def agentState : AgentState where
  activeRun := runtime.activeRun
  activeAutotune := runtime.active.map fun handle => ⟨handle.mode, handle.watchProcess,
    handle.treePid, handle.startedUnixNanos, runtime.result handle.task⟩
  daemonState := runtime.daemonState
  auth := runtime.auth
  listener := runtime.listener
  limits := runtime.limits
  autotuneLimits := runtime.autotuneLimits

def moveTo (i : Nat) (position : Position) : AgentRuntime :=
  { runtime with requests := Function.update runtime.requests i (some position) }

/-- `replace_agent_daemon_state` by this author. -/
def record (author : Author) (daemonState : DaemonState) : AgentRuntime :=
  { runtime with daemonState, authors := runtime.authors ++ [author] }

/-- The guard of `active` is dropped with the handler that has it. -/
def release (i : Nat) : AgentRuntime :=
  { runtime with owner := if runtime.owner = some i then none else runtime.owner }

/-- What a start does with the slot locked: it refuses, or it has a handle for the controller. -/
def admitController (world : World) (policy : DaemonPolicy) (request : AutotuneStartRequest) :
    Except (StatusCode × String × String) ControllerHandle :=
  if runtime.active.isSome then
    .error (.conflict, "autotune_start_conflict", "an autotune session is already active")
  else
    match world.autotuneConfig with
    | .error e => .error (.badRequest, "autotune_config_error",
        s!"invalid autotune configuration: {e}")
    | .ok () =>
      match (if request.profiles.isSome then world.loadProfiles else .ok ()) with
      | .error e => .error (.badRequest, "autotune_profile_load_error",
          s!"failed to load profiles: {e}")
      | .ok () => .ok ⟨policy.mode.asStr, request.watchProcess, request.treePid,
          world.nowUnixNanos, runtime.tasks.length⟩

/-- `mark_agent_daemon_fault` as the last thing a handler does. -/
def fault (world : World) (status : StatusCode) (mode : DaemonMode) (decision reason : String) :
    Position :=
  .writing .other fun agent =>
    (markAgentDaemonFault world agent mode decision reason, ⟨status, .error reason⟩)

/-- The answer of a stop whose controller has ended so. -/
def stopResponse : Join AutotuneControllerExit → Response
  | .done exit =>
    ⟨.ok, .autotuneStopped "stopped" s!"remote autotune session stopped: {exit.reason}"⟩
  | .failed error =>
    ⟨.internalServerError, .error s!"autotune controller failed: {error.alternate}"⟩
  | .joinError error =>
    ⟨.internalServerError, .error s!"autotune controller task join failed: {error}"⟩

/-- The first step of a handler. -/
def enter (world : World) (header : AuthHeader) : AutotuneCall → Position
  | .start request =>
    match policyForRemoteAutotuneStart world runtime.agentState header request with
    | .error rejection => .writing .other fun agent =>
        (markAgentDaemonPolicyRejection world agent (daemonModeFromAgentMode request.mode)
          "autotune_policy_rejected" rejection.auditMessage,
          ⟨rejection.status, .error rejection.responseMessage⟩)
    | .ok policy =>
      match validateAutotuneStartLimits request runtime.autotuneLimits with
      | .error e => fault world .badRequest (daemonModeFromAgentMode request.mode)
          "autotune_limit_rejected" s!"autotune limit rejected: {e}"
      | .ok () => .reaping (.start policy request)
  | .stop =>
    match authorizeAgentPrivilegedOperation header runtime.listener runtime.auth .controlDaemon with
    | .error status => .answered ⟨status, .empty⟩
    | .ok () => .taking
  | .status =>
    match authorize header runtime.auth with
    | .error status => .answered ⟨status, .empty⟩
    | .ok () => .reaping .status
  | .restore route =>
    match authorizeAgentPrivilegedOperation header runtime.listener runtime.auth
      .rollbackAction with
    | .error status => .answered ⟨status, .empty⟩
    | .ok () => .restoring route header

/-- `reap_finished_autotune`, up to where it has the slot. -/
def reapStep (i : Nat) (world : World) (next : AfterReap) : AgentRuntime :=
  match runtime.active with
  | none => runtime.moveTo i next.position
  | some handle =>
    match runtime.result handle.task with
    | none => runtime.moveTo i next.position
    | some join =>
      let ended := autotuneEnded world (daemonModeFromAgentMode handle.mode) runtime.agentState join
      { runtime with active := none }.moveTo i
        (.reaped runtime.tasks.length ended.daemonState next)

/-- A start that has the slot.  It keeps the lock until it has written the daemon's state. -/
def startStep (i : Nat) (world : World) (policy : DaemonPolicy) (request : AutotuneStartRequest) :
    AgentRuntime :=
  match runtime.admitController world policy request with
  | .error (status, decision, reason) =>
    { runtime with owner := some i }.moveTo i (fault world status policy.mode decision reason)
  | .ok handle =>
    { runtime with
      owner := some i
      active := some handle
      tasks := runtime.tasks ++ [ControllerTask.running] }.moveTo i
      (.writing (.started handle.task) fun agent =>
        (replaceAgentDaemonState agent
          (daemonStateForAutotuneStart policy request handle.startedUnixNanos world.nowUnixNanos),
          ⟨.ok, .autotuneStarted policy.mode.asStr (remoteAutotuneStartMessage policy.mode)⟩))

/-- A stop that has the slot.  It takes the handle out, and the slot is free again. -/
def takeStep (i : Nat) (world : World) : AgentRuntime :=
  match runtime.active with
  | none => runtime.moveTo i (.writing (.ended runtime.tasks.length) fun agent =>
      (replaceAgentDaemonState agent (daemonStateForAgentDecision .observe .disabled
        "autotune_stop_no_active_session" "no remote autotune session was active"
        world.nowUnixNanos),
        ⟨.ok, .autotuneStopped "no_active_session" "no remote autotune session was active"⟩))
  | some handle =>
    { runtime with
      active := none
      tasks := runtime.tasks.modify handle.task ControllerTask.stop }.moveTo i
      (.joining handle runtime.tasks.length)

/-- `handle.join.await`. -/
def joinStep (i : Nat) (world : World) (handle : ControllerHandle) (seen : Nat) :
    Option AgentRuntime :=
  (runtime.result handle.task).map fun join =>
    runtime.moveTo i (.writing (.ended seen) fun agent =>
      (autotuneEnded world (daemonModeFromAgentMode handle.mode) agent join, stopResponse join))

/-- A request runs from this `await` to the next.  It cannot while another one keeps the slot. -/
def advance (i : Nat) (world : World) : Position → Option AgentRuntime
  | .arrived header call => some (runtime.moveTo i (runtime.enter world header call))
  | .reaping next =>
    if runtime.owner.isSome then none else some (runtime.reapStep i world next)
  | .reaped seen daemonState next =>
    some ((runtime.record (.ended seen) daemonState).moveTo i next.position)
  | .locking policy request =>
    if runtime.owner.isSome then none else some (runtime.startStep i world policy request)
  | .viewing =>
    if runtime.owner.isSome then none else some ({ runtime with owner := some i }.moveTo i .reading)
  | .reading =>
    let agent := runtime.agentState
    some ((runtime.release i).moveTo i
      (.answered ⟨.ok, .autotuneStatus agent.activeAutotune agent.daemonState⟩))
  | .taking =>
    if runtime.owner.isSome then none else some (runtime.takeStep i world)
  | .joining handle seen => runtime.joinStep i world handle seen
  | .restoring route header =>
    some (runtime.moveTo i (.writing .other fun agent => route.handler world agent header))
  | .writing author rest =>
    let (agent, response) := rest runtime.agentState
    some (((runtime.record author agent.daemonState).release i).moveTo i (.answered response))
  | .answered _ => none

/-- One step of the agent. -/
def step : Event → Option AgentRuntime
  | .arrive i header call =>
    match runtime.requests i with
    | none => some (runtime.moveTo i (.arrived header call))
    | some _ => none
  | .advance i world => (runtime.requests i).bind (runtime.advance i world)
  | .finish task join =>
    if runtime.tasks[task]?.any ControllerTask.live then
      some { runtime with tasks := runtime.tasks.set task (.finished join) }
    else none
  | .disconnect i =>
    if (runtime.requests i).any Position.awaits then
      some { runtime.release i with requests := Function.update runtime.requests i none }
    else none
  | .elsewhere daemonState => some (runtime.record .other daemonState)

/-! ## The slot -/

/-- The handle in the slot is that of a task. -/
def SlotSpawned : Prop := ∀ handle ∈ runtime.active, handle.task < runtime.tasks.length

variable {runtime} {i : Nat} {world : World} {after : AgentRuntime}

theorem SlotSpawned.of_eq (h : runtime.SlotSpawned) (hactive : after.active = runtime.active)
    (htasks : after.tasks.length = runtime.tasks.length) : after.SlotSpawned := by
  intro handle hmem
  rw [htasks]
  exact h handle (hactive ▸ hmem)

theorem SlotSpawned.of_none (hactive : runtime.active = none) : runtime.SlotSpawned := by
  intro handle hmem
  rw [hactive] at hmem
  cases hmem

/-- The slot is looked at and filled in one step. -/
theorem admitController_ok {policy : DaemonPolicy} {request : AutotuneStartRequest}
    {handle : ControllerHandle} (h : runtime.admitController world policy request = .ok handle) :
    runtime.active = none ∧ handle.task = runtime.tasks.length := by
  unfold admitController at h
  split at h
  · cases h
  · next hactive =>
    split at h
    · cases h
    · split at h
      · cases h
      · cases h
        exact ⟨Option.not_isSome_iff_eq_none.mp hactive, rfl⟩

theorem unless_eq_some {α : Type} {blocked : Bool} {x y : α}
    (h : (if blocked then none else some x) = some y) : blocked = false ∧ x = y := by
  cases blocked with
  | false => exact ⟨rfl, Option.some.inj h⟩
  | true => cases h

theorem SlotSpawned.advance {position : Position} (h : runtime.SlotSpawned)
    (hadvance : runtime.advance i world position = some after) : after.SlotSpawned := by
  cases position with
  | arrived header call =>
    obtain rfl := Option.some.inj hadvance
    exact h.of_eq rfl rfl
  | reaping next =>
    obtain ⟨-, rfl⟩ := unless_eq_some hadvance
    unfold reapStep
    split
    · exact h.of_eq rfl rfl
    · split
      · exact h.of_eq rfl rfl
      · exact .of_none rfl
  | reaped seen daemonState next =>
    obtain rfl := Option.some.inj hadvance
    exact h.of_eq rfl rfl
  | locking policy request =>
    obtain ⟨-, rfl⟩ := unless_eq_some hadvance
    unfold startStep
    split
    · exact h.of_eq rfl rfl
    · next handle hadmit =>
      rintro _ ⟨rfl⟩
      have htask := (admitController_ok hadmit).2
      show handle.task < (runtime.tasks ++ [ControllerTask.running]).length
      rw [List.length_append, List.length_singleton]
      omega
  | viewing =>
    obtain ⟨-, rfl⟩ := unless_eq_some hadvance
    exact h.of_eq rfl rfl
  | reading =>
    obtain rfl := Option.some.inj hadvance
    exact h.of_eq rfl rfl
  | taking =>
    obtain ⟨-, rfl⟩ := unless_eq_some hadvance
    unfold takeStep
    split
    · exact h.of_eq rfl rfl
    · exact .of_none rfl
  | joining handle seen =>
    obtain ⟨join, -, rfl⟩ := Option.map_eq_some_iff.mp hadvance
    exact h.of_eq rfl rfl
  | restoring route header =>
    obtain rfl := Option.some.inj hadvance
    exact h.of_eq rfl rfl
  | writing author rest =>
    obtain rfl := Option.some.inj hadvance
    exact h.of_eq rfl rfl
  | answered response => cases hadvance

theorem SlotSpawned.step {event : Event} (h : runtime.SlotSpawned)
    (hstep : runtime.step event = some after) : after.SlotSpawned := by
  cases event with
  | arrive i header call =>
    simp only [AgentRuntime.step] at hstep
    split at hstep
    · obtain rfl := Option.some.inj hstep
      exact h.of_eq rfl rfl
    · cases hstep
  | advance i world =>
    obtain ⟨position, -, hadvance⟩ := Option.bind_eq_some_iff.mp hstep
    exact h.advance hadvance
  | finish task join =>
    obtain ⟨-, hafter⟩ := Option.ite_none_right_eq_some.mp hstep
    obtain rfl := Option.some.inj hafter
    exact h.of_eq rfl List.length_set
  | disconnect i =>
    obtain ⟨-, hafter⟩ := Option.ite_none_right_eq_some.mp hstep
    obtain rfl := Option.some.inj hafter
    exact h.of_eq rfl rfl
  | elsewhere daemonState =>
    obtain rfl := Option.some.inj hstep
    exact h.of_eq rfl rfl

/-! ## A request on its own -/

/-- The request runs to its answer while nothing else does, but that a controller it waits for
ends. -/
inductive Yields (i : Nat) (world : World) : AgentRuntime → AgentState × Response → Prop where
  | answered {runtime : AgentRuntime} {response : Response}
      (h : runtime.requests i = some (.answered response)) :
      Yields i world runtime (runtime.agentState, response)
  | advance {runtime after : AgentRuntime} {outcome : AgentState × Response}
      (h : runtime.step (.advance i world) = some after) (rest : Yields i world after outcome) :
      Yields i world runtime outcome
  | finish {runtime after : AgentRuntime} {outcome : AgentState × Response} {task : Nat}
      (h : runtime.step (.finish task world.autotuneJoin) = some after)
      (rest : Yields i world after outcome) : Yields i world runtime outcome

theorem Yields.of_position {position : Position} {outcome : AgentState × Response}
    (hposition : runtime.requests i = some position)
    (hadvance : runtime.advance i world position = some after)
    (rest : Yields i world after outcome) : Yields i world runtime outcome :=
  .advance (by rw [step, hposition, Option.bind_some, hadvance]) rest

@[simp] theorem moveTo_requests (position : Position) :
    (runtime.moveTo i position).requests i = some position := Function.update_self ..

theorem moveTo_agentState (position : Position) :
    (runtime.moveTo i position).agentState = runtime.agentState := rfl

/-- A last `await` after which only the daemon's state is written. -/
def WritesDaemonState (rest : AgentState → AgentState × Response) : Prop :=
  ∀ agent, (rest agent).1 = { agent with daemonState := (rest agent).1.daemonState }

theorem yields_writing {author : Author} {rest : AgentState → AgentState × Response}
    (hposition : runtime.requests i = some (.writing author rest))
    (hrest : WritesDaemonState rest) :
    Yields i world runtime (rest runtime.agentState) := by
  have houtcome : rest runtime.agentState =
      (((runtime.record author (rest runtime.agentState).1.daemonState).release i).agentState,
        (rest runtime.agentState).2) := Prod.ext (hrest runtime.agentState) rfl
  refine .of_position hposition rfl ?_
  rw [houtcome]
  exact .answered (moveTo_requests _)

/-- `reap_finished_autotune` on its own, and then the handler goes on. -/
theorem yields_reaping {next : AfterReap} {outcome : AgentState × Response}
    (hposition : runtime.requests i = some (.reaping next)) (howner : runtime.owner = none)
    (rest : ∀ after : AgentRuntime, after.owner = none →
      after.requests i = some next.position →
      after.agentState = (reapFinishedAutotune world runtime.agentState).1 →
      Yields i world after outcome) : Yields i world runtime outcome := by
  have hadvance : runtime.advance i world (.reaping next) =
      some (runtime.reapStep i world next) := by
    rw [advance, howner]
    rfl
  refine .of_position hposition hadvance ?_
  cases hactive : runtime.active with
  | none =>
    have hreap : reapFinishedAutotune world runtime.agentState =
        (runtime.agentState, .noneActive) := by
      simp only [reapFinishedAutotune, agentState, hactive, Option.map_none]
    simp only [reapStep, hactive]
    exact rest _ howner (moveTo_requests _) (by rw [moveTo_agentState, hreap])
  | some handle =>
    cases hresult : runtime.result handle.task with
    | none =>
      have hreap :
          reapFinishedAutotune world runtime.agentState = (runtime.agentState, .stillActive) := by
        simp only [reapFinishedAutotune, agentState, hactive, Option.map_some, hresult]
      simp only [reapStep, hactive, hresult]
      exact rest _ howner (moveTo_requests _) (by rw [moveTo_agentState, hreap])
    | some join =>
      simp only [reapStep, hactive, hresult]
      refine .of_position (moveTo_requests _) rfl (rest _ howner (moveTo_requests _) ?_)
      simp only [reapFinishedAutotune, agentState, hactive, Option.map_some, hresult]
      cases join <;> rfl

theorem yields_viewing (hposition : runtime.requests i = some .viewing)
    (howner : runtime.owner = none) :
    Yields i world runtime (runtime.agentState,
      ⟨.ok, .autotuneStatus runtime.agentState.activeAutotune runtime.agentState.daemonState⟩) := by
  have hadvance : runtime.advance i world .viewing =
      some ({ runtime with owner := some i }.moveTo i .reading) := by
    rw [advance, howner]
    rfl
  refine .of_position hposition hadvance (.of_position (moveTo_requests _) rfl ?_)
  exact .answered (moveTo_requests _)

/-- The controller that was spawned last has not ended. -/
theorem result_append_running (tasks : List ControllerTask) :
    ((tasks ++ [ControllerTask.running])[tasks.length]?).bind ControllerTask.result = none := by
  rw [List.getElem?_concat_length]
  rfl

theorem yields_locking {policy : DaemonPolicy} {request : AutotuneStartRequest}
    (hposition : runtime.requests i = some (.locking policy request))
    (howner : runtime.owner = none) :
    Yields i world runtime
      (match runtime.admitController world policy request with
      | .error (status, decision, reason) =>
        (markAgentDaemonFault world runtime.agentState policy.mode decision reason,
          ⟨status, .error reason⟩)
      | .ok handle =>
        (replaceAgentDaemonState
          { runtime.agentState with
            activeAutotune := some ⟨handle.mode, handle.watchProcess, handle.treePid,
              handle.startedUnixNanos, none⟩ }
          (daemonStateForAutotuneStart policy request handle.startedUnixNanos world.nowUnixNanos),
          ⟨.ok, .autotuneStarted policy.mode.asStr (remoteAutotuneStartMessage policy.mode)⟩)) := by
  have hadvance : runtime.advance i world (.locking policy request) =
      some (runtime.startStep i world policy request) := by
    rw [advance, howner]
    rfl
  refine .of_position hposition hadvance ?_
  cases hadmit : runtime.admitController world policy request with
  | error refusal =>
    simp only [startStep, hadmit]
    exact yields_writing (moveTo_requests _) fun _ => rfl
  | ok handle =>
    have htask : (runtime.tasks ++ [ControllerTask.running])[handle.task]?.bind
        ControllerTask.result = none := by
      rw [(admitController_ok hadmit).2]
      exact result_append_running runtime.tasks
    simp only [startStep, hadmit]
    rw [← htask]
    exact yields_writing (moveTo_requests _) fun _ => rfl

theorem yields_joining {handle : ControllerHandle} {seen : Nat} {join : Join AutotuneControllerExit}
    (hposition : runtime.requests i = some (.joining handle seen))
    (hresult : runtime.result handle.task = some join) :
    Yields i world runtime
      (autotuneEnded world (daemonModeFromAgentMode handle.mode) runtime.agentState join,
        stopResponse join) := by
  have hadvance : runtime.advance i world (.joining handle seen) =
      some (runtime.moveTo i (.writing (.ended seen) fun agent =>
        (autotuneEnded world (daemonModeFromAgentMode handle.mode) agent join,
          stopResponse join))) := by
    rw [advance, joinStep, hresult, Option.map_some]
  refine .of_position hposition hadvance (yields_writing (moveTo_requests _) fun agent => ?_)
  cases join <;> rfl

theorem ControllerTask.result_stop (task : ControllerTask) : task.stop.result = task.result := by
  cases task <;> rfl

/-- A controller that was told to stop ends as it would have. -/
theorem result_modify_stop (tasks : List ControllerTask) (k : Nat) :
    ((tasks.modify k ControllerTask.stop)[k]?).bind ControllerTask.result =
      tasks[k]?.bind ControllerTask.result := by
  rw [List.getElem?_modify_eq]
  cases tasks[k]? with
  | none => rfl
  | some task => exact ControllerTask.result_stop task

/-- A stop on its own waits for the controller, whose end comes if it has not come before. -/
theorem yields_taking (hslot : runtime.SlotSpawned)
    (hposition : runtime.requests i = some .taking) (howner : runtime.owner = none) :
    Yields i world runtime
      (match runtime.agentState.activeAutotune with
      | none =>
        (replaceAgentDaemonState runtime.agentState (daemonStateForAgentDecision .observe .disabled
          "autotune_stop_no_active_session" "no remote autotune session was active"
          world.nowUnixNanos),
          ⟨.ok, .autotuneStopped "no_active_session" "no remote autotune session was active"⟩)
      | some handle =>
        let join := handle.finished.getD world.autotuneJoin
        (autotuneEnded world (daemonModeFromAgentMode handle.mode)
          { runtime.agentState with activeAutotune := none } join, stopResponse join)) := by
  have hadvance : runtime.advance i world .taking = some (runtime.takeStep i world) := by
    rw [advance, howner]
    rfl
  refine .of_position hposition hadvance ?_
  cases hactive : runtime.active with
  | none =>
    have hnone : runtime.agentState.activeAutotune = none := by
      rw [agentState, hactive, Option.map_none]
    simp only [takeStep, hactive, hnone]
    exact yields_writing (moveTo_requests _) fun _ => rfl
  | some handle =>
    have hsome : runtime.agentState.activeAutotune = some ⟨handle.mode, handle.watchProcess,
        handle.treePid, handle.startedUnixNanos, runtime.result handle.task⟩ := by
      rw [agentState, hactive, Option.map_some]
    simp only [takeStep, hactive, hsome]
    have hstopped := result_modify_stop runtime.tasks handle.task
    cases hresult : runtime.result handle.task with
    | some join => exact yields_joining (moveTo_requests _) (hstopped.trans hresult)
    | none =>
      have hlength := hslot handle hactive
      have hlive : ((runtime.tasks.modify handle.task ControllerTask.stop)[handle.task]?).any
          ControllerTask.live := by
        rw [result, ← hstopped, List.getElem?_modify_eq,
          List.getElem?_eq_getElem hlength] at hresult
        rw [List.getElem?_modify_eq, List.getElem?_eq_getElem hlength]
        exact Option.isNone_iff_eq_none.mpr hresult
      refine .finish (if_pos hlive) (yields_joining (moveTo_requests _) ?_)
      rw [result, moveTo, List.getElem?_set_self (by rwa [List.length_modify])]
      rfl

section Handlers
variable {header : AuthHeader}

theorem restore_writes (route : RestoreRoute) :
    WritesDaemonState fun agent => route.handler world agent header := by
  intro agent
  cases route with
  | autotune =>
    simp only [RestoreRoute.handler, autotuneRestoreHandler]
    repeat' split
    all_goals rfl
  | daemon =>
    simp only [RestoreRoute.handler, daemonRestoreHandler]
    repeat' split
    all_goals rfl

theorem restore_yields {route : RestoreRoute}
    (hposition : runtime.requests i = some (.arrived header (.restore route))) :
    Yields i world runtime (route.handler world runtime.agentState header) := by
  refine .of_position hposition rfl ?_
  cases hauth : authorizeAgentPrivilegedOperation header runtime.listener runtime.auth
      .rollbackAction with
  | error status =>
    have hhandler : route.handler world runtime.agentState header =
        (runtime.agentState, ⟨status, .empty⟩) := by
      cases route with
      | autotune => simp only [RestoreRoute.handler, autotuneRestoreHandler, agentState, hauth]
      | daemon => simp only [RestoreRoute.handler, daemonRestoreHandler, agentState, hauth]
    simp only [enter, hauth, hhandler]
    exact .answered (moveTo_requests _)
  | ok _ =>
    simp only [enter, hauth]
    refine .of_position (moveTo_requests _) rfl ?_
    exact yields_writing (moveTo_requests _) (restore_writes route)

theorem status_yields (hposition : runtime.requests i = some (.arrived header .status))
    (howner : runtime.owner = none) :
    Yields i world runtime (autotuneStatusHandler world runtime.agentState header) := by
  refine .of_position hposition rfl ?_
  cases hauth : authorize header runtime.auth with
  | error status =>
    simp only [enter, autotuneStatusHandler, agentState, hauth]
    exact .answered (moveTo_requests _)
  | ok _ =>
    simp only [enter, hauth]
    refine yields_reaping (moveTo_requests _) howner fun after hafter hviewing hagent => ?_
    rw [moveTo_agentState] at hagent
    have hauth' : authorize header runtime.agentState.auth = .ok () := hauth
    simp only [autotuneStatusHandler, hauth', ← hagent]
    exact yields_viewing hviewing hafter

theorem start_yields {request : AutotuneStartRequest}
    (hposition : runtime.requests i = some (.arrived header (.start request)))
    (howner : runtime.owner = none) :
    Yields i world runtime (autotuneStartHandler world runtime.agentState header request) := by
  refine .of_position hposition rfl ?_
  cases hpolicy : policyForRemoteAutotuneStart world runtime.agentState header request with
  | error rejection =>
    simp only [enter, autotuneStartHandler, hpolicy]
    exact yields_writing (moveTo_requests _) fun _ => rfl
  | ok policy =>
    have hsame : runtime.agentState.autotuneLimits = runtime.autotuneLimits := rfl
    cases hlimits : validateAutotuneStartLimits request runtime.autotuneLimits with
    | error e =>
      simp only [enter, autotuneStartHandler, hpolicy, hsame, hlimits]
      exact yields_writing (moveTo_requests _) fun _ => rfl
    | ok _ =>
      simp only [enter, autotuneStartHandler, hpolicy, hsame, hlimits]
      refine yields_reaping (moveTo_requests _) howner fun after hafter hlocking hagent => ?_
      rw [moveTo_agentState] at hagent
      rw [← hagent]
      have hslot : after.agentState.activeAutotune.isSome = after.active.isSome := Option.isSome_map
      have hyields : Yields i world after _ := yields_locking hlocking hafter
      simp only [admitController] at hyields
      rw [hslot]
      split
      · next hactive =>
        simp only [hactive] at hyields
        exact hyields
      · next hactive =>
        simp only [hactive] at hyields
        cases hconfig : world.autotuneConfig with
        | error e =>
          simp only [hconfig] at hyields
          exact hyields
        | ok _ =>
          simp only [hconfig] at hyields
          cases hprofiles : if request.profiles.isSome then world.loadProfiles else .ok () with
          | error e =>
            simp only [hprofiles] at hyields
            exact hyields
          | ok _ =>
            simp only [hprofiles] at hyields
            exact hyields

theorem stop_yields (hslot : runtime.SlotSpawned)
    (hposition : runtime.requests i = some (.arrived header .stop))
    (howner : runtime.owner = none) :
    Yields i world runtime (autotuneStopHandler world runtime.agentState header) := by
  refine .of_position hposition rfl ?_
  have hsame : authorizeAgentPrivilegedOperation header runtime.agentState.listener
      runtime.agentState.auth .controlDaemon =
    authorizeAgentPrivilegedOperation header runtime.listener runtime.auth .controlDaemon := rfl
  cases hauth : authorizeAgentPrivilegedOperation header runtime.listener runtime.auth
      .controlDaemon with
  | error status =>
    simp only [enter, autotuneStopHandler, hsame, hauth]
    exact .answered (moveTo_requests _)
  | ok _ =>
    simp only [enter, autotuneStopHandler, hsame, hauth]
    have hyields : Yields i world (runtime.moveTo i .taking) _ :=
      yields_taking hslot (moveTo_requests .taking) howner
    rw [moveTo_agentState] at hyields
    exact hyields

/-- In every state the agent can reach, a request that nothing interleaves with has the effect and
the answer of its handler run as one step. -/
theorem reached_yields_handle (daemonState : DaemonState) (auth : AgentAuth) (listener : Listener)
    (limits : AgentLimits) (autotuneLimits : AgentAutotuneLimits) {events : List Event}
    (hrun : GuardedRun.run step (initial daemonState auth listener limits autotuneLimits) events =
      some runtime) {call : AutotuneCall}
    (hposition : runtime.requests i = some (.arrived header call)) (howner : runtime.owner = none) :
    Yields i world runtime (handle world runtime.agentState header call.route) := by
  have hslot : runtime.SlotSpawned := GuardedRun.invariant
    (fun _ _ _ h _ hstep => SlotSpawned.step h hstep) (.of_none rfl) GuardedRun.Meets.trivial hrun
  cases call with
  | start request =>
    simp only [AutotuneCall.route, handle]
    exact start_yields hposition howner
  | stop => exact stop_yields hslot hposition howner
  | status => exact status_yields hposition howner
  | restore route => cases route <;> exact restore_yields hposition

end Handlers

end AgentRuntime

end Stutter.Agent

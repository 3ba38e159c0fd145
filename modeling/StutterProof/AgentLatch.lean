import StutterProof.AgentRejection

/-! # The agent's fault

A controller that fails, or a restore that does, leaves a fault in the daemon's state.  It should
stay until everything is restored.  The fault is one field of a record that most handlers replace;
`wipes` collects the requests that lose it. -/
namespace Stutter.Agent

/-- What happens to the agent: a request, or the end of one of its tasks. -/
inductive Event where
  | request (world : World) (header : AuthHeader) (request : Request)
  | runFinishes (join : Join String)
  | autotuneFinishes (join : Join AutotuneControllerExit)

def AgentState.step (state : AgentState) : Event → AgentState
  | .request world header request => (handle world state header request).1
  | .runFinishes join => { state with
      activeRun := state.activeRun.map fun run =>
        { run with finished := run.finished.or (some join) } }
  | .autotuneFinishes join => { state with
      activeAutotune := state.activeAutotune.map fun controller =>
        { controller with finished := controller.finished.or (some join) } }

/-! ## Finished tasks -/

section
variable (world : World) (state : AgentState)

/-- The result of the recording, if it has ended. -/
def endedRun : Option (Join String) := state.activeRun.bind (·.finished)

/-- The result of the controller, if it has ended. -/
def endedAutotune : Option (Join AutotuneControllerExit) := state.activeAutotune.bind (·.finished)

/-- What stopping the controller brings, if there is one. -/
def stoppedAutotune : Option (Join AutotuneControllerExit) :=
  state.activeAutotune.map (·.finished.getD world.autotuneJoin)

def stoppedRun : Option (Join String) := state.activeRun.map (·.finished.getD world.runJoin)

/-- The request gets past the policy and the limits. -/
def reachesReap (header : AuthHeader) (request : AutotuneStartRequest) : Bool :=
  (policyForRemoteAutotuneStart world state header request).isOk &&
    (validateAutotuneStartLimits request state.autotuneLimits).isOk

def restoreSucceeds : Bool := world.restoreAutotune.toOption.any (·.status.isSuccess)

end

/-! ## What sets the fault, and what may clear it -/

/-- The step records a controller that failed, or a restore that did. -/
def recordsFault (state : AgentState) : Event → Bool
  | .request world header request =>
    (authorization state header request).isOk && match request with
      | .autotuneStatus | .daemonStatus => (endedAutotune state).any (!·.isDone)
      | .autotuneStart start =>
        reachesReap world state header start && (endedAutotune state).any (!·.isDone)
      | .autotuneStop => (stoppedAutotune world state).any (!·.isDone)
      | .autotuneRestore => !restoreSucceeds world
      | .daemonRestore => !restoreSucceeds world || !world.restoreProfiles.isOk
      | _ => false
  | _ => false

/-- The step is a restore that leaves nothing behind: no autotune action and no profile record. -/
def completesRestore (state : AgentState) : Event → Bool
  | .request world header request =>
    (authorization state header request).isOk && restoreSucceeds world && match request with
      | .autotuneRestore => world.profileRecords == 0
      | .daemonRestore => world.restoreProfiles.toOption.any (·.summary.errors == 0)
      | _ => false
  | _ => false

/-- The step replaces the daemon's state by one without a fault, and is no complete restore. -/
def wipes (state : AgentState) : Event → Bool
  | .request world header request =>
    (authorization state header request).isOk && match request with
      | .daemonPause => true
      | .recordStart start =>
        !(start.foregroundIncludeTitle && !state.listener.isLocal) &&
          (validateRemoteRequestLimits world start state.limits).isOk &&
          !state.activeRun.any (·.finished.isNone) && world.recordConfig.isOk
      | .recordStop => (stoppedRun world state).all (·.isDone)
      | .recordStatus => (endedRun state).any (·.isDone)
      | .autotuneStatus => (endedAutotune state).any (·.isDone)
      | .daemonStatus => (endedAutotune state).any (·.isDone) ||
        ((endedRun state).any (·.isDone) && (endedAutotune state).isNone)
      | .autotuneStart start =>
        reachesReap world state header start && !state.activeAutotune.any (·.finished.isNone) &&
          world.autotuneConfig.isOk && (start.profiles.isNone || world.loadProfiles.isOk)
      | .autotuneStop => (stoppedAutotune world state).all (·.isDone)
      | .autotuneRestore => restoreSucceeds world && world.profileRecords != 0
      | .daemonRestore => restoreSucceeds world &&
        world.restoreProfiles.toOption.any (·.summary.errors != 0)
      | _ => false
  | _ => false

/-- The step accepts a controller in an apply mode. -/
def startsApply (state : AgentState) : Event → Bool
  | .request world header (.autotuneStart request) =>
    match (handle world state header (.autotuneStart request)).2.body with
    | .autotuneStarted mode _ => (daemonModeFromAgentMode mode).supportsApply
    | _ => false
  | _ => false

/-! ## One step -/

section Steps
variable (world : World) (state : AgentState) (header : AuthHeader)

theorem isFaulted_recordEnded (id decision : String) (failure : ErrorText → String)
    (join : Join String) :
    (recordEnded world id decision state failure join).daemonState.isFaulted = !join.isDone := by
  cases join <;> rfl

theorem isFaulted_autotuneEnded (mode : DaemonMode) (join : Join AutotuneControllerExit) :
    (autotuneEnded world mode state join).daemonState.isFaulted = !join.isDone := by
  cases join <;> rfl

theorem isFaulted_reapFinishedRecording :
    (reapFinishedRecording world state).1.daemonState.isFaulted =
      match endedRun state with
      | none => state.daemonState.isFaulted
      | some join => !join.isDone := by
  unfold reapFinishedRecording endedRun
  cases state.activeRun with
  | none => rfl
  | some run =>
    cases hfinished : run.finished with
    | none => simp [hfinished]
    | some join => simpa [hfinished] using isFaulted_recordEnded world _ _ _ _ join

theorem isFaulted_reapFinishedAutotune :
    (reapFinishedAutotune world state).1.daemonState.isFaulted =
      match endedAutotune state with
      | none => state.daemonState.isFaulted
      | some join => !join.isDone := by
  unfold reapFinishedAutotune endedAutotune
  cases state.activeAutotune with
  | none => rfl
  | some controller =>
    cases hfinished : controller.finished with
    | none => simp [hfinished]
    | some join => simpa [hfinished] using isFaulted_autotuneEnded world _ _ join

@[simp] theorem activeAutotune_recordEnded (id decision : String) (failure : ErrorText → String)
    (join : Join String) :
    (recordEnded world id decision state failure join).activeAutotune = state.activeAutotune := by
  cases join <;> rfl

theorem endedAutotune_reapFinishedRecording :
    endedAutotune (reapFinishedRecording world state).1 = endedAutotune state := by
  unfold reapFinishedRecording endedAutotune
  cases state.activeRun with
  | none => rfl
  | some run =>
    cases hfinished : run.finished with
    | none => simp [hfinished]
    | some join => simp [hfinished]

theorem activeRun_reapFinishedRecording :
    (reapFinishedRecording world state).1.activeRun.isSome =
      state.activeRun.any (·.finished.isNone) := by
  unfold reapFinishedRecording
  cases hrun : state.activeRun with
  | none => simp [hrun]
  | some run =>
    cases hfinished : run.finished with
    | none => simp [hrun, hfinished]
    | some join => cases join <;> simp [hfinished, recordEnded, replaceAgentDaemonState,
        markAgentDaemonFault]

theorem activeAutotune_reapFinishedAutotune :
    (reapFinishedAutotune world state).1.activeAutotune.isSome =
      state.activeAutotune.any (·.finished.isNone) := by
  unfold reapFinishedAutotune
  cases hactive : state.activeAutotune with
  | none => simp [hactive]
  | some controller =>
    cases hfinished : controller.finished with
    | none => simp [hactive, hfinished]
    | some join => cases join <;> simp [hfinished, autotuneEnded, replaceAgentDaemonState,
        markAgentDaemonFault]

variable {world state header}

/-! What each handler leaves of the fault, once the request is authorised. -/

theorem isFaulted_startRecordHandler {request : RemoteMonitorRequest}
    (hauth : authorizeAgentPrivilegedOperation header state.listener state.auth .startRecording =
      .ok ()) (hfaulted : state.daemonState.isFaulted = true) :
    (startRecordHandler world state header request).1.daemonState.isFaulted =
      !(!(request.foregroundIncludeTitle && !state.listener.isLocal) &&
        (validateRemoteRequestLimits world request state.limits).isOk &&
        !state.activeRun.any (·.finished.isNone) && world.recordConfig.isOk) := by
  unfold startRecordHandler
  simp only [hauth]
  cases htitle : (request.foregroundIncludeTitle && !state.listener.isLocal) with
  | true => simpa using hfaulted
  | false =>
    cases hlimits : validateRemoteRequestLimits world request state.limits with
    | error e => simp [Except.isOk, Except.toBool]; rfl
    | ok u =>
      have hactive := activeRun_reapFinishedRecording world state
      cases hrunning : state.activeRun.any (·.finished.isNone) with
      | true =>
        rw [hrunning] at hactive
        simp [hactive, Except.isOk, Except.toBool]; rfl
      | false =>
        rw [hrunning] at hactive
        cases hconfig : world.recordConfig with
        | error e => simp [hactive, Except.isOk, Except.toBool]; rfl
        | ok u' => simp [hactive, Except.isOk, Except.toBool]; rfl

variable {request : AutotuneStartRequest}

theorem isFaulted_autotuneStartHandler :
    (autotuneStartHandler world state header request).1.daemonState.isFaulted =
      !(reachesReap world state header request && !state.activeAutotune.any (·.finished.isNone) &&
        world.autotuneConfig.isOk && (request.profiles.isNone || world.loadProfiles.isOk)) := by
  unfold autotuneStartHandler
  unfold reachesReap
  cases hpolicy : policyForRemoteAutotuneStart world state header request with
  | error rejection => simp [Except.isOk, Except.toBool]; rfl
  | ok policy =>
    cases hlimits : validateAutotuneStartLimits request state.autotuneLimits with
    | error e => simp [Except.isOk, Except.toBool]; rfl
    | ok u =>
      have hactive := activeAutotune_reapFinishedAutotune world state
      cases hrunning : state.activeAutotune.any (·.finished.isNone) with
      | true =>
        rw [hrunning] at hactive
        simp [hactive, Except.isOk, Except.toBool]; rfl
      | false =>
        rw [hrunning] at hactive
        cases hconfig : world.autotuneConfig with
        | error e => simp [hactive, Except.isOk, Except.toBool]; rfl
        | ok u' =>
          cases hprofiles : request.profiles with
          | none => simp [hactive, Except.isOk, Except.toBool]; rfl
          | some path =>
            cases hload : world.loadProfiles with
            | error e => simp [hactive, Except.isOk, Except.toBool]; rfl
            | ok u'' => simp [hactive, Except.isOk, Except.toBool]; rfl

theorem isFaulted_stopRecordHandler (hauth : authorization state header .recordStop = .ok ()) :
    (stopRecordHandler world state header).1.daemonState.isFaulted =
      !(stoppedRun world state).all (·.isDone) := by
  unfold stopRecordHandler stoppedRun
  simp only [show authorizeAgentPrivilegedOperation header state.listener state.auth
    .stopRecording = .ok () from hauth]
  cases state.activeRun with
  | none => rfl
  | some run => simpa using isFaulted_recordEnded world _ _ _ _ (run.finished.getD world.runJoin)

theorem isFaulted_autotuneStopHandler (hauth : authorization state header .autotuneStop = .ok ()) :
    (autotuneStopHandler world state header).1.daemonState.isFaulted =
      !(stoppedAutotune world state).all (·.isDone) := by
  unfold autotuneStopHandler stoppedAutotune
  simp only [show authorizeAgentPrivilegedOperation header state.listener state.auth
    .controlDaemon = .ok () from hauth]
  cases state.activeAutotune with
  | none => rfl
  | some controller =>
    simpa using isFaulted_autotuneEnded world _ _ (controller.finished.getD world.autotuneJoin)

theorem isFaulted_recordStatusHandler (hauth : authorization state header .recordStatus = .ok ())
    (hfaulted : state.daemonState.isFaulted = true) :
    (recordStatusHandler world state header).1.daemonState.isFaulted =
      !(endedRun state).any (·.isDone) := by
  unfold recordStatusHandler
  simp only [show authorize header state.auth = .ok () from hauth, isFaulted_reapFinishedRecording]
  cases endedRun state with
  | none => simpa using hfaulted
  | some join => rfl

theorem isFaulted_autotuneStatusHandler
    (hauth : authorization state header .autotuneStatus = .ok ())
    (hfaulted : (state.daemonState.isFaulted || (endedAutotune state).any (!·.isDone)) = true) :
    (autotuneStatusHandler world state header).1.daemonState.isFaulted =
      !(endedAutotune state).any (·.isDone) := by
  unfold autotuneStatusHandler
  simp only [show authorize header state.auth = .ok () from hauth, isFaulted_reapFinishedAutotune]
  cases hended : endedAutotune state with
  | none => simpa [hended] using hfaulted
  | some join => rfl

theorem isFaulted_daemonStatusHandler (hauth : authorization state header .daemonStatus = .ok ())
    (hfaulted : (state.daemonState.isFaulted || (endedAutotune state).any (!·.isDone)) = true) :
    (daemonStatusHandler world state header).1.daemonState.isFaulted =
      !((endedAutotune state).any (·.isDone) ||
        ((endedRun state).any (·.isDone) && (endedAutotune state).isNone)) := by
  unfold daemonStatusHandler
  simp only [show authorize header state.auth = .ok () from hauth, isFaulted_reapFinishedAutotune,
    endedAutotune_reapFinishedRecording, isFaulted_reapFinishedRecording]
  cases hended : endedAutotune state with
  | some join => simp
  | none =>
    cases endedRun state with
    | none => simpa [hended] using hfaulted
    | some join => simp

theorem isFaulted_autotuneRestoreHandler
    (hauth : authorization state header .autotuneRestore = .ok ()) :
    (autotuneRestoreHandler world state header).1.daemonState.isFaulted =
      (!(restoreSucceeds world && world.profileRecords != 0) &&
        !(restoreSucceeds world && world.profileRecords == 0)) := by
  unfold autotuneRestoreHandler restoreSucceeds
  simp only [show authorizeAgentPrivilegedOperation header state.listener state.auth
    .rollbackAction = .ok () from hauth]
  cases world.restoreAutotune with
  | error e => rfl
  | ok outcome =>
    cases hsuccess : outcome.status.isSuccess with
    | false => simp [Except.toOption, hsuccess]; rfl
    | true =>
      cases hrecords : world.profileRecords == 0 with
      | true => simp only [Except.toOption, Option.any_some, hsuccess, bne, hrecords]; rfl
      | false => simp only [Except.toOption, Option.any_some, hsuccess, bne, hrecords]; rfl

theorem isFaulted_daemonRestoreHandler
    (hauth : authorization state header .daemonRestore = .ok ()) :
    (daemonRestoreHandler world state header).1.daemonState.isFaulted =
      (!(restoreSucceeds world && world.restoreProfiles.toOption.any (·.summary.errors != 0)) &&
        !(restoreSucceeds world && world.restoreProfiles.toOption.any
          (·.summary.errors == 0))) := by
  unfold daemonRestoreHandler restoreSucceeds
  simp only [show authorizeAgentPrivilegedOperation header state.listener state.auth
    .rollbackAction = .ok () from hauth]
  cases world.restoreAutotune with
  | error e => rfl
  | ok outcome =>
    cases world.restoreProfiles with
    | error e => simp [Except.toOption]; rfl
    | ok profile =>
      cases hsuccess : outcome.status.isSuccess with
      | false => simp [Except.toOption, hsuccess]; rfl
      | true =>
        cases herrors : profile.summary.errors == 0 with
        | true => simp only [Except.toOption, Option.any_some, hsuccess, bne, herrors]; rfl
        | false => simp only [Except.toOption, Option.any_some, hsuccess, bne, herrors]; rfl

/-- A policy that accepts a start has authorised it. -/
theorem authorization_of_reachesReap (h : reachesReap world state header request = true) :
    authorization state header (.autotuneStart request) = .ok () := by
  cases hauth : authorization state header (.autotuneStart request) with
  | ok u => rfl
  | error status =>
    obtain ⟨rejection, hrejects, -⟩ := policyForRemoteAutotuneStart_rejects world hauth
    simp [reachesReap, hrejects, Except.isOk, Except.toBool] at h

/-- A request that is not authorised leaves a fault where there was one. -/
theorem isFaulted_of_unauthorized {request : Request} {status : StatusCode}
    (h : authorization state header request = .error status)
    (hfaulted : state.daemonState.isFaulted = true) :
    (handle world state header request).1.daemonState.isFaulted = true := by
  cases request with
  | recordStart request =>
    rw [handle_recordStart_rejected h]
    rfl
  | autotuneStart request =>
    obtain ⟨rejection, hhandle, -⟩ := handle_autotuneStart_rejected world h
    rw [hhandle]
    rfl
  | _ =>
    rw [stops_at_authorization (by simp) (by simp) h]
    exact hfaulted

/-- **What a step leaves of the fault.**  If there was one, or the step records one, it is there
after the step exactly if the step neither wipes it nor completes a restore. -/
theorem isFaulted_step (event : Event)
    (h : (state.daemonState.isFaulted || recordsFault state event) = true) :
    (state.step event).daemonState.isFaulted =
      (!wipes state event && !completesRestore state event) := by
  cases event with
  | runFinishes join | autotuneFinishes join =>
    simpa [recordsFault, wipes, completesRestore, AgentState.step] using h
  | request world header request =>
    unfold recordsFault at h
    unfold wipes completesRestore AgentState.step
    cases hauth : authorization state header request with
    | error status =>
      simp only [hauth, Except.isOk, Except.toBool, Bool.false_and, Bool.or_false] at h ⊢
      exact isFaulted_of_unauthorized hauth h
    | ok u =>
      simp only [hauth, Except.isOk, Except.toBool, Bool.true_and] at h ⊢
      cases request with
      | health | version | capabilities => simpa [handle] using h
      | recordStart start =>
        simp only [Bool.or_false, Bool.and_false, Bool.not_false, Bool.and_true] at h ⊢
        exact isFaulted_startRecordHandler hauth h
      | recordStop =>
        simp only [Bool.or_false, Bool.and_false, Bool.not_false, Bool.and_true] at h ⊢
        exact isFaulted_stopRecordHandler hauth
      | recordStatus =>
        simp only [Bool.or_false, Bool.and_false, Bool.not_false, Bool.and_true] at h ⊢
        exact isFaulted_recordStatusHandler hauth h
      | autotuneStatus =>
        simp only [Bool.and_false, Bool.not_false, Bool.and_true] at h ⊢
        exact isFaulted_autotuneStatusHandler hauth h
      | autotuneStart start =>
        simp only [handle, Bool.and_false, Bool.not_false, Bool.and_true]
        exact isFaulted_autotuneStartHandler
      | autotuneStop =>
        simp only [Bool.and_false, Bool.not_false, Bool.and_true]
        exact isFaulted_autotuneStopHandler hauth
      | autotuneRestore => exact isFaulted_autotuneRestoreHandler hauth
      | daemonStatus =>
        simp only [Bool.and_false, Bool.not_false, Bool.and_true] at h ⊢
        exact isFaulted_daemonStatusHandler hauth h
      | daemonPause => simp only [handle, daemonPauseHandler, show authorizeAgentPrivilegedOperation
          header state.listener state.auth .controlDaemon = .ok () from hauth]; rfl
      | daemonResume =>
        simp only [Bool.or_false, Bool.and_false, Bool.not_false, Bool.and_true] at h ⊢
        simp only [handle, daemonResumeHandler, show authorizeAgentPrivilegedOperation
          header state.listener state.auth .controlDaemon = .ok () from hauth, h, if_true]
      | daemonRestore => exact isFaulted_daemonRestoreHandler hauth
      | daemonHealth | daemonPolicy | daemonExplain | autotuneHistory | autotuneConfig | runs
      | session _ | artifact _ _ =>
        simpa [handle, readHandler, show authorize header state.auth = .ok () from hauth] using h

/-- A start that is accepted wipes the fault. -/
theorem wipes_of_started {mode message : String}
    (h : (autotuneStartHandler world state header request).2.body = .autotuneStarted mode message) :
    wipes state (.request world header (.autotuneStart request)) = true := by
  unfold autotuneStartHandler at h
  cases hpolicy : policyForRemoteAutotuneStart world state header request with
  | error rejection => simp [hpolicy] at h
  | ok policy =>
    cases hlimits : validateAutotuneStartLimits request state.autotuneLimits with
    | error e => simp [hpolicy, hlimits] at h
    | ok u =>
      have hreaches : reachesReap world state header request = true := by
        simp [reachesReap, hpolicy, hlimits, Except.isOk, Except.toBool]
      have hauth := authorization_of_reachesReap hreaches
      have hactive := activeAutotune_reapFinishedAutotune world state
      simp only [hpolicy, hlimits, hactive] at h
      cases hrunning : state.activeAutotune.any (·.finished.isNone) with
      | true => simp [hrunning] at h
      | false =>
        cases hconfig : world.autotuneConfig with
        | error e => simp [hrunning, hconfig] at h
        | ok u' =>
          cases hprofiles : request.profiles with
          | none => simp [wipes, hauth, hreaches, hrunning, hconfig, hprofiles, Except.isOk,
              Except.toBool]
          | some path =>
            cases hload : world.loadProfiles with
            | error e => simp [hrunning, hconfig, hprofiles, hload] at h
            | ok u'' => simp [wipes, hauth, hreaches, hrunning, hconfig, hprofiles, hload,
                Except.isOk, Except.toBool]

theorem wipes_of_startsApply {event : Event} (h : startsApply state event = true) :
    wipes state event = true := by
  unfold startsApply at h
  split at h
  · split at h
    · rename_i hbody
      simp only [handle] at hbody
      exact wipes_of_started hbody
    · cases h
  · cases h

/-- A step that wipes the fault is no complete restore. -/
theorem not_completesRestore_of_wipes {event : Event} (h : wipes state event = true) :
    completesRestore state event = false := by
  cases event with
  | runFinishes join | autotuneFinishes join => rfl
  | request world header request =>
    unfold wipes at h
    unfold completesRestore
    rw [Bool.and_eq_true] at h
    cases request with
    | autotuneRestore =>
      simp only [Bool.and_eq_true, bne_iff_ne] at h
      simp [h.2.2]
    | daemonRestore =>
      cases hprofiles : world.restoreProfiles with
      | error e => simp [hprofiles, Except.toOption]
      | ok profile =>
        simp only [hprofiles, Except.toOption, Option.any_some, Bool.and_eq_true, bne_iff_ne] at h
        simp [hprofiles, Except.toOption, h.2.2]
    | _ => simp

end Steps

/-! ## Runs -/

/-- Whether the fault has to stay: a failure was recorded, and since then no restore completed. -/
def latchAfter (state : AgentState) (latched : Bool) (event : Event) : Bool :=
  (latched || recordsFault state event) && !completesRestore state event

/-- At every step of the run, the fault is there as long as it has to stay, and no controller starts
in an apply mode meanwhile. -/
def Latches (state : AgentState) (latched : Bool) : List Event → Prop
  | [] => True
  | event :: rest =>
    (latchAfter state latched event = true → (state.step event).daemonState.isFaulted = true) ∧
      (latched = true → startsApply state event = false) ∧
      Latches (state.step event) (latchAfter state latched event) rest

/-- No step wipes the fault while it has to stay. -/
def Spares (state : AgentState) (latched : Bool) : List Event → Prop
  | [] => True
  | event :: rest =>
    ((latched || recordsFault state event) = true → wipes state event = false) ∧
      Spares (state.step event) (latchAfter state latched event) rest

theorem latches_iff_spares {state : AgentState} {latched : Bool}
    (hlatched : latched = true → state.daemonState.isFaulted = true) (events : List Event) :
    Latches state latched events ↔ Spares state latched events := by
  induction events generalizing state latched with
  | nil => simp [Latches, Spares]
  | cons event rest ih =>
    have hfaulted : (latched || recordsFault state event) = true →
        (state.daemonState.isFaulted || recordsFault state event) = true := by
      intro h
      rw [Bool.or_eq_true] at h ⊢
      exact h.imp hlatched id
    unfold Latches Spares
    constructor
    · rintro ⟨hstays, -, hrest⟩
      refine ⟨fun hset => ?_, (ih hstays).mp hrest⟩
      by_contra hwipes
      rw [Bool.not_eq_false] at hwipes
      have hafter := hstays (by simp [latchAfter, hset, not_completesRestore_of_wipes hwipes])
      rw [isFaulted_step event (hfaulted hset), hwipes] at hafter
      cases hafter
    · rintro ⟨hspares, hrest⟩
      have hstays : latchAfter state latched event = true →
          (state.step event).daemonState.isFaulted = true := by
        intro h
        unfold latchAfter at h
        rw [Bool.and_eq_true] at h
        rw [isFaulted_step event (hfaulted h.1), hspares h.1, h.2]
        rfl
      refine ⟨hstays, fun hset => ?_, (ih hstays).mpr hrest⟩
      have hkeeps := hspares (by simp [hset])
      cases happly : startsApply state event with
      | false => rfl
      | true => rw [wipes_of_startsApply happly] at hkeeps; cases hkeeps

/-- **Along every run the fault is latched exactly if no step wipes it while it has to stay.** -/
theorem fault_latched_iff (state : AgentState) (events : List Event) :
    Latches state false events ↔ Spares state false events :=
  latches_iff_spares (by simp) events

/-! A controller has failed; a status request finds it and records the fault. -/

def failedAgent : AgentState := { guardedAgent with
  activeAutotune := some ⟨"apply-low-risk", some "Game.exe", none, 3,
    some (.failed ⟨"controller failed", "controller failed"⟩)⟩ }

def authorised (request : Request) : Event := .request quietWorld (.value "Bearer secret") request

def applyStart : AutotuneStartRequest :=
  ⟨"apply-low-risk", some "Game.exe", none, none, none, false⟩

/-- A pause clears the fault, and a start in an apply mode is accepted in spite of it. -/
theorem failedAgent_not_latched :
    ¬ Latches failedAgent false [authorised .autotuneStatus, authorised .daemonPause] ∧
      ¬ Latches failedAgent false
        [authorised .autotuneStatus, authorised (.autotuneStart applyStart)] := by
  refine ⟨fun h => ?_, fun h => ?_⟩
  · exact absurd (h.2.2.1 (by decide +kernel)) (by decide +kernel)
  · exact absurd (h.2.2.2.1 (by decide +kernel)) (by decide +kernel)

end Stutter.Agent

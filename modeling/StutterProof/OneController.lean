import Mathlib.Data.List.Basic
import StutterProof.AgentRejection
import StutterProof.AgentTasks

/-! # At most one remote controller

A start looks at the slot and fills it under one lock, so two starts do not both get through.  A
stop takes the handle out of the slot before it waits for the controller, a restore does not look at
the slot, and the end of a controller is written under another lock than the one that kept its start
apart.  `Orderly` is the condition on a step under which none of the three does harm. -/
namespace Stutter.Agent

theorem AfterReap.position_isRestoring (next : AfterReap) : next.position.isRestoring = false := by
  cases next <;> rfl

theorem ControllerTask.live_stop (task : ControllerTask) : task.stop.live = task.live := by
  cases task <;> rfl

namespace AgentRuntime

variable (runtime : AgentRuntime)

/-- The controllers whose task has not ended. -/
def liveControllers : Nat := runtime.tasks.countP ControllerTask.live

def Restoring (i : Nat) : Prop := (runtime.requests i).any Position.isRestoring

/-- No end of a controller is written over a controller that was started after the slot was looked
at. -/
def InOrder (authors : List Author) : Prop :=
  authors.Pairwise fun earlier later =>
    ∀ task seen, earlier = .started task → later = .ended seen → task < seen

/-- The invariant: one author at a time. -/
structure Exclusive : Prop where
  one : runtime.liveControllers ≤ 1
  restores_alone : ∀ i, runtime.Restoring i → runtime.liveControllers = 0
  in_order : InOrder runtime.authors

/-! ## The steps that can do harm -/

/-- What an event does to the controllers. -/
inductive Turn where
  | spawn
  | restore
  | recordEnd (seen : Nat)
  | other

/-- What the request does when it goes on from here. -/
def turnOf (world : World) : Position → Turn
  | .locking policy request =>
    match runtime.admitController world policy request with
    | .ok _ => .spawn
    | .error _ => .other
  | .arrived header call =>
    if (runtime.enter world header call).isRestoring then .restore else .other
  | .reaped seen _ _ => .recordEnd seen
  | .writing (.ended seen) _ => .recordEnd seen
  | _ => .other

def turn : Event → Turn
  | .advance i world => ((runtime.requests i).map (runtime.turnOf world)).getD .other
  | _ => .other

/-- A controller that still runs and that no handle in the slot stands for. -/
def Detached (task : Nat) : Prop :=
  runtime.tasks[task]?.any ControllerTask.live ∧ ∀ handle ∈ runtime.active, handle.task ≠ task

/-- A start finds no controller that runs outside of the slot and no restore under way, a restore
finds no controller, and the end of a controller finds no later one in the daemon's state. -/
def Orderly (event : Event) : Prop :=
  match runtime.turn event with
  | .spawn => (∀ task, ¬ runtime.Detached task) ∧ ∀ i, ¬ runtime.Restoring i
  | .restore => runtime.liveControllers = 0
  | .recordEnd seen => ∀ task, .started task ∈ runtime.authors → task < seen
  | .other => True

/-! ## What a step does to the three -/

/-- A step that starts no controller and no restore and writes no end. -/
structure Quiet (after : AgentRuntime) : Prop where
  live : after.liveControllers ≤ runtime.liveControllers
  restoring : ∀ i, after.Restoring i → runtime.Restoring i
  authors : after.authors = runtime.authors ∨
    ∃ author, (∀ seen, author ≠ .ended seen) ∧ after.authors = runtime.authors ++ [author]

/-- A controller starts. -/
structure Spawns (after : AgentRuntime) : Prop where
  free : runtime.active = none
  live : after.liveControllers = runtime.liveControllers + 1
  restoring : ∀ i, after.Restoring i ↔ runtime.Restoring i
  authors : after.authors = runtime.authors

/-- A restore begins. -/
structure Restores (after : AgentRuntime) : Prop where
  live : after.liveControllers = runtime.liveControllers
  restoring : ∃ i, after.Restoring i
  authors : after.authors = runtime.authors

/-- A controller's end is recorded. -/
structure RecordsEnd (seen : Nat) (after : AgentRuntime) : Prop where
  live : after.liveControllers = runtime.liveControllers
  restoring : ∀ i, after.Restoring i → runtime.Restoring i
  authors : after.authors = runtime.authors ++ [.ended seen]

def Effect (after : AgentRuntime) : Turn → Prop
  | .spawn => runtime.Spawns after
  | .restore => runtime.Restores after
  | .recordEnd seen => runtime.RecordsEnd seen after
  | .other => runtime.Quiet after

variable {runtime} {after : AgentRuntime} {i : Nat}

theorem restoring_of_update {moved : Option Position}
    (hrequests : after.requests = Function.update runtime.requests i moved)
    (hmoved : moved.any Position.isRestoring = false) (j : Nat) (h : after.Restoring j) :
    runtime.Restoring j := by
  unfold Restoring at h ⊢
  rw [hrequests] at h
  by_cases hj : j = i
  · subst hj
    rw [Function.update_self, hmoved] at h
    cases h
  · rwa [Function.update_of_ne hj] at h

theorem Quiet.of_move {position : Position}
    (hlive : after.liveControllers ≤ runtime.liveControllers)
    (hauthors : after.authors = runtime.authors)
    (hrequests : after.requests = Function.update runtime.requests i (some position))
    (hposition : position.isRestoring = false) : runtime.Quiet after where
  live := hlive
  restoring := restoring_of_update hrequests hposition
  authors := .inl hauthors

/-- A controller that is told to stop is not yet gone. -/
theorem live_modify_stop (tasks : List ControllerTask) (k : Nat) :
    (tasks.modify k ControllerTask.stop).countP ControllerTask.live =
      tasks.countP ControllerTask.live := by
  induction tasks generalizing k with
  | nil => rw [List.modify_nil]
  | cons task rest ih =>
    cases k with
    | zero => simp only [List.modify_zero_cons, List.countP_cons, ControllerTask.live_stop]
    | succ k => simp only [List.modify_succ_cons, List.countP_cons, ih]

theorem live_set_finished {tasks : List ControllerTask} {k : Nat}
    {join : Join AutotuneControllerExit} :
    (tasks.set k (.finished join)).countP ControllerTask.live ≤
      tasks.countP ControllerTask.live := by
  by_cases hk : k < tasks.length
  · have hfinished : ¬ ControllerTask.live (.finished join) := nofun
    rw [List.countP_set hk, if_neg hfinished]
    omega
  · exact Nat.le_of_eq (congrArg _ (List.set_eq_of_length_le (Nat.le_of_not_lt hk)))

/-! ### One request -/

section Advance
variable {world : World}

theorem enter_effect {header : AuthHeader} {call : AutotuneCall} :
    runtime.Effect (runtime.moveTo i (runtime.enter world header call))
      (runtime.turnOf world (.arrived header call)) := by
  simp only [turnOf]
  split
  · next hrestoring =>
    refine ⟨rfl, ⟨i, ?_⟩, rfl⟩
    simpa only [Restoring, moveTo, Function.update_self, Option.any_some] using hrestoring
  · next hrestoring =>
    exact .of_move (Nat.le_refl _) rfl rfl (Bool.not_eq_true _ ▸ hrestoring)

theorem reapStep_quiet (next : AfterReap) : runtime.Quiet (runtime.reapStep i world next) := by
  unfold reapStep
  split
  · exact .of_move (Nat.le_refl _) rfl rfl next.position_isRestoring
  · split
    · exact .of_move (Nat.le_refl _) rfl rfl next.position_isRestoring
    · exact .of_move (Nat.le_refl _) rfl rfl rfl

theorem takeStep_quiet : runtime.Quiet (runtime.takeStep i world) := by
  unfold takeStep
  split
  · exact .of_move (Nat.le_refl _) rfl rfl rfl
  · exact .of_move (Nat.le_of_eq (live_modify_stop runtime.tasks _)) rfl rfl rfl

theorem startStep_effect {policy : DaemonPolicy} {request : AutotuneStartRequest}
    (hposition : runtime.requests i = some (.locking policy request)) :
    runtime.Effect (runtime.startStep i world policy request)
      (runtime.turnOf world (.locking policy request)) := by
  simp only [startStep, turnOf]
  cases hadmit : runtime.admitController world policy request with
  | error refusal =>
    show runtime.Quiet _
    exact .of_move (Nat.le_refl _) rfl rfl rfl
  | ok handle =>
    refine ⟨(admitController_ok hadmit).1, List.countP_append, fun j => ⟨?_, fun hj => ?_⟩, rfl⟩
    · exact restoring_of_update rfl rfl j
    · have hne : j ≠ i := by
        rintro rfl
        rw [Restoring, hposition] at hj
        cases hj
      simpa only [Restoring, moveTo, Function.update_of_ne hne] using hj

theorem writing_effect {author : Author} {rest : AgentState → AgentState × Response}
    (h : runtime.advance i world (.writing author rest) = some after) :
    runtime.Effect after (runtime.turnOf world (.writing author rest)) := by
  obtain rfl := Option.some.inj h
  cases author with
  | ended seen => exact ⟨rfl, restoring_of_update rfl rfl, rfl⟩
  | started task =>
    exact ⟨Nat.le_refl _, restoring_of_update rfl rfl, .inr ⟨.started task, nofun, rfl⟩⟩
  | other => exact ⟨Nat.le_refl _, restoring_of_update rfl rfl, .inr ⟨.other, nofun, rfl⟩⟩

/-- What a request does between two of its `await`s. -/
theorem advance_effect {position : Position} (hposition : runtime.requests i = some position)
    (h : runtime.advance i world position = some after) :
    runtime.Effect after (runtime.turnOf world position) := by
  cases position with
  | arrived header call =>
    obtain rfl := Option.some.inj h
    exact enter_effect
  | reaping next =>
    obtain ⟨-, rfl⟩ := unless_eq_some h
    exact reapStep_quiet next
  | reaped seen daemonState next =>
    obtain rfl := Option.some.inj h
    exact ⟨rfl, restoring_of_update rfl next.position_isRestoring, rfl⟩
  | locking policy request =>
    obtain ⟨-, rfl⟩ := unless_eq_some h
    exact startStep_effect hposition
  | viewing =>
    obtain ⟨-, rfl⟩ := unless_eq_some h
    exact Quiet.of_move (Nat.le_refl _) rfl rfl rfl
  | reading =>
    obtain rfl := Option.some.inj h
    exact Quiet.of_move (Nat.le_refl _) rfl rfl rfl
  | taking =>
    obtain ⟨-, rfl⟩ := unless_eq_some h
    exact takeStep_quiet
  | joining handle seen =>
    obtain ⟨join, -, rfl⟩ := Option.map_eq_some_iff.mp h
    exact Quiet.of_move (Nat.le_refl _) rfl rfl rfl
  | restoring route header =>
    obtain rfl := Option.some.inj h
    exact Quiet.of_move (Nat.le_refl _) rfl rfl rfl
  | writing author rest => exact writing_effect h
  | answered response => cases h

end Advance

variable {event : Event}

theorem step_effect (h : runtime.step event = some after) :
    runtime.Effect after (runtime.turn event) := by
  cases event with
  | arrive i header call =>
    simp only [step] at h
    split at h
    · obtain rfl := Option.some.inj h
      exact Quiet.of_move (Nat.le_refl _) rfl rfl rfl
    · cases h
  | advance i world =>
    obtain ⟨position, hposition, hadvance⟩ := Option.bind_eq_some_iff.mp h
    simp only [turn, hposition, Option.map_some, Option.getD_some]
    exact advance_effect hposition hadvance
  | finish task join =>
    obtain ⟨-, hafter⟩ := Option.ite_none_right_eq_some.mp h
    obtain rfl := Option.some.inj hafter
    exact ⟨live_set_finished, fun _ => id, .inl rfl⟩
  | disconnect i =>
    obtain ⟨-, hafter⟩ := Option.ite_none_right_eq_some.mp h
    obtain rfl := Option.some.inj hafter
    exact ⟨Nat.le_refl _, restoring_of_update rfl rfl, .inl rfl⟩
  | elsewhere daemonState =>
    obtain rfl := Option.some.inj h
    exact ⟨Nat.le_refl _, fun _ => id, .inr ⟨.other, by rintro _ ⟨⟩, rfl⟩⟩

/-! ## Runs -/

theorem InOrder.append_iff {authors : List Author} (h : InOrder authors) (author : Author) :
    InOrder (authors ++ [author]) ↔
      ∀ task seen, .started task ∈ authors → author = .ended seen → task < seen := by
  unfold InOrder at h ⊢
  rw [List.pairwise_append]
  constructor
  · intro ⟨_, _, hlast⟩ task seen hmem hauthor
    exact hlast _ hmem author (List.mem_singleton_self author) task seen rfl hauthor
  · intro hlast
    refine ⟨h, List.pairwise_singleton _ _, ?_⟩
    rintro earlier hmem later hlater task seen rfl hended
    rw [List.mem_singleton] at hlater
    exact hlast task seen hmem (hlater ▸ hended)

/-- With the slot free, a controller that runs is one that was taken out of it. -/
theorem no_live_of_not_detached (hfree : runtime.active = none)
    (h : ∀ task, ¬ runtime.Detached task) : runtime.liveControllers = 0 := by
  refine List.countP_eq_zero.mpr fun task hmem hlive => ?_
  obtain ⟨k, hk⟩ := List.mem_iff_getElem?.mp hmem
  refine h k ⟨by rwa [hk, Option.any_some], ?_⟩
  intro handle hhandle
  rw [hfree] at hhandle
  cases hhandle

theorem live_of_detached {task : Nat} (h : runtime.Detached task) :
    0 < runtime.liveControllers := by
  obtain ⟨controller, hcontroller, hlive⟩ := (Option.any_eq_true _ _).mp h.1
  exact List.countP_pos_iff.mpr ⟨controller, List.mem_of_getElem? hcontroller, hlive⟩

theorem not_detached (h : runtime.liveControllers = 0) (task : Nat) : ¬ runtime.Detached task :=
  fun htask => absurd h (Nat.ne_of_gt (live_of_detached htask))

theorem Exclusive.step_of_orderly (h : runtime.Exclusive) (horderly : runtime.Orderly event)
    (hstep : runtime.step event = some after) : after.Exclusive := by
  have heffect := step_effect hstep
  unfold Orderly at horderly
  cases hturn : runtime.turn event with
  | spawn =>
    rw [hturn] at horderly heffect
    have hzero := no_live_of_not_detached heffect.free horderly.1
    have hone : after.liveControllers = 1 := by rw [heffect.live, hzero]
    refine ⟨Nat.le_of_eq hone, fun i hi => ?_, heffect.authors ▸ h.in_order⟩
    exact absurd ((heffect.restoring i).mp hi) (horderly.2 i)
  | restore =>
    rw [hturn] at horderly heffect
    have hzero : after.liveControllers = 0 := heffect.live.trans horderly
    exact ⟨by omega, fun _ _ => hzero, heffect.authors ▸ h.in_order⟩
  | recordEnd seen =>
    rw [hturn] at horderly heffect
    refine ⟨heffect.live ▸ h.one, fun i hi => ?_, ?_⟩
    · rw [heffect.live]
      exact h.restores_alone i (heffect.restoring i hi)
    · rw [heffect.authors, h.in_order.append_iff]
      rintro task _ hmem ⟨rfl⟩
      exact horderly task hmem
  | other =>
    rw [hturn] at heffect
    refine ⟨Nat.le_trans heffect.live h.one, fun i hi => ?_, ?_⟩
    · have hbefore := h.restores_alone i (heffect.restoring i hi)
      have hle := heffect.live
      omega
    · obtain hsame | ⟨author, hauthor, hwrites⟩ := heffect.authors
      · exact hsame ▸ h.in_order
      · rw [hwrites, h.in_order.append_iff]
        exact fun _ seen _ hended => absurd hended (hauthor seen)

/-- A step that breaks the condition is the harm. -/
theorem Exclusive.broken_of_not_orderly (h : runtime.Exclusive)
    (hbroken : ¬ runtime.Orderly event) (hstep : runtime.step event = some after) :
    ¬ after.Exclusive := by
  have heffect := step_effect hstep
  intro hafter
  apply hbroken
  unfold Orderly
  cases hturn : runtime.turn event with
  | spawn =>
    rw [hturn] at heffect
    have hone := hafter.one
    have hlive := heffect.live
    refine ⟨fun task htask => ?_, fun i hi => ?_⟩
    · have hpos := live_of_detached htask
      omega
    · have hnone := hafter.restores_alone i ((heffect.restoring i).mpr hi)
      omega
  | restore =>
    rw [hturn] at heffect
    obtain ⟨i, hi⟩ := heffect.restoring
    exact heffect.live.symm.trans (hafter.restores_alone i hi)
  | recordEnd seen =>
    rw [hturn] at heffect
    have horder := hafter.in_order
    rw [heffect.authors, h.in_order.append_iff] at horder
    exact fun task hmem => horder task seen hmem rfl
  | other => trivial

theorem exclusive_initial (daemonState : DaemonState) (auth : AgentAuth) (listener : Listener)
    (limits : AgentLimits) (autotuneLimits : AgentAutotuneLimits) :
    (initial daemonState auth listener limits autotuneLimits).Exclusive where
  one := Nat.zero_le 1
  restores_alone _ _ := rfl
  in_order := List.Pairwise.nil

/-- In every interleaving: all states have at most one controller, no restore beside it and no end
written over a later start, exactly if every step was orderly. -/
theorem always_exclusive_iff (daemonState : DaemonState) (auth : AgentAuth) (listener : Listener)
    (limits : AgentLimits) (autotuneLimits : AgentAutotuneLimits) (events : List Event)
    (after : AgentRuntime)
    (hrun : GuardedRun.run step (initial daemonState auth listener limits autotuneLimits) events =
      some after) :
    GuardedRun.Always step Exclusive (initial daemonState auth listener limits autotuneLimits)
        events ↔
      GuardedRun.Meets step Orderly (initial daemonState auth listener limits autotuneLimits)
        events :=
  GuardedRun.always_iff (fun _ _ _ h horderly hstep => h.step_of_orderly horderly hstep)
    (fun _ _ _ h hbroken hstep => h.broken_of_not_orderly hbroken hstep)
    (exclusive_initial daemonState auth listener limits autotuneLimits) hrun

/-! An agent with one token, and clients that know it. -/

def guardedRuntime : AgentRuntime :=
  initial guardedAgent.daemonState guardedAgent.auth guardedAgent.listener guardedAgent.limits
    guardedAgent.autotuneLimits

def observeRequest : AutotuneStartRequest := ⟨"observe", none, some 42, none, none, false⟩

/-- A request that arrives and takes so many steps. -/
def requestSteps (i : Nat) (call : AutotuneCall) (steps : Nat) : List Event :=
  .arrive i (.value "Bearer secret") call :: List.replicate steps (.advance i quietWorld)

def stopped : Event := .finish 0 (.done ⟨"stopped", none⟩)

/-- The second start comes when the stop has written the end of the first controller. -/
def startAfterStop : List Event :=
  requestSteps 0 (.start observeRequest) 4 ++ requestSteps 1 .stop 2 ++
    stopped :: List.replicate 2 (.advance 1 quietWorld) ++
    requestSteps 2 (.start observeRequest) 4

theorem startAfterStop_always_exclusive :
    GuardedRun.Always step Exclusive guardedRuntime startAfterStop ∧
      ∃ after, GuardedRun.run step guardedRuntime startAfterStop = some after ∧
        after.authors = [.started 0, .ended 1, .started 1] := by
  refine ⟨?_, _, rfl, rfl⟩
  refine (always_exclusive_iff _ _ _ _ _ startAfterStop _ rfl).mpr ?_
  refine .cons rfl trivial (.cons rfl trivial (.cons rfl trivial (.cons rfl ?_ ?_)))
  · exact ⟨not_detached rfl, fun i hi => by
      match i with
      | 0 => cases hi
      | n + 1 => cases hi⟩
  refine .cons rfl trivial ?_
  refine .cons rfl trivial (.cons rfl trivial (.cons rfl trivial (.cons rfl trivial ?_)))
  refine .cons rfl trivial (.cons rfl ?_ ?_)
  · intro task hmem
    obtain ⟨rfl⟩ := List.mem_singleton.mp hmem
    exact Nat.zero_lt_one
  refine .cons rfl trivial (.cons rfl trivial (.cons rfl trivial (.cons rfl ?_ ?_)))
  · exact ⟨not_detached rfl, fun i hi => by
      match i with
      | 0 => cases hi
      | 1 => cases hi
      | 2 => cases hi
      | n + 3 => cases hi⟩
  exact .cons rfl trivial trivial

/-- The second start comes while the stop waits for the first controller. -/
def startDuringStop : List Event :=
  requestSteps 0 (.start observeRequest) 4 ++ requestSteps 1 .stop 2 ++
    requestSteps 2 (.start observeRequest) 3

/-- Two controllers run; a restore runs beside one; and the end of the first is written over the
start of the second. -/
theorem startDuringStop_not_exclusive :
    (∃ after, GuardedRun.run step guardedRuntime startDuringStop = some after ∧
        after.liveControllers = 2) ∧
      (∃ after, GuardedRun.run step guardedRuntime (requestSteps 0 (.start observeRequest) 4 ++
          requestSteps 1 (.restore .autotune) 1) = some after ∧
        after.Restoring 1 ∧ after.liveControllers = 1) ∧
      ∃ after, GuardedRun.run step guardedRuntime (startDuringStop ++
          [stopped, .advance 2 quietWorld, .advance 1 quietWorld, .advance 1 quietWorld]) =
          some after ∧
        ¬ InOrder after.authors ∧ ¬ after.Exclusive := by
  refine ⟨⟨_, rfl, rfl⟩, ⟨_, rfl, rfl, rfl⟩, ?_⟩
  have hauthors : ¬ InOrder [.started 0, .started 1, .ended 1] := by
    intro h
    have hlast := (List.pairwise_cons.mp (List.pairwise_cons.mp h).2).1 (.ended 1)
      (List.mem_singleton_self _) 1 1 rfl rfl
    exact Nat.lt_irrefl 1 hlast
  exact ⟨_, rfl, hauthors, fun h => hauthors h.in_order⟩

end AgentRuntime

end Stutter.Agent

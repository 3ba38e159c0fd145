import StutterProof.BusDelivery

/-! # The session's event loop

`run` waits on all of its branches at once and, as soon as one completes, drops the futures of the
others where they stand.  The drain of the ring buffer is such a future: it takes every item out at
once and then waits for the bus with the events in local vectors.  The other branches do their work
in the body, after the `select!`, where nothing can drop them. -/
namespace Stutter.Session

/-! ## The ring buffer -/

/-- An item of the ring buffer, by its kind; `undecoded` is short or of an unknown kind. -/
inductive BpfEvent (α : Type) where
  | runnableLatency (latencyNs : Nat) (payload : α)
  | irqLatency (payload : α)
  | migration (payload : α)
  | cpuFreq (payload : α)
  | statWait
  | blockIo (payload : α)
  | exec (payload : α)
  | kmsFlip (payload : α)
  | drmFence (payload : α)
  | undecoded

/-- What a drain looks at. -/
structure DrainConfig where
  spikeThresholdNs : Nat
  alertThresholdNs : Option Nat
  followExec : Bool

/-- The local vectors of a running `drain_bpf_events`. -/
structure ProbeDrain (α : Type) where
  pendingMonitorEvents : List (MonitorEventKind × α)
  pendingIrqs : List α
  pendingIos : List α
  pendingSpikes : List α

namespace ProbeDrain
variable {α : Type}

def empty : ProbeDrain α := ⟨[], [], [], []⟩

def pushEvent (drain : ProbeDrain α) (kind : MonitorEventKind) (payload : α) : ProbeDrain α :=
  { drain with pendingMonitorEvents := drain.pendingMonitorEvents ++ [(kind, payload)] }

/-- The events of `interpret_scheduler_event`. -/
def schedulerEvents (config : DrainConfig) (latencyNs : Nat) (payload : α) :
    List (MonitorEventKind × α) :=
  if config.spikeThresholdNs ≤ latencyNs then
    [(.schedulerSample, payload)]
      ++ (if config.alertThresholdNs.any (· ≤ latencyNs) then [(.alert, payload)] else [])
      ++ [(.spike, payload)]
  else [(.schedulerSample, payload)]

/-- One turn of the loop that empties the ring. -/
def push (config : DrainConfig) (drain : ProbeDrain α) : BpfEvent α → ProbeDrain α
  | .runnableLatency latencyNs payload =>
    { drain with
      pendingSpikes :=
        if config.spikeThresholdNs ≤ latencyNs then drain.pendingSpikes ++ [payload]
        else drain.pendingSpikes
      pendingMonitorEvents :=
        drain.pendingMonitorEvents ++ schedulerEvents config latencyNs payload }
  | .irqLatency payload =>
    { drain.pushEvent .irqEvent payload with pendingIrqs := drain.pendingIrqs ++ [payload] }
  | .migration payload => drain.pushEvent .migrationEvent payload
  | .cpuFreq payload => drain.pushEvent .cpuFreqSample payload
  | .blockIo payload =>
    { drain.pushEvent .ioEvent payload with pendingIos := drain.pendingIos ++ [payload] }
  | .exec payload => if config.followExec then drain.pushEvent .exec payload else drain
  | .kmsFlip payload => drain.pushEvent .kmsFlipEvent payload
  | .drmFence payload => drain.pushEvent .drmFenceEvent payload
  | .statWait | .undecoded => drain

/-- What the drain of a list of items collects. -/
def collect (config : DrainConfig) (items : List (BpfEvent α)) : ProbeDrain α :=
  items.foldl (push config) empty

/-- One drain after another. -/
def append (a b : ProbeDrain α) : ProbeDrain α :=
  ⟨a.pendingMonitorEvents ++ b.pendingMonitorEvents, a.pendingIrqs ++ b.pendingIrqs,
    a.pendingIos ++ b.pendingIos, a.pendingSpikes ++ b.pendingSpikes⟩

@[simp] theorem append_empty (a : ProbeDrain α) : a.append empty = a := by
  simp [append, empty]

variable (config : DrainConfig)

theorem push_append (a b : ProbeDrain α) (item : BpfEvent α) :
    push config (a.append b) item = a.append (push config b item) := by
  cases item with
  | runnableLatency latencyNs payload =>
    by_cases hspike : config.spikeThresholdNs ≤ latencyNs <;> simp [push, append, hspike]
  | exec payload => by_cases hexec : config.followExec <;> simp [push, pushEvent, append, hexec]
  | _ => simp [push, pushEvent, append]

theorem foldl_push (a b : ProbeDrain α) (items : List (BpfEvent α)) :
    items.foldl (push config) (a.append b) = a.append (items.foldl (push config) b) := by
  induction items generalizing b with
  | nil => rfl
  | cons item rest ih =>
    rw [List.foldl_cons, push_append, ih]
    rfl

/-- Two drains collect what one drain of both contents would. -/
theorem collect_append (items more : List (BpfEvent α)) :
    collect config (items ++ more) = (collect config items).append (collect config more) := by
  have h := foldl_push config (collect config items) empty more
  rw [append_empty] at h
  unfold collect at h ⊢
  rw [List.foldl_append]
  exact h

end ProbeDrain

/-! ## The loop -/

/-- Where `run` is: in the `select!`, there with a drain that waits for the bus, or in the body of a
branch that has completed, with the events it is going to dispatch. -/
inductive LoopTask (α : Type) where
  | selecting
  | draining (drain : ProbeDrain α)
  | body (events : List (MonitorEventKind × α)) (stops : Bool)
  | stopped

namespace LoopTask
variable {α : Type}

def isDraining : LoopTask α → Bool
  | draining _ => true
  | _ => false

/-- What the drain still holds. -/
def drain : LoopTask α → ProbeDrain α
  | draining drain => drain
  | _ => .empty

end LoopTask

/-- Where an event that is dispatched comes from. -/
inductive EventSource where
  | probe | other
  deriving DecidableEq

/-- What was pushed to the live telemetry; pruning takes from the other end, by age. -/
structure LiveTelemetry (α : Type) where
  irqEvents : List α
  ioEvents : List α
  spikes : List α

/-- The session with its bus and sinks. -/
structure MonitorSession (n : Nat) (α : Type) where
  config : DrainConfig
  ring : List (BpfEvent α)
  bus : MonitorEventBus n α
  task : LoopTask α
  sinks : List (EventSource × MonitorEventKind × α)
  telemetry : LiveTelemetry α
  /-- Everything that was ever taken out of the ring. -/
  removed : List (BpfEvent α)

/-- The steps of the session. -/
inductive LoopStep (n : Nat) (α : Type) where
  | arrive (item : BpfEvent α)
  /-- The ring is readable, and the drain runs up to its first wait. -/
  | drain
  | dispatch
  | record
  | spike (diagnosis : Option α)
  | drained
  | send
  | receive (i : Fin n)
  /-- Another branch completes; its body will dispatch `events`. -/
  | branch (events : List (MonitorEventKind × α)) (stops : Bool)
  | bodyDone

namespace LoopStep
variable {n : Nat} {α : Type}

def isBranch : LoopStep n α → Bool
  | branch _ _ => true
  | _ => false

end LoopStep

namespace MonitorSession
variable {n : Nat} {α : Type} (session : MonitorSession n α)

/-- `dispatch_monitor_event`, up to the wait of the bus. -/
def dispatchMonitorEvent (source : EventSource) (event : MonitorEventKind × α) :
    MonitorSession n α :=
  { session with
    sinks := session.sinks ++ [(source, event)]
    bus := session.bus.emit event.1 event.2 }

/-- The drain's `handle_live_spike`: the diagnosis is emitted without a wait. -/
def handleLiveSpike (spike : α) (diagnosis : Option α) : MonitorSession n α :=
  let session := { session with
    telemetry := { session.telemetry with spikes := session.telemetry.spikes ++ [spike] } }
  match diagnosis with
  | some entry => session.dispatchMonitorEvent .other (.liveDiagnosis, entry)
  | none => session

/-- Whether the call that holds the bus waits for a subscriber. -/
def isWaiting : Bool := !session.bus.sending.isEmpty

/-- Another branch completes: the drain, if there is one, is dropped at its wait with what it
holds, and the sends of its `emit` are dropped with it. -/
def completeBranch (events : List (MonitorEventKind × α)) (stops : Bool) : MonitorSession n α :=
  { session with
    bus := { session.bus with sending := [] }
    task := .body events stops }

/-- One step of the session, where it is possible. -/
def step : LoopStep n α → Option (MonitorSession n α)
  | .arrive item => some { session with ring := session.ring ++ [item] }
  | .drain =>
    match session.task with
    | .selecting => some { session with
        ring := []
        task := .draining (.collect session.config session.ring)
        removed := session.removed ++ session.ring }
    | _ => none
  | .dispatch =>
    if session.isWaiting then none else
    match session.task with
    | .draining ⟨event :: rest, irqs, ios, spikes⟩ => some
        { session.dispatchMonitorEvent .probe event with
          task := .draining ⟨rest, irqs, ios, spikes⟩ }
    | .body (event :: rest) stops => some
        { session.dispatchMonitorEvent .other event with task := .body rest stops }
    | _ => none
  | .record =>
    if session.isWaiting then none else
    match session.task with
    | .draining ⟨[], irqs, ios, spikes⟩ => some { session with
        task := .draining ⟨[], [], [], spikes⟩
        telemetry := { session.telemetry with
          irqEvents := session.telemetry.irqEvents ++ irqs
          ioEvents := session.telemetry.ioEvents ++ ios } }
    | _ => none
  | .spike diagnosis =>
    if session.isWaiting then none else
    match session.task with
    | .draining ⟨[], [], [], spike :: rest⟩ => some
        { session.handleLiveSpike spike diagnosis with task := .draining ⟨[], [], [], rest⟩ }
    | _ => none
  | .drained =>
    if session.isWaiting then none else
    match session.task with
    | .draining ⟨[], [], [], []⟩ => some { session with task := .selecting }
    | _ => none
  | .send => session.bus.send.map fun bus => { session with bus }
  | .receive i => (session.bus.receive i).map fun bus => { session with bus }
  | .branch events stops =>
    match session.task with
    | .selecting => some (session.completeBranch events stops)
    | .draining _ => if session.isWaiting then some (session.completeBranch events stops) else none
    | _ => none
  | .bodyDone =>
    if session.isWaiting then none else
    match session.task with
    | .body [] stops => some { session with task := if stops then .stopped else .selecting }
    | _ => none

def run (steps : List (LoopStep n α)) : Option (MonitorSession n α) :=
  GuardedRun.run step session steps

/-- A session before its first turn. -/
structure IsNew : Prop where
  bus : session.bus.IsNew
  task : session.task = .selecting
  sinks : session.sinks = []
  telemetry : session.telemetry = ⟨[], [], []⟩
  removed : session.removed = []

/-- The events from the ring among those the sinks were given. -/
def probeEvents : List (MonitorEventKind × α) :=
  (session.sinks.filter (·.1 = .probe)).map (·.2)

/-- The bus emitted what the sinks were given, and every subscriber gets every event that is sent
with a wait. -/
structure BusAgrees : Prop where
  emitted : session.bus.emitted.map (fun event => (event.kind, event.payload)) =
    session.sinks.map (·.2)
  delivered : ∀ i, reliable (session.bus.assigned i) = reliable session.bus.emitted

/-- What was dispatched and recorded of the drained items. -/
def dispatched : ProbeDrain α :=
  ⟨session.probeEvents, session.telemetry.irqEvents, session.telemetry.ioEvents,
    session.telemetry.spikes⟩

/-- **Nothing is lost.**  What was dispatched and recorded, and what the running drain still holds,
is what the drains took out of the ring, and the bus agrees. -/
structure NothingLost : Prop extends session.BusAgrees where
  collected : session.dispatched.append session.task.drain =
    .collect session.config session.removed

/-- No branch completes while a drain holds events. -/
def Uncancelled (steps : List (LoopStep n α)) : Prop :=
  GuardedRun.Meets step
    (fun session s => s.isBranch = true → session.task.isDraining = false) session steps

/-! ## What a step does to the bus -/

open MonitorEventBus

section Bus
variable {session} {after : MonitorSession n α} {s : LoopStep n α}

theorem not_isWaiting (h : session.isWaiting = false) : session.bus.sending = [] := by
  simpa [isWaiting] using h

theorem isWaiting_iff : session.isWaiting = true ↔ session.bus.sending ≠ [] := by
  simp [isWaiting]

/-- The bus of the next state, unless a branch completes: unchanged, after an emission to the sinks
and the bus, or after a send or a receive. -/
inductive BusMoves (session after : MonitorSession n α) : Prop where
  | unchanged (bus : after.bus = session.bus) (sinks : after.sinks = session.sinks)
  | emit (idle : session.bus.sending = []) (source : EventSource) (event : MonitorEventKind × α)
      (bus : after.bus = session.bus.emit event.1 event.2)
      (sinks : after.sinks = session.sinks ++ [(source, event)])
  | send (bus : session.bus.send = some after.bus) (sinks : after.sinks = session.sinks)
  | receive (i : Fin n) (bus : session.bus.receive i = some after.bus)
      (sinks : after.sinks = session.sinks)

/-- The steps that need an idle bus. -/
theorem idle_of_guard {next : Option (MonitorSession n α)}
    (h : (if session.isWaiting then none else next) = some after) :
    session.bus.sending = [] ∧ next = some after := by
  by_cases hwait : session.isWaiting = true
  · rw [if_pos hwait] at h
    cases h
  · rw [if_neg hwait] at h
    exact ⟨not_isWaiting (by simpa using hwait), h⟩

theorem busMoves_handleLiveSpike (hidle : session.bus.sending = []) (spike : α)
    (diagnosis : Option α) (task : LoopTask α) :
    BusMoves session { session.handleLiveSpike spike diagnosis with task } := by
  cases diagnosis with
  | none => exact .unchanged rfl rfl
  | some entry => exact .emit hidle .other (.liveDiagnosis, entry) rfl rfl

theorem busMoves (hbranch : s.isBranch = false) (h : session.step s = some after) :
    BusMoves session after := by
  cases s with
  | arrive item =>
    cases h
    exact .unchanged rfl rfl
  | drain =>
    simp only [step] at h
    split at h
    · cases h
      exact .unchanged rfl rfl
    · cases h
  | dispatch =>
    obtain ⟨hidle, h⟩ := idle_of_guard h
    split at h
    · cases h
      exact .emit hidle .probe _ rfl rfl
    · cases h
      exact .emit hidle .other _ rfl rfl
    · cases h
  | record =>
    obtain ⟨hidle, h⟩ := idle_of_guard h
    split at h
    · cases h
      exact .unchanged rfl rfl
    · cases h
  | spike diagnosis =>
    obtain ⟨hidle, h⟩ := idle_of_guard h
    split at h
    · cases h
      exact busMoves_handleLiveSpike hidle _ diagnosis _
    · cases h
  | drained =>
    obtain ⟨hidle, h⟩ := idle_of_guard h
    split at h
    · cases h
      exact .unchanged rfl rfl
    · cases h
  | send =>
    obtain ⟨bus, hbus, rfl⟩ := Option.map_eq_some_iff.mp h
    exact .send hbus rfl
  | receive i =>
    obtain ⟨bus, hbus, rfl⟩ := Option.map_eq_some_iff.mp h
    exact .receive i hbus rfl
  | branch events stops => cases hbranch
  | bodyDone =>
    obtain ⟨hidle, h⟩ := idle_of_guard h
    split at h
    · cases h
      exact .unchanged rfl rfl
    · cases h

/-- A branch completes in an idle `select!`, or over a drain that waits. -/
theorem step_branch {events : List (MonitorEventKind × α)} {stops : Bool}
    (h : session.step (.branch events stops) = some after) :
    after = session.completeBranch events stops ∧
      (session.task = .selecting ∨
        session.task.isDraining = true ∧ session.bus.sending ≠ []) := by
  simp only [step] at h
  split at h
  · rename_i htask
    cases h
    exact ⟨rfl, .inl htask⟩
  · rename_i drain htask
    by_cases hwait : session.isWaiting = true
    · rw [if_pos hwait] at h
      cases h
      refine ⟨rfl, .inr ⟨?_, isWaiting_iff.mp hwait⟩⟩
      rw [htask]
      rfl
    · rw [if_neg hwait] at h
      cases h
  · cases h

/-- What is known of the bus between two steps: its waiting sends are of events that are sent with a
wait, and a `select!` without a drain finds none. -/
structure BusIdle (session : MonitorSession n α) : Prop where
  reliableSends : ∀ send ∈ session.bus.sending, send.2.kind.isReliable = true
  selecting : session.task = .selecting → session.bus.sending = []

theorem BusAgrees.moves (h : session.BusAgrees) (hmoves : BusMoves session after) :
    after.BusAgrees := by
  cases hmoves with
  | unchanged bus sinks =>
    exact ⟨by rw [bus, sinks]; exact h.emitted, by rw [bus]; exact h.delivered⟩
  | emit idle source event bus sinks =>
    constructor
    · rw [bus, sinks, emitted_emit, List.map_append, List.map_append, h.emitted]
      rfl
    · intro i
      rw [bus]
      exact reliable_emit idle (h.delivered i) event.1 event.2
  | send bus sinks =>
    have hemitted := emitted_send bus
    constructor
    · rw [hemitted, sinks]
      exact h.emitted
    · intro i
      rw [assigned_send bus, hemitted]
      exact h.delivered i
  | receive j bus sinks =>
    have hemitted := emitted_receive bus
    constructor
    · rw [hemitted, sinks]
      exact h.emitted
    · intro i
      rw [assigned_receive bus, hemitted]
      exact h.delivered i

theorem reliableSends_moves (h : ∀ send ∈ session.bus.sending, send.2.kind.isReliable = true)
    (hmoves : BusMoves session after) :
    ∀ send ∈ after.bus.sending, send.2.kind.isReliable = true := by
  cases hmoves with
  | unchanged bus sinks => rw [bus]; exact h
  | emit idle source event bus sinks =>
    rw [bus]
    exact reliable_sending_emit idle event.1 event.2
  | send bus sinks =>
    rw [sending_send bus]
    exact fun send hsend => h send (List.mem_of_mem_tail hsend)
  | receive i bus sinks => rw [sending_receive bus]; exact h

/-! ## What was lost stays lost -/

/-- Some subscriber misses an event that is sent with a wait. -/
def Misses (bus : MonitorEventBus n α) : Prop :=
  ∃ i, (reliable (bus.assigned i)).length < (reliable bus.emitted).length

theorem Misses.moves (h : Misses session.bus) (hmoves : BusMoves session after) :
    Misses after.bus := by
  obtain ⟨i, hi⟩ := h
  refine ⟨i, ?_⟩
  cases hmoves with
  | unchanged bus sinks => rwa [bus]
  | emit idle source event bus sinks =>
    obtain ⟨more, hassigned, hemitted⟩ :=
      reliable_emitted idle event.1 event.2 i
    rw [bus, hassigned, hemitted, List.length_append, List.length_append]
    omega
  | send bus sinks =>
    rwa [assigned_send bus, emitted_send bus]
  | receive j bus sinks =>
    rwa [assigned_receive bus, emitted_receive bus]

theorem assigned_completeBranch (events : List (MonitorEventKind × α)) (stops : Bool) (i : Fin n) :
    (session.completeBranch events stops).bus.assigned i = (session.bus.subscribers i).stream :=
  assigned_idle rfl i

theorem Misses.completeBranch (h : Misses session.bus) (events : List (MonitorEventKind × α))
    (stops : Bool) : Misses (session.completeBranch events stops).bus := by
  obtain ⟨i, hi⟩ := h
  refine ⟨i, lt_of_le_of_lt ?_ hi⟩
  rw [assigned_completeBranch]
  unfold assigned
  rw [reliable_append, List.length_append]
  omega

theorem Misses.step (h : Misses session.bus) (hstep : session.step s = some after) :
    Misses after.bus := by
  by_cases hbranch : s.isBranch = true
  · cases s with
    | branch events stops =>
      obtain ⟨rfl, -⟩ := step_branch hstep
      exact h.completeBranch events stops
    | _ => cases hbranch
  · exact h.moves (busMoves (by simpa using hbranch) hstep)

/-- A drain that is dropped at its wait takes with it a send that nobody makes up for. -/
theorem misses_of_dropped (hagrees : session.BusAgrees)
    (hreliable : ∀ send ∈ session.bus.sending, send.2.kind.isReliable = true)
    (hwaiting : session.bus.sending ≠ []) (events : List (MonitorEventKind × α)) (stops : Bool) :
    Misses (session.completeBranch events stops).bus := by
  obtain ⟨⟨i, event⟩, rest, hsending⟩ := List.exists_cons_of_ne_nil hwaiting
  refine ⟨i, ?_⟩
  have hevent : event.kind.isReliable = true := hreliable (i, event) (by simp [hsending])
  have hall : (reliable (session.bus.assigned i)).length = (reliable session.bus.emitted).length :=
    congrArg List.length (hagrees.delivered i)
  have hflight : 0 < (reliable (session.bus.inFlight i)).length := by
    simp [inFlight, hsending, reliable, hevent]
  unfold assigned at hall
  rw [reliable_append, List.length_append] at hall
  rw [assigned_completeBranch]
  change _ < (reliable session.bus.emitted).length
  omega

end Bus

/-! ## What a step does to the drain -/

section Drains
variable {session} {after : MonitorSession n α} {s : LoopStep n α}

theorem dispatched_other (event : MonitorEventKind × α) (task : LoopTask α) :
    dispatched { session.dispatchMonitorEvent .other event with task } = session.dispatched := by
  simp [dispatched, probeEvents, dispatchMonitorEvent]

theorem dispatched_handleLiveSpike (spike : α) (diagnosis : Option α) (task : LoopTask α) :
    dispatched { session.handleLiveSpike spike diagnosis with task } =
      { session.dispatched with pendingSpikes := session.dispatched.pendingSpikes ++ [spike] } := by
  cases diagnosis with
  | none => rfl
  | some entry => simp [dispatched, handleLiveSpike, probeEvents, dispatchMonitorEvent]

theorem config_handleLiveSpike (spike : α) (diagnosis : Option α) :
    (session.handleLiveSpike spike diagnosis).config = session.config := by
  cases diagnosis <;> rfl

theorem removed_handleLiveSpike (spike : α) (diagnosis : Option α) :
    (session.handleLiveSpike spike diagnosis).removed = session.removed := by
  cases diagnosis <;> rfl

/-- Between two branches the drains hand on what they took. -/
theorem collected_step (hbranch : s.isBranch = false)
    (h : session.dispatched.append session.task.drain =
      .collect session.config session.removed)
    (hstep : session.step s = some after) :
    after.dispatched.append after.task.drain = .collect after.config after.removed := by
  cases s with
  | arrive item =>
    cases hstep
    exact h
  | drain =>
    simp only [step] at hstep
    split at hstep
    · rename_i htask
      cases hstep
      rw [htask] at h
      change session.dispatched.append ProbeDrain.empty = _ at h
      rw [ProbeDrain.append_empty] at h
      change session.dispatched.append _ = .collect session.config (_ ++ _)
      rw [ProbeDrain.collect_append, ← h]
      rfl
    · cases hstep
  | dispatch =>
    obtain ⟨-, hstep⟩ := idle_of_guard hstep
    split at hstep
    · rename_i htask
      cases hstep
      rw [htask] at h
      refine Eq.trans ?_ h
      simp [dispatched, probeEvents, dispatchMonitorEvent, ProbeDrain.append, LoopTask.drain]
    · rename_i htask
      cases hstep
      rw [htask] at h
      rw [dispatched_other]
      exact h
    · cases hstep
  | record =>
    obtain ⟨-, hstep⟩ := idle_of_guard hstep
    split at hstep
    · rename_i htask
      cases hstep
      rw [htask] at h
      refine Eq.trans ?_ h
      simp [dispatched, probeEvents, ProbeDrain.append, LoopTask.drain]
    · cases hstep
  | spike diagnosis =>
    obtain ⟨-, hstep⟩ := idle_of_guard hstep
    split at hstep
    · rename_i htask
      cases hstep
      rw [htask] at h
      rw [dispatched_handleLiveSpike]
      change _ = ProbeDrain.collect (session.handleLiveSpike _ diagnosis).config
        (session.handleLiveSpike _ diagnosis).removed
      rw [config_handleLiveSpike, removed_handleLiveSpike, ← h]
      simp [ProbeDrain.append, LoopTask.drain]
    · cases hstep
  | drained =>
    obtain ⟨-, hstep⟩ := idle_of_guard hstep
    split at hstep
    · rename_i htask
      cases hstep
      rw [htask] at h
      exact h
    · cases hstep
  | send =>
    obtain ⟨bus, -, rfl⟩ := Option.map_eq_some_iff.mp hstep
    exact h
  | receive i =>
    obtain ⟨bus, -, rfl⟩ := Option.map_eq_some_iff.mp hstep
    exact h
  | branch events stops => cases hbranch
  | bodyDone =>
    obtain ⟨-, hstep⟩ := idle_of_guard hstep
    split at hstep
    · rename_i stops htask
      cases hstep
      rw [htask] at h
      cases stops <;> exact h
    · cases hstep

/-- A `select!` that is entered without a drain finds an idle bus. -/
theorem selecting_step (hbranch : s.isBranch = false)
    (h : session.task = .selecting → session.bus.sending = [])
    (hstep : session.step s = some after) : after.task = .selecting → after.bus.sending = [] := by
  intro hafter
  cases s with
  | arrive item =>
    cases hstep
    exact h hafter
  | drain =>
    simp only [step] at hstep
    split at hstep
    · cases hstep
      cases hafter
    · cases hstep
  | dispatch =>
    obtain ⟨-, hstep⟩ := idle_of_guard hstep
    split at hstep
    · cases hstep
      cases hafter
    · cases hstep
      cases hafter
    · cases hstep
  | record =>
    obtain ⟨-, hstep⟩ := idle_of_guard hstep
    split at hstep
    · cases hstep
      cases hafter
    · cases hstep
  | spike diagnosis =>
    obtain ⟨-, hstep⟩ := idle_of_guard hstep
    split at hstep
    · cases hstep
      cases hafter
    · cases hstep
  | drained =>
    obtain ⟨hidle, hstep⟩ := idle_of_guard hstep
    split at hstep
    · cases hstep
      exact hidle
    · cases hstep
  | send =>
    obtain ⟨bus, hbus, rfl⟩ := Option.map_eq_some_iff.mp hstep
    change bus.sending = []
    rw [sending_send hbus, h hafter]
    rfl
  | receive i =>
    obtain ⟨bus, hbus, rfl⟩ := Option.map_eq_some_iff.mp hstep
    change bus.sending = []
    rw [sending_receive hbus]
    exact h hafter
  | branch events stops => cases hbranch
  | bodyDone =>
    obtain ⟨hidle, hstep⟩ := idle_of_guard hstep
    split at hstep
    · cases hstep
      exact hidle
    · cases hstep

end Drains

/-! ## Runs -/

section Runs
variable {session} {after : MonitorSession n α} {s : LoopStep n α}

/-- What holds between two steps while no drain was dropped. -/
structure Sound (session : MonitorSession n α) : Prop extends session.NothingLost,
  session.BusIdle

/-- A branch that completes in an idle `select!` changes nothing that is counted. -/
theorem Sound.branch (h : session.Sound) (htask : session.task = .selecting)
    (events : List (MonitorEventKind × α)) (stops : Bool) :
    (session.completeBranch events stops).Sound := by
  have hbus : (session.completeBranch events stops).bus = session.bus := by
    unfold completeBranch
    rw [← h.selecting htask]
  refine ⟨⟨⟨?_, ?_⟩, ?_⟩, ⟨?_, ?_⟩⟩
  · rw [hbus]
    exact h.emitted
  · rw [hbus]
    exact h.delivered
  · have hcollected := h.collected
    rw [htask] at hcollected
    exact hcollected
  · rw [hbus]
    exact h.reliableSends
  · intro _
    rfl

theorem Sound.step (h : session.Sound)
    (hkeeps : s.isBranch = true → session.task.isDraining = false)
    (hstep : session.step s = some after) : after.Sound := by
  by_cases hbranch : s.isBranch = true
  · cases s with
    | branch events stops =>
      obtain ⟨rfl, htask | ⟨hdraining, -⟩⟩ := step_branch hstep
      · exact h.branch htask events stops
      · rw [hkeeps rfl] at hdraining
        cases hdraining
    | _ => cases hbranch
  · have hbranch : s.isBranch = false := by simpa using hbranch
    have hmoves := busMoves hbranch hstep
    exact ⟨⟨h.toBusAgrees.moves hmoves, collected_step hbranch h.collected hstep⟩,
      ⟨reliableSends_moves h.reliableSends hmoves, selecting_step hbranch h.selecting hstep⟩⟩

theorem IsNew.sound (h : session.IsNew) : session.Sound := by
  have hassigned : ∀ i, session.bus.assigned i = [] := fun i => by
    rw [assigned_idle h.bus.sending, h.bus.streams]
  refine ⟨⟨⟨?_, ?_⟩, ?_⟩, ⟨?_, ?_⟩⟩
  · rw [h.bus.emitted, h.sinks]
    rfl
  · intro i
    rw [hassigned, h.bus.emitted]
  · simp [dispatched, probeEvents, h.sinks, h.telemetry, h.task, h.removed, LoopTask.drain,
      ProbeDrain.append, ProbeDrain.collect, ProbeDrain.empty]
  · rw [h.bus.sending]
    simp
  · exact fun _ => h.bus.sending

theorem Misses.not_nothingLost (h : Misses session.bus) : ¬ session.NothingLost := by
  intro hlost
  obtain ⟨i, hi⟩ := h
  rw [hlost.delivered i] at hi
  omega

/-- A branch that completes over a drain leaves a subscriber without an event. -/
theorem Sound.misses (h : session.Sound)
    (hdrops : ¬ (s.isBranch = true → session.task.isDraining = false))
    (hstep : session.step s = some after) : Misses after.bus := by
  obtain ⟨hbranch, hdraining⟩ := Classical.not_imp.mp hdrops
  cases s with
  | branch events stops =>
    obtain ⟨rfl, htask | ⟨-, hwaiting⟩⟩ := step_branch hstep
    · rw [htask] at hdraining
      exact absurd rfl hdraining
    · exact misses_of_dropped h.toBusAgrees h.reliableSends hwaiting events stops
  | _ => cases hbranch

/-- **The drain's events.**  A run of the session loses nothing that was drained exactly if no
branch completes while a drain waits for the bus. -/
theorem nothing_lost_iff_uncancelled {steps : List (LoopStep n α)} (hnew : session.IsNew)
    (hrun : session.run steps = some after) : after.NothingLost ↔ session.Uncancelled steps :=
  GuardedRun.undamaged_iff (fun _ _ _ h hkeeps hstep => h.step hkeeps hstep)
    (fun _ _ _ h hdrops hstep => h.misses hdrops hstep) (fun _ _ _ h hstep => Misses.step h hstep)
    (fun _ h => h.toNothingLost) (fun _ h => Misses.not_nothingLost h) hnew.sound hrun

end Runs

/-- A session with one subscriber, whose queue holds one event. -/
def narrowSession : MonitorSession 1 Nat where
  config := ⟨1000, none, true⟩
  ring := []
  bus := .narrowBus
  task := .selecting
  sinks := []
  telemetry := ⟨[], [], []⟩
  removed := []

theorem isNew_narrowSession : narrowSession.IsNew :=
  ⟨isNew_withCapacities _, rfl, rfl, rfl, rfl⟩

/-- A tick after the drain is done. -/
def tickAfterDrain : List (LoopStep 1 Nat) :=
  [.arrive (.exec 1), .arrive (.irqLatency 2), .drain, .dispatch, .send, .dispatch, .record,
    .drained, .branch [] false, .bodyDone]

theorem tickAfterDrain_loses_nothing :
    ∃ after, narrowSession.run tickAfterDrain = some after ∧ after.NothingLost := by
  have huncancelled : narrowSession.Uncancelled tickAfterDrain := by
    refine .cons rfl nofun (.cons rfl nofun (.cons rfl nofun (.cons rfl nofun ?_)))
    refine .cons rfl nofun (.cons rfl nofun (.cons rfl nofun (.cons rfl nofun ?_)))
    exact .cons rfl (fun _ => rfl) (.cons rfl nofun trivial)
  refine ⟨_, rfl, ?_⟩
  exact (nothing_lost_iff_uncancelled isNew_narrowSession rfl).mpr huncancelled

/-- A tick while the second of two exec events waits for the subscriber. -/
def tickDuringDrain : List (LoopStep 1 Nat) :=
  [.arrive (.exec 1), .arrive (.exec 2), .arrive (.irqLatency 3), .drain, .dispatch, .send,
    .dispatch, .branch [] false, .bodyDone]

/-- The drain is dropped with the interrupt's event and its record. -/
theorem tickDuringDrain_loses_irq :
    ∃ after, narrowSession.IsNew ∧ narrowSession.run tickDuringDrain = some after ∧
      ¬ after.NothingLost := by
  refine ⟨_, isNew_narrowSession, rfl, ?_⟩
  intro h
  have hirqs := congrArg ProbeDrain.pendingIrqs h.collected
  revert hirqs
  decide

end MonitorSession

end Stutter.Session

import Mathlib.Data.List.FinRange
import Mathlib.Logic.Function.Basic
import StutterProof.GuardedRun

/-! # The monitor's event bus

One bus feeds every subscriber through a bounded queue of its own.  Reliable events wait for room,
droppable ones do not, and of the conflated ones the bus keeps the last that found a queue full, for
the next flush.  The steps are those of the code between two waits: an `emit` or a `flush` that has
to wait leaves its remaining sends in `sending`, and receivers run in between. -/
namespace Stutter.Session

/-! ## Events -/

/-- How an event is delivered to a slow sink. -/
inductive MonitorEventDeliveryClass where
  | reliable | conflated | droppable | auditCritical
  deriving DecidableEq

/-- The variants of `MonitorEvent`, in the order of their names. -/
inductive MonitorEventKind where
  | alert | cpuFreqSample | dataQualityWarning | dmaBufEvent | drmFenceEvent | exec | finished
  | focusChanged | focusCleared | foregroundEvent | frame | gpuEngineSample | gpuSample | interval
  | ioEvent | irqEvent | kmsFlipEvent | liveDiagnosis | migrationEvent | schedulerSample | scxEvent
  | spike | targetSnapshot | waylandPresentationEvent | workloadProgress
  deriving DecidableEq

namespace MonitorEventKind

/-- `MonitorEvent::delivery_class`. -/
def deliveryClass : MonitorEventKind → MonitorEventDeliveryClass
  | finished | dataQualityWarning | alert => .auditCritical
  | targetSnapshot | workloadProgress | focusChanged | focusCleared | foregroundEvent | scxEvent
  | exec => .reliable
  | interval => .conflated
  | schedulerSample | spike | frame | gpuSample | gpuEngineSample | irqEvent | ioEvent
  | migrationEvent | cpuFreqSample | kmsFlipEvent | drmFenceEvent | waylandPresentationEvent
  | dmaBufEvent | liveDiagnosis => .droppable

/-- `MonitorEvent::kind`. -/
def name : MonitorEventKind → String
  | alert => "alert"
  | cpuFreqSample => "cpu_freq_sample"
  | dataQualityWarning => "data_quality_warning"
  | dmaBufEvent => "dmabuf_event"
  | drmFenceEvent => "drm_fence_event"
  | exec => "exec"
  | finished => "finished"
  | focusChanged => "focus_changed"
  | focusCleared => "focus_cleared"
  | foregroundEvent => "foreground_event"
  | frame => "frame"
  | gpuEngineSample => "gpu_engine_sample"
  | gpuSample => "gpu_sample"
  | interval => "interval"
  | ioEvent => "io_event"
  | irqEvent => "irq_event"
  | kmsFlipEvent => "kms_flip_event"
  | liveDiagnosis => "live_diagnosis"
  | migrationEvent => "migration_event"
  | schedulerSample => "scheduler_sample"
  | scxEvent => "scx_event"
  | spike => "spike"
  | targetSnapshot => "target_snapshot"
  | waylandPresentationEvent => "wayland_presentation_event"
  | workloadProgress => "workload_progress"

/-- The order in which a map keyed by the names is walked. -/
def all : List MonitorEventKind :=
  [alert, cpuFreqSample, dataQualityWarning, dmaBufEvent, drmFenceEvent, exec, finished,
    focusChanged, focusCleared, foregroundEvent, frame, gpuEngineSample, gpuSample, interval,
    ioEvent, irqEvent, kmsFlipEvent, liveDiagnosis, migrationEvent, schedulerSample, scxEvent,
    spike, targetSnapshot, waylandPresentationEvent, workloadProgress]

/-- The classes that are sent with a wait. -/
def isReliable (kind : MonitorEventKind) : Bool :=
  kind.deliveryClass == .reliable || kind.deliveryClass == .auditCritical

theorem mem_all (kind : MonitorEventKind) : kind ∈ all := by
  cases kind <;> decide

theorem not_isReliable_of_conflated {kind : MonitorEventKind}
    (h : kind.deliveryClass = .conflated) : kind.isReliable = false := by
  simp only [isReliable, h]
  rfl

end MonitorEventKind

/-- An event as it was emitted; `seq` is the number of the emission. -/
structure Sent (α : Type) where
  seq : Nat
  kind : MonitorEventKind
  payload : α
  deriving DecidableEq

/-! ## Subscribers -/

/-- A subscriber's bounded channel, and what its receiver has taken out. -/
structure MonitorEventSubscriber (α : Type) where
  name : String
  capacity : Nat
  queue : List (Sent α)
  received : List (Sent α)
  bounded : queue.length ≤ capacity

namespace MonitorEventSubscriber
variable {α : Type} (subscriber : MonitorEventSubscriber α)

def isFull : Bool := decide (subscriber.capacity ≤ subscriber.queue.length)

/-- A send that finds room. -/
def push (event : Sent α) (h : subscriber.isFull = false) : MonitorEventSubscriber α :=
  { subscriber with
    queue := subscriber.queue ++ [event]
    bounded := by
      have := of_decide_eq_false h
      simp only [List.length_append, List.length_singleton]
      omega }

/-- `try_send`. -/
def trySend (event : Sent α) : MonitorEventSubscriber α :=
  if h : subscriber.isFull = false then subscriber.push event h else subscriber

/-- `recv`, when there is something to take. -/
def receive : Option (MonitorEventSubscriber α) :=
  match h : subscriber.queue with
  | [] => none
  | event :: rest => some { subscriber with
      queue := rest
      received := subscriber.received ++ [event]
      bounded := by
        have := subscriber.bounded
        rw [h] at this
        simp only [List.length_cons] at this
        omega }

/-- What has been put into the channel, in this order. -/
def stream : List (Sent α) := subscriber.received ++ subscriber.queue

theorem stream_push (event : Sent α) (h : subscriber.isFull = false) :
    (subscriber.push event h).stream = subscriber.stream ++ [event] := by
  simp [stream, push]

theorem stream_trySend (event : Sent α) :
    (subscriber.trySend event).stream =
      if subscriber.isFull then subscriber.stream else subscriber.stream ++ [event] := by
  unfold trySend
  by_cases h : subscriber.isFull = false
  · rw [dif_pos h, stream_push, h]
    rfl
  · rw [dif_neg h, if_pos (by simpa using h)]

theorem stream_receive {after : MonitorEventSubscriber α} (h : subscriber.receive = some after) :
    after.stream = subscriber.stream := by
  unfold receive at h
  split at h
  · cases h
  · rename_i event rest hqueue
    cases h
    simp [stream, hqueue]

end MonitorEventSubscriber

/-! ## The bus -/

/-- The bus with its subscribers. -/
structure MonitorEventBus (n : Nat) (α : Type) where
  subscribers : Fin n → MonitorEventSubscriber α
  /-- The drops, by subscriber and kind. -/
  dropped : String → Nat
  conflated : MonitorEventKind → Option (Sent α)
  /-- The sends of the running `emit` or `flush` that are still to do. -/
  sending : List (Fin n × Sent α)
  /-- Every event that was emitted, and whether the last call was a flush. -/
  emitted : List (Sent α)
  flushed : Bool

namespace MonitorEventBus
variable {n : Nat} {α : Type} (bus : MonitorEventBus n α)

/-- `count_drop` for every subscriber that is full. -/
def countDrops (kind : MonitorEventKind) : String → Nat :=
  (List.finRange n).foldl (fun dropped i =>
    if (bus.subscribers i).isFull then
      let key := s!"{(bus.subscribers i).name}:{kind.name}"
      Function.update dropped key (dropped key + 1)
    else dropped) bus.dropped

/-- `emit_droppable`. -/
def emitDroppable (event : Sent α) : MonitorEventBus n α :=
  { bus with
    subscribers := fun i => (bus.subscribers i).trySend event
    dropped := bus.countDrops event.kind }

def hasFullSubscriber : Bool := (List.finRange n).any fun i => (bus.subscribers i).isFull

/-- `emit_conflated`: a subscriber that is full makes the event wait for the flush. -/
def emitConflated (event : Sent α) : MonitorEventBus n α :=
  { bus.emitDroppable event with
    conflated := if bus.hasFullSubscriber then
      Function.update bus.conflated event.kind (some event) else bus.conflated }

/-- `emit_reliable` and `emit_audit_critical`: one send with a wait for each subscriber. -/
def sendsOf (event : Sent α) : List (Fin n × Sent α) := (List.finRange n).map fun i => (i, event)

def emit (kind : MonitorEventKind) (payload : α) : MonitorEventBus n α :=
  let event : Sent α := ⟨bus.emitted.length, kind, payload⟩
  let bus := { bus with emitted := bus.emitted ++ [event], flushed := false }
  match kind.deliveryClass with
  | .reliable | .auditCritical => { bus with sending := sendsOf event }
  | .conflated => bus.emitConflated event
  | .droppable => bus.emitDroppable event

def flush : MonitorEventBus n α :=
  { bus with
    conflated := fun _ => none
    sending := (MonitorEventKind.all.filterMap bus.conflated).flatMap sendsOf
    flushed := true }

/-- The next send of the running call, once its subscriber has room. -/
def send : Option (MonitorEventBus n α) :=
  match bus.sending with
  | [] => none
  | (i, event) :: rest =>
    if h : (bus.subscribers i).isFull = false then
      some { bus with
        subscribers := Function.update bus.subscribers i ((bus.subscribers i).push event h)
        sending := rest }
    else none

def receive (i : Fin n) : Option (MonitorEventBus n α) :=
  (bus.subscribers i).receive.map fun after =>
    { bus with subscribers := Function.update bus.subscribers i after }

end MonitorEventBus

/-- The steps of the bus and its sinks. -/
inductive BusStep (n : Nat) (α : Type) where
  | emit (kind : MonitorEventKind) (payload : α)
  | flush
  | send
  | receive (i : Fin n)

namespace MonitorEventBus
variable {n : Nat} {α : Type}

/-- One step; the bus is borrowed by one call at a time. -/
def step (bus : MonitorEventBus n α) : BusStep n α → Option (MonitorEventBus n α)
  | .emit kind payload => if bus.sending.isEmpty then some (bus.emit kind payload) else none
  | .flush => if bus.sending.isEmpty then some bus.flush else none
  | .send => bus.send
  | .receive i => bus.receive i

def run (bus : MonitorEventBus n α) (steps : List (BusStep n α)) : Option (MonitorEventBus n α) :=
  GuardedRun.run step bus steps

/-- A bus before its first event. -/
structure IsNew (bus : MonitorEventBus n α) : Prop where
  streams : ∀ i, (bus.subscribers i).stream = []
  conflated : ∀ kind, bus.conflated kind = none
  sending : bus.sending = []
  emitted : bus.emitted = []

end MonitorEventBus

end Stutter.Session

import Mathlib.Algebra.GroupWithZero.Nat
import Mathlib.Algebra.Order.Ring.Rat
import Mathlib.Data.List.Perm.Basic
import Mathlib.Data.List.Sort
import Mathlib.Logic.Function.Basic
import StutterProof.GuardedRun
import StutterProof.SortedWindow

/-! # The rolling window

The live data of the last seconds, in nine streams of records that are sorted by their time.  A push
puts records into one stream and drops from all of them what is before the window.  Most pushes take
their own time as the end of the window; a batch of intervals takes the latest interval, and a
progress record the latest record of all streams.

What is to be in the window is told from the pushes: the records that are not before the latest time
pushed less the duration.  The window holds exactly these as long as no push stores a record that is
before them and its own pruning leaves there. -/
namespace Stutter.Autotune

/-- The streams of the window. -/
inductive WindowStream where
  | intervals | frames | diagnoses | irqEvents | blockIoEvents | gpuSamples | cpuFreqEvents
  | foregroundEvents | workloadProgress
  deriving DecidableEq

def WindowStream.all : List WindowStream :=
  [.intervals, .frames, .diagnoses, .irqEvents, .blockIoEvents, .gpuSamples, .cpuFreqEvents,
    .foregroundEvents, .workloadProgress]

/-- A record: its time, and the rest of it. -/
structure WindowRecord (α : Type) where
  elapsedMs : Nat
  fields : α

-- the rest of a record of each stream
variable {P : WindowStream → Type}

/-- What was recorded lately. -/
structure RollingWindow (P : WindowStream → Type) where
  durationMs : Nat
  items : (s : WindowStream) → List (WindowRecord (P s))
  droppedInvalidFrames : Nat

open SortedWindow

namespace RollingWindow
variable (window : RollingWindow P)

def new (durationMs : Nat) : RollingWindow P := ⟨durationMs, fun _ => [], 0⟩

def latestElapsedMs : Option Nat :=
  (WindowStream.all.filterMap fun s => (window.items s).getLast?.map (·.elapsedMs)).max?

/-- `window_start_ms_for`. -/
def windowStartMsFor (nowElapsedMs : Nat) : Nat := nowElapsedMs - window.durationMs

def pruneTo (nowElapsedMs : Nat) : RollingWindow P :=
  let startMs := window.windowStartMsFor nowElapsedMs
  { window with
    items := fun s => dropBefore WindowRecord.elapsedMs startMs (window.items s) }

/-- The window with other records in one stream. -/
def store (s : WindowStream) (records : List (WindowRecord (P s))) : RollingWindow P :=
  { window with items := Function.update window.items s records }

/-- `push_sorted_by_elapsed` into one stream. -/
def insert (s : WindowStream) (record : WindowRecord (P s)) : RollingWindow P :=
  window.store s (insertAfter WindowRecord.elapsedMs record (window.items s))

/-- The push of a record that prunes to its own time. -/
def pushRecord (s : WindowStream) (record : WindowRecord (P s)) : RollingWindow P :=
  (window.insert s record).pruneTo record.elapsedMs

def pushInterval (record : WindowRecord (P .intervals)) := window.pushRecord .intervals record
def pushBlockIoEvent (event : WindowRecord (P .blockIoEvents)) :=
  window.pushRecord .blockIoEvents event
def pushGpuSample (sample : WindowRecord (P .gpuSamples)) := window.pushRecord .gpuSamples sample
def pushCpuFreqEvent (event : WindowRecord (P .cpuFreqEvents)) :=
  window.pushRecord .cpuFreqEvents event
def pushForegroundEvent (event : WindowRecord (P .foregroundEvents)) :=
  window.pushRecord .foregroundEvents event
def pushDiagnosis (diagnosis : WindowRecord (P .diagnoses)) :=
  window.pushRecord .diagnoses diagnosis

/-- `push_frame`; `valid` is `is_valid_frametime_ms`. -/
def pushFrame (valid : P .frames → Bool) (frame : WindowRecord (P .frames)) : RollingWindow P :=
  if valid frame.fields then window.pushRecord .frames frame
  else
    { window with
      droppedInvalidFrames := min (window.droppedInvalidFrames + 1) (2 ^ 64 - 1) }.pruneTo
      frame.elapsedMs

/-- `push_irq_event`: an event without a time gets the latest one. -/
def pushIrqEvent (elapsedMs : Option Nat) (event : P .irqEvents) : RollingWindow P :=
  match elapsedMs.or window.latestElapsedMs with
  | none => window
  | some elapsedMs => window.pushRecord .irqEvents ⟨elapsedMs, event⟩

/-- A stable sort by time. -/
def sortByElapsed {α : Type} (records : List (WindowRecord α)) : List (WindowRecord α) :=
  records.insertionSort fun a b => a.elapsedMs ≤ b.elapsedMs

def pushIntervals (records : List (WindowRecord (P .intervals))) : RollingWindow P :=
  if records.isEmpty then window
  else
    let intervals := sortByElapsed (window.items .intervals ++ sortByElapsed records)
    match intervals.getLast? with
    | none => window
    | some latest => (window.store .intervals intervals).pruneTo latest.elapsedMs

def pushWorkloadProgress (record : WindowRecord (P .workloadProgress)) : RollingWindow P :=
  let stored := window.insert .workloadProgress record
  stored.pruneTo (max (stored.latestElapsedMs.getD record.elapsedMs) record.elapsedMs)

end RollingWindow

/-- A push, of whatever stream. -/
inductive Push (P : WindowStream → Type) where
  | interval (record : WindowRecord (P .intervals))
  | intervals (records : List (WindowRecord (P .intervals)))
  | frame (frame : WindowRecord (P .frames))
  | diagnosis (diagnosis : WindowRecord (P .diagnoses))
  | irqEvent (elapsedMs : Option Nat) (event : P .irqEvents)
  | blockIoEvent (event : WindowRecord (P .blockIoEvents))
  | gpuSample (sample : WindowRecord (P .gpuSamples))
  | cpuFreqEvent (event : WindowRecord (P .cpuFreqEvents))
  | foregroundEvent (event : WindowRecord (P .foregroundEvents))
  | workloadProgress (record : WindowRecord (P .workloadProgress))

section Pushes
variable (valid : P .frames → Bool) (window : RollingWindow P)

/-- A push, with the pruning after it. -/
def RollingWindow.push : Push P → RollingWindow P
  | .interval record => window.pushInterval record
  | .intervals records => window.pushIntervals records
  | .frame frame => window.pushFrame valid frame
  | .diagnosis diagnosis => window.pushDiagnosis diagnosis
  | .irqEvent elapsedMs event => window.pushIrqEvent elapsedMs event
  | .blockIoEvent event => window.pushBlockIoEvent event
  | .gpuSample sample => window.pushGpuSample sample
  | .cpuFreqEvent event => window.pushCpuFreqEvent event
  | .foregroundEvent event => window.pushForegroundEvent event
  | .workloadProgress record => window.pushWorkloadProgress record

/-! ## What is pushed -/

/-- The records that a push hands to a stream with the times they get, the latest time among what is
pushed, and the time that the push prunes to. -/
structure Arrival (P : WindowStream → Type) where
  stream : WindowStream
  records : List (WindowRecord (P stream))
  latest : Nat
  prunedTo : Nat

/-- An arrival of one record that prunes to its time. -/
def Arrival.single (s : WindowStream) (record : WindowRecord (P s)) : Arrival P :=
  ⟨s, [record], record.elapsedMs, record.elapsedMs⟩

/-- The latest time of some records. -/
def latestOf {α : Type} (records : List (WindowRecord α)) : Nat :=
  (records.map (·.elapsedMs)).foldr max 0

/-- The record a push brings, if it is valid. -/
def Push.arrival : Push P → Arrival P
  | .interval record => .single .intervals record
  | .intervals records =>
    ⟨.intervals, records, latestOf records,
      if records.isEmpty then 0 else latestOf (window.items .intervals ++ records)⟩
  | .frame record =>
    ⟨.frames, if valid record.fields then [record] else [], record.elapsedMs, record.elapsedMs⟩
  | .diagnosis entry => .single .diagnoses entry
  | .irqEvent elapsedMs event =>
    match elapsedMs.or window.latestElapsedMs with
    | none => ⟨.irqEvents, [], 0, 0⟩
    | some elapsedMs => .single .irqEvents ⟨elapsedMs, event⟩
  | .blockIoEvent event => .single .blockIoEvents event
  | .gpuSample sample => .single .gpuSamples sample
  | .cpuFreqEvent event => .single .cpuFreqEvents event
  | .foregroundEvent event => .single .foregroundEvents event
  | .workloadProgress record =>
    ⟨.workloadProgress, [record], record.elapsedMs,
      max (window.latestElapsedMs.getD record.elapsedMs) record.elapsedMs⟩

end Pushes

/-- Records of one stream, and none of the others. -/
def onlyIn (s : WindowStream) (records : List (WindowRecord (P s))) :
    (t : WindowStream) → List (WindowRecord (P t)) := Function.update (fun _ => []) s records

/-- What arrives for each stream. -/
def Arrival.recordsOf (arrival : Arrival P) : (s : WindowStream) → List (WindowRecord (P s)) :=
  onlyIn arrival.stream arrival.records

/-- A window beside the records that were pushed and the latest time of a push. -/
structure Tracked (P : WindowStream → Type) where
  window : RollingWindow P
  pushed : (s : WindowStream) → List (WindowRecord (P s))
  latest : Nat

namespace Tracked

def initial (durationMs : Nat) : Tracked P := ⟨.new durationMs, fun _ => [], 0⟩

def step (valid : P .frames → Bool) (tracked : Tracked P) (push : Push P) : Tracked P :=
  let arrival := push.arrival valid tracked.window
  { window := tracked.window.push valid push
    pushed := fun s => tracked.pushed s ++ arrival.recordsOf s
    latest := max tracked.latest arrival.latest }

/-- The window holds the pushed records that are not before the latest time less the duration. -/
structure Holds (tracked : Tracked P) : Prop where
  sorted : ∀ s, SortedWindow.Sorted WindowRecord.elapsedMs (tracked.window.items s)
  contents : ∀ s, (tracked.window.items s).Perm ((tracked.pushed s).filter fun record =>
    tracked.latest - tracked.window.durationMs ≤ record.elapsedMs)
  le_latest : ∀ s, ∀ record ∈ tracked.pushed s, record.elapsedMs ≤ tracked.latest

/-- The push stores no record that is before the window, except what its own pruning drops again. -/
def Fresh (valid : P .frames → Bool) (tracked : Tracked P) (push : Push P) : Prop :=
  let arrival := push.arrival valid tracked.window
  ∀ record ∈ arrival.records,
    max tracked.latest arrival.latest - tracked.window.durationMs ≤ record.elapsedMs ∨
      record.elapsedMs < tracked.window.windowStartMsFor arrival.prunedTo

end Tracked

/-! ## What a push does -/

@[simp] theorem onlyIn_self (s : WindowStream) (records : List (WindowRecord (P s))) :
    onlyIn s records s = records := Function.update_self ..

theorem onlyIn_of_ne {s t : WindowStream} (h : t ≠ s) (records : List (WindowRecord (P s))) :
    onlyIn s records t = [] := Function.update_of_ne h ..

theorem onlyIn_nil (s t : WindowStream) : onlyIn s ([] : List (WindowRecord (P s))) t = [] := by
  by_cases hsame : t = s
  · subst hsame
    exact onlyIn_self t []
  · exact onlyIn_of_ne hsame []

namespace RollingWindow
variable {window : RollingWindow P}

/-- Every stream is sorted. -/
def Sorted (window : RollingWindow P) : Prop :=
  ∀ s, SortedWindow.Sorted WindowRecord.elapsedMs (window.items s)

theorem pruneTo_items (h : window.Sorted) (now : Nat) (s : WindowStream) :
    (window.pruneTo now).items s =
      (window.items s).filter (window.windowStartMsFor now ≤ ·.elapsedMs) :=
  dropBefore_eq_filter (h s)

theorem Sorted.pruneTo (h : window.Sorted) (now : Nat) : (window.pruneTo now).Sorted :=
  fun s => sorted_dropBefore (h s)

@[simp] theorem store_items_self (s : WindowStream) (records : List (WindowRecord (P s))) :
    (window.store s records).items s = records := Function.update_self ..

theorem store_items_of_ne {s t : WindowStream} (h : t ≠ s) (records : List (WindowRecord (P s))) :
    (window.store s records).items t = window.items t := Function.update_of_ne h ..

variable {s : WindowStream}

/-- Storing a stream that holds more records. -/
theorem store_items {records more : List (WindowRecord (P s))}
    (hperm : records.Perm (window.items s ++ more)) (t : WindowStream) :
    ((window.store s records).items t).Perm (window.items t ++ onlyIn s more t) := by
  by_cases hsame : t = s
  · subst hsame
    rw [store_items_self, onlyIn_self]
    exact hperm
  · rw [store_items_of_ne hsame, onlyIn_of_ne hsame, List.append_nil]

theorem Sorted.store (h : window.Sorted) {records : List (WindowRecord (P s))}
    (hrecords : SortedWindow.Sorted WindowRecord.elapsedMs records) :
    (window.store s records).Sorted := by
  intro t
  by_cases hsame : t = s
  · subst hsame
    rw [store_items_self]
    exact hrecords
  · rw [store_items_of_ne hsame]
    exact h t

theorem Sorted.insert (h : window.Sorted) (s : WindowStream) (record : WindowRecord (P s)) :
    (window.insert s record).Sorted :=
  h.store (sorted_insertAfter (h s))

theorem insert_items (s : WindowStream) (record : WindowRecord (P s)) (t : WindowStream) :
    ((window.insert s record).items t).Perm (window.items t ++ onlyIn s [record] t) :=
  store_items insertAfter_perm t

/-! The latest record. -/

theorem le_latestElapsedMs (h : window.Sorted) {record : WindowRecord (P s)}
    (hmem : record ∈ window.items s) :
    ∃ latest, window.latestElapsedMs = some latest ∧ record.elapsedMs ≤ latest := by
  have hsome : window.items s ≠ [] := List.ne_nil_of_mem hmem
  have hlast := List.getLast?_eq_some_getLast hsome
  obtain ⟨-, hle⟩ := le_getLast (h s) hlast
  have htime : ((window.items s).getLast hsome).elapsedMs ∈
      WindowStream.all.filterMap fun s => (window.items s).getLast?.map (·.elapsedMs) := by
    refine List.mem_filterMap.mpr ⟨s, ?_, by rw [hlast]; rfl⟩
    cases s <;> decide
  obtain ⟨latest, hlatest⟩ := Option.isSome_iff_exists.mp (List.isSome_max?_of_mem htime)
  refine ⟨latest, hlatest, (hle record hmem).trans ?_⟩
  exact (List.max?_eq_some_iff.mp hlatest).2 _ htime

theorem latestElapsedMs_eq_some {latest : Nat} (h : window.latestElapsedMs = some latest) :
    ∃ s, ∃ record ∈ window.items s, record.elapsedMs = latest := by
  have hmem := (List.max?_eq_some_iff.mp h).1
  obtain ⟨s, -, hlast⟩ := List.mem_filterMap.mp hmem
  obtain ⟨record, hrecord, rfl⟩ := Option.map_eq_some_iff.mp hlast
  exact ⟨s, record, List.mem_of_getLast? hrecord, rfl⟩

/-- The window after records were put into one stream and all streams were pruned. -/
structure Took (before after : RollingWindow P)
    (arrived : (s : WindowStream) → List (WindowRecord (P s)))
    (prunedTo : Nat) : Prop where
  sorted : after.Sorted
  items : ∀ s, (after.items s).Perm
    ((before.items s ++ arrived s).filter (before.windowStartMsFor prunedTo ≤ ·.elapsedMs))
  durationMs : after.durationMs = before.durationMs

theorem took_nothing (h : window.Sorted) (s : WindowStream) :
    Took window window (onlyIn s []) 0 := by
  refine ⟨h, fun t => ?_, rfl⟩
  rw [onlyIn_nil, List.append_nil, List.filter_eq_self.mpr]
  intro record _
  rw [windowStartMsFor, Nat.zero_sub]
  exact decide_eq_true (Nat.zero_le _)

theorem took_pruneTo {stored : RollingWindow P}
    {arrived : (s : WindowStream) → List (WindowRecord (P s))} (hsorted : stored.Sorted)
    (hstored : ∀ s, (stored.items s).Perm (window.items s ++ arrived s))
    (hduration : stored.durationMs = window.durationMs) (now : Nat) :
    Took window (stored.pruneTo now) arrived now := by
  refine ⟨hsorted.pruneTo now, fun s => ?_, hduration⟩
  rw [pruneTo_items hsorted, windowStartMsFor, windowStartMsFor, hduration]
  exact (hstored s).filter _

theorem took_pushRecord (h : window.Sorted) (s : WindowStream) (record : WindowRecord (P s)) :
    Took window (window.pushRecord s record) (onlyIn s [record]) record.elapsedMs :=
  took_pruneTo (h.insert s record) (insert_items s record) rfl record.elapsedMs

theorem took_pushFrame (h : window.Sorted) (valid : P .frames → Bool)
    (record : WindowRecord (P .frames)) :
    Took window (window.pushFrame valid record)
      (onlyIn .frames (if valid record.fields then [record] else [])) record.elapsedMs := by
  rw [pushFrame]
  by_cases hvalid : valid record.fields = true
  · rw [if_pos hvalid, if_pos hvalid]
    exact took_pushRecord h .frames record
  · rw [if_neg hvalid, if_neg hvalid]
    have hdropped : Sorted { window with
        droppedInvalidFrames := min (window.droppedInvalidFrames + 1) (2 ^ 64 - 1) } := h
    have hitems : ∀ s, (window.items s).Perm (window.items s ++ onlyIn .frames [] s) := by
      intro s
      rw [onlyIn_nil, List.append_nil]
    exact took_pruneTo hdropped hitems rfl record.elapsedMs

variable {α : Type}

theorem sorted_sortByElapsed (records : List (WindowRecord α)) :
    SortedWindow.Sorted WindowRecord.elapsedMs (sortByElapsed records) := by
  have htotal : Std.Total fun a b : WindowRecord α => a.elapsedMs ≤ b.elapsedMs :=
    ⟨fun a b => Nat.le_total a.elapsedMs b.elapsedMs⟩
  have htrans : IsTrans (WindowRecord α) fun a b => a.elapsedMs ≤ b.elapsedMs :=
    ⟨fun _ _ _ => Nat.le_trans⟩
  exact List.pairwise_insertionSort _ records

theorem sortByElapsed_perm (records : List (WindowRecord α)) :
    (sortByElapsed records).Perm records := List.perm_insertionSort _ records

theorem le_latestOf {records : List (WindowRecord α)} {record : WindowRecord α}
    (hmem : record ∈ records) : record.elapsedMs ≤ latestOf records := by
  induction records with
  | nil => cases hmem
  | cons first rest ih =>
    show _ ≤ max first.elapsedMs (latestOf rest)
    rcases List.mem_cons.mp hmem with rfl | hmem
    · exact le_max_left _ _
    · exact (ih hmem).trans (le_max_right _ _)

theorem latestOf_le {records : List (WindowRecord α)} {bound : Nat}
    (h : ∀ record ∈ records, record.elapsedMs ≤ bound) : latestOf records ≤ bound := by
  induction records with
  | nil => exact Nat.zero_le bound
  | cons first rest ih =>
    obtain ⟨hfirst, hrest⟩ := List.forall_mem_cons.mp h
    exact max_le hfirst (ih hrest)

theorem took_pushIntervals (h : window.Sorted) (records : List (WindowRecord (P .intervals))) :
    Took window (window.pushIntervals records) (onlyIn .intervals records)
      (if records.isEmpty then 0 else latestOf (window.items .intervals ++ records)) := by
  rw [pushIntervals]
  by_cases hempty : records.isEmpty = true
  · rw [if_pos hempty, if_pos hempty, List.isEmpty_iff.mp hempty]
    exact took_nothing h .intervals
  · rw [if_neg hempty, if_neg hempty]
    set merged := sortByElapsed (window.items .intervals ++ sortByElapsed records)
    have hperm : merged.Perm (window.items .intervals ++ records) :=
      (sortByElapsed_perm _).trans ((sortByElapsed_perm records).append_left _)
    have hsorted : SortedWindow.Sorted WindowRecord.elapsedMs merged := sorted_sortByElapsed _
    cases hlast : merged.getLast? with
    | none =>
      rw [List.getLast?_eq_none_iff.mp hlast] at hperm
      have hnil := (List.append_eq_nil_iff.mp hperm.nil_eq.symm).2
      exact absurd (List.isEmpty_iff.mpr hnil) hempty
    | some last =>
      -- the latest interval is the last of the merged ones
      obtain ⟨hmem, hle⟩ := le_getLast hsorted hlast
      have hlatest : latestOf (window.items .intervals ++ records) = last.elapsedMs :=
        le_antisymm (latestOf_le fun record hrecord => hle record (hperm.mem_iff.mpr hrecord))
          (le_latestOf (hperm.mem_iff.mp hmem))
      simp only [hlast, hlatest]
      exact took_pruneTo (h.store hsorted) (store_items hperm) rfl last.elapsedMs

/-- The latest time after a record was put in is the latest before, or the record's. -/
theorem latestElapsedMs_insert (h : window.Sorted) (s : WindowStream)
    (record : WindowRecord (P s)) :
    max ((window.insert s record).latestElapsedMs.getD record.elapsedMs) record.elapsedMs =
      max (window.latestElapsedMs.getD record.elapsedMs) record.elapsedMs := by
  have hinsert := h.insert s record
  refine le_antisymm (max_le ?_ (le_max_right _ _)) (max_le ?_ (le_max_right _ _))
  · cases hlatest : (window.insert s record).latestElapsedMs with
    | none => exact le_max_right _ _
    | some latest =>
      obtain ⟨t, other, hmem, rfl⟩ := latestElapsedMs_eq_some hlatest
      rcases List.mem_append.mp ((insert_items s record t).mem_iff.mp hmem) with hold | hnew
      · obtain ⟨latest, hbefore, hle⟩ := le_latestElapsedMs h hold
        rw [hbefore]
        exact hle.trans (le_max_left _ _)
      · by_cases hsame : t = s
        · subst hsame
          rw [onlyIn_self] at hnew
          rw [List.mem_singleton.mp hnew]
          exact le_max_right _ _
        · rw [onlyIn_of_ne hsame] at hnew
          cases hnew
  · cases hlatest : window.latestElapsedMs with
    | none => exact le_max_right _ _
    | some latest =>
      obtain ⟨t, other, hmem, rfl⟩ := latestElapsedMs_eq_some hlatest
      have hafter := (insert_items s record t).mem_iff.mpr (List.mem_append_left _ hmem)
      obtain ⟨latest, hafter, hle⟩ := le_latestElapsedMs hinsert hafter
      rw [hafter]
      exact hle.trans (le_max_left _ _)

/-- What a push does is its arrival. -/
theorem took_push (h : window.Sorted) (valid : P .frames → Bool) (push : Push P) :
    Took window (window.push valid push) (push.arrival valid window).recordsOf
      (push.arrival valid window).prunedTo := by
  cases push with
  | interval record => exact took_pushRecord h .intervals record
  | intervals records => exact took_pushIntervals h records
  | frame record => exact took_pushFrame h valid record
  | diagnosis entry => exact took_pushRecord h .diagnoses entry
  | irqEvent elapsedMs event =>
    rw [push, pushIrqEvent, Push.arrival]
    cases elapsedMs.or window.latestElapsedMs with
    | none => exact took_nothing h .irqEvents
    | some time => exact took_pushRecord h .irqEvents ⟨time, event⟩
  | blockIoEvent event => exact took_pushRecord h .blockIoEvents event
  | gpuSample sample => exact took_pushRecord h .gpuSamples sample
  | cpuFreqEvent event => exact took_pushRecord h .cpuFreqEvents event
  | foregroundEvent event => exact took_pushRecord h .foregroundEvents event
  | workloadProgress record =>
    rw [push, pushWorkloadProgress, latestElapsedMs_insert h]
    exact took_pruneTo (h.insert _ record) (insert_items _ record) rfl _

end RollingWindow

/-! ## The window against what was pushed -/

/-- An arrival prunes to a time between its own latest and the latest of all. -/
structure Arrival.Timely (arrival : Arrival P) (latest : Nat) : Prop where
  records_le : ∀ record ∈ arrival.records, record.elapsedMs ≤ arrival.latest
  latest_le : arrival.latest ≤ arrival.prunedTo
  prunedTo_le : arrival.prunedTo ≤ max latest arrival.latest

open Arrival

theorem Arrival.timely_single (s : WindowStream) (record : WindowRecord (P s)) (latest : Nat) :
    (single s record).Timely latest := by
  refine ⟨fun other hmem => ?_, le_rfl, le_max_right _ _⟩
  rw [List.mem_singleton.mp hmem]
  exact le_rfl

namespace Tracked
variable {valid : P .frames → Bool} {tracked : Tracked P} {push : Push P}

theorem timely_arrival (h : tracked.Holds) :
    (push.arrival valid tracked.window).Timely tracked.latest := by
  have hwindow : ∀ s, ∀ record ∈ tracked.window.items s, record.elapsedMs ≤ tracked.latest := by
    intro s record hmem
    exact h.le_latest s record (List.mem_filter.mp ((h.contents s).mem_iff.mp hmem)).1
  have hlatest : ∀ time, tracked.window.latestElapsedMs = some time → time ≤ tracked.latest := by
    intro time htime
    obtain ⟨s, record, hmem, rfl⟩ := RollingWindow.latestElapsedMs_eq_some htime
    exact hwindow s record hmem
  cases push with
  | interval record => exact timely_single _ record _
  | intervals records =>
    refine ⟨fun record => RollingWindow.le_latestOf, ?_, ?_⟩
    · show latestOf records ≤ if records.isEmpty then 0 else _
      split
      · next hempty =>
        rw [List.isEmpty_iff.mp hempty]
        exact le_rfl
      · exact RollingWindow.latestOf_le fun record hmem =>
          RollingWindow.le_latestOf (List.mem_append_right _ hmem)
    · show (if records.isEmpty then 0 else _) ≤ max tracked.latest (latestOf records)
      split
      · exact Nat.zero_le _
      · refine RollingWindow.latestOf_le fun record hmem => ?_
        rcases List.mem_append.mp hmem with hold | hnew
        · exact (hwindow _ record hold).trans (le_max_left _ _)
        · exact (RollingWindow.le_latestOf hnew).trans (le_max_right _ _)
  | frame record =>
    refine ⟨fun other hmem => ?_, le_rfl, le_max_right _ _⟩
    have hmem : other ∈ if valid record.fields then [record] else [] := hmem
    split at hmem
    · rw [List.mem_singleton.mp hmem]
      exact le_rfl
    · cases hmem
  | diagnosis entry => exact timely_single _ entry _
  | irqEvent elapsedMs event =>
    simp only [Push.arrival]
    cases elapsedMs.or tracked.window.latestElapsedMs with
    | none => exact ⟨nofun, le_rfl, Nat.zero_le _⟩
    | some time => exact timely_single .irqEvents ⟨time, event⟩ _
  | blockIoEvent event => exact timely_single _ event _
  | gpuSample sample => exact timely_single _ sample _
  | cpuFreqEvent event => exact timely_single _ event _
  | foregroundEvent event => exact timely_single _ event _
  | workloadProgress record =>
    refine ⟨(timely_single .workloadProgress record 0).records_le, le_max_right _ _,
      max_le ?_ (le_max_right _ _)⟩
    cases htime : tracked.window.latestElapsedMs with
    | none => exact le_max_right _ _
    | some time => exact (hlatest time htime).trans (le_max_left _ _)

/-- Two lower bounds are one. -/
theorem filter_filter_le {α : Type} (time : α → Nat) (a b : Nat) (items : List α) :
    (items.filter (a ≤ time ·)).filter (b ≤ time ·) = items.filter (max a b ≤ time ·) := by
  rw [List.filter_filter]
  refine List.filter_congr fun item _ => ?_
  rw [Bool.eq_iff_iff, Bool.and_eq_true, decide_eq_true_iff, decide_eq_true_iff, decide_eq_true_iff]
  omega

/-- What a push leaves in a stream: the pushed records of the new window, and those that arrive and
that its pruning leaves. -/
theorem items_step (h : tracked.Holds) (s : WindowStream) :
    let arrival := push.arrival valid tracked.window
    ((tracked.step valid push).window.items s).Perm
      ((tracked.pushed s).filter (fun record =>
          (tracked.step valid push).latest - tracked.window.durationMs ≤ record.elapsedMs) ++
        (arrival.recordsOf s).filter (fun record =>
          tracked.window.windowStartMsFor arrival.prunedTo ≤ record.elapsedMs)) := by
  intro arrival
  have htook := RollingWindow.took_push h.sorted valid push
  have hlow : arrival.latest ≤ arrival.prunedTo := (timely_arrival h).latest_le
  have hhigh : arrival.prunedTo ≤ max tracked.latest arrival.latest :=
    (timely_arrival h).prunedTo_le
  refine (htook.items s).trans ?_
  rw [List.filter_append]
  refine List.Perm.append ?_ (List.Perm.refl _)
  refine ((h.contents s).filter _).trans (List.Perm.of_eq ?_)
  rw [filter_filter_le]
  -- the two ends together are the latest time after the push
  have hend : max (tracked.latest - tracked.window.durationMs)
      (tracked.window.windowStartMsFor arrival.prunedTo) =
        max tracked.latest arrival.latest - tracked.window.durationMs := by
    rw [RollingWindow.windowStartMsFor]
    omega
  rw [hend]
  rfl

theorem durationMs_step (h : tracked.Holds) :
    (tracked.step valid push).window.durationMs = tracked.window.durationMs :=
  (RollingWindow.took_push h.sorted valid push).durationMs

theorem holds_initial (durationMs : Nat) : (initial durationMs : Tracked P).Holds :=
  ⟨fun _ => List.Pairwise.nil, fun _ => List.Perm.refl _, fun _ _ hmem => by cases hmem⟩

/-- The window still holds what it is to hold iff the push is fresh. -/
theorem Holds.step_iff (h : tracked.Holds) :
    (tracked.step valid push).Holds ↔ tracked.Fresh valid push := by
  have htimely : (push.arrival valid tracked.window).Timely tracked.latest := timely_arrival h
  constructor
  · intro hafter record hmem
    by_contra hstale
    rw [not_or, Nat.not_le, Nat.not_lt] at hstale
    -- the record is stored and stays
    have hstored : record ∈ (tracked.step valid push).window.items
        (push.arrival valid tracked.window).stream := by
      refine (items_step h _).mem_iff.mpr (List.mem_append_right _ (List.mem_filter.mpr ⟨?_, ?_⟩))
      · rw [recordsOf, onlyIn_self]
        exact hmem
      · exact decide_eq_true hstale.2
    have hinside := (List.mem_filter.mp ((hafter.contents _).mem_iff.mp hstored)).2
    rw [decide_eq_true_iff, durationMs_step h] at hinside
    exact absurd hinside (Nat.not_le.mpr hstale.1)
  · intro hfresh
    refine ⟨(RollingWindow.took_push h.sorted valid push).sorted, fun s => ?_, fun s => ?_⟩
    · refine (items_step h s).trans (List.Perm.of_eq ?_)
      rw [durationMs_step h]
      show _ = ((tracked.pushed s ++ (push.arrival valid tracked.window).recordsOf s).filter _)
      rw [List.filter_append]
      refine congrArg _ (List.filter_congr fun record hmem => ?_)
      rw [decide_eq_decide]
      by_cases hsame : s = (push.arrival valid tracked.window).stream
      · subst hsame
        rw [recordsOf, onlyIn_self] at hmem
        have hrecord := hfresh record hmem
        have hend := htimely.prunedTo_le
        simp only [RollingWindow.windowStartMsFor, step] at hrecord ⊢
        omega
      · rw [recordsOf, onlyIn_of_ne hsame] at hmem
        cases hmem
    · intro record hmem
      rcases List.mem_append.mp hmem with hold | hnew
      · exact (h.le_latest s record hold).trans (le_max_left _ _)
      · by_cases hsame : s = (push.arrival valid tracked.window).stream
        · subst hsame
          rw [recordsOf, onlyIn_self] at hnew
          exact (htimely.records_le record hnew).trans (le_max_right _ _)
        · rw [recordsOf, onlyIn_of_ne hsame] at hnew
          cases hnew

/-! ## Runs -/

/-- A push as a step of a run. -/
def advance (valid : P .frames → Bool) (tracked : Tracked P) (push : Push P) : Option (Tracked P) :=
  some (tracked.step valid push)

def after (valid : P .frames → Bool) (durationMs : Nat) (pushes : List (Push P)) : Tracked P :=
  pushes.foldl (step valid) (initial durationMs)

theorem run_advance (pushes : List (Push P)) (tracked : Tracked P) :
    GuardedRun.run (advance valid) tracked pushes = some (pushes.foldl (step valid) tracked) := by
  induction pushes generalizing tracked with
  | nil => rfl
  | cons push rest ih => exact ih (tracked.step valid push)

/-- Every push of the run is fresh. -/
def AllFresh (valid : P .frames → Bool) (durationMs : Nat) (pushes : List (Push P)) : Prop :=
  GuardedRun.Meets (advance valid) (Fresh valid) (initial durationMs) pushes

/-- The window holds what it is to hold, for a duration. -/
structure HoldsFor (durationMs : Nat) (tracked : Tracked P) : Prop where
  holds : tracked.Holds
  durationMs : tracked.window.durationMs = durationMs

theorem holdsFor_after {durationMs : Nat} {pushes : List (Push P)}
    (h : AllFresh valid durationMs pushes) :
    HoldsFor durationMs (after valid durationMs pushes) := by
  refine GuardedRun.invariant ?_ ⟨holds_initial durationMs, rfl⟩ h (run_advance pushes _)
  intro tracked push next hbefore hfresh hnext
  obtain rfl := Option.some.inj hnext
  exact ⟨hbefore.holds.step_iff.mpr hfresh,
    (durationMs_step hbefore.holds).trans hbefore.durationMs⟩

end Tracked

/-- A push of a record that has its time. -/
def Push.Timed : Push P → Prop
  | .irqEvent none _ => False
  | _ => True

/-- What arrives with its time is the same in every window. -/
theorem Push.Timed.arrival_eq {push : Push P} (h : push.Timed) (valid : P .frames → Bool)
    (window other : RollingWindow P) :
    (push.arrival valid window).recordsOf = (push.arrival valid other).recordsOf ∧
      (push.arrival valid window).latest = (push.arrival valid other).latest := by
  cases push with
  | irqEvent elapsedMs event =>
    cases elapsedMs with
    | none => exact h.elim
    | some time => exact ⟨rfl, rfl⟩
  | _ => exact ⟨rfl, rfl⟩

namespace Tracked
variable {valid : P .frames → Bool} {tracked : Tracked P} {durationMs : Nat}

/-- What was pushed in a run of timed pushes, told without the windows on the way. -/
theorem foldl_step_of_timed {pushes : List (Push P)} (h : ∀ push ∈ pushes, push.Timed)
    (window : RollingWindow P) (tracked : Tracked P) :
    (∀ s, (pushes.foldl (step valid) tracked).pushed s =
        tracked.pushed s ++ pushes.flatMap fun push => (push.arrival valid window).recordsOf s) ∧
      (pushes.foldl (step valid) tracked).latest =
        (pushes.map fun push => (push.arrival valid window).latest).foldl max tracked.latest := by
  induction pushes generalizing tracked with
  | nil => exact ⟨fun s => (List.append_nil _).symm, rfl⟩
  | cons push rest ih =>
    obtain ⟨htimed, hrest⟩ := List.forall_mem_cons.mp h
    obtain ⟨hrecords, hlatest⟩ := htimed.arrival_eq valid tracked.window window
    obtain ⟨hpushed, hend⟩ := ih hrest (tracked.step valid push)
    refine ⟨fun s => ?_, ?_⟩
    · rw [List.foldl_cons, hpushed, List.flatMap_cons, ← List.append_assoc, ← hrecords]
      rfl
    · rw [List.foldl_cons, hend, List.map_cons, List.foldl_cons, ← hlatest]
      rfl

/-- Fresh runs of the same timed pushes leave the same records. -/
theorem items_perm {pushes pushes' : List (Push P)} (hperm : pushes.Perm pushes')
    (htimed : ∀ push ∈ pushes, push.Timed) (h : AllFresh valid durationMs pushes)
    (h' : AllFresh valid durationMs pushes') (s : WindowStream) :
    ((after valid durationMs pushes).window.items s).Perm
      ((after valid durationMs pushes').window.items s) := by
  have htimed' : ∀ push ∈ pushes', push.Timed :=
    fun push hmem => htimed push (hperm.mem_iff.mpr hmem)
  obtain ⟨hholds, hduration⟩ := holdsFor_after h
  obtain ⟨hholds', hduration'⟩ := holdsFor_after h'
  obtain ⟨hpushed, hlatest⟩ := foldl_step_of_timed htimed (.new durationMs) (initial durationMs)
  obtain ⟨hpushed', hlatest'⟩ := foldl_step_of_timed htimed' (.new durationMs) (initial durationMs)
  have hmax : RightCommutative (max : Nat → Nat → Nat) := ⟨fun a b c => by omega⟩
  have hsame : (after valid durationMs pushes).latest =
      (after valid durationMs pushes').latest := by
    rw [after, after, hlatest, hlatest']
    exact (hperm.map _).foldl_eq _
  refine (hholds.contents s).trans (List.Perm.trans ?_ (hholds'.contents s).symm)
  rw [hduration, hduration', hsame]
  refine List.Perm.filter _ ?_
  rw [after, after, hpushed, hpushed']
  exact (hperm.flatMap_right _).append_left _

/-- **The rolling window.**  Every window of a run is sorted and holds exactly the pushed records
that are not before the latest time less the duration, iff every push is fresh; and then the order
of the pushes does not matter, if irq events have their times. -/
theorem always_holds_iff (valid : P .frames → Bool) (durationMs : Nat) (pushes : List (Push P)) :
    (GuardedRun.Always (advance valid) Holds (initial durationMs) pushes ↔
      AllFresh valid durationMs pushes) ∧
    ∀ pushes' : List (Push P), pushes.Perm pushes' → (∀ push ∈ pushes, push.Timed) →
      AllFresh valid durationMs pushes → AllFresh valid durationMs pushes' → ∀ s,
        ((after valid durationMs pushes).window.items s).Perm
          ((after valid durationMs pushes').window.items s) := by
  refine ⟨?_, fun pushes' hperm htimed h h' s => items_perm hperm htimed h h' s⟩
  refine GuardedRun.always_iff ?_ ?_ (holds_initial durationMs) (run_advance pushes _)
  · intro tracked push next hholds hfresh hnext
    obtain rfl := Option.some.inj hnext
    exact hholds.step_iff.mpr hfresh
  · intro tracked push next hholds hstale hnext
    obtain rfl := Option.some.inj hnext
    exact mt hholds.step_iff.mp hstale

/-- A window of 10 s gets a frame at 20 s and one at 5 s. -/
def lateFrame : List (Push fun _ => Unit) := [.frame ⟨20000, ()⟩, .frame ⟨5000, ()⟩]

/-- The frame of 5 s is kept, and it is not when it comes first. -/
theorem lateFrame_kept :
    ¬ ∀ pushes : List (Push fun _ => Unit),
      GuardedRun.Always (advance fun _ => true) Holds (initial 10000) pushes := by
  intro halways
  have hframe := ((halways lateFrame).2 _ rfl).2 _ rfl |>.contents .frames
  have hlength := hframe.length_eq
  revert hlength
  decide +kernel

end Tracked

end Stutter.Autotune

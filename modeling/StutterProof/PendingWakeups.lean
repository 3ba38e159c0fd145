import StutterProof.RunnableDepth

/-! # The pending wakeups

`TARGET_PENDING_WAKEUPS` counts the pending wakeups by the CPU they were recorded for.  A
wakeup is counted when its task could enter the reverse map too, and is taken off whenever its
record goes: the counter agrees with the records through exactly the runs in which no wakeup
is recorded without being counted. -/
namespace Stutter.Probes

/-! ## The records that are pending -/

/-- The tasks whose pending wakeup was recorded for the CPU. -/
def pendingOn (maps : Maps) (cpu : UInt32) : Nat :=
  maps.wakeupData.count fun tid data => data.targetCpu == cpu && !sameWakeupConsumed maps tid data

/-- One task's part in the number. -/
def pendingShare (wakeup : Option WakeupData) (cpu : UInt32) : Nat :=
  match wakeup with
  | some data => if data.targetCpu = cpu then 1 else 0
  | none => 0

variable (maps : Maps)

theorem share_pendingWakeup (pid cpu : UInt32) :
    maps.wakeupData.share
        (fun tid data => data.targetCpu == cpu && !sameWakeupConsumed maps tid data) pid
      = pendingShare (pendingWakeup maps pid) cpu := by
  unfold Table.share pendingWakeup
  rcases maps.wakeupData.get pid with _ | data
  · rfl
  · by_cases consumed : sameWakeupConsumed maps pid data
    · simp [consumed, pendingShare, Option.filter]
    · simp [consumed, pendingShare, Option.filter]

/-- The wakeup maps changed at one task only. -/
theorem pendingOn_off (maps maps' : Maps) (pid : UInt32)
    (data : ∀ other, other ≠ pid → maps'.wakeupData.get other = maps.wakeupData.get other)
    (consumed : ∀ other, other ≠ pid →
      maps'.wakeupConsumed.get other = maps.wakeupConsumed.get other) (cpu : UInt32) :
    pendingOn maps' cpu + pendingShare (pendingWakeup maps pid) cpu
      = pendingOn maps cpu + pendingShare (pendingWakeup maps' pid) cpu := by
  rw [← share_pendingWakeup, ← share_pendingWakeup]
  apply Table.count_off pid data
  intro other value ne _
  rw [sameWakeupConsumed, sameWakeupConsumed, consumed other ne]

theorem pendingOn_congr {maps' : Maps} (data : maps'.wakeupData = maps.wakeupData)
    (consumed : maps'.wakeupConsumed = maps.wakeupConsumed) (cpu : UInt32) :
    pendingOn maps' cpu = pendingOn maps cpu := by
  rw [pendingOn, pendingOn, data]
  simp only [sameWakeupConsumed, consumed]

theorem pendingOn_recorded (pid : UInt32) (data : WakeupData) (cpu : UInt32) :
    pendingOn (recorded maps pid data) cpu + pendingShare (pendingWakeup maps pid) cpu
      = pendingOn maps cpu + if data.targetCpu = cpu then 1 else 0 := by
  have off := pendingOn_off maps (recorded maps pid data) pid
    (fun other ne => by simp [recorded, ne]) (fun other ne => by simp [recorded, ne]) cpu
  rw [pendingWakeup_recorded, if_pos rfl] at off
  exact off

variable {pid : UInt32}

theorem Cleared.pendingOn {maps base : Maps} (h : Cleared maps base pid) (cpu : UInt32) :
    pendingOn maps cpu = pendingOn base cpu + pendingShare (pendingWakeup maps pid) cpu := by
  have off := pendingOn_off _ _ pid h.data h.consumed cpu
  rw [h.cleared] at off
  exact off.symm

/-- The counter agrees with the pending wakeups, none of which is of pid zero. -/
structure PendingBalanced (maps : Maps) : Prop where
  counts : Counts maps.targetPendingWakeups (pendingOn maps)
  zero : maps.wakeupData.get 0 = none

variable {maps maps' : Maps}

theorem Alike.pendingBalanced (h : Alike maps maps') (b : PendingBalanced maps) :
    PendingBalanced maps' where
  counts := by
    rw [h.targetPendingWakeups]
    exact b.counts.congr (pendingOn_congr _ h.wakeupData h.wakeupConsumed)
  zero := by rw [h.wakeupData]; exact b.zero

theorem recorded_zero {maps : Maps} (data : WakeupData) (nonzero : pid ≠ 0)
    (zero : maps.wakeupData.get 0 = none) : (recorded maps pid data).wakeupData.get 0 = none := by
  have : (0 : UInt32) ≠ pid := Ne.symm nonzero
  simp [recorded, this, zero]

theorem pendingOn_lt {maps : Maps} (zero : maps.wakeupData.get 0 = none) (cpu : UInt32) :
    pendingOn maps cpu < 2 ^ 32 :=
  count_lt_of_get_zero _ _ zero

/-- What `countWakeup` leaves in the counter. -/
theorem countWakeup_pending (inserts : Inserts) (pid cpu : UInt32) :
    (countWakeup maps inserts pid cpu).targetPendingWakeups
      = if (markTaskRunnable maps inserts pid cpu).1
        then atCpu maps.targetPendingWakeups cpu saturatingSucc else maps.targetPendingWakeups := by
  obtain ⟨-, -, frame⟩ := markTaskRunnable_frame maps inserts pid cpu
  unfold countWakeup
  simp only
  split
  · rw [incrementTargetPending, frame]
  · rw [frame]

/-- A recorded wakeup that is counted, on a counter from which its predecessor was taken off. -/
theorem Counts.recorded {array : UInt32 → UInt32} (number : UInt32 → Nat) {maps : Maps}
    {data : WakeupData} {tracked : Bool} (h : Counts array number)
    (next : ∀ cpu, pendingOn (recorded maps pid data) cpu
      = number cpu + if data.targetCpu = cpu then 1 else 0)
    (zero : (recorded maps pid data).wakeupData.get 0 = none)
      (counted : validCpu data.targetCpu → tracked) :
    Counts (if tracked then atCpu array data.targetCpu saturatingSucc else array)
      (pendingOn (recorded maps pid data)) := by
  by_cases valid : validCpu data.targetCpu
  · rw [if_pos (counted valid)]
    exact h.succ next (pendingOn_lt zero)
  · -- a CPU that is not tracked has no slot, whatever the answer was
    have untouched : (if tracked then atCpu array data.targetCpu saturatingSucc else array) =
        array := by
      rw [atCpu, if_neg valid, ite_self]
    rw [untouched]
    intro cpu valid'
    have ne : data.targetCpu ≠ cpu := by
      rintro rfl
      exact valid valid'
    rw [next, if_neg ne]
    exact h cpu valid'

/-- The counter without the wakeup that was replaced. -/
theorem Counts.replaced {maps base : Maps} (data : WakeupData) {old : WakeupData}
    (h : Counts maps.targetPendingWakeups (pendingOn maps)) (alike : Alike maps base)
    (pending : pendingWakeup maps pid = some old) :
    Counts (atCpu maps.targetPendingWakeups old.targetCpu saturatingPred)
        (fun cpu => pendingOn (Probes.recorded base pid data) cpu
          - if data.targetCpu = cpu then 1 else 0) ∧
      ∀ cpu, pendingOn (Probes.recorded base pid data) cpu
        = (pendingOn (Probes.recorded base pid data) cpu - if data.targetCpu = cpu then 1 else 0)
          + if data.targetCpu = cpu then 1 else 0 := by
  have next : ∀ cpu, pendingOn (Probes.recorded base pid data) cpu
        + (if old.targetCpu = cpu then 1 else 0)
      = pendingOn maps cpu + if data.targetCpu = cpu then 1 else 0 := by
    intro cpu
    have step := pendingOn_recorded base pid data cpu
    rw [alike.pendingWakeup, pending,
      pendingOn_congr _ alike.wakeupData alike.wakeupConsumed] at step
    exact step
  -- the old wakeup was one of those pending on its CPU
  have positive : ∀ cpu, (if old.targetCpu = cpu then 1 else 0) ≤ pendingOn maps cpu := by
    intro cpu
    have share := maps.wakeupData.count_remove_add_share
      (fun tid data => data.targetCpu == cpu && !sameWakeupConsumed maps tid data) pid
    rw [share_pendingWakeup, pending] at share
    have unfolded : pendingShare (some old) cpu = if old.targetCpu = cpu then 1 else 0 := rfl
    rw [unfolded] at share
    have total : pendingOn maps cpu = _ := share.symm
    omega
  refine ⟨h.pred fun cpu => ?_, fun cpu => ?_⟩
  · have := next cpu
    have := positive cpu
    omega
  · have := next cpu
    have := positive cpu
    omega

/-- One handler keeps the counter, if it loses no count. -/
theorem PendingBalanced.effect {lost : Prop} (h : PendingBalanced maps)
    (effect : Effect lost maps maps') (kept : ¬lost) : PendingBalanced maps' := by
  cases effect with
  | idle _ alike => exact alike.pendingBalanced h
  | @fresh base pid data inserts loses alike nonzero pending =>
    obtain ⟨frameData, consumed, -⟩ :=
      countWakeup_frame (recorded base pid data) inserts pid data.targetCpu
    have zero := recorded_zero data nonzero (alike.pendingBalanced h).zero
    refine ⟨?_, by rw [frameData]; exact zero⟩
    rw [countWakeup_pending]
    refine Counts.congr ?_ (pendingOn_congr _ frameData consumed)
    refine Counts.recorded (pendingOn maps) ?_ ?_ zero ?_
    · have same : (recorded base pid data).targetPendingWakeups = maps.targetPendingWakeups :=
        alike.targetPendingWakeups
      rw [same]
      exact h.counts
    · intro cpu
      have step := pendingOn_recorded base pid data cpu
      rw [alike.pendingWakeup, pending,
        pendingOn_congr _ alike.wakeupData alike.wakeupConsumed] at step
      exact step
    · intro valid
      obtain ⟨answer, -⟩ := markTaskRunnable_congr base (recorded base pid data)
        rfl rfl inserts pid data.targetCpu
      rw [answer]
      by_contra uncounted
      exact kept (loses.mpr ⟨valid, by simpa using uncounted⟩)
  | @moved base pid data inserts old loses alike nonzero pending differ =>
    obtain ⟨frameData, consumed, -⟩ := countWakeup_frame
      (decrementTargetPending (recorded base pid data) old.targetCpu) inserts pid data.targetCpu
    have zero := recorded_zero data nonzero (alike.pendingBalanced h).zero
    refine ⟨?_, by rw [frameData]; exact zero⟩
    rw [countWakeup_pending]
    refine Counts.congr ?_ (pendingOn_congr (recorded base pid data) frameData consumed)
    obtain ⟨without, next⟩ := Counts.replaced data h.counts alike pending
    refine Counts.recorded _ ?_ next zero ?_
    · have same : (decrementTargetPending (recorded base pid data)
          old.targetCpu).targetPendingWakeups
          = atCpu maps.targetPendingWakeups old.targetCpu saturatingPred := by
        simp only [decrementTargetPending, recorded, alike.targetPendingWakeups]
      rw [same]
      exact without
    · intro valid
      obtain ⟨answer, -⟩ := markTaskRunnable_congr base
        (decrementTargetPending (recorded base pid data) old.targetCpu)
        rfl rfl inserts pid data.targetCpu
      rw [answer]
      by_contra uncounted
      exact kept (loses.mpr ⟨valid, by simpa using uncounted⟩)
  | @replaced base pid data inserts old _ alike nonzero pending same =>
    obtain ⟨frameData, consumed, frame⟩ :=
      markTaskRunnable_frame (recorded base pid data) inserts pid data.targetCpu
    refine ⟨?_, by rw [frameData]; exact recorded_zero data nonzero (alike.pendingBalanced h).zero⟩
    have unchanged : (recorded base pid data).targetPendingWakeups = maps.targetPendingWakeups :=
      alike.targetPendingWakeups
    rw [frame, unchanged]
    refine h.counts.congr fun cpu => ?_
    rw [pendingOn_congr _ frameData consumed]
    have step := pendingOn_recorded base pid data cpu
    rw [alike.pendingWakeup, pending, pendingOn_congr _ alike.wakeupData alike.wakeupConsumed,
      ← same] at step
    have unfolded : pendingShare (some old) cpu = if old.targetCpu = cpu then 1 else 0 := rfl
    rw [unfolded] at step
    omega
  | @migrated pid cpu inserts _ _ =>
    obtain ⟨frameData, consumed, frame⟩ := markTaskRunnable_frame maps inserts pid cpu
    refine ⟨?_, by rw [frameData]; exact h.zero⟩
    rw [frame]
    exact h.counts.congr (pendingOn_congr _ frameData consumed)
  | @settled base _ pid data _ pending cleared alike =>
    obtain ⟨frameData, consumed, frame⟩ :=
      removeRunnable_frame (decrementTargetPending base data.targetCpu) pid
    rw [abandonWakeup] at alike
    refine ⟨?_, ?_⟩
    · rw [alike.targetPendingWakeups, frame]
      have counted : Counts (atCpu base.targetPendingWakeups data.targetCpu saturatingPred)
          (pendingOn base) := by
        rw [cleared.targetPendingWakeups]
        refine h.counts.pred fun cpu => ?_
        have step := cleared.pendingOn cpu
        rw [pending] at step
        exact step
      exact counted.congr fun cpu => (pendingOn_congr _ (alike.wakeupData.trans frameData)
        (alike.wakeupConsumed.trans consumed) cpu)
    · rw [alike.wakeupData, frameData]
      exact cleared.zero h.zero
  | @gone base _ pid _ pending cleared alike =>
    obtain ⟨frameData, consumed, frame⟩ := removeRunnable_frame base pid
    refine ⟨?_, by rw [alike.wakeupData, frameData]; exact cleared.zero h.zero⟩
    rw [alike.targetPendingWakeups, frame, cleared.targetPendingWakeups]
    refine h.counts.congr fun cpu => ?_
    rw [pendingOn_congr _ (alike.wakeupData.trans frameData) (alike.wakeupConsumed.trans consumed)]
    have step := cleared.pendingOn cpu
    rw [pending] at step
    exact step.symm

/-- A handler that loses a count leaves the counter short. -/
theorem PendingBalanced.short {lost : Prop} (h : PendingBalanced maps)
    (effect : Effect lost maps maps') (loses : lost) :
    ¬Counts maps'.targetPendingWakeups (pendingOn maps') := by
  cases effect with
  | idle quiet | replaced quiet | migrated quiet | settled quiet | gone quiet =>
    exact absurd loses quiet
  | @fresh base pid data inserts exact_when alike nonzero pending =>
    obtain ⟨valid, uncounted⟩ := exact_when.mp loses
    obtain ⟨frameData, consumed, -⟩ :=
      countWakeup_frame (recorded base pid data) inserts pid data.targetCpu
    obtain ⟨answer, -⟩ := markTaskRunnable_congr base (recorded base pid data)
      rfl rfl inserts pid data.targetCpu
    have unchanged : (recorded base pid data).targetPendingWakeups = maps.targetPendingWakeups :=
      alike.targetPendingWakeups
    intro counts
    have after := counts data.targetCpu valid
    rw [countWakeup_pending, answer, uncounted, if_neg (by simp), unchanged,
      pendingOn_congr _ frameData consumed, h.counts _ valid] at after
    have step := pendingOn_recorded base pid data data.targetCpu
    rw [alike.pendingWakeup, pending, pendingOn_congr _ alike.wakeupData alike.wakeupConsumed,
      if_pos rfl] at step
    have unfolded : pendingShare none data.targetCpu = 0 := rfl
    omega
  | @moved base pid data inserts old exact_when alike nonzero pending differ =>
    obtain ⟨valid, uncounted⟩ := exact_when.mp loses
    obtain ⟨frameData, consumed, -⟩ := countWakeup_frame
      (decrementTargetPending (recorded base pid data) old.targetCpu) inserts pid data.targetCpu
    obtain ⟨answer, -⟩ := markTaskRunnable_congr base
      (decrementTargetPending (recorded base pid data) old.targetCpu)
      rfl rfl inserts pid data.targetCpu
    -- the slot of the new CPU is not the one the old wakeup was taken off
    have unchanged : (decrementTargetPending (recorded base pid data)
        old.targetCpu).targetPendingWakeups
        data.targetCpu = maps.targetPendingWakeups data.targetCpu := by
      simp only [decrementTargetPending, atCpu]
      split
      · rw [Function.update_of_ne (Ne.symm differ)]
        exact congrFun alike.targetPendingWakeups data.targetCpu
      · exact congrFun alike.targetPendingWakeups data.targetCpu
    intro counts
    have after := counts data.targetCpu valid
    rw [countWakeup_pending, answer, uncounted, if_neg (by simp), unchanged,
      pendingOn_congr (recorded base pid data) frameData consumed, h.counts _ valid] at after
    have step := pendingOn_recorded base pid data data.targetCpu
    rw [alike.pendingWakeup, pending, pendingOn_congr _ alike.wakeupData alike.wakeupConsumed,
      if_pos rfl] at step
    have unfolded : pendingShare (some old) data.targetCpu = 0 := if_neg differ
    omega

/-! ## Over a run -/

/-- No event of the run loses the count of a wakeup. -/
def Maps.KeepsCounts (maps : Maps) : List Event → Prop
  | [] => True
  | event :: rest => ¬LosesCount maps event ∧ (maps.step event).KeepsCounts rest

theorem pendingBalanced_initial : PendingBalanced Maps.initial := ⟨fun _ _ => rfl, rfl⟩

/-- The counter agrees with the records at every point of the run, or some event of it lost a
count. -/
theorem Maps.counts_iff_keepsCounts {maps : Maps} (depth : DepthSound maps)
    (h : PendingBalanced maps) (events : List Event) :
    (∀ n, Counts (maps.run (events.take n)).targetPendingWakeups
      (pendingOn (maps.run (events.take n)))) ↔ maps.KeepsCounts events := by
  induction events generalizing maps with
  | nil =>
    refine ⟨fun _ => trivial, fun _ n => ?_⟩
    rw [List.take_nil]
    exact h.counts
  | cons event rest ih =>
    have effect := maps.step_effect depth.balanced event
    constructor
    · intro agree
      have kept : ¬LosesCount maps event := by
        intro loses
        exact h.short effect loses (agree 1)
      refine ⟨kept, (ih (depth.step event) (h.effect effect kept)).mp fun n => ?_⟩
      exact agree (n + 1)
    · rintro ⟨kept, later⟩ n
      rcases n with _ | n
      · exact h.counts
      · exact (ih (depth.step event) (h.effect effect kept)).mpr later n

/-- At every point of a run the counter of a tracked CPU is the number of tasks whose pending
wakeup was recorded for it, if and only if no event of the run records a wakeup that it does
not count. -/
theorem run_pending_wakeups (events : List Event) :
    (∀ n cpu, validCpu cpu →
      ((Maps.initial.run (events.take n)).targetPendingWakeups cpu).toNat
        = (Maps.initial.run (events.take n)).wakeupData.count fun tid data =>
            data.targetCpu == cpu && !sameWakeupConsumed (Maps.initial.run (events.take n)) tid
              data) ↔
    Maps.initial.KeepsCounts events :=
  Maps.counts_iff_keepsCounts depthSound_initial pendingBalanced_initial events

/-- A wakeup of task 7 on CPU 0 whose record is accepted and whose task does not enter the
reverse map. -/
def uncountedWakeup : List Event :=
  [.retarget fun _ => true, .wakeup (some 7) (some 0) 100 1 ⟨true, true, true, false⟩]

/-- The wakeup is pending and the counter of its CPU is zero. -/
theorem run_pending_wakeups_uncounted :
    ¬∀ events cpu, validCpu cpu →
      ((Maps.initial.run events).targetPendingWakeups cpu).toNat
        = (Maps.initial.run events).wakeupData.count fun tid data =>
            data.targetCpu == cpu && !sameWakeupConsumed (Maps.initial.run events) tid data := by
  intro agree
  exact absurd (agree uncountedWakeup 0 (by decide)) (by decide)

end Stutter.Probes

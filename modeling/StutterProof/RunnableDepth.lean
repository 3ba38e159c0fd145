import Mathlib.Order.Interval.Finset.Nat
import StutterProof.SchedulerProbes

/-! # The runnable depth

`CPU_RUNNABLE_DEPTH` counts the tasks of `RUNNABLE_TASK_CPU` by the CPU they are counted on.
`Effect` lists the ends of a handler, once for this counter and the next; from it, one handler
keeps the depth equal to what the reverse map holds and every task there with a pending
wakeup, and so does every run. -/
namespace Stutter.Probes

/-! ## Counters that saturate -/

/-- The array counts what `number` says, on the tracked CPUs. -/
def Counts (array : UInt32 → UInt32) (number : UInt32 → Nat) : Prop :=
  ∀ cpu, validCpu cpu → (array cpu).toNat = number cpu

theorem saturatingSucc_toNat {n : UInt32} (h : n.toNat + 1 < 2 ^ 32) :
    (saturatingSucc n).toNat = n.toNat + 1 := by
  have below : n ≠ 0xffffffff := by
    rintro rfl
    simp at h
  rw [saturatingSucc, if_neg below, UInt32.toNat_add]
  exact Nat.mod_eq_of_lt h

theorem saturatingPred_toNat {n : UInt32} {m : Nat} (h : n.toNat = m + 1) :
    (saturatingPred n).toNat = m := by
  have positive : n ≠ 0 := by
    rintro rfl
    simp at h
  rw [saturatingPred, if_neg positive, UInt32.toNat_sub_of_le]
  · simp [h]
  · rw [UInt32.le_iff_toNat_le, h]
    simp

variable {number number' : UInt32 → Nat} {array : UInt32 → UInt32}

/-- One more on one CPU; a CPU that is not tracked has no slot. -/
theorem Counts.succ {cpu : UInt32} (h : Counts array number)
    (next : ∀ other, number' other = number other + if cpu = other then 1 else 0)
    (small : ∀ other, number' other < 2 ^ 32) :
    Counts (atCpu array cpu saturatingSucc) number' := by
  intro other valid
  have bound := small other
  rw [next other] at bound ⊢
  by_cases same : cpu = other
  · subst same
    rw [if_pos rfl] at bound ⊢
    rw [atCpu, if_pos valid, Function.update_self, saturatingSucc_toNat] <;> rw [h cpu valid]
    exact bound
  · rw [if_neg same, Nat.add_zero, atCpu, ← h other valid]
    split
    · rw [Function.update_of_ne (Ne.symm same)]
    · rfl

/-- One less on one CPU. -/
theorem Counts.pred {cpu : UInt32} (h : Counts array number)
    (next : ∀ other, number other = number' other + if cpu = other then 1 else 0) :
    Counts (atCpu array cpu saturatingPred) number' := by
  intro other valid
  have before := h other valid
  rw [next other] at before
  by_cases same : cpu = other
  · subst same
    rw [if_pos rfl] at before
    rw [atCpu, if_pos valid, Function.update_self]
    exact saturatingPred_toNat before
  · rw [if_neg same, Nat.add_zero] at before
    rw [atCpu, ← before]
    split
    · rw [Function.update_of_ne (Ne.symm same)]
    · rfl

theorem Counts.congr (h : Counts array number) (same : ∀ cpu, number' cpu = number cpu) :
    Counts array number' := by
  intro cpu valid
  rw [same, h cpu valid]

/-- A table whose keys are pids other than zero has no more entries than a `u32` counts. -/
theorem count_lt_of_get_zero {V : Type} (table : Table UInt32 V) (p : UInt32 → V → Bool)
    (zero : table.get 0 = none) : table.count p < 2 ^ 32 := by
  have bound := table.count_le_of_keys p (Finset.Icc 1 (2 ^ 32 - 1)) UInt32.toNat
    (fun _ _ => UInt32.toNat_inj.mp) (by
      intro key value found
      have positive : key.toNat ≠ 0 := by
        intro h
        have : key = 0 := UInt32.toNat_inj.mp h
        rw [this, zero] at found
        exact absurd found (by simp)
      have := key.toNat_lt
      rw [Finset.mem_Icc]
      omega)
  rw [Nat.card_Icc] at bound
  omega

theorem toUInt32_ne_zero {pid : Int32} (h : ¬pid ≤ 0) : pid.toUInt32 ≠ 0 := by
  intro zero
  obtain ⟨bits⟩ := pid
  have none : bits = 0 := zero
  subst none
  exact h (Int32.le_refl 0)

/-! ## The tasks of the reverse map -/

/-- The tasks counted runnable on a CPU. -/
def runnableOn (maps : Maps) (cpu : UInt32) : Nat :=
  maps.runnableTaskCpu.count fun _ counted => counted == cpu

/-- The depth agrees with the reverse map, whose CPUs are tracked and whose pids are not zero. -/
structure DepthBalanced (maps : Maps) : Prop where
  depth : Counts maps.cpuRunnableDepth (runnableOn maps)
  tracked : ∀ pid cpu, maps.runnableTaskCpu.get pid = some cpu → validCpu cpu
  zero : maps.runnableTaskCpu.get 0 = none

variable {maps maps' : Maps}

/-- The two parts of the maps the depth is about. -/
theorem DepthBalanced.congr (h : DepthBalanced maps)
    (reverse : maps'.runnableTaskCpu = maps.runnableTaskCpu)
    (depth : maps'.cpuRunnableDepth = maps.cpuRunnableDepth) : DepthBalanced maps' where
  depth := by
    have same : runnableOn maps' = runnableOn maps := by
      funext cpu
      rw [runnableOn, reverse, runnableOn]
    rw [depth, same]
    exact h.depth
  tracked := by rw [reverse]; exact h.tracked
  zero := by rw [reverse]; exact h.zero

theorem runnableOn_set (maps : Maps) (pid cpu : UInt32) (other : UInt32) :
    runnableOn (setRunnableTaskCpu maps pid cpu) other
        + maps.runnableTaskCpu.share (fun _ counted => counted == other) pid
      = runnableOn maps other + if cpu = other then 1 else 0 := by
  have here : (maps.runnableTaskCpu.insert pid cpu).share (fun _ counted => counted == other) pid
      = if cpu = other then 1 else 0 := by
    simp [Table.share]
  rw [← here]
  exact Table.count_off pid (fun key ne => by simp [setRunnableTaskCpu, ne]) (fun _ _ _ _ => rfl)

variable {maps : Maps} {pid cpu : UInt32}

theorem runnableOn_drop (found : maps.runnableTaskCpu.get pid = some cpu) (other : UInt32) :
    runnableOn maps other
      = runnableOn (dropRunnableTaskCpu maps pid) other + if cpu = other then 1 else 0 := by
  have split := maps.runnableTaskCpu.count_remove_add_share (fun _ counted => counted == other) pid
  have here : maps.runnableTaskCpu.share (fun _ counted => counted == other) pid
      = if cpu = other then 1 else 0 := by
    simp [Table.share, found]
  rw [here] at split
  exact split.symm

/-- Counted on no CPU before, counted on a tracked one now. -/
theorem DepthBalanced.enter (h : DepthBalanced maps) (nonzero : pid ≠ 0) (valid : validCpu cpu)
    (absent : maps.runnableTaskCpu.get pid = none) :
    DepthBalanced (incrementCpuRunnableDepth (setRunnableTaskCpu maps pid cpu) cpu) where
  depth := by
    apply h.depth.succ
    · intro other
      have set := runnableOn_set maps pid cpu other
      have none_here : maps.runnableTaskCpu.share (fun _ counted => counted == other) pid = 0 := by
        simp [Table.share, absent]
      rw [none_here, Nat.add_zero] at set
      exact set
    · intro other
      apply count_lt_of_get_zero
      have : (0 : UInt32) ≠ pid := Ne.symm nonzero
      simp [incrementCpuRunnableDepth, setRunnableTaskCpu, this, h.zero]
  tracked := by
    intro pid' cpu' found
    by_cases same : pid' = pid
    · have eq : cpu = cpu' := by simpa [incrementCpuRunnableDepth, setRunnableTaskCpu,
          same] using found
      rwa [← eq]
    · exact h.tracked pid' cpu' (by
        simpa [incrementCpuRunnableDepth, setRunnableTaskCpu, same] using found)
  zero := by
    have : (0 : UInt32) ≠ pid := Ne.symm nonzero
    simp [incrementCpuRunnableDepth, setRunnableTaskCpu, this, h.zero]

/-- Counted on no CPU any more. -/
theorem DepthBalanced.leave (h : DepthBalanced maps)
    (found : maps.runnableTaskCpu.get pid = some cpu) :
    DepthBalanced (dropRunnableTaskCpu (decrementCpuRunnableDepth maps cpu) pid) where
  depth := h.depth.pred (runnableOn_drop found)
  tracked := by
    intro pid' cpu' found'
    by_cases same : pid' = pid
    · simp [dropRunnableTaskCpu, same] at found'
    · exact h.tracked pid' cpu' (by
        simpa [dropRunnableTaskCpu, decrementCpuRunnableDepth, same] using found')
  zero := by
    by_cases same : 0 = pid
    · simp [dropRunnableTaskCpu, same]
    · simp [dropRunnableTaskCpu, decrementCpuRunnableDepth, same, h.zero]

/-- From one CPU to another. -/
theorem DepthBalanced.move {pid old cpu : UInt32} (h : DepthBalanced maps)
    (nonzero : pid ≠ 0) (valid : validCpu cpu) (found : maps.runnableTaskCpu.get pid = some old) :
    DepthBalanced (incrementCpuRunnableDepth
      (decrementCpuRunnableDepth (setRunnableTaskCpu maps pid cpu) old) cpu) := by
  -- the order of the writes to the two maps does not matter: leave, then enter
  have left := h.leave found
  have absent : (dropRunnableTaskCpu (decrementCpuRunnableDepth maps old) pid).runnableTaskCpu.get
      pid
      = none := by
    simp [dropRunnableTaskCpu]
  have entered := left.enter nonzero valid absent
  have reads : ∀ key, (maps.runnableTaskCpu.insert pid cpu).get key
      = ((maps.runnableTaskCpu.remove pid).insert pid cpu).get key := by
    intro key
    by_cases same : key = pid <;> simp [same]
  refine ⟨?_, ?_, ?_⟩
  · refine entered.depth.congr fun other => ?_
    exact Table.count_congr reads fun _ _ _ => rfl
  · intro pid' cpu' found'
    exact entered.tracked pid' cpu' ((reads pid').symm.trans found')
  · exact (reads 0).trans entered.zero

/-- `mark_task_runnable` keeps the agreement. -/
theorem DepthBalanced.markTaskRunnable (h : DepthBalanced maps) (inserts : Inserts)
    (pid cpu : UInt32) : DepthBalanced (markTaskRunnable maps inserts pid cpu).2 := by
  unfold Probes.markTaskRunnable
  split
  · exact h
  rename_i nonzero
  split
  · exact h
  rename_i invalid
  have valid : validCpu cpu := by simpa using invalid
  split
  · rename_i old found
    split
    · exact h
    split
    · exact h
    · exact h.move nonzero valid found
  · rename_i absent
    split
    · exact h
    · exact h.enter nonzero valid absent

/-- `remove_runnable_task_if_present` keeps the agreement. -/
theorem DepthBalanced.removeRunnable (h : DepthBalanced maps) (pid : UInt32) :
    DepthBalanced (removeRunnableTaskIfPresent maps pid) := by
  unfold removeRunnableTaskIfPresent
  split
  · exact h
  split
  · rename_i cpu found
    exact h.leave found
  · exact h

/-- A task that runs was counted on a tracked CPU, so the running CPU is never charged for it. -/
theorem markTaskRunning_eq (h : DepthBalanced maps) (pid cpu : UInt32) :
    markTaskRunning maps pid cpu = removeRunnableTaskIfPresent maps pid := by
  unfold markTaskRunning removeRunnableTaskIfPresent
  split
  · rfl
  split
  · rename_i stored found
    rw [if_pos (h.tracked pid stored found)]
  · rfl

/-! ## What the depth bookkeeping leaves alone -/

theorem markTaskRunnable_frame (maps : Maps) (inserts : Inserts) (pid cpu : UInt32) :
    (markTaskRunnable maps inserts pid cpu).2.wakeupData = maps.wakeupData ∧
      (markTaskRunnable maps inserts pid cpu).2.wakeupConsumed = maps.wakeupConsumed ∧
      (markTaskRunnable maps inserts pid cpu).2.targetPendingWakeups =
        maps.targetPendingWakeups := by
  unfold markTaskRunnable
  split <;> try exact ⟨rfl, rfl, rfl⟩
  split <;> try exact ⟨rfl, rfl, rfl⟩
  split
  · split <;> try exact ⟨rfl, rfl, rfl⟩
    split <;> exact ⟨rfl, rfl, rfl⟩
  · split <;> exact ⟨rfl, rfl, rfl⟩

/-- The answer and the depth depend on the reverse map and the depth only. -/
theorem markTaskRunnable_congr (maps maps' : Maps)
    (reverse : maps'.runnableTaskCpu = maps.runnableTaskCpu)
    (depth : maps'.cpuRunnableDepth = maps.cpuRunnableDepth) (inserts : Inserts)
    (pid cpu : UInt32) :
    (markTaskRunnable maps' inserts pid cpu).1 = (markTaskRunnable maps inserts pid cpu).1 ∧
      (markTaskRunnable maps' inserts pid cpu).2.runnableTaskCpu
        = (markTaskRunnable maps inserts pid cpu).2.runnableTaskCpu ∧
      (markTaskRunnable maps' inserts pid cpu).2.cpuRunnableDepth
        = (markTaskRunnable maps inserts pid cpu).2.cpuRunnableDepth := by
  unfold markTaskRunnable
  rw [reverse]
  split <;> try exact ⟨rfl, reverse, depth⟩
  split <;> try exact ⟨rfl, reverse, depth⟩
  cases maps.runnableTaskCpu.get pid with
  | none =>
    simp only [incrementCpuRunnableDepth, setRunnableTaskCpu]
    split
    · exact ⟨rfl, reverse, depth⟩
    · exact ⟨rfl, by simp only [reverse], by simp only [depth]⟩
  | some old =>
    simp only [incrementCpuRunnableDepth, decrementCpuRunnableDepth, setRunnableTaskCpu]
    split <;> try exact ⟨rfl, reverse, depth⟩
    split
    · exact ⟨rfl, reverse, depth⟩
    · exact ⟨rfl, by simp only [reverse], by simp only [depth]⟩

theorem markTaskRunnable_get_other (maps : Maps) (inserts : Inserts) {pid other : UInt32}
    (cpu : UInt32) (ne : other ≠ pid) :
    (markTaskRunnable maps inserts pid cpu).2.runnableTaskCpu.get other
      = maps.runnableTaskCpu.get other := by
  unfold markTaskRunnable
  split <;> try rfl
  split <;> try rfl
  split
  · split <;> try rfl
    split
    · rfl
    · simp [incrementCpuRunnableDepth, decrementCpuRunnableDepth, setRunnableTaskCpu, ne]
  · split
    · rfl
    · simp [incrementCpuRunnableDepth, setRunnableTaskCpu, ne]

theorem removeRunnable_frame (maps : Maps) (pid : UInt32) :
    (removeRunnableTaskIfPresent maps pid).wakeupData = maps.wakeupData ∧
      (removeRunnableTaskIfPresent maps pid).wakeupConsumed = maps.wakeupConsumed ∧
      (removeRunnableTaskIfPresent maps pid).targetPendingWakeups = maps.targetPendingWakeups := by
  unfold removeRunnableTaskIfPresent
  split
  · exact ⟨rfl, rfl, rfl⟩
  · split <;> exact ⟨rfl, rfl, rfl⟩

theorem removeRunnable_get (h : DepthBalanced maps) (pid other : UInt32) :
    (removeRunnableTaskIfPresent maps pid).runnableTaskCpu.get other
      = if other = pid then none else maps.runnableTaskCpu.get other := by
  unfold removeRunnableTaskIfPresent
  split
  · rename_i zero
    by_cases same : other = pid
    · rw [if_pos same, same, zero, h.zero]
    · rw [if_neg same]
  split
  · simp [dropRunnableTaskCpu, decrementCpuRunnableDepth]
  · rename_i absent
    by_cases same : other = pid
    · rw [if_pos same, same, absent]
    · rw [if_neg same]

/-! ## Wakeups that are pending -/

variable {pid : UInt32}

theorem pendingWakeup_congr (data : maps'.wakeupData.get pid = maps.wakeupData.get pid)
    (consumed : maps'.wakeupConsumed.get pid = maps.wakeupConsumed.get pid) :
    pendingWakeup maps' pid = pendingWakeup maps pid := by
  have same : (fun d => !sameWakeupConsumed maps' pid d) = fun d =>
      !sameWakeupConsumed maps pid d := by
    funext d
    simp only [sameWakeupConsumed, consumed]
  rw [pendingWakeup, pendingWakeup, data, same]

/-- Every task of the reverse map has a pending wakeup. -/
def RunnablePending (maps : Maps) : Prop :=
  ∀ pid cpu, maps.runnableTaskCpu.get pid = some cpu → (pendingWakeup maps pid).isSome

/-- The two maps changed at one task, which is pending or counted nowhere. -/
theorem RunnablePending.off (h : RunnablePending maps) (pid : UInt32)
    (others : ∀ other, other ≠ pid →
      maps'.runnableTaskCpu.get other = maps.runnableTaskCpu.get other ∧
      pendingWakeup maps' other = pendingWakeup maps other)
    (here : maps'.runnableTaskCpu.get pid = none ∨ (pendingWakeup maps' pid).isSome) :
    RunnablePending maps' := by
  intro pid' cpu found
  by_cases same : pid' = pid
  · subst same
    rcases here with absent | pending
    · rw [absent] at found
      exact absurd found (by simp)
    · exact pending
  · obtain ⟨reverse, wakeup⟩ := others pid' same
    rw [wakeup]
    exact h pid' cpu (reverse ▸ found)

/-- The maps with a wakeup recorded. -/
def recorded (maps : Maps) (pid : UInt32) (data : WakeupData) : Maps :=
  { maps with
    wakeupData := maps.wakeupData.insert pid data
    wakeupConsumed := maps.wakeupConsumed.remove pid }

@[simp] theorem pendingWakeup_recorded (maps : Maps) (pid other : UInt32) (data : WakeupData) :
    pendingWakeup (recorded maps pid data) other
      = if other = pid then some data else pendingWakeup maps other := by
  by_cases same : other = pid
  · simp [pendingWakeup, recorded, sameWakeupConsumed, same]
  · rw [if_neg same]
    exact pendingWakeup_congr (by simp [recorded, same]) (by simp [recorded, same])

/-- How `record_wakeup` ends. -/
theorem recordWakeup_cases (maps : Maps) (inserts : Inserts) (pid : UInt32) (data : WakeupData) :
    (inserts.wakeupData = false ∧ recordWakeup maps inserts pid data = (.insertFailed, maps)) ∨
    (inserts.wakeupData = true ∧ pendingWakeup maps pid = none ∧
      recordWakeup maps inserts pid data = (.newPending, recorded maps pid data)) ∨
    (∃ old, pendingWakeup maps pid = some old ∧ old.targetCpu = data.targetCpu ∧
      recordWakeup maps inserts pid data = (.replacedPendingSameCpu, recorded maps pid data)) ∨
    (inserts.wakeupData = true ∧ ∃ old, pendingWakeup maps pid = some old ∧
      old.targetCpu ≠ data.targetCpu ∧ recordWakeup maps inserts pid data
        = (.replacedPendingMovedCpu old, recorded maps pid data)) := by
  unfold recordWakeup
  split
  · rename_i failed
    exact .inl ⟨by simpa using failed, rfl⟩
  rename_i inserted
  have inserted : inserts.wakeupData = true := by simpa using inserted
  rcases pending : pendingWakeup maps pid with _ | old
  · exact .inr (.inl ⟨inserted, rfl, rfl⟩)
  · by_cases same : old.targetCpu = data.targetCpu
    · refine .inr (.inr (.inl ⟨old, rfl, same, ?_⟩))
      simp [same, recorded]
    · refine .inr (.inr (.inr ⟨inserted, old, rfl, same, ?_⟩))
      simp [same, recorded]

/-- How `consume_pending_wakeup` ends. -/
theorem consumePendingWakeup_cases (maps : Maps) (inserts : Inserts) (pid : UInt32) :
    (pendingWakeup maps pid = none ∧ consumePendingWakeup maps inserts pid = (.none, maps)) ∨
    ∃ data, pendingWakeup maps pid = some data ∧ maps.wakeupData.get pid = some data ∧
      (consumePendingWakeup maps inserts pid = (.cursorInsertFailed data, maps) ∨
        consumePendingWakeup maps inserts pid
          = (.ok data, { maps with wakeupConsumed := maps.wakeupConsumed.insert pid data })) := by
  unfold consumePendingWakeup
  rcases found : maps.wakeupData.get pid with _ | data
  · exact .inl ⟨by simp [pendingWakeup, found], rfl⟩
  by_cases consumed : sameWakeupConsumed maps pid data
  · exact .inl ⟨by simp [pendingWakeup, found, consumed], by simp [consumed]⟩
  · refine .inr ⟨data, by simp [pendingWakeup, found, consumed], rfl, ?_⟩
    cases inserts.wakeupConsumed
    · exact .inl (by simp [consumed])
    · exact .inr (by simp [consumed])

/-- The maps without a task's wakeup. -/
def forgotten (maps : Maps) (pid : UInt32) : Maps :=
  { maps with
    wakeupData := maps.wakeupData.remove pid
    wakeupConsumed := maps.wakeupConsumed.remove pid }

@[simp] theorem pendingWakeup_forgotten (maps : Maps) (pid other : UInt32) :
    pendingWakeup (forgotten maps pid) other
      = if other = pid then none else pendingWakeup maps other := by
  by_cases same : other = pid
  · simp [pendingWakeup, forgotten, same]
  · rw [if_neg same]
    exact pendingWakeup_congr (by simp [forgotten, same]) (by simp [forgotten, same])

variable {data : WakeupData}

/-- With nobody in between, the record that could not be marked is still there to be dropped. -/
theorem dropPendingWakeup_eq
    (pending : pendingWakeup maps pid = some data) (found : maps.wakeupData.get pid = some data) :
    dropPendingWakeupAfterCursorFailure maps pid data = (true, forgotten maps pid) := by
  have fresh : sameWakeupConsumed maps pid data = false := by
    simpa [pendingWakeup, found] using pending
  simp [dropPendingWakeupAfterCursorFailure, found, fresh, forgotten]

/-- The maps with a task's record marked. -/
def marked (maps : Maps) (pid : UInt32) (data : WakeupData) : Maps :=
  { maps with wakeupConsumed := maps.wakeupConsumed.insert pid data }

theorem pendingWakeup_marked (found : maps.wakeupData.get pid = some data) (other : UInt32) :
    pendingWakeup (marked maps pid data) other
      = if other = pid then none else pendingWakeup maps other := by
  by_cases same : other = pid
  · simp [pendingWakeup, marked, sameWakeupConsumed, same, found]
  · rw [if_neg same]
    exact pendingWakeup_congr rfl (by simp [marked, same])

/-! ## How a handler ends -/

/-- The maps the counters are about are the same. -/
structure Alike (maps maps' : Maps) : Prop where
  wakeupData : maps'.wakeupData = maps.wakeupData
  wakeupConsumed : maps'.wakeupConsumed = maps.wakeupConsumed
  runnableTaskCpu : maps'.runnableTaskCpu = maps.runnableTaskCpu
  cpuRunnableDepth : maps'.cpuRunnableDepth = maps.cpuRunnableDepth
  targetPendingWakeups : maps'.targetPendingWakeups = maps.targetPendingWakeups

theorem Alike.refl (maps : Maps) : Alike maps maps := ⟨rfl, rfl, rfl, rfl, rfl⟩

theorem Alike.pendingWakeup (h : Alike maps maps') (pid : UInt32) :
    pendingWakeup maps' pid = pendingWakeup maps pid :=
  pendingWakeup_congr (by rw [h.wakeupData]) (by rw [h.wakeupConsumed])

theorem Alike.depthBalanced (h : Alike maps maps') (b : DepthBalanced maps) : DepthBalanced maps' :=
  b.congr h.runnableTaskCpu h.cpuRunnableDepth

theorem Alike.runnablePending (h : Alike maps maps') (r : RunnablePending maps) :
    RunnablePending maps' := by
  intro pid cpu found
  rw [h.pendingWakeup]
  exact r pid cpu (h.runnableTaskCpu ▸ found)

/-- A task's wakeup is pending no more, in maps that are otherwise as they were. -/
structure Cleared (maps maps' : Maps) (pid : UInt32) : Prop where
  data : ∀ other, other ≠ pid → maps'.wakeupData.get other = maps.wakeupData.get other
  consumed : ∀ other, other ≠ pid → maps'.wakeupConsumed.get other = maps.wakeupConsumed.get other
  cleared : pendingWakeup maps' pid = none
  zero : maps.wakeupData.get 0 = none → maps'.wakeupData.get 0 = none
  runnableTaskCpu : maps'.runnableTaskCpu = maps.runnableTaskCpu
  cpuRunnableDepth : maps'.cpuRunnableDepth = maps.cpuRunnableDepth
  targetPendingWakeups : maps'.targetPendingWakeups = maps.targetPendingWakeups

theorem cleared_marked
    (found : maps.wakeupData.get pid = some data) : Cleared maps (marked maps pid data) pid where
  data := fun _ _ => rfl
  consumed := fun other ne => by simp [marked, ne]
  cleared := by rw [pendingWakeup_marked found, if_pos rfl]
  zero := id
  runnableTaskCpu := rfl
  cpuRunnableDepth := rfl
  targetPendingWakeups := rfl

theorem cleared_forgotten (maps : Maps) (pid : UInt32) : Cleared maps (forgotten maps pid) pid where
  data := fun other ne => by simp [forgotten, ne]
  consumed := fun other ne => by simp [forgotten, ne]
  cleared := by rw [pendingWakeup_forgotten, if_pos rfl]
  zero := fun zero => by simp [forgotten, zero]
  runnableTaskCpu := rfl
  cpuRunnableDepth := rfl
  targetPendingWakeups := rfl

/-- The event records a wakeup that becomes pending on a tracked CPU, and the task, not counted
on that CPU yet, does not enter the reverse map: its insert fails. -/
def LosesCount (maps : Maps) : Event → Prop
  | .wakeup (some pid) (some targetCpu) _ _ inserts =>
    ¬pid ≤ 0 ∧ maps.targetPids pid.toUInt32 ∧ inserts.wakeupSeq ∧ inserts.wakeupData ∧
      (∀ old, pendingWakeup maps pid.toUInt32 = some old → old.targetCpu ≠ targetCpu) ∧
      validCpu targetCpu ∧ maps.runnableTaskCpu.get pid.toUInt32 ≠ some targetCpu ∧
      ¬inserts.runnableTaskCpu
  | _ => False

/-- The ends of a handler, from maps whose depth is balanced.  `lost` says whether the event
loses the count of a wakeup. -/
inductive Effect (lost : Prop) (maps : Maps) : Maps → Prop where
  /-- Nothing the counters are about was touched. -/
  | idle {maps' : Maps} : ¬lost → Alike maps maps' → Effect lost maps maps'
  /-- A wakeup of a task that had none pending. -/
  | fresh {base : Maps} {pid : UInt32} {data : WakeupData} {inserts : Inserts} :
      (lost ↔ validCpu data.targetCpu ∧
        (markTaskRunnable base inserts pid data.targetCpu).1 = false) →
      Alike maps base → pid ≠ 0 → pendingWakeup maps pid = none →
      Effect lost maps (countWakeup (recorded base pid data) inserts pid data.targetCpu)
  /-- A wakeup in place of one that was pending on another CPU. -/
  | moved {base : Maps} {pid : UInt32} {data : WakeupData} {inserts : Inserts} {old : WakeupData} :
      (lost ↔ validCpu data.targetCpu ∧
        (markTaskRunnable base inserts pid data.targetCpu).1 = false) →
      Alike maps base → pid ≠ 0 → pendingWakeup maps pid = some old →
      old.targetCpu ≠ data.targetCpu →
      Effect lost maps (countWakeup (decrementTargetPending (recorded base pid data) old.targetCpu)
        inserts pid data.targetCpu)
  /-- A wakeup in place of one that was pending on the same CPU. -/
  | replaced {base : Maps} {pid : UInt32} {data : WakeupData} {inserts : Inserts}
      {old : WakeupData} : ¬lost → Alike maps base → pid ≠ 0 → pendingWakeup maps pid = some old →
      old.targetCpu = data.targetCpu →
      Effect lost maps (markTaskRunnable (recorded base pid data) inserts pid data.targetCpu).2
  /-- The task migrated while it was counted. -/
  | migrated {pid cpu : UInt32} {inserts : Inserts} : ¬lost →
      (∃ old, maps.runnableTaskCpu.get pid = some old) →
      Effect lost maps (markTaskRunnable maps inserts pid cpu).2
  /-- The pending wakeup was consumed or dropped, by a switch or by the task's exit. -/
  | settled {base maps' : Maps} {pid : UInt32} {data : WakeupData} : ¬lost →
      pendingWakeup maps pid = some data → Cleared maps base pid →
      Alike (abandonWakeup base pid data) maps' → Effect lost maps maps'
  /-- The task exited with no wakeup pending. -/
  | gone {base maps' : Maps} {pid : UInt32} : ¬lost →
      pendingWakeup maps pid = none → Cleared maps base pid →
      Alike (removeRunnableTaskIfPresent base pid) maps' → Effect lost maps maps'

/-- The two counters are in different maps. -/
theorem decrementTargetPending_removeRunnable (maps : Maps) (pid cpu : UInt32) :
    decrementTargetPending (removeRunnableTaskIfPresent maps pid) cpu
      = removeRunnableTaskIfPresent (decrementTargetPending maps cpu) pid := by
  unfold removeRunnableTaskIfPresent
  split
  · rfl
  · have reads : (decrementTargetPending maps cpu).runnableTaskCpu.get pid
        = maps.runnableTaskCpu.get pid := rfl
    rw [reads]
    cases maps.runnableTaskCpu.get pid <;> rfl

/-- When a task is not counted. -/
theorem markTaskRunnable_false {inserts : Inserts} (nonzero : pid ≠ 0) (valid : validCpu cpu) :
    (markTaskRunnable maps inserts pid cpu).1 = false ↔
      maps.runnableTaskCpu.get pid ≠ some cpu ∧ ¬inserts.runnableTaskCpu := by
  unfold markTaskRunnable
  rw [if_neg nonzero, valid]
  rcases counted : maps.runnableTaskCpu.get pid with _ | old
  · cases inserts.runnableTaskCpu <;> simp
  · by_cases same : old = cpu
    · simp [same]
    · cases inserts.runnableTaskCpu <;> simp [same]

open Alike

theorem trySchedWakeup_effect (maps : Maps) (pid : Option Int32) (targetCpu : Option UInt32)
    (now : UInt64) (wakerTid : UInt32) (inserts : Inserts) :
    Effect (LosesCount maps (.wakeup pid targetCpu now wakerTid inserts)) maps
      (trySchedWakeup maps pid targetCpu now wakerTid inserts) := by
  rcases pid with _ | pid
  · exact .idle id (refl maps)
  rcases targetCpu with _ | targetCpu
  · exact .idle id (refl maps)
  unfold trySchedWakeup
  simp only
  split
  · rename_i negative
    exact .idle (fun lost => lost.1 negative) (refl maps)
  rename_i positive
  have nonzero := toUInt32_ne_zero positive
  split
  · rename_i other
    exact .idle (fun lost => by simp [lost.2.1] at other) (refl maps)
  rename_i target
  have target : maps.targetPids pid.toUInt32 = true := by simpa using target
  split
  · rename_i failed
    refine .idle (fun lost => ?_) (refl maps)
    simp [nextWakeupSeq, lost.2.2.1] at failed
  rename_i seq base sequenced
  -- the sequence number is in a map of its own
  have sequenced : inserts.wakeupSeq = true ∧ Alike maps base := by
    unfold nextWakeupSeq at sequenced
    simp only [Option.ite_none_left_eq_some, Option.some.injEq, Prod.mk.injEq] at sequenced
    obtain ⟨inserted, -, rfl⟩ := sequenced
    exact ⟨by simpa using inserted, ⟨rfl, rfl, rfl, rfl, rfl⟩⟩
  obtain ⟨numbered, alike⟩ := sequenced
  have reverse := alike.runnableTaskCpu
  rcases recordWakeup_cases base inserts pid.toUInt32 ⟨now, targetCpu, wakerTid, seq⟩ with
    ⟨failed, result⟩ | ⟨inserted, none, result⟩ | ⟨old, pending, same, result⟩
      | ⟨inserted, old, pending, differ, result⟩
  · rw [result]
    exact .idle (fun lost => by simp [lost.2.2.2.1] at failed) alike
  · rw [result]
    rw [alike.pendingWakeup] at none
    refine @Effect.fresh _ _ _ _ ⟨now, targetCpu, wakerTid, seq⟩ _ ?_ alike nonzero none
    constructor
    · rintro ⟨-, -, -, -, -, valid, elsewhere, refused⟩
      exact ⟨valid, (markTaskRunnable_false nonzero valid).mpr ⟨reverse ▸ elsewhere, refused⟩⟩
    · rintro ⟨valid, uncounted⟩
      obtain ⟨elsewhere, refused⟩ := (markTaskRunnable_false nonzero valid).mp uncounted
      exact ⟨positive, target, numbered, inserted, fun old pending => by simp [none] at pending,
        valid, reverse ▸ elsewhere, refused⟩
  · rw [result]
    rw [alike.pendingWakeup] at pending
    exact @Effect.replaced _ _ _ _ ⟨now, targetCpu, wakerTid, seq⟩ _ _
      (fun lost => lost.2.2.2.2.1 old pending same) alike nonzero pending same
  · rw [result]
    rw [alike.pendingWakeup] at pending
    refine @Effect.moved _ _ _ _ ⟨now, targetCpu, wakerTid, seq⟩ _ _ ?_ alike nonzero pending differ
    constructor
    · rintro ⟨-, -, -, -, -, valid, elsewhere, refused⟩
      exact ⟨valid, (markTaskRunnable_false nonzero valid).mpr ⟨reverse ▸ elsewhere, refused⟩⟩
    · rintro ⟨valid, uncounted⟩
      obtain ⟨elsewhere, refused⟩ := (markTaskRunnable_false nonzero valid).mp uncounted
      refine ⟨positive, target, numbered, inserted, ?_, valid, reverse ▸ elsewhere, refused⟩
      intro other found
      rw [pending] at found
      exact Option.some.inj found ▸ differ

variable {lost : Prop}

theorem trySchedSwitch_effect (h : DepthBalanced maps) (nextPid prevPid : Option Int32)
    (prevState : Option Int64) (cpu : UInt32) (inserts : Inserts) (quiet : ¬lost) :
    Effect lost maps (trySchedSwitch maps nextPid prevPid prevState cpu inserts) := by
  rcases nextPid with _ | nextPid
  · exact .idle quiet (refl maps)
  unfold trySchedSwitch
  simp only
  split
  · exact .idle quiet (refl maps)
  rcases consumePendingWakeup_cases maps inserts nextPid.toUInt32 with
    ⟨-, nothing⟩ | ⟨data, pending, found, failed | consumed⟩
  · rw [nothing]
    exact .idle quiet (refl maps)
  · rw [failed]
    simp only [dropPendingWakeup_eq pending found]
    exact .settled quiet pending (cleared_forgotten maps _) (refl _)
  · rw [consumed]
    have abandoned : Effect lost maps
        (abandonWakeup (marked maps nextPid.toUInt32 data) nextPid.toUInt32 data) :=
      .settled quiet pending (cleared_marked found) (refl _)
    simp only
    split
    · exact abandoned
    split
    · -- the task runs: it leaves the reverse map as on every other way out
      have balanced : DepthBalanced (marked maps nextPid.toUInt32 data) := h.congr rfl rfl
      have running := markTaskRunning_eq balanced nextPid.toUInt32 cpu
      have commuted := decrementTargetPending_removeRunnable (marked maps nextPid.toUInt32 data)
        nextPid.toUInt32 data.targetCpu
      rw [abandonWakeup, ← commuted, ← running] at abandoned
      exact abandoned
    · exact abandoned

theorem trySchedMigrateTask_effect (maps : Maps) (pid origCpu destCpu : Option Int32)
    (inserts : Inserts) (quiet : ¬lost) :
    Effect lost maps (trySchedMigrateTask maps pid origCpu destCpu inserts) := by
  rcases pid with _ | pid
  · exact .idle quiet (refl maps)
  unfold trySchedMigrateTask
  simp only
  split
  · exact .idle quiet (refl maps)
  split
  · exact .idle quiet (refl maps)
  split
  · split
    · rename_i old found
      split
      · exact .migrated quiet ⟨old, found⟩
      · exact .idle quiet (refl maps)
    · exact .idle quiet (refl maps)
  · exact .idle quiet (refl maps)

theorem trySchedProcessExit_effect (maps : Maps) (tid : UInt32) (quiet : ¬lost) :
    Effect lost maps (trySchedProcessExit maps tid) := by
  obtain ⟨data, consumed, -⟩ := removeRunnable_frame maps tid
  have pending : pendingWakeup (removeRunnableTaskIfPresent maps tid) tid =
      pendingWakeup maps tid :=
    pendingWakeup_congr (by rw [data]) (by rw [consumed])
  have commuted : Alike (removeRunnableTaskIfPresent (forgotten maps tid) tid)
      (removeForExit (removeRunnableTaskIfPresent maps tid) tid).2 := by
    unfold removeRunnableTaskIfPresent
    split
    · exact ⟨rfl, rfl, rfl, rfl, rfl⟩
    · have reads : (forgotten maps tid).runnableTaskCpu.get tid = maps.runnableTaskCpu.get tid :=
        rfl
      rw [reads]
      cases maps.runnableTaskCpu.get tid <;> exact ⟨rfl, rfl, rfl, rfl, rfl⟩
  unfold trySchedProcessExit
  rcases was : pendingWakeup maps tid with _ | old
  · have ended : removeForExit (removeRunnableTaskIfPresent maps tid) tid
        = (none, (removeForExit (removeRunnableTaskIfPresent maps tid) tid).2) := by
      rw [removeForExit, pending, was]
    rw [ended]
    exact .gone quiet was (cleared_forgotten maps tid) commuted
  · have ended : removeForExit (removeRunnableTaskIfPresent maps tid) tid
        = (some old, (removeForExit (removeRunnableTaskIfPresent maps tid) tid).2) := by
      rw [removeForExit, pending, was]
    rw [ended]
    refine .settled quiet was (cleared_forgotten maps tid) ?_
    rw [abandonWakeup, ← decrementTargetPending_removeRunnable]
    exact ⟨commuted.wakeupData, commuted.wakeupConsumed, commuted.runnableTaskCpu,
      commuted.cpuRunnableDepth, by
        simp only [decrementTargetPending, commuted.targetPendingWakeups]⟩

/-- Every event ends in one of these ways. -/
theorem Maps.step_effect (h : DepthBalanced maps) (event : Event) :
    Effect (LosesCount maps event) maps (maps.step event) := by
  cases event with
  | wakeup pid targetCpu now wakerTid inserts =>
    exact trySchedWakeup_effect maps pid targetCpu now wakerTid inserts
  | switch nextPid prevPid prevState cpu inserts =>
    exact trySchedSwitch_effect h nextPid prevPid prevState cpu inserts id
  | migrate pid origCpu destCpu inserts =>
    exact trySchedMigrateTask_effect maps pid origCpu destCpu inserts id
  | exit tid => exact trySchedProcessExit_effect maps tid id
  | retarget targetPids => exact .idle id ⟨rfl, rfl, rfl, rfl, rfl⟩

/-! ## The depth, over a run -/

/-- The depth agrees with the reverse map, and every task there has a pending wakeup. -/
structure DepthSound (maps : Maps) : Prop where
  balanced : DepthBalanced maps
  pending : RunnablePending maps

theorem countWakeup_frame (maps : Maps) (inserts : Inserts) (pid cpu : UInt32) :
    (countWakeup maps inserts pid cpu).wakeupData = maps.wakeupData ∧
      (countWakeup maps inserts pid cpu).wakeupConsumed = maps.wakeupConsumed ∧
      (countWakeup maps inserts pid cpu).runnableTaskCpu
        = (markTaskRunnable maps inserts pid cpu).2.runnableTaskCpu ∧
      (countWakeup maps inserts pid cpu).cpuRunnableDepth
        = (markTaskRunnable maps inserts pid cpu).2.cpuRunnableDepth := by
  obtain ⟨data, consumed, -⟩ := markTaskRunnable_frame maps inserts pid cpu
  unfold countWakeup
  simp only
  split <;> exact ⟨data, consumed, rfl, rfl⟩

/-- A wakeup was recorded for the task: it is pending, wherever it is counted now. -/
theorem DepthSound.recorded {maps base maps' : Maps}
    {inserts : Inserts} {cpu : UInt32} (h : DepthSound maps) (alike : Alike maps base)
    (wakeupData : maps'.wakeupData = (Probes.recorded base pid data).wakeupData)
    (wakeupConsumed : maps'.wakeupConsumed = (Probes.recorded base pid data).wakeupConsumed)
    (reverse : maps'.runnableTaskCpu
      = (markTaskRunnable (Probes.recorded base pid data) inserts pid cpu).2.runnableTaskCpu)
    (depth : maps'.cpuRunnableDepth
      = (markTaskRunnable (Probes.recorded base pid data) inserts pid cpu).2.cpuRunnableDepth) :
    DepthSound maps' where
  balanced := by
    have start : DepthBalanced (Probes.recorded base pid data) :=
      (alike.depthBalanced h.balanced).congr rfl rfl
    exact (start.markTaskRunnable inserts pid cpu).congr reverse depth
  pending := by
    have wakeups : ∀ other, pendingWakeup maps' other
        = if other = pid then some data else pendingWakeup base other := by
      intro other
      rw [← pendingWakeup_recorded]
      exact pendingWakeup_congr (by rw [wakeupData]) (by rw [wakeupConsumed])
    refine RunnablePending.off (alike.runnablePending h.pending) pid ?_ (.inr ?_)
    · intro other ne
      rw [reverse, markTaskRunnable_get_other _ _ _ ne, wakeups, if_neg ne]
      exact ⟨rfl, rfl⟩
    · rw [wakeups, if_pos rfl]
      rfl

/-- The task's wakeup is gone, and the task left the reverse map. -/
theorem DepthSound.cleared {maps base maps' : Maps} (h : DepthSound maps)
    (cleared : Cleared maps base pid) (wakeupData : maps'.wakeupData = base.wakeupData)
    (wakeupConsumed : maps'.wakeupConsumed = base.wakeupConsumed)
    (reverse : maps'.runnableTaskCpu = (removeRunnableTaskIfPresent base pid).runnableTaskCpu)
    (depth : maps'.cpuRunnableDepth = (removeRunnableTaskIfPresent base pid).cpuRunnableDepth) :
    DepthSound maps' := by
  have start : DepthBalanced base :=
    h.balanced.congr cleared.runnableTaskCpu cleared.cpuRunnableDepth
  refine ⟨(start.removeRunnable pid).congr reverse depth, ?_⟩
  refine h.pending.off pid ?_ (.inl ?_)
  · intro other ne
    rw [reverse, removeRunnable_get start, if_neg ne, cleared.runnableTaskCpu]
    refine ⟨rfl, pendingWakeup_congr ?_ ?_⟩
    · rw [wakeupData, cleared.data other ne]
    · rw [wakeupConsumed, cleared.consumed other ne]
  · rw [reverse, removeRunnable_get start, if_pos rfl]

/-- One handler keeps the depth. -/
theorem DepthSound.effect (h : DepthSound maps) (effect : Effect lost maps maps') :
    DepthSound maps' := by
  cases effect with
  | idle _ alike => exact ⟨alike.depthBalanced h.balanced, alike.runnablePending h.pending⟩
  | fresh _ alike =>
    obtain ⟨data, consumed, reverse, depth⟩ := countWakeup_frame (Probes.recorded _ _ _) _ _ _
    exact h.recorded alike data consumed reverse depth
  | @moved base pid data inserts old _ alike =>
    obtain ⟨frameData, consumed, reverse, depth⟩ := countWakeup_frame
      (decrementTargetPending (Probes.recorded base pid data) old.targetCpu) inserts pid
        data.targetCpu
    -- the pending counter is no part of the depth
    obtain ⟨-, sameReverse, sameDepth⟩ := markTaskRunnable_congr
      (Probes.recorded base pid data)
      (decrementTargetPending (Probes.recorded base pid data) old.targetCpu)
      rfl rfl inserts pid data.targetCpu
    exact h.recorded alike frameData consumed (reverse.trans sameReverse) (depth.trans sameDepth)
  | replaced _ alike =>
    obtain ⟨data, consumed, -⟩ := markTaskRunnable_frame (Probes.recorded _ _ _) _ _ _
    exact h.recorded alike data consumed rfl rfl
  | @migrated pid cpu inserts _ counted =>
    refine ⟨h.balanced.markTaskRunnable inserts pid cpu, ?_⟩
    obtain ⟨data, consumed, -⟩ := markTaskRunnable_frame maps inserts pid cpu
    have wakeups : ∀ other, pendingWakeup (markTaskRunnable maps inserts pid cpu).2 other
        = pendingWakeup maps other :=
      fun other => pendingWakeup_congr (by rw [data]) (by rw [consumed])
    obtain ⟨old, found⟩ := counted
    refine h.pending.off pid ?_ (.inr ?_)
    · exact fun other ne => ⟨markTaskRunnable_get_other _ _ _ ne, wakeups other⟩
    · rw [wakeups]
      exact h.pending pid old found
  | @settled base _ pid data _ _ cleared alike =>
    obtain ⟨frameData, consumed, -⟩ :=
      removeRunnable_frame (decrementTargetPending base data.targetCpu) pid
    rw [abandonWakeup] at alike
    have apart := decrementTargetPending_removeRunnable base pid data.targetCpu
    refine h.cleared cleared (alike.wakeupData.trans frameData)
      (alike.wakeupConsumed.trans consumed) ?_ ?_
    · rw [alike.runnableTaskCpu, ← apart]
      rfl
    · rw [alike.cpuRunnableDepth, ← apart]
      rfl
  | @gone base _ pid _ _ cleared alike =>
    obtain ⟨frameData, consumed, -⟩ := removeRunnable_frame base pid
    exact h.cleared cleared (alike.wakeupData.trans frameData)
      (alike.wakeupConsumed.trans consumed) alike.runnableTaskCpu alike.cpuRunnableDepth

theorem depthSound_initial : DepthSound Maps.initial where
  balanced := ⟨fun _ _ => rfl, fun _ _ found => absurd found (by simp [Maps.initial]), rfl⟩
  pending := fun _ _ found => absurd found (by simp [Maps.initial])

theorem DepthSound.step (h : DepthSound maps) (event : Event) : DepthSound (maps.step event) :=
  h.effect (Maps.step_effect h.balanced event)

theorem DepthSound.run (h : DepthSound maps) (events : List Event) :
    DepthSound (maps.run events) := by
  induction events generalizing maps with
  | nil => exact h
  | cons event rest ih => exact ih (h.step event)

/-- After any run of the handlers the depth of a tracked CPU is the number of tasks the reverse
map counts there, and every such task has a wakeup that was recorded and not consumed. -/
theorem run_runnable_depth (events : List Event) :
    (∀ cpu, validCpu cpu →
      ((Maps.initial.run events).cpuRunnableDepth cpu).toNat
        = (Maps.initial.run events).runnableTaskCpu.count fun _ counted => counted == cpu) ∧
    ∀ pid cpu, (Maps.initial.run events).runnableTaskCpu.get pid = some cpu →
      (pendingWakeup (Maps.initial.run events) pid).isSome :=
  have sound := depthSound_initial.run events
  ⟨sound.balanced.depth, sound.pending⟩

end Stutter.Probes

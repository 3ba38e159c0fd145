import StutterProof.FaultAccounting

/-! # The fault deltas telescope

The deltas of the events of a task add up to the counters of its last event, from zero on.  The
deltas of its interval records add up to what the counters grew by since the first of them: the
first record only sets the baseline, and so does every record after one without a reading or after a
tick without the map. -/
namespace Stutter.Faults

open CounterReadings

/-! ## The summaries of one task -/

section Collect
variable (read : Nat → Option (Nat × Nat)) {tid : Nat}

theorem collectTask_other {acc : Table Nat (Nat × Nat) × List IntervalRecord}
    {entry : Nat × TaskStats} (h : entry.1 ≠ tid) :
    (collectTask read acc entry).1.get tid = acc.1.get tid ∧
      (collectTask read acc entry).2.filter (·.task = tid) = acc.2.filter (·.task = tid) := by
  obtain ⟨task, stats⟩ := entry
  obtain ⟨snapshot, records⟩ := acc
  have hne : tid ≠ task := Ne.symm h
  simp only [collectTask]
  rcases stats.intervalLatency.snapshot with _ | latency
  · exact ⟨rfl, rfl⟩
  · rcases hread : read task with _ | current <;> simp [hne, h]

theorem foldl_collectTask_other {entries : List (Nat × TaskStats)}
    (h : ∀ entry ∈ entries, entry.1 ≠ tid) (acc : Table Nat (Nat × Nat) × List IntervalRecord) :
    (entries.foldl (collectTask read) acc).1.get tid = acc.1.get tid ∧
      (entries.foldl (collectTask read) acc).2.filter (·.task = tid) =
        acc.2.filter (·.task = tid) := by
  induction entries generalizing acc with
  | nil => exact ⟨rfl, rfl⟩
  | cons entry rest ih =>
    obtain ⟨hsnapshot, hrecords⟩ := ih (fun other hmem => h other (List.mem_cons_of_mem _ hmem))
      (collectTask read acc entry)
    obtain ⟨hsnapshot', hrecords'⟩ :=
      @collectTask_other read tid acc entry (h entry List.mem_cons_self)
    exact ⟨hsnapshot.trans hsnapshot', hrecords.trans hrecords'⟩

/-- What a tick makes of a task: nothing where it has no samples, and else one record, whose deltas
are those from the snapshot before to the reading. -/
def Collected (baseline reading after : Option (Nat × Nat)) (records : List IntervalRecord) :
    Prop :=
  (after = baseline ∧ records = []) ∨
    ∃ record, records = [record] ∧ after = reading ∧
      (record.majorFaults, record.minorFaults) =
        match reading with
        | some current => current - baseline.getD current
        | none => 0

theorem collectTask_self (snapshot : Table Nat (Nat × Nat)) {records : List IntervalRecord}
    (hnone : records.filter (·.task = tid) = []) (stats : TaskStats) :
    Collected (snapshot.get tid) (read tid)
      ((collectTask read (snapshot, records) (tid, stats)).1.get tid)
      ((collectTask read (snapshot, records) (tid, stats)).2.filter (·.task = tid)) := by
  simp only [collectTask]
  rcases stats.intervalLatency.snapshot with _ | latency
  · exact .inl ⟨rfl, hnone⟩
  · right
    rcases hread : read tid with _ | current
    · exact ⟨⟨tid, latency.count, 0, 0⟩, by simp [hnone], by simp, rfl⟩
    · exact ⟨_, by simp only [List.filter_append, hnone, List.nil_append]; simp; rfl, by simp, rfl⟩

end Collect

open Monitor

theorem collected_collectIntervalSummaries (monitor : Monitor) (map : Option (Nat → Bool))
    (tid : Nat) :
    Collected (if map.isNone then none else monitor.prevFaultsSnapshot.get tid)
      (monitor.reading map tid)
      ((monitor.collectIntervalSummaries map).1.prevFaultsSnapshot.get tid)
      ((monitor.collectIntervalSummaries map).2.filter (·.task = tid)) := by
  have hbase : (if map.isNone then .empty else monitor.prevFaultsSnapshot : Table Nat
      (Nat × Nat)).get tid =
      if map.isNone then none else monitor.prevFaultsSnapshot.get tid := by
    split <;> rfl
  rw [← hbase]
  unfold collectIntervalSummaries
  dsimp only
  generalize (if map.isNone then Table.empty else monitor.prevFaultsSnapshot) = snapshot
  rcases hstats : monitor.statsByTask.get tid with _ | stats
  · have hother : ∀ entry ∈ monitor.statsByTask.inOrder, entry.1 ≠ tid := by
      rintro ⟨task, stats⟩ hmem rfl
      rw [Table.mem_inOrder, hstats] at hmem
      cases hmem
    exact .inl (foldl_collectTask_other _ hother _)
  · obtain ⟨before, after, hsplit⟩ :=
      List.append_of_mem (monitor.statsByTask.mem_inOrder.mpr hstats)
    -- the other entries are those of other tasks
    have hnodup : (monitor.statsByTask.inOrder.map Prod.fst).Nodup :=
      (monitor.statsByTask.inOrder_perm.map _).nodup_iff.mpr monitor.statsByTask.nodup
    rw [hsplit, List.map_append, List.map_cons, List.nodup_append] at hnodup
    obtain ⟨_, hafter, hbefore⟩ := hnodup
    have hother : (∀ entry ∈ before, entry.1 ≠ tid) ∧ ∀ entry ∈ after, entry.1 ≠ tid := by
      constructor
      · intro entry hmem
        exact hbefore _ (List.mem_map_of_mem hmem) _ List.mem_cons_self
      · intro entry hmem heq
        have hkey : entry.1 ∈ after.map Prod.fst := List.mem_map_of_mem hmem
        exact (List.nodup_cons.mp hafter).1 (heq ▸ hkey)
    rw [hsplit, List.foldl_append, List.foldl_cons]
    obtain ⟨hsnapshot, hrecords⟩ :=
      foldl_collectTask_other (monitor.reading map) hother.1 (snapshot, [])
    generalize before.foldl (collectTask (monitor.reading map))
      (snapshot, []) = acc at hsnapshot hrecords
    obtain ⟨hsnapshot', hrecords'⟩ := foldl_collectTask_other (monitor.reading map) hother.2
      (collectTask (monitor.reading map) acc (tid, stats))
    rw [hsnapshot', hrecords', ← hsnapshot]
    exact collectTask_self _ _ hrecords stats

/-! ## The counters of a task -/

namespace Monitor

/-- The counters of a task, zero until its first fault. -/
def counts (monitor : Monitor) (tid : Nat) : Nat × Nat :=
  ((monitor.prevFaults.get tid).map FaultCounters.read).getD 0

/-- The baseline that the next event of a task is compared with. -/
def lastCounters (monitor : Monitor) (tid : Nat) : Nat × Nat :=
  ((monitor.statsByTask.get tid).map fun stats =>
    (stats.lastSpikeMajorFaults, stats.lastSpikeMinorFaults)).getD 0

/-- The counters in the events of a task that are still to be read. -/
def sentCounters (monitor : Monitor) (tid : Nat) : List (Nat × Nat) :=
  (monitor.ring.filter (·.tid = tid)).map SchedulerEvent.counters

/-- The counters of a task from the last recorded event on, up to the present. -/
def pendingCounters (monitor : Monitor) (tid : Nat) : List (Nat × Nat) :=
  monitor.lastCounters tid :: (monitor.sentCounters tid ++ [monitor.counts tid])

theorem reading_eq_counts {monitor : Monitor} {map : Option (Nat → Bool)} {tid : Nat}
    {current : Nat × Nat} (h : monitor.reading map tid = some current) :
    current = monitor.counts tid := by
  obtain ⟨readable, _, h⟩ := Option.bind_eq_some_iff.mp h
  split at h
  · rw [counts, h]
    rfl
  · cases h

end Monitor

theorem counts_le_insert {prevFaults : PrevFaults} {other : Nat} {counters : FaultCounters}
    (h : ((prevFaults.get other).map FaultCounters.read).getD 0 ≤ counters.read) (tid : Nat) :
    ((prevFaults.get tid).map FaultCounters.read).getD 0 ≤
      (((prevFaults.insert other counters).get tid).map FaultCounters.read).getD 0 := by
  by_cases hsame : tid = other
  · subst hsame
    simpa using h
  · simp [hsame]

theorem counts_tryMajorFault (prevFaults : PrevFaults) (tid other : Nat) (room : Bool) :
    ((prevFaults.get tid).map FaultCounters.read).getD 0 ≤
      (((tryMajorFault prevFaults other room).get tid).map FaultCounters.read).getD 0 := by
  unfold tryMajorFault
  rcases hget : prevFaults.get other with _ | counters
  · cases room
    · exact le_refl _
    · exact counts_le_insert (hget ▸ ⟨Nat.zero_le _, Nat.zero_le _⟩) tid
  · exact counts_le_insert (by simp [hget, FaultCounters.read]) tid

theorem counts_tryMinorFault (prevFaults : PrevFaults) (tid other : Nat) (room : Bool) :
    ((prevFaults.get tid).map FaultCounters.read).getD 0 ≤
      (((tryMinorFault prevFaults other room).get tid).map FaultCounters.read).getD 0 := by
  unfold tryMinorFault
  rcases hget : prevFaults.get other with _ | counters
  · cases room
    · exact le_refl _
    · exact counts_le_insert (hget ▸ ⟨Nat.zero_le _, Nat.zero_le _⟩) tid
  · exact counts_le_insert (by simp [hget, FaultCounters.read]) tid

/-- The counters of a task keep counting: it is neither removed nor does it exit. -/
def Step.Keeps (tid : Nat) : Step → Prop
  | .removed other | .exited other => other ≠ tid
  | _ => True

theorem counts_step {monitor : Monitor} {spikeThresholdNs tid : Nat} {step : Step}
    (h : step.Keeps tid) :
    monitor.counts tid ≤ (monitor.step spikeThresholdNs step).counts tid := by
  cases step with
  | majorFault other room => exact counts_tryMajorFault _ tid other room
  | minorFault other room => exact counts_tryMinorFault _ tid other room
  | schedSwitch other latencyNs sent => cases sent <;> exact le_refl _
  | interpret =>
    show _ ≤ (monitor.interpretNext spikeThresholdNs).1.counts tid
    unfold interpretNext
    split <;> exact le_refl _
  | summaryTick map => exact le_refl _
  | removed other =>
    simp [Monitor.step, removePrevFaultsState, Monitor.counts,
      Ne.symm (show other ≠ tid from h)]
  | exited other => simp [Monitor.step, Monitor.counts, Ne.symm (show other ≠ tid from h)]

/-! ## The invariant of a run -/

/-- The counters of the last event, zero before the first. -/
def countersAfter (events : List (SchedulerEvent × (Nat × Nat))) : Nat × Nat :=
  (events.getLast?.map fun recorded => recorded.1.counters).getD 0

/-- The events of a task as records of its counters, after the zero it starts from. -/
def eventEntries (events : List (SchedulerEvent × (Nat × Nat))) : List (Entry (Nat × Nat)) :=
  .recorded (some 0) 0 :: events.map fun recorded => .recorded (some recorded.1.counters) recorded.2

theorem eventEntries_concat (events : List (SchedulerEvent × (Nat × Nat))) (event : SchedulerEvent)
    (deltas : Nat × Nat) : eventEntries (events ++ [(event, deltas)]) =
      eventEntries events ++ [.recorded (some event.counters) deltas] := by
  simp [eventEntries]

/-- What holds of a task in every state, while its counters keep counting. -/
structure Accounted (spikeThresholdNs tid : Nat) (observed : Observed) : Prop where
  intervals : Kept observed.intervals
  snapshot : observed.monitor.prevFaultsSnapshot.get tid = base observed.intervals
  snapshot_le : ∀ current ∈ base observed.intervals, current ≤ observed.monitor.counts tid
  events : Kept (eventEntries observed.events)
  last : base (eventEntries observed.events) = some (observed.monitor.lastCounters tid)
  pending : (observed.monitor.pendingCounters tid).Pairwise (· ≤ ·)
  spikes : ∀ stats, observed.monitor.statsByTask.get tid = some stats → ∀ spike ∈ stats.topSpikes,
    ∃ event deltas, (event, deltas) ∈ observed.events ∧ spikeThresholdNs ≤ event.latencyNs ∧
      spike = ⟨event.latencyNs, deltas.1, deltas.2⟩

theorem accounted_initial (spikeThresholdNs tid : Nat) :
    Accounted spikeThresholdNs tid ⟨.initial, [], []⟩ where
  intervals := kept_nil
  snapshot := rfl
  snapshot_le := by simp
  events := by
    have hzero : Sound (base []) (.recorded (some (0 : Nat × Nat)) 0) := rfl
    exact kept_nil.concat hzero
  last := rfl
  pending := by simp [Monitor.pendingCounters, Monitor.lastCounters, Monitor.sentCounters,
    Monitor.counts, initial]
  spikes := by simp [initial]

section Step
variable {spikeThresholdNs tid : Nat} {observed : Observed}

/-- A step that records nothing of the task and leaves its statistics and its snapshot. -/
theorem Accounted.silent (h : Accounted spikeThresholdNs tid observed) {monitor : Monitor}
    (hstats : monitor.statsByTask.get tid = observed.monitor.statsByTask.get tid)
    (hsnapshot : monitor.prevFaultsSnapshot.get tid = observed.monitor.prevFaultsSnapshot.get tid)
    (hcounts : observed.monitor.counts tid ≤ monitor.counts tid)
    (hpending : (monitor.pendingCounters tid).Pairwise (· ≤ ·)) :
    Accounted spikeThresholdNs tid { observed with monitor } where
  intervals := h.intervals
  snapshot := hsnapshot.trans h.snapshot
  snapshot_le := fun current hcurrent => (h.snapshot_le current hcurrent).trans hcounts
  events := h.events
  last := by
    rw [h.last, Monitor.lastCounters, Monitor.lastCounters, hstats]
  pending := hpending
  spikes := fun stats hget => h.spikes stats (hstats ▸ hget)

/-- More faults, with the same events on the way. -/
theorem pending_counts {monitor monitor' : Monitor}
    (hcounts : monitor.counts tid ≤ monitor'.counts tid)
    (hlast : monitor'.lastCounters tid = monitor.lastCounters tid)
    (hsent : monitor'.sentCounters tid = monitor.sentCounters tid)
    (h : (monitor.pendingCounters tid).Pairwise (· ≤ ·)) :
    (monitor'.pendingCounters tid).Pairwise (· ≤ ·) := by
  rw [Monitor.pendingCounters, ← List.cons_append, List.pairwise_append] at h ⊢
  obtain ⟨hbefore, _, hlow⟩ := h
  rw [hlast, hsent]
  refine ⟨hbefore, List.pairwise_singleton _ _, fun counters hmem other hother => ?_⟩
  rw [List.mem_singleton.mp hother]
  exact (hlow counters hmem _ List.mem_cons_self).trans hcounts

/-- An event of the task carries its counters of the moment. -/
theorem pending_sent {monitor : Monitor} {other latencyNs : Nat}
    (h : (monitor.pendingCounters tid).Pairwise (· ≤ ·)) :
    ({ monitor with
        ring := monitor.ring ++ [schedSwitchEvent monitor.prevFaults other latencyNs] } :
      Monitor).pendingCounters tid |>.Pairwise (· ≤ ·) := by
  by_cases hsame : other = tid
  · subst hsame
    have hevent : (schedSwitchEvent monitor.prevFaults other latencyNs).counters =
        monitor.counts other := by
      rcases hget : monitor.prevFaults.get other with _ | counters <;>
        simp [schedSwitchEvent, SchedulerEvent.counters, Monitor.counts, hget, FaultCounters.read]
    have hpending : ({ monitor with
        ring := monitor.ring ++ [schedSwitchEvent monitor.prevFaults other latencyNs] } :
        Monitor).pendingCounters other =
          monitor.pendingCounters other ++ [monitor.counts other] := by
      have htid : (schedSwitchEvent monitor.prevFaults other latencyNs).tid = other := rfl
      simp only [Monitor.pendingCounters, Monitor.sentCounters, List.filter_append, List.map_append,
        List.cons_append, List.append_assoc]
      simp [htid, hevent, Monitor.lastCounters, Monitor.counts]
    rw [hpending, List.pairwise_append]
    refine ⟨h, List.pairwise_singleton _ _, fun counters hmem last hlast => ?_⟩
    rw [List.mem_singleton.mp hlast]
    rw [Monitor.pendingCounters, ← List.cons_append] at h hmem
    rcases List.mem_append.mp hmem with hfront | hend
    · exact (List.pairwise_append.mp h).2.2 counters hfront _ List.mem_cons_self
    · exact (List.mem_singleton.mp hend).le
  · have hsent : ({ monitor with
        ring := monitor.ring ++ [schedSwitchEvent monitor.prevFaults other latencyNs] } :
        Monitor).sentCounters tid = monitor.sentCounters tid := by
      have htid : (schedSwitchEvent monitor.prevFaults other latencyNs).tid = other := rfl
      simp [Monitor.sentCounters, htid, hsame]
    exact pending_counts (le_refl (monitor.counts tid)) rfl hsent h

theorem Monitor.lastCounters_eq (monitor : Monitor) (tid : Nat) : monitor.lastCounters tid =
    (((monitor.statsByTask.get tid).getD .new).lastSpikeMajorFaults,
      ((monitor.statsByTask.get tid).getD .new).lastSpikeMinorFaults) := by
  rw [Monitor.lastCounters]
  rcases monitor.statsByTask.get tid with _ | stats <;> rfl

/-- A spike is an earlier one, or the event that was just recorded. -/
theorem TaskStats.mem_topSpikes_record {stats : TaskStats} {event : SchedulerEvent}
    {spike : SpikeRecord} (hmem : spike ∈ (stats.record event spikeThresholdNs).1.topSpikes) :
    spike ∈ stats.topSpikes ∨ spikeThresholdNs ≤ event.latencyNs ∧
      spike = ⟨event.latencyNs, (stats.record event spikeThresholdNs).2.1,
        (stats.record event spikeThresholdNs).2.2⟩ := by
  simp only [TaskStats.record] at hmem ⊢
  split at hmem
  · next hspike =>
    have hpushed := (List.perm_insertionSort _ _).mem_iff.mp (List.mem_of_mem_take hmem)
    rcases List.mem_append.mp hpushed with hold | hnew
    · exact .inl hold
    · exact .inr ⟨hspike, List.mem_singleton.mp hnew⟩
  · exact .inl hmem

theorem Accounted.interpret (h : Accounted spikeThresholdNs tid observed) :
    Accounted spikeThresholdNs tid (observed.step spikeThresholdNs tid .interpret) := by
  have hintervals : observed.intervals ++ observed.monitor.intervalsAt tid .interpret =
      observed.intervals := List.append_nil _
  have hmonitor : observed.monitor.step spikeThresholdNs .interpret =
      (observed.monitor.interpretNext spikeThresholdNs).1 := rfl
  have hevents : observed.monitor.eventsAt spikeThresholdNs tid .interpret =
      (observed.monitor.interpretNext spikeThresholdNs).2.toList.filter (·.1.tid = tid) := rfl
  unfold Observed.step
  rw [hintervals, hmonitor, hevents]
  rcases hring : observed.monitor.ring with _ | ⟨event, ring⟩
  · -- there is no event to read
    have hnext : observed.monitor.interpretNext spikeThresholdNs = (observed.monitor, none) := by
      simp [interpretNext, hring]
    rw [hnext]
    simpa using h.silent rfl rfl (le_refl _) h.pending
  have hnext : observed.monitor.interpretNext spikeThresholdNs =
      ({ observed.monitor with
          ring := ring
          statsByTask := observed.monitor.statsByTask.insert event.tid
            (((observed.monitor.statsByTask.get event.tid).getD .new).record event
              spikeThresholdNs).1 },
        some (event,
          (((observed.monitor.statsByTask.get event.tid).getD .new).record event
            spikeThresholdNs).2)) := by
    simp [interpretNext, hring]
  rw [hnext]
  by_cases hsame : event.tid = tid
  · subst hsame
    have hsome : (some (event,
        (((observed.monitor.statsByTask.get event.tid).getD .new).record event
        spikeThresholdNs).2)).toList.filter (·.1.tid = event.tid) = [(event,
          (((observed.monitor.statsByTask.get event.tid).getD .new).record event
            spikeThresholdNs).2)] := by
      simp
    have hpending := h.pending
    have hsent : observed.monitor.sentCounters event.tid =
        event.counters :: (ring.filter (·.tid = event.tid)).map SchedulerEvent.counters := by
      simp [Monitor.sentCounters, hring]
    rw [Monitor.pendingCounters, hsent, List.cons_append, List.pairwise_cons] at hpending
    obtain ⟨hlow, hrest⟩ := hpending
    have hlast := h.last
    rw [lastCounters_eq] at hlast hlow
    rw [hsome]
    generalize hstats : (observed.monitor.statsByTask.get event.tid).getD .new =
      stats at hlast hlow ⊢
    have hgrown : (stats.lastSpikeMajorFaults, stats.lastSpikeMinorFaults) +
        (stats.record event spikeThresholdNs).2 = event.counters := by
      obtain ⟨hmaj, hmin⟩ := Prod.le_def.mp (hlow event.counters List.mem_cons_self)
      exact Prod.ext (Nat.add_sub_cancel' hmaj) (Nat.add_sub_cancel' hmin)
    have hentry : Sound (base (eventEntries observed.events))
        (.recorded (some event.counters) (stats.record event spikeThresholdNs).2) := by
      rw [hlast]
      exact hgrown
    exact {
      intervals := h.intervals
      snapshot := h.snapshot
      snapshot_le := h.snapshot_le
      events := by
        rw [eventEntries_concat]
        exact h.events.concat hentry
      last := by
        rw [eventEntries_concat, base_concat_recorded]
        simp [Monitor.lastCounters, TaskStats.record, SchedulerEvent.counters]
      pending := by
        simpa [Monitor.pendingCounters, Monitor.lastCounters, Monitor.sentCounters, Monitor.counts,
          TaskStats.record, SchedulerEvent.counters] using hrest
      spikes := by
        intro stats' hget spike hspike
        rw [Table.get_insert, if_pos rfl] at hget
        obtain rfl := Option.some.inj hget
        rcases TaskStats.mem_topSpikes_record hspike with hold | ⟨hthreshold, hnew⟩
        · -- fresh statistics have no spikes
          have hknown : observed.monitor.statsByTask.get event.tid = some stats := by
            rcases hget : observed.monitor.statsByTask.get event.tid with _ | before
            · rw [hget] at hstats
              rw [← hstats] at hold
              cases hold
            · rw [hget] at hstats
              rw [← hstats]
              rfl
          obtain ⟨earlier, deltas, hmem, hrecorded⟩ := h.spikes stats hknown spike hold
          exact ⟨earlier, deltas, List.mem_append_left _ hmem, hrecorded⟩
        · exact ⟨event, _, List.mem_append_right _ List.mem_cons_self, hthreshold, hnew⟩ }
  · -- the event of another task
    have hnone : (some (event,
        (((observed.monitor.statsByTask.get event.tid).getD .new).record event
        spikeThresholdNs).2)).toList.filter (·.1.tid = tid) = [] := by simp [hsame]
    rw [hnone, List.append_nil]
    refine h.silent ?_ rfl (le_refl _)
      (pending_counts (le_refl (observed.monitor.counts tid)) ?_ ?_ h.pending)
    · simp [Ne.symm hsame]
    · simp [Monitor.lastCounters, Ne.symm hsame]
    · simp [Monitor.sentCounters, hring, hsame]

/-- The deltas of a record are sound for the baseline that the snapshot has. -/
theorem sound_of_baseline {baseline reading : Option (Nat × Nat)} {deltas : Nat × Nat}
    (hdeltas : deltas = match reading with
      | some current => current - baseline.getD current
      | none => 0)
    (hle : ∀ start ∈ baseline, ∀ current ∈ reading, start ≤ current) :
    Sound baseline (.recorded reading deltas) := by
  subst hdeltas
  rcases reading with _ | current
  · cases baseline <;> exact rfl
  · rcases baseline with _ | start
    · show current - current = 0
      ext <;> simp
    · obtain ⟨hmaj, hmin⟩ := Prod.le_def.mp (hle start rfl current rfl)
      exact Prod.ext (Nat.add_sub_cancel' hmaj) (Nat.add_sub_cancel' hmin)

theorem Accounted.summaryTick (h : Accounted spikeThresholdNs tid observed)
    (map : Option (Nat → Bool)) :
    Accounted spikeThresholdNs tid (observed.step spikeThresholdNs tid (.summaryTick map)) := by
  have hcollected := collected_collectIntervalSummaries observed.monitor map tid
  have hstats : (observed.monitor.collectIntervalSummaries map).1.statsByTask =
      observed.monitor.statsByTask.mapValues TaskStats.reset := rfl
  have hreset (stats : TaskStats) : stats.reset.topSpikes = stats.topSpikes ∧
      stats.reset.lastSpikeMajorFaults = stats.lastSpikeMajorFaults ∧
      stats.reset.lastSpikeMinorFaults = stats.lastSpikeMinorFaults := by
    unfold TaskStats.reset
    split <;> exact ⟨rfl, rfl, rfl⟩
  have hlast : (observed.monitor.collectIntervalSummaries map).1.lastCounters tid =
      observed.monitor.lastCounters tid := by
    rw [Monitor.lastCounters, Monitor.lastCounters, hstats, Table.get_mapValues]
    rcases observed.monitor.statsByTask.get tid with _ | stats
    · rfl
    · simp [hreset]
  -- a tick without the map drops the baseline first
  obtain ⟨hkept, hbase, hbase_le⟩ :
      Kept (observed.intervals ++ if map.isNone then [.dropped] else []) ∧
      base (observed.intervals ++ if map.isNone then [.dropped] else []) =
        (if map.isNone then none else observed.monitor.prevFaultsSnapshot.get tid) ∧
      ∀ start ∈ (if map.isNone then none else observed.monitor.prevFaultsSnapshot.get tid),
        start ≤ observed.monitor.counts tid := by
    split
    · refine ⟨h.intervals.concat ?_, base_concat_dropped _, by simp⟩
      cases base observed.intervals <;> trivial
    · rw [List.append_nil, h.snapshot]
      exact ⟨h.intervals, rfl, h.snapshot_le⟩
  generalize (if map.isNone then none else observed.monitor.prevFaultsSnapshot.get tid) = baseline
    at hcollected hbase hbase_le
  obtain ⟨hintervals, hsnapshot, hsnapshot_le⟩ :
      Kept (observed.intervals ++ observed.monitor.intervalsAt tid (.summaryTick map)) ∧
      (observed.monitor.collectIntervalSummaries map).1.prevFaultsSnapshot.get tid =
        base (observed.intervals ++ observed.monitor.intervalsAt tid (.summaryTick map)) ∧
      ∀ current ∈ base (observed.intervals ++ observed.monitor.intervalsAt tid (.summaryTick map)),
        current ≤ observed.monitor.counts tid := by
    simp only [intervalsAt, ← List.append_assoc]
    rcases hcollected with ⟨hafter, hnone⟩ | ⟨record, hone, hafter, hdeltas⟩
    · rw [hnone, List.map_nil, List.append_nil, hbase]
      exact ⟨hkept, hafter, hbase_le⟩
    · rw [hone, List.map_cons, List.map_nil, base_concat_recorded, hafter]
      refine ⟨hkept.concat ?_, rfl, fun current hcurrent => (Monitor.reading_eq_counts hcurrent).le⟩
      rw [hbase]
      refine sound_of_baseline hdeltas fun start hstart current hcurrent => ?_
      rw [Monitor.reading_eq_counts hcurrent]
      exact hbase_le start hstart
  exact {
    intervals := hintervals
    snapshot := hsnapshot
    snapshot_le := hsnapshot_le
    events := by simpa [Observed.step, eventsAt] using h.events
    last := by
      show base (eventEntries (observed.events ++ [])) =
        some ((observed.monitor.collectIntervalSummaries map).1.lastCounters tid)
      rw [List.append_nil, h.last, hlast]
    pending := pending_counts (le_refl (observed.monitor.counts tid)) hlast rfl h.pending
    spikes := by
      intro stats hget spike hspike
      have hget : (observed.monitor.statsByTask.mapValues TaskStats.reset).get tid = some stats :=
        hget
      rw [Table.get_mapValues] at hget
      obtain ⟨before, hbefore, rfl⟩ := Option.map_eq_some_iff.mp hget
      rw [(hreset before).1] at hspike
      simpa [Observed.step, eventsAt] using h.spikes before hbefore spike hspike }

theorem Accounted.step (h : Accounted spikeThresholdNs tid observed) {step : Step}
    (hkeeps : step.Keeps tid) :
    Accounted spikeThresholdNs tid (observed.step spikeThresholdNs tid step) := by
  have hcounts : observed.monitor.counts tid ≤
      (observed.monitor.step spikeThresholdNs step).counts tid :=
    counts_step hkeeps
  have hsilent (hintervals : observed.monitor.intervalsAt tid step = [])
      (hevents : observed.monitor.eventsAt spikeThresholdNs tid step = []) :
      observed.step spikeThresholdNs tid step =
        { observed with monitor := observed.monitor.step spikeThresholdNs step } := by
    simp [Observed.step, hintervals, hevents]
  cases step with
  | interpret => exact h.interpret
  | summaryTick map => exact h.summaryTick map
  | majorFault other room =>
    rw [hsilent rfl rfl]
    exact h.silent rfl rfl hcounts (pending_counts hcounts rfl rfl h.pending)
  | minorFault other room =>
    rw [hsilent rfl rfl]
    exact h.silent rfl rfl hcounts (pending_counts hcounts rfl rfl h.pending)
  | schedSwitch other latencyNs sent =>
    rw [hsilent rfl rfl]
    cases sent with
    | false => exact h.silent rfl rfl hcounts h.pending
    | true => exact h.silent rfl rfl hcounts (pending_sent h.pending)
  | removed other =>
    rw [hsilent rfl rfl]
    refine h.silent rfl ?_ hcounts (pending_counts hcounts rfl rfl h.pending)
    simp [Monitor.step, removePrevFaultsState, Ne.symm (show other ≠ tid from hkeeps)]
  | exited other =>
    rw [hsilent rfl rfl]
    exact h.silent rfl rfl hcounts (pending_counts hcounts rfl rfl h.pending)

end Step

theorem accounted_observe (spikeThresholdNs tid : Nat) {steps : List Step}
    (hkeeps : ∀ step ∈ steps, step.Keeps tid) :
    Accounted spikeThresholdNs tid (observe spikeThresholdNs tid steps) := by
  suffices ∀ observed, Accounted spikeThresholdNs tid observed →
      Accounted spikeThresholdNs tid
        (steps.foldl (Observed.step spikeThresholdNs tid) observed) from
    this _ (accounted_initial spikeThresholdNs tid)
  induction steps with
  | nil => exact fun _ h => h
  | cons step steps ih =>
    intro observed h
    rw [List.foldl_cons]
    exact ih (fun other hmem => hkeeps other (List.mem_cons_of_mem _ hmem)) _
      (h.step (hkeeps step List.mem_cons_self))

/-! ## The accounts of a run -/

theorem base_eventEntries (events : List (SchedulerEvent × (Nat × Nat))) :
    base (eventEntries events) = some (countersAfter events) := by
  rcases List.eq_nil_or_concat events with rfl | ⟨before, ⟨event, deltas⟩, rfl⟩
  · rfl
  · rw [List.concat_eq_append, eventEntries_concat, base_concat_recorded]
    simp [countersAfter]

/-- In every run in which the counters of the task keep counting: the deltas of a stretch of
interval records with readings add up to what the counters grew by since the record that the stretch
follows, which counts nothing itself where it has no baseline; a record without a reading counts
nothing; and the deltas of an event, which are those of the spike made of it, are what the counters
grew by since the event before, or since zero. -/
theorem faults_telescope (spikeThresholdNs tid : Nat) (steps : List Step)
    (hkeeps : ∀ step ∈ steps, step.Keeps tid) :
    (∀ before start delta stretch after,
      (observe spikeThresholdNs tid steps).intervals =
        before ++ .recorded (some start) delta :: (stretch ++ after) →
      (∀ entry ∈ stretch, ∃ reading delta, entry = .recorded (some reading) delta) →
      (base before = none → delta = 0) ∧
        base (before ++ .recorded (some start) delta :: stretch) =
          some (start + (stretch.map Entry.delta).sum)) ∧
    (∀ delta, .recorded none delta ∈ (observe spikeThresholdNs tid steps).intervals → delta = 0) ∧
    (∀ before event deltas after,
      (observe spikeThresholdNs tid steps).events = before ++ (event, deltas) :: after →
      countersAfter before + deltas = event.counters) ∧
    ∀ stats, (observe spikeThresholdNs tid steps).monitor.statsByTask.get tid = some stats →
      ∀ spike ∈ stats.topSpikes, ∃ event deltas,
        (event, deltas) ∈ (observe spikeThresholdNs tid steps).events ∧
          spikeThresholdNs ≤ event.latencyNs ∧ spike = ⟨event.latencyNs, deltas.1, deltas.2⟩ := by
  have h := accounted_observe spikeThresholdNs tid hkeeps
  refine ⟨fun before start delta stretch after hsplit hread => ⟨fun hnone => ?_, ?_⟩,
    fun delta hmem => ?_, fun before event deltas after hsplit => ?_, h.spikes⟩
  · have hsound := h.intervals before _ _ hsplit
    rw [hnone] at hsound
    exact hsound
  · have hkept := h.intervals
    rw [hsplit, ← List.cons_append, ← List.append_assoc] at hkept
    exact hkept.front.telescopes hread
  · obtain ⟨before, after, hsplit⟩ := List.append_of_mem hmem
    have hsound := h.intervals before _ after hsplit
    rcases hbase : base before with _ | start <;> rw [hbase] at hsound <;> exact hsound
  · have hentries := h.events (eventEntries before) (.recorded (some event.counters) deltas)
      (after.map fun recorded => .recorded (some recorded.1.counters) recorded.2)
      (by simp [eventEntries, hsplit])
    rw [base_eventEntries] at hentries
    exact hentries

/-- Three faults, an event and a tick, twice, with the map there at both ticks. -/
def twoIntervals : List Step :=
  [.majorFault 7 true, .majorFault 7 true, .majorFault 7 true, .schedSwitch 7 10 true, .interpret,
    .summaryTick (some fun _ => true), .majorFault 7 true, .majorFault 7 true,
    .schedSwitch 7 2000 true, .interpret, .summaryTick (some fun _ => true)]

theorem twoIntervals_intervals : (observe 1000 7 twoIntervals).intervals =
    [.recorded (some (3, 0)) (0, 0), .recorded (some (5, 0)) (2, 0)] := by decide +kernel

/-- The second record has the two faults after the first tick. -/
theorem faults_telescope_twoIntervals : (3, 0) + ([(2, 0)] : List (Nat × Nat)).sum = (5, 0) ∧
    base (observe 1000 7 twoIntervals).intervals = some (5, 0) := by
  have hrun := faults_telescope 1000 7 twoIntervals fun step hmem => by
    simp only [twoIntervals, List.mem_cons, List.not_mem_nil, or_false] at hmem
    rcases hmem with rfl | rfl | rfl | rfl | rfl | rfl | rfl | rfl | rfl | rfl | rfl <;> trivial
  have hlast := (hrun.1 [] (3, 0) (0, 0) [.recorded (some (5, 0)) (2, 0)] [] twoIntervals_intervals
    fun entry hentry => ⟨_, _, List.mem_singleton.mp hentry⟩).2
  rw [List.nil_append] at hlast
  exact ⟨rfl, by rw [twoIntervals_intervals]; exact hlast⟩

/-- The first tick counts none of the three faults before it, and the spike after it counts the two
faults since the event before, of five since the task started and without a spike in between. -/
theorem faults_before_baseline_lost :
    ((observe 1000 7 (twoIntervals.take 6)).intervals.map Entry.delta).sum = (0, 0) ∧
      base (observe 1000 7 (twoIntervals.take 6)).intervals = some (3, 0) ∧
      ((observe 1000 7 twoIntervals).intervals.map Entry.delta).sum = (2, 0) ∧
      base (observe 1000 7 twoIntervals).intervals = some (5, 0) ∧
      (observe 1000 7 twoIntervals).events =
        [(⟨7, 10, 3, 0⟩, (3, 0)), (⟨7, 2000, 5, 0⟩, (2, 0))] ∧
      ((observe 1000 7 twoIntervals).monitor.statsByTask.get 7).map TaskStats.topSpikes =
        some [⟨2000, 2, 0⟩] := by
  decide +kernel

end Stutter.Faults

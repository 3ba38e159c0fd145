import StutterProof.PerfCounters

/-! # What a sample says of its interval

The counts of a group are those of the interval, since the last sample reset them, but the clocks
are those of the group's whole life, and the counts are scaled by these.  Clock readings say what
happened in the interval only while the clocks stood at zero when it began.

**`samples_right_iff`**: along every run the deltas are right exactly where the groups are fresh,
the scaled counts fit 64 bits, and the tids are still those of the tasks for which the groups were
opened. -/
namespace Stutter.CpuPerf

/-- A count of the interval, scaled up to the time that the group was enabled. -/
def Interval.scaled (interval : Interval) (kind : PerfEventKind) : Option Nat :=
  if interval.running = 0 then none
  else some (interval.counts kind * interval.enabled / interval.running)

section Group
variable {T : Type}

/-- The delta says what the group's task did in the interval, and it is the task that was named. -/
structure Faithful (named : Option T) (group : PerfCounterGroup T) (interval : Interval)
    (delta : CpuPerfDelta) : Prop where
  enabled : delta.timeEnabledNs = some interval.enabled
  running : delta.timeRunningNs = some interval.running
  counts : ∀ kind ∈ group.events, delta.value kind = interval.scaled kind
  task : named = some group.perf.task

/-- What is reported of a group is right, if anything is. -/
def GroupRight (input : SampleInput T) (tid : Tid) (group : PerfCounterGroup T) : Prop :=
  (reported (group.sampled input tid).1).timeEnabledNs.isSome →
    Faithful (input.named tid) group (group.perf.measured (input.elapsed tid))
      (reported (group.sampled input tid).1)

/-- No time passed in the group before the interval. -/
def PerfCounterGroup.Fresh (group : PerfCounterGroup T) : Prop := group.perf.timeEnabled = 0

/-- The scaled counts are 64-bit numbers. -/
def Interval.Fits (interval : Interval) (events : List PerfEventKind) : Prop :=
  interval.running ≠ 0 → ∀ kind ∈ events,
    interval.counts kind * interval.enabled / interval.running < 2 ^ 64

/-- The condition on one group: if its read comes back in full. -/
def GroupMeets (input : SampleInput T) (tid : Tid) (group : PerfCounterGroup T) : Prop :=
  input.read tid = .bytes group.expectedBytes →
    group.Fresh ∧ (group.perf.measured (input.elapsed tid)).Fits group.events ∧
      input.named tid = some group.perf.task

/-! ## One delta -/

@[simp] theorem value_set (delta : CpuPerfDelta) (value : Option Nat) (kind other : PerfEventKind) :
    (delta.set value kind).value other = if other = kind then value else delta.value other := by
  cases kind <;> cases other <;> rfl

/-- The loop over the events leaves in each field the value of its kind. -/
theorem value_foldl_set (f : PerfEventKind → Option Nat) (events : List PerfEventKind)
    (delta : CpuPerfDelta) (kind : PerfEventKind) :
    ((events.map fun event => (event, f event)).foldl (fun delta turn => delta.set turn.2 turn.1)
      delta).value kind =
      if kind ∈ events then f kind else delta.value kind := by
  induction events generalizing delta with
  | nil => rfl
  | cons event events ih =>
    rw [List.map_cons, List.foldl_cons, ih, value_set]
    by_cases hmem : kind ∈ events
    · rw [if_pos hmem, if_pos (List.mem_cons_of_mem event hmem)]
    · by_cases hsame : kind = event
      · rw [if_neg hmem, if_pos hsame, if_pos (List.mem_cons.mpr (.inl hsame)), hsame]
      · rw [if_neg hmem, if_neg hsame, if_neg (by simp [hsame, hmem])]

/-- The times are none of what the loop writes. -/
theorem times_foldl_set (values : List (PerfEventKind × Option Nat)) (delta : CpuPerfDelta) :
    (values.foldl (fun delta turn => delta.set turn.2 turn.1) delta).timeEnabledNs =
      delta.timeEnabledNs ∧
      (values.foldl (fun delta turn => delta.set turn.2 turn.1) delta).timeRunningNs =
        delta.timeRunningNs := by
  induction values generalizing delta with
  | nil => exact ⟨rfl, rfl⟩
  | cons turn values ih =>
    obtain ⟨kind, value⟩ := turn
    obtain ⟨henabled, hrunning⟩ := ih (delta.set value kind)
    have hset : (delta.set value kind).timeEnabledNs = delta.timeEnabledNs ∧
        (delta.set value kind).timeRunningNs =
          delta.timeRunningNs := by cases kind <;> exact ⟨rfl, rfl⟩
    exact ⟨henabled.trans hset.1, hrunning.trans hset.2⟩

variable (group : PerfCounterGroup T)

theorem scaledValues_eq :
    group.scaledValues = group.events.map fun kind =>
      (kind, scale (group.perf.counts kind % 2 ^ 64) group.perf.timeEnabled
        group.perf.timeRunning) := by
  have hraws : group.events.zip group.raws = group.events.map fun kind =>
      (kind, group.perf.counts kind % 2 ^ 64) := by
    have hzip := @List.zip_map' _ _ _ id (fun kind => group.perf.counts kind % 2 ^ 64) group.events
    rw [List.map_id] at hzip
    rw [PerfCounterGroup.raws, group.members_eq]
    exact hzip
  rw [PerfCounterGroup.scaledValues, hraws, List.map_map]
  rfl

theorem scaledDelta_spec :
    group.scaledDelta.timeEnabledNs = some group.perf.timeEnabled ∧
      group.scaledDelta.timeRunningNs = some group.perf.timeRunning ∧
      ∀ kind ∈ group.events, group.scaledDelta.value kind =
        scale (group.perf.counts kind % 2 ^ 64) group.perf.timeEnabled group.perf.timeRunning := by
  refine ⟨(times_foldl_set group.scaledValues _).1, (times_foldl_set group.scaledValues _).2,
    fun kind hkind => ?_⟩
  let start : CpuPerfDelta :=
    { timeEnabledNs := some group.perf.timeEnabled
      timeRunningNs := some group.perf.timeRunning
      multiplexed := group.multiplexed }
  have hvalue : group.scaledDelta.value kind =
      (group.scaledValues.foldl (fun (delta : CpuPerfDelta) turn => delta.set turn.2 turn.1)
        start).value kind := by
    cases kind <;> rfl
  rw [hvalue, scaledValues_eq, value_foldl_set, if_pos hkind]

/-- A read in full gives the scaled delta, whatever becomes of the reset. -/
theorem sampleInterval_of_read (reset : ResetAnswer) :
    ∃ reason, (group.sampleInterval (.bytes group.expectedBytes) reset).1 =
      .ok { group.scaledDelta with unavailableReason := reason } := by
  have hlength : ¬group.perf.members.length ≠ group.events.length :=
    not_not.mpr (congrArg List.length group.members_eq)
  simp only [PerfCounterGroup.sampleInterval]
  rw [if_neg (not_not.mpr rfl), if_neg hlength]
  rcases group.resetAndEnable reset with ⟨error | _, after⟩
  · exact ⟨_, rfl⟩
  · exact ⟨_, rfl⟩

theorem reported_of_read {input : SampleInput T} {tid : Tid} {group : PerfCounterGroup T}
    (hread : input.read tid = .bytes group.expectedBytes) :
    (reported (group.sampled input tid).1).timeEnabledNs =
        some (group.perf.timeEnabled + (group.perf.measured (input.elapsed tid)).enabled) ∧
      (reported (group.sampled input tid).1).timeRunningNs =
        some (group.perf.timeRunning + (group.perf.measured (input.elapsed tid)).running) ∧
      ∀ kind ∈ group.events, (reported (group.sampled input tid).1).value kind =
        scale ((group.perf.counts kind +
          (group.perf.measured (input.elapsed tid)).counts kind) % 2 ^ 64)
          (group.perf.timeEnabled + (group.perf.measured (input.elapsed tid)).enabled)
          (group.perf.timeRunning + (group.perf.measured (input.elapsed tid)).running) := by
  let after := group.withPerf (group.perf.accrue (input.elapsed tid)) rfl
  obtain ⟨henabled, hrunning, hcounts⟩ := scaledDelta_spec after
  obtain ⟨reason, hreported⟩ := sampleInterval_of_read after (input.reset tid)
  have hsampled : reported (group.sampled input tid).1 = { after.scaledDelta with
      unavailableReason := reason } := by
    rw [PerfCounterGroup.sampled, hread]
    exact congrArg reported hreported
  rw [hsampled]
  refine ⟨henabled, hrunning, fun kind hkind => ?_⟩
  refine Eq.trans ?_ (hcounts kind hkind)
  cases kind <;> rfl

/-- Of a read that fails nothing is reported. -/
theorem reported_of_not_read {input : SampleInput T} {tid : Tid} {group : PerfCounterGroup T}
    (hread : input.read tid ≠ .bytes group.expectedBytes) :
    (reported (group.sampled input tid).1).timeEnabledNs = none := by
  cases hanswer : input.read tid with
  | failed error =>
    rw [PerfCounterGroup.sampled, hanswer]
    rfl
  | bytes count =>
    have hshort : count ≠ (group.withPerf (group.perf.accrue (input.elapsed tid))
        rfl).expectedBytes := by
      rintro rfl
      exact hread hanswer
    rw [PerfCounterGroup.sampled, hanswer]
    simp only [PerfCounterGroup.sampleInterval]
    rw [if_pos hshort]
    rfl

/-- From clocks at zero the scaled count is the interval's, unless it does not fit. -/
theorem scale_interval_iff (interval : Interval) (kind : PerfEventKind) :
    scale (interval.counts kind % 2 ^ 64) interval.enabled interval.running = interval.scaled kind ↔
      (interval.running ≠ 0 →
        interval.counts kind * interval.enabled / interval.running < 2 ^ 64) := by
  have hcount := interval.counts_lt kind
  rw [scale, Interval.scaled, Nat.mod_eq_of_lt hcount]
  by_cases hidle : interval.running = 0
  · rw [if_pos hidle, if_pos hidle]
    exact iff_of_true rfl fun hrunning => absurd hidle hrunning
  · rw [if_neg hidle, if_neg hidle]
    by_cases hwhole : interval.running = interval.enabled
    · rw [if_pos hwhole, ← hwhole, Nat.mul_div_cancel _ (Nat.pos_of_ne_zero hidle)]
      exact iff_of_true rfl fun _ => hcount
    · rw [if_neg hwhole, Option.some.injEq]
      constructor
      · intro heq _
        rw [← heq]
        exact Nat.mod_lt _ (Nat.two_pow_pos 64)
      · exact fun hfits => Nat.mod_eq_of_lt (hfits hidle)

/-- **One group at one sample.** -/
theorem groupRight_iff (input : SampleInput T) (tid : Tid) (group : PerfCounterGroup T) :
    GroupRight input tid group ↔ GroupMeets input tid group := by
  by_cases hread : input.read tid = .bytes group.expectedBytes
  · obtain ⟨henabled, hrunning, hvalues⟩ := reported_of_read hread
    rw [GroupRight, GroupMeets, henabled, Option.isSome_some, forall_prop_of_true rfl,
      forall_prop_of_true hread]
    constructor
    · intro h
      have hfresh : group.perf.timeEnabled = 0 := by
        have := Option.some.inj (henabled.symm.trans h.enabled)
        omega
      have hrun : group.perf.timeRunning = 0 := Nat.le_zero.mp (hfresh ▸ group.perf.running_le)
      refine ⟨hfresh, fun hne kind hkind => ?_, h.task⟩
      have hcounts := (hvalues kind hkind).symm.trans (h.counts kind hkind)
      rw [hfresh, hrun, group.perf.idle hrun, Nat.zero_add, Nat.zero_add, Nat.zero_add] at hcounts
      exact (scale_interval_iff _ kind).mp hcounts hne
    · rintro ⟨hfresh, hfits, htask⟩
      have hzero : group.perf.timeEnabled = 0 := hfresh
      have hrun : group.perf.timeRunning = 0 := Nat.le_zero.mp (hzero ▸ group.perf.running_le)
      refine ⟨?_, ?_, fun kind hkind => ?_, htask⟩
      · rw [henabled, hzero, Nat.zero_add]
      · rw [hrunning, hrun, Nat.zero_add]
      · rw [hvalues kind hkind, hzero, hrun, group.perf.idle hrun, Nat.zero_add, Nat.zero_add,
          Nat.zero_add]
        exact (scale_interval_iff _ kind).mpr fun hne => hfits hne kind hkind
  · rw [GroupRight, GroupMeets, reported_of_not_read hread]
    exact iff_of_true nofun fun hwhole => absurd hwhole hread

/-! ## A run -/

/-- Each delta that reports times is right about the group under its tid. -/
def Right (sampler : CpuPerfSampler T) (input : SampleInput T) : Prop :=
  ∀ tid delta, (sampler.sampleInterval input).1.get tid = some delta → delta.timeEnabledNs.isSome →
    ∃ group, sampler.groups.get tid = some group ∧
      Faithful (input.named tid) group (group.perf.measured (input.elapsed tid)) delta

/-- Every group that is read meets the condition. -/
def Meets (sampler : CpuPerfSampler T) (input : SampleInput T) : Prop :=
  sampler.disabledReason = none → ∀ tid group, sampler.groups.get tid = some group →
    GroupMeets input tid group

theorem right_iff_meets (sampler : CpuPerfSampler T) (input : SampleInput T) :
    Right sampler input ↔ Meets sampler input := by
  rw [Right, Meets, CpuPerfSampler.sampleInterval]
  rcases hdisabled : sampler.disabledReason with _ | reason
  · have hdeltas : ∀ tid, ((sampler.groups.mapEntries fun tid group =>
        group.sampled input tid).mapValues
        fun result => reported result.1).get tid =
        (sampler.groups.get tid).map fun group => reported (group.sampled input tid).1 := by
      intro tid
      rw [Table.get_mapValues, Table.get_mapEntries, Option.map_map]
      rfl
    dsimp only
    simp only [hdeltas, Option.map_eq_some_iff]
    constructor
    · intro h _ tid group hgroup
      refine (groupRight_iff input tid group).mp fun hsome => ?_
      obtain ⟨other, hother, hfaithful⟩ := h tid _ ⟨group, hgroup, rfl⟩ hsome
      obtain rfl := Option.some.inj (hgroup.symm.trans hother)
      exact hfaithful
    · rintro h tid _ ⟨group, hgroup, rfl⟩ hsome
      exact ⟨group, hgroup, (groupRight_iff input tid group).mpr (h trivial tid group hgroup) hsome⟩
  · dsimp only
    refine iff_of_true (fun tid delta hdelta => ?_) fun h => by cases h
    rw [Table.get_empty] at hdelta
    contradiction

/-- **Along a run the deltas are right exactly at the samples whose groups meet the condition.** -/
theorem samples_right_iff (available : Option Nat) (config : CpuPerfConfig)
    (steps : List (Step T)) :
    (∀ earlier input later, steps = earlier ++ .sample input :: later →
        Right ((CpuPerfSampler.new available config).run earlier) input) ↔
      ∀ earlier input later, steps = earlier ++ .sample input :: later →
        Meets ((CpuPerfSampler.new available config).run earlier) input := by
  simp only [right_iff_meets]

end Group

/-! ## Two intervals -/

def gameConfig : CpuPerfConfig := ⟨false, 1, false⟩

def gameOpens : OpenAnswers Nat := ⟨7, .ok (), .ok (), .ok (), .ok (), .done⟩

/-- A hundred of each event, while the group ran for so long of ten nanoseconds. -/
def hundredIn (running : Nat) (hle : running ≤ 10) (hne : running ≠ 0) : Interval where
  counts _ := 100
  enabled := 10
  running
  running_le := hle
  idle h := absurd h hne
  counts_lt _ := by decide

def gameSample (elapsed : Interval) : SampleInput Nat where
  named _ := some 7
  elapsed _ := elapsed
  read _ := .bytes 48
  reset _ := .done

/-- The second interval is scaled by the times of both. -/
theorem multiplexed_second_interval :
    ¬∀ (config : CpuPerfConfig) (steps : List (Step Nat)) earlier input later,
    steps = earlier ++ .sample input :: later →
      Right ((CpuPerfSampler.new none config).run earlier) input := by
  intro hall
  have hright := hall gameConfig _
    [.sync [(1, ⟨7, .game⟩)] (fun _ => none) fun _ => gameOpens,
      .sample (gameSample (hundredIn 10 (by decide) (by decide)))]
    (gameSample (hundredIn 5 (by decide) (by decide))) [] rfl
  obtain ⟨group, hgroup, hfaithful⟩ := hright 1 _ rfl rfl
  obtain rfl := Option.some.inj hgroup
  have henabled := hfaithful.enabled
  revert henabled
  decide +kernel

end Stutter.CpuPerf

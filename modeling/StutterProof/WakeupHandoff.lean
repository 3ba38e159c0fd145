import Mathlib.Data.List.Nodup
import StutterProof.SchedulerProbes

/-! # The handoff of a wakeup, map operation by map operation

`sched_wakeup` and `sched_switch` of one task may run at once on two CPUs.  Here the steps of
`next_wakeup_seq`, `record_wakeup` and `consume_pending_wakeup` are single operations on the
maps, in any order: the wakeups of a task one after the other, its switch-ins one after the
other, every insert successful and no exit.

The record a consumer read and the cursor it writes are values, so a newer wakeup is not hidden
by them.  What is not safe is the removal of the cursor at the end of `record_wakeup`: it may
take a mark that is still needed, and then a wakeup is returned twice. -/
namespace Stutter.Probes

/-- What a wakeup carries besides its number. -/
structure WakeupInput where
  ts : UInt64
  targetCpu : UInt32
  wakerTid : UInt32

def WakeupInput.numbered (input : WakeupInput) (seq : UInt32) : WakeupData :=
  ⟨input.ts, input.targetCpu, input.wakerTid, seq⟩

/-- Where a `sched_wakeup` is. -/
inductive Producer where
  | idle
  /-- `WAKEUP_SEQ` was read. -/
  | numbering (input : WakeupInput) (next : UInt32)
  /-- `WAKEUP_SEQ` was written. -/
  | reading (data : WakeupData)
  /-- `WAKEUP_DATA` was read and has a record. -/
  | comparing (data old : WakeupData)
  /-- It is known whether the old record is pending. -/
  | installing (data : WakeupData) (pendingOld : Option WakeupData)
  /-- `WAKEUP_DATA` was written, the cursor is still there. -/
  | clearing (data : WakeupData) (pendingOld : Option WakeupData)

/-- Where a `sched_switch` is. -/
inductive Consumer where
  | idle
  /-- `WAKEUP_DATA` was read. -/
  | comparing (copy : WakeupData)
  /-- The cursor did not name the record. -/
  | marking (copy : WakeupData)
  deriving DecidableEq

/-- One task's slots of the maps, its producer and its consumer; and the history: the records
in the order they were installed, how many there were when the consumer read its own and when
the consumer that wrote the cursor read its, and what was returned, each with the number that
was installed when it was read. -/
structure Handoff where
  wakeupSeq : Option UInt32
  wakeupData : Option WakeupData
  wakeupConsumed : Option WakeupData
  producer : Producer
  consumer : Consumer
  installed : List WakeupData
  readAt : Nat
  markedAt : Nat
  returned : List (Nat × WakeupData)

def Handoff.initial : Handoff := ⟨none, none, none, .idle, .idle, [], 0, 0, []⟩

/-- One operation on the maps. -/
inductive Handoff.Op where
  /-- A wakeup begins: `WAKEUP_SEQ` is read. -/
  | wakeup (input : WakeupInput)
  /-- The next operation of the wakeup. -/
  | produce
  /-- A switch-in begins: `WAKEUP_DATA` is read. -/
  | switchIn
  /-- The next operation of the switch-in. -/
  | consume

/-- The next operation of `next_wakeup_seq` and `record_wakeup`. -/
def Handoff.produce (h : Handoff) : Handoff :=
  match h.producer with
  | .idle => h
  | .numbering input next =>
    { h with wakeupSeq := some next, producer := .reading (input.numbered next) }
  | .reading data =>
    match h.wakeupData with
    | some old => { h with producer := .comparing data old }
    | none => { h with producer := .installing data none }
  | .comparing data old =>
    { h with
      producer := .installing data (if h.wakeupConsumed = some old then none else some old) }
  | .installing data pendingOld =>
    { h with
      wakeupData := some data
      installed := h.installed ++ [data]
      producer := .clearing data pendingOld }
  | .clearing _ _ => { h with wakeupConsumed := none, producer := .idle }

/-- The next operation of `consume_pending_wakeup`. -/
def Handoff.consume (h : Handoff) : Handoff :=
  match h.consumer with
  | .idle => h
  | .comparing copy =>
    if h.wakeupConsumed = some copy then { h with consumer := .idle }
    else { h with consumer := .marking copy }
  | .marking copy =>
    { h with
      wakeupConsumed := some copy
      markedAt := h.readAt
      returned := (h.readAt, copy) :: h.returned
      consumer := .idle }

/-- A step of one of the three parties. -/
def Handoff.step (h : Handoff) : Handoff.Op → Handoff
  | .wakeup input =>
    match h.producer with
    | .idle =>
      let next := match h.wakeupSeq with
        | some seq => seq + 1
        | none => 1
      { h with producer := .numbering input next }
    | _ => h
  | .produce => h.produce
  | .switchIn =>
    match h.consumer, h.wakeupData with
    | .idle, some data => { h with consumer := .comparing data, readAt := h.installed.length }
    | _, _ => h
  | .consume => h.consume

/-- All tasks. -/
abbrev Handoffs := UInt32 → Handoff

def Handoffs.step (world : Handoffs) (tid : UInt32) (op : Handoff.Op) : Handoffs :=
  Function.update world tid ((world tid).step op)

def Handoffs.run (world : Handoffs) (ops : List (UInt32 × Handoff.Op)) : Handoffs :=
  ops.foldl (fun world op => world.step op.1 op.2) world

/-! ## The operations of one handler in a row

Without anything in between, they are what `record_wakeup` and `consume_pending_wakeup` do. -/

/-- The task's slots of the maps. -/
structure Handoff.Shows (h : Handoff) (maps : Maps) (tid : UInt32) : Prop where
  seq : h.wakeupSeq = maps.wakeupSeq.get tid
  data : h.wakeupData = maps.wakeupData.get tid
  consumed : h.wakeupConsumed = maps.wakeupConsumed.get tid

variable {h : Handoff} {inserts : Inserts}

theorem Handoff.Shows.consumePendingWakeup {maps : Maps} {tid : UInt32} (shows : h.Shows maps tid)
    (idle : h.consumer = .idle) (succeeds : inserts.wakeupConsumed = true) :
    (((h.step .switchIn).step .consume).step .consume).Shows
      (Probes.consumePendingWakeup maps inserts tid).2 tid := by
  obtain ⟨seq, data, consumed⟩ := shows
  rcases found : maps.wakeupData.get tid with _ | record
  · rw [found] at data
    simp only [Handoff.step, Handoff.consume, Probes.consumePendingWakeup, idle, data, found]
    exact ⟨seq, data.trans found.symm, consumed⟩
  · rw [found] at data
    by_cases marked : maps.wakeupConsumed.get tid = some record
    · simp only [Handoff.step, Handoff.consume, Probes.consumePendingWakeup, sameWakeupConsumed,
        idle, data, consumed, marked, found, if_true, decide_true]
      exact ⟨seq, found.symm, marked.symm⟩
    · simp only [Handoff.step, Handoff.consume, Probes.consumePendingWakeup, sameWakeupConsumed,
        idle, data, consumed, marked, found, succeeds, if_false, decide_false, Bool.not_true,
        Bool.false_eq_true]
      exact ⟨seq, found.symm, by simp⟩

theorem Handoff.Shows.nextWakeupSeq {maps numbered : Maps} {tid next : UInt32}
    (shows : h.Shows maps tid) (idle : h.producer = .idle) (input : WakeupInput)
    (number : Probes.nextWakeupSeq maps inserts tid = some (next, numbered)) :
    ((h.step (.wakeup input)).produce).Shows numbered tid ∧
      ((h.step (.wakeup input)).produce).producer = .reading (input.numbered next) := by
  obtain ⟨seq, data, consumed⟩ := shows
  by_cases succeeds : inserts.wakeupSeq = true
  · rcases found : maps.wakeupSeq.get tid with _ | old <;> rw [found] at seq
    all_goals
      simp only [Probes.nextWakeupSeq, found, succeeds, Bool.not_true, Bool.false_eq_true, if_false,
        Option.some.injEq, Prod.mk.injEq] at number
      obtain ⟨rfl, rfl⟩ := number
      simp only [Handoff.step, Handoff.produce, idle, seq]
      exact ⟨⟨by simp, data, consumed⟩, trivial⟩
  · simp [Probes.nextWakeupSeq, succeeds] at number

variable {data : WakeupData}

theorem Handoff.Shows.recordWakeup {maps : Maps} {tid : UInt32} (shows : h.Shows maps tid)
    (reading : h.producer = .reading data) (succeeds : inserts.wakeupData = true) :
    (h.produce.produce.produce.produce).Shows (Probes.recordWakeup maps inserts tid data).2
      tid := by
  obtain ⟨seq, old, consumed⟩ := shows
  have maps_eq : (Probes.recordWakeup maps inserts tid data).2 = { maps with
      wakeupData := maps.wakeupData.insert tid data
      wakeupConsumed := maps.wakeupConsumed.remove tid } := by
    unfold Probes.recordWakeup
    rw [if_neg (by simp [succeeds])]
    split
    · rfl
    · split <;> rfl
  rw [maps_eq]
  rcases found : h.wakeupData with _ | record
  all_goals
    simp only [Handoff.produce, reading, found]
    exact ⟨seq, by simp, by simp⟩

/-! ## The steps that are not safe -/

/-- The next operation of a producer is safe: once the numbers have wrapped around, a record it
installs is not one of the task's earlier ones, and a cursor it removes names neither the record
just installed nor the record a consumer has read and not yet compared. -/
def Handoff.MeetsAt (h : Handoff) : Producer → Prop
  | .installing data _ => 2 ^ 32 ≤ h.installed.length → data ∉ h.installed
  | .clearing _ _ => ∀ mark ∈ h.wakeupConsumed,
      h.wakeupData ≠ some mark ∧ h.consumer ≠ .comparing mark
  | _ => True

def Handoff.Meets (h : Handoff) : Handoff.Op → Prop
  | .produce => h.MeetsAt h.producer
  | _ => True

/-- Every operation of the run is safe. -/
def Handoffs.Meets (world : Handoffs) : List (UInt32 × Handoff.Op) → Prop
  | [] => True
  | (tid, op) :: rest => (world tid).Meets op ∧ (world.step tid op).Meets rest

instance (h : Handoff) : (place : Producer) → Decidable (h.MeetsAt place)
  | .installing data _ =>
    inferInstanceAs (Decidable (2 ^ 32 ≤ h.installed.length → data ∉ h.installed))
  | .clearing _ _ => inferInstanceAs (Decidable (∀ mark ∈ h.wakeupConsumed,
      h.wakeupData ≠ some mark ∧ h.consumer ≠ .comparing mark))
  | .idle | .numbering _ _ | .reading _ | .comparing _ _ => .isTrue trivial

instance (h : Handoff) : (op : Handoff.Op) → Decidable (h.Meets op)
  | .produce => inferInstanceAs (Decidable (h.MeetsAt h.producer))
  | .wakeup _ | .switchIn | .consume => .isTrue trivial

instance Handoffs.decidableMeets (world : Handoffs) :
    (ops : List (UInt32 × Handoff.Op)) → Decidable (world.Meets ops)
  | [] => .isTrue trivial
  | (tid, op) :: rest =>
    have := Handoffs.decidableMeets (world.step tid op) rest
    inferInstanceAs (Decidable ((world tid).Meets op ∧ (world.step tid op).Meets rest))

/-! ## The numbers -/

/-- The wakeups are numbered from one on, modulo `2 ^ 32`. -/
structure Handoff.Numbered (h : Handoff) : Prop where
  installed : ∀ n data, h.installed[n]? = some data → data.seq = UInt32.ofNat (n + 1)
  producer : match h.producer with
    | .idle | .clearing _ _ => h.wakeupSeq.getD 0 = UInt32.ofNat h.installed.length
    | .numbering _ next => next = UInt32.ofNat (h.installed.length + 1)
    | .reading data | .comparing data _ | .installing data _ =>
        data.seq = UInt32.ofNat (h.installed.length + 1) ∧ h.wakeupSeq = some data.seq

theorem Handoff.numbered_initial : Handoff.initial.Numbered where
  installed := by simp [Handoff.initial]
  producer := rfl

/-- What a step leaves of the records and of the numbering, whatever else it does. -/
theorem Handoff.Numbered.congr {h h' : Handoff} (numbered : h.Numbered)
    (installed : h'.installed = h.installed) (wakeupSeq : h'.wakeupSeq = h.wakeupSeq)
    (producer : h'.producer = h.producer) : h'.Numbered where
  installed := by rw [installed]; exact numbered.installed
  producer := by rw [installed, wakeupSeq, producer]; exact numbered.producer

/-- Up to the wrap around, the record about to be installed is none of the earlier ones. -/
theorem Handoff.Numbered.fresh (numbered : h.Numbered) {pendingOld : Option WakeupData}
    (place : h.producer = .installing data pendingOld) (few : h.installed.length < 2 ^ 32) :
    data ∉ h.installed := by
  intro mem
  obtain ⟨n, below, found⟩ := List.getElem_of_mem mem
  have earlier := numbered.installed n data (List.getElem?_eq_some_iff.mpr ⟨below, found⟩)
  have latest := numbered.producer
  rw [place] at latest
  have same : (n + 1) % 2 ^ 32 = (h.installed.length + 1) % 2 ^ 32 := by
    have := congrArg UInt32.toNat (earlier.symm.trans latest.1)
    simpa using this
  omega

/-- The number a wakeup takes. -/
theorem Handoff.Numbered.wakeup (numbered : h.Numbered) (idle : h.producer = .idle)
    (input : WakeupInput) {next : UInt32} (eq : next = h.wakeupSeq.getD 0 + 1) :
    Handoff.Numbered { h with producer := .numbering input next } where
  installed := numbered.installed
  producer := by
    have last := numbered.producer
    rw [idle] at last
    show next = UInt32.ofNat (h.installed.length + 1)
    rw [eq, last, UInt32.ofNat_add]
    rfl

theorem Handoff.Numbered.produce (numbered : h.Numbered) : h.produce.Numbered := by
  have last := numbered.producer
  unfold Handoff.produce
  split
  · exact numbered
  · rename_i input next place
    rw [place] at last
    exact ⟨numbered.installed, last, rfl⟩
  · rename_i data place
    rw [place] at last
    split <;> exact ⟨numbered.installed, last⟩
  · rename_i data old place
    rw [place] at last
    exact ⟨numbered.installed, last⟩
  · rename_i data pendingOld place
    rw [place] at last
    refine ⟨fun n record found => ?_, ?_⟩
    · rcases Nat.lt_trichotomy n h.installed.length with below | rfl | above
      · rw [List.getElem?_append_left below] at found
        exact numbered.installed n record found
      · have same : data = record := by simpa using found
        exact same ▸ last.1
      · rw [List.getElem?_eq_none (by
          rw [List.length_append, List.length_singleton]; omega)] at found
        cases found
    · show h.wakeupSeq.getD 0 = UInt32.ofNat (h.installed ++ [data]).length
      rw [last.2, Option.getD_some, last.1, List.length_append, List.length_singleton]
  · rename_i data pendingOld place
    rw [place] at last
    exact ⟨numbered.installed, last⟩

theorem Handoff.Numbered.step (numbered : h.Numbered) (op : Handoff.Op) : (h.step op).Numbered := by
  cases op with
  | wakeup input =>
    simp only [Handoff.step]
    split
    · rename_i idle
      refine numbered.wakeup idle input ?_
      cases h.wakeupSeq <;> rfl
    · exact numbered
  | produce => exact numbered.produce
  | switchIn =>
    simp only [Handoff.step]
    split
    · exact numbered.congr rfl rfl rfl
    · exact numbered
  | consume =>
    simp only [Handoff.step, Handoff.consume]
    split
    · exact numbered
    · split <;> exact numbered.congr rfl rfl rfl
    · exact numbered.congr rfl rfl rfl

/-! ## What holds between the operations -/

/-- The most recently installed record when `number` of them were installed. -/
def Handoff.latestAt (h : Handoff) (number : Nat) : Option WakeupData :=
  (h.installed.take number).getLast?

/-- The invariant of one task's hand-off. -/
structure Handoff.Sound (h : Handoff) : Prop where
  latest : h.wakeupData = h.installed.getLast?
  distinct : h.installed.Nodup
  /-- The consumer's copy was the latest record when it was read. -/
  copied : ∀ copy, h.consumer = .comparing copy ∨ h.consumer = .marking copy →
    h.readAt ≤ h.installed.length ∧ h.latestAt h.readAt = some copy
  /-- Nothing newer than what a running consumer read was returned. -/
  behind : h.consumer ≠ .idle → ∀ entry ∈ h.returned, entry.1 ≤ h.readAt
  /-- A copy of a wakeup that was returned is still marked. -/
  compared : ∀ copy, h.consumer = .comparing copy → h.readAt ∈ h.returned.map Prod.fst →
    h.wakeupConsumed = some copy
  unmarked : ∀ copy, h.consumer = .marking copy → h.readAt ∉ h.returned.map Prod.fst
  /-- The latest record, once returned, is marked. -/
  kept : h.installed.length ∈ h.returned.map Prod.fst → h.wakeupConsumed = h.wakeupData
  marked : ∀ mark, h.wakeupConsumed = some mark →
    h.markedAt ≤ h.installed.length ∧ h.latestAt h.markedAt = some mark
  once : (h.returned.map Prod.fst).Nodup
  returns : ∀ entry ∈ h.returned,
    entry.1 ≤ h.installed.length ∧ h.latestAt entry.1 = some entry.2

theorem Handoff.sound_initial : Handoff.initial.Sound where
  latest := rfl
  distinct := List.nodup_nil
  copied := by simp [Handoff.initial]
  behind := by simp [Handoff.initial]
  compared := by simp [Handoff.initial]
  unmarked := by simp [Handoff.initial]
  kept := by simp [Handoff.initial]
  marked := by simp [Handoff.initial]
  once := List.nodup_nil
  returns := by simp [Handoff.initial]

/-- The producer's own place is no part of it. -/
theorem Handoff.Sound.producer (sound : h.Sound) (seq : Option UInt32) (producer : Producer) :
    Handoff.Sound { h with wakeupSeq := seq, producer := producer } :=
  ⟨sound.latest, sound.distinct, sound.copied, sound.behind, sound.compared, sound.unmarked,
    sound.kept, sound.marked, sound.once, sound.returns⟩

theorem getLast?_take_append {l : List WakeupData} {x : WakeupData} {number : Nat}
    (le : number ≤ l.length) : ((l ++ [x]).take number).getLast? = (l.take number).getLast? := by
  rw [List.take_append_of_le_length le]

/-- A record is installed.  Nothing that was read, marked or returned is it. -/
theorem Handoff.Sound.install (sound : h.Sound) (fresh : data ∉ h.installed) (producer : Producer) :
    Handoff.Sound { h with
      wakeupData := some data
      installed := h.installed ++ [data]
      producer := producer } where
  latest := by simp
  distinct := by
    rw [List.nodup_append]
    refine ⟨sound.distinct, List.nodup_singleton _, ?_⟩
    rintro a mem b one rfl
    rw [List.mem_singleton] at one
    exact fresh (one ▸ mem)
  copied := by
    intro copy running
    obtain ⟨le, read⟩ := sound.copied copy running
    refine ⟨by simp only [List.length_append]; omega, ?_⟩
    exact (getLast?_take_append le).trans read
  behind := sound.behind
  compared := sound.compared
  unmarked := sound.unmarked
  kept := by
    intro mem
    obtain ⟨entry, returned, eq⟩ := List.mem_map.mp mem
    obtain ⟨le, -⟩ := sound.returns entry returned
    simp only [List.length_append, List.length_singleton] at eq
    omega
  marked := by
    intro mark found
    obtain ⟨le, read⟩ := sound.marked mark found
    refine ⟨by simp only [List.length_append]; omega, ?_⟩
    exact (getLast?_take_append le).trans read
  once := sound.once
  returns := by
    intro entry returned
    obtain ⟨le, read⟩ := sound.returns entry returned
    refine ⟨by simp only [List.length_append]; omega, ?_⟩
    exact (getLast?_take_append le).trans read

/-- The cursor is removed, when nobody needs it. -/
theorem Handoff.Sound.clear (sound : h.Sound)
    (unneeded : ∀ mark, h.wakeupConsumed = some mark →
      h.wakeupData ≠ some mark ∧ h.consumer ≠ .comparing mark) (producer : Producer) :
    Handoff.Sound { h with wakeupConsumed := none, producer := producer } where
  latest := sound.latest
  distinct := sound.distinct
  copied := sound.copied
  behind := sound.behind
  compared := by
    intro copy running mem
    have found := sound.compared copy running mem
    exact absurd running (unneeded copy found).2
  unmarked := sound.unmarked
  kept := by
    intro mem
    have same := sound.kept mem
    rcases found : h.wakeupData with _ | data
    · rfl
    · exact absurd found (unneeded data (same.trans found)).1
  marked := fun _ found => absurd found (by simp)
  once := sound.once
  returns := sound.returns

/-- A switch-in reads the latest record. -/
theorem Handoff.Sound.read (sound : h.Sound) (found : h.wakeupData = some data) :
    Handoff.Sound { h with consumer := .comparing data, readAt := h.installed.length } where
  latest := sound.latest
  distinct := sound.distinct
  copied := by
    intro copy running
    have same : data = copy := by simpa using running
    subst same
    refine ⟨Nat.le_refl _, ?_⟩
    show (h.installed.take h.installed.length).getLast? = some data
    rw [List.take_length, ← sound.latest, found]
  behind := fun _ entry returned => (sound.returns entry returned).1
  compared := by
    intro copy running mem
    have same : data = copy := by simpa using running
    rw [sound.kept mem, found, same]
  unmarked := fun _ running => absurd running (by simp)
  kept := sound.kept
  marked := sound.marked
  once := sound.once
  returns := sound.returns

/-- A switch-in is over. -/
theorem Handoff.Sound.dismiss (sound : h.Sound) :
    Handoff.Sound { h with consumer := .idle } where
  latest := sound.latest
  distinct := sound.distinct
  copied := fun _ running => absurd running (by simp)
  behind := fun running => absurd rfl running
  compared := fun _ running => absurd running (by simp)
  unmarked := fun _ running => absurd running (by simp)
  kept := sound.kept
  marked := sound.marked
  once := sound.once
  returns := sound.returns

/-- The cursor does not name the copy: the wakeup was not returned before. -/
theorem Handoff.Sound.differ (sound : h.Sound) {copy : WakeupData}
    (running : h.consumer = .comparing copy) (differ : h.wakeupConsumed ≠ some copy) :
    Handoff.Sound { h with consumer := .marking copy } where
  latest := sound.latest
  distinct := sound.distinct
  copied := by
    intro other running'
    have same : copy = other := by simpa using running'
    exact same ▸ sound.copied copy (.inl running)
  behind := fun _ => sound.behind (by rw [running]; simp)
  compared := fun _ running' => absurd running' (by simp)
  unmarked := fun _ _ mem => differ (sound.compared copy running mem)
  kept := sound.kept
  marked := sound.marked
  once := sound.once
  returns := sound.returns

/-- The copy is marked and returned. -/
theorem Handoff.Sound.mark (sound : h.Sound) {copy : WakeupData}
    (running : h.consumer = .marking copy) :
    Handoff.Sound { h with
      wakeupConsumed := some copy
      markedAt := h.readAt
      returned := (h.readAt, copy) :: h.returned
      consumer := .idle } where
  latest := sound.latest
  distinct := sound.distinct
  copied := fun _ running' => absurd running' (by simp)
  behind := fun running' => absurd rfl running'
  compared := fun _ running' => absurd running' (by simp)
  unmarked := fun _ running' => absurd running' (by simp)
  kept := by
    intro mem
    obtain ⟨le, read⟩ := sound.copied copy (.inr running)
    rcases List.mem_cons.mp mem with now | before
    · -- the latest record is the copy
      have now : h.installed.length = h.readAt := now
      rw [sound.latest]
      have whole : h.latestAt h.readAt = h.installed.getLast? := by
        rw [Handoff.latestAt, ← now, List.take_length]
      exact (whole.symm.trans read).symm
    · -- nothing newer than the copy was returned, so the copy is the latest record here too
      obtain ⟨entry, returned, eq⟩ := List.mem_map.mp before
      have bound := sound.behind (by rw [running]; simp) entry returned
      have eq : entry.1 = h.installed.length := eq
      have now : h.readAt = h.installed.length := by omega
      exact absurd (now ▸ before) (sound.unmarked copy running)
  marked := by
    intro mark found
    have same : copy = mark := by simpa using found
    exact same ▸ sound.copied copy (.inr running)
  once := List.nodup_cons.mpr ⟨sound.unmarked copy running, sound.once⟩
  returns := by
    intro entry returned
    rcases List.mem_cons.mp returned with rfl | before
    · exact sound.copied copy (.inr running)
    · exact sound.returns entry before

/-- One safe operation. -/
theorem Handoff.Sound.step (sound : h.Sound) (numbered : h.Numbered) {op : Handoff.Op}
    (meets : h.Meets op) : (h.step op).Sound := by
  cases op with
  | wakeup input =>
    simp only [Handoff.step]
    split
    · exact sound.producer h.wakeupSeq _
    · exact sound
  | produce =>
    have meets : h.MeetsAt h.producer := meets
    simp only [Handoff.step, Handoff.produce]
    split
    · exact sound
    · exact sound.producer _ _
    · split <;> exact sound.producer h.wakeupSeq _
    · exact sound.producer h.wakeupSeq _
    · rename_i data pendingOld place
      rw [place] at meets
      rcases Nat.lt_or_ge h.installed.length (2 ^ 32) with few | many
      · exact sound.install (numbered.fresh place few) _
      · exact sound.install (meets many) _
    · rename_i data pendingOld place
      rw [place] at meets
      exact sound.clear meets _
  | switchIn =>
    simp only [Handoff.step]
    split
    · rename_i found
      exact sound.read found
    · exact sound
  | consume =>
    simp only [Handoff.step, Handoff.consume]
    split
    · exact sound
    · rename_i copy running
      split
      · exact sound.dismiss
      · rename_i differ
        exact sound.differ running differ
    · rename_i copy running
      exact sound.mark running

theorem Handoffs.sound_run {world : Handoffs}
    (sound : ∀ tid, (world tid).Sound ∧ (world tid).Numbered) {ops : List (UInt32 × Handoff.Op)}
    (meets : world.Meets ops) : ∀ tid, (world.run ops tid).Sound := by
  induction ops generalizing world with
  | nil => exact fun tid => (sound tid).1
  | cons op rest ih =>
    obtain ⟨here, later⟩ := meets
    refine ih (fun tid => ?_) later
    show (Function.update world op.1 ((world op.1).step op.2) tid).Sound ∧
      (Function.update world op.1 ((world op.1).step op.2) tid).Numbered
    by_cases same : tid = op.1
    · subst same
      rw [Function.update_self]
      exact ⟨(sound _).1.step (sound _).2 here, (sound _).2.step op.2⟩
    · rw [Function.update_of_ne same]
      exact sound tid

/-- In records without a repetition, the last of the first ones is the last of all only if these
are all. -/
theorem take_getLast?_eq {l : List WakeupData} {number : Nat} {x : WakeupData} (nodup : l.Nodup)
    (le : number ≤ l.length) (taken : (l.take number).getLast? = some x)
    (last : l.getLast? = some x) :
    number = l.length := by
  rw [List.getLast?_eq_getElem?] at taken last
  rw [List.length_take, Nat.min_eq_left le] at taken
  have positive : 0 < number := by
    rcases Nat.eq_zero_or_pos number with zero | positive
    · simp [zero] at taken
    · exact positive
  have same : l[number - 1]? = l[l.length - 1]? := by
    rw [last, ← taken, List.getElem?_take_of_lt (by omega)]
  have below : number - 1 < l.length := by omega
  have index := (List.getElem?_inj below nodup).mp same
  omega

/-- What the handoff is for: the record in the map is marked only by a consumer that read it,
not by one that read the map before it was installed; no wakeup is returned twice; and what is
returned was the most recently installed record when it was read. -/
def Handoff.Exact (h : Handoff) : Prop :=
  (∀ data ∈ h.wakeupData, h.wakeupConsumed = some data → h.markedAt = h.installed.length) ∧
    (h.returned.map Prod.fst).Nodup ∧
    ∀ entry ∈ h.returned, (h.installed.take entry.1).getLast? = some entry.2

/-- Over every run of safe operations. -/
theorem Handoffs.run_handoff (ops : List (UInt32 × Handoff.Op))
    (meets : Handoffs.Meets (fun _ => .initial) ops) (tid : UInt32) :
    (Handoffs.run (fun _ => .initial) ops tid).Exact := by
  have sound := Handoffs.sound_run
    (fun _ => ⟨Handoff.sound_initial, Handoff.numbered_initial⟩) meets tid
  refine ⟨?_, sound.once, fun entry returned => (sound.returns entry returned).2⟩
  intro data found consumed
  obtain ⟨le, marked⟩ := sound.marked data consumed
  exact take_getLast?_eq sound.distinct le marked (sound.latest ▸ found)

/-- A wakeup recorded and switched in, a second switch-in, and the next wakeup in the middle of
which the task is switched in once more. -/
def handoffInOrder : List (UInt32 × Handoff.Op) :=
  let ops : List Handoff.Op :=
    [.wakeup ⟨100, 0, 1⟩, .produce, .produce, .produce, .produce,
      .switchIn, .consume, .consume, .switchIn, .consume,
      .wakeup ⟨200, 0, 1⟩, .produce, .produce, .switchIn, .consume, .produce, .produce, .produce,
      .switchIn, .consume, .consume]
  ops.map fun op => (7, op)

theorem run_handoff_inOrder :
    Handoffs.Meets (fun _ => .initial) handoffInOrder ∧
      (Handoffs.run (fun _ => .initial) handoffInOrder 7).returned =
        [(2, ⟨200, 0, 1, 2⟩), (1, ⟨100, 0, 1, 1⟩)] ∧
      (Handoffs.run (fun _ => .initial) handoffInOrder 7).Exact :=
  ⟨by decide +kernel, by decide +kernel,
    Handoffs.run_handoff handoffInOrder (by decide +kernel) 7⟩

/-- A switch-in reads and marks the record while its `record_wakeup` has not removed the cursor
yet. -/
def handoffBetween : List (UInt32 × Handoff.Op) :=
  let ops : List Handoff.Op :=
    [.wakeup ⟨100, 0, 1⟩, .produce, .produce, .produce,
      .switchIn, .consume, .consume, .produce, .switchIn, .consume, .consume]
  ops.map fun op => (7, op)

/-- The removal takes the mark, and the next switch-in returns the same wakeup again. -/
theorem run_handoff_twice :
    ¬ ∀ (ops : List (UInt32 × Handoff.Op)) (tid : UInt32),
      (Handoffs.run (fun _ => .initial) ops tid).Exact := by
  intro exact
  have once := (exact handoffBetween 7).2.1
  have twice : ((Handoffs.run (fun _ => .initial) handoffBetween 7).returned.map Prod.fst) =
      [1, 1] := by
    decide +kernel
  rw [twice] at once
  exact absurd once (by decide)

end Stutter.Probes

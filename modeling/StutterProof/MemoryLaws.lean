import Mathlib.Data.List.DropRight
import Mathlib.Data.List.TakeWhile
import StutterProof.WorkloadMemory

/-! # Laws of the candidate memory

A memory that grows from nothing by recording, saving and loading is `Lawful`: it holds no more
entries than its bounds, no two records of one action and context hash, and no two workload actions
that match one context for one action.  What it forgets is no newer than what it keeps.

A memory that is read back is the one that was saved, with the entries of every colliding hash
marked.  The process is in the summaries and not in the hashes, so a workload that was started again
collides with itself. -/
namespace Stutter.Memory

open ActiveConfig (trim trimmed)

variable {memory : CandidateMemory} {input : CandidateResultRecordInput}
  {context : CandidateContextHashInput}

/-! ## Summaries -/

theorem trim_ne_nil {c : Char} (h : isTrimmed c = false) (rest : List Char) :
    trim (c :: rest) ≠ [] := by
  unfold trim
  rw [List.dropWhile_cons_of_neg (by simp [h]), ne_eq, List.reverse_eq_nil_iff,
    List.dropWhile_eq_nil_iff]
  intro hall
  have hc := hall c (by simp)
  rw [h] at hc
  cases hc

theorem newText_isSome {c : Char} (h : isTrimmed c = false) {value : String} {rest : List Char}
    (hvalue : value.toList = c :: rest) : (newText value).isSome = true := by
  have hempty : (trimmed value).isEmpty = false := by
    rw [trimmed, hvalue, String.isEmpty_eq_false_iff, ne_eq, String.ofList_eq_empty_iff]
    exact trim_ne_nil h rest
  rw [newText, hempty]
  rfl

open CandidateContextHashInput

/-- A workload with an identity has a summary. -/
theorem workloadIdentitySummary_isSome (h : context.workloadIdentity.isSome = true) :
    context.workloadIdentitySummary.isSome = true := by
  obtain ⟨identity, hidentity⟩ := Option.isSome_iff_exists.mp h
  unfold workloadIdentitySummary
  rw [hidentity, Option.bind_eq_bind, Option.bind_some]
  have hfirst : ∀ value : String, s!"workload_hash={value}".toList =
      'w' :: ("orkload_hash=".toList ++ value.toList) := by
    intro value
    rw [String.toList_append]
    rfl
  have htext : ∃ rest, (" ".intercalate context.workloadIdentityParts).toList = 'w' :: rest := by
    rw [workloadIdentityParts, String.toList_intercalate]
    simp only [List.map_cons, List.intercalate, List.intersperse_cons_cons, List.flatten_cons]
    rw [hfirst, List.cons_append]
    exact ⟨_, rfl⟩
  obtain ⟨rest, hrest⟩ := htext
  exact newText_isSome (by decide) hrest

/-! ## Normalized contexts -/

theorem head_of_dropWhile {c : Char} {chars rest : List Char}
    (h : chars.dropWhile isTrimmed = c :: rest) : isTrimmed c = false := by
  have hne : chars.dropWhile isTrimmed ≠ [] := by
    rw [h]
    exact List.cons_ne_nil c rest
  have hhead := List.head_dropWhile_not isTrimmed hne
  simpa only [h, List.head_cons] using hhead

theorem trim_trim (chars : List Char) : trim (trim chars) = trim chars := by
  have hstart : (trim chars).dropWhile isTrimmed = trim chars := by
    cases hcut : trim chars with
    | nil => rfl
    | cons c rest =>
      refine List.dropWhile_cons_of_neg (Bool.eq_false_iff.mp ?_)
      have hprefix : trim chars <+: chars.dropWhile isTrimmed := by
        rw [trim, ← List.reverse_suffix, List.reverse_reverse]
        exact List.dropWhile_suffix isTrimmed
      rw [hcut] at hprefix
      obtain ⟨more, hmore⟩ := hprefix
      exact head_of_dropWhile hmore.symm
  have hend : (trim chars).reverse.dropWhile isTrimmed = (trim chars).reverse := by
    rw [trim, List.reverse_reverse, List.dropWhile_idempotent]
  rw [trim, hstart, hend, List.reverse_reverse]

theorem newText_of_newText {value text : String} (h : newText value = some text) :
    newText text = some text := by
  unfold newText at h
  split at h
  · cases h
  · next hblank =>
    obtain rfl := Option.some.inj h
    have htrimmed : trimmed (trimmed value) = trimmed value := by
      rw [trimmed, trimmed, String.toList_ofList, trim_trim]
    rw [newText, htrimmed, if_neg hblank]

theorem bind_newText (value : Option String) :
    (value.bind newText).bind newText = value.bind newText := by
  cases value with
  | none => rfl
  | some value =>
    rw [Option.bind_some]
    cases h : newText value with
    | none => rfl
    | some text => rw [Option.bind_some, newText_of_newText h]

theorem cgroupPath_normalized (context : CandidateContextHashInput) :
    context.normalized.normalized.cgroupPath = context.normalized.cgroupPath := bind_newText _

theorem workloadIdentitySummary_normalized (context : CandidateContextHashInput) :
    context.normalized.workloadIdentitySummary = context.workloadIdentitySummary := by
  have hparts : context.normalized.workloadIdentityParts = context.workloadIdentityParts := by
    simp only [workloadIdentityParts, cgroupPath_normalized]
    rfl
  unfold workloadIdentitySummary
  rw [hparts]
  rfl

variable {action : WorkloadActionMemory}

/-! ## What matches a context -/

theorem matchesContext_iff : action.matchesContext context = true ↔
    action.isDegraded = false ∧ context.workloadIdentity = some action.workloadHash ∧
      (∀ summary ∈ action.identitySummary, context.workloadIdentitySummary = some summary) ∧
      context.exeDev = action.exeDev ∧ context.exeIno = action.exeIno ∧
      context.normalized.cgroupPath = action.cgroupPath ∧ context.situation = action.situation := by
  unfold WorkloadActionMemory.matchesContext
  cases hdegraded : action.isDegraded with
  | true =>
    rw [if_pos rfl]
    exact iff_of_false Bool.false_ne_true fun h => absurd h.1 (by decide)
  | false =>
    have hidentity : context.normalized.workloadIdentity = context.workloadIdentity := rfl
    have hdev : context.normalized.exeDev = context.exeDev := rfl
    have hino : context.normalized.exeIno = context.exeIno := rfl
    have hsituation : context.normalized.situation = context.situation := rfl
    rw [if_neg Bool.false_ne_true]
    simp only [hidentity, hdev, hino, hsituation, workloadIdentitySummary_normalized,
      Bool.and_eq_true, decide_eq_true_iff, Option.any_eq_true, Option.all_eq_true, Option.mem_def,
      exists_eq_right,
      and_assoc, true_and]
    refine and_congr_right fun hhash => and_congr_left' (forall₂_congr fun summary hsummary => ?_)
    have hsome := workloadIdentitySummary_isSome (Option.isSome_of_eq_some hhash)
    obtain ⟨current, hcurrent⟩ := Option.isSome_iff_exists.mp hsome
    rw [hcurrent]
    simp

/-! ## Lawful memories -/

/-- Not two records of one action and context hash. -/
def DistinctRecords (a b : CandidateMemoryRecord) : Prop :=
  ¬ (a.actionId = b.actionId ∧ a.contextHash = b.contextHash)

/-- Not two workload actions that match one context for one action. -/
def DistinctActions (a b : WorkloadActionMemory) : Prop :=
  a.actionId = b.actionId →
    ∀ context, ¬ (a.matchesContext context = true ∧ b.matchesContext context = true)

theorem DistinctRecords.symm {a b : CandidateMemoryRecord} (h : DistinctRecords a b) :
    DistinctRecords b a := fun ⟨haction, hhash⟩ => h ⟨haction.symm, hhash.symm⟩

theorem DistinctActions.symm {a b : WorkloadActionMemory} (h : DistinctActions a b) :
    DistinctActions b a := fun haction context ⟨hb, ha⟩ => h haction.symm context ⟨ha, hb⟩

/-- The bounds of a memory. -/
structure CandidateMemory.Lawful (memory : CandidateMemory) : Prop where
  records_bounded : memory.records.length ≤ CandidateMemory.maxRecords
  actions_bounded : memory.workloadActions.length ≤ CandidateMemory.maxWorkloadActions
  records : memory.records.Pairwise DistinctRecords
  actions : memory.workloadActions.Pairwise DistinctActions

theorem lawful_empty : CandidateMemory.empty.Lawful :=
  ⟨Nat.zero_le _, Nat.zero_le _, List.Pairwise.nil, List.Pairwise.nil⟩

/-- What matches some context of the stored workload matches the context it was stored for. -/
theorem matchesContext_workloadAction {identity : String} {existing : WorkloadActionMemory}
    (hidentity : input.context.workloadIdentity = some identity)
    (hnew : (input.workloadAction identity).matchesContext context = true)
    (hexisting : existing.matchesContext context = true) :
    existing.matchesContext input.context.normalized = true := by
  obtain ⟨-, hhash, hsummary, hdev, hino, hcgroup, hsituation⟩ := matchesContext_iff.mp hnew
  obtain ⟨hdegraded, hhash', hsummary', hdev', hino', hcgroup', hsituation'⟩ :=
    matchesContext_iff.mp hexisting
  have hsome := workloadIdentitySummary_isSome (Option.isSome_of_eq_some hidentity)
  obtain ⟨summary, hinput⟩ := Option.isSome_iff_exists.mp hsome
  have hstored : summary ∈ (input.workloadAction identity).identitySummary :=
    (workloadIdentitySummary_normalized input.context).trans hinput
  have hcontext := hsummary summary hstored
  refine matchesContext_iff.mpr ⟨hdegraded, ?_, fun other hother => ?_, ?_, ?_, ?_, ?_⟩
  · exact hidentity.trans (hhash.symm.trans hhash')
  · rw [workloadIdentitySummary_normalized, hinput, ← hcontext]
    exact hsummary' other hother
  · exact hdev.symm.trans hdev'
  · exact hino.symm.trans hino'
  · rw [cgroupPath_normalized]
    exact hcgroup.symm.trans hcgroup'
  · exact hsituation.symm.trans hsituation'

open RecentTable

theorem CandidateMemory.Lawful.pairwise_recordWorkloadAction (h : memory.Lawful)
    (input : CandidateResultRecordInput) :
    (CandidateMemory.recordWorkloadAction memory.workloadActions input).Pairwise
      DistinctActions := by
  unfold CandidateMemory.recordWorkloadAction
  cases hidentity : input.context.normalized.workloadIdentity with
  | none => exact h.actions
  | some identity =>
    refine pairwise_put (fun _ _ => DistinctActions.symm) h.actions ?_ ?_
    · intro a b ha hb hdistinct
      rw [Bool.and_eq_true, decide_eq_true_iff] at ha hb
      exact hdistinct (ha.1.trans hb.1.symm) _ ⟨ha.2, hb.2⟩
    · intro existing hkept haction context hboth
      have hmatches := matchesContext_workloadAction hidentity hboth.1 hboth.2
      have hreplaced : (decide (existing.actionId = input.candidate.actionId) &&
          existing.matchesContext input.context.normalized) = true := by
        rw [hmatches, Bool.and_true, decide_eq_true_iff]
        exact haction.symm
      rw [hreplaced] at hkept
      cases hkept

theorem CandidateMemory.Lawful.recordResult (h : memory.Lawful)
    (input : CandidateResultRecordInput) :
    (memory.recordResult input).Lawful where
  records_bounded := length_evict_le
  actions_bounded := length_evict_le
  records := by
    refine pairwise_evict (fun _ _ => DistinctRecords.symm) ?_
    refine pairwise_put (fun _ _ => DistinctRecords.symm) h.records ?_ ?_
    · intro a b ha hb hdistinct
      rw [decide_eq_true_iff] at ha hb
      exact hdistinct ⟨ha.1.trans hb.1.symm, ha.2.trans hb.2.symm⟩
    · intro existing hkept hsame
      exact of_decide_eq_false hkept ⟨hsame.1.symm, hsame.2.symm⟩
  actions := pairwise_evict (fun _ _ => DistinctActions.symm)
    (h.pairwise_recordWorkloadAction input)

/-! ## What is read back -/

@[simp] theorem actionId_markRecord (records : List CandidateMemoryRecord)
    (record : CandidateMemoryRecord) :
    (CandidateMemory.markRecord records record).actionId = record.actionId := by
  unfold CandidateMemory.markRecord
  split <;> rfl

@[simp] theorem contextHash_markRecord (records : List CandidateMemoryRecord)
    (record : CandidateMemoryRecord) :
    (CandidateMemory.markRecord records record).contextHash = record.contextHash := by
  unfold CandidateMemory.markRecord
  split <;> rfl

@[simp] theorem actionId_markWorkloadAction (actions : List WorkloadActionMemory)
    (action : WorkloadActionMemory) :
    (CandidateMemory.markWorkloadAction actions action).actionId = action.actionId := by
  unfold CandidateMemory.markWorkloadAction
  split <;> rfl

/-- A marked entry matches no context. -/
theorem matchesContext_of_marked {actions : List WorkloadActionMemory}
    (h : (CandidateMemory.markWorkloadAction actions action).matchesContext context = true) :
    action.matchesContext context = true := by
  unfold CandidateMemory.markWorkloadAction at h
  split at h
  · have hdegraded := (matchesContext_iff.mp h).1
    cases hdegraded
  · exact h

theorem CandidateMemory.Lawful.markLoadedIdentityCollisions (h : memory.Lawful) :
    memory.markLoadedIdentityCollisions.Lawful where
  records_bounded := by
    rw [CandidateMemory.markLoadedIdentityCollisions, List.length_map]
    exact h.records_bounded
  actions_bounded := by
    rw [CandidateMemory.markLoadedIdentityCollisions, List.length_map]
    exact h.actions_bounded
  records := by
    refine h.records.map _ fun a b hdistinct => ?_
    rw [DistinctRecords, actionId_markRecord, actionId_markRecord, contextHash_markRecord,
      contextHash_markRecord]
    exact hdistinct
  actions := by
    refine h.actions.map _ fun a b hdistinct haction context hboth => ?_
    rw [actionId_markWorkloadAction, actionId_markWorkloadAction] at haction
    exact hdistinct haction context
      ⟨matchesContext_of_marked hboth.1, matchesContext_of_marked hboth.2⟩

theorem CandidateMemory.Lawful.load (h : memory.Lawful) :
    (CandidateMemory.load (.content memory)).Lawful := by
  rw [CandidateMemory.load]
  split
  · exact h.markLoadedIdentityCollisions
  · exact lawful_empty

variable {record : CandidateMemoryRecord}

theorem markRecord_of_not_collides {records : List CandidateMemoryRecord}
    (h : collides (·.contextHash) (·.identitySummary) records record.contextHash = false) :
    CandidateMemory.markRecord records record = record := by
  rw [CandidateMemory.markRecord, h]
  rfl

theorem markWorkloadAction_of_not_collides {actions : List WorkloadActionMemory}
    (h : collides (·.workloadHash) (·.identitySummary) actions action.workloadHash = false) :
    CandidateMemory.markWorkloadAction actions action = action := by
  rw [CandidateMemory.markWorkloadAction, h]
  rfl

/-- No hash stands for two summaries. -/
structure CandidateMemory.CollisionFree (memory : CandidateMemory) : Prop where
  records : ∀ a ∈ memory.records, ∀ b ∈ memory.records, a.contextHash = b.contextHash →
    ∀ s ∈ a.identitySummary, ∀ t ∈ b.identitySummary, s = t
  actions : ∀ a ∈ memory.workloadActions, ∀ b ∈ memory.workloadActions,
    a.workloadHash = b.workloadHash →
    ∀ s ∈ a.identitySummary, ∀ t ∈ b.identitySummary, s = t

theorem CandidateMemory.CollisionFree.marked (h : memory.CollisionFree) :
    memory.markLoadedIdentityCollisions = memory := by
  obtain ⟨records, workloadActions⟩ := memory
  have hrecords : records.map (markRecord records) = records := by
    refine (List.map_congr_left fun record _ => ?_).trans (List.map_id _)
    refine markRecord_of_not_collides (Bool.eq_false_iff.mpr fun hcollides => ?_)
    obtain ⟨a, ha, b, hb, hkeya, hkeyb, s, t, hs, ht, hne⟩ := collides_iff.mp hcollides
    exact hne (h.records a ha b hb (hkeya.trans hkeyb.symm) s hs t ht)
  have hactions : workloadActions.map (markWorkloadAction workloadActions) = workloadActions := by
    refine (List.map_congr_left fun action _ => ?_).trans (List.map_id _)
    refine markWorkloadAction_of_not_collides (Bool.eq_false_iff.mpr fun hcollides => ?_)
    obtain ⟨a, ha, b, hb, hkeya, hkeyb, s, t, hs, ht, hne⟩ := collides_iff.mp hcollides
    exact hne (h.actions a ha b hb (hkeya.trans hkeyb.symm) s hs t ht)
  rw [markLoadedIdentityCollisions, hrecords, hactions]

/-! ## Runs -/

/-- The memory of a process, and the file beside the journal. -/
structure MemoryState where
  memory : CandidateMemory
  file : StoreFile CandidateMemory

/-- The steps of a memory and its file. -/
inductive MemoryStep where
  | record (input : CandidateResultRecordInput)
  | save (written : Bool)
  | load

def MemoryState.step (state : MemoryState) : MemoryStep → MemoryState
  | .record input => { state with memory := state.memory.recordResult input }
  | .save true => { state with file := .content state.memory }
  | .save false => state
  | .load => { state with memory := CandidateMemory.load state.file }

def MemoryState.start : MemoryState := ⟨.empty, .missing⟩

def runMemory (steps : List MemoryStep) : MemoryState := steps.foldl MemoryState.step .start

structure MemoryState.Lawful (state : MemoryState) : Prop where
  memory : state.memory.Lawful
  file : ∀ saved, state.file = .content saved → saved.Lawful

theorem MemoryState.Lawful.step {state : MemoryState} (h : state.Lawful) (step : MemoryStep) :
    (state.step step).Lawful := by
  cases step with
  | record input => exact ⟨h.memory.recordResult input, h.file⟩
  | save written =>
    cases written with
    | false => exact h
    | true =>
      refine ⟨h.memory, fun saved hsaved => ?_⟩
      obtain rfl := StoreFile.content.inj hsaved
      exact h.memory
  | load =>
    refine ⟨?_, h.file⟩
    show (CandidateMemory.load state.file).Lawful
    cases hfile : state.file with
    | missing => exact lawful_empty
    | corrupt => exact lawful_empty
    | content saved => exact (h.file saved hfile).load

theorem lawful_runMemory (steps : List MemoryStep) : (runMemory steps).Lawful := by
  have hstart : MemoryState.start.Lawful := ⟨lawful_empty, fun saved hsaved => by cases hsaved⟩
  have hfold : ∀ {state : MemoryState}, state.Lawful →
      (steps.foldl MemoryState.step state).Lawful := by
    induction steps with
    | nil => exact fun h => h
    | cons step rest ih => exact fun h => ih (h.step step)
  exact hfold hstart

/-! ## What is forgotten, and what is found -/

theorem record_forgotten {gone kept : CandidateMemoryRecord}
    (hmem : gone = input.base.record ∨
      gone ∈ memory.records ∧ DistinctRecords gone input.base.record)
    (hgone : gone ∉ (memory.recordResult input).records)
    (hkept : kept ∈ (memory.recordResult input).records) :
    gone.lastTriedUnixNanos ≤ kept.lastTriedUnixNanos := by
  refine stamp_le_of_not_mem_evict ?_ hgone hkept
  obtain rfl | ⟨hmem, hdistinct⟩ := hmem
  · exact mem_put_self
  · exact mem_put_of_mem hmem (decide_eq_false hdistinct)

theorem workloadAction_forgotten {gone kept : WorkloadActionMemory}
    (hmem : gone ∈ CandidateMemory.recordWorkloadAction memory.workloadActions input)
    (hgone : gone ∉ (memory.recordResult input).workloadActions)
    (hkept : kept ∈ (memory.recordResult input).workloadActions) :
    gone.lastSeenUnixNanos ≤ kept.lastSeenUnixNanos :=
  stamp_le_of_not_mem_evict hmem hgone hkept

theorem mem_of_foldl_newer {records : List CandidateMemoryRecord}
    {best : Option CandidateMemoryRecord}
    (h : records.foldl Stutter.CandidateMemory.newer best = some record) :
    record ∈ records ∨ best = some record := by
  induction records generalizing best with
  | nil => exact .inr h
  | cons first rest ih =>
    obtain hmem | hbest := ih h
    · exact .inl (List.mem_cons_of_mem first hmem)
    · cases best with
      | none =>
        obtain rfl := Option.some.inj hbest
        exact .inl List.mem_cons_self
      | some other =>
        simp only [Stutter.CandidateMemory.newer] at hbest
        split at hbest
        · obtain rfl := Option.some.inj hbest
          exact .inl List.mem_cons_self
        · exact .inr hbest

/-- The most recent record of the action that is not degraded. -/
theorem lastForAction_some {actionId : ActionId} (h : memory.lastForAction actionId = some record) :
    (record ∈ memory.records ∧ record.actionId = actionId ∧ record.isDegraded = false) ∧
      ∀ other ∈ memory.records, other.actionId = actionId → other.isDegraded = false →
        other.lastTriedUnixNanos ≤ record.lastTriedUnixNanos := by
  obtain hmem | hnone := mem_of_foldl_newer h
  · obtain ⟨hmem, hmatches⟩ := List.mem_filter.mp hmem
    rw [Bool.and_eq_true, decide_eq_true_iff, Bool.not_eq_true'] at hmatches
    refine ⟨⟨hmem, hmatches⟩, fun other hother haction hdegraded => ?_⟩
    have hretains : memory.base.Retains actionId other.lastTriedUnixNanos :=
      ⟨other, hother, haction, hdegraded, Nat.le_refl _⟩
    obtain ⟨found, hfound, hle⟩ := hretains.lastForAction
    obtain rfl : found = record := Option.some.inj (hfound.symm.trans h)
    exact hle
  · cases hnone

theorem lastForAction_none {actionId : ActionId} (h : memory.lastForAction actionId = none) :
    ∀ other ∈ memory.records, other.actionId = actionId → other.isDegraded = true := by
  intro other hother haction
  by_contra hnot
  have hdegraded : other.isDegraded = false := Bool.eq_false_iff.mpr hnot
  have hretains : memory.base.Retains actionId other.lastTriedUnixNanos :=
    ⟨other, hother, haction, hdegraded, Nat.le_refl _⟩
  obtain ⟨found, hfound, -⟩ := hretains.lastForAction
  cases h.symm.trans hfound

/-! ## The laws -/

def sampleCandidate : CandidateAction :=
  ⟨.nice, "nice", "nice:game", .reversibleLowRisk, .nice, .gameRunnableLatency, some 1, "5"⟩

/-- A result in one workload, as the process it is at the time. -/
def resultOfProcess (rootPid : Nat) : CandidateResultRecordInput :=
  ⟨sampleCandidate,
    ⟨some "game", some rootPid, none, none, none, none, none, "nice", .gameFocused, []⟩, rootPid,
    .reverted, none, none, none, none⟩

/-- A workload that was started again: the two results are of one workload hash and of two contexts,
and both are degraded when they are read back. -/
theorem saved_memory_not_reloaded : ¬ ∀ steps : List MemoryStep,
    CandidateMemory.load (.content (runMemory steps).memory) = (runMemory steps).memory := by
  intro h
  have hdegraded := congrArg (fun memory => memory.workloadActions.map (·.isDegraded))
    (h [.record (resultOfProcess 1), .record (resultOfProcess 2)])
  exact absurd hdegraded (by decide +kernel)

/-- In every run the memory keeps within its bounds and holds one record for each action and context
hash, and one usable workload action for each action and context; what it forgets is no newer than
what it keeps; it finds the most recent usable record of an action; and it is read back as it was
saved, but for the entries of hashes that collide. -/
theorem candidate_memory_laws :
    (∀ (steps : List MemoryStep) (actionId : ActionId) (contextHash : String)
      (context : CandidateContextHashInput),
      (runMemory steps).memory.records.length ≤ CandidateMemory.maxRecords ∧
      (runMemory steps).memory.workloadActions.length ≤ CandidateMemory.maxWorkloadActions ∧
      ((runMemory steps).memory.records.filter fun record =>
        record.actionId = actionId && record.contextHash = contextHash).length ≤ 1 ∧
      ((runMemory steps).memory.workloadActions.filter fun action =>
        action.actionId = actionId && action.matchesContext context).length ≤ 1) ∧
    (∀ (memory : CandidateMemory) (input : CandidateResultRecordInput),
      (∀ gone, gone = input.base.record ∨
          gone ∈ memory.records ∧ DistinctRecords gone input.base.record →
        gone ∉ (memory.recordResult input).records →
        ∀ kept ∈ (memory.recordResult input).records,
          gone.lastTriedUnixNanos ≤ kept.lastTriedUnixNanos) ∧
      (∀ gone ∈ CandidateMemory.recordWorkloadAction memory.workloadActions input,
        gone ∉ (memory.recordResult input).workloadActions →
        ∀ kept ∈ (memory.recordResult input).workloadActions,
          gone.lastSeenUnixNanos ≤ kept.lastSeenUnixNanos)) ∧
    (∀ (memory : CandidateMemory) (actionId : ActionId),
      (memory.lastForAction actionId = none →
        ∀ other ∈ memory.records, other.actionId = actionId → other.isDegraded = true) ∧
      ∀ record, memory.lastForAction actionId = some record →
        (record ∈ memory.records ∧ record.actionId = actionId ∧ record.isDegraded = false) ∧
        ∀ other ∈ memory.records, other.actionId = actionId → other.isDegraded = false →
          other.lastTriedUnixNanos ≤ record.lastTriedUnixNanos) ∧
    (∀ memory : CandidateMemory, memory.identityStringsValid = true →
      CandidateMemory.load (.content memory) = memory.markLoadedIdentityCollisions ∧
      (memory.CollisionFree → CandidateMemory.load (.content memory) = memory)) := by
  refine ⟨fun steps actionId contextHash context => ?_, fun memory input => ⟨?_, ?_⟩,
    fun memory actionId => ⟨lastForAction_none, fun _ => lastForAction_some⟩,
    fun memory hvalid => ?_⟩
  · have hlawful := (lawful_runMemory steps).memory
    refine ⟨hlawful.records_bounded, hlawful.actions_bounded, ?_, ?_⟩
    · refine length_filter_le_one hlawful.records fun a b ha hb hdistinct => ?_
      rw [Bool.and_eq_true, decide_eq_true_iff, decide_eq_true_iff] at ha hb
      exact hdistinct ⟨ha.1.trans hb.1.symm, ha.2.trans hb.2.symm⟩
    · refine length_filter_le_one hlawful.actions fun a b ha hb hdistinct => ?_
      rw [Bool.and_eq_true, decide_eq_true_iff] at ha hb
      exact hdistinct (ha.1.trans hb.1.symm) context ⟨ha.2, hb.2⟩
  · exact fun gone hmem hgone kept hkept => record_forgotten hmem hgone hkept
  · exact fun gone hmem hgone kept hkept => workloadAction_forgotten hmem hgone hkept
  · have hload : CandidateMemory.load (.content memory) = memory.markLoadedIdentityCollisions :=
      if_pos hvalid
    exact ⟨hload, fun hfree => hload.trans hfree.marked⟩

end Stutter.Memory

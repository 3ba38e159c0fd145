import StutterProof.KeptProfiles

/-! # Whose profile it is

**`profiles_attributed_iff`**: over a whole run every profile names the workload its record was kept
for exactly if the target's identity never changes while something that was kept is shown, and a
file is read back with kept records under the identity it was written under only.  The number of the
target's tasks is part of the identity. -/
namespace Stutter.Profiles

variable {session : Session} {holder : Holder}

/-! ## Steps that are harmless -/

namespace Session

/-- No kept record changes hands. -/
def Allowed (session : Session) : Step → Prop
  | .retarget view => session.exported = [] ∨ view.identity = session.view.identity
  | .reload view =>
    (loadHolders session.saved session.savedHolders).filter (fun holder => isExported holder.1) =
      [] ∨
      view.identity = session.savedIdentity
  | .record _ | .save | .lose _ => True

/-- What is shown is the target's own. -/
def Own (session : Session) : Prop := ∀ holder ∈ session.exported, session.view.identity = holder.2

/-- What was written was the target's own. -/
def SavedOwn (session : Session) : Prop :=
  ∀ holder ∈ session.savedHolders, isExported holder.1 = true → holder.2 = session.savedIdentity

/-- The holders are those of the records. -/
structure Tracked (session : Session) : Prop where
  records : session.holders.map Prod.fst = session.memory.records
  saved : ∀ memory, session.saved = .content memory →
    session.savedHolders.map Prod.fst = memory.records

end Session

/-! ## Holders -/

theorem mem_exported :
    holder ∈ session.exported ↔ holder ∈ session.holders ∧ isExported holder.1 = true :=
  List.mem_filter

open Memory.CandidateMemory

/-- A record that is read back and is not set aside is as it was written. -/
theorem mem_loadHolders {file : StoreFile Memory.CandidateMemory} {holders : List Holder}
    (h : holder ∈ loadHolders file holders) (hexported : isExported holder.1 = true) :
    holder ∈ holders := by
  rcases file with _ | memory | _
  · contradiction
  · rw [loadHolders] at h
    split at h
    · obtain ⟨before, hbefore, rfl⟩ := List.mem_map.mp h
      have hsame : markRecord memory.records before.1 = before.1 := by
        simp only [markRecord] at hexported ⊢
        split at hexported
        · simp [isExported, CandidateMemoryRecord.isDegraded] at hexported
        · next hclear => rw [if_neg hclear]
      rw [hsame]
      exact hbefore
    · contradiction
  · contradiction

theorem loadHolders_records {file : StoreFile Memory.CandidateMemory} {holders : List Holder}
    (h : ∀ memory, file = .content memory → holders.map Prod.fst = memory.records) :
    (loadHolders file holders).map Prod.fst = (load file).records := by
  rcases file with _ | memory | _
  · rfl
  · rw [loadHolders, load]
    split
    · rw [List.map_map, markLoadedIdentityCollisions, ← h memory rfl,
        List.map_map]
      rfl
    · rfl
  · rfl

theorem profile_hash (session : Session) (environment : DaemonProfileEnvironment)
    (record : CandidateMemoryRecord) :
    (session.profile environment record).workloadIdentityHash = session.view.identity := by
  rw [Session.profile, profileOf, TargetView.identity]

theorem hash_of_matchesForget {hash : String} {candidateName : Option String}
    {profile : DaemonWorkloadProfile}
    (h : matchesForget (some hash) candidateName false profile = true) :
    profile.workloadIdentityHash = hash := by
  simp only [matchesForget, Bool.false_or, Option.any_some, Bool.and_eq_true,
    decide_eq_true_eq] at h
  exact h.1

/-! ## One step -/

theorem Session.Tracked.step (h : session.Tracked) (step : Step) : (session.step step).Tracked := by
  cases step with
  | retarget view => exact ⟨h.records, h.saved⟩
  | record input =>
    refine ⟨?_, h.saved⟩
    have hevict := RecentTable.map_evict Prod.fst (RecentTable.put (fun existing : Holder =>
        decide (existing.1.actionId = input.base.record.actionId ∧
          existing.1.contextHash = input.base.record.contextHash))
      (input.base.record, session.view.identity) session.holders) maxRecords
      CandidateMemoryRecord.lastTriedUnixNanos
    have hput := RecentTable.map_put Prod.fst session.holders
        (fun existing : CandidateMemoryRecord =>
        decide (existing.actionId = input.base.record.actionId ∧
          existing.contextHash = input.base.record.contextHash))
      (input.base.record, session.view.identity)
    rw [h.records] at hput
    exact hevict.trans (congrArg _ hput)
  | save =>
    refine ⟨h.records, fun memory hmemory => ?_⟩
    obtain rfl := StoreFile.content.inj hmemory
    exact h.records
  | lose corrupt =>
    refine ⟨h.records, fun memory hmemory => ?_⟩
    rcases corrupt with _ | _ <;> contradiction
  | reload view => exact ⟨loadHolders_records h.saved, h.saved⟩

/-- One step keeps what is shown in the right hands exactly if it is harmless. -/
theorem own_step_iff (hown : session.Own) (hsaved : session.SavedOwn) (step : Step) :
    (session.step step).Own ↔ session.Allowed step := by
  cases step with
  | retarget view =>
    constructor
    · intro h
      rcases hexported : session.exported with _ | ⟨holder, rest⟩
      · exact .inl hexported
      · have hmem : holder ∈ session.exported := hexported ▸ List.mem_cons_self
        exact .inr ((h holder hmem).trans (hown holder hmem).symm)
    · rintro (hnone | hsame) holder hmem
      · have hempty : holder ∈ session.exported := hmem
        rw [hnone] at hempty
        contradiction
      · exact hsame.trans (hown holder hmem)
  | record input =>
    refine iff_of_true (fun holder hmem => ?_) trivial
    obtain ⟨hmem, hexported⟩ := mem_exported.mp hmem
    rcases RecentTable.mem_put (RecentTable.mem_evict hmem) with rfl | hmem
    · rfl
    · exact hown holder (mem_exported.mpr ⟨hmem, hexported⟩)
  | save => exact iff_of_true hown trivial
  | lose corrupt => exact iff_of_true hown trivial
  | reload view =>
    constructor
    · intro h
      rcases hloaded : (loadHolders session.saved session.savedHolders).filter
        (fun holder => isExported holder.1) with
        _ | ⟨holder, rest⟩
      · exact .inl hloaded
      · have hmem : holder ∈ (session.step (.reload view)).exported := by
          have hcons : holder ∈ holder :: rest := List.mem_cons_self
          rw [← hloaded] at hcons
          exact hcons
        obtain ⟨hin, hexported⟩ := mem_exported.mp hmem
        exact .inr ((h holder hmem).trans (hsaved holder (mem_loadHolders hin hexported) hexported))
    · rintro (hnone | hsame) holder hmem
      · have hempty : holder ∈ (loadHolders session.saved session.savedHolders).filter fun holder =>
            isExported holder.1 := hmem
        rw [hnone] at hempty
        contradiction
      · obtain ⟨hin, hexported⟩ := mem_exported.mp hmem
        exact hsame.trans (hsaved holder (mem_loadHolders hin hexported) hexported).symm

theorem savedOwn_step (hown : session.Own) (hsaved : session.SavedOwn) (step : Step) :
    (session.step step).SavedOwn := by
  cases step with
  | save =>
    exact fun holder hmem hexported => (hown holder (mem_exported.mpr ⟨hmem, hexported⟩)).symm
  | retarget view => exact hsaved
  | record input => exact hsaved
  | lose corrupt => exact hsaved
  | reload view => exact hsaved

/-! ## Runs -/

section Runs
variable {view : TargetView} {steps : List Step}

theorem run_concat (step : Step) :
    Session.run view (steps ++ [step]) = (Session.run view steps).step step := by
  rw [Session.run, List.foldl_append]
  rfl

theorem run_tracked (view : TargetView) (steps : List Step) : (Session.run view steps).Tracked := by
  induction steps using List.reverseRecOn with
  | nil => exact ⟨rfl, nofun⟩
  | append_singleton steps step ih =>
    rw [run_concat]
    exact ih.step step

/-- Every profile that is shown on the way is its own workload's: whatever is shown twice is named
alike both times, and who forgets the profiles of one workload forgets no other's. -/
structure AttributedAlong (view : TargetView) (steps : List Step) : Prop where
  own : ∀ before, before <+: steps → ∀ environment, ∀ holder ∈ (Session.run view before).exported,
    ((Session.run view before).profile environment holder.1).workloadIdentityHash = holder.2
  alike : ∀ before later, before <+: steps → later <+: steps → ∀ environment other,
    ∀ holder ∈ (Session.run view before).exported, holder ∈ (Session.run view later).exported →
      ((Session.run view before).profile environment holder.1).workloadIdentityHash =
        ((Session.run view later).profile other holder.1).workloadIdentityHash
  forgets : ∀ before, before <+: steps → ∀ environment hash candidateName,
    ∀ holder ∈ (Session.run view before).exported,
      (Session.run view before).profile environment holder.1 ∈
        (forgetMatching (some hash) candidateName false
          ((Session.run view before).profiles environment)).1 →
      holder.2 = hash

/-- The rest follows from whose the profiles are. -/
theorem attributedAlong_iff_own :
    AttributedAlong view steps ↔ ∀ before, before <+: steps → (Session.run view before).Own := by
  constructor
  · intro h before hbefore holder hmem
    exact h.own before hbefore ⟨none, none, none, none, none, none, none⟩ holder hmem
  · intro h
    refine ⟨?_, ?_, ?_⟩
    · intro before hbefore environment holder hmem
      rw [profile_hash]
      exact h before hbefore holder hmem
    · intro before later hbefore hlater _ _ holder hmem hagain
      rw [profile_hash, profile_hash]
      exact (h before hbefore holder hmem).trans (h later hlater holder hagain).symm
    · intro before hbefore environment hash candidateName holder hmem hremoved
      rw [forgetMatching, List.partition_eq_filter_filter] at hremoved
      have hhash := hash_of_matchesForget (List.mem_filter.mp hremoved).2
      rw [profile_hash] at hhash
      exact (h before hbefore holder hmem).symm.trans hhash

theorem saved_own_along (h : ∀ before, before <+: steps → (Session.run view before).Own)
    {before : List Step} (hbefore : before <+: steps) : (Session.run view before).SavedOwn := by
  induction before using List.reverseRecOn with
  | nil => exact nofun
  | append_singleton before step ih =>
    have hshorter := (List.prefix_append before [step]).trans hbefore
    rw [run_concat]
    exact savedOwn_step (h before hshorter) (ih hshorter) step

theorem profiles_allowed_iff (view : TargetView) (steps : List Step) : AttributedAlong view steps ↔
    ∀ before step, before ++ [step] <+: steps → (Session.run view before).Allowed step := by
  refine attributedAlong_iff_own.trans ⟨?_, ?_⟩
  · intro h before step hbefore
    have hshorter := (List.prefix_append before [step]).trans hbefore
    rw [← own_step_iff (h before hshorter) (saved_own_along h hshorter), ← run_concat]
    exact h _ hbefore
  · intro h before hbefore
    -- what was written is carried along with what is shown
    have hboth : (Session.run view before).Own ∧ (Session.run view before).SavedOwn := by
      induction before using List.reverseRecOn with
      | nil => exact ⟨nofun, nofun⟩
      | append_singleton before step ih =>
        obtain ⟨hown, hsaved⟩ := ih ((List.prefix_append before [step]).trans hbefore)
        rw [run_concat]
        exact ⟨(own_step_iff hown hsaved step).mpr (h before step hbefore),
          savedOwn_step hown hsaved step⟩
    exact hboth.1

/-- **Whose the profiles are.**  The records of the holders are the memory's, and they are in the
right hands all along exactly if every step of the run is harmless. -/
theorem profiles_attributed_iff (view : TargetView) (steps : List Step) :
    (∀ before, (Session.run view before).Tracked) ∧
      (AttributedAlong view steps ↔
        ∀ before step, before ++ [step] <+: steps → (Session.run view before).Allowed step) :=
  ⟨run_tracked view, profiles_allowed_iff view steps⟩

end Runs

/-! ## A change of the target -/

def gameView : TargetView := ⟨some 10, 1, some "game", none⟩

def editorView : TargetView := ⟨some 20, 1, some "editor", none⟩

/-- What is kept for the game. -/
def gameKept : Memory.CandidateResultRecordInput where
  candidate := ⟨.cpuAffinityProfile, "game", "cpu-affinity-profile:game", .reversibleLowRisk,
    .cpuAffinityProfile, .stutterScore, some 10, "render 0-3"⟩
  context := ⟨some "game", some 10, none, none, none, none, none, "game", .gameFocused, []⟩
  nowUnixNanos := 1
  result := .kept
  diagnosticBaselineRawScoreTotal := none
  diagnosticCurrentRawScoreTotal := none
  rollbackReason := none
  cooldownExpiresUnixNanos := none

/-- What was kept for the game is shown under the editor's name. -/
theorem gameKept_renamed : ¬∀ view steps, AttributedAlong view steps := by
  intro hall
  have hallowed :=
    ((profiles_allowed_iff gameView [.record gameKept, .retarget editorView]).mp (hall _ _))
    [.record gameKept] (.retarget editorView) (List.prefix_refl _)
  rcases hallowed with hnone | hsame
  · exact absurd hnone (List.cons_ne_nil _ _)
  · exact absurd hsame (by decide +kernel)

end Stutter.Profiles

import StutterProof.FaultLatch

/-! # Kept actions are compatible

The kept actions stand under their conflict groups, and no two of them conflict.  The
set is changed by a keep, by a release and by the acceptance of an external mutation.
A keep is checked twice: when the experiment is planned, against the set of that time,
and when it is inserted.  Between the two the set can only have lost actions.

`Harmony` is the invariant of the runtime: the set is compatible, and the experiment in
flight conflicts with nothing in it. -/
namespace Stutter
open Fallible

/-! ## The conflict relation -/

theorem ActionConflictGroup.conflictsWith_symm (a b : ActionConflictGroup) :
    a.conflictsWith b = b.conflictsWith a := by
  cases a <;> cases b <;> rfl

theorem CandidateAction.conflictsWith_symm (c other : CandidateAction) :
    c.conflictsWith other = other.conflictsWith c :=
  ActionConflictGroup.conflictsWith_symm ..

/-- The fake is in no group and conflicts with nothing. -/
theorem CandidateAction.fake_conflictsWith {c : CandidateAction} (h : c.variant = .fake)
    (other : CandidateAction) : c.conflictsWith other = false := by
  unfold conflictsWith conflictGroup
  rw [h]
  rfl

/-! ## The set -/

/-- One action for a group, under its own group, and no two in conflict. -/
structure KeptActionSet.Compatible (set : KeptActionSet) : Prop where
  keyed : ∀ entry ∈ set.actions, entry.1 = entry.2.candidate.conflictGroup
  single : (set.actions.map (·.1)).Nodup
  apart : set.actions.Pairwise fun a b => a.2.candidate.conflictsWith b.2.candidate = false

namespace KeptActionSet
variable {set : KeptActionSet}

theorem compatible_empty : empty.Compatible :=
  ⟨fun _ h => absurd h List.not_mem_nil, .nil, .nil⟩

/-- Taking actions away keeps the rest compatible. -/
theorem Compatible.sublist {smaller : KeptActionSet} (h : set.Compatible)
    (hsub : smaller.actions.Sublist set.actions) : smaller.Compatible :=
  ⟨fun entry hentry => h.keyed entry (hsub.subset hentry), h.single.sublist (hsub.map _),
    h.apart.sublist hsub⟩

theorem conflictingAction_eq_none {candidate : CandidateAction} :
    set.conflictingAction candidate = none ↔
      ∀ entry ∈ set.actions, candidate.conflictsWith entry.2.candidate = false := by
  unfold conflictingAction
  simp

theorem rank_injective {a b : ActionConflictGroup} (h : a.rank = b.rank) : a = b := by
  cases a <;> cases b <;> first | rfl | cases h

theorem get_eq_none {group : ActionConflictGroup} :
    set.get group = none ↔ ∀ entry ∈ set.actions, entry.1 ≠ group := by
  unfold get
  rw [List.lookup_eq_none_iff]
  constructor
  · intro h entry hentry heq
    have hne := h entry hentry
    rw [heq] at hne
    simp at hne
  · intro h entry hentry
    have hne := h entry hentry
    simpa using fun heq => hne heq.symm

/-- The set after an insertion: the new entry among the old ones. -/
theorem insert_perm {group : ActionConflictGroup} {kept : KeptCandidateState}
    (hfresh : ∀ entry ∈ set.actions, entry.1 ≠ group) :
    (set.insert group kept).actions.Perm ((group, kept) :: set.actions) := by
  have hsplit : set.actions.filter (fun entry => group.rank < entry.1.rank) =
      set.actions.filter fun entry => !decide (entry.1.rank < group.rank) := by
    refine List.filter_congr fun entry hentry => ?_
    have hne : entry.1.rank ≠ group.rank := fun h => hfresh entry hentry (rank_injective h)
    by_cases hlt : group.rank < entry.1.rank
    · simp [hlt, Nat.lt_asymm hlt]
    · have hgt : entry.1.rank < group.rank := by omega
      simp [hlt, hgt]
  unfold insert
  dsimp only
  rw [hsplit]
  refine List.perm_middle.trans (.cons _ ?_)
  exact List.filter_append_perm (fun entry => decide (entry.1.rank < group.rank)) set.actions

/-- **An insertion that is let through keeps the set compatible.**  That the new action conflicts
with no old one is checked one way round; the other way is the relation's symmetry. -/
theorem Compatible.insert {kept : KeptCandidateState} {inserted : KeptActionSet}
    (h : set.Compatible) (hinsert : set.insertIfCompatible kept = .ok inserted) :
    inserted.Compatible ∧ ∀ entry ∈ inserted.actions, entry.2 = kept ∨ entry ∈ set.actions := by
  unfold insertIfCompatible at hinsert
  dsimp only at hinsert
  split at hinsert
  · cases hinsert
  rename_i hget
  split at hinsert
  · cases hinsert
  rename_i hconflict
  cases hinsert
  have hfresh := get_eq_none.mp hget
  have hapart := conflictingAction_eq_none.mp hconflict
  have hperm := @insert_perm set _ kept hfresh
  have hmem : ∀ entry ∈ (set.insert kept.candidate.conflictGroup kept).actions,
      entry = (kept.candidate.conflictGroup, kept) ∨ entry ∈ set.actions :=
    fun entry hentry => List.mem_cons.mp (hperm.mem_iff.mp hentry)
  refine ⟨⟨?_, ?_, ?_⟩, ?_⟩
  · intro entry hentry
    rcases hmem entry hentry with rfl | hold
    · rfl
    · exact h.keyed entry hold
  · rw [(hperm.map _).nodup_iff, List.map_cons, List.nodup_cons]
    refine ⟨?_, h.single⟩
    intro hkey
    obtain ⟨entry, hentry, heq⟩ := List.mem_map.mp hkey
    exact hfresh entry hentry heq
  · have hsymm : ∀ {a b : ActionConflictGroup × KeptCandidateState},
        a.2.candidate.conflictsWith b.2.candidate = false →
        b.2.candidate.conflictsWith a.2.candidate = false := by
      intro a b hab
      rw [CandidateAction.conflictsWith_symm]
      exact hab
    rw [hperm.pairwise_iff hsymm, List.pairwise_cons]
    exact ⟨hapart, h.apart⟩
  · intro entry hentry
    rcases hmem entry hentry with rfl | hold
    · exact .inl rfl
    · exact .inr hold

end KeptActionSet

/-! ## The record of what is active -/

structure KeptCandidateHistoryEntry where
  experimentId : ExperimentId
  profileName : String
  keptUnixNanos : Nat
  result : ExperimentResult
  reason : String
  diagnosticBaselineRawScoreTotal : Nat
  diagnosticCandidateRawScoreTotal : Nat
  rollbackAvailable : Bool

/-- `KeptCandidateHistoryEntry::from_kept_state`. -/
def KeptCandidateHistoryEntry.fromKeptState (state : KeptCandidateState)
    (result : ExperimentResult) :
    KeptCandidateHistoryEntry :=
  ⟨state.experimentId, state.candidate.profileName, state.keptUnixNanos, result, state.reason,
    state.baselineScore.scoreTotal, state.candidateScore.scoreTotal, true⟩

/-- The kept actions, and their history. -/
structure ActiveProfileState where
  keptActions : KeptActionSet
  history : List KeptCandidateHistoryEntry

open Op

/-- `record_kept_candidate`: the history is written after the set. -/
def recordKeptCandidate (kept : KeptCandidateState) (result : ExperimentResult) :
    Op ActiveProfileState AnyError Unit := do
  let entry := KeptCandidateHistoryEntry.fromKeptState kept result
  let set ← gets (·.keptActions)
  let inserted ← ofExcept (set.insertIfCompatible kept)
  assign fun s => { s with keptActions := inserted }
  assign fun s => { s with history := s.history ++ [entry] }

/-- A record that is refused leaves everything as it was; one that is made inserts, as the manager's
keep does. -/
theorem recordKeptCandidate_ends (profile : ActiveProfileState) (kept : KeptCandidateState)
    (result : ExperimentResult) :
    Holds (recordKeptCandidate kept result) (fun _ => True) (fun r t =>
      match r with
      | .error e => t = profile ∧ profile.keptActions.insertIfCompatible kept = .error e
      | .ok _ => profile.keptActions.insertIfCompatible kept = .ok t.keptActions) profile := by
  rw [recordKeptCandidate, holds_bind, holds_gets]
  dsimp only
  rw [holds_bind, holds_ofExcept]
  cases profile.keptActions.insertIfCompatible kept with
  | error e => exact ⟨rfl, rfl⟩
  | ok inserted =>
    dsimp only
    rw [holds_bind, holds_assign]
    exact holds_assign.mpr rfl

/-! ## The experiment in flight -/

/-- The kept actions are compatible, and the experiment in flight conflicts with none of them. -/
structure Harmony (set : KeptActionSet) (current : Option LiveExperiment) : Prop where
  kept : set.Compatible
  live : ∀ experiment, current = some experiment →
    ∀ entry ∈ set.actions, experiment.candidate.conflictsWith entry.2.candidate = false

/-- A decision to start is about a candidate that no kept action conflicts with. -/
def StartsApart (decision : AutotuneDecision) (kept : KeptActionSet) : Prop :=
  ∀ candidate reason, decision = .startExperiment candidate reason →
    kept.conflictingAction candidate = none

theorem StartsApart.of_not_start {decision : AutotuneDecision} (h : decision.isStart = false)
    (kept : KeptActionSet) : StartsApart decision kept := by
  rintro candidate reason rfl
  cases h

section Effects
variable {input : LiveExperimentManagerInput} {observation : AutotuneObservation}
  {s t : ManagerState} {answer : Except AnyError LiveExperimentOutcome}

variable {kept : KeptActionSet}

theorem Harmony.idle (h : kept.Compatible) : Harmony kept none :=
  ⟨h, fun _ hnone => nomatch hnone⟩

theorem ManagerState.Holds.harmony {current : Option LiveExperiment}
    {controller : ControllerRuntimeState} (ht : t.Holds current controller kept)
    (h : Harmony kept current) : Harmony t.keptActions t.current := by
  rw [ht.kept, ht.current]
  exact h

theorem RollbackEnds.harmony (h : RollbackEnds input observation s answer t)
    (hs : Harmony s.keptActions s.current) : Harmony t.keptActions t.current := by
  cases h with
  | nothing hcurrent ht => exact ht.harmony (.idle hs.kept)
  | held experiment e hcurrent ht => exact ht.harmony (hcurrent ▸ hs)
  | reverted experiment reason outcome hcurrent hevent ht => exact ht.harmony (.idle hs.kept)
  | unverified experiment verification outcome hcurrent hevent ht =>
    exact ht.harmony (hcurrent ▸ hs)
  | forgotten experiment e hcurrent ht => exact ht.harmony (.idle hs.kept)

/-- The experiment a start puts in place is the candidate's. -/
theorem harmony_experimentFor {candidate : CandidateAction} {token : RollbackToken}
    {deadlines : Nat × Nat} (h : kept.Compatible)
    (hstart : kept.conflictingAction candidate = none) :
    Harmony kept (some (experimentFor input observation candidate token deadlines)) := by
  refine ⟨h, ?_⟩
  rintro _ ⟨⟩
  exact KeptActionSet.conflictingAction_eq_none.mp hstart

theorem EffectEnds.harmony {decision : AutotuneDecision}
    (h : EffectEnds input observation s decision answer t) (hs : Harmony s.keptActions s.current)
    (hstart : StartsApart decision s.keptActions) : Harmony t.keptActions t.current := by
  cases h with
  | nothing _ ht => exact ht.harmony hs
  | refused _ e ht => exact ht.harmony hs
  | cooldown duration reason ht => exact ht.harmony hs
  | applyFailed candidate reason e ht =>
    refine ht.harmony ?_
    unfold Stutter.applyFailed
    cases e.outstanding with
    | none => exact hs
    | some token => exact harmony_experimentFor hs.kept (hstart candidate reason rfl)
  | started candidate reason token _ hevent ht =>
    exact ht.harmony (harmony_experimentFor hs.kept (hstart candidate reason rfl))
  | kept id reason experiment set outcome hcurrent hset hevent ht =>
    obtain ⟨why, hinsert⟩ := hset
    exact ht.harmony (.idle (hs.kept.insert hinsert).1)
  | keepForgotten id reason experiment e hcurrent ht => exact ht.harmony (.idle hs.kept)
  | keepRolledBack id reason h => exact h.harmony hs
  | rolledBack id reason h => exact h.harmony hs
  | faultFailed reason e h => exact h.harmony hs
  | faulted reason rolledBack outcome h hevent ht => exact ht.harmony (h.harmony hs)

end Effects

/-! ## Over one call -/

section Calls
variable {config : AutotuneRuntimeConfig} {s : RuntimeState}

def RuntimeState.Harmonious (s : RuntimeState) : Prop :=
  Harmony s.manager.keptActions s.manager.current

variable {reason : String}

theorem holds_transition_harmonious {next : AutotuneRuntimePhase} (hs : s.Harmonious) :
    Holds (transitionRuntimePhase next reason) (fun _ => True) (fun _ t => t.Harmonious) s :=
  holds_transitionRuntimePhase (fun _ => hs) fun _ _ => hs

theorem holds_effects_harmonious {answers : SideEffectAnswers} {observation : AutotuneObservation}
    {decision : AutotuneDecision} (hs : s.Harmonious)
    (hstart : StartsApart decision s.manager.keptActions) :
    Holds (applyRuntimeSideEffects config answers observation decision reason) (fun _ => True)
      (fun _ t => t.Harmonious) s := by
  refine holds_applyRuntimeSideEffects
    (P := fun t => t.Harmonious ∧ StartsApart decision t.manager.keptActions) ⟨hs, hstart⟩
    (fun _ _ _ ht => holds_transitionRuntimePhase (fun _ => ht) fun _ _ => ht) (fun _ _ ht => ht.1)
    ?_ ?_
  · intro t e u ht hu message
    exact hu.harmony ht.1 ht.2
  · intro t outcome u ht hu
    have hu' : Harmony u.keptActions u.current := hu.harmony ht.1 ht.2
    have houtcome : ∀ v : RuntimeState, v.Harmonious →
        Holds (transitionForOutcome outcome.event) (fun _ => True)
          (fun _ t => t.Harmonious) v := by
      intro v hv
      rw [transitionForOutcome, holds_bind, holds_gets]
      exact holds_transition_harmonious hv
    rw [holds_bind]
    exact holds_persistCandidateMemory (houtcome _ hu') fun _ => houtcome _ hu'

theorem holds_rollbackLive_harmonious {answers : RevertAnswers} (hs : s.Harmonious) :
    Holds (rollbackLiveExperiment config answers reason) (fun _ => True)
      (fun _ t => t.Harmonious) s :=
  holds_rollbackLiveExperiment
    (fun _ _ _ => holds_effects_harmonious hs (.of_not_start rfl _)) hs

/-- A release takes kept actions away and leaves the experiment. -/
theorem holds_release_harmonious {answers : SideEffectAnswers} (hs : s.Harmonious) :
    Holds (releaseRuntimeKeptActions config answers) (fun _ => True)
      (fun _ t => t.Harmonious) s := by
  refine holds_releaseRuntimeKeptActions ?_ hs
  intro t ht
  refine ⟨hs.kept.sublist ht.kept, ?_⟩
  intro experiment hcurrent entry hentry
  have hbefore : s.manager.current = some experiment := ht.current ▸ hcurrent
  exact hs.live experiment hbefore entry (ht.kept.subset hentry)

variable {answers : EvaluationAnswers}

/-- What the planner selects conflicts with no kept action. -/
theorem Selectable.apart {candidate : CandidateAction} (h : Selectable config answers s candidate) :
    s.manager.keptActions.conflictingAction candidate = none := by
  rcases h with hsimulated | ⟨proposal, -, rfl, heligible⟩
  · refine KeptActionSet.conflictingAction_eq_none.mpr fun entry _ => ?_
    exact CandidateAction.fake_conflictsWith (config.simulated candidate hsimulated) _
  · unfold proposalEligible at heligible
    simp only [Bool.and_eq_true, Option.isNone_iff_eq_none] at heligible
    exact heligible.2

theorem holds_choose_harmonious (hs : s.Harmonious) :
    Holds (chooseDecision config answers) (fun _ => True) (fun r t => t.Harmonious ∧
      ∀ decision, r = .ok decision → StartsApart decision t.manager.keptActions) s := by
  refine holds_chooseDecision
    (D := fun decision t => StartsApart decision t.manager.keptActions)
    (fun _ _ _ ht => holds_transition_harmonious ht) (fun _ _ ht => .idle ht.kept) ?_ ?_ ?_ hs
  · intro _ t _
    exact ⟨KeptActionSet.compatible_empty, fun _ _ _ h => absurd h List.not_mem_nil⟩
  · exact fun t decision _ hnot _ => .of_not_start hnot _
  · rintro t candidate reason _ _ _ hselected _ _ ⟨⟩
    exact hselected.apart

theorem holds_evaluate_harmonious (hs : s.Harmonious) :
    Holds (evaluateAndEmit config answers) (fun _ => True) (fun _ t => t.Harmonious) s := by
  refine holds_evaluateAndEmit (M := RuntimeState.Harmonious)
    (D := fun decision t => t.Harmonious ∧ StartsApart decision t.manager.keptActions) ?_
    (fun _ ht => ht) (fun _ ht => holds_release_harmonious ht) ?_
    fun _ _ ht => holds_effects_harmonious ht.1 ht.2
  · refine (holds_prepareForEvaluation (fun _ _ _ ht => holds_transition_harmonious ht) hs).mono
      (fun _ h => h) ?_
    rintro (_ | _) t ht
    · exact ht
    · exact ht
  · intro t ht
    refine (holds_choose_harmonious ht).mono (fun _ h => h) ?_
    rintro (_ | decision) u hu
    · exact hu.1
    · exact ⟨hu.1, hu.2 decision rfl⟩

theorem holds_call_harmonious {call : RuntimeCall} (hs : s.Harmonious) :
    Holds (call.perform config) (fun _ => True) (fun _ t => t.Harmonious) s :=
  holds_call (fun _ _ ht => holds_evaluate_harmonious ht)
    (fun _ _ _ ht => holds_rollbackLive_harmonious ht) (fun _ _ ht => holds_release_harmonious ht)
    (fun _ _ _ _ ht => holds_handleLifecycleEvent
      (holds_prepareForEvaluation (fun _ _ _ ht => holds_transition_harmonious ht) ht)
      (fun _ _ ht => holds_rollbackLive_harmonious ht) (fun _ _ ht => ht) ht) hs

end Calls

/-! ## Whole runs -/

theorem harmonious_starting (config : AutotuneRuntimeConfig) (w : World)
    (observation : AutotuneObservation) (file : StoreFile CandidateMemory) :
    (RuntimeState.starting config w observation file).Harmonious :=
  .idle KeptActionSet.compatible_empty

/-- **Kept and live actions never conflict.**  In every state a run of the runtime reaches, the kept
actions stand one to a group under their own groups and do not conflict, the experiment in flight
conflicts with none of them, and whatever an evaluation would decide to start from there conflicts
with none of them either.  A record that is refused leaves the set, and the history, as they
were. -/
theorem runtimeRun_kept_compatible (config : AutotuneRuntimeConfig) (w : World)
    (observation : AutotuneObservation) (file : StoreFile CandidateMemory) (s : RuntimeState)
    (hrun : Reached (RuntimeCall.perform config) (fun _ _ => True)
      (.starting config w observation file) s) :
    s.manager.keptActions.Compatible ∧
    (∀ experiment, s.manager.current = some experiment →
      ∀ entry ∈ s.manager.keptActions.actions,
        experiment.candidate.conflictsWith entry.2.candidate = false) ∧
    (∀ answers candidate reason,
      ((chooseDecision config answers).run s).result = .ok (.startExperiment candidate reason) →
      ∀ entry ∈ ((chooseDecision config answers).run s).state.manager.keptActions.actions,
        candidate.conflictsWith entry.2.candidate = false) ∧
    ∀ (profile : ActiveProfileState) kept result e,
      ((recordKeptCandidate kept result).run profile).result = .error e →
      ((recordKeptCandidate kept result).run profile).state = profile := by
  have hs : s.Harmonious :=
    hrun.invariant (harmonious_starting config w observation file) fun _ _ _ ht =>
      holds_call_harmonious ht
  refine ⟨hs.kept, hs.live, ?_, ?_⟩
  · intro answers candidate reason hresult
    have hchosen := (@holds_choose_harmonious config s answers hs).2.2 _ hresult
    exact KeptActionSet.conflictingAction_eq_none.mp (hchosen candidate reason rfl)
  · intro profile kept result e hresult
    have hends := (recordKeptCandidate_ends profile kept result).2
    rw [hresult] at hends
    exact hends.1

/-- An interval of the sample session that finds this candidate. -/
def findingInterval (now : Nat) (candidate : CandidateAction) : RuntimeCall :=
  .event (.interval none
    { sampleEvaluation now [] with proposals := [⟨candidate, .finite 1, false⟩] })

def sampleRenice : CandidateAction :=
  ⟨.nice, "nice", "nice", .reversibleLowRisk, .nice, .stutterScore, some 42, "-1"⟩

def sampleIoPrio : CandidateAction :=
  ⟨.ioPrio, "io-prio", "io-prio", .reversibleLowRisk, .ioPrio, .stutterScore, some 42, "idle"⟩

/-- The sample session keeps its profile and, a cooldown later each, keeps a renice and starts on an
I/O priority. -/
def sampleKeeping : RuntimeState :=
  [findingInterval 1 sampleCandidate, findingInterval 2 sampleCandidate,
    findingInterval 100000000000 sampleRenice, findingInterval 100000000001 sampleRenice,
    findingInterval 200000000000 sampleIoPrio].foldl
    (fun s call => ((call.perform sampleConfig).run s).state) sampleRuntime

theorem runtimeRun_kept_compatible_sample :
    sampleKeeping.manager.keptActions.actions.map (·.1) = [.cpuPlacement, .cpuPriority] ∧
      sampleKeeping.manager.current.map (·.candidate) = some sampleIoPrio ∧
      sampleKeeping.manager.keptActions.Compatible ∧
      ∀ experiment, sampleKeeping.manager.current = some experiment →
        ∀ entry ∈ sampleKeeping.manager.keptActions.actions,
          experiment.candidate.conflictsWith entry.2.candidate = false := by
  have hcompatible :=
    runtimeRun_kept_compatible sampleConfig .fresh (sampleObservation 0 0) .missing
    sampleKeeping (.step _ (.step _ (.step _ (.step _ (.step _ .start trivial) trivial) trivial)
      trivial) trivial)
  exact ⟨by decide +kernel, by decide +kernel, hcompatible.1, hcompatible.2.1⟩

end Stutter

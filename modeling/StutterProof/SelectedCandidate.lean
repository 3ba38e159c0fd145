import Mathlib.Algebra.Order.Field.Basic
import Mathlib.Algebra.Order.Ring.Rat
import Mathlib.Data.List.Destutter
import Mathlib.Tactic.GCongr
import Mathlib.Tactic.Linarith
import StutterProof.PlannerSelection

/-! # The selected candidate

A proposal is eligible exactly if it passes every gate (`evaluateProposal_eligible`), and the
selected one is the first of the least among those, in the order of rank, confidence and name.  So
its place in that order does not depend on the order of the proposals; the candidate does only where
two eligible proposals agree in all three. -/
namespace Stutter.Planner

/-! ## The order of confidences -/

namespace Binary32

/-- More bits, a greater number: a carry out of the fraction doubles the unit. -/
theorem units_le_units {x y : Binary32} (h : x.magnitude ≤ y.magnitude) : x.units ≤ y.units := by
  have hle : x.magnitude.val ≤ y.magnitude.val := h
  have hexp : x.exponent ≤ y.exponent := Nat.div_le_div_right hle
  have hx : 2 ^ 23 * x.exponent + x.fraction = x.magnitude.val := Nat.div_add_mod _ _
  have hy : 2 ^ 23 * y.exponent + y.fraction = y.magnitude.val := Nat.div_add_mod _ _
  have hfraction : x.fraction < 2 ^ 23 := Nat.mod_lt _ (by norm_num)
  unfold units
  rcases hexp.eq_or_lt with heq | hlt
  · have hle : x.fraction ≤ y.fraction := by omega
    rw [heq]
    split
    · exact hle
    · gcongr
  · -- one step of the exponent is more than any fraction
    have hy0 : y.exponent ≠ 0 := by omega
    rw [if_neg hy0]
    by_cases hx0 : x.exponent = 0
    · rw [if_pos hx0]
      calc x.fraction ≤ (2 ^ 23 + y.fraction) * 1 := by omega
        _ ≤ (2 ^ 23 + y.fraction) * 2 ^ (y.exponent - 1) := by
          gcongr
          exact Nat.one_le_two_pow
    · rw [if_neg hx0]
      calc (2 ^ 23 + x.fraction) * 2 ^ (x.exponent - 1) ≤ 2 ^ 23 * 2 * 2 ^ (x.exponent - 1) := by
            gcongr
            omega
        _ = 2 ^ 23 * 2 ^ (x.exponent - 1 + 1) := by rw [pow_succ' 2 (x.exponent - 1), mul_assoc]
        _ ≤ (2 ^ 23 + y.fraction) * 2 ^ (y.exponent - 1) := by
            gcongr
            · omega
            · norm_num
            · omega

theorem value_of_finite {x : Binary32} (h : x.isFinite = true) :
    x.value = .finite (if x.negative then -(x.units / 2 ^ 149 : Rat) else x.units / 2 ^ 149) :=
  if_neg (of_decide_eq_true h)

/-- The order of `total_cmp` is the order of the numbers. -/
theorem value_ge_of_totalKey_le {x y : Binary32} (hx : x.isFinite = true) (hy : y.isFinite = true)
    (h : x.totalKey ≤ y.totalKey) : y.value.ge x.value = true := by
  have hscale : ∀ {m n : Nat}, m ≤ n → (m / 2 ^ 149 : Rat) ≤ n / 2 ^ 149 := by
    intro m n hle
    gcongr
  rw [value_of_finite hx, value_of_finite hy]
  apply decide_eq_true
  have hx0 : (0 : Rat) ≤ x.units / 2 ^ 149 := by positivity
  have hy0 : (0 : Rat) ≤ y.units / 2 ^ 149 := by positivity
  unfold totalKey at h
  rcases hxs : x.negative with _ | _ <;> rcases hys : y.negative with _ | _ <;>
    simp only [hxs, hys, if_true, if_false, Bool.false_eq_true] at h ⊢
  · exact hscale (units_le_units (Fin.le_def.mpr (by omega)))
  · omega
  · linarith
  · have hle := hscale (units_le_units (x := y) (y := x) (Fin.le_def.mpr (by omega)))
    linarith

end Binary32

/-! ## The gates -/

variable {input : PlannerInput} {proposal : CandidateProposal}

/-- The proposal passes every gate before the dry run. -/
structure PassesStatic (input : PlannerInput) (proposal : CandidateProposal) : Prop where
  active : input.activityIdle = true → input.observation.primarySituation = .idle
  snapshot : ∀ reason ∈ proposal.denyReasons, targetSnapshotMissing reason = false
  familyEnabled : actionFamilyEnabled input.daemonPolicy proposal.candidate.actionKind = true
  familyNotDenied : actionFamilyDenied input.daemonPolicy proposal.candidate.actionKind = false
  notHighRisk : proposal.candidate.isHighRiskSystemAdjacent = false
  policy : checkActionWithContext input.daemonPolicy (policyIntentForMode input.daemonPolicy.mode)
    proposal.descriptor input.policyContext = .ok ()
  focusConfidence : input.daemonPolicy.minConfidence.gt input.focusConfidence = false
  finiteConfidence : proposal.confidence.isFinite = true
  providerConfidence : (providerConfidenceThreshold input.daemonPolicy proposal.descriptor).gt
    proposal.confidence.value = false
  noRealtimeWarning : input.observation.focusHasCriticalRealtimeWarning = false
  workload : input.validatedByCampaign proposal.candidate = true ∨
    input.workloadRule.allowsCandidate proposal.candidate = true
  autonomousWorkload : input.daemonPolicy.mode.supportsApply = true →
    input.validatedByCampaign proposal.candidate = true ∨
      input.workloadRule.allowsAutonomousCandidate proposal.candidate = true
  autonomousGate : input.daemonPolicy.mode.supportsApply = true →
    autonomousApplyGate (gateInputFor input.daemonPolicy.source
      input.controllerState.validationOverride
      input.observation.primarySituation proposal.candidate) = .ok ()
  baseline : input.daemonPolicy.mode.supportsApply = true →
    input.baselineUnavailable proposal.candidate.objective = false
  objective : input.workloadRule.allowsObjective proposal.candidate.objective = true
  cooledDown : (input.memoryContext proposal.candidate).workloadIdentity = none →
    input.controllerState.candidateMemory.base.cooldownRemainingForAction
      proposal.candidate.actionId
      input.observation.nowUnixNanos = none
  cooledDownForWorkload : cooldownRemainingForWorkloadAction input.controllerState.candidateMemory
    proposal.candidate (input.memoryContext proposal.candidate) input.observation.nowUnixNanos =
      none
  apartFromActive : ∀ active, input.controllerState.activeExperiment = some active →
    proposal.candidate.conflictsWith active.candidate = false
  apartFromKept : ∀ kept ∈ input.keptActions,
    proposal.candidate.conflictsWith kept.candidate = false
  cgroupTarget : input.cgroupTargetAllowed proposal.candidate = true
  resources : input.resourcesAllowed proposal.candidate = true
  operation : proposal.candidate.effectScope.isSystemWideResource = true →
    input.daemonPolicy.systemWideAllowlist.allowsOperation proposal.candidate.operationKind.asStr =
      true
  changes : input.observation.activeConfigSnapshot.isSome = true →
    ∃ expected actual, input.matchesActiveConfig proposal.candidate = .differs expected actual
  keptInEffect : input.observation.activeConfigSnapshot.isSome = true →
    ∀ kept ∈ input.keptActions, ∃ summary,
      input.matchesActiveConfig kept.candidate = .matches summary

theorem observationDenials_eq_nil : observationDenials input proposal = [] ↔
    (input.activityIdle = true → input.observation.primarySituation = .idle) ∧
      (∀ reason ∈ proposal.denyReasons, targetSnapshotMissing reason = false) ∧
      actionFamilyEnabled input.daemonPolicy proposal.candidate.actionKind = true ∧
      actionFamilyDenied input.daemonPolicy proposal.candidate.actionKind = false ∧
      proposal.candidate.isHighRiskSystemAdjacent = false := by
  simp only [observationDenials, List.append_eq_nil_iff, denyWhen_eq_nil, and_assoc]
  refine and_congr ?_ (and_congr ?_ (and_congr ?_ Iff.rfl))
  · simp
  · simp
  · exact (Bool.not_eq_false' _).to_iff

theorem policyDenials_eq_nil : policyDenials input proposal = [] ↔
    checkActionWithContext input.daemonPolicy (policyIntentForMode input.daemonPolicy.mode)
        proposal.descriptor input.policyContext = .ok () ∧
      input.daemonPolicy.minConfidence.gt input.focusConfidence = false ∧
      (proposal.confidence.isFinite = true ∧
        (providerConfidenceThreshold input.daemonPolicy proposal.descriptor).gt
          proposal.confidence.value = false) ∧
      input.observation.focusHasCriticalRealtimeWarning = false := by
  simp only [policyDenials, List.append_eq_nil_iff, denyWhen_eq_nil, and_assoc]
  refine and_congr ?_ (and_congr Iff.rfl ?_)
  · rcases checkActionWithContext input.daemonPolicy _ proposal.descriptor
      input.policyContext with _ | _ <;>
      simp
  · simp [and_assoc]

theorem workloadDenials_eq_nil : workloadDenials input proposal = [] ↔
    (input.validatedByCampaign proposal.candidate = true ∨
        input.workloadRule.allowsCandidate proposal.candidate = true) ∧
      (input.daemonPolicy.mode.supportsApply = true →
        input.validatedByCampaign proposal.candidate = true ∨
        input.workloadRule.allowsAutonomousCandidate proposal.candidate = true) ∧
      (input.daemonPolicy.mode.supportsApply = true →
        autonomousApplyGate (gateInputFor input.daemonPolicy.source
            input.controllerState.validationOverride input.observation.primarySituation
            proposal.candidate) = .ok () ∧
          input.baselineUnavailable proposal.candidate.objective = false) ∧
      input.workloadRule.allowsObjective proposal.candidate.objective = true := by
  simp only [workloadDenials, List.append_eq_nil_iff, denyWhen_eq_nil, and_assoc]
  refine and_congr ?_ (and_congr ?_ (and_congr ?_ ?_))
  · rcases input.validatedByCampaign proposal.candidate with _ | _ <;> simp
  · rcases input.validatedByCampaign proposal.candidate with _ | _ <;> simp
  · by_cases hmode : input.daemonPolicy.mode.supportsApply = true
    · rw [if_pos hmode, List.append_eq_nil_iff, denyWhen_eq_nil]
      rcases autonomousApplyGate _ with _ | _ <;> simp [hmode]
    · simp [hmode]
  · exact (Bool.not_eq_false' _).to_iff

theorem conflictDenials_eq_nil : conflictDenials input proposal = [] ↔
    ((input.memoryContext proposal.candidate).workloadIdentity = none →
        input.controllerState.candidateMemory.base.cooldownRemainingForAction
          proposal.candidate.actionId input.observation.nowUnixNanos = none) ∧
      cooldownRemainingForWorkloadAction input.controllerState.candidateMemory proposal.candidate
          (input.memoryContext proposal.candidate) input.observation.nowUnixNanos = none ∧
      (∀ active, input.controllerState.activeExperiment = some active →
        proposal.candidate.conflictsWith active.candidate = false) ∧
      ∀ kept ∈ input.keptActions, proposal.candidate.conflictsWith kept.candidate = false := by
  simp only [conflictDenials, List.append_eq_nil_iff, denyWhen_eq_nil, and_assoc]
  refine and_congr ?_ (and_congr ?_ (and_congr ?_ ?_))
  · rcases (input.memoryContext proposal.candidate).workloadIdentity with _ | _ <;> simp
  · simp
  · rcases input.controllerState.activeExperiment with _ | _ <;> simp
  · unfold PlannerInput.keptActions
    rcases input.activeProfileState with _ | state
    · simp
    · -- a kept action that is found is one that conflicts
      show (state.keptActions.conflictingAction proposal.candidate).any _ = false ↔ _
      rcases hfound : state.keptActions.conflictingAction proposal.candidate with _ | kept
      · simpa using List.find?_eq_none.mp hfound
      · have hconflict := List.find?_some hfound
        have hmem := List.mem_of_find?_eq_some hfound
        constructor
        · intro hnone
          exact absurd hconflict (Bool.eq_false_iff.mp hnone)
        · intro hall
          exact hall kept hmem

theorem allowlistDenials_eq_nil : allowlistDenials input proposal = [] ↔
    input.cgroupTargetAllowed proposal.candidate = true ∧
      input.resourcesAllowed proposal.candidate = true ∧
      (proposal.candidate.effectScope.isSystemWideResource = true →
        input.daemonPolicy.systemWideAllowlist.allowsOperation
          proposal.candidate.operationKind.asStr =
          true) := by
  simp only [allowlistDenials, List.append_eq_nil_iff, denyWhen_eq_nil]
  refine and_congr (Bool.not_eq_false' _).to_iff ?_
  rcases input.resourcesAllowed proposal.candidate with _ | _
  · simp
  · rcases proposal.candidate.effectScope.isSystemWideResource with _ | _ <;> simp

theorem driftDenials_eq_nil {changed : CandidateDenyReason} {found : ActiveConfigMatch} :
    driftDenials changed found = [] ↔ ∃ summary, found = .matches summary := by
  rcases found with _ | _ | _ <;> simp [driftDenials]

/-- The drift of an active experiment is only asked for where it conflicts, which denies too. -/
theorem activeConfigDenials_eq_nil
    (happart : ∀ active, input.controllerState.activeExperiment = some active →
      proposal.candidate.conflictsWith active.candidate = false) :
    activeConfigDenials input proposal = [] ↔
      (input.observation.activeConfigSnapshot.isSome = true →
        ∃ expected actual, input.matchesActiveConfig proposal.candidate =
          .differs expected actual) ∧
      (input.observation.activeConfigSnapshot.isSome = true →
        ∀ kept ∈ input.keptActions,
          ∃ summary, input.matchesActiveConfig kept.candidate = .matches summary) := by
  unfold activeConfigDenials
  by_cases hsnapshot : input.observation.activeConfigSnapshot.isSome = true
  · simp only [hsnapshot, if_true, true_implies, List.append_eq_nil_iff, List.flatMap_eq_nil_iff,
      driftDenials_eq_nil, and_assoc]
    refine and_congr ?_ ?_
    · rcases input.matchesActiveConfig proposal.candidate with _ | _ | _ <;> simp
    · rcases hactive : input.controllerState.activeExperiment with _ | active
      · simp
      · simp [happart active hactive]
  · simp [hsnapshot]

theorem staticDenials_eq_nil : staticDenials input proposal = [] ↔ PassesStatic input proposal := by
  simp only [staticDenials, List.append_eq_nil_iff, observationDenials_eq_nil, policyDenials_eq_nil,
    workloadDenials_eq_nil, conflictDenials_eq_nil, allowlistDenials_eq_nil]
  constructor
  · rintro ⟨⟨⟨⟨⟨⟨hactive, hsnapshot, henabled, hdenied, hrisk⟩, hpolicy, hfocus,
      ⟨hfinite, hprovider⟩,
      hrealtime⟩, hworkload, hautonomous, hgate, hobjective⟩, hcooled, hcooledWorkload, happart,
      hkept⟩, hcgroup, hresources, hoperation⟩, hconfig⟩
    obtain ⟨hchanges, hinEffect⟩ := (activeConfigDenials_eq_nil happart).mp hconfig
    exact ⟨hactive, hsnapshot, henabled, hdenied, hrisk, hpolicy, hfocus, hfinite, hprovider,
      hrealtime,
      hworkload, hautonomous, fun hmode => (hgate hmode).1, fun hmode => (hgate hmode).2,
      hobjective,
      hcooled, hcooledWorkload, happart, hkept, hcgroup, hresources, hoperation, hchanges,
      hinEffect⟩
  · intro h
    exact ⟨⟨⟨⟨⟨⟨h.active, h.snapshot, h.familyEnabled, h.familyNotDenied, h.notHighRisk⟩, h.policy,
      h.focusConfidence, ⟨h.finiteConfidence, h.providerConfidence⟩, h.noRealtimeWarning⟩,
      h.workload, h.autonomousWorkload, fun hmode => ⟨h.autonomousGate hmode, h.baseline hmode⟩,
      h.objective⟩,
      h.cooledDown, h.cooledDownForWorkload, h.apartFromActive, h.apartFromKept⟩, h.cgroupTarget,
      h.resources, h.operation⟩, (activeConfigDenials_eq_nil h.apartFromActive).mpr
        ⟨h.changes, h.keptInEffect⟩⟩

theorem normalizeDenials_eq_nil {reasons : List CandidateDenyReason} :
    normalizeDenials reasons = [] ↔ reasons = [] := by
  rw [normalizeDenials, List.destutter_eq_nil]
  exact ⟨fun h => List.perm_nil.mp (h ▸ (List.perm_insertionSort _ reasons).symm),
    fun h => by rw [h]; rfl⟩

/-- The proposal passes every gate, and its dry run finds something to do within the policy's
risk. -/
structure Passes (input : PlannerInput) (proposal : CandidateProposal) : Prop
    extends PassesStatic input proposal where
  dryRun : (input.dryRun proposal.candidate).eligible = true
  safety : (input.dryRun proposal.candidate).safetyClass.rank ≤
    input.daemonPolicy.maxSafetyClass.rank

theorem dryRunDenials_eq_nil {record : CandidateDryRunRecord} : dryRunDenials input record = [] ↔
    record.eligible = true ∧ record.safetyClass.rank ≤ input.daemonPolicy.maxSafetyClass.rank := by
  simp only [dryRunDenials, List.append_eq_nil_iff, denyWhen_eq_nil]
  exact and_congr (Bool.not_eq_false' _).to_iff (by simp)

/-- **Eligibility.** -/
theorem evaluateProposal_eligible :
    (evaluateProposal input proposal).eligible = true ↔ Passes input proposal := by
  have hdraft : (evaluateProposalStatic input proposal).denyReasons = [] ↔
      PassesStatic input proposal :=
    normalizeDenials_eq_nil.trans staticDenials_eq_nil
  rw [evaluateProposal, dryRunCandidateIfStillEligible]
  simp only [List.isEmpty_iff, normalizeDenials_eq_nil, List.append_eq_nil_iff]
  constructor
  · rintro ⟨hstatic, hdry⟩
    rw [if_pos (.inl hstatic)] at hdry
    obtain ⟨heligible, hsafety⟩ := dryRunDenials_eq_nil.mp hdry
    exact ⟨hdraft.mp hstatic, heligible, hsafety⟩
  · intro h
    have hstatic := hdraft.mpr h.toPassesStatic
    refine ⟨hstatic, ?_⟩
    rw [if_pos (.inl hstatic)]
    exact dryRunDenials_eq_nil.mpr ⟨h.dryRun, h.safety⟩

/-! ## The selection -/

/-- The place of a proposal in the documented order. -/
def proposalOrder (input : PlannerInput) (proposal : CandidateProposal) : Nat ×ₗ Intᵒᵈ ×ₗ String :=
  (evaluateProposal input proposal).order

def isEligible (input : PlannerInput) (proposal : CandidateProposal) : Bool :=
  (evaluateProposal input proposal).eligible

/-- The planner looks at proposals at all. -/
def Plans (input : PlannerInput) : Prop :=
  input.daemonPolicy.mode ≠ .observe ∧ input.observation.focusIsIdleOrUnknown = false

open FirstLeast

theorem selected_eq_choose (hplans : Plans input) (proposals : List CandidateProposal) :
    (planWithDryRunner input proposals).selected =
      (choose (isEligible input) (proposalOrder input) proposals).map (·.candidate) := by
  have hidle : ¬input.observation.focusIsIdleOrUnknown = true := Bool.eq_false_iff.mp hplans.2
  rw [planWithDryRunner, if_neg hplans.1, if_neg hidle]
  show (choose (·.eligible) (·.order) (proposals.map (evaluateProposal input))).map
    (·.candidate) = _
  rw [choose_map, Option.map_map]
  rfl

theorem plans_of_selected {proposals : List CandidateProposal} {candidate : CandidateAction}
    (h : (planWithDryRunner input proposals).selected = some candidate) : Plans input := by
  unfold planWithDryRunner at h
  by_cases hmode : input.daemonPolicy.mode = .observe
  · rw [if_pos hmode] at h
    contradiction
  · rw [if_neg hmode] at h
    by_cases hidle : input.observation.focusIsIdleOrUnknown = true
    · rw [if_pos hidle] at h
      contradiction
    · exact ⟨hmode, Bool.eq_false_iff.mpr hidle⟩

/-- The proposal that is selected, and its place among the others. -/
structure Selects (input : PlannerInput) (proposals : List CandidateProposal)
    (chosen : CandidateProposal) : Prop where
  passes : Passes input chosen
  first : ∃ before after, proposals = before ++ chosen :: after ∧
    (∀ proposal ∈ before, Passes input proposal →
      proposalOrder input chosen < proposalOrder input proposal) ∧
    ∀ proposal ∈ after, Passes input proposal →
      proposalOrder input chosen ≤ proposalOrder input proposal

theorem selects_iff {proposals : List CandidateProposal} {chosen : CandidateProposal} :
    choose (isEligible input) (proposalOrder input) proposals = some chosen ↔
      Selects input proposals chosen := by
  have hpass : ∀ proposal, isEligible input proposal = true ↔ Passes input proposal :=
    fun proposal => evaluateProposal_eligible
  rw [choose_eq_some]
  constructor
  · rintro ⟨before, after, rfl, h⟩
    exact ⟨(hpass chosen).mp h.isGood, before, after, rfl,
      fun p hp hp' => h.before p hp ((hpass p).mpr hp'),
      fun p hp hp' => h.after p hp ((hpass p).mpr hp')⟩
  · rintro ⟨hchosen, before, after, rfl, hbefore, hafter⟩
    exact ⟨before, after, rfl, (hpass chosen).mpr hchosen,
      fun p hp hp' => hbefore p hp ((hpass p).mp hp'),
      fun p hp hp' => hafter p hp ((hpass p).mp hp')⟩

/-- Of two that pass with one rank, the one before has no less confidence. -/
theorem confidence_of_order_le {chosen : CandidateProposal} (hchosen : Passes input chosen)
    (hproposal : Passes input proposal)
    (hle : proposalOrder input chosen ≤ proposalOrder input proposal)
    (hrank : (evaluateProposal input proposal).rank = (evaluateProposal input chosen).rank) :
    chosen.confidence.value.ge proposal.confidence.value = true := by
  rcases Prod.Lex.toLex_le_toLex.mp hle with hlt | ⟨-, hrest⟩
  · rw [hrank] at hlt
    exact absurd hlt (lt_irrefl _)
  refine Binary32.value_ge_of_totalKey_le hproposal.finiteConfidence hchosen.finiteConfidence ?_
  rcases Prod.Lex.toLex_le_toLex.mp hrest with hlt | ⟨heq, -⟩
  · exact le_of_lt (OrderDual.toDual_lt_toDual.mp hlt)
  · exact le_of_eq (OrderDual.toDual_inj.mp heq).symm

/-- **Selection.**  The selected candidate passed every gate, is in conflict with neither the active
experiment nor a kept action, and is the first of the least eligible ones.  Another order of the
proposals selects one of the same rank, confidence and name, and the same candidate where no two
eligible proposals with different candidates agree in these. -/
theorem planWithDryRunner_selected (input : PlannerInput) (proposals : List CandidateProposal)
    (candidate : CandidateAction)
    (h : (planWithDryRunner input proposals).selected = some candidate) :
    ∃ chosen, chosen.candidate = candidate ∧ Selects input proposals chosen ∧
      (∀ proposal ∈ proposals, Passes input proposal →
        proposalOrder input chosen ≤ proposalOrder input proposal ∧
          ((evaluateProposal input proposal).rank = (evaluateProposal input chosen).rank →
            chosen.confidence.value.ge proposal.confidence.value = true)) ∧
      (∀ active, input.controllerState.activeExperiment = some active →
        candidate.conflictsWith active.candidate = false) ∧
      (∀ kept ∈ input.keptActions, candidate.conflictsWith kept.candidate = false) ∧
      ∀ others, proposals.Perm others → ∃ other, Selects input others other ∧
        (planWithDryRunner input others).selected = some other.candidate ∧
        proposalOrder input other = proposalOrder input chosen ∧
        ((∀ p ∈ proposals, ∀ q ∈ proposals, Passes input p → Passes input q →
          proposalOrder input p = proposalOrder input q → p.candidate = q.candidate) →
          other.candidate = candidate) := by
  have hplans := plans_of_selected h
  rw [selected_eq_choose hplans] at h
  obtain ⟨chosen, hchosen, rfl⟩ := Option.map_eq_some_iff.mp h
  have hselects := selects_iff.mp hchosen
  refine ⟨chosen, rfl, hselects, ?_, hselects.passes.apartFromActive, hselects.passes.apartFromKept,
    ?_⟩
  · intro proposal hmem hpasses
    have hle := le_of_choose hchosen hmem (evaluateProposal_eligible.mpr hpasses)
    exact ⟨hle, confidence_of_order_le hselects.passes hpasses hle⟩
  · intro others hperm
    have hkeys : (choose (isEligible input) (proposalOrder input) proposals).map _ = _ :=
      choose_key_perm hperm
    rcases hother : choose (isEligible input) (proposalOrder input) others with _ | other
    · rw [(choose_isNone_perm hperm).mpr hother] at hchosen
      contradiction
    rw [hchosen, hother] at hkeys
    have horder : proposalOrder input other = proposalOrder input chosen :=
      (Option.some.inj hkeys).symm
    refine ⟨other, selects_iff.mp hother, ?_, horder, ?_⟩
    · rw [selected_eq_choose hplans, hother]
      rfl
    · intro hties
      exact hties other (hperm.mem_iff.mpr (mem_of_choose hother)) chosen
        (mem_of_choose hchosen) (selects_iff.mp hother).passes hselects.passes horder

/-! ## Two of one name -/

/-- A candidate that was kept: processes beside the game run at a lower priority. -/
def keptRenice : KeptCandidateState where
  experimentId := "exp-1"
  candidate := ⟨.nice, "nice-offenders-99-to-5", "nice:5", .reversibleLowRisk, .nice,
    .gameRunnableLatency, some 42, "99"⟩
  baselineScore := ⟨0, 1, 1, 1, 1, 20⟩
  candidateScore := ⟨1, 2, 1, 1, 1, 10⟩
  rollback := sampleToken
  keptUnixNanos := 2
  reason := "improved"

/-- A game under scheduler pressure, in suggest mode; nothing is active or remembered. -/
def pressureInput : PlannerInput where
  observation :=
    { nowUnixNanos := 3
      elapsedMs := 0
      targetPresent := true
      targetRootPid := some 42
      activeTargetCount := 1
      scoredTaskCount := 1
      intervalCount := 1
      scoredSamples := 1
      scoreTotal := 1
      dataQuality := .high
      primarySituation := .gameCpuSchedulerPressure
      focusKind := some .game
      focusReasons := []
      activeConfigSnapshot := none
      memoryContext := fun name => ⟨name, name⟩ }
  activityIdle := false
  focusConfidence := .finite 1
  hasWorkloadIdentity := true
  dataQualityReasonCode := none
  daemonPolicy := buildDaemonPolicy (configForConstructor .suggest .autotuneRuntime false) none
  capabilities := ⟨true, true, true, true, true, true, true⟩
  healthOkForApply := true
  healthReasonCode := none
  controllerState := ⟨none, none, .empty, none⟩
  activeProfileState := some ⟨⟨[(.cpuPriority, keptRenice)]⟩, []⟩
  workloadPolicy := ⟨[
    ⟨.gameCpuSchedulerPressure, ["cpu_affinity_profile", "nice", "uclamp"], [], []⟩],
    fun situation => ⟨situation, [], [], []⟩⟩
  memoryContext := fun candidate =>
    ⟨some "game", some 42, none, none, none, none, none, candidate.candidateName,
      .gameCpuSchedulerPressure, []⟩
  baselineUnavailable := fun _ => false
  cgroupTargetAllowed := fun _ => true
  resourcesAllowed := fun _ => true
  matchesActiveConfig := fun _ => .unknown ""
  dryRun := fun candidate => ⟨1, candidate.safetyClass, true⟩

/-- A proposal of a profile with these rules, with confidence one. -/
def profileProposal (rules : String) : CandidateProposal where
  provider := "cpu_affinity_profile"
  candidate := ⟨.cpuAffinityProfile, "game-main", "cpu-affinity-profile:game-main",
    .reversibleLowRisk, .cpuAffinityProfile, .gameRunnableLatency, some 42, rules⟩
  confidence := ⟨false, 0x3F800000⟩
  rankHint := 10
  denyReasons := []

/-- It is in conflict with the kept renice. -/
def uclampProposal : CandidateProposal where
  provider := "uclamp"
  candidate := ⟨.uclamp, "uclamp-root-42-min-128", "uclamp:min=128", .reversibleLowRisk, .uclamp,
    .gameRunnableLatency, some 42, "42"⟩
  confidence := ⟨false, 0x3F800000⟩
  rankHint := 25
  denyReasons := []

theorem profileProposal_passes :
    Passes pressureInput (profileProposal "render 0-3") ∧
      Passes pressureInput (profileProposal "render 4-7") :=
  ⟨evaluateProposal_eligible.mp (by decide +kernel),
    evaluateProposal_eligible.mp (by decide +kernel)⟩

theorem uclampProposal_denied : ¬Passes pressureInput uclampProposal := by
  rw [← evaluateProposal_eligible]
  decide +kernel

theorem profileProposal_selected (first second : CandidateProposal)
    (hfirst : Passes pressureInput first)
    (horder : proposalOrder pressureInput first = proposalOrder pressureInput second) :
    (planWithDryRunner pressureInput [uclampProposal, first, second]).selected =
      some first.candidate := by
  have hselects : Selects pressureInput [uclampProposal, first, second] first := by
    refine ⟨hfirst, [uclampProposal], [second], rfl, ?_, ?_⟩
    · intro proposal hmem hpasses
      obtain rfl := List.mem_singleton.mp hmem
      exact absurd hpasses uclampProposal_denied
    · intro proposal hmem _
      obtain rfl := List.mem_singleton.mp hmem
      exact le_of_eq horder
  rw [selected_eq_choose ⟨by decide, by decide⟩, selects_iff.mpr hselects]
  rfl

/-- Nothing is remembered, so two profiles of one name are told apart in nothing that the order
reads. -/
theorem profileProposal_order (rules other : String) :
    proposalOrder pressureInput (profileProposal rules) =
      proposalOrder pressureInput (profileProposal other) := by
  have hhint : ∀ text, workloadRankHint .empty (profileProposal text).candidate
      (pressureInput.memoryContext (profileProposal text).candidate) = none := fun _ => rfl
  have horder : ∀ text, proposalOrder pressureInput (profileProposal text) =
      toLex (rankWithWorkloadMemory 10 none,
        toLex (OrderDual.toDual (⟨false, 0x3F800000⟩ : Binary32).totalKey, "game-main")) := by
    intro text
    rw [← hhint text]
    rfl
  rw [horder, horder]

/-- Of two profiles of one name the one that was generated first is selected. -/
theorem planWithDryRunner_generation :
    (planWithDryRunner pressureInput
        [uclampProposal, profileProposal "render 0-3", profileProposal "render 4-7"]).selected =
        some (profileProposal "render 0-3").candidate ∧
      (planWithDryRunner pressureInput
        [uclampProposal, profileProposal "render 4-7", profileProposal "render 0-3"]).selected =
        some (profileProposal "render 4-7").candidate ∧
      (profileProposal "render 0-3").candidate ≠ (profileProposal "render 4-7").candidate :=
  ⟨profileProposal_selected _ _ profileProposal_passes.1 (profileProposal_order _ _),
    profileProposal_selected _ _ profileProposal_passes.2 (profileProposal_order _ _), by decide⟩

/-- The one that is denied for the kept renice stands before them. -/
theorem planWithDryRunner_selected_profile :
    (planWithDryRunner pressureInput
        [uclampProposal, profileProposal "render 0-3", profileProposal "render 4-7"]).selected =
        some (profileProposal "render 0-3").candidate ∧
      (profileProposal "render 0-3").candidate.conflictsWith keptRenice.candidate = false ∧
      ∃ chosen, chosen.candidate = (profileProposal "render 0-3").candidate ∧
        Selects pressureInput [uclampProposal, profileProposal "render 0-3",
          profileProposal "render 4-7"]
          chosen := by
  have hselected :=
    profileProposal_selected (profileProposal "render 0-3") (profileProposal "render 4-7")
    profileProposal_passes.1 (profileProposal_order _ _)
  obtain ⟨chosen, hcandidate, hselects, _, _, hkept, _⟩ :=
    planWithDryRunner_selected pressureInput _ _ hselected
  exact ⟨hselected, hkept keptRenice List.mem_cons_self, chosen, hcandidate, hselects⟩

end Stutter.Planner

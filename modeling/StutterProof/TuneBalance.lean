import StutterProof.TuneOrder

/-! # The recorded orders are counterbalanced

The alternating order against the check that the recommendation makes of it.  The check reads the
names that come first in the recorded orders; since every block of iterations brings every profile
to the first place once, no two of these names are more than one run apart, wherever the recording
ends. -/
namespace Stutter.Tune

/-! ## The recorded names -/

theorem mapM_eq_some_map {α β : Type} {f : α → Option β} {g : α → β} {items : List α}
    (h : ∀ a ∈ items, f a = some (g a)) : items.mapM f = some (items.map g) := by
  induction items with
  | nil => rfl
  | cons a rest ih =>
    rw [List.mapM_cons, h a List.mem_cons_self, ih fun b hb => h b (List.mem_cons_of_mem a hb)]
    rfl

/-- The names of the profiles in the order of an iteration. -/
def namesAt (profiles : List String) (strategy : TuneOrderStrategy) (iteration : Nat) :
    List String :=
  (candidateOrderForIterationWithStrategy profiles.length iteration strategy).map fun profileIdx =>
    profiles.getD profileIdx ""

theorem tuneCandidateOrder_eq (profiles : List String) (runs : Nat) (strategy : TuneOrderStrategy) :
    tuneCandidateOrder profiles runs strategy =
      some ((iterations runs).map fun iteration =>
        ⟨iteration, namesAt profiles strategy iteration⟩) := by
  refine mapM_eq_some_map fun iteration _ => ?_
  have hperm := candidateOrderForIterationWithStrategy_perm profiles.length iteration strategy
  have hnames : (candidateOrderForIterationWithStrategy profiles.length iteration strategy).mapM
      (fun profileIdx => profiles[profileIdx]?) = some (namesAt profiles strategy iteration) := by
    refine mapM_eq_some_map fun profileIdx hmem => ?_
    -- the order only has places of profiles
    have hlt : profileIdx < profiles.length := List.mem_range.mp (hperm.mem_iff.mp hmem)
    rw [List.getD_eq_getElem?_getD, List.getElem?_eq_getElem hlt]
    rfl
  simp only [hnames, Option.bind_eq_bind, Option.bind_some]

theorem namesAt_perm (profiles : List String) (strategy : TuneOrderStrategy) (iteration : Nat) :
    (namesAt profiles strategy iteration).Perm profiles := by
  have hperm := candidateOrderForIterationWithStrategy_perm profiles.length iteration strategy
  have hrange : (List.range profiles.length).map (fun profileIdx => profiles.getD profileIdx "") =
      profiles := by
    refine List.ext_getElem (by simp) fun i _ hi => ?_
    simp [hi]
  exact (hperm.map _).trans (.of_eq hrange)

theorem namesAt_head? {profiles : List String} (hnodup : profiles.Nodup) (iteration : Nat) {i : Nat}
    (hi : i < profiles.length) :
    (namesAt profiles .alternating iteration).head? = some profiles[i] ↔
      (candidateOrderForIteration profiles.length iteration)[0]? = some i := by
  have hperm := candidateOrderForIteration_perm profiles.length iteration
  rw [List.head?_eq_getElem?, namesAt, List.getElem?_map, candidateOrderForIterationWithStrategy]
  rcases hfirst : (candidateOrderForIteration profiles.length iteration)[0]? with _ | j
  · simp
  · have hj : j < profiles.length :=
      List.mem_range.mp (hperm.mem_iff.mp (List.mem_of_getElem? hfirst))
    simp [hj, hnodup.getElem_inj_iff]

/-- The names that come first, as the check reads them off the recorded orders. -/
def firstNames (orders : List TuneIterationOrder) : List String :=
  (orders.map (·.profiles)).filterMap List.head?

section Alternating
variable {profiles : List String} {runs : Nat} {orders : List TuneIterationOrder}

theorem count_firstNames (hnodup : profiles.Nodup)
    (horders : tuneCandidateOrder profiles runs .alternating = some orders) {i : Nat}
    (hi : i < profiles.length) :
    (firstNames orders).count profiles[i] = Nat.count (Occupies profiles.length i 0) runs := by
  obtain rfl :=
    Option.some.inj ((tuneCandidateOrder_eq profiles runs .alternating).symm.trans horders)
  have hfirst : firstNames ((iterations runs).map fun iteration =>
      ⟨iteration, namesAt profiles .alternating iteration⟩) =
      (iterations runs).filterMap fun iteration =>
        (namesAt profiles .alternating iteration).head? := by
    simp [firstNames, List.filterMap_map, Function.comp_def]
  rw [hfirst, List.count_filterMap, ← countP_iterations]
  refine List.countP_congr fun iteration _ => ?_
  rw [beq_iff_eq, decide_eq_true_eq]
  exact namesAt_head? hnodup iteration hi

/-- Every profile is first in the whole blocks, and at most once more. -/
theorem count_firstNames_between (hnodup : profiles.Nodup)
    (horders : tuneCandidateOrder profiles runs .alternating = some orders) {name : String}
    (hname : name ∈ profiles) :
    runs / profiles.length ≤ (firstNames orders).count name ∧
      (firstNames orders).count name ≤ runs / profiles.length + 1 := by
  obtain ⟨i, hi, rfl⟩ := List.getElem_of_mem hname
  have hn : 0 < profiles.length := Nat.zero_lt_of_lt hi
  have hbetween := BlockCount.count_between hn (occupies_block hi hn) runs
  rw [count_firstNames hnodup horders hi]
  simpa using hbetween

theorem count_firstNames_of_not_mem
    (horders : tuneCandidateOrder profiles runs .alternating = some orders) {name : String}
    (hname : name ∉ profiles) : (firstNames orders).count name = 0 := by
  obtain rfl :=
    Option.some.inj ((tuneCandidateOrder_eq profiles runs .alternating).symm.trans horders)
  refine List.count_eq_zero.mpr fun hmem => hname ?_
  obtain ⟨names, hnames, hhead⟩ := List.mem_filterMap.mp hmem
  obtain ⟨order, horder, rfl⟩ := List.mem_map.mp hnames
  obtain ⟨iteration, _, rfl⟩ := List.mem_map.mp horder
  exact (namesAt_perm profiles .alternating iteration).mem_iff.mp (List.mem_of_head? hhead)

end Alternating

/-! ## The check -/

/-- How often each name comes first, the most frequent before the others. -/
def firstCounts (firsts : List String) : List Nat :=
  ((firsts.dedup.insertionSort fun a b => ¬ b < a).map fun name => firsts.count name).insertionSort
    (· ≥ ·)

theorem firstCounts_perm (firsts : List String) :
    (firstCounts firsts).Perm (firsts.dedup.map fun name => firsts.count name) :=
  (List.perm_insertionSort _ _).trans ((List.perm_insertionSort _ _).map _)

/-- Two names that are both often first, and none that is more than one run above. -/
theorem firstCounts_margin {firsts : List String} {c : Nat}
    (hmax : ∀ name, firsts.count name ≤ c + 1)
    (htwo : c = 0 ∨ ∃ a b, a ≠ b ∧ c ≤ firsts.count a ∧ c ≤ firsts.count b) :
    (firstCounts firsts).getD 0 0 < (firstCounts firsts).getD 1 0 + 2 := by
  have hperm := firstCounts_perm firsts
  have hsorted : (firstCounts firsts).Pairwise (· ≥ ·) := List.pairwise_insertionSort _ _
  have hle : ∀ count ∈ firstCounts firsts, count ≤ c + 1 := fun count hcount => by
    obtain ⟨name, _, rfl⟩ := List.mem_map.mp (hperm.mem_iff.mp hcount)
    exact hmax name
  have hmany : c = 0 ∨ 2 ≤ (firstCounts firsts).countP (c ≤ ·) := by
    rcases Nat.eq_zero_or_pos c with hzero | hpos
    · exact .inl hzero
    · obtain ⟨a, b, hab, ha, hb⟩ := htwo.resolve_left hpos.ne'
      have hmem : ∀ name, c ≤ firsts.count name → name ∈ firsts.dedup := fun name hcount =>
        List.mem_dedup.mpr (List.count_pos_iff.mp (hpos.trans_le hcount))
      have hsub : [a, b].Subperm firsts.dedup := by
        refine List.subperm_of_subset (by simp [hab]) fun name hname => ?_
        rcases List.mem_pair.mp hname with rfl | rfl
        · exact hmem _ ha
        · exact hmem _ hb
      right
      rw [hperm.countP_eq, List.countP_map]
      calc 2 = [a, b].countP _ := by simp [ha, hb]
        _ ≤ firsts.dedup.countP _ := hsub.countP_le _
  match hcounts : firstCounts firsts with
  | [] => simp
  | [x] =>
    rw [hcounts] at hle hmany
    have hx := hle x List.mem_cons_self
    have hlen : [x].countP (fun count => decide (c ≤ count)) ≤ 1 := List.countP_le_length
    simp only [List.getD_cons_zero, List.getD_cons_succ, List.getD_nil]
    omega
  | x :: y :: rest =>
    rw [hcounts] at hle hmany hsorted
    have hx := hle x List.mem_cons_self
    simp only [List.getD_cons_zero, List.getD_cons_succ]
    rcases Nat.lt_or_ge y c with hy | hy
    · -- only the first count would reach `c`
      have hrest : (y :: rest).countP (fun count => decide (c ≤ count)) = 0 := by
        refine List.countP_eq_zero.mpr fun count hcount => ?_
        have hley : count ≤ y := by
          rcases List.mem_cons.mp hcount with rfl | hmem
          · exact le_refl _
          · exact List.rel_of_pairwise_cons (List.Pairwise.of_cons hsorted) hmem
        simpa using hley.trans_lt hy
      have hone : (x :: y :: rest).countP (fun count => decide (c ≤ count)) ≤ 1 := by
        rw [List.countP_cons, hrest]
        split <;> omega
      omega
    · omega

theorem hasCandidateOrderCounterbalanceWarning_eq_false {order : List (List String)}
    (hdiffer : order.length ≤ 1 ∨ ∃ a ∈ order, ∃ b ∈ order, a ≠ b)
    (hmargin : (firstCounts (order.filterMap List.head?)).getD 0 0 <
      (firstCounts (order.filterMap List.head?)).getD 1 0 + 2) :
    hasCandidateOrderCounterbalanceWarning (tuneCandidateOrderWarnings order) = false := by
  cases order with
  | nil => simp [tuneCandidateOrderWarnings, hasCandidateOrderCounterbalanceWarning,
      candidateOrderNotCounterbalancedKind]
  | cons first rest =>
    have hsame : ¬ (0 < rest.length ∧ rest.all (· = first) = true) := by
      rintro ⟨hlen, hall⟩
      rcases hdiffer with hle | ⟨a, ha, b, hb, hab⟩
      · rw [List.length_cons] at hle
        omega
      · have heq : ∀ names ∈ first :: rest, names = first := by
          simpa using hall
        exact hab ((heq a ha).trans (heq b hb).symm)
    have hbalanced : ¬ (0 < ((first :: rest).filterMap List.head?).length ∧
        (firstCounts ((first :: rest).filterMap List.head?)).getD 1 0 + 2 ≤
          (firstCounts ((first :: rest).filterMap List.head?)).getD 0 0) :=
      fun h => absurd h.2 (Nat.not_le.mpr hmargin)
    unfold tuneCandidateOrderWarnings
    dsimp only
    rw [if_neg hsame, if_neg]
    · rfl
    · exact hbalanced

section Recorded
variable {profiles : List String} {runs : Nat} {orders recorded : List TuneIterationOrder}

theorem recorded_differ (htwo : 2 ≤ profiles.length) (hnodup : profiles.Nodup)
    (horders : tuneCandidateOrder profiles runs .alternating = some orders)
    (hruns : 2 ≤ runs) : ∃ a ∈ orders, ∃ b ∈ orders, a.profiles ≠ b.profiles := by
  obtain rfl :=
    Option.some.inj ((tuneCandidateOrder_eq profiles runs .alternating).symm.trans horders)
  have hmem : ∀ iteration, 1 ≤ iteration → iteration ≤ 2 → iteration ∈ iterations runs :=
    fun iteration hlow hhigh => List.mem_range'_1.mpr ⟨hlow, by omega⟩
  -- the first two iterations start with the first two profiles
  have hfirst : ∀ z, z < 2 → ∃ hz : z < profiles.length,
      (namesAt profiles .alternating (z + 1)).head? = some profiles[z] := fun z hz => by
    have hlt : z < profiles.length := hz.trans_le htwo
    refine ⟨hlt, (namesAt_head? hnodup (z + 1) hlt).mpr ?_⟩
    rw [candidateOrderForIteration_getElem? z (Nat.zero_lt_of_lt hlt), Nat.div_eq_of_lt hlt,
      Nat.zero_add, Nat.mod_eq_of_lt hlt, if_neg (by omega)]
  obtain ⟨hzero, hheadZero⟩ := hfirst 0 (by decide)
  obtain ⟨hone, hheadOne⟩ := hfirst 1 (by decide)
  refine ⟨_, List.mem_map_of_mem (hmem 1 le_rfl (by decide)), _,
    List.mem_map_of_mem (hmem 2 (by decide) le_rfl), fun heq => ?_⟩
  rw [show (1 : Nat) = 0 + 1 from rfl, show (2 : Nat) = 1 + 1 from rfl] at heq
  have hsame : profiles[0] = profiles[1] := by
    rw [← Option.some_inj, ← hheadZero, ← hheadOne]
    exact congrArg List.head? heq
  exact absurd (hnodup.getElem_inj_iff.mp hsame) (by decide)

/-- The orders of a run, in whatever sequence they were recorded. -/
theorem recorded_balanced (htwo : 2 ≤ profiles.length) (hnodup : profiles.Nodup)
    (horders : tuneCandidateOrder profiles runs .alternating = some orders)
    (hperm : recorded.Perm orders) :
    hasCandidateOrderCounterbalanceWarning
      (tuneCandidateOrderWarnings (recorded.map (·.profiles))) =
      false := by
  have hcount (name : String) : (firstNames recorded).count name = (firstNames orders).count name :=
    ((hperm.map _).filterMap _).count_eq name
  apply hasCandidateOrderCounterbalanceWarning_eq_false
  · rcases Nat.lt_or_ge runs 2 with hfew | hmany
    · left
      rw [List.length_map, hperm.length_eq,
        ← Option.some.inj ((tuneCandidateOrder_eq profiles runs .alternating).symm.trans horders)]
      simpa [iterations] using Nat.le_of_lt_succ hfew
    · obtain ⟨a, ha, b, hb, hab⟩ := recorded_differ htwo hnodup horders hmany
      exact .inr ⟨a.profiles, List.mem_map_of_mem (hperm.mem_iff.mpr ha),
        b.profiles, List.mem_map_of_mem (hperm.mem_iff.mpr hb), hab⟩
  · refine firstCounts_margin (c := runs / profiles.length) (fun name => ?_) (.inr ?_)
    · show (firstNames recorded).count name ≤ _
      rw [hcount]
      by_cases hname : name ∈ profiles
      · exact (count_firstNames_between hnodup horders hname).2
      · rw [count_firstNames_of_not_mem horders hname]
        exact Nat.zero_le _
    · have hlow : ∀ i, (hi : i < profiles.length) →
          runs / profiles.length ≤ (firstNames recorded).count profiles[i] := fun i hi => by
        rw [hcount]
        exact (count_firstNames_between hnodup horders (List.getElem_mem hi)).1
      refine ⟨profiles[0], profiles[1], fun heq => ?_, hlow 0 (by omega), hlow 1 (by omega)⟩
      exact absurd (hnodup.getElem_inj_iff.mp heq) (by decide)

end Recorded

/-- Every order is a permutation of the profiles, for each strategy; the alternating order brings
every profile to every place equally often over pairs of blocks; and the orders of its runs pass the
check. -/
theorem tuneCandidateOrder_counterbalanced (profiles : List String) :
    (∀ strategy, (∀ iteration, (candidateOrderForIterationWithStrategy profiles.length iteration
        strategy).Perm (List.range profiles.length)) ∧
      ∀ runs, ∃ orders, tuneCandidateOrder profiles runs strategy = some orders ∧
        orders.map (·.iteration) = iterations runs ∧
        ∀ order ∈ orders, order.profiles.Perm profiles) ∧
    (∀ m, ∀ profile < profiles.length, ∀ position < profiles.length,
      ((iterations (2 * profiles.length * m)).countP fun iteration =>
        (candidateOrderForIterationWithStrategy profiles.length iteration .alternating)[position]? =
          some profile) = 2 * m) ∧
    (2 ≤ profiles.length → profiles.Nodup → ∀ runs orders,
      tuneCandidateOrder profiles runs .alternating = some orders →
      ∀ recorded : List TuneIterationOrder, recorded.Perm orders →
        hasCandidateOrderCounterbalanceWarning
          (tuneCandidateOrderWarnings (recorded.map (·.profiles))) = false) := by
  refine ⟨fun strategy => ⟨fun iteration => ?_, fun runs => ?_⟩, ?_, ?_⟩
  · exact candidateOrderForIterationWithStrategy_perm _ iteration strategy
  · refine ⟨_, tuneCandidateOrder_eq profiles runs strategy, by simp [Function.comp_def], ?_⟩
    intro order hmem
    obtain ⟨iteration, _, rfl⟩ := List.mem_map.mp hmem
    exact namesAt_perm profiles strategy iteration
  · intro m profile hprofile position hposition
    calc _ = Nat.count (Occupies profiles.length profile position) (2 * profiles.length * m) :=
          countP_iterations profiles.length profile position _
      _ = Nat.count (Occupies profiles.length profile position) (2 * m * profiles.length) := by
          rw [Nat.mul_right_comm]
      _ = 2 * m := by rw [BlockCount.count_blocks (occupies_block hprofile hposition), Nat.mul_one]
  · intro htwo hnodup runs orders horders recorded hperm
    exact recorded_balanced htwo hnodup horders hperm

/-- Two profiles over three iterations, read back from the last to the first. -/
theorem tuneCandidateOrder_counterbalanced_reversed :
    ∃ orders, tuneCandidateOrder ["baseline", "tuned"] 3 .alternating = some orders ∧
      orders.map (·.profiles) = [["baseline", "tuned"], ["tuned", "baseline"],
        ["baseline", "tuned"]] ∧
      hasCandidateOrderCounterbalanceWarning
        (tuneCandidateOrderWarnings (orders.reverse.map (·.profiles))) = false :=
  ⟨_, tuneCandidateOrder_eq _ _ _, by decide,
    (tuneCandidateOrder_counterbalanced ["baseline", "tuned"]).2.2 (by decide) (by decide) 3 _
      (tuneCandidateOrder_eq _ _ _) _ (List.reverse_perm _)⟩

end Stutter.Tune

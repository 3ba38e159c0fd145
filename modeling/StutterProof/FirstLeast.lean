import Mathlib.Data.List.Perm.Basic
import Mathlib.Data.List.Sort
import Mathlib.Data.Prod.Lex

/-! # The first of the least

Items are sorted, the good ones first and those by a key, and the first good one is chosen.  The
sort is stable, so of several good items with one least key the first is chosen: `choose_eq_some`
says so by what is before it and what is after it.  Another order of the items can only change the
choice among those (`choose_key_perm`). -/
namespace FirstLeast

variable {α β : Type*} [LinearOrder β] {good : α → Bool} {key : α → β}

/-- The order of the sort. -/
def comesFirst (good : α → Bool) (key : α → β) (a b : α) : Prop :=
  toLex (!good a, key a) ≤ toLex (!good b, key b)

instance (good : α → Bool) (key : α → β) : DecidableRel (comesFirst good key) :=
  fun _ _ => inferInstanceAs (Decidable (_ ≤ _))

instance (good : α → Bool) (key : α → β) : Std.Total (comesFirst good key) :=
  ⟨fun _ _ => le_total _ _⟩

instance (good : α → Bool) (key : α → β) : IsTrans α (comesFirst good key) :=
  ⟨fun _ _ _ => le_trans⟩

def ranked (good : α → Bool) (key : α → β) (items : List α) : List α :=
  items.insertionSort (comesFirst good key)

def choose (good : α → Bool) (key : α → β) (items : List α) : Option α :=
  (ranked good key items).find? good

variable {a b : α}

theorem comesFirst_of_good (ha : good a = true) (hb : good b = true) :
    comesFirst good key a b ↔ key a ≤ key b := by
  rw [comesFirst, ha, hb, Prod.Lex.toLex_le_toLex]
  simp

theorem comesFirst_of_bad (ha : good a = true) (hb : good b = false) : comesFirst good key a b := by
  rw [comesFirst, ha, hb, Prod.Lex.toLex_le_toLex]
  exact .inl Bool.false_lt_true

theorem not_comesFirst_of_bad (ha : good a = false) (hb : good b = true) :
    ¬comesFirst good key a b := by
  rw [comesFirst, ha, hb, Prod.Lex.toLex_le_toLex]
  simp

/-! ## One item more -/

variable {a : α}

/-- To insert a bad item changes nothing. -/
theorem find_orderedInsert_of_bad (ha : ¬good a = true) (items : List α) :
    (items.orderedInsert (comesFirst good key) a).find? good = items.find? good := by
  induction items with
  | nil => exact List.find?_cons_of_neg ha
  | cons b items ih =>
    rw [List.orderedInsert_cons]
    by_cases hfirst : comesFirst good key a b
    · rw [if_pos hfirst, List.find?_cons_of_neg ha]
    · rw [if_neg hfirst]
      by_cases hb : good b = true
      · rw [List.find?_cons_of_pos hb, List.find?_cons_of_pos hb]
      · rw [List.find?_cons_of_neg hb, List.find?_cons_of_neg hb, ih]

variable {items : List α}

/-- To insert a good item compares it with the one that was the first. -/
theorem find_orderedInsert_of_good (ha : good a = true)
    (hsorted : items.Pairwise (comesFirst good key)) :
    (items.orderedInsert (comesFirst good key) a).find? good =
      match items.find? good with
      | some b => if key a ≤ key b then some a else some b
      | none => some a := by
  rcases items with _ | ⟨b, items⟩
  · exact List.find?_cons_of_pos ha
  rw [List.orderedInsert_cons]
  by_cases hb : good b = true
  · rw [List.find?_cons_of_pos hb]
    by_cases hle : key a ≤ key b
    · rw [if_pos ((comesFirst_of_good ha hb).mpr hle), List.find?_cons_of_pos ha]
      exact (if_pos hle).symm
    · rw [if_neg fun hfirst => hle ((comesFirst_of_good ha hb).mp hfirst),
        List.find?_cons_of_pos hb]
      exact (if_neg hle).symm
  · -- what comes after a bad item is bad
    have hbad : good b = false := Bool.eq_false_iff.mpr hb
    have hnone : (b :: items).find? good = none := by
      rw [List.find?_eq_none]
      intro c hc hgood
      rcases List.mem_cons.mp hc with rfl | hc
      · exact hb hgood
      · exact not_comesFirst_of_bad hbad hgood (List.rel_of_pairwise_cons hsorted hc)
    rw [if_pos (comesFirst_of_bad ha hbad), List.find?_cons_of_pos ha, hnone]

theorem choose_cons (a : α) (items : List α) :
    choose good key (a :: items) =
      if good a then
        match choose good key items with
        | some b => if key a ≤ key b then some a else some b
        | none => some a
      else choose good key items := by
  rw [choose, ranked, List.insertionSort_cons]
  by_cases ha : good a = true
  · rw [if_pos ha]
    exact find_orderedInsert_of_good ha (List.pairwise_insertionSort _ items)
  · rw [if_neg ha]
    exact find_orderedInsert_of_bad ha _

theorem choose_map {γ : Type*} (f : γ → α) (items : List γ) :
    choose good key (items.map f) = (choose (good ∘ f) (key ∘ f) items).map f := by
  induction items with
  | nil => rfl
  | cons a items ih =>
    rw [List.map_cons, choose_cons, choose_cons, ih]
    by_cases ha : good (f a) = true
    · rw [if_pos ha, if_pos (show (good ∘ f) a = true from ha)]
      rcases choose (good ∘ f) (key ∘ f) items with _ | b
      · rfl
      · exact (apply_ite (Option.map f) (key (f a) ≤ key (f b)) (some a) (some b)).symm
    · rw [if_neg ha, if_neg (show ¬(good ∘ f) a = true from ha)]

/-! ## What is chosen -/

theorem choose_eq_none : choose good key items = none ↔ ∀ a ∈ items, ¬good a = true := by
  rw [choose, List.find?_eq_none]
  exact forall_congr' fun a => by rw [ranked, List.mem_insertionSort]

/-- Good, less than every good item before it, and no greater than every good item after it. -/
structure IsFirstLeast (good : α → Bool) (key : α → β) (before : List α) (a : α) (after : List α) :
    Prop where
  isGood : good a = true
  before : ∀ b ∈ before, good b = true → key a < key b
  after : ∀ b ∈ after, good b = true → key a ≤ key b

theorem exists_of_choose (h : choose good key items = some a) :
    ∃ before after, items = before ++ a :: after ∧ IsFirstLeast good key before a after := by
  induction items generalizing a with
  | nil => contradiction
  | cons b items ih =>
    rw [choose_cons] at h
    by_cases hb : good b = true
    · rw [if_pos hb] at h
      rcases hrest : choose good key items with _ | c
      · rw [hrest] at h
        obtain rfl := Option.some.inj h
        exact ⟨[], items, rfl, hb, nofun,
          fun c hc hgood => absurd hgood (choose_eq_none.mp hrest c hc)⟩
      obtain ⟨before, after, rfl, hc⟩ := ih hrest
      rw [hrest] at h
      by_cases hle : key b ≤ key c
      · obtain rfl := Option.some.inj ((if_pos hle).symm.trans h)
        refine ⟨[], before ++ c :: after, rfl, hb, nofun, ?_⟩
        intro d hd hgood
        rcases List.mem_append.mp hd with hd | hd
        · exact hle.trans (hc.before d hd hgood).le
        rcases List.mem_cons.mp hd with rfl | hd
        · exact hle
        · exact hle.trans (hc.after d hd hgood)
      · obtain rfl := Option.some.inj ((if_neg hle).symm.trans h)
        refine ⟨b :: before, after, rfl, hc.isGood, ?_, hc.after⟩
        intro d hd hgood
        rcases List.mem_cons.mp hd with rfl | hd
        · exact lt_of_not_ge hle
        · exact hc.before d hd hgood
    · rw [if_neg hb] at h
      obtain ⟨before, after, rfl, ha⟩ := ih h
      refine ⟨b :: before, after, rfl, ha.isGood, ?_, ha.after⟩
      intro d hd hgood
      rcases List.mem_cons.mp hd with rfl | hd
      · exact absurd hgood hb
      · exact ha.before d hd hgood

theorem IsFirstLeast.choose {before after : List α} (h : IsFirstLeast good key before a after) :
    choose good key (before ++ a :: after) = some a := by
  induction before with
  | nil =>
    rw [List.nil_append, choose_cons, if_pos h.isGood]
    rcases hrest : FirstLeast.choose good key after with _ | b
    · rfl
    obtain ⟨_, _, rfl, hb⟩ := exists_of_choose hrest
    exact if_pos (h.after b (by simp) hb.isGood)
  | cons b before ih =>
    have hrest := ih ⟨h.isGood, fun c hc => h.before c (List.mem_cons_of_mem b hc), h.after⟩
    rw [List.cons_append, choose_cons, hrest]
    by_cases hb : good b = true
    · rw [if_pos hb]
      exact if_neg (not_le.mpr (h.before b List.mem_cons_self hb))
    · rw [if_neg hb]

theorem choose_eq_some : choose good key items = some a ↔
    ∃ before after, items = before ++ a :: after ∧ IsFirstLeast good key before a after := by
  constructor
  · exact exists_of_choose
  · rintro ⟨before, after, rfl, h⟩
    exact h.choose

theorem mem_of_choose (h : choose good key items = some a) : a ∈ items := by
  obtain ⟨before, after, rfl, -⟩ := exists_of_choose h
  simp

theorem good_of_choose (h : choose good key items = some a) : good a = true := by
  obtain ⟨before, after, -, ha⟩ := exists_of_choose h
  exact ha.isGood

theorem le_of_choose (h : choose good key items = some a) (hmem : b ∈ items) (hb : good b = true) :
    key a ≤ key b := by
  obtain ⟨before, after, rfl, ha⟩ := exists_of_choose h
  rcases List.mem_append.mp hmem with hmem | hmem
  · exact (ha.before b hmem hb).le
  rcases List.mem_cons.mp hmem with rfl | hmem
  · exact le_rfl
  · exact ha.after b hmem hb

/-! ## Another order -/

theorem choose_isNone_perm {items others : List α} (h : items.Perm others) :
    choose good key items = none ↔ choose good key others = none := by
  rw [choose_eq_none, choose_eq_none]
  exact forall_congr' fun a => by rw [h.mem_iff]

/-- The least key is one whatever the order. -/
theorem choose_key_perm {items others : List α} (h : items.Perm others) :
    (choose good key items).map key = (choose good key others).map key := by
  rcases hitems : choose good key items with _ | a
  · rw [(choose_isNone_perm h).mp hitems]
  rcases hothers : choose good key others with _ | b
  · rw [(choose_isNone_perm h).mpr hothers] at hitems
    contradiction
  have hab := le_of_choose hitems (h.mem_iff.mpr (mem_of_choose hothers)) (good_of_choose hothers)
  have hba := le_of_choose hothers (h.mem_iff.mp (mem_of_choose hitems)) (good_of_choose hitems)
  exact congrArg some (le_antisymm hab hba)

end FirstLeast

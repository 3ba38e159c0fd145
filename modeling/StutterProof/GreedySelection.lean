import Mathlib.Data.List.MinMax
import Mathlib.Data.List.Sort

/-! # Choosing the best of a stream

`keepBest` keeps at most so many items of a stream, and drops the worst for a better one.  `select`
then goes through items and takes each that is in conflict with none it has taken, up to a limit.
An item that comes after another with the same conflicts is never taken, so such items do not matter
(`select_filter`). -/
namespace GreedySelection

/-! ## The best of a stream -/

section Best
variable {α β : Type} [DecidableEq α] [LinearOrder β] (rank : α → β) (capacity : Nat)

/-- One item more: where the capacity is reached, in place of the worst, if it is better than
that. -/
def keepBest (kept : List α) (item : α) : List α :=
  if kept.length < capacity then item :: kept
  else
    match kept.argmin rank with
    | some worst => if rank worst < rank item then item :: kept.erase worst else kept
    | none => kept

variable {rank capacity} {kept items : List α} {item : α}

theorem mem_of_mem_keepBest {a : α} (h : a ∈ keepBest rank capacity kept item) :
    a = item ∨ a ∈ kept := by
  unfold keepBest at h
  split at h
  · exact List.mem_cons.mp h
  · split at h
    · split at h
      · obtain rfl | hmem := List.mem_cons.mp h
        · exact .inl rfl
        · exact .inr (List.mem_of_mem_erase hmem)
      · exact .inr h
    · exact .inr h

/-- Nothing is dropped but for something as good. -/
theorem keepBest_dominates (rank : α → β) (hcapacity : 0 < capacity) {a : α}
    (h : a = item ∨ a ∈ kept) :
    ∃ b ∈ keepBest rank capacity kept item, rank a ≤ rank b := by
  unfold keepBest
  by_cases hroom : kept.length < capacity
  · rw [if_pos hroom]
    exact ⟨a, List.mem_cons.mpr h, le_rfl⟩
  · rw [if_neg hroom]
    cases hworst : kept.argmin rank with
    | none =>
      rw [List.argmin_eq_none] at hworst
      rw [hworst, List.length_nil] at hroom
      exact absurd hcapacity hroom
    | some worst =>
      have hmem := List.argmin_mem hworst
      by_cases hbetter : rank worst < rank item
      · simp only [if_pos hbetter]
        obtain rfl | hkept := h
        · exact ⟨a, List.mem_cons_self, le_rfl⟩
        · by_cases hsame : a = worst
          · exact ⟨item, List.mem_cons_self, hsame ▸ hbetter.le⟩
          · exact ⟨a, List.mem_cons_of_mem _ ((List.mem_erase_of_ne hsame).mpr hkept), le_rfl⟩
      · simp only [if_neg hbetter]
        obtain rfl | hkept := h
        · exact ⟨worst, hmem, not_lt.mp hbetter⟩
        · exact ⟨a, hkept, le_rfl⟩

theorem mem_of_mem_foldl {a : α} (h : a ∈ items.foldl (keepBest rank capacity) kept) :
    a ∈ items ∨ a ∈ kept := by
  induction items generalizing kept with
  | nil => exact .inr h
  | cons item rest ih =>
    obtain hrest | hmem := ih h
    · exact .inl (List.mem_cons_of_mem _ hrest)
    · obtain rfl | hkept := mem_of_mem_keepBest hmem
      · exact .inl List.mem_cons_self
      · exact .inr hkept

theorem foldl_dominates (hcapacity : 0 < capacity) {a : α} (h : a ∈ items ∨ a ∈ kept) :
    ∃ b ∈ items.foldl (keepBest rank capacity) kept, rank a ≤ rank b := by
  induction items generalizing kept a with
  | nil => exact ⟨a, h.resolve_left nofun, le_rfl⟩
  | cons item rest ih =>
    obtain hmem | hkept := h
    · obtain rfl | hrest := List.mem_cons.mp hmem
      · obtain ⟨b, hb, hab⟩ := keepBest_dominates rank hcapacity (.inl (Eq.refl a))
        obtain ⟨c, hc, hbc⟩ := ih (.inr hb)
        exact ⟨c, hc, hab.trans hbc⟩
      · exact ih (.inl hrest)
    · obtain ⟨b, hb, hab⟩ := keepBest_dominates rank hcapacity (.inr hkept)
      obtain ⟨c, hc, hbc⟩ := ih (.inr hb)
      exact ⟨c, hc, hab.trans hbc⟩

/-- Where there is room for all, all are kept. -/
theorem foldl_of_room (h : kept.length + items.length ≤ capacity) :
    items.foldl (keepBest rank capacity) kept = items.reverse ++ kept := by
  induction items generalizing kept with
  | nil => rfl
  | cons item rest ih =>
    rw [List.length_cons] at h
    have hroom : keepBest rank capacity kept item = item :: kept := by
      rw [keepBest, if_pos (by omega)]
    rw [List.foldl_cons, hroom, ih (by rw [List.length_cons]; omega), List.reverse_cons,
      List.append_assoc, List.singleton_append]

end Best

/-! ## Taking what fits -/

section Select
variable {α : Type} (conflict : α → α → Bool) (limit : Nat)

/-- The items taken, in order.  The limit is looked at after an item is taken. -/
def select (taken : List α) : List α → List α
  | [] => taken
  | item :: rest =>
    if taken.any (conflict · item) then select taken rest
    else if limit ≤ (taken ++ [item]).length then taken ++ [item]
    else select (taken ++ [item]) rest

variable {conflict limit} {taken items : List α}

theorem prefix_select (conflict : α → α → Bool) (limit : Nat) (taken items : List α) :
    ∃ more, select conflict limit taken items = taken ++ more := by
  induction items generalizing taken with
  | nil => exact ⟨[], (List.append_nil _).symm⟩
  | cons item rest ih =>
    unfold select
    split
    · exact ih taken
    · split
      · exact ⟨[item], rfl⟩
      · obtain ⟨more, hmore⟩ := ih (taken ++ [item])
        exact ⟨item :: more, by rw [hmore, List.append_assoc, List.singleton_append]⟩

/-- The first item is taken. -/
theorem head?_select (item : α) : (select conflict limit [] (item :: items)).head? = some item := by
  unfold select
  rw [List.any_nil, if_neg Bool.false_ne_true]
  split
  · rfl
  · obtain ⟨more, hmore⟩ := prefix_select conflict limit ([] ++ [item]) items
    rw [hmore]
    rfl

theorem mem_of_mem_select {a : α} (h : a ∈ select conflict limit taken items) :
    a ∈ taken ∨ a ∈ items := by
  induction items generalizing taken with
  | nil => exact .inl h
  | cons item rest ih =>
    have hone : ∀ a, a ∈ taken ++ [item] → a ∈ taken ∨ a ∈ item :: rest := by
      intro a ha
      obtain hmem | hmem := List.mem_append.mp ha
      · exact .inl hmem
      · exact .inr (List.mem_singleton.mp hmem ▸ List.mem_cons_self)
    unfold select at h
    split at h
    · exact (ih h).imp_right (List.mem_cons_of_mem _)
    · split at h
      · exact hone a h
      · obtain hmem | hmem := ih h
        · exact hone a hmem
        · exact .inr (List.mem_cons_of_mem _ hmem)

/-- No two of the items taken are in conflict. -/
theorem select_pairwise (h : taken.Pairwise fun a b => conflict a b = false) :
    (select conflict limit taken items).Pairwise fun a b => conflict a b = false := by
  induction items generalizing taken with
  | nil => exact h
  | cons item rest ih =>
    unfold select
    by_cases hconflict : taken.any (conflict · item) = true
    · rw [if_pos hconflict]
      exact ih h
    · rw [if_neg hconflict]
      have hmore : (taken ++ [item]).Pairwise fun a b => conflict a b = false := by
        refine List.pairwise_append.mpr ⟨h, List.pairwise_singleton .., fun a ha b hb => ?_⟩
        obtain rfl := List.mem_singleton.mp hb
        exact Bool.eq_false_iff.mpr fun hab => hconflict (List.any_eq_true.mpr ⟨a, ha, hab⟩)
      split
      · exact hmore
      · exact ih hmore

/-- Items without the property do not matter, if each comes after one that has it and the same
conflicts. -/
theorem select_filter {p : α → Bool} (hself : ∀ a ∈ items, conflict a a = true)
    (hafter : ∀ before item after, items = before ++ item :: after → p item = false →
      taken.any (conflict · item) = true ∨
        ∃ a ∈ before, p a = true ∧ ∀ b, conflict b a = conflict b item) :
    select conflict limit taken items = select conflict limit taken (items.filter p) := by
  induction items generalizing taken with
  | nil => rfl
  | cons item rest ih =>
    have hrestSelf : ∀ a ∈ rest, conflict a a = true :=
      fun a ha => hself a (List.mem_cons_of_mem _ ha)
    cases hp : p item with
    | false =>
      obtain hconflict | ⟨a, ha, -⟩ := hafter [] item rest rfl hp
      · rw [List.filter_cons_of_neg (by rw [hp]; exact Bool.false_ne_true), select,
          if_pos hconflict]
        refine ih hrestSelf fun before other after heq hother => ?_
        obtain hany | ⟨a, ha, hpa, hsame⟩ :=
          hafter (item :: before) other after (by rw [heq]; rfl) hother
        · exact .inl hany
        · obtain rfl | ha := List.mem_cons.mp ha
          · rw [hp] at hpa
            cases hpa
          · exact .inr ⟨a, ha, hpa, hsame⟩
      · cases ha
    | true =>
      rw [List.filter_cons_of_pos hp, select, select]
      by_cases hconflict : taken.any (conflict · item) = true
      · rw [if_pos hconflict, if_pos hconflict]
        refine ih hrestSelf fun before other after heq hother => ?_
        obtain hany | ⟨a, ha, hpa, hsame⟩ :=
          hafter (item :: before) other after (by rw [heq]; rfl) hother
        · exact .inl hany
        · obtain rfl | ha := List.mem_cons.mp ha
          · refine .inl ?_
            rwa [List.any_congr rfl fun b => hsame b] at hconflict
          · exact .inr ⟨a, ha, hpa, hsame⟩
      · rw [if_neg hconflict, if_neg hconflict]
        split
        · rfl
        · refine ih hrestSelf fun before other after heq hother => ?_
          obtain hany | ⟨a, ha, hpa, hsame⟩ :=
            hafter (item :: before) other after (by rw [heq]; rfl) hother
          · refine .inl ?_
            rw [List.any_append, hany, Bool.true_or]
          · obtain rfl | ha := List.mem_cons.mp ha
            · refine .inl (List.any_eq_true.mpr ⟨a,
                List.mem_append_right _ (List.mem_singleton.mpr rfl), ?_⟩)
              rw [← hsame]
              exact hself a List.mem_cons_self
            · exact .inr ⟨a, ha, hpa, hsame⟩

end Select

end GreedySelection

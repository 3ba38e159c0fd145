import Mathlib.Data.List.Basic
import Mathlib.Data.List.Sort
import Mathlib.Tactic.Common

/-! # Bounded tables of the most recent entries

A table is a list of entries.  `put` replaces the first entry that an entry takes the place of, or
adds it at the end; `evict` leaves the most recent entries once there are more than the bound.  A
relation that holds of every two entries is kept by both, so that entries stay distinct. -/
namespace RecentTable

variable {α : Type}

def put (replaces : α → Bool) (entry : α) : List α → List α
  | [] => [entry]
  | first :: rest => if replaces first then entry :: rest else first :: put replaces entry rest

/-- The most recent entries, by a stable sort, once there are more than the bound. -/
def evict (bound : Nat) (stamp : α → Nat) (entries : List α) : List α :=
  if bound < entries.length then
    (entries.mergeSort fun a b => decide (stamp b ≤ stamp a)).take bound
  else entries

/-- The first summary of a key, and another one. -/
def collides (key : α → String) (summary : α → Option String) (entries : List α) (k : String) :
    Bool :=
  match entries.findSome? fun entry => if key entry = k then summary entry else none with
  | none => false
  | some first => entries.any fun entry => key entry = k && (summary entry).any (· ≠ first)

variable {replaces : α → Bool} {entry other : α} {entries : List α} {bound : Nat} {stamp : α → Nat}
  {R : α → α → Prop}

theorem mem_put_self : entry ∈ put replaces entry entries := by
  induction entries with
  | nil => exact List.mem_singleton.mpr rfl
  | cons first rest ih =>
    rw [put]
    split
    · exact List.mem_cons_self
    · exact List.mem_cons_of_mem _ ih

theorem mem_put (h : other ∈ put replaces entry entries) : other = entry ∨ other ∈ entries := by
  induction entries with
  | nil => exact .inl (List.mem_singleton.mp h)
  | cons first rest ih =>
    rw [put] at h
    split at h
    · exact (List.mem_cons.mp h).imp_right (List.mem_cons_of_mem _)
    · obtain rfl | h := List.mem_cons.mp h
      · exact .inr List.mem_cons_self
      · exact (ih h).imp_right (List.mem_cons_of_mem _)

/-- What an entry does not replace stays. -/
theorem mem_put_of_mem (hmem : other ∈ entries) (h : replaces other = false) :
    other ∈ put replaces entry entries := by
  induction entries with
  | nil => exact absurd hmem List.not_mem_nil
  | cons first rest ih =>
    rw [put]
    obtain rfl | hmem := List.mem_cons.mp hmem
    · rw [h]
      exact List.mem_cons_self
    · split
      · exact List.mem_cons_of_mem _ hmem
      · exact List.mem_cons_of_mem _ (ih hmem)

/-- Two entries that are replaced are not in `R`, so at most one is. -/
theorem pairwise_put (hsymm : ∀ a b, R a b → R b a) (hentries : entries.Pairwise R)
    (hreplaced : ∀ a b, replaces a = true → replaces b = true → ¬ R a b)
    (hfresh : ∀ a, replaces a = false → R entry a) : (put replaces entry entries).Pairwise R := by
  induction entries with
  | nil => exact List.pairwise_singleton R entry
  | cons first rest ih =>
    obtain ⟨hfirst, hrest⟩ := List.pairwise_cons.mp hentries
    rw [put]
    by_cases h : replaces first = true
    · rw [if_pos h]
      refine List.pairwise_cons.mpr ⟨fun a hmem => hfresh a ?_, hrest⟩
      exact Bool.eq_false_iff.mpr fun ha => hreplaced first a h ha (hfirst a hmem)
    · rw [if_neg h]
      refine List.pairwise_cons.mpr ⟨fun a hmem => ?_, ih hrest⟩
      obtain rfl | hmem := mem_put hmem
      · exact hsymm _ _ (hfresh first (Bool.eq_false_iff.mpr h))
      · exact hfirst a hmem

theorem length_evict_le : (evict bound stamp entries).length ≤ bound := by
  unfold evict
  split
  · exact List.length_take_le _ _
  · omega

theorem pairwise_evict (hsymm : ∀ a b, R a b → R b a) (h : entries.Pairwise R) :
    (evict bound stamp entries).Pairwise R := by
  unfold evict
  split
  · refine List.Pairwise.sublist (List.take_sublist _ _) ?_
    exact (List.mergeSort_perm entries _).symm.pairwise h fun hab => hsymm _ _ hab
  · exact h

/-- What is kept is no older than what is dropped. -/
theorem evict_spec (bound : Nat) (stamp : α → Nat) (entries : List α) :
    ∃ dropped, entries.Perm (evict bound stamp entries ++ dropped) ∧
      ∀ kept ∈ evict bound stamp entries, ∀ gone ∈ dropped, stamp gone ≤ stamp kept := by
  unfold evict
  split
  · refine ⟨(entries.mergeSort fun a b => decide (stamp b ≤ stamp a)).drop bound, ?_, ?_⟩
    · rw [List.take_append_drop]
      exact (List.mergeSort_perm entries _).symm
    · have hsorted : (entries.mergeSort fun a b => decide (stamp b ≤ stamp a)).Pairwise
          fun a b => decide (stamp b ≤ stamp a) = true :=
        List.pairwise_mergeSort (fun a b c hab hbc => by simp at hab hbc ⊢; omega)
          (fun a b => by simp; omega) entries
      rw [← List.take_append_drop bound (entries.mergeSort _), List.pairwise_append] at hsorted
      intro kept hkept gone hgone
      simpa using hsorted.2.2 kept hkept gone hgone
  · exact ⟨[], by rw [List.append_nil], fun _ _ _ h => absurd h List.not_mem_nil⟩

/-- A key collides if two of its entries have different summaries. -/
theorem collides_iff {key : α → String} {summary : α → Option String} {k : String} :
    collides key summary entries k = true ↔ ∃ a ∈ entries, ∃ b ∈ entries, key a = k ∧ key b = k ∧
      ∃ s t, summary a = some s ∧ summary b = some t ∧ s ≠ t := by
  unfold collides
  cases hfirst : entries.findSome? fun entry => if key entry = k then summary entry else none with
  | none =>
    rw [List.findSome?_eq_none_iff] at hfirst
    refine iff_of_false Bool.false_ne_true ?_
    rintro ⟨a, ha, -, -, hkey, -, s, -, hs, -, -⟩
    have hnone := hfirst a ha
    rw [if_pos hkey, hs] at hnone
    cases hnone
  | some first =>
    obtain ⟨c, hc, hsummary⟩ := List.exists_of_findSome?_eq_some hfirst
    obtain ⟨hkeyc, hfirst⟩ := Option.ite_none_right_eq_some.mp hsummary
    simp only [List.any_eq_true, Bool.and_eq_true, decide_eq_true_iff, Option.any_eq_true]
    constructor
    · rintro ⟨b, hb, hkey, t, ht, hne⟩
      exact ⟨c, hc, b, hb, hkeyc, hkey, first, t, hfirst, ht, fun h => hne h.symm⟩
    · rintro ⟨a, ha, b, hb, hkeya, hkeyb, s, t, hs, ht, hne⟩
      by_cases h : s = first
      · exact ⟨b, hb, hkeyb, t, ht, fun h' => hne (h.trans h'.symm)⟩
      · exact ⟨a, ha, hkeya, s, hs, h⟩

/-- Of entries of which no two are in `R`, one at most is left where every two are. -/
theorem length_filter_le_one {p : α → Bool} (h : entries.Pairwise R)
    (hp : ∀ a b, p a = true → p b = true → ¬ R a b) : (entries.filter p).length ≤ 1 := by
  cases hfilter : entries.filter p with
  | nil => exact Nat.zero_le 1
  | cons a rest =>
    cases rest with
    | nil => exact Nat.le_refl 1
    | cons b rest =>
      have hpairwise := h.filter p
      have hmem : ∀ x ∈ a :: b :: rest, p x = true := by
        intro x hx
        rw [← hfilter] at hx
        exact (List.mem_filter.mp hx).2
      rw [hfilter] at hpairwise
      exact absurd ((List.pairwise_cons.mp hpairwise).1 b List.mem_cons_self)
        (hp a b (hmem a List.mem_cons_self) (hmem b (List.mem_cons_of_mem a List.mem_cons_self)))

/-- An entry that is gone is no more recent than one that is kept. -/
theorem stamp_le_of_not_mem_evict {gone kept : α} (hmem : gone ∈ entries)
    (hgone : gone ∉ evict bound stamp entries) (hkept : kept ∈ evict bound stamp entries) :
    stamp gone ≤ stamp kept := by
  obtain ⟨dropped, hperm, holder⟩ := evict_spec bound stamp entries
  obtain hstill | hdropped := List.mem_append.mp (hperm.mem_iff.mp hmem)
  · exact absurd hstill hgone
  · exact holder kept hkept gone hdropped

/-! ## Entries with a mark -/

section Mark
variable {β : Type} (f : β → α) (marked : List β)

/-- A table of marked entries is kept like the table of the entries. -/
theorem map_put (replaces : α → Bool) (entry : β) :
    (put (fun other => replaces (f other)) entry marked).map f = put replaces (f entry)
      (marked.map f) := by
  induction marked with
  | nil => rfl
  | cons first rest ih =>
    rw [put, List.map_cons, put]
    split
    · rfl
    · rw [List.map_cons, ih]

theorem map_evict (bound : Nat) (stamp : α → Nat) :
    (evict bound (fun entry => stamp (f entry)) marked).map f =
      evict bound stamp (marked.map f) := by
  rw [evict, evict, List.length_map]
  split
  · have hsort : (marked.mergeSort fun a b => decide (stamp (f b) ≤ stamp (f a))).map f =
        (marked.map f).mergeSort fun a b => decide (stamp b ≤ stamp a) :=
          List.map_mergeSort fun _ _ _ _ => rfl
    rw [List.map_take, hsort]
  · rfl

end Mark

theorem mem_evict (h : other ∈ evict bound stamp entries) : other ∈ entries := by
  rw [evict] at h
  split at h
  · exact List.mem_mergeSort.mp (List.mem_of_mem_take h)
  · exact h

end RecentTable

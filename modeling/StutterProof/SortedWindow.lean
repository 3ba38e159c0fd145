import Mathlib.Data.List.DropRight

/-! # Windows over sorted records

Records with a time, sorted by it.  A record goes after those that are not later than it, and the
records before a time are dropped from the front.  Both keep the order, and on a sorted list the
second is a filter (`dropBefore_eq_filter`), so what a window holds can be told as a filter of what
was put into it. -/
namespace SortedWindow

variable {α : Type} (time : α → Nat)

def Sorted (items : List α) : Prop := items.Pairwise fun a b => time a ≤ time b

/-- The record after the last one that is not later. -/
def insertAfter (item : α) (items : List α) : List α :=
  items.rdropWhile (time item < time ·) ++ item :: items.rtakeWhile (time item < time ·)

def dropBefore (start : Nat) (items : List α) : List α := items.dropWhile (time · < start)

variable {time} {items : List α} {item : α} {start : Nat}

theorem insertAfter_nil : insertAfter time item [] = [item] := by
  rw [insertAfter, List.rdropWhile_nil, List.rtakeWhile_nil]
  rfl

theorem insertAfter_concat (last : α) : insertAfter time item (items ++ [last]) =
    if time item < time last then insertAfter time item items ++ [last]
    else items ++ [last, item] := by
  unfold insertAfter
  by_cases hlater : time item < time last
  · rw [if_pos hlater, List.rdropWhile_concat_pos _ _ _ (by simpa using hlater),
      List.rtakeWhile_concat_pos _ _ _ (by simpa using hlater), List.append_assoc, List.cons_append]
  · rw [if_neg hlater, List.rdropWhile_concat_neg _ _ _ (by simpa using hlater),
      List.rtakeWhile_concat_neg _ _ _ (by simpa using hlater), List.append_assoc]
    rfl

theorem insertAfter_perm : (insertAfter time item items).Perm (items ++ [item]) := by
  have hsplit :=
    List.rdropWhile_append_rtakeWhile (p := fun other => time item < time other) (l := items)
  refine List.perm_middle.trans ?_
  rw [hsplit]
  exact (List.perm_append_singleton item items).symm

theorem sorted_insertAfter (h : Sorted time items) : Sorted time (insertAfter time item items) := by
  induction items using List.reverseRecOn with
  | nil =>
    rw [insertAfter_nil]
    exact List.pairwise_singleton _ _
  | append_singleton items last ih =>
    obtain ⟨hitems, -, hlast⟩ := List.pairwise_append.mp h
    rw [insertAfter_concat]
    by_cases hlater : time item < time last
    · rw [if_pos hlater]
      refine List.pairwise_append.mpr ⟨ih hitems, List.pairwise_singleton _ _, ?_⟩
      intro before hbefore after hafter
      obtain rfl := List.mem_singleton.mp hafter
      rcases List.mem_append.mp (insertAfter_perm.mem_iff.mp hbefore) with hold | hnew
      · exact hlast before hold after hafter
      · rw [List.mem_singleton.mp hnew]
        exact hlater.le
    · rw [if_neg hlater]
      refine List.pairwise_append.mpr ⟨hitems, ?_, ?_⟩
      · exact List.pairwise_pair.mpr (Nat.le_of_not_lt hlater)
      · intro before hbefore after hafter
        have hle := hlast before hbefore last (List.mem_singleton_self last)
        rcases List.mem_pair.mp hafter with rfl | rfl
        · exact hle
        · exact hle.trans (Nat.le_of_not_lt hlater)

theorem dropBefore_eq_filter (h : Sorted time items) :
    dropBefore time start items = items.filter (start ≤ time ·) := by
  induction items with
  | nil => rfl
  | cons first rest ih =>
    obtain ⟨hfirst, hrest⟩ := List.pairwise_cons.mp h
    by_cases hbefore : time first < start
    · rw [dropBefore, List.dropWhile_cons_of_pos (by simpa using hbefore),
        List.filter_cons_of_neg (by simpa using hbefore)]
      exact ih hrest
    · rw [dropBefore, List.dropWhile_cons_of_neg (by simpa using hbefore), List.filter_eq_self.mpr]
      intro item hitem
      rcases List.mem_cons.mp hitem with rfl | hitem
      · simpa using hbefore
      · exact decide_eq_true ((Nat.le_of_not_lt hbefore).trans (hfirst item hitem))

theorem sorted_dropBefore (h : Sorted time items) : Sorted time (dropBefore time start items) :=
  h.sublist (List.dropWhile_sublist _)

/-- The last record of a sorted list is the latest. -/
theorem le_getLast {last : α} (h : Sorted time items) (hlast : items.getLast? = some last) :
    last ∈ items ∧ ∀ item ∈ items, time item ≤ time last := by
  obtain ⟨before, rfl⟩ := List.getLast?_eq_some_iff.mp hlast
  refine ⟨List.mem_append_right _ (List.mem_singleton_self last), fun item hitem => ?_⟩
  rcases List.mem_append.mp hitem with hitem | hitem
  · exact (List.pairwise_append.mp h).2.2 item hitem last (List.mem_singleton_self last)
  · rw [List.mem_singleton.mp hitem]

end SortedWindow

import Mathlib.Data.List.Dedup
import Mathlib.Data.List.DropRight
import StutterProof.KeyedTable

/-! # A window that moves over a list

Both ends of a window move to the right over a list.  Two things are kept up to date along the way:
how often each key is in the window, and a queue of positions that starts with that of the greatest
value.  `Counts` and `IsQueue` say what they are of the window as it stands, and each move of an end
keeps them. -/
namespace TwoPointer

/-! ## Counts -/

section Counts
variable {K : Type} [DecidableEq K]

def increment (counts : Table K Nat) (key : K) : Table K Nat :=
  counts.insert key ((counts.get key).getD 0 + 1)

/-- One less, and no entry where none is left. -/
def decrement (counts : Table K Nat) (key : K) : Table K Nat :=
  match counts.get key with
  | none => counts
  | some count => if count - 1 = 0 then counts.remove key else counts.insert key (count - 1)

/-- The table has an entry for each key of the list, with its count. -/
def Counts (counts : Table K Nat) (keys : List K) : Prop :=
  ∀ key, counts.get key = if keys.count key = 0 then none else some (keys.count key)

variable {counts : Table K Nat} {keys : List K}

theorem Counts.empty : Counts (Table.empty : Table K Nat) [] := fun _ => rfl

theorem Counts.increment (h : Counts counts keys) (key : K) :
    Counts (increment counts key) (keys ++ [key]) := by
  intro other
  rw [TwoPointer.increment, Table.get_insert, List.count_append, List.count_singleton, h, h]
  by_cases hsame : other = key
  · subst hsame
    by_cases hnone : keys.count other = 0
    · simp [hnone]
    · simp [hnone]
  · simp [hsame, Ne.symm hsame]

theorem Counts.decrement {key : K} (h : Counts counts (key :: keys)) :
    Counts (decrement counts key) keys := by
  have hkey := h key
  rw [List.count_cons_self, if_neg (Nat.succ_ne_zero _)] at hkey
  intro other
  have hother := h other
  simp only [TwoPointer.decrement, hkey, Nat.add_sub_cancel]
  by_cases hsame : other = key
  · subst hsame
    by_cases hnone : keys.count other = 0
    · rw [if_pos hnone, if_pos hnone, Table.get_remove, if_pos rfl]
    · rw [if_neg hnone, if_neg hnone, Table.get_insert, if_pos rfl]
  · rw [List.count_cons_of_ne (Ne.symm hsame)] at hother
    split
    · rw [Table.get_remove, if_neg hsame, hother]
    · rw [Table.get_insert, if_neg hsame, hother]

/-- The table is as long as there are keys. -/
theorem Counts.length_eq (h : Counts counts keys) : counts.entries.length = keys.dedup.length := by
  have hperm : (counts.entries.map Prod.fst).Perm keys.dedup := by
    rw [List.perm_ext_iff_of_nodup counts.nodup (List.nodup_dedup keys)]
    intro key
    rw [List.mem_dedup, ← (List.count_pos_iff : 0 < keys.count key ↔ key ∈ keys)]
    constructor
    · intro hmem
      obtain ⟨⟨_, value⟩, hentry, rfl⟩ := List.mem_map.mp hmem
      have hget := (counts.mem_entries).mp hentry
      rw [h] at hget
      refine Nat.pos_of_ne_zero fun hnone => ?_
      rw [if_pos hnone] at hget
      cases hget
    · intro hpos
      refine List.mem_map.mpr ⟨(key, keys.count key), (counts.mem_entries).mpr ?_, rfl⟩
      rw [h, if_neg (by omega)]
  rw [← hperm.length_eq, List.length_map]

end Counts

/-! ## The queue -/

section Queue
variable (value : Nat → Nat)

/-- The queue at the end of which a position stands, without those of no greater value. -/
def pushBack (queue : List Nat) (position : Nat) : List Nat :=
  queue.rdropWhile (value · ≤ value position) ++ [position]

/-- The queue without a position that leaves the window. -/
def popFront (queue : List Nat) (position : Nat) : List Nat :=
  if queue.head? = some position then queue.tail else queue

/-- A queue of the window from `left` to before `right`: its positions have falling values, and
every position of the window is covered by one that is not before it and has no smaller value. -/
structure IsQueue (left right : Nat) (queue : List Nat) : Prop where
  inWindow : ∀ i ∈ queue, left ≤ i ∧ i < right
  increasing : queue.Pairwise (· < ·)
  covers : ∀ i, left ≤ i → i < right → ∃ j ∈ queue, i ≤ j ∧ value i ≤ value j
  decreasing : queue.Pairwise fun i j => value j < value i

variable {value} {left right : Nat} {queue : List Nat}

theorem IsQueue.empty : IsQueue value left left [] :=
  ⟨nofun, .nil, fun i hleft hright => absurd hright (by omega), .nil⟩

theorem mem_pushBack {position i : Nat} (h : i ∈ pushBack value queue position) :
    i ∈ queue ∨ i = position := by
  obtain hmem | hmem := List.mem_append.mp h
  · exact .inl ((List.rdropWhile_prefix _ _).sublist.mem hmem)
  · exact .inr (List.mem_singleton.mp hmem)

/-- On falling values, dropping from the back leaves the greater ones. -/
theorem lt_of_mem_rdropWhile (h : queue.Pairwise fun i j => value j < value i) {bound i : Nat}
    (hmem : i ∈ queue.rdropWhile (value · ≤ bound)) : bound < value i := by
  induction queue using List.reverseRecOn with
  | nil => cases hmem
  | append_singleton queue last ih =>
    rw [List.pairwise_append] at h
    by_cases hlast : value last ≤ bound
    · rw [List.rdropWhile_concat_pos _ _ _ (by simpa using hlast)] at hmem
      exact ih h.1 hmem
    · rw [List.rdropWhile_concat_neg _ _ _ (by simpa using hlast)] at hmem
      obtain hfront | hsame := List.mem_append.mp hmem
      · have := h.2.2 i hfront last (List.mem_singleton.mpr rfl)
        omega
      · obtain rfl := List.mem_singleton.mp hsame
        omega

theorem mem_rdropWhile_or (bound : Nat) {i : Nat} (hmem : i ∈ queue) :
    i ∈ queue.rdropWhile (value · ≤ bound) ∨ value i ≤ bound := by
  induction queue using List.reverseRecOn with
  | nil => cases hmem
  | append_singleton queue last ih =>
    by_cases hlast : value last ≤ bound
    · rw [List.rdropWhile_concat_pos _ _ _ (by simpa using hlast)]
      obtain hfront | hsame := List.mem_append.mp hmem
      · exact ih hfront
      · obtain rfl := List.mem_singleton.mp hsame
        exact .inr hlast
    · rw [List.rdropWhile_concat_neg _ _ _ (by simpa using hlast)]
      exact .inl hmem

/-- The window grows by the position after its last. -/
theorem IsQueue.pushBack (h : IsQueue value left right queue) (hle : left ≤ right) :
    IsQueue value left (right + 1) (pushBack value queue right) := by
  have hkept : (queue.rdropWhile (value · ≤ value right)).Sublist queue :=
    (List.rdropWhile_prefix _ _).sublist
  refine ⟨fun i hi => ?_, ?_, fun i hleft hright => ?_, ?_⟩
  · obtain hmem | rfl := mem_pushBack hi
    · have := h.inWindow i hmem
      omega
    · omega
  · refine List.pairwise_append.mpr ⟨h.increasing.sublist hkept, List.pairwise_singleton .., ?_⟩
    intro i hi j hj
    obtain rfl := List.mem_singleton.mp hj
    exact (h.inWindow i (hkept.mem hi)).2
  · by_cases hlast : i = right
    · exact ⟨right, List.mem_append_right _ (List.mem_singleton.mpr rfl), by omega, by rw [hlast]⟩
    · obtain ⟨j, hj, hij, hvalue⟩ := h.covers i hleft (by omega)
      obtain hstays | hdropped := mem_rdropWhile_or (value right) hj
      · exact ⟨j, List.mem_append_left _ hstays, hij, hvalue⟩
      · exact ⟨right, List.mem_append_right _ (List.mem_singleton.mpr rfl), by omega, by omega⟩
  · refine List.pairwise_append.mpr ⟨h.decreasing.sublist hkept, List.pairwise_singleton .., ?_⟩
    intro i hi j hj
    obtain rfl := List.mem_singleton.mp hj
    exact lt_of_mem_rdropWhile h.decreasing hi

/-- The window loses its first position. -/
theorem IsQueue.popFront (h : IsQueue value left right queue) :
    IsQueue value (left + 1) right (popFront queue left) := by
  cases queue with
  | nil => exact ⟨nofun, .nil, fun i hleft hright => h.covers i (by omega) hright, .nil⟩
  | cons first rest =>
    obtain ⟨hfirst, hincreasing⟩ := List.pairwise_cons.mp h.increasing
    by_cases hsame : first = left
    · have hpop : TwoPointer.popFront (first :: rest) left = rest := by
        simp [TwoPointer.popFront, hsame]
      rw [hpop]
      refine ⟨fun i hi => ?_, hincreasing, fun i hleft hright => ?_,
        (List.pairwise_cons.mp h.decreasing).2⟩
      · have hafter := hfirst i hi
        have hright := (h.inWindow i (List.mem_cons_of_mem _ hi)).2
        omega
      · obtain ⟨j, hj, hij, hvalue⟩ := h.covers i (by omega) hright
        obtain rfl | hrest := List.mem_cons.mp hj
        · omega
        · exact ⟨j, hrest, hij, hvalue⟩
    · have hpop : TwoPointer.popFront (first :: rest) left = first :: rest := by
        simp [TwoPointer.popFront, hsame]
      rw [hpop]
      have hleft := (h.inWindow first List.mem_cons_self).1
      refine ⟨fun i hi => ?_, h.increasing, fun i hi hright => h.covers i (by omega) hright,
        h.decreasing⟩
      obtain rfl | hrest := List.mem_cons.mp hi
      · have := (h.inWindow i List.mem_cons_self).2
        omega
      · have hafter := hfirst i hrest
        have := (h.inWindow i hi).2
        omega

/-- The front has the greatest value of the window. -/
theorem IsQueue.front (h : IsQueue value left right queue) (hnonempty : left < right) :
    ∃ front, queue.head? = some front ∧ left ≤ front ∧ front < right ∧
      ∀ i, left ≤ i → i < right → value i ≤ value front := by
  cases queue with
  | nil =>
    obtain ⟨j, hj, -⟩ := h.covers left le_rfl hnonempty
    cases hj
  | cons front rest =>
    have hfront := h.inWindow front List.mem_cons_self
    refine ⟨front, rfl, hfront.1, hfront.2, fun i hleft hright => ?_⟩
    obtain ⟨j, hj, -, hvalue⟩ := h.covers i hleft hright
    obtain rfl | hrest := List.mem_cons.mp hj
    · exact hvalue
    · have := (List.pairwise_cons.mp h.decreasing).1 j hrest
      omega

end Queue

end TwoPointer

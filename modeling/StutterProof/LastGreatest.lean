import Mathlib.Data.List.Basic
import Mathlib.Data.List.Induction
import Mathlib.Order.Lattice

/-! # The last of the greatest

Of several elements with one greatest key `maxByKey` takes the last.  `maxByKey_eq_some` says so by
what is before it and what is after it. -/
namespace LastGreatest

variable {α β : Type*} [LinearOrder β] {key : α → β}

/-- One turn of `max_by_key`. -/
def laterGreatest (key : α → β) (best : Option α) (x : α) : Option α :=
  match best with
  | some b => if key b ≤ key x then some x else some b
  | none => some x

/-- `Iterator::max_by_key`: of several greatest the last. -/
def maxByKey (key : α → β) (xs : List α) : Option α := xs.foldl (laterGreatest key) none

theorem maxByKey_append (xs : List α) (x : α) :
    maxByKey key (xs ++ [x]) = laterGreatest key (maxByKey key xs) x := List.foldl_concat ..

theorem laterGreatest_ne_none (best : Option α) (x : α) : laterGreatest key best x ≠ none := by
  rcases best with _ | b
  · exact Option.some_ne_none x
  · by_cases hle : key b ≤ key x
    · exact (if_pos hle).trans_ne (Option.some_ne_none x)
    · exact (if_neg hle).trans_ne (Option.some_ne_none b)

theorem eq_nil_of_maxByKey {xs : List α} (h : maxByKey key xs = none) : xs = [] := by
  rcases List.eq_nil_or_concat xs with rfl | ⟨ys, y, rfl⟩
  · rfl
  · rw [List.concat_eq_append, maxByKey_append] at h
    exact absurd h (laterGreatest_ne_none _ y)

/-- What is found splits the list: none before it is greater, and all after it are less. -/
theorem exists_of_maxByKey {xs : List α} {best : α} (h : maxByKey key xs = some best) :
    ∃ before after, xs = before ++ best :: after ∧
      (∀ x ∈ before, key x ≤ key best) ∧ ∀ x ∈ after, key x < key best := by
  induction xs using List.reverseRecOn generalizing best with
  | nil => contradiction
  | append_singleton xs x ih =>
    rw [maxByKey_append] at h
    rcases hbest : maxByKey key xs with _ | b
    · rw [hbest] at h
      obtain rfl : x = best := Option.some.inj h
      obtain rfl : xs = [] := eq_nil_of_maxByKey hbest
      exact ⟨[], [], rfl, nofun, nofun⟩
    obtain ⟨before, after, rfl, hbefore, hafter⟩ := ih hbest
    rw [hbest] at h
    simp only [laterGreatest] at h
    by_cases hle : key b ≤ key x
    · rw [if_pos hle] at h
      obtain rfl : x = best := Option.some.inj h
      refine ⟨before ++ b :: after, [], rfl, ?_, nofun⟩
      intro y hy
      rcases List.mem_append.mp hy with hy | hy
      · exact (hbefore y hy).trans hle
      rcases List.mem_cons.mp hy with rfl | hy
      · exact hle
      · exact (hafter y hy).le.trans hle
    · rw [if_neg hle] at h
      obtain rfl : b = best := Option.some.inj h
      refine ⟨before, after ++ [x], by simp, hbefore, ?_⟩
      intro y hy
      rcases List.mem_append.mp hy with hy | hy
      · exact hafter y hy
      · obtain rfl := List.mem_singleton.mp hy
        exact lt_of_not_ge hle

theorem maxByKey_of_split {before after : List α} {best : α}
    (hbefore : ∀ x ∈ before, key x ≤ key best) (hafter : ∀ x ∈ after, key x < key best) :
    maxByKey key (before ++ best :: after) = some best := by
  induction after using List.reverseRecOn with
  | nil =>
    rw [maxByKey_append]
    rcases hfound : maxByKey key before with _ | b
    · rfl
    obtain ⟨_, _, rfl, -⟩ := exists_of_maxByKey hfound
    exact if_pos (hbefore b (by simp))
  | append_singleton after x ih =>
    have hx := hafter x (by simp)
    rw [← List.cons_append, ← List.append_assoc, maxByKey_append,
      ih fun y hy => hafter y (List.mem_append_left _ hy)]
    exact if_neg (not_le.mpr hx)

theorem maxByKey_eq_some {xs : List α} {best : α} : maxByKey key xs = some best ↔
    ∃ before after, xs = before ++ best :: after ∧
      (∀ x ∈ before, key x ≤ key best) ∧ ∀ x ∈ after, key x < key best := by
  constructor
  · exact exists_of_maxByKey
  · rintro ⟨before, after, rfl, hbefore, hafter⟩
    exact maxByKey_of_split hbefore hafter

theorem maxByKey_map {γ : Type*} (f : γ → α) (xs : List γ) :
    maxByKey key (xs.map f) = (maxByKey (fun x => key (f x)) xs).map f := by
  induction xs using List.reverseRecOn with
  | nil => rfl
  | append_singleton xs x ih =>
    rw [List.map_append, List.map_singleton, maxByKey_append, maxByKey_append, ih]
    rcases maxByKey (fun x => key (f x)) xs with _ | b
    · rfl
    by_cases hle : key (f b) ≤ key (f x)
    · simp [laterGreatest, hle]
    · simp [laterGreatest, hle]

/-- To leave out what has no key changes nothing where something has one. -/
theorem maxByKey_filter {key : α → Nat} (xs : List α) :
    maxByKey key (xs.filter fun x => 0 < key x) = (maxByKey key xs).filter fun x => 0 < key x := by
  induction xs using List.reverseRecOn with
  | nil => rfl
  | append_singleton xs x ih =>
    rw [List.filter_append, maxByKey_append]
    by_cases hx : 0 < key x
    · rw [List.filter_singleton, decide_eq_true hx, Bool.cond_true, maxByKey_append, ih]
      rcases maxByKey key xs with _ | b
      · simp [laterGreatest, Option.filter_some, hx]
      by_cases hb : 0 < key b <;> by_cases hle : key b ≤ key x
      · simp [laterGreatest, Option.filter_some, hx, hb, hle]
      · simp [laterGreatest, Option.filter_some, hb, hle]
      · simp [laterGreatest, Option.filter_some, hx, hb, hle]
      · omega
    · rw [List.filter_singleton, decide_eq_false hx, Bool.cond_false, List.append_nil, ih]
      rcases maxByKey key xs with _ | b
      · simp [laterGreatest, Option.filter_some, hx]
      by_cases hle : key b ≤ key x
      · have hb : ¬0 < key b := by omega
        simp [laterGreatest, Option.filter_some, hx, hb, hle]
      · simp [laterGreatest, hle]

end LastGreatest

import Mathlib.Algebra.Order.BigOperators.Group.List
import Mathlib.Algebra.Order.Monoid.NatCast
import Mathlib.Algebra.Order.Ring.Nat

/-! # Loops that count

A loop over a list that may fail at an item, and otherwise adds to a count.  `foldlM_tally` gives
the count of the whole loop from what one turn does; the turn may rely on an invariant of the state
and the items that are left. -/
namespace Tally

variable {α σ ε : Type}

/-- A result that is an error exactly when `fails` says so, and else has the property. -/
inductive Turns (fails : Bool) (P : σ → Prop) : Except ε σ → Prop where
  | error (e : ε) (h : fails = true) : Turns fails P (.error e)
  | ok (s : σ) (h : fails = false) (hP : P s) : Turns fails P (.ok s)

theorem ok_of_bind {α β : Type} {x : Except ε α} {f : α → Except ε β} {b : β}
    (h : x >>= f = .ok b) : ∃ a, x = .ok a ∧ f a = .ok b := by
  cases x with
  | error e => cases h
  | ok a => exact ⟨a, rfl, h⟩

/-- The items and the results of a loop that may fail, when it does not. -/
theorem mapM_ok {α β : Type} {f : α → Except ε β} {xs : List α} {ys : List β}
    (h : xs.mapM f = .ok ys) :
    (∀ x ∈ xs, ∃ y ∈ ys, f x = .ok y) ∧ ∀ y ∈ ys, ∃ x ∈ xs, f x = .ok y := by
  induction xs generalizing ys with
  | nil =>
    cases h
    simp
  | cons x xs ih =>
    rw [List.mapM_cons] at h
    obtain ⟨y, hy, h⟩ := ok_of_bind h
    obtain ⟨rest, hrest, h⟩ := ok_of_bind h
    cases h
    obtain ⟨hitems, hresults⟩ := ih hrest
    constructor
    · refine List.forall_mem_cons.mpr ⟨⟨y, List.mem_cons_self, hy⟩, fun item hitem => ?_⟩
      obtain ⟨result, hmem, hitem⟩ := hitems item hitem
      exact ⟨result, List.mem_cons_of_mem y hmem, hitem⟩
    · refine List.forall_mem_cons.mpr ⟨⟨x, List.mem_cons_self, hy⟩, fun result hresult => ?_⟩
      obtain ⟨item, hmem, hresult⟩ := hresults result hresult
      exact ⟨item, List.mem_cons_of_mem x hmem, hresult⟩

theorem Turns.mono {fails : Bool} {P Q : σ → Prop} {result : Except ε σ} (h : Turns fails P result)
    (hPQ : ∀ s, P s → Q s) : Turns fails Q result := by
  cases h with
  | error e he => exact .error e he
  | ok s hs hP => exact .ok s hs (hPQ s hP)

/-- The counts of the items, or nothing if the loop fails at one of them. -/
def total (fails : α → Bool) (count : α → Nat) (items : List α) : Option Nat :=
  if items.any fails then none else some (items.map count).sum

theorem foldlM_tally {step : σ → α → Except ε σ} {fails : α → Bool} {count : α → Nat}
    (Inv : List α → σ → Prop) (measure : σ → Nat) (hstep : ∀ a rest s, Inv (a :: rest) s →
      Turns (fails a) (fun s' => measure s' = measure s + count a ∧ Inv rest s') (step s a))
    (items : List α) (s : σ) (hinv : Inv items s) :
    (items.foldlM step s).toOption.map measure =
      (total fails count items).map (measure s + ·) := by
  induction items generalizing s with
  | nil => simp [total, pure, Except.pure, Except.toOption]
  | cons a rest ih =>
    have ha := hstep a rest s hinv
    rw [List.foldlM_cons]
    generalize hresult : step s a = result at ha
    cases ha with
    | error e hfails => simp [total, hfails, bind, Except.bind, Except.toOption]
    | ok s' hfails hP =>
      show (rest.foldlM step s').toOption.map measure = _
      rw [ih s' hP.2, hP.1]
      unfold total
      by_cases hany : rest.any fails = true
      · simp [hany, hfails]
      · simp [hany, hfails, Nat.add_assoc]

theorem total_eq_iff {fails fails' : α → Bool} {count count' : α → Nat} (items : List α) :
    total fails count items = total fails' count' items ↔
      (items.any fails = true ∧ items.any fails' = true) ∨
      (items.any fails = false ∧ items.any fails' = false ∧
        (items.map count).sum = (items.map count').sum) := by
  unfold total
  cases items.any fails <;> cases items.any fails' <;> simp

/-- Where every item counts at most as much, the sums agree only if the items do. -/
theorem sum_eq_iff {f g : α → Nat} (items : List α) (hle : ∀ a ∈ items, f a ≤ g a) :
    (items.map f).sum = (items.map g).sum ↔ ∀ a ∈ items, f a = g a := by
  induction items with
  | nil => simp
  | cons a rest ih =>
    have hrest : ∀ b ∈ rest, f b ≤ g b := fun b hb => hle b (List.mem_cons_of_mem _ hb)
    have hsum : (rest.map f).sum ≤ (rest.map g).sum := List.sum_le_sum hrest
    have ha := hle a List.mem_cons_self
    simp only [List.map_cons, List.sum_cons, List.forall_mem_cons]
    rw [← ih hrest]
    omega

/-- A change of one item that adds `k` to its count adds `k` to the sum. -/
theorem sum_modify {f : α → α} (count : α → Nat) {k : Nat} (hf : ∀ a, count (f a) = count a + k)
    {items : List α} {i : Nat} (hi : i < items.length) :
    ((items.modify i f).map count).sum = (items.map count).sum + k := by
  induction items generalizing i with
  | nil => exact absurd hi (Nat.not_lt_zero i)
  | cons a rest ih =>
    cases i with
    | zero =>
      simp only [List.modify_zero_cons, List.map_cons, List.sum_cons, hf]
      omega
    | succ j =>
      have hrest := ih (Nat.lt_of_succ_lt_succ hi)
      simp only [List.modify_succ_cons, List.map_cons, List.sum_cons, hrest]
      omega

end Tally

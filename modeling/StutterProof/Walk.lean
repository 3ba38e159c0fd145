import Mathlib.Data.List.Basic

/-! # Loops that may return early

A loop over a list with a state, that logs effects and may leave with an error.  Two loops whose
turns match leave the same log (`run_lockstep`); a loop whose turns stop at some items visits all
of them exactly when no item but the last stops it (`run_visited_iff`). -/
namespace Walk

variable {α σ τ ε δ ω : Type}

/-- One turn: what it logged, and the state it goes on with or the error it leaves with. -/
structure Turn (σ ε ω : Type) where
  effects : List ω
  next : Except ε σ

/-- A whole loop: how it ended, its log and how many items it visited. -/
structure Outcome (σ ε ω : Type) where
  answer : Except ε σ
  effects : List ω
  visited : Nat

def run (turn : α → σ → Turn σ ε ω) : List α → σ → Outcome σ ε ω
  | [], s => ⟨.ok s, [], 0⟩
  | a :: rest, s =>
    match (turn a s).next with
    | .error e => ⟨.error e, (turn a s).effects, 1⟩
    | .ok next =>
      let after := run turn rest next
      ⟨after.answer, (turn a s).effects ++ after.effects, after.visited + 1⟩

/-- Both went on with related states, or both left. -/
def Alike (R : σ → τ → Prop) : Except ε σ → Except δ τ → Prop
  | .ok s, .ok t => R s t
  | .error _, .error _ => True
  | _, _ => False

theorem run_lockstep (turn : α → σ → Turn σ ε ω) (turn' : α → τ → Turn τ δ ω) {R : σ → τ → Prop}
    {items : List α} (hturn : ∀ a ∈ items, ∀ s t, R s t → (turn a s).effects = (turn' a t).effects ∧
      Alike R (turn a s).next (turn' a t).next)
    {s : σ} {t : τ} (hR : R s t) :
    (run turn items s).effects = (run turn' items t).effects ∧
      (run turn items s).visited = (run turn' items t).visited ∧
      Alike R (run turn items s).answer (run turn' items t).answer := by
  induction items generalizing s t with
  | nil => exact ⟨rfl, rfl, hR⟩
  | cons a rest ih =>
    obtain ⟨heffects, hnext⟩ := hturn a List.mem_cons_self s t hR
    simp only [run]
    cases hs : (turn a s).next with
    | error e =>
      cases ht : (turn' a t).next with
      | error d => exact ⟨heffects, rfl, trivial⟩
      | ok t' => rw [hs, ht] at hnext; exact hnext.elim
    | ok s' =>
      cases ht : (turn' a t).next with
      | error d => rw [hs, ht] at hnext; exact hnext.elim
      | ok t' =>
        rw [hs, ht] at hnext
        obtain ⟨hlog, hvisited, hanswer⟩ :=
          ih (fun b hb => hturn b (List.mem_cons_of_mem a hb)) hnext
        exact ⟨congrArg₂ (· ++ ·) heffects hlog, congrArg (· + 1) hvisited, hanswer⟩

section Stops
variable {turn : α → σ → Turn σ ε ω} {stops : α → Prop} (items : List α)
  (hstops : ∀ a ∈ items, ∀ s, (∃ e, (turn a s).next = .error e) ↔ stops a)
include hstops

/-- The loop ends with a state exactly when no item stops it. -/
theorem run_ok_iff (s : σ) :
    (∃ last, (run turn items s).answer = .ok last) ↔ ∀ a ∈ items, ¬ stops a := by
  induction items generalizing s with
  | nil => simp [run]
  | cons a rest ih =>
    have hfirst := hstops a List.mem_cons_self s
    simp only [run, List.forall_mem_cons]
    cases hs : (turn a s).next with
    | error e =>
      have : stops a := hfirst.mp ⟨e, hs⟩
      simp [this]
    | ok next =>
      have hgoes : ¬ stops a := fun h => by
        obtain ⟨e, he⟩ := hfirst.mpr h
        rw [hs] at he
        cases he
      simp only [hgoes, not_false_eq_true, true_and]
      exact ih (fun b hb => hstops b (List.mem_cons_of_mem a hb)) next

/-- The loop visits every item exactly when none but the last stops it. -/
theorem run_visited_iff (s : σ) :
    (run turn items s).visited = items.length ↔ ∀ a ∈ items.dropLast, ¬ stops a := by
  induction items generalizing s with
  | nil => simp [run]
  | cons a rest ih =>
    have hfirst := hstops a List.mem_cons_self s
    simp only [run]
    cases hs : (turn a s).next with
    | error e =>
      have hstop : stops a := hfirst.mp ⟨e, hs⟩
      cases rest with
      | nil => simp
      | cons b rest => simp [hstop]
    | ok next =>
      have hgoes : ¬ stops a := fun h => by
        obtain ⟨e, he⟩ := hfirst.mpr h
        rw [hs] at he
        cases he
      have hrest := ih (fun b hb => hstops b (List.mem_cons_of_mem a hb)) next
      cases rest with
      | nil => simp [run]
      | cons b rest =>
        simp only [List.length_cons, Nat.add_right_cancel_iff] at hrest ⊢
        simp only [List.dropLast_cons_cons, List.forall_mem_cons, hgoes, not_false_eq_true,
          true_and]
        exact hrest

end Stops

theorem run_visited_le (turn : α → σ → Turn σ ε ω) (items : List α) (s : σ) :
    (run turn items s).visited ≤ items.length := by
  induction items generalizing s with
  | nil => simp [run]
  | cons a rest ih =>
    simp only [run, List.length_cons]
    cases (turn a s).next with
    | error e => simp
    | ok next => exact Nat.succ_le_succ (ih next)

/-- Where a turn's log depends on its item only, the loop's log is that of the visited items. -/
theorem run_effects {turn : α → σ → Turn σ ε ω} (log : α → List ω)
    (hlog : ∀ a s, (turn a s).effects = log a) (items : List α) (s : σ) :
    (run turn items s).effects = (items.take (run turn items s).visited).flatMap log := by
  induction items generalizing s with
  | nil => simp [run]
  | cons a rest ih =>
    simp only [run]
    cases (turn a s).next with
    | error e => simp [hlog]
    | ok next =>
      rw [List.take_succ_cons, List.flatMap_cons, hlog, ← ih next]

end Walk

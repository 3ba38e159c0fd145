import Mathlib.Data.List.Basic
import Mathlib.Tactic.Common

/-! # Maximal runs of consecutive numbers

`runsFrom first last numbers` cuts an ascending list into runs of consecutive numbers, where the
first run is already known to reach from `first` to `last`.  The runs are `Maximal`: each is
non-empty, and between two of them at least one number is missing.  Maximal lists of runs that cover
the same numbers are equal. -/
namespace Runs

def runsFrom (first last : Nat) : List Nat → List (Nat × Nat)
  | [] => [(first, last)]
  | n :: rest => if n = last + 1 then runsFrom first n rest else (first, last) :: runsFrom n n rest

def runs : List Nat → List (Nat × Nat)
  | [] => []
  | n :: rest => runsFrom n n rest

def Covers (list : List (Nat × Nat)) (n : Nat) : Prop := ∃ run ∈ list, run.1 ≤ n ∧ n ≤ run.2

/-- The runs are nonempty and apart. -/
structure Maximal (list : List (Nat × Nat)) : Prop where
  nonempty : ∀ run ∈ list, run.1 ≤ run.2
  apart : list.Pairwise fun run later => run.2 + 1 < later.1

variable {list other : List (Nat × Nat)} {first last n : Nat} {numbers : List Nat}

theorem covers_cons {run : Nat × Nat} :
    Covers (run :: list) n ↔ (run.1 ≤ n ∧ n ≤ run.2) ∨ Covers list n := by
  simp only [Covers, List.exists_mem_cons_iff]

theorem not_covers_nil (n : Nat) : ¬ Covers [] n := by
  rintro ⟨run, hmem, -⟩
  exact absurd hmem List.not_mem_nil

theorem covers_runsFrom (hrun : first ≤ last) (hascending : (last :: numbers).Pairwise (· < ·)) :
    Covers (runsFrom first last numbers) n ↔ (first ≤ n ∧ n ≤ last) ∨ n ∈ numbers := by
  induction numbers generalizing first last with
  | nil => simp [runsFrom, Covers]
  | cons m rest ih =>
    obtain ⟨hlast, hrest⟩ := List.pairwise_cons.mp hascending
    have hm : last < m := hlast m List.mem_cons_self
    unfold runsFrom
    by_cases hnext : m = last + 1
    · rw [if_pos hnext, ih (by omega) hrest, List.mem_cons]
      constructor
      · rintro (⟨hfirst, hle⟩ | hmem)
        · by_cases hn : n = m
          · exact .inr (.inl hn)
          · exact .inl ⟨hfirst, by omega⟩
        · exact .inr (.inr hmem)
      · rintro (⟨hfirst, hle⟩ | rfl | hmem)
        · exact .inl ⟨hfirst, by omega⟩
        · exact .inl ⟨by omega, Nat.le_refl _⟩
        · exact .inr hmem
    · rw [if_neg hnext, covers_cons, ih (Nat.le_refl m) hrest, List.mem_cons]
      constructor
      · rintro (h | h | hmem)
        · exact .inl h
        · exact .inr (.inl (by omega))
        · exact .inr (.inr hmem)
      · rintro (h | rfl | hmem)
        · exact .inl h
        · exact .inr (.inl ⟨Nat.le_refl _, Nat.le_refl _⟩)
        · exact .inr (.inr hmem)

theorem covers_runs (hascending : numbers.Pairwise (· < ·)) :
    Covers (runs numbers) n ↔ n ∈ numbers := by
  cases numbers with
  | nil => simp [runs, Covers]
  | cons m rest =>
    rw [runs, covers_runsFrom (Nat.le_refl m) hascending, List.mem_cons]
    constructor
    · rintro (h | hmem)
      · exact .inl (by omega)
      · exact .inr hmem
    · rintro (rfl | hmem)
      · exact .inl ⟨Nat.le_refl _, Nat.le_refl _⟩
      · exact .inr hmem

theorem le_of_mem_runsFrom (hascending : (last :: numbers).Pairwise (· < ·)) (hrun : first ≤ last) :
    ∀ run ∈ runsFrom first last numbers, first ≤ run.1 ∧ run.1 ≤ run.2 := by
  induction numbers generalizing first last with
  | nil => simpa [runsFrom] using hrun
  | cons m rest ih =>
    obtain ⟨hlast, hrest⟩ := List.pairwise_cons.mp hascending
    have hm : last < m := hlast m List.mem_cons_self
    intro run hmem
    unfold runsFrom at hmem
    split at hmem
    · exact ih hrest (by omega) run hmem
    · obtain rfl | hmem := List.mem_cons.mp hmem
      · exact ⟨Nat.le_refl _, hrun⟩
      · have hrun' := ih hrest (Nat.le_refl m) run hmem
        exact ⟨by omega, hrun'.2⟩

theorem maximal_runsFrom (hascending : (last :: numbers).Pairwise (· < ·)) (hrun : first ≤ last) :
    Maximal (runsFrom first last numbers) := by
  refine ⟨fun run hmem => (le_of_mem_runsFrom hascending hrun run hmem).2, ?_⟩
  induction numbers generalizing first last with
  | nil => exact List.pairwise_singleton _ _
  | cons m rest ih =>
    obtain ⟨hlast, hrest⟩ := List.pairwise_cons.mp hascending
    have hm : last < m := hlast m List.mem_cons_self
    unfold runsFrom
    split
    · exact ih hrest (by omega)
    · next hnext =>
      refine List.pairwise_cons.mpr ⟨fun run hmem => ?_, ih hrest (Nat.le_refl m)⟩
      have hstart := (le_of_mem_runsFrom hrest (Nat.le_refl m) run hmem).1
      show last + 1 < run.1
      omega

theorem maximal_runs (hascending : numbers.Pairwise (· < ·)) : Maximal (runs numbers) := by
  cases numbers with
  | nil => exact ⟨nofun, List.Pairwise.nil⟩
  | cons m rest => exact maximal_runsFrom hascending (Nat.le_refl m)

end Runs

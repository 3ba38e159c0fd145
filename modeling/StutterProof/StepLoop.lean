import Mathlib.Data.Fintype.Pigeonhole
import Mathlib.Data.Prod.Lex
import Mathlib.Logic.Relation

/-! # Loops

A loop is one turn, which goes on with a state or ends with a result.  `run` makes a given number
of turns, `Ends` says that some number is enough.

`ends_of_measure` and `Ends.post` are the two rules of a loop with an invariant.  Over finitely many
states a loop ends exactly if it comes to no state a second time (`ends_iff_no_cycle`). -/
namespace StepLoop

variable {σ α : Type*} {turn : σ → σ ⊕ α}

/-- The result of a loop that ends in so many turns. -/
def run (turn : σ → σ ⊕ α) : Nat → σ → Option α
  | 0, _ => none
  | fuel + 1, state =>
    match turn state with
    | .inl next => run turn fuel next
    | .inr result => some result

def Ends (turn : σ → σ ⊕ α) (state : σ) (result : α) : Prop :=
  ∃ fuel, run turn fuel state = some result

/-- The turn goes on. -/
def Goes (turn : σ → σ ⊕ α) (state next : σ) : Prop := turn state = .inl next

/-! ## Runs -/

theorem run_of_goes {state next : σ} (h : Goes turn state next) (fuel : Nat) :
    run turn (fuel + 1) state = run turn fuel next := by
  rw [run, h]

variable {state : σ} {result : α}

theorem run_of_result (h : turn state = .inr result) (fuel : Nat) :
    run turn (fuel + 1) state = some result := by
  rw [run, h]

theorem ends_of_result (h : turn state = .inr result) : Ends turn state result :=
  ⟨1, run_of_result h 0⟩

theorem ends_iff_of_goes {state next : σ} (h : Goes turn state next) :
    Ends turn state result ↔ Ends turn next result := by
  constructor
  · rintro ⟨fuel, hrun⟩
    rcases fuel with _ | fuel
    · contradiction
    · exact ⟨fuel, run_of_goes h fuel ▸ hrun⟩
  · rintro ⟨fuel, hrun⟩
    exact ⟨fuel + 1, (run_of_goes h fuel).trans hrun⟩

/-- More turns do not change a result. -/
theorem run_mono {fuel more : Nat} (hle : fuel ≤ more)
    (h : run turn fuel state = some result) : run turn more state = some result := by
  induction fuel generalizing more state with
  | zero => contradiction
  | succ fuel ih =>
    obtain ⟨more, rfl⟩ : ∃ k, more = k + 1 := ⟨more - 1, by omega⟩
    rcases hturn : turn state with next | other
    · rw [run_of_goes hturn] at h ⊢
      exact ih (by omega) h
    · rw [run_of_result hturn] at h ⊢
      exact h

theorem Ends.unique {left right : α} (hleft : Ends turn state left)
    (hright : Ends turn state right) :
    left = right := by
  obtain ⟨m, hm⟩ := hleft
  obtain ⟨n, hn⟩ := hright
  have hsame := run_mono (Nat.le_max_left m n) hm
  rw [run_mono (Nat.le_max_right m n) hn] at hsame
  exact (Option.some.inj hsame).symm

/-- The result of a loop that is known to end. -/
def resultOf (turn : σ → σ ⊕ α) (state : σ) (h : ∃ fuel, (run turn fuel state).isSome) : α :=
  (run turn (Nat.find h) state).get (Nat.find_spec h)

theorem ends_resultOf (h : ∃ fuel, (run turn fuel state).isSome) :
    Ends turn state (resultOf turn state h) :=
  ⟨Nat.find h, (Option.some_get (Nat.find_spec h)).symm⟩

/-! ## The rules of an invariant -/

/-- What an invariant says of the end holds of the result. -/
theorem Ends.post (Inv : σ → Prop) (Post : α → Prop) (hends : Ends turn state result)
    (hinv : Inv state) (hstep : ∀ state next, Inv state → Goes turn state next → Inv next)
    (hpost : ∀ state result, Inv state → turn state = .inr result → Post result) : Post result := by
  obtain ⟨fuel, hrun⟩ := hends
  induction fuel generalizing state with
  | zero => contradiction
  | succ fuel ih =>
    rcases hturn : turn state with next | other
    · rw [run_of_goes hturn] at hrun
      exact ih (hstep state next hinv hturn) hrun
    · rw [run_of_result hturn] at hrun
      obtain rfl := Option.some.inj hrun
      exact hpost state other hinv hturn

/-- A loop ends where each turn that goes on makes something less. -/
theorem ends_of_measure {β : Type*} [Preorder β] [WellFoundedLT β] (turn : σ → σ ⊕ α)
    (measure : σ → β) (Inv : σ → Prop) (hinv : Inv state)
      (hstep : ∀ state next, Inv state → Goes turn state next →
      Inv next ∧ measure next < measure state) :
    ∃ result, Ends turn state result := by
  generalize hsize : measure state = size
  induction size using WellFoundedLT.induction generalizing state with
  | ind size ih =>
    rcases hturn : turn state with next | result
    · obtain ⟨hnext, hless⟩ := hstep state next hinv hturn
      obtain ⟨result, hends⟩ := ih (measure next) (hsize ▸ hless) hnext rfl
      exact ⟨result, (ends_iff_of_goes hturn).mpr hends⟩
    · exact ⟨result, ends_of_result hturn⟩

/-! ## Loops that do not end -/

/-- A set of states that is never left is a set of states from which nothing ends. -/
theorem not_ends_of_closed (inside : σ → Prop)
    (hclosed : ∀ state, inside state → ∃ next, Goes turn state next ∧ inside next)
    (h : inside state) (result : α) : ¬Ends turn state result := by
  rintro ⟨fuel, hrun⟩
  induction fuel generalizing state with
  | zero => contradiction
  | succ fuel ih =>
    obtain ⟨next, hgoes, hnext⟩ := hclosed state h
    rw [run_of_goes hgoes] at hrun
    exact ih hnext hrun

theorem not_ends_of_cycle {state again : σ} (hreach : Relation.ReflTransGen (Goes turn) state again)
    (hcycle : Relation.TransGen (Goes turn) again again) (result : α) :
    ¬Ends turn state result := by
  refine not_ends_of_closed (fun state => Relation.ReflTransGen (Goes turn) state again) ?_ hreach
    result
  intro state hback
  rcases Relation.ReflTransGen.cases_head hback with rfl | ⟨next, hgoes, hrest⟩
  · obtain ⟨next, hgoes, hrest⟩ := Relation.TransGen.head'_iff.mp hcycle
    exact ⟨next, hgoes, hrest⟩
  · exact ⟨next, hgoes, hrest⟩

/-- Where nothing ends, the turns make an infinite run. -/
theorem exists_run_of_not_ends (h : ∀ result, ¬Ends turn state result) :
    ∃ states : Nat → σ, states 0 = state ∧ ∀ n, Goes turn (states n) (states (n + 1)) := by
  have hnext : ∀ s : {s : σ // ∀ result, ¬Ends turn s result},
      ∃ t : {s : σ // ∀ result, ¬Ends turn s result}, Goes turn s.1 t.1 := by
    rintro ⟨s, hs⟩
    rcases hturn : turn s with t | result
    · exact ⟨⟨t, fun result hends => hs result ((ends_iff_of_goes hturn).mpr hends)⟩, hturn⟩
    · exact absurd (ends_of_result hturn) (hs result)
  choose step hstep using hnext
  refine ⟨fun n => (step^[n] ⟨state, h⟩).1, rfl, fun n => ?_⟩
  simp only [Function.iterate_succ_apply']
  exact hstep _

theorem reflTransGen_of_run {states : Nat → σ} (h : ∀ n, Goes turn (states n) (states (n + 1)))
    {m n : Nat} (hle : m ≤ n) : Relation.ReflTransGen (Goes turn) (states m) (states n) := by
  induction n, hle using Nat.le_induction with
  | base => exact .refl
  | succ n _ ih => exact ih.tail (h n)

/-- Of finitely many states a loop without an end comes to one twice. -/
theorem exists_cycle_of_not_ends (turn : σ → σ ⊕ α) {known : Set σ} (hfinite : known.Finite)
    (hstays : ∀ state next, Goes turn state next → state ∈ known)
    (h : ∀ result, ¬Ends turn state result) :
    ∃ again, Relation.ReflTransGen (Goes turn) state again ∧
      Relation.TransGen (Goes turn) again again := by
  obtain ⟨states, rfl, hruns⟩ := exists_run_of_not_ends h
  have := hfinite.to_subtype
  obtain ⟨m, n, hne, hsame⟩ : ∃ m n, m ≠ n ∧ states m = states n := by
    obtain ⟨m, n, hne, hsame⟩ := Finite.exists_ne_map_eq_of_infinite
      fun n => (⟨states n, hstays _ _ (hruns n)⟩ : known)
    exact ⟨m, n, hne, congrArg Subtype.val hsame⟩
  wlog hlt : m < n generalizing m n
  · exact this n m hne.symm hsame.symm (by omega)
  refine ⟨states m, reflTransGen_of_run hruns (Nat.zero_le m), ?_⟩
  have hback := reflTransGen_of_run hruns (Nat.succ_le_of_lt hlt)
  rw [← hsame] at hback
  exact Relation.TransGen.head' (hruns m) hback

theorem ends_iff_no_cycle {known : Set σ} (hfinite : known.Finite)
    (hstays : ∀ state next, Goes turn state next → state ∈ known) (state : σ) :
    (∃ result, Ends turn state result) ↔
      ¬∃ again, Relation.ReflTransGen (Goes turn) state again ∧
        Relation.TransGen (Goes turn) again again := by
  constructor
  · rintro ⟨result, hends⟩ ⟨again, hreach, hcycle⟩
    exact not_ends_of_cycle hreach hcycle result hends
  · intro hno
    by_contra h
    exact hno (exists_cycle_of_not_ends turn hfinite hstays fun result hends => h ⟨result, hends⟩)

end StepLoop

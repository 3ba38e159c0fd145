import Mathlib.Data.List.Induction

/-! # Logs whose events follow a rule

A rule says which event may come after which events.  A log is clean when each of its events follows
the rule, seen from the events before it.  A log grows at its end, so `clean_concat` is what a call
of a program has to show, and `clean_append` what a part of its run has to show. -/
namespace EventLog

variable {ε : Type}

/-- Each event of the log follows the rule. -/
def Clean (Fits : List ε → ε → Prop) (log : List ε) : Prop :=
  ∀ before event after, log = before ++ event :: after → Fits before event

variable {Fits : List ε → ε → Prop}

theorem clean_nil : Clean Fits [] := by
  intro before event after h
  exact absurd h.symm (by simp)

variable {log : List ε}

theorem clean_concat {event : ε} :
    Clean Fits (log ++ [event]) ↔ Clean Fits log ∧ Fits log event := by
  constructor
  · intro h
    refine ⟨fun before other after heq => ?_, h log event [] rfl⟩
    exact h before other (after ++ [event]) (by rw [heq, List.append_assoc]; rfl)
  · rintro ⟨hlog, hfits⟩ before other after heq
    rcases List.eq_nil_or_concat after with rfl | ⟨rest, last, rfl⟩
    · obtain ⟨rfl, hlast⟩ := List.append_inj' heq rfl
      obtain rfl := List.singleton_inj.mp hlast
      exact hfits
    · have heq' : log ++ [event] = (before ++ other :: rest) ++ [last] := by
        rw [heq, List.concat_eq_append, List.append_assoc, List.cons_append]
      obtain ⟨hinit, -⟩ := List.append_inj' heq' rfl
      exact hlog before other rest hinit

/-- A log after another one: each of its events has the first log before it. -/
theorem clean_append {log segment : List ε} :
    Clean Fits (log ++ segment) ↔
      Clean Fits log ∧ Clean (fun before => Fits (log ++ before)) segment := by
  induction segment using List.reverseRecOn with
  | nil => simpa using fun _ => clean_nil
  | append_singleton segment event ih =>
    rw [← List.append_assoc, clean_concat, clean_concat, ih, and_assoc]

/-- Events that may stand anywhere make a clean log. -/
theorem clean_of_forall (h : ∀ event ∈ log, ∀ before, Fits before event) : Clean Fits log :=
  fun before event after heq => h event (heq ▸ by simp) before

theorem Clean.mono {Fits' : List ε → ε → Prop} (h : Clean Fits log)
    (hmono : ∀ before event, Fits before event → Fits' before event) : Clean Fits' log :=
  fun before event after heq => hmono before event (h before event after heq)

end EventLog

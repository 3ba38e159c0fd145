import StutterProof.FallibleOp

/-! # Runs of fallible operations

A run performs one operation after another, whatever each of them answers.  What every
allowed operation keeps holds of every state a run reaches. -/
namespace Fallible

variable {σ ε α Act : Type}

/-- The states a run reaches from `start`: an operation may be performed in the states
it is allowed in. -/
inductive Reached (perform : Act → Op σ ε α) (allowed : Act → σ → Prop) (start : σ) : σ → Prop where
  | start : Reached perform allowed start start
  | step {s : σ} (act : Act) (h : Reached perform allowed start s) (hact : allowed act s) :
      Reached perform allowed start ((perform act).run s).state

/-- The run rule: one step lemma gives the property of whole runs. -/
theorem Reached.invariant {perform : Act → Op σ ε α} {allowed : Act → σ → Prop} {start s : σ}
    {P : σ → Prop} (h : Reached perform allowed start s) (hstart : P start)
    (hstep : ∀ act s, allowed act s → P s →
      Op.Holds (perform act) (fun _ => True) (fun _ t => P t) s) : P s := by
  induction h with
  | start => exact hstart
  | step act _ hact ih => exact (hstep act _ hact ih).2

end Fallible

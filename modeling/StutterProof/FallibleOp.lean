import Mathlib.Data.List.Basic
import Mathlib.Tactic.Common

/-! # Fallible operations with crash points

An operation over a state `σ` either returns a value or fails, and in both cases
leaves a state behind: a failed step does not undo the updates made before it.
The run also records every state an atomic update left (`Ran.visited`).  A
process that dies inside the operation leaves the state it started from or one of
the visited states, so a property that must survive a crash is a property of all
of them.

`Op.Holds m I Q s` says both things at once: from `s`, every visited state of `m`
satisfies the crash invariant `I`, and the outcome satisfies `Q`.  Each
constructor of an operation has one rule for `Holds`; the rules are equivalences,
so that a program is taken apart by rewriting. -/
namespace Fallible

/-- What one run of an operation yields: its answer, the state it leaves, and the
states its atomic updates left on the way, oldest first. -/
structure Ran (σ ε α : Type) where
  result : Except ε α
  state : σ
  visited : List σ

/-- An operation over the state `σ` that returns an `α` or fails with an `ε`. -/
structure Op (σ ε α : Type) where
  run : σ → Ran σ ε α

namespace Op
variable {σ τ ε ε' α β : Type}

/-- Return `a`, changing nothing. -/
def ret (a : α) : Op σ ε α := ⟨fun s => ⟨.ok a, s, []⟩⟩

/-- Fail with `e`, changing nothing. -/
def fail (e : ε) : Op σ ε α := ⟨fun s => ⟨.error e, s, []⟩⟩

/-- Run `m`, then `f` on its value from the state `m` left; stop at a failure. -/
def andThen (m : Op σ ε α) (f : α → Op σ ε β) : Op σ ε β where
  run s :=
    match (m.run s).result with
    | .ok a =>
      let next := (f a).run (m.run s).state
      ⟨next.result, next.state, (m.run s).visited ++ next.visited⟩
    | .error e => ⟨.error e, (m.run s).state, (m.run s).visited⟩

instance : Monad (Op σ ε) where
  pure := ret
  bind := andThen

theorem andThen_ret (m : Op σ ε α) : andThen m (fun a => ret a) = m := by
  obtain ⟨run⟩ := m
  simp only [andThen, ret, Op.mk.injEq]
  funext s
  rcases hr : run s with ⟨_ | _, _, _⟩ <;> simp

theorem ret_andThen (a : α) (f : α → Op σ ε β) : andThen (ret a) f = f a := by
  simp [andThen, ret]

theorem andThen_assoc {γ : Type} (m : Op σ ε α) (f : α → Op σ ε β) (g : β → Op σ ε γ) :
    andThen (andThen m f) g = andThen m fun a => andThen (f a) g := by
  simp only [andThen, Op.mk.injEq]
  funext s
  cases hm : (m.run s).result with
  | error e => simp
  | ok a => cases hf : ((f a).run (m.run s).state).result <;> simp [hf]

instance : LawfulMonad (Op σ ε) := LawfulMonad.mk' (Op σ ε) andThen_ret ret_andThen andThen_assoc

/-- Read a part of the state. -/
def gets (f : σ → α) : Op σ ε α := ⟨fun s => ⟨.ok (f s), s, []⟩⟩

/-- One atomic update that also answers: the state it leaves is a crash point
whether it succeeds or fails. -/
def act (f : σ → Except ε α × σ) : Op σ ε α :=
  ⟨fun s => ⟨(f s).1, (f s).2, [(f s).2]⟩⟩

/-- One atomic update that cannot fail. -/
def update (f : σ → σ) : Op σ ε Unit := act fun s => (.ok (), f s)

/-- Change volatile state.  The process's own memory is gone after a crash, so the
new state is not a crash point. -/
def assign (f : σ → σ) : Op σ ε Unit := ⟨fun s => ⟨.ok (), f s, []⟩⟩

/-- Turn the outcome of `m` into a value, as a `match` on a result does. -/
def attempt (m : Op σ ε α) : Op σ ε' (Except ε α) where
  run s := ⟨.ok (m.run s).result, (m.run s).state, (m.run s).visited⟩

/-- Return or fail as a computed result says. -/
def ofExcept (r : Except ε α) : Op σ ε α := ⟨fun s => ⟨r, s, []⟩⟩

/-- Fail with `e` unless `c` holds. -/
def ensure (c : Bool) (e : ε) : Op σ ε Unit := if c then ret () else fail e

/-- Run an operation on a part of a larger state. -/
def zoom (get : τ → σ) (set : σ → τ → τ) (m : Op σ ε α) : Op τ ε α where
  run t :=
    let ran := m.run (get t)
    ⟨ran.result, set ran.state t, ran.visited.map fun s => set s t⟩

/-- Run `m` with local variables: `enter` adds them to the state and `leave` drops
them.  The answer is the outcome of `m` with the locals it ended with. -/
def withLocals (enter : σ → τ) (leave : τ → σ) (m : Op τ ε α) : Op σ ε' (Except ε α × τ) where
  run s :=
    let ran := m.run (enter s)
    ⟨.ok (ran.result, ran.state), leave ran.state, ran.visited.map leave⟩

/-- Run `body` on every element, from left to right, stopping at a failure. -/
def forEach (body : α → Op σ ε Unit) : List α → Op σ ε Unit
  | [] => ret ()
  | a :: rest => andThen (body a) fun _ => forEach body rest

/-! ## The rules -/

/-- From `s`, every state `m` visits satisfies `I` and its outcome satisfies `Q`. -/
def Holds (m : Op σ ε α) (I : σ → Prop) (Q : Except ε α → σ → Prop) (s : σ) : Prop :=
  (∀ t ∈ (m.run s).visited, I t) ∧ Q (m.run s).result (m.run s).state

variable {I : σ → Prop} {Q : Except ε α → σ → Prop} {s : σ}

@[simp] theorem holds_pure {a : α} : Holds (pure a : Op σ ε α) I Q s ↔ Q (.ok a) s := by
  simp [Holds, pure, ret]

@[simp] theorem holds_ret {a : α} : Holds (ret a : Op σ ε α) I Q s ↔ Q (.ok a) s := by
  simp [Holds, ret]

@[simp] theorem holds_fail {e : ε} : Holds (fail e : Op σ ε α) I Q s ↔ Q (.error e) s := by
  simp [Holds, fail]

@[simp] theorem holds_gets {f : σ → α} : Holds (gets f : Op σ ε α) I Q s ↔ Q (.ok (f s)) s := by
  simp [Holds, gets]

@[simp] theorem holds_ofExcept {r : Except ε α} : Holds (ofExcept r : Op σ ε α) I Q s ↔ Q r s := by
  simp [Holds, ofExcept]

@[simp] theorem holds_act {f : σ → Except ε α × σ} :
    Holds (act f) I Q s ↔ I (f s).2 ∧ Q (f s).1 (f s).2 := by
  simp [Holds, act]

@[simp] theorem holds_update {f : σ → σ} {Q : Except ε Unit → σ → Prop} :
    Holds (update f) I Q s ↔ I (f s) ∧ Q (.ok ()) (f s) := by
  simp [update]

@[simp] theorem holds_assign {f : σ → σ} {Q : Except ε Unit → σ → Prop} :
    Holds (assign f) I Q s ↔ Q (.ok ()) (f s) := by
  simp [Holds, assign]

theorem holds_ensure {c : Bool} {e : ε} {Q : Except ε Unit → σ → Prop} :
    Holds (ensure c e) I Q s ↔ if c then Q (.ok ()) s else Q (.error e) s := by
  unfold ensure
  cases c <;> simp

variable {m : Op σ ε α} {f : α → Op σ ε β}

/-- Sequencing: the continuation runs from the state the first operation left; a
failure of the first operation is the failure of both. -/
theorem holds_andThen {Q : Except ε β → σ → Prop} :
    Holds (andThen m f) I Q s ↔
      Holds m I (fun r t => match r with
        | .ok a => Holds (f a) I Q t
        | .error e => Q (.error e) t) s := by
  unfold Holds andThen
  cases h : (m.run s).result with
  | ok a =>
    simp only [h, List.mem_append]
    constructor
    · intro ⟨hv, hq⟩
      exact ⟨fun t ht => hv t (.inl ht), fun t ht => hv t (.inr ht), hq⟩
    · intro ⟨hm, hf, hq⟩
      exact ⟨fun t ht => ht.elim (hm t) (hf t), hq⟩
  | error e => simp [h]

@[simp] theorem holds_bind {Q : Except ε β → σ → Prop} :
    Holds (m >>= f) I Q s ↔
      Holds m I (fun r t => match r with
        | .ok a => Holds (f a) I Q t
        | .error e => Q (.error e) t) s :=
  holds_andThen

@[simp] theorem holds_attempt {Q : Except ε' (Except ε α) → σ → Prop} :
    Holds (attempt m) I Q s ↔ Holds m I (fun r t => Q (.ok r) t) s := by
  simp [Holds, attempt]

@[simp] theorem holds_zoom {get : τ → σ} {set : σ → τ → τ}
    {I : τ → Prop} {Q : Except ε α → τ → Prop} {t : τ} :
    Holds (zoom get set m) I Q t ↔
      Holds m (fun s => I (set s t)) (fun r s => Q r (set s t)) (get t) := by
  simp [Holds, zoom]

@[simp] theorem holds_withLocals {enter : σ → τ} {leave : τ → σ} {m : Op τ ε α}
    {Q : Except ε' (Except ε α × τ) → σ → Prop} :
    Holds (withLocals enter leave m) I Q s ↔
      Holds m (fun t => I (leave t)) (fun r t => Q (.ok (r, t)) (leave t)) (enter s) := by
  simp [Holds, withLocals]

/-- Consequence: weaken what is known of a run. -/
theorem Holds.mono {I' : σ → Prop} {Q' : Except ε α → σ → Prop}
    (h : Holds m I Q s) (hI : ∀ t, I t → I' t) (hQ : ∀ r t, Q r t → Q' r t) : Holds m I' Q' s :=
  ⟨fun t ht => hI t (h.1 t ht), hQ _ _ h.2⟩

/-- Sequencing from what is known of the first operation. -/
theorem Holds.bind {Q' : Except ε β → σ → Prop} (h : Holds m I Q s)
    (hok : ∀ a t, Q (.ok a) t → Holds (f a) I Q' t)
    (herr : ∀ e t, Q (.error e) t → Q' (.error e) t) : Holds (m >>= f) I Q' s := by
  rw [holds_bind]
  refine h.mono (fun _ ht => ht) ?_
  rintro (e | a) t ht
  · exact herr e t ht
  · exact hok a t ht

/-- A sequence that returns was two operations that returned. -/
theorem result_bind_ok {s : σ} {b : β} (h : ((m >>= f).run s).result = .ok b) :
    ∃ a, (m.run s).result = .ok a ∧ ((f a).run (m.run s).state).result = .ok b := by
  cases hm : (m.run s).result with
  | error e => simp [bind, andThen, hm] at h
  | ok a => exact ⟨a, rfl, by simpa [bind, andThen, hm] using h⟩

/-- And the other way round. -/
theorem result_bind_of_ok {s : σ} {a : α} (h : (m.run s).result = .ok a) :
    ((m >>= f).run s).result = ((f a).run (m.run s).state).result := by
  simp [bind, andThen, h]

theorem result_ofExcept_bind {r : Except ε α} {s : σ} {a : α} (h : r = .ok a) :
    ((ofExcept r >>= f).run s).result = ((f a).run s).result :=
  result_bind_of_ok h

theorem result_withLocals {enter : σ → τ} {leave : τ → σ} {m : Op τ ε α} {s : σ} :
    ((withLocals enter leave m : Op σ ε' (Except ε α × τ)).run s).result =
      .ok ((m.run (enter s)).result, (m.run (enter s)).state) := rfl

/-- Nothing is assumed of `m`: whatever holds of every outcome holds of its. -/
theorem holds_of_forall (hI : ∀ t, I t) (hQ : ∀ r t, Q r t) : Holds m I Q s :=
  ⟨fun t _ => hI t, hQ _ _⟩

/-- Two facts about one run are one fact. -/
theorem Holds.and {I' : σ → Prop} {Q' : Except ε α → σ → Prop}
    (h : Holds m I Q s) (h' : Holds m I' Q' s) :
    Holds m (fun t => I t ∧ I' t) (fun r t => Q r t ∧ Q' r t) s :=
  ⟨fun t ht => ⟨h.1 t ht, h'.1 t ht⟩, h.2, h'.2⟩

end Op
end Fallible

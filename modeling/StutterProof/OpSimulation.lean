import StutterProof.FallibleOp

/-! # Operations that answer alike

Two operations over different states simulate one another when from related states they answer the
same and leave related states.  Each constructor keeps this, so that two programs of one shape are
compared step by step.  The states on the way are not compared. -/
namespace Fallible.Op

variable {σ τ ε ε' α β : Type}

/-- From related states the operations answer the same and leave related states. -/
def Alike (R : σ → τ → Prop) (m : Op σ ε α) (m' : Op τ ε α) : Prop :=
  ∀ s t, R s t → (m.run s).result = (m'.run t).result ∧ R (m.run s).state (m'.run t).state

variable {R : σ → τ → Prop}

theorem alike_pure (a : α) : Alike R (pure a : Op σ ε α) (pure a) :=
  fun _ _ h => ⟨rfl, h⟩

theorem alike_ret (a : α) : Alike R (ret a : Op σ ε α) (ret a) :=
  fun _ _ h => ⟨rfl, h⟩

theorem alike_ofExcept (r : Except ε α) : Alike R (ofExcept r) (ofExcept r) :=
  fun _ _ h => ⟨rfl, h⟩

/-- Atomic updates that answer the same and keep the relation. -/
theorem alike_act {f : σ → Except ε α × σ} {g : τ → Except ε α × τ}
    (h : ∀ s t, R s t → (f s).1 = (g t).1 ∧ R (f s).2 (g t).2) : Alike R (act f) (act g) :=
  h

variable {m' : Op τ ε α} {m : Op σ ε α}

theorem Alike.bind {f : α → Op σ ε β} {f' : α → Op τ ε β} (h : Alike R m m')
    (hf : ∀ a, Alike R (f a) (f' a)) : Alike R (m >>= f) (m' >>= f') := by
  intro s t hst
  obtain ⟨hresult, hstate⟩ := h s t hst
  simp only [Bind.bind, andThen, hresult]
  cases (m'.run t).result with
  | error e => exact ⟨rfl, hstate⟩
  | ok a => exact hf a _ _ hstate

theorem Alike.attempt (h : Alike R m m') :
    Alike R (attempt m : Op σ ε' (Except ε α)) (attempt m') := by
  intro s t hst
  obtain ⟨hresult, hstate⟩ := h s t hst
  exact ⟨congrArg Except.ok hresult, hstate⟩

/-- An operation on a part of the state, next to one on the whole of another. -/
theorem Alike.zoom {ρ : Type} {get : ρ → σ} {set : σ → ρ → ρ} {R' : ρ → τ → Prop}
    (h : Alike R m m') (hget : ∀ s t, R' s t → R (get s) t)
    (hset : ∀ s u t, R u t → R' (set u s) t) : Alike R' (zoom get set m) m' := by
  intro s t hst
  obtain ⟨hresult, hstate⟩ := h (get s) t (hget s t hst)
  exact ⟨hresult, hset s _ _ hstate⟩

end Fallible.Op

import Mathlib.Data.List.Basic

/-! # The last event that touches a value

Some events of a sequence write one value and the others leave it.  What is read after the sequence
is what the last of them wrote: the sequence splits at that event, and none of those after it
touches the value (`after_eq_iff`).  A state of which the value is read and that changes so is a
fold of the events (`foldl_read`). -/
namespace LastTouch

variable {E V : Type} (touch : E → Option V)

def after (value : V) (events : List E) : V :=
  events.foldl (fun value event => (touch event).getD value) value

variable {touch} {value written : V} {events : List E}

theorem after_cons (value : V) (event : E) (events : List E) :
    after touch value (event :: events) = after touch ((touch event).getD value) events := rfl

theorem after_eq_iff : after touch value events = written ↔
    (∃ before event later, events = before ++ event :: later ∧ touch event = some written ∧
      ∀ other ∈ later, touch other = none) ∨
    value = written ∧ ∀ event ∈ events, touch event = none := by
  induction events generalizing value with
  | nil => simp [after]
  | cons first rest ih =>
    rw [after_cons, ih]
    constructor
    · rintro (⟨before, last, later, rfl, hlast, hlater⟩ | ⟨hvalue, hnone⟩)
      · exact .inl ⟨first :: before, last, later, rfl, hlast, hlater⟩
      · cases htouch : touch first with
        | some now =>
          rw [htouch, Option.getD_some] at hvalue
          exact .inl ⟨[], first, rest, rfl, by rw [htouch, hvalue], hnone⟩
        | none =>
          rw [htouch, Option.getD_none] at hvalue
          exact .inr ⟨hvalue, List.forall_mem_cons.mpr ⟨htouch, hnone⟩⟩
    · rintro (⟨before, last, later, hevents, hlast, hlater⟩ | ⟨hvalue, hnone⟩)
      · cases before with
        | nil =>
          obtain ⟨rfl, rfl⟩ := List.cons.inj hevents
          exact .inr ⟨by rw [hlast, Option.getD_some], hlater⟩
        | cons head before =>
          obtain ⟨rfl, rfl⟩ := List.cons.inj hevents
          exact .inl ⟨before, last, later, rfl, hlast, hlater⟩
      · obtain ⟨hfirst, hrest⟩ := List.forall_mem_cons.mp hnone
        exact .inr ⟨by rw [hfirst, Option.getD_none, hvalue], hrest⟩

theorem foldl_read {S : Type} {step : S → E → S} (read : S → V)
    (hstep : ∀ state event, read (step state event) = (touch event).getD (read state)) (state : S) :
    read (events.foldl step state) = after touch (read state) events := by
  induction events generalizing state with
  | nil => rfl
  | cons event rest ih =>
    rw [List.foldl_cons, ih, hstep]
    rfl

end LastTouch

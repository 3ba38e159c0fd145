import Mathlib.Data.List.Basic

/-! # Runs of a partial step function

A system is a function that takes a state and an event to the next state, or to nothing where the
event cannot happen.  `Meets` says that every step of a run satisfies a condition on the state
before it and the event; an invariant that such steps keep holds at the end of the run
(`invariant`), and where a step that breaks the condition does damage that no later step undoes, the
undamaged runs are exactly those that meet it (`undamaged_iff`).  Where the damage shows at once,
the runs that meet it are those of which every state is sound (`always_iff`). -/
namespace GuardedRun

variable {σ ε : Type} (step : σ → ε → Option σ)

/-- A run takes one event after the other. -/
def run (s : σ) (events : List ε) : Option σ := events.foldlM step s

/-- Every step of the run meets the condition. -/
def Meets (guard : σ → ε → Prop) : σ → List ε → Prop
  | _, [] => True
  | s, event :: rest => guard s event ∧ ∀ after, step s event = some after → Meets guard after rest

/-- Every state of the run has the property. -/
def Always (P : σ → Prop) : σ → List ε → Prop
  | s, [] => P s
  | s, event :: rest => P s ∧ ∀ after, step s event = some after → Always P after rest

variable {step} {guard : σ → ε → Prop} {s after : σ} {event : ε} {rest events : List ε}

theorem run_cons (h : run step s (event :: rest) = some after) :
    ∃ mid, step s event = some mid ∧ run step mid rest = some after :=
  Option.bind_eq_some_iff.mp h

theorem Meets.cons {mid : σ} (hstep : step s event = some mid) (hguard : guard s event)
    (hrest : Meets step guard mid rest) : Meets step guard s (event :: rest) := by
  refine ⟨hguard, fun mid' hmid' => ?_⟩
  rw [hstep, Option.some.injEq] at hmid'
  rwa [← hmid']

theorem Meets.trivial : Meets step (fun _ _ => True) s events := by
  induction events generalizing s with
  | nil => exact True.intro
  | cons event rest ih => exact ⟨True.intro, fun _ _ => ih⟩

section Invariant
variable {Inv : σ → Prop}
  (hkeeps : ∀ s event after, Inv s → guard s event → step s event = some after → Inv after)
include hkeeps

theorem invariant (h : Inv s) (hmeets : Meets step guard s events)
    (hrun : run step s events = some after) : Inv after := by
  induction events generalizing s with
  | nil =>
    cases hrun
    exact h
  | cons event rest ih =>
    obtain ⟨hguard, hrest⟩ := hmeets
    obtain ⟨mid, hmid, hrun⟩ := run_cons hrun
    exact ih (hkeeps s event mid h hguard hmid) (hrest mid hmid) hrun

variable {Damaged : σ → Prop}
  (hbreaks : ∀ s event after, Inv s → ¬ guard s event → step s event = some after → Damaged after)
  (hstays : ∀ s event after, Damaged s → step s event = some after → Damaged after)
include hbreaks hstays

/-- From a state of the invariant: the run meets the condition, or it ends in a damaged state. -/
theorem meets_or_damaged (h : Inv s) (hrun : run step s events = some after) :
    Meets step guard s events ∨ Damaged after := by
  have hdamaged : ∀ (events : List ε) (s : σ), Damaged s → run step s events = some after →
      Damaged after := by
    intro events
    induction events with
    | nil =>
      intro s h hrun
      cases hrun
      exact h
    | cons event rest ih =>
      intro s h hrun
      obtain ⟨mid, hmid, hrun⟩ := run_cons hrun
      exact ih mid (hstays s event mid h hmid) hrun
  induction events generalizing s with
  | nil => exact .inl trivial
  | cons event rest ih =>
    obtain ⟨mid, hmid, hrun⟩ := run_cons hrun
    by_cases hguard : guard s event
    · obtain hrest | hafter := ih (hkeeps s event mid h hguard hmid) hrun
      · exact .inl (.cons hmid hguard hrest)
      · exact .inr hafter
    · exact .inr (hdamaged rest mid (hbreaks s event mid h hguard hmid) hrun)

theorem undamaged_iff {P : σ → Prop} (hholds : ∀ s, Inv s → P s)
    (hfails : ∀ s, Damaged s → ¬ P s) (h : Inv s) (hrun : run step s events = some after) :
    P after ↔ Meets step guard s events := by
  constructor
  · intro hP
    obtain hmeets | hafter := meets_or_damaged hkeeps hbreaks hstays h hrun
    · exact hmeets
    · exact absurd hP (hfails after hafter)
  · intro hmeets
    exact hholds after (invariant hkeeps h hmeets hrun)

end Invariant

variable {P : σ → Prop}

theorem Always.head (h : Always step P s events) : P s := by
  cases events with
  | nil => exact h
  | cons event rest => exact h.1

theorem Always.of_step (hkeeps : ∀ s event after, P s → step s event = some after → P after)
    (h : P s) : Always step P s events := by
  induction events generalizing s with
  | nil => exact h
  | cons event rest ih => exact ⟨h, fun after hafter => ih (hkeeps s event after h hafter)⟩

theorem Always.and {P Q : σ → Prop} (h : Always step P s events) (hQ : Always step Q s events) :
    Always step (fun s => P s ∧ Q s) s events := by
  induction events generalizing s with
  | nil => exact ⟨h, hQ⟩
  | cons event rest ih =>
    exact ⟨⟨h.1, hQ.1⟩, fun after hafter => ih (h.2 after hafter) (hQ.2 after hafter)⟩

theorem Always.mono {P Q : σ → Prop} (hmono : ∀ s, P s → Q s) (h : Always step P s events) :
    Always step Q s events := by
  induction events generalizing s with
  | nil => exact hmono s h
  | cons event rest ih => exact ⟨hmono s h.1, fun after hafter => ih (h.2 after hafter)⟩

theorem Always.meets (hguard : ∀ s event, P s → guard s event) (h : Always step P s events) :
    Meets step guard s events := by
  induction events generalizing s with
  | nil => exact True.intro
  | cons event rest ih => exact ⟨hguard s event h.1, fun after hafter => ih (h.2 after hafter)⟩

theorem always_iff
    (hkeeps : ∀ s event after, P s → guard s event → step s event = some after → P after)
    (hbreaks : ∀ s event after, P s → ¬ guard s event → step s event = some after → ¬ P after)
    (h : P s) (hrun : run step s events = some after) :
    Always step P s events ↔ Meets step guard s events := by
  induction events generalizing s with
  | nil => exact iff_of_true h trivial
  | cons event rest ih =>
    obtain ⟨mid, hmid, hrun⟩ := run_cons hrun
    constructor
    · intro halways
      have hrest := halways.2 mid hmid
      have hguard : guard s event := by
        by_contra hbroken
        exact hbreaks s event mid h hbroken hmid hrest.head
      exact .cons hmid hguard ((ih hrest.head hrun).mp hrest)
    · rintro ⟨hguard, hmeets⟩
      refine ⟨h, fun after' hafter' => ?_⟩
      obtain rfl : mid = after' := Option.some.inj (hmid.symm.trans hafter')
      exact (ih (hkeeps s event mid h hguard hmid) hrun).mpr (hmeets mid hmid)

end GuardedRun

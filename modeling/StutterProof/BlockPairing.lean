import Mathlib.Data.List.Pairwise
import StutterProof.GuardedRun
import StutterProof.PairingProbes

/-! # Block requests and their completions

The block probes beside the requests of the host.  A request has an issue and a completion, each
with the record of its tracepoint; what the probes do not see of it is which request it is.  The map
is an LRU map, so an entry may go at any time.

Of two monitored requests with one key neither is kept.  But the key is free again then, while both
are in flight: a third request is kept, and the completion of one of the first two takes its
start. -/
namespace Stutter.Probes

/-! ## The handlers -/

section Handlers
variable {offsets : BlockOffsets} {blockStart : Table UInt64 IoStart} {ctx : TracePointContext}

theorem filter_ne_zero (key : UInt64) :
    (some key).filter (· ≠ 0) = if key = 0 then none else some key := by
  by_cases hzero : key = 0 <;> simp [hzero]

theorem issueKey_eq {dev : UInt32} {sector : UInt64}
    (hread : readBlockRq ctx = some (dev, sector)) :
    issueKey offsets ctx =
      if blockRqKey offsets ctx dev sector offsets.issueNrSector offsets.issueRwbs = 0 then none
      else some (blockRqKey offsets ctx dev sector offsets.issueNrSector offsets.issueRwbs) := by
  rw [issueKey, hread, Option.map_some, filter_ne_zero]

theorem completeKey_eq {dev : UInt32} {sector : UInt64}
    (hread : readBlockRq ctx = some (dev, sector)) :
    completeKey offsets ctx =
      if blockRqKey offsets ctx dev sector offsets.completeNrSector offsets.completeRwbs = 0 then
        none
      else some (blockRqKey offsets ctx dev sector offsets.completeNrSector
        offsets.completeRwbs) := by
  rw [completeKey, hread, Option.map_some, filter_ne_zero]

/-- An issue reads and writes the entry of its key only. -/
theorem tryBlockRqIssue_eq (tid : UInt32) (target : Bool) (ts : UInt64) (inserted : Bool) :
    tryBlockRqIssue offsets blockStart ctx tid target ts inserted =
      match issueKey offsets ctx with
      | none => blockStart
      | some key =>
        if !target then blockStart
        else if offsets.rqKey == 0 && (blockStart.get key).isSome then blockStart.remove key
        else if inserted then blockStart.insert key ⟨ts, tid⟩
        else blockStart := by
  unfold tryBlockRqIssue
  cases hread : readBlockRq ctx with
  | none => simp [issueKey, hread]
  | some fields =>
    obtain ⟨dev, sector⟩ := fields
    rw [issueKey_eq hread]
    by_cases hzero : blockRqKey offsets ctx dev sector offsets.issueNrSector offsets.issueRwbs = 0
    · simp [hzero]
    · simp only [hzero, if_false]

/-- A completion takes the entry of its key, and its event carries what the entry holds. -/
theorem tryBlockRqComplete_cases (offsets : BlockOffsets) (blockStart : Table UInt64 IoStart)
    (ctx : TracePointContext) (now : UInt64) (reserved : Bool) :
    (tryBlockRqComplete offsets blockStart ctx now reserved = (blockStart, none) ∧
      ∀ key, completeKey offsets ctx = some key → blockStart.get key = none) ∨
    ∃ key start, completeKey offsets ctx = some key ∧ blockStart.get key = some start ∧
      (tryBlockRqComplete offsets blockStart ctx now reserved).1 = blockStart.remove key ∧
      ∀ event, (tryBlockRqComplete offsets blockStart ctx now reserved).2 = some event →
        event.tid = start.tid ∧ event.durationNs = saturatingSub64 event.timestampNs start.ts := by
  unfold tryBlockRqComplete
  cases hread : readBlockRq ctx with
  | none => exact .inl ⟨rfl, by simp [completeKey, hread]⟩
  | some fields =>
    obtain ⟨dev, sector⟩ := fields
    rw [completeKey_eq hread]
    by_cases hzero : blockRqKey offsets ctx dev sector offsets.completeNrSector
      offsets.completeRwbs = 0
    · exact .inl ⟨by simp [hzero], by simp [hzero]⟩
    · simp only [hzero, if_false]
      cases hstart : blockStart.get (blockRqKey offsets ctx dev sector offsets.completeNrSector
        offsets.completeRwbs) with
      | none =>
        refine .inl ⟨rfl, ?_⟩
        rintro key ⟨⟩
        exact hstart
      | some start =>
        refine .inr ⟨_, start, rfl, hstart, rfl, ?_⟩
        intro event hevent
        cases reserved with
        | false => cases hevent
        | true =>
          cases hevent
          exact ⟨rfl, rfl⟩

end Handlers

/-! ## The host -/

/-- A request in flight: what it was issued with, and whether a request with its key was in flight
at some time since. -/
structure Request where
  id : Nat
  key : Option UInt64
  tid : UInt32
  ts : UInt64
  shared : Bool
  deriving DecidableEq

/-- The map, the requests in flight, and the events. -/
structure BlockState where
  blockStart : Table UInt64 IoStart
  inFlight : List Request
  /-- Each event with the request that completed. -/
  emitted : List (Request × BlockIoEvent)

def BlockState.initial : BlockState := ⟨.empty, [], []⟩

/-- A request is issued or completes. -/
inductive BlockStep where
  | issue (id : Nat) (ctx : TracePointContext) (tid : UInt32) (target : Bool) (ts : UInt64)
    (inserted : Bool)
  | complete (id : Nat) (ctx : TracePointContext) (now : UInt64) (reserved : Bool)
  | evict (key : UInt64)

/-- A request with this key is in flight beside it. -/
def Request.meet (request : Request) (key : Option UInt64) : Request :=
  if key.isSome ∧ request.key = key then { request with shared := true } else request

def BlockState.holds (state : BlockState) (key : Option UInt64) : Bool :=
  key.isSome && state.inFlight.any fun request => request.key == key

section Steps
variable (offsets : BlockOffsets)

/-- The probe's answer to a step. -/
def BlockState.step (state : BlockState) : BlockStep → Option BlockState
  | .issue id ctx tid target ts inserted =>
    if state.inFlight.any fun request => request.id == id then none
    else
      let key := issueKey offsets ctx
      some { state with
        blockStart := tryBlockRqIssue offsets state.blockStart ctx tid target ts inserted
        inFlight := ⟨id, key, tid, ts, state.holds key⟩ :: state.inFlight.map (·.meet key) }
  | .complete id ctx now reserved =>
    match state.inFlight.find? fun request => request.id == id with
    | none => none
    | some request =>
      let (blockStart, event) := tryBlockRqComplete offsets state.blockStart ctx now reserved
      some {
        blockStart
        inFlight := state.inFlight.filter fun other => other.id != id
        emitted := state.emitted ++ (event.map fun event => (request, event)).toList }
  | .evict key => some { state with blockStart := state.blockStart.remove key }

/-- Every event is about the request that completed, and that request could be told apart. -/
def BlockState.Attributed (state : BlockState) : Prop :=
  ∀ request event, (request, event) ∈ state.emitted → request.shared = false ∧
    event.tid = request.tid ∧ event.durationNs = saturatingSub64 event.timestampNs request.ts

/-- A request with the key of one in flight is noticed, and a completion comes back to the key of
its issue. -/
def BlockState.Noticed (state : BlockState) : BlockStep → Prop
  | .issue _ ctx _ target _ _ => ∀ key, issueKey offsets ctx = some key →
      (∃ request ∈ state.inFlight, request.key = some key) →
      if target then offsets.rqKey = 0 ∧ (state.blockStart.get key).isSome = true
      else state.blockStart.get key = none
  | .complete id ctx _ _ => ∀ request ∈ state.inFlight, request.id = id →
      completeKey offsets ctx = request.key ∨
        ∀ key, completeKey offsets ctx = some key ∨ request.key = some key →
          state.blockStart.get key = none
  | .evict _ => True

end Steps

/-! ## The invariant -/

/-- A start is of the one request in flight with its key, and there was no other since its issue. -/
def Owned (inFlight : List Request) (key : UInt64) (start : IoStart) : Prop :=
  ∃ request ∈ inFlight, request.key = some key ∧ request.shared = false ∧
    start = ⟨request.ts, request.tid⟩ ∧
    ∀ other ∈ inFlight, other.key = some key → other = request

structure BlockState.Sound (state : BlockState) : Prop where
  ids : state.inFlight.Pairwise fun request other => request.id ≠ other.id
  owned : ∀ key start, state.blockStart.get key = some start → Owned state.inFlight key start
  attributed : state.Attributed

theorem BlockState.sound_initial : initial.Sound where
  ids := List.Pairwise.nil
  owned := nofun
  attributed := nofun

section Requests
variable {inFlight : List Request} {key : Option UInt64} {kept : UInt64} {start : IoStart}

@[simp] theorem Request.meet_id (request : Request) (key : Option UInt64) :
    (request.meet key).id = request.id := by
  unfold Request.meet
  split <;> rfl

@[simp] theorem Request.meet_key (request : Request) (key : Option UInt64) :
    (request.meet key).key = request.key := by
  unfold Request.meet
  split <;> rfl

theorem Request.meet_of_ne {request : Request} (h : request.key ≠ key) :
    request.meet key = request :=
  if_neg fun hmeets => h hmeets.2

/-- A request with another key changes nothing about the owner. -/
theorem Owned.issue (h : Owned inFlight kept start) (hkey : key ≠ some kept) {request : Request}
    (hrequest : request.key = key) : Owned (request :: inFlight.map (·.meet key)) kept start := by
  obtain ⟨owner, howner, hkept, halone, hstart, hunique⟩ := h
  have hsame : owner.meet key = owner := Request.meet_of_ne (by rw [hkept]; exact hkey.symm)
  refine ⟨owner, ?_, hkept, halone, hstart, ?_⟩
  · rw [← hsame]
    exact List.mem_cons_of_mem _ (List.mem_map_of_mem howner)
  · intro other hother hotherKey
    rcases List.mem_cons.mp hother with rfl | hother
    · exact absurd (hrequest.symm.trans hotherKey) hkey
    · obtain ⟨before, hbefore, rfl⟩ := List.mem_map.mp hother
      rw [Request.meet_key] at hotherKey
      rw [hunique before hbefore hotherKey, hsame]

/-- The first request with a key owns the start that is kept for it. -/
theorem owned_first (hfirst : ∀ other ∈ inFlight, other.key ≠ some kept) (id : Nat) (tid : UInt32)
    (ts : UInt64) :
    Owned (⟨id, some kept, tid, ts, false⟩ :: inFlight.map (·.meet (some kept))) kept
      ⟨ts, tid⟩ := by
  refine ⟨_, List.mem_cons_self, rfl, rfl, rfl, ?_⟩
  intro other hother hotherKey
  rcases List.mem_cons.mp hother with rfl | hother
  · rfl
  · obtain ⟨before, hbefore, rfl⟩ := List.mem_map.mp hother
    rw [Request.meet_key] at hotherKey
    exact absurd hotherKey (hfirst before hbefore)

/-- A request with another key completes. -/
theorem Owned.complete (h : Owned inFlight kept start) {id : Nat}
    (hother : ∀ request ∈ inFlight, request.id = id → request.key ≠ some kept) :
    Owned (inFlight.filter fun other => other.id != id) kept start := by
  obtain ⟨owner, howner, hkept, halone, hstart, hunique⟩ := h
  refine ⟨owner, ?_, hkept, halone, hstart, ?_⟩
  · refine List.mem_filter.mpr ⟨howner, ?_⟩
    rw [bne_iff_ne]
    intro hid
    exact hother owner howner hid hkept
  · intro other hmem hkey
    exact hunique other (List.mem_filter.mp hmem).1 hkey

end Requests

namespace BlockState
variable {offsets : BlockOffsets} {state after : BlockState}

theorem holds_eq_false {key : UInt64} (h : ∀ other ∈ state.inFlight, other.key ≠ some key) :
    state.holds (some key) = false := by
  simpa [holds] using h

variable {ctx : TracePointContext}

/-- What the map holds after a noticed issue is owned. -/
theorem Sound.owned_issue (h : state.Sound) {id : Nat} {tid : UInt32} {target : Bool}
    {ts : UInt64} {inserted : Bool}
    (hnoticed : state.Noticed offsets (.issue id ctx tid target ts inserted)) {kept : UInt64}
    {start : IoStart}
    (hkept : (tryBlockRqIssue offsets state.blockStart ctx tid target ts inserted).get kept =
      some start) :
    Owned (⟨id, issueKey offsets ctx, tid, ts, state.holds (issueKey offsets ctx)⟩ ::
      state.inFlight.map (·.meet (issueKey offsets ctx))) kept start := by
  rw [tryBlockRqIssue_eq] at hkept
  cases hkey : issueKey offsets ctx with
  | none =>
    rw [hkey] at hkept
    have hother : (none : Option UInt64) ≠ some kept := by simp
    exact (h.owned kept start hkept).issue hother rfl
  | some key =>
    rw [hkey] at hkept
    simp only at hkept
    by_cases hsame : key = kept
    · subst hsame
      have hmet := hnoticed key hkey
      have howner : ∀ start, state.blockStart.get key = some start →
          ∃ request ∈ state.inFlight, request.key = some key := by
        intro start hstart
        obtain ⟨owner, howner, hownerKey, -⟩ := h.owned key start hstart
        exact ⟨owner, howner, hownerKey⟩
      cases target with
      | false =>
        -- an unmonitored request was issued beside the owner
        have hnone := hmet (howner start hkept)
        simp only [Bool.false_eq_true, if_false] at hnone
        simp [hnone] at hkept
      | true =>
        simp only [Bool.not_true, Bool.false_eq_true, if_false] at hkept
        by_cases hcollides : (offsets.rqKey == 0 && (state.blockStart.get key).isSome) = true
        · rw [if_pos hcollides, Table.get_remove, if_pos rfl] at hkept
          cases hkept
        · rw [if_neg hcollides] at hkept
          have hfirst : ∀ other ∈ state.inFlight, other.key ≠ some key := by
            intro other hother hotherKey
            have hboth := hmet ⟨other, hother, hotherKey⟩
            rw [if_pos rfl] at hboth
            exact hcollides (by simp [hboth])
          rw [holds_eq_false hfirst]
          cases inserted with
          | false =>
            obtain ⟨other, hother, hotherKey⟩ := howner start hkept
            exact absurd hotherKey (hfirst other hother)
          | true =>
            rw [if_pos rfl, Table.get_insert, if_pos rfl] at hkept
            obtain rfl := Option.some.inj hkept
            exact owned_first hfirst id tid ts
    · -- the entry of another key is what it was
      have hbefore : state.blockStart.get kept = some start := by
        rw [← hkept]
        split
        · rfl
        · split
          · rw [Table.get_remove, if_neg (Ne.symm hsame)]
          · split
            · rw [Table.get_insert, if_neg (Ne.symm hsame)]
            · rfl
      exact (h.owned kept start hbefore).issue (by simpa using hsame) rfl

theorem Sound.issue (h : state.Sound) {id : Nat} {tid : UInt32} {target : Bool} {ts : UInt64}
    {inserted : Bool} (hnoticed : state.Noticed offsets (.issue id ctx tid target ts inserted))
    (hstep : state.step offsets (.issue id ctx tid target ts inserted) = some after) :
    after.Sound := by
  simp only [BlockState.step] at hstep
  by_cases hused : (state.inFlight.any fun request => request.id == id) = true
  · rw [if_pos hused] at hstep
    cases hstep
  · rw [if_neg hused, Option.some.injEq] at hstep
    subst hstep
    refine ⟨?_, fun kept start => h.owned_issue hnoticed, h.attributed⟩
    refine List.pairwise_cons.mpr ⟨?_, ?_⟩
    · intro other hother hid
      obtain ⟨before, hbefore, rfl⟩ := List.mem_map.mp hother
      exact hused (List.any_eq_true.mpr ⟨before, hbefore, by simpa using hid.symm⟩)
    · rw [List.pairwise_map]
      simpa using h.ids

theorem Sound.eq_of_id (h : state.Sound) {request other : Request}
    (hrequest : request ∈ state.inFlight) (hother : other ∈ state.inFlight)
    (hid : request.id = other.id) : request = other := by
  have hsymm : Std.Symm fun request other : Request => request.id ≠ other.id :=
    ⟨fun _ _ hne => hne.symm⟩
  by_contra hne
  exact h.ids.forall hrequest hother hne hid

theorem Sound.complete (h : state.Sound) {id : Nat} {now : UInt64} {reserved : Bool}
    (hnoticed : state.Noticed offsets (.complete id ctx now reserved))
    (hstep : state.step offsets (.complete id ctx now reserved) = some after) : after.Sound := by
  simp only [BlockState.step] at hstep
  cases hfind : state.inFlight.find? fun request => request.id == id with
  | none =>
    rw [hfind] at hstep
    cases hstep
  | some request =>
    rw [hfind] at hstep
    simp only [Option.some.injEq] at hstep
    subst hstep
    have hrequest := List.mem_of_find?_eq_some hfind
    have hid : request.id = id := by simpa using List.find?_some hfind
    have hids := h.ids.sublist (List.filter_sublist (p := fun other => other.id != id))
    have howned : ∀ kept start, state.blockStart.get kept = some start → request.key ≠ some kept →
        Owned (state.inFlight.filter fun other => other.id != id) kept start := by
      intro kept start hkept hne
      refine (h.owned kept start hkept).complete fun other hother hotherId => ?_
      rw [h.eq_of_id hother hrequest (hotherId.trans hid.symm)]
      exact hne
    have hcases := tryBlockRqComplete_cases offsets state.blockStart ctx now reserved
    rcases hcases with ⟨hsame, hnone⟩ | ⟨key, start, hkey, hstart, htable, hevent⟩
    · rw [hsame]
      refine ⟨hids, fun kept start hkept => howned kept start hkept ?_, ?_⟩
      · intro hrequestKey
        have hfree : state.blockStart.get kept = none := by
          rcases hnoticed request hrequest hid with hsameKey | hfree
          · exact hnone kept (hsameKey.trans hrequestKey)
          · exact hfree kept (.inr hrequestKey)
        simp only at hkept
        rw [hfree] at hkept
        cases hkept
      · intro other event hmem
        simpa using h.attributed other event (by simpa using hmem)
    · have hrequestKey : request.key = some key := by
        rcases hnoticed request hrequest hid with hsameKey | hfree
        · rw [← hsameKey, hkey]
        · rw [hfree key (.inl hkey)] at hstart
          cases hstart
      obtain ⟨owner, -, -, halone, rfl, hunique⟩ := h.owned key start hstart
      obtain rfl := hunique request hrequest hrequestKey
      refine ⟨hids, fun kept other hkept => ?_, ?_⟩
      · rw [htable, Table.get_remove] at hkept
        by_cases hsame : kept = key
        · rw [if_pos hsame] at hkept
          cases hkept
        · rw [if_neg hsame] at hkept
          refine howned kept other hkept ?_
          rw [hrequestKey]
          simpa using fun hkeys => hsame hkeys.symm
      · intro other event hmem
        rcases List.mem_append.mp hmem with hbefore | hnow
        · exact h.attributed other event hbefore
        · rw [Option.mem_toList, Option.map_eq_some_iff] at hnow
          obtain ⟨emitted, hemitted, hpair⟩ := hnow
          obtain ⟨rfl, rfl⟩ := Prod.mk.inj hpair
          exact ⟨halone, hevent emitted hemitted⟩

theorem Sound.evict (h : state.Sound) (key : UInt64) :
    Sound { state with blockStart := state.blockStart.remove key } where
  ids := h.ids
  owned := by
    intro kept start hkept
    rw [Table.get_remove] at hkept
    by_cases hsame : kept = key
    · rw [if_pos hsame] at hkept
      cases hkept
    · rw [if_neg hsame] at hkept
      exact h.owned kept start hkept
  attributed := h.attributed

theorem Sound.step {s : BlockStep} (h : state.Sound) (hnoticed : state.Noticed offsets s)
    (hstep : state.step offsets s = some after) : after.Sound := by
  cases s with
  | issue id ctx tid target ts inserted => exact h.issue hnoticed hstep
  | complete id ctx now reserved => exact h.complete hnoticed hstep
  | evict key =>
    obtain rfl := Option.some.inj hstep
    exact h.evict key

/-! ## Whole runs -/

/-- **Pairing.**  In a run of which every step is noticed, every event carries the issuer of the
request that completed and the time since its issue, and that request was the only one with its key
while it was in flight. -/
theorem attributed_of_noticed (offsets : BlockOffsets) {steps : List BlockStep} {after : BlockState}
    (hnoticed : GuardedRun.Meets (BlockState.step offsets)
      (BlockState.Noticed offsets) .initial steps)
    (hrun : GuardedRun.run (BlockState.step offsets) .initial steps = some after) :
    after.Attributed := by
  have hsound : after.Sound := GuardedRun.invariant
    (fun _ _ _ hsound hguard hstep => hsound.step hguard hstep) sound_initial hnoticed hrun
  exact hsound.attributed

/-! Requests of one sector and one device, where the tracepoints do not have the request's
address. -/

def withoutAddress : BlockOffsets := ⟨0, 0, 0, 0, 0⟩

/-- The record of a request for sector 7 of device 1. -/
def sectorSeven : TracePointContext where
  readU32 := fun _ => some 1
  readU64 := fun _ => some 7
  readBytes8 := fun _ => none

def issueOf (id : Nat) (tid : UInt32) (ts : UInt64) : BlockStep :=
  .issue id sectorSeven tid true ts true

def completionOf (id : Nat) (now : UInt64) : BlockStep := .complete id sectorSeven now true

/-- Two requests collide and complete; a third one comes after them. -/
def collisionThenThird : List BlockStep :=
  [issueOf 1 11 100, issueOf 2 12 110, completionOf 1 200, completionOf 2 210, issueOf 3 13 300,
    completionOf 3 350]

theorem collisionThenThird_attributed :
    ∃ after, GuardedRun.run (BlockState.step withoutAddress) .initial collisionThenThird =
      some after ∧
      after.emitted.map (fun pair => (pair.1.tid, pair.2.tid, pair.2.durationNs)) = [(13, 13, 50)] ∧
      after.Attributed := by
  have hnoticed : GuardedRun.Meets (BlockState.step withoutAddress)
      (BlockState.Noticed withoutAddress)
      .initial collisionThenThird := by
    refine .cons rfl ?_ (.cons rfl ?_
      (.cons rfl ?_ (.cons rfl ?_ (.cons rfl ?_ (.cons rfl ?_ trivial)))))
    · rintro _ _ ⟨_, ⟨⟩, _⟩
    · rintro key ⟨⟩ -
      exact ⟨rfl, rfl⟩
    · refine fun request hmem hid => .inl ?_
      revert request
      decide +kernel
    · refine fun request hmem hid => .inl ?_
      revert request
      decide +kernel
    · rintro _ _ ⟨_, ⟨⟩, _⟩
    · refine fun request hmem hid => .inl ?_
      revert request
      decide +kernel
  exact ⟨_, rfl, by decide +kernel, attributed_of_noticed withoutAddress hnoticed rfl⟩

/-- The third request is issued while the two that collided are in flight. -/
def thirdInFlight : List BlockStep :=
  [issueOf 1 11 100, issueOf 2 12 110, issueOf 3 13 120, completionOf 1 200]

theorem thirdInFlight_events :
    (GuardedRun.run (BlockState.step withoutAddress) .initial thirdInFlight).map
      (fun after => after.emitted.map fun pair => (pair.1.tid, pair.2.tid)) = some [(11, 13)] := by
  decide +kernel

/-- The completion of the first request carries the issuer of the third. -/
theorem completion_takes_third_start : ¬ ∀ (offsets : BlockOffsets) (steps : List BlockStep)
    (after : BlockState), GuardedRun.run (BlockState.step offsets) .initial steps = some after →
      after.Attributed := by
  intro h
  obtain ⟨after, hrun, hevents⟩ := Option.map_eq_some_iff.mp thirdInFlight_events
  have hattributed := h withoutAddress thirdInFlight after hrun
  obtain ⟨⟨request, event⟩, hmem, hpair⟩ :
      ∃ pair ∈ after.emitted, (pair.1.tid, pair.2.tid) = (11, 13) := by
    refine List.mem_map.mp ?_
    rw [hevents]
    exact List.mem_singleton_self _
  obtain ⟨-, htid, -⟩ := hattributed request event hmem
  obtain ⟨hrequest, hevent⟩ := Prod.mk.inj hpair
  simp only at hrequest hevent
  rw [hrequest, hevent] at htid
  exact absurd htid (by decide)

end BlockState

end Stutter.Probes

import StutterProof.EventBus

/-! # What the bus delivers

Every subscriber is assigned a stream: what it has received, what is in its queue, and what the
running call still has to send to it.  A step only appends to the streams, so their order is the
order of the appends; `Fresh` says when a flush appends nothing old. -/
namespace Stutter.Session

variable {n : Nat} {α : Type}

/-- The events of one kind. -/
def ofKind (kind : MonitorEventKind) (events : List (Sent α)) : List (Sent α) :=
  events.filter (·.kind = kind)

/-- The events that are sent with a wait. -/
def reliable (events : List (Sent α)) : List (Sent α) := events.filter (·.kind.isReliable)

namespace MonitorEventBus
variable (bus : MonitorEventBus n α)

/-- The sends of the running call to one subscriber. -/
def inFlight (i : Fin n) : List (Sent α) := (bus.sending.filter (·.1 = i)).map (·.2)

/-- All that one subscriber got or is about to get. -/
def assigned (i : Fin n) : List (Sent α) := (bus.subscribers i).stream ++ bus.inFlight i

/-- **What every subscriber may rely on.**  Of a conflated kind it gets some of the emissions, in
their order and none twice; the events that are sent with a wait are exactly those emitted, up to
the sends of the running call; and after a flush its last event of a conflated kind is the last one
emitted. -/
structure Delivered : Prop where
  numbered : bus.emitted.Pairwise (·.seq < ·.seq)
  conflatedOnce : ∀ i kind, kind.deliveryClass = .conflated →
    (ofKind kind (bus.subscribers i).stream).Sublist (ofKind kind bus.emitted)
  reliableOnce : ∀ i, reliable (bus.assigned i) = reliable bus.emitted
  latest : bus.flushed = true → bus.sending = [] → ∀ i kind, kind.deliveryClass = .conflated →
    (ofKind kind (bus.subscribers i).stream).getLast? = (ofKind kind bus.emitted).getLast?

/-- What waits for the flush is the last emission of its kind, and no subscriber has it. -/
def Fresh : Prop :=
  ∀ kind event, bus.conflated kind = some event →
    (ofKind kind bus.emitted).getLast? = some event ∧
      ∀ i, event ∉ (bus.subscribers i).stream

/-- Every flush of the run finds what waits for it fresh. -/
def FreshFlushes (steps : List (BusStep n α)) : Prop :=
  GuardedRun.Meets step (fun bus s => s = .flush → bus.Fresh) bus steps

/-! ## The invariant -/

/-- `Delivered` with the streams of `assigned`, and what is known of a kind that does not wait. -/
structure Accounted : Prop where
  numbers : bus.emitted.map (·.seq) = List.range bus.emitted.length
  sublists : ∀ i kind, kind.deliveryClass = .conflated →
    (ofKind kind (bus.assigned i)).Sublist (ofKind kind bus.emitted)
  reliables : ∀ i, reliable (bus.assigned i) = reliable bus.emitted
  waiting : ∀ kind event, bus.conflated kind = some event →
    event.kind = kind ∧ kind.deliveryClass = .conflated
  current : ∀ kind, kind.deliveryClass = .conflated → bus.conflated kind = none →
    ∀ i, (ofKind kind (bus.assigned i)).getLast? = (ofKind kind bus.emitted).getLast?
  settled : bus.flushed = true → ∀ kind, bus.conflated kind = none

end MonitorEventBus

/-! ## Lists -/

theorem ofKind_append (kind : MonitorEventKind) (a b : List (Sent α)) :
    ofKind kind (a ++ b) = ofKind kind a ++ ofKind kind b := List.filter_append ..

theorem reliable_append (a b : List (Sent α)) : reliable (a ++ b) = reliable a ++ reliable b :=
  List.filter_append ..

theorem ofKind_other {kind : MonitorEventKind} {event : Sent α} (h : event.kind ≠ kind) :
    ofKind kind [event] = [] := by
  simp [ofKind, h]

theorem ofKind_other_ite {kind : MonitorEventKind} {event : Sent α} (h : event.kind ≠ kind)
    (got : Bool) : ofKind kind (if got then [event] else []) = [] := by
  cases got with
  | true => exact ofKind_other h
  | false => rfl

/-- A sublist that misses the last element does without it. -/
theorem sublist_of_not_mem_last {l init : List (Sent α)} {last : Sent α}
    (h : l.Sublist (init ++ [last])) (hnot : last ∉ l) : l.Sublist init := by
  obtain ⟨l₁, l₂, rfl, h₁, h₂⟩ := List.sublist_append_iff.mp h
  have hnil : l₂ = [] := by
    rw [List.sublist_singleton] at h₂
    obtain rfl | rfl := h₂
    · rfl
    · simp at hnot
  rw [hnil, List.append_nil]
  exact h₁

theorem sublist_snoc {l m : List (Sent α)} (h : l.Sublist m) (got : Bool) (event : Sent α) :
    (l ++ if got then [event] else []).Sublist (m ++ [event]) := by
  cases got with
  | false => simpa using h.trans (List.sublist_append_left m [event])
  | true => exact h.append (List.Sublist.refl _)

theorem filter_finRange (i : Fin n) : (List.finRange n).filter (· = i) = [i] := by
  rw [List.filter_eq, List.count_eq_one_of_mem (List.nodup_finRange n) (List.mem_finRange i)]
  rfl

namespace MonitorEventBus

/-! ## The streams after a step -/

open MonitorEventKind

section Streams
variable {bus after : MonitorEventBus n α}

theorem inFlight_nil (h : bus.sending = []) (i : Fin n) : bus.inFlight i = [] := by
  simp [inFlight, h]

theorem sendsTo_sendsOf (event : Sent α) (i : Fin n) :
    (((sendsOf event).filter (·.1 = i)).map (·.2) : List (Sent α)) = [event] := by
  have hfilter : (sendsOf event).filter (·.1 = i) =
      ((List.finRange n).filter (· = i)).map fun j => (j, event) := by
    unfold sendsOf
    rw [List.filter_map]
    rfl
  rw [hfilter, filter_finRange]
  rfl

theorem sendsTo_flatMap (events : List (Sent α)) (i : Fin n) :
    (((events.flatMap sendsOf).filter (·.1 = i)).map (·.2) : List (Sent α)) = events := by
  induction events with
  | nil => rfl
  | cons event rest ih =>
    rw [List.flatMap_cons, List.filter_append, List.map_append, ih, sendsTo_sendsOf]
    rfl

/-- A flush assigns to everyone what was waiting. -/
theorem assigned_flush (hidle : bus.sending = []) (i : Fin n) :
    bus.flush.assigned i =
      bus.assigned i ++ all.filterMap bus.conflated := by
  have hflight : bus.flush.inFlight i = all.filterMap bus.conflated :=
    sendsTo_flatMap _ i
  unfold assigned
  rw [hflight, inFlight_nil hidle i, List.append_nil]
  rfl

open MonitorEventSubscriber

/-- A send moves an event from the call into the queue. -/
theorem assigned_send (h : bus.send = some after) (i : Fin n) :
    after.assigned i = bus.assigned i := by
  unfold send at h
  cases hsending : bus.sending with
  | nil => simp [hsending] at h
  | cons head rest =>
    obtain ⟨j, event⟩ := head
    simp only [hsending] at h
    split at h
    · rename_i hroom
      cases h
      unfold assigned inFlight
      by_cases hij : i = j
      · subst hij
        simp [hsending, stream_push]
      · have hji : j ≠ i := fun h => hij h.symm
        simp [hsending, Function.update_of_ne hij, hji]
    · cases h

theorem emitted_send (h : bus.send = some after) : after.emitted = bus.emitted := by
  unfold send at h
  split at h
  · cases h
  · split at h
    · cases h
      rfl
    · cases h

theorem emitted_receive {j : Fin n} (h : bus.receive j = some after) :
    after.emitted = bus.emitted := by
  unfold receive at h
  obtain ⟨subscriber, -, rfl⟩ := Option.map_eq_some_iff.mp h
  rfl

theorem sending_send (h : bus.send = some after) : after.sending = bus.sending.tail := by
  unfold send at h
  split at h
  · cases h
  · rename_i hsending
    split at h
    · cases h
      rw [hsending]
      rfl
    · cases h

theorem sending_receive {j : Fin n} (h : bus.receive j = some after) :
    after.sending = bus.sending := by
  unfold receive at h
  obtain ⟨subscriber, -, rfl⟩ := Option.map_eq_some_iff.mp h
  rfl

theorem assigned_receive {j : Fin n} (h : bus.receive j = some after) (i : Fin n) :
    after.assigned i = bus.assigned i := by
  unfold receive at h
  obtain ⟨subscriber, hsubscriber, rfl⟩ := Option.map_eq_some_iff.mp h
  have hstream := stream_receive _ hsubscriber
  unfold assigned inFlight
  by_cases hij : i = j
  · subst hij
    simp [hstream]
  · simp [Function.update_of_ne hij]

/-- Whether an emission reaches a subscriber. -/
def reaches (bus : MonitorEventBus n α) (kind : MonitorEventKind) (i : Fin n) : Bool :=
  kind.isReliable || !(bus.subscribers i).isFull

theorem assigned_emit (hidle : bus.sending = []) (kind : MonitorEventKind) (payload : α)
    (i : Fin n) :
    (bus.emit kind payload).assigned i =
      bus.assigned i ++
        if bus.reaches kind i then [⟨bus.emitted.length, kind, payload⟩] else [] := by
  unfold emit assigned reaches isReliable
  rw [inFlight_nil hidle i, List.append_nil]
  cases hclass : kind.deliveryClass with
  | reliable => simpa [inFlight] using sendsTo_sendsOf _ i
  | auditCritical => simpa [inFlight] using sendsTo_sendsOf _ i
  | conflated =>
    cases hfull : (bus.subscribers i).isFull <;>
      simp [emitConflated, emitDroppable, inFlight, hidle, stream_trySend,
        hfull]
  | droppable =>
    cases hfull : (bus.subscribers i).isFull <;>
      simp [emitDroppable, inFlight, hidle, stream_trySend, hfull]

variable (kind : MonitorEventKind)

@[simp] theorem emitted_emit (payload : α) :
    (bus.emit kind payload).emitted =
      bus.emitted ++ [⟨bus.emitted.length, kind, payload⟩] := by
  unfold emit
  cases kind.deliveryClass <;> rfl

/-- Only events that are sent with a wait are waited for. -/
theorem reliable_sending_emit (hidle : bus.sending = []) (kind : MonitorEventKind) (payload : α) :
    ∀ waiting ∈ (bus.emit kind payload).sending, waiting.2.kind.isReliable = true := by
  have hsends : kind.isReliable = true →
      ∀ waiting ∈ (sendsOf ⟨bus.emitted.length, kind, payload⟩ : List (Fin n × Sent α)),
        waiting.2.kind.isReliable = true := by
    intro hreliable waiting hwaiting
    obtain ⟨i, -, rfl⟩ := List.mem_map.mp hwaiting
    exact hreliable
  unfold emit
  cases hclass : kind.deliveryClass with
  | reliable => exact hsends (by simp [isReliable, hclass])
  | auditCritical => exact hsends (by simp [isReliable, hclass])
  | conflated => simp [emitConflated, emitDroppable, hidle]
  | droppable => simp [emitDroppable, hidle]

@[simp] theorem flushed_emit (payload : α) : (bus.emit kind payload).flushed = false := by
  unfold emit
  cases kind.deliveryClass <;> rfl

theorem conflated_emit (payload : α) :
    (bus.emit kind payload).conflated =
      if kind.deliveryClass = .conflated ∧ bus.hasFullSubscriber = true then
        Function.update bus.conflated kind (some ⟨bus.emitted.length, kind, payload⟩)
      else bus.conflated := by
  unfold emit
  cases hclass : kind.deliveryClass with
  | conflated =>
    simp only [emitConflated, true_and]
    rfl
  | _ => simp [emitDroppable]

end Streams

/-! ## The steps keep the invariant -/

section Steps
variable {bus after : MonitorEventBus n α}

theorem reliable_ofNotReliable {event : Sent α} (h : event.kind.isReliable = false) :
    reliable [event] = [] := by
  simp [reliable, h]

theorem reaches_of_reliable {kind : MonitorEventKind} (h : kind.isReliable = true) (i : Fin n) :
    bus.reaches kind i = true := by
  simp [reaches, h]

theorem reaches_of_room {kind : MonitorEventKind} (h : bus.hasFullSubscriber = false)
    (i : Fin n) : bus.reaches kind i = true := by
  have hroom : (bus.subscribers i).isFull = false := by
    simp only [hasFullSubscriber, List.any_eq_false] at h
    simpa using h i (List.mem_finRange i)
  simp [reaches, hroom]

/-- An emission that is sent with a wait goes to everyone; the others are none of these. -/
theorem reliable_emitted (hidle : bus.sending = []) (kind : MonitorEventKind) (payload : α)
    (i : Fin n) : ∃ more, reliable ((bus.emit kind payload).assigned i) =
        reliable (bus.assigned i) ++ more ∧
      reliable (bus.emit kind payload).emitted = reliable bus.emitted ++ more := by
  refine ⟨reliable [⟨bus.emitted.length, kind, payload⟩], ?_, ?_⟩
  · rw [assigned_emit hidle, reliable_append]
    congr 1
    cases hreliable : kind.isReliable with
    | true => rw [reaches_of_reliable hreliable i]; rfl
    | false =>
      rw [reliable_ofNotReliable hreliable]
      cases bus.reaches kind i with
      | true => exact reliable_ofNotReliable hreliable
      | false => rfl
  · rw [emitted_emit, reliable_append]

theorem reliable_emit (hidle : bus.sending = []) {i : Fin n}
    (h : reliable (bus.assigned i) = reliable bus.emitted) (kind : MonitorEventKind) (payload : α) :
    reliable ((bus.emit kind payload).assigned i) = reliable (bus.emit kind payload).emitted := by
  obtain ⟨more, hassigned, hemitted⟩ := reliable_emitted hidle kind payload i
  rw [hassigned, hemitted, h]

theorem Accounted.emit (h : bus.Accounted) (hidle : bus.sending = [])
    (kind : MonitorEventKind) (payload : α) : (bus.emit kind payload).Accounted := by
  constructor
  case numbers =>
    rw [emitted_emit, List.map_append, h.numbers, List.length_append, List.length_singleton,
      List.range_succ]
    rfl
  case sublists =>
    intro i kind' hclass
    rw [assigned_emit hidle, emitted_emit, ofKind_append, ofKind_append]
    by_cases hkind : kind = kind'
    · subst hkind
      have hsublist := sublist_snoc (h.sublists i kind hclass) (bus.reaches kind i)
        ⟨bus.emitted.length, kind, payload⟩
      cases hreach : bus.reaches kind i <;> simpa [hreach, ofKind] using hsublist
    · rw [ofKind_other_ite (by exact hkind), ofKind_other (by exact hkind), List.append_nil,
        List.append_nil]
      exact h.sublists i kind' hclass
  case reliables => exact fun i => reliable_emit hidle (h.reliables i) kind payload
  case waiting =>
    intro kind' event hwaits
    rw [conflated_emit] at hwaits
    split at hwaits
    · rename_i hcond
      by_cases hkind : kind' = kind
      · subst hkind
        rw [Function.update_self, Option.some.injEq] at hwaits
        exact ⟨by rw [← hwaits], hcond.1⟩
      · rw [Function.update_of_ne hkind] at hwaits
        exact h.waiting kind' event hwaits
    · exact h.waiting kind' event hwaits
  case current =>
    intro kind' hclass hnone i
    rw [assigned_emit hidle, emitted_emit, ofKind_append, ofKind_append]
    rw [conflated_emit] at hnone
    by_cases hkind : kind = kind'
    · subst hkind
      -- Nothing waits after an emission only if every queue had room for it.
      have hroom : bus.hasFullSubscriber = false := by
        by_contra hfull
        rw [if_pos ⟨hclass, by simpa using hfull⟩, Function.update_self] at hnone
        cases hnone
      rw [reaches_of_room hroom i]
      simp [ofKind]
    · have hbefore : bus.conflated kind' = none := by
        split at hnone
        · rwa [Function.update_of_ne (fun h => hkind h.symm)] at hnone
        · exact hnone
      rw [ofKind_other_ite (by exact hkind), ofKind_other (by exact hkind), List.append_nil,
        List.append_nil]
      exact h.current kind' hclass hbefore i
  case settled =>
    intro hflushed
    rw [flushed_emit] at hflushed
    cases hflushed

/-- Of every kind at most one event waits. -/
theorem ofKind_filterMap {waiting : MonitorEventKind → Option (Sent α)}
    (hkind : ∀ kind event, waiting kind = some event → event.kind = kind)
    (kind : MonitorEventKind) (kinds : List MonitorEventKind) (hnodup : kinds.Nodup) :
    ofKind kind (kinds.filterMap waiting) =
      if kind ∈ kinds then (waiting kind).toList else [] := by
  induction kinds with
  | nil => rfl
  | cons head rest ih =>
    obtain ⟨hhead, hrest⟩ := List.nodup_cons.mp hnodup
    have ih := ih hrest
    by_cases hk : kind = head
    · subst hk
      cases hw : waiting kind with
      | none => simp [hw, ih, hhead]
      | some event =>
        have heq : event.kind = kind := hkind kind event hw
        have hcons : ofKind kind (event :: rest.filterMap waiting) =
            event :: ofKind kind (rest.filterMap waiting) := by simp [ofKind, heq]
        simp [hw, hcons, ih, hhead]
    · cases hw : waiting head with
      | none => simp [hw, ih, hk]
      | some event =>
        have hne : event.kind ≠ kind := by
          rw [hkind head event hw]
          exact fun h => hk h.symm
        have hcons : ofKind kind (event :: rest.filterMap waiting) =
            ofKind kind (rest.filterMap waiting) := by simp [ofKind, hne]
        simp [hw, hcons, ih, hk]

theorem ofKind_waiting (h : bus.Accounted) (kind : MonitorEventKind) :
    ofKind kind (all.filterMap bus.conflated) = (bus.conflated kind).toList := by
  rw [ofKind_filterMap (fun kind event hw => (h.waiting kind event hw).1) kind _ (by decide),
    if_pos (mem_all kind)]

theorem reliable_waiting (h : bus.Accounted) :
    reliable (all.filterMap bus.conflated) = [] := by
  unfold reliable
  rw [List.filter_eq_nil_iff]
  intro event hevent
  obtain ⟨kind, -, hkind⟩ := List.mem_filterMap.mp hevent
  obtain ⟨rfl, hclass⟩ := h.waiting kind event hkind
  simp [not_isReliable_of_conflated hclass]

theorem assigned_idle (hidle : bus.sending = []) (i : Fin n) :
    bus.assigned i = (bus.subscribers i).stream := by
  unfold assigned
  rw [inFlight_nil hidle, List.append_nil]

theorem Accounted.flush (h : bus.Accounted) (hidle : bus.sending = []) (hfresh : bus.Fresh) :
    bus.flush.Accounted := by
  constructor
  case numbers => exact h.numbers
  case sublists =>
    intro i kind hclass
    rw [assigned_flush hidle, ofKind_append, ofKind_waiting h]
    cases hwaits : bus.conflated kind with
    | none =>
      rw [Option.toList_none, List.append_nil]
      exact h.sublists i kind hclass
    | some event =>
      obtain ⟨hlast, hnew⟩ := hfresh kind event hwaits
      obtain ⟨init, hinit⟩ := List.getLast?_eq_some_iff.mp hlast
      have hsublist := h.sublists i kind hclass
      have hmissing : event ∉ ofKind kind (bus.assigned i) := by
        rw [assigned_idle hidle]
        intro hmem
        exact hnew i (List.mem_of_mem_filter hmem)
      rw [hinit] at hsublist
      change (_ ++ [event]).Sublist (ofKind kind bus.emitted)
      rw [hinit]
      exact (sublist_of_not_mem_last hsublist hmissing).append (List.Sublist.refl _)
  case reliables =>
    intro i
    rw [assigned_flush hidle, reliable_append, reliable_waiting h, List.append_nil]
    exact h.reliables i
  case waiting =>
    intro kind event hwaits
    cases hwaits
  case current =>
    intro kind hclass _ i
    rw [assigned_flush hidle, ofKind_append, ofKind_waiting h]
    cases hwaits : bus.conflated kind with
    | none =>
      rw [Option.toList_none, List.append_nil]
      exact h.current kind hclass hwaits i
    | some event =>
      rw [Option.toList_some, List.getLast?_append]
      exact (hfresh kind event hwaits).1.symm
  case settled => exact fun _ _ => rfl

/-- A step that moves events along changes nothing that is counted. -/
theorem Accounted.congr (h : bus.Accounted)
    (hassigned : ∀ i, after.assigned i = bus.assigned i) (hemitted : after.emitted = bus.emitted)
    (hconflated : after.conflated = bus.conflated) (hflushed : after.flushed = bus.flushed) :
    after.Accounted := by
  constructor
  case numbers => rw [hemitted]; exact h.numbers
  case sublists =>
    intro i
    rw [hassigned, hemitted]
    exact h.sublists i
  case reliables =>
    intro i
    rw [hassigned, hemitted]
    exact h.reliables i
  case waiting => rw [hconflated]; exact h.waiting
  case current =>
    intro kind hclass hnone i
    rw [hassigned, hemitted]
    rw [hconflated] at hnone
    exact h.current kind hclass hnone i
  case settled => rw [hflushed, hconflated]; exact h.settled

theorem Accounted.send (h : bus.Accounted) (hsend : bus.send = some after) : after.Accounted := by
  have hassigned := assigned_send hsend
  unfold MonitorEventBus.send at hsend
  split at hsend
  · cases hsend
  · split at hsend
    · cases hsend
      exact h.congr hassigned rfl rfl rfl
    · cases hsend

theorem Accounted.receive (h : bus.Accounted) {j : Fin n} (hreceive : bus.receive j = some after) :
    after.Accounted := by
  have hassigned := assigned_receive hreceive
  unfold MonitorEventBus.receive at hreceive
  obtain ⟨subscriber, -, rfl⟩ := Option.map_eq_some_iff.mp hreceive
  exact h.congr hassigned rfl rfl rfl

/-- One step, with a fresh flush. -/
theorem Accounted.step (h : bus.Accounted) {s : BusStep n α} (hfresh : s = .flush → bus.Fresh)
    (hstep : bus.step s = some after) : after.Accounted := by
  cases s with
  | emit kind payload =>
    obtain ⟨hidle, rfl⟩ := Option.ite_none_right_eq_some.mp hstep |>.imp_right Option.some.inj
    exact h.emit (List.isEmpty_iff.mp hidle) kind payload
  | flush =>
    obtain ⟨hidle, rfl⟩ := Option.ite_none_right_eq_some.mp hstep |>.imp_right Option.some.inj
    exact h.flush (List.isEmpty_iff.mp hidle) (hfresh rfl)
  | send => exact h.send hstep
  | receive j => exact h.receive hstep

theorem IsNew.accounted (h : bus.IsNew) : bus.Accounted := by
  have hassigned : ∀ i, bus.assigned i = [] := fun i => by
    rw [assigned_idle h.sending, h.streams]
  constructor
  case numbers => rw [h.emitted]; rfl
  case sublists => intro i kind _; rw [hassigned]; exact List.nil_sublist _
  case reliables => intro i; rw [hassigned, h.emitted]
  case waiting => intro kind event hw; rw [h.conflated] at hw; cases hw
  case current => intro kind _ _ i; rw [hassigned, h.emitted]
  case settled => exact fun _ => h.conflated

theorem Accounted.delivered (h : bus.Accounted) : bus.Delivered := by
  constructor
  case numbered =>
    rw [← List.pairwise_map, h.numbers]
    exact List.pairwise_lt_range
  case conflatedOnce =>
    intro i kind hclass
    refine List.Sublist.trans ?_ (h.sublists i kind hclass)
    exact (List.sublist_append_left _ _).filter _
  case reliableOnce => exact h.reliables
  case latest =>
    intro hflushed hidle i kind hclass
    rw [← assigned_idle hidle]
    exact h.current kind hclass (h.settled hflushed kind) i

end Steps

/-! ## Runs -/

/-- **Delivery.**  While every flush finds what waits to be fresh, every subscriber gets what it may
rely on. -/
theorem delivered_of_freshFlushes {bus after : MonitorEventBus n α} {steps : List (BusStep n α)}
    (hnew : bus.IsNew) (hfresh : bus.FreshFlushes steps) (hrun : bus.run steps = some after) :
    after.Delivered := by
  have haccounted := GuardedRun.invariant (fun bus s after h hflush hstep => h.step hflush hstep)
    hnew.accounted hfresh hrun
  exact haccounted.delivered

instance [DecidableEq α] (bus : MonitorEventBus n α) : Decidable bus.Fresh :=
  decidable_of_iff (∀ kind ∈ all, ∀ event ∈ bus.conflated kind,
    (ofKind kind bus.emitted).getLast? = some event ∧
      ∀ i, event ∉ (bus.subscribers i).stream)
    ⟨fun h kind event hw => h kind (mem_all kind) event hw,
      fun h kind _ event hw => h kind event hw⟩

/-- A bus with one subscriber for each capacity. -/
def withCapacities (capacities : Fin n → Nat) : MonitorEventBus n α where
  subscribers i := ⟨"status_cache", capacities i, [], [], Nat.zero_le _⟩
  dropped := fun _ => 0
  conflated := fun _ => none
  sending := []
  emitted := []
  flushed := false

theorem isNew_withCapacities (capacities : Fin n → Nat) :
    (withCapacities capacities : MonitorEventBus n α).IsNew :=
  ⟨fun _ => rfl, fun _ => rfl, rfl, rfl⟩

/-- One subscriber with a queue of one. -/
def narrowBus : MonitorEventBus 1 Nat := withCapacities fun _ => 1

/-- A queue of one that is drained once, before the flush. -/
def drainedOnce : List (BusStep 1 Nat) :=
  [.emit .interval 1, .emit .interval 2, .emit .interval 3, .receive 0, .flush, .send, .receive 0]

/-- A queue of one that is drained before the last interval and again after it. -/
def drainedTwice : List (BusStep 1 Nat) :=
  [.emit .interval 1, .emit .interval 2, .receive 0, .emit .interval 3, .receive 0, .flush, .send]

/-- Of three intervals the one flush of `drainedOnce` delivers the last. -/
theorem drainedOnce_delivered :
    ∃ after, narrowBus.run drainedOnce = some after ∧ after.Delivered := by
  have hfresh : narrowBus.FreshFlushes drainedOnce := by
    refine .cons rfl nofun (.cons rfl nofun (.cons rfl nofun (.cons rfl nofun ?_)))
    exact .cons rfl (fun _ => by decide) (.cons rfl nofun (.cons rfl nofun trivial))
  refine ⟨_, rfl, ?_⟩
  exact delivered_of_freshFlushes (isNew_withCapacities fun _ => 1) hfresh rfl

/-- After `drainedTwice` the subscriber has the second interval behind the third: the pending slot
outlived the emission that made it stale. -/
theorem drainedTwice_not_delivered :
    ∃ after, narrowBus.IsNew ∧
      narrowBus.run drainedTwice = some after ∧ ¬ after.Delivered := by
  refine ⟨_, isNew_withCapacities fun _ => 1, rfl, ?_⟩
  intro h
  have hlast := h.latest rfl rfl 0 .interval rfl
  revert hlast
  decide

end MonitorEventBus

end Stutter.Session

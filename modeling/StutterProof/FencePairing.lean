import StutterProof.LastTouch
import StutterProof.PairingProbes

/-! # Waits on fences and their ends

The fence probes over any order of wait starts, wait ends and signals of any threads.  A wait's
start is kept under the fence alone, and the handler of a wait's end does not look at who called it:
it takes what is kept.  So an end is attributed to the thread that started last on the fence, and it
is the ending wait iff nothing else has been kept for the fence since. -/
namespace Stutter.Probes

/-- One event of the fence tracepoints. -/
inductive FenceStep where
  | waitStart (caller : Caller) (ctx : TracePointContext) (now : UInt64) (inserted : Bool)
  | waitDone (caller : Caller) (ctx : TracePointContext) (now : UInt64) (cpu : UInt32)
    (reserved : Bool)
  | signal (ctx : TracePointContext) (now : UInt64) (cpu : UInt32) (inserted reserved : Bool)

open FenceMaps

section Steps
variable (config : FenceConfig)

/-- The fence of a wait's start, as its handler reads it. -/
def startKey (ctx : TracePointContext) : Option FenceKey :=
  (fillFenceIdentity ctx config.waitStart).map (·.key)

/-- The fence of a wait's end, as its handler reads it. -/
def doneKey (ctx : TracePointContext) : Option FenceKey :=
  (fillFenceIdentity ctx config.waitDone).map (·.key)

def FenceMaps.step (maps : FenceMaps) : FenceStep → FenceMaps × Option DrmFenceEvent
  | .waitStart caller ctx now inserted =>
    (tryDrmFenceWaitStart config maps ctx caller now inserted, none)
  | .waitDone _ ctx now cpu reserved => tryDrmFenceWaitDone config maps ctx now cpu reserved
  | .signal ctx now cpu inserted reserved =>
    tryDrmFenceSignal config maps ctx now cpu inserted reserved

/-- The maps after the events. -/
def mapsAfter (past : List FenceStep) : FenceMaps :=
  past.foldl (fun maps s => (maps.step config s).1) .initial

/-- What the events emit. -/
def FenceMaps.emitted (maps : FenceMaps) : List FenceStep → List DrmFenceEvent
  | [] => []
  | s :: rest => (maps.step config s).2.toList ++ (maps.step config s).1.emitted rest

/-! ## Waits -/

/-- What an event leaves as the start of the wait on a fence, if it changes it. -/
def waitTouch (key : FenceKey) : FenceStep → Option (Option FenceWaitStart)
  | .waitStart caller ctx now inserted =>
    if inserted ∧ startKey config ctx = some key then some (some (config.startOf caller now))
    else none
  | .waitDone _ ctx _ _ _ => if doneKey config ctx = some key then some none else none
  | .signal .. => none

/-- The fence and the time of a wait that a thread starts. -/
def callerTouch (caller : Caller) : FenceStep → Option (Option (Option FenceKey × UInt64))
  | .waitStart other ctx now _ =>
    if other = caller then some (some (startKey config ctx, now)) else none
  | _ => none

/-- The last wait a thread has started. -/
def lastWait (caller : Caller) (past : List FenceStep) : Option (Option FenceKey × UInt64) :=
  LastTouch.after (callerTouch config caller) none past

/-- The event carries the thread and the time of the wait on its fence that the caller started
last. -/
structure DrmFenceEvent.Carries (event : DrmFenceEvent) (caller : Caller) (past : List FenceStep) :
    Prop where
  pid : event.pid = caller.pid
  tid : event.tid = caller.tid
  start : lastWait config caller past = some (some ⟨event.context, event.seqno⟩, event.waitStartNs)

/-- The last recorded event of the fence is not the start of another wait. -/
def NotOvertaken (past : List FenceStep) : FenceStep → Prop
  | .waitDone caller ctx _ _ true => ∀ key, doneKey config ctx = some key →
      ∀ before other startCtx ts later,
        past = before ++ .waitStart other startCtx ts true :: later →
        startKey config startCtx = some key → (∀ s ∈ later, waitTouch config key s = none) →
        other = caller ∧ lastWait config caller past = some (some key, ts)
  | _ => True

/-- An interval of a wait that a thread started on a fence at a time. -/
def DrmFenceEvent.intervalOf (event : DrmFenceEvent) (key : FenceKey) (caller : Caller)
    (ts : UInt64) :
    Bool :=
  event.eventKind = drmFenceEventWaitInterval ∧ (⟨event.context, event.seqno⟩ : FenceKey) = key ∧
    (⟨event.pid, event.tid⟩ : Caller) = caller ∧ event.waitStartNs = ts

def FenceStep.starts (s : FenceStep) (key : FenceKey) (caller : Caller) (ts : UInt64) : Bool :=
  match s with
  | .waitStart other ctx now _ => other = caller ∧ now = ts ∧ startKey config ctx = some key
  | _ => false

/-- Every interval is of the thread whose wait ends, and a started wait has at most one. -/
structure Attributed (steps : List FenceStep) : Prop where
  carried : ∀ past s later event, steps = past ++ s :: later →
    ((mapsAfter config past).step config s).2 = some event →
    event.eventKind = drmFenceEventWaitInterval →
    ∃ caller ctx now cpu reserved, s = .waitDone caller ctx now cpu reserved ∧
      event.Carries config caller past
  once : ∀ key caller ts,
    ((initial.emitted config steps).countP fun event => event.intervalOf key caller ts) ≤
      steps.countP fun s => s.starts config key caller ts

end Steps

/-! ## The handlers -/

section Handlers
variable {config : FenceConfig} {maps : FenceMaps} {ctx : TracePointContext}

/-- What the end of a wait emits, and what it takes. -/
theorem tryDrmFenceWaitDone_eq (maps : FenceMaps) {key : FenceKey}
    (hkey : doneKey config ctx = some key) (now : UInt64) (cpu : UInt32) (reserved : Bool) :
    (tryDrmFenceWaitDone config maps ctx now cpu reserved).1.waitStarts =
      maps.waitStarts.remove key ∧
      ∀ event, (tryDrmFenceWaitDone config maps ctx now cpu reserved).2 = some event →
        reserved = true ∧ (⟨event.context, event.seqno⟩ : FenceKey) = key ∧
        (event.eventKind = drmFenceEventWaitInterval →
          ∃ start, maps.waitStarts.get key = some start ∧ event.pid = start.pid ∧
            event.tid = start.tid ∧ event.waitStartNs = start.ts) := by
  obtain ⟨identity, hidentity, rfl⟩ := Option.map_eq_some_iff.mp hkey
  unfold tryDrmFenceWaitDone
  rw [hidentity]
  refine ⟨rfl, ?_⟩
  intro event hevent
  cases reserved with
  | false => cases hevent
  | true =>
    cases hstart : maps.waitStarts.get identity.key with
    | none =>
      simp only [hstart] at hevent
      obtain rfl := Option.some.inj hevent
      refine ⟨rfl, rfl, fun hkind => absurd hkind ?_⟩
      show drmFenceEventWaitDone ≠ drmFenceEventWaitInterval
      decide
    | some start =>
      simp only [hstart] at hevent
      obtain rfl := Option.some.inj hevent
      exact ⟨rfl, rfl, fun _ => ⟨start, rfl, rfl, rfl, rfl⟩⟩

/-- A start that is kept gives an interval at the end. -/
theorem tryDrmFenceWaitDone_interval {key : FenceKey} {start : FenceWaitStart}
    (hkey : doneKey config ctx = some key) (hstart : maps.waitStarts.get key = some start)
    (now : UInt64) (cpu : UInt32) :
    ∃ event, (tryDrmFenceWaitDone config maps ctx now cpu true).2 = some event ∧
      event.eventKind = drmFenceEventWaitInterval := by
  obtain ⟨identity, hidentity, rfl⟩ := Option.map_eq_some_iff.mp hkey
  unfold tryDrmFenceWaitDone
  rw [hidentity]
  simp only [hstart]
  exact ⟨_, rfl, rfl⟩

theorem tryDrmFenceWaitDone_of_none (hkey : doneKey config ctx = none) (now : UInt64)
    (cpu : UInt32) (reserved : Bool) :
    tryDrmFenceWaitDone config maps ctx now cpu reserved = (maps, none) := by
  unfold tryDrmFenceWaitDone
  rw [Option.map_eq_none_iff.mp hkey]

theorem tryDrmFenceWaitStart_waitStarts (ctx : TracePointContext) (caller : Caller) (now : UInt64)
    (inserted : Bool) (key : FenceKey) :
    (tryDrmFenceWaitStart config maps ctx caller now inserted).waitStarts.get key =
      if inserted ∧ startKey config ctx = some key then some (config.startOf caller now)
      else maps.waitStarts.get key := by
  unfold tryDrmFenceWaitStart startKey
  cases hidentity : fillFenceIdentity ctx config.waitStart with
  | none => simp
  | some identity =>
    cases inserted with
    | false => simp
    | true => simp [eq_comm]

theorem tryDrmFenceSignal_eq (ctx : TracePointContext) (now : UInt64) (cpu : UInt32)
    (inserted reserved : Bool) :
    (tryDrmFenceSignal config maps ctx now cpu inserted reserved).1.waitStarts = maps.waitStarts ∧
      ∀ event, (tryDrmFenceSignal config maps ctx now cpu inserted reserved).2 = some event →
        event.eventKind ≠ drmFenceEventWaitInterval := by
  unfold tryDrmFenceSignal
  cases fillFenceIdentity ctx config.signal with
  | none => exact ⟨rfl, nofun⟩
  | some identity =>
    refine ⟨rfl, ?_⟩
    intro event hevent
    cases reserved with
    | false => cases hevent
    | true =>
      obtain rfl := Option.some.inj hevent
      show drmFenceEventSignal ≠ drmFenceEventWaitInterval
      decide

/-- An event changes the kept start of a fence as `waitTouch` says. -/
theorem step_waitStarts (s : FenceStep) (key : FenceKey) :
    (maps.step config s).1.waitStarts.get key =
      (waitTouch config key s).getD (maps.waitStarts.get key) := by
  cases s with
  | waitStart caller ctx now inserted =>
    simp only [step, waitTouch, tryDrmFenceWaitStart_waitStarts]
    split
    · rfl
    · rfl
  | waitDone caller ctx now cpu reserved =>
    simp only [step, waitTouch]
    cases hkey : doneKey config ctx with
    | none =>
      rw [tryDrmFenceWaitDone_of_none hkey]
      rfl
    | some done =>
      rw [(tryDrmFenceWaitDone_eq maps hkey now cpu reserved).1, Table.get_remove]
      by_cases hsame : key = done
      · rw [if_pos hsame, if_pos (by rw [hsame])]
        rfl
      · rw [if_neg hsame, if_neg (by simpa [eq_comm] using hsame)]
        rfl
  | signal ctx now cpu inserted reserved =>
    simp only [step, waitTouch, (tryDrmFenceSignal_eq ctx now cpu inserted reserved).1]
    rfl

theorem mapsAfter_waitStarts (past : List FenceStep) (key : FenceKey) :
    (mapsAfter config past).waitStarts.get key = LastTouch.after (waitTouch config key) none past :=
  LastTouch.foldl_read (fun maps : FenceMaps => maps.waitStarts.get key)
    (fun _ s => step_waitStarts s key) initial

end Handlers

/-! ## What an end is attributed to -/

section Ends
variable {config : FenceConfig} {past : List FenceStep}

/-- What is kept for a fence is the last start recorded on it, if no end has taken it. -/
theorem kept_iff {key : FenceKey} {start : FenceWaitStart} :
    (mapsAfter config past).waitStarts.get key = some start ↔
      ∃ before caller ctx now later, past = before ++ .waitStart caller ctx now true :: later ∧
        startKey config ctx = some key ∧ config.startOf caller now = start ∧
        ∀ s ∈ later, waitTouch config key s = none := by
  rw [mapsAfter_waitStarts, LastTouch.after_eq_iff]
  constructor
  · rintro (⟨before, s, later, rfl, hs, hlater⟩ | ⟨hnone, -⟩)
    · cases s with
      | waitStart caller ctx now inserted =>
        rw [waitTouch] at hs
        split at hs
        case isTrue hkept =>
          obtain ⟨rfl, hkey⟩ := hkept
          exact ⟨before, caller, ctx, now, later, rfl, hkey, by simpa using hs, hlater⟩
        case isFalse => cases hs
      | waitDone caller ctx now cpu reserved =>
        rw [waitTouch] at hs
        split at hs <;> simp at hs
      | signal => cases hs
    · cases hnone
  · rintro ⟨before, caller, ctx, now, later, rfl, hkey, rfl, hlater⟩
    exact .inl ⟨before, _, later, rfl, if_pos ⟨rfl, hkey⟩, hlater⟩

/-- An end emits an interval of its caller's wait iff its caller's start is the last one
recorded. -/
theorem carries_iff_notOvertaken (s : FenceStep) :
    (∀ event, ((mapsAfter config past).step config s).2 = some event →
      event.eventKind = drmFenceEventWaitInterval →
      ∃ caller ctx now cpu reserved, s = .waitDone caller ctx now cpu reserved ∧
        event.Carries config caller past) ↔ NotOvertaken config past s := by
  cases s with
  | waitStart caller ctx now inserted => exact ⟨fun _ => trivial, fun _ => nofun⟩
  | signal ctx now cpu inserted reserved =>
    refine ⟨fun _ => trivial, fun _ event hevent hkind => ?_⟩
    exact absurd hkind ((tryDrmFenceSignal_eq ctx now cpu inserted reserved).2 event hevent)
  | waitDone caller ctx now cpu reserved =>
    cases hdone : doneKey config ctx with
    | none =>
      have hquiet : tryDrmFenceWaitDone config (mapsAfter config past) ctx now cpu reserved =
          (mapsAfter config past, none) := tryDrmFenceWaitDone_of_none hdone now cpu reserved
      constructor
      · intro _
        cases reserved with
        | false => trivial
        | true =>
          intro key hkey
          rw [hdone] at hkey
          cases hkey
      · intro _ event hevent
        simp [step, hquiet] at hevent
    | some key =>
      have hends := (tryDrmFenceWaitDone_eq (mapsAfter config past) hdone now cpu reserved).2
      constructor
      · intro hcarries
        cases reserved with
        | false => trivial
        | true =>
          intro key' hkey' before other startCtx ts later hpast hstart hlater
          obtain rfl : key = key' := by rwa [hdone, Option.some.injEq] at hkey'
          -- the start is what the table keeps, so the end emits its interval
          have hkept :=
            kept_iff.mpr ⟨before, other, startCtx, ts, later, hpast, hstart, rfl, hlater⟩
          obtain ⟨event, hevent, hkind⟩ := tryDrmFenceWaitDone_interval hdone hkept now cpu
          obtain ⟨_, hfence, hinterval⟩ := hends event hevent
          obtain ⟨start, hget, hpid, htid, hts⟩ := hinterval hkind
          obtain rfl : config.startOf other ts = start := by rwa [hkept, Option.some.injEq] at hget
          obtain ⟨_, _, _, _, _, hs, hcarry⟩ := hcarries event hevent hkind
          cases hs
          refine ⟨?_, ?_⟩
          · cases other
            cases caller
            rw [Caller.mk.injEq]
            exact ⟨hpid.symm.trans hcarry.pid, htid.symm.trans hcarry.tid⟩
          · rw [hcarry.start, hfence, hts]
            rfl
      · intro hnot event hevent hkind
        refine ⟨caller, ctx, now, cpu, reserved, rfl, ?_⟩
        obtain ⟨rfl, hfence, hinterval⟩ := hends event hevent
        obtain ⟨start, hget, hpid, htid, hts⟩ := hinterval hkind
        obtain ⟨before, other, startCtx, ts, later, hpast, hstart, rfl, hlater⟩ := kept_iff.mp hget
        obtain ⟨rfl, hlast⟩ := hnot key hdone before other startCtx ts later hpast hstart hlater
        refine ⟨hpid, htid, ?_⟩
        rw [hlast, hfence, hts]
        rfl

end Ends

/-! ## One interval for a start -/

section Once
variable {config : FenceConfig} {maps : FenceMaps}

/-- The table keeps a start of the thread at the time. -/
def FenceMaps.keeps (maps : FenceMaps) (key : FenceKey) (caller : Caller) (ts : UInt64) : Bool :=
  (maps.waitStarts.get key).any fun start => (⟨start.pid, start.tid⟩ : Caller) = caller ∧
    start.ts = ts

/-- The interval of a wait comes from what the table keeps of it, which the end takes. -/
theorem intervalOf_waitDone {ctx : TracePointContext} {now : UInt64} {cpu : UInt32}
    {reserved : Bool} {event : DrmFenceEvent} {key : FenceKey} {caller : Caller} {ts : UInt64}
    (hevent : (tryDrmFenceWaitDone config maps ctx now cpu reserved).2 = some event)
    (hof : event.intervalOf key caller ts = true) :
    doneKey config ctx = some key ∧ maps.keeps key caller ts = true := by
  rw [DrmFenceEvent.intervalOf, decide_eq_true_iff] at hof
  obtain ⟨hkind, hfence, hcaller, hts⟩ := hof
  cases hdone : doneKey config ctx with
  | none =>
    rw [tryDrmFenceWaitDone_of_none hdone] at hevent
    cases hevent
  | some done =>
    obtain ⟨_, hkey, hinterval⟩ :=
      (tryDrmFenceWaitDone_eq maps hdone now cpu reserved).2 event hevent
    obtain ⟨start, hget, hpid, htid, hstart⟩ := hinterval hkind
    obtain rfl : done = key := hkey.symm.trans hfence
    refine ⟨rfl, ?_⟩
    rw [keeps, hget, Option.any_some, decide_eq_true_iff, ← hpid, ← htid, ← hstart]
    exact ⟨hcaller, hts⟩

/-- An event passes on what is kept, to the table or to an interval; only a start adds to it. -/
theorem step_keeps (config : FenceConfig) (maps : FenceMaps) (s : FenceStep) (key : FenceKey)
    (caller : Caller) (ts : UInt64) :
    ((maps.step config s).2.toList.countP fun event => event.intervalOf key caller ts) +
        ((maps.step config s).1.keeps key caller ts).toNat ≤
      (s.starts config key caller ts).toNat + (maps.keeps key caller ts).toNat := by
  have hkeeps : (maps.step config s).1.keeps key caller ts =
      (((waitTouch config key s).getD (maps.waitStarts.get key)).any fun start =>
        (⟨start.pid, start.tid⟩ : Caller) = caller ∧ start.ts = ts) := by
    rw [keeps, step_waitStarts]
  rw [hkeeps]
  cases s with
  | waitStart other ctx now inserted =>
    by_cases htouch : inserted = true ∧ startKey config ctx = some key
    · rw [waitTouch, if_pos htouch]
      by_cases hthis : other = caller ∧ now = ts
      · obtain ⟨rfl, rfl⟩ := hthis
        simp [step, FenceStep.starts, htouch.2, FenceConfig.startOf]
      · have hnot : decide ((⟨other.pid, other.tid⟩ : Caller) = caller ∧ now = ts) = false :=
          decide_eq_false hthis
        simp only [step, FenceConfig.startOf, Option.getD_some, Option.any_some, hnot]
        exact Nat.zero_le _
    · rw [waitTouch, if_neg htouch, Option.getD_none]
      exact Nat.add_le_add (Nat.zero_le _) le_rfl
  | waitDone other ctx now cpu reserved =>
    rw [waitTouch]
    cases hevent : (tryDrmFenceWaitDone config maps ctx now cpu reserved).2 with
    | none =>
      simp only [step, hevent, FenceStep.starts]
      split
      · exact Nat.zero_le _
      · exact Nat.add_le_add (Nat.zero_le _) le_rfl
    | some event =>
      simp only [step, hevent, FenceStep.starts]
      cases hof : event.intervalOf key caller ts with
      | true =>
        obtain ⟨hdone, hkeep⟩ := intervalOf_waitDone hevent hof
        simp [hdone, hkeep, hof]
      | false =>
        simp only [Option.toList_some, List.countP_singleton, hof, Bool.false_eq_true, if_false]
        split
        · exact Nat.zero_le _
        · exact le_rfl
  | signal ctx now cpu inserted reserved =>
    rw [waitTouch, Option.getD_none]
    refine Nat.add_le_add ?_ le_rfl
    refine (List.countP_eq_zero.mpr ?_).trans_le (Nat.zero_le _)
    intro event hevent
    rw [DrmFenceEvent.intervalOf, decide_eq_true_iff]
    rintro ⟨hkind, -⟩
    exact (tryDrmFenceSignal_eq ctx now cpu inserted reserved).2 event
      (Option.mem_toList.mp hevent) hkind

theorem emitted_countP_le (steps : List FenceStep) (key : FenceKey) (caller : Caller)
    (ts : UInt64) :
    ((maps.emitted config steps).countP fun event => event.intervalOf key caller ts) ≤
      (steps.countP fun s => s.starts config key caller ts) + (maps.keeps key caller ts).toNat := by
  induction steps generalizing maps with
  | nil => exact Nat.zero_le _
  | cons s rest ih =>
    have hstep := step_keeps config maps s key caller ts
    have hrest := @ih (maps.step config s).1
    rw [emitted, List.countP_append, List.countP_cons]
    have hhead : (s.starts config key caller ts).toNat =
        if s.starts config key caller ts = true then 1 else 0 := by
      cases s.starts config key caller ts with
      | false => rfl
      | true => rfl
    omega

end Once

/-! ## The run -/

/-- Every interval is of the thread whose wait ends iff no end of a wait comes while the start of
another wait is the last one recorded on its fence; a start has at most one interval in any case. -/
theorem attributed_iff (config : FenceConfig) (steps : List FenceStep) :
    Attributed config steps ↔
      ∀ past s later, steps = past ++ s :: later → NotOvertaken config past s := by
  constructor
  · intro hattributed past s later hsteps
    rw [← carries_iff_notOvertaken]
    intro event hevent hkind
    exact hattributed.carried past s later event hsteps hevent hkind
  · intro hnot
    refine ⟨?_, ?_⟩
    · intro past s later event hsteps hevent hkind
      exact carries_iff_notOvertaken s |>.mpr (hnot past s later hsteps) event hevent hkind
    · intro key caller ts
      exact emitted_countP_le steps key caller ts

/-- A tracepoint with the fence's context at offset 8 and its number at offset 16. -/
def sharedFenceConfig : FenceConfig :=
  ⟨⟨8, 16, 0⟩, ⟨8, 16, 0⟩, ⟨8, 16, 0⟩, 1, 2, 1, 2⟩

def sharedFence : TracePointContext where
  readU32 := fun _ => none
  readU64 := fun offset => some (if offset = 8 then 40 else 7)
  readBytes8 := fun _ => none

/-- Threads 11 and 12 wait on one fence. -/
def overlappingWaits : List FenceStep :=
  [.waitStart ⟨1, 11⟩ sharedFence 100 true, .waitStart ⟨1, 12⟩ sharedFence 150 true]

/-- Thread 11 is done first, and the interval has thread 12 and the start of its wait. -/
theorem overlappingWaits_not_attributed :
    ¬Attributed sharedFenceConfig
      (overlappingWaits ++ [.waitDone ⟨1, 11⟩ sharedFence 900 0 true]) := by
  intro hattributed
  have hnot := (carries_iff_notOvertaken _).mp fun event =>
    hattributed.carried overlappingWaits _ [] event rfl
  have hlast := hnot ⟨40, 7⟩ (by decide +kernel) [_] ⟨1, 12⟩ sharedFence 150 [] rfl
    (by decide +kernel) nofun
  exact absurd hlast.1 (by decide)

end Stutter.Probes

import Mathlib.Logic.Function.Basic
import StutterProof.GuardedRun

/-! # The privileged validation runner

Every connection has a thread of its own.  A request loads the durable state, and only then tries
the lock that keeps the exclusive actions apart; a cancellation does without the lock.  The steps
are those that the threads can interleave: load, try the lock, act and save. -/
namespace Stutter.ValidationRunner

/-! ## The durable state -/

def SCHEMA_VERSION : Nat := 2

/-- The runner's file. -/
structure RunnerState where
  schemaVersion : Nat
  campaignId : String
  rebootsUsed : Nat
  cancelled : Bool
  resumePending : Bool
  pendingBootEntry : Option String
  updatedUnixMs : Nat

/-- A state that `load` hands out: of this schema and of this campaign. -/
structure LoadedState (campaignId : String) where
  state : RunnerState
  schema : state.schemaVersion = SCHEMA_VERSION
  campaign : state.campaignId = campaignId

inductive StateError where
  | corrupt | io

/-- What is on the disk. -/
inductive StateFile where
  | missing
  | malformed
  | json (state : RunnerState)

/-- `StateDir::load`: a missing file is a fresh campaign. -/
def StateFile.load (campaignId : String) :
    StateFile → Except StateError (LoadedState campaignId)
  | missing => .ok ⟨⟨SCHEMA_VERSION, campaignId, 0, false, false, none, 0⟩, rfl, rfl⟩
  | malformed => .error .corrupt
  | json state =>
    if h : state.schemaVersion = SCHEMA_VERSION ∧ state.campaignId = campaignId then
      .ok ⟨state, h.1, h.2⟩
    else .error .corrupt

/-- How `atomic_write` ends: `unsynced` has replaced the file and then failed to sync the
directory. -/
inductive SaveOutcome where
  | saved | unwritten | unsynced
  deriving DecidableEq

def SaveOutcome.replaces : SaveOutcome → Bool
  | saved | unsynced => true
  | unwritten => false

/-! ## Requests -/

/-- What the executor may run. -/
inductive ExecutorAction where
  | liveSuite | schedulerBurst | recording | workloadOverhead | startPrivilegedWorker
  | stopPrivilegedWorker

/-- The requests of the runner. -/
inductive Request where
  | status
  | execute (action : ExecutorAction)
  | prepareKernelCycle (entryId : String)
  | setNextBoot (entryId : String)
  | reboot
  | resumeCampaign
  | cancelCampaign

namespace Request

/-- The requests that a cancelled campaign still answers. -/
def answersWhenCancelled : Request → Bool
  | status | cancelCampaign => true
  | _ => false

/-- Whether the request writes the state back. -/
def savesState : Request → Bool
  | execute _ | status => false
  | _ => true

end Request

/-- The runner's error codes. -/
inductive ErrorCode where
  | corruptState | cancelled | busy | rebootBudgetExhausted | unsupported | executionFailed

inductive Response where
  | ok
  | rejected (code : ErrorCode)
  | failed (code : ErrorCode)

/-! ## Threads -/

/-- Where the thread of a request is, outside of the lock; `inside` is in `Exclusive`. -/
inductive Position (campaignId : String) where
  | arrived
  | loaded (copy : LoadedState campaignId)
  /-- A cancellation that has called `restore_default`. -/
  | restored (copy : LoadedState campaignId)
  | inside
  | answered (response : Response)

/-- Where the request that holds the lock is. -/
inductive Stage (campaignId : String) where
  | locked (copy : LoadedState campaignId)
  | acting
  /-- The one-shot entry is selected and has to be saved. -/
  | selected (copy : LoadedState campaignId)
  /-- The reboot is saved and has to be issued. -/
  | rebooting (copy : LoadedState campaignId)
  /-- The reboot was refused and has to be taken back. -/
  | refused (copy : LoadedState campaignId)

/-- The owner of the lock's guard. -/
structure Exclusive (campaignId : String) where
  thread : Nat
  request : Request
  stage : Stage campaignId

/-- The server with its threads. -/
structure Server (campaignId : String) where
  maxReboots : Nat
  file : StateFile
  /-- The boot loader's one-shot entry. -/
  oneShot : Option String
  threads : Nat → Option (Request × Position campaignId)
  busy : Option (Exclusive campaignId)
  /-- Whether a cancellation was answered with ok. -/
  cancelAnswered : Bool
  /-- Whether an exclusive action was started after that. -/
  startedLate : Bool
  /-- Whether the one-shot entry was selected after that. -/
  selectedLate : Bool
  /-- The reboots that were issued and not refused. -/
  reboots : Nat

/-- The steps of the server. -/
inductive Step where
  | connect (i : Nat) (request : Request)
  | load (i : Nat) (ioError : Bool)
  | restoreDefault (i : Nat) (succeeds : Bool)
  | saveCancelled (i : Nat) (outcome : SaveOutcome) (now : Nat)
  | tryLock (i : Nat)
  | execute
  | executed (denial : Option ErrorCode)
  | setNextBoot (succeeds : Bool)
  | save (outcome : SaveOutcome) (now : Nat)
  | reboot (succeeds : Bool)

namespace LoadedState
variable {campaignId : String} (copy : LoadedState campaignId)

def cancel : LoadedState campaignId :=
  { copy with state :=
    { copy.state with cancelled := true, resumePending := false, pendingBootEntry := none } }

def selectBoot (entryId : String) : LoadedState campaignId :=
  { copy with state := { copy.state with pendingBootEntry := some entryId } }

def useReboot : LoadedState campaignId :=
  { copy with state :=
    { copy.state with rebootsUsed := copy.state.rebootsUsed + 1, resumePending := true } }

def takeRebootBack : LoadedState campaignId :=
  { copy with state :=
    { copy.state with rebootsUsed := copy.state.rebootsUsed - 1, resumePending := false } }

def resume : LoadedState campaignId :=
  { copy with state := { copy.state with resumePending := false, pendingBootEntry := none } }

end LoadedState

namespace Server
variable {campaignId : String} (server : Server campaignId)

/-- `StateDir::save`, in one step: the name of the temporary file is the process's, and two saves
that overlap would write into the same one. -/
def saveState (copy : LoadedState campaignId) (outcome : SaveOutcome) (now : Nat) :
    Server campaignId :=
  { server with
    file := if outcome.replaces then .json { copy.state with updatedUnixMs := now }
      else server.file }

def setPosition (i : Nat) (request : Request) (position : Position campaignId) :
    Server campaignId :=
  { server with threads := Function.update server.threads i (some (request, position)) }

/-- The end of a request that holds the lock. -/
def release (owner : Exclusive campaignId) (response : Response) : Server campaignId :=
  { server.setPosition owner.thread owner.request (.answered response) with busy := none }

def setStage (owner : Exclusive campaignId) (stage : Stage campaignId) : Server campaignId :=
  { server with busy := some { owner with stage } }

/-- An exclusive action starts. -/
def recordStart : Server campaignId :=
  { server with startedLate := server.startedLate || server.cancelAnswered }

/-- `persist`'s answer. -/
def persisted : SaveOutcome → Response
  | .saved => .ok
  | .unwritten | .unsynced => .failed .corruptState

/-- The first half of `dispatch`. -/
def loadStep (i : Nat) (request : Request) (ioError : Bool) : Server campaignId :=
  match if ioError then .error .io else server.file.load campaignId with
  | .error _ => server.setPosition i request (.answered (.failed .corruptState))
  | .ok copy =>
    if copy.state.cancelled && !request.answersWhenCancelled then
      server.setPosition i request (.answered (.rejected .cancelled))
    else
      match request with
      | .status => server.setPosition i request (.answered .ok)
      | _ => server.setPosition i request (.loaded copy)

def setNextBootStep (owner : Exclusive campaignId) (copy : LoadedState campaignId)
    (entryId : String) (succeeds : Bool) : Server campaignId :=
  if succeeds then
    { server.recordStart.setStage owner (.selected (copy.selectBoot entryId)) with
      oneShot := some entryId
      selectedLate := server.selectedLate || server.cancelAnswered }
  else server.recordStart.release owner (.failed .unsupported)

/-- The first save of `Reboot`. -/
def saveReboot (owner : Exclusive campaignId) (copy : LoadedState campaignId)
    (outcome : SaveOutcome) (now : Nat) : Server campaignId :=
  if server.maxReboots ≤ copy.state.rebootsUsed then
    server.release owner (.rejected .rebootBudgetExhausted)
  else
    match outcome with
    | .saved => (server.recordStart.saveState copy.useReboot outcome now).setStage owner
        (.rebooting copy.useReboot)
    | .unwritten | .unsynced => (server.recordStart.saveState copy.useReboot outcome now).release
        owner (.failed .corruptState)

/-- One step of a thread of the server. -/
def step : Step → Option (Server campaignId)
  | .connect i request =>
    match server.threads i with
    | none => some (server.setPosition i request .arrived)
    | some _ => none
  | .load i ioError =>
    match server.threads i with
    | some (request, .arrived) => some (server.loadStep i request ioError)
    | _ => none
  | .restoreDefault i succeeds =>
    match server.threads i with
    | some (.cancelCampaign, .loaded copy) => some
        { server.setPosition i .cancelCampaign (.restored copy.cancel) with
          oneShot := if succeeds then none else server.oneShot
          selectedLate := server.selectedLate && !succeeds }
    | _ => none
  | .saveCancelled i outcome now =>
    match server.threads i with
    | some (.cancelCampaign, .restored copy) => some
        { (server.saveState copy outcome now).setPosition i .cancelCampaign
            (.answered (persisted outcome)) with
          cancelAnswered := server.cancelAnswered || outcome == .saved }
    | _ => none
  | .tryLock i =>
    match server.threads i with
    | some (request, .loaded copy) =>
      if request.answersWhenCancelled then none else
      match server.busy with
      | some _ => some (server.setPosition i request (.answered (.rejected .busy)))
      | none => some
          { server.setPosition i request .inside with busy := some ⟨i, request, .locked copy⟩ }
    | _ => none
  | .execute =>
    match server.busy with
    | some ⟨i, .execute action, .locked _⟩ =>
      some (server.recordStart.setStage ⟨i, .execute action, .acting⟩ .acting)
    | _ => none
  | .executed denial =>
    match server.busy with
    | some ⟨i, request, .acting⟩ =>
      some (server.release ⟨i, request, .acting⟩ (denial.elim .ok .failed))
    | _ => none
  | .setNextBoot succeeds =>
    match server.busy with
    | some ⟨i, .setNextBoot entryId, .locked copy⟩ =>
      some (server.setNextBootStep ⟨i, .setNextBoot entryId, .locked copy⟩ copy entryId succeeds)
    | some ⟨i, .prepareKernelCycle entryId, .locked copy⟩ =>
      some (server.setNextBootStep ⟨i, .prepareKernelCycle entryId, .locked copy⟩ copy entryId
        succeeds)
    | _ => none
  | .save outcome now =>
    match server.busy with
    | some ⟨i, request, .selected copy⟩ => some
        ((server.saveState copy outcome now).release ⟨i, request, .selected copy⟩
          (persisted outcome))
    | some ⟨i, .resumeCampaign, .locked copy⟩ => some
        ((server.recordStart.saveState copy.resume outcome now).release
          ⟨i, .resumeCampaign, .locked copy⟩ (persisted outcome))
    | some ⟨i, .reboot, .locked copy⟩ =>
      some (server.saveReboot ⟨i, .reboot, .locked copy⟩ copy outcome now)
    | some ⟨i, .reboot, .refused copy⟩ => some
        ((server.saveState copy.takeRebootBack outcome now).release ⟨i, .reboot, .refused copy⟩
          (.failed .unsupported))
    | _ => none
  | .reboot succeeds =>
    match server.busy with
    | some ⟨i, .reboot, .rebooting copy⟩ => some <|
      if succeeds then
        { server.release ⟨i, .reboot, .rebooting copy⟩ .ok with reboots := server.reboots + 1 }
      else server.setStage ⟨i, .reboot, .rebooting copy⟩ (.refused copy)
    | _ => none

def run (steps : List Step) : Option (Server campaignId) := GuardedRun.run step server steps

/-! ## What is promised -/

/-- The state that a load would find. -/
def durable : Option RunnerState := (server.file.load campaignId).toOption.map (·.state)

/-- The reboot that is saved and neither issued nor taken back. -/
def underWay : Nat :=
  match server.busy with
  | some ⟨_, _, .rebooting _⟩ | some ⟨_, _, .refused _⟩ => 1
  | _ => 0

/-- **What the runner promises.**  A cancellation that was answered with ok stays in the durable
state, and after it no exclusive action starts and no one-shot entry is selected; the reboots stay
in their budget; and the durable count is that of the reboots, with the one that is under way. -/
structure Kept : Prop where
  cancelled : server.cancelAnswered = true →
    ∃ durable, server.durable = some durable ∧ durable.cancelled = true
  noStart : server.startedLate = false
  noSelection : server.selectedLate = false
  budget : server.reboots ≤ server.maxReboots
  counted : ∀ durable, server.durable = some durable →
    durable.rebootsUsed = server.reboots + server.underWay

/-- A runner that was just started; the campaign may have rebooted before, and may be cancelled. -/
structure IsStarted : Prop where
  threads : ∀ i, server.threads i = none
  busy : server.busy = none
  cancelled : server.cancelAnswered = true →
    ∃ durable, server.durable = some durable ∧ durable.cancelled = true
  startedLate : server.startedLate = false
  selectedLate : server.selectedLate = false
  budget : server.reboots ≤ server.maxReboots
  counted : ∀ durable, server.durable = some durable → durable.rebootsUsed = server.reboots

/-- The copy of a request agrees with the durable state: neither of the two is cancelled and, where
the request writes its copy back, they count the same reboots. -/
def Current (copy : LoadedState campaignId) (writesBack : Bool) : Prop :=
  ∃ durable, server.durable = some durable ∧ durable.cancelled = false ∧
    copy.state.cancelled = false ∧
    (writesBack = true → durable.rebootsUsed = copy.state.rebootsUsed)

/-- The condition on a step.  A request takes the lock with a current copy; a cancellation is
saved with the durable count of reboots and while no exclusive request is between its lock and its
end, unless the executor runs it; the save before a reboot does not fail once the file is replaced,
and the save that takes a reboot back replaces it. -/
def Orderly : Step → Prop
  | .tryLock i => ∀ request copy, server.threads i = some (request, .loaded copy) →
      server.busy.isNone → server.Current copy request.savesState
  | .saveCancelled i outcome _ => ∀ request copy,
      server.threads i = some (request, .restored copy) → outcome.replaces = true →
      (∃ durable, server.durable = some durable ∧
        durable.rebootsUsed = copy.state.rebootsUsed) ∧
      ∀ owner, server.busy = some owner → owner.stage = .acting
  | .save outcome _ =>
      (∀ i copy, server.busy = some ⟨i, .reboot, .locked copy⟩ → outcome ≠ .unsynced) ∧
      (∀ i copy, server.busy = some ⟨i, .reboot, .refused copy⟩ → outcome.replaces = true)
  | _ => True

/-! ## The invariant -/

/-- What is known of the request that holds the lock. -/
def OwnerKnown (owner : Exclusive campaignId) : Prop :=
  match owner.stage with
  | .locked copy => server.Current copy owner.request.savesState
  | .acting => True
  | .selected copy => server.Current copy true
  | .rebooting copy | .refused copy =>
    server.Current copy true ∧ copy.state.rebootsUsed ≤ server.maxReboots

structure Guarded : Prop extends server.Kept where
  copies : ∀ i request copy, server.threads i = some (request, .loaded copy) →
    request.answersWhenCancelled = false → copy.state.cancelled = false
  restored : ∀ i request copy, server.threads i = some (request, .restored copy) →
    copy.state.cancelled = true
  owner : ∀ owner, server.busy = some owner → server.OwnerKnown owner

/-! ## The parts of a step -/

section Parts
variable {server} {owner : Exclusive campaignId}

/-- A save that replaces the file is what the next load finds. -/
theorem durable_saveState (copy : LoadedState campaignId) (outcome : SaveOutcome) (now : Nat) :
    (server.saveState copy outcome now).durable =
      if outcome.replaces then some { copy.state with updatedUnixMs := now }
      else server.durable := by
  unfold durable saveState
  cases outcome.replaces with
  | false => rfl
  | true => simp [StateFile.load, copy.schema, copy.campaign, Except.toOption]

variable {copy : LoadedState campaignId}

theorem saveState_unwritten {outcome : SaveOutcome} {now : Nat}
    (h : outcome.replaces = false) : server.saveState copy outcome now = server := by
  unfold saveState
  rw [h]
  rfl

/-- Writing a current copy back with the count it was loaded with changes no count. -/
theorem Current.counted_saveState (h : server.Current copy true) (written : LoadedState campaignId)
    (hcounted : ∀ durable, server.durable = some durable → durable.rebootsUsed = server.reboots)
    (hwritten : written.state.rebootsUsed = copy.state.rebootsUsed) (outcome : SaveOutcome)
    (now : Nat) :
    ∀ durable, (server.saveState written outcome now).durable = some durable →
      durable.rebootsUsed = server.reboots := by
  intro durable hdurable
  obtain ⟨before, hbefore, -, -, hused⟩ := h
  rw [durable_saveState] at hdurable
  by_cases hreplaces : outcome.replaces = true
  · rw [if_pos hreplaces, Option.some.injEq] at hdurable
    rw [← hdurable]
    exact (hwritten.trans (hused rfl).symm).trans (hcounted before hbefore)
  · rw [if_neg hreplaces] at hdurable
    exact hcounted durable hdurable

theorem Current.not_cancelAnswered {writesBack : Bool}
    (h : server.Current copy writesBack) (hkept : server.Kept) : server.cancelAnswered = false := by
  obtain ⟨durable, hdurable, hcancelled, -⟩ := h
  by_contra hanswered
  obtain ⟨durable', hdurable', hcancelled'⟩ := hkept.cancelled (by simpa using hanswered)
  rw [hdurable, Option.some.injEq] at hdurable'
  rw [← hdurable', hcancelled] at hcancelled'
  cases hcancelled'

/-- Before a cancellation is answered a start is not late. -/
theorem recordStart_eq (h : server.cancelAnswered = false) : server.recordStart = server := by
  have hlate : (server.startedLate || server.cancelAnswered) = server.startedLate := by
    rw [h, Bool.or_false]
  unfold recordStart
  rw [hlate]

theorem Guarded.setPosition (h : server.Guarded) (i : Nat) (request : Request)
    (position : Position campaignId)
    (hloaded : ∀ copy, position = .loaded copy → request.answersWhenCancelled = false →
      copy.state.cancelled = false)
    (hrestored : ∀ copy, position = .restored copy → copy.state.cancelled = true) :
    (server.setPosition i request position).Guarded := by
  refine ⟨⟨h.cancelled, h.noStart, h.noSelection, h.budget, h.counted⟩, ?_, ?_, h.owner⟩
  · intro j request' copy hj hexclusive
    by_cases hji : j = i
    · subst hji
      simp only [Server.setPosition, Function.update_self, Option.some.injEq, Prod.mk.injEq] at hj
      obtain ⟨rfl, rfl⟩ := hj
      exact hloaded copy rfl hexclusive
    · simp only [Server.setPosition, Function.update_of_ne hji] at hj
      exact h.copies j request' copy hj hexclusive
  · intro j request' copy hj
    by_cases hji : j = i
    · subst hji
      simp only [Server.setPosition, Function.update_self, Option.some.injEq, Prod.mk.injEq] at hj
      obtain ⟨rfl, rfl⟩ := hj
      exact hrestored copy rfl
    · simp only [Server.setPosition, Function.update_of_ne hji] at hj
      exact h.restored j request' copy hj

theorem Guarded.answer (h : server.Guarded) (i : Nat) (request : Request) (response : Response) :
    (server.setPosition i request (.answered response)).Guarded :=
  h.setPosition i request _ nofun nofun

/-- Nothing is asked of a lock that nobody holds. -/
theorem ownerKnown_of_free (hfree : server.busy = none) (owner : Exclusive campaignId)
    (howner : server.busy = some owner) : server.OwnerKnown owner := by
  rw [hfree] at howner
  exact absurd howner (Option.some_ne_none owner).symm

/-- The lock is released once the durable count is that of the reboots. -/
theorem Guarded.release (h : server.Guarded)
    (hcounted : ∀ durable, server.durable = some durable → durable.rebootsUsed = server.reboots)
    (owner : Exclusive campaignId) (response : Response) :
    (server.release owner response).Guarded := by
  have hanswer := h.answer owner.thread owner.request response
  exact ⟨⟨hanswer.cancelled, hanswer.noStart, hanswer.noSelection, hanswer.budget, hcounted⟩,
    hanswer.copies, hanswer.restored, ownerKnown_of_free rfl⟩

/-- What the owner of the lock writes back keeps the promises, whatever the file has then. -/
theorem Guarded.writeBack (h : server.Guarded)
    (hcancelled : server.cancelAnswered = false) (outcome : SaveOutcome) (now : Nat)
    (hcounted : ∀ durable, (server.saveState copy outcome now).durable = some durable →
      durable.rebootsUsed = server.reboots)
    (owner : Exclusive campaignId) (response : Response) :
    ((server.saveState copy outcome now).release owner response).Guarded := by
  have hanswer := h.answer owner.thread owner.request response
  refine ⟨⟨?_, hanswer.noStart, hanswer.noSelection, hanswer.budget, hcounted⟩,
    hanswer.copies, hanswer.restored, ownerKnown_of_free rfl⟩
  intro hanswered
  change server.cancelAnswered = true at hanswered
  rw [hcancelled] at hanswered
  cases hanswered

end Parts

/-! ## The steps -/

section Steps
variable {server} {after : Server campaignId} {s : Step}

theorem Guarded.loadStep (h : server.Guarded) (i : Nat) (request : Request) (ioError : Bool) :
    (server.loadStep i request ioError).Guarded := by
  unfold Server.loadStep
  split
  · exact h.answer i request _
  · rename_i copy hload
    by_cases hreject : (copy.state.cancelled && !request.answersWhenCancelled) = true
    · rw [if_pos hreject]
      exact h.answer i request _
    · rw [if_neg hreject]
      split
      · exact h.answer i .status _
      · refine h.setPosition i request _ ?_ nofun
        intro copy' hcopy hexclusive
        cases hcopy
        by_contra hcancelled
        exact hreject (by simp [hexclusive, by simpa using hcancelled])

theorem Guarded.restoreDefault (h : server.Guarded) (i : Nat) (copy : LoadedState campaignId)
    (succeeds : Bool) :
    Guarded { server.setPosition i .cancelCampaign (.restored copy.cancel) with
      oneShot := if succeeds then none else server.oneShot
      selectedLate := server.selectedLate && !succeeds } := by
  have hposition := h.setPosition i .cancelCampaign (.restored copy.cancel) nofun (by
    intro copy' hcopy
    cases hcopy
    rfl)
  refine ⟨⟨hposition.cancelled, hposition.noStart, ?_, hposition.budget, hposition.counted⟩,
    hposition.copies, hposition.restored, hposition.owner⟩
  simp [h.noSelection]

variable {copy : LoadedState campaignId} {i : Nat} {outcome : SaveOutcome}

/-- A cancellation that replaces the file does so with the durable count. -/
theorem Guarded.saveCancelled (h : server.Guarded) (hcancelled : copy.state.cancelled = true)
    (now : Nat)
    (horderly : outcome.replaces = true →
      (∃ durable, server.durable = some durable ∧
        durable.rebootsUsed = copy.state.rebootsUsed) ∧
      ∀ owner, server.busy = some owner → owner.stage = .acting) :
    Guarded { (server.saveState copy outcome now).setPosition i .cancelCampaign
        (.answered (persisted outcome)) with
      cancelAnswered := server.cancelAnswered || outcome == .saved } := by
  have hanswer := h.answer i .cancelCampaign (persisted outcome)
  have hdurable : (server.saveState copy outcome now).durable = _ :=
    durable_saveState copy outcome now
  by_cases hreplaces : outcome.replaces = true
  · obtain ⟨⟨before, hbefore, hused⟩, hacting⟩ := horderly hreplaces
    rw [if_pos hreplaces] at hdurable
    refine ⟨⟨fun _ => ⟨_, hdurable, hcancelled⟩, hanswer.noStart, hanswer.noSelection,
      hanswer.budget, ?_⟩, hanswer.copies, hanswer.restored, ?_⟩
    · intro durable hafter
      have hcount := h.counted before hbefore
      change (server.saveState copy outcome now).durable = some durable at hafter
      rw [hdurable, Option.some.injEq] at hafter
      rw [← hafter]
      exact hused.symm.trans hcount
    · intro owner howner
      have hstage := hacting owner howner
      unfold OwnerKnown
      rw [hstage]
      trivial
  · have hsaved : (outcome == .saved) = false := by
      cases outcome <;> simp_all [SaveOutcome.replaces]
    rw [saveState_unwritten (by simpa using hreplaces), hsaved]
    refine ⟨⟨?_, hanswer.noStart, hanswer.noSelection, hanswer.budget, hanswer.counted⟩,
      hanswer.copies, hanswer.restored, hanswer.owner⟩
    rw [Bool.or_false]
    exact h.cancelled

/-- Outside of a reboot the durable count is that of the reboots. -/
theorem Guarded.counted_of (h : server.Guarded) (hidle : server.underWay = 0) :
    ∀ durable, server.durable = some durable → durable.rebootsUsed = server.reboots := by
  intro durable hdurable
  have hcount := h.counted durable hdurable
  rwa [hidle] at hcount

variable {request : Request}

theorem underWay_locked (h : server.busy = some ⟨i, request, .locked copy⟩) :
    server.underWay = 0 := by
  unfold underWay
  rw [h]

theorem underWay_selected (h : server.busy = some ⟨i, request, .selected copy⟩) :
    server.underWay = 0 := by
  unfold underWay
  rw [h]

theorem underWay_acting (h : server.busy = some ⟨i, request, .acting⟩) : server.underWay = 0 := by
  unfold underWay
  rw [h]

theorem Guarded.tryLock (h : server.Guarded) (hfree : server.busy = none)
    (hcurrent : server.Current copy request.savesState) :
    Guarded { server.setPosition i request .inside with
      busy := some ⟨i, request, .locked copy⟩ } := by
  have hinside := h.setPosition i request .inside nofun nofun
  have hidle : server.underWay = 0 := by
    unfold underWay
    rw [hfree]
  refine ⟨⟨hinside.cancelled, hinside.noStart, hinside.noSelection, hinside.budget,
    h.counted_of hidle⟩, hinside.copies, hinside.restored, ?_⟩
  intro owner howner
  cases howner
  exact hcurrent

theorem Guarded.execute (h : server.Guarded) {action : ExecutorAction}
    (hbusy : server.busy = some ⟨i, .execute action, .locked copy⟩) :
    (server.recordStart.setStage ⟨i, .execute action, .acting⟩ .acting).Guarded := by
  have hcurrent : server.Current copy _ := h.owner _ hbusy
  rw [recordStart_eq (hcurrent.not_cancelAnswered h.toKept)]
  refine ⟨⟨h.cancelled, h.noStart, h.noSelection, h.budget,
    h.counted_of (underWay_locked hbusy)⟩, h.copies, h.restored, ?_⟩
  intro owner howner
  cases howner
  trivial

theorem Guarded.setNextBootStep (h : server.Guarded) (hsaves : request.savesState = true)
    (hbusy : server.busy = some ⟨i, request, .locked copy⟩) (entryId : String) (succeeds : Bool) :
    (server.setNextBootStep ⟨i, request, .locked copy⟩ copy entryId succeeds).Guarded := by
  have hcurrent : server.Current copy request.savesState := h.owner _ hbusy
  have hanswered := hcurrent.not_cancelAnswered h.toKept
  have hcounted := h.counted_of (underWay_locked hbusy)
  unfold Server.setNextBootStep
  rw [recordStart_eq hanswered]
  cases succeeds with
  | false => exact h.release hcounted _ _
  | true =>
    refine ⟨⟨h.cancelled, h.noStart, ?_, h.budget, hcounted⟩, h.copies, h.restored, ?_⟩
    · change (server.selectedLate || server.cancelAnswered) = false
      rw [h.noSelection, hanswered]
      rfl
    · intro owner howner
      cases howner
      rw [hsaves] at hcurrent
      exact hcurrent

theorem Guarded.saveSelected (h : server.Guarded)
    (hbusy : server.busy = some ⟨i, request, .selected copy⟩) (outcome : SaveOutcome) (now : Nat) :
    ((server.saveState copy outcome now).release ⟨i, request, .selected copy⟩
      (persisted outcome)).Guarded := by
  have hcurrent : server.Current copy true := h.owner _ hbusy
  exact h.writeBack (hcurrent.not_cancelAnswered h.toKept) outcome now
    (hcurrent.counted_saveState copy (h.counted_of (underWay_selected hbusy)) rfl outcome now) _ _

theorem Guarded.saveResumed (h : server.Guarded)
    (hbusy : server.busy = some ⟨i, .resumeCampaign, .locked copy⟩) (outcome : SaveOutcome)
    (now : Nat) :
    ((server.recordStart.saveState copy.resume outcome now).release
      ⟨i, .resumeCampaign, .locked copy⟩ (persisted outcome)).Guarded := by
  have hcurrent : server.Current copy true := h.owner _ hbusy
  have hanswered := hcurrent.not_cancelAnswered h.toKept
  have hcounted : ∀ durable, (server.saveState copy.resume outcome now).durable = some durable →
      durable.rebootsUsed = server.reboots :=
    hcurrent.counted_saveState copy.resume (h.counted_of (underWay_locked hbusy)) rfl outcome now
  rw [recordStart_eq hanswered]
  exact h.writeBack hanswered outcome now hcounted _ _

theorem Guarded.saveReboot (h : server.Guarded)
    (hbusy : server.busy = some ⟨i, .reboot, .locked copy⟩) (houtcome : outcome ≠ .unsynced)
    (now : Nat) : (server.saveReboot ⟨i, .reboot, .locked copy⟩ copy outcome now).Guarded := by
  have hcurrent : server.Current copy true := h.owner _ hbusy
  have hanswered := hcurrent.not_cancelAnswered h.toKept
  have hcounted := h.counted_of (underWay_locked hbusy)
  unfold Server.saveReboot
  by_cases hspent : server.maxReboots ≤ copy.state.rebootsUsed
  · rw [if_pos hspent]
    exact h.release hcounted _ _
  rw [if_neg hspent, recordStart_eq hanswered]
  cases outcome with
  | unsynced => exact absurd rfl houtcome
  | unwritten =>
    rw [saveState_unwritten rfl]
    exact h.release hcounted _ _
  | saved =>
    obtain ⟨before, hbefore, -, hcopy, hused⟩ := hcurrent
    have hused := hused rfl
    have hbefore := hcounted before hbefore
    have hdurable : (server.saveState copy.useReboot .saved now).durable = some _ :=
      durable_saveState copy.useReboot .saved now
    refine ⟨⟨?_, h.noStart, h.noSelection, h.budget, ?_⟩, h.copies, h.restored, ?_⟩
    · intro hcontra
      change server.cancelAnswered = true at hcontra
      rw [hanswered] at hcontra
      cases hcontra
    · intro durable hafter
      change (server.saveState copy.useReboot .saved now).durable = some durable at hafter
      rw [hdurable, Option.some.injEq] at hafter
      rw [← hafter]
      change copy.state.rebootsUsed + 1 = server.reboots + 1
      omega
    · intro owner howner
      cases howner
      refine ⟨⟨_, hdurable, hcopy, hcopy, fun _ => rfl⟩, ?_⟩
      change copy.state.rebootsUsed + 1 ≤ server.maxReboots
      omega

/-- While a reboot is under way the copy counts one reboot more than there were. -/
theorem Guarded.used_underWay (h : server.Guarded) (hcurrent : server.Current copy true)
    (hunderWay : server.underWay = 1) : copy.state.rebootsUsed = server.reboots + 1 := by
  obtain ⟨before, hbefore, -, -, hused⟩ := hcurrent
  have hcount := h.counted before hbefore
  rw [hunderWay] at hcount
  exact (hused rfl).symm.trans hcount

theorem underWay_rebooting (h : server.busy = some ⟨i, request, .rebooting copy⟩) :
    server.underWay = 1 := by
  unfold underWay
  rw [h]

theorem underWay_refused (h : server.busy = some ⟨i, request, .refused copy⟩) :
    server.underWay = 1 := by
  unfold underWay
  rw [h]

theorem Guarded.reboot (h : server.Guarded)
    (hbusy : server.busy = some ⟨i, .reboot, .rebooting copy⟩) :
    Guarded { server.release ⟨i, .reboot, .rebooting copy⟩ .ok with
      reboots := server.reboots + 1 } := by
  obtain ⟨hcurrent, hbudget⟩ : server.Current copy true ∧ _ := h.owner _ hbusy
  have hused := h.used_underWay hcurrent (underWay_rebooting hbusy)
  have hanswer := h.answer i .reboot .ok
  refine ⟨⟨hanswer.cancelled, hanswer.noStart, hanswer.noSelection, ?_, ?_⟩, hanswer.copies,
    hanswer.restored, ownerKnown_of_free rfl⟩
  · change server.reboots + 1 ≤ server.maxReboots
    omega
  · intro durable hdurable
    have hcount := h.counted durable hdurable
    rw [underWay_rebooting hbusy] at hcount
    exact hcount

theorem Guarded.rebootRefused (h : server.Guarded)
    (hbusy : server.busy = some ⟨i, .reboot, .rebooting copy⟩) :
    (server.setStage ⟨i, .reboot, .rebooting copy⟩ (.refused copy)).Guarded := by
  have hknown : server.OwnerKnown ⟨i, .reboot, .rebooting copy⟩ := h.owner _ hbusy
  have hcounted := h.counted
  rw [underWay_rebooting hbusy] at hcounted
  refine ⟨⟨h.cancelled, h.noStart, h.noSelection, h.budget, hcounted⟩, h.copies, h.restored, ?_⟩
  intro owner howner
  cases howner
  exact hknown

/-- A refused reboot is taken back. -/
theorem Guarded.saveRefused (h : server.Guarded)
    (hbusy : server.busy = some ⟨i, .reboot, .refused copy⟩) (houtcome : outcome.replaces = true)
    (now : Nat) :
    ((server.saveState copy.takeRebootBack outcome now).release ⟨i, .reboot, .refused copy⟩
      (.failed .unsupported)).Guarded := by
  obtain ⟨hcurrent, -⟩ : server.Current copy true ∧ _ := h.owner _ hbusy
  have hused := h.used_underWay hcurrent (underWay_refused hbusy)
  refine h.writeBack (hcurrent.not_cancelAnswered h.toKept) outcome now ?_ _ _
  intro durable hdurable
  rw [durable_saveState, if_pos houtcome, Option.some.injEq] at hdurable
  rw [← hdurable]
  change copy.state.rebootsUsed - 1 = server.reboots
  omega

theorem Guarded.step (h : server.Guarded) (horderly : server.Orderly s)
    (hstep : server.step s = some after) : after.Guarded := by
  cases s with
  | connect i request =>
    simp only [Server.step] at hstep
    split at hstep
    · cases hstep
      exact h.setPosition i request .arrived nofun nofun
    · cases hstep
  | load i ioError =>
    simp only [Server.step] at hstep
    split at hstep
    · cases hstep
      exact h.loadStep i _ ioError
    · cases hstep
  | restoreDefault i succeeds =>
    simp only [Server.step] at hstep
    split at hstep
    · cases hstep
      exact h.restoreDefault i _ succeeds
    · cases hstep
  | saveCancelled i outcome now =>
    simp only [Server.step] at hstep
    split at hstep
    · rename_i copy hthread
      cases hstep
      exact h.saveCancelled (h.restored i _ copy hthread) now (horderly _ copy hthread)
    · cases hstep
  | tryLock i =>
    simp only [Server.step] at hstep
    split at hstep
    · rename_i request copy hthread
      by_cases hexclusive : request.answersWhenCancelled = true
      · rw [if_pos hexclusive] at hstep
        cases hstep
      · rw [if_neg hexclusive] at hstep
        split at hstep
        · cases hstep
          exact h.answer i request _
        · rename_i hfree
          cases hstep
          exact h.tryLock hfree (horderly request copy hthread (by rw [hfree]; rfl))
    · cases hstep
  | execute =>
    simp only [Server.step] at hstep
    split at hstep
    · rename_i hbusy
      cases hstep
      exact h.execute hbusy
    · cases hstep
  | executed denial =>
    simp only [Server.step] at hstep
    split at hstep
    · rename_i hbusy
      cases hstep
      exact h.release (h.counted_of (underWay_acting hbusy)) _ _
    · cases hstep
  | setNextBoot succeeds =>
    simp only [Server.step] at hstep
    split at hstep
    · rename_i hbusy
      cases hstep
      exact h.setNextBootStep rfl hbusy _ succeeds
    · rename_i hbusy
      cases hstep
      exact h.setNextBootStep rfl hbusy _ succeeds
    · cases hstep
  | save outcome now =>
    obtain ⟨hfirst, hback⟩ := horderly
    simp only [Server.step] at hstep
    split at hstep
    · rename_i hbusy
      cases hstep
      exact h.saveSelected hbusy outcome now
    · rename_i hbusy
      cases hstep
      exact h.saveResumed hbusy outcome now
    · rename_i i copy hbusy
      cases hstep
      exact h.saveReboot hbusy (hfirst i copy hbusy) now
    · rename_i i copy hbusy
      cases hstep
      exact h.saveRefused hbusy (hback i copy hbusy) now
    · cases hstep
  | reboot succeeds =>
    simp only [Server.step] at hstep
    split at hstep
    · rename_i hbusy
      cases hstep
      cases succeeds with
      | true => exact h.reboot hbusy
      | false => exact h.rebootRefused hbusy
    · cases hstep

theorem IsStarted.guarded (h : server.IsStarted) : server.Guarded := by
  have hidle : server.underWay = 0 := by
    unfold underWay
    rw [h.busy]
  refine ⟨⟨h.cancelled, h.startedLate, h.selectedLate, h.budget, ?_⟩, ?_, ?_, ?_⟩
  · rw [hidle]
    exact h.counted
  · intro i request copy hi
    rw [h.threads] at hi
    cases hi
  · intro i request copy hi
    rw [h.threads] at hi
    cases hi
  · intro owner howner
    rw [h.busy] at howner
    cases howner

end Steps

/-- Every step of the run is orderly. -/
def OrderlyRun (steps : List Step) : Prop := GuardedRun.Meets step Orderly server steps

/-- **The runner's promises.**  They are kept in every run whose steps are orderly. -/
theorem kept_of_orderly {after : Server campaignId} {steps : List Step}
    (hstarted : server.IsStarted) (horderly : server.OrderlyRun steps)
    (hrun : server.run steps = some after) : after.Kept := by
  have hguarded :=
    GuardedRun.invariant (fun _ _ _ h horderly hstep => Guarded.step h horderly hstep)
    hstarted.guarded horderly hrun
  exact hguarded.toKept

/-- A runner of a fresh campaign. -/
def fresh (campaignId : String) (maxReboots : Nat) : Server campaignId where
  maxReboots
  file := .missing
  oneShot := none
  threads := fun _ => none
  busy := none
  cancelAnswered := false
  startedLate := false
  selectedLate := false
  reboots := 0

theorem isStarted_fresh (campaignId : String) (maxReboots : Nat) :
    (fresh campaignId maxReboots).IsStarted := by
  refine ⟨fun _ => rfl, rfl, nofun, rfl, rfl, Nat.zero_le _, ?_⟩
  intro durable hdurable
  cases hdurable
  rfl

theorem acting_of_free {owned : Option (Exclusive campaignId)} (hfree : owned = none) :
    ∀ owner, owned = some owner → owner.stage = .acting := by
  intro owner howner
  rw [hfree] at howner
  cases howner

/-- A reboot, and a cancellation after it. -/
def rebootThenCancel : List Step :=
  [.connect 0 .reboot, .load 0 false, .tryLock 0, .save .saved 1, .reboot true,
    .connect 1 .cancelCampaign, .load 1 false, .restoreDefault 1 true, .saveCancelled 1 .saved 2]

theorem rebootThenCancel_kept :
    ∃ after, (fresh "core" 1).run rebootThenCancel = some after ∧ after.Kept := by
  have horderly : (fresh "core" 1).OrderlyRun rebootThenCancel := by
    refine .cons rfl trivial (.cons rfl trivial (.cons rfl ?_ (.cons rfl ?_ ?_)))
    · intro request copy hthread _
      cases hthread
      exact ⟨_, rfl, rfl, rfl, fun _ => rfl⟩
    · exact ⟨nofun, nofun⟩
    refine .cons rfl trivial (.cons rfl trivial (.cons rfl trivial (.cons rfl trivial ?_)))
    refine .cons rfl ?_ trivial
    intro request copy hthread _
    cases hthread
    exact ⟨⟨_, rfl, rfl⟩, acting_of_free rfl⟩
  exact ⟨_, rfl, kept_of_orderly _ (isStarted_fresh "core" 1) horderly rfl⟩

/-- A boot selection that has loaded the state before the cancellation saves it. -/
def cancelBeforeLock : List Step :=
  [.connect 0 (.setNextBoot "kernel-b"), .load 0 false, .connect 1 .cancelCampaign, .load 1 false,
    .restoreDefault 1 true, .saveCancelled 1 .saved 1, .tryLock 0, .setNextBoot true,
    .save .saved 2]

/-- The stale copy takes the cancellation back, and its selection stays. -/
theorem cancelBeforeLock_not_kept :
    ∃ after, (fresh "core" 1).IsStarted ∧ (fresh "core" 1).run cancelBeforeLock = some after ∧
      after.oneShot = some "kernel-b" ∧ ¬ after.Kept := by
  refine ⟨_, isStarted_fresh "core" 1, rfl, rfl, ?_⟩
  intro hkept
  obtain ⟨durable, hdurable, hcancelled⟩ := hkept.cancelled rfl
  cases hdurable
  cases hcancelled

end Server

end Stutter.ValidationRunner

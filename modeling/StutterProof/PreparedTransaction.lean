import StutterProof.DurableStore

/-! # Prepared transactions

A provider with crash-safe preparation reads the original values, hands their token
to the caller's hook, and writes to the host only after the hook made the token
durable.  `ApplyScript` is what one such apply does, step by step, with the host's
answers already chosen: quantifying over scripts is quantifying over everything the
host and the provider may do.

`ApplyScript.Prepared` is the contract of a prepared provider.  The providers that
go through `ApplyTransaction` (nice, uclamp), the CPU-power and the cgroup provider are
written out below and proved to keep it. -/
namespace Stutter
open Fallible

namespace World

/-- One write on the host takes effect. -/
def issue (w : World) (change : HostWrite) : World := { w with writes := w.writes ++ [change] }

/-- One write is taken back. -/
def takeBack (w : World) (change : HostWrite) : World :=
  { w with writes := w.writes.filter fun x => x ≠ change }

/-- The token's writes are undone; those `undone` rejects stay. -/
def restore (w : World) (token : RollbackToken) (undone : HostWrite → Bool) : World :=
  { w with writes := w.writes.filter fun x => !(token.covers x && undone x) }

/-- The token's restore was completed. -/
def discharge (w : World) (token : RollbackToken) : World :=
  { w with discharged := w.discharged ++ [token] }

variable (w : World)

@[simp] theorem issue_journal (c) : (w.issue c).journal = w.journal := rfl
@[simp] theorem issue_ledger (c) : (w.issue c).ledger = w.ledger := rfl
@[simp] theorem issue_journalWrites (c) : (w.issue c).journalWrites = w.journalWrites := rfl
@[simp] theorem takeBack_journal (c) : (w.takeBack c).journal = w.journal := rfl
@[simp] theorem takeBack_ledger (c) : (w.takeBack c).ledger = w.ledger := rfl
@[simp] theorem takeBack_journalWrites (c) : (w.takeBack c).journalWrites = w.journalWrites := rfl
@[simp] theorem restore_journal (t u) : (w.restore t u).journal = w.journal := rfl
@[simp] theorem restore_ledger (t u) : (w.restore t u).ledger = w.ledger := rfl
@[simp] theorem restore_ledgerEntries (t u) : (w.restore t u).ledgerEntries = w.ledgerEntries := rfl
@[simp] theorem restore_journalWrites (t u) : (w.restore t u).journalWrites = w.journalWrites := rfl

@[simp] theorem restore_discharged (t u) : (w.restore t u).discharged = w.discharged := rfl
@[simp] theorem discharge_journal (t) : (w.discharge t).journal = w.journal := rfl
@[simp] theorem discharge_ledger (t) : (w.discharge t).ledger = w.ledger := rfl
@[simp] theorem discharge_ledgerEntries (t) : (w.discharge t).ledgerEntries = w.ledgerEntries := rfl
@[simp] theorem discharge_writes (t) : (w.discharge t).writes = w.writes := rfl
@[simp] theorem discharge_journalWrites (t) : (w.discharge t).journalWrites = w.journalWrites := rfl
@[simp] theorem discharge_discharged (t) : (w.discharge t).discharged = w.discharged ++ [t] := rfl

theorem mem_restore {w : World} {t : RollbackToken} {u : HostWrite → Bool} {x : HostWrite} :
    x ∈ (w.restore t u).writes ↔ x ∈ w.writes ∧ (t.covers x && u x) = false := by
  rw [restore, List.mem_filter, Bool.not_eq_true']

end World

/-- The answer of one rollback: `undone` is what it had undone at some point on the
way; without an error it went on to undo everything the token covers. -/
structure RollbackAnswer where
  undone : HostWrite → Bool
  error : Option AnyError

open Op

/-- Roll a token back, as the answer says. -/
def rollbackToken (token : RollbackToken) (answer : RollbackAnswer) : WorldOp Unit := do
  update (World.restore · token answer.undone)
  match answer.error with
  | some e => fail e
  | none => update fun w => (w.restore token fun _ => true).discharge token

/-- A rollback undoes only what the token covers; a successful one all of it. -/
theorem holds_rollbackToken {token : RollbackToken} {answer : RollbackAnswer} {I : World → Prop}
    {Q : Except AnyError Unit → World → Prop} {w : World}
    (hpart : ∀ u, I (w.restore token u) ∧ ∀ e, Q (.error e) (w.restore token u))
    (hall : I ((w.restore token fun _ => true).discharge token) ∧
      Q (.ok ()) ((w.restore token fun _ => true).discharge token)) :
    Holds (rollbackToken token answer) I Q w := by
  rw [rollbackToken, holds_bind, holds_update]
  refine ⟨(hpart _).1, ?_⟩
  cases answer.error with
  | some e => exact holds_fail.mpr ((hpart _).2 e)
  | none =>
    have htwice : (w.restore token answer.undone).restore token (fun _ => true) =
        w.restore token fun _ => true := by
      unfold World.restore
      simp only [List.filter_filter, Bool.and_true]
      congr 1
      refine List.filter_congr fun x _ => ?_
      cases token.covers x <;> simp
    rw [holds_update, htwice]
    exact hall

/-! ## Scripts -/

/-- The local variables of a journaled apply: the token the hooks have seen, and
whether the rollback hook ran. -/
structure TransactionState where
  world : World
  rollback : Option RollbackToken := none
  rollbackCompleted : Bool := false

/-- An operation on the world, among the local variables. -/
def onWorld {ε α : Type} (m : Op World ε α) : Op TransactionState ε α :=
  m.zoom (·.world) fun w s => { s with world := w }

@[simp] theorem holds_onWorld {ε α : Type} {m : Op World ε α} {I : TransactionState → Prop}
    {Q : Except ε α → TransactionState → Prop} {s : TransactionState} :
    Holds (onWorld m) I Q s ↔ Holds m (fun w => I { s with world := w })
      (fun r w => Q r { s with world := w }) s.world := by
  simp [onWorld]

/-- An apply as its writes and its hook. -/
inductive ApplyScript (ρ : Type) where
  | finish (result : ρ)
  | write (change : HostWrite) (next : ApplyScript ρ)
  | takeBack (change : HostWrite) (next : ApplyScript ρ)
  | prepared (token : RollbackToken) (next : Except AnyError Unit → ApplyScript ρ)

namespace ApplyScript
variable {ρ ε : Type}

/-- Run the script against the caller's hook. -/
def perform (hook : RollbackToken → Op TransactionState AnyError Unit) :
    ApplyScript ρ → Op TransactionState ε ρ
  | finish result => ret result
  | write change next => do
    onWorld (update (World.issue · change))
    next.perform hook
  | takeBack change next => do
    onWorld (update (World.takeBack · change))
    next.perform hook
  | prepared token next => do
    let answer ← attempt (hook token)
    (next answer).perform hook

/-- How a script ends when the hook answers so. -/
def concluded (answer : RollbackToken → Except AnyError Unit) : ApplyScript ρ → ρ
  | finish result => result
  | write _ next => next.concluded answer
  | takeBack _ next => next.concluded answer
  | prepared token next => (next (answer token)).concluded answer

/-- After the hook accepted `token`: every write is covered by it, and the result
is `settled` with the writes `issued` that are still there. -/
inductive Committed (settled : List HostWrite → ρ → Prop) (token : RollbackToken) :
    List HostWrite → ApplyScript ρ → Prop where
  | finish {issued : List HostWrite} {result : ρ} (h : settled issued result) :
      Committed settled token issued (finish result)
  | write {issued : List HostWrite} {change : HostWrite} {next : ApplyScript ρ}
      (hcovers : token.covers change) (hnext : Committed settled token (issued ++ [change]) next) :
      Committed settled token issued (write change next)
  | takeBack {issued : List HostWrite} {change : HostWrite} {next : ApplyScript ρ}
      (hnext : Committed settled token (issued.filter fun x => x ≠ change) next) :
      Committed settled token issued (takeBack change next)

/-- **The contract of a prepared provider.**  It writes nothing before the hook
accepted a token; if it stops before, or the hook fails, it ends with a result that
is `refused`. -/
inductive Prepared (settled : List HostWrite → ρ → Prop) (refused : ρ → Prop) :
    ApplyScript ρ → Prop where
  | refuse {result : ρ} (h : refused result) : Prepared settled refused (finish result)
  | commit {token : RollbackToken} {next : Except AnyError Unit → ApplyScript ρ}
      (habort : ∀ e, ∃ result, next (.error e) = finish result ∧ refused result)
      (hcommit : Committed settled token [] (next (.ok ()))) :
      Prepared settled refused (prepared token next)

/-- The world holds no write but those of `base` and `issued`. -/
def Within (base issued : List HostWrite) (w : World) : Prop :=
  ∀ x ∈ w.writes, x ∈ base ∨ x ∈ issued

theorem Within.issue {base issued : List HostWrite} {w : World} {change : HostWrite}
    (h : Within base issued w) : Within base (issued ++ [change]) (w.issue change) := by
  intro x hx
  simp only [World.issue, List.mem_append, List.mem_singleton] at hx ⊢
  rcases hx with hx | rfl
  · exact (h x hx).imp_right .inl
  · exact .inr (.inr rfl)

theorem Within.takeBack {base issued : List HostWrite} {w : World} {change : HostWrite}
    (h : Within base issued w) :
    Within base (issued.filter fun x => x ≠ change) (w.takeBack change) := by
  intro x hx
  simp only [World.takeBack, List.mem_filter] at hx ⊢
  exact (h x hx.1).imp_right fun hi => ⟨hi, hx.2⟩

/-- A committed script keeps to the token's writes.  `F` is anything the host's
writes do not change, such as the journal. -/
theorem Committed.holds_perform {settled : List HostWrite → ρ → Prop} {token : RollbackToken}
    {issued base : List HostWrite} {script : ApplyScript ρ}
    {hook : RollbackToken → Op TransactionState AnyError Unit}
    {F : TransactionState → Prop} {I : TransactionState → Prop}
    (h : Committed settled token issued script) (hF : ∀ s c, F s →
      F { s with world := s.world.issue c } ∧ F { s with world := s.world.takeBack c })
    (hI : ∀ issued s, F s → (∀ x ∈ issued, token.covers x) → Within base issued s.world → I s)
    (hcovered : ∀ x ∈ issued, token.covers x)
    {s : TransactionState} (hs : F s) (hw : Within base issued s.world) :
    Holds (script.perform hook : Op TransactionState ε ρ) I (fun r s' => ∃ issued' result,
      r = .ok result ∧ settled issued' result ∧ (∀ x ∈ issued', token.covers x) ∧
        Within base issued' s'.world ∧ F s') s := by
  induction h generalizing s with
  | finish h => exact holds_ret.mpr ⟨_, _, rfl, h, hcovered, hw, hs⟩
  | @write issued change _ hcovers _ ih =>
    have hcovered' : ∀ x ∈ issued ++ [change], token.covers x := by
      intro x hx
      rcases List.mem_append.mp hx with hx | hx
      · exact hcovered x hx
      · exact List.mem_singleton.mp hx ▸ hcovers
    rw [perform, holds_bind, holds_onWorld, holds_update]
    exact ⟨hI _ _ (hF s change hs).1 hcovered' hw.issue,
      ih hcovered' (hF s change hs).1 hw.issue⟩
  | @takeBack issued change _ _ ih =>
    have hcovered' : ∀ x ∈ issued.filter (fun x => x ≠ change), token.covers x :=
      fun x hx => hcovered x (List.mem_filter.mp hx).1
    rw [perform, holds_bind, holds_onWorld, holds_update]
    exact ⟨hI _ _ (hF s change hs).2 hcovered' hw.takeBack,
      ih hcovered' (hF s change hs).2 hw.takeBack⟩

/-- A prepared script either ends without having written, or commits under a token
its hook accepted. -/
theorem Prepared.holds_perform {settled : List HostWrite → ρ → Prop} {refused : ρ → Prop}
    {base : List HostWrite} {script : ApplyScript ρ}
    {hook : RollbackToken → Op TransactionState AnyError Unit}
    {F : RollbackToken → TransactionState → Prop} {Aborted I : TransactionState → Prop}
    (h : Prepared settled refused script)
    (hF : ∀ token s c, F token s → F token { s with world := s.world.issue c } ∧
      F token { s with world := s.world.takeBack c })
    (hI : ∀ token issued s, F token s → (∀ x ∈ issued, token.covers x) →
      Within base issued s.world → I s)
    {s : TransactionState} (hs : Aborted s)
    (hhook : ∀ token, Holds (hook token) I (fun r s' => match r with
      | .ok _ => F token s' ∧ Within base [] s'.world
      | .error _ => Aborted s') s) :
    Holds (script.perform hook : Op TransactionState ε ρ) I (fun r s' => ∃ result,
      r = .ok result ∧ ((refused result ∧ Aborted s') ∨
        ∃ token issued, settled issued result ∧ (∀ x ∈ issued, token.covers x) ∧
          Within base issued s'.world ∧ F token s')) s := by
  cases h with
  | refuse hrefused => exact holds_ret.mpr ⟨_, rfl, .inl ⟨hrefused, hs⟩⟩
  | @commit token next habort hcommit =>
    rw [perform, holds_bind, holds_attempt]
    refine (hhook token).mono (fun _ h => h) ?_
    rintro (e | _) s' hs'
    · obtain ⟨result, heq, hrefused⟩ := habort e
      simp only [heq, perform]
      exact holds_ret.mpr ⟨result, rfl, .inl ⟨hrefused, hs'⟩⟩
    · refine (hcommit.holds_perform (F := F token) (hF token) (hI token) (by simp) hs'.1
        hs'.2).mono (fun _ h => h) ?_
      rintro r s'' ⟨issued, result, rfl, hrest⟩
      exact ⟨result, rfl, .inr ⟨token, issued, hrest⟩⟩

end ApplyScript

/-! ## The results of a tuning action's apply -/

/-- The result of `apply_with_prepared_rollback`. -/
abbrev ApplyResult := Except PartialApplyError RollbackToken

/-- A token that comes back covers every write that is still there; without one
nothing was written. -/
def applySettled (issued : List HostWrite) : ApplyResult → Prop
  | .ok token => ∀ x ∈ issued, token.covers x
  | .error ⟨_, some token⟩ => ∀ x ∈ issued, token.covers x
  | .error ⟨_, none⟩ => issued = []

/-- An apply that never committed fails without a token. -/
def applyRefused : ApplyResult → Prop
  | .error ⟨_, none⟩ => True
  | _ => False

/-- The scripts of prepared actions. -/
def ApplyScript.IsPreparedAction (script : ApplyScript ApplyResult) : Prop :=
  script.Prepared applySettled applyRefused

/-! ## The providers -/

section Providers
variable {R : Type}

/-- `ApplyTransaction::apply_planned_loop`: on the first failure the token of the
records applied so far, none if there are none. -/
def applyPlannedLoop (applyFn : R → Option AnyError) (effect : R → HostWrite)
    (makeToken : List R → RollbackToken) (applied : List R) : List R → ApplyScript ApplyResult
  | [] => .finish (.ok (makeToken applied))
  | record :: planned =>
    match applyFn record with
    | none => .write (effect record)
        (applyPlannedLoop applyFn effect makeToken (applied ++ [record]) planned)
    | some e => .finish (.error
        ⟨e, if applied.isEmpty then none else some (makeToken applied)⟩)

/-- The prepared transaction of every provider: plan, make the plan's token durable, plan again, and
abort without a write if the plan moved. -/
def applyPlan {P : Type} [DecidableEq P] (plan replan : Except AnyError P)
    (token : P → RollbackToken) (drifted : String) (commit : P → ApplyScript ApplyResult) :
    ApplyScript ApplyResult :=
  match plan with
  | .error e => .finish (.error ⟨e, none⟩)
  | .ok plan =>
    .prepared (token plan) fun hooked =>
      match hooked with
      | .error e => .finish (.error ⟨e, none⟩)
      | .ok _ =>
        match replan with
        | .error e => .finish (.error ⟨e, none⟩)
        | .ok current =>
          if current = plan then commit plan else .finish (.error ⟨.message drifted, none⟩)

/-- The commit decides: everything before it fails without a write. -/
theorem applyPlan_prepared {P : Type} [DecidableEq P] {plan replan : Except AnyError P}
    {token : P → RollbackToken} {drifted : String} {commit : P → ApplyScript ApplyResult}
    (hcommit : ∀ plan, ApplyScript.Committed applySettled (token plan) [] (commit plan)) :
    (applyPlan plan replan token drifted commit).IsPreparedAction := by
  cases plan with
  | error e => exact .refuse trivial
  | ok plan =>
    refine .commit (fun e => ⟨_, rfl, trivial⟩) ?_
    cases replan with
    | error e => exact .finish rfl
    | ok current =>
      by_cases hsame : current = plan
      · simp only [hsame, if_true]
        exact hcommit plan
      · simp only [hsame, if_false]
        exact .finish rfl

/-- The transaction of nice and uclamp. -/
def applyPrepared [DecidableEq R] (plan replan : Except AnyError (List R)) (drifted : String)
    (applyFn : R → Option AnyError) (effect : R → HostWrite)
    (makeToken : List R → RollbackToken) : ApplyScript ApplyResult :=
  applyPlan plan replan makeToken drifted (applyPlannedLoop applyFn effect makeToken [])

/-- `NiceAction::apply_prepared_at`. -/
def niceApplyPrepared (plan replan : Except AnyError (List NiceRestoreRecord))
    (setTaskNice : NiceRestoreRecord → Option AnyError) : ApplyScript ApplyResult :=
  applyPrepared plan replan
    "nice target drifted between preparation and commit; nothing was written"
    setTaskNice .nice .niceRestore

/-- `UclampAction::apply_prepared_at`. -/
def uclampApplyPrepared (plan replan : Except AnyError (List UclampRestoreRecord))
    (setTaskUclamp : UclampRestoreRecord → Option AnyError) : ApplyScript ApplyResult :=
  applyPrepared plan replan
    "uclamp target drifted between preparation and commit; nothing was written"
    setTaskUclamp .uclamp .uclampRestore

/-- The loop writes planned records only, and its tokens name what it wrote. -/
theorem applyPlannedLoop_committed {applyFn : R → Option AnyError} {effect : R → HostWrite}
    {makeToken : List R → RollbackToken}
    (hmake : ∀ records record, record ∈ records → (makeToken records).covers (effect record))
    {plan applied planned : List R} (hplan : ∀ r ∈ planned, r ∈ plan) :
    ApplyScript.Committed applySettled (makeToken plan) (applied.map effect)
      (applyPlannedLoop applyFn effect makeToken applied planned) := by
  have hnamed : ∀ x ∈ applied.map effect, (makeToken applied).covers x := by
    intro x hx
    obtain ⟨r, hr, rfl⟩ := List.mem_map.mp hx
    exact hmake applied r hr
  induction planned generalizing applied with
  | nil => exact .finish hnamed
  | cons record planned ih =>
    rw [applyPlannedLoop]
    cases applyFn record with
    | some e =>
      refine .finish ?_
      cases applied with
      | nil => rfl
      | cons r rest => exact hnamed
    | none =>
      refine .write (hmake plan record (hplan record (List.mem_cons_self ..))) ?_
      have hnamed' : ∀ x ∈ (applied ++ [record]).map effect,
          (makeToken (applied ++ [record])).covers x := by
        intro x hx
        obtain ⟨r, hr, rfl⟩ := List.mem_map.mp hx
        exact hmake _ r hr
      simpa using ih (fun r hr => hplan r (List.mem_cons_of_mem _ hr)) hnamed'

theorem applyPrepared_prepared [DecidableEq R] {plan replan : Except AnyError (List R)}
    {drifted : String} {applyFn : R → Option AnyError} {effect : R → HostWrite}
    {makeToken : List R → RollbackToken}
    (hmake : ∀ records record, record ∈ records → (makeToken records).covers (effect record)) :
    (applyPrepared plan replan drifted applyFn effect makeToken).IsPreparedAction :=
  applyPlan_prepared fun plan =>
    @applyPlannedLoop_committed R applyFn effect makeToken hmake plan [] plan fun _ hr => hr

open RollbackToken

theorem niceApplyPrepared_prepared (plan replan : Except AnyError (List NiceRestoreRecord))
    (setTaskNice : NiceRestoreRecord → Option AnyError) :
    (niceApplyPrepared plan replan setTaskNice).IsPreparedAction :=
  applyPrepared_prepared fun _ _ h => by simpa [covers] using h

theorem uclampApplyPrepared_prepared (plan replan : Except AnyError (List UclampRestoreRecord))
    (setTaskUclamp : UclampRestoreRecord → Option AnyError) :
    (uclampApplyPrepared plan replan setTaskUclamp).IsPreparedAction :=
  applyPrepared_prepared fun _ _ h => by simpa [covers] using h

/-- What becomes of one CPU-power target: it already has the requested value, the
write fails, or it is written and then read back well or not. -/
inductive CpuPowerWrite where
  | unchanged
  | writeFailed (e : AnyError)
  | verifyFailed (e : AnyError)
  | written

/-- The write loop of the CPU-power provider: any failure hands back the whole
plan's token, since restoring an unchanged file writes the value it has. -/
def cpuPowerWriteLoop (outcome : CpuPowerRestoreRecord → CpuPowerWrite) (token : RollbackToken) :
    List CpuPowerRestoreRecord → ApplyScript ApplyResult
  | [] => .finish (.ok token)
  | record :: plan =>
    match outcome record with
    | .unchanged => cpuPowerWriteLoop outcome token plan
    | .writeFailed e => .finish (.error ⟨e, some token⟩)
    | .verifyFailed e => .write (.cpuPower record) (.finish (.error ⟨e, some token⟩))
    | .written => .write (.cpuPower record) (cpuPowerWriteLoop outcome token plan)

/-- `CpuPowerAction::apply_prepared_with_policy`. -/
def cpuPowerApplyPrepared (plan replan : Except AnyError (List CpuPowerRestoreRecord))
    (outcome : CpuPowerRestoreRecord → CpuPowerWrite) : ApplyScript ApplyResult :=
  applyPlan plan replan .cpuPowerRestore
    "CPU power state drifted between preparation and commit; nothing was written"
    fun plan => cpuPowerWriteLoop outcome (.cpuPowerRestore plan) plan

theorem cpuPowerWriteLoop_committed {outcome : CpuPowerRestoreRecord → CpuPowerWrite}
    {plan rest : List CpuPowerRestoreRecord} {issued : List HostWrite}
    (hrest : ∀ r ∈ rest, r ∈ plan)
    (hissued : ∀ x ∈ issued, (cpuPowerRestore plan).covers x) :
    ApplyScript.Committed applySettled (.cpuPowerRestore plan) issued
      (cpuPowerWriteLoop outcome (.cpuPowerRestore plan) rest) := by
  induction rest generalizing issued with
  | nil => exact .finish hissued
  | cons record rest ih =>
    have hrecord : (cpuPowerRestore plan).covers (.cpuPower record) := by
      simpa [covers] using hrest record (List.mem_cons_self ..)
    have hrest' : ∀ r ∈ rest, r ∈ plan := fun r hr => hrest r (List.mem_cons_of_mem _ hr)
    have hissued' : ∀ x ∈ issued ++ [.cpuPower record],
        (cpuPowerRestore plan).covers x := by
      intro x hx
      rcases List.mem_append.mp hx with hx | hx
      · exact hissued x hx
      · exact List.mem_singleton.mp hx ▸ hrecord
    rw [cpuPowerWriteLoop]
    cases outcome record with
    | unchanged => exact ih hrest' hissued
    | writeFailed e => exact .finish hissued
    | verifyFailed e => exact .write hrecord (.finish hissued')
    | written => exact .write hrecord (ih hrest' hissued')

theorem cpuPowerApplyPrepared_prepared (plan replan : Except AnyError (List CpuPowerRestoreRecord))
    (outcome : CpuPowerRestoreRecord → CpuPowerWrite) :
    (cpuPowerApplyPrepared plan replan outcome).IsPreparedAction :=
  applyPlan_prepared fun _ => cpuPowerWriteLoop_committed (fun _ hr => hr) (by simp)

/-- What a cgroup placement is going to change. -/
structure CgroupPlan where
  records : List CgroupRestoreRecord
  cpuset : Option CgroupCpusetRestoreRecord
  targetCgroupId : Nat
  deriving DecidableEq

def CgroupPlan.token (plan : CgroupPlan) : RollbackToken := .cgroupRestore plan.records plan.cpuset

/-- Write each change in turn; any failure hands back the whole plan's token. -/
def cgroupWriteLoop (token : RollbackToken) :
    List (HostWrite × Option AnyError) → ApplyScript ApplyResult
  | [] => .finish (.ok token)
  | (change, none) :: rest => .write change (cgroupWriteLoop token rest)
  | (_, some e) :: _ => .finish (.error ⟨e, some token⟩)

/-- `cgroup.procs` moves whole processes, so only the first task of each is written. -/
def firstOfEachProcess (moved : List Nat) : List CgroupRestoreRecord → List CgroupRestoreRecord
  | [] => []
  | record :: rest =>
    let process := (record.identity.bind (·.processPid)).getD record.tid
    if process ∈ moved then firstOfEachProcess moved rest
    else record :: firstOfEachProcess (process :: moved) rest

/-- `CgroupPlacementAction::apply_prepared_at`; `cpus` and `mems` are the answers to the cpuset
writes that were asked for. -/
def cgroupApplyPrepared (plan replan : Except AnyError CgroupPlan)
    (targetCgroupAbs : Except AnyError Unit) (cpus mems : Option (Option AnyError))
    (move : CgroupRestoreRecord → Option AnyError) : ApplyScript ApplyResult :=
  applyPlan plan replan CgroupPlan.token
    "cgroup target drifted between preparation and commit; nothing was written" fun plan =>
      match targetCgroupAbs with
      | .error e => .finish (.error ⟨e, none⟩)
      | .ok () =>
        let cpuset := plan.cpuset.elim [] fun record =>
          (cpus.toList ++ mems.toList).map fun answer => (HostWrite.cpuset record, answer)
        let moves := (firstOfEachProcess [] plan.records).map fun record =>
          (HostWrite.cgroup record, move record)
        cgroupWriteLoop plan.token (cpuset ++ moves)

theorem mem_of_mem_firstOfEachProcess {moved : List Nat} {records : List CgroupRestoreRecord}
    {record : CgroupRestoreRecord} (h : record ∈ firstOfEachProcess moved records) :
    record ∈ records := by
  induction records generalizing moved with
  | nil => cases h
  | cons first rest ih =>
    rw [firstOfEachProcess] at h
    split at h
    · exact List.mem_cons_of_mem _ (ih h)
    · rcases List.mem_cons.mp h with rfl | h
      · exact List.mem_cons_self ..
      · exact List.mem_cons_of_mem _ (ih h)

theorem cgroupWriteLoop_committed {token : RollbackToken} {issued : List HostWrite}
    {changes : List (HostWrite × Option AnyError)} (hchanges : ∀ c ∈ changes, token.covers c.1)
    (hissued : ∀ x ∈ issued, token.covers x) :
    ApplyScript.Committed applySettled token issued (cgroupWriteLoop token changes) := by
  induction changes generalizing issued with
  | nil => exact .finish hissued
  | cons first rest ih =>
    obtain ⟨change, answer⟩ := first
    have hchange : token.covers change := hchanges (change, answer) (List.mem_cons_self ..)
    cases answer with
    | some e => exact .finish hissued
    | none =>
      refine .write hchange (ih (fun c hc => hchanges c (List.mem_cons_of_mem _ hc)) ?_)
      intro x hx
      rcases List.mem_append.mp hx with hx | hx
      · exact hissued x hx
      · exact List.mem_singleton.mp hx ▸ hchange

theorem cgroupApplyPrepared_prepared (plan replan : Except AnyError CgroupPlan)
    (targetCgroupAbs : Except AnyError Unit) (cpus mems : Option (Option AnyError))
    (move : CgroupRestoreRecord → Option AnyError) :
    (cgroupApplyPrepared plan replan targetCgroupAbs cpus mems move).IsPreparedAction := by
  refine applyPlan_prepared fun plan => ?_
  cases targetCgroupAbs with
  | error e => exact .finish rfl
  | ok _ =>
    refine cgroupWriteLoop_committed (fun c hc => ?_) (by simp)
    rcases List.mem_append.mp hc with hc | hc
    · cases hcpuset : plan.cpuset with
      | none => simp [hcpuset] at hc
      | some record =>
        simp only [hcpuset, Option.elim_some, List.mem_map] at hc
        obtain ⟨answer, -, rfl⟩ := hc
        simp [CgroupPlan.token, covers, hcpuset]
    · obtain ⟨record, hrecord, rfl⟩ := List.mem_map.mp hc
      simpa [CgroupPlan.token, covers] using mem_of_mem_firstOfEachProcess hrecord

/-- **Each of the four providers keeps the contract**, whatever its two plannings and
the host's writes answer. -/
theorem providers_prepared :
    (∀ plan replan setTaskNice, (niceApplyPrepared plan replan setTaskNice).IsPreparedAction) ∧
    (∀ plan replan setTaskUclamp,
      (uclampApplyPrepared plan replan setTaskUclamp).IsPreparedAction) ∧
    (∀ plan replan outcome, (cpuPowerApplyPrepared plan replan outcome).IsPreparedAction) ∧
    ∀ plan replan targetCgroupAbs cpus mems move,
      (cgroupApplyPrepared plan replan targetCgroupAbs cpus mems move).IsPreparedAction :=
  ⟨niceApplyPrepared_prepared, uclampApplyPrepared_prepared, cpuPowerApplyPrepared_prepared,
    cgroupApplyPrepared_prepared⟩

end Providers
end Stutter

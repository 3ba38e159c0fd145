import StutterProof.DurableStore
import StutterProof.ReplacingLog

/-! # Histories of the kept-action ledger

Kept actions are recorded and retired one after the other, and each call reads and rewrites the
whole file.  A call takes effect, or it fails and leaves the file as it found it; one that fails to
sync has taken effect.  So after any calls the ledger holds what the ones that took effect leave in
a log with one entry per experiment.  A repeated record goes to the end of the log. -/
namespace Stutter
open Fallible ReplacingLog

abbrev LedgerChange := Change KeptLedgerEntry ExperimentId

/-- The call that makes a change. -/
def ledgerCall : LedgerChange → WorldOp Unit
  | .put entry => recordKept entry
  | .drop experimentId => retireKept experimentId

/-- Each call after the other, whatever they answer. -/
def runLedgerCalls : List LedgerChange → World → List (LedgerChange × Except AnyError Unit) × World
  | [], w => ([], w)
  | change :: rest, w =>
    let ran := (ledgerCall change).run w
    let later := runLedgerCalls rest ran.state
    ((change, ran.result) :: later.1, later.2)

/-- The changes whose calls answered `Ok`. -/
def succeeded (answers : List (LedgerChange × Except AnyError Unit)) : List LedgerChange :=
  (answers.filter (·.2.isOk)).map Prod.fst

variable {w v : World} {change : LedgerChange} {calls : List LedgerChange}

/-- A call makes its change, or it fails and the entries are as before. -/
theorem ledgerCall_cases (change : LedgerChange) (w : World) :
    ((ledgerCall change).run w).state.ledgerEntries =
        apply KeptLedgerEntry.experimentId w.ledgerEntries change ∨
      ((ledgerCall change).run w).state.ledgerEntries = w.ledgerEntries ∧
        ((ledgerCall change).run w).result.isOk = false := by
  have hholds : Op.Holds (ledgerCall change) (fun _ => True) (fun r v =>
      v.ledgerEntries = apply KeptLedgerEntry.experimentId w.ledgerEntries change ∨
        v.ledgerEntries = w.ledgerEntries ∧ r.isOk = false) w := by
    cases change with
    | put entry =>
      refine holds_recordKept (fun v hv => ⟨trivial, fun e => ?_⟩) fun v hv =>
        ⟨trivial, fun r => ?_⟩
      · exact .inr ⟨hv.entries, rfl⟩
      · exact .inl hv.entries
    | drop experimentId =>
      refine holds_retireKept (fun v hv => ⟨trivial, fun e => ?_⟩) fun v hv =>
        ⟨trivial, fun r => ?_⟩
      · exact .inr ⟨hv.entries, rfl⟩
      · exact .inl hv.entries
  exact hholds.2

/-- After any calls the ledger is the log of those that took effect, and each that answered `Ok`
did. -/
theorem runLedgerCalls_replay (calls : List LedgerChange) (w : World) :
    ∃ effective : List LedgerChange, effective.Sublist calls ∧
      (succeeded (runLedgerCalls calls w).1).Sublist effective ∧
      (runLedgerCalls calls w).2.ledgerEntries =
        replay KeptLedgerEntry.experimentId w.ledgerEntries effective := by
  induction calls generalizing w with
  | nil => exact ⟨[], List.Sublist.refl _, List.Sublist.refl _, rfl⟩
  | cons change rest ih =>
    obtain ⟨effective, hcalls, hsucceeded, hentries⟩ := ih ((ledgerCall change).run w).state
    obtain hdone | ⟨hkept, hfailed⟩ := ledgerCall_cases change w
    · refine ⟨change :: effective, hcalls.cons_cons change, ?_, ?_⟩
      · simp only [runLedgerCalls, succeeded, List.filter_cons]
        split
        · exact hsucceeded.cons_cons change
        · exact hsucceeded.cons change
      · show (runLedgerCalls rest _).2.ledgerEntries = _
        rw [hentries, hdone]
        rfl
    · refine ⟨effective, hcalls.cons change, ?_, ?_⟩
      · simp only [runLedgerCalls, succeeded, List.filter_cons, hfailed, Bool.false_eq_true,
          if_false]
        exact hsucceeded
      · show (runLedgerCalls rest _).2.ledgerEntries = _
        rw [hentries, hkept]

/-! ## Ledgers that cannot be read -/

/-- The next read of the ledger fails: the access does, or the file holds no ledger of this
schema. -/
def World.LedgerUnreadable (w : World) : Prop :=
  w.io.head?.getD .done ≠ .done ∨ (parseKeptLedger w.ledger).isOk = false

theorem run_readKeptLedger (h : w.LedgerUnreadable) :
    ∃ e, readKeptLedger.run w = ⟨.error e, w.drawn, [w.drawn]⟩ := by
  cases hio : w.io.head?.getD .done with
  | failedBefore =>
    refine ⟨.message "failed to open kept-action ledger", ?_⟩
    simp only [readKeptLedger, durableRead, Op.act, hio]
    rfl
  | failedAfter =>
    refine ⟨.message "failed to open kept-action ledger", ?_⟩
    simp only [readKeptLedger, durableRead, Op.act, hio]
    rfl
  | done =>
    obtain hfailed | hparse := h
    · exact absurd hio hfailed
    · cases hread : parseKeptLedger w.ledger with
      | ok ledger =>
        rw [hread] at hparse
        cases hparse
      | error e => exact ⟨e, by simp only [readKeptLedger, durableRead, Op.act, hio, hread]⟩

theorem ledgerCall_unreadable (h : w.LedgerUnreadable) (change : LedgerChange) :
    ((ledgerCall change).run w).result.isOk = false ∧
      ((ledgerCall change).run w).state = w.drawn := by
  obtain ⟨e, hread⟩ := run_readKeptLedger h
  cases change with
  | put entry =>
    show ((recordKept entry).run w).result.isOk = false ∧ ((recordKept entry).run w).state = w.drawn
    constructor <;> simp [recordKept, bind, Op.andThen, hread, Except.isOk, Except.toBool]
  | drop experimentId =>
    show ((retireKept experimentId).run w).result.isOk = false ∧
      ((retireKept experimentId).run w).state = w.drawn
    constructor <;> simp [retireKept, bind, Op.andThen, hread, Except.isOk, Except.toBool]

/-- No call overwrites a file that holds no ledger. -/
theorem runLedgerCalls_unparsed (h : (parseKeptLedger w.ledger).isOk = false)
    (calls : List LedgerChange) :
    (∀ answer ∈ (runLedgerCalls calls w).1, answer.2.isOk = false) ∧
      (runLedgerCalls calls w).2.ledger = w.ledger := by
  induction calls generalizing w with
  | nil => exact ⟨fun _ hmem => absurd hmem List.not_mem_nil, rfl⟩
  | cons change rest ih =>
    obtain ⟨hfailed, hstate⟩ := ledgerCall_unreadable (.inr h) change
    have hrest := ih (w := ((ledgerCall change).run w).state) (by rwa [hstate, World.drawn_ledger])
    refine ⟨?_, ?_⟩
    · intro answer hmem
      obtain rfl | hmem := List.mem_cons.mp hmem
      · exact hfailed
      · exact hrest.1 answer hmem
    · show (runLedgerCalls rest _).2.ledger = _
      rw [hrest.2, hstate, World.drawn_ledger]

/-! ## Ledgers that serve -/

/-- The ledger can be read, and every access to come takes effect. -/
structure World.LedgerServes (w : World) : Prop where
  readable : (parseKeptLedger w.ledger).isOk = true
  io : ∀ outcome ∈ w.io, outcome = .done

namespace World.LedgerServes

theorem next (h : w.LedgerServes) : w.io.head?.getD .done = .done := by
  cases hio : w.io with
  | nil => rfl
  | cons outcome rest => exact h.io outcome (hio ▸ List.mem_cons_self)

theorem drawn (h : w.LedgerServes) : w.drawn.LedgerServes :=
  ⟨h.readable, fun outcome hmem => h.io outcome (List.mem_of_mem_tail hmem)⟩

theorem setLedger (h : w.LedgerServes) {file : StoreFile KeptLedger}
    (hfile : (parseKeptLedger file).isOk = true) : (w.setLedger file).LedgerServes :=
  ⟨hfile, h.io⟩

theorem durable (h : w.LedgerServes) (what : String) (change : World → World) :
    (Stutter.durable what change).run w = ⟨.ok (), change w.drawn, [change w.drawn]⟩ := by
  simp only [Stutter.durable, Op.act, h.next]

/-- Every call answers `Ok`, and the next one finds the ledger as serviceable. -/
theorem call (h : w.LedgerServes) (change : LedgerChange) :
    ((ledgerCall change).run w).result.isOk = true ∧
      ((ledgerCall change).run w).state.LedgerServes := by
  obtain ⟨ledger, hledger⟩ : ∃ ledger, parseKeptLedger w.ledger = .ok ledger := by
    cases hparse : parseKeptLedger w.ledger with
    | ok ledger => exact ⟨ledger, rfl⟩
    | error e => exact absurd h.readable (by rw [hparse]; exact Bool.false_ne_true)
  have hversion : ledger.schemaVersion = keptLedgerSchemaVersion := by
    unfold parseKeptLedger at hledger
    split at hledger
    · cases hledger; rfl
    · cases hledger
    · split at hledger
      · cases hledger; assumption
      · cases hledger
  have hread : readKeptLedger.run w = ⟨.ok ledger, w.drawn, [w.drawn]⟩ := by
    simp only [readKeptLedger, durableRead, Op.act, h.next, hledger]
  have hwritten : ∀ other : KeptLedger, other.schemaVersion = ledger.schemaVersion →
      ((writeKeptLedger other).run w.drawn).result.isOk = true ∧
        ((writeKeptLedger other).run w.drawn).state.LedgerServes := by
    intro other hother
    rw [writeKeptLedger, h.drawn.durable]
    refine ⟨rfl, h.drawn.drawn.setLedger ?_⟩
    rw [parseKeptLedger, if_pos (hother.trans hversion)]
    rfl
  cases change with
  | put entry =>
    simp only [ledgerCall, recordKept, bind, Op.andThen, hread]
    exact hwritten (ledger.record entry) rfl
  | drop experimentId =>
    simp only [ledgerCall, retireKept, bind, Op.andThen, hread]
    split
    · exact ⟨rfl, h.drawn⟩
    · split
      · rw [h.drawn.durable]
        exact ⟨rfl, h.drawn.drawn.setLedger rfl⟩
      · exact hwritten (ledger.retire experimentId) rfl

theorem runCalls (h : w.LedgerServes) (calls : List LedgerChange) :
    (∀ answer ∈ (runLedgerCalls calls w).1, answer.2.isOk = true) ∧
      (runLedgerCalls calls w).2.ledgerEntries =
        replay KeptLedgerEntry.experimentId w.ledgerEntries calls := by
  induction calls generalizing w with
  | nil => exact ⟨fun _ hmem => absurd hmem List.not_mem_nil, rfl⟩
  | cons change rest ih =>
    obtain ⟨hok, hserves⟩ := h.call change
    obtain ⟨hanswers, hentries⟩ := ih hserves
    refine ⟨fun answer hmem => ?_, ?_⟩
    · obtain rfl | hmem := List.mem_cons.mp hmem
      · exact hok
      · exact hanswers answer hmem
    · obtain hdone | ⟨-, hfailed⟩ := ledgerCall_cases change w
      · show (runLedgerCalls rest _).2.ledgerEntries = _
        rw [hentries, hdone]
        rfl
      · exact absurd (hok.symm.trans hfailed) (by decide)

end World.LedgerServes

/-! ## The laws -/

/-- Retiring one experiment leaves the entries of every other one, and their order. -/
theorem retireKept_other (experimentId : ExperimentId) (w : World) :
    without KeptLedgerEntry.experimentId experimentId
      ((retireKept experimentId).run w).state.ledgerEntries =
      without KeptLedgerEntry.experimentId experimentId w.ledgerEntries := by
  obtain hdone | ⟨hkept, -⟩ := ledgerCall_cases (.drop experimentId) w
  · show without _ _ ((ledgerCall (.drop experimentId)).run w).state.ledgerEntries = _
    rw [hdone, apply, without, without, List.filter_filter]
    simp only [Bool.and_self]
  · exact congrArg (without _ _) hkept

/-- A change to a log that keeps the place of each experiment's first record. -/
def changeInPlace (log : List KeptLedgerEntry) : LedgerChange → List KeptLedgerEntry
  | .put entry =>
    if log.any (·.experimentId = entry.experimentId) then
      log.map fun existing => if existing.experimentId = entry.experimentId then entry else existing
    else log ++ [entry]
  | .drop experimentId => log.filter (·.experimentId ≠ experimentId)

def keptEntry (name : String) : KeptLedgerEntry where
  experimentId := name
  actionId := name
  candidate := name
  rollbackToken := .niceRestore []
  mode := none
  safetyClass := none
  keptUnixNanos := 1

/-- The experiment that is recorded again is behind the one that was recorded after it. -/
theorem repeated_record_moves : ¬ ∀ calls : List LedgerChange,
    (runLedgerCalls calls .fresh).2.ledgerEntries = calls.foldl changeInPlace [] := by
  intro h
  have hids := congrArg (List.map (·.experimentId))
    (h [.put (keptEntry "a"), .put (keptEntry "b"), .put (keptEntry "a")])
  exact absurd hids (by decide)

/-- The ledger holds, in the order of their last records, the last record of each experiment that
was not retired since, of the calls that took effect, which are all calls if the ledger serves;
retiring leaves the other entries; and no call overwrites a ledger that it cannot read. -/
theorem kept_ledger_laws :
    (∀ (calls : List LedgerChange) (w : World), ∃ effective : List LedgerChange,
      effective.Sublist calls ∧ (succeeded (runLedgerCalls calls w).1).Sublist effective ∧
      (runLedgerCalls calls w).2.ledgerEntries =
        w.ledgerEntries.filter (fun entry =>
          Untouched KeptLedgerEntry.experimentId effective entry.experimentId) ++
        lasting KeptLedgerEntry.experimentId effective) ∧
    (∀ (calls : List LedgerChange) (w : World), w.LedgerServes →
      (∀ answer ∈ (runLedgerCalls calls w).1, answer.2.isOk = true) ∧
      (runLedgerCalls calls w).2.ledgerEntries =
        w.ledgerEntries.filter (fun entry =>
          Untouched KeptLedgerEntry.experimentId calls entry.experimentId) ++
        lasting KeptLedgerEntry.experimentId calls) ∧
    (∀ (changes : List LedgerChange) (entry : KeptLedgerEntry),
      entry ∈ lasting KeptLedgerEntry.experimentId changes ↔
        ∃ before after, changes = before ++ .put entry :: after ∧
          Untouched KeptLedgerEntry.experimentId after entry.experimentId) ∧
    (∀ changes : List LedgerChange,
      (lasting KeptLedgerEntry.experimentId changes).Sublist (changes.filterMap Change.entry?) ∧
      ((lasting KeptLedgerEntry.experimentId changes).map (·.experimentId)).Nodup) ∧
    (∀ (experimentId : ExperimentId) (w : World),
      without KeptLedgerEntry.experimentId experimentId
          ((retireKept experimentId).run w).state.ledgerEntries =
        without KeptLedgerEntry.experimentId experimentId w.ledgerEntries) ∧
    (∀ (change : LedgerChange) (w : World), w.LedgerUnreadable →
      ((ledgerCall change).run w).result.isOk = false ∧
        ((ledgerCall change).run w).state = w.drawn) ∧
    (∀ (calls : List LedgerChange) (w : World), (parseKeptLedger w.ledger).isOk = false →
      (∀ answer ∈ (runLedgerCalls calls w).1, answer.2.isOk = false) ∧
        (runLedgerCalls calls w).2.ledger = w.ledger) := by
  refine ⟨fun calls w => ?_, fun calls w h => ?_, fun _ _ => mem_lasting,
    fun changes => ⟨lasting_sublist changes, nodup_lasting changes⟩, retireKept_other,
    fun change w h => ledgerCall_unreadable h change,
    fun calls w h => runLedgerCalls_unparsed h calls⟩
  · obtain ⟨effective, hcalls, hsucceeded, hentries⟩ := runLedgerCalls_replay calls w
    exact ⟨effective, hcalls, hsucceeded, hentries.trans (replay_eq _ _)⟩
  · obtain ⟨hanswers, hentries⟩ := h.runCalls calls
    exact ⟨hanswers, hentries.trans (replay_eq _ _)⟩

end Stutter

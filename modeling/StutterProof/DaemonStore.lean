import StutterProof.Actions

/-! # The daemon's state store

The store owns one snapshot of the daemon, changes it in memory and then writes it to its file;
a command opens the store anew from the file.  A fault is one field of the snapshot, and `resume`
looks at nothing else.  So the fault is kept only as long as every operation in between carries
the field along: this module says which of them do. -/
namespace Stutter.Daemon

/-- The daemon's phases. -/
inductive DaemonPhase where
  | disabled | init | recover | paused | observe | decide | apply | measure | keep | rollback
  | cooldown | faulted | shutdown
  deriving DecidableEq

def DaemonPhase.isFaulted : DaemonPhase → Bool
  | .faulted => true
  | _ => false

structure DaemonExperimentState where
  experimentId : String
  actionId : ActionId
  deriving DecidableEq

structure DaemonRollbackState where
  actionId : ActionId
  deriving DecidableEq

/-- A decision the store records itself; the fields of a planner's decision stay empty. -/
structure DaemonDecisionState where
  decision : String
  reason : String
  unixNanos : Option Nat
  deriving DecidableEq

structure DaemonDegradedStatus where
  category : String
  message : String
  deriving DecidableEq

/-- A latched fault. -/
structure DaemonFaultState where
  reason : String
  manualRestoreCommand : Option String
  deriving DecidableEq

structure DaemonWorkloadProfile where
  actionId : ActionId
  deriving DecidableEq

/-- The snapshot of the daemon. -/
structure DaemonState where
  schemaVersion : UInt32
  mode : DaemonMode
  phase : DaemonPhase
  cooldownUntilUnixNanos : Option Nat
  activeExperiment : Option DaemonExperimentState
  activeRollback : Option DaemonRollbackState
  lastDecision : Option DaemonDecisionState
  degraded : List DaemonDegradedStatus
  faulted : Option DaemonFaultState
  profiles : List DaemonWorkloadProfile
  deriving DecidableEq

/-- `DAEMON_STATE_SCHEMA_VERSION`. -/
def daemonStateSchemaVersion : UInt32 := 1

def DaemonState.default : DaemonState :=
  ⟨daemonStateSchemaVersion, .observe, .disabled, none, none, none, none, [], none, []⟩

/-- `validate_identity_strings`. -/
def DaemonState.validateIdentityStrings (state : DaemonState) : Except String Unit := do
  if let some experiment := state.activeExperiment then
    validateNonEmpty "ExperimentId" experiment.experimentId
    validateNonEmpty "ActionId" experiment.actionId
  if let some rollback := state.activeRollback then
    validateNonEmpty "ActionId" rollback.actionId
  state.profiles.forM fun profile => validateNonEmpty "ActionId" profile.actionId

/-! ## The files -/

/-- What is at a path.  A snapshot that was written is read back as it was. -/
inductive SnapshotFile where
  | absent
  /-- It cannot be opened, or it is no snapshot. -/
  | unreadable (error : String)
  | snapshot (state : DaemonState)

/-- The snapshot files by path. -/
abbrev Disk := String → SnapshotFile

/-- `load_daemon_state`. -/
def loadDaemonState (disk : Disk) (path : String) : Except String DaemonState :=
  match disk path with
  | .absent => .error ("failed to open daemon state snapshot " ++ path)
  | .unreadable error => .error error
  | .snapshot state =>
    if state.schemaVersion ≠ daemonStateSchemaVersion then
      .error ("unsupported daemon state snapshot schema_version="
        ++ toString state.schemaVersion.toNat ++ " in " ++ path)
    else match state.validateIdentityStrings with
      | .error _ => .error ("invalid daemon state snapshot identity strings in " ++ path)
      | .ok () => .ok state

/-- How `DaemonStateSnapshotWriter::write` ends: the file is replaced by a rename, after which
only the directory is still synced. -/
inductive Write where
  | ok
  | failed (error : String)
  | failedAfterRename (error : String)

/-- The store: a snapshot and the path of its file. -/
structure DaemonStateStore where
  state : DaemonState
  writer : Option String

/-- The store and the files. -/
structure Host where
  store : DaemonStateStore
  disk : Disk

/-- `DaemonStateSnapshotWriter::write`, of a store that has a writer. -/
def Host.write (host : Host) (state : DaemonState) (write : Write) : Except String Unit × Disk :=
  match host.store.writer with
  | none => (.ok (), host.disk)
  | some path =>
    let replaced := fun other => if other = path then .snapshot state else host.disk other
    match write with
    | .ok => (.ok (), replaced)
    | .failed error => (.error error, host.disk)
    | .failedAfterRename error => (.error error, replaced)

/-! ## Operations -/

/-- `DaemonStateStore::replace`: the file first. -/
def Host.replace (host : Host) (state : DaemonState) (write : Write) : Except String Unit × Host :=
  match host.write state write with
  | (.error error, disk) => (.error error, { host with disk := disk })
  | (.ok (), disk) => (.ok (), { store := { host.store with state := state }, disk := disk })

/-- `mutate_current` and `persist_current`: the memory first, whatever the file says. -/
def Host.mutateCurrent (host : Host) (state : DaemonState) (write : Write) :
    Except String Unit × Host :=
  let (result, disk) := host.write state write
  (result, { store := { host.store with state := state }, disk := disk })

structure DaemonTransition where
  toPhase : DaemonPhase
  reason : String
  unixNanos : Nat

def DaemonState.transitioned (state : DaemonState) (transition : DaemonTransition) : DaemonState :=
  { state with
    phase := transition.toPhase
    lastDecision := some ⟨"daemon_transition", transition.reason, some transition.unixNanos⟩
    faulted := if !transition.toPhase.isFaulted then none else state.faulted }

def DaemonState.withFault (state : DaemonState) (mode : DaemonMode) (reason : String)
    (manualRestoreCommand : Option String) (now : Nat) : DaemonState :=
  { state with
    mode := mode
    phase := .faulted
    lastDecision := some ⟨"daemon_fault", reason, some now⟩
    degraded := [⟨"daemon_state_store", reason⟩]
    faulted := some ⟨reason, manualRestoreCommand⟩ }

def DaemonState.paused (state : DaemonState) (reason : String) (now : Nat) : DaemonState :=
  { state with
    phase := .paused
    lastDecision := some ⟨"daemon_paused", reason, some now⟩
    faulted := none }

def DaemonState.resumed (state : DaemonState) (reason : String) (now : Nat) : DaemonState :=
  { state with
    phase := .observe
    lastDecision := some ⟨"daemon_resumed", reason, some now⟩ }

def DaemonState.restored (state : DaemonState) (reason : String) (now : Nat) : DaemonState :=
  { state with
    phase := .observe
    activeExperiment := none
    activeRollback := none
    cooldownUntilUnixNanos := none
    faulted := none
    degraded := []
    lastDecision := some ⟨"daemon_restored", reason, some now⟩ }

/-- `DaemonStateStore::resume`. -/
def Host.resume (host : Host) (reason : String) (now : Nat) (write : Write) :
    Except String Unit × Host :=
  if host.store.state.faulted.isSome then
    (.error "cannot resume a faulted daemon state; restore first", host)
  else host.mutateCurrent (host.store.state.resumed reason now) write

/-- `daemon_state_store_for_path`: the store of a command that starts. -/
def daemonStateStoreForPath (disk : Disk) (path : String) : Except String DaemonStateStore :=
  match disk path with
  | .absent => .ok ⟨.default, some path⟩
  | _ => match loadDaemonState disk path with
    | .error error => .error error
    | .ok state => .ok ⟨state, some path⟩

/-- A reload; one that fails leaves everything as it is. -/
def Host.reload (host : Host) (path : String) : Except String Unit × Host :=
  match daemonStateStoreForPath host.disk path with
  | .error error => (.error error, host)
  | .ok store => (.ok (), { host with store := store })

/-- The operations of the store. -/
inductive Op where
  | transition (transition : DaemonTransition) (write : Write)
  | markFault (mode : DaemonMode) (reason : String) (manualRestoreCommand : Option String)
      (now : Nat) (write : Write)
  | replace (state : DaemonState) (write : Write)
  | pause (reason : String) (now : Nat) (write : Write)
  | resume (reason : String) (now : Nat) (write : Write)
  | markRestored (reason : String) (now : Nat) (write : Write)
  | reload (path : String)

/-- One operation of the store. -/
def Host.step (host : Host) : Op → Except String Unit × Host
  | .transition transition write =>
    host.mutateCurrent (host.store.state.transitioned transition) write
  | .markFault mode reason command now write =>
    host.mutateCurrent (host.store.state.withFault mode reason command now) write
  | .replace state write => host.replace state write
  | .pause reason now write => host.mutateCurrent (host.store.state.paused reason now) write
  | .resume reason now write => host.resume reason now write
  | .markRestored reason now write =>
    host.mutateCurrent (host.store.state.restored reason now) write
  | .reload path => host.reload path

def Host.run (host : Host) (ops : List Op) : Host :=
  ops.foldl (fun host op => (host.step op).2) host

/-! ## What keeps a fault

A fault that was marked is in memory and, if the store has a file, in the file. -/

def Host.Latched (host : Host) : Prop :=
  host.store.state.faulted.isSome ∧ ∀ path, host.store.writer = some path →
    ∃ state, host.disk path = .snapshot state ∧ state.faulted.isSome

/-- The operation carries the fault along.  `pause` never does, and a `mark_restored` that fails
has already dropped it from memory. -/
def Host.Meets (host : Host) : Op → Prop
  | .pause _ _ _ => False
  | .markRestored _ _ write => host.store.writer = none ∨ write = .ok
  | .transition transition _ => transition.toPhase = .faulted
  | .replace state write => state.faulted.isSome ∨
      ∃ path error, host.store.writer = some path ∧ write = .failed error
  | .reload path => host.store.writer = some path ∨
      ∀ store, daemonStateStoreForPath host.disk path = .ok store → store.state.faulted.isSome
  | .markFault _ _ _ _ _ | .resume _ _ _ => True

/-- How a write ends. -/
theorem Host.write_cases (host : Host) (state : DaemonState) (write : Write) :
    (host.store.writer = none ∧ host.write state write = (.ok (), host.disk)) ∨
      (∃ path error, host.store.writer = some path ∧ write = .failed error ∧
        host.write state write = (.error error, host.disk)) ∨
      ∃ path result, host.store.writer = some path ∧ (∀ error, write ≠ .failed error) ∧
        host.write state write
          = (result, fun other => if other = path then .snapshot state else host.disk other) := by
  unfold Host.write
  rcases writer : host.store.writer with _ | path
  · exact .inl ⟨rfl, rfl⟩
  · cases write with
    | ok => exact .inr (.inr ⟨path, .ok (), rfl, by simp, rfl⟩)
    | failed error => exact .inr (.inl ⟨path, error, rfl, rfl, rfl⟩)
    | failedAfterRename error => exact .inr (.inr ⟨path, .error error, rfl, by simp, rfl⟩)

variable {host : Host}

/-- A store whose file was written. -/
theorem Host.latched_written {path : String} (writer : host.store.writer = some path)
    {memory stored : DaemonState} (inMemory : memory.faulted.isSome)
    (inFile : stored.faulted.isSome) :
    Host.Latched ⟨{ host.store with state := memory },
      fun other => if other = path then .snapshot stored else host.disk other⟩ := by
  refine ⟨inMemory, fun other same => ⟨stored, ?_, inFile⟩⟩
  have same : host.store.writer = some other := same
  rw [writer] at same
  cases same
  exact if_pos rfl

/-- An operation that changes the memory first: the fault is kept iff the new state has one. -/
theorem Host.Latched.mutateCurrent (latched : host.Latched) (state : DaemonState)
    (write : Write) : (host.mutateCurrent state write).2.Latched ↔ state.faulted.isSome := by
  constructor
  · exact fun kept => kept.1
  · intro faulted
    unfold Host.mutateCurrent
    rcases host.write_cases state write with
      ⟨_, written⟩ | ⟨_, _, _, _, written⟩ | ⟨path, _, writer, _, written⟩
    · rw [written]
      exact ⟨faulted, latched.2⟩
    · rw [written]
      exact ⟨faulted, latched.2⟩
    · rw [written]
      exact Host.latched_written writer faulted faulted

/-- One that succeeds has written the file as well. -/
theorem Host.latched_of_mutateCurrent {state : DaemonState} {write : Write}
    (succeeded : (host.mutateCurrent state write).1 = .ok ()) (faulted : state.faulted.isSome) :
    (host.mutateCurrent state write).2.Latched := by
  unfold Host.mutateCurrent at succeeded ⊢
  rcases host.write_cases state write with
    ⟨none, written⟩ | ⟨_, _, _, _, written⟩ | ⟨path, _, writer, _, written⟩
  · rw [written]
    refine ⟨faulted, fun path writer => ?_⟩
    have writer : host.store.writer = some path := writer
    rw [none] at writer
    cases writer
  · rw [written] at succeeded
    cases succeeded
  · rw [written]
    exact Host.latched_written writer faulted faulted

theorem Host.Latched.replace (latched : host.Latched) (state : DaemonState)
    (write : Write) : (host.replace state write).2.Latched ↔ host.Meets (.replace state write) := by
  show _ ↔ state.faulted.isSome ∨ ∃ path error,
      host.store.writer = some path ∧ write = .failed error
  unfold Host.replace
  rcases host.write_cases state write with
    ⟨none, written⟩ | ⟨path, error, writer, fails, written⟩ | ⟨path, result, writer, lands, written⟩
  · rw [written]
    constructor
    · exact fun kept => .inl kept.1
    · rintro (faulted | ⟨path, _, writer, _⟩)
      · exact ⟨faulted, latched.2⟩
      · rw [none] at writer
        cases writer
  · rw [written]
    exact ⟨fun _ => .inr ⟨path, error, writer, fails⟩, fun _ => latched⟩
  · -- the file has the new state, whether the call succeeds or not
    rw [written]
    constructor
    · intro kept
      refine .inl ?_
      have stored : ∃ stored, (if path = path then SnapshotFile.snapshot state else host.disk path)
          = .snapshot stored ∧ stored.faulted.isSome := by
        cases result with
        | ok _ => exact kept.2 path writer
        | error _ => exact kept.2 path writer
      obtain ⟨stored, found, faulted⟩ := stored
      rw [if_pos rfl] at found
      cases found
      exact faulted
    · rintro (faulted | ⟨_, error, _, fails⟩)
      · cases result with
        | ok _ => exact Host.latched_written writer faulted faulted
        | error _ => exact Host.latched_written writer latched.1 faulted
      · exact absurd fails (lands error)

/-- What a reload takes from a file it can read. -/
theorem daemonStateStoreForPath_snapshot {disk : Disk} {path : String} {state : DaemonState}
    {store : DaemonStateStore} (found : disk path = .snapshot state)
    (opened : daemonStateStoreForPath disk path = .ok store) : store = ⟨state, some path⟩ := by
  unfold daemonStateStoreForPath loadDaemonState at opened
  rw [found] at opened
  simp only at opened
  split at opened
  · cases opened
  · rename_i loaded ok
    split at ok
    · cases ok
    · split at ok
      · cases ok
      · cases ok
        cases opened
        rfl

theorem Host.Latched.reload (latched : host.Latched) (path : String) :
    (host.reload path).2.Latched ↔ host.Meets (.reload path) := by
  show _ ↔ host.store.writer = some path ∨
    ∀ store, daemonStateStoreForPath host.disk path = .ok store → store.state.faulted.isSome
  unfold Host.reload
  rcases opened : daemonStateStoreForPath host.disk path with error | store
  · exact ⟨fun _ => .inr (by simp), fun _ => latched⟩
  · constructor
    · intro kept
      refine .inr fun other same => ?_
      cases same
      exact kept.1
    · intro meets
      have faulted : store.state.faulted.isSome := by
        rcases meets with writer | content
        · obtain ⟨state, found, faulted⟩ := latched.2 path writer
          rw [daemonStateStoreForPath_snapshot found opened]
          exact faulted
        · exact content store rfl
      rcases found : host.disk path with _ | error | state
      · -- without a file the store is the default one
        simp only [daemonStateStoreForPath, found, Except.ok.injEq] at opened
        rw [← opened] at faulted
        cases faulted
      · simp [daemonStateStoreForPath, loadDaemonState, found] at opened
      · have store_eq := daemonStateStoreForPath_snapshot found opened
        subst store_eq
        refine ⟨faulted, fun other writer => ⟨state, ?_, faulted⟩⟩
        have writer : some path = some other := writer
        cases writer
        exact found

def Op.isMarkRestored : Op → Bool
  | .markRestored _ _ _ => true
  | _ => false

/-- One operation that is not a restore keeps the fault iff it meets the condition. -/
theorem Host.Latched.step_iff (latched : host.Latched) (op : Op)
    (unrestored : op.isMarkRestored → (host.step op).1 ≠ .ok ()) :
    (host.step op).2.Latched ↔ host.Meets op := by
  cases op with
  | transition transition write =>
    refine (latched.mutateCurrent _ write).trans ?_
    show (if !transition.toPhase.isFaulted then none else host.store.state.faulted).isSome ↔
      transition.toPhase = .faulted
    have faulted := latched.1
    cases transition.toPhase <;> simp [DaemonPhase.isFaulted, faulted]
  | markFault mode reason command now write =>
    exact (latched.mutateCurrent _ write).trans (iff_of_true rfl trivial)
  | replace state write => exact latched.replace state write
  | pause reason now write =>
    exact (latched.mutateCurrent _ write).trans (iff_of_false (by simp [DaemonState.paused]) id)
  | resume reason now write =>
    refine iff_of_true ?_ trivial
    show (host.resume reason now write).2.Latched
    rw [Host.resume, if_pos latched.1]
    exact latched
  | markRestored reason now write =>
    refine (latched.mutateCurrent _ write).trans (iff_of_false (by simp [DaemonState.restored]) ?_)
    -- with no file, or a file that was written, it would have succeeded
    intro meets
    apply unrestored rfl
    show (host.write (host.store.state.restored reason now) write).1 = .ok ()
    unfold Host.write
    rcases meets with none | written
    · rw [none]
    · rw [written]
      split <;> rfl
  | reload path => exact latched.reload path

/-- No `mark_restored` of the run succeeds. -/
def Host.Unrestored (host : Host) : List Op → Prop
  | [] => True
  | op :: rest =>
    (op.isMarkRestored → (host.step op).1 ≠ .ok ()) ∧ (host.step op).2.Unrestored rest

/-- Every operation of the run carries the fault along. -/
def Host.MeetsAll (host : Host) : List Op → Prop
  | [] => True
  | op :: rest => host.Meets op ∧ (host.step op).2.MeetsAll rest

theorem Host.Latched.run (latched : host.Latched) {ops : List Op}
    (unrestored : host.Unrestored ops) (meets : host.MeetsAll ops) : (host.run ops).Latched := by
  induction ops generalizing host with
  | nil => exact latched
  | cons op rest ih =>
    obtain ⟨here, later⟩ := meets
    exact ih ((latched.step_iff op unrestored.1).mpr here) unrestored.2 later

theorem Host.Latched.resume_refused (latched : host.Latched) (reason : String)
    (now : Nat) (write : Write) : (host.step (.resume reason now write)).1
      = .error "cannot resume a faulted daemon state; restore first" := by
  show (host.resume reason now write).1 = _
  rw [Host.resume, if_pos latched.1]

/-- After a `mark_fault` that succeeded, and until a `mark_restored` succeeds, `resume` is
refused, when every operation in between carries the fault along. -/
theorem resume_refused_until_restored (host : Host) (before between : List Op) (mode : DaemonMode)
    (fault : String) (command : Option String) (faultedAt : Nat) (write : Write)
    (reason : String) (now : Nat) (resumeWrite : Write)
    (marked : ((host.run before).step (.markFault mode fault command faultedAt write)).1 = .ok ())
    (unrestored : ((host.run before).step
      (.markFault mode fault command faultedAt write)).2.Unrestored
      between)
    (meets : ((host.run before).step (.markFault mode fault command faultedAt write)).2.MeetsAll
      between) :
    (((((host.run before).step (.markFault mode fault command faultedAt write)).2.run between).step
      (.resume reason now resumeWrite)).1
      = .error "cannot resume a faulted daemon state; restore first") := by
  have latched : ((host.run before).step
      (.markFault mode fault command faultedAt write)).2.Latched :=
    Host.latched_of_mutateCurrent marked rfl
  exact (latched.run unrestored meets).resume_refused reason now resumeWrite

/-- A daemon that keeps its state in a file. -/
def filedHost : Host := ⟨⟨.default, some "daemon_state.json"⟩, fun _ => .absent⟩

/-- The fault is marked, a resume is refused, the store is opened anew, and a resume is refused
again. -/
theorem resume_refused_after_reload :
    (((((filedHost.run []).step (.markFault .applyLowRisk "restore needed" none 1 .ok)).2.run
      [.resume "operator" 2 .ok, .reload "daemon_state.json"]).step (.resume "operator" 3 .ok)).1
      = .error "cannot resume a faulted daemon state; restore first") :=
  resume_refused_until_restored filedHost [] [.resume "operator" 2 .ok, .reload "daemon_state.json"]
    .applyLowRisk "restore needed" none 1 .ok "operator" 3 .ok rfl
    ⟨nofun, nofun, trivial⟩ ⟨trivial, .inl rfl, trivial⟩

/-- A faulted daemon is paused, and then it is resumed. -/
theorem resume_after_pause :
    ¬ ∀ (host : Host) (before between : List Op) (mode : DaemonMode) (fault : String)
        (command : Option String) (faultedAt : Nat) (write : Write) (reason : String) (now : Nat)
        (resumeWrite : Write),
      ((host.run before).step (.markFault mode fault command faultedAt write)).1 = .ok () →
      ((host.run before).step (.markFault mode fault command faultedAt write)).2.Unrestored
        between →
      ∃ error, (((((host.run before).step (.markFault mode fault command faultedAt write)).2.run
        between).step (.resume reason now resumeWrite)).1 = .error error) := by
  intro refused
  obtain ⟨error, failed⟩ := refused filedHost [] [.pause "operator" 2 .ok] .applyLowRisk
    "restore needed" none 1 .ok "operator" 3 .ok rfl ⟨nofun, trivial⟩
  cases failed

end Stutter.Daemon

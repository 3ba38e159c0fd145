import StutterProof.RollbackRegistry
import StutterProof.SysfsApply
import StutterProof.Walk

/-! # The two restore paths

Every action restores its own token (`TuningAction::rollback`, for the controller), and the
rollback registry has a handler that restores the same token after a crash
(`RollbackHandler::restore_token`).  The uclamp, IRQ-affinity and cgroup actions have both loops
written out.  They are run here against the same host, record by record. -/
namespace Stutter.RestorePaths

open ActiveConfig (trimmed)
open Sysfs (normalizeAffinity pathError restoreFailed)
open Walk (Turn Outcome)

/-! ## The host -/

inductive HostWrite where
  | setTaskUclamp (tid utilMin utilMax : Nat)
  | file (path value : String)

/-- `write_trimmed`. -/
def HostWrite.trimmed (path value : String) : HostWrite := .file path (ActiveConfig.trimmed value)

/-- What a restore did: its answer, its writes in order, and how many records of the token it
attempted. -/
structure Attempt (α : Type) where
  answer : Except AnyError α
  writes : List HostWrite
  attempted : Nat

/-- The records, each with what the host answers there.  Both paths reach a record after the same
writes or have parted before it. -/
def met {ρ A : Type} (host : Nat → A) (records : List ρ) : List (ρ × A) :=
  records.zipIdx.map fun record => (record.1, host record.2)

@[simp] theorem length_met {ρ A : Type} (host : Nat → A) (records : List ρ) :
    (met host records).length = records.length := by
  simp [met]

/-- `RestoreSummary`. -/
structure RestoreSummary where
  restored : Nat := 0
  skippedMissing : Nat := 0
  skippedIdentityMismatch : Nat := 0
  failed : Nat := 0

def RestoreSummary.recordRestored (summary : RestoreSummary) : RestoreSummary :=
  { summary with restored := summary.restored + 1 }

def RestoreSummary.recordMissing (summary : RestoreSummary) : RestoreSummary :=
  { summary with skippedMissing := summary.skippedMissing + 1 }

def RestoreSummary.recordIdentityMismatch (summary : RestoreSummary) : RestoreSummary :=
  { summary with skippedIdentityMismatch := summary.skippedIdentityMismatch + 1 }

def RestoreSummary.recordFailure (summary : RestoreSummary) : RestoreSummary :=
  { summary with failed := summary.failed + 1 }

/-- The text of a rollback that had failures. -/
def RestoreSummary.text (summary : RestoreSummary) (what : String) (failures : List String) :
    String :=
  s!"failed to rollback {what} after attempting all records: restored={summary.restored} " ++
    s!"skipped_missing={summary.skippedMissing} " ++
    s!"skipped_identity_mismatch={summary.skippedIdentityMismatch} " ++
    s!"failed={summary.failed} errors=" ++ "; ".intercalate failures

/-- `ActionError::invalid_rollback_token_kind`, of an action handed another family's token. -/
def invalidRollbackTokenKind (token : RollbackToken) (expected : String) : AnyError :=
  .message s!"invalid rollback token: expected {expected}, actual {token.kind}"

/-- `ActionBoundaryError::unsupported_rollback_token`. -/
def unsupportedRollbackToken (handler expected : String) (token : RollbackToken) : AnyError :=
  .boundary handler "action_unsupported_rollback_token"
    (s!"action_unsupported_rollback_token: {handler} expected rollback token kind {expected}, " ++
      s!"got {token.kind}")

/-- A token of another family: nothing is attempted. -/
def refuse {α : Type} (error : AnyError) : Attempt α := ⟨.error error, [], 0⟩

/-! ## uclamp -/

/-- The tid of `restore_identity`. -/
def restoreTid (tid : Nat) (identity : Option TaskRestoreIdentity) : Nat :=
  (identity.map (·.tid)).getD tid

/-- A classified write error, with its outermost note and its whole chain. -/
inductive WriteFailure where
  | missingTask
  | failed (note chain : String)

/-- `with_context` on a system error, then `classify_restore_write_error`. -/
def WriteFailure.noted (note : String) : RestoreWriteError → WriteFailure
  | .missingTask => .missingTask
  | .failed error => .failed note s!"{note}: {error}"

/-- The identity check of a record, then the answer to `sched_setattr`. -/
structure UclampAnswer where
  status : RestoreIdentityStatus
  write : Except RestoreWriteError Unit

def uclampMaxValue : Nat := 1024

/-- `ActionBoundaryError::InvalidValue`: never reaches the host. -/
def invalidUclamp (field reason : String) : WriteFailure :=
  let text := s!"action_invalid_value: uclamp field {field}: {reason}"
  .failed text text

/-- `validate_uclamp_value`. -/
def validateUclampValue (name : String) (value : Nat) : Except WriteFailure Unit :=
  if value ≤ uclampMaxValue then .ok ()
  else .error (invalidUclamp name
    s!"requested {name} {value} is outside uclamp range 0..={uclampMaxValue}")

/-- The checks of `set_task_uclamp`. -/
def validateUclamp (utilMin utilMax : Nat) : Except WriteFailure Unit := do
  validateUclampValue "sched_util_min" utilMin
  validateUclampValue "sched_util_max" utilMax
  if utilMax < utilMin then
    .error (invalidUclamp "sched_util_min"
      s!"sched_util_min {utilMin} is greater than sched_util_max {utilMax}")
  else .ok ()

/-- `set_task_uclamp`: what it asked of the host, and its answer. -/
def setTaskUclamp (tid utilMin utilMax : Nat) (write : Except RestoreWriteError Unit) :
    List HostWrite × Except WriteFailure Unit :=
  match validateUclamp utilMin utilMax with
  | .error failure => ([], .error failure)
  | .ok _ =>
    ([.setTaskUclamp tid utilMin utilMax], write.mapError (WriteFailure.noted
      s!"sched_setattr({tid}, util_min={utilMin}, util_max={utilMax}) failed"))

/-- The restore of one record whose identity passed. -/
def uclampWrite (met : UclampRestoreRecord × UclampAnswer) :
    List HostWrite × Except WriteFailure Unit :=
  setTaskUclamp (restoreTid met.1.tid met.1.identity) met.1.originalUtilMin met.1.originalUtilMax
    met.2.write

def uclampFailure (record : UclampRestoreRecord) (error : String) : String :=
  s!"failed to restore uclamp min={record.originalUtilMin} max={record.originalUtilMax} " ++
    s!"for tid={restoreTid record.tid record.identity}: {error}"

/-- The state of a rollback loop. -/
structure RollbackTally where
  summary : RestoreSummary := {}
  failures : List String := []

/-- The loop body of `UclampAction::rollback`. -/
def uclampRollbackTurn (met : UclampRestoreRecord × UclampAnswer) (tally : RollbackTally) :
    Turn RollbackTally AnyError HostWrite :=
  match met.2.status with
  | .missing => ⟨[], .ok { tally with summary := tally.summary.recordMissing }⟩
  | .mismatch _ => ⟨[], .ok { tally with summary := tally.summary.recordIdentityMismatch }⟩
  | .sameTask | .unknownLegacy =>
    let (writes, answer) := uclampWrite met
    match answer with
    | .ok _ => ⟨writes, .ok { tally with summary := tally.summary.recordRestored }⟩
    | .error .missingTask => ⟨writes, .ok { tally with summary := tally.summary.recordMissing }⟩
    | .error (.failed _ chain) =>
      ⟨writes, .ok ⟨tally.summary.recordFailure, tally.failures ++ [uclampFailure met.1 chain]⟩⟩

/-- `UclampAction::rollback`. -/
def uclampRollback (host : Nat → UclampAnswer) : RollbackToken → Attempt Unit
  | .uclampRestore records =>
    let loop := Walk.run uclampRollbackTurn (met host records) {}
    ⟨loop.answer.bind fun tally =>
      if 0 < tally.summary.failed then
        .error (restoreFailed "uclamp" (tally.summary.text "uclamp" tally.failures))
      else .ok (), loop.effects, loop.visited⟩
  | token => refuse (invalidRollbackTokenKind token "uclamp-restore")

/-- The write of the handler's loop body, of a record whose identity passed. -/
def uclampHandlerWrite (met : UclampRestoreRecord × UclampAnswer) (result : RollbackResult) :
    Turn RollbackResult AnyError HostWrite :=
  let (writes, answer) := uclampWrite met
  match answer with
  | .ok _ => ⟨writes, .ok { result with restored := result.restored + 1 }⟩
  | .error .missingTask => ⟨writes, .ok { result with skippedDead := result.skippedDead + 1 }⟩
  | .error (.failed note _) =>
    ⟨writes, .ok { result with
      errors := result.errors + 1
      messages := result.messages ++ [uclampFailure met.1 note] }⟩

/-- The loop body of the uclamp handler. -/
def uclampHandlerTurn (requireVerifiedIdentity : Bool) (met : UclampRestoreRecord × UclampAnswer)
    (result : RollbackResult) : Turn RollbackResult AnyError HostWrite :=
  let tid := restoreTid met.1.tid met.1.identity
  match met.2.status with
  | .missing => ⟨[], .ok { result with skippedDead := result.skippedDead + 1 }⟩
  | .mismatch reason =>
    ⟨[], .ok { result with
      skippedIdentityMismatch := result.skippedIdentityMismatch + 1
      messages := result.messages ++
        [s!"uclamp restore identity mismatch for tid={tid}: {reason}"] }⟩
  | .unknownLegacy =>
    if requireVerifiedIdentity then
      ⟨[], .ok { result with
        skippedIdentityMismatch := result.skippedIdentityMismatch + 1
        messages := result.messages ++
          [s!"uclamp restore refused unverifiable identity for tid={tid}"] }⟩
    else uclampHandlerWrite met { result with legacyUnverified := result.legacyUnverified + 1 }
  | .sameTask => uclampHandlerWrite met result

/-- `UclampRollbackHandler::restore_token`. -/
def uclampRestoreToken (requireVerifiedIdentity : Bool) (host : Nat → UclampAnswer) :
    RollbackToken → Attempt RollbackResult
  | .uclampRestore records =>
    let loop := Walk.run (uclampHandlerTurn requireVerifiedIdentity) (met host records) {}
    ⟨loop.answer, loop.effects, loop.visited⟩
  | token => refuse (unsupportedRollbackToken "uclamp-rollback" "uclamp-restore" token)

/-! ## IRQ affinity -/

/-- What the host says about an IRQ: its directory, the files that name its device where they can
be read, the write of the mask and the read that follows. -/
structure IrqAnswer where
  isDir : Bool
  actions : Option String
  name : Option String
  write : Except AnyError Unit
  readBack : Except AnyError String

/-- `read_irq_device_hint`. -/
def readIrqDeviceHint (irq : Nat) (answer : IrqAnswer) : Except AnyError String :=
  let filled := fun file : Option String => (file.map trimmed).filter (· ≠ "")
  match filled answer.actions, filled answer.name with
  | some actions, _ => .ok actions
  | none, some name => .ok name
  | none, none => .error (.boundary "irq_affinity" "action_invalid_value"
      (s!"action_invalid_value: irq_affinity field device_hint: neither /proc/irq/{irq}/actions " ++
        s!"nor /proc/irq/{irq}/name contained a device hint"))

def irqAffinityPath (record : IrqAffinityRestoreRecord) : String :=
  s!"/proc/irq/{record.irq}/smp_affinity"

def irqWrite (record : IrqAffinityRestoreRecord) : HostWrite :=
  .trimmed (irqAffinityPath record) record.originalSmpAffinity

def hintChanged (record : IrqAffinityRestoreRecord) (moment hint : String) : String :=
  s!"IRQ {record.irq} device mapping changed{moment}: expected " ++
    ActiveConfig.debugText record.deviceHint ++ ", actual " ++ ActiveConfig.debugText hint

/-- The loop body of `IrqAffinityAction::rollback`: every failure is noted, and the loop goes on. -/
def irqRollbackTurn (met : IrqAffinityRestoreRecord × IrqAnswer) (failures : List String) :
    Turn (List String) AnyError HostWrite :=
  let record := met.1
  if met.2.isDir then
    match readIrqDeviceHint record.irq met.2 with
    | .error e => ⟨[], .ok (failures ++
        [s!"IRQ {record.irq} device mapping unreadable during rollback: {e.text}"])⟩
    | .ok hint =>
      if hint = record.deviceHint then
        match met.2.write with
        | .error e => ⟨[irqWrite record], .ok (failures ++
            [s!"IRQ {record.irq} rollback write failed for {irqAffinityPath record}: {e.text}"])⟩
        | .ok _ =>
          match met.2.readBack with
          | .ok actual =>
            if normalizeAffinity actual = normalizeAffinity record.originalSmpAffinity then
              ⟨[irqWrite record], .ok failures⟩
            else ⟨[irqWrite record], .ok (failures ++
              [s!"IRQ {record.irq} rollback verification failed: " ++
                s!"requested={record.originalSmpAffinity} actual={actual}"])⟩
          | .error e => ⟨[irqWrite record], .ok (failures ++
              [s!"IRQ {record.irq} rollback verification read failed: {e.text}"])⟩
      else ⟨[], .ok (failures ++ [hintChanged record " during rollback" hint])⟩
  else ⟨[], .ok (failures ++ [s!"IRQ {record.irq} directory disappeared"])⟩

/-- `IrqAffinityAction::rollback`. -/
def irqRollback (host : Nat → IrqAnswer) : RollbackToken → Attempt Unit
  | .irqAffinityRestore records =>
    let loop := Walk.run irqRollbackTurn (met host records) []
    ⟨loop.answer.bind fun failures =>
      if failures.isEmpty then .ok ()
      else .error (restoreFailed "irq_affinity"
        ("failed to rollback IRQ affinity: " ++ "; ".intercalate failures)),
      loop.effects, loop.visited⟩
  | token => refuse (invalidRollbackTokenKind token "irq-affinity-restore")

/-- What the IRQ handler counts. -/
structure IrqTally where
  restored : Nat := 0
  skipped : Nat := 0
  messages : List String := []

def IrqTally.skip (tally : IrqTally) (message : String) : IrqTally :=
  { tally with skipped := tally.skipped + 1, messages := tally.messages ++ [message] }

/-- The loop body of the IRQ handler: it skips what it cannot match, leaves at the first refused
write, and reads nothing back. -/
def irqHandlerTurn (met : IrqAffinityRestoreRecord × IrqAnswer) (tally : IrqTally) :
    Turn IrqTally AnyError HostWrite :=
  let record := met.1
  if met.2.isDir then
    match readIrqDeviceHint record.irq met.2 with
    | .error e => ⟨[], .ok (tally.skip
        s!"IRQ {record.irq} device mapping unreadable during rollback: {e.text}")⟩
    | .ok hint =>
      if hint = record.deviceHint then
        match met.2.write with
        | .error e => ⟨[irqWrite record], .error (e.context
            s!"failed to restore IRQ {record.irq} smp_affinity via {irqAffinityPath record}")⟩
        | .ok _ => ⟨[irqWrite record], .ok { tally with restored := tally.restored + 1 }⟩
      else ⟨[], .ok (tally.skip (hintChanged record "" hint))⟩
  else ⟨[], .ok (tally.skip s!"IRQ {record.irq} directory disappeared")⟩

/-- `token_restore_result`: the error count is zero. -/
def tokenRestoreResult (restored skipped : Nat) (messages : List String) : RollbackResult :=
  { restored := restored, skippedDead := skipped, messages := messages }

/-- `IrqAffinityRollbackHandler::restore_token`. -/
def irqRestoreToken (host : Nat → IrqAnswer) : RollbackToken → Attempt RollbackResult
  | .irqAffinityRestore records =>
    let loop := Walk.run irqHandlerTurn (met host records) {}
    ⟨loop.answer.map fun tally => tokenRestoreResult tally.restored tally.skipped tally.messages,
      loop.effects, loop.visited⟩
  | token => refuse (unsupportedRollbackToken "irq-affinity-rollback" "irq-affinity-restore" token)

/-! ## cgroup -/

/-- `Path::components`: the root, a leading `.`, and the names. -/
def pathComponents (path : String) : List String :=
  let parts := (path.toList.splitOn '/').map String.ofList
  let start :=
    if path.toList.head? = some '/' then ["/"] else if parts.head? = some "." then ["."] else []
  start ++ parts.filter fun part => part ≠ "" ∧ part ≠ "."

/-- `Path::join` of one name. -/
def joinPath (directory name : String) : String :=
  if directory.toList.getLast? = some '/' then directory ++ name else s!"{directory}/{name}"

/-- `normalize_cgroup_path`, of a path as it is displayed and by its components. -/
def normalizeCgroupPath (path : String) (components : List String) :
    Except AnyError (List String) :=
  if ".." ∈ components then
    .error (.boundary "cgroup" "action_path_not_allowed"
      (s!"action_path_not_allowed: cgroup path {path}: " ++
        "cgroup path must not contain parent traversal"))
  else .ok (components.filter fun part => part ≠ "/" ∧ part ≠ ".")

def cgroupRoot : List String := ["/", "sys", "fs", "cgroup"]

/-- What is left of the pieces of a path behind so many names. -/
def dropNames : Nat → List String → List String
  | 0, pieces => pieces
  | _, [] => []
  | n + 1, piece :: pieces => dropNames (if piece = "" ∨ piece = "." then n + 1 else n) pieces

/-- `Path::strip_prefix`, of so many names, as it is displayed: blank pieces at either end go. -/
def stripNames (names : Nat) (path : String) : String :=
  let isBlank (piece : String) : Bool := piece == "" || piece == "."
  let rest := dropNames names ((path.toList.splitOn '/').map String.ofList)
  "/".intercalate (((rest.dropWhile isBlank).reverse.dropWhile isBlank).reverse)

/-- `resolve_cgroup_fs_path` under `/sys/fs/cgroup`. -/
def resolveCgroupFsPath (path : String) : Except AnyError String :=
  let components := pathComponents path
  let (relative, relativeComponents) :=
    if cgroupRoot.isPrefixOf components then (stripNames 3 path, components.drop cgroupRoot.length)
    else (path, components)
  (normalizeCgroupPath relative relativeComponents).map fun names =>
    "/sys/fs/cgroup/" ++ "/".intercalate names

/-- The identity check of a record, the inode of its original cgroup, then the answer to the
write of `cgroup.procs`. -/
structure CgroupAnswer where
  status : RestoreIdentityStatus
  cgroupId : Option Nat
  write : Except RestoreWriteError Unit

/-- The answers at the records, and at the two files of the cpuset record. -/
structure CgroupHost where
  answer : Nat → CgroupAnswer
  cpus : Except String Unit
  mems : Except String Unit

/-- `write_trimmed`, with the note of a failure. -/
def writeNote (path value : String) : String := s!"failed to write {trimmed value} to {path}"

/-- The two files of `restore_cpuset_record`, one after the other. -/
def restoreCpusetFile (directory name : String) (original : Option String)
    (answer : Except String Unit) : List HostWrite × Except AnyError Nat :=
  match original with
  | none => ([], .ok 0)
  | some value =>
    let path := joinPath directory name
    ([.trimmed path value], match answer with
      | .ok _ => .ok 1
      | .error e =>
        .error ((pathError (writeNote path value) e).context s!"failed to restore {path}"))

/-- `restore_cpuset_record`. -/
def restoreCpusetRecord (host : CgroupHost) (record : CgroupCpusetRestoreRecord) :
    List HostWrite × Except AnyError Nat :=
  match resolveCgroupFsPath record.cgroupPath with
  | .error e =>
    ([], .error (e.context s!"failed to resolve cgroup cpuset restore path {record.cgroupPath}"))
  | .ok directory =>
    match restoreCpusetFile directory "cpuset.cpus" record.originalCpusetCpus host.cpus with
    | (writes, .error e) => (writes, .error e)
    | (writes, .ok cpus) =>
      let (memsWrites, mems) :=
        restoreCpusetFile directory "cpuset.mems" record.originalCpusetMems host.mems
      (writes ++ memsWrites, mems.map (cpus + ·))

/-- The process of a record and the cgroup it goes back to. -/
def restoredProcess (record : CgroupRestoreRecord) : Nat × List String :=
  let process := (record.identity.bind (·.processPid)).getD (restoreTid record.tid record.identity)
  (process, pathComponents record.originalCgroup)

/-- The record names a cgroup by its inode, and the path now has another. -/
def cgroupReplaced (met : CgroupRestoreRecord × CgroupAnswer) : Bool :=
  met.1.originalCgroupId.any fun expected => met.2.cgroupId ≠ some expected

/-- The write of `cgroup.procs`. -/
def cgroupWrite (met : CgroupRestoreRecord × CgroupAnswer) (directory : String) :
    HostWrite × Except WriteFailure Unit :=
  let path := joinPath directory "cgroup.procs"
  let tid := toString (restoreTid met.1.tid met.1.identity)
  (.trimmed path tid, met.2.write.mapError (WriteFailure.noted (writeNote path tid)))

/-- The state of the cgroup rollback loop. -/
structure CgroupTally extends RollbackTally where
  restoredProcesses : List (Nat × List String) := []

/-- The loop body of `CgroupPlacementAction::rollback_at`. -/
def cgroupRollbackTurn (met : CgroupRestoreRecord × CgroupAnswer) (tally : CgroupTally) :
    Turn CgroupTally AnyError HostWrite :=
  let record := met.1
  match met.2.status with
  | .missing => ⟨[], .ok { tally with summary := tally.summary.recordMissing }⟩
  | .mismatch _ => ⟨[], .ok { tally with summary := tally.summary.recordIdentityMismatch }⟩
  | .sameTask | .unknownLegacy =>
    match resolveCgroupFsPath record.originalCgroup with
    | .error e =>
      ⟨[], .error (e.context s!"failed to resolve original cgroup path {record.originalCgroup}")⟩
    | .ok original =>
      if cgroupReplaced met then
        ⟨[], .ok { tally with summary := tally.summary.recordIdentityMismatch }⟩
      else if restoredProcess record ∈ tally.restoredProcesses then
        -- the whole thread group already went back with an earlier record
        ⟨[], .ok { tally with summary := tally.summary.recordRestored }⟩
      else
        let (write, answer) := cgroupWrite met original
        match answer with
        | .ok _ => ⟨[write], .ok { tally with
            summary := tally.summary.recordRestored
            restoredProcesses := restoredProcess record :: tally.restoredProcesses }⟩
        | .error .missingTask =>
          ⟨[write], .ok { tally with summary := tally.summary.recordMissing }⟩
        | .error (.failed _ chain) => ⟨[write], .ok { tally with
            summary := tally.summary.recordFailure
            failures := tally.failures ++
              [s!"tid={restoreTid record.tid record.identity} original_cgroup={original} " ++
                s!"error={chain}"] }⟩

/-- The end of `rollback_at`. -/
def cgroupRollbackAnswer (tally : RollbackTally) : Except AnyError Unit :=
  if 0 < tally.summary.failed then
    .error (restoreFailed "cgroup" (tally.summary.text "cgroup placement" tally.failures))
  else .ok ()

/-- `CgroupPlacementAction::rollback`. -/
def cgroupRollback (host : CgroupHost) : RollbackToken → Attempt Unit
  | .cgroupRestore records cpuset =>
    let loop := Walk.run cgroupRollbackTurn (met host.answer records) {}
    match loop.answer, cpuset with
    | .error e, _ => ⟨.error e, loop.effects, loop.visited⟩
    | .ok tally, none => ⟨cgroupRollbackAnswer tally.toRollbackTally, loop.effects, loop.visited⟩
    | .ok tally, some record =>
      let (writes, restored) := restoreCpusetRecord host record
      let tally := match restored with
        | .ok _ => tally.toRollbackTally
        | .error e => ⟨tally.summary.recordFailure,
            tally.failures ++ [s!"cpuset_restore_error={e.text}"]⟩
      ⟨cgroupRollbackAnswer tally, loop.effects ++ writes, loop.visited + 1⟩
  | token => refuse (invalidRollbackTokenKind token "cgroup-restore")

/-- The state of the cgroup handler's loop. -/
structure CgroupResult extends RollbackResult where
  restoredProcesses : List (Nat × List String) := []

/-- The handler's loop body from the path on. -/
def cgroupHandlerWrite (requireVerifiedIdentity : Bool)
    (met : CgroupRestoreRecord × CgroupAnswer) (result : CgroupResult) :
    Turn CgroupResult AnyError HostWrite :=
  let record := met.1
  let tid := restoreTid record.tid record.identity
  match resolveCgroupFsPath record.originalCgroup with
  | .error e =>
    ⟨[], .error (e.context s!"failed to resolve original cgroup path {record.originalCgroup}")⟩
  | .ok original =>
    if (requireVerifiedIdentity && record.originalCgroupId.isNone) || cgroupReplaced met then
      ⟨[], .ok { result with
        skippedIdentityMismatch := result.skippedIdentityMismatch + 1
        messages := result.messages ++
          [s!"cgroup restore refused: original cgroup {record.originalCgroup} is not the " ++
            s!"cgroup tid={tid} left"] }⟩
    else if restoredProcess record ∈ result.restoredProcesses then
      ⟨[], .ok { result with restored := result.restored + 1 }⟩
    else
      let (write, answer) := cgroupWrite met original
      match answer with
      | .ok _ => ⟨[write], .ok { result with
          restored := result.restored + 1
          restoredProcesses := restoredProcess record :: result.restoredProcesses }⟩
      | .error .missingTask =>
        ⟨[write], .ok { result with skippedDead := result.skippedDead + 1 }⟩
      | .error (.failed note _) => ⟨[write], .ok { result with
          errors := result.errors + 1
          messages := result.messages ++
            [s!"failed to restore pid={tid} to cgroup {original}: {note}"] }⟩

/-- The loop body of the cgroup handler. -/
def cgroupHandlerTurn (requireVerifiedIdentity : Bool) (met : CgroupRestoreRecord × CgroupAnswer)
    (result : CgroupResult) : Turn CgroupResult AnyError HostWrite :=
  let tid := restoreTid met.1.tid met.1.identity
  match met.2.status with
  | .missing => ⟨[], .ok { result with skippedDead := result.skippedDead + 1 }⟩
  | .mismatch reason =>
    ⟨[], .ok { result with
      skippedIdentityMismatch := result.skippedIdentityMismatch + 1
      messages := result.messages ++
        [s!"cgroup restore identity mismatch for tid={tid}: {reason}"] }⟩
  | .unknownLegacy =>
    if requireVerifiedIdentity then
      ⟨[], .ok { result with
        skippedIdentityMismatch := result.skippedIdentityMismatch + 1
        messages := result.messages ++
          [s!"cgroup restore refused unverifiable task identity for tid={tid}"] }⟩
    else
      cgroupHandlerWrite requireVerifiedIdentity met
        { result with legacyUnverified := result.legacyUnverified + 1 }
  | .sameTask => cgroupHandlerWrite requireVerifiedIdentity met result

/-- The end of `restore_token_at`. -/
def cgroupRestoreAnswer (result : RollbackResult) : Except AnyError RollbackResult :=
  if 0 < result.errors then
    .error (restoreFailed "cgroup" ("failed to rollback cgroup placement: " ++
      "; ".intercalate result.messages))
  else .ok result

/-- `CgroupRollbackHandler::restore_token`. -/
def cgroupRestoreToken (requireVerifiedIdentity : Bool) (host : CgroupHost) :
    RollbackToken → Attempt RollbackResult
  | .cgroupRestore records cpuset =>
    let loop := Walk.run (cgroupHandlerTurn requireVerifiedIdentity) (met host.answer records) {}
    match loop.answer, cpuset with
    | .error e, _ => ⟨.error e, loop.effects, loop.visited⟩
    | .ok result, none =>
      ⟨cgroupRestoreAnswer result.toRollbackResult, loop.effects, loop.visited⟩
    | .ok result, some record =>
      let (writes, restored) := restoreCpusetRecord host record
      let result := match restored with
        | .ok files => { result.toRollbackResult with restored := result.restored + files }
        | .error e => { result.toRollbackResult with
            errors := result.errors + 1
            messages := result.messages ++
              [s!"failed to restore cgroup cpuset state: {e.text}"] }
      ⟨cgroupRestoreAnswer result, loop.effects ++ writes, loop.visited + 1⟩
  | token => refuse (unsupportedRollbackToken "cgroup-rollback" "cgroup-restore" token)

/-! ## Agreement -/

/-- Both paths attempted every one of the token's records, issued the same writes, and one is
`Ok` exactly when the other is `Ok` without an error. -/
structure Agrees (records : Nat) (rollback : Attempt Unit) (handler : Attempt RollbackResult) :
    Prop where
  rollback_attempts : rollback.attempted = records
  handler_attempts : handler.attempted = records
  writes : rollback.writes = handler.writes
  ok_iff : rollback.answer = .ok () ↔ ∃ result, handler.answer = .ok result ∧ result.errors = 0

/-- A token of another family is refused by both. -/
theorem agrees_refuse (error error' : AnyError) : Agrees 0 (refuse error) (refuse error') where
  rollback_attempts := rfl
  handler_attempts := rfl
  writes := rfl
  ok_iff := by simp [refuse]

/-! ### uclamp -/

/-- `as_uclamp_restore`. -/
def uclampRecords : RollbackToken → List UclampRestoreRecord
  | .uclampRestore records => records
  | _ => []

/-- Startup recovery's handler refuses a record whose identity cannot be verified. -/
def UclampVerified (met : UclampRestoreRecord × UclampAnswer) : Prop :=
  met.2.status ≠ .unknownLegacy

variable {result : RollbackResult} {tally : RollbackTally}

open Walk

theorem uclampHandlerWrite_lockstep (met : UclampRestoreRecord × UclampAnswer)
    (hstatus : met.2.status = .sameTask ∨ met.2.status = .unknownLegacy)
    (h : tally.summary.failed = result.errors) :
    (uclampRollbackTurn met tally).effects = (uclampHandlerWrite met result).effects ∧
      Alike (fun (tally : RollbackTally) result => tally.summary.failed = result.errors)
        (uclampRollbackTurn met tally).next (uclampHandlerWrite met result).next := by
  rcases hw : uclampWrite met with ⟨writes, (_ | ⟨note, chain⟩) | _⟩
  all_goals
    rcases hstatus with hs | hs
    all_goals simp only [uclampRollbackTurn, uclampHandlerWrite, hs, hw, true_and]
  · exact h
  · exact h
  · exact congrArg (· + 1) h
  · exact congrArg (· + 1) h
  · exact h
  · exact h

variable {strict : Bool}

theorem uclampTurn_lockstep {met : UclampRestoreRecord × UclampAnswer}
    (hverified : strict = true → UclampVerified met) (h : tally.summary.failed = result.errors) :
    (uclampRollbackTurn met tally).effects = (uclampHandlerTurn strict met result).effects ∧
      Alike (fun (tally : RollbackTally) result => tally.summary.failed = result.errors)
        (uclampRollbackTurn met tally).next (uclampHandlerTurn strict met result).next := by
  unfold uclampHandlerTurn
  cases hs : met.2.status with
  | sameTask => exact uclampHandlerWrite_lockstep met (.inl hs) h
  | missing => simp only [uclampRollbackTurn, hs]; exact ⟨trivial, h⟩
  | mismatch reason => simp only [uclampRollbackTurn, hs]; exact ⟨trivial, h⟩
  | unknownLegacy =>
    cases strict with
    | true => exact absurd hs (hverified rfl)
    | false => exact uclampHandlerWrite_lockstep met (.inr hs) h

theorem uclampRollbackTurn_goes (met : UclampRestoreRecord × UclampAnswer)
    (tally : RollbackTally) : (∃ e, (uclampRollbackTurn met tally).next = .error e) ↔ False := by
  unfold uclampRollbackTurn
  rcases met.2.status with _ | _ | _ | _ <;>
    rcases uclampWrite met with ⟨writes, (_ | _) | _⟩ <;> simp

theorem uclampAnswer_ok_iff {loop : Except AnyError RollbackTally}
    {loop' : Except AnyError RollbackResult}
    (h : Alike (fun tally result => tally.summary.failed = result.errors) loop loop') :
    (loop.bind fun tally =>
      if 0 < tally.summary.failed then
        .error (restoreFailed "uclamp" (tally.summary.text "uclamp" tally.failures))
      else .ok ()) = .ok () ↔ ∃ result, loop' = .ok result ∧ result.errors = 0 := by
  rcases loop with e | tally
  · rcases loop' with e' | result
    · simp [Except.bind]
    · exact h.elim
  · rcases loop' with e' | result
    · exact h.elim
    · have hcount : tally.summary.failed = result.errors := h
      simp only [Except.bind, Except.ok.injEq, exists_eq_left', hcount]
      by_cases herrors : 0 < result.errors
      · simp only [herrors, if_true, reduceCtorEq, false_iff]
        omega
      · simp only [herrors, if_false, true_iff]
        omega

/-- **The uclamp paths agree on every token and every host**, for startup recovery's handler as
long as it can verify the records. -/
theorem uclamp_agrees (strict : Bool) (host : Nat → UclampAnswer) (token : RollbackToken)
    (hverified : strict = true → ∀ m ∈ met host (uclampRecords token), UclampVerified m) :
    Agrees (uclampRecords token).length (uclampRollback host token)
      (uclampRestoreToken strict host token) := by
  cases token with
  | uclampRestore records =>
    obtain ⟨hwrites, hvisited, hanswer⟩ := run_lockstep uclampRollbackTurn
      (uclampHandlerTurn strict) (s := {}) (t := {})
      (fun m hm tally result h => uclampTurn_lockstep (fun hs => hverified hs m hm) h) rfl
    have hall : (Walk.run uclampRollbackTurn (met host records) {}).visited = records.length := by
      rw [← length_met host records,
        run_visited_iff _ fun m _ tally => uclampRollbackTurn_goes m tally]
      simp
    exact ⟨hall, hvisited.symm.trans hall, hwrites, uclampAnswer_ok_iff hanswer⟩
  | _ => exact agrees_refuse _ _

/-! ### IRQ affinity -/

/-- `as_irq_affinity_restore`. -/
def irqRecords : RollbackToken → List IrqAffinityRestoreRecord
  | .irqAffinityRestore records => records
  | _ => []

/-- The IRQ is there and still has the record's device: both paths write its mask. -/
def IrqReached (met : IrqAffinityRestoreRecord × IrqAnswer) : Prop :=
  met.2.isDir = true ∧ readIrqDeviceHint met.1.irq met.2 = .ok met.1.deviceHint

/-- The write is issued and refused. -/
def IrqRefused (met : IrqAffinityRestoreRecord × IrqAnswer) : Prop :=
  IrqReached met ∧ ∃ e, met.2.write = .error e

/-- The write is issued and accepted, and the mask reads back. -/
def IrqRestored (met : IrqAffinityRestoreRecord × IrqAnswer) : Prop :=
  IrqReached met ∧ met.2.write = .ok () ∧ ∃ actual, met.2.readBack = .ok actual ∧
    normalizeAffinity actual = normalizeAffinity met.1.originalSmpAffinity

instance (m : IrqAffinityRestoreRecord × IrqAnswer) : Decidable (IrqReached m) :=
  inferInstanceAs (Decidable (_ ∧ _))

/-- The write of a record, where there is one. -/
def irqWrites (met : IrqAffinityRestoreRecord × IrqAnswer) : List HostWrite :=
  if IrqReached met then [irqWrite met.1] else []

/-- Every turn of the rollback goes on, and adds a failure unless the record was restored. -/
theorem irqRollbackTurn_spec (m : IrqAffinityRestoreRecord × IrqAnswer) (failures : List String) :
    ∃ notes, irqRollbackTurn m failures = ⟨irqWrites m, .ok (failures ++ notes)⟩ ∧
      (notes = [] ↔ IrqRestored m) := by
  unfold irqWrites
  by_cases hreached : IrqReached m
  · obtain ⟨hdir, hhint⟩ := id hreached
    rw [if_pos hreached]
    cases hwrite : m.2.write with
    | error e =>
      refine ⟨_, by simp only [irqRollbackTurn, hdir, hhint, hwrite, if_true]; rfl, ?_⟩
      simp [IrqRestored, hwrite]
    | ok _ =>
      cases hread : m.2.readBack with
      | error e =>
        refine ⟨_, by
          simp only [irqRollbackTurn, hdir, hhint, hwrite, hread, if_true]; rfl, ?_⟩
        simp [IrqRestored, hread]
      | ok actual =>
        by_cases hsame : normalizeAffinity actual = normalizeAffinity m.1.originalSmpAffinity
        · refine ⟨[], by
            simp only [irqRollbackTurn, hdir, hhint, hwrite, hread, hsame, if_true,
              List.append_nil], ?_⟩
          simp [IrqRestored, hreached, hwrite, hread, hsame]
        · refine ⟨_, by
            simp only [irqRollbackTurn, hdir, hhint, hwrite, hread, hsame, if_true, if_false]; rfl,
            ?_⟩
          simp [IrqRestored, hread, hsame]
  · have hnot : ¬ IrqRestored m := fun h => hreached h.1
    rw [if_neg hreached]
    cases hdir : m.2.isDir with
    | false =>
      refine ⟨_, by
        simp only [irqRollbackTurn, hdir, Bool.false_eq_true, if_false]; rfl, ?_⟩
      simp [hnot]
    | true =>
      cases hhint : readIrqDeviceHint m.1.irq m.2 with
      | error e =>
        refine ⟨_, by simp only [irqRollbackTurn, hdir, hhint, if_true]; rfl, ?_⟩
        simp [hnot]
      | ok hint =>
        have hchanged : hint ≠ m.1.deviceHint := fun h => hreached ⟨hdir, h ▸ hhint⟩
        refine ⟨_, by
          simp only [irqRollbackTurn, hdir, hhint, hchanged, if_true, if_false]; rfl, ?_⟩
        simp [hnot]

/-- A turn of the handler makes the same write, and stops exactly when it is refused. -/
theorem irqHandlerTurn_spec (m : IrqAffinityRestoreRecord × IrqAnswer) (tally : IrqTally) :
    (irqHandlerTurn m tally).effects = irqWrites m ∧
      ((∃ e, (irqHandlerTurn m tally).next = .error e) ↔ IrqRefused m) := by
  unfold irqWrites
  by_cases hreached : IrqReached m
  · obtain ⟨hdir, hhint⟩ := id hreached
    rw [if_pos hreached]
    cases hwrite : m.2.write with
    | error e => simp [irqHandlerTurn, hdir, hhint, hwrite, IrqRefused, hreached]
    | ok _ => simp [irqHandlerTurn, hdir, hhint, hwrite, IrqRefused]
  · have hnot : ¬ IrqRefused m := fun h => hreached h.1
    rw [if_neg hreached]
    cases hdir : m.2.isDir with
    | false => simp [irqHandlerTurn, hdir, hnot]
    | true =>
      cases hhint : readIrqDeviceHint m.1.irq m.2 with
      | error e => simp [irqHandlerTurn, hdir, hhint, hnot]
      | ok hint =>
        have hchanged : hint ≠ m.1.deviceHint := fun h => hreached ⟨hdir, h ▸ hhint⟩
        simp [irqHandlerTurn, hdir, hhint, hchanged, hnot]

/-- The rollback loop visits every record, and ends without a failure exactly when every record
was restored. -/
theorem irqRollback_run (records : List (IrqAffinityRestoreRecord × IrqAnswer))
    (failures : List String) :
    ∃ notes, (Walk.run irqRollbackTurn records failures).answer = .ok (failures ++ notes) ∧
      (Walk.run irqRollbackTurn records failures).visited = records.length ∧
      (notes = [] ↔ ∀ m ∈ records, IrqRestored m) := by
  induction records generalizing failures with
  | nil => exact ⟨[], by simp [Walk.run]⟩
  | cons m rest ih =>
    obtain ⟨note, hturn, hnote⟩ := irqRollbackTurn_spec m failures
    obtain ⟨notes, hanswer, hvisited, hnotes⟩ := ih (failures ++ note)
    refine ⟨note ++ notes, ?_, ?_, ?_⟩
    · simp only [Walk.run, hturn, hanswer, List.append_assoc]
    · simp only [Walk.run, hturn, hvisited, List.length_cons]
    · rw [List.append_eq_nil_iff, hnote, hnotes, List.forall_mem_cons]

/-- No write but the last record's is refused, and unless that one is, every record is restored
and reads back. -/
def IrqMeets (records : List (IrqAffinityRestoreRecord × IrqAnswer)) : Prop :=
  (∀ m ∈ records.dropLast, ¬ IrqRefused m) ∧
    ((∀ m ∈ records, ¬ IrqRefused m) → ∀ m ∈ records, IrqRestored m)

theorem IrqRestored.not_refused {m : IrqAffinityRestoreRecord × IrqAnswer} (h : IrqRestored m) :
    ¬ IrqRefused m := by
  rintro ⟨_, e, he⟩
  rw [h.2.1] at he
  cases he

theorem irq_agrees_iff (host : Nat → IrqAnswer) (token : RollbackToken) :
    Agrees (irqRecords token).length (irqRollback host token) (irqRestoreToken host token) ↔
      IrqMeets (met host (irqRecords token)) := by
  cases token with
  | irqAffinityRestore records =>
    obtain ⟨notes, hanswer, hvisited, hnotes⟩ := irqRollback_run (met host records) []
    have hvisits := run_visited_iff (met host records)
      (fun m _ tally => (irqHandlerTurn_spec m tally).2) {}
    have hends := run_ok_iff (met host records)
      (fun m _ tally => (irqHandlerTurn_spec m tally).2) {}
    have hrollback : (irqRollback host (.irqAffinityRestore records)).answer = .ok () ↔
        ∀ m ∈ met host records, IrqRestored m := by
      simp only [irqRollback, hanswer, List.nil_append, Except.bind, ← hnotes]
      by_cases hempty : notes = []
      · simp [hempty]
      · simp [hempty]
    have hhandler : (∃ result, (irqRestoreToken host (.irqAffinityRestore records)).answer =
        .ok result ∧ result.errors = 0) ↔ ∀ m ∈ met host records, ¬ IrqRefused m := by
      rw [← hends]
      simp only [irqRestoreToken]
      cases (Walk.run irqHandlerTurn (met host records) {}).answer with
      | error e => simp [Except.map]
      | ok tally => simp [Except.map, tokenRestoreResult]
    constructor
    · intro h
      refine ⟨hvisits.mp (h.handler_attempts.trans (length_met host records).symm), fun hnone => ?_⟩
      exact hrollback.mp (h.ok_iff.mpr (hhandler.mpr hnone))
    · rintro ⟨hbut, hrest⟩
      have hall := hvisits.mpr hbut
      refine ⟨hvisited.trans (length_met host records), hall.trans (length_met host records), ?_,
        ?_⟩
      · -- both loops visited every record, and each record has one write in either of them
        simp only [irqRollback, irqRestoreToken]
        rw [run_effects irqWrites (fun m failures => by
            obtain ⟨note, hturn, _⟩ := irqRollbackTurn_spec m failures
            rw [hturn]),
          run_effects irqWrites (fun m tally => (irqHandlerTurn_spec m tally).1),
          hvisited, hall]
      · rw [hrollback, hhandler]
        exact ⟨fun h m hm => (h m hm).not_refused, hrest⟩
  | _ => exact iff_of_true (agrees_refuse _ _) (by simp [IrqMeets, irqRecords, met])

/-! ### cgroup -/

/-- `as_cgroup_restore`. -/
def cgroupRecords : RollbackToken → List CgroupRestoreRecord × Option CgroupCpusetRestoreRecord
  | .cgroupRestore records cpuset => (records, cpuset)
  | _ => ([], none)

/-- How many records the token has, the cpuset record included. -/
def cgroupRecordCount (token : RollbackToken) : Nat :=
  (cgroupRecords token).1.length + (cgroupRecords token).2.toList.length

/-- Startup recovery's handler also wants the cgroup by its inode. -/
def CgroupVerified (met : CgroupRestoreRecord × CgroupAnswer) : Prop :=
  met.2.status ≠ .unknownLegacy ∧ met.1.originalCgroupId.isSome = true

/-- The identity check lets the record through. -/
def CgroupActs (met : CgroupRestoreRecord × CgroupAnswer) : Prop :=
  met.2.status = .sameTask ∨ met.2.status = .unknownLegacy

/-- The record's path has a `..`: both loops leave at it. -/
def CgroupStops (met : CgroupRestoreRecord × CgroupAnswer) : Prop :=
  CgroupActs met ∧ ".." ∈ pathComponents met.1.originalCgroup

/-- No record with a `..` is acted upon but the last, and that one only in a token without a
cpuset record. -/
def CgroupMeets (records : List (CgroupRestoreRecord × CgroupAnswer))
    (cpuset : Option CgroupCpusetRestoreRecord) : Prop :=
  ∀ m ∈ if cpuset.isSome then records else records.dropLast, ¬ CgroupStops m

theorem normalizeCgroupPath_error_iff (path : String) (components : List String) :
    (∃ e, normalizeCgroupPath path components = .error e) ↔ ".." ∈ components := by
  unfold normalizeCgroupPath
  by_cases h : ".." ∈ components
  · simp [h]
  · simp [h]

theorem resolveCgroupFsPath_error_iff (path : String) :
    (∃ e, resolveCgroupFsPath path = .error e) ↔ ".." ∈ pathComponents path := by
  have hmap : ∀ (shown : String) (components : List String),
      (∃ e, ((normalizeCgroupPath shown components).map
        fun names => "/sys/fs/cgroup/" ++ "/".intercalate names) = .error e) ↔
        ".." ∈ components := by
    intro shown components
    rw [← normalizeCgroupPath_error_iff shown]
    cases normalizeCgroupPath shown components with
    | error e => simp [Except.map]
    | ok names => simp [Except.map]
  simp only [resolveCgroupFsPath]
  rw [hmap]
  by_cases hroot : cgroupRoot.isPrefixOf (pathComponents path) = true
  · -- the root itself has no `..`
    obtain ⟨rest, hrest⟩ := List.isPrefixOf_iff_prefix.mp hroot
    rw [if_pos hroot]
    dsimp only
    rw [← hrest, List.drop_left, List.mem_append]
    simp [cgroupRoot]
  · rw [if_neg hroot]

/-- The counts the two cgroup loops keep in step. -/
def CgroupInStep (tally : CgroupTally) (result : CgroupResult) : Prop :=
  tally.summary.failed = result.errors ∧ tally.restoredProcesses = result.restoredProcesses

theorem cgroupHandlerWrite_lockstep {m : CgroupRestoreRecord × CgroupAnswer}
    (hacts : CgroupActs m) (hnamed : strict = true → m.1.originalCgroupId.isSome = true)
    {tally : CgroupTally} {result : CgroupResult} (h : CgroupInStep tally result) :
    (cgroupRollbackTurn m tally).effects = (cgroupHandlerWrite strict m result).effects ∧
      Alike CgroupInStep (cgroupRollbackTurn m tally).next
        (cgroupHandlerWrite strict m result).next := by
  obtain ⟨hcount, hprocesses⟩ := h
  have hguard : ((strict && m.1.originalCgroupId.isNone) || cgroupReplaced m) =
      cgroupReplaced m := by
    cases strict with
    | false => rfl
    | true =>
      have hsome := hnamed rfl
      rw [Option.isSome_iff_exists] at hsome
      obtain ⟨expected, hexpected⟩ := hsome
      simp [hexpected]
  rcases hacts with hs | hs
  all_goals
    simp only [cgroupRollbackTurn, cgroupHandlerWrite, hs, hguard, hprocesses]
    rcases resolveCgroupFsPath m.1.originalCgroup with e | original
    · exact ⟨rfl, trivial⟩
    · by_cases hreplaced : cgroupReplaced m = true
      · simp only [hreplaced, if_true]
        exact ⟨trivial, hcount, rfl⟩
      · rw [Bool.not_eq_true] at hreplaced
        by_cases hback : restoredProcess m.1 ∈ result.restoredProcesses
        · simp only [hreplaced, hback, Bool.false_eq_true, if_true, if_false]
          exact ⟨trivial, hcount, rfl⟩
        · simp only [hreplaced, hback, Bool.false_eq_true, if_false]
          rcases cgroupWrite m original with ⟨write, (_ | ⟨note, chain⟩) | _⟩
          · exact ⟨rfl, hcount, rfl⟩
          · exact ⟨rfl, congrArg (· + 1) hcount, rfl⟩
          · exact ⟨rfl, hcount, rfl⟩

theorem cgroupTurn_lockstep {m : CgroupRestoreRecord × CgroupAnswer}
    (hverified : strict = true → CgroupVerified m) {tally : CgroupTally} {result : CgroupResult}
    (h : CgroupInStep tally result) :
    (cgroupRollbackTurn m tally).effects = (cgroupHandlerTurn strict m result).effects ∧
      Alike CgroupInStep (cgroupRollbackTurn m tally).next
        (cgroupHandlerTurn strict m result).next := by
  have hnamed : strict = true → m.1.originalCgroupId.isSome = true := fun hs => (hverified hs).2
  unfold cgroupHandlerTurn
  cases hs : m.2.status with
  | sameTask => exact cgroupHandlerWrite_lockstep (.inl hs) hnamed h
  | missing => simp only [cgroupRollbackTurn, hs]; exact ⟨trivial, h⟩
  | mismatch reason => simp only [cgroupRollbackTurn, hs]; exact ⟨trivial, h⟩
  | unknownLegacy =>
    cases strict with
    | true => exact absurd hs (hverified rfl).1
    | false =>
      have hcounts : CgroupInStep tally
          { result with legacyUnverified := result.legacyUnverified + 1 } := h
      exact cgroupHandlerWrite_lockstep (.inr hs) hnamed hcounts

theorem cgroupRollbackTurn_stops (m : CgroupRestoreRecord × CgroupAnswer) (tally : CgroupTally) :
    (∃ e, (cgroupRollbackTurn m tally).next = .error e) ↔ CgroupStops m := by
  unfold CgroupStops CgroupActs
  rw [← resolveCgroupFsPath_error_iff]
  cases hs : m.2.status with
  | missing => simp [cgroupRollbackTurn, hs]
  | mismatch reason => simp [cgroupRollbackTurn, hs]
  | sameTask | unknownLegacy =>
    simp only [cgroupRollbackTurn, hs, true_or, or_true, true_and]
    rcases resolveCgroupFsPath m.1.originalCgroup with e | original
    · simp
    · by_cases hreplaced : cgroupReplaced m = true
      · simp [hreplaced]
      · by_cases hback : restoredProcess m.1 ∈ tally.restoredProcesses
        · simp [hreplaced, hback]
        · simp only [hreplaced, hback, if_false]
          rcases cgroupWrite m original with ⟨write, (_ | _) | _⟩ <;> simp

/-- The ends of the two paths, on counts that are in step. -/
theorem cgroupAnswer_ok_iff (h : tally.summary.failed = result.errors) :
    cgroupRollbackAnswer tally = .ok () ↔
      ∃ done, cgroupRestoreAnswer result = .ok done ∧ done.errors = 0 := by
  unfold cgroupRollbackAnswer cgroupRestoreAnswer
  rw [h]
  by_cases herrors : 0 < result.errors
  · simp [herrors]
  · simp only [herrors, if_false, Except.ok.injEq, exists_eq_left', true_iff]
    omega

theorem cgroup_agrees_iff (strict : Bool) (host : CgroupHost) (token : RollbackToken)
    (hverified : strict = true → ∀ m ∈ met host.answer (cgroupRecords token).1, CgroupVerified m) :
    Agrees (cgroupRecordCount token) (cgroupRollback host token)
        (cgroupRestoreToken strict host token) ↔
      CgroupMeets (met host.answer (cgroupRecords token).1) (cgroupRecords token).2 := by
  cases token with
  | cgroupRestore records cpuset =>
    simp only [cgroupRecords] at hverified
    obtain ⟨hwrites, hvisited, hanswer⟩ := run_lockstep cgroupRollbackTurn
      (cgroupHandlerTurn strict) (s := {}) (t := {})
      (fun m (hm : m ∈ met host.answer records) tally result h =>
        cgroupTurn_lockstep (fun hs => hverified hs m hm) h) ⟨rfl, rfl⟩
    have hvisits := run_visited_iff (met host.answer records)
      (fun m _ tally => cgroupRollbackTurn_stops m tally) {}
    have hends := run_ok_iff (met host.answer records)
      (fun m _ tally => cgroupRollbackTurn_stops m tally) {}
    rw [length_met] at hvisits
    unfold cgroupRollback cgroupRestoreToken cgroupRecordCount cgroupRecords CgroupMeets
    simp only
    cases hr : (Walk.run cgroupRollbackTurn (met host.answer records) {}).answer with
    | error e =>
      cases hh : (Walk.run (cgroupHandlerTurn strict) (met host.answer records) {}).answer with
      | ok result => rw [hr, hh] at hanswer; exact hanswer.elim
      | error e' =>
        -- both loops left at the same record, and a cpuset record was not attempted
        have hstopped : ¬ ∀ m ∈ met host.answer records, ¬ CgroupStops m := by
          rw [← hends, hr]
          simp
        have hle := run_visited_le cgroupRollbackTurn (met host.answer records) {}
        rw [length_met] at hle
        cases cpuset with
        | none =>
          simp only [Option.toList_none, List.length_nil, Option.isSome_none, Bool.false_eq_true,
            if_false, Nat.add_zero]
          rw [← hvisits]
          exact ⟨fun h => h.rollback_attempts,
            fun h => ⟨h, hvisited.symm.trans h, hwrites, by simp⟩⟩
        | some record =>
          refine iff_of_false (fun h => ?_) (by simpa using hstopped)
          have hmore := h.rollback_attempts
          simp only [Option.toList_some, List.length_singleton] at hmore
          omega
    | ok tally =>
      cases hh : (Walk.run (cgroupHandlerTurn strict) (met host.answer records) {}).answer with
      | error e' => rw [hr, hh] at hanswer; exact hanswer.elim
      | ok result =>
        rw [hr, hh] at hanswer
        have hnone : ∀ m ∈ met host.answer records, ¬ CgroupStops m := hends.mp ⟨tally, hr⟩
        have hbut : ∀ m ∈ (met host.answer records).dropLast, ¬ CgroupStops m :=
          fun m hm => hnone m (List.dropLast_subset _ hm)
        have hall := hvisits.mpr hbut
        cases cpuset with
        | none =>
          refine iff_of_true ⟨hall, hvisited.symm.trans hall, hwrites, ?_⟩ (by simpa using hbut)
          exact cgroupAnswer_ok_iff hanswer.1
        | some record =>
          refine iff_of_true ⟨congrArg (· + 1) hall, congrArg (· + 1) (hvisited.symm.trans hall),
            congrArg (· ++ (restoreCpusetRecord host record).1) hwrites, ?_⟩ (by simpa using hnone)
          apply cgroupAnswer_ok_iff
          rcases (restoreCpusetRecord host record).2 with e | files
          · exact congrArg (· + 1) hanswer.1
          · exact hanswer.1
  | _ => exact iff_of_true (agrees_refuse _ _) (by simp [CgroupMeets, cgroupRecords, met])

/-! ## When the two paths agree -/

/-- **When the two restore paths agree.**  The uclamp paths always do.  The cgroup paths do unless
a record with a `..` in its path is acted upon while another record is still to come.  The IRQ
paths do exactly when no write but the last record's is refused and, unless that one is, every
record is restored and reads back.  `strict` is startup recovery's handler, which has no IRQ
family and refuses by design what it cannot verify. -/
theorem rollback_agrees_iff (token : RollbackToken) :
    (∀ strict host,
      (strict = true → ∀ m ∈ met host (uclampRecords token), UclampVerified m) →
      Agrees (uclampRecords token).length (uclampRollback host token)
        (uclampRestoreToken strict host token)) ∧
    (∀ host, Agrees (irqRecords token).length (irqRollback host token)
        (irqRestoreToken host token) ↔ IrqMeets (met host (irqRecords token))) ∧
    ∀ strict host,
      (strict = true → ∀ m ∈ met host.answer (cgroupRecords token).1, CgroupVerified m) →
      (Agrees (cgroupRecordCount token) (cgroupRollback host token)
          (cgroupRestoreToken strict host token) ↔
        CgroupMeets (met host.answer (cgroupRecords token).1) (cgroupRecords token).2) :=
  ⟨fun strict host => uclamp_agrees strict host token, fun host => irq_agrees_iff host token,
    fun strict host => cgroup_agrees_iff strict host token⟩

/-- An IRQ that vanished between the apply and the restore. -/
def vanishedIrq : IrqAnswer := ⟨false, none, none, .ok (), .ok ""⟩

/-- The action reports the vanished IRQ as a failed rollback; the handler skips it and reports
`Ok` without an error. -/
theorem vanishedIrq_disagrees :
    let token : RollbackToken := .irqAffinityRestore [⟨42, "nvme0q1", "f"⟩]
    (∃ e, (irqRollback (fun _ => vanishedIrq) token).answer = .error e) ∧
      (∃ result, (irqRestoreToken (fun _ => vanishedIrq) token).answer = .ok result ∧
        result.errors = 0) ∧
      ¬ Agrees 1 (irqRollback (fun _ => vanishedIrq) token)
        (irqRestoreToken (fun _ => vanishedIrq) token) := by
  have hrollback : ∃ e, (irqRollback (fun _ => vanishedIrq)
      (.irqAffinityRestore [⟨42, "nvme0q1", "f"⟩])).answer = .error e := ⟨_, rfl⟩
  have hhandler : ∃ result, (irqRestoreToken (fun _ => vanishedIrq)
      (.irqAffinityRestore [⟨42, "nvme0q1", "f"⟩])).answer = .ok result ∧ result.errors = 0 :=
    ⟨_, rfl, rfl⟩
  refine ⟨hrollback, hhandler, fun h => ?_⟩
  obtain ⟨e, he⟩ := hrollback
  have hok := h.ok_iff.mpr hhandler
  rw [he] at hok
  cases hok

/-- Two threads of one process, by their start times. -/
def recordedThread (tid : Nat) : Option TaskRestoreIdentity :=
  some ⟨tid, some 7, some (5000 + tid), some "game", none⟩

def uclampRecordsOfTwo : List UclampRestoreRecord :=
  [⟨7, 0, 1024, recordedThread 7⟩, ⟨8, 128, 512, recordedThread 8⟩]

def cgroupRecordsOfTwo : List CgroupRestoreRecord :=
  [⟨7, "/game.slice", recordedThread 7, some 9⟩, ⟨8, "/user.slice/app", recordedThread 8, some 12⟩]

/-- The first thread still runs; the second one's number belongs to another task. -/
def threadStatus : Nat → RestoreIdentityStatus
  | 0 => .sameTask
  | _ => .mismatch "starttime mismatch"

/-- Startup recovery's handlers on records it can verify. -/
theorem verifiedRecords_agree :
    Agrees 2 (uclampRollback (fun n => ⟨threadStatus n, .ok ()⟩)
      (.uclampRestore uclampRecordsOfTwo))
        (uclampRestoreToken true (fun n => ⟨threadStatus n, .ok ()⟩)
          (.uclampRestore uclampRecordsOfTwo)) ∧
      Agrees 2
        (cgroupRollback ⟨fun n => ⟨threadStatus n, some 9, .ok ()⟩, .ok (), .ok ()⟩
          (.cgroupRestore cgroupRecordsOfTwo none))
        (cgroupRestoreToken true ⟨fun n => ⟨threadStatus n, some 9, .ok ()⟩, .ok (), .ok ()⟩
          (.cgroupRestore cgroupRecordsOfTwo none)) := by
  constructor
  · apply (rollback_agrees_iff (.uclampRestore uclampRecordsOfTwo)).1 true
    simp [met, uclampRecords, uclampRecordsOfTwo, UclampVerified, threadStatus]
  · apply ((rollback_agrees_iff (.cgroupRestore cgroupRecordsOfTwo none)).2.2 true _ _).mpr
    · have hpath : ".." ∉ pathComponents "/game.slice" := by decide +kernel
      simp [CgroupMeets, met, cgroupRecords, cgroupRecordsOfTwo, CgroupStops, hpath]
    · simp [met, cgroupRecords, cgroupRecordsOfTwo, CgroupVerified, threadStatus]

end Stutter.RestorePaths

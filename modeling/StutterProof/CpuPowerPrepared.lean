import StutterProof.PreparedTransaction
import StutterProof.RestorePaths
import StutterProof.SysfsRestore

/-! # The prepared transaction of CPU power

The files of the cpufreq directories, the identity of the resource a record names, and the prepared
apply with the rollback of its token. -/
namespace Stutter.CpuPower

open ActiveConfig (trimmed)
open RestorePaths (joinPath)
open Sysfs (CpuPowerAction TargetFile pathError restoreFailed sortedUniqueCpus)

/-! ## Files -/

/-- The texts of the files, by the real path of the directory and the name. -/
abbrev Files := String × String → Option String

/-- The files of one entry under `class/power_supply`. -/
structure PowerSupply where
  supplyType : Option String
  onlineText : Option String
  statusText : Option String

/-- The host apart from the texts: where the directories are, and which values the kernel takes. -/
structure Host where
  canonicalize : String → Option String
  isDir : String → Bool
  isFile : String → Bool
  openError : String → Option String
  accepts : String × String → String → Bool
  bootId : Option String
  powerSupplies : Option (Except String (List PowerSupply))

/-- `Path::parent` and `Path::file_name`, of a path whose last component is a name. -/
def parentAndName (path : String) : Option (String × String) :=
  match path.toList.reverse.span (· ≠ '/') with
  | (_, []) => none
  | (name, _ :: parent) => some (String.ofList parent.reverse, String.ofList name.reverse)

/-- The file at a path. -/
def Host.cell (host : Host) (path : String) : Option (String × String) :=
  (parentAndName path).bind fun (parent, name) => (host.canonicalize parent).map fun real =>
    (real, name)

def readTrimmed (host : Host) (files : Files) (path : String) : Except AnyError String :=
  match (host.cell path).bind files with
  | some text => .ok (trimmed text)
  | none => .error (pathError s!"failed to read {path}" "No such file or directory (os error 2)")

/-- A file that the kernel takes a value for shows it on a line. -/
def writeTrimmed (host : Host) (files : Files) (path value : String) :
    Except AnyError Unit × Files :=
  let failed :=
    pathError ("failed to write " ++ ActiveConfig.debugText (trimmed value) ++ " to " ++ path)
  match host.cell path with
  | none => (.error (failed "No such file or directory (os error 2)"), files)
  | some cell =>
    if (files cell).isNone then (.error (failed "Permission denied (os error 13)"), files)
    else if host.accepts cell (trimmed value) then
      (.ok (), Function.update files cell (some (trimmed value ++ "\n")))
    else (.error (failed "Invalid argument (os error 22)"), files)

def readOptional (host : Host) (files : Files) (path : String) : Option String :=
  (readTrimmed host files path).toOption.filter (· ≠ "")

/-- `str::split_whitespace`. -/
def splitWhitespace (text : String) : List String :=
  ((text.toList.splitOnP isTrimmed).filter (· ≠ [])).map String.ofList

/-! ## The identity of a resource -/

/-- The file that lists the values of an attribute. -/
def availableFile : String → Option String
  | "energy_performance_preference" => some "energy_performance_available_preferences"
  | "scaling_governor" => some "scaling_available_governors"
  | _ => none

def bootId (host : Host) : Option String := (host.bootId.map trimmed).filter (· ≠ "")

/-- `resource_identity`. -/
def resourceIdentity (host : Host) (files : Files) (cpu : Nat) (attributePath : String) :
    Option CpuPowerResourceIdentity := do
  let (cpufreq, attributeName) ← parentAndName attributePath
  let available ← availableFile attributeName
  let real ← host.canonicalize cpufreq
  let (_, policy) ← parentAndName real
  let related := (splitWhitespace
      ((readOptional host files (joinPath cpufreq "related_cpus")).getD "")).filterMap
    fun cpu => ActiveConfig.parseU32 cpu.toList
  return {
    cpu := cpu
    policy := policy
    relatedCpus := related.insertionSort (· ≤ ·)
    attributeName := attributeName
    driver := readOptional host files (joinPath cpufreq "scaling_driver")
    availableValues := readOptional host files (joinPath cpufreq available)
    bootId := bootId host }

/-- `verify_resource`. -/
def verifyResource (host : Host) (files : Files) (record : CpuPowerRestoreRecord) :
    Except String Unit :=
  match record.identity with
  | none => .error "the record has no cpufreq resource identity"
  | some recorded =>
    match resourceIdentity host files recorded.cpu record.path with
    | none => .error "the cpufreq resource can no longer be rediscovered"
    | some current =>
      let changed := [("policy", decide (current.policy = recorded.policy)),
        ("related CPUs", decide (current.relatedCpus = recorded.relatedCpus)),
        ("attribute", decide (current.attributeName = recorded.attributeName)),
        ("driver", decide (current.driver = recorded.driver))].find? fun (_, same) => !same
      if current.bootId ≠ recorded.bootId then
        .error "the system booted since the original value was read"
      else match changed with
      | some (name, _) => .error s!"the cpufreq {name} is not the one that was recorded"
      | none =>
        match current.availableValues with
        | none => .ok ()
        | some legal =>
          if record.originalValue ∈ splitWhitespace legal then .ok ()
          else .error (ActiveConfig.debugText record.originalValue ++
            s!" is no longer a legal value of {current.attributeName}")

/-! ## The request -/

inductive BatteryPolicy where
  | never | allowWithExplicitConfig

/-- What the configuration allows. -/
structure CpuPowerPolicy where
  allowCpuPowerChanges : Bool
  allowedCpus : List Nat
  allowGovernorChanges : Bool
  allowEppChanges : Bool
  batteryPolicy : BatteryPolicy
  explicitBatteryOverride : Bool

def policyDenied (requirement : String) : AnyError :=
  SysfsRestore.policyDenied "cpu_power" requirement

def isPlainChar (c : Char) : Bool := c.isAlphanum || c = '_' || c = '-'

def validateSysfsValue (name value : String) : Except AnyError Unit :=
  SysfsRestore.validateText "cpu_power" name s!"{name} value" isPlainChar value

/-- A missing file counts as empty. -/
def supplyText (text : Option String) : String := trimmed (text.getD "")

/-- `is_on_battery`: no external supply is online, and a battery is discharging. -/
def isOnBattery (host : Host) (root : String) : Except AnyError Bool :=
  match host.powerSupplies with
  | none => .ok false
  | some (.error error) => .error (pathError s!"failed to read {root}" error)
  | some (.ok supplies) =>
    let powered := supplies.any fun supply =>
      supplyText supply.supplyType ∈ ["Mains", "USB", "USB_C"] && supplyText supply.onlineText = "1"
    let discharging := supplies.any fun supply =>
      supplyText supply.supplyType = "Battery" &&
        supplyText supply.statusText ∈ ["Discharging", "Not charging"]
    .ok (!powered && discharging)

/-- The attributes of a request, with their values. -/
def requestedValues (action : CpuPowerAction) : List (String × String) :=
  (action.scalingGovernor.map fun governor => ("scaling_governor", governor)).toList ++
    (action.energyPerformancePreference.map fun epp =>
      ("energy_performance_preference", epp)).toList

/-- What the policy asks of a host on battery. -/
def validateBattery (policy : CpuPowerPolicy) (onBattery : Bool) : Except AnyError Unit :=
  if !onBattery then .ok ()
  else match policy.batteryPolicy with
    | .never => .error (policyDenied "battery_policy_allow")
    | .allowWithExplicitConfig =>
      if policy.explicitBatteryOverride then .ok ()
      else .error (policyDenied "explicit_battery_override")

/-- The checks before a power change. -/
def validatePolicyAndRequest (host : Host) (action : CpuPowerAction) (policy : CpuPowerPolicy) :
    Except AnyError Unit :=
  if !policy.allowCpuPowerChanges then .error (policyDenied "allow_cpu_power_changes")
  else if action.cpus.isEmpty then .error (SysfsRestore.missingExplicitTargets "cpu_power")
  else if action.scalingGovernor.isNone && action.energyPerformancePreference.isNone then
    .error (SysfsRestore.invalidRequest "cpu_power"
      "CPU power action requires scaling_governor, energy_performance_preference, or both")
  else if policy.allowedCpus.isEmpty then .error (policyDenied "allowed_cpus_non_empty")
  else if action.scalingGovernor.isSome && !policy.allowGovernorChanges then
    .error (policyDenied "allow_governor_changes")
  else if action.energyPerformancePreference.isSome && !policy.allowEppChanges then
    .error (policyDenied "allow_epp_changes")
  else do
    let _ ← (requestedValues action).mapM fun (name, value) => validateSysfsValue name value
    validateBattery policy (← isOnBattery host (joinPath action.sysfsRoot "class/power_supply"))

/-! ## The target files -/

/-- A file to write, with its CPU. -/
structure CpuPowerTargetFile extends TargetFile where
  cpu : Nat

def cpuCpufreqDir (action : CpuPowerAction) (cpu : Nat) : String :=
  joinPath (joinPath (joinPath action.sysfsRoot "devices/system/cpu") s!"cpu{cpu}") "cpufreq"

def readTargetFile (host : Host) (files : Files) (cpu : Nat) (path requestedValue : String) :
    Except AnyError CpuPowerTargetFile := do
  SysfsRestore.ensureWritableFile "cpu_power" "CPU power sysfs" path (host.isFile path)
    (host.openError path)
  let originalValue ← readTrimmed host files path
  return ⟨⟨path, requestedValue, originalValue⟩, cpu⟩

/-- One turn of `collect_target_files`. -/
def collectCpu (host : Host) (files : Files) (action : CpuPowerAction) (policy : CpuPowerPolicy)
    (cpu : Nat) :
    Except AnyError (List CpuPowerTargetFile) :=
  let cpufreq := cpuCpufreqDir action cpu
  if cpu ∉ policy.allowedCpus then .error (policyDenied "allowed_cpus_contains_target")
  else if !host.isDir cpufreq then .error (SysfsRestore.missingPath "cpu_power" cpufreq)
  else (requestedValues action).mapM fun (name, value) =>
    readTargetFile host files cpu (joinPath cpufreq name) value

def collectTargetFiles (host : Host) (files : Files) (action : CpuPowerAction)
    (policy : CpuPowerPolicy) :
    Except AnyError (List CpuPowerTargetFile) := do
  validatePolicyAndRequest host action policy
  let targets ← (sortedUniqueCpus action.cpus).mapM (collectCpu host files action policy)
  return targets.flatten

/-! ## The prepared apply -/

/-- One turn of `plan_records`. -/
def planRecord (host : Host) (files : Files) (target : CpuPowerTargetFile) :
    Except AnyError (CpuPowerTargetFile × CpuPowerRestoreRecord) :=
  match resourceIdentity host files target.cpu target.path with
  | none => .error (.message s!"cannot establish the cpufreq identity of {target.path}")
  | some identity => .ok (target, ⟨target.path, target.originalValue, some identity⟩)

def planRecords (host : Host) (files : Files) (action : CpuPowerAction) (policy : CpuPowerPolicy) :
    Except AnyError (List (CpuPowerTargetFile × CpuPowerRestoreRecord)) := do
  (← collectTargetFiles host files action policy).mapM (planRecord host files)

/-- The write loop of the commit. -/
def writeTargets (host : Host) (token : RollbackToken) (files : Files) :
    List CpuPowerTargetFile → ApplyResult × Files
  | [] => (.ok token, files)
  | target :: rest =>
    if target.originalValue = target.requestedValue then writeTargets host token files rest
    else match writeTrimmed host files target.path target.requestedValue with
      | (.error error, files) =>
        (.error ⟨error.context s!"failed to write {target.path}", some token⟩, files)
      | (.ok (), files) =>
        match readTrimmed host files target.path with
        | .error error =>
          (.error ⟨error.context s!"failed to verify write to {target.path}", some token⟩, files)
        | .ok actual =>
          if actual ≠ target.requestedValue then
            (.error ⟨restoreFailed "cpu_power"
              (s!"CPU power write verification failed for {target.path}: " ++
                "requested=" ++ ActiveConfig.debugText target.requestedValue ++
                " actual=" ++ ActiveConfig.debugText actual), some token⟩, files)
          else writeTargets host token files rest

/-- `apply_prepared_with_policy`; `beforeMutation` says what the hook answers, and the files after
it. -/
def applyPreparedWithPolicy (host : Host) (action : CpuPowerAction) (policy : CpuPowerPolicy)
    (beforeMutation : RollbackToken → Files → Except AnyError Unit × Files) (files : Files) :
    ApplyResult × Files :=
  match planRecords host files action policy with
  | .error error => (.error ⟨error, none⟩, files)
  | .ok plan =>
    let records := plan.map Prod.snd
    match beforeMutation (.cpuPowerRestore records) files with
    | (.error error, files) => (.error ⟨error, none⟩, files)
    | (.ok (), files) =>
      match planRecords host files action policy with
      | .error error => (.error ⟨error, none⟩, files)
      | .ok current =>
        if current.map Prod.snd ≠ records then
          (.error ⟨.message
            "CPU power state drifted between preparation and commit; nothing was written",
            none⟩, files)
        else writeTargets host (.cpuPowerRestore records) files (plan.map Prod.fst)

/-! ## Rollback -/

def restorer (host : Host) : SysfsRestore.Restorer Files CpuPowerRestoreRecord where
  actionKind := "cpu_power"
  label := "CPU power"
  path record := record.path
  originalValue record := record.originalValue
  write files record := writeTrimmed host files record.path record.originalValue
  read files record := readTrimmed host files record.path

/-- What a rollback did. -/
structure CpuPowerRestoreOutcome where
  restored : Nat := 0
  skippedIdentityMismatch : Nat := 0
  messages : List String := []

/-- Why a record is skipped. -/
def skipReason (host : Host) (files : Files) (requireIdentity : Bool)
    (record : CpuPowerRestoreRecord) :
    Option String :=
  if record.identity.isNone && !requireIdentity then none
  else match verifyResource host files record with
    | .ok () => none
    | .error reason => some reason

/-- `rollback_verified`. -/
def rollbackVerified (host : Host) (files : Files) (records : List CpuPowerRestoreRecord)
    (requireIdentity : Bool) : Except AnyError CpuPowerRestoreOutcome × Files :=
  let replayable :=
    records.filter fun record => (skipReason host files requireIdentity record).isNone
  let messages := records.filterMap fun record =>
    (skipReason host files requireIdentity record).map fun reason =>
      s!"cpu power restore skipped {record.path}: {reason}"
  match (restorer host).rollbackRecords files replayable with
  | (.error error, files) => (.error error, files)
  | (.ok (), files) => (.ok ⟨replayable.length, messages.length, messages⟩, files)

/-- `CpuPowerAction::rollback`. -/
def rollback (host : Host) (files : Files) : RollbackToken → Except AnyError Unit × Files
  | .cpuPowerRestore records =>
    match rollbackVerified host files records false with
    | (.error error, files) => (.error error, files)
    | (.ok _, files) => (.ok (), files)
  | token => (.error (RestorePaths.invalidRollbackTokenKind token "cpu-power-restore"), files)

/-- `CpuPowerRollbackHandler::restore_token`. -/
def restoreToken (host : Host) (requireVerifiedIdentity : Bool) (files : Files) :
    RollbackToken → Except AnyError RollbackResult × Files
  | .cpuPowerRestore records =>
    match rollbackVerified host files records requireVerifiedIdentity with
    | (.error error, files) => (.error error, files)
    | (.ok outcome, files) => (.ok {
        restored := outcome.restored
        skippedIdentityMismatch := outcome.skippedIdentityMismatch
        messages := outcome.messages }, files)
  | token =>
    (.error (RestorePaths.unsupportedRollbackToken "cpu-power-rollback" "cpu-power-restore" token),
      files)

end Stutter.CpuPower

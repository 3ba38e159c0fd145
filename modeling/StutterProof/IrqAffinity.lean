import StutterProof.PlaceValue
import StutterProof.SysfsApply

/-! # IRQ affinity masks

The kernel shows the mask of an IRQ as groups of hexadecimal digits, all padded with zeros, and
takes any text of such groups.  The action's `apply`, `verify` and `dry_run` start with one
snapshot, and compare the requested text with the shown one: `apply` its own read-back through
`normalize_affinity`, the others as texts. -/
namespace Stutter.Irq

open ActiveConfig (trimmed)
open PlaceValue (places value)
open Sysfs (Answer Files IrqAffinityAction Kernel ReadAnswer WriteAnswer normalizeAffinity
    pathError)

/-! ## Mask texts -/

/-- `char::is_ascii_hexdigit`. -/
def isHexDigit (c : Char) : Bool :=
  c.isDigit || ('a' ≤ c && c ≤ 'f') || ('A' ≤ c && c ≤ 'F')

/-- The number of a hexadecimal digit. -/
def hexDigit (c : Char) : Nat :=
  let n := c.toLower.toNat
  if c.isDigit then n - '0'.toNat else n - 'a'.toNat + 10

def hexValue (group : List Char) : Nat := value 16 (group.map hexDigit)

def maskGroups (text : String) : List (List Char) := (trimmed text).toList.splitOn ','

/-- A text that denotes a set of CPUs: each group has up to 32 bits. -/
def IsMask (text : String) : Prop :=
  ∀ group ∈ maskGroups text, group ≠ [] ∧ group.length ≤ 8 ∧ ∀ c ∈ group, isHexDigit c = true

instance (text : String) : Decidable (IsMask text) := inferInstanceAs (Decidable (∀ group ∈ _, _))

/-- The set of CPUs a text denotes, by its bits. -/
def maskValue (text : String) : Nat := value (2 ^ 32) ((maskGroups text).map hexValue)

/-! ## The kernel -/

def hexPad (width bits : Nat) : List Char := (places 16 width bits).map Nat.digitChar

/-- How many groups the mask of so many CPUs has. -/
def groupCount (cpus : Nat) : Nat := (cpus + 31) / 32

/-- The digits of the first group: it has only the bits that are left. -/
def leadWidth (cpus : Nat) : Nat := ((if cpus % 32 = 0 then 32 else cpus % 32) + 3) / 4

/-- `%*pb`. -/
def showGroups (cpus mask : Nat) : List (List Char) :=
  (List.range (groupCount cpus)).reverse.map fun i =>
    hexPad (if i + 1 = groupCount cpus then leadWidth cpus else 8) (mask / (2 ^ 32) ^ i % 2 ^ 32)

def showMask (cpus mask : Nat) : String := String.ofList ([','].intercalate (showGroups cpus mask))

/-- The kernel of a host: what it refuses of the masks it can read, and whether the read of a mask
that was just written fails. -/
structure MaskKernel where
  cpus : Nat
  cpus_pos : 0 < cpus
  refusal : Nat → Option String
  readBack : ReadAnswer

namespace MaskKernel
variable (kernel : MaskKernel)

/-- The texts that a write takes. -/
def Takes (text : String) : Prop :=
  IsMask text ∧ (maskGroups text).length ≤ groupCount kernel.cpus ∧
    maskValue text < 2 ^ kernel.cpus ∧
    kernel.refusal (maskValue text) = none

instance (text : String) : Decidable (kernel.Takes text) := inferInstanceAs (Decidable (_ ∧ _))

def write (text : String) : WriteAnswer :=
  if kernel.Takes text then .stored (showMask kernel.cpus (maskValue text) ++ "\n")
  else .refused ((kernel.refusal (maskValue text)).getD "Invalid argument")

/-- Every write of a text is answered alike. -/
def answers (text : String) : Kernel := fun _ => ⟨kernel.write text, kernel.readBack⟩

end MaskKernel

/-! ## The request -/

inductive IrqAffinityRisk where
  | reversibleMediumRisk | highRisk
  deriving DecidableEq

/-- What is known of the IRQ. -/
structure IrqAffinityEvidence where
  strongIrqEvidence : Bool
  stableIrqIdentity : Bool
  knownDeviceMapping : Bool
  observedIrq : Option Nat
  observedDeviceHint : Option String

/-- What the configuration allows. -/
structure IrqAffinityPolicy where
  allowIrqAffinityChanges : Bool
  allowHighRiskDevices : Bool
  requireStrongIrqEvidence : Bool
  requireStableIrqIdentity : Bool
  requireKnownDeviceMapping : Bool

structure IrqAffinityRequest extends IrqAffinityAction where
  risk : IrqAffinityRisk
  evidence : IrqAffinityEvidence

/-- What the host says about the directory of the IRQ. -/
structure IrqDir where
  isDir : Bool
  isFile : Bool
  /-- To open the mask for writing. -/
  openError : Option String
  readError : Option String
  actions : Option String
  name : Option String

/-- The IRQ as the configuration shows it. -/
structure IrqAffinitySnapshot where
  irq : Nat
  deviceHint : String
  smpAffinity : String

/-! ## The checks -/

def policyDenied (requirement : String) : AnyError :=
  .boundary "irq_affinity" "action_policy_denied"
    s!"action_policy_denied: irq_affinity denied by policy requirement {requirement}"

def invalidValue (field reason : String) : AnyError :=
  .boundary "irq_affinity" "action_invalid_value"
    s!"action_invalid_value: irq_affinity field {field}: {reason}"

def invalidRequest (reason : String) : AnyError :=
  .boundary "irq_affinity" "action_invalid_request"
    s!"action_invalid_request: irq_affinity: {reason}"

def missingPath (path : String) : AnyError :=
  .boundary "irq_affinity" "action_missing_path"
    s!"action_missing_path: irq_affinity required path does not exist: {path}"

/-- The checks before an IRQ is changed. -/
def validatePolicyAndRequest (request : IrqAffinityRequest) (policy : IrqAffinityPolicy) :
    Except AnyError Unit :=
  do
  if !policy.allowIrqAffinityChanges then throw (policyDenied "allow_irq_affinity_changes")
  if request.irq = 0 then throw (invalidValue "irq" "IRQ number must be greater than zero")
  if trimmed request.deviceHint = "" then
    throw (invalidValue "device_hint" "IRQ device mapping must be known before affinity changes")
  if request.risk = .highRisk && !policy.allowHighRiskDevices then
    throw (policyDenied "allow_high_risk_devices")
  if policy.requireStrongIrqEvidence && !request.evidence.strongIrqEvidence then
    throw (policyDenied "strong_irq_evidence")
  if policy.requireStableIrqIdentity && !request.evidence.stableIrqIdentity then
    throw (policyDenied "stable_irq_identity")
  if policy.requireKnownDeviceMapping && !request.evidence.knownDeviceMapping then
    throw (policyDenied "known_device_mapping")
  if let some observedIrq := request.evidence.observedIrq then
    if observedIrq ≠ request.irq then
      throw (invalidRequest
        s!"IRQ evidence mismatch: action irq={request.irq} observed irq={observedIrq}")
  if let some observedDeviceHint := request.evidence.observedDeviceHint then
    if observedDeviceHint ≠ request.deviceHint then
      throw (invalidRequest ("IRQ device evidence mismatch: action device=" ++
        ActiveConfig.debugText request.deviceHint ++
        " observed device=" ++ ActiveConfig.debugText observedDeviceHint))

/-- Names of interrupts that the system cannot do without. -/
def criticalNames : List String := ["timer", "rescheduling", "call function", "ipi"]

def validateIrqIdentity (request : IrqAffinityRequest) : Except AnyError Unit :=
  if criticalNames.any fun name => ActiveConfig.containsIgnoreAsciiCase request.deviceHint name then
    .error (invalidRequest
      s!"refusing to change system-critical IRQ {request.irq} ({request.deviceHint})")
  else .ok ()

/-- The checks of a mask's text. -/
def validateAffinityValue (value : String) : Except AnyError Unit := do
  let chars := (trimmed value).toList
  if chars = [] then throw (invalidValue "smp_affinity" "smp_affinity must not be empty")
  if 256 < (chars.map Char.utf8Size).sum then
    throw (invalidValue "smp_affinity" "smp_affinity is too long")
  if let some ch := chars.find? fun ch => !(isHexDigit ch || ch = ',') then
    throw (invalidValue "smp_affinity"
      s!"smp_affinity contains invalid character {ActiveConfig.debugChar ch}")
  if [] ∈ chars.splitOn ',' then
    throw (invalidValue "smp_affinity" "smp_affinity contains an empty comma-separated component")

/-! ## The snapshot -/

def IrqAffinityRequest.irqDir (request : IrqAffinityRequest) : String :=
  request.irqRoot ++ "/" ++ toString request.irq

def ensureWritableFile (path : String) (dir : IrqDir) : Except AnyError Unit :=
  if !dir.isFile then .error (missingPath path)
  else match dir.openError with
    | some error =>
      .error (pathError ("required IRQ affinity file is not writable: " ++ path) error)
    | none => .ok ()

/-- `read_irq_device_hint`: the first of two files that has a text. -/
def readIrqDeviceHint (irqDir : String) (dir : IrqDir) : Except AnyError String :=
  match (dir.actions.map trimmed).filter (· ≠ ""), (dir.name.map trimmed).filter (· ≠ "") with
  | some actions, _ => .ok actions
  | none, some name => .ok name
  | none, none => .error (invalidValue "device_hint"
      s!"neither {irqDir}/actions nor {irqDir}/name contained a device hint")

def readAffinity (path : String) (dir : IrqDir) (content : String → String) :
    Except AnyError String :=
  match dir.readError with
  | some error => .error (pathError ("failed to read " ++ path) error)
  | none => .ok (trimmed (content path))

namespace IrqAffinityRequest
variable (request : IrqAffinityRequest) (policy : IrqAffinityPolicy) (dir : IrqDir)
    (content : String → String)

/-- `collect_snapshot`, up to the first file that is read. -/
def checked : Except AnyError Unit := do
  validatePolicyAndRequest request policy
  validateIrqIdentity request
  validateAffinityValue request.smpAffinity
  if !dir.isDir then throw (missingPath request.irqDir)
  ensureWritableFile request.smpAffinityPath dir

/-- `collect_snapshot`, the device hint: it has to be the request's. -/
def currentDeviceHint : Except AnyError String :=
  match readIrqDeviceHint request.irqDir dir with
  | .error error =>
    .error (error.context s!"failed to read stable device hint for IRQ {request.irq}")
  | .ok hint =>
    if hint ≠ request.deviceHint then
      .error (invalidRequest (s!"IRQ {request.irq} device mapping changed: expected " ++
        ActiveConfig.debugText request.deviceHint ++
        ", actual " ++ ActiveConfig.debugText hint))
    else .ok hint

/-- The files of the host by their paths, the IRQ's directory apart. -/
def collectSnapshot : Except AnyError IrqAffinitySnapshot := do
  request.checked policy dir
  let currentAffinity ← readAffinity request.smpAffinityPath dir content
  let currentDeviceHint ← request.currentDeviceHint dir
  return ⟨request.irq, currentDeviceHint, currentAffinity⟩

end IrqAffinityRequest

/-! ## The operations -/

namespace IrqAffinityRequest
variable (request : IrqAffinityRequest) (policy : IrqAffinityPolicy) (dir : IrqDir)
    (content : String → String)

def pendingChanges (snapshot : IrqAffinitySnapshot) : Nat :=
  if trimmed snapshot.smpAffinity ≠ trimmed request.smpAffinity then 1 else 0

def dryRunWithPolicy : Except AnyError ActionState := do
  let snapshot ← request.collectSnapshot policy dir content
  let pending := request.pendingChanges snapshot
  return ⟨false, pending, 1, pending, []⟩

def verifyWithPolicy : Except AnyError ActionState := do
  let snapshot ← request.collectSnapshot policy dir content
  let pending := request.pendingChanges snapshot
  return ⟨pending = 0, 1, 1, pending, []⟩

/-- `apply_with_policy`: what follows the snapshot is `IrqAffinityAction.apply`. -/
def applyWithPolicy (kernel : Kernel) : Except PartialApplyError RollbackToken × Files :=
  match request.collectSnapshot policy dir content with
  | .error error => (.error ⟨error, none⟩, ⟨content, []⟩)
  | .ok _ => request.toIrqAffinityAction.apply kernel content

end IrqAffinityRequest

end Stutter.Irq

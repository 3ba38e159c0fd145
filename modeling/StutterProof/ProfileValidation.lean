import Mathlib.Algebra.Order.Floor.Semifield
import Mathlib.Data.Rat.Floor
import StutterProof.ActiveConfig

/-! # Remembered profiles

A profile that was kept for a workload is checked before it is used again: against the environment
it was kept in, and against its age.  After a month its confidence decays to four fifths, and after
half a year it is capped.

The scaled product is taken in 16 bits and saturates, so the decay is the one of the exact factor
only up to a confidence of 82 (`follows_iff`).  The order of the confidences is kept everywhere. -/
namespace Stutter.Daemon.ProfileMemory

open ActiveConfig (trimmed)

structure DaemonProfileEnvironment where
  hardwareFingerprint : Option String
  kernelVersion : Option String
  cpuTopologyHash : Option String
  schedulerLabel : Option String
  scxState : Option String
  scxOps : Option String

/-- What a validation reads of a profile. -/
structure DaemonWorkloadProfile where
  workloadIdentityHash : String
  keptUnixNanos : Nat
  lastValidatedUnixNanos : Option Nat
  confidenceMilli : UInt16
  environment : DaemonProfileEnvironment

/-- Whether a profile may be used. -/
structure DaemonProfileValidation where
  valid : Bool
  confidenceMilli : UInt16
  reasonCodes : List String

/-- `PROFILE_REVALIDATE_AFTER_NANOS`: 30 days. -/
def profileRevalidateAfterNanos : Nat := 30 * 24 * 60 * 60 * 1000000000

/-- `PROFILE_MAX_TRUST_AGE_NANOS`: 180 days. -/
def profileMaxTrustAgeNanos : Nat := 180 * 24 * 60 * 60 * 1000000000

/-- `u16::saturating_mul`. -/
def saturatingMul16 (a b : UInt16) : UInt16 := UInt16.ofNat (min (a.toNat * b.toNat) 65535)

/-- `push_profile_environment_mismatch`: what it pushes. -/
def profileEnvironmentMismatch (reasonCode : String) :
    (stored current : Option String) → List String
  | some stored, some current => if stored ≠ current then [reasonCode] else []
  | _, _ => []

namespace DaemonWorkloadProfile
variable (profile : DaemonWorkloadProfile) (currentEnvironment : DaemonProfileEnvironment)
  (nowUnixNanos : Nat)

/-- `now_unix_nanos.saturating_sub(…)`. -/
def ageNanos : Nat :=
  nowUnixNanos - profile.lastValidatedUnixNanos.getD profile.keptUnixNanos

def revalidationDue : Bool := profile.ageNanos nowUnixNanos > profileRevalidateAfterNanos

def tooOld : Bool := profile.ageNanos nowUnixNanos > profileMaxTrustAgeNanos

/-- The reasons that come from the environment, in the order of the checks. -/
def environmentReasons : List String :=
  let stored := profile.environment
  let current := currentEnvironment
  profileEnvironmentMismatch "hardware_changed" stored.hardwareFingerprint
    current.hardwareFingerprint ++
  profileEnvironmentMismatch "kernel_changed" stored.kernelVersion current.kernelVersion ++
  profileEnvironmentMismatch "cpu_topology_changed" stored.cpuTopologyHash
    current.cpuTopologyHash ++
  profileEnvironmentMismatch "scheduler_changed" stored.schedulerLabel current.schedulerLabel ++
  profileEnvironmentMismatch "scx_state_changed" stored.scxState current.scxState ++
  profileEnvironmentMismatch "scx_ops_changed" stored.scxOps current.scxOps

/-- The confidence that a validation gives. -/
def validatedConfidence : UInt16 :=
  let confidenceMilli := min profile.confidenceMilli 1000
  let confidenceMilli :=
    if profile.revalidationDue nowUnixNanos then saturatingMul16 confidenceMilli 800 / 1000
    else confidenceMilli
  if profile.tooOld nowUnixNanos then min confidenceMilli 250 else confidenceMilli

/-- `validation`. -/
def validation : DaemonProfileValidation :=
  let reasonCodes :=
    (if (trimmed profile.workloadIdentityHash).isEmpty then ["missing_workload_identity_hash"]
      else []) ++
    profile.environmentReasons currentEnvironment ++
    (if profile.revalidationDue nowUnixNanos then ["revalidation_due"] else []) ++
    (if profile.tooOld nowUnixNanos then ["profile_too_old"] else [])
  let reasonCodes := reasonCodes.eraseDups
  { valid := !reasonCodes.any (· ≠ "revalidation_due")
    confidenceMilli := profile.validatedConfidence nowUnixNanos
    reasonCodes := reasonCodes }

end DaemonWorkloadProfile

/-! ## The decay -/

/-- Four fifths of a confidence, exactly. -/
def decayed (stored : UInt16) : Nat := ⌊(8 / 10 : ℚ) * min stored.toNat 1000⌋₊

/-- The confidence follows the decay: exact once a revalidation is due, and no profile that is
stored with less and is older gets more. -/
structure DaemonWorkloadProfile.Follows (profile : DaemonWorkloadProfile)
    (currentEnvironment : DaemonProfileEnvironment) (nowUnixNanos : Nat) : Prop where
  decay : profile.revalidationDue nowUnixNanos = true →
    (profile.validation currentEnvironment nowUnixNanos).confidenceMilli.toNat =
      if profile.tooOld nowUnixNanos then min (decayed profile.confidenceMilli) 250
      else decayed profile.confidenceMilli
  monotone : ∀ (other : DaemonWorkloadProfile) (environment : DaemonProfileEnvironment) (now : Nat),
    other.confidenceMilli ≤ profile.confidenceMilli →
    profile.ageNanos nowUnixNanos ≤ other.ageNanos now →
    (other.validation environment now).confidenceMilli ≤
      (profile.validation currentEnvironment nowUnixNanos).confidenceMilli

theorem saturatingMul16_toNat (a b : UInt16) :
    (saturatingMul16 a b).toNat = min (a.toNat * b.toNat) 65535 := by
  have hbound : min (a.toNat * b.toNat) 65535 < 2 ^ 16 := by omega
  rw [saturatingMul16, UInt16.toNat_ofNat', Nat.mod_eq_of_lt hbound]

theorem min_toNat (a b : UInt16) : (min a b).toNat = min a.toNat b.toNat := by
  show (if a ≤ b then a else b).toNat = _
  by_cases hle : a ≤ b
  · rw [if_pos hle, min_eq_left (UInt16.le_iff_toNat_le.mp hle)]
  · rw [if_neg hle, min_eq_right (Nat.le_of_not_le fun h => hle (UInt16.le_iff_toNat_le.mpr h))]

theorem decayed_eq (stored : UInt16) : decayed stored = 800 * min stored.toNat 1000 / 1000 := by
  have hexact : (8 / 10 : ℚ) * min stored.toNat 1000 =
      ((800 * min stored.toNat 1000 : ℕ) : ℚ) / (1000 : ℕ) := by
    push_cast
    ring
  rw [decayed, hexact, Nat.floor_div_eq_div]

namespace DaemonWorkloadProfile
variable {profile : DaemonWorkloadProfile} {nowUnixNanos : Nat}

theorem tooOld_iff : profile.tooOld nowUnixNanos = true ↔
    180 * 24 * 60 * 60 * 1000000000 < profile.ageNanos nowUnixNanos := decide_eq_true_iff

theorem revalidationDue_iff : profile.revalidationDue nowUnixNanos = true ↔
    30 * 24 * 60 * 60 * 1000000000 < profile.ageNanos nowUnixNanos := decide_eq_true_iff

/-- A profile that is too old is due. -/
theorem revalidationDue_of_tooOld (h : profile.tooOld nowUnixNanos = true) :
    profile.revalidationDue nowUnixNanos = true := by
  rw [tooOld_iff] at h
  rw [revalidationDue_iff]
  omega

/-- The confidence as a number, of each of the three ages. -/
theorem validatedConfidence_toNat :
    (profile.validatedConfidence nowUnixNanos).toNat =
      if profile.tooOld nowUnixNanos then
        min (min (min profile.confidenceMilli.toNat 1000 * 800) 65535 / 1000) 250
      else if profile.revalidationDue nowUnixNanos then
        min (min profile.confidenceMilli.toNat 1000 * 800) 65535 / 1000
      else min profile.confidenceMilli.toNat 1000 := by
  cases hold : profile.tooOld nowUnixNanos with
  | true =>
    simp [validatedConfidence, hold, revalidationDue_of_tooOld hold, min_toNat, UInt16.toNat_div,
      saturatingMul16_toNat]
  | false =>
    cases hdue : profile.revalidationDue nowUnixNanos with
    | true =>
      simp [validatedConfidence, hold, hdue, min_toNat, UInt16.toNat_div, saturatingMul16_toNat]
    | false => simp [validatedConfidence, hold, hdue, min_toNat]

/-- Less stored and more age never give more confidence. -/
theorem validatedConfidence_le {other : DaemonWorkloadProfile} {now : Nat}
    (hstored : other.confidenceMilli ≤ profile.confidenceMilli)
    (hage : profile.ageNanos nowUnixNanos ≤ other.ageNanos now) :
    other.validatedConfidence now ≤ profile.validatedConfidence nowUnixNanos := by
  rw [UInt16.le_iff_toNat_le] at hstored ⊢
  rw [validatedConfidence_toNat, validatedConfidence_toNat]
  simp only [tooOld_iff, revalidationDue_iff]
  split_ifs
  -- the three ages of the one against the three of the other
  all_goals omega

/-- **The decay.**  The confidence of a profile follows the decay iff no revalidation is due or the
stored confidence is at most 82: the product with 800 saturates at 65535, and from 83 on that makes
the quotient by 1000 too small. -/
theorem follows_iff (profile : DaemonWorkloadProfile)
    (currentEnvironment : DaemonProfileEnvironment) (nowUnixNanos : Nat) :
    profile.Follows currentEnvironment nowUnixNanos ↔
      (profile.revalidationDue nowUnixNanos = true → profile.confidenceMilli ≤ 82) := by
  have hconfidence : (profile.validation currentEnvironment nowUnixNanos).confidenceMilli =
      profile.validatedConfidence nowUnixNanos := rfl
  have hsmall : profile.confidenceMilli ≤ 82 ↔ profile.confidenceMilli.toNat ≤ 82 :=
    UInt16.le_iff_toNat_le
  constructor
  · intro hfollows hdue
    have hdecay := hfollows.decay hdue
    rw [hconfidence, validatedConfidence_toNat, decayed_eq, if_pos hdue] at hdecay
    rw [hsmall]
    split_ifs at hdecay
    all_goals omega
  · intro hcondition
    refine ⟨fun hdue => ?_, fun other environment now hstored hage => ?_⟩
    · have hbound := hsmall.mp (hcondition hdue)
      rw [hconfidence, validatedConfidence_toNat, decayed_eq, if_pos hdue]
      split_ifs
      all_goals omega
    · exact validatedConfidence_le hstored hage

/-- A profile that was kept at 0 with confidence 900. -/
def keptAt900 : DaemonWorkloadProfile :=
  ⟨"workload-abc", 0, none, 900, ⟨none, none, none, none, none, none⟩⟩

/-- A nanosecond after a month it is left with 65, not 720. -/
theorem keptAt900_not_follows :
    ¬ ∀ (profile : DaemonWorkloadProfile) (environment : DaemonProfileEnvironment) (now : Nat),
      profile.Follows environment now := by
  intro h
  have hdecay := (h keptAt900 keptAt900.environment (profileRevalidateAfterNanos + 1)).decay
    (by decide +kernel)
  rw [decayed_eq] at hdecay
  revert hdecay
  decide +kernel

end DaemonWorkloadProfile

end Stutter.Daemon.ProfileMemory

import StutterProof.AffinityCommit

/-! # The raw values of I/O priorities

The kernel packs a class and thirteen bits of data into one number.  A decoded value keeps a level
of eight bits for two classes and none for the other two, so `decode` is the inverse of `encode` on
what `encode` gives, and takes some numbers that `encode` never gives (`DropsBits`). -/
namespace Stutter.Profiles

/-! ## The codec -/

def ioprioClassShift : Nat := 13

def ioprioPrioMask : Nat := (1 <<< ioprioClassShift) - 1

/-- `IoPrioClass::from_linux_class`. -/
def IoPrioClass.fromLinuxClass : Nat → Except AnyError IoPrioClass
  | 0 => .ok .none
  | 1 => .ok .realtime
  | 2 => .ok .bestEffort
  | 3 => .ok .idle
  | other => .error (.boundary "ioprio" "action_unsupported_value"
      s!"action_unsupported_value: ioprio field linux_class: {other}")

/-- The level of two classes; the others have none. -/
def IoPrioClass.withData (ioClass : IoPrioClass) (data : Nat) : IoPrioValue where
  ioClass := ioClass
  level := match ioClass with
    | .bestEffort | .realtime => Option.some data
    | .none | .idle => Option.none

/-- `(encoded & IOPRIO_PRIO_MASK) as u8`. -/
def decodedData (encoded : Int) : Nat := (encoded.toNat &&& ioprioPrioMask) % 2 ^ 8

/-- A value from its encoded number. -/
def IoPrioValue.decode (encoded : Int) : Except AnyError IoPrioValue :=
  if encoded < 0 then
    .error (ProfileError.invalidValue "ioprio" "encoded_ioprio"
      s!"negative encoded I/O priority {encoded}").anyError
  else match IoPrioClass.fromLinuxClass (encoded.toNat >>> ioprioClassShift) with
    | .error error => .error error
    | .ok ioClass =>
      match validateIoprioValue (ioClass.withData (decodedData encoded)) with
      | .error error => .error error.anyError
      | .ok _ => .ok (ioClass.withData (decodedData encoded))

/-! ## The two fields -/

section Fields
variable {linuxClass level : Nat}

theorem shift_encoded (h : level < 2 ^ 13) :
    (linuxClass <<< 13 ||| level) >>> ioprioClassShift = linuxClass := by
  rw [← Nat.shiftLeft_add_eq_or_of_lt h, ioprioClassShift, Nat.shiftLeft_eq,
    Nat.shiftRight_eq_div_pow]
  omega

theorem mask_encoded (h : level < 2 ^ 13) :
    (linuxClass <<< 13 ||| level) &&& ioprioPrioMask = level := by
  rw [← Nat.shiftLeft_add_eq_or_of_lt h, ioprioPrioMask, ioprioClassShift, Nat.shiftLeft_eq,
    Nat.shiftLeft_eq, Nat.one_mul, Nat.and_two_pow_sub_one_eq_mod]
  omega

/-- A number is its two fields. -/
theorem encoded_fields (raw : Nat) :
    (raw >>> ioprioClassShift) <<< 13 ||| (raw &&& ioprioPrioMask) = raw := by
  have hmask : raw &&& ioprioPrioMask = raw % 2 ^ 13 := Nat.and_two_pow_sub_one_eq_mod raw 13
  have hlow : raw % 2 ^ 13 < 2 ^ 13 := Nat.mod_lt _ (by decide)
  rw [hmask, ← Nat.shiftLeft_add_eq_or_of_lt hlow, Nat.shiftLeft_eq, ioprioClassShift,
    Nat.shiftRight_eq_div_pow]
  omega

end Fields

/-! ## Values and numbers -/

open IoPrioValue

section Codec
variable {value : IoPrioValue} {encoded : Int}

theorem fromLinuxClass_linuxClass (ioClass : IoPrioClass) :
    IoPrioClass.fromLinuxClass ioClass.linuxClass = .ok ioClass := by
  rcases ioClass <;> rfl

theorem linuxClass_injective : Function.Injective IoPrioClass.linuxClass := by
  intro a b h
  rcases a <;> rcases b <;> first | rfl | contradiction

theorem fromLinuxClass_eq_ok {linuxClass : Nat} {ioClass : IoPrioClass} :
    IoPrioClass.fromLinuxClass linuxClass = .ok ioClass ↔ ioClass.linuxClass = linuxClass := by
  constructor
  · intro h
    match linuxClass, h with
    | 0, h | 1, h | 2, h | 3, h => rw [← Except.ok.inj h]; rfl
  · rintro rfl
    exact fromLinuxClass_linuxClass ioClass

/-- What the check accepts: a level up to 7 where the class has one. -/
theorem validateIoprioValue_ok : validateIoprioValue value = .ok () ↔
    match value.ioClass with
    | .none | .idle => value.level = none
    | .bestEffort | .realtime => ∃ level, value.level = some level ∧ level ≤ 7 := by
  obtain ⟨ioClass, level⟩ := value
  rcases ioClass with _ | _ | _ | _ <;> rcases level with _ | level <;> simp [validateIoprioValue]

theorem encode_eq_ok : value.encode = .ok encoded ↔ validateIoprioValue value = .ok () ∧
    encoded = ((value.ioClass.linuxClass <<< 13 ||| value.level.getD 0 : Nat) : Int) := by
  rw [encode]
  rcases validateIoprioValue value with error | _
  · simp [bind, Except.bind]
  · simp [bind, Except.bind, pure, Except.pure, eq_comm]

theorem decode_eq_ok : decode encoded = .ok value ↔
    0 ≤ encoded ∧ ∃ ioClass : IoPrioClass, ioClass.linuxClass = encoded.toNat >>> ioprioClassShift ∧
      ioClass.withData (decodedData encoded) = value ∧ validateIoprioValue value = .ok () := by
  by_cases hneg : encoded < 0
  · rw [decode, if_pos hneg]
    constructor
    · intro h
      contradiction
    · rintro ⟨hpos, -⟩
      omega
  rw [decode, if_neg hneg]
  rcases hclass : IoPrioClass.fromLinuxClass (encoded.toNat >>> ioprioClassShift) with
    error | ioClass
  · constructor
    · intro h
      contradiction
    · rintro ⟨-, ioClass, hlinux, -⟩
      rw [fromLinuxClass_eq_ok.mpr hlinux] at hclass
      contradiction
  have hlinux := fromLinuxClass_eq_ok.mp hclass
  rcases hvalid : validateIoprioValue (ioClass.withData (decodedData encoded)) with error | _
  · simp only [hvalid]
    constructor
    · intro h
      contradiction
    · rintro ⟨-, other, hother, rfl, hok⟩
      obtain rfl : other = ioClass := linuxClass_injective (hother.trans hlinux.symm)
      rw [hvalid] at hok
      contradiction
  · simp only [hvalid]
    constructor
    · intro h
      obtain rfl := Except.ok.inj h
      exact ⟨by omega, ioClass, hlinux, rfl, hvalid⟩
    · rintro ⟨-, other, hother, rfl, -⟩
      obtain rfl : other = ioClass := linuxClass_injective (hother.trans hlinux.symm)
      rfl

theorem withData_of_valid (hvalid : validateIoprioValue value = .ok ()) :
    value.level.getD 0 ≤ 7 ∧ value.ioClass.withData (value.level.getD 0) = value := by
  obtain ⟨ioClass, level⟩ := value
  have hlevel := validateIoprioValue_ok.mp hvalid
  rcases ioClass with _ | _ | _ | _
  · obtain rfl : level = none := hlevel
    exact ⟨Nat.zero_le _, rfl⟩
  · obtain ⟨level, rfl, hle⟩ := hlevel
    exact ⟨hle, rfl⟩
  · obtain ⟨level, rfl, hle⟩ := hlevel
    exact ⟨hle, rfl⟩
  · obtain rfl : level = none := hlevel
    exact ⟨Nat.zero_le _, rfl⟩

/-- What is decoded from a valid value is the value. -/
theorem decode_encode (hvalid : validateIoprioValue value = .ok ())
    (h : value.encode = .ok encoded) :
    decode encoded = .ok value := by
  obtain ⟨-, rfl⟩ := encode_eq_ok.mp h
  obtain ⟨hle, hsame⟩ := withData_of_valid hvalid
  have hlt : value.level.getD 0 < 2 ^ 13 := by omega
  refine decode_eq_ok.mpr ⟨by omega, value.ioClass, ?_, ?_, hvalid⟩
  · rw [Int.toNat_natCast, shift_encoded hlt]
  · rw [decodedData, Int.toNat_natCast, mask_encoded hlt, Nat.mod_eq_of_lt (by omega)]
    exact hsame

/-- The bits of the data that a decoded value does not keep, where the rest is accepted. -/
def DropsBits (encoded : Int) : Prop :=
  0 ≤ encoded ∧
    let linuxClass := encoded.toNat >>> ioprioClassShift
    let data := encoded.toNat &&& ioprioPrioMask
    (linuxClass = 0 ∨ linuxClass = 3) ∧ data ≠ 0 ∨
      (linuxClass = 1 ∨ linuxClass = 2) ∧ 2 ^ 8 ≤ data ∧ data % 2 ^ 8 ≤ 7

/-- A class without a level keeps no bits, one with a level keeps the low eight. -/
theorem withData_keeps (ioClass : IoPrioClass) (data : Nat) :
    (ioClass.withData data).level.getD 0 = data ∧
      (ioClass.linuxClass = 1 ∨ ioClass.linuxClass = 2) ∨
      (ioClass.withData data).level.getD 0 = 0 ∧
        (ioClass.linuxClass = 0 ∨ ioClass.linuxClass = 3) := by
  rcases ioClass with _ | _ | _ | _
  · exact .inr ⟨rfl, .inl rfl⟩
  · exact .inl ⟨rfl, .inl rfl⟩
  · exact .inl ⟨rfl, .inr rfl⟩
  · exact .inr ⟨rfl, .inr rfl⟩

/-- A number is decoded to a value that gives it back, or it has bits that are dropped. -/
theorem kept_iff (h : decode encoded = .ok value) :
    value.encode = .ok encoded ↔ ¬DropsBits encoded := by
  obtain ⟨hpos, ioClass, hlinux, rfl, hvalid⟩ := decode_eq_ok.mp h
  have hsplit := encoded_fields encoded.toNat
  have hle := (withData_of_valid hvalid).1
  have hkeeps := withData_keeps ioClass (decodedData encoded)
  have hclass : (ioClass.withData (decodedData encoded)).ioClass = ioClass := rfl
  rw [encode_eq_ok, and_iff_right hvalid, hclass]
  rw [← hlinux] at hsplit
  generalize hdata : encoded.toNat &&& ioprioPrioMask = data at *
  have hlt : data < 2 ^ 13 := by
    have hmask : encoded.toNat &&& ioprioPrioMask = encoded.toNat % 2 ^ 13 :=
      Nat.and_two_pow_sub_one_eq_mod encoded.toNat 13
    omega
  have hlow : decodedData encoded = data % 2 ^ 8 := by rw [decodedData, hdata]
  generalize (ioClass.withData (decodedData encoded)).level.getD 0 = kept at *
  -- the two numbers have one class, so they are one number where the data is the level kept
  have hsame : encoded = ((ioClass.linuxClass <<< 13 ||| kept : Nat) : Int) ↔ data = kept := by
    constructor
    · intro henc
      rw [← hdata, henc, Int.toNat_natCast, mask_encoded (by omega)]
    · rintro rfl
      omega
  rw [hsame]
  simp only [DropsBits, ← hlinux, hdata]
  omega

/-- Dropped bits do not keep a number from being decoded. -/
theorem decode_of_dropsBits (h : DropsBits encoded) :
    ∃ value, decode encoded = .ok value := by
  obtain ⟨hpos, hdrops⟩ := h
  rcases hdrops with ⟨hclass | hclass, -⟩ | ⟨hclass | hclass, -, hlow⟩
  · exact ⟨_, decode_eq_ok.mpr ⟨hpos, .none, hclass.symm, rfl, validateIoprioValue_ok.mpr rfl⟩⟩
  · exact ⟨_, decode_eq_ok.mpr ⟨hpos, .idle, hclass.symm, rfl, validateIoprioValue_ok.mpr rfl⟩⟩
  · exact ⟨_, decode_eq_ok.mpr ⟨hpos, .realtime, hclass.symm, rfl,
      validateIoprioValue_ok.mpr ⟨_, rfl, hlow⟩⟩⟩
  · exact ⟨_, decode_eq_ok.mpr ⟨hpos, .bestEffort, hclass.symm, rfl,
      validateIoprioValue_ok.mpr ⟨_, rfl, hlow⟩⟩⟩

/-- Values survive the numbers.  A number survives the values, and is decoded exactly if it is an
encoding, unless it has bits that are dropped. -/
theorem codec_inverse_iff (encoded : Int) :
    (∀ value, validateIoprioValue value = .ok () →
      ∃ number, value.encode = .ok number ∧ decode number = .ok value) ∧
    (((∀ value, decode encoded = .ok value → value.encode = .ok encoded) ∧
      ((∃ value, decode encoded = .ok value) ↔
        ∃ value : IoPrioValue, value.encode = .ok encoded)) ↔
      ¬DropsBits encoded) := by
  refine ⟨fun value hvalid => ?_, ?_, ?_⟩
  · have hencode := encode_eq_ok.mpr ⟨hvalid, rfl⟩
    exact ⟨_, hencode, decode_encode hvalid hencode⟩
  · rintro ⟨hkept, -⟩ hdrops
    obtain ⟨value, hdecode⟩ := decode_of_dropsBits hdrops
    exact (kept_iff hdecode).mp (hkept value hdecode) hdrops
  · intro hno
    have hkept : ∀ value, decode encoded = .ok value → value.encode = .ok encoded :=
      fun value hdecode => (kept_iff hdecode).mpr hno
    refine ⟨hkept, ?_, ?_⟩
    · rintro ⟨value, hdecode⟩
      exact ⟨value, hkept value hdecode⟩
    · rintro ⟨value, hencode⟩
      exact ⟨value, decode_encode (encode_eq_ok.mp hencode).1 hencode⟩

end Codec

/-- Best effort with data 260: decoded as level 4, and written back as another number. -/
theorem decode_truncates :
    decode 16644 = .ok ⟨.bestEffort, some 4⟩ ∧
    (⟨.bestEffort, some 4⟩ : IoPrioValue).encode = .ok 16388 ∧
    ¬∀ (encoded : Int) (value : IoPrioValue),
      decode encoded = .ok value → value.encode = .ok encoded := by
  refine ⟨rfl, rfl, fun hkept => ?_⟩
  have hsame := Except.ok.inj (hkept 16644 ⟨.bestEffort, some 4⟩ rfl)
  revert hsame
  decide

end Stutter.Profiles

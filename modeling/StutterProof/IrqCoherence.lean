import StutterProof.IrqAffinity
import StutterProof.TextLaws

/-! # Laws of the IRQ action

`normalize_affinity` strips each group by itself, so two texts are equal for it exactly if they
denote one set in as many groups.  `dry_run` counts what `apply` writes.  `verify` compares texts,
so it does not see a mask that the kernel took and shows in another text. -/
namespace Stutter.Irq

open ActiveConfig (trimmed)
open PlaceValue (places strip value)
open Sysfs (Files IrqAffinityAction Kernel normalizeAffinity pathError)

/-! ## Digits -/

section Digits
variable {c : Char}

theorem toNat_lt_of_isHexDigit (h : isHexDigit c = true) : c.toNat < 128 := by
  simp only [isHexDigit, Char.isDigit, Bool.or_eq_true, Bool.and_eq_true, decide_eq_true_eq,
    Char.le_def, UInt32.le_iff_toNat_le, ge_iff_le] at h
  simp only [Char.toNat]
  have hf : 'f'.val.toNat = 102 := rfl
  have hF : 'F'.val.toNat = 70 := rfl
  have h9 : '9'.val.toNat = 57 := rfl
  omega

/-- What holds of the characters below 128 holds of every digit. -/
theorem forall_isHexDigit {P : Char → Prop}
    (h : ∀ n < 128, isHexDigit (Char.ofNat n) = true → P (Char.ofNat n))
    (hc : isHexDigit c = true) : P c := by
  have hn := h c.toNat (toNat_lt_of_isHexDigit hc)
  rw [Char.ofNat_toNat] at hn
  exact hn hc

theorem hexDigit_lt (h : isHexDigit c = true) : hexDigit c < 16 := by
  refine forall_isHexDigit (P := fun c => hexDigit c < 16) ?_ h
  decide +kernel

theorem toLower_eq (h : isHexDigit c = true) : c.toLower = Nat.digitChar (hexDigit c) := by
  refine forall_isHexDigit (P := fun c => c.toLower = Nat.digitChar (hexDigit c)) ?_ h
  decide +kernel

theorem hexDigit_eq_zero (h : isHexDigit c = true) : hexDigit c = 0 ↔ c = '0' := by
  refine forall_isHexDigit (P := fun c => hexDigit c = 0 ↔ c = '0') ?_ h
  decide +kernel

theorem comma_not_mem {group : List Char} (h : ∀ c ∈ group, isHexDigit c = true) : ',' ∉ group := by
  intro hmem
  have hcomma := h ',' hmem
  revert hcomma
  decide

theorem digitChar_spec {d : Nat} (h : d < 16) :
    isHexDigit (Nat.digitChar d) = true ∧ hexDigit (Nat.digitChar d) = d ∧
    isTrimmed (Nat.digitChar d) = false := by
  revert d
  decide +kernel

end Digits

/-! ## Normalized texts -/

/-- One group of `normalize_affinity`. -/
def normalizePart (group : List Char) : List Char :=
  match group.dropWhile (· = '0') with
  | [] => ['0']
  | rest => rest.map Char.toLower

/-- A number as `normalize_affinity` writes it. -/
def digitsText (digits : List Nat) : List Char :=
  if digits = [] then ['0'] else digits.map Nat.digitChar

open PlaceValue

section Texts
variable {group other : List Char} {text left right : String}

theorem normalizeAffinity_eq (text : String) :
    normalizeAffinity text = String.ofList
      ([','].intercalate ((maskGroups text).map normalizePart)) := rfl

theorem dropWhile_zero (h : ∀ c ∈ group, isHexDigit c = true) :
    (group.dropWhile (· = '0')).map hexDigit = strip (group.map hexDigit) := by
  induction group with
  | nil => rfl
  | cons c group ih =>
    obtain ⟨hc, hgroup⟩ := List.forall_mem_cons.mp h
    have hzero := hexDigit_eq_zero hc
    by_cases h0 : c = '0'
    · rw [List.dropWhile_cons_of_pos (by simpa using h0), ih hgroup, List.map_cons, strip, strip,
        List.dropWhile_cons_of_pos (by simpa using hzero.mpr h0)]
    · rw [List.dropWhile_cons_of_neg (by simpa using h0), List.map_cons, strip,
        List.dropWhile_cons_of_neg (by simpa using fun h => h0 (hzero.mp h))]

theorem normalizePart_eq (h : ∀ c ∈ group, isHexDigit c = true) :
    normalizePart group = digitsText (strip (group.map hexDigit)) := by
  rw [← dropWhile_zero h, normalizePart, digitsText]
  have hkept : ∀ c ∈ group.dropWhile (· = '0'), isHexDigit c = true :=
    fun c hc => h c ((List.dropWhile_suffix _).subset hc)
  rcases hdrop : group.dropWhile (· = '0') with _ | ⟨c, rest⟩
  · rfl
  · rw [if_neg (by simp), List.map_map]
    refine List.map_congr_left fun c hc => ?_
    exact toLower_eq (hkept c (hdrop ▸ hc))

theorem mem_hexDigits_lt (h : ∀ c ∈ group, isHexDigit c = true) :
    ∀ d ∈ group.map hexDigit, d < 16 := by
  intro d hd
  obtain ⟨c, hc, rfl⟩ := List.mem_map.mp hd
  exact hexDigit_lt (h c hc)

/-- Stripped digits are read back from their text. -/
theorem digitsText_injective {digits more : List Nat} (hdigits : ∀ d ∈ digits, d < 16)
    (hmore : ∀ d ∈ more, d < 16) (h : digitsText (strip digits) = digitsText (strip more)) :
    strip digits = strip more := by
  have hread : ∀ {ds : List Nat}, (∀ d ∈ ds, d < 16) → (digitsText (strip ds)).map hexDigit =
      if strip ds = [] then [0] else strip ds := by
    intro ds hds
    rw [digitsText]
    split_ifs with hnil
    · rfl
    · rw [List.map_map]
      refine (List.map_congr_left fun d hd => ?_).trans (List.map_id _)
      exact (digitChar_spec (hds d (mem_of_mem_strip hd))).2.1
  have hsame := congrArg (List.map hexDigit) h
  rw [hread hdigits, hread hmore] at hsame
  have hnot : ∀ {ds : List Nat}, strip ds ≠ [0] := fun heq => head_strip_ne_zero heq rfl
  split_ifs at hsame with h1 h2 h2
  · rw [h1, h2]
  · exact absurd hsame.symm hnot
  · exact absurd hsame hnot
  · exact hsame

/-- A group is told by its number. -/
theorem normalizePart_eq_iff (hgroup : ∀ c ∈ group, isHexDigit c = true)
    (hother : ∀ c ∈ other, isHexDigit c = true) :
    normalizePart group = normalizePart other ↔ hexValue group = hexValue other := by
  have hg := mem_hexDigits_lt hgroup
  have ho := mem_hexDigits_lt hother
  rw [normalizePart_eq hgroup, normalizePart_eq hother, hexValue, hexValue,
    ← strip_eq_iff (by decide) hg ho]
  exact ⟨digitsText_injective hg ho, fun h => by rw [h]⟩

theorem hexValue_lt (h : group.length ≤ 8) (hgroup : ∀ c ∈ group, isHexDigit c = true) :
    hexValue group < 2 ^ 32 := by
  have hlt : hexValue group < 16 ^ (group.map hexDigit).reverse.length :=
    Nat.ofDigits_lt_base_pow_length (by decide) fun d hd =>
      mem_hexDigits_lt hgroup d (List.mem_reverse.mp hd)
  have hle : 16 ^ (group.map hexDigit).reverse.length ≤ 16 ^ 8 := by
    refine Nat.pow_le_pow_right (by decide) ?_
    rw [List.length_reverse, List.length_map]
    exact h
  omega

theorem comma_not_mem_normalizePart (h : ∀ c ∈ group, isHexDigit c = true) :
    ',' ∉ normalizePart group := by
  rw [normalizePart_eq h, digitsText]
  split_ifs
  · decide
  · intro hmem
    obtain ⟨d, hd, hcomma⟩ := List.mem_map.mp hmem
    have hspec := (digitChar_spec (mem_hexDigits_lt h d (mem_of_mem_strip hd))).1
    rw [hcomma] at hspec
    revert hspec
    decide

/-- Two maps that tell the same elements apart tell the same lists apart. -/
theorem map_eq_map_iff_of {α β γ : Type*} {f : α → β} {g : α → γ} {xs ys : List α}
    (h : ∀ x ∈ xs, ∀ y ∈ ys, f x = f y ↔ g x = g y) :
    xs.map f = ys.map f ↔ xs.map g = ys.map g := by
  induction xs generalizing ys with
  | nil => simp [eq_comm]
  | cons x xs ih =>
    rcases ys with _ | ⟨y, ys⟩
    · simp
    · rw [List.map_cons, List.map_cons, List.map_cons, List.map_cons, List.cons.injEq,
        List.cons.injEq, h x List.mem_cons_self y List.mem_cons_self,
        ih fun x hx y hy => h x (List.mem_cons_of_mem _ hx) y (List.mem_cons_of_mem _ hy)]

theorem maskGroups_ne_nil (text : String) : maskGroups text ≠ [] := List.splitOn_ne_nil _ _

/-- Texts compare equal exactly if they denote one set in as many groups. -/
theorem normalizeAffinity_eq_iff (hleft : IsMask left) (hright : IsMask right) :
    normalizeAffinity left = normalizeAffinity right ↔
      maskValue left = maskValue right ∧ (maskGroups left).length = (maskGroups right).length := by
  have hback : ∀ {text : String}, IsMask text →
      ([','].intercalate ((maskGroups text).map normalizePart)).splitOn ',' =
        (maskGroups text).map normalizePart := by
    intro text htext
    refine List.splitOn_intercalate ',' (fun part hpart => ?_) ?_
    · obtain ⟨group, hgroup, rfl⟩ := List.mem_map.mp hpart
      exact comma_not_mem_normalizePart (htext group hgroup).2.2
    · exact fun hnil => maskGroups_ne_nil text (List.map_eq_nil_iff.mp hnil)
  have hparts : normalizeAffinity left = normalizeAffinity right ↔
      (maskGroups left).map normalizePart = (maskGroups right).map normalizePart := by
    rw [normalizeAffinity_eq, normalizeAffinity_eq]
    constructor
    · intro h
      rw [← hback hleft, ← hback hright, String.ofList_injective h]
    · intro h
      rw [h]
  have hvalues : (maskGroups left).map normalizePart = (maskGroups right).map normalizePart ↔
      (maskGroups left).map hexValue = (maskGroups right).map hexValue :=
    map_eq_map_iff_of fun group hgroup other hother =>
      normalizePart_eq_iff (hleft group hgroup).2.2 (hright other hother).2.2
  rw [hparts, hvalues]
  have hlt : ∀ {text : String}, IsMask text → ∀ v ∈ (maskGroups text).map hexValue, v < 2 ^ 32 := by
    intro text htext v hv
    obtain ⟨group, hgroup, rfl⟩ := List.mem_map.mp hv
    exact hexValue_lt (htext group hgroup).2.1 (htext group hgroup).2.2
  constructor
  · intro h
    refine ⟨congrArg (value (2 ^ 32)) h, ?_⟩
    simpa only [List.length_map] using congrArg List.length h
  · rintro ⟨hvalue, hlength⟩
    exact eq_of_value_eq (Nat.one_lt_two_pow (by decide)) (hlt hleft) (hlt hright)
      (by simpa only [List.length_map] using hlength) hvalue

end Texts

/-! ## The kernel's own texts -/

section Shown
variable {cpus mask : Nat}

theorem places_lt {base width number d : Nat} (hbase : 0 < base)
    (h : d ∈ places base width number) : d < base := by
  obtain ⟨i, -, rfl⟩ := List.mem_map.mp h
  exact Nat.mod_lt _ hbase

theorem isHexDigit_of_mem_hexPad {width bits : Nat} {c : Char} (h : c ∈ hexPad width bits) :
    isHexDigit c = true ∧ isTrimmed c = false := by
  obtain ⟨d, hd, rfl⟩ := List.mem_map.mp h
  have hspec := digitChar_spec (places_lt (by decide) hd)
  exact ⟨hspec.1, hspec.2.2⟩

theorem hexValue_hexPad (width bits : Nat) : hexValue (hexPad width bits) = bits % 16 ^ width := by
  rw [hexValue, hexPad, List.map_map]
  have hback : (places 16 width bits).map (hexDigit ∘ Nat.digitChar) = places 16 width bits :=
    (List.map_congr_left fun d hd => (digitChar_spec (places_lt (by decide) hd)).2.1).trans
      (List.map_id _)
  rw [hback, value_places]

theorem leadWidth_bounds (hcpus : 0 < cpus) :
    0 < leadWidth cpus ∧ leadWidth cpus ≤ 8 ∧ 0 < groupCount cpus ∧
    cpus ≤ 32 * (groupCount cpus - 1) + 4 * leadWidth cpus := by
  rw [leadWidth, groupCount]
  split_ifs <;> omega

theorem mem_showGroups (hcpus : 0 < cpus) {group : List Char} (h : group ∈ showGroups cpus mask) :
    ∃ width bits, 0 < width ∧ width ≤ 8 ∧ group = hexPad width bits := by
  obtain ⟨i, -, rfl⟩ := List.mem_map.mp h
  obtain ⟨hpos, hle, -, -⟩ := leadWidth_bounds hcpus
  split_ifs
  · exact ⟨_, _, hpos, hle, rfl⟩
  · exact ⟨8, _, by decide, by decide, rfl⟩

theorem isTrimmed_of_mem_showMask (hcpus : 0 < cpus) :
    ∀ c ∈ (showMask cpus mask).toList, isTrimmed c = false := by
  have hintercalate : ∀ {groups : List (List Char)},
      (∀ group ∈ groups, ∀ c ∈ group, isTrimmed c = false) →
      ∀ c ∈ [','].intercalate groups, isTrimmed c = false := by
    intro groups hgroups c hc
    rcases groups with _ | ⟨first, others⟩
    · exact absurd hc List.not_mem_nil
    rw [TextLaws.intercalate_cons] at hc
    rcases List.mem_append.mp hc with hc | hc
    · exact hgroups first List.mem_cons_self c hc
    obtain ⟨group, hgroup, hin⟩ := List.mem_flatMap.mp hc
    rcases List.mem_cons.mp hin with rfl | hin
    · decide
    · exact hgroups group (List.mem_cons_of_mem _ hgroup) c hin
  intro c hc
  rw [showMask, String.toList_ofList] at hc
  refine hintercalate (fun group hgroup c hc => ?_) c hc
  obtain ⟨width, bits, -, -, rfl⟩ := mem_showGroups hcpus hgroup
  exact (isHexDigit_of_mem_hexPad hc).2

theorem trimmed_showMask (hcpus : 0 < cpus) : trimmed (showMask cpus mask) = showMask cpus mask :=
  TextLaws.trimmed_eq_self (isTrimmed_of_mem_showMask hcpus)

theorem maskGroups_showMask (hcpus : 0 < cpus) :
    maskGroups (showMask cpus mask) = showGroups cpus mask := by
  rw [maskGroups, trimmed_showMask hcpus, showMask, String.toList_ofList, List.splitOn_intercalate]
  · intro group hgroup
    obtain ⟨width, bits, -, -, rfl⟩ := mem_showGroups hcpus hgroup
    exact comma_not_mem fun c hc => (isHexDigit_of_mem_hexPad hc).1
  · obtain ⟨-, -, hcount, -⟩ := leadWidth_bounds hcpus
    intro hnil
    have hlength := congrArg List.length hnil
    simp only [showGroups, List.length_map, List.length_reverse, List.length_range,
      List.length_nil] at hlength
    omega

theorem isMask_showMask (hcpus : 0 < cpus) : IsMask (showMask cpus mask) := by
  rw [IsMask, maskGroups_showMask hcpus]
  intro group hgroup
  obtain ⟨width, bits, hpos, hle, rfl⟩ := mem_showGroups hcpus hgroup
  have hlength : (hexPad width bits).length = width := by simp [hexPad, places]
  refine ⟨?_, by omega, fun c hc => (isHexDigit_of_mem_hexPad hc).1⟩
  intro hnil
  rw [hnil, List.length_nil] at hlength
  omega

theorem length_maskGroups_showMask (hcpus : 0 < cpus) :
    (maskGroups (showMask cpus mask)).length = groupCount cpus := by
  rw [maskGroups_showMask hcpus]
  simp [showGroups]

/-- What the kernel shows denotes the mask. -/
theorem maskValue_showMask (hcpus : 0 < cpus) (hmask : mask < 2 ^ cpus) :
    maskValue (showMask cpus mask) = mask := by
  obtain ⟨-, -, hcount, hbits⟩ := leadWidth_bounds hcpus
  -- the first group has the bits above all others, and they fit its digits
  have hbound : 2 ^ cpus ≤ (2 ^ 32) ^ (groupCount cpus - 1) * 16 ^ leadWidth cpus := by
    have hpow : (2 ^ 32) ^ (groupCount cpus - 1) * 16 ^ leadWidth cpus =
        2 ^ (32 * (groupCount cpus - 1) + 4 * leadWidth cpus) := by
      rw [Nat.pow_add, Nat.pow_mul, Nat.pow_mul]
    rw [hpow]
    exact Nat.pow_le_pow_right (by decide) hbits
  have hlead : mask / (2 ^ 32) ^ (groupCount cpus - 1) < 16 ^ leadWidth cpus :=
    Nat.div_lt_of_lt_mul (hmask.trans_le hbound)
  have hplaces : (showGroups cpus mask).map hexValue = places (2 ^ 32) (groupCount cpus) mask := by
    rw [showGroups, List.map_map, places]
    refine List.map_congr_left fun i hi => ?_
    have hlt : i < groupCount cpus := List.mem_range.mp (List.mem_reverse.mp hi)
    rw [Function.comp_apply, hexValue_hexPad]
    split_ifs with hlast
    · obtain rfl : i = groupCount cpus - 1 := by omega
      exact Nat.mod_eq_of_lt (lt_of_le_of_lt (Nat.mod_le _ _) hlead)
    · exact Nat.mod_mod _ _
  have hle : 2 ^ cpus ≤ (2 ^ 32) ^ groupCount cpus := by
    rw [← Nat.pow_mul]
    refine Nat.pow_le_pow_right (by decide) ?_
    rw [groupCount]
    omega
  rw [maskValue, maskGroups_showMask hcpus, hplaces, value_places]
  exact Nat.mod_eq_of_lt (hmask.trans_le hle)

end Shown

/-! ## One change -/

/-- A request and the host it is made on: the kernel shows the mask that the IRQ has. -/
structure IrqChange where
  request : IrqAffinityRequest
  policy : IrqAffinityPolicy
  dir : IrqDir
  kernel : MaskKernel
  content : String → String
  mask : Nat
  mask_lt : mask < 2 ^ kernel.cpus
  shown : content request.smpAffinityPath = showMask kernel.cpus mask ++ "\n"

namespace IrqChange
variable (change : IrqChange)

def snapshot : Except AnyError IrqAffinitySnapshot :=
  change.request.collectSnapshot change.policy change.dir change.content

def dryRun : Except AnyError ActionState :=
  change.request.dryRunWithPolicy change.policy change.dir change.content

def applied : Except PartialApplyError RollbackToken × Files :=
  change.request.applyWithPolicy change.policy change.dir change.content
    (change.kernel.answers change.request.smpAffinity)

/-- Verified on the files that the apply left. -/
def verified : Except AnyError ActionState :=
  change.request.verifyWithPolicy change.policy change.dir change.applied.2.content

/-- What the kernel shows after it took the request. -/
def shownAfter : String := showMask change.kernel.cpus (maskValue change.request.smpAffinity)

/-- The kernel takes the request, in as many groups as it shows, and shows it as another text. -/
def Reshown : Prop :=
  (∃ snapshot, change.snapshot = .ok snapshot) ∧ change.kernel.Takes change.request.smpAffinity ∧
    change.kernel.readBack = .current ∧
    (maskGroups change.request.smpAffinity).length = groupCount change.kernel.cpus ∧
    trimmed change.request.smpAffinity ≠ change.shownAfter

/-- A dry run counts nothing exactly if the apply writes nothing, both are refused alike, and what
was applied is verified. -/
structure Coherent : Prop where
  dryRun : ∀ state, change.dryRun = .ok state →
    (state.pendingChanges = 0 ↔ change.applied.2.writes = [])
  refused : ∀ error, change.dryRun = .error error →
    change.applied.1 = .error ⟨error, none⟩ ∧ change.applied.2.writes = []
  verified : ∀ token, change.applied.1 = .ok token →
    ∃ state, change.verified = .ok state ∧ state.applied = true

end IrqChange

/-! ## Snapshots -/

open IrqAffinityRequest

section Snapshot
variable {request : IrqAffinityRequest} {policy : IrqAffinityPolicy} {dir : IrqDir}
    {content other : String → String}
variable {snapshot : IrqAffinitySnapshot}

theorem pendingChanges_eq_zero :
    request.pendingChanges snapshot = 0 ↔
      trimmed snapshot.smpAffinity = trimmed request.smpAffinity := by
  rw [pendingChanges]
  by_cases h : trimmed snapshot.smpAffinity = trimmed request.smpAffinity
  · simp [h]
  · simp [h]

theorem dryRun_of_snapshot (h : request.collectSnapshot policy dir content = .ok snapshot) :
    request.dryRunWithPolicy policy dir content =
      .ok ⟨false, request.pendingChanges snapshot, 1, request.pendingChanges snapshot, []⟩ := by
  rw [dryRunWithPolicy, h]
  rfl

theorem verify_of_snapshot (h : request.collectSnapshot policy dir content = .ok snapshot) :
    request.verifyWithPolicy policy dir content =
      .ok ⟨request.pendingChanges snapshot = 0, 1, 1, request.pendingChanges snapshot, []⟩ := by
  rw [verifyWithPolicy, h]
  rfl

theorem currentDeviceHint_eq {hint : String} (h : request.currentDeviceHint dir = .ok hint) :
    hint = request.deviceHint := by
  rw [currentDeviceHint] at h
  rcases hread : readIrqDeviceHint request.irqDir dir with error | found
  · rw [hread] at h
    contradiction
  · simp only [hread] at h
    split_ifs at h with hsame
    obtain rfl := Except.ok.inj h
    exact not_not.mp hsame

/-- A snapshot has the mask as it is shown, and nothing else of the files. -/
theorem collectSnapshot_cases (request : IrqAffinityRequest) (policy : IrqAffinityPolicy)
    (dir : IrqDir) :
    (∃ error, ∀ content, request.collectSnapshot policy dir content = .error error) ∨
    ∀ content, request.collectSnapshot policy dir content =
      .ok ⟨request.irq, request.deviceHint, trimmed (content request.smpAffinityPath)⟩ := by
  rcases hchecked : request.checked policy dir with error | _
  · exact .inl ⟨error, fun content => by rw [collectSnapshot, hchecked]; rfl⟩
  rcases hread : dir.readError with _ | error
  swap
  · exact .inl ⟨pathError ("failed to read " ++ request.smpAffinityPath) error, fun content => by
      rw [collectSnapshot, hchecked, readAffinity, hread]; rfl⟩
  rcases hhint : request.currentDeviceHint dir with error | hint
  · exact .inl ⟨error, fun content => by
      rw [collectSnapshot, hchecked, readAffinity, hread, hhint]; rfl⟩
  obtain rfl : hint = request.deviceHint := currentDeviceHint_eq hhint
  refine .inr fun content => ?_
  rw [collectSnapshot, hchecked, readAffinity, hread, hhint]
  rfl

end Snapshot

/-! ## Applying -/

section Apply
variable {action : IrqAffinityAction} {kernel : Kernel} {content : String → String}

theorem apply_of_same (kernel : Kernel)
    (h : trimmed (trimmed (content action.smpAffinityPath)) = trimmed action.smpAffinity) :
    (∃ token, (action.apply kernel content).1 = .ok token) ∧
      (action.apply kernel content).2 = ⟨content, []⟩ := by
  simp [IrqAffinityAction.apply, h]

/-- A text that is not shown is written. -/
theorem apply_writes (kernel : Kernel)
    (h : trimmed (trimmed (content action.smpAffinityPath)) ≠ trimmed action.smpAffinity) :
    (action.apply kernel content).2.writes ≠ [] := by
  simp only [IrqAffinityAction.apply, h, ne_eq, not_false_eq_true, if_true, Sysfs.writeNoted,
    List.length_nil]
  rcases (kernel 0).write with error | stored
  · simp
  simp only [Sysfs.readTrimmed, List.length_cons, List.length_nil, Nat.zero_add, Nat.sub_self]
  rcases (kernel 0).read with error | _
  · simp
  · simp only [if_true]
    split_ifs <;> simp

theorem apply_of_refused {error : String}
    (h : trimmed (trimmed (content action.smpAffinityPath)) ≠ trimmed action.smpAffinity)
    (hwrite : (kernel 0).write = .refused error) (token : RollbackToken) :
    (action.apply kernel content).1 ≠ .ok token := by
  simp [IrqAffinityAction.apply, h, Sysfs.writeNoted, hwrite]

/-- A text that is taken stays, and is applied where it is read back as the same groups. -/
theorem apply_of_stored {stored : String}
    (h : trimmed (trimmed (content action.smpAffinityPath)) ≠ trimmed action.smpAffinity)
    (hwrite : (kernel 0).write = .stored stored) :
    (action.apply kernel content).2.content action.smpAffinityPath = stored ∧
    ((∃ token, (action.apply kernel content).1 = .ok token) ↔ (kernel 0).read = .current ∧
      normalizeAffinity (trimmed stored) = normalizeAffinity action.smpAffinity) := by
  simp only [IrqAffinityAction.apply, h, ne_eq, not_false_eq_true, if_true, Sysfs.writeNoted,
    List.length_nil, hwrite, Sysfs.readTrimmed, List.length_cons, Nat.zero_add, Nat.sub_self]
  rcases (kernel 0).read with error | _
  · simp
  · simp only [true_and]
    by_cases hsame : normalizeAffinity (trimmed stored) = normalizeAffinity action.smpAffinity
    · simp [hsame]
    · simp [hsame]

end Apply

theorem write_of_takes {kernel : MaskKernel} {text : String} (h : kernel.Takes text) :
    (kernel.answers text 0).write = .stored (showMask kernel.cpus (maskValue text) ++ "\n") := by
  simp only [MaskKernel.answers, MaskKernel.write, if_pos h]

theorem write_of_not_takes {kernel : MaskKernel} {text : String} (h : ¬kernel.Takes text) :
    (kernel.answers text 0).write = .refused
      ((kernel.refusal (maskValue text)).getD "Invalid argument") := by
  simp only [MaskKernel.answers, MaskKernel.write, if_neg h]

/-! ## Coherence -/

namespace IrqChange
variable {change : IrqChange}

theorem trimmed_shown (change : IrqChange) :
    trimmed (change.content change.request.smpAffinityPath) =
      showMask change.kernel.cpus change.mask := by
  rw [change.shown, TextLaws.trimmed_append_newline
    (isTrimmed_of_mem_showMask change.kernel.cpus_pos)]

theorem snapshot_cases (change : IrqChange) :
    (∃ error, ∀ content, change.request.collectSnapshot change.policy change.dir content =
      .error error) ∨
    ∀ content, change.request.collectSnapshot change.policy change.dir content =
      .ok ⟨change.request.irq, change.request.deviceHint,
        trimmed (content change.request.smpAffinityPath)⟩ :=
  collectSnapshot_cases change.request change.policy change.dir

theorem applied_eq (h : ∃ snapshot, change.snapshot = .ok snapshot) :
    change.applied = change.request.toIrqAffinityAction.apply
      (change.kernel.answers change.request.smpAffinity)
      change.content := by
  obtain ⟨found, hfound⟩ := h
  rw [IrqChange.snapshot] at hfound
  rw [applied, applyWithPolicy, hfound]

theorem trimmed_shownAfter (change : IrqChange) :
    trimmed (change.shownAfter ++ "\n") = change.shownAfter :=
  TextLaws.trimmed_append_newline (isTrimmed_of_mem_showMask change.kernel.cpus_pos)

theorem original_eq_iff (change : IrqChange) :
    trimmed (trimmed (change.content change.request.smpAffinityPath)) =
      trimmed change.request.smpAffinity ↔
      showMask change.kernel.cpus change.mask = trimmed change.request.smpAffinity := by
  rw [change.trimmed_shown, trimmed_showMask change.kernel.cpus_pos]

/-- A dry run and a verify compare texts. -/
theorem dryRun_eq (h : ∀ content, change.request.collectSnapshot change.policy change.dir content =
      .ok ⟨change.request.irq, change.request.deviceHint,
        trimmed (content change.request.smpAffinityPath)⟩) :
    ∃ state, change.dryRun = .ok state ∧
      (state.pendingChanges = 0 ↔
        showMask change.kernel.cpus change.mask = trimmed change.request.smpAffinity) := by
  rw [dryRun, dryRun_of_snapshot (h change.content)]
  refine ⟨_, rfl, ?_⟩
  dsimp only
  rw [pendingChanges_eq_zero, change.original_eq_iff]

theorem verified_eq (h : ∀ content,
    change.request.collectSnapshot change.policy change.dir content =
      .ok ⟨change.request.irq, change.request.deviceHint,
        trimmed (content change.request.smpAffinityPath)⟩) :
    ∃ state, change.verified = .ok state ∧ (state.applied = true ↔
      trimmed (trimmed (change.applied.2.content change.request.smpAffinityPath)) =
        trimmed change.request.smpAffinity) := by
  rw [verified, verify_of_snapshot (h change.applied.2.content)]
  refine ⟨_, rfl, ?_⟩
  dsimp only
  rw [decide_eq_true_iff, pendingChanges_eq_zero]

/-- A request that is shown already is the kernel's own text. -/
theorem shownAfter_of_same
    (h : showMask change.kernel.cpus change.mask = trimmed change.request.smpAffinity) :
    change.shownAfter = trimmed change.request.smpAffinity := by
  have hgroups : maskGroups change.request.smpAffinity =
      maskGroups (showMask change.kernel.cpus change.mask) := by
    rw [maskGroups, ← h, maskGroups, trimmed_showMask change.kernel.cpus_pos]
  rw [shownAfter, maskValue, hgroups, ← maskValue,
    maskValue_showMask change.kernel.cpus_pos change.mask_lt, h]

/-- The read-back of a text that was taken compares equal exactly if it has as many groups. -/
theorem normalize_shownAfter_iff (h : change.kernel.Takes change.request.smpAffinity) :
    normalizeAffinity change.shownAfter = normalizeAffinity change.request.smpAffinity ↔
      (maskGroups change.request.smpAffinity).length = groupCount change.kernel.cpus := by
  obtain ⟨hmask, -, hlt, -⟩ := h
  rw [shownAfter, normalizeAffinity_eq_iff (isMask_showMask change.kernel.cpus_pos) hmask,
    maskValue_showMask change.kernel.cpus_pos hlt,
    length_maskGroups_showMask change.kernel.cpus_pos,
    and_iff_right rfl, eq_comm]

/-- The operations are coherent unless the kernel shows what it took as another text of as many
groups. -/
theorem coherent_iff (change : IrqChange) : change.Coherent ↔ ¬change.Reshown := by
  rcases change.snapshot_cases with ⟨error, herror⟩ | hok
  · have hno : ¬change.Reshown := by
      rintro ⟨⟨found, hfound⟩, -⟩
      rw [IrqChange.snapshot, herror] at hfound
      contradiction
    have hdry : change.dryRun = .error error := by
      rw [dryRun, dryRunWithPolicy, herror]
      rfl
    have happlied : change.applied = (.error ⟨error, none⟩, ⟨change.content, []⟩) := by
      rw [applied, applyWithPolicy, herror]
    refine iff_of_true ⟨fun state h => ?_, fun other h => ?_, fun token h => ?_⟩ hno
    · rw [hdry] at h
      contradiction
    · obtain rfl := Except.error.inj (hdry.symm.trans h)
      rw [happlied]
      exact ⟨rfl, rfl⟩
    · rw [happlied] at h
      contradiction
  have hsnapshot : ∃ found, change.snapshot = .ok found := ⟨_, hok change.content⟩
  obtain ⟨state, hdry, hpending⟩ := dryRun_eq hok
  obtain ⟨after, hverified, hafter⟩ := verified_eq hok
  have hrefused : ∀ error, change.dryRun ≠ .error error := by
    intro error h
    rw [hdry] at h
    contradiction
  by_cases hsame : showMask change.kernel.cpus change.mask = trimmed change.request.smpAffinity
  · -- nothing is written, so the file shows the request afterwards
    obtain ⟨-, hfiles⟩ := apply_of_same (change.kernel.answers change.request.smpAffinity)
      (change.original_eq_iff.mpr hsame)
    rw [← applied_eq hsnapshot] at hfiles
    refine iff_of_true ⟨fun other h => ?_, fun error h => absurd h (hrefused error),
      fun token h => ?_⟩ ?_
    · obtain rfl := Except.ok.inj (hdry.symm.trans h)
      rw [hpending, hfiles]
      exact iff_of_true hsame rfl
    · refine ⟨after, hverified, hafter.mpr ?_⟩
      rw [hfiles]
      exact change.original_eq_iff.mpr hsame
    · rintro ⟨-, -, -, -, hne⟩
      exact hne (shownAfter_of_same hsame).symm
  have hdiffers := fun h => hsame (change.original_eq_iff.mp h)
  have hwrites := apply_writes (change.kernel.answers change.request.smpAffinity) hdiffers
  rw [← applied_eq hsnapshot] at hwrites
  have hrest : (∀ token, change.applied.1 = .ok token →
      ∃ state, change.verified = .ok state ∧ state.applied = true) ↔
      ¬change.Reshown := by
    by_cases htakes : change.kernel.Takes change.request.smpAffinity
    · have hwrite : (change.kernel.answers change.request.smpAffinity 0).write =
          .stored (change.shownAfter ++ "\n") := write_of_takes htakes
      obtain ⟨hcontent, htoken⟩ := apply_of_stored hdiffers hwrite
      rw [← applied_eq hsnapshot] at hcontent htoken
      rw [change.trimmed_shownAfter, normalize_shownAfter_iff htakes] at htoken
      have htrimmed : trimmed change.shownAfter = change.shownAfter :=
        trimmed_showMask change.kernel.cpus_pos
      rw [hcontent, change.trimmed_shownAfter, htrimmed] at hafter
      constructor
      · rintro hall ⟨-, -, hread, hlength, hne⟩
        obtain ⟨token, happlied⟩ := htoken.mpr ⟨hread, hlength⟩
        obtain ⟨other, hother, htrue⟩ := hall token happlied
        obtain rfl := Except.ok.inj (hverified.symm.trans hother)
        exact hne (hafter.mp htrue).symm
      · intro hno token happlied
        obtain ⟨hread, hlength⟩ := htoken.mp ⟨token, happlied⟩
        refine ⟨after, hverified, hafter.mpr ?_⟩
        by_contra hne
        exact hno ⟨hsnapshot, htakes, hread, hlength, fun h => hne h.symm⟩
    · have hwrite : (change.kernel.answers change.request.smpAffinity 0).write =
          .refused ((change.kernel.refusal (maskValue change.request.smpAffinity)).getD
            "Invalid argument") :=
        write_of_not_takes htakes
      have hnone := apply_of_refused hdiffers hwrite
      rw [← applied_eq hsnapshot] at hnone
      exact iff_of_true (fun token h => absurd h (hnone token)) fun h => htakes h.2.1
  rw [← hrest]
  constructor
  · exact fun h => h.verified
  · refine fun h => ⟨fun other hother => ?_, fun error h => absurd h (hrefused error), h⟩
    obtain rfl := Except.ok.inj (hdry.symm.trans hother)
    exact iff_of_false (fun hzero => hsame (hpending.mp hzero)) hwrites

end IrqChange

/-! ## Masks and changes -/

/-- Masks compare equal as they denote sets, and every change is coherent, exactly where no two
texts denote one set in different numbers of groups and no taken mask is shown as another text. -/
theorem irqAffinity_coherent_iff (left right : String) (changes : List IrqChange) :
    ((IsMask left → IsMask right → (normalizeAffinity left = normalizeAffinity right ↔
      maskValue left = maskValue right)) ∧
      ∀ change ∈ changes, change.Coherent) ↔
    (¬(IsMask left ∧ IsMask right ∧ maskValue left = maskValue right ∧
        (maskGroups left).length ≠ (maskGroups right).length) ∧
      ∀ change ∈ changes, ¬change.Reshown) := by
  refine and_congr ⟨?_, ?_⟩ (forall₂_congr fun change _ => change.coherent_iff)
  · rintro hall ⟨hleft, hright, hvalue, hlength⟩
    have hsame := (hall hleft hright).mpr hvalue
    exact hlength ((normalizeAffinity_eq_iff hleft hright).mp hsame).2
  · intro hno hleft hright
    rw [normalizeAffinity_eq_iff hleft hright]
    refine ⟨fun h => h.1, fun hvalue => ⟨hvalue, ?_⟩⟩
    by_contra hlength
    exact hno ⟨hleft, hright, hvalue, hlength⟩

/-- CPU 1 for an IRQ that has CPU 0, on a host with eight CPUs: the kernel shows `02`. -/
def unpaddedChange : IrqChange where
  request :=
    ⟨⟨"/proc/irq", 44, "amdgpu", "2"⟩, .reversibleMediumRisk,
      ⟨true, true, true, some 44, some "amdgpu"⟩⟩
  policy := ⟨true, false, true, true, true⟩
  dir := ⟨true, true, none, none, some "amdgpu", none⟩
  kernel := ⟨8, by decide, fun _ => none, .current⟩
  content := fun _ => showMask 8 1 ++ "\n"
  mask := 1
  mask_lt := by decide
  shown := rfl

theorem unpaddedChange_not_verified :
    ¬unpaddedChange.Coherent ∧
    ¬(normalizeAffinity "00000000,0000000f" = normalizeAffinity "f" ↔
      maskValue "00000000,0000000f" = maskValue "f") := by
  have hgroups : maskGroups unpaddedChange.request.smpAffinity = [['2']] := by decide +kernel
  have htakes : unpaddedChange.kernel.Takes unpaddedChange.request.smpAffinity := by
    refine ⟨fun group hgroup => ?_, by decide +kernel, ?_, rfl⟩
    · rw [hgroups] at hgroup
      obtain rfl := List.mem_singleton.mp hgroup
      refine ⟨List.cons_ne_nil _ _, by decide, fun c hc => ?_⟩
      obtain rfl := List.mem_singleton.mp hc
      rfl
    · have hvalue : maskValue unpaddedChange.request.smpAffinity = 2 := by
        rw [maskValue, hgroups]
        rfl
      rw [hvalue]
      exact Nat.lt_of_lt_of_eq (by omega : 2 < 256) rfl
  have hreshown : unpaddedChange.Reshown := by
    refine ⟨?_, htakes, rfl, by decide +kernel, by decide +kernel⟩
    exact ⟨⟨44, "amdgpu", "01"⟩, by rfl⟩
  exact ⟨fun h => unpaddedChange.coherent_iff.mp h hreshown, by decide +kernel⟩

end Stutter.Irq

import StutterProof.Retention

/-! # What retention keeps

`Swept` says once what any pass does: it parts its runs into removed ones, none of them protected,
and kept ones.  Each pass adds what it leaves (`agePass_spec`, `countPass_spec`, `bytesPass_spec`),
and a later pass only removes more. -/
namespace Stutter.Retention

variable {Path : Type} [LinearOrder Path] {root : Root Path} {protectedPath : Option Path}

/-! ## Every pass -/

/-- The counters are those of what was removed. -/
structure Ledger.Counted (ledger : Ledger Path) : Prop where
  runs : ledger.deletedRuns = ledger.attempts.length
  bytes : ledger.deletedBytes = min maxU64 (totalBytes ledger.attempts)

omit [LinearOrder Path] in
theorem totalBytes_append (runs more : Runs Path) :
    totalBytes (runs ++ more) = totalBytes runs + totalBytes more := by
  rw [totalBytes, List.map_append, List.sum_append]
  rfl

omit [LinearOrder Path] in
theorem totalBytes_perm {runs others : Runs Path} (h : runs.Perm others) :
    totalBytes runs = totalBytes others := List.Perm.sum_nat (h.map _)

omit [LinearOrder Path] in
theorem Ledger.Counted.count {ledger : Ledger Path} (h : ledger.Counted) (run : RetentionRun Path) :
    ((ledger.attempt run).count run).Counted := by
  refine ⟨?_, ?_⟩
  · change ledger.deletedRuns + 1 = (ledger.attempts ++ [run]).length
    rw [List.length_append, List.length_singleton, h.runs]
  · change min maxU64 (ledger.deletedBytes + run.sizeBytes) =
      min maxU64 (totalBytes (ledger.attempts ++ [run]))
    have hone : totalBytes [run] = run.sizeBytes := Nat.add_zero _
    rw [totalBytes_append, hone, h.bytes]
    omega

/-- What a pass did to its runs. -/
structure Swept (root : Root Path) (protectedPath : Option Path) (runs : Runs Path)
    (ledger after : Ledger Path) (result : Except String (Runs Path))
    (gone : Runs Path) : Prop where
  attempts : after.attempts = ledger.attempts ++ gone
  unprotected : ∀ run ∈ gone, root.pathIsProtected run.path protectedPath = false
  parted : ∀ kept, result = .ok kept → runs.Perm (gone ++ kept)
  counted : ∀ kept, result = .ok kept → ledger.Counted → after.Counted

variable (runs : Runs Path)

theorem Swept.none (ledger : Ledger Path) {kept : Runs Path}
    (hperm : runs.Perm kept) : Swept root protectedPath runs ledger ledger (.ok kept) [] where
  attempts := (List.append_nil _).symm
  unprotected := fun _ h => absurd h List.not_mem_nil
  parted := fun other h => by
    obtain rfl := Except.ok.inj h
    exact hperm
  counted := fun _ _ h => h

section Sweep

variable {σ : Type} {condemns : σ → RetentionRun Path → Bool}
    {next : σ → RetentionRun Path → Bool → σ}
variable {run : RetentionRun Path}

/-- A run that goes. -/
theorem sweep_condemned {state : σ} (rest : Runs Path) (ledger : Ledger Path)
    (hcondemned : condemns state run = true)
    (hprotected : root.pathIsProtected run.path protectedPath = false) :
    sweep root protectedPath condemns next state (run :: rest) ledger =
      match root.deleteRun run with
      | .error error => (ledger.attempt run, .error error)
      | .ok () =>
        sweep root protectedPath condemns next (next state run true) rest
          ((ledger.attempt run).count run) := by
  have hgoes : (condemns state run && !root.pathIsProtected run.path protectedPath) = true := by
    rw [hcondemned, hprotected]
    rfl
  rw [sweep]
  exact if_pos hgoes

/-- A run that stays. -/
theorem sweep_spared {state : σ} (rest : Runs Path) (ledger : Ledger Path)
    (h : condemns state run = false ∨ root.pathIsProtected run.path protectedPath = true) :
    sweep root protectedPath condemns next state (run :: rest) ledger =
      ((sweep root protectedPath condemns next (next state run false) rest ledger).1,
        (sweep root protectedPath condemns next (next state run false) rest ledger).2.map
          (run :: ·)) := by
  have hcond : (condemns state run && !root.pathIsProtected run.path protectedPath) = false := by
    rcases h with h | h
    · rw [h, Bool.false_and]
    · rw [h, Bool.not_true, Bool.and_false]
  rw [sweep, if_neg (by rw [hcond]; exact Bool.false_ne_true)]

omit [LinearOrder Path] in
theorem map_cons_eq_ok {result : Except String (Runs Path)} {kept : Runs Path}
    (h : result.map (run :: ·) = .ok kept) :
    ∃ others, result = .ok others ∧ kept = run :: others := by
  cases result with
  | error error => cases h
  | ok others => exact ⟨others, rfl, (Except.ok.inj h).symm⟩

/-- What a pass did, and any relation between its runs and those that go and stay which holds run by
run. -/
theorem sweep_spec (P : σ → Runs Path → Runs Path → Runs Path → Prop)
    (nil : ∀ state, P state [] [] [])
    (goes : ∀ state run rest gone kept, condemns state run = true → rest.Perm (gone ++ kept) →
      P (next state run true) rest gone kept → P state (run :: rest) (run :: gone) kept)
    (stays : ∀ state run rest gone kept,
      condemns state run = false ∨ root.pathIsProtected run.path protectedPath = true →
      rest.Perm (gone ++ kept) → P (next state run false) rest gone kept →
        P state (run :: rest) gone (run :: kept))
    (state : σ) (runs : Runs Path) (ledger : Ledger Path) :
    ∃ gone, Swept root protectedPath runs ledger
      (sweep root protectedPath condemns next state runs ledger).1
      (sweep root protectedPath condemns next state runs ledger).2 gone ∧
      ∀ kept, (sweep root protectedPath condemns next state runs ledger).2 = .ok kept →
        P state runs gone kept := by
  induction runs generalizing state ledger with
  | nil =>
    refine ⟨[], Swept.none [] ledger (List.Perm.refl []), fun kept hkept => ?_⟩
    obtain rfl := Except.ok.inj hkept
    exact nil state
  | cons run rest ih =>
    by_cases hgoes : condemns state run = true ∧ root.pathIsProtected run.path protectedPath = false
    · rw [sweep_condemned rest ledger hgoes.1 hgoes.2]
      have hunprotected : ∀ {gone : Runs Path},
          (∀ other ∈ gone, root.pathIsProtected other.path protectedPath = false) →
          ∀ other ∈ run :: gone, root.pathIsProtected other.path protectedPath = false := by
        intro gone hgone other hother
        rcases List.mem_cons.mp hother with rfl | hother
        · exact hgoes.2
        · exact hgone other hother
      cases root.deleteRun run with
      | error error =>
        have hone := hunprotected fun _ h => absurd h List.not_mem_nil
        refine ⟨[run], ⟨rfl, hone, fun _ h => ?_, fun _ h => ?_⟩, fun _ h => ?_⟩
        · cases h
        · cases h
        · cases h
      | ok _ =>
        obtain ⟨gone, hswept, hP⟩ := ih (next state run true) ((ledger.attempt run).count run)
        refine ⟨run :: gone,
          ⟨?_, hunprotected hswept.unprotected, fun kept hkept => ?_,
          fun kept hkept hcounted => ?_⟩,
          fun kept hkept => ?_⟩
        · rw [hswept.attempts]
          exact List.append_assoc _ _ _
        · exact (hswept.parted kept hkept).cons run
        · exact hswept.counted kept hkept (hcounted.count run)
        · exact goes state run rest gone kept hgoes.1 (hswept.parted kept hkept) (hP kept hkept)
    · have hstays : condemns state run = false ∨
          root.pathIsProtected run.path protectedPath = true := by
        by_cases hcondemned : condemns state run = true
        · exact .inr (Bool.not_eq_false _ ▸ fun h => hgoes ⟨hcondemned, h⟩)
        · exact .inl (Bool.not_eq_true _ ▸ hcondemned)
      rw [sweep_spared rest ledger hstays]
      obtain ⟨gone, hswept, hP⟩ := ih (next state run false) ledger
      refine ⟨gone, ⟨hswept.attempts, hswept.unprotected, fun kept hkept => ?_,
        fun kept hkept => ?_⟩,
        fun kept hkept => ?_⟩
      · obtain ⟨others, hothers, rfl⟩ := map_cons_eq_ok hkept
        exact ((hswept.parted others hothers).cons run).trans List.perm_middle.symm
      · obtain ⟨others, hothers, -⟩ := map_cons_eq_ok hkept
        exact hswept.counted others hothers
      · obtain ⟨others, hothers, rfl⟩ := map_cons_eq_ok hkept
        exact stays state run rest gone others hstays (hswept.parted others hothers)
          (hP others hothers)

end Sweep

/-! ## The three limits -/

/-- No run that is kept and not protected is older than one that went. -/
def NoneOlder (root : Root Path) (protectedPath : Option Path) (gone kept : Runs Path) : Prop :=
  ∀ run ∈ kept, root.pathIsProtected run.path protectedPath = false →
    ∀ other ∈ gone, other.modified ≤ run.modified

def unprotectedCount (root : Root Path) (protectedPath : Option Path) (runs : Runs Path) : Nat :=
  runs.countP fun run => !root.pathIsProtected run.path protectedPath

/-- A pass does what `Swept` says, and its result has some relation to its runs. -/
def Pass.Spec (root : Root Path) (protectedPath : Option Path) (pass : Pass Path)
    (Q : Runs Path → Runs Path → Runs Path → Prop) : Prop :=
  ∀ runs ledger, ∃ gone, Swept root protectedPath runs ledger (pass runs ledger).1
    (pass runs ledger).2 gone ∧
    ∀ kept, (pass runs ledger).2 = .ok kept → Q runs gone kept

theorem agePass_spec (now : Int) (maxAgeSeconds : Nat) :
    Pass.Spec root protectedPath (agePass root protectedPath now maxAgeSeconds) fun _ gone kept =>
      (∀ run ∈ gone, expired now maxAgeSeconds run = true) ∧
        ∀ run ∈ kept, root.pathIsProtected run.path protectedPath = false →
          expired now maxAgeSeconds run = false := by
  intro runs ledger
  refine sweep_spec (fun _ _ gone kept => (∀ run ∈ gone, expired now maxAgeSeconds run = true) ∧
    ∀ run ∈ kept, root.pathIsProtected run.path protectedPath = false →
      expired now maxAgeSeconds run = false)
    ?_ ?_ ?_ () runs ledger
  · exact fun _ => ⟨fun _ h => absurd h List.not_mem_nil, fun _ h => absurd h List.not_mem_nil⟩
  · rintro - run rest gone kept hexpired - ⟨hgone, hkept⟩
    refine ⟨fun other hother => ?_, hkept⟩
    rcases List.mem_cons.mp hother with rfl | hother
    · exact hexpired
    · exact hgone other hother
  · rintro - run rest gone kept hstays - ⟨hgone, hkept⟩
    refine ⟨hgone, fun other hother hunprotected => ?_⟩
    rcases List.mem_cons.mp hother with rfl | hother
    · rcases hstays with hstays | hstays
      · exact hstays
      · rw [hunprotected] at hstays
        contradiction
    · exact hkept other hother hunprotected

theorem countPass_spec (maxRunCount : Nat) :
    Pass.Spec root protectedPath (countPass root protectedPath maxRunCount) fun runs gone kept =>
      runs.Pairwise (fun a b => b.modified ≤ a.modified) →
        NoneOlder root protectedPath gone kept ∧
          unprotectedCount root protectedPath kept ≤ maxRunCount := by
  intro runs ledger
  -- from an index on, only what is left of the count stays unprotected
  refine sweep_spec (fun index runs gone kept =>
    runs.Pairwise (fun a b => b.modified ≤ a.modified) →
    NoneOlder root protectedPath gone kept ∧
      unprotectedCount root protectedPath kept ≤ maxRunCount - index)
    ?_ ?_ ?_ 0 runs ledger
  · exact fun _ _ => ⟨fun _ h => absurd h List.not_mem_nil, Nat.zero_le _⟩
  · rintro index run rest gone kept hcondemned - hrest hsorted
    obtain ⟨-, hcount⟩ := hrest (List.pairwise_cons.mp hsorted).2
    have hfull : maxRunCount ≤ index := of_decide_eq_true hcondemned
    have hnone : unprotectedCount root protectedPath kept = 0 := by omega
    refine ⟨fun other hother hunprotected => ?_, by omega⟩
    have hprotected := List.countP_eq_zero.mp hnone other hother
    rw [hunprotected] at hprotected
    contradiction
  · rintro index run rest gone kept hstays hperm hrest hsorted
    obtain ⟨hnewest, hsorted⟩ := List.pairwise_cons.mp hsorted
    obtain ⟨holder, hcount⟩ := hrest hsorted
    refine ⟨fun other hother hunprotected gone' hgone => ?_, ?_⟩
    · rcases List.mem_cons.mp hother with rfl | hother
      · exact hnewest gone' (hperm.mem_iff.mpr (List.mem_append_left _ hgone))
      · exact holder other hother hunprotected gone' hgone
    · rw [unprotectedCount, List.countP_cons]
      rw [unprotectedCount] at hcount
      by_cases hprotected : root.pathIsProtected run.path protectedPath = true
      · rw [if_neg (by rw [hprotected]; exact Bool.false_ne_true)]
        omega
      · have hbelow : ¬maxRunCount ≤ index := of_decide_eq_false (hstays.resolve_right hprotected)
        split <;> omega

omit [LinearOrder Path] in
theorem totalBytes_cons (run : RetentionRun Path) (runs : Runs Path) :
    totalBytes (run :: runs) = run.sizeBytes + totalBytes runs := List.sum_cons

/-- What the oldest-first pass leaves, when the total is what was kept before and what is ahead. -/
def LeavesBytes (root : Root Path) (protectedPath : Option Path) (maxTotalBytes total : Nat)
    (runs gone kept : Runs Path) : Prop :=
  ∀ base, total = base + totalBytes runs → runs.Pairwise (fun a b => a.modified ≤ b.modified) →
    NoneOlder root protectedPath gone kept ∧
    (base + totalBytes kept ≤ maxTotalBytes ∨ ∀ run ∈ kept,
      root.pathIsProtected run.path protectedPath = true) ∧
    (total ≤ maxTotalBytes → gone = [])

theorem sweepBytes_spec (maxTotalBytes total : Nat) :
    Pass.Spec root protectedPath (sweepBytes root protectedPath maxTotalBytes total)
      (LeavesBytes root protectedPath maxTotalBytes total) := by
  intro runs ledger
  refine sweep_spec (LeavesBytes root protectedPath maxTotalBytes) ?_ ?_ ?_ total runs ledger
  · exact fun total base _ _ =>
      ⟨fun _ h => absurd h List.not_mem_nil, .inr fun _ h => absurd h List.not_mem_nil,
        fun _ => rfl⟩
  · intro total run rest gone kept hcondemned hperm hrest base htotal hsorted
    obtain ⟨holdest, hsorted⟩ := List.pairwise_cons.mp hsorted
    rw [totalBytes_cons] at htotal
    have hafter : totalAfter total run true = base + totalBytes rest := by
      rw [totalAfter, if_pos rfl]
      omega
    obtain ⟨holder, hbound, -⟩ := hrest base hafter hsorted
    have habove : maxTotalBytes < total := of_decide_eq_true hcondemned
    refine ⟨fun other hother hunprotected removed hremoved => ?_, hbound, fun h => by omega⟩
    rcases List.mem_cons.mp hremoved with rfl | hremoved
    · exact holdest other (hperm.mem_iff.mpr (List.mem_append_right _ hother))
    · exact holder other hother hunprotected removed hremoved
  · intro total run rest gone kept hstays hperm hrest base htotal hsorted
    rw [totalBytes_cons] at htotal
    have hafter : totalAfter total run false = base + run.sizeBytes + totalBytes rest := by
      rw [totalAfter, if_neg Bool.false_ne_true]
      omega
    obtain ⟨holder, hbound, hnone⟩ :=
      hrest (base + run.sizeBytes) hafter (List.pairwise_cons.mp hsorted).2
    by_cases hbelow : total ≤ maxTotalBytes
    · obtain rfl := hnone (by omega)
      have hrest_eq : totalBytes rest = totalBytes kept := totalBytes_perm hperm
      refine ⟨fun _ _ _ _ h => absurd h List.not_mem_nil, .inl ?_, fun _ => rfl⟩
      rw [totalBytes_cons]
      omega
    · have hprotected :=
        hstays.resolve_left fun h => hbelow (Nat.le_of_not_lt (of_decide_eq_false h))
      refine ⟨fun other hother hunprotected => ?_, ?_, fun h => absurd h hbelow⟩
      · rcases List.mem_cons.mp hother with rfl | hother
        · rw [hunprotected] at hprotected
          contradiction
        · exact holder other hother hunprotected
      · rcases hbound with hbound | hall
        · refine .inl ?_
          rw [totalBytes_cons]
          omega
        · exact .inr (List.forall_mem_cons.mpr ⟨hprotected, hall⟩)

/-! ## Sorting -/

theorem sortNewestFirst_perm : (sortNewestFirst runs).Perm runs :=
  List.mergeSort_perm runs newestFirst

theorem sortOldestFirst_perm : (sortOldestFirst runs).Perm runs :=
  List.mergeSort_perm runs oldestFirst

/-- Sorting by a key, and by the path among equals. -/
theorem pairwise_mergeSort_key {le : RetentionRun Path → RetentionRun Path → Bool}
    (key : RetentionRun Path → Int)
    (hle : ∀ a b, le a b = true ↔ key a < key b ∨ key a = key b ∧ a.path ≤ b.path)
    (runs : Runs Path) :
    (runs.mergeSort le).Pairwise fun a b => key a ≤ key b := by
  have hsorted : (runs.mergeSort le).Pairwise fun a b => le a b = true := by
    refine List.pairwise_mergeSort (fun a b c hab hbc => ?_) (fun a b => ?_) runs
    · rw [hle] at *
      rcases hab with hab | ⟨hab, hpath⟩
      · exact .inl (by omega)
      · rcases hbc with hbc | ⟨hbc, hnext⟩
        · exact .inl (by omega)
        · exact .inr ⟨hab.trans hbc, hpath.trans hnext⟩
    · rw [Bool.or_eq_true, hle, hle]
      rcases lt_trichotomy (key a) (key b) with h | h | h
      · exact .inl (.inl h)
      · exact (le_total a.path b.path).imp (fun hpath => .inr ⟨h, hpath⟩) fun hpath =>
          .inr ⟨h.symm, hpath⟩
      · exact .inr (.inl h)
  refine hsorted.imp fun {a b} h => ?_
  rcases (hle a b).mp h with h | ⟨h, -⟩
  · exact h.le
  · exact h.le

theorem pairwise_sortNewestFirst :
    (sortNewestFirst runs).Pairwise fun a b => b.modified ≤ a.modified := by
  have hkey : ∀ a b : RetentionRun Path, newestFirst a b = true ↔
      -a.modified < -b.modified ∨ -a.modified = -b.modified ∧ a.path ≤ b.path := fun a b => by
    simp [newestFirst]
  exact (pairwise_mergeSort_key (fun run => -run.modified) hkey runs).imp fun h =>
    Int.neg_le_neg_iff.mp h

theorem pairwise_sortOldestFirst :
    (sortOldestFirst runs).Pairwise fun a b => a.modified ≤ b.modified :=
  pairwise_mergeSort_key (fun run => run.modified) (fun a b => by simp [oldestFirst]) runs

/-! ## One pass after another -/

theorem Swept.perm {runs others : Runs Path} {ledger after : Ledger Path}
    {result : Except String (Runs Path)} {gone : Runs Path}
    (h : Swept root protectedPath others ledger after result gone) (hperm : runs.Perm others) :
    Swept root protectedPath runs ledger after result gone where
  attempts := h.attempts
  unprotected := h.unprotected
  parted := fun kept hkept => hperm.trans (h.parted kept hkept)
  counted := h.counted

theorem Pass.Spec.andThen {first second : Pass Path}
    {Q R : Runs Path → Runs Path → Runs Path → Prop} (hfirst : Pass.Spec root protectedPath first Q)
    (hsecond : Pass.Spec root protectedPath second R) :
    Pass.Spec root protectedPath (first.andThen second) fun runs gone kept =>
      ∃ early middle late, gone = early ++ late ∧ Q runs early middle ∧
        middle.Perm (late ++ kept) ∧ R middle late kept := by
  intro runs ledger
  obtain ⟨early, hswept, hQ⟩ := hfirst runs ledger
  rw [Pass.andThen]
  rcases hrun : first runs ledger with ⟨between, error | middle⟩
  · rw [hrun] at hswept
    refine ⟨early, ⟨hswept.attempts, hswept.unprotected, fun _ h => ?_, fun _ h => ?_⟩,
      fun _ h => ?_⟩
    · cases h
    · cases h
    · cases h
  · rw [hrun] at hswept hQ
    obtain ⟨late, hnext, hR⟩ := hsecond middle between
    refine ⟨early ++ late,
      ⟨?_, fun run hrun => ?_, fun kept hkept => ?_, fun kept hkept hcounted => ?_⟩,
      fun kept hkept => ⟨early, middle, late, rfl, hQ middle rfl, hnext.parted kept hkept,
        hR kept hkept⟩⟩
    · rw [hnext.attempts, hswept.attempts, List.append_assoc]
    · exact (List.mem_append.mp hrun).elim (hswept.unprotected run) (hnext.unprotected run)
    · rw [List.append_assoc]
      exact (hswept.parted middle rfl).trans ((hnext.parted kept hkept).append_left early)
    · exact hnext.counted kept hkept (hswept.counted middle rfl hcounted)

/-- A pass that may be left out: where it is, what it would have left holds of no limit. -/
theorem Pass.Spec.ifSome {limit : Option Nat} {pass : Nat → Pass Path}
    {Q : Nat → Runs Path → Runs Path → Runs Path → Prop}
    (h : ∀ n, Pass.Spec root protectedPath (pass n) (Q n)) :
    Pass.Spec root protectedPath (Pass.ifSome limit pass) fun runs gone kept =>
      (limit = none → gone = [] ∧ runs = kept) ∧ ∀ n, limit = some n → Q n runs gone kept := by
  cases limit with
  | none =>
    intro runs ledger
    refine ⟨[], Swept.none runs ledger (List.Perm.refl runs),
      fun kept hkept => ⟨fun _ => ?_, fun n hn => ?_⟩⟩
    · exact ⟨rfl, Except.ok.inj hkept⟩
    · cases hn
  | some n =>
    intro runs ledger
    obtain ⟨gone, hswept, hQ⟩ := h n runs ledger
    refine ⟨gone, hswept, fun kept hkept => ⟨fun hnone => ?_, fun m hm => ?_⟩⟩
    · cases hnone
    · obtain rfl := Option.some.inj hm
      exact hQ kept hkept

theorem sort_spec :
    Pass.Spec root protectedPath (fun runs ledger => (ledger, .ok (sortNewestFirst runs)))
    fun runs gone kept => gone = [] ∧ kept = sortNewestFirst runs := fun runs ledger =>
  ⟨[], Swept.none runs ledger (sortNewestFirst_perm runs).symm,
    fun _ hkept => ⟨rfl, (Except.ok.inj hkept).symm⟩⟩

theorem bytesPass_spec (maxTotalBytes : Nat) :
    Pass.Spec root protectedPath (bytesPass root protectedPath maxTotalBytes) fun runs gone kept =>
      totalBytes runs ≤ maxU64 → NoneOlder root protectedPath gone kept ∧
        (totalBytes kept ≤ maxTotalBytes ∨ ∀ run ∈ kept,
          root.pathIsProtected run.path protectedPath = true) := by
  intro runs ledger
  have hspec : Pass.Spec root protectedPath _ _ :=
    sweepBytes_spec maxTotalBytes (totalBytes runs % (maxU64 + 1))
  obtain ⟨gone, hswept, hleaves⟩ := hspec (sortOldestFirst runs) ledger
  refine ⟨gone, hswept.perm (sortOldestFirst_perm runs).symm, fun kept hkept hfits => ?_⟩
  have htotal : totalBytes runs % (maxU64 + 1) = 0 + totalBytes (sortOldestFirst runs) := by
    rw [Nat.mod_eq_of_lt (by omega), totalBytes_perm (sortOldestFirst_perm runs), Nat.zero_add]
  obtain ⟨holder, hbound, -⟩ := hleaves kept hkept 0 htotal (pairwise_sortOldestFirst runs)
  rw [Nat.zero_add] at hbound
  exact ⟨holder, hbound⟩

omit [LinearOrder Path] in
theorem expired_of_older {now : Int} {maxAgeSeconds : Nat} {run other : RetentionRun Path}
    (h : expired now maxAgeSeconds other = true) (holder : run.modified ≤ other.modified) :
    expired now maxAgeSeconds run = true := by
  simp only [expired, Bool.and_eq_true, decide_eq_true_eq] at h ⊢
  omega

theorem unprotectedCount_perm {runs gone kept : Runs Path} (h : runs.Perm (gone ++ kept)) :
    unprotectedCount root protectedPath kept ≤ unprotectedCount root protectedPath runs := by
  rw [unprotectedCount, unprotectedCount, h.countP_eq, List.countP_append]
  omega

theorem prune_spec (policy : RecordingRetentionPolicy) (now : Int) :
    Pass.Spec root protectedPath (prune root protectedPath policy now) fun runs gone kept =>
      totalBytes runs ≤ maxU64 → NoneOlder root protectedPath gone kept ∧
        (∀ n, policy.maxRunCount = some n → unprotectedCount root protectedPath kept ≤ n) ∧
        ∀ n, policy.maxTotalBytes = some n →
          totalBytes kept ≤ n ∨ ∀ run ∈ kept,
            root.pathIsProtected run.path protectedPath = true := by
  intro runs ledger
  obtain ⟨gone, hswept, hparts⟩ := (Pass.Spec.ifSome (agePass_spec now)).andThen
    (sort_spec.andThen ((Pass.Spec.ifSome countPass_spec).andThen
      (Pass.Spec.ifSome bytesPass_spec))) runs ledger
  refine ⟨gone, hswept, fun kept hkept hfits => ?_⟩
  obtain ⟨byAge, young, rest, rfl, hage, hyoung, -, sorted, late, rfl, ⟨rfl, rfl⟩, hsorted, byCount,
    counted, byBytes, rfl, hcount, hcounted, hbytes⟩ := hparts kept hkept
  have hin_counted : ∀ run ∈ kept, run ∈ counted :=
    fun run h => hcounted.mem_iff.mpr (List.mem_append_right _ h)
  have hin_young : ∀ run ∈ kept, run ∈ young := fun run h =>
    hyoung.mem_iff.mpr (List.mem_append_right _ h)
  have hparted := hswept.parted kept hkept
  have hfits_counted : totalBytes counted ≤ maxU64 := by
    have htotal := totalBytes_perm hparted
    rw [totalBytes_append, totalBytes_append, totalBytes_append, totalBytes_append] at htotal
    rw [totalBytes_perm hcounted, totalBytes_append]
    omega
  refine ⟨fun run hrun hunprotected other hother => ?_, fun n hn => ?_, fun n hn => ?_⟩
  · have hwhich : other ∈ byAge ∨ other ∈ byCount ∨ other ∈ byBytes := by
      simpa only [List.nil_append, List.mem_append] using hother
    rcases hwhich with hother | hother | hother
    · cases hlimit : policy.maxAgeSeconds with
      | none =>
        rw [(hage.1 hlimit).1] at hother
        cases hother
      | some n =>
        obtain ⟨hgone, hstays⟩ := hage.2 n hlimit
        have hfresh := hstays run (hin_young run hrun) hunprotected
        by_contra hlt
        rw [expired_of_older (hgone other hother) (Int.le_of_lt (Int.not_le.mp hlt))] at hfresh
        contradiction
    · cases hlimit : policy.maxRunCount with
      | none =>
        rw [(hcount.1 hlimit).1] at hother
        cases hother
      | some n =>
        have holder := (hcount.2 n hlimit (pairwise_sortNewestFirst young)).1
        exact holder run (hin_counted run hrun) hunprotected other hother
    · cases hlimit : policy.maxTotalBytes with
      | none =>
        rw [(hbytes.1 hlimit).1] at hother
        cases hother
      | some n => exact (hbytes.2 n hlimit hfits_counted).1 run hrun hunprotected other hother
  · exact (unprotectedCount_perm hcounted).trans (hcount.2 n hn (pairwise_sortNewestFirst young)).2
  · exact (hbytes.2 n hn hfits_counted).2

/-! ## The runs of a root directory -/

omit [LinearOrder Path] in
theorem discoverEntries_paths {listing : List (Except String (Entry Path))} {runs : Runs Path}
    (h : discoverEntries listing = .ok runs) :
    (runs.map (·.path)).Sublist
      (((listing.filterMap Except.toOption).filter (·.isDir)).map (·.path)) := by
  induction listing generalizing runs with
  | nil =>
    obtain rfl := Except.ok.inj h
    exact List.Sublist.refl _
  | cons entry listing ih =>
    cases entry with
    | error error => cases h
    | ok entry =>
      rw [discoverEntries] at h
      rw [List.filterMap_cons_some (by rfl)]
      by_cases hdir : entry.isDir = true
      · rw [List.filter_cons_of_pos hdir, List.map_cons]
        split at h
        · exact (ih h).cons entry.path
        · cases hsize : entry.size with
          | error error =>
            rw [hsize] at h
            cases h
          | ok size =>
            rw [hsize] at h
            obtain ⟨others, hothers, rfl⟩ : ∃ others, discoverEntries listing = .ok others ∧
                runs = ⟨entry.path, entry.modified.getD 0, size⟩ :: others := map_cons_eq_ok h
            exact (ih hothers).cons_cons entry.path
      · rw [List.filter_cons_of_neg hdir]
        have hskipped : (!entry.isDir || !looksLikeStutterRunDir entry) = true := by
          rw [Bool.not_eq_true] at hdir
          rw [hdir]
          rfl
        rw [if_pos hskipped] at h
        exact ih h

namespace Root

omit [LinearOrder Path] in
theorem paths_nodup {runs : Runs Path} (h : root.discoverRetentionRuns = .ok runs) :
    (runs.map (·.path)).Nodup := by
  rw [discoverRetentionRuns] at h
  cases hread : root.readDir with
  | error error =>
    rw [hread] at h
    cases h
  | ok listing =>
    rw [hread] at h
    have hnodup : ((listing.filterMap Except.toOption).map (·.path)).Nodup :=
      List.pairwise_map.mpr (root.entries_distinct listing hread)
    exact (hnodup.sublist (List.filter_sublist.map _)).sublist (discoverEntries_paths h)

omit [LinearOrder Path] in
theorem mem_listing {runs : Runs Path} (h : root.discoverRetentionRuns = .ok runs) :
    ∃ listing, root.readDir = .ok listing ∧ ∀ run ∈ runs,
      ∃ entry ∈ listing.filterMap Except.toOption, entry.isDir = true ∧ entry.path = run.path := by
  rw [discoverRetentionRuns] at h
  cases hread : root.readDir with
  | error error =>
    rw [hread] at h
    cases h
  | ok listing =>
    rw [hread] at h
    refine ⟨listing, rfl, fun run hrun => ?_⟩
    obtain ⟨entry, hentry, hpath⟩ := List.mem_map.mp
      ((discoverEntries_paths h).subset (List.mem_map_of_mem hrun))
    exact ⟨entry, (List.mem_filter.mp hentry).1, (List.mem_filter.mp hentry).2, hpath⟩

theorem eq_of_protected {path : Path} {protectedPath : Option Path}
    (h : root.pathIsProtected path protectedPath = true) :
    ∃ resolved, protectedPath = some resolved ∧ root.canonicalize path = some resolved := by
  cases protectedPath with
  | none => cases h
  | some resolved =>
    rw [pathIsProtected] at h
    cases hcanonical : root.canonicalize path with
    | none =>
      rw [hcanonical] at h
      cases h
    | some other =>
      rw [hcanonical] at h
      exact ⟨resolved, rfl, congrArg some (beq_iff_eq.mp h)⟩

/-- At most one run is protected. -/
theorem protected_le_one {runs : Runs Path} (h : root.discoverRetentionRuns = .ok runs)
    (protectedPath : Option Path) :
    (runs.filter fun run => root.pathIsProtected run.path protectedPath).length ≤ 1 := by
  obtain ⟨listing, hread, hlisted⟩ := mem_listing h
  have hnodup : ((runs.filter fun run => root.pathIsProtected run.path protectedPath).map
      (·.path)).Nodup :=
    (paths_nodup h).sublist (List.filter_sublist.map _)
  have hall : ∀ run ∈ runs.filter fun run => root.pathIsProtected run.path protectedPath,
      run ∈ runs ∧ root.pathIsProtected run.path protectedPath = true :=
        fun run => List.mem_filter.mp
  generalize runs.filter (fun run => root.pathIsProtected run.path protectedPath) =
    shielded at hnodup hall ⊢
  match shielded with
  | [] => exact Nat.zero_le 1
  | [_] => exact Nat.le_refl 1
  | first :: second :: rest =>
    obtain ⟨hfirst, hshielded⟩ := hall first List.mem_cons_self
    obtain ⟨hsecond, hshielded'⟩ := hall second (List.mem_cons_of_mem _ List.mem_cons_self)
    obtain ⟨resolved, rfl, hcanonical⟩ := eq_of_protected hshielded
    obtain ⟨_, heq, hcanonical'⟩ := eq_of_protected hshielded'
    obtain rfl := Option.some.inj heq
    obtain ⟨a, ha, hadir, hapath⟩ := hlisted first hfirst
    obtain ⟨b, hb, hbdir, hbpath⟩ := hlisted second hsecond
    rw [← hapath] at hcanonical
    rw [← hbpath] at hcanonical'
    have hsame :=
      root.canonical_distinct listing hread a ha b hb hadir hbdir _ hcanonical hcanonical'
    rw [hapath, hbpath] at hsame
    rw [List.map_cons, List.map_cons, List.nodup_cons] at hnodup
    exact absurd (hsame ▸ List.mem_cons_self) hnodup.1

/-- The runs that a call looks at. -/
def scanned (root : Root Path) (policy : RecordingRetentionPolicy) : Runs Path :=
  if !policy.hasPruneBudget || !root.found then [] else root.discoverRetentionRuns.toOption.getD []

end Root

/-! ## Calls that complete -/

/-- The listing and the sizes of the runs can be read, and a run can be removed. -/
structure Root.Accessible (root : Root Path) : Prop where
  listed : ∃ listing, root.readDir = .ok listing ∧
    ∀ answer ∈ listing, ∃ entry size, answer = .ok entry ∧ entry.size = .ok size
  removed : ∀ path, root.removeDirAll path = .ok ()

/-- A pass that no removal stops. -/
def Pass.Completes (pass : Pass Path) : Prop :=
  ∀ runs ledger, ∃ kept, (pass runs ledger).2 = .ok kept

theorem sweep_completes {σ : Type} {condemns : σ → RetentionRun Path → Bool}
    {next : σ → RetentionRun Path → Bool → σ} (hremoved : ∀ path, root.removeDirAll path = .ok ())
    (state : σ) : Pass.Completes (sweep root protectedPath condemns next state) := by
  intro runs
  induction runs generalizing state with
  | nil => exact fun _ => ⟨[], rfl⟩
  | cons run rest ih =>
    intro ledger
    by_cases hgoes : condemns state run = true ∧
        root.pathIsProtected run.path protectedPath = false
    · have hdeleted : root.deleteRun run = .ok () := by
        rw [Root.deleteRun, hremoved]
        rfl
      rw [sweep_condemned rest ledger hgoes.1 hgoes.2, hdeleted]
      exact ih _ _
    · have hstays : condemns state run = false ∨
          root.pathIsProtected run.path protectedPath = true := by
        rw [not_and_or, Bool.not_eq_true, Bool.not_eq_false] at hgoes
        exact hgoes
      obtain ⟨kept, hkept⟩ := ih (next state run false) ledger
      rw [sweep_spared rest ledger hstays, hkept]
      exact ⟨run :: kept, rfl⟩

omit [LinearOrder Path] in
theorem Pass.Completes.ifSome {limit : Option Nat} {pass : Nat → Pass Path}
    (h : ∀ n, (pass n).Completes) : (Pass.ifSome limit pass).Completes := by
  cases limit with
  | none => exact fun runs _ => ⟨runs, rfl⟩
  | some n => exact h n

omit [LinearOrder Path] in
theorem Pass.Completes.andThen {first second : Pass Path} (hfirst : first.Completes)
    (hsecond : second.Completes) : (first.andThen second).Completes := by
  intro runs ledger
  obtain ⟨middle, hmiddle⟩ := hfirst runs ledger
  rw [Pass.andThen]
  rcases hrun : first runs ledger with ⟨between, result⟩
  rw [hrun] at hmiddle
  obtain rfl : result = .ok middle := hmiddle
  exact hsecond middle between

theorem prune_completes (hremoved : ∀ path, root.removeDirAll path = .ok ())
    (policy : RecordingRetentionPolicy) (now : Int) :
    (prune root protectedPath policy now).Completes := by
  have hage : ∀ n, (agePass root protectedPath now n).Completes := fun n =>
    sweep_completes hremoved ()
  have hcount : ∀ n, (countPass root protectedPath n).Completes := fun n =>
    sweep_completes hremoved 0
  have hbytes : ∀ n, (bytesPass root protectedPath n).Completes := fun n runs ledger =>
    sweep_completes hremoved (totalBytes runs % (maxU64 + 1)) (sortOldestFirst runs) ledger
  have hsort : Pass.Completes fun (runs : Runs Path) ledger =>
      (ledger, .ok (sortNewestFirst runs)) := fun runs _ => ⟨sortNewestFirst runs, rfl⟩
  exact (Pass.Completes.ifSome hage).andThen
    (hsort.andThen ((Pass.Completes.ifSome hcount).andThen (Pass.Completes.ifSome hbytes)))

omit [LinearOrder Path] in
theorem discoverEntries_completes {listing : List (Except String (Entry Path))}
    (h : ∀ answer ∈ listing, ∃ entry size, answer = .ok entry ∧ entry.size = .ok size) :
    ∃ runs, discoverEntries listing = .ok runs := by
  induction listing with
  | nil => exact ⟨[], rfl⟩
  | cons answer listing ih =>
    obtain ⟨entry, size, rfl, hsize⟩ := h answer List.mem_cons_self
    obtain ⟨runs, hruns⟩ := ih fun other hother => h other (List.mem_cons_of_mem _ hother)
    rw [discoverEntries, hruns, hsize]
    split
    · exact ⟨runs, rfl⟩
    · exact ⟨_, rfl⟩

/-- Where everything can be read and removed, a call succeeds. -/
theorem Root.Accessible.completes (h : root.Accessible) (policy : RecordingRetentionPolicy)
    (protectedPath : Option Path) (now : Int) :
    ∃ summary, (applyRecordingRetention root policy protectedPath now).2 = .ok summary := by
  rw [applyRecordingRetention]
  split
  · exact ⟨{}, rfl⟩
  · obtain ⟨listing, hread, hlisting⟩ := h.listed
    obtain ⟨runs, hruns⟩ := discoverEntries_completes hlisting
    have hcompletes : (prune root (protectedPath.bind root.canonicalize) policy now).Completes :=
      prune_completes h.removed policy now
    obtain ⟨kept, hkept⟩ := hcompletes runs {}
    rw [Root.discoverRetentionRuns, hread]
    dsimp only
    rw [hruns]
    dsimp only
    rcases hpruned : prune root (protectedPath.bind root.canonicalize) policy now runs {} with
      ⟨ledger, result⟩
    rw [hpruned] at hkept
    obtain rfl : result = .ok kept := hkept
    exact ⟨_, rfl⟩

/-! ## A call -/

/-- The runs that are left. -/
def left (runs attempts : Runs Path) : Runs Path :=
  runs.filter fun run => run ∉ attempts

theorem left_perm {runs gone kept : Runs Path} (hnodup : runs.Nodup)
    (h : runs.Perm (gone ++ kept)) :
    (left runs gone).Perm kept := by
  have hdisjoint := List.nodup_append.mp (h.nodup_iff.mp hnodup)
  have hgone : gone.filter (fun run => run ∉ gone) = [] :=
    List.filter_eq_nil_iff.mpr fun run hrun => by simpa using hrun
  have hkept : kept.filter (fun run => run ∉ gone) = kept :=
    List.filter_eq_self.mpr fun run hrun => by
      simpa using fun hgone => hdisjoint.2.2 run hgone run hrun rfl
  have hfilter := h.filter fun run => decide (run ∉ gone)
  rw [List.filter_append, hgone, hkept, List.nil_append] at hfilter
  exact hfilter

/-- What a call that succeeds did to its runs. -/
structure Retained (root : Root Path) (policy : RecordingRetentionPolicy)
    (protectedPath : Option Path)
    (runs attempts : Runs Path) (summary : RecordingRetentionSummary) : Prop where
  scanned : summary.scannedRuns = runs.length
  conserved : summary.deletedRuns + summary.remainingRuns = summary.scannedRuns
  deleted : attempts ⊆ runs ∧ summary.deletedRuns = attempts.length ∧
    summary.deletedBytes = totalBytes attempts
  remaining : summary.remainingRuns = (left runs attempts).length ∧
    summary.remainingBytes = totalBytes (left runs attempts)
  newest : NoneOlder root protectedPath attempts (left runs attempts)
  count : ∀ n, policy.maxRunCount = some n → (left runs attempts).length ≤
    n + ((left runs attempts).filter fun run => root.pathIsProtected run.path protectedPath).length
  shielded : ((left runs attempts).filter fun run =>
    root.pathIsProtected run.path protectedPath).length ≤ 1
  bytes : ∀ n, policy.maxTotalBytes = some n → totalBytes (left runs attempts) ≤ n ∨
    ∀ run ∈ left runs attempts, root.pathIsProtected run.path protectedPath = true

theorem length_eq_unprotected_add (root : Root Path) (protectedPath : Option Path)
    (runs : Runs Path) :
    runs.length =
    unprotectedCount root protectedPath runs +
      (runs.filter fun run => root.pathIsProtected run.path protectedPath).length := by
  have hsplit :=
    List.length_eq_countP_add_countP (fun run => root.pathIsProtected run.path protectedPath)
      (l := runs)
  rw [unprotectedCount, ← List.countP_eq_length_filter, hsplit, Nat.add_comm]
  congr 1
  refine List.countP_congr fun run _ => ?_
  simp

/-- A call never asks to remove the protected run, a call that succeeds keeps its limits, and a call
succeeds where the runs can be read and removed. -/
theorem applyRecordingRetention_retains (root : Root Path) (policy : RecordingRetentionPolicy)
    (protectedPath : Option Path) (now : Int)
    (hsizes : ∀ runs, root.discoverRetentionRuns = .ok runs →
      totalBytes runs < 18446744073709551616) :
    (∀ run ∈ (applyRecordingRetention root policy protectedPath now).1.attempts,
      root.pathIsProtected run.path (protectedPath.bind root.canonicalize) = false) ∧
    (∀ summary, (applyRecordingRetention root policy protectedPath now).2 = .ok summary →
      Retained root policy (protectedPath.bind root.canonicalize) (root.scanned policy)
        (applyRecordingRetention root policy protectedPath now).1.attempts summary) ∧
    (root.Accessible →
      ∃ summary, (applyRecordingRetention root policy protectedPath now).2 = .ok summary) := by
  rw [← and_assoc]
  refine ⟨?_, fun h => h.completes policy protectedPath now⟩
  by_cases hearly : (!policy.hasPruneBudget || !root.found) = true
  · have hcall : applyRecordingRetention root policy protectedPath now = ({}, .ok {}) := by
      rw [applyRecordingRetention, if_pos hearly]
    have hscanned : root.scanned policy = [] := by rw [Root.scanned, if_pos hearly]
    rw [hcall, hscanned]
    refine ⟨fun _ h => absurd h List.not_mem_nil, fun summary hsummary => ?_⟩
    obtain rfl := Except.ok.inj hsummary
    exact ⟨rfl, rfl, ⟨List.nil_subset _, rfl, rfl⟩, ⟨rfl, rfl⟩,
      fun _ h => absurd h List.not_mem_nil, fun _ _ => Nat.zero_le _, Nat.zero_le _,
      fun _ _ => .inl (Nat.zero_le _)⟩
  · rw [applyRecordingRetention, if_neg hearly]
    cases hruns : root.discoverRetentionRuns with
    | error error =>
      refine ⟨fun _ h => absurd h List.not_mem_nil, fun _ h => ?_⟩
      cases h
    | ok runs =>
      have hscanned : root.scanned policy = runs := by
        rw [Root.scanned, if_neg hearly, hruns]
        rfl
      have hfits : totalBytes runs ≤ maxU64 := Nat.le_of_lt_succ (hsizes runs hruns)
      have hnodup : runs.Nodup := (root.paths_nodup hruns).of_map
      have hspec : Pass.Spec root (protectedPath.bind root.canonicalize) _ _ :=
        prune_spec policy now
      obtain ⟨gone, hswept, hkeeps⟩ := hspec runs {}
      have hattempts := hswept.attempts
      rw [hscanned]
      dsimp only
      rcases hpruned : prune root (protectedPath.bind root.canonicalize) policy now runs {} with
        ⟨ledger, error | kept⟩
      · rw [hpruned] at hattempts hswept
        obtain rfl : ledger.attempts = gone := hattempts
        refine ⟨hswept.unprotected, fun _ h => ?_⟩
        cases h
      · rw [hpruned] at hattempts hswept hkeeps
        obtain rfl : ledger.attempts = gone := hattempts
        obtain ⟨hnewest, hcount, hbytes⟩ := hkeeps kept rfl hfits
        have hparted := hswept.parted kept rfl
        have hleft := left_perm hnodup hparted
        have hcounted : ledger.Counted := hswept.counted kept rfl ⟨rfl, rfl⟩
        have hlength : runs.length = ledger.attempts.length + kept.length := by
          rw [hparted.length_eq, List.length_append]
        have htotal : totalBytes runs = totalBytes ledger.attempts + totalBytes kept := by
          rw [totalBytes_perm hparted, totalBytes_append]
        refine ⟨hswept.unprotected, fun summary hsummary => ?_⟩
        obtain rfl := Except.ok.inj hsummary
        exact {
          scanned := rfl
          conserved := by
            dsimp only
            rw [hcounted.runs, hlength]
          deleted := by
            refine ⟨fun run hrun => hparted.mem_iff.mpr (List.mem_append_left _ hrun),
              hcounted.runs, ?_⟩
            change ledger.deletedBytes = totalBytes ledger.attempts
            rw [hcounted.bytes]
            exact Nat.min_eq_right (by omega)
          remaining := by
            refine ⟨hleft.length_eq.symm, ?_⟩
            dsimp only
            rw [totalBytes_perm hleft, Nat.mod_eq_of_lt (by omega)]
          newest := fun run hrun => hnewest run (hleft.mem_iff.mp hrun)
          count := fun n hn => by
            rw [length_eq_unprotected_add root (protectedPath.bind root.canonicalize)]
            refine Nat.add_le_add_right (le_trans (Nat.le_of_eq ?_) (hcount n hn)) _
            exact hleft.countP_eq _
          shielded := by
            refine le_trans (List.Sublist.length_le (List.filter_sublist.filter _))
              (root.protected_le_one hruns _)
          bytes := fun n hn => by
            rw [totalBytes_perm hleft]
            exact (hbytes n hn).imp_right fun hall run hrun => hall run (hleft.mem_iff.mp hrun) }

/-- Three runs, the oldest of them protected. -/
def sampleRoot : Root Nat where
  path := 0
  found := true
  readDir := .ok [.ok ⟨1, some "run", true, true, false, some 10, .ok 40⟩,
    .ok ⟨2, some "run", true, true, false, some 20, .ok 30⟩,
    .ok ⟨3, some "run", true, true, false, some 30, .ok 20⟩]
  canonicalize := some
  removeDirAll := fun _ => .ok ()
  display := fun path => toString path
  entries_distinct := fun _ h => by
    obtain rfl := Except.ok.inj h
    decide
  canonical_distinct := fun _ _ a _ b _ _ _ path ha hb => Option.some.inj (ha.trans hb.symm)

/-- Of the three runs the limits leave at most two. -/
theorem applyRecordingRetention_sample :
    ∃ summary, (applyRecordingRetention sampleRoot ⟨some 1, some 50, none, none⟩ (some 1) 40).2 =
        .ok summary ∧
      summary.scannedRuns = 3 ∧ 0 < summary.deletedRuns ∧
      (applyRecordingRetention sampleRoot ⟨some 1, some 50, none, none⟩ (some 1) 40).1.attempts ≠
        [] ∧
      Retained sampleRoot ⟨some 1, some 50, none, none⟩ ((some 1).bind sampleRoot.canonicalize)
        (sampleRoot.scanned ⟨some 1, some 50, none, none⟩)
        (applyRecordingRetention sampleRoot ⟨some 1, some 50, none, none⟩ (some 1) 40).1.attempts
        summary := by
  obtain ⟨-, hretains, hcompletes⟩ := applyRecordingRetention_retains sampleRoot
    ⟨some 1, some 50, none, none⟩ (some 1) 40 fun runs hruns => by
      obtain rfl : [⟨1, 10, 40⟩, ⟨2, 20, 30⟩, ⟨3, 30, 20⟩] = runs := Except.ok.inj hruns
      decide
  have haccessible : sampleRoot.Accessible :=
    ⟨⟨_, rfl, by simp [Except.ok.injEq]⟩, fun _ => rfl⟩
  obtain ⟨summary, hsummary⟩ := hcompletes haccessible
  have hretained := hretains summary hsummary
  have hscanned : summary.scannedRuns = 3 := hretained.scanned
  have hdeleted : 0 < summary.deletedRuns := by
    have hcount := hretained.count 1 rfl
    have hshielded := hretained.shielded
    have hconserved := hretained.conserved
    have hremaining := hretained.remaining.1
    omega
  refine ⟨summary, hsummary, hscanned, hdeleted, fun hnone => ?_, hretained⟩
  have hlength := hretained.deleted.2.1
  rw [hnone, List.length_nil] at hlength
  omega

end Stutter.Retention

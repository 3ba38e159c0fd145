import Mathlib.Data.Finset.Basic
import Mathlib.Data.Finset.Lattice.Basic
import Mathlib.Data.List.Pairwise
import Mathlib.Order.Lattice

/-! # Roots that claim what is below them

Roots are taken one after the other.  One that an earlier root's set has in it is passed by, one
that has no set is too, and each other is formed.

Where what is covered by a root covers no more than the root does, a root is formed exactly if no
greater one covers it, formed or not (`mem_formed`), so whether the sets that come out are disjoint
can be read off the roots (`formed_disjoint_iff`). -/
namespace ClaimLoop

variable {α κ : Type*} [DecidableEq α] [LinearOrder κ]
variable {members : α → Option (Finset α)} {key : α → κ} {roots : List α} {used : Finset α}

/-- The roots that are formed, each with its set. -/
def formed (members : α → Option (Finset α)) : Finset α → List α → List (α × Finset α)
  | _, [] => []
  | used, root :: roots =>
    if root ∈ used then formed members used roots
    else
      match members root with
      | none => formed members used roots
      | some found => (root, found) :: formed members (used ∪ found) roots

/-- The pid is in the root's set. -/
def Covers (members : α → Option (Finset α)) (root x : α) : Prop :=
  ∃ found, members root = some found ∧ x ∈ found

/-- The root has a set and no greater one covers it. -/
def Stands (members : α → Option (Finset α)) (key : α → κ) (roots : List α) (root : α) : Prop :=
  root ∈ roots ∧ (members root).isSome ∧ ∀ other ∈ roots, key root < key other →
    ¬Covers members other root

variable {root : α}

/-! ## The turns -/

theorem formed_used (h : root ∈ used) :
    formed members used (root :: roots) = formed members used roots :=
  if_pos h

theorem formed_none (hused : root ∉ used) (h : members root = none) :
    formed members used (root :: roots) = formed members used roots := by
  rw [formed, if_neg hused, h]

theorem formed_some {found : Finset α} (hused : root ∉ used) (h : members root = some found) :
    formed members used (root :: roots) = (root, found) :: formed members (used ∪ found) roots := by
  rw [formed, if_neg hused, h]

/-- What is formed has its own set. -/
theorem members_of_formed {pair : α × Finset α} (h : pair ∈ formed members used roots) :
    pair.1 ∈ roots ∧ pair.1 ∉ used ∧ members pair.1 = some pair.2 := by
  induction roots generalizing used with
  | nil => contradiction
  | cons root roots ih =>
    by_cases hused : root ∈ used
    · rw [formed_used hused] at h
      obtain ⟨hmem, hrest⟩ := ih h
      exact ⟨List.mem_cons_of_mem _ hmem, hrest⟩
    rcases hfound : members root with _ | found
    · rw [formed_none hused hfound] at h
      obtain ⟨hmem, hrest⟩ := ih h
      exact ⟨List.mem_cons_of_mem _ hmem, hrest⟩
    rw [formed_some hused hfound] at h
    rcases List.mem_cons.mp h with rfl | h
    · exact ⟨List.mem_cons_self, hused, hfound⟩
    · obtain ⟨hmem, hnot, hset⟩ := ih h
      exact ⟨List.mem_cons_of_mem _ hmem, fun hin => hnot (Finset.mem_union_left _ hin), hset⟩

/-! ## Which are formed -/

/-- Every set that is used up has what its members cover. -/
def Closed (members : α → Option (Finset α)) (used : Finset α) : Prop :=
  ∀ root ∈ used, ∀ x, Covers members root x → x ∈ used

theorem Closed.union (hclosed : Closed members used)
    (hcovers : ∀ root other x, Covers members root other → Covers members other x →
      Covers members root x)
    {found : Finset α} (h : members root = some found) : Closed members (used ∪ found) := by
  intro other hother x hx
  rcases Finset.mem_union.mp hother with hother | hother
  · exact Finset.mem_union_left _ (hclosed other hother x hx)
  · obtain ⟨same, hsame, hin⟩ := hcovers root other x ⟨found, h, hother⟩ hx
    obtain rfl := Option.some.inj (h.symm.trans hsame)
    exact Finset.mem_union_right _ hin

/-- The induction is on the roots, greatest first: what is used up so far is closed, and a root that
was passed by covers nothing that is not used up. -/
theorem mem_formed (hsorted : roots.Pairwise fun left right => key right < key left)
    (hcovers : ∀ root other x, Covers members root other → Covers members other x →
      Covers members root x)
    (hclosed : Closed members used) :
    root ∈ (formed members used roots).map Prod.fst ↔
      Stands members key roots root ∧ root ∉ used := by
  induction roots generalizing used with
  | nil =>
    constructor
    · nofun
    · rintro ⟨⟨hmem, -⟩, -⟩
      contradiction
  | cons first rest ih =>
    obtain ⟨hfirst, hrest⟩ := List.pairwise_cons.mp hsorted
    have hself : Stands members key (first :: rest) first ↔ (members first).isSome := by
      refine ⟨fun h => h.2.1, fun hsome =>
        ⟨List.mem_cons_self, hsome, fun other hother hless => ?_⟩⟩
      rcases List.mem_cons.mp hother with rfl | hother
      · exact absurd hless (lt_irrefl _)
      · exact absurd hless (hfirst other hother).not_gt
    have hlater : ∀ {x}, x ∈ rest →
        (Stands members key (first :: rest) x ↔
          Stands members key rest x ∧ ¬Covers members first x) := by
      intro x hx
      constructor
      · rintro ⟨-, hsome, hnone⟩
        exact ⟨⟨hx, hsome, fun other hother => hnone other (List.mem_cons_of_mem _ hother)⟩,
          hnone first List.mem_cons_self (hfirst x hx)⟩
      · rintro ⟨⟨-, hsome, hnone⟩, hnot⟩
        refine ⟨List.mem_cons_of_mem _ hx, hsome, fun other hother hless => ?_⟩
        rcases List.mem_cons.mp hother with rfl | hother
        · exact hnot
        · exact hnone other hother hless
    have hnotRest : first ∉ rest := fun hmem => lt_irrefl _ (hfirst first hmem)
    -- the first is passed by, and covers only what is used up
    have hpassed (hnot : ¬((members first).isSome ∧ first ∉ used))
        (hnothing : ∀ x, x ∉ used → ¬Covers members first x) :
        root ∈ (formed members used rest).map Prod.fst ↔
          Stands members key (first :: rest) root ∧ root ∉ used := by
      rw [ih hrest hclosed]
      constructor
      · rintro ⟨hstands, hused⟩
        exact ⟨(hlater hstands.1).mpr ⟨hstands, hnothing root hused⟩, hused⟩
      · rintro ⟨hstands, hused⟩
        rcases List.mem_cons.mp hstands.1 with rfl | hmem
        · exact absurd ⟨hself.mp hstands, hused⟩ hnot
        · exact ⟨((hlater hmem).mp hstands).1, hused⟩
    by_cases hused : first ∈ used
    · rw [formed_used hused]
      exact hpassed (fun h => h.2 hused) fun x hx hcover => hx (hclosed first hused x hcover)
    rcases hfound : members first with _ | found
    · rw [formed_none hused hfound]
      refine hpassed (fun h => ?_) fun x _ hcover => ?_
      · rw [hfound] at h
        exact Bool.false_ne_true h.1
      · obtain ⟨set, hset, -⟩ := hcover
        rw [hfound] at hset
        contradiction
    rw [formed_some hused hfound, List.map_cons, List.mem_cons,
      ih hrest (hclosed.union hcovers hfound)]
    have hcover : ∀ x, Covers members first x ↔ x ∈ found := by
      intro x
      constructor
      · rintro ⟨set, hset, hx⟩
        obtain rfl := Option.some.inj (hfound.symm.trans hset)
        exact hx
      · exact fun hx => ⟨found, hfound, hx⟩
    constructor
    · rintro (rfl | ⟨hstands, hnot⟩)
      · exact ⟨hself.mpr (by rw [hfound]; rfl), hused⟩
      · rw [Finset.mem_union, not_or] at hnot
        exact ⟨(hlater hstands.1).mpr ⟨hstands, fun hx => hnot.2 ((hcover root).mp hx)⟩, hnot.1⟩
    · rintro ⟨hstands, hnot⟩
      rcases List.mem_cons.mp hstands.1 with rfl | hmem
      · exact .inl rfl
      · obtain ⟨hstands, hfree⟩ := (hlater hmem).mp hstands
        refine .inr ⟨hstands, fun hin => ?_⟩
        rcases Finset.mem_union.mp hin with hin | hin
        · exact hnot hin
        · exact hfree ((hcover root).mpr hin)

/-- What the formed sets have in them does not depend on the order of the roots. -/
theorem mem_used_or_formed (hcovers : ∀ root other x, Covers members root other →
    Covers members other x → Covers members root x)
    (hclosed : Closed members used) {x : α} :
    x ∈ used ∨ (∃ pair ∈ formed members used roots, x ∈ pair.2) ↔
      x ∈ used ∨ ∃ root ∈ roots, Covers members root x := by
  induction roots generalizing used with
  | nil => simp [formed]
  | cons first rest ih =>
    have hcons : (∃ root ∈ first :: rest, Covers members root x) ↔
        Covers members first x ∨ ∃ root ∈ rest, Covers members root x := by simp
    rw [hcons]
    by_cases hused : first ∈ used
    · rw [formed_used hused, ih hclosed]
      constructor
      · rintro (hx | hx)
        · exact .inl hx
        · exact .inr (.inr hx)
      · rintro (hx | hx | hx)
        · exact .inl hx
        · exact .inl (hclosed first hused x hx)
        · exact .inr hx
    rcases hfound : members first with _ | found
    · have hnot : ¬Covers members first x := by simp [Covers, hfound]
      rw [formed_none hused hfound, ih hclosed, or_iff_right hnot]
    · have hcover : Covers members first x ↔ x ∈ found := by simp [Covers, hfound]
      have hpair : (∃ pair ∈ (first, found) :: formed members (used ∪ found) rest, x ∈ pair.2) ↔
          x ∈ found ∨ ∃ pair ∈ formed members (used ∪ found) rest, x ∈ pair.2 := by simp
      rw [formed_some hused hfound, hpair, hcover, ← or_assoc, ← or_assoc, ← Finset.mem_union,
        ih (hclosed.union hcovers hfound)]

/-! ## Whether they are disjoint -/

theorem formed_sublist : ((formed members used roots).map Prod.fst).Sublist roots := by
  induction roots generalizing used with
  | nil => exact .slnil
  | cons root roots ih =>
    by_cases hused : root ∈ used
    · rw [formed_used hused]
      exact ih.cons root
    rcases hfound : members root with _ | found
    · rw [formed_none hused hfound]
      exact ih.cons root
    · rw [formed_some hused hfound]
      exact ih.cons_cons root

theorem formed_disjoint_iff (hsorted : roots.Pairwise fun left right => key right < key left)
    (hcovers : ∀ root other x, Covers members root other → Covers members other x →
      Covers members root x) :
    (formed members ∅ roots).Pairwise (fun left right => Disjoint left.2 right.2) ↔
      ∀ left right, Stands members key roots left → Stands members key roots right → left ≠ right →
        ¬∃ x, Covers members left x ∧ Covers members right x := by
  have hstands : ∀ {root}, root ∈ (formed members ∅ roots).map Prod.fst ↔
      Stands members key roots root := by
    intro root
    rw [mem_formed hsorted hcovers fun root hin => absurd hin (Finset.notMem_empty root),
      and_iff_left (Finset.notMem_empty root)]
  have hnodup : ((formed members ∅ roots).map Prod.fst).Nodup :=
    (hsorted.imp fun h hsame => (hsame ▸ h).false).sublist formed_sublist
  constructor
  · intro hpairwise left right hleft hright hne
    rintro ⟨x, ⟨leftSet, hleftSet, hxl⟩, ⟨rightSet, hrightSet, hxr⟩⟩
    obtain ⟨leftPair, hleftMem, rfl⟩ := List.mem_map.mp (hstands.mpr hleft)
    obtain ⟨rightPair, hrightMem, rfl⟩ := List.mem_map.mp (hstands.mpr hright)
    obtain rfl := Option.some.inj ((members_of_formed hleftMem).2.2.symm.trans hleftSet)
    obtain rfl := Option.some.inj ((members_of_formed hrightMem).2.2.symm.trans hrightSet)
    have : Std.Symm fun left right : α × Finset α => Disjoint left.2 right.2 :=
      ⟨fun _ _ h => h.symm⟩
    have hdisjoint := hpairwise.forall hleftMem hrightMem fun hsame => hne (congrArg Prod.fst hsame)
    exact Finset.disjoint_left.mp hdisjoint hxl hxr
  · intro hapart
    refine (List.pairwise_map.mp hnodup).imp_of_mem fun {left right} hleft hright hne => ?_
    rw [Finset.disjoint_left]
    intro x hxl hxr
    exact hapart left.1 right.1 (hstands.mp (List.mem_map_of_mem hleft))
      (hstands.mp (List.mem_map_of_mem hright)) hne
      ⟨x, ⟨left.2, (members_of_formed hleft).2.2, hxl⟩,
        ⟨right.2, (members_of_formed hright).2.2, hxr⟩⟩

end ClaimLoop

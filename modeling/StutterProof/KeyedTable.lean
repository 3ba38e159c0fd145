import Mathlib.Algebra.GroupWithZero.Nat
import Mathlib.Algebra.Order.Ring.Rat
import Mathlib.Data.Finset.Card
import Mathlib.Data.List.Nodup

/-! # Tables with one value per key

A table is a list of entries no two of which have one key.  What a table holds is what
`get` reads from it, and every count of its entries is a count of what `get` reads:
`count_off` compares the counts of two tables that differ at one key only, whatever was
inserted or removed there. -/

/-- Entries, one per key. -/
structure Table (K V : Type) where
  entries : List (K × V)
  nodup : (entries.map Prod.fst).Nodup

namespace Table

variable {K V : Type} [DecidableEq K]

def empty : Table K V := ⟨[], List.nodup_nil⟩

def get (table : Table K V) (key : K) : Option V := table.entries.lookup key

def remove (table : Table K V) (key : K) : Table K V where
  entries := table.entries.filter (·.1 ≠ key)
  nodup := (table.nodup).sublist ((List.filter_sublist).map _)

variable (table : Table K V)

theorem not_mem_keys_remove (key : K) : key ∉ (table.remove key).entries.map Prod.fst := by
  simp [remove]

def insert (table : Table K V) (key : K) (value : V) : Table K V where
  entries := (key, value) :: (table.remove key).entries
  nodup := List.nodup_cons.mpr ⟨table.not_mem_keys_remove key, (table.remove key).nodup⟩

/-! ## What is read -/

theorem mem_entries {key : K} {value : V} :
    (key, value) ∈ table.entries ↔ table.get key = some value := by
  obtain ⟨entries, nodup⟩ := table
  unfold get
  induction entries with
  | nil => simp
  | cons entry rest ih =>
    obtain ⟨key', value'⟩ := entry
    obtain ⟨fresh, rest_nodup⟩ := List.nodup_cons.mp nodup
    by_cases same : key = key'
    · subst same
      have absent : (key, value) ∉ rest := by
        intro mem
        exact fresh (List.mem_map.mpr ⟨_, mem, rfl⟩)
      simp [absent, eq_comm]
    · have differ : (key == key') = false := by simpa using same
      simpa [List.lookup_cons, same, differ] using ih rest_nodup

@[simp] theorem get_empty (key : K) : (empty : Table K V).get key = none := rfl

@[simp] theorem get_remove (key other : K) :
    (table.remove key).get other = if other = key then none else table.get other := by
  apply Option.ext
  intro value
  rw [← mem_entries]
  by_cases same : other = key
  · simp [remove, same]
  · simp [remove, same, mem_entries]

@[simp] theorem get_insert (key other : K) (value : V) :
    (table.insert key value).get other = if other = key then some value else table.get other := by
  by_cases same : other = key
  · subst same
    simp [get, insert]
  · have skip : (table.insert key value).get other = (table.remove key).get other := by
      have differ : (other == key) = false := by simpa using same
      simp [get, insert, List.lookup_cons, differ]
    rw [skip, get_remove, if_neg same, if_neg same]

/-- `get_mut` and a change in place. -/
def modify (table : Table K V) (key : K) (f : V → V) : Table K V :=
  match table.get key with
  | some value => table.insert key (f value)
  | none => table

@[simp] theorem get_modify (key other : K) (f : V → V) :
    (table.modify key f).get other =
      if other = key then (table.get other).map f else table.get other := by
  unfold modify
  by_cases same : other = key
  · subst same
    rcases found : table.get other with _ | value <;> simp [found]
  · rcases found : table.get key with _ | value <;> simp [same]

omit [DecidableEq K] in
theorem keys_mapValues {W : Type} (entries : List (K × V)) (f : V → W) :
    (entries.map fun entry => (entry.1, f entry.2)).map Prod.fst = entries.map Prod.fst := by
  rw [List.map_map]
  rfl

/-- A change of every value. -/
def mapValues {W : Type} (table : Table K V) (f : V → W) : Table K W where
  entries := table.entries.map fun entry => (entry.1, f entry.2)
  nodup := by
    rw [keys_mapValues]
    exact table.nodup

@[simp] theorem get_mapValues {W : Type} (f : V → W) (key : K) :
    (table.mapValues f).get key = (table.get key).map f := by
  obtain ⟨entries, nodup⟩ := table
  unfold get mapValues
  induction entries with
  | nil => rfl
  | cons entry rest ih =>
    obtain ⟨key', value'⟩ := entry
    by_cases same : key = key'
    · subst same
      simp
    · have differ : (key == key') = false := by simpa using same
      simpa [List.lookup_cons, differ] using ih (List.nodup_cons.mp nodup).2

/-- A change of every entry. -/
def mapEntries {W : Type} (table : Table K V) (f : K → V → W) : Table K W where
  entries := table.entries.map fun entry => (entry.1, f entry.1 entry.2)
  nodup := by
    rw [List.map_map]
    exact table.nodup

@[simp] theorem get_mapEntries {W : Type} (f : K → V → W) (key : K) :
    (table.mapEntries f).get key = (table.get key).map (f key) := by
  apply Option.ext
  intro value
  rw [← mem_entries, Option.map_eq_some_iff]
  simp only [mapEntries, List.mem_map, Prod.mk.injEq]
  constructor
  · rintro ⟨⟨key', value'⟩, hmem, rfl, rfl⟩
    exact ⟨value', table.mem_entries.mp hmem, rfl⟩
  · rintro ⟨value', hget, rfl⟩
    exact ⟨(key, value'), table.mem_entries.mpr hget, rfl, rfl⟩

/-- `retain`, by the keys. -/
def filterKeys (table : Table K V) (p : K → Bool) : Table K V where
  entries := table.entries.filter fun entry => p entry.1
  nodup := (table.nodup).sublist ((List.filter_sublist).map _)

/-- Any order of the entries reads the same. -/
theorem lookup_perm {entries : List (K × V)} (perm : entries.Perm table.entries) (key : K) :
    entries.lookup key = table.get key := by
  have nodup : (entries.map Prod.fst).Nodup := (perm.map _).nodup_iff.mpr table.nodup
  have reads : (Table.mk entries nodup).get key = table.get key := by
    apply Option.ext
    intro value
    rw [← mem_entries, ← mem_entries, perm.mem_iff]
  exact reads

/-! ## Counting entries -/

/-- How many entries have the property. -/
def count (table : Table K V) (p : K → V → Bool) : Nat :=
  table.entries.countP fun entry => p entry.1 entry.2

/-- The key's part in the count. -/
def share (table : Table K V) (p : K → V → Bool) (key : K) : Nat :=
  match table.get key with
  | some value => if p key value then 1 else 0
  | none => 0

omit [DecidableEq K] in
theorem entries_nodup : table.entries.Nodup := table.nodup.of_map _

variable {table table' : Table K V}

/-- Tables that read alike have the same entries, in some order. -/
theorem entries_perm (reads : ∀ key, table'.get key = table.get key) :
    table'.entries.Perm table.entries := by
  rw [List.perm_ext_iff_of_nodup table'.entries_nodup table.entries_nodup]
  rintro ⟨key, value⟩
  rw [mem_entries, mem_entries, reads]

/-- A count is a count of what is read. -/
theorem count_congr {p p' : K → V → Bool} (reads : ∀ key, table'.get key = table.get key)
    (agree : ∀ key value, table.get key = some value → p' key value = p key value) :
    table'.count p' = table.count p := by
  calc table'.count p' = table.entries.countP fun entry => p' entry.1 entry.2 :=
        (entries_perm reads).countP_eq _
    _ = table.count p := List.countP_congr fun entry mem => by
        rw [agree entry.1 entry.2 (table.mem_entries.mp mem)]

theorem count_insert (p : K → V → Bool) (key : K) (value : V) :
    (table.insert key value).count p = (table.remove key).count p + if p key value then 1
    else 0 := by
  simp only [count, insert, List.countP_cons]

/-- A key's part, and the others'. -/
theorem count_remove_add_share (p : K → V → Bool) (key : K) :
    (table.remove key).count p + table.share p key = table.count p := by
  rcases found : table.get key with _ | value
  · have same : (table.remove key).count p = table.count p := by
      apply count_congr
      · intro other
        by_cases eq : other = key
        · simp [eq, found]
        · simp [eq]
      · exact fun _ _ _ => rfl
    simp [share, found, same]
  · have same : table.count p = ((table.remove key).insert key value).count p := by
      apply count_congr
      · intro other
        by_cases eq : other = key
        · simp [eq, found]
        · simp [eq]
      · exact fun _ _ _ => rfl
    have again : ((table.remove key).remove key).count p = (table.remove key).count p :=
      count_congr (fun other => by by_cases eq : other = key <;> simp [eq]) (fun _ _ _ => rfl)
    calc (table.remove key).count p + table.share p key
        = ((table.remove key).remove key).count p + if p key value then 1 else 0 := by
          simp [share, found, again]
      _ = ((table.remove key).insert key value).count p := (count_insert ..).symm
      _ = table.count p := same.symm

/-- Two tables that read alike but at one key, and two properties that agree there too: the
counts differ by the key's parts. -/
theorem count_off {p p' : K → V → Bool} (key : K)
    (reads : ∀ other, other ≠ key → table'.get other = table.get other)
    (agree : ∀ other value, other ≠ key → table.get other = some value →
      p' other value = p other value) :
    table'.count p' + table.share p key = table.count p + table'.share p' key := by
  have rest : (table'.remove key).count p' = (table.remove key).count p := by
    apply count_congr
    · intro other
      by_cases eq : other = key
      · simp [eq]
      · simp [eq, reads other eq]
    · intro other value found
      by_cases eq : other = key
      · simp [eq] at found
      · exact agree other value eq (by simpa [eq] using found)
  have left := table'.count_remove_add_share p' key
  have right := table.count_remove_add_share p key
  omega

/-! ## Sums over the entries -/

/-- The sum of a measure of the values. -/
def total (table : Table K V) (f : V → Nat) : Nat := (table.entries.map fun entry => f entry.2).sum

theorem total_congr {f : V → Nat} (reads : ∀ key, table'.get key = table.get key) :
    table'.total f = table.total f :=
  ((entries_perm reads).map _).sum_nat

/-- A key's part of the sum, and the others'. -/
theorem total_remove_add (f : V → Nat) (key : K) :
    (table.remove key).total f + ((table.get key).map f).getD 0 = table.total f := by
  rcases found : table.get key with _ | value
  · apply total_congr
    intro other
    by_cases eq : other = key
    · simp [eq, found]
    · simp [eq]
  · have same : table.total f = ((table.remove key).insert key value).total f := by
      apply total_congr
      intro other
      by_cases eq : other = key
      · simp [eq, found]
      · simp [eq]
    have again : ((table.remove key).remove key).total f = (table.remove key).total f :=
      total_congr fun other => by by_cases eq : other = key <;> simp [eq]
    rw [same]
    change _ = (f value :: _).sum
    rw [List.sum_cons, Nat.add_comm]
    exact congrArg _ again.symm

theorem total_insert (f : V → Nat) (key : K) (value : V) :
    (table.insert key value).total f + ((table.get key).map f).getD 0 =
      table.total f + f value := by
  have rest := table.total_remove_add f key
  have whole : (table.insert key value).total f = f value + (table.remove key).total f := rfl
  omega

omit [DecidableEq K] in
theorem total_mapValues {W : Type} (f : W → Nat) (g : V → W) :
    (table.mapValues g).total f = table.total (f ∘ g) := by
  unfold total mapValues
  rw [List.map_map]
  rfl

/-- A sum depends on the measures that are read. -/
theorem total_congr_map {f : V → Nat}
    (reads : ∀ key, (table'.get key).map f = (table.get key).map f) :
    table'.total f = table.total f := by
  have measures : (table'.mapValues f).total id = (table.mapValues f).total id :=
    total_congr fun key => by rw [get_mapValues, get_mapValues, reads]
  rwa [total_mapValues, total_mapValues] at measures

/-- A table has at most as many entries as its keys have numbers. -/
theorem count_le_of_keys (p : K → V → Bool) (numbers : Finset Nat) (f : K → Nat)
    (injective : Function.Injective f)
    (bounded : ∀ key value, table.get key = some value → f key ∈ numbers) :
    table.count p ≤ numbers.card := by
  have sub : (table.entries.map fun entry => f entry.1).toFinset ⊆ numbers := by
    intro n mem
    obtain ⟨⟨key, value⟩, entry, rfl⟩ := List.mem_map.mp (List.mem_toFinset.mp mem)
    exact bounded key value (table.mem_entries.mp entry)
  have nodup : (table.entries.map fun entry => f entry.1).Nodup := by
    have := table.nodup.map injective
    rwa [List.map_map] at this
  calc table.count p ≤ table.entries.length := List.countP_le_length
    _ = (table.entries.map fun entry => f entry.1).toFinset.card := by
        rw [List.toFinset_card_of_nodup nodup, List.length_map]
    _ ≤ numbers.card := Finset.card_le_card sub

end Table

import Mathlib.Data.List.Sort
import StutterProof.KeyedTable

/-! # Tables read in the order of their keys

The entries of a table by their keys, as a map with ordered keys gives them.  The order is a
function of what is read, so tables that read alike give the same list; and the part of it that
belongs to one key is that key's value, whatever else was done with the list in between
(`filter_filterMap_inOrder`). -/
namespace Table

variable {K V : Type} [LinearOrder K]

def inOrder (table : Table K V) : List (K × V) := table.entries.insertionSort fun a b => a.1 ≤ b.1

section Order
variable (table : Table K V)

theorem inOrder_perm : table.inOrder.Perm table.entries := List.perm_insertionSort _ _

theorem mem_inOrder {key : K} {value : V} :
    (key, value) ∈ table.inOrder ↔ table.get key = some value := by
  rw [table.inOrder_perm.mem_iff, mem_entries]

theorem inOrder_nodup : table.inOrder.Nodup := table.inOrder_perm.nodup_iff.mpr table.entries_nodup

theorem inOrder_sorted : table.inOrder.Pairwise fun a b => a.1 ≤ b.1 := by
  have htotal : Std.Total fun a b : K × V => a.1 ≤ b.1 := ⟨fun a b => le_total ..⟩
  have htrans : IsTrans (K × V) fun a b => a.1 ≤ b.1 := ⟨fun a b c => le_trans⟩
  exact List.pairwise_insertionSort _ _

end Order

theorem inOrder_congr {table table' : Table K V} (reads : ∀ key, table'.get key = table.get key) :
    table'.inOrder = table.inOrder := by
  have hperm : table'.inOrder.Perm table.inOrder :=
    (table'.inOrder_perm.trans (entries_perm reads)).trans table.inOrder_perm.symm
  refine hperm.eq_of_pairwise ?_ table'.inOrder_sorted table.inOrder_sorted
  rintro ⟨key, value⟩ ⟨other, otherValue⟩ ha hb hab hba
  obtain rfl : key = other := le_antisymm hab hba
  -- a key has one entry
  rw [mem_inOrder, reads] at ha
  rw [mem_inOrder, ha] at hb
  rw [Option.some.inj hb]

theorem filter_inOrder (table : Table K V) (key : K) :
    table.inOrder.filter (·.1 = key) = ((table.get key).map (key, ·)).toList := by
  rcases hget : table.get key with _ | value
  · apply List.filter_eq_nil_iff.mpr
    rintro ⟨other, value⟩ hmem hkey
    obtain rfl : other = key := of_decide_eq_true hkey
    rw [mem_inOrder, hget] at hmem
    contradiction
  · apply List.perm_singleton.mp
    rw [List.perm_ext_iff_of_nodup (table.inOrder_nodup.filter _) (List.nodup_singleton _)]
    rintro ⟨other, otherValue⟩
    rw [List.mem_filter, mem_inOrder, decide_eq_true_iff, List.mem_singleton, Prod.mk.injEq]
    constructor
    · rintro ⟨hother, rfl⟩
      rw [hget] at hother
      exact ⟨rfl, (Option.some.inj hother).symm⟩
    · rintro ⟨rfl, rfl⟩
      exact ⟨hget, rfl⟩

/-- What is made of the entries, each for its own key: a key's part comes from the key's value. -/
theorem filter_filterMap_inOrder {W : Type} (table : Table K V) (make : K × V → Option W)
    (keyOf : W → K)
    (hkey : ∀ key value made, table.get key = some value → make (key, value) = some made →
      keyOf made = key)
    (key : K) : (table.inOrder.filterMap make).filter (keyOf · = key) =
      ((table.get key).bind fun value => make (key, value)).toList := by
  have hsame : (table.inOrder.filterMap make).filter (keyOf · = key) =
      (table.inOrder.filter (·.1 = key)).filterMap make := by
    rw [List.filter_filterMap, List.filterMap_filter]
    refine List.filterMap_congr fun ⟨other, value⟩ hmem => ?_
    have hget := table.mem_inOrder.mp hmem
    rcases hmake : make (other, value) with _ | made
    · simp
    · by_cases hother : other = key <;> simp [hkey other value made hget hmake, hother]
  rw [hsame, filter_inOrder]
  rcases table.get key with _ | value
  · rfl
  · rcases hmake : make (key, value) with _ | made <;> simp [hmake]

end Table

import Mathlib.Algebra.BigOperators.Group.Finset.Basic
import Mathlib.Algebra.Order.BigOperators.Group.Finset
import Mathlib.Tactic.Abel
import QubesAdminLinux.Lib.Dict

/-! # Totals of dictionaries

The sum of the values of a dictionary whose values can be added.

* **`Dict.total_eq_sum`** — the total as a sum over any finite set of keys that has all of them.
* **`Dict.total_set`** — an assignment replaces the old value in the total by the new one.
* **`Dict.total_le_total`, `Dict.total_eq_zero_iff`** — totals of pointwise ordered dictionaries. -/

namespace QubesAdminLinux

namespace Dict

variable {κ ν : Type*} [DecidableEq κ]

/-- The value stored under a key, or zero. -/
def getZero [Zero ν] (d : Dict κ ν) (k : κ) : ν := (d.get? k).getD 0

/-- A missing key counts as zero. -/
@[simp] theorem getZero_empty [Zero ν] (k : κ) : (empty : Dict κ ν).getZero k = 0 := rfl

/-- Lookup after assignment. -/
@[simp] theorem getZero_set [Zero ν] (d : Dict κ ν) (k k' : κ) (v : ν) :
    (d.set k v).getZero k' = if k' = k then v else d.getZero k' := by
  rw [getZero, get?_set]
  by_cases h : k' = k
  · rw [if_pos h, if_pos h, Option.getD_some]
  · rw [if_neg h, if_neg h, getZero]

/-- A key that is not there counts zero. -/
theorem getZero_of_notMem [Zero ν] {d : Dict κ ν} {k : κ} (h : k ∉ d.keys) : d.getZero k = 0 := by
  rw [mem_keys, Option.not_isSome_iff_eq_none] at h
  rw [getZero, h, Option.getD_none]

section Total

variable [AddCommMonoid ν]

/-- The sum of the values. -/
def total (d : Dict κ ν) : ν := d.values.sum

omit [DecidableEq κ] in
/-- The total of nothing. -/
@[simp] theorem total_empty : (empty : Dict κ ν).total = 0 := rfl

/-- The values of a list of entries with distinct keys, added up key by key. -/
theorem sum_entries {l : List (κ × ν)} (h : (l.map Prod.fst).Nodup) :
    (l.map Prod.snd).sum = ∑ k ∈ (l.map Prod.fst).toFinset, (findEntry k l).getD 0 := by
  induction l with
  | nil => simp
  | cons hd tl ih =>
      rw [List.map_cons, List.nodup_cons] at h
      have hnotMem : hd.1 ∉ (tl.map Prod.fst).toFinset := by
        rw [List.mem_toFinset]
        exact h.1
      have hrest : ∀ k ∈ (tl.map Prod.fst).toFinset,
          (findEntry k (hd :: tl)).getD 0 = (findEntry k tl).getD 0 := by
        intro k hk
        have hne : hd.1 ≠ k := fun heq => hnotMem (heq ▸ hk)
        rw [findEntry, if_neg hne]
      rw [List.map_cons, List.map_cons, List.sum_cons, List.toFinset_cons,
        Finset.sum_insert hnotMem, Finset.sum_congr rfl hrest, ← ih h.2, findEntry, if_pos rfl,
        Option.getD_some]

/-- The total is the sum over any finite set with all the keys. -/
theorem total_eq_sum (d : Dict κ ν) {s : Finset κ} (h : ∀ k ∈ d.keys, k ∈ s) :
    d.total = ∑ k ∈ s, d.getZero k := by
  have hsub : d.keys.toFinset ⊆ s := by
    intro k hk
    exact h k (List.mem_toFinset.mp hk)
  have hzero : ∀ k ∈ s, k ∉ d.keys.toFinset → d.getZero k = 0 := by
    intro k _ hk
    rw [List.mem_toFinset] at hk
    exact getZero_of_notMem hk
  rw [← Finset.sum_subset hsub hzero]
  exact sum_entries d.nodup

end Total

/-- An assignment replaces the old value in the total by the new one. -/
theorem total_set [AddCommGroup ν] (d : Dict κ ν) (k : κ) (v : ν) :
    (d.set k v).total = d.total + (v - d.getZero k) := by
  have hset : ∀ k' ∈ (d.set k v).keys, k' ∈ insert k d.keys.toFinset := by
    intro k' hk'
    rw [keys_set] at hk'
    rw [Finset.mem_insert, List.mem_toFinset]
    split at hk'
    · exact Or.inr hk'
    · rw [List.mem_append, List.mem_singleton] at hk'
      exact hk'.symm
  have hd : ∀ k' ∈ d.keys, k' ∈ insert k d.keys.toFinset := by
    intro k' hk'
    exact Finset.mem_insert_of_mem (List.mem_toFinset.mpr hk')
  have hmem : k ∈ insert k d.keys.toFinset := Finset.mem_insert_self _ _
  have hother : ∀ k' ∈ (insert k d.keys.toFinset).erase k,
      (d.set k v).getZero k' = d.getZero k' := by
    intro k' hk'
    rw [getZero_set, if_neg (Finset.ne_of_mem_erase hk')]
  rw [total_eq_sum _ hset, total_eq_sum _ hd, ← Finset.add_sum_erase _ _ hmem,
    ← Finset.add_sum_erase _ (fun k' => d.getZero k') hmem, Finset.sum_congr rfl hother,
    getZero_set, if_pos rfl]
  abel

section Ordered

variable [AddCommMonoid ν] [PartialOrder ν] [IsOrderedAddMonoid ν]

/-- A dictionary with larger values has the larger total. -/
theorem total_le_total {d d' : Dict κ ν} (h : ∀ k, d.getZero k ≤ d'.getZero k) :
    d.total ≤ d'.total := by
  have hd : ∀ k ∈ d.keys, k ∈ d.keys.toFinset ∪ d'.keys.toFinset := by
    intro k hk
    exact Finset.mem_union_left _ (List.mem_toFinset.mpr hk)
  have hd' : ∀ k ∈ d'.keys, k ∈ d.keys.toFinset ∪ d'.keys.toFinset := by
    intro k hk
    exact Finset.mem_union_right _ (List.mem_toFinset.mpr hk)
  rw [total_eq_sum _ hd, total_eq_sum _ hd']
  exact Finset.sum_le_sum fun k _ => h k

/-- Dictionaries with the same values have the same total. -/
theorem total_congr {d d' : Dict κ ν} (h : ∀ k, d.getZero k = d'.getZero k) :
    d.total = d'.total :=
  le_antisymm (total_le_total fun k => (h k).le) (total_le_total fun k => (h k).ge)

/-- Values that are not negative have no negative total. -/
theorem total_nonneg {d : Dict κ ν} (h : ∀ k, 0 ≤ d.getZero k) : 0 ≤ d.total := by
  have hle : (empty : Dict κ ν).total ≤ d.total := total_le_total h
  exact hle

/-- Values that are not negative add up to zero exactly if all of them are zero. -/
theorem total_eq_zero_iff {d : Dict κ ν} (h : ∀ k, 0 ≤ d.getZero k) :
    d.total = 0 ↔ ∀ k, d.getZero k = 0 := by
  have hkeys : ∀ k ∈ d.keys, k ∈ d.keys.toFinset := fun k hk => List.mem_toFinset.mpr hk
  rw [total_eq_sum _ hkeys, Finset.sum_eq_zero_iff_of_nonneg fun k _ => h k]
  constructor
  · intro hall k
    by_cases hk : k ∈ d.keys
    · exact hall k (hkeys k hk)
    · exact getZero_of_notMem hk
  · intro hall k _
    exact hall k

end Ordered

end Dict

end QubesAdminLinux

import Mathlib.Data.List.Nodup
import Mathlib.Data.List.NodupEquivFin

/-! # Insertion-ordered dictionaries

A `Dict κ ν` is a list of entries with pairwise distinct keys, in the order in which the keys were
first inserted: assigning to a present key replaces its value in place, assigning to a new key
appends an entry.  Distinctness of the keys is a field of the structure, so every dictionary that can
be built satisfies it and `get?` is the only reading of an entry.

* **`setEntries`** — the assignment on raw entry lists; its key list is computed by `keys_setEntries`.
* **`Dict.set`, `Dict.get?`** — assignment and lookup, related by `Dict.get?_set`.
* **`Dict.mem_keys`, `Dict.mem_values`** — the enumerations of a dictionary read back as lookups.
* **`Dict.filterMapValues`** — a dictionary comprehension over the items of a dictionary.
* **`Dict.update`, `Dict.without`** — the entries of another dictionary, added or deleted. -/

namespace QubesAdminLinux

universe u v

variable {κ : Type u} {ν : Type v}

section Entries

variable [DecidableEq κ]

/-- Assign `v` to `k` in a list of entries: in place if `k` is present, at the end otherwise. -/
def setEntries (k : κ) (v : ν) : List (κ × ν) → List (κ × ν)
  | [] => [(k, v)]
  | (k', v') :: rest => if k' = k then (k, v) :: rest else (k', v') :: setEntries k v rest

/-- The first value stored under `k` in a list of entries. -/
def findEntry (k : κ) : List (κ × ν) → Option ν
  | [] => none
  | (k', v') :: rest => if k' = k then some v' else findEntry k rest

/-- An assignment keeps the keys and their order; a new key goes to the end. -/
theorem keys_setEntries (k : κ) (v : ν) (l : List (κ × ν)) :
    (setEntries k v l).map Prod.fst
      = if k ∈ l.map Prod.fst then l.map Prod.fst else l.map Prod.fst ++ [k] := by
  induction l with
  | nil => rfl
  | cons hd tl ih =>
      obtain ⟨k', v'⟩ := hd
      rw [setEntries]
      by_cases h : k' = k
      · -- the first entry has the key: it is replaced in place
        subst h
        rw [if_pos rfl, if_pos (by simp)]
        rfl
      · -- another key stays where it is
        rw [if_neg h, List.map_cons, ih, List.map_cons]
        by_cases hk : k ∈ tl.map Prod.fst
        · rw [if_pos hk, if_pos (List.mem_cons_of_mem _ hk)]
        · rw [if_neg hk, if_neg (by simpa [Ne.symm h] using hk), List.cons_append]

/-- Assignments keep the keys distinct. -/
theorem nodup_keys_setEntries (k : κ) (v : ν) {l : List (κ × ν)} (h : (l.map Prod.fst).Nodup) :
    ((setEntries k v l).map Prod.fst).Nodup := by
  rw [keys_setEntries]
  by_cases hk : k ∈ l.map Prod.fst
  · rw [if_pos hk]
    exact h
  · rw [if_neg hk]
    exact List.nodup_append.mpr
      ⟨h, List.nodup_singleton k, fun a ha b hb => by
        rw [List.mem_singleton] at hb
        exact fun hab => hk (hb ▸ hab ▸ ha)⟩

/-- Looking up after an assignment: the assigned key has the new value, other keys are unchanged. -/
theorem findEntry_setEntries (k k' : κ) (v : ν) (l : List (κ × ν)) :
    findEntry k' (setEntries k v l) = if k' = k then some v else findEntry k' l := by
  induction l with
  | nil =>
      simp only [setEntries, findEntry, eq_comm]
  | cons hd tl ih =>
      obtain ⟨k₀, v₀⟩ := hd
      rw [setEntries]
      by_cases h₀ : k₀ = k
      · subst h₀
        rw [if_pos rfl, findEntry, findEntry]
        by_cases h : k' = k₀
        · rw [if_pos h.symm, if_pos h]
        · rw [if_neg (Ne.symm h), if_neg h, if_neg (Ne.symm h)]
      · simp only [if_neg h₀, findEntry, ih]
        by_cases h : k' = k
        · rw [if_pos h, if_pos h, if_neg (fun h' => h₀ (h'.trans h))]
        · rw [if_neg h, if_neg h]

/-- A key has a value exactly when it is one of the keys. -/
theorem findEntry_isSome (k : κ) (l : List (κ × ν)) :
    (findEntry k l).isSome = true ↔ k ∈ l.map Prod.fst := by
  induction l with
  | nil => simp [findEntry]
  | cons hd tl ih =>
      rw [findEntry]
      by_cases h : hd.1 = k
      · simp [h]
      · rw [if_neg h, ih, List.map_cons, List.mem_cons]
        exact ⟨Or.inr, fun h' => h'.resolve_left (Ne.symm h)⟩

/-- With distinct keys, the value found under a key is the one of its only entry. -/
theorem findEntry_eq_some {l : List (κ × ν)} (h : (l.map Prod.fst).Nodup) (k : κ) (v : ν) :
    findEntry k l = some v ↔ (k, v) ∈ l := by
  induction l with
  | nil => simp [findEntry]
  | cons hd tl ih =>
      rw [List.map_cons, List.nodup_cons] at h
      rw [findEntry, List.mem_cons]
      by_cases hk : hd.1 = k
      · rw [if_pos hk]
        constructor
        · intro hv
          exact Or.inl (Prod.ext hk.symm (Option.some.inj hv).symm)
        · rintro (hv | hv)
          · rw [← hv]
          · -- the key cannot occur a second time
            exact absurd (List.mem_map_of_mem (f := Prod.fst) hv) (by rw [← hk]; exact h.1)
      · rw [if_neg hk, ih h.2]
        constructor
        · exact Or.inr
        · rintro (hv | hv)
          · exact absurd (by rw [← hv]) hk
          · exact hv

omit [DecidableEq κ] in
/-- Keeping some entries, with new values, keeps some of the keys in their order. -/
theorem keys_filterMap_sublist {ω : Type v} (f : κ → ν → Option ω) (l : List (κ × ν)) :
    ((l.filterMap fun p => (f p.1 p.2).map fun w => (p.1, w)).map Prod.fst).Sublist
      (l.map Prod.fst) := by
  induction l with
  | nil => exact List.Sublist.refl _
  | cons hd tl ih =>
      rw [List.filterMap_cons, List.map_cons]
      cases hf : f hd.1 hd.2 with
      | none => exact ih.cons _
      | some w => exact ih.cons_cons _

/-- Looking up among kept entries. -/
theorem findEntry_filterMap {ω : Type v} (f : κ → ν → Option ω) {l : List (κ × ν)}
    (h : (l.map Prod.fst).Nodup) (k : κ) :
    findEntry k (l.filterMap fun p => (f p.1 p.2).map fun w => (p.1, w))
      = (findEntry k l).bind (f k) := by
  induction l with
  | nil => rfl
  | cons hd tl ih =>
      obtain ⟨k', v'⟩ := hd
      rw [List.map_cons, List.nodup_cons] at h
      rw [List.filterMap_cons, findEntry]
      by_cases hk : k' = k
      · subst hk
        have habsent : findEntry k' tl = none := by
          rw [← Option.not_isSome_iff_eq_none, findEntry_isSome]
          exact h.1
        rw [if_pos rfl, Option.bind_some]
        cases hf : f k' v' with
        | none =>
            -- the key does not occur again further down
            show findEntry k' (tl.filterMap _) = none
            rw [ih h.2, habsent, Option.bind_none]
        | some w => exact if_pos rfl
      · rw [if_neg hk, ← ih h.2]
        cases hf : f k' v' with
        | none => rfl
        | some w => exact if_neg hk

end Entries

/-- A dictionary: entries with distinct keys, oldest key first. -/
structure Dict (κ : Type u) (ν : Type v) where
  /-- The entries in insertion order. -/
  entries : List (κ × ν)
  /-- No key occurs twice. -/
  nodup : (entries.map Prod.fst).Nodup

namespace Dict

/-- The empty dictionary. -/
def empty : Dict κ ν := ⟨[], List.nodup_nil⟩

/-- The keys in insertion order. -/
def keys (d : Dict κ ν) : List κ := d.entries.map Prod.fst

/-- The values in insertion order of their keys. -/
def values (d : Dict κ ν) : List ν := d.entries.map Prod.snd

/-- Number of keys. -/
def size (d : Dict κ ν) : Nat := d.entries.length

/-- The empty dictionary has no values. -/
@[simp] theorem values_empty : (empty : Dict κ ν).values = [] := rfl

/-- There are as many keys as entries. -/
@[simp] theorem length_keys (d : Dict κ ν) : d.keys.length = d.size := by
  rw [keys, List.length_map, size]

/-- Whether there is no entry. -/
def isEmpty (d : Dict κ ν) : Bool := d.entries.isEmpty

/-- The comprehension `{k: f(k, v) for k, v in d.items() if ...}`: the keys with `f k v = none` are
left out. -/
def filterMapValues {ω : Type v} (f : κ → ν → Option ω) (d : Dict κ ν) : Dict κ ω :=
  ⟨d.entries.filterMap fun p => (f p.1 p.2).map fun w => (p.1, w),
    (keys_filterMap_sublist f d.entries).nodup d.nodup⟩

variable [DecidableEq κ]

/-- The value stored under a key. -/
def get? (d : Dict κ ν) (k : κ) : Option ν := findEntry k d.entries

/-- Assign a value to a key. -/
def set (d : Dict κ ν) (k : κ) (v : ν) : Dict κ ν :=
  ⟨setEntries k v d.entries, nodup_keys_setEntries k v d.nodup⟩

/-- Equality of dictionaries, for which the order of the keys does not count. -/
def Same (d d' : Dict κ ν) : Prop := ∀ k, d.get? k = d'.get? k

/-- `d.update(other)`. -/
def update (d other : Dict κ ν) : Dict κ ν := other.entries.foldl (fun d p => d.set p.1 p.2) d

/-- Delete the keys of another dictionary. -/
def without {ω : Type*} (d : Dict κ ν) (other : Dict κ ω) : Dict κ ν :=
  d.filterMapValues fun k v => if (other.get? k).isNone then some v else none

/-- The same keys with other values. -/
def mapValues {ω : Type v} (f : ν → ω) (d : Dict κ ν) : Dict κ ω :=
  d.filterMapValues fun _ v => some (f v)

/-- Build a dictionary by assigning the pairs of a list one after the other. -/
def ofList (l : List (κ × ν)) : Dict κ ν := l.foldl (fun d p => d.set p.1 p.2) empty

/-- Nothing is found in the empty dictionary. -/
@[simp] theorem get?_empty (k : κ) : (empty : Dict κ ν).get? k = none := rfl

/-- Lookup after assignment. -/
@[simp] theorem get?_set (d : Dict κ ν) (k k' : κ) (v : ν) :
    (d.set k v).get? k' = if k' = k then some v else d.get? k' :=
  findEntry_setEntries k k' v d.entries

/-- The keys that have a value after assignment. -/
theorem isSome_get?_set (d : Dict κ ν) (k k' : κ) (v : ν) :
    ((d.set k v).get? k').isSome = true ↔ k' = k ∨ (d.get? k').isSome = true := by
  rw [get?_set]
  by_cases h : k' = k
  · simp [h]
  · simp [h]

/-- The keys after assignment. -/
theorem keys_set (d : Dict κ ν) (k : κ) (v : ν) :
    (d.set k v).keys = if k ∈ d.keys then d.keys else d.keys ++ [k] :=
  keys_setEntries k v d.entries

/-- An assignment adds at most one key. -/
theorem size_set_le (d : Dict κ ν) (k : κ) (v : ν) : (d.set k v).size ≤ d.size + 1 := by
  rw [← length_keys, keys_set, ← length_keys]
  split
  · exact Nat.le_succ _
  · rw [List.length_append, List.length_singleton]

/-- A dictionary that gives all keys of a list the same value. -/
theorem get?_ofList_const {α : Type*} (f : α → κ) (v : ν) (l : List α) (k : κ) :
    (ofList (l.map fun a => (f a, v))).get? k = if k ∈ l.map f then some v else none := by
  -- the keys that are already there keep their values, or get the same one
  have hfold : ∀ d : Dict κ ν, ((l.map fun a => (f a, v)).foldl (fun d p => d.set p.1 p.2) d).get? k
      = if k ∈ l.map f then some v else d.get? k := by
    induction l with
    | nil => simp
    | cons a rest ih =>
        intro d
        rw [List.map_cons, List.foldl_cons, ih, get?_set, List.map_cons]
        by_cases hrest : k ∈ rest.map f
        · rw [if_pos hrest, if_pos (List.mem_cons_of_mem _ hrest)]
        · by_cases hk : k = f a
          · rw [if_neg hrest, if_pos hk, if_pos (hk ▸ List.mem_cons_self)]
          · rw [if_neg hrest, if_neg hk, if_neg]
            rw [List.mem_cons, not_or]
            exact ⟨hk, hrest⟩
  exact hfold empty


/-- A key is present exactly when it has a value. -/
theorem mem_keys (d : Dict κ ν) (k : κ) : k ∈ d.keys ↔ (d.get? k).isSome = true :=
  (findEntry_isSome k d.entries).symm

/-- A value is enumerated exactly when some key has it. -/
theorem mem_values (d : Dict κ ν) (v : ν) : v ∈ d.values ↔ ∃ k, d.get? k = some v := by
  rw [values, List.mem_map]
  constructor
  · rintro ⟨p, hp, rfl⟩
    exact ⟨p.1, (findEntry_eq_some d.nodup p.1 p.2).mpr hp⟩
  · rintro ⟨k, hk⟩
    exact ⟨(k, v), (findEntry_eq_some d.nodup k v).mp hk, rfl⟩

/-- Lookup in a comprehension. -/
@[simp] theorem get?_filterMapValues {ω : Type v} (f : κ → ν → Option ω) (d : Dict κ ν) (k : κ) :
    (d.filterMapValues f).get? k = (d.get? k).bind (f k) :=
  findEntry_filterMap f d.nodup k

/-- The keys of another dictionary are left out. -/
@[simp] theorem get?_without {ω : Type*} (d : Dict κ ν) (other : Dict κ ω) (k : κ) :
    (d.without other).get? k = if (other.get? k).isNone then d.get? k else none := by
  rw [without, get?_filterMapValues]
  cases d.get? k with
  | none => simp
  | some v => rfl

/-- Every value is mapped. -/
@[simp] theorem get?_mapValues {ω : Type v} (f : ν → ω) (d : Dict κ ν) (k : κ) :
    (d.mapValues f).get? k = (d.get? k).map f := by
  rw [mapValues, get?_filterMapValues]
  cases d.get? k with
  | none => rfl
  | some v => rfl

/-- Lookup after an update: the entries of the other dictionary win. -/
@[simp] theorem get?_update (d other : Dict κ ν) (k : κ) :
    (d.update other).get? k = (other.get? k).or (d.get? k) := by
  obtain ⟨entries, hnodup⟩ := other
  show (entries.foldl (fun d p => d.set p.1 p.2) d).get? k = (findEntry k entries).or (d.get? k)
  induction entries generalizing d with
  | nil => rfl
  | cons hd tl ih =>
      rw [List.map_cons, List.nodup_cons] at hnodup
      rw [List.foldl_cons, ih _ hnodup.2, get?_set, findEntry]
      by_cases hk : hd.1 = k
      · -- the key is not assigned again
        have habsent : findEntry k tl = none := by
          rw [← Option.not_isSome_iff_eq_none, findEntry_isSome, ← hk]
          exact hnodup.1
        rw [if_pos hk, if_pos hk.symm, habsent, Option.none_or, Option.some_or]
      · rw [if_neg hk, if_neg (Ne.symm hk)]

/-- A dictionary without entries has no value for any key. -/
theorem isEmpty_iff (d : Dict κ ν) : d.isEmpty = true ↔ ∀ k, d.get? k = none := by
  rw [isEmpty, List.isEmpty_iff]
  constructor
  · intro h k
    rw [get?, h, findEntry]
  · intro h
    rw [List.eq_nil_iff_forall_not_mem]
    intro p hp
    -- the first entry, if there were one, would be found under its key
    have hsome := (findEntry_eq_some d.nodup p.1 p.2).mpr hp
    rw [← get?, h p.1] at hsome
    cases hsome

end Dict

end QubesAdminLinux

import Mathlib.Algebra.BigOperators.Group.List.Basic
import Mathlib.Algebra.Ring.Nat
import Mathlib.Data.List.AList

/-!
# Association maps

Rules for Mathlib's `AList` used as an unordered map: inserting without
overwriting, looking up after an update, and summing a weight over the values.
-/

namespace AssociationMap

universe u v

variable {κ : Type u} {ν : Type v} [DecidableEq κ]

/-- `unordered_map::emplace`: an existing entry wins. -/
def emplace (map : AList (fun _ : κ => ν)) (key : κ) (value : ν) :
    AList (fun _ : κ => ν) :=
  if key ∈ map then map else map.insert key value

theorem emplace_of_notMem
    {map : AList (fun _ : κ => ν)} {key : κ} (fresh : key ∉ map) (value : ν) :
    emplace map key value = map.insert key value :=
  if_neg fresh

theorem lookup_insert_eq
    (map : AList (fun _ : κ => ν)) (key other : κ) (value : ν) :
    (map.insert key value).lookup other =
      if other = key then some value else map.lookup other := by
  split
  · rename_i same
    subst same
    exact AList.lookup_insert map
  · rename_i different
    exact AList.lookup_insert_ne different

theorem lookup_emplace
    (map : AList (fun _ : κ => ν)) (key other : κ) (value : ν) :
    (emplace map key value).lookup other =
      if key ∈ map then map.lookup other
      else if other = key then some value else map.lookup other := by
  unfold emplace
  split
  · rfl
  · exact lookup_insert_eq map key other value

theorem lookup_erase_eq
    (map : AList (fun _ : κ => ν)) (key other : κ) :
    (map.erase key).lookup other =
      if other = key then none else map.lookup other := by
  split
  · rename_i same
    subst same
    exact AList.lookup_erase _ map
  · rename_i different
    exact AList.lookup_erase_ne different

theorem mem_of_lookup
    {map : AList (fun _ : κ => ν)} {key : κ} {value : ν}
    (found : map.lookup key = some value) : key ∈ map := by
  rw [← AList.lookup_isSome, found]
  rfl

theorem lookup_none_iff
    {map : AList (fun _ : κ => ν)} {key : κ} :
    map.lookup key = none ↔ key ∉ map :=
  AList.lookup_eq_none

/-- Replacing the value of a present key keeps the keys. -/
theorem mem_insert_of_mem
    {map : AList (fun _ : κ => ν)} {key other : κ} {value : ν}
    (present : key ∈ map) :
    other ∈ map.insert key value ↔ other ∈ map := by
  rw [AList.mem_insert]
  constructor
  · rintro (same | member)
    · exact same ▸ present
    · exact member
  · exact Or.inr

/-- Erasing several keys one after the other. -/
theorem lookup_foldl_erase
    (keys : List κ) (map : AList (fun _ : κ => ν)) (other : κ) :
    (keys.foldl (fun remaining key => remaining.erase key) map).lookup other =
      if other ∈ keys then none else map.lookup other := by
  induction keys generalizing map with
  | nil => simp
  | cons key keys induction =>
      rw [List.foldl_cons, induction, lookup_erase_eq]
      by_cases later : other ∈ keys
      · simp [later]
      · by_cases same : other = key
        · simp [same]
        · simp [later, same]

theorem mem_entries_iff
    {map : AList (fun _ : κ => ν)} {key : κ} {value : ν} :
    (⟨key, value⟩ : Sigma fun _ : κ => ν) ∈ map.entries ↔
      map.lookup key = some value :=
  AList.mem_lookup_iff.symm

/-- Sum of a weight over the values of a map. -/
def total (weight : ν → Nat) (map : AList (fun _ : κ => ν)) : Nat :=
  (map.entries.map fun entry => weight entry.2).sum

omit [DecidableEq κ] in
@[simp] theorem total_empty (weight : ν → Nat) :
    total weight (∅ : AList (fun _ : κ => ν)) = 0 := rfl

private theorem perm_kerase
    {key : κ} {value : ν} {entries : List (Sigma fun _ : κ => ν)}
    (found : entries.dlookup key = some value) :
    entries.Perm (⟨key, value⟩ :: entries.kerase key) := by
  induction entries with
  | nil => simp at found
  | cons entry entries induction =>
      obtain ⟨entryKey, entryValue⟩ := entry
      by_cases same : key = entryKey
      · subst same
        simp only [List.dlookup_cons_eq, Option.some.injEq] at found
        subst found
        simp
      · rw [List.dlookup_cons_ne _ _ same] at found
        have different : key ≠ (⟨entryKey, entryValue⟩ :
            Sigma fun _ : κ => ν).1 := same
        rw [List.kerase_cons_ne different]
        exact ((induction found).cons _).trans (.swap _ _ _)

/-- The entries are the one found and those that remain without it. -/
theorem entries_perm_erase
    {map : AList (fun _ : κ => ν)} {key : κ} {value : ν}
    (found : map.lookup key = some value) :
    map.entries.Perm (⟨key, value⟩ :: (map.erase key).entries) :=
  perm_kerase found

theorem total_erase
    (weight : ν → Nat) {map : AList (fun _ : κ => ν)} {key : κ} {value : ν}
    (found : map.lookup key = some value) :
    total weight map = weight value + total weight (map.erase key) := by
  have weighed := (entries_perm_erase found).map fun entry => weight entry.2
  simpa [total] using weighed.sum_nat

private theorem total_insert
    (weight : ν → Nat) (map : AList (fun _ : κ => ν)) (key : κ) (value : ν) :
    total weight (map.insert key value) =
      weight value + total weight (map.erase key) := by
  unfold total
  rw [AList.entries_insert, List.map_cons, List.sum_cons]
  rfl

/-- Replacing the value of a present key. -/
theorem total_replace
    (weight : ν → Nat) {map : AList (fun _ : κ => ν)} {key : κ} {value : ν}
    (found : map.lookup key = some value) (changed : ν) :
    total weight (map.insert key changed) + weight value =
      total weight map + weight changed := by
  rw [total_insert, total_erase weight found]
  omega

theorem total_insert_of_notMem
    {weight : ν → Nat} {map : AList (fun _ : κ => ν)} {key : κ} {value : ν}
    (fresh : key ∉ map) :
    total weight (map.insert key value) = weight value + total weight map := by
  unfold total
  rw [AList.entries_insert_of_notMem fresh, List.map_cons, List.sum_cons]

theorem total_eq_zero_iff
    {weight : ν → Nat} {map : AList (fun _ : κ => ν)} :
    total weight map = 0 ↔
      ∀ key value, map.lookup key = some value → weight value = 0 := by
  rw [total, List.sum_eq_zero_iff_forall_eq_nat]
  simp only [List.mem_map, forall_exists_index, and_imp,
    forall_apply_eq_imp_iff₂]
  constructor
  · intro weightless key value found
    exact weightless ⟨key, value⟩ (mem_entries_iff.mpr found)
  · intro weightless entry member
    exact weightless entry.1 entry.2 (mem_entries_iff.mp member)

end AssociationMap

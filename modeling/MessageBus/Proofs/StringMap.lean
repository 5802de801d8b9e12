/-
**Maps with text keys, by what is under each key.**

* `get?_insert`, `get?_erase`, `get?_ofList`, `get?_filter` — what is under each key after each
  operation.
* `ext_get?` — **maps with the same values under all keys are the same map**: the order of the keys
  leaves one form.
* `ofList_entries` — a map comes back from its entries.
-/

import MessageBus.StringMap
import Mathlib.Data.List.Nodup

namespace MessageBus

variable {α : Type} {key other : String} {value : α}

namespace Entries

variable {entries : List (String × α)}

theorem lookup_cons (k : String) (v : α) (rest : List (String × α)) (key : String) :
    ((k, v) :: rest).lookup key = if key = k then some v else rest.lookup key := by
  rw [List.lookup_cons]
  by_cases same : key = k
  · rw [same, beq_self_eq_true, if_pos rfl]
  · rw [beq_false_of_ne same, if_neg same]

/-- After a put, the key has the value and the others keep theirs. -/
theorem lookup_put (key other : String) (value : α) (entries : List (String × α)) :
    (put key value entries).lookup other =
      if other = key then some value else entries.lookup other := by
  induction entries with
  | nil => rw [put, lookup_cons]
  | cons entry rest ih =>
    obtain ⟨k, v⟩ := entry
    rw [put]
    by_cases less : key < k
    · rw [if_pos less, lookup_cons]
    · rw [if_neg less]
      by_cases equal : key = k
      · subst equal
        rw [if_pos rfl, lookup_cons, lookup_cons]
        by_cases same : other = key
        · rw [if_pos same, if_pos same]
        · rw [if_neg same, if_neg same, if_neg same]
      · rw [if_neg equal, lookup_cons, lookup_cons, ih]
        by_cases found : other = k
        · rw [if_pos found, if_pos found, if_neg (found ▸ Ne.symm equal)]
        · rw [if_neg found, if_neg found]

/-- After a drop, the key has nothing and the others keep what they have. -/
theorem lookup_drop (key other : String) (entries : List (String × α)) :
    (drop key entries).lookup other = if other = key then none else entries.lookup other := by
  induction entries with
  | nil => exact (ite_self none).symm
  | cons entry rest ih =>
    obtain ⟨k, v⟩ := entry
    unfold drop at ih ⊢
    rw [List.filter_cons]
    by_cases dropped : k = key
    · subst dropped
      simp only [bne_self_eq_false, Bool.false_eq_true, if_false, ih, lookup_cons]
      split <;> rfl
    · simp only [bne_iff_ne.mpr dropped, if_true, lookup_cons, ih]
      by_cases found : other = k
      · rw [if_pos found, if_pos found, if_neg (found ▸ dropped)]
      · rw [if_neg found, if_neg found]

/-- No two entries are under one key. -/
theorem Sorted.nodup_keys (sorted : Sorted entries) : (entries.map Prod.fst).Nodup := by
  refine List.pairwise_map.mpr (List.Pairwise.imp (fun less same => ?_) sorted)
  exact String.lt_irrefl _ (same ▸ less)

/-- An entry is what is found under its key. -/
theorem mem_iff_lookup (nodup : (entries.map Prod.fst).Nodup) :
    (key, value) ∈ entries ↔ entries.lookup key = some value := by
  induction entries with
  | nil => simp
  | cons entry rest ih =>
    obtain ⟨k, v⟩ := entry
    obtain ⟨absent, nodup⟩ := List.nodup_cons.mp nodup
    rw [List.mem_cons, lookup_cons, ih nodup]
    by_cases found : key = k
    · subst found
      have missing : rest.lookup key = none := by
        rw [List.lookup_eq_none_iff]
        intro entry member
        simp only [bne_iff_ne, ne_eq]
        exact fun same => absent (List.mem_map.mpr ⟨entry, member, same.symm⟩)
      simp [missing, eq_comm]
    · simp [found]

theorem mem_of_lookup (found : entries.lookup key = some value) : (key, value) ∈ entries := by
  induction entries with
  | nil => cases found
  | cons entry rest ih =>
    rw [lookup_cons] at found
    split at found
    · rename_i same
      cases found
      exact same ▸ List.mem_cons_self
    · exact List.mem_cons_of_mem entry (ih found)

/-- Entries made of some keys have the value of each of them that has one. -/
theorem lookup_filterMap (names : List String) (text? : String → Option α) (key : String) :
    (names.filterMap fun name => (text? name).map fun value => (name, value)).lookup key =
      if key ∈ names then text? key else none := by
  induction names with
  | nil => rfl
  | cons name names ih =>
    rw [List.filterMap_cons]
    cases found : text? name with
    | none =>
      simp only [Option.map_none, ih, List.mem_cons]
      by_cases same : key = name
      · rw [same, found, ite_self, ite_self]
      · simp [same]
    | some value =>
      simp only [Option.map_some, lookup_cons, ih, List.mem_cons]
      by_cases same : key = name
      · simp [same, found]
      · simp [same]

end Entries

namespace StringMap

@[simp]
theorem get?_empty : (empty : StringMap α).get? key = none := rfl

theorem get?_insert (map : StringMap α) (key other : String) (value : α) :
    (map.insert key value).get? other = if other = key then some value else map.get? other :=
  Entries.lookup_put key other value map.entries

theorem get?_erase (map : StringMap α) (key other : String) :
    (map.erase key).get? other = if other = key then none else map.get? other :=
  Entries.lookup_drop key other map.entries

/-- The last of several pairs of a key counts. -/
theorem get?_ofList (pairs : List (String × α)) :
    (ofList pairs).get? key = pairs.reverse.lookup key := by
  rw [ofList, ← List.foldr_reverse]
  induction pairs.reverse with
  | nil => rfl
  | cons pair rest ih =>
    rw [List.foldr_cons, get?_insert, ih, Entries.lookup_cons]

theorem mem_entries_iff (map : StringMap α) :
    (key, value) ∈ map.entries ↔ map.get? key = some value :=
  Entries.mem_iff_lookup map.sorted.nodup_keys

/-- A filtered map has under a key what was there, if that passes. -/
theorem get?_filter (keep : String → α → Bool) (map : StringMap α) (key : String) :
    (map.filter keep).get? key = (map.get? key).filter (keep key) := by
  ext value
  rw [← mem_entries_iff, Option.filter_eq_some_iff, ← mem_entries_iff]
  exact List.mem_filter

/-- **Maps with the same values under all keys are the same map.** -/
theorem ext_get? {first second : StringMap α} (same : ∀ key, first.get? key = second.get? key) :
    first = second := by
  have members : ∀ entry, entry ∈ first.entries ↔ entry ∈ second.entries := by
    rintro ⟨key, value⟩
    rw [mem_entries_iff, mem_entries_iff, same key]
  have nodup : ∀ map : StringMap α, map.entries.Nodup := fun map =>
    map.sorted.nodup_keys.of_map Prod.fst
  have permuted := (List.perm_ext_iff_of_nodup (nodup first) (nodup second)).mpr members
  have equal : first.entries = second.entries := by
    refine permuted.eq_of_pairwise (fun a b _ _ less greater => ?_) first.sorted second.sorted
    exact absurd greater (String.lt_asymm less)
  cases first
  cases second
  cases equal
  rfl

/-- Only the empty map has no entries. -/
theorem eq_empty_of_isEmpty {map : StringMap α} (none : map.isEmpty = true) : map = empty := by
  refine ext_get? fun key => ?_
  rw [get?_empty, get?, List.isEmpty_iff.mp none]
  rfl

/-- A map comes back from its entries. -/
theorem ofList_entries (map : StringMap α) : ofList map.entries = map := by
  refine ext_get? fun key => ?_
  ext value
  have nodup : (map.entries.reverse.map Prod.fst).Nodup := by
    rw [List.map_reverse, List.nodup_reverse]
    exact map.sorted.nodup_keys
  rw [get?_ofList, ← Entries.mem_iff_lookup nodup, List.mem_reverse, mem_entries_iff]

end StringMap

end MessageBus

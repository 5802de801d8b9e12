/-
**Maps with text keys.** Entries in increasing order of their keys, so that a map has one form.

* `Entries.put` — puts a value under a key of a sorted list of entries; the last value wins.
* `StringMap` — a list of entries with strictly increasing keys.
* `insert`, `erase`, `get?`, `ofList` — the operations; each keeps the order by construction.
-/

namespace MessageBus

/-- Puts a value under a key, in the place that the order of the keys gives it. -/
def Entries.put {α : Type} (key : String) (value : α) : List (String × α) → List (String × α)
  | [] => [(key, value)]
  | (k, v) :: rest =>
    if key < k then (key, value) :: (k, v) :: rest
    else if key = k then (key, value) :: rest
    else (k, v) :: Entries.put key value rest

/-- Drops a key. -/
def Entries.drop {α : Type} (key : String) (entries : List (String × α)) : List (String × α) :=
  entries.filter fun entry => entry.1 != key

/-- The keys are strictly increasing. -/
def Entries.Sorted {α : Type} (entries : List (String × α)) : Prop :=
  entries.Pairwise fun a b => a.1 < b.1

namespace Entries

variable {α : Type}

/-- The keys after a put are the old ones and the new one. -/
theorem fst_mem_put {key : String} {value : α} {entries : List (String × α)} {k : String} {v : α}
    (member : (k, v) ∈ put key value entries) : k = key ∨ (k, v) ∈ entries := by
  induction entries with
  | nil => simp [put] at member; exact Or.inl member.1
  | cons entry rest ih =>
    obtain ⟨k', v'⟩ := entry
    simp only [put] at member
    split at member
    · simp only [List.mem_cons, Prod.mk.injEq] at member ⊢
      rcases member with h | h | h
      · exact Or.inl h.1
      · exact Or.inr (Or.inl h)
      · exact Or.inr (Or.inr h)
    · split at member
      · simp only [List.mem_cons, Prod.mk.injEq] at member ⊢
        rcases member with h | h
        · exact Or.inl h.1
        · exact Or.inr (Or.inr h)
      · simp only [List.mem_cons] at member ⊢
        rcases member with h | h
        · exact Or.inr (Or.inl h)
        · exact (ih h).imp id Or.inr

/-- A put keeps the keys increasing. -/
theorem Sorted.put {key : String} {value : α} {entries : List (String × α)}
    (sorted : Sorted entries) : Sorted (put key value entries) := by
  induction entries with
  | nil => simp [Entries.put, Sorted]
  | cons entry rest ih =>
    obtain ⟨k, v⟩ := entry
    have parts := List.pairwise_cons.mp sorted
    simp only [Entries.put]
    split
    · rename_i less
      refine List.pairwise_cons.mpr ⟨fun other member => ?_, sorted⟩
      rcases List.mem_cons.mp member with rfl | member
      · exact less
      · exact String.lt_trans less (parts.1 other member)
    · split
      · rename_i same
        subst same
        exact List.pairwise_cons.mpr ⟨fun other member => parts.1 other member, parts.2⟩
      · rename_i notLess different
        refine List.pairwise_cons.mpr ⟨fun other member => ?_, ih parts.2⟩
        obtain ⟨k', v'⟩ := other
        rcases fst_mem_put member with rfl | member
        · grind
        · exact parts.1 _ member

/-- Dropping a key keeps the keys increasing. -/
theorem Sorted.drop {key : String} {entries : List (String × α)} (sorted : Sorted entries) :
    Sorted (drop key entries) :=
  List.Pairwise.filter _ sorted

end Entries

/-- A map with text keys. -/
structure StringMap (α : Type) where
  /-- The entries, in increasing order of their keys. -/
  entries : List (String × α)
  /-- The keys are strictly increasing. -/
  sorted : Entries.Sorted entries := by exact List.Pairwise.nil

namespace StringMap

variable {α : Type}

instance [DecidableEq α] : DecidableEq (StringMap α) := fun a b =>
  if h : a.entries = b.entries then
    .isTrue (by cases a; cases b; simp_all)
  else .isFalse fun equal => h (equal ▸ rfl)

/-- The map without entries. -/
def empty : StringMap α := ⟨[], List.Pairwise.nil⟩

instance : Inhabited (StringMap α) := ⟨empty⟩

/-- Whether there are no entries. -/
def isEmpty (map : StringMap α) : Bool :=
  map.entries.isEmpty

/-- Puts a value under a key, replacing an earlier one. -/
def insert (map : StringMap α) (key : String) (value : α) : StringMap α :=
  ⟨Entries.put key value map.entries, map.sorted.put⟩

/-- Drops a key. -/
def erase (map : StringMap α) (key : String) : StringMap α :=
  ⟨Entries.drop key map.entries, map.sorted.drop⟩

/-- The value under a key. -/
def get? (map : StringMap α) (key : String) : Option α :=
  map.entries.lookup key

/-- Whether there is a value under a key. -/
def contains (map : StringMap α) (key : String) : Bool :=
  (map.get? key).isSome

/-- The keys in increasing order. -/
def keys (map : StringMap α) : List String :=
  map.entries.map Prod.fst

/-- The map of a list of pairs; a later pair replaces an earlier one of the same key. -/
def ofList (pairs : List (String × α)) : StringMap α :=
  pairs.foldl (fun map pair => map.insert pair.1 pair.2) empty

/-- The entries that pass a test. -/
def filter (keep : String → α → Bool) (map : StringMap α) : StringMap α :=
  ⟨map.entries.filter fun entry => keep entry.1 entry.2, List.Pairwise.filter _ map.sorted⟩

end StringMap

end MessageBus

/-
**Filters place by place.** What a filter takes, in closed form. The levels before the first wildcard
for the rest decide, whatever stands behind it.

* `Topic.FitsAt` — filter and topic agree at a place, as far as the filter asks.
* `Topic.RestsAt` — the place of the first wildcard for the rest.
* `matchesLevels_of_restsAt`, `matchesLevels_of_notMem` — the recursion in closed form, with and
  without such a wildcard.
* `topicMatches_iff_fitsAt` — **what a filter takes**; in particular every text takes itself, and a
  filter without wildcards takes nothing else.
-/

import MessageBus.Topic
import Mathlib.Data.List.Basic
import Mathlib.Data.Nat.Basic

namespace MessageBus

namespace Topic

/-- At this place of the filter stands the wildcard for one level, or the level of the topic. -/
def FitsAt (filters topics : List (List Char)) (place : Nat) : Prop :=
  filters[place]? = some [wildcardOne] ∨ filters[place]? = topics[place]?

/-- At this place of the filter stands its first wildcard for the rest. -/
def RestsAt (filters : List (List Char)) (place : Nat) : Prop :=
  filters[place]? = some [wildcardAll] ∧ ∀ earlier < place, filters[earlier]? ≠ some [wildcardAll]

theorem restsAt_succ {level : List Char} {filters : List (List Char)} {place : Nat}
    (rests : RestsAt (level :: filters) (place + 1)) :
    level ≠ [wildcardAll] ∧ RestsAt filters place := by
  obtain ⟨here, none⟩ := rests
  refine ⟨fun same => none 0 (Nat.succ_pos place) (congrArg some same), here, ?_⟩
  intro earlier before
  exact none (earlier + 1) (Nat.succ_lt_succ before)

/-- Filter and topic fit up to a place if their first levels fit and so do the others. -/
theorem forall_fitsAt_succ {f t : List Char} {fs ts : List (List Char)} {count : Nat} :
    (∀ place < count + 1, FitsAt (f :: fs) (t :: ts) place) ↔
      (f = [wildcardOne] ∨ f = t) ∧ ∀ place < count, FitsAt fs ts place := by
  rw [Nat.forall_lt_succ_left]
  simp [FitsAt]

end Topic

open Topic

/-- A level other than the wildcard for the rest takes one level. -/
theorem matchesLevels_cons {f t : List Char} {fs ts : List (List Char)}
    (bounded : f ≠ [wildcardAll]) :
    matchesLevels (f :: fs) (t :: ts) = true ↔
      (f = [wildcardOne] ∨ f = t) ∧ matchesLevels fs ts = true := by
  simp [matchesLevels, bounded]

/-- **With a wildcard for the rest**, the levels before it decide. -/
theorem matchesLevels_of_restsAt {filters topics : List (List Char)} {place : Nat}
    (rests : RestsAt filters place) :
    matchesLevels filters topics = true ↔
      place ≤ topics.length ∧ ∀ earlier < place, FitsAt filters topics earlier := by
  induction filters generalizing topics place with
  | nil => cases rests.1
  | cons f fs ih =>
    cases place with
    | zero =>
      have all : f = [wildcardAll] := Option.some.inj rests.1
      cases topics <;> simp [matchesLevels, all]
    | succ place =>
      obtain ⟨bounded, restsBehind⟩ := restsAt_succ rests
      cases topics with
      | nil => simp [matchesLevels, bounded]
      | cons t ts =>
        rw [matchesLevels_cons bounded, ih restsBehind, forall_fitsAt_succ, List.length_cons,
          Nat.succ_le_succ_iff]
        exact and_left_comm

/-- **Without a wildcard for the rest**, all levels decide. -/
theorem matchesLevels_of_notMem {filters topics : List (List Char)}
    (bounded : [wildcardAll] ∉ filters) :
    matchesLevels filters topics = true ↔
      filters.length = topics.length ∧ ∀ place < filters.length, FitsAt filters topics place := by
  induction filters generalizing topics with
  | nil => cases topics <;> simp [matchesLevels]
  | cons f fs ih =>
    obtain ⟨boundedHere, boundedBehind⟩ := List.ne_and_not_mem_of_not_mem_cons bounded
    cases topics with
    | nil => simp [matchesLevels, boundedHere.symm]
    | cons t ts =>
      rw [matchesLevels_cons boundedHere.symm, ih boundedBehind, List.length_cons,
        List.length_cons, forall_fitsAt_succ, Nat.succ_inj]
      exact and_left_comm

theorem matchesLevels_self (levels : List (List Char)) : matchesLevels levels levels = true := by
  induction levels with
  | nil => rfl
  | cons level rest ih => simp [matchesLevels, ih]

/-- A text is known by its levels. -/
theorem Topic.levels_injective {text other : String}
    (same : levels text.toList = levels other.toList) : text = other := by
  have joined := congrArg (List.intercalate [separator]) same
  unfold levels at joined
  rw [List.intercalate_splitOn, List.intercalate_splitOn] at joined
  exact String.toList_inj.mp joined

/-- Where no wildcard for one level stands, a level that fits is the level of the topic. -/
theorem Topic.eq_of_forall_fitsAt {filters topics : List (List Char)}
    (literal : [wildcardOne] ∉ filters) (lengths : filters.length = topics.length)
    (fits : ∀ place < filters.length, FitsAt filters topics place) : filters = topics := by
  refine List.ext_getElem? fun place => ?_
  by_cases inside : place < filters.length
  · rcases fits place inside with one | same
    · exact absurd (List.mem_of_getElem? one) literal
    · exact same
  · rw [List.getElem?_eq_none (Nat.le_of_not_lt inside),
      List.getElem?_eq_none (lengths ▸ Nat.le_of_not_lt inside)]

/-- **What a filter takes.** With a wildcard for the rest, the topics that have at least as many
levels as stand before the first one and that fit there; without one, the topics that have as many
levels and fit everywhere. Every text takes itself, and a filter without wildcards takes no other. -/
theorem topicMatches_iff_fitsAt :
    (∀ (filter topic : String) (place : Nat), RestsAt (levels filter.toList) place →
      (topicMatches filter topic = true ↔ place ≤ (levels topic.toList).length ∧
        ∀ earlier < place, FitsAt (levels filter.toList) (levels topic.toList) earlier)) ∧
    (∀ filter topic : String, [wildcardAll] ∉ levels filter.toList →
      (topicMatches filter topic = true ↔
        (levels filter.toList).length = (levels topic.toList).length ∧
        ∀ place < (levels filter.toList).length,
          FitsAt (levels filter.toList) (levels topic.toList) place)) ∧
    (∀ text : String, topicMatches text text = true) ∧
    (∀ filter topic : String, [wildcardAll] ∉ levels filter.toList →
      [wildcardOne] ∉ levels filter.toList → (topicMatches filter topic = true ↔ topic = filter)) := by
  refine ⟨fun filter topic place => matchesLevels_of_restsAt,
    fun filter topic => matchesLevels_of_notMem, fun text => matchesLevels_self _, ?_⟩
  intro filter topic bounded literal
  constructor
  · intro taken
    obtain ⟨lengths, fits⟩ := (matchesLevels_of_notMem bounded).mp taken
    exact (levels_injective (eq_of_forall_fitsAt literal lengths fits)).symm
  · rintro rfl
    exact matchesLevels_self _

/-- A wildcard for the rest in the middle takes the topic that ends before it, an empty level is a
level, and a wildcard inside a longer level is none. -/
theorem topicMatches_iff_fitsAt_middle :
    RestsAt (levels "+//#/x".toList) 2 ∧ topicMatches "+//#/x" "a/" = true ∧
      ¬ topicMatches "+//#/x" "a" = true ∧
    [wildcardAll] ∉ levels "/+/b#".toList ∧ topicMatches "/+/b#" "//b#" = true ∧
    [wildcardOne] ∉ levels "a+/b#".toList ∧ ¬ topicMatches "a+/b#" "ax/b#" = true := by
  obtain ⟨rest, bounded, -, literal⟩ := topicMatches_iff_fitsAt
  have middle : RestsAt (levels "+//#/x".toList) 2 := by
    unfold RestsAt
    decide
  have inner : [wildcardAll] ∉ levels "/+/b#".toList := by decide
  have plain : [wildcardAll] ∉ levels "a+/b#".toList := by decide
  have longer : [wildcardOne] ∉ levels "a+/b#".toList := by decide
  refine ⟨middle, ?_, ?_, inner, ?_, longer, ?_⟩
  · exact (rest _ "a/" 2 middle).mpr (by unfold FitsAt; decide)
  · exact fun taken => absurd ((rest _ "a" 2 middle).mp taken).1 (by decide)
  · exact (bounded _ "//b#" inner).mpr (by unfold FitsAt; decide)
  · exact fun taken => absurd ((literal _ "ax/b#" plain longer).mp taken) (by decide)

end MessageBus

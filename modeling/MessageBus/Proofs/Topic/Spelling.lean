/-
**The two spellings of wildcards.** A filter takes a topic as its subject covers that of the topic,
with one exception.

* `Topic.IsFree` — a text without the characters that have a meaning in subjects alone.
* `tokens_topicToSubject` — the tokens of a subject spelling are the levels, spelled one by one.
* `Topic.EndsAtRest` — the topic ends where the first wildcard for the rest stands in the filter:
  filters take the parent of what they take, patterns do not.
* `coversTokens_spelled` — level by level, covering is matching apart from that.
* `subjectCovers_iff_topicMatches` — **the two grammars agree up to this one exception**.
-/

import MessageBus.Proofs.Subject.Coverage
import MessageBus.Topic

namespace MessageBus

namespace Topic

/-- A character that has no meaning in subjects alone. -/
def IsFreeChar (c : Char) : Prop :=
  c ≠ '.' ∧ c ≠ '*' ∧ c ≠ '>'

/-- A text without the characters that have a meaning in subjects alone. -/
def IsFree (text : String) : Prop :=
  ∀ c ∈ text.toList, IsFreeChar c

/-- No level of the topic is a wildcard for the rest. A wildcard for one level does no harm: filters
and patterns take it as they take any level. -/
def IsBounded (topic : String) : Prop :=
  [wildcardAll] ∉ levels topic.toList

/-- The first wildcard for the rest stands in the filter where the topic has ended. -/
def EndsAtRest (filter topic : String) : Prop :=
  (levels filter.toList).idxOf? [wildcardAll] = some (levels topic.toList).length

end Topic

namespace Subject

open Topic (IsFreeChar)

/-! ### Spelling one level -/

/-- The subject spelling of a level. -/
def spelled (level : List Char) : List Char :=
  level.map ofTopicChar

theorem ofTopicChar_injOn {c d : Char} (freeC : IsFreeChar c) (freeD : IsFreeChar d)
    (same : ofTopicChar c = ofTopicChar d) : c = d := by
  obtain ⟨separatorC, oneC, allC⟩ := freeC
  obtain ⟨separatorD, oneD, allD⟩ := freeD
  unfold ofTopicChar at same
  grind

/-- The subject spelling tells levels of free characters apart. -/
theorem spelled_injOn {level other : List Char} (free : ∀ c ∈ level, IsFreeChar c)
    (freeOther : ∀ c ∈ other, IsFreeChar c) (same : spelled level = spelled other) :
    level = other := by
  induction level generalizing other with
  | nil => exact (List.map_eq_nil_iff.mp same.symm).symm
  | cons c rest ih =>
    obtain _ | ⟨d, others⟩ := other
    · cases same
    obtain ⟨sameChar, sameRest⟩ := List.cons.inj same
    obtain ⟨freeC, freeRest⟩ := List.forall_mem_cons.mp free
    obtain ⟨freeD, freeOthers⟩ := List.forall_mem_cons.mp freeOther
    rw [ofTopicChar_injOn freeC freeD sameChar, ih freeRest freeOthers sameRest]

theorem spelled_eq_one {level : List Char} (free : ∀ c ∈ level, IsFreeChar c) :
    spelled level = ['*'] ↔ level = [Topic.wildcardOne] := by
  refine ⟨fun same => spelled_injOn free ?_ same, fun same => same ▸ rfl⟩
  simp [IsFreeChar, Topic.wildcardOne]

theorem spelled_eq_all {level : List Char} (free : ∀ c ∈ level, IsFreeChar c) :
    spelled level = ['>'] ↔ level = [Topic.wildcardAll] := by
  refine ⟨fun same => spelled_injOn free ?_ same, fun same => same ▸ rfl⟩
  simp [IsFreeChar, Topic.wildcardAll]

/-! ### Spelling all levels -/

/-- The tokens of a spelled text are its levels, spelled one by one. -/
theorem tokens_spelled {text : List Char} (free : ∀ c ∈ text, IsFreeChar c) :
    tokens (spelled text) = (Topic.levels text).map spelled := by
  induction text with
  | nil => rfl
  | cons c rest ih =>
    obtain ⟨freeC, freeRest⟩ := List.forall_mem_cons.mp free
    have splits : (ofTopicChar c == separator) = (c == Topic.separator) := by
      have := freeC.1
      unfold ofTopicChar separator Topic.separator
      grind
    have apart := ih freeRest
    unfold tokens Topic.levels spelled at apart ⊢
    rw [List.map_cons, List.splitOn_cons_eq_if_modifyHead, List.splitOn_cons_eq_if_modifyHead,
      splits, apart]
    by_cases separates : c == Topic.separator
    · rw [if_pos separates, if_pos separates]
      rfl
    · rw [if_neg separates, if_neg separates]
      cases rest.splitOn Topic.separator with
      | nil => rfl
      | cons first others => rfl

theorem tokens_topicToSubject {text : String} (free : Topic.IsFree text) :
    tokens (topicToSubject text).toList = (Topic.levels text.toList).map spelled := by
  rw [topicToSubject, String.toList_ofList]
  exact tokens_spelled free

end Subject

namespace Topic

theorem IsFree.of_mem_levels {text : String} (free : IsFree text) :
    ∀ level ∈ levels text.toList, ∀ c ∈ level, IsFreeChar c :=
  fun _ member c inside => free c (mem_of_mem_splitOn member inside)

end Topic

open Subject

/-! ### Covering and matching -/

/-- Behind a level that is no wildcard for the rest, the place of the first one counts from
there. -/
theorem idxOf?_cons_ne {level wildcard : List Char} {levels : List (List Char)} {count : Nat}
    (different : level ≠ wildcard) :
    (level :: levels).idxOf? wildcard ≠ some (count + 1) ↔
      levels.idxOf? wildcard ≠ some count := by
  rw [List.idxOf?_cons, if_neg (by simpa using different)]
  cases levels.idxOf? wildcard <;> simp

/-- **Level by level, covering is matching**, unless the filter takes the rest where the topic has
ended. -/
theorem coversTokens_spelled {filters topics : List (List Char)}
    (freeFilters : ∀ level ∈ filters, ∀ c ∈ level, Topic.IsFreeChar c)
    (freeTopics : ∀ level ∈ topics, ∀ c ∈ level, Topic.IsFreeChar c)
    (bounded : [Topic.wildcardAll] ∉ topics) :
    coversTokens (filters.map spelled) (topics.map spelled) = true ↔
      matchesLevels filters topics = true ∧
        filters.idxOf? [Topic.wildcardAll] ≠ some topics.length := by
  induction filters generalizing topics with
  | nil => cases topics <;> simp [coversTokens, matchesLevels]
  | cons f fs ih =>
    obtain ⟨freeF, freeFs⟩ := List.forall_mem_cons.mp freeFilters
    cases topics with
    | nil =>
      -- The topic has ended: a filter goes on taking it with a wildcard for the rest, a pattern
      -- never.
      simp [coversTokens, matchesLevels, List.idxOf?_cons]
    | cons t ts =>
      obtain ⟨freeT, freeTs⟩ := List.forall_mem_cons.mp freeTopics
      obtain ⟨notAll, boundedTs⟩ := List.ne_and_not_mem_of_not_mem_cons bounded
      have rest := ih freeFs freeTs boundedTs
      have plain : spelled t ≠ ['>'] := fun same => notAll ((spelled_eq_all freeT).mp same).symm
      simp only [List.map_cons, coversTokens, matchesLevels, List.length_cons]
      by_cases all : f = [Topic.wildcardAll]
      · rw [if_pos ((spelled_eq_all freeF).mpr all), all]
        simp [List.idxOf?_cons]
      rw [if_neg (all ∘ (spelled_eq_all freeF).mp), idxOf?_cons_ne all]
      by_cases one : f = [Topic.wildcardOne]
      · have apart : Topic.wildcardOne ≠ Topic.wildcardAll := by decide
        rw [if_pos ((spelled_eq_one freeF).mpr one)]
        simp [plain, one, apart, rest]
      · rw [if_neg (one ∘ (spelled_eq_one freeF).mp)]
        have same : spelled f = spelled t ↔ f = t :=
          ⟨spelled_injOn freeF freeT, congrArg spelled⟩
        simp [plain, all, one, rest, same, and_assoc]

/-- **The two grammars agree up to one exception**: for texts without the characters of subjects,
the subject of a filter covers that of a topic without a wildcard for the rest exactly if the filter
takes the topic and does not do so with a wildcard for the rest that begins where the topic has
ended. -/
theorem subjectCovers_iff_topicMatches {filter topic : String} (freeFilter : Topic.IsFree filter)
    (freeTopic : Topic.IsFree topic) (bounded : Topic.IsBounded topic) :
    subjectCovers (topicToSubject filter) (topicToSubject topic) = true ↔
      topicMatches filter topic = true ∧ ¬ Topic.EndsAtRest filter topic := by
  unfold subjectCovers topicMatches Topic.EndsAtRest
  rw [tokens_topicToSubject freeFilter, tokens_topicToSubject freeTopic]
  exact coversTokens_spelled freeFilter.of_mem_levels freeTopic.of_mem_levels bounded

/-- A filter takes what is below a topic and that topic, and its subject covers the first alone. -/
theorem subjectCovers_iff_topicMatches_parent :
    Topic.IsFree "+x/+/#" ∧ Topic.IsFree "+x/y/z" ∧ Topic.IsFree "+x/y" ∧
      Topic.IsBounded "+x/y/z" ∧ Topic.IsBounded "+x/y" ∧
      subjectCovers (topicToSubject "+x/+/#") (topicToSubject "+x/y/z") = true ∧
      topicMatches "+x/+/#" "+x/y" = true ∧
      ¬ subjectCovers (topicToSubject "+x/+/#") (topicToSubject "+x/y") = true := by
  have freeFilter : Topic.IsFree "+x/+/#" := by simp [Topic.IsFree, Topic.IsFreeChar]
  have freeBelow : Topic.IsFree "+x/y/z" := by simp [Topic.IsFree, Topic.IsFreeChar]
  have freeParent : Topic.IsFree "+x/y" := by simp [Topic.IsFree, Topic.IsFreeChar]
  have below : Topic.IsBounded "+x/y/z" := by unfold Topic.IsBounded; decide
  have parent : Topic.IsBounded "+x/y" := by unfold Topic.IsBounded; decide
  refine ⟨freeFilter, freeBelow, freeParent, below, parent, ?_, by decide, ?_⟩
  · exact (subjectCovers_iff_topicMatches freeFilter freeBelow below).mpr
      ⟨by decide, by unfold Topic.EndsAtRest; decide⟩
  · exact fun covers => ((subjectCovers_iff_topicMatches freeFilter freeParent parent).mp covers).2
      (by unfold Topic.EndsAtRest; decide)

end MessageBus

/-
**Response topics of different requests.** As filters and as subjects they take nothing of each
other, whatever levels and wildcards their bases have, as long as the base of the one that takes has
no wildcard for the rest.

* `Fits` — a level with a wildcard for one level in its place, or the same level.
* `forall₂_of_matchesLevels`, `forall₂_of_coversTokens`, `forall₂_of_takes` — without a wildcard for
  the rest, what is taken fits level by level, in all three grammars.
* `eq_of_forall₂_concat` — so the last levels fit, and these are the identifiers.
* `responseTopics_disjoint` — **a response topic takes one of another request only if the
  identifiers are the same.**
-/

import MessageBus.Proofs.Topic.Filter
import MessageBus.Proofs.Topic.Response
import MessageBus.Proofs.Topic.Spelling
import Mathlib.Data.List.Forall2

namespace MessageBus

/-- The level of a filter is the wildcard for one level, or the level of the topic. -/
def Fits (one filter topic : List Char) : Prop :=
  filter = one ∨ filter = topic

open Topic Subject

/-! ### Level by level -/

/-- Without a wildcard for the rest, a filter takes level by level. -/
theorem forall₂_of_matchesLevels {filters topics : List (List Char)}
    (bounded : [Topic.wildcardAll] ∉ filters) (taken : matchesLevels filters topics = true) :
    List.Forall₂ (Fits [Topic.wildcardOne]) filters topics := by
  induction filters generalizing topics with
  | nil =>
    cases topics with
    | nil => exact .nil
    | cons t ts => cases taken
  | cons f fs ih =>
    obtain ⟨boundedHere, boundedBehind⟩ := List.ne_and_not_mem_of_not_mem_cons bounded
    cases topics with
    | nil => exact absurd (beq_iff_eq.mp taken) boundedHere.symm
    | cons t ts =>
      obtain ⟨fits, rest⟩ := (matchesLevels_cons boundedHere.symm).mp taken
      exact .cons fits (ih boundedBehind rest)

/-- Without a wildcard for the rest, a pattern covers token by token. -/
theorem forall₂_of_coversTokens {patterns subjects : List (List Char)}
    (bounded : ['>'] ∉ patterns) (covers : coversTokens patterns subjects = true) :
    List.Forall₂ (Fits ['*']) patterns subjects := by
  induction patterns generalizing subjects with
  | nil =>
    cases subjects with
    | nil => exact .nil
    | cons s ss => cases covers
  | cons p ps ih =>
    obtain ⟨boundedHere, boundedBehind⟩ := List.ne_and_not_mem_of_not_mem_cons bounded
    cases subjects with
    | nil => cases covers
    | cons s ss =>
      rw [coversTokens, if_neg boundedHere.symm] at covers
      by_cases one : p = ['*']
      · rw [if_pos one, Bool.and_eq_true] at covers
        exact .cons (.inl one) (ih boundedBehind covers.2)
      · rw [if_neg one, Bool.and_eq_true, Bool.and_eq_true, beq_iff_eq] at covers
        exact .cons (.inr covers.1.1) (ih boundedBehind covers.2)

/-- Without a wildcard for the rest, a pattern takes token by token. -/
theorem forall₂_of_takes {patterns tokens : List (List Char)} (taken : Takes patterns tokens)
    (bounded : ['>'] ∉ patterns) : List.Forall₂ (Fits ['*']) patterns tokens := by
  induction taken with
  | nil => exact .nil
  | one token _ ih => exact .cons (.inl rfl) (ih fun member => bounded (.tail _ member))
  | all => exact absurd List.mem_cons_self bounded
  | literal _ _ _ ih => exact .cons (.inr rfl) (ih fun member => bounded (.tail _ member))

/-- What fits level by level fits in the last level, and a last level without wildcards is the
same. -/
theorem eq_of_forall₂_concat {one last otherLast : List Char} {front otherFront : List (List Char)}
    (fits : List.Forall₂ (Fits one) (front ++ [last]) (otherFront ++ [otherLast]))
    (literal : last ≠ one) : last = otherLast := by
  have reversed := List.rel_reverse fits
  rw [List.reverse_concat, List.reverse_concat, List.forall₂_cons] at reversed
  exact reversed.1.resolve_left literal

/-! ### Response topics -/

section Response

variable {base id : String}

/-- A name is no wildcard. -/
theorem Topic.IsName.toList_ne {c : Char} (named : IsName id) (wildcard : c = '+' ∨ c = '#') :
    id.toList ≠ [c] := by
  intro same
  obtain ⟨-, plus, hash⟩ := named.2 c (same ▸ List.mem_singleton_self c)
  exact wildcard.elim plus hash

/-- The levels of a response topic are levels of the base, then the identifier. -/
theorem levels_responseTopic (base : String) (named : IsName id) :
    ∃ front : List (List Char), (∀ level ∈ front, level ∈ levels base.toList) ∧
      levels (responseTopic base id).toList = front ++ [id.toList] := by
  obtain ⟨front, ofBase, pieces⟩ := splitOn_responseTopic (fun c => c) base named (by
    rw [List.map_id']
    exact fun member => (named.2 _ member).1 rfl)
  simp only [List.map_id'] at ofBase pieces
  exact ⟨front, ofBase, pieces⟩

/-- **Response topics of different requests are disjoint.** Let both identifiers be names. As a
filter, the response topic of one request takes that of another only if the identifiers are the
same, unless its base has a wildcard for the rest; the bases may otherwise be anything. The same
holds of their subjects, both for covering and for taking, for identifiers that have none of the
characters with a meaning in subjects either. -/
theorem responseTopics_disjoint {other otherId : String} (named : IsName id)
    (namedOther : IsName otherId) :
    ([Topic.wildcardAll] ∉ levels base.toList →
      topicMatches (responseTopic base id) (responseTopic other otherId) = true →
        id = otherId) ∧
    (IsFree id → IsFree otherId → ['>'] ∉ tokens (topicToSubject base).toList →
      subjectCovers (topicToSubject (responseTopic base id))
          (topicToSubject (responseTopic other otherId)) = true ∨
        Subject.Matches (topicToSubject (responseTopic base id))
          (topicToSubject (responseTopic other otherId)) →
        id = otherId) := by
  constructor
  · intro bounded taken
    obtain ⟨front, ofBase, filters⟩ := levels_responseTopic base named
    obtain ⟨otherFront, -, topics⟩ := levels_responseTopic other namedOther
    rw [topicMatches, filters, topics] at taken
    have boundedAll : [Topic.wildcardAll] ∉ front ++ [id.toList] := by
      rw [List.mem_append, List.mem_singleton, not_or]
      exact ⟨bounded ∘ ofBase _, (named.toList_ne (.inr rfl)).symm⟩
    exact String.toList_inj.mp (eq_of_forall₂_concat (forall₂_of_matchesLevels boundedAll taken)
      (named.toList_ne (.inl rfl)))
  · intro free freeOther bounded taken
    obtain ⟨front, ofBase, patterns⟩ :=
      tokens_responseSubject base named fun member => (free _ member).1 rfl
    obtain ⟨otherFront, -, subjects⟩ :=
      tokens_responseSubject other namedOther fun member => (freeOther _ member).1 rfl
    have star : id.toList ≠ ['*'] := fun same =>
      (free '*' (same ▸ List.mem_singleton_self _)).2.1 rfl
    have rest : id.toList ≠ ['>'] := fun same =>
      (free '>' (same ▸ List.mem_singleton_self _)).2.2 rfl
    have boundedAll : ['>'] ∉ front ++ [id.toList] := by
      rw [List.mem_append, List.mem_singleton, not_or]
      exact ⟨bounded ∘ ofBase _, rest.symm⟩
    have fits : List.Forall₂ (Fits ['*']) (front ++ [id.toList])
        (otherFront ++ [otherId.toList]) := by
      rw [← patterns, ← subjects]
      rw [← patterns] at boundedAll
      rcases taken with covers | taken
      · exact forall₂_of_coversTokens boundedAll covers
      · exact forall₂_of_takes taken boundedAll
    exact String.toList_inj.mp (eq_of_forall₂_concat fits star)

end Response

/-- A base may hold wildcards for one level and end with separators. The identifier is still told
apart, as a filter and as a subject; behind a wildcard for the rest it is not. -/
theorem responseTopics_disjoint_wildcard :
    IsName "r1" ∧ IsName "r2" ∧ IsFree "r1" ∧ IsFree "r2" ∧
      [Topic.wildcardAll] ∉ levels "cim/+//".toList ∧
      ['>'] ∉ tokens (topicToSubject "cim/+//").toList ∧
      topicMatches (responseTopic "cim/+//" "r1") (responseTopic "cim/x" "r1") = true ∧
      ¬ topicMatches (responseTopic "cim/+//" "r1") (responseTopic "cim/x" "r2") = true ∧
      ¬ subjectCovers (topicToSubject (responseTopic "cim/+//" "r1"))
        (topicToSubject (responseTopic "cim/x" "r2")) = true ∧
      topicMatches (responseTopic "#" "r1") (responseTopic "cim/x" "r2") = true := by
  have named : IsName "r1" ∧ IsName "r2" := by simp [IsName]
  have free : IsFree "r1" ∧ IsFree "r2" := by simp [IsFree, IsFreeChar]
  have bounded : [Topic.wildcardAll] ∉ levels "cim/+//".toList := by decide
  have boundedSubject : ['>'] ∉ tokens (topicToSubject "cim/+//").toList := by decide
  have apart : "r1" ≠ "r2" := by decide
  have disjoint := @responseTopics_disjoint "cim/+//" "r1" "cim/x" "r2" named.1 named.2
  refine ⟨named.1, named.2, free.1, free.2, bounded, boundedSubject, by decide, ?_, ?_, by decide⟩
  · exact fun taken => apart (disjoint.1 bounded taken)
  · exact fun covers => apart (disjoint.2 free.1 free.2 boundedSubject (.inl covers))

end MessageBus

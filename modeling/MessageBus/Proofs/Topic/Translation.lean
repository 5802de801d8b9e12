/-
**Topics as subjects and back.** Which texts survive the change of spelling, in either direction.

* `Subject.IsClean` — a text without the characters that have a meaning in topics alone;
  `Topic.IsFree` is its counterpart.
* `toTopicChar_ofTopicChar`, `ofTopicChar_toTopicChar` — the characters that come back.
* `subjectToTopic_topicToSubject_iff`, `topicToSubject_subjectToTopic_iff` — a text comes back exactly
  if all of its characters do.
* `topicToSubject_bijOn` — **the spellings are a bijection** between the texts of both kinds, which
  keeps the levels and their order.
-/

import MessageBus.Proofs.Topic.Spelling
import Mathlib.Data.Set.Function

namespace MessageBus

namespace Subject

open Topic (IsFreeChar)

/-- A character that has no meaning in topics alone. -/
def IsCleanChar (c : Char) : Prop :=
  c ≠ '/' ∧ c ≠ '+' ∧ c ≠ '#'

/-- A text without the characters that have a meaning in topics alone. -/
def IsClean (text : String) : Prop :=
  ∀ c ∈ text.toList, IsCleanChar c

/-! ### Single characters -/

/-- A character comes back from its subject spelling unless it had a meaning in subjects before. -/
theorem toTopicChar_ofTopicChar {c : Char} : toTopicChar (ofTopicChar c) = c ↔ IsFreeChar c := by
  unfold toTopicChar ofTopicChar IsFreeChar
  grind

/-- A character comes back from its topic spelling unless it had a meaning in topics before. -/
theorem ofTopicChar_toTopicChar {c : Char} : ofTopicChar (toTopicChar c) = c ↔ IsCleanChar c := by
  unfold toTopicChar ofTopicChar IsCleanChar
  grind

theorem isCleanChar_ofTopicChar (c : Char) : IsCleanChar (ofTopicChar c) := by
  unfold ofTopicChar IsCleanChar
  grind

theorem isFreeChar_toTopicChar (c : Char) : IsFreeChar (toTopicChar c) := by
  unfold toTopicChar IsFreeChar
  grind

/-! ### Whole texts -/

/-- A text is kept by two changes of its characters that keep each of them. -/
theorem map_map_eq_self {f g : Char → Char} {text : List Char} :
    (text.map f).map g = text ↔ ∀ c ∈ text, g (f c) = c := by
  conv_lhs => rw [List.map_map, ← List.map_id text, List.map_map]
  exact List.map_inj_left

/-- A subject never holds a character with a meaning in topics alone. -/
theorem isClean_topicToSubject (topic : String) : IsClean (topicToSubject topic) := by
  intro c member
  rw [topicToSubject, String.toList_ofList, List.mem_map] at member
  obtain ⟨original, -, rfl⟩ := member
  exact isCleanChar_ofTopicChar original

/-- A topic spelling never holds a character with a meaning in subjects alone. -/
theorem isFree_subjectToTopic (subject : String) : Topic.IsFree (subjectToTopic subject) := by
  intro c member
  rw [subjectToTopic, String.toList_ofList, List.mem_map] at member
  obtain ⟨original, -, rfl⟩ := member
  exact isFreeChar_toTopicChar original

end Subject

open Subject

/-- **A topic comes back from its subject** exactly if it has none of the characters of subjects. -/
theorem subjectToTopic_topicToSubject_iff {topic : String} :
    subjectToTopic (topicToSubject topic) = topic ↔ Topic.IsFree topic := by
  rw [← String.toList_inj, subjectToTopic, topicToSubject, String.toList_ofList,
    String.toList_ofList, map_map_eq_self]
  simp only [toTopicChar_ofTopicChar]
  rfl

/-- **A subject comes back from its topic** exactly if it has none of the characters of topics. -/
theorem topicToSubject_subjectToTopic_iff {subject : String} :
    topicToSubject (subjectToTopic subject) = subject ↔ IsClean subject := by
  rw [← String.toList_inj, subjectToTopic, topicToSubject, String.toList_ofList,
    String.toList_ofList, map_map_eq_self]
  simp only [ofTopicChar_toTopicChar]
  rfl

/-- **The two spellings are a bijection on exactly their alphabets.** A topic comes back from its
subject exactly if it has none of the characters of subjects, and a subject from its topic exactly
if it has none of those of topics, which no subject of a topic has. Between the texts of both kinds
the subject spelling is one to one and onto, and level by level: the tokens of the subject are the
levels of the topic, each spelled for itself, in their order. -/
theorem topicToSubject_bijOn :
    (∀ topic : String, subjectToTopic (topicToSubject topic) = topic ↔ Topic.IsFree topic) ∧
    (∀ subject : String,
      topicToSubject (subjectToTopic subject) = subject ↔ IsClean subject) ∧
    Set.BijOn topicToSubject {topic | Topic.IsFree topic} {subject | IsClean subject} ∧
    (∀ topic : String, IsClean (topicToSubject topic)) ∧
    (∀ topic : String, Topic.IsFree topic →
      tokens (topicToSubject topic).toList = (Topic.levels topic.toList).map spelled) := by
  have inverse : Set.InvOn subjectToTopic topicToSubject
      {topic | Topic.IsFree topic} {subject | IsClean subject} :=
    ⟨fun topic free => subjectToTopic_topicToSubject_iff.mpr free,
      fun subject clean => topicToSubject_subjectToTopic_iff.mpr clean⟩
  exact ⟨fun topic => subjectToTopic_topicToSubject_iff,
    fun subject => topicToSubject_subjectToTopic_iff,
    inverse.bijOn (fun topic _ => isClean_topicToSubject topic)
      fun subject _ => isFree_subjectToTopic subject,
    isClean_topicToSubject, fun topic => tokens_topicToSubject⟩

/-- Empty levels and wildcards have their places in the subject, and a dot in a level would part it
in two. -/
theorem topicToSubject_bijOn_empty :
    Topic.IsFree "cim/+//#" ∧ Topic.IsFree "cim/+/#" ∧
      tokens (topicToSubject "cim/+//#").toList = [['c', 'i', 'm'], ['*'], [], ['>']] ∧
      topicToSubject "cim/+//#" ≠ topicToSubject "cim/+/#" ∧
      ¬ subjectToTopic (topicToSubject "cim/a.b") = "cim/a.b" := by
  obtain ⟨back, -, bijective, -, levelwise⟩ := topicToSubject_bijOn
  have free : Topic.IsFree "cim/+//#" ∧ Topic.IsFree "cim/+/#" := by
    simp [Topic.IsFree, Topic.IsFreeChar]
  refine ⟨free.1, free.2, (levelwise _ free.1).trans (by decide), ?_, ?_⟩
  · exact fun same => absurd (bijective.injOn free.1 free.2 same) (by decide)
  · exact fun same => absurd ((back _).mp same) (by simp [Topic.IsFree, Topic.IsFreeChar])

end MessageBus

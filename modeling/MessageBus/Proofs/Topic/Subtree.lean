/-
**Subtrees of topics.** What the wildcard filter of a topic under construction takes.

* `TopicBuilder.Step`, `after` — all that can be done to a topic under construction, and the topic
  after some steps.
* `Topic.IsBelow` — a topic is another one, or goes on behind a separator there.
* `levels_isPrefix_iff` — a topic is below another exactly if its levels begin with those of that.
* `TopicBuilder.build_after` — further steps only append parts; `Topic.foldl_append_isBelow` — these
  lead below what was built.
* `matchesLevels_rest`, `matchesLevels_rest_iff` — a wildcard for the rest behind some levels takes
  all that begin with them, and nothing else if they are no wildcards.
* `topicMatches_buildWildcard` — **the wildcard filter takes the topic with its subtree**, and
  nothing else if the topic has no wildcards.
-/

import MessageBus.Proofs.Topic.Filter
import MessageBus.Proofs.Topic.Joining

namespace MessageBus

namespace Topic

/-- The topic is `topic`, or goes on behind a separator there. -/
def IsBelow (topic other : List Char) : Prop :=
  other = topic ∨ topic ++ [separator] <+: other

/-- Joining the levels of two texts in one go joins the texts. -/
theorem intercalate_append_of_ne_nil {levels others : List (List Char)} (some : levels ≠ [])
    (more : others ≠ []) :
    [separator].intercalate (levels ++ others) =
      [separator].intercalate levels ++ separator :: [separator].intercalate others := by
  induction levels with
  | nil => exact absurd rfl some
  | cons level rest ih =>
    cases rest with
    | nil =>
      obtain ⟨next, others, rfl⟩ := List.exists_cons_of_ne_nil more
      simp [List.intercalate_cons_cons]
    | cons next rest =>
      have behind := ih (List.cons_ne_nil next rest)
      simp only [List.cons_append, List.intercalate_cons_cons, List.append_assoc] at behind ⊢
      rw [behind]

/-- **A topic is below another exactly if its levels begin with those of that.** -/
theorem levels_isPrefix_iff {topic other : List Char} :
    levels topic <+: levels other ↔ IsBelow topic other := by
  constructor
  · rintro ⟨rest, whole⟩
    have joined : [separator].intercalate (levels topic ++ rest) = other := by
      rw [whole, levels, List.intercalate_splitOn]
    have own : [separator].intercalate (levels topic) = topic := List.intercalate_splitOn _
    have some : levels topic ≠ [] := List.splitOn_ne_nil _ _
    by_cases none : rest = []
    · rw [none, List.append_nil, own] at joined
      exact .inl joined.symm
    · rw [intercalate_append_of_ne_nil some none, own] at joined
      exact .inr ⟨[separator].intercalate rest, by rw [List.append_assoc]; exact joined⟩
  · rintro (rfl | ⟨rest, rfl⟩)
    · exact List.prefix_refl _
    · refine ⟨levels rest, ?_⟩
      rw [levels, levels, levels, List.append_assoc]
      exact (List.splitOn_append_cons_self topic rest).symm

/-- What is built by appending parts is below what they are appended to. -/
theorem foldl_append_isBelow {topic : List Char} (begun : topic ≠ []) (parts : List (List Char)) :
    IsBelow topic (parts.foldl append topic) := by
  refine List.foldlRecOn parts append (.inl rfl) fun built below part _ => ?_
  have started : built ≠ [] := by
    rcases below with rfl | ⟨rest, rfl⟩
    · exact begun
    · simp
  rcases append_cases built part with ⟨-, kept⟩ | ⟨-, ⟨empty, -⟩ | ⟨-, joined⟩⟩
  · rwa [kept]
  · exact absurd empty started
  · rw [joined]
    rcases below with rfl | under
    · exact .inr ⟨Text.trimWhere isSeparator part, by rw [List.append_assoc]; rfl⟩
    · exact .inr (under.trans (List.prefix_append _ _))

end Topic

open Topic

/-! ### Wildcards for the rest -/

/-- Levels with a wildcard for the rest behind them take all that begin with them, wildcards among
them or not. -/
theorem matchesLevels_rest (front rest : List (List Char)) :
    matchesLevels (front ++ [[wildcardAll]]) (front ++ rest) = true := by
  induction front with
  | nil => cases rest <;> simp [matchesLevels]
  | cons level front ih => simp [matchesLevels, ih]

/-- **Literal levels with a wildcard for the rest behind them** take exactly what begins with
them. -/
theorem matchesLevels_rest_iff {front topics : List (List Char)}
    (literal : ∀ level ∈ front, level ≠ [wildcardOne] ∧ level ≠ [wildcardAll]) :
    matchesLevels (front ++ [[wildcardAll]]) topics = true ↔ front <+: topics := by
  refine ⟨fun taken => ?_, ?_⟩
  · induction front generalizing topics with
    | nil => exact List.nil_prefix
    | cons level front ih =>
      obtain ⟨⟨notOne, notAll⟩, literalBehind⟩ := List.forall_mem_cons.mp literal
      cases topics with
      | nil => exact absurd (beq_iff_eq.mp taken) notAll
      | cons topic topics =>
        obtain ⟨fits, behind⟩ := (matchesLevels_cons notAll).mp taken
        rw [fits.resolve_left notOne]
        exact List.cons_prefix_cons.mpr ⟨rfl, ih literalBehind behind⟩
  · rintro ⟨rest, rfl⟩
    exact matchesLevels_rest front rest

/-! ### Topics under construction -/

namespace TopicBuilder

/-- What can be done to a topic under construction. -/
inductive Step
  | segment (part : String)
  | escaped (name : String)
  | escapeNames (escapes : Bool)

/-- The topic under construction after one step. -/
def apply (builder : TopicBuilder) : Step → TopicBuilder
  | .segment part => builder.segment part
  | .escaped name => builder.escaped name
  | .escapeNames escapes => builder.escapeNames escapes

/-- The topic under construction after some steps. -/
def after (builder : TopicBuilder) (steps : List Step) : TopicBuilder :=
  steps.foldl apply builder

/-- Steps leave the parts that are there in their places. -/
theorem parts_after (builder : TopicBuilder) (steps : List Step) :
    builder.parts <+: (builder.after steps).parts := by
  refine List.foldlRecOn (motive := fun built : TopicBuilder => builder.parts <+: built.parts) steps
    apply (List.prefix_refl _) fun built kept step _ => kept.trans ?_
  cases step with
  | segment part => exact List.prefix_append _ _
  | escaped name => exact List.prefix_append _ _
  | escapeNames escapes => exact List.prefix_refl _

/-- A topic that was started has a part. -/
theorem parts_start_after_ne_nil (base : String) (steps : List Step) :
    ((start base).after steps).parts ≠ [] :=
  (parts_after (start base) steps).ne_nil (List.cons_ne_nil base [])

/-- **Further steps append parts** to what was built. -/
theorem build_after {builder : TopicBuilder} (begun : builder.parts ≠ []) (steps : List Step) :
    ∃ parts : List (List Char),
      (builder.after steps).build.toList = parts.foldl Topic.append builder.build.toList := by
  obtain ⟨more, kept⟩ := builder.parts_after steps
  obtain ⟨first, rest, parts⟩ := List.exists_cons_of_ne_nil begun
  refine ⟨more.map String.toList, ?_⟩
  rw [build, build, toList_buildTopic, toList_buildTopic, ← kept, parts, List.map_append,
    List.map_cons, List.cons_append, Topic.join, Topic.join, List.foldl_append]

/-- The wildcard filter is the topic with a level for the rest, or that alone if there is no
topic. -/
theorem toList_buildWildcard {builder : TopicBuilder} (begun : builder.parts ≠ []) :
    builder.buildWildcard.toList =
      if builder.build.toList = [] then [wildcardAll]
      else builder.build.toList ++ [separator, wildcardAll] := by
  obtain ⟨first, rest, parts⟩ := List.exists_cons_of_ne_nil begun
  have level : Text.trimWhere isSeparator [wildcardAll] = [wildcardAll] := by decide
  have built : builder.buildWildcard.toList = Topic.append builder.build.toList [wildcardAll] := by
    rw [buildWildcard, build, build, segment, toList_buildTopic, toList_buildTopic, parts]
    simp [Topic.join]
  rw [built, Topic.append, level]
  simp

/-- The levels of the wildcard filter of a topic. -/
theorem levels_buildWildcard {builder : TopicBuilder} (begun : builder.parts ≠ [])
    (named : builder.build.toList ≠ []) :
    levels builder.buildWildcard.toList = levels builder.build.toList ++ [[wildcardAll]] := by
  rw [toList_buildWildcard begun, if_neg named, levels, levels]
  exact List.splitOn_append_cons_self _ _

end TopicBuilder

open TopicBuilder

/-- **The wildcard filter of a topic under construction takes the topic with its subtree.** Whatever
was done to build the topic and whatever is done further, what comes out is taken. If the topic is
not empty and none of its levels is a wildcard, its filter takes exactly the topic and all that goes
on behind a separator there. -/
theorem topicMatches_buildWildcard :
    (∀ (base : String) (steps further : List Step),
      topicMatches ((start base).after steps).buildWildcard
        (((start base).after steps).after further).build = true) ∧
    (∀ (base : String) (steps : List Step), ((start base).after steps).build ≠ "" →
      (∀ level ∈ levels ((start base).after steps).build.toList,
        level ≠ [wildcardOne] ∧ level ≠ [wildcardAll]) →
      ∀ topic : String, topicMatches ((start base).after steps).buildWildcard topic = true ↔
        topic = ((start base).after steps).build ∨
          ∃ rest, topic = ((start base).after steps).build ++ "/" ++ rest) := by
  constructor
  · intro base steps further
    have begun := parts_start_after_ne_nil base steps
    obtain ⟨parts, extended⟩ := build_after begun further
    rw [topicMatches, extended]
    by_cases empty : ((start base).after steps).build.toList = []
    · -- Nothing was built, so the filter is the wildcard alone and takes whatever follows.
      rw [toList_buildWildcard begun, if_pos empty]
      exact matchesLevels_rest [] _
    · obtain ⟨rest, begins⟩ := levels_isPrefix_iff.mpr (foldl_append_isBelow empty parts)
      rw [levels_buildWildcard begun empty, ← begins]
      exact matchesLevels_rest _ rest
  · intro base steps named literal topic
    have begun := parts_start_after_ne_nil base steps
    rw [topicMatches, levels_buildWildcard begun (by simpa using named),
      matchesLevels_rest_iff literal, levels_isPrefix_iff, IsBelow, String.toList_inj]
    refine or_congr_right ⟨?_, ?_⟩
    · rintro ⟨rest, below⟩
      refine ⟨String.ofList rest, String.toList_inj.mp ?_⟩
      rw [← below]
      simp [separator]
    · rintro ⟨rest, rfl⟩
      exact ⟨rest.toList, by simp; rfl⟩

/-- A topic built from a base with separators at its end, a part that vanishes and an escaped name:
its filter takes it and its subtree, and no other name that begins like it. -/
theorem topicMatches_buildWildcard_escaped :
    ((start "/cim//").after [.segment "/", .escaped "a/b"]).build = "/cim/a%2Fb" ∧
      topicMatches ((start "/cim//").after [.segment "/", .escaped "a/b"]).buildWildcard
        "/cim/a%2Fb" = true ∧
      topicMatches ((start "/cim//").after [.segment "/", .escaped "a/b"]).buildWildcard
        "/cim/a%2Fb//x" = true ∧
      ¬ topicMatches ((start "/cim//").after [.segment "/", .escaped "a/b"]).buildWildcard
        "/cim/a%2Fbc" = true := by
  have built : ((start "/cim//").after [.segment "/", .escaped "a/b"]).build = "/cim/a%2Fb" := by
    decide
  have named : ((start "/cim//").after [.segment "/", .escaped "a/b"]).build ≠ "" := by
    rw [built]
    decide
  have taken := topicMatches_buildWildcard.2 "/cim//" [.segment "/", .escaped "a/b"] named
    (by rw [built]; decide)
  rw [built] at taken
  refine ⟨built, (taken _).mpr (.inl rfl), (taken _).mpr (.inr ⟨"/x", by decide⟩), ?_⟩
  rintro other
  rcases (taken _).mp other with same | ⟨rest, same⟩
  · exact absurd same (by decide)
  · have place := congrArg (fun text : String => text.toList[10]?) same
    simp at place

end MessageBus

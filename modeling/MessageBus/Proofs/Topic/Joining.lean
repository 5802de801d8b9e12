/-
**Joining levels.** What a topic built from levels is, and that it may be built in one go or step by
step.

* `Topic.stripped` — the levels without the separators that joining drops: at the end of the first
  one, at both ends of the others.
* `Topic.append_cases` — all that appending a part can do; `Topic.foldl_append` — appending parts
  one after another, in closed form.
* `Topic.IsTrimmed`, `Topic.IsSpaced` — no separator at the end; no two of them side by side. Every
  level that is appended keeps the first, and the second if it has it itself.
* `Topic.join_join` — a joined topic takes the place of the levels that it is joined from.
* `buildTopic_joins` — **the normal form of topics**, and how they may be built.
-/

import MessageBus.Topic
import Mathlib.Data.List.Chain
import Mathlib.Data.List.DropRight

namespace MessageBus

namespace Topic

open Text

/-- The levels without the separators that joining drops. -/
def stripped : List (List Char) → List (List Char)
  | [] => []
  | first :: rest =>
    first.rdropWhile isSeparator ::
      rest.map fun level => (level.dropWhile isSeparator).rdropWhile isSeparator

/-- Two levels behind each other may be joined before the others. -/
theorem intercalate_merge (topic level : List Char) (levels : List (List Char)) :
    [separator].intercalate ((topic ++ separator :: level) :: levels) =
      [separator].intercalate (topic :: level :: levels) := by
  cases levels with
  | nil => simp
  | cons next rest => simp [List.intercalate_cons_cons]

/-- **What appending a part does.** It is left out if it is nothing but separators, it begins the
topic if there is none yet, and it goes behind a separator otherwise. -/
theorem append_cases (topic part : List Char) :
    trimWhere isSeparator part = [] ∧ append topic part = topic ∨
      trimWhere isSeparator part ≠ [] ∧
        (topic = [] ∧ append topic part = trimWhere isSeparator part ∨
          topic ≠ [] ∧ append topic part = topic ++ separator :: trimWhere isSeparator part) := by
  unfold append
  by_cases vanishes : trimWhere isSeparator part = []
  · exact .inl ⟨vanishes, if_pos (List.isEmpty_iff.mpr vanishes)⟩
  by_cases begins : topic = []
  · simp [vanishes, begins]
  · simp [vanishes, begins]

/-- A level without separators is appended as it is. -/
theorem trimWhere_of_clean {level : List Char} (clean : ∀ c ∈ level, c ≠ '/') :
    trimWhere isSeparator level = level :=
  trimWhere_of_none fun c member => by
    simpa [isSeparator, separator] using clean c member

/-- An appended part is one more level, unless nothing is left of it. -/
theorem intercalate_append (topic part : List Char) (levels : List (List Char)) :
    [separator].intercalate ((append topic part :: levels).filter (· ≠ [])) =
      [separator].intercalate
        ((topic :: trimWhere isSeparator part :: levels).filter (· ≠ [])) := by
  rcases append_cases topic part with
    ⟨vanishes, kept⟩ | ⟨stays, ⟨rfl, begins⟩ | ⟨begun, joined⟩⟩
  · rw [kept, vanishes, List.filter_cons, List.filter_cons, List.filter_cons_of_neg (by simp)]
  · simp [begins, stays]
  · simp [joined, begun, stays, intercalate_merge]

/-- **Levels appended one after another** are joined by single separators. -/
theorem foldl_append (topic : List Char) (parts : List (List Char)) :
    parts.foldl append topic =
      [separator].intercalate
        ((topic :: parts.map (trimWhere isSeparator)).filter (· ≠ [])) := by
  induction parts generalizing topic with
  | nil => by_cases begins : topic = [] <;> simp [begins]
  | cons part rest ih => rw [List.foldl_cons, ih, intercalate_append, List.map_cons]

theorem join_eq_intercalate (levels : List (List Char)) :
    join levels = [separator].intercalate ((stripped levels).filter (· ≠ [])) := by
  cases levels with
  | nil => rfl
  | cons first rest => exact foldl_append _ rest

/-! ### No separator at the end -/

/-- A text that does not end with a separator. -/
def IsTrimmed (text : List Char) : Prop :=
  text.getLast? ≠ some separator

theorem isTrimmed_trimEndWhere (text : List Char) : IsTrimmed (trimEndWhere isSeparator text) := by
  intro last
  have nonempty : trimEndWhere isSeparator text ≠ [] := fun empty => by simp [empty] at last
  have plain := getLast_trimEndWhere isSeparator text nonempty
  rw [List.getLast?_eq_some_getLast nonempty, Option.some.injEq] at last
  rw [last] at plain
  cases plain

/-- A trimmed text is not trimmed any further. -/
theorem IsTrimmed.trimEndWhere_eq {text : List Char} (trimmed : IsTrimmed text) :
    trimEndWhere isSeparator text = text := by
  refine List.rdropWhile_eq_self_iff.mpr fun nonempty ends => trimmed ?_
  rw [List.getLast?_eq_some_getLast nonempty, Option.some.injEq]
  simpa [isSeparator] using ends

/-- Appending a part keeps the end free of separators. -/
theorem IsTrimmed.append {topic : List Char} (trimmed : IsTrimmed topic) (part : List Char) :
    IsTrimmed (append topic part) := by
  have level : IsTrimmed (trimWhere isSeparator part) := isTrimmed_trimEndWhere _
  rcases append_cases topic part with ⟨-, kept⟩ | ⟨stays, ⟨-, begins⟩ | ⟨-, joined⟩⟩
  · rwa [kept]
  · rwa [begins]
  · rw [joined, IsTrimmed, List.append_cons, List.getLast?_append_of_ne_nil _ stays]
    exact level

theorem isTrimmed_join (levels : List (List Char)) : IsTrimmed (join levels) := by
  cases levels with
  | nil => nofun
  | cons first rest =>
    exact List.foldlRecOn rest append (isTrimmed_trimEndWhere first)
      fun topic trimmed part _ => trimmed.append part

/-- **A joined topic takes the place of its levels.** -/
theorem join_join (first : List Char) (rest others : List (List Char)) :
    join (join (first :: rest) :: others) = join (first :: rest ++ others) := by
  rw [join, (isTrimmed_join _).trimEndWhere_eq, join, List.cons_append, join, List.foldl_append]

/-! ### No two separators side by side -/

/-- A text without two separators side by side. -/
def IsSpaced (text : List Char) : Prop :=
  text.IsChain fun c d => ¬ (c = separator ∧ d = separator)

theorem isSpaced_iff {text : List Char} :
    IsSpaced text ↔ ¬ [separator, separator] <:+: text := by
  unfold IsSpaced
  rw [List.isChain_iff_forall_rel_of_append_cons_cons]
  constructor
  · rintro apart ⟨front, back, rfl⟩
    exact apart (List.append_assoc front _ back) ⟨rfl, rfl⟩
  · rintro none c d front back rfl ⟨rfl, rfl⟩
    exact none ⟨front, back, List.append_assoc front _ back⟩

/-- What is left of a level is a piece of it. -/
theorem trimWhere_isInfix (part : List Char) : trimWhere isSeparator part <:+: part :=
  (List.rdropWhile_prefix isSeparator _).isInfix.trans
    (List.dropWhile_suffix isSeparator).isInfix

/-- What is left of a level does not begin with a separator. -/
theorem head?_trimWhere_ne (part : List Char) :
    (trimWhere isSeparator part).head? ≠ some separator := by
  intro head
  obtain ⟨back, whole⟩ := List.rdropWhile_prefix isSeparator (part.dropWhile isSeparator)
  have begins : (part.dropWhile isSeparator).head? = some separator := by
    rw [← whole, List.head?_append]
    exact congrArg (fun first => first.or back.head?) head
  have plain := List.head?_dropWhile_not isSeparator part
  rw [begins] at plain
  cases plain

/-- Appending a part that is spaced keeps a trimmed topic spaced. -/
theorem IsSpaced.append {topic part : List Char} (spaced : IsSpaced topic)
    (trimmed : IsTrimmed topic) (spacedPart : IsSpaced part) : IsSpaced (append topic part) := by
  have level : IsSpaced (trimWhere isSeparator part) :=
    List.IsChain.infix spacedPart (trimWhere_isInfix part)
  rcases append_cases topic part with ⟨-, kept⟩ | ⟨-, ⟨-, begins⟩ | ⟨-, joined⟩⟩
  · rwa [kept]
  · rwa [begins]
  · rw [joined]
    refine List.isChain_append.mpr ⟨spaced, List.isChain_cons.mpr ⟨?_, level⟩, ?_⟩
    · rintro d head ⟨-, rfl⟩
      exact head?_trimWhere_ne part head
    · rintro c last d - ⟨rfl, -⟩
      exact trimmed last

theorem isSpaced_join {levels : List (List Char)} (spaced : ∀ level ∈ levels, IsSpaced level) :
    IsSpaced (join levels) := by
  cases levels with
  | nil => exact .nil
  | cons first rest =>
    obtain ⟨spacedFirst, spacedRest⟩ := List.forall_mem_cons.mp spaced
    have begins : IsSpaced (trimEndWhere isSeparator first) :=
      List.IsChain.infix spacedFirst (List.rdropWhile_prefix isSeparator first).isInfix
    refine (List.foldlRecOn (motive := fun topic => IsTrimmed topic ∧ IsSpaced topic) rest append
      ⟨isTrimmed_trimEndWhere first, begins⟩ fun topic both part member => ?_).2
    exact ⟨both.1.append part, both.2.append both.1 (spacedRest part member)⟩

end Topic

open Topic

theorem toList_buildTopic (levels : List String) :
    (buildTopic levels).toList = join (levels.map String.toList) :=
  String.toList_ofList

theorem buildTopic_buildTopic (first : String) (rest others : List String) :
    buildTopic (buildTopic (first :: rest) :: others) = buildTopic (first :: rest ++ others) := by
  rw [← String.toList_inj, toList_buildTopic, toList_buildTopic, List.map_cons, toList_buildTopic,
    List.map_append, List.map_cons, join_join]

/-- **The normal form of topics.** A topic is its levels, without the separators that joining drops
and without the empty ones among them, joined by single separators. So it does not end with a
separator, and has two side by side only where a level has them. Levels may be joined in one go or
step by step: a joined topic takes the place of its levels, and joining it again does nothing. -/
theorem buildTopic_joins :
    (∀ levels : List String, buildTopic levels = String.ofList
      ([separator].intercalate ((stripped (levels.map String.toList)).filter (· ≠ [])))) ∧
    (∀ levels : List String, ¬ [separator] <:+ (buildTopic levels).toList) ∧
    (∀ levels : List String, [separator, separator] <:+: (buildTopic levels).toList →
      ∃ level ∈ levels, [separator, separator] <:+: level.toList) ∧
    (∀ (first : String) (rest others : List String),
      buildTopic (buildTopic (first :: rest) :: others) = buildTopic (first :: rest ++ others)) ∧
    (∀ (first : String) (rest : List String), buildTopic (first :: rest) =
      rest.foldl (fun topic level => buildTopic [topic, level]) (buildTopic [first])) ∧
    (∀ levels : List String, buildTopic [buildTopic levels] = buildTopic levels) := by
  refine ⟨fun levels => congrArg String.ofList (join_eq_intercalate _), fun levels ends => ?_,
    fun levels doubled => ?_, buildTopic_buildTopic, fun first rest => ?_, fun levels => ?_⟩
  · rw [toList_buildTopic] at ends
    exact isTrimmed_join _ (List.singleton_suffix_iff_getLast?_eq_some.mp ends)
  · by_contra none
    rw [toList_buildTopic] at doubled
    refine isSpaced_iff.mp (isSpaced_join fun level member => ?_) doubled
    obtain ⟨text, inside, rfl⟩ := List.mem_map.mp member
    exact isSpaced_iff.mpr fun pair => none ⟨text, inside, pair⟩
  · induction rest using List.reverseRecOn with
    | nil => rfl
    | append_singleton rest level ih =>
      rw [List.foldl_append, List.foldl_cons, List.foldl_nil, ← ih, buildTopic_buildTopic,
        List.cons_append]
  · cases levels with
    | nil => rfl
    | cons first rest => simpa using buildTopic_buildTopic first rest []

/-- Levels that vanish leave no separator, and only the inside of a level keeps two. -/
theorem buildTopic_joins_doubled :
    buildTopic ["/", "//", "a//b/", "", "/c"] = "a//b/c" ∧
      [separator, separator] <:+: (buildTopic ["/", "//", "a//b/", "", "/c"]).toList ∧
      ∃ level ∈ ["/", "//", "a//b/", "", "/c"], [separator, separator] <:+: level.toList := by
  have built : buildTopic ["/", "//", "a//b/", "", "/c"] = "a//b/c" := by decide
  have doubled :
      [separator, separator] <:+: (buildTopic ["/", "//", "a//b/", "", "/c"]).toList := by
    rw [built]
    exact ⟨['a'], ['b', '/', 'c'], rfl⟩
  exact ⟨built, doubled, buildTopic_joins.2.2.1 _ doubled⟩

end MessageBus

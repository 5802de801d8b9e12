/-
**Coverage of subjects.** Covering is inclusion of what the patterns take.

* `Subject.Takes` — which tokens a pattern takes, token by token; `Subject.Matches` — the same for
  texts. A wildcard for one token takes any token, the first wildcard for the rest takes one or more
  tokens, every other token takes itself.
* `coversTokens_sound` — a covering pattern takes all that the covered one takes.
* `exists_separating` — a pattern that does not cover misses some concrete tokens. They are found by
  following the comparison to the place where it fails.
* `subjectCovers_iff_forall_matches` — **covering decides inclusion** of the concrete subjects that
  two patterns take; it is reflexive and transitive.
-/

import MessageBus.Subject

namespace MessageBus

/-- The characters of a piece are those of the text that was split. -/
theorem mem_of_mem_splitOn {separator c : Char} {text piece : List Char}
    (member : piece ∈ text.splitOn separator) (inside : c ∈ piece) : c ∈ text := by
  have joined : ∀ pieces : List (List Char), piece ∈ pieces →
      c ∈ [separator].intercalate pieces := by
    intro pieces
    induction pieces with
    | nil => nofun
    | cons first rest ih =>
      intro member
      cases rest with
      | nil =>
        rw [List.mem_singleton.mp member] at inside
        rwa [List.intercalate_singleton]
      | cons next others =>
        rw [List.intercalate_cons_cons]
        rcases List.mem_cons.mp member with rfl | later
        · exact List.mem_append_left _ (List.mem_append_left _ inside)
        · exact List.mem_append_right _ (ih later)
  have within := joined _ member
  rwa [List.intercalate_splitOn] at within

namespace Subject

/-! ### What a pattern takes -/

/-- The tokens that a pattern takes, given by its own tokens. -/
inductive Takes : List (List Char) → List (List Char) → Prop
  /-- Both end together. -/
  | nil : Takes [] []
  /-- The wildcard for one token takes any token. -/
  | one {patterns tokens : List (List Char)} (token : List Char) (rest : Takes patterns tokens) :
      Takes (['*'] :: patterns) (token :: tokens)
  /-- The wildcard for the rest takes one or more tokens, whatever stands behind it. -/
  | all (patterns : List (List Char)) (token : List Char) (tokens : List (List Char)) :
      Takes (['>'] :: patterns) (token :: tokens)
  /-- Any other token takes itself. -/
  | literal {patterns tokens : List (List Char)} {token : List Char} (notOne : token ≠ ['*'])
      (notAll : token ≠ ['>']) (rest : Takes patterns tokens) :
      Takes (token :: patterns) (token :: tokens)

/-- No token is a wildcard. -/
def IsConcrete (subject : String) : Prop :=
  ['*'] ∉ tokens subject.toList ∧ ['>'] ∉ tokens subject.toList

/-- The subject is taken by the pattern. -/
def Matches (pattern subject : String) : Prop :=
  Takes (tokens pattern.toList) (tokens subject.toList)

theorem tokens_ne_nil (subject : List Char) : tokens subject ≠ [] :=
  List.splitOn_ne_nil _ _

/-- A token holds no separator. -/
theorem separator_notMem_of_mem_tokens {subject token : List Char}
    (member : token ∈ tokens subject) : separator ∉ token := by
  induction subject generalizing token with
  | nil =>
    simp only [tokens, List.splitOn_nil, List.mem_singleton] at member
    simp [member]
  | cons c rest ih =>
    simp only [tokens, List.splitOn_cons_eq_if_modifyHead] at member
    split at member
    · rcases List.mem_cons.mp member with rfl | inside
      · simp
      · exact ih inside
    · rename_i different
      have nonempty := tokens_ne_nil rest
      unfold tokens at nonempty ih
      cases pieces : rest.splitOn separator with
      | nil => exact absurd pieces nonempty
      | cons first others =>
        rw [pieces] at ih member
        rw [List.modifyHead_cons] at member
        rcases List.mem_cons.mp member with rfl | inside
        · have outside := ih List.mem_cons_self
          simp only [List.mem_cons, not_or]
          exact ⟨fun same => different (by simp [same]), outside⟩
        · exact ih (List.mem_cons_of_mem _ inside)

/-- Tokens without separators are the tokens of the text that joins them. -/
theorem tokens_join {parts : List (List Char)} (nonempty : parts ≠ [])
    (plain : ∀ part ∈ parts, separator ∉ part) :
    tokens (String.ofList ([separator].intercalate parts)).toList = parts := by
  rw [String.toList_ofList, tokens, List.splitOn_intercalate _ plain nonempty]

/-- A pattern of at least one token takes at least one token. -/
theorem Takes.ne_nil {patterns tokens : List (List Char)} (taken : Takes patterns tokens)
    (nonempty : patterns ≠ []) : tokens ≠ [] := by
  cases taken with
  | nil => exact absurd rfl nonempty
  | one | all | literal => simp

/-- A pattern that begins with the wildcard for one token leaves the rest to its other tokens. -/
theorem takes_one_iff {patterns tokens : List (List Char)} {token : List Char} :
    Takes (['*'] :: patterns) (token :: tokens) ↔ Takes patterns tokens := by
  constructor
  · intro taken
    cases taken with
    | one _ rest => exact rest
    | literal notOne _ _ => exact absurd rfl notOne
  · exact fun rest => .one token rest

/-- A pattern that begins with a literal takes that literal first. -/
theorem takes_literal_iff {patterns tokens : List (List Char)} {literal token : List Char}
    (notOne : literal ≠ ['*']) (notAll : literal ≠ ['>']) :
    Takes (literal :: patterns) (token :: tokens) ↔ literal = token ∧ Takes patterns tokens := by
  constructor
  · intro taken
    cases taken with
    | one _ _ => exact absurd rfl notOne
    | all _ _ _ => exact absurd rfl notAll
    | literal _ _ rest => exact ⟨rfl, rest⟩
  · rintro ⟨rfl, rest⟩
    exact .literal notOne notAll rest

end Subject

open Subject

/-! ### Covering is sound -/

/-- **A covering pattern takes all that the covered one takes.** -/
theorem coversTokens_sound {patterns subjects tokens : List (List Char)}
    (covers : coversTokens patterns subjects = true) (taken : Takes subjects tokens) :
    Takes patterns tokens := by
  induction taken generalizing patterns with
  | nil =>
    cases patterns with
    | nil => exact .nil
    | cons p ps => simp [coversTokens] at covers
  | one token _ ih =>
    cases patterns with
    | nil => simp [coversTokens] at covers
    | cons p ps =>
      simp only [coversTokens] at covers
      split at covers
      · rename_i all
        exact all ▸ .all ps _ _
      · split at covers
        · rename_i one
          simp only [Bool.and_eq_true] at covers
          exact one ▸ .one token (ih covers.2)
        · rename_i notOne
          simp only [Bool.and_eq_true, beq_iff_eq] at covers
          exact absurd covers.1.1 notOne
  | all others token rest =>
    cases patterns with
    | nil => simp [coversTokens] at covers
    | cons p ps =>
      simp only [coversTokens] at covers
      split at covers
      · rename_i all
        exact all ▸ .all ps _ _
      · simp at covers
  | @literal _ _ token notOne notAll _ ih =>
    cases patterns with
    | nil => simp [coversTokens] at covers
    | cons p ps =>
      simp only [coversTokens] at covers
      split at covers
      · rename_i all
        exact all ▸ .all ps _ _
      · split at covers
        · rename_i one
          simp only [Bool.and_eq_true] at covers
          exact one ▸ .one token (ih covers.2)
        · simp only [Bool.and_eq_true, beq_iff_eq] at covers
          obtain ⟨⟨rfl, -⟩, covers⟩ := covers
          exact .literal notOne notAll (ih covers)

/-! ### Covering is complete -/

namespace Subject

/-- Tokens of which a concrete subject can be made. -/
def ArePlain (tokens : List (List Char)) : Prop :=
  ∀ token ∈ tokens, token ≠ ['*'] ∧ token ≠ ['>'] ∧ separator ∉ token

theorem arePlain_nil : ArePlain [] := by
  simp [ArePlain]

theorem arePlain_cons {token : List Char} {tokens : List (List Char)} :
    ArePlain (token :: tokens) ↔
      (token ≠ ['*'] ∧ token ≠ ['>'] ∧ separator ∉ token) ∧ ArePlain tokens := by
  simp [ArePlain]

/-- A plain token other than a given one. -/
def otherThan (token : List Char) : List Char :=
  if token = ['a'] then ['b'] else ['a']

theorem otherThan_ne (token : List Char) : token ≠ otherThan token := by
  unfold otherThan
  split
  · rename_i same
    simp [same]
  · assumption

theorem otherThan_plain (token : List Char) :
    otherThan token ≠ ['*'] ∧ otherThan token ≠ ['>'] ∧ separator ∉ otherThan token := by
  unfold otherThan separator
  split <;> decide

/-- A plain token that the first token of a pattern takes, unless that is the wildcard for the
rest. -/
theorem exists_first {first : List Char} (separated : separator ∉ first) (notAll : first ≠ ['>']) :
    ∃ token, (token ≠ ['*'] ∧ token ≠ ['>'] ∧ separator ∉ token) ∧
      ∀ patterns tokens, Takes patterns tokens → Takes (first :: patterns) (token :: tokens) := by
  by_cases one : first = ['*']
  · subst one
    exact ⟨_, otherThan_plain [], fun _ _ rest => .one _ rest⟩
  · exact ⟨first, ⟨one, notAll, separated⟩, fun _ _ rest => .literal one notAll rest⟩

/-- Every pattern takes some plain tokens. -/
theorem exists_plain_taken {patterns : List (List Char)}
    (separated : ∀ pattern ∈ patterns, separator ∉ pattern) :
    ∃ tokens, ArePlain tokens ∧ Takes patterns tokens := by
  induction patterns with
  | nil => exact ⟨[], arePlain_nil, .nil⟩
  | cons first rest ih =>
    by_cases all : first = ['>']
    · subst all
      exact ⟨[otherThan []], arePlain_cons.mpr ⟨otherThan_plain [], arePlain_nil⟩, .all rest _ []⟩
    · obtain ⟨tokens, plain, taken⟩ := ih fun pattern inside =>
        separated pattern (List.mem_cons_of_mem _ inside)
      obtain ⟨token, plainToken, takes⟩ := exists_first (separated first List.mem_cons_self) all
      exact ⟨token :: tokens, arePlain_cons.mpr ⟨plainToken, plain⟩, takes _ _ taken⟩

end Subject

/-- **Patterns that do not cover are told apart** by plain tokens that only the other takes. -/
theorem exists_separating {patterns subjects : List (List Char)}
    (separated : ∀ subject ∈ subjects, separator ∉ subject)
    (fails : coversTokens patterns subjects = false) :
    ∃ tokens, ArePlain tokens ∧ Takes subjects tokens ∧ ¬ Takes patterns tokens := by
  induction patterns generalizing subjects with
  | nil =>
    cases subjects with
    | nil => simp [coversTokens] at fails
    | cons s ss =>
      -- Whatever the subject takes has a token, and the empty pattern takes none.
      obtain ⟨tokens, plain, taken⟩ := exists_plain_taken separated
      refine ⟨tokens, plain, taken, fun none => ?_⟩
      cases none
      exact taken.ne_nil (by simp) rfl
  | cons p ps ih =>
    cases subjects with
    | nil => exact ⟨[], arePlain_nil, .nil, fun some => by cases some⟩
    | cons s ss =>
      have separatedRest : ∀ subject ∈ ss, separator ∉ subject := fun subject inside =>
        separated subject (List.mem_cons_of_mem _ inside)
      obtain ⟨others, plainOthers, takenOthers⟩ := exists_plain_taken separatedRest
      simp only [coversTokens] at fails
      split at fails
      · simp at fails
      rename_i notAll
      split at fails
      · rename_i one
        subst one
        by_cases all : s = ['>']
        · -- The rest takes one token as well as two, and one wildcard takes only one of these.
          subst all
          have plain := otherThan_plain []
          by_cases alone : ps = []
          · subst alone
            refine ⟨[otherThan [], otherThan []],
              arePlain_cons.mpr ⟨plain, arePlain_cons.mpr ⟨plain, arePlain_nil⟩⟩,
              .all ss _ _, fun taken => ?_⟩
            cases takes_one_iff.mp taken
          · refine ⟨[otherThan []], arePlain_cons.mpr ⟨plain, arePlain_nil⟩, .all ss _ _,
              fun taken => ?_⟩
            exact (takes_one_iff.mp taken).ne_nil alone rfl
        · have failsRest : coversTokens ps ss = false := by simpa [all] using fails
          obtain ⟨tokens, plain, taken, missed⟩ := ih separatedRest failsRest
          obtain ⟨token, plainToken, takes⟩ := exists_first (separated s List.mem_cons_self) all
          exact ⟨token :: tokens, arePlain_cons.mpr ⟨plainToken, plain⟩, takes _ _ taken,
            fun both => missed (takes_one_iff.mp both)⟩
      · rename_i notOne
        by_cases same : p = s
        · subst same
          have failsRest : coversTokens ps ss = false := by simpa [notAll] using fails
          obtain ⟨tokens, plain, taken, missed⟩ := ih separatedRest failsRest
          refine ⟨p :: tokens,
            arePlain_cons.mpr ⟨⟨notOne, notAll, separated p List.mem_cons_self⟩, plain⟩,
            .literal notOne notAll taken, fun both => ?_⟩
          exact missed ((takes_literal_iff notOne notAll).mp both).2
        · -- A wildcard of the subject takes a token other than the literal; a literal takes itself.
          have missed : ∀ token tokens, p ≠ token → ¬ Takes (p :: ps) (token :: tokens) :=
            fun _ _ different both => different ((takes_literal_iff notOne notAll).mp both).1
          by_cases all : s = ['>']
          · subst all
            exact ⟨[otherThan p], arePlain_cons.mpr ⟨otherThan_plain p, arePlain_nil⟩, .all ss _ _,
              missed _ _ (otherThan_ne p)⟩
          · by_cases one : s = ['*']
            · subst one
              exact ⟨otherThan p :: others, arePlain_cons.mpr ⟨otherThan_plain p, plainOthers⟩,
                .one _ takenOthers, missed _ _ (otherThan_ne p)⟩
            · exact ⟨s :: others,
                arePlain_cons.mpr ⟨⟨one, all, separated s List.mem_cons_self⟩, plainOthers⟩,
                .literal one all takenOthers, missed _ _ same⟩

/-! ### Covering as an order on patterns -/

/-- Covering is inclusion of the concrete subjects that are taken. -/
theorem subjectCovers_iff (pattern subject : String) :
    subjectCovers pattern subject = true ↔
      ∀ concrete : String, IsConcrete concrete → Matches subject concrete →
        Matches pattern concrete := by
  constructor
  · exact fun covers _ _ taken => coversTokens_sound covers taken
  · intro included
    cases covers : subjectCovers pattern subject with
    | true => rfl
    | false =>
      obtain ⟨parts, plain, taken, missed⟩ := exists_separating
        (fun _ member => separator_notMem_of_mem_tokens member) covers
      have nonempty : parts ≠ [] := taken.ne_nil (tokens_ne_nil subject.toList)
      have joined := tokens_join nonempty fun part inside => (plain part inside).2.2
      have concrete : IsConcrete (String.ofList ([separator].intercalate parts)) := by
        rw [IsConcrete, joined]
        exact ⟨fun inside => (plain _ inside).1 rfl, fun inside => (plain _ inside).2.1 rfl⟩
      have both := included _ concrete (by rw [Matches, joined]; exact taken)
      rw [Matches, joined] at both
      exact absurd both missed

theorem subjectCovers_refl (subject : String) : subjectCovers subject subject = true :=
  (subjectCovers_iff subject subject).mpr fun _ _ taken => taken

theorem subjectCovers_trans {first second third : String}
    (wide : subjectCovers first second = true) (narrow : subjectCovers second third = true) :
    subjectCovers first third = true :=
  (subjectCovers_iff first third).mpr fun concrete plain taken =>
    (subjectCovers_iff first second).mp wide concrete plain
      ((subjectCovers_iff second third).mp narrow concrete plain taken)

/-- **Covering decides inclusion**: a pattern covers a subject exactly when it takes every concrete
subject that the other takes. Hence covering is reflexive and transitive. -/
theorem subjectCovers_iff_forall_matches :
    (∀ pattern subject : String, subjectCovers pattern subject = true ↔
      ∀ concrete : String, IsConcrete concrete → Matches subject concrete →
        Matches pattern concrete) ∧
    (∀ subject : String, subjectCovers subject subject = true) ∧
    (∀ first second third : String, subjectCovers first second = true →
      subjectCovers second third = true → subjectCovers first third = true) :=
  ⟨subjectCovers_iff, subjectCovers_refl, fun _ _ _ => subjectCovers_trans⟩

end MessageBus

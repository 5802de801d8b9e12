/-
**Response subjects.** The subjects of response topics under plain identifiers.

* `Topic.IsPlainBase`, `Subject.IsPlainId` — a base without wildcard characters; a non-empty
  identifier of letters, digits and hyphens. `Topic.IsName` — any identifier that is one literal
  level.
* `responseTopic_cases` — the topic is the identifier, or ends with it behind a separator;
  `splitOn_responseTopic` — in either spelling the levels in front of it are levels of the base.
* `responseSubject_injective` — **different identifiers have different subjects**, whatever the
  bases.
* `eq_of_matches_responseSubject` — such a subject takes no other subject than itself.
-/

import MessageBus.Proofs.Subject.Coverage
import MessageBus.Proofs.Topic.Joining

namespace MessageBus

/-- A base without the wildcards of topics and of subjects. -/
def Topic.IsPlainBase (base : String) : Prop :=
  ∀ c ∈ base.toList, c ≠ '+' ∧ c ≠ '#' ∧ c ≠ '*' ∧ c ≠ '>'

/-- A non-empty identifier of letters, digits and hyphens. -/
def Subject.IsPlainId (id : String) : Prop :=
  id ≠ "" ∧ ∀ c ∈ id.toList, Subject.isPlain c = true

/-- A text that is not empty and has none of the characters with a meaning in topics, so it is one
literal level. -/
def Topic.IsName (text : String) : Prop :=
  text ≠ "" ∧ ∀ c ∈ text.toList, c ≠ '/' ∧ c ≠ '+' ∧ c ≠ '#'

/-- The subject of the response topic of a request. -/
def responseSubject (base id : String) : String :=
  topicToSubject (responseTopic base id)

/-! ### The shape of a response subject -/

section Shape

variable {base id : String}

/-- A plain character is no separator and no wildcard, of topics or of subjects. -/
theorem Subject.isPlain_ne {c : Char} (plain : Subject.isPlain c = true) :
    c ≠ '/' ∧ c ≠ '+' ∧ c ≠ '#' ∧ c ≠ '.' ∧ c ≠ '*' ∧ c ≠ '>' := by
  refine ⟨?_, ?_, ?_, ?_, ?_, ?_⟩ <;>
    · rintro rfl
      revert plain
      decide

theorem Subject.IsPlainId.isName (plain : Subject.IsPlainId id) : Topic.IsName id :=
  ⟨plain.1, fun _ member =>
    let ⟨slash, plus, hash, _⟩ := isPlain_ne (plain.2 _ member)
    ⟨slash, plus, hash⟩⟩

theorem Subject.IsPlainId.separator_notMem (plain : Subject.IsPlainId id) :
    separator ∉ id.toList :=
  fun member => (isPlain_ne (plain.2 _ member)).2.2.2.1 rfl

/-- A response topic is the identifier, behind the base without the separators at its end if
anything is left of that. -/
theorem responseTopic_cases (base : String) (named : Topic.IsName id) :
    (responseTopic base id).toList = id.toList ∨
      ∃ stem run, base.toList = stem ++ run ∧ (∀ c ∈ run, c = Topic.separator) ∧
        (responseTopic base id).toList = stem ++ Topic.separator :: id.toList := by
  have level : Text.trimWhere Topic.isSeparator id.toList = id.toList :=
    Topic.trimWhere_of_clean fun c member => (named.2 c member).1
  have built : (responseTopic base id).toList =
      Topic.append (Text.trimEndWhere Topic.isSeparator base.toList) id.toList :=
    toList_buildTopic [base, id]
  rcases Topic.append_cases (Text.trimEndWhere Topic.isSeparator base.toList) id.toList with
    ⟨vanishes, -⟩ | ⟨-, ⟨-, bare⟩ | ⟨-, joined⟩⟩
  · exact absurd (String.toList_eq_nil_iff.mp (level.symm.trans vanishes)) named.1
  · exact .inl (by rw [built, bare, level])
  · refine .inr ⟨_, _, (List.rdropWhile_append_rtakeWhile (p := Topic.isSeparator)).symm,
      fun c member => ?_, by rw [built, joined, level]; rfl⟩
    simpa [Topic.isSeparator] using List.mem_rtakeWhile_imp member

/-- **The levels of a response topic**, in any spelling that keeps the identifier one level: some
levels of the base, and the identifier. -/
theorem splitOn_responseTopic (spelling : Char → Char) (base : String) (named : Topic.IsName id)
    (whole : spelling Topic.separator ∉ id.toList.map spelling) :
    ∃ front : List (List Char),
      (∀ level ∈ front,
        level ∈ (base.toList.map spelling).splitOn (spelling Topic.separator)) ∧
      ((responseTopic base id).toList.map spelling).splitOn (spelling Topic.separator) =
        front ++ [id.toList.map spelling] := by
  have alone := List.splitOn_eq_singleton whole
  rcases responseTopic_cases base named with bare | ⟨stem, run, parts, separators, joined⟩
  · exact ⟨[], nofun, by rw [bare, alone, List.nil_append]⟩
  refine ⟨(stem.map spelling).splitOn (spelling Topic.separator), fun level member => ?_, ?_⟩
  · -- The separators that were cut off the base only add empty levels behind those of the stem.
    rw [parts]
    cases run with
    | nil => rwa [List.append_nil]
    | cons c run =>
      rw [separators c List.mem_cons_self, List.map_append, List.map_cons,
        List.splitOn_append_cons_self]
      exact List.mem_append_left _ member
  · rw [joined, List.map_append, List.map_cons, List.splitOn_append_cons_self, alone]

/-- What has no meaning in topics is spelled the same in subjects. -/
theorem map_ofTopicChar_of_clean {text : List Char}
    (clean : ∀ c ∈ text, c ≠ '/' ∧ c ≠ '+' ∧ c ≠ '#') : text.map Subject.ofTopicChar = text := by
  refine (List.map_congr_left fun c member => ?_).trans (List.map_id text)
  obtain ⟨slash, plus, hash⟩ := clean c member
  simp [Subject.ofTopicChar, slash, plus, hash]

/-- The last token of a response subject is the identifier, and those before it are tokens of the
base. -/
theorem tokens_responseSubject (base : String) (named : Topic.IsName id)
    (undotted : Subject.separator ∉ id.toList) :
    ∃ front : List (List Char),
      (∀ token ∈ front, token ∈ Subject.tokens (topicToSubject base).toList) ∧
      Subject.tokens (responseSubject base id).toList = front ++ [id.toList] := by
  have same := map_ofTopicChar_of_clean named.2
  have whole : Subject.ofTopicChar Topic.separator ∉ id.toList.map Subject.ofTopicChar := by
    rw [same]
    exact undotted
  obtain ⟨front, ofBase, pieces⟩ := splitOn_responseTopic Subject.ofTopicChar base named whole
  rw [same] at pieces
  unfold responseSubject topicToSubject
  rw [String.toList_ofList, String.toList_ofList]
  exact ⟨front, ofBase, pieces⟩

/-- **Different identifiers have different response subjects**, whatever the bases. -/
theorem responseSubject_injective {other otherId : String} (plain : Subject.IsPlainId id)
    (plainOther : Subject.IsPlainId otherId)
    (same : responseSubject base id = responseSubject other otherId) : id = otherId := by
  obtain ⟨front, -, ending⟩ := tokens_responseSubject base plain.isName plain.separator_notMem
  obtain ⟨otherFront, -, otherEnding⟩ :=
    tokens_responseSubject other plainOther.isName plainOther.separator_notMem
  rw [same, otherEnding] at ending
  have last := congrArg List.getLast? ending
  rw [List.getLast?_concat, List.getLast?_concat, Option.some.injEq] at last
  exact (String.toList_inj.mp last).symm

/-- A response subject holds no wildcard. -/
theorem responseSubject_ne_wildcard (plainBase : Topic.IsPlainBase base)
    (plain : Subject.IsPlainId id) {c : Char} (member : c ∈ (responseSubject base id).toList) :
    c ≠ '*' ∧ c ≠ '>' := by
  unfold responseSubject topicToSubject at member
  rw [String.toList_ofList, List.mem_map] at member
  obtain ⟨original, inside, rfl⟩ := member
  have clean : original ≠ '+' ∧ original ≠ '#' ∧ original ≠ '*' ∧ original ≠ '>' := by
    have ofId : original ∈ id.toList → _ := fun within => by
      obtain ⟨-, plus, hash, -, star, rest⟩ := Subject.isPlain_ne (plain.2 original within)
      exact (⟨plus, hash, star, rest⟩ :
        original ≠ '+' ∧ original ≠ '#' ∧ original ≠ '*' ∧ original ≠ '>')
    rcases responseTopic_cases base plain.isName with bare | ⟨stem, run, parts, -, joined⟩
    · rw [bare] at inside
      exact ofId inside
    · rw [joined, List.mem_append, List.mem_cons] at inside
      rcases inside with within | rfl | within
      · exact plainBase original (parts ▸ List.mem_append_left run within)
      · decide
      · exact ofId within
  obtain ⟨plus, hash, star, rest⟩ := clean
  unfold Subject.ofTopicChar
  rw [if_neg plus, if_neg hash]
  split
  · decide
  · exact ⟨star, rest⟩

end Shape

/-! ### What a response subject takes -/

namespace Subject

/-- The characters of a token are those of the subject. -/
theorem mem_of_mem_tokens {subject token : List Char} {c : Char} (member : token ∈ tokens subject)
    (inside : c ∈ token) : c ∈ subject :=
  mem_of_mem_splitOn member inside

/-- Without wildcards, a pattern takes its own tokens alone. -/
theorem Takes.eq_of_literal {patterns tokens : List (List Char)} (taken : Takes patterns tokens)
    (literal : ∀ pattern ∈ patterns, pattern ≠ ['*'] ∧ pattern ≠ ['>']) : patterns = tokens := by
  induction taken with
  | nil => rfl
  | one token rest ih => exact absurd rfl (literal _ List.mem_cons_self).1
  | all patterns token tokens => exact absurd rfl (literal _ List.mem_cons_self).2
  | literal notOne notAll rest ih =>
    rw [ih fun pattern member => literal pattern (List.mem_cons_of_mem _ member)]

/-- A subject without wildcards takes no other subject than itself. -/
theorem Matches.eq_of_plain {pattern subject : String} (taken : Matches pattern subject)
    (plain : ∀ c ∈ pattern.toList, c ≠ '*' ∧ c ≠ '>') : pattern = subject := by
  have same : tokens pattern.toList = tokens subject.toList := by
    refine Takes.eq_of_literal taken fun token member => ⟨?_, ?_⟩
    · rintro rfl
      exact (plain '*' (mem_of_mem_tokens member (List.mem_singleton_self _))).1 rfl
    · rintro rfl
      exact (plain '>' (mem_of_mem_tokens member (List.mem_singleton_self _))).2 rfl
  have joined := congrArg [separator].intercalate same
  rw [tokens, tokens, List.intercalate_splitOn, List.intercalate_splitOn] at joined
  exact String.toList_inj.mp joined

end Subject

/-- **A response subject takes no other subject than itself.** -/
theorem eq_of_matches_responseSubject {base id subject : String}
    (plainBase : Topic.IsPlainBase base) (plain : Subject.IsPlainId id)
    (taken : Subject.Matches (responseSubject base id) subject) :
    subject = responseSubject base id :=
  (taken.eq_of_plain fun _ member => responseSubject_ne_wildcard plainBase plain member).symm

end MessageBus

/-
**What names keep of subjects.** Names of streams and consumers are subjects and client ids with
some characters filled, so not every two of these have different names.

* `Subject.stem` — a subject without the structure at its end.
* `Subject.SameStem`, `Subject.SameMark` — two subjects and two client ids that names cannot tell
  apart.
* `streamName_eq_iff` — two streams have one name exactly if the subjects have the same stem.
* `Subject.Blends` — a client and its subject read like another client and its subject, also by a
  client id that goes on where the subject of the other does.
* `consumerName_eq_iff` — **two consumers without a durable name have one name exactly if the
  clients and subjects blend**.
* `Subject.Blends.iff_of_plain` — plain client ids blend only if they are equal;
  `Subject.SameStem.eq_of_literal` — and literal subjects do so, too.
-/

import Mathlib.Data.List.Forall2
import MessageBus.Proofs.Topic.Response

namespace MessageBus

namespace Subject

/-- A subject without the structure at its end. -/
def stem (subject : String) : List Char :=
  Text.trimEndWhere isStructure subject.toList

/-- A character of a subject that is `_` in a name. -/
def IsFiller (c : Char) : Prop :=
  isStructure c = true ∨ c = '_'

/-- Two characters of subjects that are one in a name. -/
def Alike (c d : Char) : Prop :=
  c = d ∨ IsFiller c ∧ IsFiller d

/-- Two characters of client ids that are one in a name. -/
def AlikeId (c d : Char) : Prop :=
  c = d ∨ isPlain c = false ∧ isPlain d = false

/-- A character of a client id and one of a subject that are one in a name. -/
def Crosses (c d : Char) : Prop :=
  if isPlain c = true then c = d else IsFiller d

/-- Two subjects whose stems are one in names. -/
def SameStem (subject other : String) : Prop :=
  List.Forall₂ Alike (stem subject) (stem other)

/-- Two client ids that are one in names. -/
def SameMark (id other : String) : Prop :=
  List.Forall₂ AlikeId id.toList other.toList

/-- The subject `other` goes on behind `subject`, and the client id `id` reads like the rest of it
and the client id `otherId` behind that. -/
def Overhangs (subject id other otherId : String) : Prop :=
  ∃ front gap tail head mark rest,
    stem other = front ++ gap :: tail ∧ id.toList = head ++ mark :: rest ∧
      List.Forall₂ Alike (stem subject) front ∧ IsFiller gap ∧ List.Forall₂ Crosses head tail ∧
      isPlain mark = false ∧ List.Forall₂ AlikeId rest otherId.toList

/-- A client and its subject that names cannot tell from another client and its subject. -/
inductive Blends (subject id other otherId : String) : Prop
  /-- The subjects are as long as each other, and so are the client ids. -/
  | same (stems : SameStem subject other) (marks : SameMark id otherId)
  /-- The other subject is the longer one. -/
  | ahead (overhangs : Overhangs subject id other otherId)
  /-- The other subject is the shorter one. -/
  | behind (overhangs : Overhangs other otherId subject id)

/-- A subject without wildcards and `_` that does not end with a separator. -/
def IsLiteral (subject : String) : Prop :=
  (∀ c ∈ subject.toList, c ≠ '*' ∧ c ≠ '>' ∧ c ≠ '_') ∧ subject.toList.getLast? ≠ some '.'

/-! ### Single characters -/

/-- What a name has for a character of a subject. -/
def filled (c : Char) : Char :=
  if isStructure c then '_' else c

/-- What a name has for a character of a client id. -/
def marked (c : Char) : Char :=
  if isPlain c then c else '_'

theorem isPlain_underscore : isPlain '_' = false := by decide

theorem filled_eq_underscore {c : Char} : filled c = '_' ↔ IsFiller c := by
  unfold filled IsFiller
  split <;> simp_all

theorem marked_eq_underscore {c : Char} : marked c = '_' ↔ isPlain c = false := by
  unfold marked
  split
  case isTrue plain =>
    refine ⟨?_, fun blank => absurd plain (by simp [blank])⟩
    rintro rfl
    exact isPlain_underscore
  case isFalse blank => simpa using blank

theorem filled_eq_filled {c d : Char} : filled c = filled d ↔ Alike c d := by
  unfold Alike IsFiller filled
  grind

theorem marked_eq_marked {c d : Char} : marked c = marked d ↔ AlikeId c d := by
  have := isPlain_underscore
  unfold AlikeId marked
  grind

theorem marked_eq_filled {c d : Char} : marked c = filled d ↔ Crosses c d := by
  by_cases plain : isPlain c = true
  · obtain ⟨-, -, -, separator, star, rest⟩ := isPlain_ne plain
    have kept : isStructure c = false := by simp [isStructure, separator, star, rest]
    have := isPlain_underscore
    unfold Crosses filled marked
    grind
  · unfold Crosses
    rw [if_neg plain, ← filled_eq_underscore, marked, if_neg plain, eq_comm]

/-! ### Whole texts -/

theorem map_eq_map_iff {f g : Char → Char} {Like : Char → Char → Prop}
    (same : ∀ {c d}, f c = g d ↔ Like c d) {text other : List Char} :
    text.map f = other.map g ↔ List.Forall₂ Like text other := by
  rw [← List.forall₂_eq_eq_eq, List.forall₂_map_left_iff, List.forall₂_map_right_iff]
  simp only [same]

/-- Texts whose characters are alike only if they are equal. -/
theorem eq_of_forall₂ {Like : Char → Char → Prop} {text other : List Char}
    (like : List.Forall₂ Like text other)
    (only : ∀ c ∈ text, ∀ d ∈ other, Like c d → c = d) : text = other := by
  induction like with
  | nil => rfl
  | cons first rest ih =>
    rw [only _ List.mem_cons_self _ List.mem_cons_self first, ih fun c inText d inOther =>
      only c (List.mem_cons_of_mem _ inText) d (List.mem_cons_of_mem _ inOther)]

theorem streamNameChars_eq (subject : String) :
    streamNameChars subject.toList = (stem subject).map filled := rfl

/-- Where the longer of two names has a filler, the shorter one has the `_` between subject and
client id. -/
theorem overhangs_iff {subject id other otherId : String} :
    (∃ rest, (stem other).map filled = (stem subject).map filled ++ '_' :: rest ∧
        id.toList.map marked = rest ++ '_' :: otherId.toList.map marked) ↔
      Overhangs subject id other otherId := by
  constructor
  · rintro ⟨rest, longer, spent⟩
    obtain ⟨front, back, joined, sameFront, sameBack⟩ := List.map_eq_append_iff.mp longer
    obtain ⟨gap, tail, rfl, filler, sameTail⟩ := List.map_eq_cons_iff.mp sameBack
    obtain ⟨head, back, joinedId, sameHead, sameBack⟩ := List.map_eq_append_iff.mp spent
    obtain ⟨mark, last, rfl, blank, sameLast⟩ := List.map_eq_cons_iff.mp sameBack
    exact ⟨front, gap, tail, head, mark, last, joined, joinedId,
      (map_eq_map_iff filled_eq_filled).mp sameFront.symm, filled_eq_underscore.mp filler,
      (map_eq_map_iff marked_eq_filled).mp (sameHead.trans sameTail.symm),
      marked_eq_underscore.mp blank, (map_eq_map_iff marked_eq_marked).mp sameLast⟩
  · rintro ⟨front, gap, tail, head, mark, last, joined, joinedId, sameFront, filler, crosses, blank,
      sameLast⟩
    refine ⟨tail.map filled, ?_, ?_⟩
    · rw [joined, List.map_append, List.map_cons, filled_eq_underscore.mpr filler,
        (map_eq_map_iff filled_eq_filled).mpr sameFront]
    · rw [joinedId, List.map_append, List.map_cons, marked_eq_underscore.mpr blank,
        (map_eq_map_iff marked_eq_filled).mpr crosses,
        (map_eq_map_iff marked_eq_marked).mpr sameLast]

/-- The names are cut at two places, and the one behind the other splits what is before it. -/
theorem blends_iff {subject id other otherId : String} :
    (stem subject).map filled ++ '_' :: id.toList.map marked =
        (stem other).map filled ++ '_' :: otherId.toList.map marked ↔
      Blends subject id other otherId := by
  rw [List.append_eq_append_iff]
  constructor
  · rintro (⟨_ | ⟨gap, rest⟩, longer, ending⟩ | ⟨_ | ⟨gap, rest⟩, longer, ending⟩)
    · rw [List.append_nil] at longer
      exact .same ((map_eq_map_iff filled_eq_filled).mp longer.symm)
        ((map_eq_map_iff marked_eq_marked).mp (List.cons.inj ending).2)
    · obtain ⟨rfl, spent⟩ := List.cons.inj ending
      exact .ahead (overhangs_iff.mp ⟨rest, longer, spent⟩)
    · rw [List.append_nil] at longer
      exact .same ((map_eq_map_iff filled_eq_filled).mp longer)
        ((map_eq_map_iff marked_eq_marked).mp (List.cons.inj ending).2.symm)
    · obtain ⟨rfl, spent⟩ := List.cons.inj ending
      exact .behind (overhangs_iff.mp ⟨rest, longer, spent⟩)
  · rintro (⟨stems, marks⟩ | overhangs | overhangs)
    · refine .inl ⟨[], ?_, ?_⟩
      · rw [List.append_nil, (map_eq_map_iff filled_eq_filled).mpr stems]
      · rw [List.nil_append, (map_eq_map_iff marked_eq_marked).mpr marks]
    · obtain ⟨rest, longer, spent⟩ := overhangs_iff.mpr overhangs
      exact .inl ⟨'_' :: rest, longer, by rw [spent, List.cons_append]⟩
    · obtain ⟨rest, longer, spent⟩ := overhangs_iff.mpr overhangs
      exact .inr ⟨'_' :: rest, longer, by rw [spent, List.cons_append]⟩

/-! ### Plain client ids, literal subjects -/

theorem SameMark.iff_of_plain {id other : String} (plain : ∀ c ∈ id.toList, isPlain c = true) :
    SameMark id other ↔ id = other := by
  refine ⟨fun same => String.toList_inj.mp (eq_of_forall₂ same fun c member d _ => ?_), ?_⟩
  · rintro (rfl | ⟨blank, -⟩)
    · rfl
    · rw [plain c member] at blank
      cases blank
  · rintro rfl
    exact List.forall₂_same.mpr fun c _ => .inl rfl

/-- A plain client id reads like no subject that goes on. -/
theorem not_overhangs_of_plain {subject id other otherId : String}
    (plain : ∀ c ∈ id.toList, isPlain c = true) : ¬ Overhangs subject id other otherId := by
  rintro ⟨front, gap, tail, head, mark, rest, -, joined, -, -, -, blank, -⟩
  have member : mark ∈ id.toList := by
    rw [joined]
    exact List.mem_append_right _ List.mem_cons_self
  rw [plain mark member] at blank
  cases blank

/-- **Plain client ids blend only if they are equal**, and then by the stems of the subjects. -/
theorem Blends.iff_of_plain {subject id other otherId : String}
    (plain : ∀ c ∈ id.toList, isPlain c = true)
    (plainOther : ∀ c ∈ otherId.toList, isPlain c = true) :
    Blends subject id other otherId ↔ SameStem subject other ∧ id = otherId := by
  constructor
  · rintro (⟨stems, marks⟩ | overhangs | overhangs)
    · exact ⟨stems, (SameMark.iff_of_plain plain).mp marks⟩
    · exact absurd overhangs (not_overhangs_of_plain plain)
    · exact absurd overhangs (not_overhangs_of_plain plainOther)
  · rintro ⟨stems, rfl⟩
    exact .same stems ((SameMark.iff_of_plain plain).mpr rfl)

/-- A literal subject is its own stem. -/
theorem IsLiteral.stem_eq {subject : String} (literal : IsLiteral subject) :
    stem subject = subject.toList := by
  obtain ⟨clear, ending⟩ := literal
  unfold stem
  obtain empty | ⟨front, last, joined⟩ := List.eq_nil_or_concat subject.toList
  · rw [empty]
    rfl
  rw [joined, List.concat_eq_append] at clear ending ⊢
  rw [List.getLast?_concat] at ending
  obtain ⟨star, rest, -⟩ := clear last (List.mem_append_right _ List.mem_cons_self)
  have kept : isStructure last = false := by
    have separator : last ≠ '.' := fun same => ending (congrArg some same)
    simp [isStructure, separator, star, rest]
  rw [Text.trimEndWhere_append_singleton, if_neg (by simp [kept])]

/-- Literal subjects with one stem are equal. -/
theorem SameStem.eq_of_literal {subject other : String} (same : SameStem subject other)
    (literal : IsLiteral subject) (literalOther : IsLiteral other) : subject = other := by
  unfold SameStem at same
  rw [literal.stem_eq, literalOther.stem_eq] at same
  refine String.toList_inj.mp (eq_of_forall₂ same fun c inSubject d inOther alike => ?_)
  -- The only filler of a literal subject is the separator.
  have clear := literal.1 c inSubject
  have clearOther := literalOther.1 d inOther
  unfold Alike IsFiller isStructure at alike
  grind

end Subject

open Subject

/-- Two streams have one name exactly if the subjects have the same stem. -/
theorem streamName_eq_iff {subject other : String} :
    streamName subject = streamName other ↔ SameStem subject other := by
  unfold streamName
  rw [String.ofList_inj, streamNameChars_eq, streamNameChars_eq]
  exact map_eq_map_iff filled_eq_filled

/-- **Two consumers without a durable name have one name exactly if the clients and subjects
blend.** -/
theorem consumerName_eq_iff {subject id other otherId : String} :
    consumerName none id subject = consumerName none otherId other ↔
      Blends subject id other otherId := by
  rw [← blends_iff, ← String.toList_inj]
  simp only [consumerName, streamName, String.toList_append, String.toList_ofList,
    streamNameChars_eq, List.append_assoc]
  rfl

end MessageBus

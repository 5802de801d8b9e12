/-
**Names of streams and stems of subjects.** The name of a stream is the stem of its subject with
what structure is left in it filled.

* `Subject.IsStem` — a stem, told by what stands behind it and by how it ends; `isStem_iff` — every
  subject has exactly one.
* `Subject.isStructure_of_mem_streamName`, `length_streamName`, `streamName_eq_empty_iff` — which
  characters a name has, and how many.
* `streamName_eq_self_iff` — the subjects that are names; `streamName_streamName` — names among them.
* `streamName_exact` — **names are well-formed, and two of them are one exactly if the stems have
  one length and agree at every place up to structure and `_`**.
-/

import MessageBus.Proofs.Subject.Naming
import Mathlib.Data.List.DropRight

namespace MessageBus

namespace Subject

variable {subject other : String} {text : List Char}

/-- A stem of a subject: behind it stands structure alone, and it does not end with any. -/
structure IsStem (subject : String) (text : List Char) : Prop where
  behind : ∃ run, subject.toList = text ++ run ∧ ∀ c ∈ run, isStructure c = true
  ending : ∀ c ∈ text.getLast?, isStructure c = false

theorem isStem_stem (subject : String) : IsStem subject (stem subject) where
  behind := ⟨subject.toList.rtakeWhile isStructure, List.rdropWhile_append_rtakeWhile.symm,
    fun _ => List.mem_rtakeWhile_imp⟩
  ending := by
    intro c last
    have filled : stem subject ≠ [] := fun empty => by simp [empty] at last
    rw [List.getLast?_eq_some_getLast filled, Option.mem_some_iff] at last
    exact last ▸ Text.getLast_trimEndWhere isStructure subject.toList filled

theorem IsStem.eq_stem (isStem : IsStem subject text) : text = stem subject := by
  obtain ⟨⟨run, joined, structural⟩, ending⟩ := isStem
  unfold stem
  rw [joined]
  clear joined
  -- The run is taken off from its end, one character after another.
  induction run using List.reverseRecOn with
  | nil =>
    rw [List.append_nil]
    refine (List.rdropWhile_eq_self_iff.mpr fun filled ends => ?_).symm
    rw [ending _ (List.getLast?_eq_some_getLast filled)] at ends
    cases ends
  | append_singleton run c ih =>
    rw [← List.append_assoc, Text.trimEndWhere_append_singleton,
      if_pos (structural c (List.mem_append_right _ List.mem_cons_self))]
    exact ih fun d member => structural d (List.mem_append_left _ member)

/-- **Every subject has exactly one stem.** -/
theorem isStem_iff : IsStem subject text ↔ text = stem subject :=
  ⟨IsStem.eq_stem, fun same => same ▸ isStem_stem subject⟩

/-- Nothing is left of structure alone. -/
theorem stem_eq_nil_iff : stem subject = [] ↔ ∀ c ∈ subject.toList, isStructure c = true :=
  List.rdropWhile_eq_nil_iff

/-- A subject without structure is its own stem. -/
theorem stem_of_none (none : ∀ c ∈ subject.toList, isStructure c = false) :
    stem subject = subject.toList := by
  have whole : IsStem subject subject.toList :=
    ⟨⟨[], (List.append_nil _).symm, nofun⟩, fun c last => none c (List.mem_of_getLast? last)⟩
  exact whole.eq_stem.symm

theorem isStructure_filled (c : Char) : isStructure (filled c) = false := by
  have : isStructure '_' = false := by decide
  unfold filled
  grind

theorem toList_streamName (subject : String) :
    (streamName subject).toList = (stem subject).map filled :=
  String.toList_ofList

/-- No structure is left in a name. -/
theorem isStructure_of_mem_streamName {c : Char} (member : c ∈ (streamName subject).toList) :
    isStructure c = false := by
  rw [toList_streamName] at member
  obtain ⟨d, -, rfl⟩ := List.mem_map.mp member
  exact isStructure_filled d

theorem length_streamName (subject : String) :
    (streamName subject).length = (stem subject).length := by
  rw [← String.length_toList, toList_streamName, List.length_map]

theorem streamName_eq_empty_iff :
    streamName subject = "" ↔ ∀ c ∈ subject.toList, isStructure c = true := by
  rw [← stem_eq_nil_iff, ← String.toList_inj, toList_streamName]
  exact List.map_eq_nil_iff

/-- **The subjects that are names of streams are those without structure.** -/
theorem streamName_eq_self_iff :
    streamName subject = subject ↔ ∀ c ∈ subject.toList, isStructure c = false := by
  constructor
  · intro same c member
    rw [← same] at member
    exact isStructure_of_mem_streamName member
  · intro none
    have kept : ∀ c ∈ subject.toList, filled c = c := fun c member => by
      rw [filled, if_neg (by simp [none c member])]
    rw [← String.toList_inj, toList_streamName, stem_of_none none, List.map_congr_left kept]
    exact List.map_id' _

theorem streamName_streamName (subject : String) :
    streamName (streamName subject) = streamName subject :=
  streamName_eq_self_iff.mpr fun _ => isStructure_of_mem_streamName

/-- Two stems are one in names exactly if they have one length and agree at every place. -/
theorem sameStem_iff : SameStem subject other ↔
    (stem subject).length = (stem other).length ∧
      ∀ i (inside : i < (stem subject).length) (insideOther : i < (stem other).length),
        Alike (stem subject)[i] (stem other)[i] :=
  List.forall₂_iff_get

end Subject

open Subject

/-- **Names of streams are well-formed, and they coincide exactly where the stems of subjects
cannot be told apart.** A name has no structure, it has a character for each of the stem of its
subject, it is empty exactly for structure alone, and it is its own name. Two subjects have one name
exactly if their stems have one length and agree at every place, where structure and `_` count as
the same. -/
theorem streamName_exact (subject other : String) :
    (∀ text, IsStem subject text ↔ text = stem subject) ∧
      (∀ c ∈ (streamName subject).toList, c ≠ '.' ∧ c ≠ '*' ∧ c ≠ '>') ∧
      (streamName subject).length = (stem subject).length ∧
      (streamName subject = "" ↔ ∀ c ∈ subject.toList, c = '.' ∨ c = '*' ∨ c = '>') ∧
      streamName (streamName subject) = streamName subject ∧
      (streamName subject = streamName other ↔
        (stem subject).length = (stem other).length ∧
          ∀ i (inside : i < (stem subject).length) (insideOther : i < (stem other).length),
            Alike (stem subject)[i] (stem other)[i]) := by
  have structure_iff : ∀ c, isStructure c = true ↔ c = '.' ∨ c = '*' ∨ c = '>' := by
    simp [isStructure, or_assoc]
  refine ⟨fun _ => isStem_iff, fun c member => ?_, length_streamName subject, ?_,
    streamName_streamName subject, streamName_eq_iff.trans sameStem_iff⟩
  · have free := mt (structure_iff c).mpr (by simp [isStructure_of_mem_streamName member])
    simpa only [not_or] using free
  · simp only [streamName_eq_empty_iff, structure_iff]

/-- An underscore at the end stays where the structure behind it goes, and counts as structure
does. -/
theorem streamName_exact_underscores :
    IsStem "a.*_.>" ['a', '.', '*', '_'] ∧ streamName "a.*_.>" = streamName "a_._*" ∧
      streamName "a.*_.>" ≠ streamName "a.*.>" ∧ streamName ".>" = "" := by
  obtain ⟨stems, -, -, -, -, alike⟩ := streamName_exact "a.*_.>" "a_._*"
  obtain ⟨-, -, -, -, -, shorter⟩ := streamName_exact "a.*_.>" "a.*.>"
  obtain ⟨-, -, -, empty, -⟩ := streamName_exact ".>" ""
  have places : List.Forall₂ Alike ['a', '.', '*', '_'] ['a', '_', '.', '_'] := by
    simp [Alike, IsFiller, isStructure]
  have marks : ∀ c ∈ ['.', '>'], c = '.' ∨ c = '*' ∨ c = '>' := by simp
  exact ⟨(stems _).mpr rfl, alike.mpr (sameStem_iff.mp places),
    fun same => absurd (shorter.mp same).1 (by decide), empty.mpr marks⟩

end MessageBus

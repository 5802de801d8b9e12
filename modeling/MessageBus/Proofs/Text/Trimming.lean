/-
**Trimming.** What is left of a text without the blanks at its ends.

* `IsTrim` — a text that neither begins nor ends with a blank.
* `exists_parts`, `isTrim_trimChars` — trimming takes blanks from both ends, and all of them;
  `trimChars_of_parts` — **it gives back the text that stands between blanks**.
* `trimChars_trimChars`, `trim_trim` — what is trimmed stays as it is; `trimChars_between` — further
  blanks around a text make no difference.
* `isBlankText_iff` — nothing is left of a blank text.
-/

import MessageBus.Text.Blank
import Mathlib.Data.List.DropRight

namespace MessageBus.Text

variable {cs front text back : List Char}

/-- Blanks alone. -/
def AreBlank (cs : List Char) : Prop :=
  ∀ c ∈ cs, isBlank c = true

instance (cs : List Char) : Decidable (AreBlank cs) :=
  List.decidableBAll (fun c => isBlank c = true) cs

/-- A text that neither begins nor ends with a blank. -/
structure IsTrim (text : List Char) : Prop where
  first : ∀ c ∈ text.head?, isBlank c = false
  last : ∀ c ∈ text.getLast?, isBlank c = false

/-- A test of the two ends tells whether a text has blanks there. -/
theorem isTrim_iff : IsTrim text ↔
    text.head?.all (!isBlank ·) = true ∧ text.getLast?.all (!isBlank ·) = true := by
  simp only [Option.all_eq_true, Bool.not_eq_true']
  exact ⟨fun trimmed => ⟨trimmed.first, trimmed.last⟩, fun ⟨first, last⟩ => ⟨first, last⟩⟩

instance (text : List Char) : Decidable (IsTrim text) :=
  decidable_of_iff _ isTrim_iff.symm

theorem areBlank_nil : AreBlank [] := nofun

/-- No other character stands among blanks. -/
theorem AreBlank.notMem {c : Char} (blank : AreBlank cs) (visible : isBlank c = false) : c ∉ cs :=
  fun member => absurd (blank c member) (by simp [visible])

/-- Trimming takes blanks from both ends. -/
theorem exists_parts (cs : List Char) :
    ∃ front back, cs = front ++ trimChars cs ++ back ∧ AreBlank front ∧ AreBlank back := by
  refine ⟨cs.takeWhile isBlank, (cs.dropWhile isBlank).rtakeWhile isBlank, ?_,
    fun c member => List.mem_takeWhile_imp member, fun c member => List.mem_rtakeWhile_imp member⟩
  have ending : trimChars cs ++ (cs.dropWhile isBlank).rtakeWhile isBlank =
      cs.dropWhile isBlank := List.rdropWhile_append_rtakeWhile
  rw [List.append_assoc, ending, List.takeWhile_append_dropWhile]

/-- No blank is left at the ends. -/
theorem isTrim_trimChars (cs : List Char) : IsTrim (trimChars cs) := by
  constructor
  · intro c head
    obtain ⟨back, whole⟩ := List.rdropWhile_prefix isBlank (cs.dropWhile isBlank)
    have begins : (cs.dropWhile isBlank).head? = some c := by
      rw [← whole, List.head?_append]
      exact congrArg (fun first => first.or back.head?) head
    have plain := List.head?_dropWhile_not isBlank cs
    rwa [begins] at plain
  · intro c last
    have some : trimChars cs ≠ [] := fun none => by simp [none] at last
    rw [List.getLast?_eq_some_getLast some, Option.mem_some_iff] at last
    exact last ▸ getLast_trimEndWhere isBlank _ some

/-- **Trimming gives back the text that stands between blanks.** -/
theorem trimChars_of_parts (trimmed : IsTrim text) (before : AreBlank front)
    (behind : AreBlank back) : trimChars (front ++ text ++ back) = text := by
  have dropped : (front ++ text ++ back).dropWhile isBlank = (text ++ back).dropWhile isBlank := by
    rw [List.append_assoc, List.dropWhile_append_of_pos before]
  rw [trimChars, trimWhere, dropped, trimEndWhere]
  cases text with
  | nil => rw [List.nil_append, List.dropWhile_eq_nil_iff.mpr behind]; rfl
  | cons c rest =>
    have turned : AreBlank back.reverse := fun c member => behind c (List.mem_reverse.mp member)
    have kept : ((c :: rest).reverse).dropWhile isBlank = (c :: rest).reverse := by
      refine List.dropWhile_eq_self_iff.mpr fun long ends => ?_
      have last := trimmed.last ((c :: rest).getLast (by simp)) (List.getLast?_eq_some_getLast _)
      rw [← List.head_eq_getElem_zero (by simp), List.head_reverse] at ends
      rw [last] at ends
      cases ends
    rw [List.cons_append, List.dropWhile_cons_of_neg (by simp [trimmed.first c rfl]),
      ← List.cons_append, List.reverse_append, List.dropWhile_append_of_pos turned, kept,
      List.reverse_reverse]

theorem IsTrim.trimChars_eq (trimmed : IsTrim text) : trimChars text = text := by
  simpa using trimChars_of_parts trimmed areBlank_nil areBlank_nil

/-- What is trimmed stays as it is. -/
theorem trimChars_trimChars (cs : List Char) : trimChars (trimChars cs) = trimChars cs :=
  (isTrim_trimChars cs).trimChars_eq

theorem trim_trim (s : String) : trim (trim s) = trim s := by
  rw [trim, trim, String.toList_ofList, trimChars_trimChars]

/-- Blanks around a text make no difference to what is left of it. -/
theorem trimChars_between (leading : AreBlank front) (trailing : AreBlank back) :
    trimChars (front ++ text ++ back) = trimChars text := by
  obtain ⟨first, last, whole, blankFirst, blankLast⟩ := exists_parts text
  have parts : front ++ text ++ back = (front ++ first) ++ trimChars text ++ (last ++ back) := by
    conv_lhs => rw [whole]
    simp only [List.append_assoc]
  rw [parts]
  exact trimChars_of_parts (isTrim_trimChars text)
    (List.forall_mem_append.mpr ⟨leading, blankFirst⟩)
    (List.forall_mem_append.mpr ⟨blankLast, trailing⟩)

/-- Nothing is left of blanks alone. -/
theorem trimChars_eq_nil_iff : trimChars cs = [] ↔ AreBlank cs := by
  constructor
  · intro nothing
    obtain ⟨front, back, whole, before, behind⟩ := exists_parts cs
    rw [nothing, List.append_nil] at whole
    rw [whole]
    exact List.forall_mem_append.mpr ⟨before, behind⟩
  · intro blank
    have nothing : trimChars (cs ++ [] ++ []) = [] :=
      trimChars_of_parts ⟨nofun, nofun⟩ blank areBlank_nil
    simpa using nothing

theorem isBlankText_iff {s : String} : isBlankText s = true ↔ trim s = "" := by
  rw [isBlankText, List.all_eq_true, trim, ← String.toList_inj, String.toList_ofList]
  exact trimChars_eq_nil_iff.symm

end MessageBus.Text

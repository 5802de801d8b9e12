/-
**The texts of durations.**

* `Duration.Spells` — a text that stands for a duration: a numeral of seconds, or a numeral with one
  of three units, which blanks may part from it.
* `Duration.parse?_eq_some_iff` — **a text is read as a duration exactly if it spells that
  duration** once the blanks at its ends are gone. The units are tried one after another; none hides
  another, because before the unit stands a digit or a blank.
-/

import MessageBus.Config.Duration
import MessageBus.Proofs.Text.Numeral
import MessageBus.Proofs.Text.Trimming

namespace MessageBus.Duration

open Text (AreBlank IsNumeral IsTrim trimChars)

variable {cs number gap unit : List Char} {n : Nat} {duration : Duration}

/-- A text without blanks at its ends that stands for a duration. Counts are words of 64 bits, and
so are the seconds of a count of minutes. -/
inductive Spells : List Char → Duration → Prop
  | bare {number : List Char} {n : Nat} (numeral : IsNumeral number n) (fits : n ≤ wordLimit) :
      Spells number (.seconds n)
  | milliseconds {number gap : List Char} {n : Nat} (numeral : IsNumeral number n)
      (blank : AreBlank gap) (fits : n ≤ wordLimit) : Spells (number ++ gap ++ ['m', 's']) ⟨n⟩
  | seconds {number gap : List Char} {n : Nat} (numeral : IsNumeral number n)
      (blank : AreBlank gap) (fits : n ≤ wordLimit) :
      Spells (number ++ gap ++ ['s']) (.seconds n)
  | minutes {number gap : List Char} {n : Nat} (numeral : IsNumeral number n)
      (blank : AreBlank gap) (fits : n * 60 ≤ wordLimit) :
      Spells (number ++ gap ++ ['m']) (.seconds (n * 60))

/-! ### Units and counts -/

theorem stripUnit?_eq_some_iff : stripUnit? unit cs = some number ↔ cs = number ++ unit := by
  unfold stripUnit?
  split
  case isTrue ends =>
    obtain ⟨front, rfl⟩ := List.isSuffixOf_iff_suffix.mp ends
    simp
  case isFalse other =>
    refine iff_of_false nofun ?_
    rintro rfl
    exact other (List.isSuffixOf_iff_suffix.mpr (List.suffix_append number unit))

theorem stripUnit?_eq_none_iff : stripUnit? unit cs = none ↔ ¬ unit <:+ cs := by
  rw [← List.isSuffixOf_iff_suffix, stripUnit?]
  split <;> simp_all

/-- A text with another last character does not end with the unit. -/
theorem stripUnit?_concat_of_ne {front : List Char} (rest : List Char) {c u : Char}
    (other : c ≠ u) : stripUnit? (rest ++ [u]) (front ++ [c]) = none := by
  refine stripUnit?_eq_none_iff.mpr fun ⟨start, same⟩ => other ?_
  have last := congrArg List.getLast? same
  simpa using last.symm

theorem count?_eq_some_iff : count? cs = some n ↔ IsNumeral cs n ∧ n ≤ wordLimit := by
  rw [count?, ← Text.natural_eq_ok_iff]
  cases Text.natural wordLimit cs <;> simp [Except.toOption]

/-- A numeral neither begins nor ends with a blank. -/
theorem isTrim_numeral (numeral : IsNumeral cs n) : IsTrim cs :=
  ⟨fun _ head => numeral.isBlank_eq_false (List.mem_of_head? head),
    fun _ last => numeral.isBlank_eq_false (List.mem_of_getLast? last)⟩

/-- A numeral and blanks end with a character of no unit. -/
theorem exists_ending (numeral : IsNumeral number n) (blank : AreBlank gap) :
    ∃ front c, number ++ gap = front ++ [c] ∧ c ≠ 'm' ∧ c ≠ 's' := by
  rcases List.eq_nil_or_concat' gap with rfl | ⟨blanks, c, rfl⟩
  · obtain ⟨front, c, rfl, digit⟩ := numeral.exists_concat
    refine ⟨front, c, List.append_nil _, ?_, ?_⟩ <;> rintro rfl <;> exact absurd digit (by decide)
  · refine ⟨number ++ blanks, c, (List.append_assoc ..).symm, ?_, ?_⟩ <;> rintro rfl <;>
      exact absurd (blank _ List.mem_concat_self) (by decide)

/-- What stands before a unit is counted without the blanks that part them. -/
theorem count?_trimChars_append (numeral : IsNumeral number n) (blank : AreBlank gap)
    (fits : n ≤ wordLimit) : count? (trimChars (number ++ gap)) = some n := by
  have whole := Text.trimChars_of_parts (isTrim_numeral numeral) Text.areBlank_nil blank
  rw [List.nil_append] at whole
  rw [whole]
  exact count?_eq_some_iff.mpr ⟨numeral, fits⟩

/-- What is counted before a unit is a numeral, up to the blanks that part them. -/
theorem exists_of_count? (trimmed : IsTrim (cs ++ unit)) (counted : count? (trimChars cs) = some n) :
    ∃ number gap, cs = number ++ gap ∧ IsNumeral number n ∧ AreBlank gap ∧ n ≤ wordLimit := by
  obtain ⟨numeral, fits⟩ := count?_eq_some_iff.mp counted
  obtain ⟨front, gap, whole, before, behind⟩ := Text.exists_parts cs
  cases front with
  | nil => exact ⟨_, gap, whole, numeral, behind, fits⟩
  | cons c front =>
    -- The whole text does not begin with a blank, so its count does not either.
    have plain := trimmed.first c (by rw [whole]; rfl)
    rw [before c List.mem_cons_self] at plain
    cases plain

/-! ### Whole texts -/

/-- A spelled duration is read. -/
theorem Spells.parseTrimmed? (spells : Spells cs duration) :
    parseTrimmed? cs = some duration := by
  unfold Duration.parseTrimmed?
  cases spells with
  | bare numeral fits =>
    obtain ⟨front, c, rfl, digit⟩ := numeral.exists_concat
    have small : c ≠ 's' := by rintro rfl; exact absurd digit (by decide)
    have large : c ≠ 'm' := by rintro rfl; exact absurd digit (by decide)
    have milliseconds : stripUnit? ['m', 's'] (front ++ [c]) = none :=
      stripUnit?_concat_of_ne ['m'] small
    have seconds : stripUnit? ['s'] (front ++ [c]) = none :=
      stripUnit?_concat_of_ne [] small
    have minutes : stripUnit? ['m'] (front ++ [c]) = none :=
      stripUnit?_concat_of_ne [] large
    simp only [milliseconds, seconds, minutes, count?_eq_some_iff.mpr ⟨numeral, fits⟩,
      Option.map_some]
  | milliseconds numeral blank fits =>
    simp only [stripUnit?_eq_some_iff.mpr rfl, count?_trimChars_append numeral blank fits,
      Option.map_some]
  | @seconds number gap n numeral blank fits =>
    have milliseconds : stripUnit? ['m', 's'] (number ++ gap ++ ['s']) = none := by
      obtain ⟨front, c, whole, other, -⟩ := exists_ending numeral blank
      refine stripUnit?_eq_none_iff.mpr fun ⟨start, same⟩ => other ?_
      have before : start ++ ['m'] = front ++ [c] := by
        rw [whole] at same
        exact (List.append_inj' ((List.append_assoc ..).trans same) rfl).1
      simpa using (congrArg List.getLast? before).symm
    simp only [milliseconds, stripUnit?_eq_some_iff.mpr rfl,
      count?_trimChars_append numeral blank fits, Option.map_some]
  | @minutes number gap n numeral blank fits =>
    have milliseconds : stripUnit? ['m', 's'] (number ++ gap ++ ['m']) = none :=
      stripUnit?_concat_of_ne ['m'] (by decide)
    have seconds : stripUnit? ['s'] (number ++ gap ++ ['m']) = none :=
      stripUnit?_concat_of_ne [] (by decide)
    have within : n ≤ wordLimit := Nat.le_trans (Nat.le_mul_of_pos_right n (by decide)) fits
    simp only [milliseconds, seconds, stripUnit?_eq_some_iff.mpr rfl,
      count?_trimChars_append numeral blank within]
    exact if_pos fits

/-- What is read as a duration spells it. -/
theorem spells_of_parseTrimmed? (trimmed : IsTrim cs) (read : parseTrimmed? cs = some duration) :
    Spells cs duration := by
  unfold parseTrimmed? at read
  split at read
  case h_1 number stripped =>
    obtain rfl := stripUnit?_eq_some_iff.mp stripped
    obtain ⟨n, counted, rfl⟩ := Option.map_eq_some_iff.mp read
    obtain ⟨number, gap, rfl, numeral, blank, fits⟩ := exists_of_count? trimmed counted
    exact .milliseconds numeral blank fits
  split at read
  case h_1 number stripped =>
    obtain rfl := stripUnit?_eq_some_iff.mp stripped
    obtain ⟨n, counted, rfl⟩ := Option.map_eq_some_iff.mp read
    obtain ⟨number, gap, rfl, numeral, blank, fits⟩ := exists_of_count? trimmed counted
    exact .seconds numeral blank fits
  split at read
  case h_1 number stripped =>
    obtain rfl := stripUnit?_eq_some_iff.mp stripped
    obtain ⟨n, counted, limited⟩ := Option.bind_eq_some_iff.mp read
    obtain ⟨number, gap, rfl, numeral, blank, -⟩ := exists_of_count? trimmed counted
    obtain ⟨fits, same⟩ := Option.ite_none_right_eq_some.mp limited
    exact Option.some.inj same ▸ .minutes numeral blank fits
  case h_2 =>
    obtain ⟨n, counted, rfl⟩ := Option.map_eq_some_iff.mp read
    obtain ⟨numeral, fits⟩ := count?_eq_some_iff.mp counted
    exact .bare numeral fits

/-- **A text is read as a duration exactly if it spells that duration** once the blanks at its ends
are gone. -/
theorem parse?_eq_some_iff {s : String} :
    parse? s = some duration ↔ Spells (trimChars s.toList) duration :=
  ⟨spells_of_parseTrimmed? (Text.isTrim_trimChars _), Spells.parseTrimmed?⟩

end MessageBus.Duration

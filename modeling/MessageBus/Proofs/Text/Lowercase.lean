/-
**Lower-cased names.** When the full lower-case form of a text is a given name.

* `plainLetters` — letters that no other character of any script lowers to than the Latin letter
  itself and its capital, unlike `k`, which is also the lower case of the Kelvin sign.
* `lowercaseFrom_of_ascii` — a text of ASCII is lower-cased letter by letter.
* `lowercaseChars_eq_iff` — **a text lowers to a name of plain letters exactly if it is that name up
  to the case of Latin letters**.
* `lowercase_eq_empty_iff` — no character vanishes.
-/

import MessageBus.Text.Blank
import MessageBus.Text.Case

namespace MessageBus.Text

variable {before cs name : List Char} {c l : Char}

/-- Letters that only the Latin letter itself and its capital lower to. -/
def plainLetters : List Char :=
  ['c', 'l', 'm', 'p', 'q', 's', 't']

/-- What holds of all plain letters, one by one. -/
theorem forall_plainLetter {P : Char → Prop}
    (each : P 'c' ∧ P 'l' ∧ P 'm' ∧ P 'p' ∧ P 'q' ∧ P 's' ∧ P 't') : ∀ l ∈ plainLetters, P l := by
  simpa [plainLetters] using each

theorem code_of_plainLetter (plain : l ∈ plainLetters) : 97 ≤ l.toNat ∧ l.toNat ≤ 122 :=
  forall_plainLetter (P := fun l => 97 ≤ l.toNat ∧ l.toNat ≤ 122) (by decide) l plain

/-! ### Single characters -/

/-- A character lowers to something. -/
theorem lowerChar_ne_nil (c : Char) : lowerChar c ≠ [] := by
  unfold lowerChar
  split <;> nofun

/-- In the tables, plain letters are the images of their own capitals alone. -/
theorem runs_of_plainLetter : ∀ l ∈ plainLetters, ∀ run ∈ lowerRuns, run.image ≤ l.toNat →
    l.toNat - run.image ≤ run.last - run.first →
      run.first + (l.toNat - run.image) + 32 = l.toNat :=
  forall_plainLetter (by decide +kernel)

theorem toNat_of_ofNat_eq {n : Nat} (same : Char.ofNat n = l) (positive : l.toNat ≠ 0) :
    n = l.toNat := by
  subst same
  by_cases valid : n.isValidChar
  · rw [Char.ofNat, dif_pos valid]
    rfl
  · rw [Char.ofNat, dif_neg valid] at positive
    exact absurd rfl positive

/-- A capital lies 32 places before its letter. -/
theorem asciiLower_of_code (plain : l ∈ plainLetters) (place : c.toNat + 32 = l.toNat) :
    asciiLower c = l := by
  have code := code_of_plainLetter plain
  have capital : 'A' ≤ c ∧ c ≤ 'Z' := by
    simp only [Char.le_def, UInt32.le_iff_toNat_le]
    change 65 ≤ c.toNat ∧ c.toNat ≤ 90
    omega
  rw [asciiLower, if_pos capital, place, Char.ofNat_toNat]

/-- **A plain letter is the lower case of itself and its capital alone.** -/
theorem lowerChar_of_plainLetter (plain : l ∈ plainLetters) (lowers : l ∈ lowerChar c) :
    lowerChar c = [l] ∧ asciiLower c = l := by
  unfold lowerChar at lowers ⊢
  split at lowers
  case isTrue dotted =>
    have others : ∀ l ∈ plainLetters, l ∉ ['i', Char.ofNat 0x307] :=
      forall_plainLetter (by decide)
    exact absurd lowers (others l plain)
  case isFalse dotless =>
    have same := List.mem_singleton.mp lowers
    refine ⟨by rw [if_neg dotless, ← same], ?_⟩
    cases found : lowerRuns.findSome? (·.image? c) with
    | none =>
      rw [found] at same
      have small : ∀ l ∈ plainLetters, asciiLower l = l := forall_plainLetter (by decide)
      exact (congrArg asciiLower same.symm).trans (small l plain)
    | some d =>
      rw [found] at same
      obtain ⟨run, member, image⟩ := List.exists_of_findSome?_eq_some found
      obtain ⟨⟨first, last, -⟩, place⟩ := Option.ite_none_right_eq_some.mp image
      have code := code_of_plainLetter plain
      have reached : run.image + (c.toNat - run.first) = l.toNat :=
        toNat_of_ofNat_eq ((Option.some.inj place).trans same.symm) (by omega)
      have capital := runs_of_plainLetter l plain run member (by omega) (by omega)
      exact asciiLower_of_code plain (by omega)

/-- A character of ASCII lowers to one letter. -/
theorem lowerChar_of_ascii (ascii : c.toNat < 128) : lowerChar c = [asciiLower c] := by
  have table : ∀ n < 128, lowerChar (Char.ofNat n) = [asciiLower (Char.ofNat n)] := by
    decide +kernel
  simpa using table c.toNat ascii

/-! ### Whole texts -/

/-- A text of ASCII is lower-cased letter by letter. -/
theorem lowercaseFrom_of_ascii (ascii : ∀ c ∈ cs, c.toNat < 128) :
    lowercaseFrom before cs = cs.map asciiLower := by
  induction cs generalizing before with
  | nil => rfl
  | cons c cs ih =>
    obtain ⟨first, others⟩ := List.forall_mem_cons.mp ascii
    have latin : c ≠ 'Σ' := by rintro rfl; exact absurd first (by decide)
    rw [lowercaseFrom, if_neg latin, lowerChar_of_ascii first, ih others]
    rfl

/-- What lowers to plain letters is spelled with them. -/
theorem map_asciiLower_of_lowercaseFrom (plain : name ⊆ plainLetters)
    (lowers : lowercaseFrom before cs = name) : cs.map asciiLower = name := by
  induction cs generalizing before name with
  | nil => exact lowers
  | cons c cs ih =>
    rw [lowercaseFrom] at lowers
    by_cases final : c = 'Σ'
    · rw [if_pos final] at lowers
      have greek : sigma before cs ∉ plainLetters := by
        unfold sigma
        split <;> decide
      exact absurd (plain (lowers ▸ List.mem_cons_self)) greek
    · rw [if_neg final] at lowers
      obtain ⟨l, rest, some⟩ := List.exists_cons_of_ne_nil (lowerChar_ne_nil c)
      have first : l ∈ plainLetters := plain (by rw [← lowers, some]; exact List.mem_cons_self)
      obtain ⟨single, letter⟩ :=
        lowerChar_of_plainLetter first (by rw [some]; exact List.mem_cons_self)
      rw [single, List.singleton_append] at lowers
      subst lowers
      rw [List.map_cons, letter, ih (fun _ member => plain (List.mem_cons_of_mem l member)) rfl]

/-- A plain letter is a letter of ASCII in either case. -/
theorem ascii_of_asciiLower (plain : asciiLower c ∈ plainLetters) : c.toNat < 128 := by
  have code := code_of_plainLetter plain
  unfold asciiLower at code
  split at code
  case isTrue capital =>
    have last := capital.2
    simp only [Char.le_def, UInt32.le_iff_toNat_le] at last
    change c.toNat ≤ 90 at last
    omega
  case isFalse => omega

/-- What holds of the plain letters of ASCII in either case can be looked up in its table. -/
theorem of_asciiLower {P : Char → Prop}
    (table : ∀ n < 128, asciiLower (Char.ofNat n) ∈ plainLetters → P (Char.ofNat n))
    (plain : asciiLower c ∈ plainLetters) : P c := by
  have listed := table c.toNat (ascii_of_asciiLower plain)
  rw [Char.ofNat_toNat] at listed
  exact listed plain

/-- A plain letter in either case is no blank. -/
theorem isBlank_of_asciiLower (plain : asciiLower c ∈ plainLetters) : isBlank c = false :=
  of_asciiLower (P := fun c => isBlank c = false) (by decide +kernel) plain

/-- **A text lowers to a name of plain letters exactly if it is that name up to the case of Latin
letters.** -/
theorem lowercaseChars_eq_iff (plain : name ⊆ plainLetters) :
    lowercaseChars cs = name ↔ cs.map asciiLower = name := by
  constructor
  · exact map_asciiLower_of_lowercaseFrom plain
  · rintro rfl
    exact lowercaseFrom_of_ascii fun c member =>
      ascii_of_asciiLower (plain (List.mem_map_of_mem member))

/-- No character vanishes. -/
theorem lowercase_eq_empty_iff {s : String} : lowercase s = "" ↔ s = "" := by
  rw [lowercase, ← String.toList_inj, String.toList_ofList, ← String.toList_inj, lowercaseChars]
  cases s.toList with
  | nil => rfl
  | cons c cs =>
    refine iff_of_false (fun empty => ?_) nofun
    rw [lowercaseFrom] at empty
    have nothing := (List.append_eq_nil_iff.mp empty).1
    split at nothing
    · cases nothing
    · exact lowerChar_ne_nil c nothing

end MessageBus.Text

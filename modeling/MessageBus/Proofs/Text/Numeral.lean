/-
**Numerals.** The texts that are read as natural numbers.

* `IsNumeral` — a text that stands for a number: one optional plus sign, then digits.
* `digits_eq_ok_iff` — what the reader of digits accepts.
* `natural_eq_ok_iff` — **a text is read as a number exactly if it is a numeral of that number**, and
  the number keeps to the limit.
* `IsNumeral.unique` — a numeral stands for one number.
-/

import MessageBus.Proofs.Text.Decimal

namespace MessageBus.Text

variable {limit value n m : Nat} {beyond : IntegerFault} {cs : List Char}

/-- The text of a natural number: one optional plus sign, then at least one digit; zeros may stand
in front. -/
inductive IsNumeral : List Char → Nat → Prop
  | plain {ds : List Char} (some : ds ≠ []) (digit : ∀ c ∈ ds, c.isDigit = true) :
      IsNumeral ds (Nat.ofDigitChars 10 ds 0)
  | signed {ds : List Char} (some : ds ≠ []) (digit : ∀ c ∈ ds, c.isDigit = true) :
      IsNumeral ('+' :: ds) (Nat.ofDigitChars 10 ds 0)

/-- A character with a digit's value is a digit. -/
theorem digitValue?_eq_some_iff {c : Char} {d : Nat} :
    digitValue? c = some d ↔ c.isDigit = true ∧ c.toNat - '0'.toNat = d := by
  have range : c.isDigit = true ↔ '0' ≤ c ∧ c ≤ '9' := by
    simp [Char.isDigit, Char.le_def]
  simp only [digitValue?, range, Option.ite_none_right_eq_some, Option.some.injEq]

/-- **What the reader of digits accepts**: digits alone, as long as their value keeps to the
limit. -/
theorem digits_eq_ok_iff (start : value ≤ limit) :
    digits limit beyond value cs = .ok n ↔
      (∀ c ∈ cs, c.isDigit = true) ∧ Nat.ofDigitChars 10 cs value = n ∧ n ≤ limit := by
  constructor
  · intro read
    induction cs generalizing value with
    | nil =>
      cases read
      exact ⟨nofun, rfl, start⟩
    | cons c cs ih =>
      rw [digits] at read
      cases first : digitValue? c with
      | none => simp [first] at read
      | some d =>
        rw [first] at read
        by_cases fits : value * 10 + d ≤ limit
        · obtain ⟨others, sum, within⟩ := ih fits (by simpa [fits] using read)
          obtain ⟨digit, rfl⟩ := digitValue?_eq_some_iff.mp first
          refine ⟨List.forall_mem_cons.mpr ⟨digit, others⟩, ?_, within⟩
          rw [← sum, Nat.ofDigitChars_eq_foldl, Nat.ofDigitChars_eq_foldl, List.foldl_cons,
            Nat.mul_comm 10]
        · simp [fits] at read
  · rintro ⟨digit, rfl, within⟩
    exact digits_of_isDigit digit within

/-- The reader of what follows a sign asks for a digit. -/
theorem signedDigits_eq_ok_iff :
    signedDigits limit beyond cs = .ok n ↔
      cs ≠ [] ∧ (∀ c ∈ cs, c.isDigit = true) ∧ Nat.ofDigitChars 10 cs 0 = n ∧ n ≤ limit := by
  cases cs with
  | nil => simp [signedDigits]
  | cons c cs =>
    rw [signedDigits, digits_eq_ok_iff (Nat.zero_le limit)]
    · simp
    · exact List.cons_ne_nil c cs

/-- **A text is read as a number exactly if it is a numeral of that number**, and the number keeps
to the limit. -/
theorem natural_eq_ok_iff : natural limit cs = .ok n ↔ IsNumeral cs n ∧ n ≤ limit := by
  constructor
  · intro read
    unfold natural at read
    split at read
    case h_1 => cases read
    case h_2 ds =>
      obtain ⟨some, digit, rfl, within⟩ := signedDigits_eq_ok_iff.mp read
      exact ⟨.signed some digit, within⟩
    case h_3 ds some unsigned =>
      obtain ⟨digit, rfl, within⟩ := (digits_eq_ok_iff (Nat.zero_le limit)).mp read
      exact ⟨.plain some digit, within⟩
  · rintro ⟨numeral, within⟩
    cases numeral with
    | plain some digit =>
      rw [natural]
      · exact digits_of_isDigit digit within
      · exact some
      · rintro ds rfl
        exact absurd (digit '+' List.mem_cons_self) (by decide)
    | signed some digit =>
      exact signedDigits_eq_ok_iff.mpr ⟨some, digit, rfl, within⟩

/-- A numeral is made of digits and the plus sign, and ends with a digit. -/
theorem IsNumeral.exists_concat (numeral : IsNumeral cs n) :
    ∃ front c, cs = front ++ [c] ∧ c.isDigit = true := by
  cases numeral with
  | plain some digit =>
    exact ⟨_, _, (List.dropLast_concat_getLast some).symm, digit _ (List.getLast_mem some)⟩
  | @signed ds some digit =>
    refine ⟨'+' :: ds.dropLast, ds.getLast some, ?_, digit _ (List.getLast_mem some)⟩
    rw [List.cons_append, List.dropLast_concat_getLast]

/-- A numeral is made of digits and the plus sign alone. -/
theorem IsNumeral.isDigit_or_plus (numeral : IsNumeral cs n) {c : Char} (member : c ∈ cs) :
    c.isDigit = true ∨ c = '+' := by
  cases numeral with
  | plain some digit => exact .inl (digit c member)
  | signed some digit => exact (List.mem_cons.mp member).symm.imp (digit c) id

/-- A numeral stands for one number. -/
theorem IsNumeral.unique (numeral : IsNumeral cs n) (other : IsNumeral cs m) : n = m := by
  have sign : ∀ {ds : List Char}, ¬ ∀ c ∈ '+' :: ds, c.isDigit = true := fun digit =>
    absurd (digit '+' List.mem_cons_self) (by decide)
  cases numeral with
  | plain some digit =>
    cases other with
    | plain => rfl
    | signed => exact absurd digit sign
  | signed some digit =>
    cases other with
    | plain _ digits => exact absurd digits sign
    | signed => rfl

/-- No character of a numeral is a blank. -/
theorem IsNumeral.isBlank_eq_false (numeral : IsNumeral cs n) {c : Char} (member : c ∈ cs) :
    isBlank c = false := by
  cases numeral with
  | plain some digit => exact isBlank_of_isDigit (digit c member)
  | signed some digit =>
    rcases List.mem_cons.mp member with rfl | inside
    · decide
    · exact isBlank_of_isDigit (digit c inside)

end MessageBus.Text

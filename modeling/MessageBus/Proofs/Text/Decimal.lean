/-
**Integers come back from their decimal text.**

* `toList_toString` — the text of an integer: a minus sign if it is negative, and the digits of its
  magnitude.
* `digits_toDigits` — reading the digits of a number gives the number, up to the limit.
* `integer_toString` — **an integer of the range is read back from its text**; `trimChars_toString`
  — nothing is stripped from that text.
-/

import MessageBus.Text.Blank
import MessageBus.Text.Integer

namespace MessageBus.Text

/-- The decimal digits of a number are digits. -/
theorem isDigit_of_mem_toDigits {n : Nat} {c : Char} (member : c ∈ Nat.toDigits 10 n) :
    c.isDigit = true :=
  Nat.isDigit_of_mem_toDigits (by decide) (by decide) member

/-- A digit lies between `0` and `9`. -/
theorem code_of_isDigit {c : Char} (digit : c.isDigit = true) : 48 ≤ c.toNat ∧ c.toNat ≤ 57 := by
  simpa [Char.isDigit, UInt32.le_iff_toNat_le] using digit

/-- The text of an integer. -/
theorem toList_toString (n : Int) :
    (toString n).toList =
      if n < 0 then '-' :: Nat.toDigits 10 n.natAbs else Nat.toDigits 10 n.natAbs := by
  show n.repr.toList = _
  rw [Int.repr_eq_if]
  by_cases negative : n < 0
  · rw [if_neg (by omega), if_pos negative, Nat.repr_eq_ofList_toDigits,
      show (-n).toNat = n.natAbs by omega]
    simp only [String.toList_append, String.toList_ofList]
    rfl
  · rw [if_pos (by omega), if_neg negative, Nat.repr_eq_ofList_toDigits, String.toList_ofList,
      show n.toNat = n.natAbs by omega]

/-- Every character of the text of an integer is a digit or the sign. -/
theorem isDigit_of_mem_toString {n : Int} {c : Char} (member : c ∈ (toString n).toList) :
    c = '-' ∨ c.isDigit = true := by
  rw [toList_toString] at member
  split at member
  · exact (List.mem_cons.mp member).imp_right isDigit_of_mem_toDigits
  · exact .inr (isDigit_of_mem_toDigits member)

theorem isEmpty_toString (n : Int) : (toString n).isEmpty = false := by
  have digits : (toString n).toList ≠ [] := by
    rw [toList_toString]
    split
    · nofun
    · exact Nat.toDigits_ne_nil
  simpa using digits

/-! ### Digits -/

theorem digitValue?_of_isDigit {c : Char} (digit : c.isDigit = true) :
    digitValue? c = some (c.toNat - '0'.toNat) := by
  have code := code_of_isDigit digit
  have range : '0' ≤ c ∧ c ≤ '9' := by
    simpa [Char.le_def, UInt32.le_iff_toNat_le] using code
  rw [digitValue?, if_pos range]

/-- Further digits make no number smaller. -/
theorem le_ofDigitChars (cs : List Char) (value : Nat) : value ≤ Nat.ofDigitChars 10 cs value := by
  rw [Nat.ofDigitChars_eq_ofDigitChars_zero]
  have grows : 1 ≤ 10 ^ cs.length := Nat.one_le_pow _ _ (by decide)
  calc value = 1 * value := (Nat.one_mul value).symm
    _ ≤ 10 ^ cs.length * value := Nat.mul_le_mul_right value grows
    _ ≤ _ := Nat.le_add_right _ _

/-- Digits are read to their value as long as that keeps to the limit. -/
theorem digits_of_isDigit {limit : Nat} {beyond : IntegerFault} {cs : List Char} {value : Nat}
    (digit : ∀ c ∈ cs, c.isDigit = true) (within : Nat.ofDigitChars 10 cs value ≤ limit) :
    digits limit beyond value cs = .ok (Nat.ofDigitChars 10 cs value) := by
  induction cs generalizing value with
  | nil => rfl
  | cons c cs ih =>
    have step : Nat.ofDigitChars 10 (c :: cs) value =
        Nat.ofDigitChars 10 cs (value * 10 + (c.toNat - '0'.toNat)) := by
      rw [Nat.ofDigitChars_eq_foldl, Nat.ofDigitChars_eq_foldl, List.foldl_cons, Nat.mul_comm 10]
    rw [step] at within ⊢
    have fits := Nat.le_trans (le_ofDigitChars cs _) within
    rw [digits, digitValue?_of_isDigit (digit c List.mem_cons_self)]
    simp only [if_pos fits]
    exact ih (fun other member => digit other (List.mem_cons_of_mem c member)) within

/-- The digits of a number up to the limit are read to the number. -/
theorem digits_toDigits {limit n : Nat} (beyond : IntegerFault) (within : n ≤ limit) :
    digits limit beyond 0 (Nat.toDigits 10 n) = .ok n := by
  have value : Nat.ofDigitChars 10 (Nat.toDigits 10 n) 0 = n := Nat.ofDigitChars_ten_toDigits
  rw [digits_of_isDigit (fun _ => isDigit_of_mem_toDigits) (by omega), value]

theorem signedDigits_toDigits {limit n : Nat} (beyond : IntegerFault) (within : n ≤ limit) :
    signedDigits limit beyond (Nat.toDigits 10 n) = .ok n := by
  cases text : Nat.toDigits 10 n with
  | nil => exact absurd text Nat.toDigits_ne_nil
  | cons c cs =>
    rw [signedDigits, ← text]
    · exact digits_toDigits beyond within
    · nofun

/-! ### Integers -/

/-- **An integer of the range is read back from its text.** -/
theorem integer_toString {limit : Nat} {n : Int} (least : -(limit + 1 : Int) ≤ n)
    (most : n ≤ limit) : integer limit (toString n).toList = .ok n := by
  rw [toList_toString]
  by_cases negative : n < 0
  · rw [if_pos negative, integer, signedDigits_toDigits .tooSmall (by omega)]
    simp only [Except.map]
    congr 1
    simp only [Int.ofNat_eq_natCast]
    omega
  · rw [if_neg negative]
    have read : digits limit .tooLarge 0 (Nat.toDigits 10 n.natAbs) = .ok n.natAbs :=
      digits_toDigits .tooLarge (by omega)
    have digit : ∀ c ∈ Nat.toDigits 10 n.natAbs, c.isDigit = true :=
      fun _ => isDigit_of_mem_toDigits
    cases text : Nat.toDigits 10 n.natAbs with
    | nil => exact absurd text Nat.toDigits_ne_nil
    | cons c cs =>
      rw [text] at read digit
      have first := digit c List.mem_cons_self
      -- A digit is neither of the signs, so the text is read as digits alone.
      rw [integer, read]
      · simp only [Except.map]
        congr 1
        simp only [Int.ofNat_eq_natCast]
        omega
      · nofun
      · rintro _ ⟨⟩
        exact absurd first (by decide)
      · rintro _ ⟨⟩
        exact absurd first (by decide)

/-- A digit is no blank. -/
theorem isBlank_of_isDigit {c : Char} (digit : c.isDigit = true) : isBlank c = false := by
  have code := code_of_isDigit digit
  simp only [isBlank, Bool.or_eq_false_iff, Bool.and_eq_false_iff, decide_eq_false_iff_not,
    beq_eq_false_iff_ne]
  omega

/-- Nothing is stripped from the text of an integer. -/
theorem trimChars_toString (n : Int) : trimChars (toString n).toList = (toString n).toList := by
  refine trimWhere_of_none fun c member => ?_
  rcases isDigit_of_mem_toString member with rfl | digit
  · decide
  · exact isBlank_of_isDigit digit

end MessageBus.Text

/-
**Strings and integers come back from JSON text.**

* `Ends` — what may stand behind a value: nothing, white space, a comma or a closing bracket.
* `Reads` — a reader takes a written value off the front and leaves what stands behind it.
* `reads_spelled` — **every text comes back from each of its spellings**; `spells_of_plain` — a text
  without characters to escape is spelled by itself.
* `reads_integer` — **every integer of a range within 64 bits comes back** from its digits.
-/

import MessageBus.Json.Reader
import MessageBus.Proofs.Json.Quoted
import MessageBus.Proofs.Text.Decimal

namespace MessageBus.Json

open MessageBus.Text

/-! ### Reading off the front -/

/-- What may stand behind a value: nothing, white space, a comma or a closing bracket. -/
def Ends (rest : List UInt8) : Prop :=
  ∀ b ∈ rest.head?, isGap b = true ∨ b = 44 ∨ b = 93 ∨ b = 125

/-- A reader takes a written value off the front and leaves what stands behind it. -/
def Reads {α : Type} (reader : Reader α) (written : List Char) (value : α) : Prop :=
  ∀ rest, Ends rest → reader (Utf8.encode written ++ rest) = .ok (value, rest)

theorem skipGap_cons {b : UInt8} (solid : isGap b = false) (rest : List UInt8) :
    skipGap (b :: rest) = b :: rest :=
  List.dropWhile_cons_of_neg (by simp [solid])

/-! ### Strings -/

/-- **Every text comes back from each of its spellings**, whatever stands behind it. -/
theorem reads_spelled {s : String} {written : List Char} (spelled : Spells s written) :
    Reads text written s := by
  obtain ⟨pieces, each, rfl⟩ := spelled
  intro rest _
  rw [encode_quoted, text, skipGap_cons rfl]
  exact (if_pos rfl).trans (readString_spelled each rest)

/-- A text without characters to escape is spelled by itself in quotes. -/
theorem spells_of_plain {cs : List Char} (plain : ∀ c ∈ cs, c ≠ '"' ∧ c ≠ '\\' ∧ 32 ≤ c.toNat) :
    Spells (String.ofList cs) ('"' :: (cs ++ ['"'])) := by
  refine ⟨cs.map fun c => [c], ?_, by rw [← List.flatMap_def, List.flatMap_singleton']⟩
  rw [String.toList_ofList, List.forall₂_map_right_iff, List.forall₂_same]
  intro c member
  obtain ⟨quote, backslash, visible⟩ := plain c member
  exact .plain quote backslash visible

/-! ### Integers -/

/-- The byte of a digit is a digit. -/
theorem isDigit_byte {c : Char} (digit : c.isDigit = true) :
    isDigit (UInt8.ofNat c.toNat) = true ∧ (UInt8.ofNat c.toNat).toNat = c.toNat := by
  have code := code_of_isDigit digit
  have value : (UInt8.ofNat c.toNat).toNat = c.toNat := Utf8.toNat_ofNat_of_lt (by omega)
  refine ⟨?_, value⟩
  simpa [isDigit, UInt8.le_iff_toNat_le, value] using code

/-- What may stand behind a value does not continue a number. -/
theorem Ends.cases {rest : List UInt8} (ends : Ends rest) : rest = [] ∨ ∃ b more,
    rest = b :: more ∧ isDigit b = false ∧ b ≠ 46 ∧ b ≠ 101 ∧ b ≠ 69 := by
  cases rest with
  | nil => exact .inl rfl
  | cons b more =>
    refine .inr ⟨b, more, rfl, ?_⟩
    rcases ends b rfl with gap | rfl | rfl | rfl
    · simp only [isGap, Bool.or_eq_true, beq_iff_eq] at gap
      rcases gap with ((rfl | rfl) | rfl) | rfl <;> decide
    all_goals decide

/-- Digits are read to their value as long as that fits 64 bits. -/
theorem fittingDigits_of_isDigit {cs : List Char} {value count : Nat} {rest : List UInt8}
    (digit : ∀ c ∈ cs, c.isDigit = true) (fits : Nat.ofDigitChars 10 cs value < UInt64.size)
    (ends : Ends rest) :
    fittingDigits value count ((cs.map fun c => UInt8.ofNat c.toNat) ++ rest) =
      (Nat.ofDigitChars 10 cs value, count + cs.length, rest) := by
  induction cs generalizing value count with
  | nil =>
    rcases ends.cases with rfl | ⟨b, more, rfl, other, -⟩
    · rfl
    · show (if isDigit b && _ then _ else _) = _
      rw [other]
      rfl
  | cons c cs ih =>
    have step : Nat.ofDigitChars 10 (c :: cs) value =
        Nat.ofDigitChars 10 cs (value * 10 + (c.toNat - 48)) := by
      rw [Nat.ofDigitChars_eq_foldl, Nat.ofDigitChars_eq_foldl, List.foldl_cons, Nat.mul_comm 10]
      rfl
    obtain ⟨isDigit, value'⟩ := isDigit_byte (digit c List.mem_cons_self)
    rw [step] at fits ⊢
    have grows := le_ofDigitChars cs (value * 10 + (c.toNat - 48))
    have next : fittingDigits (value * 10 + (c.toNat - 48)) (count + 1)
        ((cs.map fun c => UInt8.ofNat c.toNat) ++ rest) = _ :=
      ih (fun other member => digit other (List.mem_cons_of_mem c member)) fits
    rw [List.map_cons, List.cons_append, fittingDigits, value', isDigit, Bool.true_and,
      if_pos (by rw [decide_eq_true_eq]; omega), next, List.length_cons]
    congr 2
    omega

/-- Only the digits of zero start with a zero. -/
theorem toDigits_of_pos {n : Nat} (positive : 0 < n) :
    ∃ c cs, Nat.toDigits 10 n = c :: cs ∧ c ≠ '0' := by
  induction n using Nat.strongRecOn with
  | ind n ih =>
    by_cases small : n < 10
    · have other : ∀ m < 10, 0 < m → m.digitChar ≠ '0' := by decide
      exact ⟨_, [], Nat.toDigits_of_lt_base small, other n small positive⟩
    · obtain ⟨c, cs, front, other⟩ := ih (n / 10) (by omega) (by omega)
      refine ⟨c, cs ++ [(n % 10).digitChar], ?_, other⟩
      rw [Nat.toDigits_of_base_le (by decide) (by omega), front, List.cons_append]

/-- The digits of a number as bytes. -/
theorem encode_toDigits (n : Nat) :
    Utf8.encode (Nat.toDigits 10 n) = (Nat.toDigits 10 n).map fun c => UInt8.ofNat c.toNat := by
  refine Utf8.encode_of_ascii fun c member => ?_
  have := code_of_isDigit (isDigit_of_mem_toDigits member)
  omega

/-- A number ends where a value does. -/
theorem readTail_of_ends {rest : List UInt8} (ends : Ends rest) (negative : Bool) (n : Nat) :
    readTail negative n 0 rest = readTail.ending negative n 0 rest := by
  rcases ends.cases with rfl | ⟨b, more, rfl, -, point, small, capital⟩
  · rfl
  · rw [readTail, if_neg point, if_neg (not_or.mpr ⟨small, capital⟩)]

/-- The digits of a number are read to the number. -/
theorem readUnsigned_toDigits {n : Nat} (fits : n < UInt64.size) {rest : List UInt8}
    (ends : Ends rest) (negative : Bool) :
    readUnsigned negative (Utf8.encode (Nat.toDigits 10 n) ++ rest) =
      readTail.ending negative n 0 rest := by
  rw [encode_toDigits, ← readTail_of_ends ends]
  -- A zero in front must stand alone, so zero is read on a way of its own.
  by_cases zero : n = 0
  · subst zero
    show readUnsigned negative (48 :: rest) = _
    rcases ends.cases with rfl | ⟨b, more, rfl, other, -⟩
    · rfl
    · show (if isDigit b then _ else _) = _
      rw [other]
      rfl
  · have digit : ∀ c ∈ Nat.toDigits 10 n, c.isDigit = true := fun _ => isDigit_of_mem_toDigits
    have value : Nat.ofDigitChars 10 (Nat.toDigits 10 n) 0 = n := Nat.ofDigitChars_ten_toDigits
    have read : fittingDigits 0 0
        (((Nat.toDigits 10 n).map fun c => UInt8.ofNat c.toNat) ++ rest) = _ :=
      fittingDigits_of_isDigit digit (by rwa [value]) ends
    obtain ⟨c, cs, front, nonzero⟩ := toDigits_of_pos (by omega : 0 < n)
    -- All digits fit, so none is left over to scale the number by.
    have none : rest.takeWhile isDigit = [] := by
      rcases ends.cases with rfl | ⟨b, more, rfl, other, -⟩
      · rfl
      · exact List.takeWhile_cons_of_neg (by simp [other])
    rw [value, front, List.map_cons, List.cons_append] at read
    rw [front] at digit ⊢
    obtain ⟨first, same⟩ := isDigit_byte (digit c List.mem_cons_self)
    have other : UInt8.ofNat c.toNat ≠ 48 := fun zero =>
      nonzero (Char.toNat_inj.mp (same.symm.trans (congrArg UInt8.toNat zero)))
    rw [List.map_cons, List.cons_append]
    unfold readUnsigned
    simp only [if_neg other, if_pos first, read, none, List.length_nil, List.drop_zero]

/-- The text of an integer starts with a digit or a minus sign, and is read to the integer. -/
theorem readNumber_toString {n : Int} (least : -9223372036854775808 ≤ n)
    (most : n < 18446744073709551616) {rest : List UInt8} (ends : Ends rest) :
    ∃ b more, Utf8.encode (toString n).toList ++ rest = b :: more ∧
      (b = 45 ∨ isDigit b = true) ∧ readNumber (b :: more) = .ok (.integer n, rest) := by
  have fits : n.natAbs < UInt64.size := by
    rw [show UInt64.size = 18446744073709551616 from rfl]
    omega
  rw [toList_toString]
  by_cases negative : n < 0
  · rw [if_pos negative, Utf8.encode_cons]
    refine ⟨45, _, rfl, .inl rfl, ?_⟩
    show readUnsigned true (Utf8.encode (Nat.toDigits 10 n.natAbs) ++ rest) = _
    rw [readUnsigned_toDigits fits ends, readTail.ending, if_neg (by decide), if_neg (by decide),
      if_neg (by omega), show -(n.natAbs : Int) = n by omega]
  · have read := readUnsigned_toDigits fits ends false
    rw [readTail.ending, if_neg (by decide), if_pos (by decide), Int.natAbs_of_nonneg (by omega)]
      at read
    rw [if_neg negative]
    rw [encode_toDigits] at read ⊢
    have digit : ∀ c ∈ Nat.toDigits 10 n.natAbs, c.isDigit = true :=
      fun _ => isDigit_of_mem_toDigits
    cases text : Nat.toDigits 10 n.natAbs with
    | nil => exact absurd text Nat.toDigits_ne_nil
    | cons c cs =>
      rw [text] at read digit
      have first := (isDigit_byte (digit c List.mem_cons_self)).1
      have sign : UInt8.ofNat c.toNat ≠ 45 := fun same => absurd (same ▸ first) (by decide)
      refine ⟨_, _, rfl, .inr first, ?_⟩
      rw [readNumber, if_neg sign]
      exact read

/-- The codes of what a number begins with. -/
theorem code_of_first {b : UInt8} (first : b = 45 ∨ isDigit b = true) :
    45 ≤ b.toNat ∧ b.toNat ≤ 57 := by
  rcases first with rfl | digit
  · decide
  · simp only [isDigit, Bool.and_eq_true, decide_eq_true_eq, UInt8.le_iff_toNat_le] at digit
    exact ⟨Nat.le_trans (by decide) digit.1, digit.2⟩

theorem isGap_of_first {b : UInt8} (first : b = 45 ∨ isDigit b = true) : isGap b = false := by
  have code := code_of_first first
  have other : ∀ gap : UInt8, gap.toNat < 45 → b ≠ gap := by
    rintro gap below rfl
    omega
  simp [isGap, other]

/-- **Every integer of a range within 64 bits comes back** from its digits. -/
theorem reads_integer {low high n : Int} (least : low ≤ n) (most : n ≤ high)
    (small : -9223372036854775808 ≤ low) (large : high < 18446744073709551616) :
    Reads (integer low high) (toString n).toList n := by
  intro rest ends
  obtain ⟨b, more, written, first, read⟩ :=
    readNumber_toString (Int.le_trans small least) (Int.lt_of_le_of_lt most large) ends
  rw [written, integer, skipGap_cons (isGap_of_first first)]
  simp only [if_pos first, read]
  exact if_pos ⟨least, most⟩

end MessageBus.Json

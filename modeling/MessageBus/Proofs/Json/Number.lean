/-
**Numbers in JSON text, of any size.**

* `IsNumber` — digits behind a sign and before a fraction and an exponent, each of which may be
  missing.
* `skipNumber_number` — **a number is passed to its end**, however many digits it has.
* `skipNumber_of_readNumber` — a number that is read is passed over likewise.
-/

import MessageBus.Proofs.Json.Scalar

namespace MessageBus.Json

open MessageBus.Text

variable {rest : List UInt8}

/-! ### Spellings -/

/-- Digits, one at least. -/
def IsDigits (digits : List Char) : Prop :=
  digits ≠ [] ∧ ∀ c ∈ digits, c.isDigit = true

/-- Digits without a zero in front. -/
def IsWhole (digits : List Char) : Prop :=
  digits = ['0'] ∨ IsDigits digits ∧ digits.head? ≠ some '0'

/-- A fraction, or nothing. -/
inductive IsFraction : List Char → Prop
  | none : IsFraction []
  | digits {digits : List Char} (some : IsDigits digits) : IsFraction ('.' :: digits)

/-- An exponent, or nothing. -/
inductive IsExponent : List Char → Prop
  | none : IsExponent []
  | digits {mark : Char} {sign digits : List Char} (marked : mark = 'e' ∨ mark = 'E')
      (signed : sign = [] ∨ sign = ['+'] ∨ sign = ['-']) (some : IsDigits digits) :
      IsExponent (mark :: (sign ++ digits))

/-- A number. -/
inductive IsNumber : List Char → Prop
  | number {sign whole fraction exponent : List Char} (signed : sign = [] ∨ sign = ['-'])
      (first : IsWhole whole) (second : IsFraction fraction) (third : IsExponent exponent) :
      IsNumber (sign ++ (whole ++ (fraction ++ exponent)))

/-! ### Passing over -/

/-- Bytes that do not go on with a digit. -/
def Stops (rest : List UInt8) : Prop :=
  ∀ b ∈ rest.head?, isDigit b = false

theorem Ends.stops (ends : Ends rest) : Stops rest := by
  rcases ends.cases with rfl | ⟨b, more, rfl, other, -⟩
  · exact nofun
  · rintro _ ⟨⟩
    exact other

theorem Stops.dropWhile (stops : Stops rest) : rest.dropWhile isDigit = rest := by
  cases rest with
  | nil => rfl
  | cons b more => exact List.dropWhile_cons_of_neg (by simp [stops b rfl])

/-- The bytes of digits: a digit and then digits. -/
theorem encode_digits {digits : List Char} (some : IsDigits digits) :
    ∃ b more, Utf8.encode digits = b :: more ∧ isDigit b = true ∧
      ∀ c ∈ more, isDigit c = true := by
  obtain ⟨nonempty, digit⟩ := some
  have bytes : Utf8.encode digits = digits.map fun c => UInt8.ofNat c.toNat := by
    refine Utf8.encode_of_ascii fun c member => ?_
    have := code_of_isDigit (digit c member)
    omega
  cases digits with
  | nil => exact absurd rfl nonempty
  | cons c cs =>
    obtain ⟨first, others⟩ := List.forall_mem_cons.mp digit
    refine ⟨_, _, bytes, (isDigit_byte first).1, fun b member => ?_⟩
    obtain ⟨d, inside, rfl⟩ := List.mem_map.mp member
    exact (isDigit_byte (others d inside)).1

/-- Digits are passed up to bytes that do not go on with one. -/
theorem skipDigits_digits {digits : List Char} (some : IsDigits digits) (stops : Stops rest) :
    skipDigits (Utf8.encode digits ++ rest) = .ok rest := by
  obtain ⟨b, more, bytes, first, others⟩ := encode_digits some
  rw [bytes, List.cons_append, skipDigits, if_pos first, List.dropWhile_append_of_pos others,
    stops.dropWhile]

/-- What stands behind the letter of an exponent, without its sign. -/
def dropSign : List UInt8 → List UInt8
  | [] => []
  | b :: rest => if b = 43 ∨ b = 45 then rest else b :: rest

theorem skipExponent_letter {letter : UInt8} (isLetter : letter = 101 ∨ letter = 69)
    (s : List UInt8) : skipExponent (letter :: s) = skipDigits (dropSign s) := by
  refine (if_pos isLetter).trans ?_
  cases s with
  | nil => rfl
  | cons b rest =>
    show (if _ then _ else _) = skipDigits (if _ then _ else _)
    split <;> rfl

/-- An exponent is passed. -/
theorem skipExponent_exponent {exponent : List Char} (isExponent : IsExponent exponent)
    (ends : Ends rest) : skipExponent (Utf8.encode exponent ++ rest) = .ok rest := by
  cases isExponent with
  | none =>
    rcases ends.cases with rfl | ⟨b, more, rfl, -, -, small, capital⟩
    · rfl
    · exact if_neg (not_or.mpr ⟨small, capital⟩)
  | @digits mark sign digits marked signed some =>
    have letter : ∃ b, (b = 101 ∨ b = 69) ∧ Utf8.encode (mark :: (sign ++ digits)) ++ rest =
        b :: (Utf8.encode sign ++ (Utf8.encode digits ++ rest)) := by
      rw [Utf8.encode_cons, Utf8.encode_append]
      simp only [List.append_assoc]
      rcases marked with rfl | rfl
      · exact ⟨101, .inl rfl, rfl⟩
      · exact ⟨69, .inr rfl, rfl⟩
    have passed := skipDigits_digits some ends.stops
    obtain ⟨b, isLetter, whole⟩ := letter
    rw [whole, skipExponent_letter isLetter]
    rcases signed with rfl | rfl | rfl
    · -- A digit behind the letter is no sign.
      obtain ⟨d, more, bytes, digit, -⟩ := encode_digits some
      have unsigned : ¬ (d = 43 ∨ d = 45) := by
        rintro (rfl | rfl) <;> cases digit
      have same : dropSign (Utf8.encode digits ++ rest) = Utf8.encode digits ++ rest := by
        rw [bytes, List.cons_append, dropSign, if_neg unsigned]
      rw [Utf8.encode_nil, List.nil_append, same, passed]
    · exact passed
    · exact passed

/-- An exponent begins with a letter if it is there. -/
theorem exponent_cases {exponent : List Char} (isExponent : IsExponent exponent)
    (ends : Ends rest) : Utf8.encode exponent ++ rest = [] ∨ ∃ b more,
      Utf8.encode exponent ++ rest = b :: more ∧ isDigit b = false ∧ b ≠ 46 := by
  cases isExponent with
  | none =>
    rcases ends.cases with rfl | ⟨b, more, rfl, digit, point, -⟩
    · exact .inl rfl
    · exact .inr ⟨b, more, rfl, digit, point⟩
  | digits marked signed some =>
    rcases marked with rfl | rfl
    · exact .inr ⟨101, _, rfl, by decide⟩
    · exact .inr ⟨69, _, rfl, by decide⟩

/-- A fraction and an exponent are passed; no digit stands in front of them. -/
theorem skipTail_tail {fraction exponent : List Char} (isFraction : IsFraction fraction)
    (isExponent : IsExponent exponent) (ends : Ends rest) :
    Stops (Utf8.encode (fraction ++ exponent) ++ rest) ∧
      skipTail (Utf8.encode (fraction ++ exponent) ++ rest) = .ok rest := by
  have passed := skipExponent_exponent isExponent ends
  have front := exponent_cases isExponent ends
  have stops : Stops (Utf8.encode exponent ++ rest) := by
    rcases front with empty | ⟨b, more, bytes, digit, -⟩
    · rw [empty]
      exact nofun
    · rw [bytes]
      rintro _ ⟨⟩
      exact digit
  cases isFraction with
  | none =>
    refine ⟨stops, ?_⟩
    rw [List.nil_append]
    rcases front with empty | ⟨b, more, bytes, -, point⟩
    · rw [empty] at passed ⊢
      exact passed
    · rw [bytes] at passed ⊢
      exact (if_neg point).trans passed
  | @digits digits some =>
    have bytes : Utf8.encode ('.' :: digits ++ exponent) ++ rest =
        46 :: (Utf8.encode digits ++ (Utf8.encode exponent ++ rest)) := by
      rw [List.cons_append, Utf8.encode_cons, Utf8.encode_append]
      simp only [List.append_assoc]
      rfl
    rw [bytes]
    refine ⟨by rintro _ ⟨⟩; rfl, ?_⟩
    rw [skipTail, if_pos rfl, skipDigits_digits some stops]
    exact passed

/-- The digits of a number are passed with its fraction and its exponent; no sign is in front. -/
theorem skipUnsigned_whole {whole fraction exponent : List Char} (isWhole : IsWhole whole)
    (isFraction : IsFraction fraction) (isExponent : IsExponent exponent) (ends : Ends rest) :
    ∃ b more, Utf8.encode (whole ++ (fraction ++ exponent)) ++ rest = b :: more ∧
      isDigit b = true ∧ skipUnsigned (b :: more) = .ok rest := by
  obtain ⟨stops, passed⟩ := skipTail_tail isFraction isExponent ends
  rw [Utf8.encode_append, List.append_assoc]
  generalize Utf8.encode (fraction ++ exponent) ++ rest = tail at stops passed ⊢
  rcases isWhole with rfl | ⟨some, nonzero⟩
  · refine ⟨48, tail, rfl, rfl, ?_⟩
    cases tail with
    | nil => exact passed
    | cons d more => exact (if_neg (by simp [stops d rfl])).trans passed
  · obtain ⟨b, more, bytes, first, others⟩ := encode_digits some
    have other : b ≠ 48 := by
      rintro rfl
      obtain ⟨nonempty, digit⟩ := some
      cases whole with
      | nil => exact nonempty rfl
      | cons c cs =>
        have ascii : c.toNat < 128 := by
          have := code_of_isDigit (digit c List.mem_cons_self)
          omega
        rw [Utf8.encode_cons, Utf8.encodeChar_of_ascii ascii] at bytes
        have code := congrArg UInt8.toNat (List.cons.inj bytes).1
        rw [Utf8.toNat_ofNat_of_lt (by omega)] at code
        exact nonzero (congrArg some (Char.toNat_inj.mp code))
    rw [bytes, List.cons_append]
    refine ⟨b, _, rfl, first, ?_⟩
    refine (if_neg other).trans ((if_pos first).trans ?_)
    rw [List.dropWhile_append_of_pos others, stops.dropWhile, passed]

/-- **A number is passed to its end**, however many digits it has. It begins with a digit or with a
minus sign. -/
theorem skipNumber_number {text : List Char} (number : IsNumber text) (ends : Ends rest) :
    ∃ b more, Utf8.encode text ++ rest = b :: more ∧ (b = 45 ∨ isDigit b = true) ∧
      skipNumber (b :: more) = .ok rest := by
  obtain ⟨rfl | rfl, first, second, third⟩ := number
  all_goals obtain ⟨b, more, bytes, digit, passed⟩ := skipUnsigned_whole first second third ends
  · have unsigned : b ≠ 45 := by
      rintro rfl
      cases digit
    exact ⟨b, more, bytes, .inr digit, (if_neg unsigned).trans passed⟩
  · refine ⟨45, b :: more, ?_, .inl rfl, passed⟩
    rw [List.cons_append, List.nil_append, Utf8.encode_cons, List.append_assoc, bytes]
    rfl

/-! ### What is read is passed over -/

/-- The digits of an exponent are taken to their end, whatever they come to. -/
theorem exponentDigits_snd (value : Nat) (s : List UInt8) :
    (exponentDigits value s).2 = s.dropWhile isDigit := by
  fun_induction exponentDigits value s with
  | case1 => rfl
  | case2 value b rest digit fits ih => rw [ih, List.dropWhile_cons_of_pos digit]
  | case3 value b rest digit large => rw [List.dropWhile_cons_of_pos digit]
  | case4 value b rest other => rw [List.dropWhile_cons_of_neg other]

/-- The digits of an exponent that is read are passed. -/
theorem skipDigits_of_readExponent {negative : Bool} {significand : Nat} {start : Int}
    {number : Number} {s : List UInt8}
    (read : readExponent negative significand start s = .ok (number, rest)) :
    skipDigits (dropSign s) = .ok rest := by
  simp only [readExponent] at read
  split at read
  · cases read
  rename_i d more unsigned
  have same : dropSign s = d :: more := by
    rw [← unsigned]
    cases s with
    | nil => rfl
    | cons b others =>
      by_cases plus : b = 43
      · simp [dropSign, plus]
      · by_cases minus : b = 45 <;> simp [dropSign, plus, minus]
  split at read
  · rename_i digit
    rw [same, skipDigits, if_pos digit, ← exponentDigits_snd (d.toNat - 48) more]
    split at read
    · rename_i value left taken
      obtain ⟨part, -, whole⟩ := exists_of_bind read
      cases whole
      rw [taken]
    · rename_i left taken
      obtain ⟨part, -, whole⟩ := exists_of_bind (of_guard read).2
      cases whole
      rw [taken]
  · cases read

/-- A fraction and an exponent that are read are passed. -/
theorem skipExponent_of_endNumber {negative : Bool} {significand : Nat} {exponent : Int}
    {number : Number} {s : List UInt8}
    (read : endNumber negative significand exponent s = .ok (number, rest)) :
    skipExponent s = .ok rest := by
  unfold endNumber at read
  split at read
  · rename_i b more
    split at read
    · rename_i isLetter
      rw [skipExponent_letter isLetter, skipDigits_of_readExponent read]
    · rename_i other
      obtain ⟨part, -, whole⟩ := exists_of_bind read
      cases whole
      exact if_neg other
  · obtain ⟨part, -, whole⟩ := exists_of_bind read
    cases whole
    rfl

/-- Digits that fit are digits: behind them go on those that do not. -/
theorem fittingDigits_spec {value count result taken : Nat} {s : List UInt8}
    (fitting : fittingDigits value count s = (result, taken, rest)) :
    s.dropWhile isDigit = rest.dropWhile isDigit ∧
      (taken = count ∧ s = rest ∨ ∃ b more, s = b :: more ∧ isDigit b = true) := by
  fun_induction fittingDigits value count s with
  | case1 value count =>
    cases fitting
    exact ⟨rfl, .inl ⟨rfl, rfl⟩⟩
  | case2 value count b more fits ih =>
    have digit : isDigit b = true := (Bool.and_eq_true_iff.mp fits).1
    rw [List.dropWhile_cons_of_pos digit]
    exact ⟨(ih fitting).1, .inr ⟨b, more, rfl, digit⟩⟩
  | case3 value count b more other =>
    cases fitting
    exact ⟨rfl, .inl ⟨rfl, rfl⟩⟩

/-- The digits behind the point. -/
theorem skipDigits_of_readFraction {negative : Bool} {significand : Nat} {start : Int}
    {number : Number} {s : List UInt8}
    (read : readFraction negative significand start s = .ok (number, rest)) :
    ∃ left, skipDigits s = .ok left ∧ skipExponent left = .ok rest := by
  unfold readFraction at read
  cases fitting : fittingDigits significand 0 s with
  | mk value others =>
    obtain ⟨count, left⟩ := others
    obtain ⟨behind, some⟩ := fittingDigits_spec fitting
    simp only [fitting] at read
    -- A digit is in front, so the digits are passed up to where the exponent may stand.
    have passed : ∀ b more, s = b :: more → isDigit b = true →
        skipDigits s = .ok (left.dropWhile isDigit) := by
      rintro b more rfl digit
      rw [skipDigits, if_pos digit, ← behind, List.dropWhile_cons_of_pos digit]
    cases left with
    | nil =>
      obtain ⟨taken, read⟩ := of_guard read
      rcases some with ⟨none, -⟩ | ⟨b, more, front, digit⟩
      · exact absurd none taken
      · exact ⟨[], passed b more front digit, skipExponent_of_endNumber read⟩
    | cons b more =>
      simp only at read
      split at read
      · rename_i digit
        have front : ∃ c others, s = c :: others ∧ isDigit c = true := by
          rcases some with ⟨-, same⟩ | front
          · exact ⟨b, more, same, digit⟩
          · exact front
        obtain ⟨c, others, front, first⟩ := front
        exact ⟨_, passed c others front first, skipExponent_of_endNumber read⟩
      · rename_i other
        obtain ⟨taken, read⟩ := of_guard read
        rcases some with ⟨none, -⟩ | ⟨c, others, front, first⟩
        · exact absurd none taken
        · refine ⟨_, passed c others front first, ?_⟩
          rw [List.dropWhile_cons_of_neg other]
          exact skipExponent_of_endNumber read

theorem skipTail_of_readTail {negative : Bool} {significand dropped : Nat} {number : Number}
    {s : List UInt8} (read : readTail negative significand dropped s = .ok (number, rest)) :
    skipTail s = .ok rest := by
  have ending : readTail.ending negative significand dropped s = .ok (number, rest) → s = rest := by
    intro ended
    unfold readTail.ending at ended
    split at ended
    · obtain ⟨part, -, whole⟩ := exists_of_bind ended
      cases whole
      rfl
    split at ended
    · cases ended
      rfl
    split at ended
    · obtain ⟨part, -, whole⟩ := exists_of_bind ended
      cases whole
      rfl
    · cases ended
      rfl
  unfold readTail at read
  split at read
  · rename_i b more
    unfold skipTail
    split at read
    · rename_i point
      obtain ⟨left, digits, exponent⟩ := skipDigits_of_readFraction read
      simp only [if_pos point, digits]
      exact exponent
    rename_i point
    simp only [if_neg point]
    split at read
    · rename_i isLetter
      rw [skipExponent_letter isLetter, skipDigits_of_readExponent read]
    · rename_i other
      cases ending read
      exact if_neg other
  · cases ending read
    rfl

/-- The digits of a number that is read are passed with what belongs to it. -/
theorem skipUnsigned_of_readUnsigned {negative : Bool} {number : Number}
    {s : List UInt8} (read : readUnsigned negative s = .ok (number, rest)) :
    skipUnsigned s = .ok rest := by
  cases s with
  | nil => cases read
  | cons b more =>
    unfold readUnsigned at read
    unfold skipUnsigned
    simp only at read ⊢
    split at read
    · rename_i zero
      rw [if_pos zero]
      cases more with
      | nil => exact skipTail_of_readTail read
      | cons d others =>
        obtain ⟨digit, read⟩ := of_guard read
        exact (if_neg digit).trans (skipTail_of_readTail read)
    · rename_i nonzero
      rw [if_neg nonzero]
      split at read
      · rename_i digit
        rw [if_pos digit]
        cases fitting : fittingDigits 0 0 (b :: more) with
        | mk value others =>
          obtain ⟨count, left⟩ := others
          simp only [fitting] at read
          have behind := (fittingDigits_spec fitting).1
          rw [List.dropWhile_cons_of_pos digit] at behind
          have dropped : left.drop (left.takeWhile isDigit).length = left.dropWhile isDigit := by
            have parts := @List.drop_left _ (left.takeWhile isDigit) (left.dropWhile isDigit)
            rwa [List.takeWhile_append_dropWhile] at parts
          rw [behind, ← dropped]
          exact skipTail_of_readTail read
      · cases read

/-- **A number that is read is passed over likewise.** -/
theorem skipNumber_of_readNumber {number : Number} {s : List UInt8}
    (read : readNumber s = .ok (number, rest)) : skipNumber s = .ok rest := by
  cases s with
  | nil => cases read
  | cons b more =>
    unfold readNumber at read
    unfold skipNumber
    simp only at read ⊢
    split at read
    · rename_i minus
      rw [if_pos minus, skipUnsigned_of_readUnsigned read]
    · rename_i unsigned
      rw [if_neg unsigned, skipUnsigned_of_readUnsigned read]

end MessageBus.Json

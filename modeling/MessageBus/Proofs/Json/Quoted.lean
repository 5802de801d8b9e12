/-
**Strings in JSON text, in all their spellings.**

* `IsCode`, `SpellsChar`, `Spells` — four hexadecimal digits; what may stand for a character, as it
  is or as an escape, a surrogate pair for a character that four digits do not reach; what may stand
  for a text.
* `IsPiece`, `IsQuoted` — the same without a meaning: here half of a surrogate pair may stand alone.
* `stringBytes_spelled` — a character gives its bytes in each of its spellings, so that a text comes
  back from each of its own (`readString_spelled`).
* `spells_printString` — the way in which texts are written is one of the spellings.
* `skipString_quoted` — **what is quoted is passed**; `skipString_of_readString` — a string that is
  read is passed over likewise.
-/

import MessageBus.Json.Text
import MessageBus.Proofs.Text.Utf8
import Mathlib.Data.List.Forall2

namespace MessageBus.Json

open MessageBus.Text

/-! ### Spellings -/

/-- A hexadecimal digit of either case. -/
def IsHexDigit (value : Nat) (c : Char) : Prop :=
  value < 16 ∧ (c = Hex.digit value ∨ c = Hex.upperDigit value)

/-- Four hexadecimal digits. -/
inductive IsCode : Nat → List Char → Prop
  | digits {v w x y : Nat} {a b c d : Char} (first : IsHexDigit v a) (second : IsHexDigit w b)
      (third : IsHexDigit x c) (fourth : IsHexDigit y d) :
      IsCode (v * 4096 + w * 256 + x * 16 + y) [a, b, c, d]

/-- The letters of the short escapes, with the characters that they stand for. -/
def shortEscapes : List (Char × Char) :=
  [('"', '"'), ('\\', '\\'), ('/', '/'), ('b', '\x08'), ('f', '\x0c'), ('n', '\n'), ('r', '\r'),
    ('t', '\t')]

/-- What may stand for a character between quotes. -/
inductive SpellsChar : Char → List Char → Prop
  /-- The character as it is. -/
  | plain {c : Char} (quote : c ≠ '"') (backslash : c ≠ '\\') (visible : 32 ≤ c.toNat) :
      SpellsChar c [c]
  /-- An escape of one letter. -/
  | short {letter c : Char} (known : (letter, c) ∈ shortEscapes) : SpellsChar c ['\\', letter]
  /-- An escape by code. -/
  | code {c : Char} {digits : List Char} (spelled : IsCode c.toNat digits) :
      SpellsChar c ('\\' :: 'u' :: digits)
  /-- Two escapes by code, for the halves of a surrogate pair. -/
  | pair {c : Char} {high low : Nat} {digits others : List Char}
      (highHalf : 0xD800 ≤ high ∧ high ≤ 0xDBFF) (lowHalf : 0xDC00 ≤ low ∧ low ≤ 0xDFFF)
      (value : c.toNat = 0x10000 + (high - 0xD800) * 0x400 + (low - 0xDC00))
      (first : IsCode high digits) (second : IsCode low others) :
      SpellsChar c ('\\' :: 'u' :: (digits ++ '\\' :: 'u' :: others))

/-- What may stand for a text, quotes included. -/
def Spells (text : String) (written : List Char) : Prop :=
  ∃ pieces, List.Forall₂ SpellsChar text.toList pieces ∧
    written = '"' :: (pieces.flatten ++ ['"'])

/-- A character or an escape between quotes, whatever it stands for. -/
inductive IsPiece : List Char → Prop
  | plain {c : Char} (quote : c ≠ '"') (backslash : c ≠ '\\') (visible : 32 ≤ c.toNat) : IsPiece [c]
  | short {letter c : Char} (known : (letter, c) ∈ shortEscapes) : IsPiece ['\\', letter]
  | code {n : Nat} {digits : List Char} (spelled : IsCode n digits) :
      IsPiece ('\\' :: 'u' :: digits)

/-- Characters and escapes in quotes. -/
def IsQuoted (written : List Char) : Prop :=
  ∃ pieces : List (List Char), (∀ piece ∈ pieces, IsPiece piece) ∧
    written = '"' :: (pieces.flatten ++ ['"'])

/-- A spelling of a character is made of pieces. -/
theorem SpellsChar.pieces {c : Char} {written : List Char} (spelled : SpellsChar c written) :
    ∃ pieces : List (List Char), (∀ piece ∈ pieces, IsPiece piece) ∧ written = pieces.flatten := by
  cases spelled with
  | plain quote backslash visible => exact ⟨[_], by simpa using .plain quote backslash visible, rfl⟩
  | short known => exact ⟨[_], by simpa using .short known, rfl⟩
  | code spelled => exact ⟨[_], by simpa using .code spelled, by simp⟩
  | pair highHalf lowHalf value first second =>
    exact ⟨[_, _], by simpa using ⟨.code first, .code second⟩, by simp⟩

/-- **Spellings of texts are quoted.** -/
theorem Spells.isQuoted {text : String} {written : List Char} (spelled : Spells text written) :
    IsQuoted written := by
  obtain ⟨groups, each, rfl⟩ := spelled
  have pieces : ∃ pieces : List (List Char), (∀ piece ∈ pieces, IsPiece piece) ∧
      groups.flatten = pieces.flatten := by
    generalize text.toList = cs at each
    induction each with
    | nil => exact ⟨[], nofun, rfl⟩
    | cons first rest ih =>
      obtain ⟨front, inFront, whole⟩ := first.pieces
      obtain ⟨back, inBack, others⟩ := ih
      refine ⟨front ++ back, ?_, by rw [List.flatten_cons, whole, others, List.flatten_append]⟩
      exact fun piece member => (List.mem_append.mp member).elim (inFront piece) (inBack piece)
  obtain ⟨pieces, inside, whole⟩ := pieces
  exact ⟨pieces, inside, by rw [whole]⟩

/-! ### Escapes -/

/-- A hexadecimal digit is a character of ASCII with its value. -/
theorem digit_spec : ∀ n < 16,
    ((Hex.digit n).toNat < 128 ∧ Hex.value? (UInt8.ofNat (Hex.digit n).toNat) = some n) ∧
    (Hex.upperDigit n).toNat < 128 ∧ Hex.value? (UInt8.ofNat (Hex.upperDigit n).toNat) = some n := by
  decide

theorem IsHexDigit.spec {value : Nat} {c : Char} (digit : IsHexDigit value c) :
    c.toNat < 128 ∧ Hex.value? (UInt8.ofNat c.toNat) = some value := by
  obtain ⟨small, rfl | rfl⟩ := digit
  · exact (digit_spec value small).1
  · exact (digit_spec value small).2

/-- Four digits are read to their number. -/
theorem fourDigits_code {n : Nat} {digits : List Char} (spelled : IsCode n digits)
    (rest : List UInt8) : fourDigits (Utf8.encode digits ++ rest) = .ok (n, rest) := by
  obtain ⟨first, second, third, fourth⟩ := spelled
  obtain ⟨asciiA, valueA⟩ := first.spec
  obtain ⟨asciiB, valueB⟩ := second.spec
  obtain ⟨asciiC, valueC⟩ := third.spec
  obtain ⟨asciiD, valueD⟩ := fourth.spec
  rw [Utf8.encode_of_ascii (by simp [asciiA, asciiB, asciiC, asciiD])]
  simp only [List.map_cons, List.map_nil, List.cons_append, List.nil_append, fourDigits, valueA,
    valueB, valueC, valueD]

/-- The short escapes are those that are read, with the bytes of their characters. -/
theorem simpleEscape?_short : ∀ entry ∈ shortEscapes, entry.1.toNat < 128 ∧
    (simpleEscape? (UInt8.ofNat entry.1.toNat)).map (fun b => [b]) =
      some (String.utf8EncodeChar entry.2) := by
  decide

/-- A short escape stands for its character. -/
theorem escape_short {letter c : Char} (known : (letter, c) ∈ shortEscapes) (rest : List UInt8) :
    escape (Utf8.encode [letter] ++ rest) = .ok (String.utf8EncodeChar c, rest) := by
  obtain ⟨ascii, taken⟩ := simpleEscape?_short _ known
  obtain ⟨b, found, bytes⟩ := Option.map_eq_some_iff.mp taken
  rw [Utf8.encode_of_ascii (by simpa using ascii)]
  simp only [List.map_cons, List.map_nil, List.cons_append, List.nil_append, escape, found, bytes]

/-- An escape by code stands for its character. -/
theorem escape_code {c : Char} {digits : List Char} (spelled : IsCode c.toNat digits)
    (rest : List UInt8) :
    escape (117 :: (Utf8.encode digits ++ rest)) = .ok (String.utf8EncodeChar c, rest) := by
  have valid : c.toNat < 0xD800 ∨ 0xDFFF < c.toNat ∧ c.toNat < 0x110000 := c.valid
  have code : unicodeEscape (Utf8.encode digits ++ rest) = .ok (c, rest) := by
    unfold unicodeEscape
    rw [fourDigits_code spelled]
    show (if _ then _ else _) = _
    rw [if_neg (by omega), if_neg (by omega), Char.ofNat_toNat]
    rfl
  rw [escape, show simpleEscape? 117 = none from rfl]
  simp only [if_pos]
  rw [code]
  rfl

/-- Two escapes by code stand for the character of their surrogate pair. -/
theorem escape_pair {c : Char} {high low : Nat} {digits others : List Char}
    (highHalf : 0xD800 ≤ high ∧ high ≤ 0xDBFF) (lowHalf : 0xDC00 ≤ low ∧ low ≤ 0xDFFF)
    (value : c.toNat = 0x10000 + (high - 0xD800) * 0x400 + (low - 0xDC00))
    (first : IsCode high digits) (second : IsCode low others) (rest : List UInt8) :
    escape (117 :: (Utf8.encode digits ++ 92 :: 117 :: (Utf8.encode others ++ rest))) =
      .ok (String.utf8EncodeChar c, rest) := by
  have code : unicodeEscape (Utf8.encode digits ++ 92 :: 117 :: (Utf8.encode others ++ rest)) =
      .ok (c, rest) := by
    unfold unicodeEscape
    rw [fourDigits_code first]
    show (if _ then _ else _) = _
    rw [if_neg (by omega), if_pos highHalf, secondHalf]
    simp only [ne_eq, not_true_eq_false, if_false]
    rw [fourDigits_code second]
    show (if _ then _ else _) = _
    rw [if_pos lowHalf, ← value, Char.ofNat_toNat]
    rfl
  rw [escape, show simpleEscape? 117 = none from rfl]
  simp only [if_pos]
  rw [code]
  rfl

/-! ### Reading -/

/-- Bytes in front of those of a string. -/
def inFront (out : List UInt8) : List UInt8 × List UInt8 → List UInt8 × List UInt8 :=
  fun read => (out ++ read.1, read.2)

/-- Bytes that need no escape stand for themselves. -/
theorem stringBytes_of_plain {bytes : List UInt8}
    (plain : ∀ b ∈ bytes, b ≠ 34 ∧ b ≠ 92 ∧ 32 ≤ b.toNat) (rest : List UInt8) :
    stringBytes (bytes ++ rest) = (stringBytes rest).map (inFront bytes) := by
  induction bytes with
  | nil =>
    rw [List.nil_append]
    cases stringBytes rest <;> rfl
  | cons b bytes ih =>
    obtain ⟨quote, backslash, control⟩ := plain b List.mem_cons_self
    have visible : ¬ b < 32 := by
      rw [UInt8.lt_iff_toNat_lt]
      exact Nat.not_lt.mpr control
    rw [List.cons_append, stringBytes, if_neg quote, if_neg backslash, if_neg visible,
      ih fun other member => plain other (List.mem_cons_of_mem b member)]
    cases stringBytes rest <;> rfl

/-- An escape stands for its bytes. -/
theorem stringBytes_of_escape {s rest out : List UInt8} (escaped : escape s = .ok (out, rest)) :
    stringBytes (92 :: s) = (stringBytes rest).map (inFront out) := by
  rw [stringBytes, if_neg (by decide), if_pos rfl]
  split
  · rename_i taken
    rw [escaped] at taken
    cases taken
  · rename_i taken
    rw [escaped] at taken
    cases taken
    rfl

/-- The bytes of a character that stands for itself need no escape. -/
theorem plain_of_mem_encodeChar {c : Char} (quote : c ≠ '"') (backslash : c ≠ '\\')
    (visible : 32 ≤ c.toNat) {b : UInt8} (member : b ∈ String.utf8EncodeChar c) :
    b ≠ 34 ∧ b ≠ 92 ∧ 32 ≤ b.toNat := by
  have code : b.toNat ≠ 34 ∧ b.toNat ≠ 92 ∧ 32 ≤ b.toNat := by
    by_cases ascii : c.toNat < 128
    · rw [Utf8.encodeChar_of_ascii ascii, List.mem_singleton] at member
      rw [member, Utf8.toNat_ofNat_of_lt (by omega)]
      exact ⟨fun same => quote (Char.toNat_inj.mp same),
        fun same => backslash (Char.toNat_inj.mp same), visible⟩
    · have := Utf8.le_of_mem_encodeChar (by omega) member
      omega
  exact ⟨fun same => code.1 (same ▸ rfl), fun same => code.2.1 (same ▸ rfl), code.2.2⟩

/-- **A character gives its bytes in each of its spellings.** -/
theorem stringBytes_spelled {c : Char} {written : List Char} (spelled : SpellsChar c written)
    (rest : List UInt8) :
    stringBytes (Utf8.encode written ++ rest) =
      (stringBytes rest).map (inFront (String.utf8EncodeChar c)) := by
  cases spelled with
  | plain quote backslash visible =>
    rw [Utf8.encode_cons, Utf8.encode_nil, List.append_nil]
    exact stringBytes_of_plain
      (fun b member => plain_of_mem_encodeChar quote backslash visible member) rest
  | short known => exact stringBytes_of_escape (escape_short known rest)
  | code spelled => exact stringBytes_of_escape (escape_code spelled rest)
  | @pair _ high low digits others highHalf lowHalf value first second =>
    have bytes : Utf8.encode ('\\' :: 'u' :: (digits ++ '\\' :: 'u' :: others)) ++ rest =
        92 :: 117 :: (Utf8.encode digits ++ 92 :: 117 :: (Utf8.encode others ++ rest)) := by
      simp only [Utf8.encode_cons, Utf8.encode_append, List.append_assoc]
      rfl
    rw [bytes]
    exact stringBytes_of_escape (escape_pair highHalf lowHalf value first second rest)

/-- **A text comes back from each of its spellings**, whatever stands behind it. -/
theorem readString_spelled {text : String} {pieces : List (List Char)}
    (each : List.Forall₂ SpellsChar text.toList pieces) (rest : List UInt8) :
    readString (Utf8.encode pieces.flatten ++ 34 :: rest) = .ok (text, rest) := by
  have bytes : stringBytes (Utf8.encode pieces.flatten ++ 34 :: rest) =
      .ok (Utf8.bytes text, rest) := by
    rw [Utf8.bytes]
    generalize text.toList = cs at each
    induction each with
    | nil =>
      show stringBytes (34 :: rest) = _
      rw [stringBytes, if_pos rfl, Utf8.encode_nil]
    | cons first others ih =>
      rw [List.flatten_cons, Utf8.encode_append, List.append_assoc, stringBytes_spelled first, ih]
      rfl
  unfold readString
  rw [bytes]
  simp only [bind, Except.bind, Utf8.text?_bytes]
  rfl

/-! ### Writing -/

/-- A character is written in one of its spellings. -/
theorem spellsChar_printChar (c : Char) : SpellsChar c (printChar c) := by
  unfold printChar
  by_cases quote : c = '"'
  · rw [if_pos quote, quote]
    exact .short (by decide)
  rw [if_neg quote]
  by_cases backslash : c = '\\'
  · rw [if_pos backslash, backslash]
    exact .short (by decide)
  rw [if_neg backslash]
  by_cases control : c.toNat < 32
  · rw [if_pos control]
    -- Five control characters have letters of their own.
    by_cases letter : c.toNat = 8 ∨ c.toNat = 9 ∨ c.toNat = 10 ∨ c.toNat = 12 ∨ c.toNat = 13
    · have same : Char.ofNat c.toNat = c := Char.ofNat_toNat c
      rcases letter with code | code | code | code | code <;> rw [code] at same <;> subst same <;>
        exact .short (by decide)
    · simp only [not_or] at letter
      obtain ⟨back, tab, line, page, carriage⟩ := letter
      rw [if_neg back, if_neg tab, if_neg line, if_neg page, if_neg carriage]
      refine .code ?_
      have digits : IsCode (0 * 4096 + 0 * 256 + c.toNat / 16 * 16 + c.toNat % 16)
          ['0', '0', Hex.digit (c.toNat / 16), Hex.digit (c.toNat % 16)] :=
        .digits ⟨by decide, .inl rfl⟩ ⟨by decide, .inl rfl⟩ ⟨by omega, .inl rfl⟩
          ⟨by omega, .inl rfl⟩
      rwa [show 0 * 4096 + 0 * 256 + c.toNat / 16 * 16 + c.toNat % 16 = c.toNat by omega] at digits
  · rw [if_neg control]
    exact .plain quote backslash (by omega)

/-- **A text is written in one of its spellings.** -/
theorem spells_printString (text : String) : Spells text (printString text) := by
  refine ⟨text.toList.map printChar, ?_, by rw [printString, List.flatMap_def]⟩
  rw [List.forall₂_map_right_iff]
  exact List.forall₂_same.mpr fun c _ => spellsChar_printChar c

/-- The bytes of what is quoted: a quote, the bytes between and a quote. -/
theorem encode_quoted (inside : List Char) (rest : List UInt8) :
    Utf8.encode ('"' :: (inside ++ ['"'])) ++ rest = 34 :: (Utf8.encode inside ++ 34 :: rest) := by
  rw [Utf8.encode_cons, Utf8.encode_append]
  simp only [List.append_assoc]
  rfl

/-! ### Passing over -/

/-- Bytes that need no escape are passed. -/
theorem skipString_of_plain {bytes : List UInt8}
    (plain : ∀ b ∈ bytes, b ≠ 34 ∧ b ≠ 92 ∧ 32 ≤ b.toNat) (rest : List UInt8) :
    skipString (bytes ++ rest) = skipString rest := by
  induction bytes with
  | nil => rfl
  | cons b bytes ih =>
    obtain ⟨quote, backslash, control⟩ := plain b List.mem_cons_self
    have visible : ¬ b < 32 := by
      rw [UInt8.lt_iff_toNat_lt]
      exact Nat.not_lt.mpr control
    rw [List.cons_append, skipString, if_neg quote, if_neg backslash, if_neg visible,
      ih fun other member => plain other (List.mem_cons_of_mem b member)]

/-- An escape is passed. -/
theorem skipString_of_escape {s rest : List UInt8} (escaped : skipEscape s = .ok rest) :
    skipString (92 :: s) = skipString rest := by
  rw [skipString, if_neg (by decide), if_pos rfl]
  split
  · rename_i taken
    rw [escaped] at taken
    cases taken
  · rename_i taken
    rw [escaped] at taken
    cases taken
    rfl

/-- A piece of what is quoted is passed. -/
theorem skipString_piece {piece : List Char} (isPiece : IsPiece piece) (rest : List UInt8) :
    skipString (Utf8.encode piece ++ rest) = skipString rest := by
  cases isPiece with
  | plain quote backslash visible =>
    rw [Utf8.encode_cons, Utf8.encode_nil, List.append_nil]
    exact skipString_of_plain
      (fun b member => plain_of_mem_encodeChar quote backslash visible member) rest
  | @short letter c known =>
    obtain ⟨ascii, taken⟩ := simpleEscape?_short _ known
    obtain ⟨b, found, -⟩ := Option.map_eq_some_iff.mp taken
    have bytes : Utf8.encode ['\\', letter] ++ rest = 92 :: UInt8.ofNat letter.toNat :: rest := by
      rw [Utf8.encode_of_ascii (by simpa using ascii)]
      rfl
    rw [bytes]
    refine skipString_of_escape ?_
    simp only [skipEscape, found]
  | @code n digits spelled =>
    rw [Utf8.encode_cons, Utf8.encode_cons]
    refine skipString_of_escape ?_
    show skipEscape (117 :: (Utf8.encode digits ++ rest)) = _
    rw [skipEscape, show simpleEscape? 117 = none from rfl]
    simp only [if_true, fourDigits_code spelled]
    rfl

/-- **What is quoted is passed**, whatever stands behind it. -/
theorem skipString_quoted {pieces : List (List Char)} (each : ∀ piece ∈ pieces, IsPiece piece)
    (rest : List UInt8) : skipString (Utf8.encode pieces.flatten ++ 34 :: rest) = .ok rest := by
  induction pieces with
  | nil =>
    show skipString (34 :: rest) = _
    rw [skipString, if_pos rfl]
  | cons piece pieces ih =>
    obtain ⟨first, others⟩ := List.forall_mem_cons.mp each
    rw [List.flatten_cons, Utf8.encode_append, List.append_assoc, skipString_piece first,
      ih others]

/-! ### What is read is passed over -/

/-- What is read in two parts is read part by part. -/
theorem exists_of_bind {α β : Type} {read : Except Fault α} {next : α → Except Fault β} {value : β}
    (whole : read >>= next = .ok value) : ∃ part, read = .ok part ∧ next part = .ok value := by
  cases read with
  | error fault => cases whole
  | ok part => exact ⟨part, rfl, whole⟩

theorem exists_of_map {α β : Type} {read : Except Fault α} {next : α → β} {value : β}
    (whole : read.map next = .ok value) : ∃ part, read = .ok part ∧ next part = value := by
  cases read with
  | error fault => cases whole
  | ok part => exact ⟨part, rfl, Except.ok.inj whole⟩

/-- What is read behind a guard passes it. -/
theorem of_guard {α : Type} {p : Prop} [Decidable p] {fault : Fault} {read : Except Fault α}
    {value : α} (whole : (if p then .error fault else read) = .ok value) :
    ¬ p ∧ read = .ok value := by
  split at whole
  · cases whole
  · rename_i passed
    exact ⟨passed, whole⟩

/-- The second half of a surrogate pair is another escape by code. -/
theorem secondHalf_ok {high : Nat} {c : Char} {s rest : List UInt8}
    (read : secondHalf high s = .ok (c, rest)) :
    ∃ low more, s = 92 :: 117 :: more ∧ fourDigits more = .ok (low, rest) := by
  obtain _ | ⟨b, _ | ⟨u, more⟩⟩ := s
  · cases read
  · simp only [secondHalf] at read
    split at read <;> cases read
  · simp only [secondHalf] at read
    obtain ⟨backslash, read⟩ := of_guard read
    obtain ⟨letter, read⟩ := of_guard read
    obtain ⟨⟨low, left⟩, digits, whole⟩ := exists_of_bind read
    refine ⟨low, more, by rw [not_not.mp backslash, not_not.mp letter], ?_⟩
    simp only at whole
    split at whole
    · obtain ⟨-, rfl⟩ := Prod.mk.inj (Except.ok.inj whole)
      exact digits
    · cases whole

/-- An escape by code is four digits, with another escape by code behind them if they are the first
half of a surrogate pair. -/
theorem unicodeEscape_ok {c : Char} {s rest : List UInt8}
    (read : unicodeEscape s = .ok (c, rest)) : ∃ code left, fourDigits s = .ok (code, left) ∧
      (left = rest ∨ ∃ low more, left = 92 :: 117 :: more ∧ fourDigits more = .ok (low, rest)) := by
  obtain ⟨⟨code, left⟩, digits, whole⟩ := exists_of_bind read
  refine ⟨code, left, digits, ?_⟩
  obtain ⟨-, whole⟩ := of_guard whole
  split at whole
  · exact .inr (secondHalf_ok whole)
  · cases whole
    exact .inl rfl

/-- An escape by code is passed if its digits are. -/
theorem skipString_code {n : Nat} {s rest : List UInt8} (digits : fourDigits s = .ok (n, rest)) :
    skipString (92 :: 117 :: s) = skipString rest := by
  refine skipString_of_escape ?_
  rw [skipEscape, show simpleEscape? 117 = none from rfl]
  simp only [if_true, digits]
  rfl

/-- An escape that is read is passed. -/
theorem skipString_escape {out s rest : List UInt8} (read : escape s = .ok (out, rest)) :
    skipString (92 :: s) = skipString rest := by
  cases s with
  | nil => cases read
  | cons e more =>
    simp only [escape] at read
    split at read
    · rename_i b found
      cases read
      exact skipString_of_escape (by simp only [skipEscape, found])
    split at read
    · rename_i letter
      subst letter
      obtain ⟨⟨c, left⟩, code, whole⟩ := exists_of_bind read
      cases whole
      obtain ⟨n, behind, digits, rfl | ⟨low, further, rfl, others⟩⟩ := unicodeEscape_ok code
      · exact skipString_code digits
      · rw [skipString_code digits, skipString_code others]
    · cases read

/-- **A string that is read is passed over likewise.** -/
theorem skipString_of_readString {text : String} {s rest : List UInt8}
    (read : readString s = .ok (text, rest)) : skipString s = .ok rest := by
  obtain ⟨⟨out, left⟩, bytes, whole⟩ := exists_of_bind read
  have same : left = rest := by
    simp only at whole
    split at whole <;> cases whole
    rfl
  subst same
  clear read whole
  fun_induction stringBytes s generalizing out with
  | case1 => cases bytes
  | case2 s =>
    cases bytes
    rw [skipString, if_pos rfl]
  | case3 s fault failed => cases bytes
  | case4 s taken behind escaped _ ih =>
    obtain ⟨⟨more, left⟩, others, whole⟩ := exists_of_map bytes
    cases whole
    rw [skipString_escape escaped]
    exact ih _ others
  | case5 b s quote backslash control => cases bytes
  | case6 b s quote backslash visible ih =>
    obtain ⟨⟨more, left⟩, others, whole⟩ := exists_of_map bytes
    cases whole
    rw [skipString, if_neg quote, if_neg backslash, if_neg visible]
    exact ih _ others

end MessageBus.Json

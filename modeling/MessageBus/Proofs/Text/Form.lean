/-
**Form coding comes back.** Names and values of any characters in one line of ASCII.

* `Hex.upperDigit_spec` — a hexadecimal digit has its value.
* `encode_encodeByte` — the bytes of the form of a byte: a plus sign, the byte itself, or an escape.
* `decodeText_encodeText` — a name or a value comes back from its form, in which neither separator
  occurs (`separator_notMem_encodeText`).
* `decode_encode` — **the pairs come back from their line**, in order, empty names and values
  included.
-/

import MessageBus.Proofs.Text.Utf8
import MessageBus.Text.Form

namespace MessageBus.Text

/-! ### Hexadecimal digits -/

/-- The byte of an upper-case hexadecimal digit. -/
def Hex.upperByte (n : Nat) : UInt8 :=
  UInt8.ofNat (Hex.upperDigit n).toNat

/-- An upper-case hexadecimal digit is a character of ASCII with its value, and neither a percent
sign, a plus sign nor a separator of forms. -/
theorem Hex.upperDigit_spec : ∀ n < 16, (Hex.upperDigit n).toNat < 128 ∧
    Hex.value? (Hex.upperByte n) = some n ∧ Hex.upperByte n ≠ 43 ∧ Hex.upperByte n ≠ 38 ∧
      Hex.upperByte n ≠ 61 := by
  decide

/-! ### Escapes -/

namespace Percent

/-- A byte other than the percent sign stands. -/
theorem unescape_cons_of_ne {a : UInt8} (plain : a ≠ 37) (rest : List UInt8) :
    unescape (a :: rest) = a :: unescape rest := by
  match rest with
  | [] => rfl
  | [b] => rfl
  | b :: c :: rest => rw [unescape, if_neg plain]

/-- The escape of a byte is resolved to the byte. -/
theorem unescape_upperByte (b : UInt8) (rest : List UInt8) :
    unescape (37 :: Hex.upperByte (b.toNat / 16) :: Hex.upperByte (b.toNat % 16) :: rest) =
      b :: unescape rest := by
  have small : b.toNat < 256 := b.toNat_lt
  obtain ⟨-, high, -⟩ := Hex.upperDigit_spec (b.toNat / 16) (by omega)
  obtain ⟨-, low, -⟩ := Hex.upperDigit_spec (b.toNat % 16) (by omega)
  rw [unescape, if_pos rfl, high, low]
  simp only
  rw [Nat.div_add_mod' b.toNat 16, UInt8.ofNat_toNat]

/-- The bytes of an escape: the percent sign and two digits. -/
theorem encode_escapeByte (b : UInt8) : Utf8.encode (escapeByte b) =
    [37, Hex.upperByte (b.toNat / 16), Hex.upperByte (b.toNat % 16)] := by
  have small : b.toNat < 256 := b.toNat_lt
  have high := (Hex.upperDigit_spec (b.toNat / 16) (by omega)).1
  have low := (Hex.upperDigit_spec (b.toNat % 16) (by omega)).1
  rw [escapeByte, Utf8.encode_of_ascii]
  · rfl
  · intro c member
    simp only [List.mem_cons, List.not_mem_nil, or_false] at member
    rcases member with rfl | rfl | rfl
    · decide
    · exact high
    · exact low

end Percent

namespace Form

/-! ### One byte -/

/-- A kept byte is a character of ASCII other than a percent sign, a plus sign or a separator. -/
theorem code_of_isKept {b : UInt8} (kept : isKept b = true) :
    b.toNat < 128 ∧ b ≠ 37 ∧ b ≠ 43 ∧ b ≠ 38 ∧ b ≠ 61 := by
  simp only [isKept, Percent.isAlphanumeric, Bool.or_eq_true, Bool.and_eq_true, decide_eq_true_eq,
    beq_iff_eq, UInt8.le_iff_toNat_le, ← UInt8.toNat_inj] at kept
  simp only [ne_eq, ← UInt8.toNat_inj]
  simp at kept ⊢
  omega

/-- The bytes of the form of a byte. -/
def formBytes (b : UInt8) : List UInt8 :=
  if b = 32 then [43] else if isKept b then [b]
  else [37, Hex.upperByte (b.toNat / 16), Hex.upperByte (b.toNat % 16)]

theorem encode_encodeByte (b : UInt8) : Utf8.encode (encodeByte b) = formBytes b := by
  unfold encodeByte formBytes
  split
  · rfl
  · split
    · rename_i kept
      exact Utf8.encode_byte (code_of_isKept kept).1
    · exact Percent.encode_escapeByte b

/-- Neither separator occurs in the form of a byte. -/
theorem separator_notMem_formBytes (b : UInt8) : 38 ∉ formBytes b ∧ 61 ∉ formBytes b := by
  have small : b.toNat < 256 := b.toNat_lt
  unfold formBytes
  split
  · decide
  · split
    · rename_i kept
      obtain ⟨-, -, -, ampersand, equals⟩ := code_of_isKept kept
      simp [ampersand.symm, equals.symm]
    · obtain ⟨-, -, -, high⟩ := Hex.upperDigit_spec (b.toNat / 16) (by omega)
      obtain ⟨-, -, -, low⟩ := Hex.upperDigit_spec (b.toNat % 16) (by omega)
      simp [high.1.symm, high.2.symm, low.1.symm, low.2.symm]

/-- A plus sign read as the space that it stands for. -/
def plusToSpace (b : UInt8) : UInt8 :=
  if b = 43 then 32 else b

theorem plusToSpace_of_ne {b : UInt8} (plain : b ≠ 43) : plusToSpace b = b :=
  if_neg plain

/-- The form of a byte is read back to the byte. -/
theorem unescape_formBytes (b : UInt8) (rest : List UInt8) :
    Percent.unescape ((formBytes b).map plusToSpace ++ rest) = b :: Percent.unescape rest := by
  have small : b.toNat < 256 := b.toNat_lt
  unfold formBytes
  split
  · rename_i space
    rw [space]
    exact Percent.unescape_cons_of_ne (by decide) rest
  · split
    · rename_i kept
      obtain ⟨-, percent, plus, -⟩ := code_of_isKept kept
      rw [List.map_singleton, plusToSpace_of_ne plus]
      exact Percent.unescape_cons_of_ne percent rest
    · have high := (Hex.upperDigit_spec (b.toNat / 16) (by omega)).2.2.1
      have low := (Hex.upperDigit_spec (b.toNat % 16) (by omega)).2.2.1
      rw [List.map_cons, List.map_cons, List.map_singleton, plusToSpace_of_ne (by decide),
        plusToSpace_of_ne high, plusToSpace_of_ne low]
      exact Percent.unescape_upperByte b rest

/-! ### Names and values -/

/-- The bytes of the form of a text. -/
theorem encode_encodeText (s : String) :
    Utf8.encode (encodeText s) = (Utf8.bytes s).flatMap formBytes := by
  unfold encodeText
  induction Utf8.bytes s with
  | nil => rfl
  | cons b bs ih => rw [List.flatMap_cons, Utf8.encode_append, ih, encode_encodeByte,
      List.flatMap_cons]

/-- Neither separator occurs in the form of a text. -/
theorem separator_notMem_encodeText (s : String) :
    38 ∉ Utf8.encode (encodeText s) ∧ 61 ∉ Utf8.encode (encodeText s) := by
  rw [encode_encodeText]
  constructor <;> intro member <;> obtain ⟨b, -, inside⟩ := List.mem_flatMap.mp member
  · exact (separator_notMem_formBytes b).1 inside
  · exact (separator_notMem_formBytes b).2 inside

/-- A name or a value comes back from its form. -/
theorem decodeText_encodeText (s : String) : decodeText (Utf8.encode (encodeText s)) = s := by
  have resolved : ∀ bs : List UInt8,
      Percent.unescape ((bs.flatMap formBytes).map plusToSpace) = bs := by
    intro bs
    induction bs with
    | nil => rfl
    | cons b bs ih => rw [List.flatMap_cons, List.map_append, unescape_formBytes, ih]
  show Utf8.text (Percent.unescape ((Utf8.encode (encodeText s)).map plusToSpace)) = s
  rw [encode_encodeText, resolved, Utf8.text_bytes]

/-! ### Pairs -/

/-- The bytes of the form of a pair. -/
theorem encode_encodePair (pair : String × String) : Utf8.encode (encodePair pair) =
    Utf8.encode (encodeText pair.1) ++ 61 :: Utf8.encode (encodeText pair.2) := by
  rw [encodePair, Utf8.encode_append, Utf8.encode_cons]
  rfl

/-- A pair comes back from its form: its name holds no equals sign. -/
theorem decodePair_encodePair (pair : String × String) :
    decodePair (Utf8.encode (encodePair pair)) = pair := by
  have name : ∀ b ∈ Utf8.encode (encodeText pair.1), (b != 61) = true := by
    intro b member
    rw [bne_iff_ne]
    rintro rfl
    exact (separator_notMem_encodeText pair.1).2 member
  have front : (Utf8.encode (encodePair pair)).takeWhile (· != 61) =
      Utf8.encode (encodeText pair.1) := by
    rw [encode_encodePair, List.takeWhile_append_of_pos name, List.takeWhile_cons_of_neg (by simp),
      List.append_nil]
  have back : ((Utf8.encode (encodePair pair)).dropWhile (· != 61)).drop 1 =
      Utf8.encode (encodeText pair.2) := by
    rw [encode_encodePair, List.dropWhile_append_of_pos name, List.dropWhile_cons_of_neg (by simp),
      List.drop_succ_cons, List.drop_zero]
  rw [decodePair, front, back, decodeText_encodeText, decodeText_encodeText]

/-- The form of a pair is not empty and holds no separator of pairs. -/
theorem encodePair_piece (pair : String × String) :
    Utf8.encode (encodePair pair) ≠ [] ∧ 38 ∉ Utf8.encode (encodePair pair) := by
  rw [encode_encodePair]
  refine ⟨by simp, fun member => ?_⟩
  rcases List.mem_append.mp member with inside | inside
  · exact (separator_notMem_encodeText pair.1).1 inside
  · rcases List.mem_cons.mp inside with equal | inside
    · exact absurd equal (by decide)
    · exact (separator_notMem_encodeText pair.2).1 inside

/-- The bytes of a line are those of its pairs, with a separator between any two. -/
theorem bytes_encode (pairs : List (String × String)) : Utf8.bytes (encode pairs) =
    [38].intercalate (pairs.map fun pair => Utf8.encode (encodePair pair)) := by
  rw [Utf8.bytes, encode, String.toList_ofList]
  induction pairs with
  | nil => rfl
  | cons pair rest ih =>
    cases rest with
    | nil => simp
    | cons next others =>
      simp only [List.map_cons, List.intercalate_cons_cons] at ih ⊢
      rw [Utf8.encode_append, Utf8.encode_append, ih]
      rfl

/-- **The pairs come back from their line**, in order. -/
theorem decode_encode (pairs : List (String × String)) : decode (encode pairs) = pairs := by
  rw [decode, bytes_encode]
  cases pairs with
  | nil => rfl
  | cons pair rest =>
    -- No pair is empty or holds a separator, so the line is split where its pairs were joined.
    have pieces : ∀ piece ∈ ((pair :: rest).map fun pair => Utf8.encode (encodePair pair)),
        38 ∉ piece := by
      intro piece member
      obtain ⟨other, -, rfl⟩ := List.mem_map.mp member
      exact (encodePair_piece other).2
    rw [List.splitOn_intercalate 38 pieces (by simp), List.filter_eq_self.mpr, List.map_map]
    · refine (List.map_congr_left fun other _ => decodePair_encodePair other).trans ?_
      exact List.map_id _
    · intro piece member
      obtain ⟨other, -, rfl⟩ := List.mem_map.mp member
      simpa using (encodePair_piece other).1

end Form

end MessageBus.Text

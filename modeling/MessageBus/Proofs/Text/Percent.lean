/-
**Escaped names come back.** Names of any characters, with percent escapes.

* `unescape_escapeBytes` — the bytes of a name come back from their escaped form.
* `text?_unescape_escapeSegment` — so a name comes back from its escaped form;
  `escapeSegment_inj` — **different names have different escaped forms**.
* `escapeSegment_append`, `escapeSegment_dot` — a name is escaped piece by piece, and a dot in it
  stands.
* `isEscapedChar_of_mem_escapeSegment` — an escaped name is made of letters, digits and five marks;
  `clean_of_mem_escapeSegment` — so it holds nothing with a meaning in topics.
-/

import MessageBus.Proofs.Text.Form
import MessageBus.Text.Percent

namespace MessageBus.Text.Percent

/-! ### Bytes -/

/-- An unreserved byte is a character of ASCII other than a percent sign. -/
theorem code_of_isUnreserved {b : UInt8} (kept : isUnreserved b = true) :
    b.toNat < 128 ∧ b ≠ 37 := by
  simp only [isUnreserved, isAlphanumeric, Bool.or_eq_true, Bool.and_eq_true, decide_eq_true_eq,
    beq_iff_eq, UInt8.le_iff_toNat_le, ← UInt8.toNat_inj] at kept
  simp only [ne_eq, ← UInt8.toNat_inj]
  simp at kept ⊢
  omega

theorem escapeBytes_cons (keep : UInt8 → Bool) (b : UInt8) (bs : List UInt8) :
    escapeBytes keep (b :: bs) =
      (if keep b then [Char.ofNat b.toNat] else escapeByte b) ++ escapeBytes keep bs := rfl

theorem escapeBytes_append (keep : UInt8 → Bool) (first rest : List UInt8) :
    escapeBytes keep (first ++ rest) = escapeBytes keep first ++ escapeBytes keep rest :=
  List.flatMap_append

/-- The bytes of a name come back from their escaped form. -/
theorem unescape_escapeBytes (bs : List UInt8) :
    unescape (Utf8.encode (escapeBytes isUnreserved bs)) = bs := by
  induction bs with
  | nil => rfl
  | cons b bs ih =>
    rw [escapeBytes_cons, Utf8.encode_append]
    split
    case isTrue kept =>
      obtain ⟨ascii, percent⟩ := code_of_isUnreserved kept
      rw [Utf8.encode_byte ascii, List.singleton_append, unescape_cons_of_ne percent, ih]
    case isFalse => rw [encode_escapeByte, List.cons_append, List.cons_append, List.cons_append,
      List.nil_append, unescape_upperByte, ih]

/-! ### Names -/

/-- A name is escaped piece by piece. -/
theorem escapeSegment_append (first rest : String) :
    escapeSegment (first ++ rest) = escapeSegment first ++ escapeSegment rest := by
  unfold escapeSegment Utf8.bytes
  rw [String.toList_append, Utf8.encode_append, escapeBytes_append, String.ofList_append]

/-- A dot stands. -/
theorem escapeSegment_dot : escapeSegment "." = "." := by
  decide

/-- **A name comes back from its escaped form.** -/
theorem text?_unescape_escapeSegment (name : String) :
    Utf8.text? (unescape (Utf8.bytes (escapeSegment name))) = some name := by
  have back : unescape (Utf8.bytes (escapeSegment name)) = Utf8.bytes name := by
    rw [escapeSegment, Utf8.bytes, String.toList_ofList, unescape_escapeBytes]
  rw [back, Utf8.text?_bytes]

/-- **Different names have different escaped forms.** -/
theorem escapeSegment_inj {name other : String} :
    escapeSegment name = escapeSegment other ↔ name = other := by
  refine ⟨fun same => ?_, congrArg _⟩
  have back := text?_unescape_escapeSegment name
  rw [same, text?_unescape_escapeSegment] at back
  exact (Option.some.inj back).symm

/-- Only the empty name is escaped to nothing. -/
theorem escapeSegment_eq_empty {name : String} : escapeSegment name = "" ↔ name = "" :=
  (show escapeSegment name = escapeSegment "" ↔ name = "" from escapeSegment_inj)

/-! ### Characters -/

/-- A character of escaped names: a letter or digit of ASCII, or one of five marks. -/
def IsEscapedChar (c : Char) : Prop :=
  c.isAlphanum = true ∨ c ∈ ['.', '_', '~', '%', '-']

instance : DecidablePred IsEscapedChar := fun c =>
  inferInstanceAs (Decidable (c.isAlphanum = true ∨ c ∈ ['.', '_', '~', '%', '-']))

theorem isEscapedChar_of_isUnreserved : ∀ n < 128,
    isUnreserved (UInt8.ofNat n) = true → IsEscapedChar (Char.ofNat n) := by
  decide

theorem isEscapedChar_upperDigit : ∀ n < 16, IsEscapedChar (Hex.upperDigit n) := by
  decide

/-- **An escaped name is made of letters, digits and five marks.** -/
theorem isEscapedChar_of_mem_escapeSegment {name : String} {c : Char}
    (member : c ∈ (escapeSegment name).toList) : IsEscapedChar c := by
  rw [escapeSegment, String.toList_ofList, escapeBytes, List.mem_flatMap] at member
  obtain ⟨b, -, inside⟩ := member
  have small : b.toNat < 256 := b.toNat_lt
  split at inside
  case isTrue kept =>
    rw [List.mem_singleton.mp inside]
    refine isEscapedChar_of_isUnreserved _ (code_of_isUnreserved kept).1 ?_
    rwa [UInt8.ofNat_toNat]
  case isFalse =>
    simp only [escapeByte, List.mem_cons, List.not_mem_nil, or_false] at inside
    rcases inside with rfl | rfl | rfl
    · decide
    · exact isEscapedChar_upperDigit _ (by omega)
    · exact isEscapedChar_upperDigit _ (by omega)

/-- **An escaped name holds nothing with a meaning in topics.** -/
theorem clean_of_mem_escapeSegment {name : String} {c : Char}
    (member : c ∈ (escapeSegment name).toList) : c ≠ '/' ∧ c ≠ '+' ∧ c ≠ '#' := by
  have escaped := isEscapedChar_of_mem_escapeSegment member
  refine ⟨?_, ?_, ?_⟩ <;>
    · rintro rfl
      exact absurd escaped (by decide)

end MessageBus.Text.Percent

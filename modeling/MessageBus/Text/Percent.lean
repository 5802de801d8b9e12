/-
**Percent escapes.**

* `escapeByte` — a byte as `%` and two upper-case hexadecimal digits.
* `escapeSegment` — a name with every byte outside letters, digits and `-`, `_`, `.`, `~` escaped.
* `unescape` — resolves the valid escapes of a byte list and keeps everything else.
-/

import MessageBus.Text.Hex
import MessageBus.Text.Utf8

namespace MessageBus.Text.Percent

/-- A byte as a percent sign and two upper-case hexadecimal digits. -/
def escapeByte (b : UInt8) : List Char :=
  ['%', Hex.upperDigit (b.toNat / 16), Hex.upperDigit (b.toNat % 16)]

/-- Letters and digits of ASCII. -/
def isAlphanumeric (b : UInt8) : Bool :=
  (48 ≤ b && b ≤ 57) || (65 ≤ b && b ≤ 90) || (97 ≤ b && b ≤ 122)

/-- The bytes that a name keeps: letters, digits, `-`, `.`, `_` and `~`. -/
def isUnreserved (b : UInt8) : Bool :=
  isAlphanumeric b || b == 45 || b == 46 || b == 95 || b == 126

/-- Bytes as characters, those outside `keep` escaped. -/
def escapeBytes (keep : UInt8 → Bool) (bs : List UInt8) : List Char :=
  bs.flatMap fun b => if keep b then [Char.ofNat b.toNat] else escapeByte b

/-- A name with every byte outside the unreserved ones escaped. -/
def escapeSegment (name : String) : String :=
  String.ofList (escapeBytes isUnreserved (Utf8.bytes name))

/-- Resolves each percent sign followed by two hexadecimal digits; other bytes stand. -/
def unescape : List UInt8 → List UInt8
  | [] => []
  | [a] => [a]
  | [a, b] => [a, b]
  | a :: b :: c :: rest =>
    if a = 37 then
      match Hex.value? b, Hex.value? c with
      | some high, some low => UInt8.ofNat (high * 16 + low) :: unescape rest
      | _, _ => a :: unescape (b :: c :: rest)
    else a :: unescape (b :: c :: rest)

end MessageBus.Text.Percent

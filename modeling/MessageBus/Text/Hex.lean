/-
**Hexadecimal digits.**

* `digit`, `upperDigit` — the digit of a value below sixteen; `value?` reads either case.
* `encode`, `decode?` — two lower-case digits a byte, and back.
-/

namespace MessageBus.Text.Hex

/-- The lower-case digit of a value below sixteen. -/
def digit (n : Nat) : Char :=
  if n < 10 then Char.ofNat (48 + n) else Char.ofNat (87 + n)

/-- The upper-case digit of a value below sixteen. -/
def upperDigit (n : Nat) : Char :=
  if n < 10 then Char.ofNat (48 + n) else Char.ofNat (55 + n)

/-- The value of a byte read as a digit of either case. -/
def value? (b : UInt8) : Option Nat :=
  if 48 ≤ b && b ≤ 57 then some (b.toNat - 48)
  else if 65 ≤ b && b ≤ 70 then some (b.toNat - 55)
  else if 97 ≤ b && b ≤ 102 then some (b.toNat - 87)
  else none

/-- Two lower-case digits for each byte. -/
def encode (bs : List UInt8) : List Char :=
  bs.flatMap fun b => [digit (b.toNat / 16), digit (b.toNat % 16)]

/-- The bytes written by pairs of digits. -/
def decode? : List UInt8 → Option (List UInt8)
  | [] => some []
  | [_] => none
  | a :: b :: rest => do
    let high ← value? a
    let low ← value? b
    let more ← decode? rest
    return UInt8.ofNat (high * 16 + low) :: more

end MessageBus.Text.Hex

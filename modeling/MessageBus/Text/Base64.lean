/-
**Base64.** The standard alphabet with mandatory padding.

* `encode` — four characters for each three bytes, the last group padded with `=`.
* `decode?` — accepts exactly the texts that `encode` writes: no blanks, padding in place, and the
  bits that the padding leaves over are zero.
-/

import MessageBus.Text.Utf8

namespace MessageBus.Text.Base64

/-- The character of a six-bit value. -/
def digit (n : Nat) : Char :=
  if n < 26 then Char.ofNat (65 + n)
  else if n < 52 then Char.ofNat (71 + n)
  else if n < 62 then Char.ofNat (n - 4)
  else if n = 62 then '+' else '/'

/-- The six-bit value of a character. -/
def value? (c : Char) : Option Nat :=
  let code := c.toNat
  if 65 ≤ code ∧ code ≤ 90 then some (code - 65)
  else if 97 ≤ code ∧ code ≤ 122 then some (code - 71)
  else if 48 ≤ code ∧ code ≤ 57 then some (code + 4)
  else if c = '+' then some 62
  else if c = '/' then some 63
  else none

/-- Four characters for each three bytes, the last group padded. -/
def encode : List UInt8 → List Char
  | [] => []
  | [a] => [digit (a.toNat / 4), digit (a.toNat % 4 * 16), '=', '=']
  | [a, b] =>
    [digit (a.toNat / 4), digit (a.toNat % 4 * 16 + b.toNat / 16), digit (b.toNat % 16 * 4), '=']
  | a :: b :: c :: rest =>
    digit (a.toNat / 4) :: digit (a.toNat % 4 * 16 + b.toNat / 16) ::
      digit (b.toNat % 16 * 4 + c.toNat / 64) :: digit (c.toNat % 64) :: encode rest

/-- The one byte of a group of two characters and two pads. -/
def lastOne? (p q : Char) : Option (List UInt8) := do
  let v ← value? p
  let w ← value? q
  if w % 16 = 0 then some [UInt8.ofNat (v * 4 + w / 16)] else none

/-- The two bytes of a group of three characters and one pad. -/
def lastTwo? (p q r : Char) : Option (List UInt8) := do
  let v ← value? p
  let w ← value? q
  let x ← value? r
  if x % 4 = 0 then some [UInt8.ofNat (v * 4 + w / 16), UInt8.ofNat (w % 16 * 16 + x / 4)] else none

/-- The bytes of a padded text in the standard alphabet. -/
def decode? : List Char → Option (List UInt8)
  | [] => some []
  | p :: q :: r :: s :: rest =>
    if s = '=' then
      if rest ≠ [] then none
      else if r = '=' then lastOne? p q else lastTwo? p q r
    else do
      let v ← value? p
      let w ← value? q
      let x ← value? r
      let y ← value? s
      let more ← decode? rest
      return UInt8.ofNat (v * 4 + w / 16) :: UInt8.ofNat (w % 16 * 16 + x / 4) ::
        UInt8.ofNat (x % 4 * 64 + y) :: more
  | _ => none

end MessageBus.Text.Base64

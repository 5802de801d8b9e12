/-
**Identifiers.** Random identifiers in their usual text form.

* `Identifier.ofBits` — the text of 128 bits with the marks of a random identifier set.
* `Identifier.numbered` — a supply of distinct identifiers for runs that must be repeatable.
* `Identifier.atFront?` — recognises an identifier at the front of a text.
-/

import MessageBus.Text.Hex

namespace MessageBus.Identifier

/-- The lowest `count` hexadecimal digits of a number, highest first. -/
def hexDigits (count n : Nat) : List Char :=
  (List.range count).map fun i => Text.Hex.digit (n / Nat.pow 16 (count - 1 - i) % 16)

/-- The text of 128 bits: groups of 8, 4, 4, 4 and 12 digits, of which the third starts with the
version 4 and the fourth with the variant. -/
def ofBits (n : Nat) : String :=
  let d := hexDigits 32 n
  let variant := Text.Hex.digit (8 + n / Nat.pow 16 15 % 4)
  String.ofList (d.take 8 ++ ['-'] ++ (d.drop 8).take 4 ++ ['-', '4'] ++ (d.drop 13).take 3 ++
    ['-', variant] ++ (d.drop 17).take 3 ++ ['-'] ++ d.drop 20)

/-- The identifier of number `n` in a repeatable supply: its last twelve digits count. -/
def numbered (n : Nat) : String :=
  ofBits (0xB7C1D40E5A9F0C3600000000 * UInt32.size + n)

/-- Whether a character may stand at a place of an identifier. -/
def fits (c : Char) (place : Nat) : Bool :=
  if place ∈ [8, 13, 18, 23] then c = '-'
  else if place = 14 then c = '4'
  else if place = 19 then c ∈ ['8', '9', 'a', 'b']
  else c.isDigit || ('a' ≤ c && c ≤ 'f')

/-- The identifier at the front of a text, if there is one. -/
def atFront? (text : List Char) : Option (List Char) :=
  let front := text.take 36
  if front.length = 36 && front.zipIdx.all fun (c, place) => fits c place then some front else none

end MessageBus.Identifier

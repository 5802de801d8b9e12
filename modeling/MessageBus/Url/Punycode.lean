/-
**Punycode.** Names of any script in letters, digits and hyphens of ASCII.

* `threshold`, `adapt` — how many values a digit has before it ends a number, and how that follows
  the numbers read so far.
* `Punycode.State` — the characters read so far, and the number that is being read.
* `decode?` — the name that a text stands for. The part before the last hyphen is taken as it is;
  the rest are numbers, each of which tells which character comes next and where it goes.
-/

namespace MessageBus.Url.Punycode

/-- The base of the digits. -/
def base : Nat := 36

/-- The value from which on a digit does not end the number, at a place and for a bias. -/
def threshold (place bias : Nat) : Nat :=
  if place ≤ bias then 1 else min (place - bias) 26

/-- Divides a distance until it is small, counting the places that this takes. -/
def shrink (distance places : Nat) : Nat × Nat :=
  if 455 < distance then shrink (distance / 35) (places + base) else (distance, places)
termination_by distance
decreasing_by omega

/-- The bias after a number that led over a distance, with so many characters read. -/
def adapt (distance count : Nat) (isFirst : Bool) : Nat :=
  let distance := if isFirst then distance / 700 else distance / 2
  let (distance, places) := shrink (distance + distance / count) 0
  places + 36 * distance / (distance + 38)

/-- The value of a digit. -/
def digitValue? (c : Char) : Option Nat :=
  if 'a' ≤ c ∧ c ≤ 'z' then some (c.toNat - 'a'.toNat)
  else if 'A' ≤ c ∧ c ≤ 'Z' then some (c.toNat - 'A'.toNat)
  else if '0' ≤ c ∧ c ≤ '9' then some (c.toNat - '0'.toNat + 26)
  else none

/-- The state of a reader. -/
structure State where
  /-- The characters read so far. -/
  name : List Char
  /-- The code point reached. -/
  code : Nat := 128
  /-- Where the next number starts to count. -/
  origin : Nat := 0
  /-- The bias of the thresholds. -/
  bias : Nat := 72
  /-- The number that is being read, counted from the origin. -/
  number : Nat := 0
  /-- The weight of the next digit. -/
  weight : Nat := 1
  /-- The place of the next digit. -/
  place : Nat := base

/-- Whether a code point is a character. -/
def isCharacter (code : Nat) : Bool :=
  code < 0xD800 || (0xDFFF < code && code < 0x110000)

/-- Inserts the character that a finished number stands for. -/
def State.insert? (state : State) : Option State :=
  let count := state.name.length + 1
  let code := state.code + state.number / count
  let place := state.number % count
  if isCharacter code then
    some
      { name := state.name.insertIdx place (Char.ofNat code)
        code := code
        origin := place + 1
        bias := adapt (state.number - state.origin) count (state.origin == 0)
        number := place + 1 }
  else none

/-- Reads a digit; numbers and weights stay below two to the thirty-second. -/
def State.read? (state : State) (c : Char) : Option State := do
  let digit ← digitValue? c
  let number := state.number + digit * state.weight
  let limit := threshold state.place state.bias
  if UInt32.size ≤ number then none
  else if digit < limit then State.insert? { state with number := number }
  else
    let weight := state.weight * (base - limit)
    if UInt32.size ≤ weight then none
    else some { state with number := number, weight := weight, place := state.place + base }

/-- Splits a text at its last hyphen, unless that is the first character. -/
def split (text : List Char) : List Char × List Char :=
  let tail := (text.reverse.takeWhile (· ≠ '-')).reverse
  let head := text.take (text.length - tail.length - 1)
  if head.isEmpty then ([], text) else (head, tail)

/-- The name that a text stands for. -/
def decode? (text : List Char) : Option (List Char) := do
  let (name, digits) := split text
  if name.any fun c => 128 ≤ c.toNat then none
  else
    let state ← digits.foldlM State.read? { name := name }
    if state.place = base ∧ state.number = state.origin then some state.name else none

end MessageBus.Url.Punycode

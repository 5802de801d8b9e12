/-
**The shortest decimal of a double.** The fewest digits that read back as the same double; of those
the nearest to it, and of two equally near the even one.

* `Binary` — a finite positive double as `mantissa · 2 ^ exponent`, with the interval of numbers
  that round to it, in units of a quarter of its last place.
* `shortest` — digits and decimal exponent.
* `render` — positional up to sixteen whole digits and down to five places, else with a signed
  exponent; a positional number always has a fraction.
-/

import MessageBus.Json.Number

namespace MessageBus.Decimal

/-- A power of two. -/
def twoTo (exponent : Nat) : Nat :=
  Nat.pow 2 exponent

/-- A power of ten. -/
def tenTo (exponent : Nat) : Nat :=
  Nat.pow 10 exponent

/-- A positive number as a quotient, with the two ends of the interval that rounds to it. -/
structure Binary where
  /-- The lower end of the interval, over the common denominator. -/
  low : Nat
  /-- The number itself, over the common denominator. -/
  value : Nat
  /-- The upper end of the interval, over the common denominator. -/
  high : Nat
  /-- The common denominator. -/
  denominator : Nat
  /-- Whether the ends belong to the interval. -/
  closed : Bool

/-- The number of a positive finite double by its exponent and fraction fields. -/
def Binary.ofFields (exponent fraction : Nat) : Binary :=
  let mantissa := if exponent = 0 then fraction else twoTo 52 + fraction
  let power : Int := (max exponent 1 : Nat) - 1077
  let below := if fraction = 0 ∧ 1 < exponent then 1 else 2
  let up := if 0 ≤ power then twoTo power.toNat else 1
  { low := (4 * mantissa - below) * up
    value := 4 * mantissa * up
    high := (4 * mantissa + 2) * up
    denominator := if 0 ≤ power then 1 else twoTo power.natAbs
    closed := mantissa % 2 = 0 }

/-- Counts how often a number below one must be multiplied by ten to reach one. -/
def leadingZeros (value denominator : Nat) : Nat → Nat
  | 0 => 0
  | steps + 1 => if denominator ≤ value then 0 else 1 + leadingZeros (value * 10) denominator steps

/-- The number of digits before the point; zero or negative for numbers below one. -/
def magnitude (number : Binary) : Int :=
  if number.denominator ≤ number.value then
    (Nat.toDigits 10 (number.value / number.denominator)).length
  else 1 - leadingZeros number.value number.denominator 400

/-- Whether `digits · 10 ^ exponent` lies in the interval of the number. -/
def Binary.takes (number : Binary) (digits : Nat) (exponent : Int) : Bool :=
  let scaled := digits * number.denominator * tenTo exponent.toNat
  let low := number.low * tenTo (-exponent).toNat
  let high := number.high * tenTo (-exponent).toNat
  if number.closed then low ≤ scaled && scaled ≤ high else low < scaled && scaled < high

/-- The point of the grid `10 ^ exponent` that the number goes to, if one lies in its interval. -/
def Binary.onGrid? (number : Binary) (exponent : Int) : Option Nat :=
  let top := number.value * tenTo (-exponent).toNat
  let unit := number.denominator * tenTo exponent.toNat
  let floor := top / unit
  let excess := 2 * (top % unit)
  match number.takes floor exponent, number.takes (floor + 1) exponent with
  | true, true =>
    some (if excess < unit ∨ (excess = unit ∧ floor % 2 = 0) then floor else floor + 1)
  | true, false => some floor
  | false, true => some (floor + 1)
  | false, false => none

/-- The first grid of at most `left` further digits that holds a point of the interval. -/
def firstGrid (number : Binary) (exponent : Int) : Nat → Nat × Int
  | 0 => (0, 0)
  | left + 1 => match number.onGrid? exponent with
    | some digits => (digits, exponent)
    | none => firstGrid number (exponent - 1) left

/-- Drops zeros from the end of the digits. -/
def dropZeros (digits : Nat) (exponent : Int) : Nat → Nat × Int
  | 0 => (digits, exponent)
  | steps + 1 =>
    if digits % 10 = 0 then dropZeros (digits / 10) (exponent + 1) steps else (digits, exponent)

/-- The shortest digits of a positive number and their decimal exponent. -/
def shortest (number : Binary) : Nat × Int :=
  let (digits, exponent) := firstGrid number (magnitude number - 1) 18
  dropZeros digits exponent 18

/-- Digits with a decimal exponent as text. -/
def renderDigits (digits : Nat) (exponent : Int) : List Char :=
  let shown := Nat.toDigits 10 digits
  let count : Int := shown.length
  let point := count + exponent
  if 0 ≤ exponent ∧ point ≤ 16 then
    shown ++ List.replicate exponent.toNat '0' ++ ['.', '0']
  else if 0 < point ∧ point ≤ 16 then
    shown.take point.toNat ++ '.' :: shown.drop point.toNat
  else if -5 < point ∧ point ≤ 0 then
    '0' :: '.' :: List.replicate (-point).toNat '0' ++ shown
  else
    let fraction := shown.drop 1
    let power := (if 0 < point then ['+'] else []) ++ (toString (point - 1)).toList
    shown.take 1 ++ (if fraction.isEmpty then [] else '.' :: fraction) ++ 'e' :: power

/-- A finite double as text. -/
def render (double : Json.Double) : List Char :=
  let bits := double.bits.toNat
  let exponent := bits / twoTo 52 % twoTo 11
  let fraction := bits % twoTo 52
  let sign := if twoTo 63 ≤ bits then ['-'] else []
  if exponent = 0 ∧ fraction = 0 then sign ++ ['0', '.', '0']
  else
    let (digits, power) := shortest (Binary.ofFields exponent fraction)
    sign ++ renderDigits digits power

end MessageBus.Decimal

/-
**Numbers in JSON text.** A number without fraction and exponent that fits 64 bits is an integer;
every other one is a double.

* `readNumber` — reads a number whose first byte is a digit or a minus sign.
* `skipNumber` — passes a number without its value; one that ends early is then malformed.
* `scale` — the double nearest to a chain of multiplications: the significand, held to 64 bits, is
  multiplied by or divided by a power of ten at once. This is not always the nearest double to the
  decimal text, and it is the value that senders of such numbers see.
-/

import MessageBus.Json.Fault

namespace MessageBus.Json

/-- A double, by its sixty-four bits. -/
structure Double where
  /-- Sign, exponent and fraction. -/
  bits : UInt64
  deriving DecidableEq, Repr

/-- A number as read. -/
inductive Number
  | integer (value : Int)
  | double (value : Double)
  deriving DecidableEq, Repr

/-- Digits of ASCII. -/
def isDigit (b : UInt8) : Bool :=
  48 ≤ b && b ≤ 57

/-- Reads digits onto `value` as long as it stays below 2^64, and counts them. -/
def fittingDigits (value count : Nat) : List UInt8 → Nat × Nat × List UInt8
  | [] => (value, count, [])
  | b :: rest =>
    if isDigit b && value * 10 + (b.toNat - 48) < UInt64.size then
      fittingDigits (value * 10 + (b.toNat - 48)) (count + 1) rest
    else (value, count, b :: rest)

/-- The power of ten with a natural exponent, as a double. -/
def powerOfTen (exponent : Nat) : Float :=
  Float.ofScientific 1 false exponent

/-- Divides by powers of ten of at most 308; a 64-bit significand is used up after a few rounds. -/
def divideDown : Nat → Float → Nat → Float
  | 0, value, _ => value
  | rounds + 1, value, exponent =>
    if exponent ≤ 308 then value / powerOfTen exponent
    else if value == 0.0 then value
    else divideDown rounds (value / powerOfTen 308) (exponent - 308)

/-- The double of a significand and a decimal exponent; too large a magnitude is refused. -/
def scale (negative : Bool) (significand : Nat) (exponent : Int) : Except Fault Number :=
  let start := significand.toUInt64.toFloat
  let magnitude : Except Fault Float :=
    if exponent < 0 then .ok (divideDown 8 start exponent.natAbs)
    else if exponent ≤ 308 then
      let value := start * powerOfTen exponent.toNat
      if value.isInf then .error .malformed else .ok value
    else if start == 0.0 then .ok start
    else .error .malformed
  magnitude.map fun value => .double ⟨(if negative then -value else value).toBits⟩

/-- The largest exponent that is counted; further ones stop there. -/
def exponentLimit : Nat := 2147483647

/-- Reads digits of an exponent onto `value`, up to the limit. -/
def exponentDigits (value : Nat) : List UInt8 → Option Nat × List UInt8
  | [] => (some value, [])
  | b :: rest =>
    if isDigit b then
      if value * 10 + (b.toNat - 48) ≤ exponentLimit then
        exponentDigits (value * 10 + (b.toNat - 48)) rest
      else (none, rest.dropWhile isDigit)
    else (some value, b :: rest)

/-- Keeps an exponent within the counted range. -/
def clampExponent (exponent : Int) : Int :=
  max (-(exponentLimit + 1 : Int)) (min exponentLimit exponent)

/-- Reads an exponent after its letter and ends the number. -/
def readExponent (negative : Bool) (significand : Nat) (start : Int) : Reader Number := fun s => do
  let (down, s) := match s with
    | b :: rest => if b = 43 then (false, rest) else if b = 45 then (true, rest) else (false, s)
    | [] => (false, s)
  match s with
  | [] => .error .ended
  | b :: rest =>
    if isDigit b then
      match exponentDigits (b.toNat - 48) rest with
      | (some value, rest') =>
        let exponent := clampExponent (if down then start - value else start + value)
        return (← scale negative significand exponent, rest')
      | (none, rest') =>
        if significand ≠ 0 ∧ ¬ down then .error .malformed
        else return (← scale negative 0 0, rest')
    else .error .malformed

/-- Ends a number after its digits: an exponent may follow. -/
def endNumber (negative : Bool) (significand : Nat) (exponent : Int) : Reader Number := fun s =>
  match s with
  | b :: rest =>
    if b = 101 ∨ b = 69 then readExponent negative significand exponent rest
    else do return (← scale negative significand exponent, s)
  | [] => do return (← scale negative significand exponent, s)

/-- Reads a fraction after its point; digits that no longer fit the significand are passed over. -/
def readFraction (negative : Bool) (significand : Nat) (start : Int) : Reader Number := fun s =>
  match fittingDigits significand 0 s with
  | (value, count, rest) => match rest with
    | b :: _ =>
      if isDigit b then endNumber negative value (start - count) (rest.dropWhile isDigit)
      else if count = 0 then .error .malformed
      else endNumber negative value (start - count) rest
    | [] => if count = 0 then .error .ended else endNumber negative value (start - count) []

/-- Reads what follows the digits of the whole part: `dropped` of them did not fit. -/
def readTail (negative : Bool) (significand dropped : Nat) : Reader Number := fun s =>
  match s with
  | b :: rest =>
    if b = 46 then readFraction negative significand dropped rest
    else if b = 101 ∨ b = 69 then readExponent negative significand dropped rest
    else ending s
  | [] => ending s
where
  /-- A number without fraction and exponent. -/
  ending (s : List UInt8) : Except Fault (Number × List UInt8) :=
    if dropped ≠ 0 then do return (← scale negative significand dropped, s)
    else if ¬ negative then .ok (.integer significand, s)
    else if significand = 0 ∨ 9223372036854775808 < significand then
      do return (← scale negative significand 0, s)
    else .ok (.integer (-significand), s)

/-- Reads the digits of a number after its sign. -/
def readUnsigned (negative : Bool) : Reader Number := fun s =>
  match s with
  | [] => .error .ended
  | b :: rest =>
    if b = 48 then
      match rest with
      | d :: _ => if isDigit d then .error .malformed else readTail negative 0 0 rest
      | [] => readTail negative 0 0 rest
    else if isDigit b then
      match fittingDigits 0 0 s with
      | (value, _, rest') =>
        let more := rest'.takeWhile isDigit
        readTail negative value more.length (rest'.drop more.length)
    else .error .malformed

/-- Reads a number that starts with a digit or a minus sign. -/
def readNumber : Reader Number := fun s =>
  match s with
  | [] => .error .ended
  | b :: rest => if b = 45 then readUnsigned true rest else readUnsigned false s

/-- Passes digits of which there must be one at least. -/
def skipDigits : List UInt8 → Except Fault (List UInt8)
  | [] => .error .malformed
  | b :: rest => if isDigit b then .ok (rest.dropWhile isDigit) else .error .malformed

/-- Passes an exponent, if one follows. -/
def skipExponent (s : List UInt8) : Except Fault (List UInt8) :=
  match s with
  | b :: rest =>
    if b = 101 ∨ b = 69 then
      match rest with
      | sign :: rest' => if sign = 43 ∨ sign = 45 then skipDigits rest' else skipDigits rest
      | [] => .error .malformed
    else .ok s
  | [] => .ok s

/-- Passes a fraction and an exponent, as far as they follow. -/
def skipTail (s : List UInt8) : Except Fault (List UInt8) :=
  match s with
  | b :: rest => if b = 46 then do skipExponent (← skipDigits rest) else skipExponent s
  | [] => .ok s

/-- Passes the digits of a number after its sign. -/
def skipUnsigned (s : List UInt8) : Except Fault (List UInt8) :=
  match s with
  | [] => .error .malformed
  | b :: rest =>
    if b = 48 then
      match rest with
      | d :: _ => if isDigit d then .error .malformed else skipTail rest
      | [] => skipTail rest
    else if isDigit b then skipTail (rest.dropWhile isDigit)
    else .error .malformed

/-- Passes a number that starts with a digit or a minus sign. -/
def skipNumber (s : List UInt8) : Except Fault (List UInt8) :=
  match s with
  | [] => .error .malformed
  | b :: rest => if b = 45 then skipUnsigned rest else skipUnsigned s

end MessageBus.Json

/-
**Decimal integers.** Reading of a whole text as a bounded integer.

* `IntegerFault` — the four ways in which a text fails to be an integer of its range.
* `digits` — decimal digits read from the left; the first digit that leaves the range or the first
  character that is no digit decides, whichever comes first.
* `natural`, `integer` — a whole text with its optional sign.
-/

namespace MessageBus.Text

/-- Why a text is not an integer of the range asked for. -/
inductive IntegerFault
  | empty
  | invalidDigit
  | tooLarge
  | tooSmall
  deriving DecidableEq, Repr

/-- The wording of an integer fault. -/
def IntegerFault.message : IntegerFault → String
  | .empty => "cannot parse integer from empty string"
  | .invalidDigit => "invalid digit found in string"
  | .tooLarge => "number too large to fit in target type"
  | .tooSmall => "number too small to fit in target type"

/-- The value of a decimal digit. -/
def digitValue? (c : Char) : Option Nat :=
  if '0' ≤ c ∧ c ≤ '9' then some (c.toNat - '0'.toNat) else none

/-- Reads digits onto `value`, which may not pass `limit`; passing it is the fault `beyond`. -/
def digits (limit : Nat) (beyond : IntegerFault) (value : Nat) :
    List Char → Except IntegerFault Nat
  | [] => .ok value
  | c :: rest => match digitValue? c with
    | none => .error .invalidDigit
    | some d =>
      if value * 10 + d ≤ limit then digits limit beyond (value * 10 + d) rest
      else .error beyond

/-- Reads the digits after a sign, of which there is at least one. -/
def signedDigits (limit : Nat) (beyond : IntegerFault) : List Char → Except IntegerFault Nat
  | [] => .error .invalidDigit
  | cs => digits limit beyond 0 cs

/-- A natural number up to `limit`: one optional plus sign, then digits. -/
def natural (limit : Nat) : List Char → Except IntegerFault Nat
  | [] => .error .empty
  | '+' :: rest => signedDigits limit .tooLarge rest
  | cs => digits limit .tooLarge 0 cs

/-- An integer from `-(limit + 1)` to `limit`: one optional sign, then digits. -/
def integer (limit : Nat) : List Char → Except IntegerFault Int
  | [] => .error .empty
  | '+' :: rest => (signedDigits limit .tooLarge rest).map Int.ofNat
  | '-' :: rest => (signedDigits (limit + 1) .tooSmall rest).map fun n => -Int.ofNat n
  | cs => (digits limit .tooLarge 0 cs).map Int.ofNat

end MessageBus.Text

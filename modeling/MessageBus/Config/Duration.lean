/-
**Durations.** Times in whole milliseconds.

* `parse?` — a number of seconds, or a number with one of the units `ms`, `s` and `m`.
* `render` — the text of a duration in a message: the largest of seconds and milliseconds in which
  it is at least one, with the decimals it needs.
-/

import MessageBus.Text.Blank
import MessageBus.Text.Integer

namespace MessageBus

/-- A time in milliseconds. -/
structure Duration where
  /-- The number of milliseconds. -/
  milliseconds : Nat
  deriving DecidableEq, Inhabited, Repr

namespace Duration

/-- A time of whole seconds. -/
def seconds (n : Nat) : Duration := ⟨n * 1000⟩

/-- The whole seconds of a time. -/
def wholeSeconds (duration : Duration) : Nat :=
  duration.milliseconds / 1000

/-- The largest number of 64 bits. -/
def wordLimit : Nat := UInt64.size - 1

/-- Takes the ending `unit` off a text. -/
def stripUnit? (unit cs : List Char) : Option (List Char) :=
  if unit.isSuffixOf cs then some (cs.take (cs.length - unit.length)) else none

/-- A number of 64 bits. -/
def count? (cs : List Char) : Option Nat :=
  (Text.natural wordLimit cs).toOption

/-- A duration from its text without surrounding blanks. -/
def parseTrimmed? (cs : List Char) : Option Duration :=
  match stripUnit? ['m', 's'] cs with
  | some number => (count? (Text.trimChars number)).map fun n => ⟨n⟩
  | none => match stripUnit? ['s'] cs with
    | some number => (count? (Text.trimChars number)).map seconds
    | none => match stripUnit? ['m'] cs with
      | some number => do
        let n ← count? (Text.trimChars number)
        if n * 60 ≤ wordLimit then some (seconds (n * 60)) else none
      | none => (count? cs).map seconds

/-- A duration from its text. -/
def parse? (s : String) : Option Duration :=
  parseTrimmed? (Text.trimChars s.toList)

/-- Three decimal places without the zeros at their end. -/
def decimals (thousandths : Nat) : List Char :=
  let places := (Nat.toDigits 10 (1000 + thousandths)).drop 1
  Text.trimEndWhere (· == '0') places

/-- The text of a duration. -/
def render (duration : Duration) : String :=
  let ms := duration.milliseconds
  if ms = 0 then "0ns"
  else if ms < 1000 then toString ms ++ "ms"
  else
    let places := decimals (ms % 1000)
    toString (ms / 1000) ++ (if places.isEmpty then "" else "." ++ String.ofList places) ++ "s"

end Duration

end MessageBus

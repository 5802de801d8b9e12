/-
**Numeric addresses in URLs.**

* `Ipv6.parse?` — eight groups of up to four hexadecimal digits; one run of groups may be left out,
  and the last two may be written as four decimal numbers.
* `Ipv6.render` — the shortest text: the first of the longest runs of two or more zero groups is
  left out.
* `Ipv4.parse?` — one to four numbers, decimal, octal or hexadecimal, the last filling what the
  others leave.
-/

import MessageBus.Text.Hex

namespace MessageBus.Url

/-- The value of a hexadecimal digit. -/
def hexValue? (c : Char) : Option Nat :=
  if c.toNat < 128 then Text.Hex.value? (UInt8.ofNat c.toNat) else none

/-- The value of a text of digits to a base, each read by `digit`. -/
def number? (base : Nat) (digit : Char → Option Nat) (cs : List Char) : Option Nat :=
  cs.foldlM (fun value c => (digit c).map fun d => value * base + d) 0

/-- The value of a decimal digit. -/
def decimal? (c : Char) : Option Nat :=
  if '0' ≤ c ∧ c ≤ '9' then some (c.toNat - '0'.toNat) else none

/-- The value of an octal digit. -/
def octal? (c : Char) : Option Nat :=
  if '0' ≤ c ∧ c ≤ '7' then some (c.toNat - '0'.toNat) else none

namespace Ipv6

/-- One group: one to four hexadecimal digits. -/
def group? (cs : List Char) : Option Nat :=
  if cs.isEmpty ∨ 4 < cs.length then none else number? 16 hexValue? cs

/-- One number of a dotted ending: at most 255, without leading zeros. -/
def dottedNumber? (cs : List Char) : Option Nat := do
  let n ← number? 10 decimal? cs
  if cs.isEmpty ∨ 255 < n ∨ (cs.head? = some '0' ∧ 1 < cs.length) then none else some n

/-- The two groups of a dotted ending. -/
def dotted? (cs : List Char) : Option (List Nat) := do
  match ← (cs.splitOn '.').mapM dottedNumber? with
  | [a, b, c, d] => some [a * 256 + b, c * 256 + d]
  | _ => none

/-- Groups separated by colons; the last may be dotted where that is allowed. -/
def groups? (dottedEnd : Bool) (cs : List Char) : Option (List Nat) :=
  if cs.isEmpty then some []
  else
    let parts := cs.splitOn ':'
    match parts.getLast? with
    | some last =>
      if dottedEnd ∧ '.' ∈ last then do
        let front ← parts.dropLast.mapM group?
        return front ++ (← dotted? last)
      else parts.mapM group?
    | none => none

/-- Splits a text at its first double colon. -/
def splitGap : List Char → Option (List Char × List Char)
  | ':' :: ':' :: rest => some ([], rest)
  | c :: rest => (splitGap rest).map fun (front, back) => (c :: front, back)
  | [] => none

/-- The eight groups of an address. -/
def parse? (cs : List Char) : Option (List Nat) :=
  match splitGap cs with
  | some (front, back) => do
    let front ← groups? false front
    let back ← groups? true back
    if 7 < front.length + back.length then none
    else some (front ++ List.replicate (8 - front.length - back.length) 0 ++ back)
  | none => do
    let groups ← groups? true cs
    if groups.length = 8 then some groups else none

/-- The length of the run of zeros at the front. -/
def zeroRun (groups : List Nat) : Nat :=
  (groups.takeWhile (· == 0)).length

/-- The place and length of the first of the longest runs of zeros from `place` on. -/
def longestRun : Nat → List Nat → Nat × Nat
  | _, [] => (0, 0)
  | place, g :: rest =>
    let here := zeroRun (g :: rest)
    let later := longestRun (place + 1) rest
    if later.2 ≤ here then (place, here) else later

/-- Groups as text. -/
def renderGroups (groups : List Nat) : List Char :=
  List.intercalate [':'] (groups.map (Nat.toDigits 16))

/-- The text of an address in brackets. -/
def render (groups : List Nat) : String :=
  let (place, length) := longestRun 0 groups
  let inner :=
    if 2 ≤ length then
      renderGroups (groups.take place) ++ [':', ':'] ++ renderGroups (groups.drop (place + length))
    else renderGroups groups
  String.ofList ('[' :: (inner ++ [']']))

end Ipv6

namespace Ipv4

/-- One number of an address, decimal, octal or hexadecimal by its start. -/
def number? (cs : List Char) : Option Nat :=
  match cs with
  | [] => none
  | '0' :: 'x' :: rest => Url.number? 16 hexValue? rest
  | '0' :: 'X' :: rest => Url.number? 16 hexValue? rest
  | '0' :: c :: rest => Url.number? 8 octal? (c :: rest)
  | cs => Url.number? 10 decimal? cs

/-- The labels of a name; one dot at its end does not count. -/
def labels (cs : List Char) : List (List Char) :=
  let parts := cs.splitOn '.'
  if parts.getLast? = some [] then parts.dropLast else parts

/-- Whether the last label is a number, so that the name must be an address. -/
def endsInNumber (cs : List Char) : Bool :=
  match (labels cs).getLast? with
  | none => false
  | some last =>
    (!last.isEmpty && last.all fun c => (decimal? c).isSome) || (number? last).isSome

/-- Whether a name is an address. -/
def isAddress (cs : List Char) : Bool :=
  match (labels cs).mapM number? with
  | none => false
  | some numbers =>
    numbers.length ≤ 4 && numbers.dropLast.all (· ≤ 255) &&
      match numbers.getLast? with
      | some last => last < Nat.pow 256 (5 - numbers.length)
      | none => false

end Ipv4

end MessageBus.Url

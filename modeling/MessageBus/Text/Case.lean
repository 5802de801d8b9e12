/-
**Letter case.**

* `asciiLower`, `eqIgnoringAsciiCase` — case folding of the 26 Latin letters only, the comparison
  used for option keys and flags.
* `lowercase` — the full lower-case form of a text. One character becomes two (a dotted capital I),
  and a capital sigma at the end of a word takes its final form.
-/

import MessageBus.Text.CaseTable
import MessageBus.Text.Mark

namespace MessageBus.Text

/-- The lower-case form of a Latin capital; every other character stands. -/
def asciiLower (c : Char) : Char :=
  if 'A' ≤ c ∧ c ≤ 'Z' then Char.ofNat (c.toNat + 32) else c

/-- Equality of two texts up to the case of Latin letters. -/
def eqIgnoringAsciiCase (s t : String) : Bool :=
  s.toList.map asciiLower == t.toList.map asciiLower

/-- The lower-case form of one character, where it does not hang on the neighbours. -/
def lowerChar (c : Char) : List Char :=
  if c.toNat = 0x130 then ['i', Char.ofNat 0x307]
  else [(lowerRuns.findSome? (·.image? c)).getD c]

/-- Characters that word-final rules look through. -/
def isIgnorable (c : Char) : Bool :=
  isNonspacing c || inRanges ignorableRanges c

/-- Looks past ignorable characters for one that has case. -/
def meetsCased (cs : List Char) : Bool :=
  match cs.dropWhile isIgnorable with
  | [] => false
  | c :: _ => inRanges casedRanges c

/-- A capital sigma is final when a cased character precedes it and none follows. -/
def sigma (before after : List Char) : Char :=
  if meetsCased before && !meetsCased after then 'ς' else 'σ'

/-- Lower-cases the characters to come; `before` holds those already passed, nearest first. -/
def lowercaseFrom (before : List Char) : List Char → List Char
  | [] => []
  | c :: rest =>
    (if c = 'Σ' then [sigma before rest] else lowerChar c) ++ lowercaseFrom (c :: before) rest

/-- The lower-case form of a list of characters. -/
def lowercaseChars (cs : List Char) : List Char :=
  lowercaseFrom [] cs

/-- The lower-case form of a text. -/
def lowercase (s : String) : String :=
  String.ofList (lowercaseChars s.toList)

end MessageBus.Text

/-
**Normal form.** One spelling for texts that look the same: a character and the marks on it are
written as one character where there is one, and other marks stand in a fixed order.

* `combiningClass` — the class by which neighbouring marks are ordered.
* `decompose`, `reorder`, `compose` — apart, in order, together again; `normalForm` is all three.
* Characters that are always written apart are not known here: whoever reads texts that hold them
  replaces them first.
-/

import MessageBus.Text.CombiningTable
import MessageBus.Text.CompositionTable

namespace MessageBus.Text

/-- The class by which neighbouring marks are ordered; zero for what is no mark of this kind. -/
def combiningClass (c : Char) : Nat :=
  ((combiningClasses.find? fun entry => inRanges entry.2 c).map (·.1)).getD 0

/-! ### Syllables of Hangul -/

namespace Hangul

/-- The first syllable. -/
def syllables : Nat := 0xAC00

/-- The letters that begin a syllable, start at this one. -/
def initials : Nat := 0x1100

/-- The vowels start at this one. -/
def vowels : Nat := 0x1161

/-- The letters that end a syllable start behind this code point. -/
def finals : Nat := 0x11A7

/-- How many initial letters there are. -/
def initialCount : Nat := 19

/-- How many vowels there are. -/
def vowelCount : Nat := 21

/-- How many ways there are to end a syllable, the open end among them. -/
def finalCount : Nat := 28

/-- The two parts of a syllable: an open one and its final letter, or an initial and a vowel. -/
def parts? (c : Char) : Option (Char × Char) :=
  let place := c.toNat - syllables
  if c.toNat < syllables ∨ initialCount * vowelCount * finalCount ≤ place then none
  else if place % finalCount = 0 then
    let pair := place / finalCount
    some (Char.ofNat (initials + pair / vowelCount), Char.ofNat (vowels + pair % vowelCount))
  else
    some (Char.ofNat (c.toNat - place % finalCount), Char.ofNat (finals + place % finalCount))

/-- The syllable that two characters make up. -/
def whole? (a b : Char) : Option Char :=
  let initial := a.toNat - initials
  let vowel := b.toNat - vowels
  let place := a.toNat - syllables
  let final := b.toNat - finals
  if initials ≤ a.toNat ∧ initial < initialCount ∧ vowels ≤ b.toNat ∧ vowel < vowelCount then
    some (Char.ofNat (syllables + (initial * vowelCount + vowel) * finalCount))
  else if syllables ≤ a.toNat ∧ place < initialCount * vowelCount * finalCount ∧
      place % finalCount = 0 ∧ finals < b.toNat ∧ final < finalCount then
    some (Char.ofNat (a.toNat + final))
  else none

end Hangul

/-! ### Composites -/

/-- The two parts of a character that is written as one. -/
def parts? (c : Char) : Option (Char × Char) :=
  match compositeRows.findSome? (·.image? c) with
  | some [a, b] => some (a, b)
  | _ => Hangul.parts? c

/-- All composites with their parts. -/
def composites : List (Char × List Char) :=
  compositeRows.flatMap Row.entries

/-- The one character that two characters make up. -/
def whole? (a b : Char) : Option Char :=
  match composites.find? fun entry => entry.2 == [a, b] with
  | some entry => some entry.1
  | none => Hangul.whole? a b

/-- The most composites that lie within one another. -/
def nesting : Nat := 4

/-- A character taken apart, down to a depth. -/
def decomposeChar : Nat → Char → List Char
  | 0, c => [c]
  | depth + 1, c => match parts? c with
    | some (a, b) => decomposeChar depth a ++ [b]
    | none => [c]

/-- Takes all characters apart. -/
def decompose (cs : List Char) : List Char :=
  cs.flatMap (decomposeChar nesting)

/-- Puts a character before others: marks of a lower class go before it. -/
def insertMark (c : Char) : List Char → List Char
  | [] => [c]
  | d :: rest =>
    if 0 < combiningClass d ∧ combiningClass d < combiningClass c then d :: insertMark c rest
    else c :: d :: rest

/-- Puts neighbouring marks in the order of their classes; equal ones keep theirs. -/
def reorder (cs : List Char) : List Char :=
  cs.foldr insertMark []

/-- Joins what follows `base` to it, as far as no mark of the same class stands between; `marks`
holds the marks that have been passed, the last one first. -/
def composeOnto (base : Char) (marks : List Char) : List Char → List Char
  | [] => base :: marks.reverse
  | c :: rest =>
    let free := marks.all fun mark => combiningClass mark < combiningClass c
    match if free then whole? base c else none with
    | some whole => composeOnto whole marks rest
    | none =>
      if combiningClass c = 0 then base :: (marks.reverse ++ composeOnto c [] rest)
      else composeOnto base (c :: marks) rest

/-- Joins marks to the characters before them. -/
def compose : List Char → List Char
  | [] => []
  | c :: rest => if combiningClass c = 0 then composeOnto c [] rest else c :: compose rest

/-- The normal form of a text. -/
def normalForm (cs : List Char) : List Char :=
  compose (reorder (decompose cs))

end MessageBus.Text

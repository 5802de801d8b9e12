/-
**Domain names.** The names of hosts of the web, in any script.

* `image?` — what a character of a name stands for.
* `prepared?` — a name with all characters replaced by what they stand for, in normal form.
* `label?` — the characters of a label; one that starts with `xn--` is written in ASCII.
* `joinersStand` — a joiner stands only where it changes how letters are written.
* `readsOneWay` — a label is read from one side.
* `domain?` — the name of a host in lower case, if all its labels are well formed.
-/

import MessageBus.Text.Case
import MessageBus.Text.Direction
import MessageBus.Text.HiddenTable
import MessageBus.Text.Joining
import MessageBus.Text.NormalForm
import MessageBus.Url.DomainTable
import MessageBus.Url.Punycode

namespace MessageBus.Url

open Text (combiningClass direction inRanges isMark joining normalForm)

/-- The characters that no host may hold. -/
def isForbidden (c : Char) : Bool :=
  c.toNat = 0 || c == '\t' || c == '\n' || c == '\r' || c == ' ' || c == '#' || c == '/' ||
    c == ':' || c == '<' || c == '>' || c == '?' || c == '@' || c == '[' || c == '\\' ||
    c == ']' || c == '^' || c == '|'

/-- The characters that no domain name may hold. -/
def isForbiddenInDomain (c : Char) : Bool :=
  isForbidden c || c.toNat < 32 || c == '%' || c.toNat = 127

/-! ### What characters stand for -/

/-- The joiner that keeps letters apart. -/
def nonJoiner : Char := Char.ofNat 0x200C

/-- The joiner that draws letters together. -/
def joiner : Char := Char.ofNat 0x200D

/-- Characters that no name may hold. Of those that cannot be seen, names hold the joiners alone. -/
def isRefused (c : Char) : Bool :=
  inRanges refusedRanges c || (inRanges Text.hiddenRanges c && c ≠ joiner && c ≠ nonJoiner)

/-- What a character of a name stands for, if names may hold it. -/
def image? (c : Char) : Option (List Char) :=
  if inRanges ignoredRanges c then some []
  else match imageRows.findSome? (·.image? c), imageRuns.findSome? (·.image? c) with
    | some image, _ => some image
    | none, some d => some [d]
    | none, none => if isRefused c then none else some (Text.lowerChar c)

/-- A name with all characters replaced by what they stand for, in normal form. -/
def prepared? (name : List Char) : Option (List Char) := do
  let images ← name.mapM image?
  let text := normalForm images.flatten
  if text.any isForbiddenInDomain then none else some text

/-! ### Labels -/

/-- The start of a label that is written in ASCII. -/
def asciiStart : List Char := ['x', 'n', '-', '-']

/-- The most characters of a label in ASCII, without its start. -/
def maxAsciiLabel : Nat := 2000

/-- The most characters of a label that are written in ASCII. -/
def maxLabel : Nat := 1000

/-- Whether a text can be what a label in ASCII is read as: it stands for itself. -/
def standsForItself (text : List Char) : Bool :=
  text.all (fun c => image? c = some [c] && !isForbiddenInDomain c && c ≠ '.') &&
    normalForm text == text

/-- The characters of a label of a prepared name. -/
def label? (label : List Char) : Option (List Char) :=
  if asciiStart.isPrefixOf label then do
    let body := label.drop asciiStart.length
    if body.getLast? = some '-' ∨ maxAsciiLabel < body.length then none
    else
      let text ← Punycode.decode? body
      if !text.isEmpty && standsForItself text then some text else none
  else some label

/-- Whether the next letter in a direction, past what joining goes past, is joined in one of
several ways. -/
def meetsJoined (kinds : List Text.Joining) (cs : List Char) : Bool :=
  match cs.dropWhile fun c => joining c = .transparent with
  | [] => false
  | c :: _ => kinds.contains (joining c)

/-- The class of the marks that take the vowel from a letter. -/
def vowelKiller : Nat := 9

/-- Whether a joiner may stand behind `before`, nearest first, and before `after`. -/
def joinerStands (before : List Char) (c : Char) (after : List Char) : Bool :=
  match before with
  | [] => false
  | d :: _ =>
    combiningClass d = vowelKiller ||
      (c = nonJoiner && meetsJoined [.after, .both] before && meetsJoined [.before, .both] after)

/-- Whether all joiners among the characters to come may stand there; `before` holds the characters
already passed, nearest first. -/
def joinersStand (before : List Char) : List Char → Bool
  | [] => true
  | c :: rest =>
    ((c ≠ joiner && c ≠ nonJoiner) || joinerStands before c rest) && joinersStand (c :: before) rest

/-- Whether a label is well formed apart from its directions: it starts with no mark, its joiners
have their places, and it is not too long to be written in ASCII. -/
def isWellFormed (label : List Char) : Bool :=
  !label.head?.any isMark && joinersStand [] label &&
    (label.all (fun c => c.toNat < 128) || label.length ≤ maxLabel)

/-! ### Directions -/

/-- Whether a character brings letters that are read from the right into a name. -/
def turnsName (c : Char) : Bool :=
  direction c = .fromRight || direction c = .foreignNumber

/-- Whether the last character of a label, marks aside, is of one of several kinds. -/
def endsIn (kinds : List Text.Direction) (label : List Char) : Bool :=
  match label.reverse.dropWhile fun c => direction c = .mark with
  | [] => false
  | c :: _ => kinds.contains (direction c)

/-- Whether a label is read from one side: it begins with a letter, holds nothing that is read from
the other side, ends in a letter or digit, and does not mix the two kinds of digits. -/
def readsOneWay (label : List Char) : Bool :=
  let kinds := label.map direction
  match kinds with
  | [] => true
  | .fromLeft :: _ =>
    kinds.all (fun kind => kind ≠ .fromRight && kind ≠ .foreignNumber) &&
      endsIn [.fromLeft, .number] label
  | .fromRight :: _ =>
    !kinds.contains .fromLeft && !(kinds.contains .number && kinds.contains .foreignNumber) &&
      endsIn [.fromRight, .foreignNumber, .number] label
  | _ => false

/-! ### Names -/

/-- The name of a host in lower case, if all its labels are well formed. -/
def domain? (name : List Char) : Option (List Char) := do
  let text ← prepared? name
  let labels ← (text.splitOn '.').mapM label?
  if labels.all isWellFormed &&
      (!labels.any (·.any turnsName) || labels.all readsOneWay) then some text
  else none

end MessageBus.Url

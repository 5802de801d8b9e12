/-
**Quoted texts.** Texts as they are shown in descriptions of values.

* `quote` — a text between double quotes; quotes, backslashes and line ends are escaped by a letter,
  other characters that cannot be seen for themselves by their code.
* `quoteList` — several texts in brackets.
-/

import MessageBus.Text.HiddenTable
import MessageBus.Text.Mark

namespace MessageBus.Text

/-- Characters that cannot be seen for themselves: hidden ones, and those that would be taken for a
part of the character before them. -/
def isUnseen (c : Char) : Bool :=
  isExtending c || inRanges hiddenRanges c

/-- One character of a quoted text. -/
def quoteChar (c : Char) : List Char :=
  if c = '"' then ['\\', '"']
  else if c = '\\' then ['\\', '\\']
  else if c = '\n' then ['\\', 'n']
  else if c = '\r' then ['\\', 'r']
  else if c = '\t' then ['\\', 't']
  else if c.toNat = 0 then ['\\', '0']
  else if isUnseen c then
    ['\\', 'u', '\x7b'] ++ Nat.toDigits 16 c.toNat ++ ['\x7d']
  else [c]

/-- A text between double quotes. -/
def quote (s : String) : String :=
  String.ofList ('"' :: (s.toList.flatMap quoteChar ++ ['"']))

/-- Quoted texts in brackets. -/
def quoteList (texts : List String) : String :=
  "[" ++ String.intercalate ", " (texts.map quote) ++ "]"

end MessageBus.Text

/-
**Form coding.** Name and value pairs as one line of text.

* `encode` — pairs as `name=value` joined by `&`; letters, digits, `*`, `-`, `.` and `_` stand, a
  space becomes `+`, and every other byte is escaped.
* `decode` — the pairs of a line. Empty pieces are skipped, a piece without `=` is a name with an
  empty value, and malformed text is replaced rather than refused.
-/

import MessageBus.Text.Percent

namespace MessageBus.Text.Form

/-- The bytes that a form keeps as they are. -/
def isKept (b : UInt8) : Bool :=
  Percent.isAlphanumeric b || b == 42 || b == 45 || b == 46 || b == 95

/-- The form of one byte. -/
def encodeByte (b : UInt8) : List Char :=
  if b = 32 then ['+'] else if isKept b then [Char.ofNat b.toNat] else Percent.escapeByte b

/-- The form of one name or value. -/
def encodeText (s : String) : List Char :=
  (Utf8.bytes s).flatMap encodeByte

/-- The form of one pair. -/
def encodePair (pair : String × String) : List Char :=
  encodeText pair.1 ++ '=' :: encodeText pair.2

/-- The form of a list of pairs, in order. -/
def encode (pairs : List (String × String)) : String :=
  String.ofList (List.intercalate ['&'] (pairs.map encodePair))

/-- The text of one name or value. -/
def decodeText (bs : List UInt8) : String :=
  Utf8.text (Percent.unescape (bs.map fun b => if b = 43 then 32 else b))

/-- The pair of one piece: the first `=` ends the name. -/
def decodePair (bs : List UInt8) : String × String :=
  (decodeText (bs.takeWhile (· != 61)), decodeText ((bs.dropWhile (· != 61)).drop 1))

/-- The pairs of a line, in order. -/
def decode (s : String) : List (String × String) :=
  (((Utf8.bytes s).splitOn 38).filter fun piece => !piece.isEmpty).map decodePair

end MessageBus.Text.Form

/-
**Faults of JSON text.** A text is read as a stream from the left, and the first problem decides.

* `Fault` — the text is malformed, ends early, or holds a value of the wrong type or range.
* `Reader` — takes one value off the front of a byte list and returns the bytes after it.
-/

namespace MessageBus.Json

/-- Why a text was refused. -/
inductive Fault
  /-- The text is no JSON. -/
  | malformed
  /-- The text ends inside a value, or before one. -/
  | ended
  /-- The text is JSON so far, but its value does not fit the type asked for. -/
  | mismatched
  deriving DecidableEq, Repr

/-- The wording of a fault. -/
def Fault.message : Fault → String
  | .malformed => "malformed JSON"
  | .ended => "JSON ends early"
  | .mismatched => "JSON value of another type"

/-- Takes one value off the front of a byte list. -/
abbrev Reader (α : Type) := List UInt8 → Except Fault (α × List UInt8)

/-- The bytes that may stand between any two parts: space, tab, line feed and carriage return. -/
def isGap (b : UInt8) : Bool :=
  b == 32 || b == 9 || b == 10 || b == 13

/-- Drops the gap at the front. -/
def skipGap (s : List UInt8) : List UInt8 :=
  s.dropWhile isGap

/-- Takes exactly the bytes `word` off the front. -/
def expectWord (word s : List UInt8) : Except Fault (List UInt8) :=
  match word, s with
  | [], rest => .ok rest
  | _ :: _, [] => .error .ended
  | w :: word, b :: rest => if w = b then expectWord word rest else .error .malformed

/-- The byte of an ASCII character. -/
def byte (c : Char) : UInt8 :=
  UInt8.ofNat c.toNat

/-- Refuses whatever follows the one value of a text, gaps apart. -/
def finish (s : List UInt8) : Except Fault Unit :=
  match skipGap s with
  | [] => .ok ()
  | _ :: _ => .error .malformed

/-- Reads a whole text as one value. -/
def readAll {α : Type} (reader : Reader α) (s : List UInt8) : Except Fault α := do
  let (value, rest) ← reader s
  finish rest
  return value

end MessageBus.Json

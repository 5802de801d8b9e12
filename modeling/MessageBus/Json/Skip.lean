/-
**Passing over JSON values.** A value that nobody asked for must be well-formed, but its text is
not kept and its nesting is not limited.

* `skipValue` — passes one value. The open lists and objects are a stack, so that depth costs no
  recursion.
-/

import MessageBus.Json.Number
import MessageBus.Json.Text

namespace MessageBus.Json

/-- An open list or object. -/
inductive Frame
  | list
  | object
  deriving DecidableEq, Repr

/-- What may come next inside an open value. -/
inductive Expecting
  /-- A value. -/
  | value
  /-- The first item or the closing bracket. -/
  | first
  /-- A key. -/
  | key
  /-- A comma or the closing bracket, or the end when nothing is open. -/
  | more
  deriving DecidableEq, Repr

/-- The closing bracket of a frame. -/
def Frame.closing : Frame → UInt8
  | .list => 93
  | .object => 125

/-- What an item of the frame starts with. -/
def Frame.item : Frame → Expecting
  | .list => .value
  | .object => .key

/-- Passes a word, a number or a string that starts with `b`. -/
def skipScalar (b : UInt8) (rest : List UInt8) : Except Fault (List UInt8) :=
  if b = byte 'n' then expectWord [117, 108, 108] rest
  else if b = byte 't' then expectWord [114, 117, 101] rest
  else if b = byte 'f' then expectWord [97, 108, 115, 101] rest
  else if b = 45 ∨ isDigit b then skipNumber (b :: rest)
  else if b = 34 then skipString rest
  else .error .malformed

/-- Passes the colon after a key. -/
def skipColon (s : List UInt8) : Except Fault (List UInt8) :=
  match skipGap s with
  | [] => .error .ended
  | b :: rest => if b = 58 then .ok rest else .error .malformed

/-- Passes what is left of a value; two steps a byte are enough. -/
def skipSteps : Nat → Expecting → List Frame → List UInt8 → Except Fault (List UInt8)
  | 0, _, _, _ => .error .malformed
  | _ + 1, .more, [], s => .ok s
  | steps + 1, expecting, stack, s =>
    match skipGap s with
    | [] => .error .ended
    | b :: rest => match expecting, stack with
      | .value, stack =>
        if b = 91 then skipSteps steps .first (.list :: stack) rest
        else if b = 123 then skipSteps steps .first (.object :: stack) rest
        else do skipSteps steps .more stack (← skipScalar b rest)
      | .key, stack =>
        if b = 34 then do skipSteps steps .value stack (← skipColon (← skipString rest))
        else .error .malformed
      | .first, frame :: stack =>
        if b = frame.closing then skipSteps steps .more stack rest
        else skipSteps steps frame.item (frame :: stack) (b :: rest)
      | .more, frame :: stack =>
        if b = frame.closing then skipSteps steps .more stack rest
        else if b = 44 then skipSteps steps frame.item (frame :: stack) rest
        else .error .malformed
      | _, [] => .error .malformed

/-- Passes one value. -/
def skipValue : Reader Unit := fun s => do
  return ((), ← skipSteps (2 * s.length + 2) .value [] s)

end MessageBus.Json

/-
**JSON values.** Values of any shape, as decoded replies and settings hold them.

* `Value` — a tree; the members of an object are in increasing order of their keys.
* `value` — reads a value; a repeated key keeps its last value, and at most 127 lists and objects
  may be open at once.
* `Value.print` — the compact text of a value.
-/

import MessageBus.Decimal.Shortest
import MessageBus.Json.Reader
import MessageBus.StringMap

namespace MessageBus.Json

/-- A JSON value. -/
inductive Value
  | null
  | boolean (value : Bool)
  | integer (value : Int)
  | double (value : Double)
  | text (value : String)
  | list (items : List Value)
  | object (members : List (String × Value))
  deriving Inhabited

/-- A word, a number or a string that starts with `b`. -/
def scalar (b : UInt8) (rest : List UInt8) : Except Fault (Value × List UInt8) :=
  if b = byte 'n' then do return (.null, ← expectWord [117, 108, 108] rest)
  else if b = byte 't' then do return (.boolean true, ← expectWord [114, 117, 101] rest)
  else if b = byte 'f' then do return (.boolean false, ← expectWord [97, 108, 115, 101] rest)
  else if b = 45 ∨ isDigit b then do
    match ← readNumber (b :: rest) with
    | (.integer n, rest') => return (.integer n, rest')
    | (.double d, rest') => return (.double d, rest')
  else if b = 34 then do
    let (text, rest') ← readString rest
    return (.text text, rest')
  else .error .malformed

/-- A value in which at most `depth` lists and objects are open at once. -/
def valueWithin : Nat → Reader Value
  | depth, s => match skipGap s with
    | [] => .error .ended
    | b :: rest =>
      if b = 91 then
        match depth with
        | 0 => .error .malformed
        | depth + 1 => do
          let step := fun (seen : List Value) s => do
            let (value, rest') ← valueWithin depth s
            return (value :: seen, rest')
          let (seen, rest') ← items step (rest.length + 1) true [] rest
          return (.list seen.reverse, rest')
      else if b = 123 then
        match depth with
        | 0 => .error .malformed
        | depth + 1 => do
          let step := fun (seen : List (String × Value)) key s => do
            let (value, rest') ← valueWithin depth (← skipColon s)
            return (Entries.put key value seen, rest')
          let (seen, rest') ← members step (rest.length + 1) true [] rest
          return (.object seen, rest')
      else scalar b rest

/-- A value of any shape. -/
def value : Reader Value :=
  valueWithin 127

/-- Joins printed parts by commas. -/
def commaJoined (parts : List (List Char)) : List Char :=
  List.intercalate [','] parts

mutual

/-- The compact text of a value. -/
def Value.print : Value → List Char
  | .null => ['n', 'u', 'l', 'l']
  | .boolean true => ['t', 'r', 'u', 'e']
  | .boolean false => ['f', 'a', 'l', 's', 'e']
  | .integer n => (toString n).toList
  | .double d => Decimal.render d
  | .text s => printString s
  | .list items => '[' :: (commaJoined (printItems items) ++ [']'])
  | .object members => '{' :: (commaJoined (printMembers members) ++ ['}'])

/-- The texts of the items of a list. -/
def printItems : List Value → List (List Char)
  | [] => []
  | item :: rest => item.print :: printItems rest

/-- The texts of the members of an object. -/
def printMembers : List (String × Value) → List (List Char)
  | [] => []
  | (key, item) :: rest => (printString key ++ ':' :: item.print) :: printMembers rest

end

/-- The compact text of a value. -/
def Value.render (value : Value) : String :=
  String.ofList value.print

/-- An object of the given members; a repeated key keeps its last value. -/
def Value.ofMembers (members : List (String × Value)) : Value :=
  .object (members.foldl (fun seen member => Entries.put member.1 member.2 seen) [])

end MessageBus.Json

/-
**Typed reading.** Readers for the types that messages and settings are made of.

* `text`, `integer`, `boolean`, `optional`, `list`, `dictionary` — values of one type. A value of
  another type is a mismatch, once its own text is found to be well-formed.
* `RecordField`, `record` — a record by named fields: an object in any order with unknown names
  passed over, or a list of the fields in their order. A field given twice is a mismatch as soon as
  its name has been read, before the colon is looked at.
-/

import MessageBus.Json.Skip

namespace MessageBus.Json

/-- Refuses a value of another type: a fault in its own text comes first. -/
def wrongType {α : Type} (s : List UInt8) : Except Fault α :=
  match skipGap s with
  | [] => .error .ended
  | b :: rest =>
    if b = byte 'n' then do let _ ← expectWord [117, 108, 108] rest; .error .mismatched
    else if b = byte 't' then do let _ ← expectWord [114, 117, 101] rest; .error .mismatched
    else if b = byte 'f' then do let _ ← expectWord [97, 108, 115, 101] rest; .error .mismatched
    else if b = 45 ∨ isDigit b then do let _ ← readNumber (b :: rest); .error .mismatched
    else if b = 34 then do let _ ← readString rest; .error .mismatched
    else if b = 91 ∨ b = 123 then .error .mismatched
    else .error .malformed

/-- A string. -/
def text : Reader String := fun s =>
  match skipGap s with
  | [] => .error .ended
  | b :: rest => if b = 34 then readString rest else wrongType (b :: rest)

/-- An integer from `low` to `high`. -/
def integer (low high : Int) : Reader Int := fun s =>
  match skipGap s with
  | [] => .error .ended
  | b :: rest =>
    if b = 45 ∨ isDigit b then do
      match ← readNumber (b :: rest) with
      | (.integer n, rest') => if low ≤ n ∧ n ≤ high then return (n, rest') else .error .mismatched
      | (.double _, _) => .error .mismatched
    else wrongType (b :: rest)

/-- A truth value. -/
def boolean : Reader Bool := fun s =>
  match skipGap s with
  | [] => .error .ended
  | b :: rest =>
    if b = byte 't' then do return (true, ← expectWord [114, 117, 101] rest)
    else if b = byte 'f' then do return (false, ← expectWord [97, 108, 115, 101] rest)
    else wrongType (b :: rest)

/-- A value or `null`. -/
def optional {α : Type} (reader : Reader α) : Reader (Option α) := fun s =>
  match skipGap s with
  | b :: rest =>
    if b = byte 'n' then do return (none, ← expectWord [117, 108, 108] rest)
    else (reader (b :: rest)).map fun (value, rest') => (some value, rest')
  | [] => (reader []).map fun (value, rest') => (some value, rest')

/-- The items of an open list up to its closing bracket, each folded into the state. -/
def items {σ : Type} (step : σ → Reader σ) : Nat → Bool → σ → Reader σ
  | 0, _, _, _ => .error .malformed
  | steps + 1, first, state, s =>
    match skipGap s with
    | [] => .error .ended
    | b :: rest =>
      if b = 93 then .ok (state, rest)
      else if first then do
        let (state, rest') ← step state (b :: rest)
        items step steps false state rest'
      else if b = 44 then
        match skipGap rest with
        | [] => .error .ended
        | c :: rest' =>
          if c = 93 then .error .malformed
          else do
            let (state, rest'') ← step state (c :: rest')
            items step steps false state rest''
      else .error .malformed

/-- The key at the front. -/
def memberKey (s : List UInt8) : Except Fault (String × List UInt8) :=
  match s with
  | [] => .error .ended
  | b :: rest => if b = 34 then readString rest else .error .malformed

/-- The members of an open object up to its closing brace, each folded into the state; the step is
given the key and what follows it, from the colon on. -/
def members {σ : Type} (step : σ → String → Reader σ) : Nat → Bool → σ → Reader σ
  | 0, _, _, _ => .error .malformed
  | steps + 1, first, state, s =>
    match skipGap s with
    | [] => .error .ended
    | b :: rest =>
      if b = 125 then .ok (state, rest)
      else if first then do
        let (key, rest') ← memberKey (b :: rest)
        let (state, rest'') ← step state key rest'
        members step steps false state rest''
      else if b = 44 then do
        let (key, rest') ← memberKey (skipGap rest)
        let (state, rest'') ← step state key rest'
        members step steps false state rest''
      else .error .malformed

/-- A list of values of one type. -/
def list {α : Type} (reader : Reader α) : Reader (List α) := fun s =>
  match skipGap s with
  | [] => .error .ended
  | b :: rest =>
    if b = 91 then do
      let step := fun (seen : List α) s => do
        let (value, rest') ← reader s
        return (value :: seen, rest')
      let (seen, rest') ← items step (rest.length + 1) true [] rest
      return (seen.reverse, rest')
    else wrongType (b :: rest)

/-- The pairs of an object whose values have one type, in the order of the text. -/
def dictionary {α : Type} (reader : Reader α) : Reader (List (String × α)) := fun s =>
  match skipGap s with
  | [] => .error .ended
  | b :: rest =>
    if b = 123 then do
      let step := fun (seen : List (String × α)) key s => do
        let (value, rest') ← reader (← skipColon s)
        return ((key, value) :: seen, rest')
      let (seen, rest') ← members step (rest.length + 1) true [] rest
      return (seen.reverse, rest')
    else wrongType (b :: rest)

/-- A named field of a record under construction. -/
structure RecordField (σ : Type) where
  /-- The name of the field. -/
  name : String
  /-- Whether the field was read already. -/
  isSet : σ → Bool
  /-- Reads the field's value into the record. -/
  read : σ → Reader σ

/-- Reads one member of a record: unknown names are passed over, a repeated one is refused. -/
def recordMember {σ : Type} (fields : List (RecordField σ)) (state : σ) (key : String) : Reader σ :=
  fun s => match fields.find? fun field => field.name == key with
    | none => do
      let (_, rest) ← skipValue (← skipColon s)
      return (state, rest)
    | some field => do
      if field.isSet state then .error .mismatched
      else field.read state (← skipColon s)

/-- The fields of a record given as a list, in their order; trailing ones may be absent. -/
def recordItems {σ : Type} : List (RecordField σ) → Bool → σ → Reader σ
  | [], _, state, s =>
    match skipGap s with
    | [] => .error .ended
    | b :: rest => if b = 93 then .ok (state, rest) else .error .malformed
  | field :: fields, first, state, s =>
    match skipGap s with
    | [] => .error .ended
    | b :: rest =>
      if b = 93 then .ok (state, rest)
      else if first then do
        let (state, rest') ← field.read state (b :: rest)
        recordItems fields false state rest'
      else if b = 44 then
        match skipGap rest with
        | [] => .error .ended
        | c :: rest' =>
          if c = 93 then .error .malformed
          else do
            let (state, rest'') ← field.read state (c :: rest')
            recordItems fields false state rest''
      else .error .malformed

/-- A record by its fields; `complete` refuses a record that lacks a field it needs. -/
def record {σ α : Type} (fields : List (RecordField σ)) (start : σ) (complete : σ → Option α) :
    Reader α := fun s =>
  match skipGap s with
  | [] => .error .ended
  | b :: rest =>
    if b = 123 then do
      let (state, rest') ← members (recordMember fields) (rest.length + 1) true start rest
      finished state rest'
    else if b = 91 then do
      let (state, rest') ← recordItems fields true start rest
      finished state rest'
    else wrongType (b :: rest)
where
  /-- The finished record, if nothing is missing. -/
  finished (state : σ) (rest : List UInt8) : Except Fault (α × List UInt8) :=
    match complete state with
    | some value => .ok (value, rest)
    | none => .error .mismatched

end MessageBus.Json

/-
**Strings in JSON text.**

* `readString` — the text of a string whose opening quote is already taken. Escapes are resolved, a
  surrogate pair gives one character, and the result must be well-formed UTF-8.
* `skipString` — the same without keeping the text: escapes must have their form, but neither
  surrogates nor UTF-8 are looked at.
* `printString` — quotes a text; only quotes, backslashes and control characters are escaped.
-/

import MessageBus.Json.Fault
import MessageBus.Text.Hex
import MessageBus.Text.Utf8

namespace MessageBus.Json

open MessageBus.Text

/-- The byte that a one-letter escape stands for. -/
def simpleEscape? (e : UInt8) : Option UInt8 :=
  if e = 34 ∨ e = 92 ∨ e = 47 then some e
  else if e = 98 then some 8
  else if e = 102 then some 12
  else if e = 110 then some 10
  else if e = 114 then some 13
  else if e = 116 then some 9
  else none

/-- Four hexadecimal digits. -/
def fourDigits : Reader Nat
  | a :: b :: c :: d :: rest =>
    match Hex.value? a, Hex.value? b, Hex.value? c, Hex.value? d with
    | some a, some b, some c, some d => .ok (a * 4096 + b * 256 + c * 16 + d, rest)
    | _, _, _, _ => .error .malformed
  | _ => .error .ended

/-- The second half of a surrogate pair, whose first half is `high`. -/
def secondHalf (high : Nat) : Reader Char
  | [] => .error .ended
  | b :: rest =>
    if b ≠ 92 then .error .malformed
    else match rest with
      | [] => .error .ended
      | u :: rest' =>
        if u ≠ 117 then .error .malformed
        else do
          let (low, rest'') ← fourDigits rest'
          if 0xDC00 ≤ low ∧ low ≤ 0xDFFF then
            return (Char.ofNat (0x10000 + (high - 0xD800) * 0x400 + (low - 0xDC00)), rest'')
          else .error .malformed

/-- The character of an escape by code, whose backslash and letter are already taken. -/
def unicodeEscape : Reader Char := fun s => do
  let (code, rest) ← fourDigits s
  if 0xDC00 ≤ code ∧ code ≤ 0xDFFF then .error .malformed
  else if 0xD800 ≤ code ∧ code ≤ 0xDBFF then secondHalf code rest
  else return (Char.ofNat code, rest)

/-- The bytes of an escape whose backslash is already taken. -/
def escape : Reader (List UInt8)
  | [] => .error .ended
  | e :: rest => match simpleEscape? e with
    | some b => .ok ([b], rest)
    | none =>
      if e = 117 then do
        let (c, rest') ← unicodeEscape rest
        return (String.utf8EncodeChar c, rest')
      else .error .malformed

theorem fourDigits_length {s rest : List UInt8} {n : Nat} (read : fourDigits s = .ok (n, rest)) :
    rest.length ≤ s.length := by
  unfold fourDigits at read
  repeat' split at read
  all_goals first
    | contradiction
    | (simp only [Except.ok.injEq, Prod.mk.injEq] at read
       obtain ⟨_, rfl⟩ := read
       simp only [List.length_cons]
       omega)

theorem secondHalf_length {high : Nat} {s rest : List UInt8} {c : Char}
    (read : secondHalf high s = .ok (c, rest)) : rest.length ≤ s.length := by
  unfold secondHalf at read
  repeat' split at read
  all_goals try contradiction
  rename_i more _
  cases digits : fourDigits more with
  | error f => simp [digits, bind, Except.bind] at read
  | ok pair =>
    have shorter := fourDigits_length digits
    simp only [digits, bind, Except.bind] at read
    split at read
    · simp only [pure, Except.pure, Except.ok.injEq, Prod.mk.injEq] at read
      simp only [List.length_cons, ← read.2]
      omega
    · contradiction

theorem unicodeEscape_length {s rest : List UInt8} {c : Char}
    (read : unicodeEscape s = .ok (c, rest)) : rest.length ≤ s.length := by
  unfold unicodeEscape at read
  cases digits : fourDigits s with
  | error f => simp [digits, bind, Except.bind] at read
  | ok pair =>
    have shorter := fourDigits_length digits
    simp only [digits, bind, Except.bind] at read
    split at read
    · contradiction
    · split at read
      · have := secondHalf_length read
        omega
      · simp only [pure, Except.pure, Except.ok.injEq, Prod.mk.injEq] at read
        rw [← read.2]
        exact shorter

/-- An escape takes a byte at least. -/
theorem escape_length {s rest out : List UInt8} (read : escape s = .ok (out, rest)) :
    rest.length < s.length := by
  cases s with
  | nil => simp [escape] at read
  | cons e more =>
    simp only [escape] at read
    split at read
    · simp only [Except.ok.injEq, Prod.mk.injEq] at read
      simp only [List.length_cons, ← read.2]
      omega
    · split at read
      · cases code : unicodeEscape more with
        | error f => simp [code, bind, Except.bind] at read
        | ok pair =>
          have shorter := unicodeEscape_length code
          simp only [code, bind, Except.bind, pure, Except.pure, Except.ok.injEq,
            Prod.mk.injEq] at read
          simp only [List.length_cons, ← read.2]
          omega
      · contradiction

/-- The bytes of a string, escapes resolved, up to its closing quote. -/
def stringBytes : Reader (List UInt8)
  | [] => .error .ended
  | b :: rest =>
    if b = 34 then .ok ([], rest)
    else if b = 92 then
      match _taken : escape rest with
      | .error fault => .error fault
      | .ok (out, rest') => (stringBytes rest').map fun (more, left) => (out ++ more, left)
    else if b < 32 then .error .malformed
    else (stringBytes rest).map fun (more, left) => (b :: more, left)
termination_by s => s.length
decreasing_by
  · have := escape_length _taken
    simp only [List.length_cons]
    omega
  · simp only [List.length_cons]
    omega

/-- The text of a string whose opening quote is already taken. -/
def readString : Reader String := fun s => do
  let (bytes, rest) ← stringBytes s
  match Utf8.text? bytes with
  | some text => return (text, rest)
  | none => .error .malformed

/-- Passes an escape whose backslash is already taken. -/
def skipEscape : List UInt8 → Except Fault (List UInt8)
  | [] => .error .ended
  | e :: rest => match simpleEscape? e with
    | some _ => .ok rest
    | none => if e = 117 then (fourDigits rest).map Prod.snd else .error .malformed

/-- Passing an escape takes a byte at least. -/
theorem skipEscape_length {s rest : List UInt8} (read : skipEscape s = .ok rest) :
    rest.length < s.length := by
  cases s with
  | nil => simp [skipEscape] at read
  | cons e more =>
    simp only [skipEscape] at read
    split at read
    · simp only [Except.ok.injEq] at read
      simp [read]
    · split at read
      · cases digits : fourDigits more with
        | error f => simp [digits, Except.map] at read
        | ok pair =>
          have shorter := fourDigits_length digits
          simp only [digits, Except.map, Except.ok.injEq] at read
          simp only [List.length_cons, ← read]
          omega
      · contradiction

/-- Passes a string whose opening quote is already taken. -/
def skipString : List UInt8 → Except Fault (List UInt8)
  | [] => .error .ended
  | b :: rest =>
    if b = 34 then .ok rest
    else if b = 92 then
      match _taken : skipEscape rest with
      | .error fault => .error fault
      | .ok rest' => skipString rest'
    else if b < 32 then .error .malformed
    else skipString rest
termination_by s => s.length
decreasing_by
  · have := skipEscape_length _taken
    simp only [List.length_cons]
    omega
  · simp only [List.length_cons]
    omega

/-- One character of a quoted text. -/
def printChar (c : Char) : List Char :=
  if c = '"' then ['\\', '"']
  else if c = '\\' then ['\\', '\\']
  else if c.toNat < 32 then
    if c.toNat = 8 then ['\\', 'b']
    else if c.toNat = 9 then ['\\', 't']
    else if c.toNat = 10 then ['\\', 'n']
    else if c.toNat = 12 then ['\\', 'f']
    else if c.toNat = 13 then ['\\', 'r']
    else ['\\', 'u', '0', '0', Hex.digit (c.toNat / 16), Hex.digit (c.toNat % 16)]
  else [c]

/-- A text in quotes. -/
def printString (s : String) : List Char :=
  '"' :: (s.toList.flatMap printChar ++ ['"'])

end MessageBus.Json

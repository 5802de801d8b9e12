/-
**The grammar of JSON texts**, white space included.

* `IsSpace`, `Padded` — white space, and a text with the white space around it.
* `Member`, `printList`, `printObject` — lists and objects from their parts, with any white space.
* `IsValue` — what is a value: a word, a number, a string, or a list or an object of values.
* `Front`, `IsValue.front` — the first byte of a value tells its kind.
* `joined`, `joined_cons` — parts behind each other, each after its comma.
* `skipGap_space` — readers do not see white space in front; `SkipsGap` — those that begin with it.
-/

import MessageBus.Json.Skip
import MessageBus.Json.Value
import MessageBus.Proofs.Json.Number
import Mathlib.Data.List.DropRight

namespace MessageBus.Json

open MessageBus.Text

/-! ### White space -/

/-- White space of any length. -/
def IsSpace (gap : List Char) : Prop :=
  ∀ c ∈ gap, c ∈ [' ', '\t', '\n', '\r']

instance (gap : List Char) : Decidable (IsSpace gap) :=
  List.decidableBAll (· ∈ [' ', '\t', '\n', '\r']) gap

/-- A text with the white space around it. -/
structure Padded where
  before : List Char := []
  text : List Char
  after : List Char := []

/-- The text and what is around it. -/
def Padded.print (part : Padded) : List Char :=
  part.before ++ (part.text ++ part.after)

/-- Nothing but white space is around the text. -/
structure Padded.IsSpaced (part : Padded) : Prop where
  before : IsSpace part.before
  after : IsSpace part.after

/-! ### Lists and objects -/

/-- A member of an object: its name and its value. -/
structure Member where
  name : Padded
  value : Padded

/-- A member as text. -/
def Member.print (member : Member) : List Char :=
  member.name.print ++ ':' :: member.value.print

/-- Nothing but white space is around the name and around the value. -/
structure Member.IsSpaced (member : Member) : Prop where
  name : member.name.IsSpaced
  value : member.value.IsSpaced

/-- A list of the given items; `gap` stands behind the opening bracket. -/
def printList (gap : List Char) (items : List Padded) : List Char :=
  '[' :: (gap ++ (commaJoined (items.map Padded.print) ++ [']']))

/-- An object of the given members; `gap` stands behind the opening brace. -/
def printObject (gap : List Char) (members : List Member) : List Char :=
  '{' :: (gap ++ (commaJoined (members.map Member.print) ++ ['}']))

/-! ### Values -/

/-- The words that are values. -/
def words : List (List Char) :=
  [['n', 'u', 'l', 'l'], ['t', 'r', 'u', 'e'], ['f', 'a', 'l', 's', 'e']]

/-- A value of any kind. -/
inductive IsValue : List Char → Prop
  | word {text : List Char} (known : text ∈ words) : IsValue text
  | number {text : List Char} (number : IsNumber text) : IsValue text
  | quoted {text : List Char} (quoted : IsQuoted text) : IsValue text
  | list {gap : List Char} {items : List Padded} (space : IsSpace gap)
      (spaced : ∀ item ∈ items, item.IsSpaced) (values : ∀ item ∈ items, IsValue item.text) :
      IsValue (printList gap items)
  | object {gap : List Char} {members : List Member} (space : IsSpace gap)
      (spaced : ∀ member ∈ members, member.IsSpaced)
      (names : ∀ member ∈ members, IsQuoted member.name.text)
      (values : ∀ member ∈ members, IsValue member.value.text) :
      IsValue (printObject gap members)

/-- A member of an object: a quoted name and a value, with white space around them. -/
structure Member.IsFormed (member : Member) : Prop where
  spaced : member.IsSpaced
  name : IsQuoted member.name.text
  value : IsValue member.value.text

theorem encode_padded (part : Padded) (rest : List UInt8) :
    Utf8.encode part.print ++ rest = Utf8.encode part.before ++
      (Utf8.encode part.text ++ (Utf8.encode part.after ++ rest)) := by
  simp only [Padded.print, Utf8.encode_append, List.append_assoc]

/-- A member from behind its name to the end of its value. -/
def Member.behindName (member : Member) : List Char :=
  member.name.after ++ ':' :: (member.value.before ++ member.value.text)

theorem encode_member (member : Member) (rest : List UInt8) :
    Utf8.encode member.print ++ rest = Utf8.encode member.name.before ++
      (Utf8.encode member.name.text ++ (Utf8.encode member.behindName ++
        (Utf8.encode member.value.after ++ rest))) := by
  simp only [Member.print, Member.behindName, Padded.print, Utf8.encode_append, Utf8.encode_cons,
    List.append_assoc]

/-- The bytes of a list: its brackets and what is between them. -/
theorem encode_printList (gap : List Char) (items : List Padded) (rest : List UInt8) :
    Utf8.encode (printList gap items) ++ rest = 91 :: (Utf8.encode gap ++
      (Utf8.encode (commaJoined (items.map Padded.print)) ++ 93 :: rest)) := by
  rw [printList, Utf8.encode_cons, Utf8.encode_append, Utf8.encode_append]
  simp only [List.append_assoc]
  rfl

/-- The bytes of an object: its braces and what is between them. -/
theorem encode_printObject (gap : List Char) (members : List Member) (rest : List UInt8) :
    Utf8.encode (printObject gap members) ++ rest = 123 :: (Utf8.encode gap ++
      (Utf8.encode (commaJoined (members.map Member.print)) ++ 125 :: rest)) := by
  rw [printObject, Utf8.encode_cons, Utf8.encode_append, Utf8.encode_append]
  simp only [List.append_assoc]
  rfl

/-- A value whose bytes, with the `rest` behind them, are `b` and `more`: the first byte tells its
kind. -/
structure Front (text : List Char) (rest : List UInt8) (b : UInt8) (more : List UInt8) : Prop where
  bytes : Utf8.encode text ++ rest = b :: more
  solid : isGap b = false
  goesOn : b ≠ 93 ∧ b ≠ 125
  quoted : b = 34 → IsQuoted text
  number : b = 45 ∨ isDigit b = true → IsNumber text
  null : b = byte 'n' → more = 117 :: 108 :: 108 :: rest
  object : b = 123 → ∃ gap members, IsSpace gap ∧ (∀ member ∈ members, member.IsFormed) ∧
    text = printObject gap members

/-- **The first byte of a value tells its kind**, and is neither white space nor a closing
bracket. -/
theorem IsValue.front {text : List Char} (value : IsValue text) {rest : List UInt8}
    (ends : Ends rest) : ∃ b more, Front text rest b more := by
  have unlike : ∀ {b c : UInt8} {p : Prop}, b ≠ c → b = c → p :=
    fun apart same => absurd same apart
  -- Bytes that are no digits do not begin a number.
  have noDigit : ∀ {b : UInt8} {p : Prop}, ¬ (45 ≤ b.toNat ∧ b.toNat ≤ 57) →
      b = 45 ∨ isDigit b = true → p := fun apart first => absurd (code_of_first first) apart
  cases value with
  | word known =>
    simp only [words, List.mem_cons, List.not_mem_nil, or_false] at known
    rcases known with rfl | rfl | rfl
    · exact ⟨byte 'n', _, {
        bytes := rfl, solid := by decide, goesOn := by decide
        quoted := unlike (by decide), number := noDigit (by decide)
        null := fun _ => rfl, object := unlike (by decide) }⟩
    · exact ⟨byte 't', _, {
        bytes := rfl, solid := by decide, goesOn := by decide
        quoted := unlike (by decide), number := noDigit (by decide)
        null := unlike (by decide), object := unlike (by decide) }⟩
    · exact ⟨byte 'f', _, {
        bytes := rfl, solid := by decide, goesOn := by decide
        quoted := unlike (by decide), number := noDigit (by decide)
        null := unlike (by decide), object := unlike (by decide) }⟩
  | number number =>
    obtain ⟨b, more, bytes, first, -⟩ := skipNumber_number number ends
    have apart : ∀ c : UInt8, ¬ (45 ≤ c.toNat ∧ c.toNat ≤ 57) → b ≠ c := by
      rintro c outside rfl
      exact outside (code_of_first first)
    exact ⟨b, more, {
      bytes, solid := isGap_of_first first
      goesOn := ⟨apart _ (by decide), apart _ (by decide)⟩
      quoted := unlike (apart _ (by decide)), number := fun _ => number
      null := unlike (apart _ (by decide)), object := unlike (apart _ (by decide)) }⟩
  | quoted quoted =>
    obtain ⟨pieces, each, rfl⟩ := quoted
    exact ⟨34, _, {
      bytes := encode_quoted _ rest, solid := by decide, goesOn := by decide
      quoted := fun _ => ⟨pieces, each, rfl⟩, number := noDigit (by decide)
      null := unlike (by decide), object := unlike (by decide) }⟩
  | list space spaced values =>
    exact ⟨91, _, {
      bytes := rfl, solid := by decide, goesOn := by decide
      quoted := unlike (by decide), number := noDigit (by decide)
      null := unlike (by decide), object := unlike (by decide) }⟩
  | @object gap members space spaced names values =>
    have formed : ∀ member ∈ members, member.IsFormed := fun member inside =>
      ⟨spaced member inside, names member inside, values member inside⟩
    exact ⟨123, _, {
      bytes := rfl, solid := by decide, goesOn := by decide
      quoted := unlike (by decide), number := noDigit (by decide)
      null := unlike (by decide), object := fun _ => ⟨gap, members, space, formed, rfl⟩ }⟩

/-! ### Parts behind each other -/

/-- Parts as they stand in a list or an object: each after its comma, apart from the `first` of
all. -/
def joined (first : Bool) (parts : List (List Char)) : List Char :=
  if first then commaJoined parts else parts.flatMap fun part => ',' :: part

theorem joined_nil (first : Bool) : joined first [] = [] := by
  cases first <;> rfl

theorem joined_cons (first : Bool) (part : List Char) (parts : List (List Char)) :
    joined first (part :: parts) =
      (if first then [] else [',']) ++ (part ++ joined false parts) := by
  cases first with
  | false => rfl
  | true =>
    show commaJoined (part :: parts) = part ++ joined false parts
    induction parts generalizing part with
    | nil => simp [commaJoined, joined, List.intercalate]
    | cons other parts ih =>
      have further := ih other
      simp only [commaJoined, List.intercalate, List.intersperse_cons_cons,
        List.flatten_cons] at further ⊢
      rw [further]
      rfl

theorem length_encode_pos {part : List Char} (nonempty : part ≠ []) :
    0 < (Utf8.encode part).length := by
  cases part with
  | nil => exact absurd rfl nonempty
  | cons c cs =>
    have front := c.utf8Size_pos
    rw [Utf8.encode_cons, List.length_append, String.length_utf8EncodeChar]
    omega

/-- There are no more parts than bytes. -/
theorem length_le_joined {parts : List (List Char)} (nonempty : ∀ part ∈ parts, part ≠ [])
    (first : Bool) : parts.length ≤ (Utf8.encode (joined first parts)).length := by
  induction parts generalizing first with
  | nil => exact Nat.zero_le _
  | cons part parts ih =>
    obtain ⟨some, others⟩ := List.forall_mem_cons.mp nonempty
    have tail := ih others false
    have front := length_encode_pos some
    rw [joined_cons, Utf8.encode_append, Utf8.encode_append, List.length_append,
      List.length_append, List.length_cons]
    omega

/-- What stands behind a part ends its value. -/
theorem ends_joined (parts : List (List Char)) {rest : List UInt8} (ends : Ends rest) :
    Ends (Utf8.encode (joined false parts) ++ rest) := by
  cases parts with
  | nil => exact ends
  | cons part parts =>
    rintro b ⟨⟩
    exact .inr (.inl rfl)

/-! ### Reading past white space -/

/-- White space is white space in bytes. -/
theorem IsSpace.isGap {gap : List Char} (space : IsSpace gap) :
    ∀ b ∈ Utf8.encode gap, isGap b = true := by
  intro b member
  rw [Utf8.encode, List.mem_flatMap] at member
  obtain ⟨c, inside, ofChar⟩ := member
  have known := space c inside
  simp only [List.mem_cons, List.not_mem_nil, or_false] at known
  rcases known with rfl | rfl | rfl | rfl <;>
    · rw [Utf8.encodeChar_of_ascii (by decide), List.mem_singleton] at ofChar
      rw [ofChar]
      decide

theorem IsSpace.nil : IsSpace [] := nofun

/-- White space in front is dropped. -/
theorem skipGap_space {gap : List Char} (space : IsSpace gap) (rest : List UInt8) :
    skipGap (Utf8.encode gap ++ rest) = skipGap rest :=
  List.dropWhile_append_of_pos space.isGap

/-- The colon is passed with the white space in front of it. -/
theorem skipColon_behindName {member : Member} (spaced : member.IsSpaced) (rest : List UInt8) :
    skipColon (Utf8.encode member.behindName ++ rest) =
      .ok (Utf8.encode (member.value.before ++ member.value.text) ++ rest) := by
  rw [Member.behindName, Utf8.encode_append, Utf8.encode_cons, List.append_assoc, skipColon,
    skipGap_space spaced.name.after]
  rfl

/-- Readers that do not see white space in front. -/
def SkipsGap {α : Type} (reader : Reader α) : Prop :=
  ∀ s, reader s = reader (skipGap s)

theorem skipGap_skipGap (s : List UInt8) : skipGap (skipGap s) = skipGap s :=
  List.dropWhile_idempotent _ _

theorem skipsGap_text : SkipsGap text := fun s => by
  rw [text, text, skipGap_skipGap]

theorem skipsGap_integer (low high : Int) : SkipsGap (integer low high) := fun s => by
  rw [integer, integer, skipGap_skipGap]

theorem skipsGap_optional {α : Type} (reader : Reader α) : SkipsGap (optional reader) := fun s => by
  unfold optional
  rw [skipGap_skipGap]

theorem skipsGap_dictionary {α : Type} (reader : Reader α) : SkipsGap (dictionary reader) :=
  fun s => by rw [dictionary, dictionary, skipGap_skipGap]

theorem skipsGap_record {σ α : Type} (fields : List (RecordField σ)) (start : σ)
    (complete : σ → Option α) : SkipsGap (record fields start complete) :=
  fun s => by rw [record, record, skipGap_skipGap]

/-- Such a reader takes a value from behind white space. -/
theorem Reads.behind_space {α : Type} {reader : Reader α} {written gap : List Char} {value : α}
    (reads : Reads reader written value) (skips : SkipsGap reader) (space : IsSpace gap) :
    Reads reader (gap ++ written) value := by
  intro rest ends
  rw [Utf8.encode_append, List.append_assoc, skips, skipGap_space space, ← skips, reads rest ends]

/-- White space and the brackets that may stand behind a value end it. -/
theorem ends_space {gap : List Char} {rest : List UInt8} (space : IsSpace gap) (ends : Ends rest) :
    Ends (Utf8.encode gap ++ rest) := by
  intro b first
  cases front : Utf8.encode gap with
  | nil =>
    rw [front] at first
    exact ends b first
  | cons c more =>
    rw [front] at first
    obtain rfl : c = b := Option.some.inj first
    exact .inl (space.isGap c (front ▸ List.mem_cons_self))

end MessageBus.Json

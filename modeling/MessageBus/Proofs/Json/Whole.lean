/-
**Typed readers read values whole.** What a reader makes of a value, it leaves exactly what stands
behind it.

* `ReadsWhole` — so it is for every value, with white space in front; a value of another type is
  refused (`wrongType_ne_ok`).
* `readsWhole_text`, `readsWhole_integer`, `readsWhole_optional`, `readsWhole_dictionary` — the
  readers of settings and messages are of this kind.
* `leaves_recordMember` — **a record never reads past one of its members**.
-/

import MessageBus.Proofs.Json.Object

namespace MessageBus.Json

open MessageBus.Text

variable {α β : Type} {rest : List UInt8}

/-- What the reader makes of a value, it leaves exactly what stands behind it. -/
def ReadsWhole (reader : Reader α) : Prop :=
  ∀ gap written, IsSpace gap → IsValue written → Leaves reader (gap ++ written)

/-- A reader that goes on without reading leaves what was left. -/
theorem ReadsWhole.of_ok {reader : Reader α} {other : Reader β} (whole : ReadsWhole reader)
    (reads : ∀ s value left, other s = .ok (value, left) → ∃ part, reader s = .ok (part, left)) :
    ReadsWhole other := by
  intro gap written space value rest ends result left read
  obtain ⟨part, before⟩ := reads _ _ _ read
  exact whole gap written space value rest ends part left before

theorem skipGap_value {gap written : List Char} {b : UInt8} {more : List UInt8}
    (space : IsSpace gap) (front : Front written rest b more) :
    skipGap (Utf8.encode (gap ++ written) ++ rest) = b :: more := by
  rw [Utf8.encode_append, List.append_assoc, skipGap_space space, front.bytes,
    skipGap_cons front.solid]

/-! ### Scalars -/

/-- A value of another type is refused. -/
theorem wrongType_ne_ok {s : List UInt8} {value : α} : wrongType s ≠ .ok value := by
  intro read
  unfold wrongType at read
  have refused : ∀ {γ : Type} (part : Except Fault γ),
      (part >>= fun _ => .error Fault.mismatched) ≠ .ok value := by
    rintro γ (fault | part) <;> nofun
  repeat' split at read
  all_goals first
    | exact refused _ read
    | cases read

theorem readsWhole_text : ReadsWhole text := by
  intro gap written space value rest ends result left read
  obtain ⟨b, more, front⟩ := value.front ends
  unfold text at read
  simp only [skipGap_value space front] at read
  split at read
  · rename_i quote
    have key : memberKey (Utf8.encode written ++ rest) = .ok (result, left) := by
      rw [front.bytes, memberKey, if_pos quote, read]
    exact (memberKey_quoted (front.quoted quote) key).1
  · exact absurd read wrongType_ne_ok

/-- A number that is read is all of the number. -/
theorem left_of_number {written : List Char} {number : Number} {left : List UInt8}
    (isNumber : IsNumber written) (ends : Ends rest)
    (read : readNumber (Utf8.encode written ++ rest) = .ok (number, left)) : left = rest := by
  obtain ⟨b, more, bytes, -, passed⟩ := skipNumber_number isNumber ends
  have taken := skipNumber_of_readNumber read
  rw [bytes, passed] at taken
  exact (Except.ok.inj taken).symm

theorem readsWhole_integer (low high : Int) : ReadsWhole (integer low high) := by
  intro gap written space value rest ends result left read
  obtain ⟨b, more, front⟩ := value.front ends
  unfold integer at read
  simp only [skipGap_value space front] at read
  split at read
  · rename_i first
    obtain ⟨⟨n, behind⟩, number, whole⟩ := exists_of_bind read
    rw [← front.bytes] at number
    obtain rfl := left_of_number (front.number first) ends number
    cases n with
    | integer n =>
      simp only at whole
      split at whole <;> cases whole
      rfl
    | double d => cases whole
  · exact absurd read wrongType_ne_ok

theorem readsWhole_optional {reader : Reader α} (whole : ReadsWhole reader) :
    ReadsWhole (Json.optional reader) := by
  intro gap written space value rest ends result left read
  obtain ⟨b, more, front⟩ := value.front ends
  unfold Json.optional at read
  simp only [skipGap_value space front] at read
  split at read
  · rename_i word
    rw [front.null word] at read
    cases read
    rfl
  · obtain ⟨⟨part, behind⟩, before, same⟩ := exists_of_map read
    cases same
    refine whole [] written IsSpace.nil value rest ends part behind ?_
    rw [List.nil_append, front.bytes, before]

/-! ### Members -/

/-- A reader behind the colon of a member leaves what stands behind the member. -/
theorem left_of_behindName {reader : Reader α} {member : Member} {value : α} {left : List UInt8}
    (whole : ReadsWhole reader) (formed : member.IsFormed) (ends : Ends rest)
    (read : (skipColon (Utf8.encode member.behindName ++ rest) >>= reader) = .ok (value, left)) :
    left = rest := by
  rw [skipColon_behindName formed.spaced] at read
  exact whole _ _ formed.spaced.value.before formed.value rest ends value left read

theorem leaves_dictionaryStep {reader : Reader α} {member : Member} (whole : ReadsWhole reader)
    (formed : member.IsFormed) (seen : List (String × α)) (name : String) :
    Leaves (dictionaryStep reader seen name) member.behindName := by
  intro rest ends pairs left read
  obtain ⟨behind, colon, read⟩ := exists_of_bind read
  obtain ⟨⟨value, between⟩, taken, same⟩ := exists_of_bind read
  cases same
  have both : (skipColon (Utf8.encode member.behindName ++ rest) >>= reader) =
      .ok (value, left) := by
    rw [colon]
    exact taken
  exact left_of_behindName whole formed ends both

/-- The pairs that are read are all of the object. -/
theorem readsWhole_dictionary {reader : Reader α} (whole : ReadsWhole reader) :
    ReadsWhole (dictionary reader) := by
  intro gap written space value rest ends result left read
  obtain ⟨b, more, front⟩ := value.front ends
  have braced : b = 123 := by
    unfold dictionary at read
    simp only [skipGap_value space front] at read
    split at read
    · rename_i brace
      exact brace
    · exact absurd read wrongType_ne_ok
  have opened : dictionary reader (b :: more) = .ok (result, left) := by
    rw [← read, dictionary, dictionary, skipGap_cons front.solid, skipGap_value space front]
  obtain ⟨inner, members, innerSpace, formed, rfl⟩ := front.object braced
  rw [← front.bytes, encode_printObject, dictionary_open] at opened
  obtain ⟨⟨pairs, behind⟩, body, same⟩ := exists_of_bind opened
  cases same
  rw [skipsGap_members, skipGap_space innerSpace, ← skipsGap_members,
    show commaJoined (members.map Member.print) = joined true (members.map Member.print) from rfl]
    at body
  obtain ⟨rounds, last, -, closed⟩ := walks_of_members formed
    (fun member inside seen name => leaves_dictionaryStep whole (formed member inside) seen name)
    (ends_closing .object rest) body
  cases rounds with
  | zero => cases closed
  | succ rounds =>
    cases closed
    rfl

theorem readsWhole_skipValue : ReadsWhole skipValue := by
  intro gap written space value rest ends result left read
  rw [reads_skipValue space value rest ends] at read
  cases read
  rfl

/-- **A record never reads past one of its members.** -/
theorem leaves_recordMember {σ : Type} {fields : List (RecordField σ)} {member : Member}
    (whole : ∀ field ∈ fields, ∀ state, ReadsWhole (field.read state)) (formed : member.IsFormed)
    (state : σ) (name : String) : Leaves (recordMember fields state name) member.behindName := by
  intro rest ends next left read
  unfold recordMember at read
  split at read
  · obtain ⟨behind, colon, read⟩ := exists_of_bind read
    obtain ⟨⟨_, between⟩, taken, same⟩ := exists_of_bind read
    cases same
    have both : (skipColon (Utf8.encode member.behindName ++ rest) >>= skipValue) =
        .ok ((), left) := by
      rw [colon]
      exact taken
    exact left_of_behindName readsWhole_skipValue formed ends both
  · rename_i field found
    split at read
    · cases read
    · exact left_of_behindName (whole field (List.mem_of_find?_eq_some found) state) formed ends read

end MessageBus.Json

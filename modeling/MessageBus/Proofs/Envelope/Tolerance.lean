/-
**Partial and extended envelopes.** What is read from an object that does not hold exactly the
members that are written.

* `decode_object` — an object with some of the members, in any order and spelling, among any others.
* `isSet_of_recordMember`, `isSet_of_walks` — the fields that are read stay so, and only those are.
* `decode_repeated` — nothing is read once the name of a field comes again.
* `decode_of_members` — **members may be left out, moved and surrounded, but never repeated**.
-/

import MessageBus.Proofs.Envelope.Members

namespace MessageBus.Envelope

open MessageBus.Json
open MessageBus.Text

/-! ### Objects with some of the members -/

theorem finish_space {gap : List Char} (space : IsSpace gap) :
    finish (Utf8.encode gap) = .ok () := by
  have empty := skipGap_space space []
  rw [List.append_nil] at empty
  rw [finish, empty]
  rfl

/-- **An envelope is decoded from the members that are there.** -/
theorem decode_object {envelope : Envelope} {parts : List (String × Member)}
    {before gap after : List Char} (front : IsSpace before) (space : IsSpace gap)
    (back : IsSpace after) (each : ∀ part ∈ parts, envelope.Tells part)
    (once : ((parts.map Prod.fst).filter (· ∈ memberNames)).Nodup) :
    decode (Utf8.encode (before ++ (printObject gap (parts.map Prod.snd) ++ after))) =
      .ok (envelope.keeping (parts.map Prod.fst)) := by
  have ends : Ends (Utf8.encode after) := by
    have none : Ends (Utf8.encode after ++ []) := ends_space back nofun
    rwa [List.append_nil] at none
  have read := (reads_object space each once).behind_space (skipsGap_record _ _ _) front _ ends
  rw [← List.append_assoc, Utf8.encode_append, decode, readAll, read]
  show (finish (Utf8.encode after) >>= _) = _
  rw [finish_space back]
  rfl

/-! ### Fields that were read -/

/-- What a field reads goes into the draft. -/
theorem field_read_ok {α : Type} {name : String} {get : Draft → Option α}
    {put : Draft → α → Draft} {reader : Reader α} {draft next : Draft} {s left : List UInt8}
    (read : (Draft.field name get put reader).read draft s = .ok (next, left)) :
    ∃ value, reader s = .ok (value, left) ∧ put draft value = next := by
  obtain ⟨⟨value, behind⟩, taken, same⟩ := exists_of_bind read
  cases same
  exact ⟨value, taken, rfl⟩

/-- A field that is read is set, and the others are as they were. -/
theorem isSet_of_read {field other : RecordField Draft} (isField : field ∈ fields)
    (isOther : other ∈ fields) {draft next : Draft} {s left : List UInt8}
    (read : field.read draft s = .ok (next, left)) :
    other.isSet next = (other.isSet draft || other.name == field.name) := by
  simp only [fields, List.mem_cons, List.not_mem_nil, or_false] at isField
  rcases isField with rfl | rfl | rfl | rfl | rfl | rfl | rfl | rfl <;>
    obtain ⟨value, -, rfl⟩ := field_read_ok read
  all_goals
    simp only [fields, List.mem_cons, List.not_mem_nil, or_false] at isOther
    rcases isOther with rfl | rfl | rfl | rfl | rfl | rfl | rfl | rfl <;> simp [Draft.field]

theorem readsWhole_read {α : Type} {name : String} {get : Draft → Option α}
    {put : Draft → α → Draft} {reader : Reader α} (whole : ReadsWhole reader) (draft : Draft) :
    ReadsWhole ((Draft.field name get put reader).read draft) :=
  whole.of_ok fun _ _ _ read => (field_read_ok read).imp fun _ => And.left

theorem readsWhole_payloadReader : ReadsWhole payloadReader := by
  refine (readsWhole_optional readsWhole_text).of_ok fun s bytes left read => ?_
  obtain ⟨⟨encoded, behind⟩, taken, decoded⟩ := exists_of_bind read
  simp only at decoded
  split at decoded <;> cases decoded
  exact ⟨encoded, taken⟩

theorem readsWhole_errorCodeReader : ReadsWhole errorCodeReader := by
  refine ReadsWhole.of_ok (readsWhole_integer (-2147483648) 2147483647) fun s code left read => ?_
  obtain ⟨⟨n, behind⟩, taken, same⟩ := exists_of_bind read
  cases same
  exact ⟨n, taken⟩

theorem readsWhole_queryParamsReader : ReadsWhole queryParamsReader := by
  refine (readsWhole_dictionary readsWhole_text).of_ok fun s params left read => ?_
  obtain ⟨⟨pairs, behind⟩, taken, same⟩ := exists_of_bind read
  cases same
  exact ⟨pairs, taken⟩

/-- No field reads past its value. -/
theorem readsWhole_field {field : RecordField Draft} (isField : field ∈ fields) (draft : Draft) :
    ReadsWhole (field.read draft) := by
  simp only [fields, List.mem_cons, List.not_mem_nil, or_false] at isField
  rcases isField with rfl | rfl | rfl | rfl | rfl | rfl | rfl | rfl
  · exact readsWhole_read readsWhole_text draft
  · exact readsWhole_read readsWhole_text draft
  · exact readsWhole_read readsWhole_text draft
  · exact readsWhole_read readsWhole_text draft
  · exact readsWhole_read readsWhole_errorCodeReader draft
  · exact readsWhole_read readsWhole_payloadReader draft
  · exact readsWhole_read readsWhole_text draft
  · exact readsWhole_read readsWhole_queryParamsReader draft

/-- **A member sets the field of its name, and no other.** -/
theorem isSet_of_recordMember {other : RecordField Draft} (isOther : other ∈ fields) {name : String}
    {draft next : Draft} {s left : List UInt8}
    (read : recordMember fields draft name s = .ok (next, left)) :
    other.isSet next = (other.isSet draft || other.name == name) := by
  unfold recordMember at read
  split at read
  · rename_i unknown
    obtain ⟨behind, -, read⟩ := exists_of_bind read
    obtain ⟨part, -, same⟩ := exists_of_bind read
    cases same
    have different : (other.name == name) = false :=
      Bool.not_eq_true _ ▸ List.find?_eq_none.mp unknown other isOther
    rw [different, Bool.or_false]
  · rename_i field found
    have named := List.find?_some found
    simp only [beq_iff_eq] at named
    obtain ⟨-, read⟩ := of_guard read
    obtain ⟨behind, -, read⟩ := exists_of_bind read
    rw [isSet_of_read (List.mem_of_find?_eq_some found) isOther read, named]

/-- Along members, each field is set whose name was there, and stays set. -/
theorem isSet_of_walks {other : RecordField Draft} (isOther : other ∈ fields)
    {members : List Member} {draft last : Draft}
    (walks : Walks (recordMember fields) members draft last)
    (there : other.isSet draft = true ∨
      ∃ member ∈ members, Spells other.name member.name.text) : other.isSet last = true := by
  induction walks with
  | nil draft =>
    rcases there with set | ⟨member, inside, -⟩
    · exact set
    · cases inside
  | @cons name member members draft next last s left named taken further ih =>
    have after := isSet_of_recordMember isOther taken
    rcases there with set | ⟨which, inside, spelled⟩
    · exact ih (.inl (by rw [after, set, Bool.true_or]))
    · rcases List.mem_cons.mp inside with rfl | behind
      · exact ih (.inl (by rw [after, named _ spelled, beq_self_eq_true, Bool.or_true]))
      · exact ih (.inr ⟨which, behind, spelled⟩)

/-! ### Repeated members -/

/-- A field that is set is not read again. -/
theorem recordMember_repeated {name : String} (isKnown : name ∈ memberNames) {draft : Draft}
    (set : ∀ field ∈ fields, field.name = name → field.isSet draft = true) (s : List UInt8) :
    recordMember fields draft name s = .error .mismatched := by
  obtain ⟨known, isField, same⟩ := List.mem_map.mp isKnown
  unfold recordMember
  cases found : fields.find? (fun field => field.name == name) with
  | none => exact absurd (beq_iff_eq.mpr same) (List.find?_eq_none.mp found known isField)
  | some field =>
    have named := List.find?_some found
    simp only [beq_iff_eq] at named
    simp only [set field (List.mem_of_find?_eq_some found) named, if_true]

/-- Members are not read past a name that was there before. -/
theorem members_ne_ok {name : String} (isKnown : name ∈ memberNames) {parts : List Member}
    (formed : ∀ member ∈ parts, member.IsFormed)
    (there : ∃ member ∈ parts, Spells name member.name.text) {between again : List Char}
    (spaced : IsSpace between) (spelled : Spells name again) (rest : List UInt8) {rounds : Nat}
    {result : Draft × List UInt8} :
    members (recordMember fields) rounds true {} (Utf8.encode (joined true (parts.map Member.print))
      ++ 44 :: (Utf8.encode between ++ (Utf8.encode again ++ rest))) ≠ .ok result := by
  intro read
  have ends : Ends (44 :: (Utf8.encode between ++ (Utf8.encode again ++ rest))) := by
    rintro b ⟨⟩
    exact .inr (.inl rfl)
  obtain ⟨rounds, last, walks, repeated⟩ := walks_of_members formed
    (fun member inside => leaves_recordMember (fun _ => readsWhole_field) (formed member inside))
    ends read
  obtain ⟨member, inside, spelledBefore⟩ := there
  have later : (true && parts.isEmpty) = false := by
    rw [Bool.true_and, List.isEmpty_eq_false_iff]
    exact List.ne_nil_of_mem inside
  rw [later] at repeated
  cases rounds with
  | zero => cases repeated
  | succ rounds =>
    have set : ∀ field ∈ fields, field.name = name → field.isSet last = true := by
      rintro field isField rfl
      exact isSet_of_walks isField walks (.inr ⟨member, inside, spelledBefore⟩)
    rw [members_comma, skipGap_space spaced, skipGap_quoted spelled.isQuoted,
      memberKey_spelled spelled] at repeated
    obtain ⟨taken, refused, -⟩ := exists_of_bind
      (show (recordMember fields last name rest >>= _) = .ok result from repeated)
    rw [recordMember_repeated isKnown set] at refused
    cases refused

/-- **Nothing is decoded once the name of a member comes again**, whatever stands behind it. -/
theorem decode_repeated {name : String} (isKnown : name ∈ memberNames) {parts : List Member}
    (formed : ∀ member ∈ parts, member.IsFormed)
    (there : ∃ member ∈ parts, Spells name member.name.text)
    {before gap between again : List Char} (front : IsSpace before) (space : IsSpace gap)
    (spaced : IsSpace between) (spelled : Spells name again) (rest : List UInt8) :
    ∃ fault, decode (Utf8.encode (before ++ '{' :: (gap ++
      (commaJoined (parts.map Member.print) ++ ',' :: (between ++ again)))) ++ rest) =
        .error fault := by
  have bytes : Utf8.encode (before ++ '{' :: (gap ++
      (commaJoined (parts.map Member.print) ++ ',' :: (between ++ again)))) ++ rest =
      Utf8.encode before ++ 123 :: (Utf8.encode gap ++
        (Utf8.encode (joined true (parts.map Member.print)) ++
          44 :: (Utf8.encode between ++ (Utf8.encode again ++ rest)))) := by
    simp only [Utf8.encode_append, Utf8.encode_cons, List.append_assoc]
    rfl
  rw [bytes]
  cases decoded : decode (Utf8.encode before ++ 123 :: _) with
  | error fault => exact ⟨fault, rfl⟩
  | ok envelope =>
    obtain ⟨⟨value, left⟩, read, -⟩ := exists_of_bind decoded
    rw [reader, skipsGap_record, skipGap_space front, ← skipsGap_record, record_open] at read
    obtain ⟨result, body, -⟩ := exists_of_bind read
    rw [skipsGap_members, skipGap_space space, ← skipsGap_members] at body
    exact absurd body (members_ne_ok isKnown formed there spaced spelled rest)

/-! ### Both together -/

/-- **Members may be left out, moved and surrounded, but not repeated.** Whichever members of an
envelope an object holds, in whichever order and spelling, among whichever members of other names
and in whichever white space, it is decoded to the envelope with the other members empty. An object
in which one of the eight names comes again is refused, whatever stands behind the name. -/
theorem decode_of_members :
    (∀ (envelope : Envelope) (parts : List (String × Member)) (before gap after : List Char),
      IsSpace before → IsSpace gap → IsSpace after → (∀ part ∈ parts, envelope.Tells part) →
      ((parts.map Prod.fst).filter (· ∈ memberNames)).Nodup →
      decode (Utf8.encode (before ++ (printObject gap (parts.map Prod.snd) ++ after))) =
        .ok (envelope.keeping (parts.map Prod.fst))) ∧
    (∀ (name : String) (parts : List Member) (before gap between again : List Char)
      (rest : List UInt8), name ∈ memberNames → (∀ member ∈ parts, member.IsFormed) →
      (∃ member ∈ parts, Spells name member.name.text) → IsSpace before → IsSpace gap →
      IsSpace between → Spells name again →
      ∃ fault, decode (Utf8.encode (before ++ '{' :: (gap ++
        (commaJoined (parts.map Member.print) ++ ',' :: (between ++ again)))) ++ rest) =
          .error fault) :=
  ⟨fun _ _ _ _ _ front space back each once => decode_object front space back each once,
    fun _ _ _ _ _ _ rest isKnown formed there front space spaced spelled =>
      decode_repeated isKnown formed there front space spaced spelled rest⟩

/-- An escaped text behind a member of another name and a missing payload; then the same with the
payload given again. -/
theorem decode_of_members_nested :
    let other : Member :=
      { name := { text := printString "x", after := [' '] }
        value := { before := ['\n'], text := printList [] [{ text := printObject [] [] },
          { text := ['-', '0', '.', '5', 'e', '+', '1'] }] } }
    let payload : Member :=
      { name := { text := printString "Payload" }, value := { text := ['n', 'u', 'l', 'l'] } }
    let correlationId : Member :=
      { name := { text := printString "CorrelationID" }
        value := { text := ['"', '\\', 'u', '0', '0', 'f', 'C', '"'], after := ['\t'] } }
    decode (Utf8.encode ([' '] ++ (printObject ['\r', '\n'] [other, payload, correlationId] ++
        ['\n']))) =
      .ok { apiVersion := "", correlationId := "ü", contentType := "" } ∧
    ∃ fault, decode (Utf8.encode ([] ++ '{' :: ([] ++ (commaJoined
      ([other, payload].map Member.print) ++ ',' :: ([' '] ++ printString "Payload")))) ++ [255]) =
        .error fault := by
  intro other payload correlationId
  have number : IsValue ['-', '0', '.', '5', 'e', '+', '1'] :=
    .number (@IsNumber.number ['-'] ['0'] ['.', '5'] ['e', '+', '1'] (.inr rfl) (.inl rfl)
      (.digits ⟨by decide, by simp⟩)
      (@IsExponent.digits 'e' ['+'] ['1'] (.inl rfl) (.inr (.inl rfl)) ⟨by decide, by simp⟩))
  have nothing : ∀ {α : Type} {p : α → Prop}, ∀ part ∈ ([] : List α), p part :=
    List.forall_mem_nil _
  have list : IsValue (printList [] [{ text := printObject [] [] },
      { text := ['-', '0', '.', '5', 'e', '+', '1'] }]) := by
    refine .list .nil ?_ ?_
    · simp only [List.forall_mem_cons]
      exact ⟨⟨.nil, .nil⟩, ⟨.nil, .nil⟩, nothing⟩
    · simp only [List.forall_mem_cons]
      exact ⟨.object .nil nothing nothing nothing, number, nothing⟩
  have escaped : Spells "ü" ['"', '\\', 'u', '0', '0', 'f', 'C', '"'] := by
    have code : IsCode 252 ['0', '0', 'f', 'C'] :=
      @IsCode.digits 0 0 15 12 '0' '0' 'f' 'C' ⟨by decide, .inl (by decide)⟩
        ⟨by decide, .inl (by decide)⟩ ⟨by decide, .inl (by decide)⟩ ⟨by decide, .inr (by decide)⟩
    exact ⟨[['\\', 'u', '0', '0', 'f', 'C']], .cons (.code code) .nil, rfl⟩
  have spacedOther : other.IsSpaced := ⟨⟨.nil, by decide⟩, ⟨by decide, .nil⟩⟩
  have spacedPayload : payload.IsSpaced := ⟨⟨.nil, .nil⟩, ⟨.nil, .nil⟩⟩
  have kept : { correlationId := "ü", errorCode := 7 : Envelope }.keeping
      ["x", "Payload", "CorrelationID"] =
      { apiVersion := "", correlationId := "ü", contentType := "" } := by
    simp [keeping]
  rw [← kept]
  refine ⟨decode_of_members.1 { correlationId := "ü", errorCode := 7 }
      [("x", other), ("Payload", payload), ("CorrelationID", correlationId)] _ _ _
      (by decide) (by decide) (by decide) ?_ (by decide),
    decode_of_members.2 "Payload" [other, payload] [] [] [' '] (printString "Payload") [255]
      (by decide) ?_ ⟨payload, by simp, spells_printString "Payload"⟩ .nil .nil (by decide)
      (spells_printString "Payload")⟩
  · simp only [List.forall_mem_cons]
    exact ⟨⟨spacedOther, spells_printString "x", .other (by decide) list⟩,
      ⟨spacedPayload, spells_printString "Payload", .null rfl⟩,
      ⟨⟨⟨.nil, .nil⟩, ⟨.nil, by decide⟩⟩, spells_printString "CorrelationID",
        .correlationId escaped⟩, nothing⟩
  · simp only [List.forall_mem_cons]
    exact ⟨⟨spacedOther, (spells_printString "x").isQuoted, list⟩,
      ⟨spacedPayload, (spells_printString "Payload").isQuoted, .word (by decide)⟩, nothing⟩

end MessageBus.Envelope

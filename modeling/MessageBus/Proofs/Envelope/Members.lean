/-
**The members of an envelope**, in whichever order and spelling they come.

* `Fits`, `Tells` — the texts that stand for a member of an envelope, white space and unknown
  members included.
* `keeping`, `holding` — an envelope of which some members are known, and its draft.
* `reads_member` — **one member more is known** after each of them; `reads_known` — so for a field,
  whichever it is.
* `reads_object` — the envelope of the members that are there comes back.
-/

import MessageBus.Envelope.Json
import MessageBus.Proofs.Json.Whole
import MessageBus.Proofs.Text.Base64

namespace MessageBus.Envelope

open MessageBus.Json
open MessageBus.Text

variable {envelope : Envelope} {seen names : List String}

/-! ### Texts of members -/

/-- The names of the members of an envelope. -/
def memberNames : List String :=
  fields.map RecordField.name

/-- A member stands for a pair of texts. -/
structure IsPair (pair : String × String) (member : Member) : Prop where
  spaced : member.IsSpaced
  name : Spells pair.1 member.name.text
  value : Spells pair.2 member.value.text

/-- The texts that stand for the member of an envelope under a name. Under a name that no member
has, any value may stand. -/
inductive Fits (envelope : Envelope) : String → List Char → Prop
  | apiVersion {text : List Char} (spelled : Spells envelope.apiVersion text) :
      Fits envelope "ApiVersion" text
  | receivedTopic {text : List Char} (spelled : Spells envelope.receivedTopic text) :
      Fits envelope "ReceivedTopic" text
  | correlationId {text : List Char} (spelled : Spells envelope.correlationId text) :
      Fits envelope "CorrelationID" text
  | requestId {text : List Char} (spelled : Spells envelope.requestId text) :
      Fits envelope "RequestID" text
  | errorCode : Fits envelope "ErrorCode" (printInteger envelope.errorCode.toInt)
  | payload {text : List Char}
      (spelled : Spells (String.ofList (Base64.encode envelope.payload)) text) :
      Fits envelope "Payload" text
  /-- A payload of `null` is the empty one. -/
  | null (empty : envelope.payload = []) : Fits envelope "Payload" ['n', 'u', 'l', 'l']
  | contentType {text : List Char} (spelled : Spells envelope.contentType text) :
      Fits envelope "ContentType" text
  /-- Of several values for a key the last counts. -/
  | queryParams {gap : List Char} {pairs : List (String × String)} {members : List Member}
      (space : IsSpace gap) (each : List.Forall₂ IsPair pairs members)
      (same : StringMap.ofList pairs = envelope.queryParams) :
      Fits envelope "QueryParams" (printObject gap members)
  | other {name : String} {text : List Char} (unknown : name ∉ memberNames)
      (value : IsValue text) : Fits envelope name text

/-- A member, with the name that it spells, tells about an envelope. -/
structure Tells (envelope : Envelope) (part : String × Member) : Prop where
  spaced : part.2.IsSpaced
  name : Spells part.1 part.2.name.text
  value : Fits envelope part.1 part.2.value.text

/-! ### Readers -/

theorem skipsGap_payloadReader : SkipsGap payloadReader := fun s => by
  rw [payloadReader, payloadReader, skipsGap_optional text s]

theorem skipsGap_errorCodeReader : SkipsGap errorCodeReader := fun s => by
  rw [errorCodeReader, errorCodeReader, skipsGap_integer _ _ s]

theorem skipsGap_queryParamsReader : SkipsGap queryParamsReader := fun s => by
  rw [queryParamsReader, queryParamsReader, skipsGap_dictionary text s]

/-- Bytes come back from every spelling of their base64 text. -/
theorem reads_payload {payload : List UInt8} {written : List Char}
    (spelled : Spells (String.ofList (Base64.encode payload)) written) :
    Reads payloadReader written payload := by
  intro rest ends
  have read := reads_spelled spelled rest ends
  obtain ⟨pieces, each, rfl⟩ := spelled
  rw [encode_quoted] at read ⊢
  have some : Json.optional text (34 :: (Utf8.encode pieces.flatten ++ 34 :: rest)) =
      .ok (some (String.ofList (Base64.encode payload)), rest) := by
    rw [Json.optional, skipGap_cons rfl]
    simp only [show ¬ (34 : UInt8) = byte 'n' by decide, if_false, read, Except.map]
  unfold payloadReader
  rw [some]
  simp only [bind, Except.bind, Option.getD_some, String.toList_ofList, Base64.decode?_encode]
  rfl

/-- No payload is the empty one. -/
theorem reads_null : Reads payloadReader ['n', 'u', 'l', 'l'] [] :=
  fun _ _ => rfl

theorem reads_errorCode (code : Int32) :
    Reads errorCodeReader (printInteger code.toInt) code := by
  intro rest ends
  have least : -2147483648 ≤ code.toInt := code.le_toInt
  have most : code.toInt ≤ 2147483647 := by
    have := code.toInt_lt
    omega
  unfold errorCodeReader
  rw [printInteger, reads_integer least most (by decide) (by decide) rest ends]
  show Except.ok (Int32.ofInt code.toInt, rest) = _
  rw [Int32.ofInt_toInt]

/-- Query parameters come back from their pairs. -/
theorem reads_queryParams {gap : List Char} {pairs : List (String × String)}
    {members : List Member} (space : IsSpace gap) (each : List.Forall₂ IsPair pairs members) :
    Reads queryParamsReader (printObject gap members) (StringMap.ofList pairs) := by
  have standsFor : List.Forall₂ (Member.StandsFor text) pairs members :=
    each.imp fun _ _ isPair => ⟨isPair.spaced, isPair.name, reads_spelled isPair.value⟩
  intro rest ends
  unfold queryParamsReader
  rw [reads_dictionary skipsGap_text space standsFor rest ends]
  rfl

/-! ### Known members -/

/-- The envelope of which the members under some names are known; the others are empty. -/
def keeping (envelope : Envelope) (names : List String) : Envelope where
  apiVersion := if "ApiVersion" ∈ names then envelope.apiVersion else ""
  receivedTopic := if "ReceivedTopic" ∈ names then envelope.receivedTopic else ""
  correlationId := if "CorrelationID" ∈ names then envelope.correlationId else ""
  requestId := if "RequestID" ∈ names then envelope.requestId else ""
  errorCode := if "ErrorCode" ∈ names then envelope.errorCode else 0
  payload := if "Payload" ∈ names then envelope.payload else []
  contentType := if "ContentType" ∈ names then envelope.contentType else ""
  queryParams := if "QueryParams" ∈ names then envelope.queryParams else StringMap.empty

/-- A value, if its name is among those that were read. -/
def known {α : Type} (names : List String) (name : String) (value : α) : Option α :=
  if name ∈ names then some value else none

theorem getD_known {α : Type} (names : List String) (name : String) (value default : α) :
    (known names name value).getD default = if name ∈ names then value else default := by
  unfold known
  split <;> rfl

/-- The draft of an envelope when the members under some names were read. -/
def holding (envelope : Envelope) (names : List String) : Draft where
  apiVersion := known names "ApiVersion" envelope.apiVersion
  receivedTopic := known names "ReceivedTopic" envelope.receivedTopic
  correlationId := known names "CorrelationID" envelope.correlationId
  requestId := known names "RequestID" envelope.requestId
  errorCode := known names "ErrorCode" envelope.errorCode
  payload := known names "Payload" envelope.payload
  contentType := known names "ContentType" envelope.contentType
  queryParams := known names "QueryParams" envelope.queryParams

theorem toEnvelope_holding (envelope : Envelope) (names : List String) :
    (envelope.holding names).toEnvelope = envelope.keeping names := by
  simp only [Draft.toEnvelope, holding, keeping, getD_known]

/-- An unknown name adds nothing. -/
theorem holding_append_unknown {name : String} (unknown : name ∉ memberNames) :
    envelope.holding (seen ++ [name]) = envelope.holding seen := by
  have other : ∀ known ∈ memberNames, (known ∈ seen ++ [name] ↔ known ∈ seen) := by
    intro known inside
    have different : known ≠ name := fun same => unknown (same ▸ inside)
    simp [different]
  simp only [memberNames, fields, List.map_cons, List.map_nil, List.forall_mem_cons, Draft.field]
    at other
  simp only [holding, known, other]

/-- A member whose field is known by its name, and was not read before, is read into it. -/
theorem reads_known {α : Type} {name : String} {get : Draft → Option α}
    {put : Draft → α → Draft} {reader : Reader α} {value : α} {member : Member}
    {draft next : Draft}
    (found : fields.find? (fun field => field.name == name) =
      some (Draft.field name get put reader))
    (unset : get draft = none) (taken : put draft value = next) (spaced : member.IsSpaced)
    (skips : SkipsGap reader) (reads : Reads reader member.value.text value) :
    Reads (recordMember fields draft name) member.behindName next := by
  refine recordMember_of_read found ?_ spaced fun rest ends => ?_
  · show (get draft).isSome = false
    rw [unset, Option.isSome_none]
  · show (reader _ >>= _) = _
    rw [reads.behind_space skips spaced.value.before rest ends]
    show Except.ok (put draft value, rest) = _
    rw [taken]

/-- **After each member one more is known.** -/
theorem reads_member {part : String × Member} (tells : envelope.Tells part)
    (fresh : part.1 ∈ memberNames → part.1 ∉ seen) :
    Reads (recordMember fields (envelope.holding seen) part.1) part.2.behindName
      (envelope.holding (seen ++ [part.1])) := by
  obtain ⟨name, member⟩ := part
  obtain ⟨spaced, -, fits⟩ := tells
  simp only at spaced fits fresh ⊢
  generalize written : member.value.text = text at fits
  cases fits with
  | apiVersion spelled | receivedTopic spelled | correlationId spelled | requestId spelled
  | contentType spelled =>
    exact reads_known rfl (if_neg (fresh (by decide))) (by simp [holding, known]) spaced
      skipsGap_text (written ▸ reads_spelled spelled)
  | errorCode =>
    exact reads_known rfl (if_neg (fresh (by decide))) (by simp [holding, known]) spaced
      skipsGap_errorCodeReader (written ▸ reads_errorCode envelope.errorCode)
  | payload spelled =>
    exact reads_known rfl (if_neg (fresh (by decide))) (by simp [holding, known]) spaced
      skipsGap_payloadReader (written ▸ reads_payload spelled)
  | null empty =>
    exact reads_known rfl (if_neg (fresh (by decide))) (by simp [holding, known, empty]) spaced
      skipsGap_payloadReader (written ▸ reads_null)
  | queryParams space each same =>
    exact reads_known rfl (if_neg (fresh (by decide))) (by simp [holding, known, same]) spaced
      skipsGap_queryParamsReader (written ▸ reads_queryParams space each)
  | other unknown value =>
    have absent : fields.find? (fun field => field.name == name) = none := by
      rw [List.find?_eq_none]
      intro field inside same
      exact unknown (List.mem_map.mpr ⟨field, inside, beq_iff_eq.mp same⟩)
    rw [holding_append_unknown unknown]
    exact recordMember_unknown absent spaced (written ▸ value) _

/-- **Members one after another are known in the end**, if none of the eight comes twice. -/
theorem folds_members {parts : List (String × Member)} (each : ∀ part ∈ parts, envelope.Tells part)
    (once : ((parts.map Prod.fst).filter (· ∈ memberNames)).Nodup)
    (fresh : ∀ part ∈ parts, part.1 ∈ memberNames → part.1 ∉ seen) :
    Folds (recordMember fields) parts (envelope.holding seen)
      (envelope.holding (seen ++ parts.map Prod.fst)) := by
  induction parts generalizing seen with
  | nil =>
    rw [List.map_nil, List.append_nil]
    exact .nil _
  | cons part parts ih =>
    obtain ⟨tells, others⟩ := List.forall_mem_cons.mp each
    obtain ⟨unseen, further⟩ := List.forall_mem_cons.mp fresh
    rw [List.map_cons, List.filter_cons] at once
    have apart : part.1 ∈ memberNames → part.1 ∉ parts.map Prod.fst := by
      intro isKnown
      rw [if_pos (decide_eq_true isKnown)] at once
      exact fun inside => (List.nodup_cons.mp once).1
        (List.mem_filter.mpr ⟨inside, decide_eq_true isKnown⟩)
    have onceMore : ((parts.map Prod.fst).filter (· ∈ memberNames)).Nodup := by
      split at once
      · exact (List.nodup_cons.mp once).2
      · exact once
    have stillFresh : ∀ other ∈ parts, other.1 ∈ memberNames → other.1 ∉ seen ++ [part.1] := by
      intro other inside isKnown member
      rcases List.mem_append.mp member with before | same
      · exact further other inside isKnown before
      · rw [List.mem_singleton] at same
        exact apart (same ▸ isKnown) (List.mem_map.mpr ⟨other, inside, same⟩)
    have rest := ih others onceMore stillFresh
    rw [List.append_assoc] at rest
    exact .cons tells.spaced tells.name (reads_member tells unseen) rest

/-- **An envelope is read from its members**, as far as they are there. -/
theorem reads_object {parts : List (String × Member)} {gap : List Char} (space : IsSpace gap)
    (each : ∀ part ∈ parts, envelope.Tells part)
    (once : ((parts.map Prod.fst).filter (· ∈ memberNames)).Nodup) :
    Reads reader (printObject gap (parts.map Prod.snd))
      (envelope.keeping (parts.map Prod.fst)) := by
  have folds : Folds (recordMember fields) parts (envelope.holding [])
      (envelope.holding (parts.map Prod.fst)) :=
    folds_members each once fun _ _ _ => List.not_mem_nil
  exact reads_record folds (congrArg some (toEnvelope_holding envelope _)) space

end MessageBus.Envelope

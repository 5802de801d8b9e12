/-
**The native format comes back.** An envelope in the headers and the body of a message.

* `get?_nativeHeaders` — what is written under each header: an empty text is left out, and reads as
  empty again.
* `ofWire_of_perm` — a message arrives as it was sent, in whatever order its headers come and
  whatever other headers come with them.
* `received` — the envelope with the topic of its subject and the content type that an empty one
  stands for.
* `unmarshalNative_of_code` — what is read depends on the texts under the six headers alone.
* `native_round_trip` — **every envelope comes back** from its message, directly and over the wire,
  and an envelope that was read once stays as it is from then on.
-/

import MessageBus.Nats.Message
import MessageBus.Proofs.StringMap
import MessageBus.Proofs.Text.Decimal
import MessageBus.Proofs.Text.Form
import Mathlib.Tactic.SplitIfs

namespace MessageBus.Nats

/-! ### What is written -/

/-- A text as a header value: an empty one is left out. -/
def headerValue (text : String) : Option String :=
  if text.isEmpty then none else some text

theorem getD_headerValue (text : String) : (headerValue text).getD "" = text := by
  unfold headerValue
  split
  · rename_i empty
    exact (String.isEmpty_iff.mp empty).symm
  · rfl

theorem filter_eq_headerValue (found : Option String) :
    found.filter (fun value => !value.isEmpty) = headerValue (found.getD "") := by
  cases found with
  | none => rfl
  | some value =>
    rw [Option.filter_some, Option.getD_some, headerValue]
    cases value.isEmpty <;> rfl

/-- The text of an envelope that belongs under a header; other headers have none. -/
def headerText (envelope : Envelope) (name : String) : String :=
  if name = headerQueryParams then Text.Form.encode envelope.queryParams.entries
  else if name = headerErrorCode then toString envelope.errorCode.toInt
  else if name = headerContentType then envelope.contentType
  else if name = headerCorrelationId then envelope.correlationId
  else if name = headerRequestId then envelope.requestId
  else if name = headerApiVersion then envelope.apiVersion
  else ""

theorem headerText_of_notMem {envelope : Envelope} {name : String} (other : name ∉ headerNames) :
    headerText envelope name = "" := by
  simp only [headerNames, List.mem_cons, List.not_mem_nil, or_false, not_or] at other
  obtain ⟨version, request, correlation, type, code, params⟩ := other
  rw [headerText, if_neg params, if_neg code, if_neg type, if_neg correlation, if_neg request,
    if_neg version]

/-- **What is written under each header.** -/
theorem get?_nativeHeaders (envelope : Envelope) (name : String) :
    (nativeHeaders envelope).get? name = headerValue (headerText envelope name) := by
  unfold nativeHeaders
  rw [StringMap.get?_filter, StringMap.get?_ofList, filter_eq_headerValue]
  congr 1
  unfold headerText
  by_cases bare : envelope.queryParams.isEmpty
  · -- No parameters have the empty form, so it makes no difference that their header is not put.
    have none : Text.Form.encode envelope.queryParams.entries = "" := by
      rw [List.isEmpty_iff.mp bare]
      rfl
    rw [if_pos bare, none]
    simp only [List.append_nil, List.reverse_cons, List.reverse_nil, List.nil_append,
      List.cons_append, Entries.lookup_cons, List.lookup_nil]
    by_cases query : name = headerQueryParams
    · subst query
      rfl
    · rw [if_neg query]
      split_ifs <;> rfl
  · rw [if_neg bare]
    simp only [List.reverse_cons, List.reverse_nil, List.nil_append, List.cons_append,
      Entries.lookup_cons, List.lookup_nil]
    split_ifs <;> rfl

/-! ### The wire -/

/-- A header list in any order, with other headers, has under a name what the message has. -/
theorem lookup_of_perm {headers extra : List (String × String)} {map : StringMap String}
    {name : String} (permuted : headers.Perm (map.entries ++ extra))
    (others : ∀ header ∈ extra, header.1 ≠ name) : headers.lookup name = map.get? name := by
  have member : ∀ value, (name, value) ∈ headers ↔ map.get? name = some value := by
    intro value
    rw [permuted.mem_iff, List.mem_append, StringMap.mem_entries_iff]
    exact or_iff_left fun inside => others _ inside rfl
  cases found : headers.lookup name with
  | some value => exact ((member value).mp (Entries.mem_of_lookup found)).symm
  | none =>
    cases there : map.get? name with
    | none => rfl
    | some value =>
      have absent := List.lookup_eq_none_iff.mp found _ ((member value).mpr there)
      simp at absent

/-- **A message arrives as it was sent**, whatever other headers come with its own. -/
theorem ofWire_of_perm {message : Message} {headers extra : List (String × String)}
    (known : ∀ name, name ∉ headerNames → message.headers.get? name = none)
    (others : ∀ header ∈ extra, header.1 ∉ headerNames)
    (permuted : headers.Perm (message.wireHeaders ++ extra)) (reply : Option String) :
    Message.ofWire message.subject reply headers message.payload = { message with reply } := by
  have kept : StringMap.ofList (headerNames.filterMap fun name =>
      (headers.lookup name).map fun value => (name, value)) = message.headers := by
    refine StringMap.ext_get? fun name => ?_
    rw [StringMap.get?_ofList, ← List.filterMap_reverse, Entries.lookup_filterMap]
    split
    · rename_i member
      have asked : name ∈ headerNames := List.mem_reverse.mp member
      exact lookup_of_perm permuted fun header inside same => others header inside (same ▸ asked)
    · rename_i missing
      exact (known name fun member => missing (List.mem_reverse.mpr member)).symm
  rw [Message.ofWire, kept]

/-! ### What is read -/

/-- The text under a header; a missing header reads as an empty one. -/
def Message.text (message : Message) (name : String) : String :=
  (message.headers.get? name).getD ""

/-- The envelope of the texts under the headers of a message. -/
def Message.envelope (message : Message) (code : Int32) : Envelope where
  apiVersion := message.text headerApiVersion
  correlationId := message.text headerCorrelationId
  requestId := message.text headerRequestId
  errorCode := code
  payload := message.payload
  contentType := message.text headerContentType
  queryParams := StringMap.ofList (Text.Form.decode (message.text headerQueryParams))

/-- The envelope as a receiver of the native format sees it on a subject. -/
def received (envelope : Envelope) (subject : String) : Envelope :=
  { envelope with
    receivedTopic := subjectToTopic subject
    contentType :=
      if envelope.contentType.isEmpty then ContentType.json.name else envelope.contentType }

theorem received_received (envelope : Envelope) (subject : String) :
    received (received envelope subject) subject = received envelope subject := by
  have filled : ¬ (received envelope subject).contentType.isEmpty = true := by
    show ¬ (if envelope.contentType.isEmpty then ContentType.json.name
      else envelope.contentType).isEmpty = true
    split
    · decide
    · assumption
  rw [received, if_neg filled]
  rfl

/-- **What is read** depends on the texts under the six headers, the body and the subject alone. -/
theorem unmarshalNative_of_code {message : Message} {code : Int32}
    (read : nativeErrorCode message = .ok code) :
    unmarshalNative message = .ok (received (message.envelope code) message.subject) := by
  unfold unmarshalNative received Message.envelope Message.text
  rw [read]
  cases message.headers.get? headerQueryParams <;> rfl

/-- The error code comes back from its header. -/
theorem nativeErrorCode_of_toString {message : Message} {code : Int32}
    (written : message.headers.get? headerErrorCode = some (toString code.toInt)) :
    nativeErrorCode message = .ok code := by
  have least : -((2147483647 : Nat) + 1 : Int) ≤ code.toInt := code.le_toInt
  have most : code.toInt ≤ (2147483647 : Nat) := by
    have := code.toInt_lt
    omega
  rw [nativeErrorCode, written]
  simp only [Text.trimChars_toString, Text.integer_toString least most, Int32.ofInt_toInt]

/-- A message with the headers and the body of an envelope is read to the envelope. -/
theorem unmarshalNative_of_headers {message : Message} {envelope : Envelope}
    (headers : message.headers = nativeHeaders envelope)
    (payload : message.payload = envelope.payload) :
    unmarshalNative message = .ok (received envelope message.subject) := by
  have written : ∀ name, message.headers.get? name = headerValue (headerText envelope name) :=
    fun name => headers ▸ get?_nativeHeaders envelope name
  have text : ∀ name, message.text name = headerText envelope name := fun name => by
    rw [Message.text, written, getD_headerValue]
  have code : message.headers.get? headerErrorCode = some (toString envelope.errorCode.toInt) :=
    (written headerErrorCode).trans (if_neg (ne_true_of_eq_false (Text.isEmpty_toString _)))
  have same : received (message.envelope envelope.errorCode) message.subject =
      received envelope message.subject := by
    unfold Message.envelope received
    simp only [text, payload]
    show Envelope.mk _ _ _ _ _ _ _ (StringMap.ofList (Text.Form.decode
      (Text.Form.encode envelope.queryParams.entries))) = _
    rw [Text.Form.decode_encode, StringMap.ofList_entries]
    rfl
  rw [unmarshalNative_of_code (nativeErrorCode_of_toString code), same]

/-- **Every envelope comes back** from its message in the native format, with the topic of its
subject and with the content type that an empty one stands for. It does so over the wire too, in
whatever order its headers arrive and whatever other headers arrive with them. An envelope that was
read once comes back as it is. -/
theorem native_round_trip :
    (∀ envelope subject,
      unmarshal .native (marshal .native envelope subject) = .ok (received envelope subject)) ∧
    (∀ envelope subject reply headers extra, (∀ header ∈ extra, header.1 ∉ headerNames) →
      headers.Perm ((marshal .native envelope subject).wireHeaders ++ extra) →
      unmarshal .native (Message.ofWire (marshal .native envelope subject).subject reply headers
        (marshal .native envelope subject).payload) = .ok (received envelope subject)) ∧
    (∀ message envelope, unmarshal .native message = .ok envelope →
      unmarshal .native (marshal .native envelope message.subject) = .ok envelope) := by
  have back : ∀ envelope subject,
      unmarshal .native (marshal .native envelope subject) = .ok (received envelope subject) :=
    fun envelope subject => unmarshalNative_of_headers rfl rfl
  refine ⟨back, fun envelope subject reply headers extra others permuted => ?_,
    fun message envelope read => ?_⟩
  · have known : ∀ name, name ∉ headerNames → (nativeHeaders envelope).get? name = none := by
      intro name other
      rw [get?_nativeHeaders, headerText_of_notMem other]
      rfl
    rw [ofWire_of_perm known others permuted]
    exact unmarshalNative_of_headers rfl rfl
  · change unmarshalNative message = .ok envelope at read
    cases code : nativeErrorCode message with
    | error fault =>
      unfold unmarshalNative at read
      rw [code] at read
      cases read
    | ok value =>
      rw [unmarshalNative_of_code code] at read
      cases read
      rw [back, received_received]

/-- An envelope with the least error code, no content type and parameters that need escapes. -/
def awkwardEnvelope : Envelope where
  apiVersion := ""
  receivedTopic := "elsewhere"
  correlationId := "grüße"
  requestId := "a=b&c"
  errorCode := -2147483648
  payload := [0, 255]
  contentType := ""
  queryParams := StringMap.ofList [("", "50% & more"), ("k=ü", "")]

/-- A message from elsewhere, with blanks around its error code and no content type. -/
def foreignMessage : Message where
  subject := "raw.subject"
  headers := StringMap.ofList [(headerErrorCode, " 7 ")]
  payload := [9]

/-- The awkward envelope comes back over the wire behind two other headers, and the envelope of the
foreign message comes back as it is. -/
theorem native_round_trip_awkward :
    unmarshal .native (Message.ofWire "over.wire" (some "inbox")
      ([("Nats-Msg-Id", "7"), ("apiversion", "v0")] ++
        (marshal .native awkwardEnvelope "over.wire").wireHeaders) [0, 255]) =
      .ok (received awkwardEnvelope "over.wire") ∧
    unmarshal .native (marshal .native
      { apiVersion := "", receivedTopic := "raw/subject", errorCode := 7, payload := [9] }
      "raw.subject") =
      .ok { apiVersion := "", receivedTopic := "raw/subject", errorCode := 7, payload := [9] } := by
  obtain ⟨-, wire, again⟩ := native_round_trip
  refine ⟨wire awkwardEnvelope "over.wire" (some "inbox") _
    [("Nats-Msg-Id", "7"), ("apiversion", "v0")] ?_ List.perm_append_comm, ?_⟩
  · decide
  · exact again foreignMessage _ rfl

end MessageBus.Nats

/-
**Envelopes come back from JSON text**, on both backends.

* `tells_members` — what is written for an envelope tells its members, without any white space.
* `reads_print` — an envelope comes back from its text, whatever stands behind it.
* `subjectToTopic_topicToSubject` — a topic without the characters of subjects comes back.
* `json_round_trip` — **every envelope comes back** from its JSON text; over either backend it gets
  the topic that it arrived on, and the backends agree on topics without characters of subjects.
-/

import MessageBus.Mqtt.EventLoop
import MessageBus.Nats.Message
import MessageBus.Proofs.Envelope.Members
import MessageBus.Proofs.StringMap
import MessageBus.Proofs.Topic.Translation

namespace MessageBus

open Json
open Text

namespace Envelope

/-! ### Written members -/

/-- A member without white space. -/
def compact (name : String) (value : List Char) : Member where
  name := { text := printString name }
  value := { text := value }

theorem print_compact (name : String) (value : List Char) :
    (compact name value).print = printMember name value := by
  simp [compact, Member.print, Padded.print, printMember]

theorem spaced_compact (name : String) (value : List Char) : (compact name value).IsSpaced :=
  ⟨⟨.nil, .nil⟩, ⟨.nil, .nil⟩⟩

theorem printQueryParams_eq (params : StringMap String) :
    printQueryParams params =
      printObject [] (params.entries.map fun entry => compact entry.1 (printString entry.2)) := by
  rw [printQueryParams, printObject, List.map_map, List.nil_append]
  congr 4
  funext entry
  exact (print_compact _ _).symm

theorem fits_queryParams (envelope : Envelope) :
    Fits envelope "QueryParams" (printQueryParams envelope.queryParams) := by
  rw [printQueryParams_eq]
  refine .queryParams .nil ?_ (StringMap.ofList_entries envelope.queryParams)
  rw [List.forall₂_map_right_iff]
  exact List.forall₂_same.mpr fun entry _ =>
    ⟨spaced_compact _ _, spells_printString entry.1, spells_printString entry.2⟩

theorem fits_payload (envelope : Envelope) :
    Fits envelope "Payload" ('"' :: (Base64.encode envelope.payload ++ ['"'])) :=
  .payload (spells_of_plain (Base64.forall_mem_encode (by decide) (by decide) envelope.payload))

/-! ### Envelopes -/

/-- The names of the members that are written, with the texts of their values. -/
def parts (envelope : Envelope) : List (String × List Char) :=
  [ ("ApiVersion", printString envelope.apiVersion),
    ("ReceivedTopic", printString envelope.receivedTopic),
    ("CorrelationID", printString envelope.correlationId),
    ("RequestID", printString envelope.requestId),
    ("ErrorCode", printInteger envelope.errorCode.toInt),
    ("Payload", '"' :: (Base64.encode envelope.payload ++ ['"'])),
    ("ContentType", printString envelope.contentType) ] ++
  if envelope.queryParams.isEmpty then []
  else [("QueryParams", printQueryParams envelope.queryParams)]

/-- The members that are written. -/
def members (envelope : Envelope) : List (String × Member) :=
  envelope.parts.map fun part => (part.1, compact part.1 part.2)

theorem print_eq (envelope : Envelope) :
    envelope.print = printObject [] (envelope.members.map Prod.snd) := by
  have written : printedMembers envelope =
      (envelope.members.map Prod.snd).map Member.print := by
    simp only [members, List.map_map, Function.comp_def, print_compact]
    rw [parts, printedMembers]
    cases envelope.queryParams.isEmpty <;> rfl
  rw [print, written]
  rfl

/-- **What is written for an envelope tells its members.** -/
theorem tells_members (envelope : Envelope) :
    ∀ part ∈ envelope.members, envelope.Tells part := by
  have fits : ∀ part ∈ envelope.parts, Fits envelope part.1 part.2 := by
    have params : ∀ part ∈ (if envelope.queryParams.isEmpty then []
        else [("QueryParams", printQueryParams envelope.queryParams)]),
        Fits envelope part.1 part.2 := by
      split
      · exact nofun
      · exact List.forall_mem_singleton.mpr (fits_queryParams envelope)
    have text := spells_printString
    exact List.forall_mem_append.mpr ⟨List.forall_mem_cons.mpr ⟨.apiVersion (text _),
      List.forall_mem_cons.mpr ⟨.receivedTopic (text _),
      List.forall_mem_cons.mpr ⟨.correlationId (text _),
      List.forall_mem_cons.mpr ⟨.requestId (text _),
      List.forall_mem_cons.mpr ⟨.errorCode,
      List.forall_mem_cons.mpr ⟨fits_payload envelope,
      List.forall_mem_singleton.mpr (.contentType (text _))⟩⟩⟩⟩⟩⟩, params⟩
  intro part inside
  obtain ⟨written, member, rfl⟩ := List.mem_map.mp inside
  exact ⟨spaced_compact _ _, spells_printString _, fits written member⟩

/-- Each name is written once, and nothing is left out but query parameters when there are none. -/
theorem names_members (envelope : Envelope) :
    ((envelope.members.map Prod.fst).filter (· ∈ memberNames)).Nodup ∧
      envelope.keeping (envelope.members.map Prod.fst) = envelope := by
  have names : envelope.members.map Prod.fst = ["ApiVersion", "ReceivedTopic", "CorrelationID",
      "RequestID", "ErrorCode", "Payload", "ContentType"] ++
        if envelope.queryParams.isEmpty then [] else ["QueryParams"] := by
    rw [members, List.map_map, parts]
    cases envelope.queryParams.isEmpty <;> rfl
  rw [names]
  cases none : envelope.queryParams.isEmpty with
  | true =>
    refine ⟨by decide, ?_⟩
    simp [keeping, ← StringMap.eq_empty_of_isEmpty none]
  | false => exact ⟨by decide, by simp [keeping]⟩

/-- **An envelope comes back from its text**, whatever stands behind it. -/
theorem reads_print (envelope : Envelope) : Reads reader envelope.print envelope := by
  obtain ⟨once, same⟩ := names_members envelope
  have read := reads_object .nil (tells_members envelope) once
  rwa [← print_eq, same] at read

/-- The bytes of the text are the text as bytes. -/
theorem bytes_encode (envelope : Envelope) : Utf8.bytes envelope.encode = envelope.encodeBytes := by
  rw [Utf8.bytes, encode, String.toList_ofList, encodeBytes]

theorem decode_encodeBytes (envelope : Envelope) :
    decode envelope.encodeBytes = .ok envelope := by
  have read := reads_print envelope [] nofun
  rw [List.append_nil] at read
  rw [decode, readAll, encodeBytes, read]
  rfl

end Envelope

/-! ### Both backends -/

/-- A topic without the characters of subjects comes back from its subject. -/
theorem subjectToTopic_topicToSubject {topic : String}
    (free : ∀ c ∈ topic.toList, c ≠ '.' ∧ c ≠ '*' ∧ c ≠ '>') :
    subjectToTopic (topicToSubject topic) = topic :=
  subjectToTopic_topicToSubject_iff.mpr free

/-- **Every envelope comes back from its JSON text.** Over NATS it gets the topic of the subject
that it was sent on, over MQTT the topic that it arrived on; for a topic without the characters of
subjects, the two are the same envelope. -/
theorem json_round_trip :
    (∀ envelope : Envelope, Envelope.decode (Utf8.bytes envelope.encode) = .ok envelope) ∧
    (∀ (envelope : Envelope) subject,
      Nats.unmarshal .json (Nats.marshal .json envelope subject) =
        .ok { envelope with receivedTopic := subjectToTopic subject }) ∧
    (∀ (envelope : Envelope) topic,
      Mqtt.EventLoop.receivedEnvelope topic (Utf8.bytes envelope.encode) false =
        .ok { envelope with receivedTopic := topic }) ∧
    (∀ (envelope : Envelope) topic, (∀ c ∈ topic.toList, c ≠ '.' ∧ c ≠ '*' ∧ c ≠ '>') →
      Nats.unmarshal .json (Nats.marshal .json envelope (topicToSubject topic)) =
        Mqtt.EventLoop.receivedEnvelope topic (Utf8.bytes envelope.encode) false) := by
  have nats : ∀ (envelope : Envelope) subject,
      Nats.unmarshal .json (Nats.marshal .json envelope subject) =
        .ok { envelope with receivedTopic := subjectToTopic subject } := by
    intro envelope subject
    show Nats.unmarshalJson (Nats.marshal .json envelope subject) = _
    rw [Nats.unmarshalJson, show (Nats.marshal .json envelope subject).payload =
      envelope.encodeBytes from rfl, Envelope.decode_encodeBytes]
    rfl
  have mqtt : ∀ (envelope : Envelope) topic,
      Mqtt.EventLoop.receivedEnvelope topic (Utf8.bytes envelope.encode) false =
        .ok { envelope with receivedTopic := topic } := by
    intro envelope topic
    unfold Mqtt.EventLoop.receivedEnvelope
    rw [Envelope.bytes_encode, Envelope.decode_encodeBytes]
    rfl
  refine ⟨fun envelope => ?_, nats, mqtt, fun envelope topic free => ?_⟩
  · rw [Envelope.bytes_encode, Envelope.decode_encodeBytes]
  · rw [nats, mqtt, subjectToTopic_topicToSubject free]

/-- An envelope with quotes, escapes, the least error code and no parameters comes to the same over
both backends. -/
theorem json_round_trip_quoted :
    let envelope : Envelope :=
      { correlationId := "\"\\\n\u0001ü😀", errorCode := -2147483648, payload := [0, 255] }
    Nats.unmarshal .json (Nats.marshal .json envelope (topicToSubject "site/+/#")) =
        Mqtt.EventLoop.receivedEnvelope "site/+/#" (Utf8.bytes envelope.encode) false :=
  json_round_trip.2.2.2 _ _ (by simp)

end MessageBus

/-
**Envelopes as JSON text.** An object of eight members, the payload in base64.

* `encode` — the compact text, members in their fixed order; the query parameters are left out
  when there are none.
* `decode` — reads an envelope back. Absent members take their empty value, unknown ones are passed
  over, a payload of `null` is empty, and a list of the members in order is taken for the object.
-/

import MessageBus.Envelope
import MessageBus.Json.Value
import MessageBus.Text.Base64

namespace MessageBus.Envelope

open MessageBus.Json
open MessageBus.Text

/-- The members of an envelope as far as they were read. -/
structure Draft where
  apiVersion : Option String := none
  receivedTopic : Option String := none
  correlationId : Option String := none
  requestId : Option String := none
  errorCode : Option Int32 := none
  payload : Option (List UInt8) := none
  contentType : Option String := none
  queryParams : Option (StringMap String) := none

/-- The envelope of a draft; members that were not read are empty. -/
def Draft.toEnvelope (draft : Draft) : Envelope :=
  { apiVersion := draft.apiVersion.getD ""
    receivedTopic := draft.receivedTopic.getD ""
    correlationId := draft.correlationId.getD ""
    requestId := draft.requestId.getD ""
    errorCode := draft.errorCode.getD 0
    payload := draft.payload.getD []
    contentType := draft.contentType.getD ""
    queryParams := draft.queryParams.getD StringMap.empty }

/-- A payload: a text in base64, or `null` for the empty one. -/
def payloadReader : Reader (List UInt8) := fun s => do
  let (encoded, rest) ← optional text s
  match Base64.decode? ((encoded.getD "").toList) with
  | some bytes => return (bytes, rest)
  | none => .error .mismatched

/-- An error code of 32 bits. -/
def errorCodeReader : Reader Int32 := fun s => do
  let (code, rest) ← integer (-2147483648) 2147483647 s
  return (Int32.ofInt code, rest)

/-- Query parameters; the last of several values for a key counts. -/
def queryParamsReader : Reader (StringMap String) := fun s => do
  let (pairs, rest) ← dictionary text s
  return (StringMap.ofList pairs, rest)

/-- A member that `reader` reads and `put` writes into the draft. -/
def Draft.field {α : Type} (name : String) (get : Draft → Option α) (put : Draft → α → Draft)
    (reader : Reader α) : RecordField Draft :=
  { name
    isSet := fun draft => (get draft).isSome
    read := fun draft s => do
      let (value, rest) ← reader s
      return (put draft value, rest) }

/-- The members of an envelope, in their order. -/
def fields : List (RecordField Draft) :=
  [ Draft.field "ApiVersion" (·.apiVersion) (fun d v => { d with apiVersion := some v }) text,
    Draft.field "ReceivedTopic" (·.receivedTopic)
      (fun d v => { d with receivedTopic := some v }) text,
    Draft.field "CorrelationID" (·.correlationId)
      (fun d v => { d with correlationId := some v }) text,
    Draft.field "RequestID" (·.requestId) (fun d v => { d with requestId := some v }) text,
    Draft.field "ErrorCode" (·.errorCode) (fun d v => { d with errorCode := some v })
      errorCodeReader,
    Draft.field "Payload" (·.payload) (fun d v => { d with payload := some v }) payloadReader,
    Draft.field "ContentType" (·.contentType) (fun d v => { d with contentType := some v }) text,
    Draft.field "QueryParams" (·.queryParams) (fun d v => { d with queryParams := some v })
      queryParamsReader ]

/-- Reads an envelope off the front. -/
def reader : Reader Envelope :=
  record fields {} fun draft => some draft.toEnvelope

/-- The envelope that a whole text holds. -/
def decode (bytes : List UInt8) : Except Fault Envelope :=
  readAll reader bytes

/-- A member as text. -/
def printMember (name : String) (value : List Char) : List Char :=
  printString name ++ ':' :: value

/-- An integer as text. -/
def printInteger (n : Int) : List Char :=
  (toString n).toList

/-- Query parameters as an object. -/
def printQueryParams (params : StringMap String) : List Char :=
  let member := fun (entry : String × String) => printMember entry.1 (printString entry.2)
  '{' :: (commaJoined (params.entries.map member) ++ ['}'])

/-- The members that the text of an envelope holds, in their order. -/
def printedMembers (envelope : Envelope) : List (List Char) :=
  [ printMember "ApiVersion" (printString envelope.apiVersion),
    printMember "ReceivedTopic" (printString envelope.receivedTopic),
    printMember "CorrelationID" (printString envelope.correlationId),
    printMember "RequestID" (printString envelope.requestId),
    printMember "ErrorCode" (printInteger envelope.errorCode.toInt),
    printMember "Payload" ('"' :: (Base64.encode envelope.payload ++ ['"'])),
    printMember "ContentType" (printString envelope.contentType) ] ++
  if envelope.queryParams.isEmpty then []
  else [printMember "QueryParams" (printQueryParams envelope.queryParams)]

/-- The text of an envelope, as characters. -/
def print (envelope : Envelope) : List Char :=
  '{' :: (commaJoined (printedMembers envelope) ++ ['}'])

/-- The text of an envelope. -/
def encode (envelope : Envelope) : String :=
  String.ofList envelope.print

/-- The bytes of the text of an envelope. -/
def encodeBytes (envelope : Envelope) : List UInt8 :=
  Utf8.encode envelope.print

end MessageBus.Envelope

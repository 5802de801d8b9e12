/-
**NATS messages.** A message as the client sees it, and how envelopes travel in it.

* `Message` — subject, reply address, headers and body.
* `headerNames` — the headers that the native format writes and reads.
* `Message.ofWire` — the client's view of a message on the wire: of its headers, the known names,
  the first value of each.
* `marshal`, `unmarshal` — an envelope as a message of either format, and back.
-/

import MessageBus.Envelope.Json
import MessageBus.Nats.WireFormat
import MessageBus.Subject
import MessageBus.Text.Form
import MessageBus.Text.Integer

namespace MessageBus.Nats

/-- A message as the client sees it. -/
structure Message where
  /-- The subject. -/
  subject : String
  /-- The address for the acknowledgement or the answer. -/
  reply : Option String := none
  /-- The headers. -/
  headers : StringMap String := StringMap.empty
  /-- The body. -/
  payload : List UInt8 := []
  deriving DecidableEq, Inhabited

/-- The size that a limit is held against: the length of the body. -/
def Message.encodedLength (message : Message) : Nat :=
  message.payload.length

/-- The header of the envelope's version. -/
def headerApiVersion : String := "ApiVersion"

/-- The header of the request identifier. -/
def headerRequestId : String := "RequestID"

/-- The header of the correlation identifier. -/
def headerCorrelationId : String := "CorrelationID"

/-- The header of the payload's media type. -/
def headerContentType : String := "ContentType"

/-- The header of the error code. -/
def headerErrorCode : String := "ErrorCode"

/-- The header of the query parameters. -/
def headerQueryParams : String := "QueryParams"

/-- The headers that the native format writes and reads. -/
def headerNames : List String :=
  [ headerApiVersion, headerRequestId, headerCorrelationId, headerContentType, headerErrorCode,
    headerQueryParams ]

/-- The client's view of a message on the wire, whose header list may repeat names. -/
def Message.ofWire (subject : String) (reply : Option String)
    (headers : List (String × String)) (payload : List UInt8) : Message :=
  let known := headerNames.filterMap fun name =>
    (headers.lookup name).map fun value => (name, value)
  { subject, reply, payload, headers := StringMap.ofList known }

/-- The header list that a message is sent with. -/
def Message.wireHeaders (message : Message) : List (String × String) :=
  message.headers.entries

/-- The headers of an envelope in the native format; empty ones are left out. -/
def nativeHeaders (envelope : Envelope) : StringMap String :=
  let fixed :=
    [ (headerApiVersion, envelope.apiVersion),
      (headerRequestId, envelope.requestId),
      (headerCorrelationId, envelope.correlationId),
      (headerContentType, envelope.contentType),
      (headerErrorCode, toString envelope.errorCode.toInt) ]
  let params :=
    if envelope.queryParams.isEmpty then []
    else [(headerQueryParams, Text.Form.encode envelope.queryParams.entries)]
  (StringMap.ofList (fixed ++ params)).filter fun _ value => !value.isEmpty

/-- An envelope as a message on `subject`. -/
def marshal (format : WireFormat) (envelope : Envelope) (subject : String) : Message :=
  match format with
  | .json => { subject, payload := envelope.encodeBytes }
  | .native => { subject, payload := envelope.payload, headers := nativeHeaders envelope }

/-- The error code of a message in the native format. -/
def nativeErrorCode (message : Message) : BusResult Int32 :=
  match message.headers.get? headerErrorCode with
  | none => .ok 0
  | some raw => match Text.integer 2147483647 (Text.trimChars raw.toList) with
    | .ok code => .ok (Int32.ofInt code)
    | .error fault => .error (.deserialization
        ("invalid " ++ headerErrorCode ++ " header '" ++ raw ++ "' on '" ++ message.subject ++
          "': " ++ fault.message))

/-- The envelope of a message in the native format. -/
def unmarshalNative (message : Message) : BusResult Envelope := do
  let header := fun name => (message.headers.get? name).getD ""
  let errorCode ← nativeErrorCode message
  let queryParams := match message.headers.get? headerQueryParams with
    | some raw => StringMap.ofList (Text.Form.decode raw)
    | none => StringMap.empty
  let contentType := header headerContentType
  return {
    apiVersion := header headerApiVersion
    receivedTopic := subjectToTopic message.subject
    correlationId := header headerCorrelationId
    requestId := header headerRequestId
    errorCode
    payload := message.payload
    contentType := if contentType.isEmpty then ContentType.json.name else contentType
    queryParams }

/-- The envelope of a message in the JSON format. -/
def unmarshalJson (message : Message) : BusResult Envelope :=
  match Envelope.decode message.payload with
  | .ok envelope => .ok { envelope with receivedTopic := subjectToTopic message.subject }
  | .error fault => .error (.deserialization
      ("unable to decode JSON envelope from '" ++ message.subject ++ "': " ++ fault.message))

/-- The envelope that a message carries; its topic is the message's subject. -/
def unmarshal : WireFormat → Message → BusResult Envelope
  | .json => unmarshalJson
  | .native => unmarshalNative

end MessageBus.Nats

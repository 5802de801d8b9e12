/-
**Envelopes.** The one form in which every message travels, whatever the backend.

* `Envelope` — version, topics, identifiers, error code, payload, content type and query parameters.
* `Envelope.new`, `forRequest`, `forResponse`, `forError` — the envelopes of the four occasions.
* `payloadText`, `readPayload` — the payload as text, or as a JSON value of a type.
-/

import MessageBus.Error
import MessageBus.Json.Reader
import MessageBus.StringMap
import MessageBus.Text.Utf8

namespace MessageBus

/-- The version stamped on new envelopes. -/
def apiVersion : String := "v3"

/-- The error code of a responder that failed. -/
def failureCode : Int32 := 1

/-- The names of the payload types that envelopes are made with. -/
inductive ContentType
  | json
  | cbor
  | text
  | binary

/-- The media type of a payload type. -/
def ContentType.name : ContentType → String
  | .json => "application/json"
  | .cbor => "application/cbor"
  | .text => "text/plain"
  | .binary => "application/octet-stream"

/-- A message with everything that travels beside its payload. -/
structure Envelope where
  /-- The version of the envelope's form. -/
  apiVersion : String := MessageBus.apiVersion
  /-- The topic on which the message arrived; the receiving backend sets it. -/
  receivedTopic : String := ""
  /-- Ties together the messages of one exchange. -/
  correlationId : String := ""
  /-- Ties a response to its request. -/
  requestId : String := ""
  /-- Zero on success. -/
  errorCode : Int32 := 0
  /-- The body. -/
  payload : List UInt8 := []
  /-- The media type of the payload. -/
  contentType : String := ContentType.json.name
  /-- Flags that travel with the message and not in its topic. -/
  queryParams : StringMap String := StringMap.empty
  deriving DecidableEq, Inhabited

namespace Envelope

/-- An envelope without identifiers. -/
def new (payload : List UInt8) (contentType : String) : Envelope :=
  { payload, contentType }

/-- A request with fresh identifiers. -/
def forRequest (requestId correlationId : String) (payload : List UInt8) (contentType : String)
    (queryParams : StringMap String) : Envelope :=
  { new payload contentType with requestId, correlationId, queryParams }

/-- The response to a request, with the request's identifiers. -/
def forResponse (request : Envelope) (payload : List UInt8) (contentType : String) : Envelope :=
  { new payload contentType with
    requestId := request.requestId
    correlationId := request.correlationId }

/-- The response of a responder that failed. -/
def forError (request : Envelope) (message : String) : Envelope :=
  { forResponse request (Text.Utf8.bytes message) ContentType.text.name with
    errorCode := failureCode }

/-- The envelope with one more query parameter. -/
def withQueryParam (envelope : Envelope) (key value : String) : Envelope :=
  { envelope with queryParams := envelope.queryParams.insert key value }

/-- Whether the responder reported a failure. -/
def isError (envelope : Envelope) : Bool :=
  envelope.errorCode != 0

/-- The payload as text, malformed bytes replaced. -/
def payloadText (envelope : Envelope) : String :=
  Text.Utf8.text envelope.payload

/-- The payload as a JSON value of one type. -/
def readPayload {α : Type} (reader : Json.Reader α) (envelope : Envelope) : BusResult α :=
  match Json.readAll reader envelope.payload with
  | .ok value => .ok value
  | .error fault => .error (.deserialization fault.message)

end Envelope

end MessageBus

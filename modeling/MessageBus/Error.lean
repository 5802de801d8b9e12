/-
**Failures of bus operations.**

* `BusError` — what went wrong, one constructor for each cause.
* `kind`, `message` — the name of the cause, and the wording of the failure.
* `isTimeout`, `isTransport` — the two classes that callers ask about.
* `aggregate` — several failures as one: none is success and a single one stays as it is.
-/

namespace MessageBus

/-- What went wrong in a bus operation. -/
inductive BusError
  /-- A bad or missing address, an unknown backend or a bad option value. -/
  | configuration (text : String)
  /-- The broker session could not be opened. -/
  | connection (text : String)
  /-- The client already holds a session, or held one before. -/
  | alreadyConnected
  /-- The client holds no session. -/
  | notConnected
  /-- A named operation failed. -/
  | operation (name text : String)
  /-- The connection failed while something waited on it. -/
  | transport (text : String)
  /-- No reply arrived on a topic before the deadline. -/
  | timeout (topic : String)
  /-- Several failures of one call. -/
  | aggregate (errors : List BusError)
  /-- The backend does not offer the operation. -/
  | unsupported (text : String)
  /-- The backend is known but not registered. -/
  | notEnabled (name : String)
  /-- The bus is switched off. -/
  | disabled
  /-- A message is larger than the caller allows. -/
  | payloadTooLarge (size limit : Nat)
  /-- An envelope could not be written. -/
  | serialization (text : String)
  /-- A message could not be read. -/
  | deserialization (text : String)
  deriving Inhabited

/-- The outcome of a bus operation. -/
abbrev BusResult (α : Type) := Except BusError α

namespace BusError

/-- The name of the cause. -/
def kind : BusError → String
  | configuration _ => "Configuration"
  | connection _ => "Connection"
  | alreadyConnected => "AlreadyConnected"
  | notConnected => "NotConnected"
  | operation _ _ => "Operation"
  | transport _ => "Transport"
  | timeout _ => "Timeout"
  | aggregate _ => "Aggregate"
  | unsupported _ => "Unsupported"
  | notEnabled _ => "NotEnabled"
  | disabled => "Disabled"
  | payloadTooLarge _ _ => "PayloadTooLarge"
  | serialization _ => "Serialization"
  | deserialization _ => "Deserialization"

mutual

/-- The wording of a failure. -/
def message : BusError → String
  | configuration text => "Configuration error: " ++ text
  | connection text => "Connection error: " ++ text
  | alreadyConnected => "Client is already connected"
  | notConnected => "Client is not connected"
  | operation name text => name ++ " failed: " ++ text
  | transport text => "Transport error: " ++ text
  | timeout topic => "Timed out waiting for response on topic '" ++ topic ++ "'"
  | aggregate errors => toString errors.length ++ " errors occurred:" ++ bracketed errors
  | unsupported text => "Unsupported operation: " ++ text
  | notEnabled name => "Message bus type '" ++ name ++ "' is not enabled"
  | disabled => "Message bus is disabled"
  | payloadTooLarge size limit =>
    "Payload of " ++ toString size ++ " bytes exceeds the limit of " ++ toString limit ++ " bytes"
  | serialization text => "Serialization error: " ++ text
  | deserialization text => "Deserialization error: " ++ text

/-- The wordings of several failures, each in brackets. -/
def bracketed : List BusError → String
  | [] => ""
  | error :: rest => " [" ++ message error ++ "]" ++ bracketed rest

end

/-- Whether a request ran past its deadline. -/
def isTimeout : BusError → Bool
  | timeout _ => true
  | _ => false

/-- Whether the failure came from the broker connection and not from the caller. -/
def isTransport : BusError → Bool
  | transport _ | connection _ | operation _ _ => true
  | _ => false

/-- Several failures as one outcome. -/
def collect : List BusError → BusResult Unit
  | [] => .ok ()
  | [error] => .error error
  | errors => .error (aggregate errors)

end BusError

end MessageBus

/-
**Device commands.** Reading and writing device commands by requests to the command service.

* `CommandConfig` — the base topic, the response topics, the timeout, and whether names are escaped.
* `commandTopic`, `queryTopic`, `responsePrefix` — where requests go and replies come.
* `getCommand`, `setCommand`, `deviceCommands`, `allCommands` — the operations. Flags travel as
  query parameters. A reply with an error code is the service's refusal, whatever its payload.
-/

import MessageBus.Client
import MessageBus.Config.Duration
import MessageBus.Json.Value

namespace MessageBus

/-- Topics and timing of a command client. -/
structure CommandConfig where
  /-- The topic that all others start with. -/
  baseTopic : String := "cim"
  /-- The topic that replies come under; derived from the base when empty. -/
  responseTopicPrefix : String := ""
  /-- How long a reply may take. -/
  timeout : Duration := .seconds 10
  /-- Whether device and command names are escaped in topics. -/
  escapeNames : Bool := false
  deriving DecidableEq, Inhabited

/-- The direction of a device command. -/
inductive CommandMethod
  | get
  | set
  deriving DecidableEq, Repr

/-- The topic level of a method. -/
def CommandMethod.name : CommandMethod → String
  | .get => "get"
  | .set => "set"

/-- Why a command failed. -/
inductive CommandError
  /-- The command service refused. -/
  | application (code : Int32) (text : String)
  /-- There was no reply. -/
  | bus (error : BusError)
  /-- The reply could not be read. -/
  | invalidResponse (text : String)
  /-- The settings could not be written. -/
  | invalidRequest (text : String)

/-- The wording of a command failure. -/
def CommandError.message : CommandError → String
  | .application code text =>
    "Command failed with code " ++ toString code.toInt ++ ": " ++ text
  | .bus error => "Message bus error: " ++ error.message
  | .invalidResponse text => "Invalid response payload: " ++ text
  | .invalidRequest text => "Invalid settings: " ++ text

/-- The outcome of a command. -/
abbrev CommandResult (α : Type) := Except CommandError α

/-- The topic level of the command service. -/
def coreCommand : String := "core-command"

namespace CommandConfig

/-- The topic that replies come under. -/
def responsePrefix (config : CommandConfig) : String :=
  if config.responseTopicPrefix.isEmpty then
    ((TopicBuilder.start config.baseTopic).segment "response").segment coreCommand |>.build
  else config.responseTopicPrefix

/-- The topic that requests go under. -/
def requestTopic (config : CommandConfig) : TopicBuilder :=
  (((TopicBuilder.start config.baseTopic).escapeNames config.escapeNames).segment
    coreCommand).segment "request"

/-- The topic of one device command. -/
def commandTopic (config : CommandConfig) (device command : String) (method : CommandMethod) :
    String :=
  ((config.requestTopic.escaped device).escaped command).segment method.name |>.build

/-- The topic for the commands of a device, or of all devices. -/
def queryTopic (config : CommandConfig) (device : Option String) : String :=
  let query := config.requestTopic.segment "query"
  match device with
  | some name => (query.escaped name).build
  | none => (query.segment "all").build

end CommandConfig

namespace Command

/-- What a command asks. -/
inductive Ask
  /-- A new identifier. -/
  | freshId
  /-- A reply to a request. -/
  | request (envelope : Envelope) (topic base : String) (timeout : Nat)

/-- The type of the answer to each question. -/
abbrev Ask.Answer : Ask → Type
  | .freshId => String
  | .request _ _ _ _ => BusResult Envelope

/-- The interface of commands. -/
abbrev interface : Interface := ⟨Ask, Ask.Answer⟩

/-- Asks one question. -/
def ask (question : Ask) : Dialogue interface question.Answer :=
  .ask (I := interface) question .done

/-- A request envelope with fresh identifiers. -/
def requestEnvelope (payload : List UInt8) : Dialogue interface Envelope := do
  let requestId ← ask .freshId
  let correlationId ← ask .freshId
  return .forRequest requestId correlationId payload ContentType.json.name StringMap.empty

/-- The outcome of a request as the outcome of a command. -/
def outcome : BusResult Envelope → CommandResult Envelope
  | .error error => .error (.bus error)
  | .ok response =>
    if response.isError then .error (.application response.errorCode response.payloadText)
    else .ok response

/-- Issues a request and waits for its reply. -/
def issue (config : CommandConfig) (envelope : Envelope) (topic : String) :
    Dialogue interface (CommandResult Envelope) := do
  let reply ← ask (.request envelope topic config.responsePrefix config.timeout.milliseconds)
  return outcome reply

/-- The JSON value of a reply. -/
def readReply (response : Envelope) : CommandResult Json.Value :=
  match Json.readAll Json.value response.payload with
  | .ok value => .ok value
  | .error fault => .error (.invalidResponse fault.message)

/-- The value of a reply that may be without a body. -/
def readEvent (response : Envelope) : CommandResult (Option Json.Value) :=
  if response.payload.isEmpty then .ok none else (readReply response).map some

/-- A flag as the text of a query parameter. -/
def flagText (value : Bool) : String :=
  if value then "true" else "false"

/-- Reads a device command; there is no value when the reply has no body. -/
def getCommand (config : CommandConfig) (device command : String)
    (pushEvent returnEvent : Bool) :
    Dialogue interface (CommandResult (Option Json.Value)) := do
  let envelope ← requestEnvelope []
  let envelope := (envelope.withQueryParam "ds-pushevent" (flagText pushEvent)).withQueryParam
    "ds-returnevent" (flagText returnEvent)
  let reply ← issue config envelope (config.commandTopic device command .get)
  return reply.bind readEvent

/-- Writes settings to a device command. The settings come with their text, or with the reason why
there is none. -/
def setCommand (config : CommandConfig) (device command : String)
    (settings : Except String (List UInt8)) : Dialogue interface (CommandResult Unit) := do
  match settings with
  | .error reason => return .error (.invalidRequest reason)
  | .ok payload =>
    let envelope ← requestEnvelope payload
    let reply ← issue config envelope (config.commandTopic device command .set)
    return reply.map fun _ => ()

/-- Lists the commands of a device. -/
def deviceCommands (config : CommandConfig) (device : String) :
    Dialogue interface (CommandResult Json.Value) := do
  let envelope ← requestEnvelope []
  let reply ← issue config envelope (config.queryTopic (some device))
  return reply.bind readReply

/-- Lists a page of the commands of all devices. -/
def allCommands (config : CommandConfig) (offset : UInt32) (limit : Int32) :
    Dialogue interface (CommandResult Json.Value) := do
  let envelope ← requestEnvelope []
  let envelope := (envelope.withQueryParam "offset" (toString offset.toNat)).withQueryParam
    "limit" (toString limit.toInt)
  let reply ← issue config envelope (config.queryTopic none)
  return reply.bind readReply

/-- Carries out what a command asks with a client. -/
def carryOut {backend : Interface} (client : MessageClient backend) :
    (question : Ask) → Dialogue backend.work question.Answer
  | .freshId => .ask (I := backend.work) (.inr .freshId) .done
  | .request envelope topic base timeout => client.request envelope topic base timeout

end Command

end MessageBus

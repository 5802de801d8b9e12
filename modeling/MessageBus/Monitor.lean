/-
**The monitor.** It subscribes topics and logs every envelope that arrives.

* `MonitorConfig.ofLookup` — the bus and the topics that a look-up of variables gives.
* `LogLine` — one line of the log; `Monitor.Failure` — why the monitor gives up, and its report.
* `Monitor.start`, `Monitor.Tally.see`, `Monitor.finish` — connecting and subscribing, one arrival,
  and the way out, each with the lines that it logs.
-/

import MessageBus.Config.Environment
import MessageBus.Client

namespace MessageBus

/-- How much a log line matters. -/
inductive LogLine.Level
  | info
  | warn
  | error
  deriving DecidableEq, Inhabited, Repr

/-- The name of a level. -/
def LogLine.Level.name : LogLine.Level → String
  | info => "INFO"
  | warn => "WARN"
  | error => "ERROR"

/-- One line of the log. -/
structure LogLine where
  /-- How much it matters. -/
  level : LogLine.Level
  /-- What it says. -/
  text : String
  /-- The fields behind the text, by name. -/
  fields : List (String × String) := []
  deriving DecidableEq, Inhabited, Repr

namespace LogLine

/-- A line for information. -/
def ofInfo (text : String) (fields : List (String × String) := []) : LogLine :=
  ⟨.info, text, fields⟩

/-- Whether a character can be part of a command to a terminal. -/
def isCommand (c : Char) : Bool :=
  c.toNat ∈ [0x07, 0x08, 0x0C, 0x1B, 0x7F] || (0x80 ≤ c.toNat && c.toNat ≤ 0x9F)

/-- One character of what a line says; those that could command a terminal are shown by their
codes. -/
def showChar (c : Char) : List Char :=
  if isCommand c then
    let digits := Nat.toDigits 16 c.toNat
    if c.toNat < 0x80 then ['\\', 'x'] ++ List.replicate (2 - digits.length) '0' ++ digits
    else ['\\', 'u', '\x7b'] ++ digits ++ ['\x7d']
  else [c]

/-- The text of a line; fields stand as they are. -/
def render (line : LogLine) : String :=
  line.level.name ++ " bus_monitor: " ++ String.ofList (line.text.toList.flatMap showChar) ++
    String.join (line.fields.map fun (name, value) => " " ++ name ++ "=" ++ value)

/-- The first line of what is written, without its end. Text that holds line ends goes on in lines
that do not look like those of the monitor. -/
def firstLine (line : LogLine) : String :=
  let first := line.render.toList.takeWhile (· ≠ '\n')
  String.ofList (if first.getLast? = some '\r' then first.dropLast else first)

end LogLine

/-- Why the monitor gives up. -/
inductive Monitor.Failure
  /-- For a reason of its own. -/
  | plain (text : String)
  /-- For the cause of a failed step. -/
  | because (step : String) (cause : BusError)
  deriving Inhabited

/-- The report of a failure; the lines of its cause are indented. -/
def Monitor.Failure.report : Monitor.Failure → String
  | plain text => "Error: " ++ text ++ "\n"
  | because step cause =>
    "Error: " ++ step ++ "\n\nCaused by:\n    " ++ cause.message.replace "\n" "\n    " ++ "\n"

/-- What the monitor watches. -/
structure MonitorConfig where
  /-- The bus. -/
  bus : BusConfig
  /-- The topics. -/
  topics : List String
  deriving DecidableEq, Inhabited

namespace MonitorConfig

/-- The topics in a list that is separated by commas; blank pieces name none. -/
def topicsOf (raw : String) : List String :=
  ((raw.toList.splitOn ',').map fun piece => String.ofList (Text.trimChars piece)).filter
    fun topic => !topic.isEmpty

/-- The configuration that a look-up of variables gives. -/
def ofLookup (lookup : String → Option String) : Except Monitor.Failure MonitorConfig :=
  match BusConfig.ofLookup lookup with
  | .error error => .error (.because "Invalid message bus configuration" error)
  | .ok bus =>
    let topics := topicsOf ((lookup "MESSAGEBUS_MONITOR_TOPICS").getD "#")
    if topics.isEmpty then .error (.plain "MESSAGEBUS_MONITOR_TOPICS names no topics")
    else .ok { bus, topics }

/-- The lines that show a configuration. -/
def lines (config : MonitorConfig) : List LogLine :=
  [ .ofInfo "📋 Configuration loaded:",
    .ofInfo ("  - Type: " ++ config.bus.busType),
    .ofInfo ("  - Broker: " ++ config.bus.broker.url),
    .ofInfo ("  - Topics: " ++ String.intercalate ", " config.topics) ]

end MonitorConfig

namespace Monitor

variable {backend : Interface}

/-- How many messages, and how many errors, fit into the monitor's queues. -/
def queueCapacity : Nat := 64

/-- The first line. -/
def greeting : LogLine :=
  .ofInfo "🚀 Starting message bus monitor"

/-- Subscribes the topics, all with the same queues. -/
def subscribe (client : MessageClient backend) (topics : List String) (queues : Queues) :
    Dialogue backend.work (List LogLine × Except Failure Queues) := do
  let channels := topics.map fun topic => { topic, messages := queues.messages : Channel }
  match ← client.subscribe channels queues.errors with
  | .error error => return ([], .error (.because "Failed to subscribe" error))
  | .ok () =>
    return ([.ofInfo ("🎧 Monitoring " ++ toString topics.length ++ " topic filter(s)")],
      .ok queues)

/-- Connects and subscribes the topics; the answer has the queues in which everything arrives. -/
def start (client : MessageClient backend) (topics : List String) :
    Dialogue backend.work (List LogLine × Except Failure Queues) := do
  match ← client.connect with
  | .error error => return ([], .error (.because "Failed to connect to message bus" error))
  | .ok () =>
    let queues : Queues ← .ask (I := backend.work) (.inr (.openQueues queueCapacity)) .done
    let (lines, outcome) ← subscribe client topics queues
    return (.ofInfo "✅ Connected to message bus" :: lines, outcome)

/-- What the monitor has seen. -/
structure Tally where
  /-- How many messages. -/
  messages : Nat := 0
  /-- How many errors. -/
  errors : Nat := 0
  deriving DecidableEq, Inhabited, Repr

/-- The line for a message. -/
def messageLine (envelope : Envelope) : LogLine :=
  .ofInfo "📨 Message"
    [ ("topic", envelope.receivedTopic),
      ("request_id", envelope.requestId),
      ("size", toString envelope.payload.length),
      ("content_type", envelope.contentType),
      ("error_code", toString envelope.errorCode.toInt) ]

/-- Sees a message. -/
def Tally.seeMessage (tally : Tally) (envelope : Envelope) : LogLine × Tally :=
  (messageLine envelope, { tally with messages := tally.messages + 1 })

/-- Sees an error. -/
def Tally.seeError (tally : Tally) (error : BusError) : LogLine × Tally :=
  let errors := tally.errors + 1
  (⟨.error, "❌ Bus error: " ++ error.message ++ " (total errors: " ++ toString errors ++ ")", []⟩,
    { tally with errors })

/-- The lines at the end of monitoring. -/
def Tally.lines (tally : Tally) : List LogLine :=
  [ .ofInfo "🛑 Shutdown requested",
    .ofInfo ("📊 Statistics: " ++ toString tally.messages ++ " messages received, " ++
      toString tally.errors ++ " errors") ]

/-- Ends the subscriptions and disconnects. -/
def finish (client : MessageClient backend) (topics : List String) :
    Dialogue backend.work (List LogLine × Except Failure Unit) := do
  let warnings := match ← client.unsubscribe topics with
    | .ok () => []
    | .error error => [⟨.warn, "⚠️ Failed to unsubscribe cleanly: " ++ error.message, []⟩]
  match ← client.disconnect with
  | .error error =>
    return (warnings, .error (.because "Failed to disconnect from message bus" error))
  | .ok () => return (warnings ++ [.ofInfo "👋 Disconnected"], .ok ())

end Monitor

end MessageBus

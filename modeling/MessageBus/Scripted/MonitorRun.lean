/-
**Runs of the monitor in memory.** From the variables to the report, against a broker in memory.

* `MonitorReport` — the log, the failure if there is one, and what has reached the broker.
* `MonitorRun.run` — a whole run: each message is sent after the monitor has logged the one before,
  and after the last one the monitor is told to end.
-/

import MessageBus.Factory
import MessageBus.Monitor
import MessageBus.Scripted.Folder
import MessageBus.Scripted.MqttBroker
import MessageBus.Scripted.NatsServer

namespace MessageBus

/-- What comes of a run of the monitor. -/
structure MonitorReport where
  /-- The log. -/
  log : List LogLine := []
  /-- Why the monitor gave up, if it did. -/
  failure : Option Monitor.Failure := none
  /-- What has reached the broker. -/
  events : List Mqtt.BrokerEvent := []

namespace MonitorReport

/-- The exit code of the monitor. -/
def exitCode (report : MonitorReport) : Nat :=
  if report.failure.isSome then 1 else 0

/-- What the monitor says about its failure. -/
def complaint (report : MonitorReport) : String :=
  (report.failure.map (·.report)).getD ""

/-- The report of a run that logged some lines before. -/
def after (lines : List LogLine) (report : MonitorReport) : MonitorReport :=
  { report with log := lines ++ report.log }

/-- The report of a failure. -/
def ofFailure (failure : Monitor.Failure) : MonitorReport :=
  { failure := some failure }

end MonitorReport

namespace MonitorRun

variable {backend I : Interface} {W : Type}

/-- The outcome of a part of the monitor's work that never ends. -/
def stuck {α : Type} : List LogLine × Except Monitor.Failure α :=
  ([], .error (.plain "nothing happens any more"))

/-- Plays a part of the monitor's work. -/
def part {α : Type} (setting : Setting backend I W)
    (activity : Dialogue backend.work (List LogLine × Except Monitor.Failure α)) (world : W) :
    (List LogLine × Except Monitor.Failure α) × W :=
  let (result, world) := setting.stage.playOne (setting.enact activity) world
  (result.getD stuck, world)

/-- Lets the monitor see all messages that have arrived. -/
def seeMessages : List Envelope → Monitor.Tally → List LogLine × Monitor.Tally
  | [], tally => ([], tally)
  | envelope :: rest, tally =>
    let (line, tally) := tally.seeMessage envelope
    let (lines, tally) := seeMessages rest tally
    (line :: lines, tally)

/-- Lets the monitor see all errors that have arrived. -/
def seeErrors : List BusError → Monitor.Tally → List LogLine × Monitor.Tally
  | [], tally => ([], tally)
  | error :: rest, tally =>
    let (line, tally) := tally.seeError error
    let (lines, tally) := seeErrors rest tally
    (line :: lines, tally)

/-- Lets the monitor see everything that has arrived. -/
def see (setting : Setting backend I W) (queues : Queues) (world : W) (tally : Monitor.Tally) :
    List LogLine × W × Monitor.Tally :=
  let place := setting.place world
  let messages := (place.messages[queues.messages]?.map Queue.items).getD []
  let errors := (place.errors[queues.errors]?.map Queue.items).getD []
  let (lines, tally) := seeMessages messages tally
  let (complaints, tally) := seeErrors errors tally
  let place := { place with
    messages := place.messages.modify queues.messages fun queue => queue.drain.2
    errors := place.errors.modify queues.errors fun queue => queue.drain.2 }
  (lines ++ complaints, setting.setPlace place world, tally)

/-- Sends messages one after the other; the monitor sees each before the next one is sent. -/
def watch (setting : Setting backend I W) (send : String × List UInt8 → W → W) (queues : Queues) :
    List (String × List UInt8) → W → Monitor.Tally → List LogLine × W × Monitor.Tally
  | [], world, tally => ([], world, tally)
  | message :: rest, world, tally =>
    let world := setting.stage.settle 1 (send message world)
    let (lines, world, tally) := see setting queues world tally
    let (more, world, tally) := watch setting send queues rest world tally
    (lines ++ more, world, tally)

/-- Runs the monitor with a client in its world. -/
def runIn (setting : Setting backend I W) (send : String × List UInt8 → W → W)
    (topics : List String) (messages : List (String × List UInt8)) (world : W) :
    MonitorReport × W :=
  match part setting (Monitor.start setting.client topics) world with
  | ((lines, .error failure), world) =>
    ((MonitorReport.ofFailure failure).after lines, world)
  | ((lines, .ok queues), world) =>
    let (seen, world, tally) := watch setting send queues messages world {}
    let lines := lines ++ seen ++ tally.lines
    match part setting (Monitor.finish setting.client topics) world with
    | ((last, .error failure), world) =>
      ((MonitorReport.ofFailure failure).after (lines ++ last), world)
    | ((last, .ok ()), world) => ({ log := lines ++ last }, world)

/-- Runs the monitor with an MQTT client. -/
def runMqtt (supply : Nat → String) (options : Mqtt.Options) (greeting : Mqtt.Greeting)
    (topics : List String) (messages : List (String × List UInt8)) : MonitorReport :=
  let broker : Mqtt.ScriptedBroker :=
    { options, files := Folder.read {}, greeting, place := { identifiers := 1 } }
  let send := fun (message : String × List UInt8) (broker : Mqtt.ScriptedBroker) =>
    broker.deliver message.1 message.2 .atMostOnce
  let (report, broker) := runIn (Mqtt.ScriptedBroker.setting supply) send topics messages broker
  { report with events := broker.events }

/-- Runs the monitor with a NATS client, for which there is no server. -/
def runNats (supply : Nat → String) (options : Nats.Options) (topics : List String) :
    MonitorReport :=
  let server : Nats.ScriptedServer Nat := { style := .core, options, absent := true }
  (runIn (Nats.ScriptedServer.core supply options) (fun _ server => server) topics [] server).1

/-- Runs the monitor with the client of a configuration. `greeting` is how the broker at an address
answers. -/
def runWith (supply : Nat → String) (greeting : BrokerAddress → Mqtt.Greeting)
    (config : MonitorConfig) (messages : List (String × List UInt8)) : MonitorReport :=
  match newMessageClient (supply 0) config.bus with
  | .error error => .ofFailure (.because "Failed to create message client" error)
  | .ok (.mqtt options) =>
    runMqtt supply options (greeting config.bus.broker) config.topics messages
  | .ok (.nats _ options) => runNats supply options config.topics
  | .ok .disabled => .ofFailure (.because "Failed to connect to message bus" .disabled)

/-- A whole run of the monitor. -/
def run (supply : Nat → String) (greeting : BrokerAddress → Mqtt.Greeting)
    (lookup : String → Option String) (messages : List (String × List UInt8)) : MonitorReport :=
  let report : MonitorReport := match MonitorConfig.ofLookup lookup with
    | .error failure => .ofFailure failure
    | .ok config => (runWith supply greeting config messages).after config.lines
  report.after [Monitor.greeting]

end MonitorRun

end MessageBus

/-
**The MQTT event loop.** It takes what the connection reports, and fills the queues of the routes.

* `Report` — what the connection reports.
* `EventLoop.Look` — what the loop looks up in the client's state; each look is one step.
* `EventLoop.receivedEnvelope` — the envelope of an arrived body, as a route wants it.
* `EventLoop.react` — what the loop does on a report, and whether it goes on: it ends with the leave
  that went out and with the loss of the connection, which it reports once to every route unless the
  client is closing.
-/

import MessageBus.Mqtt.Client

namespace MessageBus.Mqtt

/-- What the connection reports. -/
inductive Report
  /-- A message has arrived. -/
  | arrived (topic : String) (payload : List UInt8)
  /-- The leave has gone out. -/
  | left
  /-- Anything else has gone in or out. -/
  | other
  /-- The connection is lost, for a reason in its own words. -/
  | lost (reason : String)
  deriving DecidableEq, Inhabited

namespace EventLoop

/-- What the event loop looks up in the client's state. -/
inductive Look
  /-- The routes whose filters match a topic. -/
  | routesFor (topic : String)
  /-- The routes of all filters. -/
  | allRoutes
  /-- Whether the client wants to end. -/
  | closing

/-- The type of the answer to each look. -/
abbrev Look.Answer : Look → Type
  | routesFor _ => List Route
  | allRoutes => List Route
  | closing => Bool

/-- The interface of the looks. -/
abbrev looks : Interface := ⟨Look, Look.Answer⟩

/-- Looks something up. -/
def look (question : Look) : Dialogue looks.work question.Answer :=
  .ask (I := looks.work) (.inl question) .done

/-- Asks the place where the loop runs. -/
def task (question : Task.Ask) : Dialogue looks.work question.Answer :=
  .ask (I := looks.work) (.inr question) .done

/-- How long the loop waits before it connects again, in milliseconds. -/
def reconnectDelay : Nat := 1000

/-- The envelope of an arrived body: a raw body becomes an envelope of its own. -/
def receivedEnvelope (topic : String) (payload : List UInt8) (binary : Bool) :
    BusResult Envelope :=
  if binary then
    .ok { Envelope.new payload ContentType.binary.name with receivedTopic := topic }
  else match Envelope.decode payload with
    | .ok envelope => .ok { envelope with receivedTopic := topic }
    | .error fault => .error (.deserialization
        ("unable to decode envelope from '" ++ topic ++ "': " ++ fault.message))

/-- Hands an arrived body to one route. -/
def deliver (topic : String) (payload : List UInt8) (route : Route) :
    Dialogue looks.work Unit := do
  match receivedEnvelope topic payload route.binary with
  | .ok envelope => let _ ← task (.send route.messages envelope)
  | .error error => let _ ← task (.report route.errors error)

/-- Hands an arrived body to each of several routes. -/
def deliverAll (topic : String) (payload : List UInt8) :
    List Route → Dialogue looks.work Unit
  | [] => return ()
  | route :: rest => do
    deliver topic payload route
    deliverAll topic payload rest

/-- Hands an arrived body to every route whose filter matches its topic. -/
def dispatch (topic : String) (payload : List UInt8) : Dialogue looks.work Unit := do
  deliverAll topic payload (← look (.routesFor topic))

/-- Reports a loss to each of several routes. -/
def reportAll (reason : String) : List Route → Dialogue looks.work Unit
  | [] => return ()
  | route :: rest => do
    let _ ← task (.report route.errors (.transport reason))
    reportAll reason rest

/-- What the loop does when the connection is lost, and whether it goes on. -/
def lose (reconnect : Bool) (reason : String) : Dialogue looks.work Bool := do
  match ← look .closing, reconnect with
  | true, _ => return false
  | false, true =>
    let time ← task (.timeIn reconnectDelay)
    task (.sleepUntil time)
    return true
  | false, false =>
    reportAll reason (← look .allRoutes)
    return false

/-- What the loop does on a report, and whether it goes on. -/
def react (reconnect : Bool) : Report → Dialogue looks.work Bool
  | .arrived topic payload => do
    dispatch topic payload
    return true
  | .left => return false
  | .other => return true
  | .lost reason => lose reconnect reason

/-- What the loop does on a sequence of reports, and whether it goes on after them. -/
def run (reconnect : Bool) : List Report → Dialogue looks.work Bool
  | [] => return true
  | report :: rest => do
    if ← react reconnect report then run reconnect rest else return false

/-- What the looks find in a route table. -/
def Look.answer (routes : RouteTable) (isClosing : Bool) : (question : Look) → question.Answer
  | .routesFor topic =>
    (List.filter (fun entry : String × Route => topicMatches entry.1 topic) routes).map (·.2)
  | .allRoutes => List.map (fun entry : String × Route => entry.2) routes
  | .closing => isClosing

end EventLoop

end MessageBus.Mqtt

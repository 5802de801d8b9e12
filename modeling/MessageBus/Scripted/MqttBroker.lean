/-
**An MQTT broker in memory.** A broker that records what reaches it and sends what it is told to.

* `Greeting` — how the broker answers a client that connects.
* `Link` — the connection of a client: what its event loop has not yet seen, and how far it is.
* `ScriptedBroker` — the client, its link, the broker's rules for replies and what has reached it.
* `ScriptedBroker.answerCall` — carries out a call of the client.
* `ScriptedBroker.inject`, `close` — the broker sends a message, or closes the connection.
* `ScriptedBroker.setting` — the world of the broker with a client in it.
-/

import MessageBus.Mqtt.EventLoop
import MessageBus.Scripted.Background
import MessageBus.Scripted.Performance
import MessageBus.Scripted.Rule

namespace MessageBus.Mqtt

/-- What reaches the broker. -/
inductive BrokerEvent
  | connected (packet : ConnectPacket)
  | subscribed (filter : String) (qos : Qos)
  | unsubscribed (filter : String)
  | published (topic : String) (qos : Qos) (retained : Bool) (payload : List UInt8)
  | left
  deriving DecidableEq, Inhabited

/-- How the broker answers a client that connects. -/
inductive Greeting
  | accepts
  /-- It refuses the client, for a reason that the client knows. -/
  | refuses
  /-- It answers what no client understands. -/
  | unclear
  /-- It closes the connection. -/
  | closes
  /-- It says nothing. -/
  | silent
  /-- Nothing listens at its address. -/
  | absent
  deriving DecidableEq, Inhabited

/-- The connection of a client. -/
structure Link where
  /-- Whether the broker's end is open. -/
  isOpen : Bool := true
  /-- Whether the client wants to end. -/
  closing : Bool := false
  /-- What the event loop has not yet seen, oldest first. -/
  reports : List Report := []
  /-- What the event loop is busy with. -/
  busy : Option (Dialogue EventLoop.looks.work Bool) := none
  /-- Whether the event loop has ended. -/
  ended : Bool := false

/-- An MQTT broker in memory, with one client. -/
structure ScriptedBroker where
  /-- The settings of the client. -/
  options : Options
  /-- The files that the client can read. -/
  files : FileReader
  /-- How the broker answers a client that connects. -/
  greeting : Greeting := .accepts
  /-- The place where the client runs. -/
  place : Workplace := {}
  /-- The state of the client. -/
  client : Client.State := {}
  /-- The connection, once there was one. -/
  link : Option Link := none
  /-- The rules for replies; their addresses are topics. -/
  rules : List Rule := []
  /-- What has reached the broker, in order. -/
  events : List BrokerEvent := []

namespace ScriptedBroker

/-- What operations need: what the client talks to, and the start of a connection, which is answered
with the time until which an answer is awaited. -/
abbrev operating : Interface := Client.backend.work.sum ⟨Unit, fun _ => Option Nat⟩

/-- The most bytes that an arriving packet may have behind its fixed header. -/
def maxPacket : Nat := 10 * 1024

/-- Records what reaches the broker. -/
def record (broker : ScriptedBroker) (event : BrokerEvent) : ScriptedBroker :=
  { broker with events := broker.events ++ [event] }

/-- Changes the link, if there is one. -/
def onLink (broker : ScriptedBroker) (change : Link → Link) : ScriptedBroker :=
  { broker with link := broker.link.map change }

/-- Whether requests of the client are still taken. -/
def takesRequests (broker : ScriptedBroker) : Bool :=
  broker.link.any fun link => !link.ended

/-- Whether what the client sends reaches the broker. -/
def isOpen (broker : ScriptedBroker) : Bool :=
  broker.link.any (·.isOpen)

/-- Lets the event loop see a report. -/
def announce (report : Report) (broker : ScriptedBroker) : ScriptedBroker :=
  broker.onLink fun link => { link with reports := link.reports ++ [report] }

/-- The connection breaks. -/
def lose (broker : ScriptedBroker) : ScriptedBroker :=
  if broker.isOpen then
    (broker.onLink fun link => { link with isOpen := false }).announce (.lost linkWording)
  else broker

/-! ### Packets -/

/-- The length of a publish behind its fixed header; an acknowledged one has a number. -/
def publishLength (topic : String) (payload : List UInt8) (qos : Qos) : Nat :=
  2 + topic.utf8ByteSize + (if qos = .atMostOnce then 0 else 2) + payload.length

/-- Whether no wildcard occurs. -/
def isPlain (text : List Char) : Bool :=
  text.all fun c => c ≠ Topic.wildcardOne && c ≠ Topic.wildcardAll

/-! ### Calls -/

/-- Hands a message to the client; a packet that is too large breaks the connection. -/
def deliver (broker : ScriptedBroker) (topic : String) (payload : List UInt8) (qos : Qos) :
    ScriptedBroker :=
  if broker.isOpen then
    if publishLength topic payload qos ≤ maxPacket then broker.announce (.arrived topic payload)
    else broker.lose
  else broker

/-- The replies to a message that has reached the broker, with their topics. -/
def replies (topic : String) (payload : List UInt8) (broker : ScriptedBroker) :
    List (String × List UInt8) :=
  let id := bodyRequestId payload
  (broker.rules.filter (·.applies topic id)).flatMap fun rule =>
    List.replicate rule.times (Rule.fill id rule.address, rule.payload.getD payload)

/-- Sends the replies to a message that has reached the broker. -/
def reply (topic : String) (payload : List UInt8) (broker : ScriptedBroker) : ScriptedBroker :=
  (broker.replies topic payload).foldl
    (fun broker (topic, payload) => broker.deliver topic payload .atMostOnce) broker

/-- A message of the client is on its way to the broker. -/
def publish (topic : String) (payload : List UInt8) (broker : ScriptedBroker) : ScriptedBroker :=
  let qos := broker.options.qos
  if broker.isOpen then
    (broker.record (.published topic qos broker.options.retained payload)).reply topic payload
  else broker

/-- The outcome of a request of the client, and what becomes of the broker if it is taken. -/
def request (valid : Bool) (change : ScriptedBroker → ScriptedBroker) (broker : ScriptedBroker) :
    Except String Unit × ScriptedBroker :=
  if valid && broker.takesRequests then (.ok (), change broker) else (.error linkWording, broker)

/-- Records what reaches the broker, if it is reached. -/
def reach (event : BrokerEvent) (broker : ScriptedBroker) : ScriptedBroker :=
  if broker.isOpen then broker.record event else broker

/-- The client takes leave. -/
def leave (broker : ScriptedBroker) : ScriptedBroker :=
  if broker.isOpen then
    ((broker.record .left).onLink fun link => { link with isOpen := false }).announce .left
  else broker

/-- Whether the client leaves no time to connect. -/
def isHurried (broker : ScriptedBroker) : Bool :=
  broker.options.connectTimeout.milliseconds = 0

/-- The time until which a client that says nothing to the broker's silence waits. -/
def start (broker : ScriptedBroker) : Option Nat × ScriptedBroker :=
  match broker.options.toConnect broker.files with
  | .error _ => (none, broker)
  | .ok options =>
    if options.transport = .tcp && broker.greeting ≠ .absent && !broker.isHurried then
      let broker := broker.record (.connected options.packet)
      if broker.greeting = .silent then
        (some (broker.place.now + broker.options.connectTimeout.milliseconds), broker)
      else (none, broker)
    else (none, broker)

/-- The outcome of connecting. -/
def connected (broker : ScriptedBroker) : BusResult Nat × ScriptedBroker :=
  match broker.options.toConnect broker.files with
  | .error error => (.error error, broker)
  | .ok options =>
    if broker.isHurried then (.error (Client.connackTimeout broker.options), broker)
    else if options.transport ≠ .tcp then (.error (.connection ("I/O: " ++ linkWording)), broker)
    else match broker.greeting with
      | .accepts => (.ok 0, { broker with link := some {} })
      | .refuses => (.error (.connection linkWording), broker)
      | .unclear | .closes | .absent => (.error (.connection ("I/O: " ++ linkWording)), broker)
      | .silent => (.error (Client.connackTimeout broker.options), broker)

/-- Carries out a call of the client, unless it must wait. -/
def answerCall? : (c : Client.Call) → ScriptedBroker → Option (c.Answer × ScriptedBroker)
  | .openSession, broker => some broker.connected
  | .abandon _, broker => some ((), { broker with link := none })
  | .publish _ topic payload, broker =>
    some (broker.request (isPlain topic.toList) (publish topic payload))
  | .subscribe _ filter, broker =>
    some (broker.request true (reach (.subscribed filter broker.options.qos)))
  | .unsubscribe _ filter, broker => some (broker.request true (reach (.unsubscribed filter)))
  | .beginClosing _, broker => some ((), broker.onLink fun link => { link with closing := true })
  | .disconnect _, broker => some (broker.request true leave)
  | .awaitEventLoop _, broker => if broker.takesRequests then none else some ((), broker)

/-! ### The event loop -/

/-- Answers what the event loop asks, unless the answer must wait. -/
def answerLoop? (supply : Nat → String) :
    (question : EventLoop.looks.work.Ask) → ScriptedBroker →
      Option (EventLoop.looks.work.Answer question × ScriptedBroker)
  | .inl question, broker =>
    let closing := broker.link.any (·.closing)
    some (EventLoop.Look.answer broker.client.routes closing question, broker)
  | .inr question, broker => do
    let (answer, place) ← Workplace.answer? supply question broker.place
    return (answer, { broker with place })

/-- How far the event loop is after it has gone on. -/
def progress (activity : Dialogue EventLoop.looks.work Bool) (broker : ScriptedBroker) :
    ScriptedBroker :=
  broker.onLink fun link => match activity with
    | .done true => { link with busy := none }
    | .done false => { link with busy := none, ended := true, isOpen := false }
    | activity => { link with busy := some activity }

/-- Lets the event loop go on with what it is busy with, or see the next report. -/
def work? (supply : Nat → String) (broker : ScriptedBroker) : Option ScriptedBroker := do
  let link ← broker.link
  if link.ended then none
  else match link.busy, link.reports with
    | some activity, _ =>
      let (activity, broker) ← activity.goOn? (answerLoop? supply) broker
      return broker.progress activity
    | none, report :: rest =>
      let broker := broker.onLink fun link => { link with reports := rest }
      let (activity, broker) := (EventLoop.react broker.options.autoReconnect report).advance
        (answerLoop? supply) broker
      return broker.progress activity
    | none, [] => none

/-- When the event loop can go on at the latest. -/
def workDue? (broker : ScriptedBroker) : Option Nat := do
  let link ← broker.link
  let activity ← link.busy
  match ← activity.question? with
  | .inl _ => none
  | .inr question => question.due?

/-! ### The world -/

/-- Answers what an operation asks, unless the answer must wait. -/
def answer? (supply : Nat → String) :
    (question : operating.Ask) → ScriptedBroker →
      Option (operating.Answer question × ScriptedBroker)
  | .inl (.inl (.inl question)), broker =>
    let (answer, client) := Client.State.answer question broker.client
    some (answer, { broker with client })
  | .inl (.inl (.inr c)), broker => answerCall? c broker
  | .inl (.inr question), broker => do
    let (answer, place) ← Workplace.answer? supply question broker.place
    return (answer, { broker with place })
  | .inr (), broker => some broker.start

/-- The world in which operations are played. -/
def stage (supply : Nat → String) : Stage operating ScriptedBroker where
  answer? := answer? supply
  due?
    | .inl (.inr question) => question.due?
    | _ => none
  work? := work? supply
  workDue? := workDue?
  pieces := 1
  now broker := broker.place.now
  setTime time broker := { broker with place := { broker.place with now := time } }

/-- Waits for a time, if there is one to wait for. -/
def waitFor : Option Nat → Dialogue operating Unit
  | some time => .ask (I := operating) (.inl (.inr (.sleepUntil time))) .done
  | none => return ()

/-- Carries out what an operation asks: connecting begins, and waits for an answer. -/
def carryOut : (question : Client.backend.work.Ask) →
    Dialogue operating (Client.backend.work.Answer question)
  | .inl (.inr .openSession) => do
    waitFor (← .ask (I := operating) (.inr ()) .done)
    .ask (I := operating) (.inl (.inl (.inr .openSession))) .done
  | question => .ask (I := operating) (.inl question) .done

/-- The world of a broker with a client in it. -/
def setting (supply : Nat → String) : Setting Client.backend operating ScriptedBroker where
  client := Client.client
  stage := stage supply
  enact operation := operation.translate carryOut
  place broker := broker.place
  setPlace place broker := { broker with place }
  topics broker := List.map (fun entry : String × Route => entry.1) broker.client.routes

/-- The broker sends a message; the answer is whether there was a connection. A message that is to
be acknowledged must have a number other than zero, else the connection breaks. -/
def inject (topic : String) (payload : List UInt8) (qos : Qos) (number : Nat)
    (broker : ScriptedBroker) : Bool × ScriptedBroker :=
  (broker.isOpen,
    if qos ≠ .atMostOnce && number = 0 then broker.lose else broker.deliver topic payload qos)

end ScriptedBroker

end MessageBus.Mqtt

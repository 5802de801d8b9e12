/-
**The MQTT client.** Envelopes travel as JSON bodies; raw bodies can be sent and received too.

* `Route` — where the messages for one filter go.
* `Mqtt.Client.Section`, `Mqtt.Client.Call` — sections of the client's own state, each one step,
  and calls on the connection between them.
* `connect`, `publish`, `publishWithLimit`, `addRoutes`, `unsubscribe`, `disconnect` — the
  operations. A route is registered before its filter is subscribed, so that nothing is missed.
* `Mqtt.Client.State` — session and route table; `State.answer` is what the sections do.
-/

import MessageBus.Client
import MessageBus.Envelope.Json
import MessageBus.Mqtt.Options

namespace MessageBus.Mqtt

/-- Where the messages for one filter go. -/
structure Route where
  /-- The queue of messages. -/
  messages : Nat
  /-- The queue of errors. -/
  errors : Nat
  /-- Whether bodies are delivered as they are. -/
  binary : Bool
  deriving DecidableEq, Inhabited, Repr

/-- A table of routes, each filter once. -/
abbrev RouteTable := List (String × Route)

namespace RouteTable

/-- The table without a filter. -/
def without (table : RouteTable) (filter : String) : RouteTable :=
  List.filter (fun entry => entry.1 != filter) table

/-- The table with a route for a filter, in the place of an earlier one. -/
def put (table : RouteTable) (filter : String) (route : Route) : RouteTable :=
  without table filter ++ [(filter, route)]

end RouteTable

namespace Client

/-- A section of the client's own state. -/
inductive Section
  /-- Looks at the session. -/
  | session
  /-- Makes an opened connection the session, if the client is still idle. -/
  | install (connection : Nat)
  /-- Closes the session for good, if it is connected. -/
  | retire
  /-- Puts a route; the answer is the filter's earlier one. -/
  | putRoute (filter : String) (route : Route)
  /-- Takes a route out of the table. -/
  | takeRoute (filter : String)
  /-- Empties the table. -/
  | clearRoutes

/-- The type of the answer to each section. -/
abbrev Section.Answer : Section → Type
  | .session => Session
  | .install _ => Bool
  | .retire => Option Nat
  | .putRoute _ _ => Option Route
  | .takeRoute _ => Option Route
  | .clearRoutes => Unit

/-- The interface of the client's own state. -/
abbrev sections : Interface := ⟨Section, Section.Answer⟩

/-- What the client asks of its connection. -/
inductive Call
  /-- Opens a connection and waits until the broker accepts it. -/
  | openSession
  /-- Gives up a connection that came too late. -/
  | abandon (connection : Nat)
  /-- Sends a message. -/
  | publish (connection : Nat) (topic : String) (payload : List UInt8)
  /-- Subscribes a filter. -/
  | subscribe (connection : Nat) (filter : String)
  /-- Ends the subscription of a filter. -/
  | unsubscribe (connection : Nat) (filter : String)
  /-- Lets the event loop know that the end is wanted. -/
  | beginClosing (connection : Nat)
  /-- Takes leave of the broker. -/
  | disconnect (connection : Nat)
  /-- Waits for the event loop to end. -/
  | awaitEventLoop (connection : Nat)

/-- The type of the answer to each call; a refused request comes with the connection's words. -/
abbrev Call.Answer : Call → Type
  | .openSession => BusResult Nat
  | .abandon _ => Unit
  | .publish _ _ _ => Except String Unit
  | .subscribe _ _ => Except String Unit
  | .unsubscribe _ _ => Except String Unit
  | .beginClosing _ => Unit
  | .disconnect _ => Except String Unit
  | .awaitEventLoop _ => Unit

/-- The interface of the connection. -/
abbrev connection : Interface := ⟨Call, Call.Answer⟩

/-- What the client's operations talk to: its own state and its connection. -/
abbrev backend : Interface := sections.sum connection

/-- Enters a section. -/
def enter (question : Section) : Dialogue backend question.Answer :=
  .ask (I := backend) (.inl question) .done

/-- Calls the connection. -/
def call (c : Call) : Dialogue backend c.Answer :=
  .ask (I := backend) (.inr c) .done

/-- The failure of a connection whose broker does not answer in time. -/
def connackTimeout (options : Options) : BusError :=
  .connection ("timed out after " ++ options.connectTimeout.render ++
    " waiting for CONNACK from " ++ options.host ++ ":" ++ toString options.port.toNat)

/-- Opens the session. -/
def connect : Dialogue backend (BusResult Unit) := do
  match ← enter .session with
  | .idle => match ← call .openSession with
    | .error error => return .error error
    | .ok connection =>
      match ← enter (.install connection) with
      | true => return .ok ()
      | false =>
        call (.abandon connection)
        return .error .alreadyConnected
  | _ => return .error .alreadyConnected

/-- Goes on with the connection of the session, if there is one. -/
def withConnection (next : Nat → Dialogue backend (BusResult Unit)) :
    Dialogue backend (BusResult Unit) := do
  match ← enter .session with
  | .connected connection => next connection
  | _ => return .error .notConnected

/-- Publishes a body of at most a limit. -/
def publishBytes (payload : List UInt8) (topic : String) (limitKb : Nat) :
    Dialogue backend (BusResult Unit) :=
  withConnection fun connection => do
    if topic.isEmpty then return .error (.operation "publish" "topic is empty")
    else match checkLimit payload.length limitKb with
      | .error error => return .error error
      | .ok () => match ← call (.publish connection topic payload) with
        | .ok () => return .ok ()
        | .error text => return .error (.operation "publish" text)

/-- Publishes an envelope as a body of at most a limit. -/
def publishWithLimit (envelope : Envelope) (topic : String) (limitKb : Nat) :
    Dialogue backend (BusResult Unit) :=
  publishBytes envelope.encodeBytes topic limitKb

/-- Publishes an envelope. -/
def publish (envelope : Envelope) (topic : String) : Dialogue backend (BusResult Unit) :=
  publishWithLimit envelope topic 0

/-- The failure of a client call on one topic. -/
def topicFailure (operation topic text : String) : BusError :=
  .operation operation ("topic '" ++ topic ++ "': " ++ text)

/-- Puts back what a filter had before a failed subscription. -/
def undoRoute (filter : String) : Option Route → Dialogue backend Unit
  | some previous => do let _ ← enter (.putRoute filter previous)
  | none => do let _ ← enter (.takeRoute filter)

/-- Registers a route for one filter and subscribes it. -/
def addRoute (connection : Nat) (errors : Nat) (binary : Bool) (channel : Channel) :
    Dialogue backend (BusResult Unit) := do
  let filter := channel.topic
  let previous ← enter (.putRoute filter { messages := channel.messages, errors, binary })
  match ← call (.subscribe connection filter) with
  | .ok () => return .ok ()
  | .error text =>
    undoRoute filter previous
    return .error (topicFailure "subscribe" filter text)

/-- Adds routes in order, up to the first failure. -/
def addEach (connection : Nat) (errors : Nat) (binary : Bool) :
    List Channel → Dialogue backend (BusResult Unit)
  | [] => return .ok ()
  | channel :: rest => do
    match ← addRoute connection errors binary channel with
    | .error error => return .error error
    | .ok () => addEach connection errors binary rest

/-- Subscribes topics. -/
def addRoutes (binary : Bool) (channels : List Channel) (errors : Nat) :
    Dialogue backend (BusResult Unit) :=
  withConnection fun connection => addEach connection errors binary channels

/-- Ends the subscription of one topic; if that fails, its route stays. -/
def unsubscribeTopic (connection : Nat) (topic : String) :
    Dialogue backend (List BusError) := do
  match ← enter (.takeRoute topic) with
  | none => return []
  | some route => match ← call (.unsubscribe connection topic) with
    | .ok () => return []
    | .error text =>
      let _ ← enter (.putRoute topic route)
      return [topicFailure "unsubscribe" topic text]

/-- Ends the subscriptions of topics in order, whatever fails, and collects the failures. -/
def unsubscribeTopics (connection : Nat) : List String → Dialogue backend (List BusError)
  | [] => return []
  | topic :: rest => do
    let failures ← unsubscribeTopic connection topic
    return failures ++ (← unsubscribeTopics connection rest)

/-- Ends subscriptions. -/
def unsubscribe (topics : List String) : Dialogue backend (BusResult Unit) :=
  withConnection fun connection => do
    return BusError.collect (← unsubscribeTopics connection topics)

/-- Takes leave of the broker, waits for the event loop and closes the session for good. -/
def disconnect : Dialogue backend (BusResult Unit) := do
  match ← enter .retire with
  | none => return .error .notConnected
  | some connection =>
    call (.beginClosing connection)
    let requested ← call (.disconnect connection)
    call (.awaitEventLoop connection)
    enter .clearRoutes
    match requested with
    | .ok () => return .ok ()
    | .error text => return .error (.operation "disconnect" text)

/-- The client over its connection. -/
def client : MessageClient backend where
  connect := connect.left
  publish envelope topic := (publish envelope topic).left
  publishWithLimit envelope topic limitKb := (publishWithLimit envelope topic limitKb).left
  subscribe channels errors := (addRoutes false channels errors).left
  unsubscribe topics := (unsubscribe topics).left
  disconnect := disconnect.left
  publishBinary payload topic := (publishBytes payload topic 0).left
  subscribeBinary channels errors := (addRoutes true channels errors).left

/-- The client's own state: its session and its routes. -/
structure State where
  /-- The session. -/
  session : Session := .idle
  /-- The routes. -/
  routes : RouteTable := []
  deriving DecidableEq, Inhabited

namespace State

/-- What the sections do. -/
def answer : (question : Section) → State → question.Answer × State
  | .session, state => (state.session, state)
  | .install connection, state =>
    if state.session = .idle then (true, { state with session := .connected connection })
    else (false, state)
  | .retire, state => match state.session with
    | .connected connection => (some connection, { state with session := .closed })
    | _ => (none, state)
  | .putRoute filter route, state =>
    (state.routes.lookup filter, { state with routes := RouteTable.put state.routes filter route })
  | .takeRoute filter, state =>
    (state.routes.lookup filter, { state with routes := RouteTable.without state.routes filter })
  | .clearRoutes, state => ((), { state with routes := [] })

end State

end Client

end MessageBus.Mqtt

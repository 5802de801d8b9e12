/-
**The NATS client.** Core NATS and JetStream alike: they differ in their connections.

* `Nats.Client.Section` — the sections of the client's own state, each one step; calls on the
  connection stand between them, and no section is held across a call.
* `connect`, `publish`, `publishWithLimit`, `subscribe`, `unsubscribe`, `disconnect` — the
  operations.
* `Nats.Client.State` — session and registry of subscriptions; `State.answer` is what the sections
  do.
-/

import MessageBus.Nats.Delivery
import MessageBus.Nats.Options

namespace MessageBus.Nats.Client

/-- A section of the client's own state. -/
inductive Section (Handle : Type)
  /-- Looks at the session. -/
  | session
  /-- Makes an opened connection the session, if the client is still idle. -/
  | install (connection : Nat)
  /-- Closes the session for good, if it is connected. -/
  | retire
  /-- Takes the handle of a topic out of the registry. -/
  | take (topic : String)
  /-- Puts a handle back, unless the topic has another one by now. -/
  | restore (topic : String) (handle : Handle)
  /-- Registers a handle; the answer is the one it displaces. -/
  | register (topic : String) (handle : Handle)
  /-- Empties the registry. -/
  | clear

/-- The type of the answer to each section. -/
abbrev Section.Answer {Handle : Type} : Section Handle → Type
  | .session => Session
  | .install _ => Bool
  | .retire => Option Nat
  | .take _ => Option Handle
  | .restore _ _ => Unit
  | .register _ _ => Option Handle
  | .clear => Unit

/-- The interface of the client's own state. -/
abbrev sections (Handle : Type) : Interface := ⟨Section Handle, Section.Answer⟩

/-- What the client's operations talk to: its own state and its connection. -/
abbrev backend (Handle : Type) : Interface :=
  (sections Handle).sum (Connection.interface Handle)

variable {Handle : Type}

/-- Enters a section. -/
def enter (question : Section Handle) : Dialogue (backend Handle) question.Answer :=
  .ask (I := backend Handle) (.inl question) .done

/-- Calls the connection. -/
def call (c : Connection.Call Handle) : Dialogue (backend Handle) c.Answer :=
  .ask (I := backend Handle) (.inr c) .done

/-- Opens the session; `canOpen` is whether there is a way to open one. -/
def connect (canOpen : Bool) : Dialogue (backend Handle) (BusResult Unit) := do
  match ← enter .session with
  | .idle =>
    if canOpen then
      match ← call .openSession with
      | .error error => return .error error
      | .ok connection =>
        match ← enter (.install connection) with
        | true => return .ok ()
        | false => return .error .alreadyConnected
    else return .error (.connection "no connect function configured")
  | _ => return .error .alreadyConnected

/-- Goes on with the connection of the session, if there is one. -/
def withConnection (next : Nat → Dialogue (backend Handle) (BusResult Unit)) :
    Dialogue (backend Handle) (BusResult Unit) := do
  match ← enter .session with
  | .connected connection => next connection
  | _ => return .error .notConnected

/-- Publishes an envelope as a message of at most a limit. -/
def publishWithLimit (options : Options) (envelope : Envelope) (topic : String) (limitKb : Nat) :
    Dialogue (backend Handle) (BusResult Unit) :=
  withConnection fun connection => do
    if topic.isEmpty then return .error (.operation "publish" "topic is empty")
    else
      let message := marshal options.format envelope (topicToSubject topic)
      match checkLimit message.encodedLength limitKb with
      | .error error => return .error error
      | .ok () => call (.publish connection message)

/-- Publishes an envelope. -/
def publish (options : Options) (envelope : Envelope) (topic : String) :
    Dialogue (backend Handle) (BusResult Unit) :=
  publishWithLimit options envelope topic 0

/-- The failure of a client call on one topic. -/
def topicFailure (operation topic text : String) : BusError :=
  .operation operation ("topic '" ++ topic ++ "': " ++ text)

/-- Ends the subscription that a topic had before; if that fails, the topic keeps it. -/
def stopPrevious (topic : String) : Dialogue (backend Handle) (BusResult Unit) := do
  match ← enter (.take topic) with
  | none => return .ok ()
  | some previous => match ← call (.stop previous) with
    | .ok () => return .ok ()
    | .error error =>
      enter (.restore topic previous)
      return .error (topicFailure "subscribe" topic
        ("replacing subscription: " ++ error.message))

/-- Subscribes one topic in the place of an earlier subscription. A handle that another call
registered meanwhile is displaced and stopped. -/
def subscribeTopic (options : Options) (connection : Nat) (channel : Channel) (errors : Nat) :
    Dialogue (backend Handle) (BusResult Unit) := do
  let topic := channel.topic
  match ← stopPrevious topic with
  | .error error => return .error error
  | .ok () =>
    let delivery : Delivery :=
      { topic, messages := channel.messages, errors, format := options.format
        exactlyOnce := options.exactlyOnce }
    match ← call (.subscribe connection (topicToSubject topic) options.queueGroup delivery) with
    | .error error => return .error (topicFailure "subscribe" topic error.message)
    | .ok handle => match ← enter (.register topic handle) with
      | none => return .ok ()
      | some displaced =>
        let _ ← call (.stop displaced)
        return .ok ()

/-- Subscribes topics in order, up to the first failure. -/
def subscribeTopics (options : Options) (connection errors : Nat) :
    List Channel → Dialogue (backend Handle) (BusResult Unit)
  | [] => return .ok ()
  | channel :: rest => do
    match ← subscribeTopic options connection channel errors with
    | .error error => return .error error
    | .ok () => subscribeTopics options connection errors rest

/-- Subscribes topics. -/
def subscribe (options : Options) (channels : List Channel) (errors : Nat) :
    Dialogue (backend Handle) (BusResult Unit) :=
  withConnection fun connection => subscribeTopics options connection errors channels

/-- Ends the subscription of one topic; if that fails, the topic keeps it. -/
def unsubscribeTopic (topic : String) : Dialogue (backend Handle) (List BusError) := do
  match ← enter (.take topic) with
  | none => return []
  | some handle => match ← call (.stop handle) with
    | .ok () => return []
    | .error error =>
      enter (.restore topic handle)
      return [topicFailure "unsubscribe" topic error.message]

/-- Ends the subscriptions of topics in order, whatever fails, and collects the failures. -/
def unsubscribeTopics : List String → Dialogue (backend Handle) (List BusError)
  | [] => return []
  | topic :: rest => do
    let failures ← unsubscribeTopic topic
    return failures ++ (← unsubscribeTopics rest)

/-- Ends subscriptions. -/
def unsubscribe (topics : List String) : Dialogue (backend Handle) (BusResult Unit) :=
  withConnection fun _ => do
    return BusError.collect (← unsubscribeTopics topics)

/-- Lets deliveries finish and closes the session for good. -/
def disconnect : Dialogue (backend Handle) (BusResult Unit) := do
  match ← enter .retire with
  | none => return .error .notConnected
  | some connection =>
    let drained ← call (.drain connection)
    enter .clear
    return drained

/-- The client over its connection. -/
def client (options : Options) (canOpen : Bool) : MessageClient (backend Handle) where
  connect := (connect canOpen).left
  publish envelope topic := (publish options envelope topic).left
  publishWithLimit envelope topic limitKb :=
    (publishWithLimit options envelope topic limitKb).left
  subscribe channels errors := (subscribe options channels errors).left
  unsubscribe topics := (unsubscribe topics).left
  disconnect := disconnect.left

/-- The client's own state: its session, and its subscriptions by topic. -/
structure State (Handle : Type) where
  /-- The session. -/
  session : Session := .idle
  /-- The handles of the subscribed topics, each topic once. -/
  registry : List (String × Handle) := []
  deriving DecidableEq, Inhabited

namespace State

/-- The registry without a topic. -/
def without (registry : List (String × Handle)) (topic : String) : List (String × Handle) :=
  registry.filter fun entry => entry.1 != topic

/-- What the sections do. -/
def answer : (question : Section Handle) → State Handle → question.Answer × State Handle
  | .session, state => (state.session, state)
  | .install connection, state =>
    if state.session = .idle then (true, { state with session := .connected connection })
    else (false, state)
  | .retire, state => match state.session with
    | .connected connection => (some connection, { state with session := .closed })
    | _ => (none, state)
  | .take topic, state =>
    (state.registry.lookup topic, { state with registry := without state.registry topic })
  | .restore topic handle, state =>
    if (state.registry.lookup topic).isSome then ((), state)
    else ((), { state with registry := state.registry ++ [(topic, handle)] })
  | .register topic handle, state =>
    (state.registry.lookup topic,
      { state with registry := without state.registry topic ++ [(topic, handle)] })
  | .clear, state => ((), { state with registry := [] })

end State

end MessageBus.Nats.Client

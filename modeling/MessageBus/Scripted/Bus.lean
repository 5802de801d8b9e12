/-
**A bus in memory.** A client that records its calls and answers requests from a script.

* `Reply` — one scripted reply, with the time that passes before it.
* `ScriptedBus` — which calls fail, the replies to each publish, the subscribed topics and the
  calls made.
* `ScriptedBus.stage`, `ScriptedBus.client` — the world of the bus and a client of it.
-/

import MessageBus.Command
import MessageBus.Scripted.Stage

namespace MessageBus

/-- What a scripted reply consists of. -/
inductive ReplyBody
  /-- An error of the connection. -/
  | fault (error : BusError)
  /-- The response to the request. -/
  | response (payload : List UInt8) (contentType : String)
  /-- The failure of the responder. -/
  | failure (message : String)
  /-- The request itself. -/
  | echo
  /-- Any envelope. -/
  | envelope (envelope : Envelope)
  deriving Inhabited

/-- A scripted reply. -/
structure Reply where
  /-- How many milliseconds pass before it. -/
  delay : Nat
  /-- What it consists of. -/
  body : ReplyBody
  deriving Inhabited

/-- The envelope of a reply to a request. -/
def ReplyBody.envelope? (request : Envelope) : ReplyBody → Option Envelope
  | fault _ => none
  | response payload contentType => some (request.forResponse payload contentType)
  | failure message => some (request.forError message)
  | echo => some request
  | envelope e => some e

/-- A call on the bus, as it is recorded. -/
inductive BusEvent
  | subscribe (topic : String) (messageCapacity errorCapacity : Nat)
  | publish (topic : String) (envelope : Envelope)
  /-- With the state of the two queues of each subscription of the topic. -/
  | unsubscribe (topic : String) (closed : List (Bool × Bool))
  deriving Inhabited

/-- The replies that are still to come for one request. -/
structure Playback where
  /-- The request. -/
  request : Envelope
  /-- When the next reply comes. -/
  next : Nat
  /-- The replies to come. -/
  replies : List Reply
  deriving Inhabited

/-- A bus in memory. -/
structure ScriptedBus where
  /-- The place where requests run. -/
  place : Workplace := {}
  /-- The failure of every publish. -/
  failPublish : Option BusError := none
  /-- The failure of every subscription. -/
  failSubscribe : Option BusError := none
  /-- The failure of every end of a subscription. -/
  failUnsubscribe : Option BusError := none
  /-- The replies to each publish. -/
  replies : List Reply := []
  /-- The subscribed topics with their queues, oldest first. -/
  active : List (String × Queues) := []
  /-- The calls made, in order. -/
  events : List BusEvent := []
  /-- The replies to come. -/
  playbacks : List Playback := []
  deriving Inhabited

namespace ScriptedBus

/-- Records a call. -/
def record (bus : ScriptedBus) (event : BusEvent) : ScriptedBus :=
  { bus with events := bus.events ++ [event] }

/-- The outcome of a call with a scripted failure. -/
def scripted : Option BusError → BusResult Unit
  | some error => .error error
  | none => .ok ()

/-- Gives one reply to the topic that was subscribed last; without room it is lost. -/
def give (request : Envelope) (bus : ScriptedBus) (body : ReplyBody) : ScriptedBus :=
  match bus.active.getLast? with
  | none => bus
  | some (topic, queues) => match body with
    | .fault error =>
      let errors := bus.place.errors.modify queues.errors (Queue.offer · error)
      { bus with place := { bus.place with errors } }
    | body => match body.envelope? request with
      | none => bus
      | some envelope =>
        let envelope := { envelope with receivedTopic := topic }
        let messages := bus.place.messages.modify queues.messages (Queue.offer · envelope)
        { bus with place := { bus.place with messages } }

/-- Starts the replies to a request; none of them comes before the requester has looked once. -/
def start (request : Envelope) (bus : ScriptedBus) : ScriptedBus :=
  match bus.replies with
  | [] => bus
  | reply :: _ =>
    let playback := { request, next := bus.place.now + reply.delay, replies := bus.replies }
    { bus with playbacks := bus.playbacks ++ [playback] }

/-- The capacity of one queue of several. -/
def capacityOf {α : Type} (queues : List (Queue α)) (place : Nat) : Nat :=
  (queues[place]?.map Queue.capacity).getD 0

/-- Subscribes one topic. -/
def subscribeTopic (bus : ScriptedBus) (channel : Channel) (errors : Nat) :
    BusResult Unit × ScriptedBus :=
  let bus := bus.record (.subscribe channel.topic (capacityOf bus.place.messages channel.messages)
    (capacityOf bus.place.errors errors))
  match bus.failSubscribe with
  | some error => (.error error, bus)
  | none =>
    (.ok (), { bus with active := bus.active ++ [(channel.topic, ⟨channel.messages, errors⟩)] })

/-- Subscribes topics in order, up to the first failure. -/
def subscribe (errors : Nat) : List Channel → ScriptedBus → BusResult Unit × ScriptedBus
  | [], bus => (.ok (), bus)
  | channel :: rest, bus => match bus.subscribeTopic channel errors with
    | (.error error, bus) => (.error error, bus)
    | (.ok (), bus) => subscribe errors rest bus

/-- Whether a queue is closed. -/
def isClosed {α : Type} (queues : List (Queue α)) (place : Nat) : Bool :=
  (queues[place]?.map Queue.closed).getD true

/-- Ends the subscriptions of one topic. -/
def unsubscribeTopic (bus : ScriptedBus) (topic : String) : ScriptedBus :=
  let ended := bus.active.filter fun entry => entry.1 = topic
  let closed := ended.map fun (_, queues) =>
    (isClosed bus.place.messages queues.messages, isClosed bus.place.errors queues.errors)
  let bus := bus.record (.unsubscribe topic closed)
  if bus.failUnsubscribe.isSome then bus
  else { bus with active := bus.active.filter fun entry => entry.1 ≠ topic }

/-- Carries out a call of a client. -/
def answerCall : Request.Call → ScriptedBus → BusResult Unit × ScriptedBus
  | .subscribe channels errors, bus => subscribe errors channels bus
  | .publish envelope topic, bus =>
    let bus := bus.record (.publish topic envelope)
    match bus.failPublish with
    | some error => (.error error, bus)
    | none => (.ok (), bus.start envelope)
  | .unsubscribe topics, bus =>
    let bus := topics.foldl unsubscribeTopic bus
    (scripted bus.failUnsubscribe, bus)

/-- Answers a question, unless the answer must wait. -/
def answer? (supply : Nat → String) :
    (question : Request.surroundings.Ask) → ScriptedBus →
      Option (Request.surroundings.Answer question × ScriptedBus)
  | .inl c, bus => some (answerCall c bus)
  | .inr question, bus => do
    let (reply, place) ← Workplace.answer? supply question bus.place
    return (reply, { bus with place })

/-- Gives the next reply that is due. -/
def work? (bus : ScriptedBus) : Option ScriptedBus :=
  match bus.playbacks.partition fun playback => playback.next ≤ bus.place.now with
  | ([], _) => none
  | (playback :: due, waiting) => match playback.replies with
    | [] => some { bus with playbacks := due ++ waiting }
    | reply :: rest =>
      let bus := give playback.request bus reply.body
      let again := match rest with
        | [] => []
        | next :: _ => [{ playback with next := bus.place.now + next.delay, replies := rest }]
      some { bus with playbacks := again ++ due ++ waiting }

/-- The world of a bus in memory. -/
def stage (supply : Nat → String) : Stage Request.surroundings ScriptedBus where
  answer? := answer? supply
  due?
    | .inl _ => none
    | .inr question => question.due?
  work? := work?
  workDue? bus := bus.playbacks.foldl (fun next p => Stage.earlier next (some p.next)) none
  now bus := bus.place.now
  setTime time bus := { bus with place := { bus.place with now := time } }

/-- Calls the bus. -/
def call (c : Request.Call) : Dialogue Request.client.work (BusResult Unit) :=
  .ask (I := Request.client.work) (.inl c) .done

/-- A client of the bus. -/
def client : MessageClient Request.client where
  connect := .done (.ok ())
  publish envelope topic := call (.publish envelope topic)
  publishWithLimit envelope topic _ := call (.publish envelope topic)
  subscribe channels errors := call (.subscribe channels errors)
  unsubscribe topics := call (.unsubscribe topics)
  disconnect := .done (.ok ())

/-- A command over the bus. -/
def command {α : Type} (activity : Dialogue Command.interface α) :
    Dialogue Request.surroundings α :=
  activity.translate (Command.carryOut client)

end ScriptedBus

end MessageBus

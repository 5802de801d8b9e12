/-
**A NATS session in memory.** A connection that records its calls and lets chosen ones fail.

* `ScriptedSession` — the client, the place where it runs, the subscriptions of the session, which
  calls fail, the rules for replies and the calls made.
* `ScriptedSession.answerCall` — carries out a call on the connection; opening takes a millisecond.
* `ScriptedSession.handOver` — hands a message to the delivery of a subject.
* `ScriptedSession.setting` — the world of the session with a client in it.
-/

import MessageBus.Nats.Client
import MessageBus.Scripted.Background
import MessageBus.Scripted.Performance
import MessageBus.Scripted.Rule

namespace MessageBus.Nats

/-- A call on the session, as it is recorded. -/
inductive SessionEvent
  | opened (url : String)
  | subscribed (subject queue : String) (number : Nat)
  | unsubscribed (subject : String) (number : Nat)
  | published (message : Message)
  | drained
  deriving Inhabited

/-- What receives the messages of a subject. -/
structure Receiver where
  /-- The number of the subscription. -/
  number : Nat
  /-- What happens to a message. -/
  delivery : Delivery

namespace ScriptedSession

/-- The interface of a connection whose handles are numbers, with the place where deliveries run. -/
abbrev connection : Interface := (Connection.interface Nat).work

/-- What replies need: the connection, and a look at who receives a subject. -/
abbrev replying : Interface := connection.sum ⟨String, fun _ => Option Delivery⟩

/-- What operations need: what the client talks to, and the start of an opening, which is answered
with the time of its end. -/
abbrev operating : Interface := (Client.backend Nat).work.sum ⟨Unit, fun _ => Nat⟩

end ScriptedSession

/-- A NATS session in memory. -/
structure ScriptedSession where
  /-- The settings of the client. -/
  options : Options := {}
  /-- The place where the client runs. -/
  place : Workplace := {}
  /-- The state of the client. -/
  client : Client.State Nat := {}
  /-- What fails: the name of a call, or a name and a subject. -/
  failing : List String := []
  /-- The subjects of all subscriptions so far, in the order of their numbers, which start at 1. -/
  subjects : List String := []
  /-- Who receives the messages of each subject. -/
  receivers : List (String × Receiver) := []
  /-- The rules for replies. -/
  rules : List Rule := []
  /-- The replies to come. -/
  replies : List (Dialogue ScriptedSession.replying Unit) := []
  /-- The calls made, in order. -/
  events : List SessionEvent := []
  /-- The acknowledgements, and whether their confirmation was waited for. -/
  acks : List (String × Bool) := []

namespace ScriptedSession

/-- Records a call. -/
def record (session : ScriptedSession) (event : SessionEvent) : ScriptedSession :=
  { session with events := session.events ++ [event] }

/-- The outcome of a call that may be set to fail. -/
def outcome {α : Type} (session : ScriptedSession) (what subject : String) (value : α) :
    BusResult α :=
  if session.failing.contains what || session.failing.contains (what ++ " " ++ subject) then
    .error (.transport (what ++ " refused for '" ++ subject ++ "'"))
  else .ok value

/-- The subject of a subscription. -/
def subjectOf (session : ScriptedSession) (number : Nat) : String :=
  (session.subjects[number - 1]?).getD ""

/-! ### Replies -/

/-- Hands a message to the receiver of its subject a number of times, as long as there is one. -/
def repeatReply (message : Message) : Nat → Dialogue replying Unit
  | 0 => return ()
  | times + 1 => do
    match ← .ask (I := replying) (.inr message.subject) .done with
    | none => return ()
    | some delivery =>
      (delivery.handle message).left
      repeatReply message times

/-- The reply of a rule to a published message. -/
def reply (rule : Rule) (id : String) (published : Message) : Message :=
  { subject := Rule.fill id rule.address
    reply := rule.reply
    headers := (rule.headers.map StringMap.ofList).getD published.headers
    payload := rule.payload.getD published.payload }

/-- Sends the reply of a rule at a time. -/
def replyAt (time : Nat) (rule : Rule) (id : String) (published : Message) :
    Dialogue replying Unit := do
  .ask (I := replying) (.inl (.inr (.sleepUntil time))) .done
  repeatReply (reply rule id published) rule.times

/-- The request identifier of a published message. -/
def requestId (session : ScriptedSession) (message : Message) : String :=
  match message.headers.get? headerRequestId with
  | some id => id
  | none => if session.options.format = .json then bodyRequestId message.payload else ""

/-- Starts the replies to a published message. -/
def startReplies (session : ScriptedSession) (message : Message) : ScriptedSession :=
  let id := session.requestId message
  let replies := (session.rules.filter (·.applies message.subject id)).map fun rule =>
    replyAt (session.place.now + rule.delay) rule id message
  { session with replies := session.replies ++ replies }

/-! ### Calls -/

/-- Adds a subscription; it receives the messages of its subject from now on. -/
def subscribe (session : ScriptedSession) (subject queue : String) (delivery : Delivery) :
    Nat × ScriptedSession :=
  let number := session.subjects.length + 1
  let others := session.receivers.filter (·.1 != subject)
  let session := session.record (.subscribed subject queue number)
  (number, { session with
    subjects := session.subjects ++ [subject]
    receivers := others ++ [(subject, { number, delivery })] })

/-- Takes a subscription away from its subject, unless a later one has replaced it. -/
def dropReceiver (session : ScriptedSession) (number : Nat) : ScriptedSession :=
  { session with receivers := session.receivers.filter fun entry => entry.2.number ≠ number }

/-- Carries out a call on the connection. -/
def answerCall : (c : Connection.Call Nat) → ScriptedSession → c.Answer × ScriptedSession
  | .openSession, session => (session.outcome "connect" "" 0, session)
  | .publish _ message, session => match session.outcome "publish" message.subject () with
    | .error error => (.error error, session)
    | .ok () => (.ok (), (session.record (.published message)).startReplies message)
  | .subscribe _ subject queue delivery, session =>
    match session.outcome "subscribe" subject () with
    | .error error => (.error error, session)
    | .ok () =>
      let (number, session) := session.subscribe subject queue delivery
      (.ok number, session)
  | .stop number, session =>
    let subject := session.subjectOf number
    let session := session.record (.unsubscribed subject number)
    match session.outcome "unsubscribe" subject () with
    | .error error => (.error error, session)
    | .ok () => (.ok (), session.dropReceiver number)
  | .acknowledge reply confirm, session =>
    let session := { session with acks := session.acks ++ [(reply, confirm)] }
    (session.outcome "ack" reply (), session)
  | .drain _, session =>
    let session := session.record .drained
    match session.outcome "drain" "" () with
    | .error error => (.error error, session)
    | .ok () => (.ok (), { session with receivers := [] })

/-! ### The world -/

/-- Answers what a delivery asks, unless the answer must wait. -/
def answerDelivery? (supply : Nat → String) :
    (question : connection.Ask) → ScriptedSession →
      Option (connection.Answer question × ScriptedSession)
  | .inl c, session => some (answerCall c session)
  | .inr question, session => do
    let (answer, place) ← Workplace.answer? supply question session.place
    return (answer, { session with place })

/-- Answers what a reply asks, unless the answer must wait. -/
def answerReply? (supply : Nat → String) :
    (question : replying.Ask) → ScriptedSession →
      Option (replying.Answer question × ScriptedSession)
  | .inl question, session => answerDelivery? supply question session
  | .inr subject, session =>
    some ((session.receivers.lookup subject).map (·.delivery), session)

/-- Answers what an operation asks, unless the answer must wait. -/
def answer? (supply : Nat → String) :
    (question : operating.Ask) → ScriptedSession →
      Option (operating.Answer question × ScriptedSession)
  | .inl (.inl (.inl question)), session =>
    let (answer, client) := Client.State.answer question session.client
    some (answer, { session with client })
  | .inl (.inl (.inr c)), session => some (answerCall c session)
  | .inl (.inr question), session => do
    let (answer, place) ← Workplace.answer? supply question session.place
    return (answer, { session with place })
  | .inr (), session =>
    some (session.place.now + 1, session.record (.opened session.options.brokerUrl))

/-- When a question of a delivery that waits is answered at the latest. -/
def deliveryDue? : connection.Ask → Option Nat
  | .inl _ => none
  | .inr question => question.due?

/-- The replies to come. -/
def background (supply : Nat → String) : Background replying ScriptedSession where
  answer? := answerReply? supply
  due?
    | .inl question => deliveryDue? question
    | .inr _ => none
  activities session := session.replies
  setActivities replies session := { session with replies }

/-- Sets the clock. -/
def setTime (time : Nat) (session : ScriptedSession) : ScriptedSession :=
  { session with place := { session.place with now := time } }

/-- The world in which operations are played. -/
def stage (supply : Nat → String) : Stage operating ScriptedSession where
  answer? := answer? supply
  due?
    | .inl (.inr question) => question.due?
    | _ => none
  work? := (background supply).work?
  workDue? := (background supply).workDue?
  now session := session.place.now
  setTime := setTime

/-- The world in which single deliveries are played. -/
def deliveryStage (supply : Nat → String) : Stage connection ScriptedSession where
  answer? := answerDelivery? supply
  due? := deliveryDue?
  work? := (background supply).work?
  workDue? := (background supply).workDue?
  now session := session.place.now
  setTime := setTime

/-- Carries out what an operation asks: opening begins, and ends a millisecond later. -/
def carryOut : (question : (Client.backend Nat).work.Ask) →
    Dialogue operating ((Client.backend Nat).work.Answer question)
  | .inl (.inr .openSession) => do
    let time ← .ask (I := operating) (.inr ()) .done
    .ask (I := operating) (.inl (.inr (.sleepUntil time))) .done
    .ask (I := operating) (.inl (.inl (.inr .openSession))) .done
  | question => .ask (I := operating) (.inl question) .done

/-- The world of a session with a client in it. -/
def setting (supply : Nat → String) (options : Options) (canOpen : Bool) :
    Setting (Client.backend Nat) operating ScriptedSession where
  client := Client.client options canOpen
  stage := stage supply
  enact operation := operation.translate carryOut
  place session := session.place
  setPlace place session := { session with place }
  topics session := session.client.registry.map (·.1)

/-- How a message was taken by its receiver. -/
inductive HandOver
  /-- There is no receiver. -/
  | nobody
  /-- It was handled. -/
  | delivered
  /-- It was given up, for want of room. -/
  | blocked
  deriving DecidableEq, Inhabited

/-- How many milliseconds a message is held out to its receiver. -/
def patience : Nat := 1000

/-- Hands a message to the receiver of a subject. -/
def handOver (supply : Nat → String) (subject : String) (message : Message)
    (session : ScriptedSession) : HandOver × ScriptedSession :=
  match session.receivers.lookup subject with
  | none => (.nobody, session)
  | some receiver =>
    let activity : Dialogue connection Unit := receiver.delivery.handle message
    match (deliveryStage supply).playWithin patience activity session with
    | (some (), session) => (.delivered, session)
    | (none, session) => (.blocked, session)

end ScriptedSession

end MessageBus.Nats

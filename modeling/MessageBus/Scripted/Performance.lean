/-
**Performances.** Client calls made one after the other in a world.

* `Setting` — a client in the world in which it is played.
* `Act` — one call, or a look at what has arrived; `Outcome` — what comes of it.
* `Performance` — the world, and the queues that the acts opened, in the order of their opening.
* `Setting.play` — plays one act; then the background goes on for a millisecond.
-/

import MessageBus.Client
import MessageBus.Scripted.Stage

namespace MessageBus

/-- The words of a link for whatever goes wrong with it. -/
def linkWording : String := "the link to the broker is down"

/-- A client in the world in which it is played. -/
structure Setting (backend I : Interface) (W : Type) where
  /-- The client. -/
  client : MessageClient backend
  /-- The world. -/
  stage : Stage I W
  /-- An operation of the client as an activity of the world. -/
  enact : {α : Type} → Dialogue backend.work α → Dialogue I α
  /-- The place where the client runs. -/
  place : W → Workplace
  /-- Replaces that place. -/
  setPlace : Workplace → W → W
  /-- The subscribed topics. -/
  topics : W → List String

/-- A request to be made. -/
structure RequestCall where
  /-- The request. -/
  envelope : Envelope
  /-- The topic on which it is published. -/
  topic : String
  /-- The topic under which the reply is awaited. -/
  base : String
  /-- How many milliseconds to wait. -/
  timeout : Nat
  deriving Inhabited

/-- One act of a performance. -/
inductive Act
  | connect
  /-- Connects twice at the same time. -/
  | connectTwice
  | publish (envelope : Envelope) (topic : String) (limitKb : Option Nat)
  | publishBinary (payload : List UInt8) (topic : String)
  /-- Subscribes topics, each with the capacity of its queue of messages. -/
  | subscribe (binary : Bool) (topics : List (String × Nat)) (errorCapacity : Nat)
  | unsubscribe (topics : List String)
  | disconnect
  | isSubscribed (topic : String)
  /-- Takes what has arrived in all queues. -/
  | receive
  /-- Gives up the receivers of a queue of messages and of a queue of errors. -/
  | drop (messages errors : Option Nat)
  /-- Lets time pass. -/
  | wait (milliseconds : Nat)
  | request (call : RequestCall)
  /-- Makes requests at the same time. -/
  | requests (calls : List RequestCall)
  deriving Inhabited

/-- What comes of an act. -/
inductive Outcome
  | nothing
  | flag (value : Bool)
  | finished (result : BusResult Unit)
  | bothFinished (results : List (BusResult Unit))
  | replied (result : BusResult Envelope)
  | allReplied (results : List (BusResult Envelope))
  /-- The items of the queues that had any, by the numbers of the queues. -/
  | received (messages : List (Nat × List Envelope)) (errors : List (Nat × List BusError))
  deriving Inhabited

/-- A world, and the queues that the acts opened. -/
structure Performance (W : Type) where
  /-- The world. -/
  world : W
  /-- The queues of messages, in the order of their opening. -/
  messages : List Nat := []
  /-- The queues of errors, in the order of their opening. -/
  errors : List Nat := []

namespace Setting

variable {backend I : Interface} {W : Type}

/-- The outcome of an activity that never ends. -/
def lost : BusError := .transport "nothing happens any more"

/-- Plays one operation. -/
def perform {α : Type} (setting : Setting backend I W)
    (operation : Dialogue backend.work (BusResult α)) (performance : Performance W) :
    BusResult α × Performance W :=
  let (result, world) := setting.stage.playOne (setting.enact operation) performance.world
  (result.getD (.error lost), { performance with world })

/-- Plays operations at the same time. -/
def performAll {α : Type} (setting : Setting backend I W)
    (operations : List (Dialogue backend.work (BusResult α))) (performance : Performance W) :
    List (BusResult α) × Performance W :=
  let activities := operations.map fun operation => setting.enact operation
  let (results, world) := setting.stage.play activities performance.world
  (results.map (·.getD (.error lost)), { performance with world })

/-- Opens a queue of messages. -/
def openMessages (setting : Setting backend I W) (capacity : Nat)
    (performance : Performance W) : Nat × Performance W :=
  let (queue, place) := (setting.place performance.world).openMessages capacity
  (queue, { performance with
    world := setting.setPlace place performance.world
    messages := performance.messages ++ [queue] })

/-- Opens a queue of errors. -/
def openErrors (setting : Setting backend I W) (capacity : Nat)
    (performance : Performance W) : Nat × Performance W :=
  let (queue, place) := (setting.place performance.world).openErrors capacity
  (queue, { performance with
    world := setting.setPlace place performance.world
    errors := performance.errors ++ [queue] })

/-- Opens a queue of messages for each topic. -/
def openChannels (setting : Setting backend I W) :
    List (String × Nat) → Performance W → List Channel × Performance W
  | [], performance => ([], performance)
  | (topic, capacity) :: rest, performance =>
    let (messages, performance) := setting.openMessages capacity performance
    let (channels, performance) := setting.openChannels rest performance
    ({ topic, messages } :: channels, performance)

/-- Opens queues and subscribes topics. -/
def subscribe (setting : Setting backend I W) (binary : Bool) (topics : List (String × Nat))
    (errorCapacity : Nat) (performance : Performance W) : BusResult Unit × Performance W :=
  let (channels, performance) := setting.openChannels topics performance
  let (errors, performance) := setting.openErrors errorCapacity performance
  let operation := if binary then setting.client.subscribeBinary channels errors
    else setting.client.subscribe channels errors
  setting.perform operation performance

/-- The items of the numbered queues that have any. -/
def contents {α : Type} (queues : List (Queue α)) (numbers : List Nat) :
    List (Nat × List α) :=
  numbers.zipIdx.filterMap fun (queue, number) =>
    let items := (queues[queue]?.map Queue.items).getD []
    if items.isEmpty then none else some (number, items)

/-- Takes all items of the numbered queues. -/
def emptied {α : Type} (queues : List (Queue α)) (numbers : List Nat) : List (Queue α) :=
  numbers.foldl (fun queues queue => queues.modify queue fun q => q.drain.2) queues

/-- Takes what has arrived. -/
def receive (setting : Setting backend I W) (performance : Performance W) :
    Outcome × Performance W :=
  let place := setting.place performance.world
  let outcome := .received (contents place.messages performance.messages)
    (contents place.errors performance.errors)
  let place := { place with
    messages := emptied place.messages performance.messages
    errors := emptied place.errors performance.errors }
  (outcome, { performance with world := setting.setPlace place performance.world })

/-- Gives up the receiver of one numbered queue. -/
def abandon {α : Type} (queues : List (Queue α)) (numbers : List Nat) :
    Option Nat → List (Queue α)
  | none => queues
  | some number => match numbers[number]? with
    | none => queues
    | some queue => queues.modify queue fun q => q.drain.2.close

/-- Gives up receivers. -/
def drop (setting : Setting backend I W) (messages errors : Option Nat)
    (performance : Performance W) : Performance W :=
  let place := setting.place performance.world
  let place := { place with
    messages := abandon place.messages performance.messages messages
    errors := abandon place.errors performance.errors errors }
  { performance with world := setting.setPlace place performance.world }

/-- The operation of a request. -/
def requestOf (setting : Setting backend I W) (call : RequestCall) :
    Dialogue backend.work (BusResult Envelope) :=
  setting.client.request call.envelope call.topic call.base call.timeout

/-- Lets the background go on for a number of milliseconds. -/
def settle (setting : Setting backend I W) (milliseconds : Nat) (performance : Performance W) :
    Performance W :=
  { performance with world := setting.stage.settle milliseconds performance.world }

/-- What one act does. -/
def enactAct (setting : Setting backend I W) (act : Act) (performance : Performance W) :
    Outcome × Performance W :=
  let client := setting.client
  let single := fun (result : BusResult Unit × Performance W) =>
    (Outcome.finished result.1, result.2)
  match act with
  | .connect => single (setting.perform client.connect performance)
  | .connectTwice =>
    let (results, performance) :=
      setting.performAll [client.connect, client.connect] performance
    (.bothFinished results, performance)
  | .publish envelope topic none =>
    single (setting.perform (client.publish envelope topic) performance)
  | .publish envelope topic (some limit) =>
    single (setting.perform (client.publishWithLimit envelope topic limit) performance)
  | .publishBinary payload topic =>
    single (setting.perform (client.publishBinary payload topic) performance)
  | .subscribe binary topics errorCapacity =>
    single (setting.subscribe binary topics errorCapacity performance)
  | .unsubscribe topics => single (setting.perform (client.unsubscribe topics) performance)
  | .disconnect => single (setting.perform client.disconnect performance)
  | .isSubscribed topic => (.flag ((setting.topics performance.world).contains topic), performance)
  | .receive => setting.receive performance
  | .drop messages errors => (.nothing, setting.drop messages errors performance)
  | .wait milliseconds => (.nothing, setting.settle milliseconds performance)
  | .request call =>
    let (result, performance) := setting.perform (setting.requestOf call) performance
    (.replied result, performance)
  | .requests calls =>
    let (results, performance) :=
      setting.performAll (calls.map setting.requestOf) performance
    (.allReplied results, performance)

/-- Plays one act; then the background goes on for a millisecond. -/
def play (setting : Setting backend I W) (act : Act) (performance : Performance W) :
    Outcome × Performance W :=
  let (outcome, performance) := setting.enactAct act performance
  (outcome, setting.settle 1 performance)

end Setting

end MessageBus

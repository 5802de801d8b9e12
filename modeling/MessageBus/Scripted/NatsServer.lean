/-
**A NATS server in memory.** A server that records what reaches it and sends what it is told to.

* `Subscription` — a subscription at the server, with the delivery loop at its other end.
* `ScriptedServer` — the client, its subscriptions, the streams, which calls fail, the rules for
  replies and what has reached the server.
* `ScriptedServer.answerCall?` — carries out a call on the link.
* `ScriptedServer.inject` — the server sends a message.
* `ScriptedServer.core`, `ScriptedServer.jetStream` — the worlds of the server with a client in it.
-/

import MessageBus.Nats.Client
import MessageBus.Nats.DeliveryLoop
import MessageBus.Nats.Link
import MessageBus.Scripted.Background
import MessageBus.Scripted.Catalog
import MessageBus.Scripted.Performance
import MessageBus.Scripted.Rule

namespace MessageBus.Nats

/-- What reaches the server. -/
inductive ServerEvent
  | connected (name : String) (login : Option (String × String))
  | subscribed (subject queue : String)
  | unsubscribed (subject : String)
  /-- With whether an answer is awaited. -/
  | published (message : Message) (answered : Bool)
  | acknowledged (reply : String) (confirm : Bool)
  | streamNames
  | streamInfo (stream : String)
  | streamCreate (name subject : String)
  | consumerCreate (spec : ConsumerSpec)
  | consumerDelete (stream name : String)
  deriving Inhabited

/-- A subscription at the server, with the delivery loop at its other end. -/
structure Subscription where
  /-- The subject. -/
  subject : String
  /-- The queue group; empty for none. -/
  queue : String
  /-- What happens to a message. -/
  delivery : Delivery
  /-- The delivery loop. -/
  loop : DeliveryLoop := {}
  /-- What the delivery loop is busy with. -/
  busy : Option (Dialogue Link.interface.work Unit) := none

/-- Whether the delivery loop has ended. -/
def Subscription.ended (subscription : Subscription) : Bool :=
  subscription.loop.phase = .ended

/-- A NATS server in memory, with one client. -/
structure ScriptedServer (Handle : Type) where
  /-- The style of the client. -/
  style : Style
  /-- The settings of the client. -/
  options : Options
  /-- Whether nothing listens at the address of the server. -/
  absent : Bool := false
  /-- The place where the client runs. -/
  place : Workplace := {}
  /-- The state of the client. -/
  client : Client.State Handle := {}
  /-- The streams, oldest first. -/
  streams : List Stream := []
  /-- How many of the next calls of each kind fail. -/
  failures : List (String × Nat) := []
  /-- The rules for replies; their addresses are subjects. -/
  rules : List Rule := []
  /-- All subscriptions so far; handles are places in this list. -/
  subscriptions : List Subscription := []
  /-- What has reached the server, in order. -/
  events : List ServerEvent := []

namespace ScriptedServer

variable {Handle : Type}

/-- What operations need: the client's own state, and a link with a place to run. -/
abbrev operating (Handle : Type) : Interface := (Client.sections Handle).sum Link.interface.work

/-- Whether what the client sends can reach the server, which has no TLS. -/
def isReachable (server : ScriptedServer Handle) : Bool :=
  !server.absent && !server.options.tls.isConfigured

/-- Records what the client sends, if it reaches the server. -/
def record (server : ScriptedServer Handle) (event : ServerEvent) : ScriptedServer Handle :=
  if server.isReachable then { server with events := server.events ++ [event] } else server

/-- The outcome of a call of a kind, of which the next ones may be set to fail. -/
def attempt (server : ScriptedServer Handle) (kind : String) :
    Except String Unit × ScriptedServer Handle :=
  match server.failures.lookup kind with
  | some (left + 1) =>
    let failures := server.failures.map fun entry =>
      if entry.1 = kind then (kind, left) else entry
    (.error linkWording, { server with failures })
  | _ => (if server.isReachable then .ok () else .error linkWording, server)

/-- Records a call and tries it. -/
def tried (server : ScriptedServer Handle) (event : ServerEvent) (kind : String) :
    Except String Unit × ScriptedServer Handle :=
  (server.record event).attempt kind

/-! ### Messages to the client -/

/-- The places of the subscriptions that get a message for an address: all that stand alone, and the
first of each queue group. -/
def audience (address : String) (groups : List String) :
    List (Subscription × Nat) → List Nat
  | [] => []
  | (subscription, handle) :: rest =>
    if subscription.subject = address && subscription.loop.listens &&
        !groups.contains subscription.queue then
      let groups := if subscription.queue.isEmpty then groups else subscription.queue :: groups
      handle :: audience address groups rest
    else audience address groups rest

/-- A message as it arrives: the blanks around the values of its headers get lost on the way, and
so does an empty reply address. -/
def arriving (message : Message) : Message :=
  { message with
    reply := message.reply.filter (· ≠ "")
    headers := StringMap.ofList
      (message.headers.entries.map fun entry => (entry.1, Text.trim entry.2)) }

/-- Sends a message to an address; the answer is how many subscriptions it reaches. -/
def inject (server : ScriptedServer Handle) (address : String) (message : Message) :
    Nat × ScriptedServer Handle :=
  let message := arriving message
  let reached := audience address [] server.subscriptions.zipIdx
  let subscriptions := reached.foldl (fun subscriptions handle =>
    subscriptions.modify handle fun subscription =>
      { subscription with loop := subscription.loop.arrive message }) server.subscriptions
  (reached.length, { server with subscriptions })

/-- The request identifier of a published message. -/
def requestId (server : ScriptedServer Handle) (message : Message) : String :=
  match message.headers.get? headerRequestId with
  | some id => id
  | none => if server.options.format = .json then bodyRequestId message.payload else ""

/-- The reply of a rule to a published message. -/
def replyOf (rule : Rule) (id : String) (published : Message) : Message :=
  Message.ofWire (Rule.fill id rule.address) rule.reply
    (rule.headers.getD published.wireHeaders) (rule.payload.getD published.payload)

/-- The replies to a published message, with their addresses. -/
def replies (server : ScriptedServer Handle) (published : Message) : List (String × Message) :=
  let id := server.requestId published
  (server.rules.filter (·.applies published.subject id)).flatMap fun rule =>
    let address := Rule.fill id (rule.receiver.getD rule.address)
    List.replicate rule.times (address, replyOf rule id published)

/-- A message of the client reaches the server. -/
def receive (server : ScriptedServer Handle) (message : Message) (answered : Bool) :
    ScriptedServer Handle :=
  (server.replies message).foldl (fun server (address, reply) => (server.inject address reply).2)
    (server.record (.published message answered))

/-! ### Calls -/

/-- The outcome of connecting. A client that tries again does so on its own, and goes on. -/
def dial (server : ScriptedServer Handle) : Except String Nat × ScriptedServer Handle :=
  let options := server.options
  if !server.isReachable then
    (if options.retryOnFailedConnect then .ok 0 else .error linkWording, server)
  else if options.connectTimeout.milliseconds = 0 then (.error linkWording, server)
  else
    let login := options.username.bind fun user => options.password.map fun password =>
      (user, password)
    let (outcome, server) := server.tried (.connected options.clientId login) "connect"
    (outcome.map fun () => 0, server)

/-- Stores a message in the stream that covers its subject; without one nobody is there to fail. -/
def store (server : ScriptedServer Handle) (message : Message) :
    Except String Unit × ScriptedServer Handle :=
  let server := server.receive message true
  if server.streams.any (·.covers message.subject) then server.attempt "publish"
  else (.error linkWording, server)

/-- Asks a delivery loop to stop; the answer is whether this is the first time. -/
def signalStop (server : ScriptedServer Handle) (handle : Nat) : Bool × ScriptedServer Handle :=
  let first := server.subscriptions[handle]?.any fun subscription => !subscription.loop.stopping
  (first, { server with subscriptions := server.subscriptions.modify handle fun subscription =>
    { subscription with loop := { subscription.loop with stopping := true } } })

/-- Asks all delivery loops to drain; the answer is which ones run. -/
def signalDrain (server : ScriptedServer Handle) : List Nat × ScriptedServer Handle :=
  let running := server.subscriptions.zipIdx.filterMap fun (subscription, handle) =>
    if subscription.ended then none else some handle
  (running, { server with subscriptions := server.subscriptions.map fun subscription =>
    { subscription with loop := { subscription.loop with draining := true } } })

/-- Whether a delivery loop has ended, once that is known. -/
def awaitEnd? (server : ScriptedServer Handle) (handle deadline : Nat) : Option Bool :=
  if server.subscriptions[handle]?.all Subscription.ended then some true
  else if deadline ≤ server.place.now then some false
  else none

/-- The outcome of creating a stream; names with spaces or dots do not reach the server. -/
def createStream (server : ScriptedServer Handle) (name subject : String) :
    Except String Unit × ScriptedServer Handle :=
  if name.isEmpty || name.toList.any (fun c => c = ' ' || c = '.') then (.error linkWording, server)
  else match server.tried (.streamCreate name subject) "STREAM.CREATE" with
    | (.error words, server) => (.error words, server)
    | (.ok (), server) =>
      (.ok (), { server with streams := server.streams ++ [{ name, subjects := [subject] }] })

/-- The subjects of a stream; one without a name does not reach the server. -/
def streamSubjects (server : ScriptedServer Handle) (stream : String) :
    Except String (List String) × ScriptedServer Handle :=
  if stream.isEmpty then (.error linkWording, server)
  else
    let (outcome, server) := server.tried (.streamInfo stream) "STREAM.INFO"
    let found := server.streams.find? fun s => s.name = stream
    (outcome.bind fun () => (found.map (·.subjects)).elim (.error linkWording) .ok, server)

/-- Carries out a call on the link, unless it must wait. -/
def answerCall? : (c : Link.Call) → ScriptedServer Handle →
    Option (c.Answer × ScriptedServer Handle)
  | .readCredentials _, server => some (.error linkWording, server)
  | .readSeed _, server => some (.error linkWording, server)
  | .dial, server => some server.dial
  | .publish message, server => some (.ok (), server.receive message false)
  | .store message, server => some (server.store message)
  | .subscribe subject queue delivery, server =>
    let server := server.record (.subscribed subject queue)
    some (.ok server.subscriptions.length,
      { server with subscriptions := server.subscriptions ++ [{ subject, queue, delivery }] })
  | .signalStop handle, server => some (server.signalStop handle)
  | .signalDrain, server => some server.signalDrain
  | .awaitEnd handle deadline, server =>
    (server.awaitEnd? handle deadline).map fun ended => (ended, server)
  | .flush, server => some (.ok (), server)
  | .acknowledge reply confirm, server =>
    let server := server.record (.acknowledged reply confirm)
    some (if confirm then server.attempt "ack" else (.ok (), server))
  | .streamNames, server =>
    let (outcome, server) := server.tried .streamNames "STREAM.NAMES"
    some (outcome.map fun () => (server.streams.map (·.name)).reverse, server)
  | .streamSubjects stream, server => some (server.streamSubjects stream)
  | .createStream name subject, server => some (server.createStream name subject)
  | .createConsumer spec, server =>
    some (server.tried (.consumerCreate spec) "CONSUMER.CREATE")
  | .deleteConsumer stream name, server =>
    some (server.tried (.consumerDelete stream name) "CONSUMER.DELETE")

/-! ### Delivery loops -/

/-- Answers what goes over the link or to the place, unless the answer must wait. -/
def answerLink? (supply : Nat → String) :
    (question : Link.interface.work.Ask) → ScriptedServer Handle →
      Option (Link.interface.work.Answer question × ScriptedServer Handle)
  | .inl c, server => answerCall? c server
  | .inr question, server => do
    let (answer, place) ← Workplace.answer? supply question server.place
    return (answer, { server with place })

/-- When a question that waits is answered at the latest. -/
def linkDue? : Link.interface.work.Ask → Option Nat
  | .inl (.awaitEnd _ deadline) => some deadline
  | .inl _ => none
  | .inr question => question.due?

/-- How far a delivery loop is after it has gone on with a message. -/
def progress (server : ScriptedServer Handle) (handle : Nat)
    (activity : Dialogue Link.interface.work Unit) : ScriptedServer Handle :=
  let busy := match activity with
    | .done () => none
    | activity => some activity
  { server with subscriptions := server.subscriptions.modify handle fun subscription =>
    { subscription with busy } }

/-- Lets one delivery loop do what it does next. -/
def turn? (supply : Nat → String) (server : ScriptedServer Handle) (handle : Nat)
    (subscription : Subscription) : Option (ScriptedServer Handle) :=
  match subscription.busy with
  | some activity => do
    let (activity, server) ← activity.goOn? (answerLink? supply) server
    return server.progress handle activity
  | none => do
    let (action, loop) ← subscription.loop.next?
    let subscriptions := server.subscriptions.set handle { subscription with loop }
    let server := { server with subscriptions }
    match action with
    | .handle message =>
      let activity := Link.handle server.style server.options subscription.delivery message
      let (activity, server) := activity.advance (answerLink? supply) server
      return server.progress handle activity
    | .leave => return server.record (.unsubscribed subscription.subject)
    | .finish => return server

/-- Lets the first delivery loop that can go on do so. -/
def work? (supply : Nat → String) (server : ScriptedServer Handle) :
    Option (ScriptedServer Handle) :=
  server.subscriptions.zipIdx.findSome? fun (subscription, handle) =>
    server.turn? supply handle subscription

/-- When the next delivery loop that waits can go on. -/
def workDue? (server : ScriptedServer Handle) : Option Nat :=
  server.subscriptions.foldl (fun next subscription =>
    Stage.earlier next (subscription.busy.bind fun activity => activity.question?.bind linkDue?))
    none

/-! ### The world -/

/-- Answers what an operation asks, unless the answer must wait. -/
def answer? (supply : Nat → String) :
    (question : (operating Handle).Ask) → ScriptedServer Handle →
      Option ((operating Handle).Answer question × ScriptedServer Handle)
  | .inl question, server =>
    let (answer, client) := Client.State.answer question server.client
    some (answer, { server with client })
  | .inr question, server => answerLink? supply question server

/-- The world in which operations are played. -/
def stage (supply : Nat → String) : Stage (operating Handle) (ScriptedServer Handle) where
  answer? := answer? supply
  due?
    | .inl _ => none
    | .inr question => linkDue? question
  work? := work? supply
  workDue? := workDue?
  pieces := 1
  now server := server.place.now
  setTime time server := { server with place := { server.place with now := time } }

/-- Carries out what an operation asks; `session` carries out the calls on the connection. -/
def carryOut (session : (c : Connection.Call Handle) → Dialogue Link.interface.work c.Answer) :
    (question : (Client.backend Handle).work.Ask) →
      Dialogue (operating Handle) ((Client.backend Handle).work.Answer question)
  | .inl (.inl question) => .ask (I := operating Handle) (.inl question) .done
  | .inl (.inr c) => (session c).right
  | .inr question => (Link.task question).right

/-- The world of a server with a client in it. -/
def setting (supply : Nat → String) (options : Options)
    (session : (c : Connection.Call Handle) → Dialogue Link.interface.work c.Answer) :
    Setting (Client.backend Handle) (operating Handle) (ScriptedServer Handle) where
  client := Client.client options true
  stage := stage supply
  enact operation := operation.translate (carryOut session)
  place server := server.place
  setPlace place server := { server with place }
  topics server := server.client.registry.map (·.1)

/-- The world of a server with a core client in it. -/
def core (supply : Nat → String) (options : Options) :
    Setting (Client.backend Nat) (operating Nat) (ScriptedServer Nat) :=
  setting supply options (Link.session .core options)

/-- The world of a server with a client over streams in it. -/
def jetStream (supply : Nat → String) (options : Options) :
    Setting (Client.backend ConsumerSubscription) (operating ConsumerSubscription)
      (ScriptedServer ConsumerSubscription) :=
  setting supply options (Link.jetStream options)

end ScriptedServer

end MessageBus.Nats

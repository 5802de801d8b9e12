/-
**Requests.** A request and its reply over publishing and subscribing.

* `Request.Call` — the three client calls that a request is made of.
* `Request.identify` — gives a request the identifiers that it lacks.
* `Request.request` — subscribes the response topic, publishes, waits for the reply, and on every
  way out closes its queues and then unsubscribes the response topic once. The response topic is
  subscribed before anything is published, so the fastest responder is not missed.
-/

import MessageBus.Task
import MessageBus.Topic

namespace MessageBus.Request

/-- The client calls of a request. -/
inductive Call
  /-- Subscribes topics; errors go to one queue. -/
  | subscribe (channels : List Channel) (errors : Nat)
  /-- Publishes an envelope. -/
  | publish (envelope : Envelope) (topic : String)
  /-- Ends subscriptions. -/
  | unsubscribe (topics : List String)

/-- The client that a request talks to. -/
abbrev client : Interface := ⟨Call, fun _ => BusResult Unit⟩

/-- The surroundings of a request: a client, and a place to run. -/
abbrev surroundings : Interface := client.sum Task.interface

/-- Calls the client. -/
def call (c : Call) : Dialogue surroundings (BusResult Unit) :=
  .ask (.inl c) .done

/-- Asks the place where the request runs. -/
def task (question : Task.Ask) : Dialogue surroundings question.Answer :=
  .ask (.inr question) .done

/-- The envelope with its identifiers: a missing request identifier is made, and a missing
correlation identifier is the request's. -/
def identify (envelope : Envelope) : Dialogue surroundings Envelope := do
  let requestId ← if envelope.requestId.isEmpty then task .freshId else pure envelope.requestId
  let correlationId :=
    if envelope.correlationId.isEmpty then requestId else envelope.correlationId
  return { envelope with requestId, correlationId }

/-- The outcome of waiting on a topic. -/
def outcome (topic : String) : Arrival → BusResult Envelope
  | .message envelope => .ok envelope
  | .error error =>
    .error (.transport
      ("error while waiting for response on '" ++ topic ++ "': " ++ error.message))
  | .deadline => .error (.timeout topic)

/-- Publishes a request and waits for what comes first. -/
def exchange (envelope : Envelope) (requestTopic topic : String) (queues : Queues)
    (timeout : Nat) : Dialogue surroundings (BusResult Envelope) := do
  match ← call (.publish envelope requestTopic) with
  | .error error => return .error error
  | .ok () =>
    let deadline ← task (.timeIn timeout)
    let arrival ← task (.await queues deadline)
    return outcome topic arrival

/-- Issues `envelope` on `requestTopic` and waits up to `timeout` milliseconds for the reply on the
response topic under `base`. -/
def request (envelope : Envelope) (requestTopic base : String) (timeout : Nat) :
    Dialogue surroundings (BusResult Envelope) := do
  let envelope ← identify envelope
  let topic := responseTopic base envelope.requestId
  let queues ← task (.openQueues 1)
  match ← call (.subscribe [⟨topic, queues.messages⟩] queues.errors) with
  | .error error =>
    return .error (.operation "request"
      ("failed to subscribe to response topic '" ++ topic ++ "': " ++ error.message))
  | .ok () =>
    let result ← exchange envelope requestTopic topic queues timeout
    task (.close queues)
    let _ ← call (.unsubscribe [topic])
    return result

end MessageBus.Request

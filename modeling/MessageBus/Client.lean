/-
**Clients.** The one contract that every backend fulfils.

* `Session` — idle, then connected, then closed; it never goes back.
* `MessageClient` — the operations of a client, as dialogues with its backend and the place where
  it runs.
* `Request.carryOut` — requests over any client.
* `MessageClient.disabled` — a client that refuses everything.
-/

import MessageBus.Request

namespace MessageBus

/-- The state of a client's session; a connection is known by its number. -/
inductive Session
  | idle
  | connected (connection : Nat)
  | closed
  deriving DecidableEq, Inhabited, Repr

/-- What a client's operations talk to: its backend, and the place where they run. -/
abbrev Interface.work (backend : Interface) : Interface := backend.sum Task.interface

/-- The answer of a backend that does not publish raw bytes. -/
def unsupportedPublish : BusError :=
  .unsupported "binary data publishing is not supported by this message bus"

/-- The answer of a backend that does not subscribe raw bytes. -/
def unsupportedSubscribe : BusError :=
  .unsupported "binary data subscriptions are not supported by this message bus"

/-- Carries out what a request asks with the operations of a client; all else goes to the place. -/
def Request.carryOut {backend : Interface}
    (subscribe : List Channel → Nat → Dialogue backend.work (BusResult Unit))
    (publish : Envelope → String → Dialogue backend.work (BusResult Unit))
    (unsubscribe : List String → Dialogue backend.work (BusResult Unit)) :
    (question : Request.surroundings.Ask) →
      Dialogue backend.work (Request.surroundings.Answer question)
  | .inl (.subscribe channels errors) => subscribe channels errors
  | .inl (.publish envelope topic) => publish envelope topic
  | .inl (.unsubscribe topics) => unsubscribe topics
  | .inr question => .ask (I := backend.work) (.inr question) .done

/-- A client of a message bus. -/
structure MessageClient (backend : Interface) where
  /-- Opens the session. -/
  connect : Dialogue backend.work (BusResult Unit)
  /-- Publishes an envelope on a topic. -/
  publish : Envelope → String → Dialogue backend.work (BusResult Unit)
  /-- Publishes an envelope unless its message is larger than a limit in kilobytes; a limit of zero
  is none. -/
  publishWithLimit : Envelope → String → Nat → Dialogue backend.work (BusResult Unit)
  /-- Subscribes topics, each with a queue of messages; errors go to one queue. -/
  subscribe : List Channel → Nat → Dialogue backend.work (BusResult Unit)
  /-- Ends subscriptions; unknown topics are passed over and every topic is attempted. -/
  unsubscribe : List String → Dialogue backend.work (BusResult Unit)
  /-- Lets deliveries finish and closes the session for good. -/
  disconnect : Dialogue backend.work (BusResult Unit)
  /-- Publishes a request on a topic and waits for its reply under another, up to a number of
  milliseconds. -/
  request : Envelope → String → String → Nat → Dialogue backend.work (BusResult Envelope) :=
    fun envelope requestTopic base timeout =>
      (Request.request envelope requestTopic base timeout).translate
        (Request.carryOut subscribe publish unsubscribe)
  /-- Publishes raw bytes on a topic. -/
  publishBinary : List UInt8 → String → Dialogue backend.work (BusResult Unit) :=
    fun _ _ => .done (.error unsupportedPublish)
  /-- Subscribes topics whose messages are raw bytes. -/
  subscribeBinary : List Channel → Nat → Dialogue backend.work (BusResult Unit) :=
    fun _ _ => .done (.error unsupportedSubscribe)

namespace MessageClient

variable {backend : Interface}

/-- The answer to every operation of a client that is switched off. -/
def refusal {α : Type} : Dialogue backend.work (BusResult α) :=
  .done (.error .disabled)

/-- A client that refuses everything. -/
def disabled : MessageClient backend where
  connect := refusal
  publish _ _ := refusal
  publishWithLimit _ _ _ := refusal
  subscribe _ _ := refusal
  unsubscribe _ := refusal
  disconnect := refusal
  request _ _ _ _ := refusal
  publishBinary _ _ := refusal
  subscribeBinary _ _ := refusal

end MessageClient

/-- The largest number of bytes that a limit can stand for. -/
def maxLimit : Nat := UInt64.size - 1

/-- Refuses a message of `size` bytes that is over a limit in kilobytes; a limit of zero is none. -/
def checkLimit (size limitKb : Nat) : BusResult Unit :=
  let limit := min (limitKb * 1024) maxLimit
  if limitKb = 0 ∨ size ≤ limit then .ok () else .error (.payloadTooLarge size limit)

end MessageBus

/-
**JetStream connections.** A session over streams, on top of a plain one.

* `ConsumerSubscription` — a delivery and the consumer that feeds it; `unsubscribe` stops the
  delivery first and then deletes a consumer that nobody shares.
* `publish` — repeats a failed publish as often as the options allow.
* `subscribe` — listens on the deliver subject before the consumer starts to push, and stops
  listening again when the consumer cannot be created.
* `JetStream.carryOut` — the calls of a client, carried out with a plain session and the management
  of streams.
-/

import MessageBus.Nats.Catalog
import MessageBus.Nats.Delivery

namespace MessageBus.Nats

/-- A delivery and the consumer that feeds it. -/
structure ConsumerSubscription where
  /-- The handle of the delivery. -/
  delivery : Nat
  /-- The consumer. -/
  spec : ConsumerSpec
  deriving DecidableEq, Inhabited

namespace JetStream

/-- What a JetStream connection talks to: a plain session, whose publishes wait for the stream and
whose acknowledgements are real, and the management of streams. -/
abbrev base : Interface := (Connection.interface Nat).sum Catalog.interface

/-- Calls the plain session. -/
def session (c : Connection.Call Nat) : Dialogue base c.Answer :=
  .ask (I := base) (.inl c) .done

/-- Calls the management of streams. -/
def catalog (c : Catalog.Call) : Dialogue base c.Answer :=
  .ask (I := base) (.inr c) .done

/-- Stops a delivery, then deletes its consumer unless it is shared. -/
def unsubscribe (subscription : ConsumerSubscription) : Dialogue base (BusResult Unit) := do
  match ← session (.stop subscription.delivery) with
  | .error error => return .error error
  | .ok () =>
    if subscription.spec.owned then
      catalog (.deleteConsumer subscription.spec.stream subscription.spec.name)
    else return .ok ()

/-- Publishes a message, and again after a failure as long as `retries` are left. -/
def publish (connection : Nat) (message : Message) : Nat → Dialogue base (BusResult Unit)
  | 0 => session (.publish connection message)
  | retries + 1 => do
    match ← session (.publish connection message) with
    | .ok () => return .ok ()
    | .error _ => publish connection message retries

/-- Binds a consumer to a delivery; if that fails, the delivery is stopped. -/
def bindConsumer (delivery : Nat) (spec : ConsumerSpec) :
    Dialogue base (BusResult ConsumerSubscription) := do
  match ← catalog (.createConsumer spec) with
  | .ok () => return .ok { delivery, spec }
  | .error error =>
    let _ ← session (.stop delivery)
    return .error error

/-- Subscribes a subject through the stream that covers it. -/
def subscribe (options : Options) (connection : Nat) (subject queue : String)
    (delivery : Delivery) : Dialogue base (BusResult ConsumerSubscription) := do
  match ← catalog (.streamFor subject) with
  | .error error => return .error error
  | .ok none =>
    return .error (.operation "subscribe" ("no stream covers '" ++ subject ++ "'"))
  | .ok (some stream) =>
    let spec := ConsumerSpec.of options stream subject queue
    match ← session (.subscribe connection spec.deliverSubject queue delivery) with
    | .error error => return .error error
    | .ok handle => bindConsumer handle spec

/-- Opens a session, and ensures the configured stream when asked to. -/
def openSession (options : Options) : Dialogue base (BusResult Nat) := do
  match ← session .openSession with
  | .error error => return .error error
  | .ok connection =>
    if options.autoProvision then
      match ← (provisionStream options).translate (fun c => catalog c) with
      | .error error => return .error error
      | .ok _ => return .ok connection
    else return .ok connection

/-- Carries out the calls of a client. -/
def carryOut (options : Options) :
    (c : Connection.Call ConsumerSubscription) → Dialogue base c.Answer
  | .openSession => openSession options
  | .publish connection message => publish connection message options.publishRetries
  | .subscribe connection subject queue delivery =>
    subscribe options connection subject queue delivery
  | .stop subscription => unsubscribe subscription
  | .acknowledge reply confirm => session (.acknowledge reply confirm)
  | .drain connection => session (.drain connection)

end JetStream

end MessageBus.Nats

/-
**Streams and consumers.** The management that subscriptions through a stream need.

* `Catalog.Call` — finding and creating streams, creating and deleting consumers.
* `provisionStream` — ensures that a stream covers the configured subject, and names it.
-/

import MessageBus.Dialogue
import MessageBus.Nats.Consumer

namespace MessageBus.Nats

namespace Catalog

/-- What is asked of the management of streams. -/
inductive Call
  /-- The name of the stream that covers a subject, if there is one. -/
  | streamFor (subject : String)
  /-- Creates a stream for a subject. -/
  | createStream (name subject : String)
  /-- Creates a consumer, or finds an identical one. -/
  | createConsumer (spec : ConsumerSpec)
  /-- Deletes a consumer of a stream. -/
  | deleteConsumer (stream name : String)

/-- The type of the answer to each call. -/
abbrev Call.Answer : Call → Type
  | streamFor _ => BusResult (Option String)
  | createStream _ _ => BusResult Unit
  | createConsumer _ => BusResult Unit
  | deleteConsumer _ _ => BusResult Unit

/-- The interface of the management of streams. -/
abbrev interface : Interface := ⟨Call, Call.Answer⟩

/-- Asks the management of streams. -/
def call (c : Call) : Dialogue interface c.Answer :=
  .ask (I := interface) c .done

end Catalog

/-- The name of the stream that provisioning creates. -/
def provisionedName (options : Options) (subject : String) : String :=
  options.durable.getD (streamName subject)

/-- Ensures that a stream covers the configured subject; the answer is its name. -/
def provisionStream (options : Options) : Dialogue Catalog.interface (BusResult String) := do
  let subject := topicToSubject options.subject
  match ← Catalog.call (.streamFor subject) with
  | .error error => return .error error
  | .ok (some existing) => return .ok existing
  | .ok none =>
    let name := provisionedName options subject
    if name.isEmpty then
      return .error (.configuration
        ("cannot derive a stream name from subject '" ++ subject ++ "'"))
    else match ← Catalog.call (.createStream name subject) with
      | .error error => return .error error
      | .ok () => return .ok name

end MessageBus.Nats

/-
**Clients without a connection.** What the operations of a new client answer before `connect`.

* `Offline` — the states of the clients and the place where they run; no call reaches a broker.
* `Offline.outcome` — the outcome of one operation on a new client.
-/

import MessageBus.Factory

namespace MessageBus

/-- New clients, and the place where they run. -/
structure Offline where
  /-- The state of an MQTT client. -/
  mqtt : Mqtt.Client.State := {}
  /-- The state of a NATS client. -/
  nats : Nats.Client.State Nat := {}
  /-- The place where they run. -/
  place : Workplace := {}

namespace Offline

/-- Answers a question, unless it is a call on a connection. -/
def answer? (supply : Nat → String) :
    (question : Backend.surroundings.work.Ask) → Offline →
      Option (Backend.surroundings.work.Answer question × Offline)
  | .inl (.inl (.inl question)), world =>
    let (reply, mqtt) := Mqtt.Client.State.answer question world.mqtt
    some (reply, { world with mqtt })
  | .inl (.inr (.inl question)), world =>
    let (reply, nats) := Nats.Client.State.answer question world.nats
    some (reply, { world with nats })
  | .inr question, world => do
    let (reply, place) ← Workplace.answer? supply question world.place
    return (reply, { world with place })
  | .inl (.inl (.inr _)), _ => none
  | .inl (.inr (.inr _)), _ => none

/-- The outcome of one operation on a new client, unless it reaches for a connection. -/
def outcome {α : Type} (supply : Nat → String)
    (operation : Dialogue Backend.surroundings.work α) : Option α :=
  (operation.advance (answer? supply) {}).1.result?

end Offline

end MessageBus

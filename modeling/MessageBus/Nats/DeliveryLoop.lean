/-
**Delivery loops.** Each subscription hands its messages out one at a time.

* `DeliveryLoop` — the messages that reached the subscription and were not yet taken, the signals
  that were given, and how far the loop is.
* `DeliveryLoop.next?` — what the loop does next, when it is not busy with a message: a stop goes
  before a drain, and both before a message. After a drain, the messages that have arrived are still
  handed out.
-/

import MessageBus.Nats.Message

namespace MessageBus.Nats

/-- How far a delivery loop is. -/
inductive DeliveryLoop.Phase
  /-- It takes messages. -/
  | serving
  /-- It hands out what is left after a drain. -/
  | draining
  /-- It has ended. -/
  | ended
  deriving DecidableEq, Inhabited, Repr

/-- The loop of one subscription. -/
structure DeliveryLoop where
  /-- How far the loop is. -/
  phase : DeliveryLoop.Phase := .serving
  /-- The messages that have arrived and were not yet taken, oldest first. -/
  arrived : List Message := []
  /-- Whether a stop was asked for. -/
  stopping : Bool := false
  /-- Whether the session drains. -/
  draining : Bool := false
  /-- Whether the server closed the subscription. -/
  closed : Bool := false
  deriving DecidableEq, Inhabited

namespace DeliveryLoop

/-- What a loop does next. -/
inductive Action
  /-- Hands out a message. -/
  | handle (message : Message)
  /-- Ends the subscription at the server. -/
  | leave
  /-- Ends. -/
  | finish
  deriving DecidableEq

/-- What the loop does next, if it has anything to do. -/
def next? (loop : DeliveryLoop) : Option (Action × DeliveryLoop) :=
  match loop.phase with
  | .serving =>
    if loop.stopping then some (.leave, { loop with phase := .ended })
    else if loop.draining then some (.leave, { loop with phase := .draining })
    else match loop.arrived with
      | message :: rest => some (.handle message, { loop with arrived := rest })
      | [] => if loop.closed then some (.finish, { loop with phase := .ended }) else none
  | .draining => match loop.arrived with
    | message :: rest => some (.handle message, { loop with arrived := rest })
    | [] => some (.finish, { loop with phase := .ended })
  | .ended => none

/-- Whether the loop takes messages from the server. -/
def listens (loop : DeliveryLoop) : Bool :=
  loop.phase = .serving && !loop.closed

/-- A message reaches the subscription. -/
def arrive (loop : DeliveryLoop) (message : Message) : DeliveryLoop :=
  if loop.listens then { loop with arrived := loop.arrived ++ [message] } else loop

end DeliveryLoop

end MessageBus.Nats

/-
**A core connection to any broker.** A NATS client with its subscriptions, while messages arrive.

* `CoreLink` — the client's own state, the place where it runs, and its subscriptions.
* `CoreLink.Answers` — how a call may be answered: publishing and subscribing may fail at any time.
* `CoreLink.Happens` — what else may happen: a message reaches a subscription whose subject takes
  it, a delivery loop does what it does next or goes on with a delivery, the server closes a
  subscription, time passes.
* `CoreLink.scene` — all of that together.
-/

import MessageBus.Proofs.Dialogue.Interleaving
import MessageBus.Proofs.Subject.Coverage
import MessageBus.Scripted.NatsServer

namespace MessageBus.Nats

/-- A NATS client on a core connection. -/
structure CoreLink where
  /-- The client's own state. -/
  client : Client.State Nat := {}
  /-- The place where it runs. -/
  place : Workplace := {}
  /-- All subscriptions so far; handles are places in this list. -/
  subscriptions : List Subscription := []

namespace CoreLink

/-- What happens beside the turns of calls. -/
inductive Incident
  /-- A message reaches a subscription. -/
  | arrive (handle : Nat) (message : Message)
  /-- A delivery loop does what it does next. -/
  | turn (handle : Nat)
  /-- A delivery loop goes on with the message that it is busy with. -/
  | deliver (handle : Nat)
  /-- The server closes a subscription. -/
  | close (handle : Nat)
  /-- Time passes. -/
  | tick (milliseconds : Nat)

/-- Changes one subscription. -/
def modify (world : CoreLink) (handle : Nat) (change : Subscription → Subscription) : CoreLink :=
  { world with subscriptions := world.subscriptions.modify handle change }

/-- How a link to any broker may answer a call, and the place a question. -/
def Answers (supply : Nat → String) : (question : Link.interface.work.Ask) → CoreLink →
    Link.interface.work.Answer question → CoreLink → Prop
  | .inr question, world, answer, after =>
    ∃ place, world.place.answer? supply question = some (answer, place) ∧
      after = { world with place }
  | .inl (.subscribe subject queue delivery), world, .ok handle, after =>
    handle = world.subscriptions.length ∧ after = { world with
      subscriptions := world.subscriptions ++ [{ subject, queue, delivery }] }
  | .inl (.signalStop handle), world, first, after =>
    first = world.subscriptions[handle]?.any (fun subscription => !subscription.loop.stopping) ∧
      after = world.modify handle fun subscription =>
        { subscription with loop := { subscription.loop with stopping := true } }
  | .inl .signalDrain, world, running, after =>
    running = world.subscriptions.zipIdx.filterMap (fun (subscription, handle) =>
        if subscription.ended then none else some handle) ∧
      after = { world with subscriptions := world.subscriptions.map fun subscription =>
        { subscription with loop := { subscription.loop with draining := true } } }
  | .inl (.awaitEnd handle deadline), world, ended, after =>
    ended = world.subscriptions[handle]?.all Subscription.ended ∧
      (ended = false → deadline ≤ world.place.now) ∧ after = world
  | .inl _, world, _, after => after = world

/-- What is left of a delivery, if it has not ended. -/
def remaining : Dialogue Link.interface.work Unit → Option (Dialogue Link.interface.work Unit)
  | .done () => none
  | activity => some activity

/-- What a delivery loop is busy with after an action. -/
def undertaking (options : Options) (delivery : Delivery) :
    DeliveryLoop.Action → Option (Dialogue Link.interface.work Unit)
  | .handle message => remaining (Link.handle .core options delivery message)
  | .leave => none
  | .finish => none

/-- What may happen beside the turns of calls. -/
def Happens (supply : Nat → String) (options : Options) :
    Incident → CoreLink → CoreLink → Prop
  | .arrive handle message, world, after => ∃ subscription,
    world.subscriptions[handle]? = some subscription ∧
      Subject.Matches subscription.subject message.subject ∧
      after = world.modify handle fun subscription =>
        { subscription with loop := subscription.loop.arrive message }
  | .turn handle, world, after => ∃ subscription action loop,
    world.subscriptions[handle]? = some subscription ∧ subscription.busy = none ∧
      subscription.loop.next? = some (action, loop) ∧
      after = world.modify handle fun subscription => { subscription with
        loop, busy := undertaking options subscription.delivery action }
  | .deliver handle, world, after => ∃ subscription question resume answer between,
    world.subscriptions[handle]? = some subscription ∧
      subscription.busy = some (.ask question resume) ∧
      Answers supply question world answer between ∧
      after = between.modify handle fun subscription =>
        { subscription with busy := remaining (resume answer) }
  | .close handle, world, after => after = world.modify handle fun subscription =>
      { subscription with loop := { subscription.loop with closed := true } }
  | .tick milliseconds, world, after =>
    after = { world with place := { world.place with now := world.place.now + milliseconds } }

/-- A client on a core connection to any broker. -/
def scene (supply : Nat → String) (options : Options) :
    Scene (ScriptedServer.operating Nat) CoreLink Incident where
  answers
    | .inl question, world, answer, after =>
      answer = (world.client.answer question).1 ∧
        after = { world with client := (world.client.answer question).2 }
    | .inr question, world, answer, after => Answers supply question world answer after
  happens := Happens supply options

/-- What happens on a core connection while calls take turns. -/
abbrev Chronicle (ι : Type) := List (Event ι (ScriptedServer.operating Nat) CoreLink Incident)

/-- A delivery either forwards the envelope of its message or reports why there is none. -/
theorem handle_eq (options : Options) (delivery : Delivery) (message : Message) :
    Link.handle .core options delivery message =
      match unmarshal delivery.format message with
      | .ok envelope =>
        (Link.task (.send delivery.messages envelope)).bind fun _ => .done ()
      | .error error =>
        (Link.task (.report delivery.errors error)).bind fun _ => .done () := by
  unfold Link.handle Delivery.handle Delivery.forward Delivery.acknowledge
  cases unmarshal delivery.format message with
  | ok envelope => cases message.reply <;> rfl
  | error error => cases message.reply <;> rfl

end CoreLink

end MessageBus.Nats

/-
**A client of either style at work.** A NATS client with its delivery loops, to which anything may
be sent.

* `Carrier` — a style of connection: how it carries out the calls of a client, and which delivery
  loop a handle stands for; `Carrier.core`, `Carrier.jetStream`.
* `Station` — the client's own state with its link; `Station.scene` lets any message arrive at any
  subscription at any time, whatever its subject.
* `CoreLink.Stays` — what no answer changes: queues stay, closed ones stay closed, and delivery
  loops go on with what they are busy with.
* `stays_of_answers` — **whatever is answered**, that much stays.
-/

import MessageBus.Proofs.Nats.CoreLink
import MessageBus.Proofs.Task.Waiting

namespace MessageBus.Nats

variable {Handle : Type}

/-! ### Styles -/

/-- A style of connection. -/
structure Carrier (Handle : Type) where
  /-- The style. -/
  style : Style
  /-- Carries out the calls of a client. -/
  session : Options → (c : Connection.Call Handle) → Dialogue Link.interface.work c.Answer
  /-- The delivery loop that a handle stands for. -/
  loop : Handle → Nat

/-- Core connections. -/
def Carrier.core : Carrier Nat where
  style := .core
  session := Link.session .core
  loop handle := handle

/-- Connections over streams. -/
def Carrier.jetStream : Carrier ConsumerSubscription where
  style := .jetStream
  session := Link.jetStream
  loop handle := handle.delivery

/-- A client with its link. -/
structure Station (Handle : Type) where
  /-- The client's own state. -/
  client : Client.State Handle := {}
  /-- The link, with the place where the client runs and its subscriptions. -/
  link : CoreLink := {}

namespace Station

/-- What a delivery loop is busy with after an action. -/
def undertaking (style : Style) (options : Options) (delivery : Delivery) :
    DeliveryLoop.Action → Option (Dialogue Link.interface.work Unit)
  | .handle message => CoreLink.remaining (Link.handle style options delivery message)
  | .leave => none
  | .finish => none

/-- What may happen beside the turns of calls. Any message may arrive at any subscription. -/
def Happens (style : Style) (supply : Nat → String) (options : Options) :
    CoreLink.Incident → CoreLink → CoreLink → Prop
  | .arrive handle message, link, after => after = link.modify handle fun subscription =>
      { subscription with loop := subscription.loop.arrive message }
  | .turn handle, link, after => ∃ subscription action loop,
    link.subscriptions[handle]? = some subscription ∧ subscription.busy = none ∧
      subscription.loop.next? = some (action, loop) ∧
      after = link.modify handle fun subscription => { subscription with
        loop, busy := undertaking style options subscription.delivery action }
  | incident, link, after => CoreLink.Happens supply options incident link after

/-- A client of a style, with any broker. -/
def scene (carrier : Carrier Handle) (supply : Nat → String) (options : Options) :
    Scene (ScriptedServer.operating Handle) (Station Handle) CoreLink.Incident where
  answers
    | .inl question, world, answer, after =>
      answer = (world.client.answer question).1 ∧
        after = { world with client := (world.client.answer question).2 }
    | .inr question, world, answer, after => ∃ link,
      CoreLink.Answers supply question world.link answer link ∧ after = { world with link }
  happens incident world after := ∃ link,
    Happens carrier.style supply options incident world.link link ∧ after = { world with link }

end Station

/-! ### What answers leave -/

/-- A subscription after an answer: what is delivered is the same, and a stop is not taken back. -/
structure Subscription.Continues (subscription later : Subscription) : Prop where
  /-- Messages are delivered as before. -/
  delivery : later.delivery = subscription.delivery
  /-- The delivery loop is busy with what it was busy with. -/
  busy : later.busy = subscription.busy
  /-- A loop that was asked to stop still is. -/
  stopping : subscription.loop.stopping → later.loop.stopping

/-- What answers leave. -/
structure CoreLink.Stays (link after : CoreLink) : Prop where
  /-- Queues of messages stay. -/
  messages : Queue.Stay link.place.messages after.place.messages
  /-- Queues of errors stay. -/
  errors : Queue.Stay link.place.errors after.place.errors
  /-- Subscriptions stay, and go on. -/
  subscriptions : ∀ (handle : Nat) (subscription : Subscription),
    link.subscriptions[handle]? = some subscription → ∃ later : Subscription,
      after.subscriptions[handle]? = some later ∧ subscription.Continues later

namespace CoreLink

variable {supply : Nat → String} {options : Options} {style : Style} {link after : CoreLink}

theorem Stays.refl (link : CoreLink) : Stays link link :=
  ⟨.refl _, .refl _, fun _ subscription found => ⟨subscription, found, rfl, rfl, id⟩⟩

/-- Signals to a delivery loop leave all that answers leave. -/
theorem stays_modify (link : CoreLink) (handle : Nat) (signal : DeliveryLoop → DeliveryLoop)
    (stopping : ∀ loop : DeliveryLoop, loop.stopping → (signal loop).stopping) :
    Stays link (link.modify handle fun subscription =>
      { subscription with loop := signal subscription.loop }) := by
  refine ⟨.refl _, .refl _, fun other subscription found => ?_⟩
  by_cases same : handle = other
  · subst same
    refine ⟨{ subscription with loop := signal subscription.loop }, ?_, rfl, rfl, stopping _⟩
    exact (List.getElem?_modify_eq _ _ _).trans (congrArg (Option.map _) found)
  · exact ⟨subscription, (List.getElem?_modify_ne _ _ same).trans found, rfl, rfl, id⟩

/-- **Whatever is answered**, queues and subscriptions stay. -/
theorem stays_of_answers {question : Link.interface.work.Ask}
    {answer : Link.interface.work.Answer question}
    (answered : Answers supply question link answer after) : Stays link after := by
  cases question with
  | inr question =>
    obtain ⟨place, answered, rfl⟩ := answered
    obtain ⟨messages, errors⟩ := Workplace.stay_of_answer? answered
    exact ⟨messages, errors, (Stays.refl link).subscriptions⟩
  | inl call =>
    cases call with
    | subscribe subject queue delivery =>
      cases answer with
      | error words =>
        cases answered
        exact .refl _
      | ok handle =>
        obtain ⟨rfl, rfl⟩ := answered
        refine ⟨.refl _, .refl _, fun other subscription found => ?_⟩
        obtain ⟨inside, -⟩ := List.getElem?_eq_some_iff.mp found
        exact ⟨subscription, (List.getElem?_append_left inside).trans found, rfl, rfl, id⟩
    | signalStop handle =>
      obtain ⟨-, rfl⟩ := answered
      exact stays_modify link handle (fun loop => { loop with stopping := true }) fun _ _ => rfl
    | signalDrain =>
      obtain ⟨-, rfl⟩ := answered
      refine ⟨.refl _, .refl _, fun other subscription found => ?_⟩
      refine ⟨{ subscription with loop := { subscription.loop with draining := true } }, ?_, rfl,
        rfl, id⟩
      exact (List.getElem?_map ..).trans (congrArg (Option.map _) found)
    | awaitEnd handle deadline =>
      obtain ⟨-, -, rfl⟩ := answered
      exact .refl _
    | readCredentials | readSeed | dial | publish | store | flush | acknowledge | streamNames
    | streamSubjects | createStream | createConsumer | deleteConsumer =>
      cases answered
      exact .refl _

end CoreLink

end MessageBus.Nats

/-
**Deliveries.** What happens to a message that arrives on a subscription.

* `Connection.Call` — what a client asks of its connection.
* `Delivery` — the queues of a subscription, and how its messages are read and acknowledged.
* `Delivery.handle` — forwards the envelope, or reports why there is none; then acknowledges a
  message that has a reply address, and reports a failure of that.
-/

import MessageBus.Client
import MessageBus.Nats.Message

namespace MessageBus.Nats

/-- The queues of a subscription, and how its messages are read and acknowledged. -/
structure Delivery where
  /-- The topic that was subscribed. -/
  topic : String
  /-- The queue of messages. -/
  messages : Nat
  /-- The queue of errors. -/
  errors : Nat
  /-- How envelopes travel in messages. -/
  format : WireFormat
  /-- Wait for the confirmation of acknowledgements. -/
  exactlyOnce : Bool
  deriving DecidableEq, Inhabited

namespace Connection

/-- What a client asks of its connection, whose subscriptions are known by handles. -/
inductive Call (Handle : Type)
  /-- Opens a session. -/
  | openSession
  /-- Sends a message. -/
  | publish (connection : Nat) (message : Message)
  /-- Subscribes a subject, in a queue group unless that is empty. -/
  | subscribe (connection : Nat) (subject queue : String) (delivery : Delivery)
  /-- Ends the subscription of a handle. -/
  | stop (handle : Handle)
  /-- Acknowledges through a reply address, waiting for the confirmation if asked to. -/
  | acknowledge (reply : String) (confirm : Bool)
  /-- Lets deliveries finish and ends every subscription. -/
  | drain (connection : Nat)

/-- The type of the answer to each call. -/
abbrev Call.Answer {Handle : Type} : Call Handle → Type
  | openSession => BusResult Nat
  | publish _ _ => BusResult Unit
  | subscribe _ _ _ _ => BusResult Handle
  | stop _ => BusResult Unit
  | acknowledge _ _ => BusResult Unit
  | drain _ => BusResult Unit

/-- The interface of a connection. -/
abbrev interface (Handle : Type) : Interface := ⟨Call Handle, Call.Answer⟩

end Connection

namespace Delivery

variable {Handle : Type}

/-- Asks the place where deliveries run. -/
def task (question : Task.Ask) : Dialogue (Connection.interface Handle).work question.Answer :=
  .ask (I := (Connection.interface Handle).work) (.inr question) .done

/-- Asks the connection. -/
def call (c : Connection.Call Handle) : Dialogue (Connection.interface Handle).work c.Answer :=
  .ask (I := (Connection.interface Handle).work) (.inl c) .done

/-- Forwards the envelope of a message, or reports why there is none. -/
def forward (delivery : Delivery) (message : Message) :
    Dialogue (Connection.interface Handle).work Unit := do
  match unmarshal delivery.format message with
  | .ok envelope => let _ ← task (.send delivery.messages envelope)
  | .error error => let _ ← task (.report delivery.errors error)

/-- Acknowledges a message that has a reply address, and reports a failure. -/
def acknowledge (delivery : Delivery) (message : Message) :
    Dialogue (Connection.interface Handle).work Unit := do
  match message.reply with
  | none => return ()
  | some reply => match ← call (.acknowledge reply delivery.exactlyOnce) with
    | .ok () => return ()
    | .error error => let _ ← task (.report delivery.errors error)

/-- Handles one message. -/
def handle (delivery : Delivery) (message : Message) :
    Dialogue (Connection.interface Handle).work Unit := do
  delivery.forward message
  delivery.acknowledge message

end Delivery

end MessageBus.Nats

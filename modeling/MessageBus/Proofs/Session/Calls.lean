/-
**Calls one after another**, on any client.

* `UserCall` — everything that a client's user can call; `MessageClient.callAll` — calls one after
  another, whatever they return.
* `Effect.of_callAll` — **calls do what each of them does**; a request does what the subscribe, the
  publish and the unsubscribe do that it is made of.
-/

import MessageBus.Proofs.Dialogue.Beside
import MessageBus.Proofs.Session.Sign

namespace MessageBus

open Dialogue

/-- Everything that a client's user can call. -/
inductive UserCall
  /-- A call on envelopes, topics or the session. -/
  | plain (call : ClientCall)
  /-- Publishes a request and waits for its reply. -/
  | request (envelope : Envelope) (requestTopic base : String) (timeout : Nat)
  /-- Publishes raw bytes. -/
  | publishBinary (payload : List UInt8) (topic : String)
  /-- Subscribes topics whose messages are raw bytes. -/
  | subscribeBinary (channels : List Channel) (errors : Nat)

variable {backend : Interface}

/-- What a call does; its result is left aside. -/
def UserCall.activity (client : MessageClient backend) : UserCall → Dialogue backend.work Unit
  | .plain call => (call.activity client).bind fun _ => .done ()
  | .request envelope requestTopic base timeout =>
    (client.request envelope requestTopic base timeout).bind fun _ => .done ()
  | .publishBinary payload topic => (client.publishBinary payload topic).bind fun _ => .done ()
  | .subscribeBinary channels errors =>
    (client.subscribeBinary channels errors).bind fun _ => .done ()

/-- Calls one after another, whatever they return. -/
def MessageClient.callAll (client : MessageClient backend) :
    List UserCall → Dialogue backend.work Unit
  | [] => .done ()
  | call :: rest => (call.activity client).bind fun _ => client.callAll rest

/-- A client whose requests are made of its other calls. -/
def MessageClient.RequestsByCalls (client : MessageClient backend) : Prop :=
  ∀ envelope requestTopic base timeout, client.request envelope requestTopic base timeout =
    (Request.request envelope requestTopic base timeout).translate
      (Request.carryOut client.subscribe client.publish client.unsubscribe)

namespace Scene.Effect

variable {W M : Type} {scene : Scene backend W M} {effect : scene.Effect}
  {client : MessageClient backend}

/-- A request does what its calls do. -/
theorem of_request (requests : client.RequestsByCalls)
    (still : ∀ incident world next, ¬ scene.happens incident world next)
    (plain : ∀ call : ClientCall, (effect.beside Task.interface).Of (call.activity client))
    (envelope : Envelope) (requestTopic base : String) (timeout : Nat) :
    (effect.beside Task.interface).Of (client.request envelope requestTopic base timeout) := by
  rw [requests]
  refine of_translate (fun question => ?_) _
  match question with
  | .inl (.subscribe channels errors) => exact plain (.subscribe channels errors)
  | .inl (.publish envelope topic) => exact plain (.publish envelope topic)
  | .inl (.unsubscribe topics) => exact plain (.unsubscribe topics)
  | .inr question => exact of_other still question

/-- **Calls one after another do what each of them does.** -/
theorem of_callAll (requests : client.RequestsByCalls)
    (still : ∀ incident world next, ¬ scene.happens incident world next)
    (plain : ∀ call : ClientCall, (effect.beside Task.interface).Of (call.activity client))
    (publishBinary : ∀ payload topic,
      (effect.beside Task.interface).Of (client.publishBinary payload topic))
    (subscribeBinary : ∀ channels errors,
      (effect.beside Task.interface).Of (client.subscribeBinary channels errors))
    (calls : List UserCall) : (effect.beside Task.interface).Of (client.callAll calls) := by
  induction calls with
  | nil => exact of_done ()
  | cons call rest ih =>
    refine Of.bind ?_ fun _ => ih
    cases call with
    | plain call => exact (plain call).bind fun _ => of_done ()
    | request envelope requestTopic base timeout =>
      exact (of_request requests still plain envelope requestTopic base timeout).bind
        fun _ => of_done ()
    | publishBinary payload topic => exact (publishBinary payload topic).bind fun _ => of_done ()
    | subscribeBinary channels errors =>
      exact (subscribeBinary channels errors).bind fun _ => of_done ()

end Scene.Effect

end MessageBus

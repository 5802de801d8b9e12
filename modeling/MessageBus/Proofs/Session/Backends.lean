/-
**Sessions on both backends.**

* `session_lifecycle` — **over any run of calls, the session of a client has its life**: whatever
  the broker does and however the calls take turns.
-/

import MessageBus.Proofs.Session.Lifecycle
import MessageBus.Proofs.Session.Mqtt
import MessageBus.Proofs.Session.Nats

namespace MessageBus

/-- **Over any run of calls, the session of a client has its life**, on both backends: it is idle,
then connected by one connect, then closed by one disconnect, and whoever comes too early or too
late is told so and changes nothing. -/
theorem session_lifecycle :
    (∀ (Handle ι : Type) [DecidableEq ι] (options : Nats.Options) (canOpen : Bool)
      (calls : ι → ClientCall) log pool after,
      (Nats.Client.model Handle).Runs (Nats.Client.client options canOpen) calls log pool after →
        Lifecycle (Nats.Client.model Handle) (Nats.Client.client options canOpen) (canOpen = true)
          calls log pool after) ∧
    (∀ (ι : Type) [DecidableEq ι] (calls : ι → ClientCall) log pool after,
      Mqtt.Client.model.Runs Mqtt.Client.client calls log pool after →
        Lifecycle Mqtt.Client.model Mqtt.Client.client True calls log pool after) :=
  ⟨fun _ _ _ options canOpen _ _ _ _ run => (Nats.Client.conforms options canOpen).lifecycle run,
    fun _ _ _ _ _ _ run => Mqtt.Client.conforms.lifecycle run⟩

/-- Two connects, a disconnect and a publish that comes too early. -/
def race : Fin 4 → ClientCall
  | 0 => .connect
  | 1 => .connect
  | 2 => .disconnect
  | 3 => .publish (Envelope.new [] "") "a/b"

/-- Both connects find the client idle, the second one loses, and the disconnect fails to drain. -/
theorem session_lifecycle_race :
    (∃ log pool after,
      (Nats.Client.model Nat).Runs (Nats.Client.client {} true) race log pool after ∧
        pool 0 = .done (.ok ()) ∧ pool 1 = .done (.error .alreadyConnected) ∧
        pool 2 = .done (.error .disabled) ∧ pool 3 = .done (.error .notConnected) ∧
        Lifecycle (Nats.Client.model Nat) (Nats.Client.client {} true) (true = true) race log pool
          after) ∧
    (∃ log pool after, Mqtt.Client.model.Runs Mqtt.Client.client race log pool after ∧
        pool 0 = .done (.ok ()) ∧ pool 1 = .done (.error .alreadyConnected) ∧
        pool 2 = .done (.error (.operation "disconnect" "gone")) ∧
        pool 3 = .done (.error .notConnected) ∧
        Lifecycle Mqtt.Client.model Mqtt.Client.client True race log pool after) := by
  constructor
  · have idle : (Nats.Client.model Nat).Runs (Nats.Client.client {} true) race []
        (fun who => (race who).activity (Nats.Client.client {} true)) { client := {} } := .start
    have looked := ((idle.step 0 rfl Session.idle ⟨rfl, rfl⟩).step 1 rfl Session.idle
      ⟨rfl, rfl⟩).step 3 rfl Session.idle ⟨rfl, rfl⟩
    have opened := (looked.step 0 rfl (.ok 0) ⟨nofun, rfl⟩).step 1 rfl (.ok 1) ⟨by decide, rfl⟩
    have installed := (opened.step 0 rfl true ⟨rfl, rfl⟩).step 1 rfl false ⟨rfl, rfl⟩
    have closed := ((installed.step 2 rfl (some 0) ⟨rfl, rfl⟩).step 2 rfl (.error .disabled)
      rfl).step 2 rfl () ⟨rfl, rfl⟩
    exact ⟨_, _, _, closed, rfl, rfl, rfl, rfl, session_lifecycle.1 Nat (Fin 4) {} true race _ _ _
      closed⟩
  · have idle : Mqtt.Client.model.Runs Mqtt.Client.client race []
        (fun who => (race who).activity Mqtt.Client.client) { client := {} } := .start
    have looked := ((idle.step 0 rfl Session.idle ⟨rfl, rfl⟩).step 1 rfl Session.idle
      ⟨rfl, rfl⟩).step 3 rfl Session.idle ⟨rfl, rfl⟩
    have opened := (looked.step 0 rfl (.ok 0) ⟨nofun, rfl⟩).step 1 rfl (.ok 1) ⟨by decide, rfl⟩
    have installed := ((opened.step 0 rfl true ⟨rfl, rfl⟩).step 1 rfl false ⟨rfl, rfl⟩).step
      1 rfl () rfl
    have closed := ((((installed.step 2 rfl (some 0) ⟨rfl, rfl⟩).step 2 rfl () rfl).step 2 rfl
      (.error "gone") rfl).step 2 rfl () rfl).step 2 rfl () ⟨rfl, rfl⟩
    exact ⟨_, _, _, closed, rfl, rfl, rfl, rfl, session_lifecycle.2 (Fin 4) race _ _ _ closed⟩

end MessageBus

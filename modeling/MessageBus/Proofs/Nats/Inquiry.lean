/-
**What one request does on a core connection.** A request of a NATS client down to the questions to
its own state, the link and the place.

* `Inquiry.activity` — a request of the client, as it is carried out over a core session.
* `Inquiry.Phase` — how far a request is: its queues, its handle, the envelope that it received.
* `Inquiry.protocol` — what it may ask in each phase, and where the answers lead. While its response
  topic is its own, the registry has no surprises for it.
* `follows_activity` — **a request keeps to the protocol**, and a reply that it returns is the one
  that it received.
-/

import MessageBus.Proofs.Nats.CoreLink
import MessageBus.Proofs.Request.Course
import MessageBus.Proofs.Topic.Response

namespace MessageBus.Nats.Inquiry

/-- The response topic of a request. -/
def topic (call : RequestCall) : String :=
  responseTopic call.base call.envelope.requestId

/-- The subject of that topic. -/
def subject (call : RequestCall) : String :=
  topicToSubject (topic call)

/-- How the messages of the response topic are delivered. -/
def delivery (options : Options) (call : RequestCall) (queues : Queues) : Delivery where
  topic := topic call
  messages := queues.messages
  errors := queues.errors
  format := options.format
  exactlyOnce := options.exactlyOnce

/-- A request of a client over a core session. -/
def activity (supply : Nat → String) (options : Options) (call : RequestCall) :
    Dialogue (ScriptedServer.operating Nat) (BusResult Envelope) :=
  let setting := ScriptedServer.core supply options
  setting.enact
    (setting.client.request call.envelope call.topic call.base call.timeout)

/-! ### The phases of a request -/

/-- How far a request is. -/
inductive Phase
  /-- It has done nothing. -/
  | idle
  /-- It has its queues. -/
  | opened (queues : Queues)
  /-- It has a subscription that is not registered. -/
  | subscribed (queues : Queues) (handle : Nat)
  /-- Its response topic is registered, and it may have received its reply. -/
  | registered (queues : Queues) (handle : Nat) (received : Option Envelope)
  /-- It has taken its subscription out of the registry. -/
  | taken (handle : Nat) (received : Option Envelope)
  /-- Its subscription could not be stopped. -/
  | refused (handle : Nat) (received : Option Envelope)
  /-- It has put its subscription back. -/
  | kept (handle : Nat) (received : Option Envelope)
  /-- It has no subscription any more. -/
  | ended (received : Option Envelope)

namespace Phase

/-- The queues in which a request waits. -/
def queues? : Phase → Option Queues
  | .opened queues => some queues
  | .subscribed queues _ => some queues
  | .registered queues _ _ => some queues
  | _ => none

/-- The handle that the registry has for the response topic. -/
def handle? : Phase → Option Nat
  | .registered _ handle _ => some handle
  | .kept handle _ => some handle
  | _ => none

/-- The envelope that was received. -/
def received? : Phase → Option Envelope
  | .registered _ _ received => received
  | .taken _ received => received
  | .refused _ received => received
  | .kept _ received => received
  | .ended received => received
  | _ => none

/-- Whether the native unsubscribe failed. -/
def hasFailed : Phase → Prop
  | .refused _ _ => True
  | .kept _ _ => True
  | _ => False

/-- Whether a request has nothing more to do. -/
def hasEnded : Phase → Prop
  | .kept _ _ => True
  | .ended _ => True
  | _ => False

end Phase

/-- What a request may ask. -/
inductive Permits (options : Options) (call : RequestCall) :
    Phase → (ScriptedServer.operating Nat).Ask → Prop
  /-- At first it opens its queues. -/
  | openQueues : Permits options call .idle (.inr (.inr (.openQueues 1)))
  /-- It looks at the session. -/
  | look (phase : Phase) : Permits options call phase (.inl .session)
  /-- It takes an earlier subscription of its topic. -/
  | vacate (queues : Queues) : Permits options call (.opened queues) (.inl (.take (topic call)))
  /-- It subscribes. -/
  | subscribe (queues : Queues) : Permits options call (.opened queues)
      (.inr (.inl (.subscribe (subject call) options.queueGroup (delivery options call queues))))
  /-- It registers its subscription. -/
  | register (queues : Queues) (handle : Nat) :
      Permits options call (.subscribed queues handle) (.inl (.register (topic call) handle))
  /-- It publishes. -/
  | publish (phase : Phase) (message : Message) :
      Permits options call phase (.inr (.inl (.publish message)))
  /-- It reads the time. -/
  | timeIn (phase : Phase) (milliseconds : Nat) :
      Permits options call phase (.inr (.inr (.timeIn milliseconds)))
  /-- It waits for its reply. -/
  | await (queues : Queues) (handle : Nat) (received : Option Envelope) (deadline : Nat) :
      Permits options call (.registered queues handle received)
        (.inr (.inr (.await queues deadline)))
  /-- It closes its queues. -/
  | close (queues : Queues) (handle : Nat) (received : Option Envelope) :
      Permits options call (.registered queues handle received) (.inr (.inr (.close queues)))
  /-- It takes its own subscription. -/
  | take (queues : Queues) (handle : Nat) (received : Option Envelope) :
      Permits options call (.registered queues handle received) (.inl (.take (topic call)))
  /-- It asks its delivery loop to stop. -/
  | signalStop (handle : Nat) (received : Option Envelope) :
      Permits options call (.taken handle received) (.inr (.inl (.signalStop handle)))
  /-- It waits for the end of its delivery loop. -/
  | awaitEnd (handle : Nat) (received : Option Envelope) (deadline : Nat) :
      Permits options call (.taken handle received) (.inr (.inl (.awaitEnd handle deadline)))
  /-- It puts its subscription back. -/
  | restore (handle : Nat) (received : Option Envelope) :
      Permits options call (.refused handle received) (.inl (.restore (topic call) handle))

/-- The answers that can come while no other call touches the response topic. -/
def Expects : Phase → (question : (ScriptedServer.operating Nat).Ask) →
    (ScriptedServer.operating Nat).Answer question → Prop
  | _, .inl .session, session => ∃ connection, session = .connected connection
  | .opened _, .inl (.take _), found => found = none
  | .subscribed _ _, .inl (.register _ _), older => older = none
  | .registered _ handle _, .inl (.take _), found => found = some handle
  | _, _, _ => True

/-- The phase after an answer. -/
def next : Phase → (question : (ScriptedServer.operating Nat).Ask) →
    (ScriptedServer.operating Nat).Answer question → Phase
  | .idle, .inr (.inr (.openQueues _)), queues => .opened queues
  | .opened queues, .inr (.inl (.subscribe _ _ _)), .ok handle => .subscribed queues handle
  | .opened _, .inr (.inl (.subscribe _ _ _)), .error _ => .ended none
  | .subscribed queues handle, .inl (.register _ _), _ => .registered queues handle none
  | .registered queues handle _, .inr (.inr (.await _ _)), .message envelope =>
    .registered queues handle (some envelope)
  | .registered _ handle received, .inl (.take _), _ => .taken handle received
  | .taken _ received, .inr (.inl (.signalStop _)), false => .ended received
  | .taken _ received, .inr (.inl (.awaitEnd _ _)), true => .ended received
  | .taken handle received, .inr (.inl (.awaitEnd _ _)), false => .refused handle received
  | .refused handle received, .inl (.restore _ _), _ => .kept handle received
  | phase, _, _ => phase

/-- A look at the session leaves the phase. -/
theorem next_session (phase : Phase) (session : Session) :
    next phase (.inl .session) session = phase := by
  cases phase <;> rfl

/-- Publishing leaves the phase. -/
theorem next_publish (phase : Phase) (message : Message) (answer : Except String Unit) :
    next phase (.inr (.inl (.publish message))) answer = phase := by
  cases phase <;> rfl

/-- Reading the time leaves the phase. -/
theorem next_timeIn (phase : Phase) (milliseconds answer : Nat) :
    next phase (.inr (.inr (.timeIn milliseconds))) answer = phase := by
  cases phase <;> rfl

/-- The rules for a request. -/
def protocol (options : Options) (call : RequestCall) :
    Protocol (ScriptedServer.operating Nat) Phase where
  permits := Permits options call
  expects := Expects
  next := next

/-- How a request ends: its subscription has come to its end, and a reply that it returns is the one
that it received. -/
def Ends (result : BusResult Envelope) (phase : Phase) : Prop :=
  phase.hasEnded ∧ ∀ envelope, result = .ok envelope → phase.received? = some envelope

/-! ### A request keeps to its protocol -/

/-- What carries out the questions of a request. -/
def carry (options : Options) (question : Request.surroundings.Ask) :
    Dialogue (ScriptedServer.operating Nat) (Request.surroundings.Answer question) :=
  let operations : MessageClient (Client.backend Nat) := Client.client options true
  (Request.carryOut operations.subscribe operations.publish operations.unsubscribe
    question).translate (ScriptedServer.carryOut (Link.session .core options))

/-- A request is carried out question by question. -/
theorem activity_eq (supply : Nat → String) (options : Options) (call : RequestCall) :
    activity supply options call =
      (Request.request call.envelope call.topic call.base call.timeout).translate
        (carry options) :=
  Dialogue.translate_translate _ _ _

variable {options : Options} {call : RequestCall} {queues : Queues} {handle : Nat}
  {received : Option Envelope}

/-- Subscribing the response topic ends with the topic registered, or with nothing. -/
theorem follows_subscribe (queues : Queues) :
    (carry options (.inl (Request.opening (topic call) queues))).Follows (protocol options call)
      (fun result phase => match result with
        | .ok () => ∃ handle, phase = .registered queues handle none
        | .error _ => phase = .ended none) (.opened queues) := by
  refine ⟨.look _, ?_⟩
  rintro _ ⟨connection, rfl⟩
  refine ⟨.vacate queues, ?_⟩
  rintro _ rfl
  refine ⟨.subscribe queues, fun subscribed _ => ?_⟩
  cases subscribed with
  | error words => exact rfl
  | ok handle =>
    refine ⟨.register queues handle, ?_⟩
    rintro _ rfl
    exact ⟨handle, rfl⟩

/-- Publishing leaves a request where it is. -/
theorem follows_publish (envelope : Envelope) (requestTopic : String) :
    (carry options (.inl (.publish envelope requestTopic))).Follows (protocol options call)
      (fun _ phase => phase = .registered queues handle received)
      (.registered queues handle received) := by
  refine ⟨.look _, ?_⟩
  rintro _ ⟨connection, rfl⟩
  show Dialogue.Follows _ _ (Dialogue.translate _ (Dialogue.translate _
    (if requestTopic.isEmpty then _ else _))) _
  by_cases empty : requestTopic.isEmpty
  · rw [if_pos empty]
    exact rfl
  · rw [if_neg empty]
    exact ⟨.publish _ _, fun _ _ => rfl⟩

/-- Waiting for the reply leaves the topic registered, and what is returned was received. -/
theorem follows_exchange (sent : Envelope) (requestTopic : String) (timeout : Nat) :
    ((Request.exchange sent requestTopic (topic call) queues timeout).translate
      (carry options)).Follows (protocol options call)
      (fun result phase => ∃ received, phase = .registered queues handle received ∧
        ∀ envelope, result = .ok envelope → received = some envelope)
      (.registered queues handle none) := by
  unfold Request.exchange Request.call
  rw [Dialogue.bind_eq, Dialogue.translate_bind, Dialogue.translate_ask_done]
  refine Dialogue.Follows.bind (follows_publish sent requestTopic) ?_
  rintro published _ rfl
  cases published with
  | error error => exact ⟨none, rfl, nofun⟩
  | ok _ =>
    refine ⟨.timeIn _ _, fun deadline _ => ⟨.await _ _ _ _, fun arrival _ => ?_⟩⟩
    cases arrival with
    | message envelope => exact ⟨some envelope, rfl, fun _ => congrArg _ ∘ Except.ok.inj⟩
    | error error => exact ⟨none, rfl, nofun⟩
    | deadline => exact ⟨none, rfl, nofun⟩

/-- Unsubscribing the response topic brings a request to its end. -/
theorem follows_unsubscribe :
    (carry options (.inl (.unsubscribe [topic call]))).Follows (protocol options call)
      (fun _ phase => phase.hasEnded ∧ phase.received? = received)
      (.registered queues handle received) := by
  refine ⟨.look _, ?_⟩
  rintro _ ⟨connection, rfl⟩
  refine ⟨.take queues handle received, ?_⟩
  rintro _ rfl
  refine ⟨.signalStop handle received, fun first _ => ?_⟩
  cases first with
  | false => exact ⟨trivial, rfl⟩
  | true =>
    refine ⟨.timeIn _ _, fun deadline _ => ⟨.awaitEnd handle received deadline, fun ended _ => ?_⟩⟩
    cases ended with
    | true => exact ⟨trivial, rfl⟩
    | false => exact ⟨.restore handle received, fun _ _ => ⟨trivial, rfl⟩⟩

/-- **A request keeps to its protocol** if it has an identifier. -/
theorem follows_activity (supply : Nat → String)
    (identified : ¬ call.envelope.requestId.isEmpty) :
    (activity supply options call).Follows (protocol options call) Ends .idle := by
  rw [activity_eq, Request.request_eq, Request.identify_of_present identified, Dialogue.done_bind,
    Dialogue.translate_bind]
  refine ⟨.openQueues, fun queues _ => ?_⟩
  show Dialogue.Follows _ _ (Dialogue.translate _ (Request.converse _ _ (topic call) queues _)) _
  unfold Request.converse Request.call
  rw [Dialogue.bind_eq, Dialogue.translate_bind, Dialogue.translate_ask_done]
  refine Dialogue.Follows.bind (follows_subscribe queues) fun subscribed phase reached => ?_
  cases subscribed with
  | error error =>
    cases reached
    exact ⟨trivial, nofun⟩
  | ok _ =>
    obtain ⟨handle, rfl⟩ := reached
    show Dialogue.Follows _ _ (Dialogue.translate _ (Dialogue.bind _ _)) _
    rw [Dialogue.translate_bind]
    refine Dialogue.Follows.bind (follows_exchange _ _ _) ?_
    rintro result _ ⟨received, rfl, reply⟩
    refine ⟨.close queues handle received, fun _ _ => ?_⟩
    show Dialogue.Follows _ _ (Dialogue.translate (carry options)
      ((Request.call (.unsubscribe [topic call])).bind fun _ => .done result)) _
    unfold Request.call
    rw [Dialogue.translate_bind, Dialogue.translate_ask_done]
    refine Dialogue.Follows.bind follows_unsubscribe ?_
    rintro _ phase ⟨done, same⟩
    exact ⟨done, fun envelope ok => same.trans (reply envelope ok)⟩

end MessageBus.Nats.Inquiry

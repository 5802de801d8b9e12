/-
**What one request does, in either style.** A request down to the questions to the client's own
state, the link and the place, and how far it has come with its queues and its subscription.

* `Carrier.activity` — a request of a client of a style.
* `Tenure` — how far a request is: its queues, its topic, and its delivery loop.
* `Tenure.protocol` — what it may ask then, and where the answers lead.
* `Carrier.Keeps` — what the protocol needs of a style; `keeps_core`, `keeps_jetStream` — both
  styles give it.
* `follows_activity` — **a request keeps to the protocol**, with an identifier of its own or not.
-/

import MessageBus.Proofs.Nats.Feeding
import MessageBus.Proofs.Dialogue.Interleaving
import MessageBus.Proofs.Request.Course

namespace MessageBus.Nats

variable {Handle : Type}

/-- A request of a client of a style. -/
def Carrier.activity (carrier : Carrier Handle) (supply : Nat → String) (options : Options)
    (call : RequestCall) : Dialogue (ScriptedServer.operating Handle) (BusResult Envelope) :=
  let setting := ScriptedServer.setting supply options (carrier.session options)
  setting.enact
    (setting.client.request call.envelope call.topic call.base call.timeout)

/-! ### How far a request is -/

/-- How far a request is. -/
inductive Tenure (Handle : Type)
  /-- It has no queues yet. -/
  | outset
  /-- It has its queues. -/
  | opened (queues : Queues)
  /-- Nothing is registered under its topic. -/
  | vacated (queues : Queues) (topic : String)
  /-- It has a delivery loop. -/
  | listening (queues : Queues) (topic : String) (loop : Nat)
  /-- Its handle is registered. -/
  | registered (queues : Queues) (topic : String) (handle : Handle)
  /-- It has closed its queues. -/
  | released (queues : Queues) (topic : String) (handle : Handle)
  /-- It has taken its handle out of the registry. -/
  | taken (queues : Queues) (handle : Handle)
  /-- It has told its delivery loop to stop. -/
  | stopping (queues : Queues) (handle : Handle)

namespace Tenure

/-- Whether a request has not yet registered a handle. -/
def IsEarly : Tenure Handle → Prop
  | .outset => True
  | .opened _ => True
  | .vacated _ _ => True
  | .listening _ _ _ => True
  | _ => False

/-- What only passes something on, or asks for the time or an identifier. -/
def IsInert : Link.interface.work.Ask → Prop
  | .inl (.subscribe _ _ _) => False
  | .inl (.signalStop _) => False
  | .inl .signalDrain => False
  | .inl (.awaitEnd _ _) => False
  | .inl _ => True
  | .inr .freshId => True
  | .inr (.timeIn _) => True
  | .inr _ => False

/-- What a request may ask. -/
inductive Permits (carrier : Carrier Handle) :
    Tenure Handle → (ScriptedServer.operating Handle).Ask → Prop
  /-- It may look at the session. -/
  | look (stage : Tenure Handle) : Permits carrier stage (.inl .session)
  /-- It may pass something on. -/
  | inert (stage : Tenure Handle) {question : Link.interface.work.Ask}
      (inert : IsInert question) : Permits carrier stage (.inr question)
  /-- It opens its queues. -/
  | openQueues : Permits carrier .outset (.inr (.inr (.openQueues 1)))
  /-- It takes an earlier handle of its topic. -/
  | vacate (queues : Queues) (topic : String) :
      Permits carrier (.opened queues) (.inl (.take topic))
  /-- It puts an earlier handle back. -/
  | giveBack (queues : Queues) (topic : String) (handle : Handle) :
      Permits carrier (.vacated queues topic) (.inl (.restore topic handle))
  /-- It tells another delivery loop to stop. -/
  | signalOther {stage : Tenure Handle} (early : stage.IsEarly) (loop : Nat) :
      Permits carrier stage (.inr (.inl (.signalStop loop)))
  /-- It waits for the end of another delivery loop. -/
  | awaitOther {stage : Tenure Handle} (early : stage.IsEarly) (loop deadline : Nat) :
      Permits carrier stage (.inr (.inl (.awaitEnd loop deadline)))
  /-- It starts a delivery loop for its queues. -/
  | subscribe {queues : Queues} (topic subject group : String) {delivery : Delivery}
      (messages : delivery.messages = queues.messages) (errors : delivery.errors = queues.errors) :
      Permits carrier (.vacated queues topic) (.inr (.inl (.subscribe subject group delivery)))
  /-- It registers a handle that stands for that loop. -/
  | register (queues : Queues) (topic : String) (handle : Handle) :
      Permits carrier (.listening queues topic (carrier.loop handle))
        (.inl (.register topic handle))
  /-- It waits for its reply. -/
  | await (queues : Queues) (topic : String) (handle : Handle) (deadline : Nat) :
      Permits carrier (.registered queues topic handle) (.inr (.inr (.await queues deadline)))
  /-- It closes its queues. -/
  | close (queues : Queues) (topic : String) (handle : Handle) :
      Permits carrier (.registered queues topic handle) (.inr (.inr (.close queues)))
  /-- It takes its own handle. -/
  | take (queues : Queues) (topic : String) (handle : Handle) :
      Permits carrier (.released queues topic handle) (.inl (.take topic))
  /-- It tells its delivery loop to stop. -/
  | signalStop (queues : Queues) (handle : Handle) :
      Permits carrier (.taken queues handle) (.inr (.inl (.signalStop (carrier.loop handle))))
  /-- It waits for the end of its delivery loop. -/
  | awaitEnd (queues : Queues) (handle : Handle) (deadline : Nat) :
      Permits carrier (.stopping queues handle)
        (.inr (.inl (.awaitEnd (carrier.loop handle) deadline)))
  /-- It puts its handle back. -/
  | restore (queues : Queues) (topic : String) (handle : Handle) :
      Permits carrier (.stopping queues handle) (.inl (.restore topic handle))

/-- The answers that can come while no other call is under way. -/
def Expects : Tenure Handle → (question : (ScriptedServer.operating Handle).Ask) →
    (ScriptedServer.operating Handle).Answer question → Prop
  | .listening _ _ _, .inl (.register _ _), older => older = none
  | .released _ _ handle, .inl (.take _), found => found = some handle
  | _, _, _ => True

/-- How far a request is after an answer. -/
def next : Tenure Handle → (question : (ScriptedServer.operating Handle).Ask) →
    (ScriptedServer.operating Handle).Answer question → Tenure Handle
  | .outset, .inr (.inr (.openQueues _)), queues => .opened queues
  | .opened queues, .inl (.take topic), _ => .vacated queues topic
  | .vacated queues _, .inl (.restore _ _), _ => .opened queues
  | .vacated queues topic, .inr (.inl (.subscribe _ _ _)), .ok loop =>
    .listening queues topic loop
  | .listening queues topic _, .inl (.register _ handle), _ => .registered queues topic handle
  | .registered queues topic handle, .inr (.inr (.close _)), _ => .released queues topic handle
  | .released queues _ handle, .inl (.take _), _ => .taken queues handle
  | .taken queues handle, .inr (.inl (.signalStop _)), _ => .stopping queues handle
  | stage, _, _ => stage

/-- The rules for a request. -/
def protocol (carrier : Carrier Handle) :
    Protocol (ScriptedServer.operating Handle) (Tenure Handle) where
  permits := Permits carrier
  expects := Expects
  next := next

/-- The rules for what a request asks of the link and the place. -/
def linkProtocol (carrier : Carrier Handle) :
    Protocol Link.interface.work (Tenure Handle) where
  permits stage question := Permits carrier stage (.inr question)
  expects _ _ _ := True
  next stage question := next stage (.inr question)

/-- What is inert leaves a request where it is. -/
theorem next_inert (stage : Tenure Handle) {question : Link.interface.work.Ask}
    (inert : IsInert question) (answer : Link.interface.work.Answer question) :
    next stage (.inr question) answer = stage := by
  cases question with
  | inl call => cases call <;> first | exact inert.elim | cases stage <;> rfl
  | inr question => cases question <;> first | exact inert.elim | cases stage <;> rfl

theorem next_signalStop {stage : Tenure Handle} (early : stage.IsEarly) (loop : Nat)
    (first : Bool) : next stage (.inr (.inl (.signalStop loop))) first = stage := by
  cases stage <;> first | exact early.elim | rfl

theorem next_awaitEnd (stage : Tenure Handle) (loop deadline : Nat) (ended : Bool) :
    next stage (.inr (.inl (.awaitEnd loop deadline))) ended = stage := by
  cases stage <;> rfl

theorem next_session (stage : Tenure Handle) (session : Session) :
    next stage (.inl .session) session = stage := by
  cases stage <;> rfl

variable {carrier : Carrier Handle} {α : Type}

/-- What keeps to the rules for the link and the place keeps to the rules. -/
theorem follows_right {ends : α → Tenure Handle → Prop}
    {activity : Dialogue Link.interface.work α} {stage : Tenure Handle}
    (follows : activity.Follows (linkProtocol carrier) ends stage) :
    (activity.right : Dialogue (ScriptedServer.operating Handle) α).Follows (protocol carrier) ends
      stage := by
  induction activity generalizing stage with
  | done value => exact follows
  | ask question resume ih =>
    exact ⟨follows.1, fun answer _ => ih answer (follows.2 answer trivial)⟩

/-- Something inert may come before what keeps to the rules. -/
theorem follows_ask {question : Link.interface.work.Ask} (inert : IsInert question)
    {resume : Link.interface.work.Answer question → Dialogue Link.interface.work α}
    {ends : α → Tenure Handle → Prop} {stage : Tenure Handle}
    (rest : ∀ answer, (resume answer).Follows (linkProtocol carrier) ends stage) :
    (Dialogue.ask question resume).Follows (linkProtocol carrier) ends stage := by
  refine ⟨.inert stage inert, fun answer _ => ?_⟩
  change (resume answer).Follows _ _ (next stage (.inr question) answer)
  rw [next_inert stage inert]
  exact rest answer

/-- What is inert throughout leaves a request where it is. -/
theorem follows_inert {activity : Dialogue Link.interface.work α} (asks : activity.Asks IsInert)
    (stage : Tenure Handle) :
    activity.Follows (linkProtocol carrier) (fun _ after => after = stage) stage := by
  induction activity with
  | done value => exact rfl
  | ask question resume ih => exact follows_ask asks.1 fun answer => ih answer (asks.2 answer)

end Tenure

/-! ### Both styles -/

open Tenure

/-- What the rules need of a style. -/
structure Carrier.Keeps (carrier : Carrier Handle) (options : Options) : Prop where
  /-- Publishing is passed on. -/
  publish : ∀ connection message,
    (carrier.session options (.publish connection message)).Asks IsInert
  /-- Subscribing starts one delivery loop, and ends with a handle that stands for it. -/
  subscribe : ∀ (connection : Nat) (subject group : String) (delivery : Delivery) (queues : Queues)
    (topic : String), delivery.messages = queues.messages → delivery.errors = queues.errors →
    (carrier.session options (.subscribe connection subject group delivery)).Follows
      (linkProtocol carrier) (fun result stage => ∀ handle, result = .ok handle →
        stage = .listening queues topic (carrier.loop handle)) (.vacated queues topic)
  /-- Stopping another delivery loop leaves an early request where it is. -/
  stopOther : ∀ (handle : Handle) (stage : Tenure Handle), stage.IsEarly →
    (carrier.session options (.stop handle)).Follows (linkProtocol carrier)
      (fun _ after => after = stage) stage
  /-- Stopping its own delivery loop brings a request to its last stage. -/
  stop : ∀ (queues : Queues) (handle : Handle),
    (carrier.session options (.stop handle)).Follows (linkProtocol carrier)
      (fun _ after => after = .stopping queues handle) (.taken queues handle)

variable {carrier : Carrier Handle} {options : Options}

/-- Stopping another delivery loop keeps to the rules. -/
theorem follows_stopOther (loop : Nat) {stage : Tenure Handle} (early : stage.IsEarly) :
    (Link.stop loop).Follows (linkProtocol carrier) (fun _ after => after = stage) stage := by
  refine ⟨.signalOther early loop, fun first _ => ?_⟩
  change Dialogue.Follows _ _ _ (next stage (.inr (.inl (.signalStop loop))) first)
  rw [next_signalStop early]
  cases first with
  | false => exact rfl
  | true =>
    have inert : IsInert (.inr (.timeIn Link.shutdownTimeout)) := trivial
    refine follows_ask inert fun deadline => ?_
    refine ⟨.awaitOther early loop deadline, fun ended _ => ?_⟩
    change Dialogue.Follows _ _ _ (next stage (.inr (.inl (.awaitEnd loop deadline))) ended)
    rw [next_awaitEnd]
    cases ended <;> exact rfl

theorem follows_stop (queues : Queues) (handle : Handle) :
    (Link.stop (carrier.loop handle)).Follows (linkProtocol carrier)
      (fun _ after => after = .stopping queues handle) (.taken queues handle) := by
  refine ⟨.signalStop queues handle, fun first _ => ?_⟩
  cases first with
  | false => exact rfl
  | true =>
    refine ⟨.inert _ trivial, fun deadline _ => ?_⟩
    refine ⟨.awaitEnd queues handle deadline, fun ended _ => ?_⟩
    cases ended <;> exact rfl

theorem keeps_core (options : Options) : Carrier.core.Keeps options where
  publish _ _ := ⟨trivial, fun _ => trivial⟩
  subscribe connection subject group delivery queues topic messages errors := by
    refine ⟨.subscribe topic subject group messages errors, fun subscribed _ => ?_⟩
    cases subscribed with
    | error words => exact nofun
    | ok loop =>
      rintro _ ⟨⟩
      rfl
  stopOther handle _ early := follows_stopOther handle early
  stop queues handle := follows_stop queues handle

/-- The management of streams passes everything on. -/
theorem asks_firstCovering (subject : String) (names : List String) :
    (Link.firstCovering subject names).Asks IsInert := by
  induction names with
  | nil => trivial
  | cons stream rest ih =>
    refine ⟨trivial, fun answer => ?_⟩
    cases answer with
    | error words => trivial
    | ok subjects =>
      change Dialogue.Asks _ (if _ then _ else _)
      split
      · trivial
      · exact ih

theorem asks_catalog (call : Catalog.Call) : (Link.catalog call).Asks IsInert := by
  cases call with
  | streamFor subject =>
    refine ⟨trivial, fun names => ?_⟩
    cases names with
    | error words => trivial
    | ok names => exact asks_firstCovering subject names
  | createStream name subject => exact ⟨trivial, fun _ => trivial⟩
  | createConsumer spec =>
    refine ⟨trivial, fun subjects => ?_⟩
    cases subjects with
    | error words => trivial
    | ok subjects => exact ⟨trivial, fun _ => trivial⟩
  | deleteConsumer stream name =>
    refine ⟨trivial, fun subjects => ?_⟩
    cases subjects with
    | error words => trivial
    | ok subjects => exact ⟨trivial, fun _ => trivial⟩

/-- Publishing into a stream passes everything on, however often it is repeated. -/
theorem asks_publish (options : Options) (connection : Nat) (message : Message) (retries : Nat) :
    ((JetStream.publish connection message retries).translate (Link.base options)).Asks
      IsInert := by
  induction retries with
  | zero => exact ⟨trivial, fun _ => trivial⟩
  | succ retries ih =>
    refine ⟨trivial, fun published => ?_⟩
    cases published with
    | ok _ => trivial
    | error words => exact ih

/-- A call on the management of streams may come before what keeps to the rules. -/
theorem follows_catalog {α : Type} (call : Catalog.Call) {resume : call.Answer → Dialogue _ α}
    {ends : α → Tenure Handle → Prop} {stage : Tenure Handle}
    (rest : ∀ answer, ((resume answer).translate (Link.base options)).Follows (linkProtocol carrier)
      ends stage) :
    (((JetStream.catalog call).bind resume).translate (Link.base options)).Follows
      (linkProtocol carrier) ends stage := by
  rw [Dialogue.translate_bind]
  refine Dialogue.Follows.bind (follows_inert ?_ stage) ?_
  · exact (Dialogue.translate_ask_done _ _).symm ▸ asks_catalog call
  · rintro answer _ rfl
    exact rest answer

/-- Stopping a subscription through a stream keeps to the rules as stopping its delivery does. -/
theorem follows_unsubscribe (subscription : ConsumerSubscription) {stage after : Tenure Handle}
    (stopped : (Link.stop subscription.delivery).Follows (linkProtocol carrier)
      (fun _ later => later = after) stage) :
    ((JetStream.unsubscribe subscription).translate (Link.base options)).Follows
      (linkProtocol carrier) (fun _ later => later = after) stage := by
  unfold JetStream.unsubscribe JetStream.session
  rw [Dialogue.bind_eq, Dialogue.translate_bind, Dialogue.translate_ask_done]
  refine Dialogue.Follows.bind stopped ?_
  rintro outcome _ rfl
  cases outcome with
  | error error => exact rfl
  | ok _ =>
    change Dialogue.Follows _ _ (Dialogue.translate _ (if _ then _ else _)) _
    by_cases owned : subscription.spec.owned
    · rw [if_pos owned]
      exact follows_catalog _ fun _ => rfl
    · rw [if_neg owned]
      exact rfl

/-- Connections over streams keep to the rules. -/
theorem keeps_jetStream (options : Options) : Carrier.jetStream.Keeps options where
  publish connection message := asks_publish options connection message options.publishRetries
  subscribe connection subject group delivery queues topic messages errors := by
    refine follows_catalog (.streamFor subject) fun found => ?_
    match found with
    | .error _ | .ok none => exact nofun
    | .ok (some stream) =>
      refine ⟨.subscribe topic _ group messages errors, fun subscribed _ => ?_⟩
      cases subscribed with
      | error words => exact nofun
      | ok loop =>
        refine follows_catalog (.createConsumer _) fun created => ?_
        cases created with
        | ok _ =>
          rintro _ ⟨⟩
          rfl
        | error error =>
          -- the delivery loop is stopped again, and the subscription fails
          change Dialogue.Follows _ _ (Dialogue.translate _ ((JetStream.session _).bind _)) _
          unfold JetStream.session
          rw [Dialogue.translate_bind, Dialogue.translate_ask_done]
          exact Dialogue.Follows.bind (follows_stopOther loop trivial) fun _ _ _ => nofun
  stopOther handle _ early := follows_unsubscribe handle (follows_stopOther handle.delivery early)
  stop queues handle := follows_unsubscribe handle (follows_stop queues handle)

/-! ### The operations of a client -/

/-- An operation of a client, carried out in a style. -/
def Carrier.enact {α : Type} (carrier : Carrier Handle) (options : Options)
    (operation : Dialogue (Client.backend Handle) α) :
    Dialogue (ScriptedServer.operating Handle) α :=
  (operation.left : Dialogue (Client.backend Handle).work α).translate
    (ScriptedServer.carryOut (carrier.session options))

theorem Carrier.enact_bind {α β : Type} (first : Dialogue (Client.backend Handle) α)
    (next : α → Dialogue (Client.backend Handle) β) :
    carrier.enact options (first.bind next) =
      (carrier.enact options first).bind fun value => carrier.enact options (next value) := by
  unfold Carrier.enact Dialogue.left
  rw [Dialogue.translate_bind, Dialogue.translate_bind]

variable {α : Type} {ends : α → Tenure Handle → Prop} {stage : Tenure Handle} {queues : Queues}
  {topic : String}

/-- A section of the client's own state may come before what keeps to the rules. -/
theorem follows_enter {question : Client.Section Handle}
    {resume : question.Answer → Dialogue (Client.backend Handle) α}
    (permitted : Permits carrier stage (.inl question))
    (rest : ∀ answer, Expects stage (.inl question) answer →
      (carrier.enact options (resume answer)).Follows (protocol carrier) ends
        (next stage (.inl question) answer)) :
    (carrier.enact options ((Client.enter question).bind resume)).Follows (protocol carrier) ends
      stage :=
  ⟨permitted, rest⟩

theorem follows_look {resume : Session → Dialogue (Client.backend Handle) α}
    (rest : ∀ session, (carrier.enact options (resume session)).Follows (protocol carrier) ends
      stage) :
    (carrier.enact options ((Client.enter .session).bind resume)).Follows (protocol carrier) ends
      stage := by
  refine follows_enter (.look stage) fun session _ => ?_
  rw [next_session]
  exact rest session

/-- So may a call on the connection that keeps to the rules. -/
theorem follows_call {call : Connection.Call Handle}
    {resume : call.Answer → Dialogue (Client.backend Handle) α}
    {between : call.Answer → Tenure Handle → Prop}
    (called : (carrier.session options call).Follows (linkProtocol carrier) between stage)
    (rest : ∀ answer after, between answer after →
      (carrier.enact options (resume answer)).Follows (protocol carrier) ends after) :
    (carrier.enact options ((Client.call call).bind resume)).Follows (protocol carrier) ends
      stage :=
  (follows_right called).bind rest

/-- Ending an earlier subscription of the topic leaves nothing registered under it. -/
theorem follows_stopPrevious (keeps : carrier.Keeps options)
    {resume : BusResult Unit → Dialogue (Client.backend Handle) α}
    (refused : ∀ error stage, (carrier.enact options (resume (.error error))).Follows
      (protocol carrier) ends stage)
    (vacated : (carrier.enact options (resume (.ok ()))).Follows (protocol carrier) ends
      (.vacated queues topic)) :
    (carrier.enact options ((Client.stopPrevious topic).bind resume)).Follows (protocol carrier)
      ends (.opened queues) := by
  refine follows_enter (.vacate queues topic) fun previous _ => ?_
  cases previous with
  | none => exact vacated
  | some previous =>
    -- the earlier handle stands for another delivery loop, whose queues may still be open
    refine follows_call (keeps.stopOther previous (.vacated queues topic) trivial) ?_
    rintro stopped _ rfl
    cases stopped with
    | ok _ => exact vacated
    | error error => exact ⟨.giveBack queues topic previous, fun _ _ => refused _ _⟩

/-- Subscribing the topic ends with a handle registered under it, or with an error. -/
theorem follows_subscribeTopic (keeps : carrier.Keeps options) (connection : Nat) :
    (carrier.enact options (Client.subscribeTopic options connection ⟨topic, queues.messages⟩
      queues.errors)).Follows (protocol carrier) (fun result stage => result = .ok () →
        ∃ handle, stage = .registered queues topic handle) (.opened queues) := by
  refine follows_stopPrevious keeps (fun error stage => nofun) ?_
  refine follows_call (keeps.subscribe _ _ _ _ queues topic rfl rfl) ?_
  intro subscribed stage listening
  cases subscribed with
  | error error => exact nofun
  | ok handle =>
    obtain rfl := listening handle rfl
    refine follows_enter (.register queues topic handle) ?_
    rintro _ rfl
    exact fun _ => ⟨handle, rfl⟩

/-- So does subscribing it as the only one. -/
theorem follows_subscribe (keeps : carrier.Keeps options) :
    (carrier.enact options (Client.subscribe options [⟨topic, queues.messages⟩]
      queues.errors)).Follows (protocol carrier) (fun result stage => result = .ok () →
        ∃ handle, stage = .registered queues topic handle) (.opened queues) := by
  refine follows_look fun session => ?_
  cases session with
  | idle | closed => exact nofun
  | connected connection =>
    change Dialogue.Follows _ _ (carrier.enact options (Dialogue.bind _ _)) _
    rw [Carrier.enact_bind]
    refine (follows_subscribeTopic keeps connection).bind fun subscribed stage registered => ?_
    cases subscribed with
    | error error => exact nofun
    | ok _ => exact registered

/-- Publishing leaves a request where it is. -/
theorem follows_publish (keeps : carrier.Keeps options) (envelope : Envelope) (topic : String)
    (stage : Tenure Handle) :
    (carrier.enact options (Client.publish options envelope topic)).Follows (protocol carrier)
      (fun _ after => after = stage) stage := by
  refine follows_look fun session => ?_
  cases session with
  | idle | closed => exact rfl
  | connected connection =>
    change Dialogue.Follows _ _ (carrier.enact options (if _ then _ else _)) _
    by_cases empty : topic.isEmpty
    · rw [if_pos empty]
      exact rfl
    · rw [if_neg empty]
      have unlimited (size : Nat) : checkLimit size 0 = .ok () := by simp [checkLimit]
      simp only [unlimited]
      rw [← Dialogue.bind_done (Client.call _)]
      exact follows_call (follows_inert (keeps.publish _ _) stage) fun _ _ same => same

/-- Unsubscribing brings a request to its end. -/
theorem follows_release (keeps : carrier.Keeps options) {handle : Handle} :
    (carrier.enact options (Client.unsubscribe [topic])).Follows (protocol carrier)
      (fun _ _ => True) (.released queues topic handle) := by
  refine follows_look fun session => ?_
  cases session with
  | idle | closed => exact trivial
  | connected connection =>
    refine follows_enter (.take queues topic handle) ?_
    rintro _ rfl
    refine follows_call (keeps.stop queues handle) ?_
    rintro stopped _ rfl
    cases stopped with
    | ok _ => exact trivial
    | error error => exact ⟨.restore queues topic handle, fun _ _ => trivial⟩

/-! ### A request -/

/-- Carries out what a request asks. -/
def Carrier.carry (carrier : Carrier Handle) (options : Options)
    (question : Request.surroundings.Ask) :
    Dialogue (ScriptedServer.operating Handle) (Request.surroundings.Answer question) :=
  let operations : MessageClient (Client.backend Handle) := Client.client options true
  (Request.carryOut operations.subscribe operations.publish operations.unsubscribe
    question).translate (ScriptedServer.carryOut (carrier.session options))

/-- A request is carried out question by question. -/
theorem activity_eq (supply : Nat → String) (call : RequestCall) :
    carrier.activity supply options call =
      (Request.request call.envelope call.topic call.base call.timeout).translate
        (carrier.carry options) :=
  Dialogue.translate_translate _ _ _

/-- Waiting for the reply leaves a request where it is. -/
theorem follows_exchange (keeps : carrier.Keeps options) (sent : Envelope)
    (requestTopic : String) (timeout : Nat) (handle : Handle) :
    ((Request.exchange sent requestTopic topic queues timeout).translate
      (carrier.carry options)).Follows (protocol carrier)
      (fun _ after => after = .registered queues topic handle)
      (.registered queues topic handle) := by
  unfold Request.exchange Request.call
  rw [Dialogue.bind_eq, Dialogue.translate_bind, Dialogue.translate_ask_done]
  refine Dialogue.Follows.bind (follows_publish keeps sent requestTopic _) ?_
  rintro published _ rfl
  cases published with
  | error error => exact rfl
  | ok _ =>
    refine ⟨.inert _ trivial, fun deadline _ => ?_⟩
    exact ⟨.await queues topic handle deadline, fun arrival _ => rfl⟩

/-- A request with its queues keeps to the rules. -/
theorem follows_converse (keeps : carrier.Keeps options) (sent : Envelope)
    (requestTopic : String) (timeout : Nat) :
    ((Request.converse sent requestTopic topic queues timeout).translate
      (carrier.carry options)).Follows (protocol carrier) (fun _ _ => True)
      (.opened queues) := by
  unfold Request.converse Request.call
  rw [Dialogue.bind_eq, Dialogue.translate_bind, Dialogue.translate_ask_done]
  refine Dialogue.Follows.bind (follows_subscribe keeps) fun subscribed stage reached => ?_
  cases subscribed with
  | error error => exact trivial
  | ok _ =>
    obtain ⟨handle, rfl⟩ := reached rfl
    show Dialogue.Follows _ _ (Dialogue.translate _ (Dialogue.bind _ _)) _
    rw [Dialogue.translate_bind]
    refine Dialogue.Follows.bind (follows_exchange keeps _ _ _ handle) ?_
    rintro result _ rfl
    -- the queues are closed before the delivery loop is told to stop
    refine ⟨.close queues topic handle, fun _ _ => ?_⟩
    show Dialogue.Follows _ _ (Dialogue.translate (carrier.carry options)
      ((Request.call (.unsubscribe [topic])).bind fun _ => .done result)) _
    unfold Request.call
    rw [Dialogue.translate_bind, Dialogue.translate_ask_done]
    exact Dialogue.Follows.bind (follows_release keeps) fun _ _ _ => trivial

/-- **A request keeps to the rules**, in any style that does. -/
theorem follows_activity (keeps : carrier.Keeps options) (supply : Nat → String)
    (call : RequestCall) :
    (carrier.activity supply options call).Follows (protocol carrier) (fun _ _ => True)
      .outset := by
  rw [activity_eq, Request.request_eq, Dialogue.translate_bind]
  have identified : ((Request.identify call.envelope).translate (carrier.carry options)).Follows
      (protocol carrier) (fun _ stage => stage = .outset) .outset := by
    by_cases missing : call.envelope.requestId.isEmpty
    · rw [Request.identify_of_missing missing]
      exact ⟨.inert _ trivial, fun _ _ => rfl⟩
    · rw [Request.identify_of_present missing]
      exact rfl
  refine identified.bind ?_
  rintro sent _ rfl
  exact ⟨.openQueues, fun queues _ => follows_converse keeps sent _ _⟩

end MessageBus.Nats

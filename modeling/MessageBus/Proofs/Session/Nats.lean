/-
**Sessions of the NATS client.** The client by its signs, and the shapes of its calls.

* `Client.model` — its sections and its calls on the connection; only `session`, `install` and
  `retire` concern the session, and only `openSession` opens one.
* `asks_…` — subscriptions are taken, stopped and registered without a question about the session.
* `Client.conforms` — **its calls have the shapes of a client's calls.**
-/

import MessageBus.Nats.Client
import MessageBus.Proofs.Session.Shape

namespace MessageBus.Nats.Client

open Dialogue

variable {Handle : Type}

/-- What a section means for the session. -/
def shows : (question : Section Handle) → question.Answer → Sign
  | .session, found => .looked found
  | .install connection, accepted => .installed connection accepted
  | .retire, former => .retired former
  | _, _ => .other

/-- The outcome of a call that opens a session. -/
def opening? : (c : Connection.Call Handle) → c.Answer → Option (BusResult Nat)
  | .openSession, outcome => some outcome
  | _, _ => none

theorem answer_install (state : State Handle) (connection : Nat) :
    state.answer (.install connection) = ((state.session.install connection).1,
      { state with session := (state.session.install connection).2 }) := by
  by_cases idle : state.session = .idle
  · rw [Session.install, if_pos idle]
    exact if_pos idle
  · rw [Session.install, if_neg idle]
    exact if_neg idle

theorem answer_retire (state : State Handle) :
    state.answer .retire =
      (state.session.retire.1, { state with session := state.session.retire.2 }) := by
  obtain ⟨session, registry⟩ := state
  cases session <;> rfl

/-- A section acts on the session as its sign says. -/
theorem acts_answer (question : Section Handle) (state : State Handle) :
    (shows question (state.answer question).1).Acts state.session
      (state.answer question).2.session := by
  cases question with
  | session => exact ⟨rfl, rfl⟩
  | install connection =>
    rw [answer_install]
    exact Sign.acts_install connection state.session
  | retire =>
    rw [answer_retire]
    exact Sign.acts_retire state.session
  | restore topic handle =>
    show (if _ then ((), state) else ((), { state with registry := _ })).2.session = state.session
    split <;> rfl
  | take | register | clear => rfl

/-- A section whose sign is vain leaves the whole state alone. -/
theorem eq_of_vain (question : Section Handle) (state : State Handle)
    (vain : (shows question (state.answer question).1).Vain) :
    (state.answer question).2 = state := by
  cases question with
  | session => rfl
  | install connection =>
    generalize (state.answer (.install connection)).1 = accepted at vain
    cases vain
  | retire =>
    rw [answer_retire] at vain ⊢
    rw [Sign.retire_of_vain vain]
  | take | restore | register | clear => cases vain

/-- The client by its sections and its calls on the connection. -/
def model (Handle : Type) : ClientModel where
  State := State Handle
  sections := sections Handle
  calls := Connection.interface Handle
  session := State.session
  fresh := {}
  answer question state := state.answer question
  shows := shows
  opening? := opening?
  fresh_idle := rfl
  acts := acts_answer
  spares := eq_of_vain
  opens_none question answer outcome := by
    cases question <;> nofun

/-! ### Quiet questions -/

/-- The questions that do not concern the session. -/
inductive Plain : (backend Handle).Ask → Prop
  | take (topic : String) : Plain (.inl (.take topic))
  | restore (topic : String) (handle : Handle) : Plain (.inl (.restore topic handle))
  | register (topic : String) (handle : Handle) : Plain (.inl (.register topic handle))
  | clear : Plain (.inl .clear)
  | publish (connection : Nat) (message : Message) : Plain (.inr (.publish connection message))
  | subscribe (connection : Nat) (subject queue : String) (delivery : Delivery) :
      Plain (.inr (.subscribe connection subject queue delivery))
  | stop (handle : Handle) : Plain (.inr (.stop handle))
  | drain (connection : Nat) : Plain (.inr (.drain connection))

theorem Plain.quiet {question : (backend Handle).Ask} (plain : Plain question) :
    (model Handle).Quiet (.inl question) := by
  intro answer
  cases plain <;> rfl

theorem quiet_left {activity : Dialogue (backend Handle) (BusResult Unit)}
    (plain : activity.Asks Plain) : activity.left.Asks (model Handle).Quiet :=
  Asks.left (plain.mono Plain.quiet)

theorem asks_stopPrevious (topic : String) :
    (stopPrevious topic : Dialogue (backend Handle) (BusResult Unit)).Asks Plain := by
  refine ⟨.take topic, fun previous => ?_⟩
  cases previous with
  | none => trivial
  | some previous =>
    refine ⟨.stop previous, fun outcome => ?_⟩
    cases outcome with
    | ok _ => trivial
    | error error => exact ⟨.restore topic previous, fun _ => trivial⟩

theorem asks_subscribeTopic (options : Options) (connection : Nat) (channel : Channel)
    (errors : Nat) :
    (subscribeTopic options connection channel errors :
      Dialogue (backend Handle) (BusResult Unit)).Asks Plain := by
  refine (asks_stopPrevious channel.topic).bind fun stopped => ?_
  cases stopped with
  | error error => trivial
  | ok _ =>
    refine ⟨.subscribe .., fun subscribed => ?_⟩
    cases subscribed with
    | error error => trivial
    | ok handle =>
      refine ⟨.register channel.topic handle, fun older => ?_⟩
      cases older with
      | none => trivial
      | some older => exact ⟨.stop older, fun _ => trivial⟩

theorem asks_subscribeTopics (options : Options) (connection errors : Nat)
    (channels : List Channel) :
    (subscribeTopics options connection errors channels :
      Dialogue (backend Handle) (BusResult Unit)).Asks Plain := by
  induction channels with
  | nil => trivial
  | cons channel rest ih =>
    refine (asks_subscribeTopic options connection channel errors).bind fun subscribed => ?_
    cases subscribed with
    | error error => trivial
    | ok _ => exact ih

theorem asks_unsubscribeTopics (topics : List String) :
    (unsubscribeTopics topics : Dialogue (backend Handle) (List BusError)).Asks Plain := by
  induction topics with
  | nil => trivial
  | cons topic rest ih =>
    refine Asks.bind ⟨.take topic, fun handle => ?_⟩ fun _ => ih.bind fun _ => trivial
    cases handle with
    | none => trivial
    | some handle =>
      refine ⟨.stop handle, fun outcome => ?_⟩
      cases outcome with
      | ok _ => trivial
      | error error => exact ⟨.restore topic handle, fun _ => trivial⟩

/-! ### Shapes -/

/-- A call on the connection of the session checks that there is one. -/
theorem checks_withConnection {closes : Prop} (uses : ¬ closes)
    {next : Nat → Dialogue (backend Handle) (BusResult Unit)}
    (plain : ∀ connection, (next connection).Asks Plain) :
    (model Handle).Checks closes (withConnection next).left := by
  refine .ask fun found => ?_
  match found with
  | .idle | .closed => exact .inl ⟨.looked uses nofun, rfl⟩
  | .connected connection => exact .inr ⟨.looked uses connection, quiet_left (plain connection)⟩

theorem checks_publishWithLimit {closes : Prop} (uses : ¬ closes) (options : Options)
    (envelope : Envelope) (topic : String) (limitKb : Nat) :
    (model Handle).Checks closes (publishWithLimit options envelope topic limitKb).left := by
  refine checks_withConnection uses fun connection => ?_
  split
  · trivial
  · simp only
    split
    · trivial
    · exact ⟨.publish .., fun _ => trivial⟩

theorem checks_disconnect :
    (model Handle).Checks True (disconnect : Dialogue (backend Handle) _).left := by
  refine .ask fun former => ?_
  match former with
  | none => exact .inl ⟨.retired trivial, rfl⟩
  | some connection =>
    refine .inr ⟨.retired trivial connection, quiet_left ?_⟩
    exact ⟨.drain connection, fun _ => ⟨.clear, fun _ => trivial⟩⟩

theorem connects_connect (canOpen : Bool) :
    (model Handle).Connects (connect canOpen).left := by
  refine .ask fun found => ?_
  match found, canOpen with
  | .connected connection, _ => exact .inr ⟨.connected connection, nofun, rfl, rfl⟩
  | .closed, _ => exact .inr ⟨.closed, nofun, rfl, rfl⟩
  | .idle, false => exact .inl ⟨rfl, .unable _⟩
  | .idle, true =>
    refine .inl ⟨rfl, .ask fun outcome => ?_⟩
    match outcome with
    | .error error => exact .inl ⟨error, rfl, rfl⟩
    | .ok connection =>
      refine .inr ⟨connection, rfl, .ask fun accepted => ?_⟩
      match accepted with
      | true => exact .inl ⟨rfl, rfl⟩
      | false => exact .inr ⟨rfl, rfl, trivial⟩

/-- **The calls of the client have the shapes of a client's calls.** -/
theorem conforms (options : Options) (canOpen : Bool) :
    Conforms (model Handle) (client options canOpen) (canOpen = true) where
  connects := connects_connect canOpen
  checks {call} other := by
    cases call with
    | connect => exact absurd rfl other
    | publish envelope topic => exact checks_publishWithLimit nofun options envelope topic 0
    | publishWithLimit envelope topic limitKb =>
      exact checks_publishWithLimit nofun options envelope topic limitKb
    | subscribe channels errors =>
      exact checks_withConnection nofun fun connection =>
        asks_subscribeTopics options connection errors channels
    | unsubscribe topics =>
      exact checks_withConnection nofun fun _ =>
        (asks_unsubscribeTopics topics).bind fun _ => trivial
    | disconnect =>
      rw [show (ClientCall.disconnect = .disconnect) = True from eq_self _]
      exact checks_disconnect
  succeeds able world idle := by
    subst able
    obtain ⟨connection, fresh⟩ := world.exists_fresh
    have accepted : (world.client.answer (.install connection)).1 = true :=
      congrArg Prod.fst (if_pos idle)
    exact ⟨_, _, Scene.course_ask.mpr ⟨world, Session.idle, world, _, rfl, .refl, ⟨idle.symm, rfl⟩,
      Scene.course_ask.mpr ⟨world, .ok connection, _, _, rfl, .refl, ⟨fresh, rfl⟩,
        Scene.course_ask.mpr ⟨_, true, _, _, rfl, .refl, ⟨accepted.symm, rfl⟩, .done _ _⟩⟩⟩⟩

end MessageBus.Nats.Client

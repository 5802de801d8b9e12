/-
**Sessions of the MQTT client.** The client by its signs, and the shapes of its calls.

* `Client.model` — its sections and its calls on the connection; only `session`, `install` and
  `retire` concern the session, and only `openSession` opens one.
* `asks_…` — routes are put and taken, and filters subscribed, without a question about the session.
* `Client.conforms` — **its calls have the shapes of a client's calls.**
-/

import MessageBus.Mqtt.Client
import MessageBus.Proofs.Session.Shape

namespace MessageBus.Mqtt.Client

open Dialogue

/-- What a section means for the session. -/
def shows : (question : Section) → question.Answer → Sign
  | .session, found => .looked found
  | .install connection, accepted => .installed connection accepted
  | .retire, former => .retired former
  | _, _ => .other

/-- The outcome of a call that opens a session. -/
def opening? : (c : Call) → c.Answer → Option (BusResult Nat)
  | .openSession, outcome => some outcome
  | _, _ => none

theorem answer_install (state : State) (connection : Nat) :
    state.answer (.install connection) = ((state.session.install connection).1,
      { state with session := (state.session.install connection).2 }) := by
  by_cases idle : state.session = .idle
  · rw [Session.install, if_pos idle]
    exact if_pos idle
  · rw [Session.install, if_neg idle]
    exact if_neg idle

theorem answer_retire (state : State) :
    state.answer .retire =
      (state.session.retire.1, { state with session := state.session.retire.2 }) := by
  obtain ⟨session, routes⟩ := state
  cases session <;> rfl

/-- A section acts on the session as its sign says. -/
theorem acts_answer (question : Section) (state : State) :
    (shows question (state.answer question).1).Acts state.session
      (state.answer question).2.session := by
  cases question with
  | session => exact ⟨rfl, rfl⟩
  | install connection =>
    rw [answer_install]
    exact Sign.acts_install connection state.session
  | retire =>
    rw [answer_retire]
    exact Sign.acts_retire state.session
  | putRoute | takeRoute | clearRoutes => rfl

/-- A section whose sign is vain leaves the whole state alone. -/
theorem eq_of_vain (question : Section) (state : State)
    (vain : (shows question (state.answer question).1).Vain) :
    (state.answer question).2 = state := by
  cases question with
  | session => rfl
  | install connection =>
    generalize (state.answer (.install connection)).1 = accepted at vain
    cases vain
  | retire =>
    rw [answer_retire] at vain ⊢
    rw [Sign.retire_of_vain vain]
  | putRoute | takeRoute | clearRoutes => cases vain

/-- The client by its sections and its calls on the connection. -/
def model : ClientModel where
  State := State
  sections := sections
  calls := connection
  session := State.session
  fresh := {}
  answer question state := state.answer question
  shows := shows
  opening? := opening?
  fresh_idle := rfl
  acts := acts_answer
  spares := eq_of_vain
  opens_none question answer outcome := by
    cases question <;> nofun

/-! ### Quiet questions -/

/-- The questions that do not concern the session. -/
inductive Plain : backend.Ask → Prop
  | putRoute (filter : String) (route : Route) : Plain (.inl (.putRoute filter route))
  | takeRoute (filter : String) : Plain (.inl (.takeRoute filter))
  | clearRoutes : Plain (.inl .clearRoutes)
  | abandon (connection : Nat) : Plain (.inr (.abandon connection))
  | publish (connection : Nat) (topic : String) (payload : List UInt8) :
      Plain (.inr (.publish connection topic payload))
  | subscribe (connection : Nat) (filter : String) : Plain (.inr (.subscribe connection filter))
  | unsubscribe (connection : Nat) (filter : String) :
      Plain (.inr (.unsubscribe connection filter))
  | beginClosing (connection : Nat) : Plain (.inr (.beginClosing connection))
  | disconnect (connection : Nat) : Plain (.inr (.disconnect connection))
  | awaitEventLoop (connection : Nat) : Plain (.inr (.awaitEventLoop connection))

theorem Plain.quiet {question : backend.Ask} (plain : Plain question) :
    model.Quiet (.inl question) := by
  intro answer
  cases plain <;> rfl

theorem quiet_left {activity : Dialogue backend (BusResult Unit)} (plain : activity.Asks Plain) :
    activity.left.Asks model.Quiet :=
  Asks.left (plain.mono Plain.quiet)

theorem asks_addRoute (connection errors : Nat) (binary : Bool) (channel : Channel) :
    (addRoute connection errors binary channel).Asks Plain := by
  refine ⟨.putRoute .., fun previous => ⟨.subscribe .., fun outcome => ?_⟩⟩
  cases outcome with
  | ok _ => trivial
  | error text =>
    cases previous with
    | some previous => exact ⟨.putRoute .., fun _ => trivial⟩
    | none => exact ⟨.takeRoute .., fun _ => trivial⟩

theorem asks_addEach (connection errors : Nat) (binary : Bool) (channels : List Channel) :
    (addEach connection errors binary channels).Asks Plain := by
  induction channels with
  | nil => trivial
  | cons channel rest ih =>
    refine (asks_addRoute connection errors binary channel).bind fun added => ?_
    cases added with
    | error error => trivial
    | ok _ => exact ih

theorem asks_unsubscribeTopics (connection : Nat) (topics : List String) :
    (unsubscribeTopics connection topics).Asks Plain := by
  induction topics with
  | nil => trivial
  | cons topic rest ih =>
    refine Asks.bind ⟨.takeRoute topic, fun route => ?_⟩ fun _ => ih.bind fun _ => trivial
    cases route with
    | none => trivial
    | some route =>
      refine ⟨.unsubscribe connection topic, fun outcome => ?_⟩
      cases outcome with
      | ok _ => trivial
      | error text => exact ⟨.putRoute topic route, fun _ => trivial⟩

/-! ### Shapes -/

/-- A call on the connection of the session checks that there is one. -/
theorem checks_withConnection {closes : Prop} (uses : ¬ closes)
    {next : Nat → Dialogue backend (BusResult Unit)}
    (plain : ∀ connection, (next connection).Asks Plain) :
    model.Checks closes (withConnection next).left := by
  refine .ask fun found => ?_
  match found with
  | .idle | .closed => exact .inl ⟨.looked uses nofun, rfl⟩
  | .connected connection => exact .inr ⟨.looked uses connection, quiet_left (plain connection)⟩

theorem checks_publishWithLimit {closes : Prop} (uses : ¬ closes) (envelope : Envelope)
    (topic : String) (limitKb : Nat) :
    model.Checks closes (publishWithLimit envelope topic limitKb).left := by
  refine checks_withConnection uses fun connection => ?_
  split
  · trivial
  · split
    · trivial
    · refine ⟨.publish .., fun outcome => ?_⟩
      cases outcome <;> trivial

theorem checks_disconnect : model.Checks True disconnect.left := by
  refine .ask fun former => ?_
  match former with
  | none => exact .inl ⟨.retired trivial, rfl⟩
  | some connection =>
    refine .inr ⟨.retired trivial connection, quiet_left ?_⟩
    refine ⟨.beginClosing connection, fun _ => ⟨.disconnect connection, fun requested =>
      ⟨.awaitEventLoop connection, fun _ => ⟨.clearRoutes, fun _ => ?_⟩⟩⟩⟩
    cases requested <;> trivial

theorem connects_connect : model.Connects connect.left := by
  refine .ask fun found => ?_
  match found with
  | .connected connection => exact .inr ⟨.connected connection, nofun, rfl, rfl⟩
  | .closed => exact .inr ⟨.closed, nofun, rfl, rfl⟩
  | .idle =>
    refine .inl ⟨rfl, .ask fun outcome => ?_⟩
    match outcome with
    | .error error => exact .inl ⟨error, rfl, rfl⟩
    | .ok connection =>
      refine .inr ⟨connection, rfl, .ask fun accepted => ?_⟩
      match accepted with
      | true => exact .inl ⟨rfl, rfl⟩
      | false =>
        exact .inr ⟨rfl, fun _ => rfl, (Plain.abandon connection).quiet, fun _ => trivial⟩

/-- **The calls of the client have the shapes of a client's calls.** -/
theorem conforms : Conforms model client True where
  connects := connects_connect
  checks {call} other := by
    cases call with
    | connect => exact absurd rfl other
    | publish envelope topic => exact checks_publishWithLimit nofun envelope topic 0
    | publishWithLimit envelope topic limitKb =>
      exact checks_publishWithLimit nofun envelope topic limitKb
    | subscribe channels errors =>
      exact checks_withConnection nofun fun connection =>
        asks_addEach connection errors false channels
    | unsubscribe topics =>
      exact checks_withConnection nofun fun connection =>
        (asks_unsubscribeTopics connection topics).bind fun _ => trivial
    | disconnect =>
      rw [show (ClientCall.disconnect = .disconnect) = True from eq_self _]
      exact checks_disconnect
  succeeds _ world idle := by
    obtain ⟨connection, fresh⟩ := world.exists_fresh
    have accepted : (world.client.answer (.install connection)).1 = true :=
      congrArg Prod.fst (if_pos idle)
    exact ⟨_, _, Scene.course_ask.mpr ⟨world, Session.idle, world, _, rfl, .refl, ⟨idle.symm, rfl⟩,
      Scene.course_ask.mpr ⟨world, .ok connection, _, _, rfl, .refl, ⟨fresh, rfl⟩,
        Scene.course_ask.mpr ⟨_, true, _, _, rfl, .refl, ⟨accepted.symm, rfl⟩, .done _ _⟩⟩⟩⟩

end MessageBus.Mqtt.Client

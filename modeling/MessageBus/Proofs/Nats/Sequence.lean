/-
**Calls one after another.** Subscriptions of a NATS client whose calls do not overlap.

* `inSequence` — the calls, one after another.
* `steady_activity` — **every call keeps the registry what is live**; `steady_inSequence` — so do
  calls one after another.
* `Unsubscribed` — what an unsubscribe does about all its topics, in order; `Reports` — its result
  says what failed.
* `registry_is_live` — after any calls the registry is what is live, and every unsubscribe reports
  exactly the attempts that failed.
-/

import MessageBus.Proofs.Dialogue.Turns
import MessageBus.Proofs.Nats.Attempts

namespace MessageBus.Nats.Client

variable {Handle : Type}

/-! ### Calls -/

/-- Calls one after another, with their results. -/
def inSequence (options : Options) :
    List Operation → Dialogue (backend Handle) (List (BusResult Unit))
  | [] => return []
  | operation :: rest => do
    let result ← operation.activity options
    return result :: (← inSequence options rest)

section Calls

variable [DecidableEq Handle] {world after : Stock Handle}
  {told : List (Moment (backend Handle) (Stock Handle))}

/-- After a call the registry is what is live, if it was so before, and the session has stayed. -/
def Stock.Steady (world after : Stock Handle) : Prop :=
  (Level world.client.registry world.live → Level after.client.registry after.live) ∧
    after.client.session = world.client.session

omit [DecidableEq Handle] in
theorem Stock.Steady.trans {between : Stock Handle} (first : world.Steady between)
    (rest : between.Steady after) : world.Steady after :=
  ⟨rest.1 ∘ first.1, rest.2.trans first.2⟩

/-- The subscription that a topic had before is stopped, or it stays. -/
theorem steady_stopPrevious {topic : String} {result : BusResult Unit}
    (course : sequential.Course (stopPrevious topic) world told result after) :
    world.Steady after ∧ (result = .ok () → after.client.registry.lookup topic = none) := by
  rw [stopPrevious_eq] at course
  obtain ⟨attempt, rfl, rfl, attempted⟩ := attempted_release course
  refine ⟨⟨attempted.level, attempted.session⟩, fun ended => ?_⟩
  obtain ⟨freed, kept⟩ := attempted.lookup attempt.topic
  cases attempt with
  | absent topic =>
    have missing := (attempted.turns (List.nil_append _).symm).2 freed_nil
    exact (kept freed_absent).trans missing.symm
  | stopped topic handle => exact freed (freed_stopped.mpr rfl)
  | failed topic handle error => cases ended

/-- A new subscription takes the place of the one before. -/
theorem steady_subscribeTopic {options : Options} {connection errors : Nat} {channel : Channel}
    {result : BusResult Unit}
    (course : sequential.Course (subscribeTopic options connection channel errors) world told result
      after) : world.Steady after := by
  obtain ⟨_, stopped, between, _, rfl, first, further⟩ := Scene.course_bind.mp course
  obtain ⟨steady, vacant⟩ := steady_stopPrevious first
  cases stopped with
  | error error =>
    obtain ⟨rfl, rfl, rfl⟩ := Scene.course_done.mp further
    exact steady
  | ok _ =>
    have vacant := vacant rfl
    obtain ⟨subscribed, next, _, rfl, answered, further⟩ := course_call further
    cases subscribed with
    | error error =>
      obtain ⟨rfl, rfl, rfl⟩ := Scene.course_done.mp further
      cases answered
      exact steady
    | ok handle =>
      obtain ⟨fresh, rfl⟩ := answered
      obtain ⟨_, rfl, registered⟩ := course_enter further
      -- The topic is vacant, so the new subscription displaces none that would stay live.
      rw [State.answer_register, vacant] at registered
      obtain ⟨rfl, rfl, rfl⟩ := Scene.course_done.mp registered
      refine steady.trans ⟨fun level => ?_, rfl⟩
      show Level (State.without between.client.registry channel.topic ++ [(channel.topic, handle)])
        (between.live ++ [(channel.topic, handle)])
      rw [without_of_lookup_none vacant]
      exact level.subscribe vacant fresh

theorem steady_subscribeTopics {options : Options} {connection errors : Nat}
    {channels : List Channel} {result : BusResult Unit}
    (course : sequential.Course (subscribeTopics options connection errors channels) world told
      result after) : world.Steady after := by
  induction channels generalizing world told with
  | nil =>
    obtain ⟨rfl, rfl, rfl⟩ := Scene.course_done.mp course
    exact ⟨id, rfl⟩
  | cons channel channels ih =>
    obtain ⟨_, subscribed, between, _, rfl, first, further⟩ := Scene.course_bind.mp course
    have steady := steady_subscribeTopic first
    cases subscribed with
    | error error =>
      obtain ⟨rfl, rfl, rfl⟩ := Scene.course_done.mp further
      exact steady
    | ok _ => exact steady.trans (ih further)

/-- A call of a client that is not connected does nothing. -/
theorem course_withConnection {next : Nat → Dialogue (backend Handle) (BusResult Unit)}
    {result : BusResult Unit}
    (course : sequential.Course (withConnection next) world told result after) :
    (∀ connection, world.client.session ≠ .connected connection) ∧ after = world ∨
      ∃ connection rest, world.client.session = .connected connection ∧
      told = ⟨world, .inl .session, .connected connection⟩ :: rest ∧
      sequential.Course (next connection) world rest result after := by
  obtain ⟨rest, rfl, looked⟩ := course_enter course
  match session : world.client.session with
  | .connected connection =>
    rw [show (world.client.answer .session).1 = .connected connection from session] at looked ⊢
    exact .inr ⟨connection, rest, rfl, rfl, looked⟩
  | .idle | .closed =>
    rw [show (world.client.answer .session).1 = _ from session] at looked
    exact .inl ⟨nofun, (Scene.course_done.mp looked).2.2⟩

/-- **Every call keeps the registry what is live.** -/
theorem steady_activity {options : Options} {operation : Operation} {result : BusResult Unit}
    (course : sequential.Course (operation.activity options) world told result after) :
    world.Steady after := by
  cases operation with
  | subscribe channels errors =>
    rcases course_withConnection course with ⟨-, rfl⟩ | ⟨connection, _, -, rfl, further⟩
    · exact ⟨id, rfl⟩
    · exact steady_subscribeTopics further
  | unsubscribe topics =>
    rcases course_withConnection course with ⟨-, rfl⟩ | ⟨connection, _, -, rfl, further⟩
    · exact ⟨id, rfl⟩
    · obtain ⟨_, _, between, _, rfl, first, ended⟩ := Scene.course_bind.mp further
      obtain ⟨rfl, rfl, rfl⟩ := Scene.course_done.mp ended
      obtain ⟨_, -, -, attempted⟩ := attempted_unsubscribeTopics first
      exact ⟨attempted.level, attempted.session⟩

theorem steady_inSequence {options : Options} {operations : List Operation}
    {results : List (BusResult Unit)}
    (course : sequential.Course (inSequence options operations) world told results after) :
    world.Steady after := by
  induction operations generalizing world told results with
  | nil =>
    obtain ⟨rfl, rfl, rfl⟩ := Scene.course_done.mp course
    exact ⟨id, rfl⟩
  | cons operation operations ih =>
    obtain ⟨_, _, between, _, rfl, first, further⟩ := Scene.course_bind.mp course
    obtain ⟨_, _, last, _, rfl, rest, ended⟩ := Scene.course_bind.mp further
    obtain ⟨rfl, rfl, rfl⟩ := Scene.course_done.mp ended
    exact (steady_activity first).trans (ih rest)

/-- Every question gets an answer at once. -/
theorem exists_answer_sequential (question : (backend Handle).Ask) (world : Stock Handle) :
    ∃ answer next, sequential.answers question world answer next := by
  match question with
  | .inl question => exact ⟨_, _, rfl, rfl⟩
  | .inr .openSession | .inr (.publish _ _) | .inr (.subscribe _ _ _ _) | .inr (.stop _)
  | .inr (.acknowledge _ _) | .inr (.drain _) => exact ⟨.error .disabled, world, rfl⟩

end Calls

/-! ### The end of all calls -/

/-- Failures as the result of a call: none is success, a single one stays as it is, and several are
reported together in their order. -/
structure Reports (failures : List BusError) (result : BusResult Unit) : Prop where
  none : failures = [] → result = .ok ()
  single : ∀ {error}, failures = [error] → result = .error error
  several : 2 ≤ failures.length → result = .error (.aggregate failures)

theorem reports_collect (failures : List BusError) :
    Reports failures (BusError.collect failures) := by
  match failures with
  | [] => exact ⟨fun _ => rfl, nofun, nofun⟩
  | [error] => exact ⟨nofun, fun same => congrArg _ (List.cons.inj same).1, nofun⟩
  | _ :: _ :: _ => exact ⟨nofun, nofun, fun _ => rfl⟩

/-- What comes of an unsubscribe of topics: it looks at the session, makes an attempt for each topic
in order, and reports those that failed. -/
structure Unsubscribed [DecidableEq Handle] (connection : Nat) (world : Stock Handle)
    (topics : List String) (told : List (Moment (backend Handle) (Stock Handle)))
    (result : BusResult Unit) (after : Stock Handle) (attempts : List (Attempt Handle)) : Prop where
  /-- There is one attempt for each topic, in order. -/
  topics : attempts.map Attempt.topic = topics
  /-- The attempts come after a look at the session. -/
  attempted : ∃ rest, told = ⟨world, .inl .session, .connected connection⟩ :: rest ∧
    Attempted world attempts rest after
  /-- The failures are reported. -/
  reports : Reports (attempts.filterMap Attempt.failure?) result

/-- **The registry is what is live**, whatever subscribe and unsubscribe calls come one after
another on a connected client and whatever fails. Every unsubscribe that follows comes to its end;
it makes an attempt for each topic in order, frees the topics whose subscription could be stopped,
leaves all others as they were, and reports exactly the attempts that failed. -/
theorem registry_is_live [DecidableEq Handle] {options : Options} {operations : List Operation}
    {connection : Nat} {log : List (Moment (backend Handle) (Stock Handle))}
    {results : List (BusResult Unit)} {world : Stock Handle}
    (course : sequential.Course (inSequence options operations)
      ⟨{ session := .connected connection }, []⟩ log results world) :
    Level world.client.registry world.live ∧
    ∀ topics,
      (∃ told result after, sequential.Course (unsubscribe topics) world told result after) ∧
      ∀ told result after, sequential.Course (unsubscribe topics) world told result after →
        ∃ attempts, Unsubscribed connection world topics told result after attempts := by
  obtain ⟨level, session⟩ := steady_inSequence course
  refine ⟨level ⟨.refl _, List.nodup_nil, List.nodup_nil⟩, fun topics => ⟨?_, ?_⟩⟩
  · refine Scene.exists_course (fun question _ world => ?_) (Dialogue.asks_anything _) world
    obtain ⟨answer, next, answered⟩ := exists_answer_sequential question world
    exact ⟨world, answer, next, .refl, answered⟩
  · intro told result after course
    rcases course_withConnection course with ⟨apart, -⟩ | ⟨other, _, same, rfl, further⟩
    · exact absurd session (apart connection)
    · rw [session] at same
      cases same
      obtain ⟨_, _, between, _, rfl, first, ended⟩ := Scene.course_bind.mp further
      obtain ⟨rfl, rfl, rfl⟩ := Scene.course_done.mp ended
      obtain ⟨attempts, asked, rfl, attempted⟩ := attempted_unsubscribeTopics first
      rw [List.append_nil]
      exact ⟨attempts, asked, ⟨_, rfl, attempted⟩, reports_collect _⟩

/-- One subscription can be stopped, another one cannot: not at first, and not when it is asked for
again. -/
theorem registry_is_live_stubborn :
    ∃ log results world told after attempts,
      (sequential : Scene (backend Nat) (Stock Nat) Empty).Course
        (inSequence {} [.subscribe [⟨"a", 0⟩, ⟨"b", 1⟩] 0]) ⟨{ session := .connected 0 }, []⟩ log
        results world ∧
      world.live = [("a", 0), ("b", 1)] ∧
      Unsubscribed 0 world ["a", "b", "a", "c"] told
        (.error (.aggregate [topicFailure "unsubscribe" "a" "Message bus is disabled",
          topicFailure "unsubscribe" "a" "Client is not connected"])) after attempts ∧
      after.live = [("a", 0)] := by
  have subscribed : ∃ log results world,
      (sequential : Scene (backend Nat) (Stock Nat) Empty).Course
        (inSequence {} [.subscribe [⟨"a", 0⟩, ⟨"b", 1⟩] 0]) ⟨{ session := .connected 0 }, []⟩ log
        results world ∧
      world = ⟨⟨.connected 0, [("a", 0), ("b", 1)]⟩, [("a", 0), ("b", 1)]⟩ :=
    ⟨_, _, _, Scene.course_ask.mpr ⟨_, Session.connected 0, _, _, rfl, .refl, ⟨rfl, rfl⟩,
      Scene.course_ask.mpr ⟨_, none, _, _, rfl, .refl, ⟨rfl, rfl⟩,
      Scene.course_ask.mpr ⟨_, .ok 0, _, _, rfl, .refl, ⟨nofun, rfl⟩,
      Scene.course_ask.mpr ⟨_, none, _, _, rfl, .refl, ⟨rfl, rfl⟩,
      Scene.course_ask.mpr ⟨_, none, _, _, rfl, .refl, ⟨rfl, rfl⟩,
      Scene.course_ask.mpr ⟨_, .ok 1, _, _, rfl, .refl, ⟨by decide, rfl⟩,
      Scene.course_ask.mpr ⟨_, none, _, _, rfl, .refl, ⟨rfl, rfl⟩, .done _ _⟩⟩⟩⟩⟩⟩⟩, rfl⟩
  obtain ⟨log, results, world, subscribed, rfl⟩ := subscribed
  have unsubscribed : ∃ told after,
      (sequential : Scene (backend Nat) (Stock Nat) Empty).Course
        (unsubscribe ["a", "b", "a", "c"])
        ⟨⟨.connected 0, [("a", 0), ("b", 1)]⟩, [("a", 0), ("b", 1)]⟩ told
        (.error (.aggregate [topicFailure "unsubscribe" "a" "Message bus is disabled",
          topicFailure "unsubscribe" "a" "Client is not connected"])) after ∧
      after.live = [("a", 0)] :=
    ⟨_, _, Scene.course_ask.mpr ⟨_, Session.connected 0, _, _, rfl, .refl, ⟨rfl, rfl⟩,
      Scene.course_ask.mpr ⟨_, some 0, _, _, rfl, .refl, ⟨rfl, rfl⟩,
      Scene.course_ask.mpr ⟨_, .error .disabled, _, _, rfl, .refl, rfl,
      Scene.course_ask.mpr ⟨_, (), _, _, rfl, .refl, ⟨rfl, rfl⟩,
      Scene.course_ask.mpr ⟨_, some 1, _, _, rfl, .refl, ⟨rfl, rfl⟩,
      Scene.course_ask.mpr ⟨_, .ok (), _, _, rfl, .refl, rfl,
      Scene.course_ask.mpr ⟨_, some 0, _, _, rfl, .refl, ⟨rfl, rfl⟩,
      Scene.course_ask.mpr ⟨_, .error .notConnected, _, _, rfl, .refl, rfl,
      Scene.course_ask.mpr ⟨_, (), _, _, rfl, .refl, ⟨rfl, rfl⟩,
      Scene.course_ask.mpr ⟨_, none, _, _, rfl, .refl, ⟨rfl, rfl⟩, .done _ _⟩⟩⟩⟩⟩⟩⟩⟩⟩⟩, rfl⟩
  obtain ⟨told, after, course, left⟩ := unsubscribed
  obtain ⟨attempts, reported⟩ := ((registry_is_live subscribed).2 _).2 _ _ _ course
  exact ⟨log, results, _, told, after, attempts, subscribed, rfl, reported, left⟩

end MessageBus.Nats.Client

/-
**Routes after failures.** The route table of an MQTT client whose calls come one after another,
while its connection may refuse any request.

* `refusing` — a client whose calls on the connection may come to anything.
* `Demand`, `demands` — what the broker was asked to subscribe and to end, with its answers;
  `accepted` — what it has accepted for one filter.
* `Added` — what comes of a subscribe: topics are registered up to the first one that is refused.
* `Attempt`, `Unsubscribed` — what comes of an unsubscribe: an attempt for each topic in turn.
* `faithful`, `faithful_callAll` — over any calls, a filter has a route exactly if the last request
  accepted for it was a subscription.
* `routes_follow_requests` — **the table after failures**, for each call and for any calls of a new
  client.
-/

import MessageBus.Proofs.Mqtt.Agreement
import MessageBus.Proofs.Session.Calls

namespace MessageBus.Mqtt

/-! ### Routes of channels -/

/-- The table with the routes of channels, registered in order. -/
def RouteTable.register (errors : Nat) (binary : Bool) (table : RouteTable)
    (channels : List Channel) : RouteTable :=
  channels.foldl
    (fun table channel => table.put channel.topic { messages := channel.messages, errors, binary })
    table

namespace Client

/-- The route of a filter, if it has one. -/
def State.routed (state : State) (filter : String) : Option Route :=
  state.routes.lookup filter

theorem State.routed_put (state : State) (filter : String) (route : Route) :
    (state.answer (.putRoute filter route)).2.routed =
      Function.update state.routed filter (some route) := by
  refine funext fun other => (lookup_put state.routes filter other route).trans ?_
  rw [Function.update_apply]
  rfl

theorem State.routed_take (state : State) (filter : String) :
    (state.answer (.takeRoute filter)).2.routed = Function.update state.routed filter none := by
  refine funext fun other => (Nats.Client.State.lookup_without state.routes filter other).trans ?_
  rw [Function.update_apply]
  rfl

/-! ### A connection that may refuse -/

/-- A client whose calls on the connection may come to anything. -/
def refusing : Scene backend State Empty where
  answers
    | .inl question, state, answer, after =>
      answer = (state.answer question).1 ∧ after = (state.answer question).2
    | .inr _, state, _, after => after = state
  happens _ _ _ := False

/-- What the broker was asked for, with its answer. -/
inductive Demand
  /-- To subscribe a filter. -/
  | subscribe (filter : String) (answer : Except String Unit)
  /-- To end the subscription of a filter. -/
  | unsubscribe (filter : String) (answer : Except String Unit)

/-- Whether the filter was subscribed, or its subscription was ended. -/
def Demand.accepted? (filter : String) : Demand → Option Bool
  | .subscribe demanded (.ok _) => if demanded = filter then some true else none
  | .unsubscribe demanded (.ok _) => if demanded = filter then some false else none
  | _ => none

/-- What an exchange asked the broker for. -/
def demand? : Dialogue.Exchange backend → Option Demand
  | ⟨.inr (.subscribe _ filter), answer⟩ => some (.subscribe filter answer)
  | ⟨.inr (.unsubscribe _ filter), answer⟩ => some (.unsubscribe filter answer)
  | _ => none

/-- What the broker was asked for, in order. -/
def demands (told : List (Moment backend State)) : List Demand :=
  (told.map Moment.exchange).filterMap demand?

/-- What the broker has accepted for a filter, in order. -/
def accepted (filter : String) (told : List (Moment backend State)) : List Bool :=
  (demands told).filterMap (Demand.accepted? filter)

theorem demands_append (told rest : List (Moment backend State)) :
    demands (told ++ rest) = demands told ++ demands rest := by
  rw [demands, List.map_append, List.filterMap_append, demands, demands]

section Questions

variable {α : Type} {state after : State} {told : List (Moment backend State)} {value : α}
  {result : BusResult Unit}

theorem course_ask_refusing {question : backend.Ask}
    {resume : backend.Answer question → Dialogue backend α}
    (course : refusing.Course (.ask question resume) state told value after) :
    ∃ answer next rest, told = ⟨state, question, answer⟩ :: rest ∧
      refusing.answers question state answer next ∧
      refusing.Course (resume answer) next rest value after :=
  (Scene.course_ask_still fun incident => incident.elim).mp course

/-- A section is answered by the client's own state. -/
theorem course_enter {question : Section} {resume : question.Answer → Dialogue backend α}
    (course : refusing.Course ((enter question).bind resume) state told value after) :
    ∃ rest, told = ⟨state, .inl question, (state.answer question).1⟩ :: rest ∧
      refusing.Course (resume (state.answer question).1) (state.answer question).2 rest value
        after := by
  obtain ⟨answer, next, rest, rfl, ⟨rfl, rfl⟩, course⟩ := course_ask_refusing course
  exact ⟨rest, rfl, course⟩

/-- A call on the connection leaves the client's own state alone. -/
theorem course_call {c : Call} {resume : c.Answer → Dialogue backend α}
    (course : refusing.Course ((call c).bind resume) state told value after) :
    ∃ answer rest, told = ⟨state, .inr c, answer⟩ :: rest ∧
      refusing.Course (resume answer) state rest value after := by
  obtain ⟨answer, next, rest, rfl, rfl, further⟩ := course_ask_refusing course
  exact ⟨answer, rest, rfl, further⟩

/-- A call of a client that is not connected does nothing. -/
theorem course_withConnection {next : Nat → Dialogue backend (BusResult Unit)}
    (course : refusing.Course (withConnection next) state told result after) :
    (∀ connection, state.session ≠ .connected connection) ∧ after = state ∧ demands told = [] ∨
      ∃ connection rest, state.session = .connected connection ∧ demands told = demands rest ∧
        refusing.Course (next connection) state rest result after := by
  obtain ⟨rest, rfl, looked⟩ := course_enter course
  match session : state.session with
  | .connected connection =>
    rw [show (state.answer .session).1 = .connected connection from session] at looked
    exact .inr ⟨connection, rest, rfl, rfl, looked⟩
  | .idle | .closed =>
    rw [show (state.answer .session).1 = _ from session] at looked
    obtain ⟨rfl, -, rfl⟩ := Scene.course_done.mp looked
    exact .inl ⟨nofun, rfl, rfl⟩

end Questions

/-! ### A subscribe -/

/-- What comes of adding routes to a table: the demands, the result and the table. -/
inductive Added (errors : Nat) (binary : Bool) (table : RouteTable) (channels : List Channel) :
    List Demand → BusResult Unit → (String → Option Route) → Prop
  /-- All topics are registered. -/
  | all {after : String → Option Route}
      (registered : ∀ filter,
        after filter = (table.register errors binary channels).lookup filter) :
      Added errors binary table channels
        (channels.map fun channel => .subscribe channel.topic (.ok ())) (.ok ()) after
  /-- One topic is refused: those before it are registered, it has the route that it had, and those
  behind it are not attempted. -/
  | refused {after : String → Option Route} (done rest : List Channel) (failing : Channel)
      (text : String) (split : channels = done ++ failing :: rest)
      (registered : ∀ filter, after filter = (table.register errors binary done).lookup filter) :
      Added errors binary table channels
        ((done.map fun channel => .subscribe channel.topic (.ok ())) ++
          [.subscribe failing.topic (.error text)])
        (.error (topicFailure "subscribe" failing.topic text)) after

section Adding

variable {state after : State} {told : List (Moment backend State)} {result : BusResult Unit}
  {connection errors : Nat} {binary : Bool} {channel : Channel} {channels : List Channel}

/-- A route stays if its filter is subscribed; otherwise it is undone. -/
theorem course_addRoute
    (course : refusing.Course (addRoute connection errors binary channel) state told result after) :
    after.session = state.session ∧
      (result = .ok () ∧ demands told = [.subscribe channel.topic (.ok ())] ∧
          after.routes = state.routes.register errors binary [channel] ∨
        ∃ text, result = .error (topicFailure "subscribe" channel.topic text) ∧
          demands told = [.subscribe channel.topic (.error text)] ∧
          after.routed = state.routed) := by
  obtain ⟨_, rfl, put⟩ := course_enter course
  obtain ⟨answer, _, rfl, further⟩ := course_call put
  cases answer with
  | ok _ =>
    obtain ⟨rfl, rfl, rfl⟩ := Scene.course_done.mp further
    exact ⟨rfl, .inl ⟨rfl, rfl, rfl⟩⟩
  | error text =>
    obtain ⟨_, _, undone, _, rfl, first, ended⟩ := Scene.course_bind.mp further
    obtain ⟨rfl, rfl, rfl⟩ := Scene.course_done.mp ended
    have route := State.routed_put state channel.topic
      { messages := channel.messages, errors, binary }
    cases previous : state.routed channel.topic with
    | some former =>
      rw [show (state.answer (.putRoute channel.topic _)).1 = some former from previous] at first
      obtain ⟨_, rfl, again⟩ := course_enter first
      obtain ⟨rfl, -, rfl⟩ := Scene.course_done.mp again
      refine ⟨rfl, .inr ⟨text, rfl, rfl, ?_⟩⟩
      rw [State.routed_put, route, Function.update_idem, ← previous, Function.update_eq_self]
    | none =>
      rw [show (state.answer (.putRoute channel.topic _)).1 = none from previous] at first
      obtain ⟨_, rfl, again⟩ := course_enter first
      obtain ⟨rfl, -, rfl⟩ := Scene.course_done.mp again
      refine ⟨rfl, .inr ⟨text, rfl, rfl, ?_⟩⟩
      rw [State.routed_take, route, Function.update_idem, ← previous, Function.update_eq_self]

/-- **Routes are added up to the first topic that is refused.** -/
theorem added_addEach
    (course : refusing.Course (addEach connection errors binary channels) state told result after) :
    after.session = state.session ∧
      Added errors binary state.routes channels (demands told) result after.routed := by
  induction channels generalizing state told with
  | nil =>
    obtain ⟨rfl, rfl, rfl⟩ := Scene.course_done.mp course
    exact ⟨rfl, .all fun _ => rfl⟩
  | cons channel channels ih =>
    obtain ⟨_, added, between, _, rfl, first, further⟩ := Scene.course_bind.mp course
    rw [demands_append]
    obtain ⟨session, ⟨rfl, asked, routes⟩ | ⟨text, rfl, asked, routed⟩⟩ := course_addRoute first
    · obtain ⟨sessionRest, rest⟩ := ih further
      refine ⟨sessionRest.trans session, ?_⟩
      rw [asked]
      rw [routes] at rest
      generalize demands _ = demanded at rest ⊢
      cases rest with
      | all registered => exact .all registered
      | refused done behind failing text split registered =>
        exact .refused (channel :: done) behind failing text (congrArg _ split) registered
    · obtain ⟨rfl, rfl, rfl⟩ := Scene.course_done.mp further
      rw [asked]
      exact ⟨session, .refused [] channels channel text rfl (congrFun routed)⟩

end Adding

/-! ### An unsubscribe -/

/-- What is done to end the subscription of one topic. -/
inductive Attempt
  /-- The topic has no route, and is passed over. -/
  | unknown (topic : String)
  /-- The subscription is ended, and the route goes. -/
  | ended (topic : String) (route : Route)
  /-- The request is refused, and the route is put back. -/
  | kept (topic : String) (route : Route) (text : String)

namespace Attempt

/-- The topic of an attempt. -/
def topic : Attempt → String
  | unknown topic | ended topic _ | kept topic _ _ => topic

/-- The route that the topic has when its turn comes. -/
def route? : Attempt → Option Route
  | unknown _ => none
  | ended _ route | kept _ route _ => some route

/-- The attempt has ended the subscription of the topic. -/
def Ends (topic : String) (attempt : Attempt) : Prop :=
  ∃ route, attempt = ended topic route

/-- What the broker is asked for; a topic without a route costs no request. -/
def demands : Attempt → List Demand
  | unknown _ => []
  | ended topic _ => [.unsubscribe topic (.ok ())]
  | kept topic _ text => [.unsubscribe topic (.error text)]

/-- The failure that is reported. -/
def failure? : Attempt → Option BusError
  | kept topic _ text => some (topicFailure "unsubscribe" topic text)
  | _ => none

end Attempt

/-- What attempts leave of the route of a topic: nothing if one of them has ended its subscription,
and the route that it had otherwise. -/
def Leaves (attempts : List Attempt) (topic : String) (before after : Option Route) : Prop :=
  ((∃ attempt ∈ attempts, attempt.Ends topic) → after = none) ∧
    ((∀ attempt ∈ attempts, ¬ attempt.Ends topic) → after = before)

/-- What comes of an unsubscribe of topics. -/
structure Unsubscribed (before : String → Option Route) (topics : List String)
    (demanded : List Demand) (result : BusResult Unit) (after : String → Option Route)
    (attempts : List Attempt) : Prop where
  /-- There is one attempt for each topic, in order. -/
  topics : attempts.map Attempt.topic = topics
  /-- Each is about the route that those before it have left of its topic. -/
  turns : ∀ {former attempt rest}, attempts = former ++ attempt :: rest →
    Leaves former attempt.topic (before attempt.topic) attempt.route?
  /-- The broker is asked about topics that have a route, and about no others. -/
  demands : demanded = attempts.flatMap Attempt.demands
  /-- The routes of ended subscriptions are gone, all others are as they were. -/
  routes : ∀ topic, Leaves attempts topic (before topic) (after topic)
  /-- The failures are reported, in order. -/
  result : result = BusError.collect (attempts.filterMap Attempt.failure?)

section Unsubscribing

variable {state after : State} {told : List (Moment backend State)} {connection : Nat}
  {attempt : Attempt} {attempts : List Attempt} {topic : String}

theorem leaves_nil (topic : String) (route : Option Route) : Leaves [] topic route route :=
  ⟨nofun, fun _ => rfl⟩

theorem leaves_singleton {before after : Option Route} (gone : attempt.Ends topic → after = none)
    (kept : ¬ attempt.Ends topic → after = before) : Leaves [attempt] topic before after := by
  constructor
  · rintro ⟨_, member, ends⟩
    exact gone (List.mem_singleton.mp member ▸ ends)
  · exact fun none => kept (none _ (List.mem_singleton_self _))

/-- What one attempt leaves and then others leave of it, together they leave. -/
theorem Leaves.cons {before between last : Option Route}
    (first : Leaves [attempt] topic before between) (rest : Leaves attempts topic between last) :
    Leaves (attempt :: attempts) topic before last := by
  constructor
  · rintro ⟨other, member, ends⟩
    by_cases here : ∃ attempt ∈ attempts, attempt.Ends topic
    · exact rest.1 here
    · rw [rest.2 fun attempt member ends => here ⟨attempt, member, ends⟩]
      rcases List.mem_cons.mp member with rfl | later
      · exact first.1 ⟨_, List.mem_singleton_self _, ends⟩
      · exact absurd ⟨other, later, ends⟩ here
  · intro none
    obtain ⟨here, later⟩ := List.forall_mem_cons.mp none
    rw [rest.2 later]
    exact first.2 (List.forall_mem_singleton.mpr here)

/-- To end the subscription of one topic is one attempt. -/
theorem course_unsubscribeTopic {failures : List BusError}
    (course : refusing.Course (unsubscribeTopic connection topic) state told failures after) :
    ∃ attempt : Attempt, attempt.topic = topic ∧ attempt.route? = state.routed topic ∧
      failures = attempt.failure?.toList ∧ demands told = attempt.demands ∧
      (∀ other, Leaves [attempt] other (state.routed other) (after.routed other)) ∧
      after.session = state.session := by
  obtain ⟨_, rfl, taken⟩ := course_enter course
  have gone := State.routed_take state topic
  cases found : state.routed topic with
  | none =>
    rw [show (state.answer (.takeRoute topic)).1 = none from found] at taken
    obtain ⟨rfl, rfl, rfl⟩ := Scene.course_done.mp taken
    rw [← found, Function.update_eq_self] at gone
    exact ⟨.unknown topic, rfl, rfl, rfl, rfl,
      fun other => leaves_singleton nofun fun _ => congrFun gone other, rfl⟩
  | some route =>
    rw [show (state.answer (.takeRoute topic)).1 = some route from found] at taken
    obtain ⟨answer, _, rfl, further⟩ := course_call taken
    cases answer with
    | ok _ =>
      obtain ⟨rfl, rfl, rfl⟩ := Scene.course_done.mp further
      refine ⟨.ended topic route, rfl, rfl, rfl, rfl, fun other => ?_, rfl⟩
      rw [gone]
      refine leaves_singleton ?_ fun apart => Function.update_of_ne (fun same => ?_) ..
      · rintro ⟨_, ends⟩
        cases ends
        exact Function.update_self ..
      · exact apart ⟨route, same ▸ rfl⟩
    | error text =>
      obtain ⟨_, rfl, restored⟩ := course_enter further
      obtain ⟨rfl, rfl, rfl⟩ := Scene.course_done.mp restored
      have back := State.routed_put (state.answer (.takeRoute topic)).2 topic route
      rw [gone, Function.update_idem, ← found, Function.update_eq_self] at back
      exact ⟨.kept topic route text, rfl, rfl, rfl, rfl,
        fun other => leaves_singleton nofun fun _ => congrFun back other, rfl⟩

/-- **An unsubscribe is an attempt for each topic**, in order, whatever is refused. -/
theorem course_unsubscribeTopics {topics : List String} {failures : List BusError}
    (course : refusing.Course (unsubscribeTopics connection topics) state told failures after) :
    after.session = state.session ∧ ∃ attempts,
      Unsubscribed state.routed topics (demands told) (BusError.collect failures) after.routed
        attempts ∧ failures = attempts.filterMap Attempt.failure? := by
  induction topics generalizing state told failures with
  | nil =>
    obtain ⟨rfl, rfl, rfl⟩ := Scene.course_done.mp course
    refine ⟨rfl, [], ⟨rfl, fun {former _ _} split => ?_, rfl,
      fun topic => leaves_nil topic _, rfl⟩, rfl⟩
    cases former <;> cases split
  | cons topic topics ih =>
    obtain ⟨_, _, between, _, rfl, first, further⟩ := Scene.course_bind.mp course
    obtain ⟨_, _, last, _, rfl, rest, ended⟩ := Scene.course_bind.mp further
    obtain ⟨rfl, rfl, rfl⟩ := Scene.course_done.mp ended
    obtain ⟨attempt, rfl, route, rfl, asked, leaves, session⟩ := course_unsubscribeTopic first
    obtain ⟨sessionRest, attempts, unsubscribed, rfl⟩ := ih rest
    have reported : attempt.failure?.toList ++ attempts.filterMap Attempt.failure? =
        (attempt :: attempts).filterMap Attempt.failure? := by
      cases attempt <;> rfl
    refine ⟨sessionRest.trans session, attempt :: attempts, ⟨?_, ?_, ?_, ?_, ?_⟩, reported⟩
    · rw [List.map_cons, unsubscribed.topics]
    · intro former other behind split
      cases former with
      | nil =>
        cases split
        rw [route]
        exact leaves_nil ..
      | cons head former =>
        obtain ⟨rfl, behindFirst⟩ := List.cons.inj split
        exact (leaves other.topic).cons (unsubscribed.turns behindFirst)
    · rw [List.append_nil, demands_append, asked, unsubscribed.demands, List.flatMap_cons]
    · exact fun topic => (leaves topic).cons (unsubscribed.routes topic)
    · rw [reported]

end Unsubscribing

/-! ### Any calls -/

/-- The filters that have a route afterwards are those that had one before, but for what the broker
has accepted last. -/
def Mirrors (demanded : List Demand) (before after : String → Option Route) : Prop :=
  ∀ filter, (after filter).isSome =
    (demanded.filterMap (Demand.accepted? filter)).getLast?.getD (before filter).isSome

/-- What a call does to routes: they mirror the requests while the session is not closed, and a
closed client has none. -/
structure Faithful (state : State) (told : List (Moment backend State)) (after : State) : Prop where
  /-- A closed session stays closed. -/
  lasts : state.session = .closed → after.session = .closed
  /-- The routes mirror the requests. -/
  routes : after.session ≠ .closed → Mirrors (demands told) state.routed after.routed
  /-- A client that is closed has no routes, if it had none where it was closed before. -/
  clear : (state.session = .closed → state.routes = []) → after.session = .closed →
    after.routes = []

section Mirrors

variable {before between later : String → Option Route} {first rest : List Demand}

theorem mirrors_nil (before : String → Option Route) : Mirrors [] before before :=
  fun _ => rfl

theorem Mirrors.append (mirrors : Mirrors first before between)
    (further : Mirrors rest between later) : Mirrors (first ++ rest) before later := by
  intro filter
  rw [further filter, mirrors filter, List.filterMap_append, List.getLast?_append]
  cases (rest.filterMap (Demand.accepted? filter)).getLast? <;> rfl

/-- The routes after one attempt mirror its request. -/
theorem mirrors_attempt {attempt : Attempt}
    (leaves : ∀ topic, Leaves [attempt] topic (before topic) (later topic)) :
    Mirrors attempt.demands before later := by
  intro filter
  obtain ⟨gone, kept⟩ := leaves filter
  cases attempt with
  | unknown topic | kept topic route text =>
    rw [kept (List.forall_mem_singleton.mpr nofun)]
    rfl
  | ended topic route =>
    by_cases same : topic = filter
    · subst same
      rw [gone ⟨_, List.mem_singleton_self _, route, rfl⟩]
      simp [Attempt.demands, Demand.accepted?]
    · rw [kept (List.forall_mem_singleton.mpr fun ⟨_, ends⟩ => same (Attempt.ended.inj ends).1)]
      simp [Attempt.demands, Demand.accepted?, same]

end Mirrors

section Calls

variable {state after : State} {told : List (Moment backend State)} {result : BusResult Unit}
  {connection errors : Nat} {binary : Bool} {channel : Channel} {channels : List Channel}

theorem mirrors_addRoute
    (course : refusing.Course (addRoute connection errors binary channel) state told result after) :
    Mirrors (demands told) state.routed after.routed := by
  obtain ⟨-, ⟨-, asked, routes⟩ | ⟨text, -, asked, routed⟩⟩ := course_addRoute course
  · intro filter
    have put : after.routed filter = Function.update state.routed channel.topic
        (some { messages := channel.messages, errors, binary }) filter := by
      rw [← State.routed_put]
      exact congrArg (fun table : RouteTable => table.lookup filter) routes
    rw [asked, put]
    by_cases same : channel.topic = filter
    · rw [same, Function.update_self]
      simp [Demand.accepted?]
    · rw [Function.update_of_ne (Ne.symm same)]
      simp [Demand.accepted?, same]
  · rw [asked, routed]
    exact fun _ => rfl

theorem mirrors_addEach
    (course : refusing.Course (addEach connection errors binary channels) state told result after) :
    Mirrors (demands told) state.routed after.routed := by
  induction channels generalizing state told with
  | nil =>
    obtain ⟨rfl, rfl, rfl⟩ := Scene.course_done.mp course
    exact mirrors_nil _
  | cons channel channels ih =>
    obtain ⟨_, added, between, _, rfl, first, further⟩ := Scene.course_bind.mp course
    rw [demands_append]
    refine (mirrors_addRoute first).append ?_
    cases added with
    | error error =>
      obtain ⟨rfl, rfl, rfl⟩ := Scene.course_done.mp further
      exact mirrors_nil _
    | ok _ => exact ih further

theorem mirrors_unsubscribeTopics {topics : List String} {failures : List BusError}
    (course : refusing.Course (unsubscribeTopics connection topics) state told failures after) :
    Mirrors (demands told) state.routed after.routed := by
  induction topics generalizing state told failures with
  | nil =>
    obtain ⟨rfl, rfl, rfl⟩ := Scene.course_done.mp course
    exact mirrors_nil _
  | cons topic topics ih =>
    obtain ⟨_, _, between, _, rfl, first, further⟩ := Scene.course_bind.mp course
    obtain ⟨_, _, last, _, rfl, rest, ended⟩ := Scene.course_bind.mp further
    obtain ⟨rfl, rfl, rfl⟩ := Scene.course_done.mp ended
    obtain ⟨attempt, -, -, -, asked, leaves, -⟩ := course_unsubscribeTopic first
    rw [List.append_nil, demands_append, asked]
    exact (mirrors_attempt leaves).append (ih rest)

/-- What calls do to routes. -/
def faithful : refusing.Effect where
  acts := Faithful
  nothing state := ⟨id, fun _ => mirrors_nil _, id⟩
  further first rest :=
    { lasts := rest.lasts ∘ first.lasts
      routes := fun opened => by
        rw [demands_append]
        exact (first.routes (mt rest.lasts opened)).append (rest.routes opened)
      clear := fun bare => rest.clear (first.clear bare) }

/-- A call that is passed over on a client that is not connected. -/
theorem faithful_withConnection {next : Nat → Dialogue backend (BusResult Unit)}
    (keeps : ∀ connection state told result after,
      refusing.Course (next connection) state told result after →
        after.session = state.session ∧ Mirrors (demands told) state.routed after.routed) :
    faithful.Of (withConnection next) := by
  intro state told result after course
  rcases course_withConnection course with ⟨-, rfl, silent⟩ | ⟨_, _, connected, asked, further⟩
  · exact ⟨id, fun _ => silent ▸ mirrors_nil _, id⟩
  · obtain ⟨same, mirrors⟩ := keeps _ _ _ _ _ further
    have opened : after.session ≠ .closed := by
      rw [same, connected]
      nofun
    exact ⟨fun closed => same.trans closed, fun _ => asked ▸ mirrors, fun _ closed =>
      absurd closed opened⟩

theorem faithful_addRoutes (binary : Bool) (channels : List Channel) (errors : Nat) :
    faithful.Of (addRoutes binary channels errors) :=
  faithful_withConnection fun _ _ _ _ _ course => ⟨(added_addEach course).1, mirrors_addEach course⟩

theorem faithful_unsubscribe (topics : List String) : faithful.Of (unsubscribe topics) := by
  refine faithful_withConnection fun connection state told result after course => ?_
  obtain ⟨_, _, between, _, rfl, first, ended⟩ := Scene.course_bind.mp course
  obtain ⟨rfl, rfl, rfl⟩ := Scene.course_done.mp ended
  rw [List.append_nil]
  exact ⟨(course_unsubscribeTopics first).1, mirrors_unsubscribeTopics first⟩

theorem faithful_publishBytes (payload : List UInt8) (topic : String) (limitKb : Nat) :
    faithful.Of (publishBytes payload topic limitKb) := by
  refine faithful_withConnection fun connection state told result after course => ?_
  split at course
  · obtain ⟨rfl, -, rfl⟩ := Scene.course_done.mp course
    exact ⟨rfl, mirrors_nil _⟩
  · split at course
    · obtain ⟨rfl, -, rfl⟩ := Scene.course_done.mp course
      exact ⟨rfl, mirrors_nil _⟩
    · obtain ⟨answer, _, rfl, further⟩ := course_call course
      cases answer with
      | ok _ | error _ =>
        obtain ⟨rfl, -, rfl⟩ := Scene.course_done.mp further
        exact ⟨rfl, mirrors_nil _⟩

theorem faithful_connect : faithful.Of connect := by
  intro state told result after course
  obtain ⟨rest, rfl, looked⟩ := course_enter course
  obtain ⟨session, routes⟩ := state
  cases session with
  | connected _ | closed =>
    obtain ⟨rfl, -, rfl⟩ := Scene.course_done.mp looked
    exact ⟨id, fun _ => mirrors_nil _, id⟩
  | idle =>
    obtain ⟨opened, _, rfl, further⟩ := course_call looked
    cases opened with
    | error error =>
      obtain ⟨rfl, -, rfl⟩ := Scene.course_done.mp further
      exact ⟨id, fun _ => mirrors_nil _, id⟩
    | ok connection =>
      obtain ⟨_, rfl, installed⟩ := course_enter further
      obtain ⟨rfl, -, rfl⟩ := Scene.course_done.mp installed
      exact ⟨nofun, fun _ => mirrors_nil _, nofun⟩

theorem faithful_disconnect : faithful.Of disconnect := by
  intro state told result after course
  obtain ⟨rest, rfl, retired⟩ := course_enter course
  obtain ⟨session, routes⟩ := state
  cases session with
  | idle | closed =>
    obtain ⟨rfl, -, rfl⟩ := Scene.course_done.mp retired
    exact ⟨id, fun _ => mirrors_nil _, id⟩
  | connected connection =>
    obtain ⟨_, _, rfl, closing⟩ := course_call retired
    obtain ⟨requested, _, rfl, leaving⟩ := course_call closing
    obtain ⟨_, _, rfl, waited⟩ := course_call leaving
    obtain ⟨_, rfl, cleared⟩ := course_enter waited
    cases requested with
    | ok _ | error _ =>
      obtain ⟨-, -, rfl⟩ := Scene.course_done.mp cleared
      exact ⟨fun _ => rfl, fun opened => absurd rfl opened, fun _ _ => rfl⟩

/-- **Any calls keep the routes what the broker has accepted**, until the session is closed. -/
theorem faithful_callAll (calls : List UserCall) :
    (faithful.beside Task.interface).Of (client.callAll calls) := by
  refine Scene.Effect.of_callAll (fun _ _ _ _ => rfl) (fun incident => incident.elim)
    (fun call => ?_) (fun payload topic => (faithful_publishBytes payload topic 0).left)
    (fun channels errors => (faithful_addRoutes true channels errors).left) calls
  cases call with
  | connect => exact faithful_connect.left
  | publish envelope topic => exact (faithful_publishBytes envelope.encodeBytes topic 0).left
  | publishWithLimit envelope topic limitKb =>
    exact (faithful_publishBytes envelope.encodeBytes topic limitKb).left
  | subscribe channels errors => exact (faithful_addRoutes false channels errors).left
  | unsubscribe topics => exact (faithful_unsubscribe topics).left
  | disconnect => exact faithful_disconnect.left

end Calls

/-! ### The table after failures -/

/-- Every question gets an answer at once. -/
theorem exists_answer_refusing (question : backend.Ask) (state : State) :
    ∃ answer next, refusing.answers question state answer next := by
  match question with
  | .inl question => exact ⟨_, _, rfl, rfl⟩
  | .inr .openSession => exact ⟨.error .disabled, state, rfl⟩
  | .inr (.publish _ _ _) | .inr (.subscribe _ _) | .inr (.unsubscribe _ _)
  | .inr (.disconnect _) => exact ⟨.error "", state, rfl⟩
  | .inr (.abandon _) | .inr (.beginClosing _) | .inr (.awaitEventLoop _) =>
    exact ⟨(), state, rfl⟩

/-- **The route table after failures**, whatever the connection refuses. A subscribe, of envelopes
or of raw bytes, registers topics up to the first one that is refused, which keeps the route it had,
and attempts no others. An unsubscribe comes to its end; it makes an attempt for each topic in
order, takes the routes of those whose subscription was ended, keeps all others and reports the
failures. After any calls of a new client, while its session is not closed, the filters with a route
are those for which the broker has accepted a subscription last; a closed client has no routes. -/
theorem routes_follow_requests :
    (∀ {state : State} {connection : Nat}, state.session = .connected connection →
      ∀ binary channels errors told result after,
        refusing.Course (addRoutes binary channels errors) state told result after →
          after.session = state.session ∧
            Added errors binary state.routes channels (demands told) result after.routed) ∧
    (∀ {state : State} {connection : Nat}, state.session = .connected connection → ∀ topics,
      (∃ told result after, refusing.Course (unsubscribe topics) state told result after) ∧
      ∀ told result after, refusing.Course (unsubscribe topics) state told result after →
        after.session = state.session ∧ ∃ attempts,
          Unsubscribed state.routed topics (demands told) result after.routed attempts) ∧
    ∀ calls log after,
      (refusing.beside Task.interface).Course (client.callAll calls) {} log () after →
        (after.session ≠ .closed → ∀ filter, (after.routed filter).isSome ↔
          (accepted filter (log.filterMap Moment.own?)).getLast? = some true) ∧
        (after.session = .closed → after.routes = []) := by
  refine ⟨fun connected binary channels errors told result after course => ?_,
    fun connected topics => ⟨?_, fun told result after course => ?_⟩,
    fun calls log after course => ?_⟩
  · rcases course_withConnection course with ⟨apart, -⟩ | ⟨_, rest, -, asked, further⟩
    · exact absurd connected (apart _)
    · exact asked ▸ added_addEach further
  · refine Scene.exists_course (fun question _ state => ?_) (Dialogue.asks_anything _) _
    obtain ⟨answer, next, answered⟩ := exists_answer_refusing question state
    exact ⟨state, answer, next, .refl, answered⟩
  · rcases course_withConnection course with ⟨apart, -⟩ | ⟨_, rest, -, asked, further⟩
    · exact absurd connected (apart _)
    · obtain ⟨_, _, between, _, rfl, first, ended⟩ := Scene.course_bind.mp further
      obtain ⟨rfl, rfl, rfl⟩ := Scene.course_done.mp ended
      obtain ⟨session, attempts, unsubscribed, -⟩ := course_unsubscribeTopics first
      rw [asked, List.append_nil]
      exact ⟨session, attempts, unsubscribed⟩
  · have faith : Faithful {} (log.filterMap Moment.own?) after :=
      faithful_callAll calls _ _ _ _ course
    refine ⟨fun opened filter => ?_, faith.clear fun _ => rfl⟩
    rw [faith.routes opened filter, accepted]
    cases ((demands _).filterMap (Demand.accepted? filter)).getLast? with
    | none => exact iff_of_false nofun nofun
    | some up => cases up <;> simp

/-- A client that has one topic subscribed. -/
def single : State :=
  { session := .connected 0, routes := [("a", ⟨0, 9, false⟩)] }

theorem exists_course_addRoutes :
    ∃ told after, refusing.Course (addRoutes true [⟨"b", 1⟩, ⟨"a", 2⟩, ⟨"c", 3⟩] 9) single told
        (.error (topicFailure "subscribe" "a" "full")) after ∧
      demands told = [.subscribe "b" (.ok ()), .subscribe "a" (.error "full")] ∧
      after = { session := .connected 0, routes := [("b", ⟨1, 9, true⟩), ("a", ⟨0, 9, false⟩)] } :=
  ⟨_, _, Scene.course_ask.mpr ⟨_, Session.connected 0, _, _, rfl, .refl, ⟨rfl, rfl⟩,
    Scene.course_ask.mpr ⟨_, none, _, _, rfl, .refl, ⟨rfl, rfl⟩,
    Scene.course_ask.mpr ⟨_, .ok (), _, _, rfl, .refl, rfl,
    Scene.course_ask.mpr ⟨_, some ⟨0, 9, false⟩, _, _, rfl, .refl, ⟨rfl, rfl⟩,
    Scene.course_ask.mpr ⟨_, .error "full", _, _, rfl, .refl, rfl,
    Scene.course_ask.mpr ⟨_, some ⟨2, 9, true⟩, _, _, rfl, .refl, ⟨rfl, rfl⟩, .done _ _⟩⟩⟩⟩⟩⟩,
    rfl, rfl⟩

theorem exists_course_unsubscribe :
    ∃ told after, refusing.Course (unsubscribe ["a", "x", "a"]) single told
        (.error (topicFailure "unsubscribe" "a" "full")) after ∧
      demands told = [.unsubscribe "a" (.error "full"), .unsubscribe "a" (.ok ())] ∧
      after = { session := .connected 0, routes := [] } :=
  ⟨_, _, Scene.course_ask.mpr ⟨_, Session.connected 0, _, _, rfl, .refl, ⟨rfl, rfl⟩,
    Scene.course_ask.mpr ⟨_, some ⟨0, 9, false⟩, _, _, rfl, .refl, ⟨rfl, rfl⟩,
    Scene.course_ask.mpr ⟨_, .error "full", _, _, rfl, .refl, rfl,
    Scene.course_ask.mpr ⟨_, none, _, _, rfl, .refl, ⟨rfl, rfl⟩,
    Scene.course_ask.mpr ⟨_, none, _, _, rfl, .refl, ⟨rfl, rfl⟩,
    Scene.course_ask.mpr ⟨_, some ⟨0, 9, false⟩, _, _, rfl, .refl, ⟨rfl, rfl⟩,
    Scene.course_ask.mpr ⟨_, .ok (), _, _, rfl, .refl, rfl, .done _ _⟩⟩⟩⟩⟩⟩⟩,
    rfl, rfl⟩

/-- A client that connects, subscribes two topics, and ends one subscription of the two. -/
theorem exists_course_calls :
    ∃ log after, (refusing.beside Task.interface).Course (client.callAll
        [.plain .connect, .plain (.subscribe [⟨"a", 0⟩] 9), .subscribeBinary [⟨"b", 1⟩] 9,
          .plain (.unsubscribe ["b", "a"])]) {} log () after ∧
      demands (log.filterMap Moment.own?) = [.subscribe "a" (.ok ()), .subscribe "b" (.ok ()),
        .unsubscribe "b" (.ok ()), .unsubscribe "a" (.error "full")] ∧
      after = { session := .connected 0, routes := [("a", ⟨0, 9, false⟩)] } :=
  ⟨_, _, Scene.course_ask.mpr ⟨_, Session.idle, _, _, rfl, .refl, ⟨rfl, rfl⟩,
    Scene.course_ask.mpr ⟨_, .ok 0, _, _, rfl, .refl, rfl,
    Scene.course_ask.mpr ⟨_, true, _, _, rfl, .refl, ⟨rfl, rfl⟩,
    Scene.course_ask.mpr ⟨_, Session.connected 0, _, _, rfl, .refl, ⟨rfl, rfl⟩,
    Scene.course_ask.mpr ⟨_, none, _, _, rfl, .refl, ⟨rfl, rfl⟩,
    Scene.course_ask.mpr ⟨_, .ok (), _, _, rfl, .refl, rfl,
    Scene.course_ask.mpr ⟨_, Session.connected 0, _, _, rfl, .refl, ⟨rfl, rfl⟩,
    Scene.course_ask.mpr ⟨_, none, _, _, rfl, .refl, ⟨rfl, rfl⟩,
    Scene.course_ask.mpr ⟨_, .ok (), _, _, rfl, .refl, rfl,
    Scene.course_ask.mpr ⟨_, Session.connected 0, _, _, rfl, .refl, ⟨rfl, rfl⟩,
    Scene.course_ask.mpr ⟨_, some ⟨1, 9, true⟩, _, _, rfl, .refl, ⟨rfl, rfl⟩,
    Scene.course_ask.mpr ⟨_, .ok (), _, _, rfl, .refl, rfl,
    Scene.course_ask.mpr ⟨_, some ⟨0, 9, false⟩, _, _, rfl, .refl, ⟨rfl, rfl⟩,
    Scene.course_ask.mpr ⟨_, .error "full", _, _, rfl, .refl, rfl,
    Scene.course_ask.mpr ⟨_, none, _, _, rfl, .refl, ⟨rfl, rfl⟩,
      .done _ _⟩⟩⟩⟩⟩⟩⟩⟩⟩⟩⟩⟩⟩⟩⟩, rfl, rfl⟩

/-- A subscribe that is refused at its second topic, an unsubscribe that asks twice for one topic,
and calls of a new client that leave one of two routes. -/
theorem routes_follow_requests_full :
    (∃ told after, refusing.Course (addRoutes true [⟨"b", 1⟩, ⟨"a", 2⟩, ⟨"c", 3⟩] 9) single told
        (.error (topicFailure "subscribe" "a" "full")) after ∧
      Added 9 true single.routes [⟨"b", 1⟩, ⟨"a", 2⟩, ⟨"c", 3⟩]
        [.subscribe "b" (.ok ()), .subscribe "a" (.error "full")]
        (.error (topicFailure "subscribe" "a" "full")) after.routed) ∧
    (∃ told after attempts, refusing.Course (unsubscribe ["a", "x", "a"]) single told
        (.error (topicFailure "unsubscribe" "a" "full")) after ∧
      Unsubscribed single.routed ["a", "x", "a"]
        [.unsubscribe "a" (.error "full"), .unsubscribe "a" (.ok ())]
        (.error (topicFailure "unsubscribe" "a" "full")) after.routed attempts) ∧
    ∃ log after, (refusing.beside Task.interface).Course (client.callAll
        [.plain .connect, .plain (.subscribe [⟨"a", 0⟩] 9), .subscribeBinary [⟨"b", 1⟩] 9,
          .plain (.unsubscribe ["b", "a"])]) {} log () after ∧
      after.session ≠ .closed ∧ (after.routed "a").isSome ∧ ¬ (after.routed "b").isSome := by
  obtain ⟨added, unsubscribed, called⟩ := routes_follow_requests
  refine ⟨?_, ?_, ?_⟩
  · obtain ⟨told, after, course, asked, -⟩ := exists_course_addRoutes
    exact ⟨told, after, course, asked ▸ (added rfl _ _ _ _ _ _ course).2⟩
  · obtain ⟨told, after, course, asked, -⟩ := exists_course_unsubscribe
    obtain ⟨-, attempts, unsubscribed⟩ := (unsubscribed rfl _).2 _ _ _ course
    exact ⟨told, after, attempts, course, asked ▸ unsubscribed⟩
  · obtain ⟨log, after, course, asked, rfl⟩ := exists_course_calls
    have routed := (called _ log _ course).1 nofun
    refine ⟨log, _, course, nofun, (routed "a").mpr ?_, mt (routed "b").mp ?_⟩
    · rw [accepted, asked]
      rfl
    · rw [accepted, asked]
      nofun

end Client

end MessageBus.Mqtt

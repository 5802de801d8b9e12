/-
**Routes and subscriptions.** The route table of an MQTT client and the filters that its broker has
subscribed, while any number of calls take turns.

* `Desk`, `desk` — a connected client, and what the requests accepted so far make of the filters.
* `changes`, `requests` — what was done to the route of a filter, and what the broker was asked.
* `Stage`, `protocol` — every change of a route is followed by its request, in the same call.
* `Accord` — what changes, requests and the calls in between are to each other; `accord_keeps` — it
  holds throughout every run.
* `routes_agree_iff` — **at rest, table and broker agree on a filter exactly if its last change and
  its last request were of one kind**, and always if its calls do not come between a change and its
  request.
-/

import MessageBus.Mqtt.Client
import MessageBus.Proofs.Dialogue.Turns
import MessageBus.Proofs.Nats.Registry

namespace MessageBus.Mqtt.Client

variable {ι : Type}

/-! ### Calls on a connection that refuses nothing -/

/-- A client, and the filters that its broker has subscribed. -/
structure Desk where
  client : State
  subscribed : String → Bool := fun _ => false

/-- Whether the table has a route for the filter. -/
def Desk.routes (world : Desk) (filter : String) : Bool :=
  (world.client.routes.lookup filter).isSome

/-- A client whose requests are all accepted; the broker carries them out in this order. -/
def desk : Scene backend Desk Empty where
  answers
    | .inl question, world, answer, after =>
      answer = (world.client.answer question).1 ∧
        after = { world with client := (world.client.answer question).2 }
    | .inr (.subscribe _ filter), world, answer, after =>
      answer = .ok () ∧
        after = { world with subscribed := Function.update world.subscribed filter true }
    | .inr (.unsubscribe _ filter), world, answer, after =>
      answer = .ok () ∧
        after = { world with subscribed := Function.update world.subscribed filter false }
    | .inr _, world, _, after => after = world
  happens _ _ _ := False

/-- The calls that change routes. -/
inductive Operation
  | subscribe (channels : List Channel) (errors : Nat)
  | subscribeBinary (channels : List Channel) (errors : Nat)
  | unsubscribe (topics : List String)

/-- What a call does. -/
def Operation.activity : Operation → Dialogue backend (BusResult Unit)
  | .subscribe channels errors => addRoutes false channels errors
  | .subscribeBinary channels errors => addRoutes true channels errors
  | .unsubscribe topics => Client.unsubscribe topics

/-! ### What is done to a filter -/

section History

variable {filter : String} {log : List (Event ι backend Desk Empty)} {who : ι}
  {moment : Moment backend Desk}

/-- Whether the filter got a route or lost the one it had. -/
def change? (filter : String) (moment : Moment backend Desk) : Option Bool :=
  match moment with
  | ⟨_, .inl (.putRoute changed _), _⟩ => if changed = filter then some true else none
  | ⟨_, .inl (.takeRoute changed), some _⟩ => if changed = filter then some false else none
  | _ => none

/-- Whether the broker was asked to subscribe the filter or to end that. -/
def request? (filter : String) (moment : Moment backend Desk) : Option Bool :=
  match moment.question with
  | .inr (.subscribe _ requested) => if requested = filter then some true else none
  | .inr (.unsubscribe _ requested) => if requested = filter then some false else none
  | _ => none

/-- The changes of the route of a filter, in order. -/
def changes (filter : String) (log : List (Event ι backend Desk Empty)) : List Bool :=
  (moments log).filterMap (change? filter)

/-- The requests for a filter, in order. -/
def requests (filter : String) (log : List (Event ι backend Desk Empty)) : List Bool :=
  (moments log).filterMap (request? filter)

/-- The route of the filter is changed only when all earlier changes have had their request. -/
def Apart (filter : String) (log : List (Event ι backend Desk Empty)) : Prop :=
  ∀ before who moment rest, log = before ++ .turn who moment :: rest →
    change? filter moment ≠ none →
      (changes filter before).length = (requests filter before).length

theorem changes_turn :
    changes filter (log ++ [.turn who moment]) =
      changes filter log ++ (change? filter moment).toList :=
  filterMap_moments_turn (change? filter) log who moment

theorem requests_turn :
    requests filter (log ++ [.turn who moment]) =
      requests filter log ++ (request? filter moment).toList :=
  filterMap_moments_turn (request? filter) log who moment

theorem Apart.init {event : Event ι backend Desk Empty} (apart : Apart filter (log ++ [event])) :
    Apart filter log := by
  intro before who moment rest split changed
  refine apart before who moment (rest ++ [event]) ?_ changed
  rw [split, List.append_assoc, List.cons_append]

theorem apart_nil (filter : String) : Apart filter ([] : List (Event ι backend Desk Empty)) := by
  intro before who moment rest split
  simp at split

theorem Apart.snoc (apart : Apart filter log)
    (level : change? filter moment = none ∨
      (changes filter log).length = (requests filter log).length) :
    Apart filter (log ++ [.turn who moment]) := by
  intro before other earlier rest split changed
  obtain ⟨rfl, rfl, same⟩ | ⟨front, rfl, shorter⟩ := last_event split.symm
  · cases same
    exact level.resolve_left changed
  · exact apart before other earlier front shorter.symm changed

end History

/-! ### Calls in turns -/

/-- How far a call is: it owes the broker a request after a change. -/
inductive Stage
  | free
  | owes (filter : String) (up : Bool)

/-- What a call on a connected client may do: it changes routes one by one, and each change is
followed by its request. -/
def protocol : Protocol backend Stage where
  permits
    | .free, .inl .session => True
    | .free, .inl (.putRoute _ _) => True
    | .free, .inl (.takeRoute _) => True
    | .owes filter true, .inr (.subscribe _ requested) => requested = filter
    | .owes filter false, .inr (.unsubscribe _ requested) => requested = filter
    | _, _ => False
  expects
    | .owes _ _, .inr (.subscribe _ _), answer => answer = .ok ()
    | .owes _ _, .inr (.unsubscribe _ _), answer => answer = .ok ()
    | _, _, _ => True
  next
    | .free, .inl (.putRoute filter _), _ => .owes filter true
    | .free, .inl (.takeRoute filter), some _ => .owes filter false
    | _, _, _ => .free

/-- A call owes nothing at its end. -/
def Settles {α : Type} (_ : α) (stage : Stage) : Prop :=
  stage = .free

theorem follows_addRoute (connection errors : Nat) (binary : Bool) (channel : Channel) :
    (addRoute connection errors binary channel).Follows protocol Settles .free := by
  refine ⟨trivial, fun previous _ => ⟨rfl, ?_⟩⟩
  rintro _ rfl
  rfl

theorem follows_addEach (connection errors : Nat) (binary : Bool) (channels : List Channel) :
    (addEach connection errors binary channels).Follows protocol Settles .free := by
  induction channels with
  | nil => rfl
  | cons channel channels ih =>
    refine (follows_addRoute connection errors binary channel).bind ?_
    rintro (error | _) _ rfl
    · rfl
    · exact ih

theorem follows_unsubscribeTopics (connection : Nat) (topics : List String) :
    (unsubscribeTopics connection topics).Follows protocol Settles .free := by
  induction topics with
  | nil => rfl
  | cons topic topics ih =>
    have first : (unsubscribeTopic connection topic).Follows protocol Settles .free := by
      refine ⟨trivial, ?_⟩
      rintro (_ | route) -
      · rfl
      · refine ⟨rfl, ?_⟩
        rintro _ rfl
        rfl
    refine first.bind ?_
    rintro failures _ rfl
    refine ih.bind ?_
    rintro further _ rfl
    rfl

theorem follows_withConnection {next : Nat → Dialogue backend (BusResult Unit)}
    (follows : ∀ connection, (next connection).Follows protocol Settles .free) :
    (withConnection next).Follows protocol Settles .free := by
  refine ⟨trivial, ?_⟩
  rintro (_ | connection | _) -
  · rfl
  · exact follows connection
  · rfl

/-- **Every call keeps to the protocol.** -/
theorem follows_activity (operation : Operation) :
    operation.activity.Follows protocol Settles .free := by
  cases operation with
  | subscribe channels errors =>
    exact follows_withConnection fun connection => follows_addEach connection errors false channels
  | subscribeBinary channels errors =>
    exact follows_withConnection fun connection => follows_addEach connection errors true channels
  | unsubscribe topics =>
    refine follows_withConnection fun connection => ?_
    refine (follows_unsubscribeTopics connection topics).bind ?_
    rintro failures _ rfl
    rfl

/-! ### Changes and requests -/

/-- What the changes, the requests and the calls in between are to each other. -/
structure Accord (filter : String) (start : Desk) (stages : ι → Stage)
    (log : List (Event ι backend Desk Empty)) (world : Desk) : Prop where
  /-- The table is what the last change made it. -/
  table : world.routes filter = (changes filter log).getLast?.getD (start.routes filter)
  /-- The broker has what the last request asked for. -/
  broker : world.subscribed filter =
    (requests filter log).getLast?.getD (start.subscribed filter)
  /-- Requests come from changes, and changes lead to requests. -/
  idle : changes filter log = [] ↔
    requests filter log = [] ∧ ∀ who up, stages who ≠ .owes filter up
  /-- If nothing comes between a change and its request, every change had its request up to one. -/
  apart : Apart filter log →
    (∀ who up, stages who ≠ .owes filter up) ∧ changes filter log = requests filter log ∨
      ∃ who up, stages who = .owes filter up ∧
        (∀ other, other ≠ who → ∀ owed, stages other ≠ .owes filter owed) ∧
        changes filter log = requests filter log ++ [up]

section Accord

variable [DecidableEq ι] {filter : String} {start world after : Desk} {stages : ι → Stage}
  {log : List (Event ι backend Desk Empty)} {who : ι} {moment : Moment backend Desk}
  {stage : Stage} {up : Bool}

/-- A turn that is not about the filter. -/
theorem Accord.pass (accord : Accord filter start stages log world)
    (before : ∀ up, stages who ≠ .owes filter up) (free : ∀ up, stage ≠ .owes filter up)
    (unchanged : change? filter moment = none) (unasked : request? filter moment = none)
    (routes : after.routes filter = world.routes filter)
    (subscribed : after.subscribed filter = world.subscribed filter) :
    Accord filter start (Function.update stages who stage) (log ++ [.turn who moment]) after := by
  have same : ∀ other up, Function.update stages who stage other = .owes filter up ↔
      stages other = .owes filter up := by
    intro other up
    by_cases self : other = who
    · subst self
      rw [Function.update_self]
      exact iff_of_false (free up) (before up)
    · rw [Function.update_of_ne self]
  refine ⟨?_, ?_, ?_, fun apart => ?_⟩
  · rw [changes_turn, unchanged, routes, accord.table, Option.toList_none, List.append_nil]
  · rw [requests_turn, unasked, subscribed, accord.broker, Option.toList_none, List.append_nil]
  · rw [changes_turn, requests_turn, unchanged, unasked]
    simpa [same] using accord.idle
  · rw [changes_turn, requests_turn, unchanged, unasked]
    simpa [same] using accord.apart apart.init

/-- A call changes the route of the filter. -/
theorem Accord.change (accord : Accord filter start stages log world)
    (changed : change? filter moment = some up)
    (unasked : request? filter moment = none) (routes : after.routes filter = up)
    (subscribed : after.subscribed filter = world.subscribed filter) :
    Accord filter start (Function.update stages who (.owes filter up)) (log ++ [.turn who moment])
      after := by
  have more : changes filter (log ++ [.turn who moment]) = changes filter log ++ [up] := by
    rw [changes_turn, changed, Option.toList_some]
  have asked : requests filter (log ++ [.turn who moment]) = requests filter log := by
    rw [requests_turn, unasked, Option.toList_none, List.append_nil]
  refine ⟨?_, ?_, ?_, fun apart => .inr ⟨who, up, Function.update_self .., ?_, ?_⟩⟩
  · rw [more, List.getLast?_concat, routes, Option.getD_some]
  · rw [asked, subscribed, accord.broker]
  · rw [more]
    refine iff_of_false (by simp) fun none => none.2 who up (Function.update_self ..)
  · -- All earlier changes have had their request, so no other call owes one.
    have level := apart log who moment [] rfl (by simp [changed])
    intro other apartWho owed owes
    rw [Function.update_of_ne apartWho] at owes
    rcases accord.apart apart.init with ⟨none, -⟩ | ⟨_, _, -, -, longer⟩
    · exact none other owed owes
    · rw [longer, List.length_append] at level
      simp at level
  · have level := apart log who moment [] rfl (by simp [changed])
    rw [more, asked]
    rcases accord.apart apart.init with ⟨-, same⟩ | ⟨_, _, -, -, longer⟩
    · rw [same]
    · rw [longer, List.length_append] at level
      simp at level

/-- A call makes the request that it owes. -/
theorem Accord.request (accord : Accord filter start stages log world)
    (owes : stages who = .owes filter up) (unchanged : change? filter moment = none)
    (asks : request? filter moment = some up) (routes : after.routes filter = world.routes filter)
    (subscribed : after.subscribed filter = up) :
    Accord filter start (Function.update stages who .free) (log ++ [.turn who moment]) after := by
  have same : changes filter (log ++ [.turn who moment]) = changes filter log := by
    rw [changes_turn, unchanged, Option.toList_none, List.append_nil]
  have more : requests filter (log ++ [.turn who moment]) = requests filter log ++ [up] := by
    rw [requests_turn, asks, Option.toList_some]
  refine ⟨?_, ?_, ?_, fun apart => .inl ?_⟩
  · rw [same, routes, accord.table]
  · rw [more, List.getLast?_concat, subscribed, Option.getD_some]
  · rw [same, more]
    have changed : changes filter log ≠ [] := fun none => (accord.idle.mp none).2 who up owes
    exact iff_of_false changed (by simp)
  · rcases accord.apart apart.init with ⟨none, -⟩ | ⟨only, due, owesDue, others, longer⟩
    · exact absurd owes (none who up)
    have self : who = only := by
      by_contra apartOnly
      exact others who apartOnly up owes
    subst self
    obtain ⟨-, rfl⟩ := Stage.owes.inj (owes.symm.trans owesDue)
    refine ⟨fun other owed => ?_, by rw [same, more, longer]⟩
    by_cases self : other = who
    · rw [self, Function.update_self]
      nofun
    · rw [Function.update_of_ne self]
      exact others other self owed

/-! ### Turns -/

theorem lookup_put (table : RouteTable) (changed filter : String) (route : Route) :
    (table.put changed route).lookup filter =
      if filter = changed then some route else table.lookup filter := by
  have absent : (table.without changed).lookup changed = none :=
    (Nats.Client.State.lookup_without table changed changed).trans (if_pos rfl)
  refine (Nats.Client.State.lookup_append_entry _ changed filter route absent).trans ?_
  by_cases same : filter = changed
  · rw [if_pos same, if_pos same]
  · rw [if_neg same, if_neg same]
    exact (Nats.Client.State.lookup_without table changed filter).trans (if_neg same)

theorem Accord.look (accord : Accord filter start stages log world) (free : stages who = .free)
    (answer : Session) :
    Accord filter start (Function.update stages who .free)
      (log ++ [.turn who ⟨world, .inl .session, answer⟩]) world :=
  accord.pass (by simp [free]) (by simp) rfl rfl rfl rfl

theorem Accord.put {changed : String} {route : Route} {previous : Option Route}
    (accord : Accord filter start stages log world) (free : stages who = .free)
    (later : after = { world with client := (world.client.answer (.putRoute changed route)).2 }) :
    Accord filter start (Function.update stages who (.owes changed true))
      (log ++ [.turn who ⟨world, .inl (.putRoute changed route), previous⟩]) after := by
  subst later
  have table := lookup_put world.client.routes changed filter route
  by_cases same : changed = filter
  · subst same
    refine accord.change (by simp [change?]) rfl ?_ rfl
    exact congrArg Option.isSome (table.trans (if_pos rfl))
  · refine accord.pass (by simp [free]) (by simp [same]) (by simp [change?, same]) rfl ?_ rfl
    exact congrArg Option.isSome (table.trans (if_neg (Ne.symm same)))

theorem Accord.take {changed : String} (accord : Accord filter start stages log world)
    (free : stages who = .free)
    (later : after = { world with client := (world.client.answer (.takeRoute changed)).2 }) :
    Accord filter start
      (Function.update stages who
        (protocol.next .free (.inl (.takeRoute changed)) (world.client.routes.lookup changed)))
      (log ++ [.turn who ⟨world, .inl (.takeRoute changed), world.client.routes.lookup changed⟩])
      after := by
  subst later
  have table := Nats.Client.State.lookup_without world.client.routes changed filter
  by_cases same : changed = filter
  · subst same
    have gone := congrArg Option.isSome (table.trans (if_pos rfl))
    cases found : world.client.routes.lookup changed with
    | none =>
      refine accord.pass (by simp [free]) (by simp [protocol]) rfl rfl (gone.trans ?_) rfl
      exact (congrArg Option.isSome found).symm
    | some route => exact accord.change (by simp [change?]) rfl gone rfl
  · have kept := congrArg Option.isSome (table.trans (if_neg (Ne.symm same)))
    cases found : world.client.routes.lookup changed with
    | none => exact accord.pass (by simp [free]) (by simp [protocol]) rfl rfl kept rfl
    | some route =>
      exact accord.pass (by simp [free]) (by simp [protocol, same]) (by simp [change?, same]) rfl
        kept rfl

theorem Accord.ask {requested : String} (accord : Accord filter start stages log world)
    (owes : stages who = .owes requested up) (unchanged : change? filter moment = none)
    (asks : request? filter moment = if requested = filter then some up else none)
    (later : after =
      { world with subscribed := Function.update world.subscribed requested up }) :
    Accord filter start (Function.update stages who .free) (log ++ [.turn who moment]) after := by
  subst later
  by_cases same : requested = filter
  · subst same
    exact accord.request owes unchanged (asks.trans (if_pos rfl)) rfl (Function.update_self ..)
  · exact accord.pass (by simp [owes, same]) (by simp) unchanged (asks.trans (if_neg same)) rfl
      (Function.update_of_ne (Ne.symm same) ..)

/-- **Changes, requests and calls stay what they are to each other.** -/
theorem accord_keeps (filter : String) (start : Desk) :
    desk.Keeps (fun _ : ι => protocol) (Accord filter start) where
  turn {stages log world who question answer later} accord permitted answered := by
    generalize stageOf : stages who = stage at permitted ⊢
    obtain _ | ⟨owed, _ | _⟩ := stage
    case free =>
      obtain ⟨_ | _ | _ | ⟨changed, route⟩ | changed | _⟩ | _ := question
      case inl.session =>
        obtain ⟨rfl, rfl⟩ := answered
        exact ⟨trivial, accord.look stageOf _⟩
      case inl.putRoute =>
        obtain ⟨rfl, later⟩ := answered
        exact ⟨trivial, accord.put stageOf later⟩
      case inl.takeRoute =>
        obtain ⟨rfl, later⟩ := answered
        exact ⟨trivial, accord.take stageOf later⟩
      all_goals exact permitted.elim
    case owes.false =>
      obtain _ | ⟨_ | _ | _ | _ | ⟨connection, requested⟩ | _ | _ | _⟩ := question
      case inr.unsubscribe =>
        obtain rfl : requested = owed := permitted
        obtain ⟨rfl, later⟩ := answered
        exact ⟨rfl, accord.ask stageOf rfl rfl later⟩
      all_goals exact permitted.elim
    case owes.true =>
      obtain _ | ⟨_ | _ | _ | ⟨connection, requested⟩ | _ | _ | _ | _⟩ := question
      case inr.subscribe =>
        obtain rfl : requested = owed := permitted
        obtain ⟨rfl, later⟩ := answered
        exact ⟨rfl, accord.ask stageOf rfl rfl later⟩
      all_goals exact permitted.elim
  incident _ happened := happened.elim

/-! ### At rest -/

/-- All calls have returned. -/
def AtRest (pool : ι → Dialogue backend (BusResult Unit)) : Prop :=
  ∀ who, ∃ result, pool who = .done result

/-- **At rest, table and broker agree on a filter exactly if its last change and its last request
were of one kind**, whatever calls took turns on a client whose table and broker agreed before. They
do agree if no call changed the route of the filter between a change and its request. -/
theorem routes_agree_iff {operations : ι → Operation}
    {pool : ι → Dialogue backend (BusResult Unit)}
    (agreed : start.routes filter = start.subscribed filter)
    (run : desk.Run (fun who => (operations who).activity) start log pool world)
    (rest : AtRest pool) :
    (world.routes filter = world.subscribed filter ↔
        (changes filter log).getLast? = (requests filter log).getLast?) ∧
      (Apart filter log → world.routes filter = world.subscribed filter) := by
  have first : Accord filter start (fun _ : ι => .free) [] start :=
    ⟨rfl, rfl, iff_of_true rfl ⟨rfl, fun _ _ => nofun⟩, fun _ => .inl ⟨fun _ _ => nofun, rfl⟩⟩
  have keeps (who : ι) : (operations who).activity.Follows protocol Settles
      ((fun _ => .free : ι → Stage) who) := follows_activity (operations who)
  obtain ⟨stages, accord, follow⟩ := run.invariant (accord_keeps filter start) first keeps
  have free : ∀ who up, stages who ≠ .owes filter up := by
    intro who up owes
    obtain ⟨result, ended⟩ := rest who
    have settled := follow who
    rw [ended] at settled
    rw [show stages who = .free from settled] at owes
    cases owes
  have idle : changes filter log = [] ↔ requests filter log = [] :=
    accord.idle.trans (and_iff_left free)
  have agree : world.routes filter = world.subscribed filter ↔
      (changes filter log).getLast? = (requests filter log).getLast? := by
    rw [accord.table, accord.broker, agreed]
    cases changed : (changes filter log).getLast? with
    | none =>
      have none := idle.mp (List.getLast?_eq_none_iff.mp changed)
      simp [none]
    | some up =>
      cases asked : (requests filter log).getLast? with
      | none =>
        have none := idle.mpr (List.getLast?_eq_none_iff.mp asked)
        simp [none] at changed
      | some other => simp
  refine ⟨agree, fun apart => agree.mpr ?_⟩
  rcases accord.apart apart with ⟨-, same⟩ | ⟨who, up, owes, -⟩
  · rw [same]
  · exact absurd owes (free who up)

end Accord

/-- One call subscribes a topic and another one ends the subscription. -/
def rivals : Fin 2 → Operation
  | 0 => .subscribe [⟨"a", 0⟩] 0
  | 1 => .unsubscribe ["a"]

/-- They take turns on a client that has just connected. -/
theorem idle_rivals :
    desk.Run (fun who => (rivals who).activity) { client := { session := .connected 0 } }
      ([] : List (Event (Fin 2) backend Desk Empty)) (fun who => (rivals who).activity)
      { client := { session := .connected 0 } } :=
  .start

theorem exists_rivals_apart :
    ∃ (log : List (Event (Fin 2) backend Desk Empty))
      (pool : Fin 2 → Dialogue backend (BusResult Unit)) (world : Desk),
      desk.Run (fun who => (rivals who).activity) { client := { session := .connected 0 } } log pool
        world ∧ AtRest pool ∧ changes "a" log = [true, false] ∧ Apart "a" log := by
  have subscribed := ((idle_rivals.step 0 rfl (.connected 0) ⟨rfl, rfl⟩).step 0 rfl none
    ⟨rfl, rfl⟩).step 0 rfl (.ok ()) ⟨rfl, rfl⟩
  have ended := ((subscribed.step 1 rfl (.connected 0) ⟨rfl, rfl⟩).step 1 rfl (some ⟨0, 0, false⟩)
    ⟨rfl, rfl⟩).step 1 rfl (.ok ()) ⟨rfl, rfl⟩
  refine ⟨_, _, _, ended, ?_, rfl, ?_⟩
  · intro who
    match who with
    | 0 | 1 => exact ⟨_, rfl⟩
  · refine (((((((apart_nil _).snoc ?_).snoc ?_).snoc ?_).snoc ?_).snoc ?_).snoc ?_)
    exacts [.inr rfl, .inr rfl, .inl rfl, .inr rfl, .inr rfl, .inl rfl]

/-- One after the other, they leave no route and no subscription. -/
theorem routes_agree_iff_rivals :
    ∃ (log : List (Event (Fin 2) backend Desk Empty))
      (pool : Fin 2 → Dialogue backend (BusResult Unit)) (world : Desk),
      desk.Run (fun who => (rivals who).activity) { client := { session := .connected 0 } } log pool
        world ∧ AtRest pool ∧ changes "a" log = [true, false] ∧ Apart "a" log ∧
      world.routes "a" = world.subscribed "a" := by
  obtain ⟨log, pool, world, run, rest, changed, apart⟩ := exists_rivals_apart
  exact ⟨log, pool, world, run, rest, changed, apart, (routes_agree_iff rfl run rest).2 apart⟩

/-- The subscription is ended between the change of the route and its request: at rest the broker
has a subscription without a route. -/
theorem routes_disagree :
    ∃ (log : List (Event (Fin 2) backend Desk Empty))
      (pool : Fin 2 → Dialogue backend (BusResult Unit)) (world : Desk),
      desk.Run (fun who => (rivals who).activity) { client := { session := .connected 0 } } log pool
        world ∧ AtRest pool ∧ world.routes "a" = false ∧ world.subscribed "a" = true := by
  have put := (idle_rivals.step 0 rfl (.connected 0) ⟨rfl, rfl⟩).step 0 rfl none ⟨rfl, rfl⟩
  have ended := ((put.step 1 rfl (.connected 0) ⟨rfl, rfl⟩).step 1 rfl (some ⟨0, 0, false⟩)
    ⟨rfl, rfl⟩).step 1 rfl (.ok ()) ⟨rfl, rfl⟩
  have subscribed := ended.step 0 rfl (.ok ()) ⟨rfl, rfl⟩
  refine ⟨_, _, _, subscribed, ?_, rfl, rfl⟩
  intro who
  match who with
  | 0 | 1 => exact ⟨_, rfl⟩

end MessageBus.Mqtt.Client

/-
**What an event loop does with messages.** Each one is looked up and handed to the routes that are
found, one after the other.

* `Publication` — a message that has arrived; `received` — what a route of either kind makes of it;
  `parcel` — what is asked of the place for a route.
* `Round` — a message with the routes that were found for it and what was handed out; `Fair` — each
  of these routes got its parcel, and they are those whose filters take the topic.
* `course_dispatch`, `course_run_quiet` — one message, and then all: the event loop goes from round
  to round.
* `sent_rounds`, `reported_rounds` — what rounds send to a queue; `fills_of_rounds` — that is what
  comes into it.
* `asks_run` — an event loop that does not connect again looks, sends and reports.
-/

import MessageBus.Proofs.Mqtt.Surroundings

namespace MessageBus.Mqtt

/-- Whether an event loop that does not connect again ends with a report. -/
def Report.ends : Report → Bool
  | .left => true
  | .lost _ => true
  | _ => false

namespace EventLoop

/-- A message that has arrived. -/
structure Publication where
  topic : String
  payload : List UInt8
  deriving DecidableEq

namespace Publication

def report (publication : Publication) : Report :=
  .arrived publication.topic publication.payload

/-- What a route of a kind makes of an arrived message. -/
def received (publication : Publication) (binary : Bool) : BusResult Envelope :=
  receivedEnvelope publication.topic publication.payload binary

/-- The envelope for a route of a kind, if there is one. -/
def envelope? (publication : Publication) (binary : Bool) : Option Envelope :=
  (publication.received binary).toOption

/-- The error for a route of a kind, if there is no envelope. -/
def fault? (publication : Publication) (binary : Bool) : Option BusError :=
  match publication.received binary with
  | .ok _ => none
  | .error error => some error

/-- What is asked of the place for a route. -/
def parcel (publication : Publication) (route : Route) : looks.work.Ask :=
  match publication.received route.binary with
  | .ok envelope => .inr (.send route.messages envelope)
  | .error error => .inr (.report route.errors error)

/-- What routes send to a queue of messages. -/
def envelopes (publication : Publication) (number : Nat) (routes : List Route) : List Envelope :=
  routes.filterMap fun route =>
    if route.messages = number then publication.envelope? route.binary else none

/-- What routes report to a queue of errors. -/
def faults (publication : Publication) (number : Nat) (routes : List Route) : List BusError :=
  routes.filterMap fun route =>
    if route.errors = number then publication.fault? route.binary else none

variable (publication : Publication) (number : Nat) (route : Route)

theorem sent?_parcel : sent? number (publication.parcel route) =
    if route.messages = number then publication.envelope? route.binary else none := by
  unfold parcel envelope?
  cases publication.received route.binary with
  | ok envelope => rfl
  | error error => exact (ite_self _).symm

theorem reported?_parcel : reported? number (publication.parcel route) =
    if route.errors = number then publication.fault? route.binary else none := by
  unfold parcel fault?
  cases publication.received route.binary with
  | ok envelope => exact (ite_self _).symm
  | error error => rfl

end Publication

/-- The message that a report brings. -/
def publication? : Report → Option Publication
  | .arrived topic payload => some ⟨topic, payload⟩
  | _ => none

/-- A message with the routes that were found for it. -/
structure Round where
  publication : Publication
  /-- The world in which routes were looked up. -/
  world : Surroundings
  /-- The routes in the order in which they were found. -/
  order : List Route
  /-- What was handed out. -/
  told : List (Moment looks.work Surroundings)

namespace Round

/-- What is seen of a round. -/
def log (round : Round) : List (Moment looks.work Surroundings) :=
  ⟨round.world, .inl (.routesFor round.publication.topic), round.order⟩ :: round.told

/-- The routes are those whose filters take the topic, and each of them gets its parcel. -/
structure Fair (round : Round) : Prop where
  found : round.order.Perm (round.world.table.matching round.publication.topic)
  told : asked round.told = round.order.map round.publication.parcel

end Round

section Courses

variable {supply : Nat → String} {world after : Surroundings} {publication : Publication}
  {route : Route} {routes : List Route} {log : List (Moment looks.work Surroundings)}
  {reconnect value : Bool} {reports : List Report} {rounds : List Round}

/-- A question is answered some time or other. -/
theorem course_ask {α : Type} {question : looks.work.Ask}
    {resume : looks.work.Answer question → Dialogue looks.work α} {value : α}
    (course : (scene supply).Course (.ask question resume) world log value after) :
    ∃ now answer next rest, log = ⟨now, question, answer⟩ :: rest ∧
      (scene supply).answers question now answer next ∧
      (scene supply).Course (resume answer) next rest value after := by
  obtain ⟨now, answer, next, rest, rfl, -, answered, further⟩ := Scene.course_ask.mp course
  exact ⟨now, answer, next, rest, rfl, answered, further⟩

/-- **One route gets its parcel.** -/
theorem course_deliver {value : Unit} (course : (scene supply).Course
      (deliver publication.topic publication.payload route) world log value after) :
    asked log = [publication.parcel route] := by
  unfold deliver at course
  unfold Publication.parcel Publication.received
  cases received : receivedEnvelope publication.topic publication.payload route.binary with
  | ok envelope | error error =>
    rw [received] at course
    obtain ⟨now, took, next, rest, rfl, -, further⟩ := course_ask course
    obtain ⟨rfl, -, -⟩ := Scene.course_done.mp further
    rfl

/-- **Every route gets its parcel**, in order. -/
theorem course_deliverAll {value : Unit} (course : (scene supply).Course
      (deliverAll publication.topic publication.payload routes) world log value after) :
    asked log = routes.map publication.parcel := by
  induction routes generalizing world log with
  | nil =>
    obtain ⟨rfl, -, -⟩ := Scene.course_done.mp course
    rfl
  | cons route routes ih =>
    obtain ⟨first, _, between, rest, rfl, delivered, further⟩ := Scene.course_bind.mp course
    rw [asked_append, course_deliver delivered, ih further, List.map_cons, List.singleton_append]

/-- **A message is a fair round.** -/
theorem course_dispatch {value : Unit} (publication : Publication) (course : (scene supply).Course
      (dispatch publication.topic publication.payload) world log value after) :
    ∃ round : Round, round.publication = publication ∧ round.Fair ∧ log = round.log := by
  obtain ⟨now, order, next, told, rfl, ⟨found, -⟩, delivered⟩ := course_ask course
  exact ⟨⟨publication, now, order, told⟩, rfl, ⟨found, course_deliverAll delivered⟩, rfl⟩

/-- **Without an end, the event loop goes from round to round.** -/
theorem course_run_quiet (quiet : ∀ report ∈ reports, report.ends = false)
    (course : (scene supply).Course (run reconnect reports) world log value after) :
    value = true ∧ ∃ rounds : List Round,
      rounds.map (·.publication) = reports.filterMap publication? ∧
        (∀ round ∈ rounds, round.Fair) ∧ log = rounds.flatMap Round.log := by
  induction reports generalizing world log with
  | nil =>
    obtain ⟨rfl, rfl, -⟩ := Scene.course_done.mp course
    exact ⟨rfl, [], rfl, nofun, rfl⟩
  | cons report reports ih =>
    obtain ⟨now, later⟩ := List.forall_mem_cons.mp quiet
    obtain ⟨first, goes, between, rest, rfl, reacted, further⟩ := Scene.course_bind.mp course
    cases report with
    | left | lost reason => cases now
    | other =>
      obtain ⟨rfl, rfl, rfl⟩ := Scene.course_done.mp reacted
      exact ih later further
    | arrived topic payload =>
      obtain ⟨told, _, _, _, rfl, dispatched, ended⟩ := Scene.course_bind.mp reacted
      obtain ⟨rfl, rfl, rfl⟩ := Scene.course_done.mp ended
      obtain ⟨round, same, fair, rfl⟩ := course_dispatch ⟨topic, payload⟩ dispatched
      obtain ⟨value, rounds, published, allFair, rfl⟩ := ih later further
      refine ⟨value, round :: rounds, ?_, List.forall_mem_cons.mpr ⟨fair, allFair⟩, ?_⟩
      · rw [List.map_cons, same, published]
        rfl
      · rw [List.append_nil]
        rfl

/-! ### What comes into queues -/

theorem Round.Fair.sent {round : Round} (fair : round.Fair) (number : Nat) :
    sent number round.log = round.publication.envelopes number round.order := by
  show (asked round.told).filterMap (sent? number) = _
  rw [fair.told, List.filterMap_map]
  exact List.filterMap_congr fun route _ => round.publication.sent?_parcel number route

theorem Round.Fair.reported {round : Round} (fair : round.Fair) (number : Nat) :
    reported number round.log = round.publication.faults number round.order := by
  show (asked round.told).filterMap (reported? number) = _
  rw [fair.told, List.filterMap_map]
  exact List.filterMap_congr fun route _ => round.publication.reported?_parcel number route

/-- **What rounds send to a queue of messages.** -/
theorem sent_rounds (fair : ∀ round ∈ rounds, round.Fair) (number : Nat) :
    sent number (rounds.flatMap Round.log) =
      rounds.flatMap fun round => round.publication.envelopes number round.order := by
  induction rounds with
  | nil => rfl
  | cons round rounds ih =>
    obtain ⟨now, later⟩ := List.forall_mem_cons.mp fair
    rw [List.flatMap_cons, sent_append, now.sent, ih later, List.flatMap_cons]

/-- **What rounds report to a queue of errors.** -/
theorem reported_rounds (fair : ∀ round ∈ rounds, round.Fair) (number : Nat) :
    reported number (rounds.flatMap Round.log) =
      rounds.flatMap fun round => round.publication.faults number round.order := by
  induction rounds with
  | nil => rfl
  | cons round rounds ih =>
    obtain ⟨now, later⟩ := List.forall_mem_cons.mp fair
    rw [List.flatMap_cons, reported_append, now.reported, ih later, List.flatMap_cons]

/-- **Queues take what fair rounds send and report.** -/
theorem fills_of_rounds (fair : ∀ round ∈ rounds, round.Fair)
    (fills : Fills (sent · (rounds.flatMap Round.log)) (reported · (rounds.flatMap Round.log)) world
      after) :
    Fills (fun number => rounds.flatMap fun round =>
        round.publication.envelopes number round.order)
      (fun number => rounds.flatMap fun round => round.publication.faults number round.order) world
      after :=
  ⟨fun number => sent_rounds fair number ▸ fills.messages number,
    fun number => reported_rounds fair number ▸ fills.errors number⟩

end Courses

/-! ### What an event loop asks -/

section Asks

variable (topic : String) (payload : List UInt8) (route : Route) (routes : List Route)

theorem asks_deliver : (deliver topic payload route).Asks Feeds := by
  unfold deliver
  cases receivedEnvelope topic payload route.binary with
  | ok envelope | error error => exact ⟨trivial, fun _ => trivial⟩

theorem asks_deliverAll : (deliverAll topic payload routes).Asks Feeds := by
  induction routes with
  | nil => exact trivial
  | cons route routes ih => exact (asks_deliver topic payload route).bind fun _ => ih

theorem asks_reportAll (reason : String) : (reportAll reason routes).Asks Feeds := by
  induction routes with
  | nil => exact trivial
  | cons route routes ih => exact ⟨trivial, fun _ => ih⟩

theorem asks_lose (reason : String) : (lose false reason).Asks Feeds := by
  refine ⟨trivial, fun closing => ?_⟩
  cases closing with
  | true => exact trivial
  | false =>
    exact ⟨trivial, fun routes => (asks_reportAll routes reason).bind fun _ => trivial⟩

/-- An event loop looks, sends and reports, unless it connects again. -/
theorem asks_react {reconnect : Bool} {report : Report}
    (once : report.ends = true → reconnect = false) : (react reconnect report).Asks Feeds := by
  cases report with
  | arrived topic payload =>
    have dispatched : (dispatch topic payload).Asks Feeds :=
      ⟨trivial, fun routes => asks_deliverAll topic payload routes⟩
    exact dispatched.bind fun _ => trivial
  | left | other => exact trivial
  | lost reason => exact once rfl ▸ asks_lose reason

theorem asks_run {reconnect : Bool} {reports : List Report}
    (once : ∀ report ∈ reports, report.ends = true → reconnect = false) :
    (run reconnect reports).Asks Feeds := by
  induction reports with
  | nil => exact trivial
  | cons report reports ih =>
    obtain ⟨now, later⟩ := List.forall_mem_cons.mp once
    refine (asks_react now).bind fun goes => ?_
    cases goes with
    | true => exact ih later
    | false => exact trivial

end Asks

end EventLoop

end MessageBus.Mqtt

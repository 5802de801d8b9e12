/-
**Where an event loop runs.** Its route table is changed by others, its queues have receivers, and
the client may want to end at any time.

* `RouteTable.matching` — the routes whose filters take a topic; `RouteTable.into`,
  `RouteTable.noting` — the routes that share a queue.
* `Surroundings` — the route table, whether the client wants to end, and the place with its queues.
* `Finds` — what a look finds: routes are enumerated in any order.
* `Incident`, `scene` — everything that may happen while the event loop waits.
* `sent`, `reported` — what was sent to a queue of messages, and reported to a queue of errors.
* `fills_of_course` — **queues take what is sent to them**, and nothing else.
* `exists_steady_course` — **an event loop comes to its end** if receivers take what waits.
-/

import MessageBus.Mqtt.EventLoop
import MessageBus.Proofs.Dialogue.Course
import MessageBus.Proofs.Task.Intake

namespace MessageBus.Mqtt

/-- The routes whose filters take a topic, in the order of the table. -/
def RouteTable.matching (table : RouteTable) (topic : String) : List Route :=
  (List.filter (fun entry : String × Route => topicMatches entry.1 topic) table).map (·.2)

/-- The routes of all filters, in the order of the table. -/
def RouteTable.routes (table : RouteTable) : List Route :=
  List.map (fun entry : String × Route => entry.2) table

/-- The routes that share a queue, which each route names. -/
def RouteTable.sharing (table : RouteTable) (queue : Route → Nat) (number : Nat) : RouteTable :=
  List.filter (fun entry : String × Route => queue entry.2 = number) table

/-- The routes that send to a queue of messages. -/
def RouteTable.into (table : RouteTable) (number : Nat) : RouteTable :=
  table.sharing (·.messages) number

/-- The routes that report to a queue of errors. -/
def RouteTable.noting (table : RouteTable) (number : Nat) : RouteTable :=
  table.sharing (·.errors) number

namespace EventLoop

/-- What an event loop runs in. -/
structure Surroundings where
  table : RouteTable := []
  /-- Whether the client wants to end. -/
  closing : Bool := false
  place : Workplace := {}
  /-- The envelopes that the receivers of queues of messages have kept. -/
  received : Nat → List Envelope := fun _ => []
  /-- The errors that the receivers of queues of errors have kept. -/
  noted : Nat → List BusError := fun _ => []

namespace Surroundings

/-- What has come into the queues of messages. -/
def messages (world : Surroundings) : Nat → Intake Envelope :=
  Queue.intake world.place.messages world.received

def errors (world : Surroundings) : Nat → Intake BusError :=
  Queue.intake world.place.errors world.noted

/-- Other queues of messages, and what was received from one of them. -/
def withMessages (world : Surroundings) (number : Nat)
    (now : List (Queue Envelope) × List Envelope) : Surroundings :=
  { world with
    place := { world.place with messages := now.1 }
    received := Function.update world.received number now.2 }

def withErrors (world : Surroundings) (number : Nat)
    (now : List (Queue BusError) × List BusError) : Surroundings :=
  { world with
    place := { world.place with errors := now.1 }
    noted := Function.update world.noted number now.2 }

end Surroundings

/-- What a look finds. Routes are enumerated in any order. -/
def Finds (world : Surroundings) : (question : Look) → question.Answer → Prop
  | .routesFor topic, found => List.Perm found (world.table.matching topic)
  | .allRoutes, found => List.Perm found world.table.routes
  | .closing, wants => wants = world.closing

theorem finds_answer (world : Surroundings) (question : Look) :
    Finds world question (question.answer world.table world.closing) := by
  cases question with
  | routesFor | allRoutes => exact List.Perm.refl _
  | closing => rfl

/-- What happens while an event loop waits. The receiver of a queue takes the oldest item, or takes
no more. The client changes its routes, or wants to end. Time passes. -/
inductive Incident
  | takeMessage (number : Nat)
  | takeError (number : Nat)
  | closeMessages (number : Nat)
  | closeErrors (number : Nat)
  | reroute (table : RouteTable)
  | close
  | tick (milliseconds : Nat)

/-- What may happen while an event loop waits. -/
def Happens : Incident → Surroundings → Surroundings → Prop
  | .takeMessage number, world, after => ∃ now,
    Queue.Receives number (world.place.messages, world.received number) now ∧
      after = world.withMessages number now
  | .takeError number, world, after => ∃ now,
    Queue.Receives number (world.place.errors, world.noted number) now ∧
      after = world.withErrors number now
  | .closeMessages number, world, after => after = { world with
      place := { world.place with messages := world.place.messages.modify number Queue.close } }
  | .closeErrors number, world, after => after = { world with
      place := { world.place with errors := world.place.errors.modify number Queue.close } }
  | .reroute table, world, after => after = { world with table }
  | .close, world, after => after = { world with closing := true }
  | .tick milliseconds, world, after =>
    after = { world with place := { world.place with now := world.place.now + milliseconds } }

/-- An event loop in its surroundings. -/
def scene (supply : Nat → String) : Scene looks.work Surroundings Incident where
  answers
    | .inl question, world, answer, after => Finds world question answer ∧ after = world
    | .inr question, world, answer, after =>
      ∃ place, world.place.answer? supply question = some (answer, place) ∧
        after = { world with place }
  happens := Happens

/-! ### What comes into queues -/

/-- What an event loop asks: it looks, sends and reports. -/
def Feeds : looks.work.Ask → Prop
  | .inl _ => True
  | .inr (.send _ _) => True
  | .inr (.report _ _) => True
  | .inr _ => False

/-- The envelope that a question sends to a queue of messages. -/
def sent? (number : Nat) : looks.work.Ask → Option Envelope
  | .inr (.send queue envelope) => if queue = number then some envelope else none
  | _ => none

def reported? (number : Nat) : looks.work.Ask → Option BusError
  | .inr (.report queue error) => if queue = number then some error else none
  | _ => none

/-- What was asked, in order. -/
def asked (log : List (Moment looks.work Surroundings)) : List looks.work.Ask :=
  log.map (·.question)

/-- What was sent to a queue of messages, in order. -/
def sent (number : Nat) (log : List (Moment looks.work Surroundings)) : List Envelope :=
  (asked log).filterMap (sent? number)

def reported (number : Nat) (log : List (Moment looks.work Surroundings)) : List BusError :=
  (asked log).filterMap (reported? number)

section Logs

variable (number : Nat) (first rest : List (Moment looks.work Surroundings))

theorem asked_append : asked (first ++ rest) = asked first ++ asked rest :=
  List.map_append

theorem sent_append : sent number (first ++ rest) = sent number first ++ sent number rest := by
  unfold sent
  rw [asked_append, List.filterMap_append]

theorem reported_append :
    reported number (first ++ rest) = reported number first ++ reported number rest := by
  unfold reported
  rw [asked_append, List.filterMap_append]

theorem sent_cons (moment : Moment looks.work Surroundings) : sent number (moment :: rest) =
    (sent? number moment.question).toList ++ sent number rest := by
  rw [← List.singleton_append, sent_append]
  unfold sent asked
  cases made : sent? number moment.question <;> simp [made]

theorem reported_cons (moment : Moment looks.work Surroundings) : reported number (moment :: rest) =
    (reported? number moment.question).toList ++ reported number rest := by
  rw [← List.singleton_append, reported_append]
  unfold reported asked
  cases made : reported? number moment.question <;> simp [made]

end Logs

theorem toList_sent?_send (number queue : Nat) (envelope : Envelope) :
    (sent? number (.inr (.send queue envelope))).toList =
      if queue = number then [envelope] else [] := by
  by_cases here : queue = number <;> simp [sent?, here]

theorem toList_reported?_report (number queue : Nat) (error : BusError) :
    (reported? number (.inr (.report queue error))).toList =
      if queue = number then [error] else [] := by
  by_cases here : queue = number <;> simp [reported?, here]

/-- Every queue takes what is sent to it, as long as it is open. -/
structure Fills (messages : Nat → List Envelope) (errors : Nat → List BusError)
    (world after : Surroundings) : Prop where
  messages : ∀ number, Intake.Grows (messages number) (world.messages number) (after.messages number)
  errors : ∀ number, Intake.Grows (errors number) (world.errors number) (after.errors number)

section Growth

variable {α : Type} {supply : Nat → String} {world between after : Surroundings}

/-- Where nothing is sent, nothing comes in. -/
def Still (world after : Surroundings) : Prop :=
  Fills (fun _ => []) (fun _ => []) world after

theorem Fills.refl (world : Surroundings) : Still world world :=
  ⟨fun _ => .refl _, fun _ => .refl _⟩

theorem Fills.trans {messages moreMessages : Nat → List Envelope}
    {errors moreErrors : Nat → List BusError} (first : Fills messages errors world between)
    (rest : Fills moreMessages moreErrors between after) :
    Fills (fun number => messages number ++ moreMessages number)
      (fun number => errors number ++ moreErrors number) world after :=
  ⟨fun number => (first.messages number).trans (rest.messages number),
    fun number => (first.errors number).trans (rest.errors number)⟩

/-- **Whatever happens brings nothing into queues.** -/
theorem still_of_happens {incident : Incident} (happened : Happens incident world after) :
    Still world after := by
  cases incident with
  | takeMessage number =>
    obtain ⟨⟨later, held⟩, ⟨item, received, rfl⟩, rfl⟩ := happened
    exact ⟨fun other => .of_eq (Queue.intake_receive received other), fun _ => .refl _⟩
  | takeError number =>
    obtain ⟨⟨later, held⟩, ⟨item, received, rfl⟩, rfl⟩ := happened
    exact ⟨fun _ => .refl _, fun other => .of_eq (Queue.intake_receive received other)⟩
  | closeMessages number =>
    cases happened
    exact ⟨fun other => Queue.grows_close _ _ number other, fun _ => .refl _⟩
  | closeErrors number =>
    cases happened
    exact ⟨fun _ => .refl _, fun other => Queue.grows_close _ _ number other⟩
  | reroute | close | tick =>
    cases happened
    exact ⟨fun _ => .refl _, fun _ => .refl _⟩

theorem still_of_passes (passes : (scene supply).Passes world after) : Still world after := by
  induction passes with
  | refl => exact .refl _
  | tail _ happened ih =>
    obtain ⟨incident, happened⟩ := happened
    exact ih.trans (still_of_happens happened)

/-- **An answer brings in what was sent**, and nothing else. -/
theorem fills_of_answers {question : looks.work.Ask} {answer : looks.work.Answer question}
    (feeds : Feeds question) (answered : (scene supply).answers question world answer after) :
    Fills (fun number => (sent? number question).toList)
      (fun number => (reported? number question).toList) world after := by
  cases question with
  | inl question =>
    obtain ⟨-, rfl⟩ := answered
    exact .refl _
  | inr question =>
    obtain ⟨place, answered, rfl⟩ := answered
    cases question with
    | send queue envelope =>
      obtain ⟨⟨took, messages⟩, sending, same⟩ := Option.map_eq_some_iff.mp answered
      cases same
      refine ⟨fun number => ?_, fun _ => .refl _⟩
      rw [toList_sent?_send]
      exact Queue.grows_send sending number
    | report queue error =>
      obtain ⟨⟨took, errors⟩, sending, same⟩ := Option.map_eq_some_iff.mp answered
      cases same
      refine ⟨fun _ => .refl _, fun number => ?_⟩
      rw [toList_reported?_report]
      exact Queue.grows_send sending number
    | freshId | openQueues | timeIn | sleepUntil | await | close => exact feeds.elim

/-- **Queues take what is sent to them**, and nothing else. -/
theorem fills_of_course {activity : Dialogue looks.work α} {value : α}
    {log : List (Moment looks.work Surroundings)} (asks : activity.Asks Feeds)
    (course : (scene supply).Course activity world log value after) :
    Fills (sent · log) (reported · log) world after := by
  -- what passes before an answer brings nothing in, and the answer what was sent
  induction course with
  | done => exact .refl _
  | @ask question resume start now next last answer log value passes answered course ih =>
    have grows := ((still_of_passes passes).trans (fills_of_answers asks.1 answered)).trans
      (ih (asks.2 answer))
    simp only [sent_cons, reported_cons]
    exact grows

end Growth

/-! ### Coming to an end -/

/-- Items fit into every queue. -/
structure Surroundings.Roomy (world : Surroundings) : Prop where
  messages : Queue.AllRoomy world.place.messages
  errors : Queue.AllRoomy world.place.errors

/-- Nobody but receivers who take what waits has done anything. -/
structure Steady (world later : Surroundings) : Prop where
  table : later.table = world.table
  closing : later.closing = world.closing
  messages : Queue.Lasts world.place.messages later.place.messages
  errors : Queue.Lasts world.place.errors later.place.errors

section Progress

variable {α : Type} {world now : Surroundings}

theorem Surroundings.Roomy.steady (roomy : world.Roomy) : Steady world world :=
  ⟨rfl, rfl, .refl roomy.messages, .refl roomy.errors⟩

theorem Steady.isOpen_messages (steady : Steady world now) (number : Nat) :
    (now.messages number).isOpen = (world.messages number).isOpen :=
  steady.messages.opened number

theorem Steady.isOpen_errors (steady : Steady world now) (number : Nat) :
    (now.errors number).isOpen = (world.errors number).isOpen :=
  steady.errors.opened number

/-- Receivers may take any number of items from one queue. -/
theorem passes_withMessages (supply : Nat → String) {number : Nat}
    {last : List (Queue Envelope) × List Envelope}
    (steps : Relation.ReflTransGen (Queue.Receives number)
      (now.place.messages, now.received number) last) :
    (scene supply).Passes now (now.withMessages number last) := by
  have same : now.withMessages number (now.place.messages, now.received number) = now := by
    simp [Surroundings.withMessages]
  have passes : (scene supply).Passes
      (now.withMessages number (now.place.messages, now.received number)) (now.withMessages number last) := by
    refine steps.lift (now.withMessages number) ?_
    intro before next receives
    refine ⟨.takeMessage number, next, ?_, ?_⟩
    · simpa [Surroundings.withMessages] using receives
    · simp [Surroundings.withMessages]
  rwa [same] at passes

theorem passes_withErrors (supply : Nat → String) {number : Nat}
    {last : List (Queue BusError) × List BusError}
    (steps : Relation.ReflTransGen (Queue.Receives number)
      (now.place.errors, now.noted number) last) :
    (scene supply).Passes now (now.withErrors number last) := by
  have same : now.withErrors number (now.place.errors, now.noted number) = now := by
    simp [Surroundings.withErrors]
  have passes : (scene supply).Passes
      (now.withErrors number (now.place.errors, now.noted number)) (now.withErrors number last) := by
    refine steps.lift (now.withErrors number) ?_
    intro before next receives
    refine ⟨.takeError number, next, ?_, ?_⟩
    · simpa [Surroundings.withErrors] using receives
    · simp [Surroundings.withErrors]
  rwa [same] at passes

/-- **Whatever an event loop asks is answered** once receivers have taken what waits. -/
theorem exists_answer (supply : Nat → String) (steady : Steady world now)
    (question : looks.work.Ask) (feeds : Feeds question) :
    ∃ later answer next, (scene supply).Passes now later ∧ Steady world later ∧
      (scene supply).answers question later answer next ∧ Steady world next := by
  obtain ⟨table, closing, messages, errors⟩ := steady
  cases question with
  | inl question =>
    exact ⟨now, _, now, .refl, ⟨table, closing, messages, errors⟩, ⟨finds_answer now question, rfl⟩,
      ⟨table, closing, messages, errors⟩⟩
  | inr question =>
    cases question with
    | send number envelope =>
      obtain ⟨between, held, steps, lasts, took, after, sent, goes⟩ :=
        Queue.exists_room messages.roomy number (now.received number) envelope
      exact ⟨_, took, _, passes_withMessages supply steps,
        ⟨table, closing, messages.trans lasts, errors⟩, ⟨_, congrArg (Option.map _) sent, rfl⟩,
        ⟨table, closing, messages.trans goes, errors⟩⟩
    | report number error =>
      obtain ⟨between, held, steps, lasts, took, after, sent, goes⟩ :=
        Queue.exists_room errors.roomy number (now.noted number) error
      exact ⟨_, took, _, passes_withErrors supply steps,
        ⟨table, closing, messages, errors.trans lasts⟩, ⟨_, congrArg (Option.map _) sent, rfl⟩,
        ⟨table, closing, messages, errors.trans goes⟩⟩
    | freshId | openQueues | timeIn | sleepUntil | await | close => exact feeds.elim

/-- **An event loop comes to its end** if receivers take what waits. -/
theorem exists_steady_course (supply : Nat → String) {activity : Dialogue looks.work α}
    (asks : activity.Asks Feeds) (roomy : world.Roomy) :
    ∃ log value after, (scene supply).Course activity world log value after ∧
      (∀ moment ∈ log, Steady world moment.world) ∧ Steady world after :=
  Scene.exists_course_keeping (fun question feeds _ steady =>
    exists_answer supply steady question feeds) asks roomy.steady

end Progress

end EventLoop

end MessageBus.Mqtt

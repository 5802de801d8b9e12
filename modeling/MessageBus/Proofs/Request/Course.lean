/-
**The course of a request.** What one request does, whatever the client answers and whatever else
goes on.

* `Request.scene` — any client, given by how it may carry out each call, and anything else that may
  happen at the place where the request runs: replies, errors, the passing of time. A sender that
  hangs up sends nothing more, which needs no event of its own.
* `Request.shown` — the calls on the client with their results, and the closing of the queues.
* `Request.Found` — what a look at the queues finds: messages go before errors, errors before the
  deadline.
* `identify_course`, `exchange_course` — the courses of the two parts of a request.
* `request_account` — **every course of a request**: it ends after a failed subscription, or it
  publishes once, closes its queues and unsubscribes the response topic once. There always is such
  a course if the client answers and time passes.
-/

import MessageBus.Identifier
import MessageBus.Proofs.Dialogue.Course
import MessageBus.Proofs.Task.Waiting
import MessageBus.Request

namespace MessageBus

namespace Request

/-! ### The surroundings of a request -/

/-- How a client may carry out a call: from one place, with a result, to another place. -/
abbrev Conduct := Call → Workplace → BusResult Unit → Workplace → Prop

/-- A request with any client, while anything else may happen. -/
def scene {M : Type} (supply : Nat → String) (client : Conduct)
    (others : M → Workplace → Workplace → Prop) : Scene surroundings Workplace M where
  answers
    | .inl c, place, result, after => client c place result after
    | .inr question, place, answer, after => place.answer? supply question = some (answer, after)
  happens := others

/-- Whether a question is a call on the client or closes the queues. -/
def isShown : surroundings.Ask → Bool
  | .inl _ => true
  | .inr (.close _) => true
  | .inr _ => false

/-- The calls on the client and the closing of the queues, in order, with their results. -/
def shown (log : List (Moment surroundings Workplace)) : List (Dialogue.Exchange surroundings) :=
  (log.filter fun moment => isShown moment.question).map Moment.exchange

@[simp]
theorem shown_nil : shown [] = [] := rfl

@[simp]
theorem shown_cons (moment : Moment surroundings Workplace)
    (log : List (Moment surroundings Workplace)) :
    shown (moment :: log) =
      if isShown moment.question then moment.exchange :: shown log else shown log := by
  unfold shown
  rw [List.filter_cons]
  split <;> simp

@[simp]
theorem shown_append (first rest : List (Moment surroundings Workplace)) :
    shown (first ++ rest) = shown first ++ shown rest := by
  simp [shown]

variable {M : Type} {supply : Nat → String} {client : Conduct}
  {others : M → Workplace → Workplace → Prop} {start after : Workplace}
  {log : List (Moment surroundings Workplace)}

/-- Everything else is answered by the place. -/
theorem scene_task {question : Task.Ask} {answer : question.Answer} :
    (scene supply client others).answers (.inr question) start answer after ↔
      start.answer? supply question = some (answer, after) :=
  Iff.rfl

/-! ### Identifiers -/

/-- The envelope that is sent under a request identifier. -/
def named (envelope : Envelope) (id : String) : Envelope :=
  { envelope with
    requestId := id
    correlationId := if envelope.correlationId.isEmpty then id else envelope.correlationId }

/-- The identifier under which an envelope is sent: its own if it has one, else a new one. -/
def Identifies (supply : Nat → String) (envelope : Envelope)
    (log : List (Moment surroundings Workplace)) (id : String) : Prop :=
  if envelope.requestId.isEmpty then
    ∃ place : Workplace, ⟨place, .inr .freshId, id⟩ ∈ log ∧ id = supply place.identifiers
  else id = envelope.requestId

/-- An identifier that a part of a course gives is given by the whole course. -/
theorem Identifies.mono {envelope : Envelope} {part : List (Moment surroundings Workplace)}
    {id : String} (within : part ⊆ log) (identified : Identifies supply envelope part id) :
    Identifies supply envelope log id := by
  unfold Identifies at *
  by_cases missing : envelope.requestId.isEmpty
  · rw [if_pos missing] at *
    obtain ⟨place, given, fresh⟩ := identified
    exact ⟨place, within given, fresh⟩
  · rw [if_neg missing] at *
    exact identified

/-- An envelope with a request identifier keeps it. -/
theorem identify_of_present {envelope : Envelope} (present : ¬ envelope.requestId.isEmpty) :
    identify envelope = .done (named envelope envelope.requestId) := by
  unfold identify
  rw [if_neg present]
  rfl

/-- An envelope without a request identifier gets a new one. -/
theorem identify_of_missing {envelope : Envelope} (missing : envelope.requestId.isEmpty) :
    identify envelope = (task .freshId).bind fun id => .done (named envelope id) := by
  unfold identify
  rw [if_pos missing]
  rfl

/-- A request shows nothing while it gives itself identifiers. -/
theorem identify_course {envelope sent : Envelope}
    (course : (scene supply client others).Course (identify envelope) start log sent after) :
    ∃ id, sent = named envelope id ∧ Identifies supply envelope log id ∧ shown log = [] := by
  unfold Identifies
  by_cases missing : envelope.requestId.isEmpty
  · rw [identify_of_missing missing] at course
    simp only [task, Dialogue.ask_bind, Dialogue.done_bind, Scene.course_ask, Scene.course_done]
      at course
    obtain ⟨place, id, _, _, rfl, -, answered, rfl, rfl, rfl⟩ := course
    rw [scene_task] at answered
    have fresh : id = supply place.identifiers :=
      (congrArg Prod.fst (Option.some.inj answered)).symm
    refine ⟨id, rfl, ?_, rfl⟩
    rw [if_pos missing]
    exact ⟨place, List.mem_singleton_self _, fresh⟩
  · rw [identify_of_present missing, Scene.course_done] at course
    obtain ⟨rfl, rfl, rfl⟩ := course
    refine ⟨envelope.requestId, rfl, ?_, rfl⟩
    rw [if_neg missing]

/-! ### The reply -/

/-- What a look at the queues of a request finds. -/
inductive Found (place : Workplace) (queues : Queues) (deadline : Nat) (topic : String) :
    BusResult Envelope → Prop
  /-- A waiting message is the reply. -/
  | reply {envelope : Envelope} {rest : List Envelope}
      (message : Queue.waiting place.messages queues.messages = envelope :: rest) :
      Found place queues deadline topic (.ok envelope)
  /-- Without a message, a waiting error is a failure of the transport. -/
  | failure {error : BusError} {rest : List BusError}
      (noMessage : Queue.waiting place.messages queues.messages = [])
      (failed : Queue.waiting place.errors queues.errors = error :: rest) :
      Found place queues deadline topic (.error (.transport
        ("error while waiting for response on '" ++ topic ++ "': " ++ error.message)))
  /-- Without either, the deadline has come. -/
  | deadline (noMessage : Queue.waiting place.messages queues.messages = [])
      (noError : Queue.waiting place.errors queues.errors = []) (due : deadline ≤ place.now) :
      Found place queues deadline topic (.error (.timeout topic))

/-- The outcome of a wait is what a look at the queues finds. -/
theorem found_of_arrival? {place next : Workplace} {queues : Queues} {deadline : Nat}
    {arrival : Arrival} (topic : String)
    (arrived : place.arrival? queues deadline = some (arrival, next)) :
    Found place queues deadline topic (outcome topic arrival) := by
  unfold Workplace.arrival? at arrived
  split at arrived
  · rename_i envelope messages received
    cases arrived
    obtain ⟨waiting, -⟩ := Workplace.receiveAt?_eq_some received
    exact .reply waiting
  rename_i noMessage
  rw [Workplace.receiveAt?_eq_none] at noMessage
  split at arrived
  · rename_i error errors received
    cases arrived
    obtain ⟨waiting, -⟩ := Workplace.receiveAt?_eq_some received
    exact .failure noMessage waiting
  rename_i noError
  rw [Workplace.receiveAt?_eq_none] at noError
  split at arrived
  · rename_i due
    cases arrived
    exact .deadline noMessage noError due
  · cases arrived

/-- After the deadline a wait has come to its end. -/
theorem arrival?_isSome {place : Workplace} {deadline : Nat} (queues : Queues)
    (due : deadline ≤ place.now) : (place.arrival? queues deadline).isSome := by
  unfold Workplace.arrival?
  split
  · rfl
  split
  · rfl
  rw [if_pos due]
  rfl

/-- What one request publishes and how it fares: a failure to publish is its outcome, otherwise it
waits until the timeout, counted from the publish. -/
def Fares (log : List (Moment surroundings Workplace)) (topic : String) (queues : Queues)
    (timeout : Nat) (published : BusResult Unit) (result : BusResult Envelope) : Prop :=
  match published with
  | .error error => result = .error error
  | .ok () => ∃ (began looked : Workplace) (arrival : Arrival),
      ⟨began, .inr (.timeIn timeout), began.now + timeout⟩ ∈ log ∧
      ⟨looked, .inr (.await queues (began.now + timeout)), arrival⟩ ∈ log ∧
      Found looked queues (began.now + timeout) topic result

/-- How a part of a course fares is how the whole course fares. -/
theorem Fares.mono {part : List (Moment surroundings Workplace)} {topic : String}
    {queues : Queues} {timeout : Nat} {published : BusResult Unit} {result : BusResult Envelope}
    (within : part ⊆ log) (fares : Fares part topic queues timeout published result) :
    Fares log topic queues timeout published result := by
  cases published with
  | error error => exact fares
  | ok _ =>
    obtain ⟨began, looked, arrival, counted, arrived, found⟩ := fares
    exact ⟨began, looked, arrival, within counted, within arrived, found⟩

/-- A request publishes once, then takes the first of a reply, an error and the deadline. -/
theorem exchange_course {envelope : Envelope} {requestTopic topic : String} {queues : Queues}
    {timeout : Nat} {result : BusResult Envelope}
    (course : (scene supply client others).Course
      (exchange envelope requestTopic topic queues timeout) start log result after) :
    ∃ published, shown log = [⟨.inl (.publish envelope requestTopic), published⟩] ∧
      Fares log topic queues timeout published result := by
  simp only [exchange, call, Dialogue.bind_eq, Dialogue.ask_bind, Dialogue.done_bind,
    Scene.course_ask] at course
  obtain ⟨world, published, next, rest, rfl, -, -, course⟩ := course
  refine ⟨published, ?_⟩
  cases published with
  | error error =>
    simp only [Dialogue.pure_eq, Scene.course_done] at course
    obtain ⟨rfl, rfl, rfl⟩ := course
    exact ⟨rfl, rfl⟩
  | ok _ =>
    simp only [task, Dialogue.pure_eq, Dialogue.ask_bind, Dialogue.done_bind, Scene.course_ask,
      Scene.course_done] at course
    obtain ⟨began, deadline, _, _, rfl, -, counted, looked, arrival, _, _, rfl, -, arrived, rfl,
      rfl, rfl⟩ := course
    rw [scene_task] at counted arrived
    have due : deadline = began.now + timeout :=
      (congrArg Prod.fst (Option.some.inj counted)).symm
    subst due
    exact ⟨rfl, began, looked, arrival, by simp, by simp, found_of_arrival? topic arrived⟩

/-! ### The whole request -/

/-- The call with which a request subscribes its response topic. -/
def opening (topic : String) (queues : Queues) : Call :=
  .subscribe [⟨topic, queues.messages⟩] queues.errors

/-- The error of a request whose response topic cannot be subscribed. -/
def subscriptionFailure (topic : String) (error : BusError) : BusError :=
  .operation "request" ("failed to subscribe to response topic '" ++ topic ++ "': " ++
    error.message)

/-- What a request shows whose response topic could be subscribed: it publishes, closes its queues,
and unsubscribes the topic. -/
def conversation (sent : Envelope) (requestTopic topic : String) (queues : Queues)
    (published released : BusResult Unit) : List (Dialogue.Exchange surroundings) :=
  [ ⟨.inl (opening topic queues), .ok ()⟩,
    ⟨.inl (.publish sent requestTopic), published⟩,
    ⟨.inr (.close queues), ()⟩,
    ⟨.inl (.unsubscribe [topic]), released⟩ ]

/-- What a request does under an identifier and with the two queues that were opened for it. -/
def Accounts (log : List (Moment surroundings Workplace)) (sent : Envelope)
    (requestTopic topic : String) (queues : Queues) (timeout : Nat)
    (result : BusResult Envelope) : Prop :=
  (∃ error, shown log = [⟨.inl (opening topic queues), .error error⟩] ∧
      result = .error (subscriptionFailure topic error)) ∨
    ∃ published released,
      shown log = conversation sent requestTopic topic queues published released ∧
      Fares log topic queues timeout published result

/-- A request once it has its identifier and its queues. -/
def converse (sent : Envelope) (requestTopic topic : String) (queues : Queues) (timeout : Nat) :
    Dialogue surroundings (BusResult Envelope) := do
  match ← call (opening topic queues) with
  | .error error => return .error (subscriptionFailure topic error)
  | .ok () =>
    let result ← exchange sent requestTopic topic queues timeout
    task (.close queues)
    let _ ← call (.unsubscribe [topic])
    return result

/-- A request gives itself an identifier, opens its queues, and goes on. -/
theorem request_eq (envelope : Envelope) (requestTopic base : String) (timeout : Nat) :
    request envelope requestTopic base timeout = (identify envelope).bind fun sent =>
      (task (.openQueues 1)).bind fun queues =>
        converse sent requestTopic (responseTopic base sent.requestId) queues timeout :=
  rfl

/-- What a request does once it has its identifier and its queues. -/
theorem converse_course {sent : Envelope} {requestTopic topic : String} {queues : Queues}
    {timeout : Nat} {result : BusResult Envelope}
    (course : (scene supply client others).Course
      (converse sent requestTopic topic queues timeout) start log result after) :
    Accounts log sent requestTopic topic queues timeout result := by
  simp only [converse, call, Dialogue.bind_eq, Dialogue.ask_bind, Dialogue.done_bind,
    Scene.course_ask] at course
  obtain ⟨world, subscribed, next, rest, rfl, -, -, course⟩ := course
  cases subscribed with
  | error error =>
    simp only [Dialogue.pure_eq, Scene.course_done] at course
    obtain ⟨rfl, rfl, rfl⟩ := course
    exact .inl ⟨error, rfl, rfl⟩
  | ok _ =>
    simp only [task, Dialogue.pure_eq, Dialogue.ask_bind, Dialogue.done_bind, Scene.course_bind,
      Scene.course_ask, Scene.course_done] at course
    obtain ⟨middle, value, between, _, rfl, exchanged, _, _, _, _, rfl, -, -, _, released, _, _,
      rfl, -, -, rfl, rfl, rfl⟩ := course
    obtain ⟨published, middleShown, fares⟩ := exchange_course exchanged
    refine .inr ⟨published, released, ?_, fares.mono ?_⟩
    · rw [shown_cons, shown_append, middleShown]
      rfl
    · exact fun moment member => List.mem_cons_of_mem _ (List.mem_append_left _ member)

/-- What a part of a course accounts for is all there is, if the rest shows nothing. -/
theorem Accounts.of_silent {silent part : List (Moment surroundings Workplace)} {sent : Envelope}
    {requestTopic topic : String} {queues : Queues} {timeout : Nat} {result : BusResult Envelope}
    (nothing : shown silent = [])
    (accounts : Accounts part sent requestTopic topic queues timeout result) :
    Accounts (silent ++ part) sent requestTopic topic queues timeout result := by
  have same : shown (silent ++ part) = shown part := by
    rw [shown_append, nothing, List.nil_append]
  rcases accounts with ⟨error, failed, outcome⟩ | ⟨published, released, talked, fares⟩
  · exact .inl ⟨error, same.trans failed, outcome⟩
  · exact .inr ⟨published, released, same.trans talked,
      fares.mono (List.subset_append_right silent part)⟩

/-- What a request does. -/
theorem request_course {envelope : Envelope} {requestTopic base : String} {timeout : Nat}
    {result : BusResult Envelope}
    (course : (scene supply client others).Course (request envelope requestTopic base timeout)
      start log result after) :
    ∃ id queues, Identifies supply envelope log id ∧
      (∃ place, ⟨place, .inr (.openQueues 1), queues⟩ ∈ log) ∧
      Accounts log (named envelope id) requestTopic (responseTopic base id) queues timeout
        result := by
  rw [request_eq, Scene.course_bind] at course
  obtain ⟨first, sent, between, rest, rfl, identified, course⟩ := course
  obtain ⟨id, rfl, given, firstShown⟩ := identify_course identified
  simp only [task, Dialogue.ask_bind, Dialogue.done_bind, Scene.course_ask] at course
  obtain ⟨place, queues, _, last, rfl, -, -, course⟩ := course
  refine ⟨id, queues, given.mono (List.subset_append_left _ _), ⟨place, by simp⟩, ?_⟩
  have accounts := converse_course course
  rw [List.append_cons]
  refine accounts.of_silent ?_
  rw [shown_append, firstShown]
  rfl

/-! ### The end of a request -/

/-- The questions to which an answer comes by itself: from the client, or from the place once it is
late enough. -/
def isAnswered : surroundings.Ask → Prop
  | .inl _ => True
  | .inr .freshId => True
  | .inr (.openQueues _) => True
  | .inr (.timeIn _) => True
  | .inr (.await _ _) => True
  | .inr (.close _) => True
  | .inr _ => False

/-- While it waits for the reply, a request asks nothing that could be left open for ever. -/
theorem exchange_asks (sent : Envelope) (requestTopic topic : String) (queues : Queues)
    (timeout : Nat) : (exchange sent requestTopic topic queues timeout).Asks isAnswered := by
  refine ⟨trivial, fun published => ?_⟩
  cases published with
  | error error => exact trivial
  | ok _ => exact ⟨trivial, fun _ => ⟨trivial, fun _ => trivial⟩⟩

/-- A request asks nothing that could be left open for ever. -/
theorem request_asks (envelope : Envelope) (requestTopic base : String) (timeout : Nat) :
    (request envelope requestTopic base timeout).Asks isAnswered := by
  rw [request_eq]
  refine Dialogue.Asks.bind ?_ fun sent => ⟨trivial, fun queues => ⟨trivial, fun subscribed => ?_⟩⟩
  · by_cases missing : envelope.requestId.isEmpty
    · rw [identify_of_missing missing]
      exact ⟨trivial, fun _ => trivial⟩
    · rw [identify_of_present missing]
      exact trivial
  cases subscribed with
  | error error => exact trivial
  | ok _ =>
    have exchanged := exchange_asks sent requestTopic (responseTopic base sent.requestId) queues
      timeout
    exact exchanged.bind fun _ => ⟨trivial, fun _ => ⟨trivial, fun _ => trivial⟩⟩

/-- What a request may ask is answered, if the client answers every call and time passes. -/
theorem exists_answer (willing : ∀ c place, ∃ answer later, client c place answer later)
    (time_passes : ∀ place time, ∃ later,
      (scene supply client others).Passes place later ∧ time ≤ later.now)
    (question : surroundings.Ask) (answered : isAnswered question) (place : Workplace) :
    ∃ later answer next, (scene supply client others).Passes place later ∧
      (scene supply client others).answers question later answer next := by
  match question, answered with
  | .inl c, _ =>
    obtain ⟨answer, later, carried⟩ := willing c place
    exact ⟨place, answer, later, .refl, carried⟩
  | .inr (.await queues deadline), _ =>
    obtain ⟨later, passes, due⟩ := time_passes place deadline
    obtain ⟨⟨arrival, next⟩, arrived⟩ :=
      Option.isSome_iff_exists.mp (arrival?_isSome queues due)
    exact ⟨later, arrival, next, passes, arrived⟩
  | .inr .freshId, _ => exact ⟨place, _, _, .refl, rfl⟩
  | .inr (.openQueues _), _ => exact ⟨place, _, _, .refl, rfl⟩
  | .inr (.timeIn _), _ => exact ⟨place, _, _, .refl, rfl⟩
  | .inr (.close _), _ => exact ⟨place, _, _, .refl, rfl⟩

/-- **Every course of a request.** Whatever the client answers and whatever else happens: a request
that cannot subscribe its response topic does nothing more; any other publishes once, closes its
queues and then unsubscribes the topic once, and its result is the failure to publish, else the
waiting reply, else the waiting error, else the timeout. It comes to its end if the client answers
every call and time passes. -/
theorem request_account (supply : Nat → String) (client : Conduct)
    (others : M → Workplace → Workplace → Prop) (start : Workplace) (envelope : Envelope)
    (requestTopic base : String) (timeout : Nat) :
    (∀ log result after, (scene supply client others).Course
        (request envelope requestTopic base timeout) start log result after →
      ∃ id queues, Identifies supply envelope log id ∧
        (∃ place, ⟨place, .inr (.openQueues 1), queues⟩ ∈ log) ∧
        Accounts log (named envelope id) requestTopic (responseTopic base id) queues timeout
          result) ∧
    ((∀ c place, ∃ answer later, client c place answer later) →
      (∀ place time, ∃ later,
        (scene supply client others).Passes place later ∧ time ≤ later.now) →
      ∃ log result after, (scene supply client others).Course
        (request envelope requestTopic base timeout) start log result after) := by
  refine ⟨fun log result after course => request_course course, fun willing time_passes => ?_⟩
  exact Scene.exists_course (exists_answer willing time_passes)
    (request_asks envelope requestTopic base timeout) start

/-- A client that never fails and answers what is published at once, on every queue. -/
def echo : Conduct := fun c place answer later =>
  answer = .ok () ∧ later = match c with
    | .publish envelope _ => { place with
        messages := place.messages.map fun queue =>
          queue.offer (.forResponse envelope [] ContentType.json.name) }
    | _ => place

/-- The answer of such a client to an envelope without identifiers. -/
def echoed : Envelope :=
  { requestId := Identifier.numbered 0, correlationId := Identifier.numbered 0 }

/-- A request without identifiers that is answered at once. -/
theorem request_account_echo :
    ∃ log id queues after, (scene Identifier.numbered echo fun (_ : Unit) _ _ => False).Course
        (request {} "ask" "answers" 10) {} log (.ok echoed) after ∧
      Accounts log (named {} id) "ask" (responseTopic "answers" id) queues 10 (.ok echoed) := by
  have course : ∃ log after, (scene Identifier.numbered echo fun (_ : Unit) _ _ => False).Course
      (request {} "ask" "answers" 10) {} log (.ok echoed) after :=
    ⟨_, _, .ask .refl rfl (.ask .refl rfl (.ask .refl ⟨rfl, rfl⟩ (.ask .refl ⟨rfl, rfl⟩
      (.ask .refl rfl (.ask .refl rfl (.ask .refl rfl (.ask .refl ⟨rfl, rfl⟩ (.done _ _))))))))⟩
  obtain ⟨log, after, course⟩ := course
  obtain ⟨id, queues, -, -, accounts⟩ := (request_account _ _ _ _ _ _ _ _).1 log _ after course
  exact ⟨log, id, queues, after, course, accounts⟩

end Request

end MessageBus

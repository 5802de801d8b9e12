/-
**Handling messages in order of arrival.** A delivery that is given one message after another, while
the receivers take what it forwards.

* `Delivery.handleAll` — handles messages one after another.
* `Reception` — a place with the receivers of a subscription, who keep what they take. They may stop
  taking messages at any time. `Reception.scene` lets acknowledgements end in any way.
* `Fate` — a message with what became of it; `Fate.exchanges`, `Fate.envelopes`, `Fate.faults` —
  what is asked about it, and what comes through the queues.
* `handle_course`, `handleAll_course` — one message, and then all; `exists_course_handleAll` — there
  is such a course.
* `Orderly` — nothing is lost, duplicated or misrouted.
* `messages_handled_in_order` — **whatever comes of handling messages is orderly**, and it comes to
  its end whichever way the acknowledgements end.
-/

import MessageBus.Nats.Delivery
import MessageBus.Proofs.Dialogue.Course
import MessageBus.Proofs.Task.Throughput

namespace MessageBus.Nats

variable {Handle : Type}

/-- Handles messages one after another. -/
def Delivery.handleAll (delivery : Delivery) :
    List Message → Dialogue (Connection.interface Handle).work Unit
  | [] => .done ()
  | message :: rest => (delivery.handle message).bind fun _ => delivery.handleAll rest

/-! ### The receivers -/

/-- A place with the receivers of a subscription, who keep what they take. -/
structure Reception where
  /-- The place. -/
  place : Workplace := {}
  /-- The envelopes that were taken from the queue of messages. -/
  received : List Envelope := []
  /-- The errors that were taken from the queue of errors. -/
  noted : List BusError := []

namespace Reception

/-- The same place with other queues of messages, and what was received from one of them. -/
def withMessages (world : Reception) (now : List (Queue Envelope) × List Envelope) : Reception :=
  { world with place := { world.place with messages := now.1 }, received := now.2 }

/-- The same place with other queues of errors, and what was noted from one of them. -/
def withErrors (world : Reception) (now : List (Queue BusError) × List BusError) : Reception :=
  { world with place := { world.place with errors := now.1 }, noted := now.2 }

/-- What receivers do. -/
inductive Incident
  /-- The oldest message is taken. -/
  | takeMessage
  /-- The oldest error is taken. -/
  | takeError
  /-- No more messages are taken. -/
  | closeMessages

/-- Receivers of a delivery at work. Acknowledgements may end in any way, and every other call, too;
none of them concerns the receivers. -/
def scene (Handle : Type) (supply : Nat → String) (delivery : Delivery) :
    Scene (Connection.interface Handle).work Reception Incident where
  answers
    | .inl _, world, _, after => after = world
    | .inr question, world, answer, after => ∃ place,
      world.place.answer? supply question = some (answer, place) ∧ after = { world with place }
  happens
    | .takeMessage, world, after => ∃ now,
      Queue.Receives delivery.messages (world.place.messages, world.received) now ∧
        after = world.withMessages now
    | .takeError, world, after => ∃ now,
      Queue.Receives delivery.errors (world.place.errors, world.noted) now ∧
        after = world.withErrors now
    | .closeMessages, world, after => after = world.withMessages
      (world.place.messages.modify delivery.messages Queue.close, world.received)

/-- What is asked while messages are handled, with its answers. -/
abbrev Account (Handle : Type) := List (Moment (Connection.interface Handle).work Reception)

/-- The envelopes that have come through the queue of messages. -/
def envelopes (delivery : Delivery) (world : Reception) : List Envelope :=
  world.received ++ Queue.waiting world.place.messages delivery.messages

/-- The errors that have come through the queue of errors. -/
def errors (delivery : Delivery) (world : Reception) : List BusError :=
  world.noted ++ Queue.waiting world.place.errors delivery.errors

/-- Whether messages are taken. -/
def isOpen (delivery : Delivery) (world : Reception) : Bool :=
  Queue.isOpenAt world.place.messages delivery.messages

/-- The queues of a delivery are there and have room, and errors are taken. -/
structure Ready (delivery : Delivery) (world : Reception) : Prop where
  /-- There is a queue of messages. -/
  messages : ∃ queue, world.place.messages[delivery.messages]? = some queue ∧ 0 < queue.capacity
  /-- There is a queue of errors. -/
  errors : ∃ queue, world.place.errors[delivery.errors]? = some queue ∧ 0 < queue.capacity
  /-- Errors are taken. -/
  noting : Queue.isOpenAt world.place.errors delivery.errors

/-- What has come through the queues between two moments. -/
structure Passed (delivery : Delivery) (envelopes : List Envelope) (errors : List BusError)
    (world after : Reception) : Prop where
  /-- The envelopes. -/
  messages : Queue.Passed delivery.messages envelopes world.place.messages world.received
    after.place.messages after.received
  /-- The errors. -/
  errors : Queue.Passed delivery.errors errors world.place.errors world.noted after.place.errors
    after.noted
  /-- Errors are still taken. -/
  noting : Queue.isOpenAt world.place.errors delivery.errors →
    Queue.isOpenAt after.place.errors delivery.errors

variable {supply : Nat → String} {delivery : Delivery} {message : Message}
  {world between after : Reception} {log : Account Handle}

theorem Passed.refl (delivery : Delivery) (world : Reception) : Passed delivery [] [] world world :=
  ⟨.refl _ _ _, .refl _ _ _, id⟩

theorem Passed.trans {some more : List Envelope} {faults others : List BusError}
    (first : Passed delivery some faults world between)
    (rest : Passed delivery more others between after) :
    Passed delivery (some ++ more) (faults ++ others) world after :=
  ⟨first.messages.trans rest.messages, first.errors.trans rest.errors, rest.noting ∘ first.noting⟩

theorem Passed.ready {gained : List Envelope} {faults : List BusError}
    (passed : Passed delivery gained faults world after) (ready : Ready delivery world) :
    Ready delivery after := by
  obtain ⟨messages, found, room⟩ := ready.messages
  obtain ⟨errors, there, space⟩ := ready.errors
  obtain ⟨later, still, size⟩ := passed.messages.stays messages found
  obtain ⟨last, present, extent⟩ := passed.errors.stays errors there
  exact ⟨⟨later, still, size ▸ room⟩, ⟨last, present, extent ▸ space⟩, passed.noting ready.noting⟩

/-- Receivers let nothing else through. -/
theorem passed_of_happens {incident : Incident} (ready : Ready delivery world)
    (happened : (scene Handle supply delivery).happens incident world after) :
    Passed delivery [] [] world after := by
  cases incident with
  | takeMessage =>
    obtain ⟨now, receives, rfl⟩ := happened
    exact ⟨(Queue.passed_receives receives).1, .refl _ _ _, id⟩
  | takeError =>
    obtain ⟨now, receives, rfl⟩ := happened
    obtain ⟨passed, same⟩ := Queue.passed_receives receives
    exact ⟨.refl _ _ _, passed, same.trans⟩
  | closeMessages =>
    cases happened
    obtain ⟨queue, found, -⟩ := ready.messages
    exact ⟨Queue.passed_close found, .refl _ _ _, id⟩

/-- However much receivers do, they let nothing else through. -/
theorem passed_of_passes (ready : Ready delivery world)
    (passes : (scene Handle supply delivery).Passes world after) :
    Passed delivery [] [] world after := by
  induction passes with
  | refl => exact .refl _ _
  | tail _ happened ih =>
    obtain ⟨incident, happened⟩ := happened
    -- what has happened so far has left the queues ready
    exact ih.trans (passed_of_happens (ih.ready ready) happened)

/-! ### What is sent and reported -/

/-- An envelope that is sent comes through exactly if messages are taken. -/
theorem course_send {α : Type} {envelope : Envelope} {value : α}
    {resume : Bool → Dialogue (Connection.interface Handle).work α} (ready : Ready delivery world)
    (course : (scene Handle supply delivery).Course
      ((Delivery.task (.send delivery.messages envelope)).bind resume) world log value after) :
    ∃ took moment rest between, log = moment :: rest ∧
      moment.exchange = ⟨.inr (.send delivery.messages envelope), took⟩ ∧
      Passed delivery (if took then [envelope] else []) [] world between ∧
      (took → world.isOpen delivery) ∧ (between.isOpen delivery → took) ∧
      (scene Handle supply delivery).Course (resume took) between rest value after := by
  obtain ⟨now, took, next, rest, rfl, passes, answered, course⟩ := Scene.course_ask.mp course
  obtain ⟨place, answered, rfl⟩ := answered
  obtain ⟨⟨taken, messages⟩, sent, same⟩ := Option.map_eq_some_iff.mp answered
  cases same
  have meanwhile := passed_of_passes ready passes
  -- the receivers may act before the answer comes, and may close the queue then
  obtain ⟨queue, found, -⟩ := (meanwhile.ready ready).messages
  obtain ⟨passed, opened, still⟩ := Queue.passed_send now.received found sent
  have sending : Passed delivery (if took then [envelope] else []) [] now
      { now with place := { now.place with messages } } := ⟨passed, .refl _ _ _, id⟩
  refine ⟨took, _, rest, _, rfl, rfl, meanwhile.trans sending, ?_, ?_, course⟩
  · exact fun taken => meanwhile.messages.opened (opened ▸ taken)
  · exact fun taken => opened.trans (still.symm.trans taken)

/-- An error that is reported comes through. -/
theorem course_report {α : Type} {error : BusError} {value : α}
    {resume : Bool → Dialogue (Connection.interface Handle).work α} (ready : Ready delivery world)
    (course : (scene Handle supply delivery).Course
      ((Delivery.task (.report delivery.errors error)).bind resume) world log value after) :
    ∃ moment rest between, log = moment :: rest ∧
      moment.exchange = ⟨.inr (.report delivery.errors error), true⟩ ∧
      Passed delivery [] [error] world between ∧
      (scene Handle supply delivery).Course (resume true) between rest value after := by
  obtain ⟨now, took, next, rest, rfl, passes, answered, course⟩ := Scene.course_ask.mp course
  obtain ⟨place, answered, rfl⟩ := answered
  obtain ⟨⟨taken, errors⟩, sent, same⟩ := Option.map_eq_some_iff.mp answered
  cases same
  have meanwhile := passed_of_passes ready passes
  obtain ⟨queue, found, -⟩ := (meanwhile.ready ready).errors
  obtain ⟨passed, opened, still⟩ := Queue.passed_send now.noted found sent
  obtain rfl : took = true := opened.trans (meanwhile.ready ready).noting
  have reporting : Passed delivery [] [error] now
      { now with place := { now.place with errors } } := ⟨.refl _ _ _, passed, still.trans⟩
  exact ⟨_, rest, _, rfl, rfl, meanwhile.trans reporting, course⟩

end Reception

/-! ### What becomes of a message -/

/-- The error of an outcome, if it is one. -/
def faultOf {α : Type} : BusResult α → List BusError
  | .ok _ => []
  | .error error => [error]

namespace Delivery

/-- The envelope of a message that can be decoded. -/
def decoded (delivery : Delivery) (message : Message) : List Envelope :=
  (unmarshal delivery.format message).toOption.toList

/-- The reply address of a message that has one, with whether a confirmation is waited for. -/
def asked (delivery : Delivery) (message : Message) : List (String × Bool) :=
  (message.reply.map fun reply => (reply, delivery.exactlyOnce)).toList

/-- The envelope or the decode error of a message is forwarded. -/
def forwarding (delivery : Delivery) (message : Message) (took : Bool) :
    Dialogue.Exchange (Connection.interface Handle).work :=
  match unmarshal delivery.format message with
  | .ok envelope => ⟨.inr (.send delivery.messages envelope), took⟩
  | .error error => ⟨.inr (.report delivery.errors error), true⟩

/-- A message with a reply address is acknowledged, and a failure of that is reported. -/
def acknowledging (delivery : Delivery) (message : Message) (outcome : BusResult Unit) :
    List (Dialogue.Exchange (Connection.interface Handle).work) :=
  match message.reply with
  | none => []
  | some reply => ⟨.inl (.acknowledge reply delivery.exactlyOnce), outcome⟩ ::
    (faultOf outcome).map fun error => ⟨.inr (.report delivery.errors error), true⟩

end Delivery

/-- The error of an acknowledgement that fails. -/
def Message.unacknowledged (message : Message) (outcome : BusResult Unit) : List BusError :=
  match message.reply with
  | none => []
  | some _ => faultOf outcome

/-- A message with what became of it. -/
structure Fate where
  /-- The message. -/
  message : Message
  /-- Whether messages were taken when it was forwarded. -/
  took : Bool
  /-- How its acknowledgement ends, if it has a reply address. -/
  outcome : BusResult Unit

namespace Fate

/-- All that is asked about a message, in order. -/
def exchanges (delivery : Delivery) (fate : Fate) :
    List (Dialogue.Exchange (Connection.interface Handle).work) :=
  delivery.forwarding fate.message fate.took :: delivery.acknowledging fate.message fate.outcome

/-- The envelope that comes through the queue of messages. -/
def envelopes (delivery : Delivery) (fate : Fate) : List Envelope :=
  if fate.took then delivery.decoded fate.message else []

/-- The errors that come through the queue of errors. -/
def faults (delivery : Delivery) (fate : Fate) : List BusError :=
  faultOf (unmarshal delivery.format fate.message) ++ fate.message.unacknowledged fate.outcome

end Fate

open Reception

variable {supply : Nat → String} {delivery : Delivery} {message : Message}
  {messages : List Message} {world after : Reception} {log : Account Handle} {value : Unit}

/-- An envelope or a decode error is forwarded. -/
theorem forward_course (ready : Ready delivery world)
    (course : (scene Handle supply delivery).Course (delivery.forward message) world log value
      after) :
    ∃ took, log.map Moment.exchange = [delivery.forwarding message took] ∧
      Passed delivery (if took then delivery.decoded message else [])
        (faultOf (unmarshal delivery.format message)) world after ∧
      (took → world.isOpen delivery) ∧ (after.isOpen delivery → took) := by
  unfold Delivery.forward at course
  unfold Delivery.forwarding Delivery.decoded
  cases decoding : unmarshal delivery.format message with
  | ok envelope =>
    simp only [decoding] at course
    obtain ⟨took, moment, rest, between, rfl, exchange, passed, opened, taken, further⟩ :=
      course_send ready course
    obtain ⟨rfl, rfl, rfl⟩ := Scene.course_done.mp further
    exact ⟨took, congrArg ([·]) exchange, passed, opened, taken⟩
  | error error =>
    simp only [decoding] at course
    obtain ⟨moment, rest, between, rfl, exchange, passed, further⟩ := course_report ready course
    obtain ⟨rfl, rfl, rfl⟩ := Scene.course_done.mp further
    refine ⟨after.isOpen delivery, congrArg ([·]) exchange, ?_, passed.messages.opened, id⟩
    have nothing : (if after.isOpen delivery then [] else []) = ([] : List Envelope) := ite_self _
    exact nothing.symm ▸ passed

/-- A message with a reply address is acknowledged once. -/
theorem acknowledge_course (ready : Ready delivery world)
    (course : (scene Handle supply delivery).Course (delivery.acknowledge message) world log value
      after) :
    ∃ outcome, log.map Moment.exchange = delivery.acknowledging message outcome ∧
      Passed delivery [] (message.unacknowledged outcome) world after := by
  unfold Delivery.acknowledge at course
  unfold Delivery.acknowledging Message.unacknowledged
  cases address : message.reply with
  | none =>
    simp only [address] at course
    obtain ⟨rfl, rfl, rfl⟩ := Scene.course_done.mp course
    exact ⟨.ok (), rfl, .refl _ _⟩
  | some reply =>
    simp only [address] at course
    obtain ⟨now, outcome, next, rest, rfl, passes, rfl, further⟩ := Scene.course_ask.mp course
    have meanwhile := passed_of_passes ready passes
    cases outcome with
    | ok _ =>
      obtain ⟨rfl, rfl, rfl⟩ := Scene.course_done.mp further
      exact ⟨.ok (), rfl, meanwhile⟩
    | error error =>
      obtain ⟨moment, rest, between, rfl, exchange, passed, further⟩ :=
        course_report (meanwhile.ready ready) further
      obtain ⟨rfl, rfl, rfl⟩ := Scene.course_done.mp further
      exact ⟨.error error, congrArg (_ :: [·]) exchange, meanwhile.trans passed⟩

/-- **One message**: its envelope or its decode error is forwarded, then it is acknowledged. -/
theorem handle_course (ready : Ready delivery world)
    (course : (scene Handle supply delivery).Course (delivery.handle message) world log value
      after) :
    ∃ fate : Fate, fate.message = message ∧ log.map Moment.exchange = fate.exchanges delivery ∧
      Passed delivery (fate.envelopes delivery) (fate.faults delivery) world after ∧
      (fate.took → world.isOpen delivery) ∧ (after.isOpen delivery → fate.took) := by
  obtain ⟨first, _, between, rest, rfl, forwarded, acknowledged⟩ := Scene.course_bind.mp course
  obtain ⟨took, asked, passed, opened, taken⟩ := forward_course ready forwarded
  obtain ⟨outcome, confirmed, reported⟩ := acknowledge_course (passed.ready ready) acknowledged
  refine ⟨⟨message, took, outcome⟩, rfl, ?_, ?_, opened, taken ∘ reported.messages.opened⟩
  · rw [List.map_append, asked, confirmed]
    rfl
  · have all := passed.trans reported
    rwa [List.append_nil] at all

/-! ### One message after another -/

/-- **All messages**, one after the other. Once a message is dropped because messages are not taken
any more, all others are dropped, too. -/
theorem handleAll_course (ready : Ready delivery world)
    (course : (scene Handle supply delivery).Course (delivery.handleAll messages) world log value
      after) :
    ∃ fates : List Fate, fates.map (·.message) = messages ∧
      log.map Moment.exchange = fates.flatMap (Fate.exchanges delivery) ∧
      Passed delivery (fates.flatMap (Fate.envelopes delivery))
        (fates.flatMap (Fate.faults delivery)) world after ∧
      fates.Pairwise (fun earlier later => later.took → earlier.took) ∧
      (∀ fate ∈ fates, fate.took → world.isOpen delivery) ∧
      (after.isOpen delivery → ∀ fate ∈ fates, fate.took) := by
  induction messages generalizing world log with
  | nil =>
    obtain ⟨rfl, rfl, rfl⟩ := Scene.course_done.mp course
    exact ⟨[], rfl, rfl, .refl _ _, .nil, nofun, fun _ => nofun⟩
  | cons message rest ih =>
    obtain ⟨first, _, between, others, rfl, handled, further⟩ := Scene.course_bind.mp course
    obtain ⟨fate, rfl, asked, passed, opened, taken⟩ := handle_course ready handled
    obtain ⟨fates, rfl, story, through, pairs, allOpened, allTaken⟩ :=
      ih (passed.ready ready) further
    -- an envelope that is taken later on shows that the queue was open after the first message
    refine ⟨fate :: fates, rfl, ?_, passed.trans through, ?_, ?_, fun still => ?_⟩
    · rw [List.map_append, asked, story, List.flatMap_cons]
    · exact .cons (fun later member took => taken (allOpened later member took)) pairs
    · refine List.forall_mem_cons.mpr ⟨opened, fun later member took => ?_⟩
      exact passed.messages.opened (allOpened later member took)
    · exact List.forall_mem_cons.mpr ⟨taken (through.messages.opened still), allTaken still⟩

/-! ### It comes to its end -/

/-- Receivers may empty the queue of messages. -/
theorem exists_room_for_message (Handle : Type) (supply : Nat → String)
    (ready : Ready delivery world) :
    ∃ later, (scene Handle supply delivery).Passes world later ∧
      later.isOpen delivery = world.isOpen delivery ∧ ∃ queue,
        later.place.messages[delivery.messages]? = some queue ∧ queue.items = [] ∧
          0 < queue.capacity := by
  obtain ⟨queue, found, room⟩ := ready.messages
  obtain ⟨after, kept, steps, emptied⟩ := Queue.exists_emptied found world.received
  have passes := steps.lift (p := fun before next => ∃ incident,
    (scene Handle supply delivery).happens incident before next) world.withMessages
    fun _ now receives => ⟨.takeMessage, now, receives, rfl⟩
  refine ⟨world.withMessages (after, kept), passes, ?_, _, emptied, rfl, room⟩
  exact (Queue.isOpenAt_of_getElem? emptied).trans (Queue.isOpenAt_of_getElem? found).symm

theorem exists_room_for_error (Handle : Type) (supply : Nat → String)
    (ready : Ready delivery world) :
    ∃ later, (scene Handle supply delivery).Passes world later ∧
      later.isOpen delivery = world.isOpen delivery ∧ ∃ queue,
        later.place.errors[delivery.errors]? = some queue ∧ queue.items = [] ∧
          0 < queue.capacity := by
  obtain ⟨queue, found, room⟩ := ready.errors
  obtain ⟨after, kept, steps, emptied⟩ := Queue.exists_emptied found world.noted
  have passes := steps.lift (p := fun before next => ∃ incident,
    (scene Handle supply delivery).happens incident before next) world.withErrors
    fun _ now receives => ⟨.takeError, now, receives, rfl⟩
  exact ⟨world.withErrors (after, kept), passes, rfl, _, emptied, rfl, room⟩

/-- An envelope can be sent. -/
theorem exists_course_send (ready : Ready delivery world) (envelope : Envelope) :
    ∃ moment after, (scene Handle supply delivery).Course
        ((Delivery.task (.send delivery.messages envelope)).bind fun _ => .done ())
        world [moment] () after ∧
      moment.exchange = ⟨.inr (.send delivery.messages envelope), world.isOpen delivery⟩ ∧
      after.isOpen delivery = world.isOpen delivery := by
  obtain ⟨later, passes, same, queue, found, empty, room⟩ :=
    exists_room_for_message Handle supply ready
  obtain ⟨took, messages, sent⟩ := Queue.exists_sendAt? found empty room envelope
  obtain ⟨-, opened, still⟩ := Queue.passed_send [] found sent
  obtain rfl : took = world.isOpen delivery := opened.trans same
  refine ⟨_, { later with place := { later.place with messages } },
    .ask passes ⟨_, ?_, rfl⟩ (.done _ _), rfl, still.trans same⟩
  exact congrArg (Option.map _) sent

theorem exists_course_report (ready : Ready delivery world) (error : BusError) :
    ∃ moment after, (scene Handle supply delivery).Course
        ((Delivery.task (.report delivery.errors error)).bind fun _ => .done ())
        world [moment] () after ∧
      moment.exchange = ⟨.inr (.report delivery.errors error), true⟩ ∧
      after.isOpen delivery = world.isOpen delivery := by
  obtain ⟨later, passes, same, queue, found, empty, room⟩ :=
    exists_room_for_error Handle supply ready
  obtain ⟨took, errors, sent⟩ := Queue.exists_sendAt? found empty room error
  obtain ⟨-, opened, still⟩ := Queue.passed_send [] found sent
  obtain rfl : took = true := opened.trans ((passed_of_passes ready passes).ready ready).noting
  refine ⟨_, { later with place := { later.place with errors } },
    .ask passes ⟨_, ?_, rfl⟩ (.done _ _), rfl, same⟩
  exact congrArg (Option.map _) sent

theorem exists_course_forward (ready : Ready delivery world) (message : Message) :
    ∃ log after, (scene Handle supply delivery).Course (delivery.forward message) world
        log () after ∧
      log.map Moment.exchange = [delivery.forwarding message (world.isOpen delivery)] ∧
      after.isOpen delivery = world.isOpen delivery := by
  unfold Delivery.forward Delivery.forwarding
  cases unmarshal delivery.format message with
  | ok envelope =>
    obtain ⟨moment, after, course, exchange, same⟩ := exists_course_send ready envelope
    exact ⟨[moment], after, course, congrArg ([·]) exchange, same⟩
  | error error =>
    obtain ⟨moment, after, course, exchange, same⟩ := exists_course_report ready error
    exact ⟨[moment], after, course, congrArg ([·]) exchange, same⟩

/-- Acknowledging comes to its end, whichever way it goes. -/
theorem exists_course_acknowledge (ready : Ready delivery world) (message : Message)
    (outcome : BusResult Unit) :
    ∃ log after, (scene Handle supply delivery).Course (delivery.acknowledge message)
        world log () after ∧
      log.map Moment.exchange = delivery.acknowledging message outcome ∧
      after.isOpen delivery = world.isOpen delivery := by
  unfold Delivery.acknowledge Delivery.acknowledging
  cases message.reply with
  | none => exact ⟨[], world, .done _ _, rfl, rfl⟩
  | some reply =>
    cases outcome with
    | ok _ =>
      exact ⟨[⟨world, .inl (.acknowledge reply delivery.exactlyOnce), .ok ()⟩], world,
        .ask .refl rfl (.done _ _), rfl, rfl⟩
    | error error =>
      obtain ⟨moment, after, course, exchange, same⟩ := exists_course_report ready error
      exact ⟨[⟨world, .inl (.acknowledge reply delivery.exactlyOnce), .error error⟩, moment], after,
        .ask .refl rfl course, congrArg (_ :: [·]) exchange, same⟩

/-- Handling messages comes to its end, whichever way the acknowledgements go. -/
theorem exists_course_handleAll (ready : Ready delivery world) (fates : List Fate)
    (took : ∀ fate ∈ fates, fate.took = world.isOpen delivery) :
    ∃ log after, (scene Handle supply delivery).Course
        (delivery.handleAll (fates.map (·.message))) world log () after ∧
      log.map Moment.exchange = fates.flatMap (Fate.exchanges delivery) ∧
      after.isOpen delivery = world.isOpen delivery := by
  induction fates generalizing world with
  | nil => exact ⟨[], world, .done _ _, rfl, rfl⟩
  | cons fate rest ih =>
    obtain ⟨takes, others⟩ := List.forall_mem_cons.mp took
    obtain ⟨first, between, forwarded, asked, same⟩ := exists_course_forward ready fate.message
    obtain ⟨_, -, passed, -⟩ := forward_course ready forwarded
    -- what has been forwarded leaves the queues ready for what the acknowledgement may report
    have ready' := passed.ready ready
    obtain ⟨second, next, acknowledged, confirmed, still⟩ :=
      exists_course_acknowledge ready' fate.message fate.outcome
    obtain ⟨_, -, reported⟩ := acknowledge_course ready' acknowledged
    obtain ⟨log, after, course, story, unchanged⟩ := ih (reported.ready ready')
      fun other member => (others other member).trans (still.trans same).symm
    refine ⟨(first ++ second) ++ log, after, ?_, ?_, unchanged.trans (still.trans same)⟩
    · exact Scene.course_bind.mpr ⟨_, (), next, log, rfl,
        Scene.course_bind.mpr ⟨first, (), between, second, rfl, forwarded, acknowledged⟩, course⟩
    · rw [List.map_append, List.map_append, asked, confirmed, story, List.flatMap_cons,
        Fate.exchanges, takes]
      rfl

/-! ### Nothing is lost, duplicated or misrouted -/

/-- The acknowledgements among some questions, in order. -/
def acknowledgements (story : List (Dialogue.Exchange (Connection.interface Handle).work)) :
    List (String × Bool) :=
  story.filterMap fun exchange => match exchange.1 with
    | .inl (.acknowledge reply confirm) => some (reply, confirm)
    | _ => none

/-- Exactly the messages that have a reply address are acknowledged. -/
theorem acknowledgements_flatMap (delivery : Delivery) (fates : List Fate) :
    acknowledgements (fates.flatMap (Fate.exchanges delivery) :
        List (Dialogue.Exchange (Connection.interface Handle).work)) =
      (fates.map (·.message)).flatMap delivery.asked := by
  unfold acknowledgements
  rw [List.filterMap_flatMap, List.flatMap_map]
  refine congrArg (List.flatMap · fates) (funext fun fate => ?_)
  unfold Fate.exchanges Delivery.forwarding Delivery.acknowledging Delivery.asked
  cases unmarshal delivery.format fate.message <;> cases fate.message.reply <;>
    cases fate.outcome <;> rfl

/-- What becomes of messages that are handled one after another. -/
structure Orderly (delivery : Delivery) (messages : List Message) (log : Account Handle)
    (world after : Reception) (fates : List Fate) : Prop where
  /-- Each message has one fate. -/
  arrivals : fates.map (·.message) = messages
  /-- The envelope or the decode error of each message is forwarded, and then the message is
  acknowledged if it has a reply address, all before the next message. -/
  story : log.map Moment.exchange = fates.flatMap (Fate.exchanges delivery)
  /-- The acknowledgements are those of the messages that have a reply address. -/
  acknowledged : acknowledgements (log.map Moment.exchange) = messages.flatMap delivery.asked
  /-- Each decode error and each failure of an acknowledgement comes through the queue of errors,
  whether messages are taken or not. -/
  errors : after.errors delivery = world.errors delivery ++ fates.flatMap (Fate.faults delivery)
  /-- While messages are taken, all decoded envelopes come through the queue of messages. -/
  taken : after.isOpen delivery →
    after.envelopes delivery = world.envelopes delivery ++ messages.flatMap delivery.decoded
  /-- In any case those come through that arrive while messages are taken. -/
  envelopes : after.envelopes delivery =
    world.envelopes delivery ++ fates.flatMap (Fate.envelopes delivery)
  /-- Once messages are not taken any more, all envelopes are dropped. -/
  dropped : fates.Pairwise fun earlier later => later.took → earlier.took
  /-- Nothing comes through a queue that was closed from the start. -/
  closed : world.isOpen delivery = false → after.envelopes delivery = world.envelopes delivery
  /-- No other queue of messages changes. -/
  elsewhere : ∀ other ≠ delivery.messages,
    after.place.messages[other]? = world.place.messages[other]?
  /-- No other queue of errors changes. -/
  beyond : ∀ other ≠ delivery.errors, after.place.errors[other]? = world.place.errors[other]?

theorem envelopes_of_taken {fates : List Fate} (took : ∀ fate ∈ fates, fate.took) :
    fates.flatMap (Fate.envelopes delivery) =
      (fates.map (·.message)).flatMap delivery.decoded := by
  rw [List.flatMap_map]
  refine List.flatMap_congr fun fate member => ?_
  rw [Fate.envelopes, if_pos (took fate member)]

theorem envelopes_of_dropped {fates : List Fate} (dropped : ∀ fate ∈ fates, ¬ fate.took) :
    fates.flatMap (Fate.envelopes delivery) = [] := by
  refine List.flatMap_eq_nil_iff.mpr fun fate member => ?_
  rw [Fate.envelopes, if_neg (dropped fate member)]

/-- **Handling messages loses, duplicates and misroutes nothing**, in either format and whichever
way the acknowledgements go. It comes to its end with any outcomes of the acknowledgements, as long
as the receivers take what waits. -/
theorem messages_handled_in_order (Handle : Type) (supply : Nat → String) (delivery : Delivery)
    (messages : List Message) (world : Reception) (ready : Ready delivery world) :
    (∀ log value after, (scene Handle supply delivery).Course (delivery.handleAll messages) world
        log value after → ∃ fates, Orderly delivery messages log world after fates) ∧
      ∀ fates : List Fate, fates.map (·.message) = messages →
        (∀ fate ∈ fates, fate.took = world.isOpen delivery) → ∃ log after,
          (scene Handle supply delivery).Course (delivery.handleAll messages) world log () after ∧
            log.map Moment.exchange = fates.flatMap (Fate.exchanges delivery) ∧
              after.isOpen delivery = world.isOpen delivery := by
  constructor
  · intro log value after course
    obtain ⟨fates, rfl, story, passed, dropped, opened, taken⟩ := handleAll_course ready course
    refine ⟨fates, rfl, story, ?_, passed.errors.through, fun still => ?_,
      passed.messages.through, dropped, fun closed => ?_, passed.messages.elsewhere,
      passed.errors.elsewhere⟩
    · rw [story, acknowledgements_flatMap]
    · rw [← envelopes_of_taken (taken still)]
      exact passed.messages.through
    · have none : ∀ fate ∈ fates, ¬ fate.took :=
        fun fate member took => absurd (opened fate member took) (Bool.eq_false_iff.mp closed)
      have through := passed.messages.through
      rwa [envelopes_of_dropped none, List.append_nil] at through
  · rintro fates rfl took
    exact exists_course_handleAll ready fates took

/-- Three messages through queues with room for one: the acknowledgement of the first one fails, the
second one cannot be decoded, and the third one has no reply address. -/
theorem messages_handled_in_order_mixed :
    let delivery : Delivery := ⟨"orders", 0, 0, .native, true⟩
    let world : Reception :=
      { place := { messages := [{ capacity := 1 }], errors := [{ capacity := 1 }] } }
    let garbled : Message :=
      ⟨"orders", some "two", StringMap.ofList [(headerErrorCode, "many")], []⟩
    let messages : List Message := [{ subject := "orders", reply := some "one", payload := [1] },
      garbled, { subject := "orders", payload := [3] }]
    Ready delivery world ∧ ∃ log after fates,
      (scene Nat toString delivery).Course (delivery.handleAll messages) world log () after ∧
      Orderly delivery messages log world after fates ∧
      acknowledgements (log.map Moment.exchange) = [("one", true), ("two", true)] ∧
      (after.envelopes delivery).map (·.payload) = [[1], [3]] := by
  intro delivery world garbled messages
  have ready : Ready delivery world := ⟨⟨_, rfl, Nat.one_pos⟩, ⟨_, rfl, Nat.one_pos⟩, rfl⟩
  have handled := messages_handled_in_order Nat toString delivery messages world ready
  let refused : BusResult Unit := .error (.operation "ack" "refused")
  obtain ⟨log, after, course, story, still⟩ := handled.2
    (messages.map fun message => ⟨message, true, if message.payload = [1] then refused else .ok ()⟩)
    (by decide) (by decide)
  obtain ⟨fates, orderly⟩ := handled.1 log () after course
  refine ⟨ready, log, after, fates, course, orderly, ?_, ?_⟩
  · rw [orderly.acknowledged]
    decide +kernel
  · rw [orderly.taken still]
    decide +kernel

end MessageBus.Nats

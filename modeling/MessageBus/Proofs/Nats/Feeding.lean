/-
**Delivery loops and their queues.** What becomes of a delivery loop whose queues are closed.

* `Feeds` — a delivery loop sends nothing but to given queues, and may have been told to stop.
* `feeds_of_happens` — **it goes on like that**, whatever happens.
* `Stand` — queues that are there, and may have been closed.
* `exists_answer_of_closed` — **a delivery into closed queues never waits**.
* `exists_ended` — **a delivery loop that is told to stop comes to its end by itself** once its
  queues are closed.
-/

import MessageBus.Proofs.Nats.Station

namespace MessageBus.Nats

/-! ### Delivery loops of given queues -/

/-- What a delivery into given queues asks. -/
def Feeding (queues : Queues) : Link.interface.work.Ask → Prop
  | .inl (.acknowledge _ _) => True
  | .inr (.send queue _) => queue = queues.messages
  | .inr (.report queue _) => queue = queues.errors
  | _ => False

/-- A delivery loop feeds queues, and has been told to stop if that is so. -/
structure Feeds (queues : Queues) (told : Bool) (subscription : Subscription) : Prop where
  /-- Envelopes go to the queue of messages. -/
  messages : subscription.delivery.messages = queues.messages
  /-- Errors go to the queue of errors. -/
  errors : subscription.delivery.errors = queues.errors
  /-- The loop is busy with nothing else, and with nothing that has come to its end. -/
  busy : ∀ activity, subscription.busy = some activity →
    activity.Asks (Feeding queues) ∧ CoreLink.remaining activity = some activity
  /-- The loop is to stop. -/
  stopping : told → subscription.loop.stopping

variable {supply : Nat → String} {options : Options} {style : Style} {link after : CoreLink}
  {queues : Queues} {told : Bool} {subscription : Subscription}

theorem feeds_new (subject group : String) {delivery : Delivery}
    (messages : delivery.messages = queues.messages) (errors : delivery.errors = queues.errors) :
    Feeds queues false { subject, queue := group, delivery } :=
  ⟨messages, errors, nofun, nofun⟩

theorem Feeds.continues {later : Subscription} (feeds : Feeds queues told subscription)
    (continues : subscription.Continues later) : Feeds queues told later where
  messages := by rw [continues.delivery, feeds.messages]
  errors := by rw [continues.delivery, feeds.errors]
  busy activity working := feeds.busy activity (continues.busy ▸ working)
  stopping is := continues.stopping (feeds.stopping is)

/-- The delivery of a message asks for nothing but its queues and the acknowledgement. -/
theorem asks_handle (style : Style) (options : Options) (delivery : Delivery) (message : Message)
    (messages : delivery.messages = queues.messages) (errors : delivery.errors = queues.errors) :
    (Link.handle style options delivery message).Asks (Feeding queues) := by
  unfold Link.handle Delivery.handle
  rw [Dialogue.bind_eq, Dialogue.translate_bind]
  refine Dialogue.Asks.bind ?_ fun _ => ?_
  · unfold Delivery.forward
    cases unmarshal delivery.format message with
    | ok envelope => exact ⟨messages, fun _ => trivial⟩
    | error error => exact ⟨errors, fun _ => trivial⟩
  · unfold Delivery.acknowledge
    cases message.reply with
    | none => trivial
    | some reply =>
      cases style with
      | core => trivial
      | jetStream =>
        refine ⟨trivial, fun outcome => ?_⟩
        cases outcome with
        | ok _ => trivial
        | error words => exact ⟨errors, fun _ => trivial⟩

theorem asks_remaining {activity left : Dialogue Link.interface.work Unit}
    (asks : activity.Asks (Feeding queues)) (remains : CoreLink.remaining activity = some left) :
    left.Asks (Feeding queues) ∧ CoreLink.remaining left = some left := by
  cases activity with
  | done value => cases remains
  | ask question resume =>
    cases remains
    exact ⟨asks, rfl⟩

/-- A loop that is told to stop does not forget that with what it does next. -/
theorem stopping_of_next? {loop later : DeliveryLoop} {action : DeliveryLoop.Action}
    (acts : loop.next? = some (action, later)) : later.stopping = loop.stopping := by
  unfold DeliveryLoop.next? at acts
  grind

/-- A delivery loop feeds its queues after a change of some subscription if it does so after a
change of its own. -/
theorem feeds_modify {handle changed : Nat} {change : Subscription → Subscription}
    (found : link.subscriptions[handle]? = some subscription)
    (feeds : Feeds queues told subscription)
    (own : changed = handle → Feeds queues told (change subscription)) :
    ∃ later, (link.modify changed change).subscriptions[handle]? = some later ∧
      Feeds queues told later := by
  by_cases same : changed = handle
  · subst same
    exact ⟨change subscription,
      (List.getElem?_modify_eq _ _ _).trans (congrArg (Option.map change) found), own rfl⟩
  · exact ⟨subscription, (List.getElem?_modify_ne _ _ same).trans found, feeds⟩

theorem stopping_arrive (loop : DeliveryLoop) (message : Message) :
    (loop.arrive message).stopping = loop.stopping := by
  unfold DeliveryLoop.arrive
  split <;> rfl

/-- **A delivery loop that feeds queues goes on to do so**, whatever happens. -/
theorem feeds_of_happens {incident : CoreLink.Incident} {handle : Nat}
    (happened : Station.Happens style supply options incident link after)
    (found : link.subscriptions[handle]? = some subscription)
    (feeds : Feeds queues told subscription) :
    ∃ later, after.subscriptions[handle]? = some later ∧ Feeds queues told later := by
  cases incident with
  | arrive other message =>
    cases happened
    refine feeds_modify found feeds fun _ => { feeds with stopping := fun is => ?_ }
    exact (stopping_arrive _ _).trans (feeds.stopping is)
  | turn other =>
    obtain ⟨acting, action, loop, there, idle, acts, rfl⟩ := happened
    refine feeds_modify found feeds ?_
    rintro rfl
    cases found.symm.trans there
    -- what an idle loop takes up is a delivery into its own queues, or nothing
    refine { feeds with busy := fun activity working => ?_, stopping := fun is => ?_ }
    · cases action with
      | handle message =>
        exact asks_remaining (asks_handle _ _ _ _ feeds.messages feeds.errors) working
      | leave | finish => cases working
    · exact (stopping_of_next? acts).trans (feeds.stopping is)
  | deliver other =>
    obtain ⟨acting, question, resume, answer, between, there, working, answered, rfl⟩ := happened
    obtain ⟨later, still, continues⟩ :=
      (CoreLink.stays_of_answers answered).subscriptions handle subscription found
    refine feeds_modify still (feeds.continues continues) ?_
    rintro rfl
    cases found.symm.trans there
    refine { feeds.continues continues with busy := fun activity remains => ?_ }
    exact asks_remaining ((feeds.busy _ working).1.2 answer) remains
  | close other =>
    cases happened
    exact feeds_modify found feeds fun _ => { feeds with }
  | tick milliseconds =>
    cases happened
    exact ⟨subscription, found, feeds⟩

/-! ### Queues that are there, or closed -/

/-- The queues of a subscription are there, and closed if that is so. -/
structure Stand (queues : Queues) (closed : Bool) (place : Workplace) : Prop where
  /-- There is a queue of messages. -/
  messages : ∃ queue, place.messages[queues.messages]? = some queue ∧ (closed → queue.closed)
  /-- There is a queue of errors. -/
  errors : ∃ queue, place.errors[queues.errors]? = some queue ∧ (closed → queue.closed)

variable {closed : Bool} {place later : Workplace}

theorem Stand.stay (stand : Stand queues closed place)
    (messages : Queue.Stay place.messages later.messages)
    (errors : Queue.Stay place.errors later.errors) : Stand queues closed later := by
  obtain ⟨queue, found, shut⟩ := stand.messages
  obtain ⟨other, there, shutToo⟩ := stand.errors
  obtain ⟨queue', found', same⟩ := messages _ _ found
  obtain ⟨other', there', sameToo⟩ := errors _ _ there
  exact ⟨⟨queue', found', same ∘ shut⟩, ⟨other', there', sameToo ∘ shutToo⟩⟩

/-- Queues stay, whatever happens. -/
theorem Stand.happens {incident : CoreLink.Incident} (stand : Stand queues closed link.place)
    (happened : Station.Happens style supply options incident link after) :
    Stand queues closed after.place := by
  cases incident with
  | arrive | close | tick =>
    cases happened
    exact stand.stay (.refl _) (.refl _)
  | turn =>
    obtain ⟨acting, action, loop, there, idle, acts, rfl⟩ := happened
    exact stand.stay (.refl _) (.refl _)
  | deliver =>
    obtain ⟨acting, question, resume, answer, between, there, working, answered, rfl⟩ := happened
    have stays := CoreLink.stays_of_answers answered
    exact stand.stay stays.messages stays.errors

theorem stand_of_openQueues {capacity : Nat}
    (opened : place.answer? supply (.openQueues capacity) = some (queues, later)) :
    Stand queues false later := by
  cases opened
  exact ⟨⟨_, List.getElem?_concat_length, nofun⟩, ⟨_, List.getElem?_concat_length, nofun⟩⟩

theorem Stand.close {answer : Unit} (stand : Stand queues closed place)
    (shut : place.answer? supply (.close queues) = some (answer, later)) :
    Stand queues true later := by
  obtain ⟨queue, found, -⟩ := stand.messages
  obtain ⟨other, there, -⟩ := stand.errors
  cases shut
  exact ⟨⟨queue.close, (List.getElem?_modify_eq _ _ _).trans (congrArg (Option.map _) found),
    fun _ => rfl⟩, ⟨other.close, (List.getElem?_modify_eq _ _ _).trans
    (congrArg (Option.map _) there), fun _ => rfl⟩⟩

/-! ### The end of a delivery loop -/

/-- **A delivery into closed queues never waits.** -/
theorem exists_answer_of_closed {question : Link.interface.work.Ask} (supply : Nat → String)
    (stand : Stand queues true link.place) (feeding : Feeding queues question) :
    ∃ answer after, CoreLink.Answers supply question link answer after ∧
      after.subscriptions = link.subscriptions := by
  cases question with
  | inl call =>
    cases call with
    | acknowledge reply confirm => exact ⟨.ok (), link, rfl, rfl⟩
    | _ => exact feeding.elim
  | inr question =>
    cases question with
    | send number envelope =>
      obtain ⟨queue, found, shut⟩ := stand.messages
      cases feeding
      exact ⟨false, _, ⟨_, congrArg (Option.map _)
        (Workplace.sendAt?_of_closed found (shut rfl) envelope), rfl⟩, rfl⟩
    | report number error =>
      obtain ⟨queue, found, shut⟩ := stand.errors
      cases feeding
      exact ⟨false, _, ⟨_, congrArg (Option.map _)
        (Workplace.sendAt?_of_closed found (shut rfl) error), rfl⟩, rfl⟩
    | _ => exact feeding.elim

/-- What a delivery loop does by itself. -/
def Works (style : Style) (supply : Nat → String) (options : Options) (handle : Nat)
    (link after : CoreLink) : Prop :=
  Station.Happens style supply options (.turn handle) link after ∨
    Station.Happens style supply options (.deliver handle) link after

/-- A delivery loop whose queues are closed finishes what it is busy with. -/
theorem exists_idle {handle : Nat} (activity : Dialogue Link.interface.work Unit)
    (asks : activity.Asks (Feeding queues))
    (found : link.subscriptions[handle]? = some subscription)
    (working : subscription.busy = CoreLink.remaining activity)
    (stand : Stand queues true link.place) :
    ∃ after, Relation.ReflTransGen (Works style supply options handle) link after ∧
      after.subscriptions[handle]? = some { subscription with busy := none } ∧
      Stand queues true after.place := by
  -- on what is left of the delivery: each answer is there at once, and the queues stay closed
  induction activity generalizing link subscription with
  | done value =>
    have idle : subscription.busy = none := working
    refine ⟨link, .refl, found.trans ?_, stand⟩
    rw [← idle]
  | ask question resume ih =>
    obtain ⟨answer, between, answered, same⟩ := exists_answer_of_closed supply stand asks.1
    have delivered : Station.Happens style supply options (.deliver handle) link
        (between.modify handle fun subscription =>
          { subscription with busy := CoreLink.remaining (resume answer) }) :=
      ⟨subscription, question, resume, answer, between, found, working, answered, rfl⟩
    have changed : (between.modify handle fun subscription =>
        { subscription with busy := CoreLink.remaining (resume answer) }).subscriptions[handle]? =
        some { subscription with busy := CoreLink.remaining (resume answer) } :=
      (List.getElem?_modify_eq _ _ _).trans (congrArg (Option.map _) (same ▸ found))
    obtain ⟨after, steps, idle, stands⟩ := ih answer (asks.2 answer) changed rfl
      (stand.happens delivered)
    exact ⟨after, .head (.inr delivered) steps, idle, stands⟩

theorem exists_turn {handle : Nat} {action : DeliveryLoop.Action} {loop : DeliveryLoop}
    (style : Style) (supply : Nat → String) (options : Options)
    (found : link.subscriptions[handle]? = some subscription) (idle : subscription.busy = none)
    (acts : subscription.loop.next? = some (action, loop)) :
    ∃ after, Station.Happens style supply options (.turn handle) link after ∧
      after.subscriptions[handle]? = some { subscription with
        loop, busy := Station.undertaking style options subscription.delivery action } :=
  ⟨_, ⟨subscription, action, loop, found, idle, acts, rfl⟩,
    (List.getElem?_modify_eq _ _ _).trans (congrArg (Option.map _) found)⟩

/-- A delivery loop that drains into closed queues comes to its end by itself: it hands out what has
arrived. -/
theorem exists_ended_of_draining {handle : Nat} (messages : List Message)
    (found : link.subscriptions[handle]? = some subscription) (idle : subscription.busy = none)
    (draining : subscription.loop.phase = .draining)
    (arrived : subscription.loop.arrived = messages) (feeds : Feeds queues told subscription)
    (stand : Stand queues true link.place) :
    ∃ after, Relation.ReflTransGen (Works style supply options handle) link after ∧
      ∃ later, after.subscriptions[handle]? = some later ∧ later.ended := by
  -- on what has arrived: each message is taken up and handled without waiting
  induction messages generalizing link subscription with
  | nil =>
    have acts : subscription.loop.next? =
        some (.finish, { subscription.loop with phase := .ended }) := by
      simp [DeliveryLoop.next?, draining, arrived]
    obtain ⟨after, turned, left⟩ := exists_turn style supply options found idle acts
    exact ⟨after, .single (.inl turned), _, left, rfl⟩
  | cons message rest ih =>
    have acts : subscription.loop.next? =
        some (.handle message, { subscription.loop with arrived := rest }) := by
      simp [DeliveryLoop.next?, draining, arrived]
    obtain ⟨next, turned, busy⟩ := exists_turn style supply options found idle acts
    obtain ⟨between, steps, ready, stands⟩ := exists_idle _
      (asks_handle style options _ message feeds.messages feeds.errors) busy rfl
      (stand.happens turned)
    obtain ⟨after, further, ended⟩ := ih ready rfl draining rfl
      ⟨feeds.messages, feeds.errors, nofun, feeds.stopping⟩ stands
    exact ⟨after, .head (.inl turned) (steps.trans further), ended⟩

/-- A delivery loop that is told to stop and is not busy comes to its end by itself. -/
theorem exists_ended_of_idle {handle : Nat} (style : Style) (supply : Nat → String)
    (options : Options) (found : link.subscriptions[handle]? = some subscription)
    (idle : subscription.busy = none) (feeds : Feeds queues true subscription)
    (stand : Stand queues true link.place) :
    ∃ after, Relation.ReflTransGen (Works style supply options handle) link after ∧
      ∃ later, after.subscriptions[handle]? = some later ∧ later.ended := by
  cases phase : subscription.loop.phase with
  | ended => exact ⟨link, .refl, subscription, found, decide_eq_true phase⟩
  | serving =>
    -- the signal goes before all that has arrived
    have acts : subscription.loop.next? =
        some (.leave, { subscription.loop with phase := .ended }) := by
      simp [DeliveryLoop.next?, phase, feeds.stopping rfl]
    obtain ⟨after, turned, left⟩ := exists_turn style supply options found idle acts
    exact ⟨after, .single (.inl turned), _, left, rfl⟩
  | draining => exact exists_ended_of_draining _ found idle phase rfl feeds stand

/-- **A delivery loop that is told to stop comes to its end by itself** once its queues are closed,
whatever it is busy with. -/
theorem exists_ended {handle : Nat} (style : Style) (supply : Nat → String) (options : Options)
    (found : link.subscriptions[handle]? = some subscription)
    (feeds : Feeds queues true subscription) (stand : Stand queues true link.place) :
    ∃ after, Relation.ReflTransGen (Works style supply options handle) link after ∧
      ∃ later, after.subscriptions[handle]? = some later ∧ later.ended := by
  have idles : ∃ between, Relation.ReflTransGen (Works style supply options handle) link between ∧
      between.subscriptions[handle]? = some { subscription with busy := none } ∧
      Stand queues true between.place := by
    cases working : subscription.busy with
    | none => exact exists_idle (.done ()) trivial found working stand
    | some activity =>
      obtain ⟨asks, unfinished⟩ := feeds.busy activity working
      exact exists_idle activity asks found (working.trans unfinished.symm) stand
  obtain ⟨between, steps, idle, stands⟩ := idles
  obtain ⟨after, further, ended⟩ := exists_ended_of_idle style supply options idle rfl
    ⟨feeds.messages, feeds.errors, nofun, feeds.stopping⟩ stands
  exact ⟨after, steps.trans further, ended⟩

end MessageBus.Nats

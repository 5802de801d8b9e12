/-
**Subscriptions in order.** What holds of the subscriptions of a client all its life.

* `undertaking_eq_some`, `answers_of_delivery` — what a delivery loop is busy with, and the one
  answer that this needs.
* `InOrder` — the queues of subscriptions exist, and delivery loops are busy with deliveries.
* `InOrder.grow`, `InOrder.subscribe`, `InOrder.change` — **what keeps subscriptions in order**: more
  queues, a new subscription that has a queue, and a loop that stays busy with deliveries.
-/

import MessageBus.Proofs.Nats.CoreLink
import MessageBus.Proofs.Task.Waiting

namespace MessageBus.Nats.CoreLink

variable {options : Options} {supply : Nat → String}

/-! ### Deliveries -/

/-- What a loop is busy with after an action is the delivery of the message of that action. -/
theorem undertaking_eq_some {delivery : Delivery} {action : DeliveryLoop.Action}
    {activity : Dialogue Link.interface.work Unit}
    (working : undertaking options delivery action = some activity) :
    ∃ message, action = .handle message ∧
      activity = Link.handle .core options delivery message := by
  cases action with
  | handle message =>
    refine ⟨message, rfl, ?_⟩
    change remaining (Link.handle .core options delivery message) = some activity at working
    unfold remaining at working
    split at working
    · cases working
    · exact (Option.some.inj working).symm
  | leave => cases working
  | finish => cases working

/-- A delivery ends with its only answer: it sends the envelope of its message, if there is one, to
the queue of messages. -/
theorem answers_of_delivery {supply : Nat → String} {delivery : Delivery} {message : Message}
    {question : Link.interface.work.Ask}
    {resume : Link.interface.work.Answer question → Dialogue Link.interface.work Unit}
    {answer : Link.interface.work.Answer question} {world between : CoreLink}
    (delivering : .ask question resume = Link.handle .core options delivery message)
    (answered : Answers supply question world answer between) :
    remaining (resume answer) = none ∧ between.client = world.client ∧
      between.subscriptions = world.subscriptions ∧
      between.place.messages.length = world.place.messages.length ∧
      ∀ number, ∀ envelope ∈ Queue.waiting between.place.messages number,
        envelope ∈ Queue.waiting world.place.messages number ∨
          number = delivery.messages ∧ unmarshal delivery.format message = .ok envelope := by
  rw [handle_eq] at delivering
  cases read : unmarshal delivery.format message with
  | ok envelope =>
    rw [read] at delivering
    cases delivering
    obtain ⟨place, sent, rfl⟩ := answered
    obtain ⟨⟨took, messages⟩, sending, ended⟩ := Option.map_eq_some_iff.mp sent
    cases ended
    obtain ⟨length, waiting⟩ := Workplace.sendAt?_eq_some sending
    refine ⟨rfl, rfl, rfl, length, fun number other waits => ?_⟩
    rcases waiting number with same | ⟨there, more⟩
    · exact .inl (same ▸ waits)
    · rw [more] at waits
      rcases List.mem_append.mp waits with older | new
      · exact .inl older
      · exact .inr ⟨there, by rw [List.mem_singleton.mp new]⟩
  | error error =>
    rw [read] at delivering
    cases delivering
    obtain ⟨place, sent, rfl⟩ := answered
    obtain ⟨⟨took, errors⟩, sending, ended⟩ := Option.map_eq_some_iff.mp sent
    cases ended
    exact ⟨rfl, rfl, rfl, rfl, fun number other waits => .inl waits⟩

/-! ### Order -/

/-- Subscriptions in order. -/
structure InOrder (options : Options) (place : Workplace)
    (subscriptions : List Subscription) : Prop where
  /-- The queues of subscriptions exist. -/
  bound : ∀ subscription ∈ subscriptions,
    subscription.delivery.messages < place.messages.length
  /-- Delivery loops are busy with deliveries. -/
  delivers : ∀ subscription ∈ subscriptions, ∀ activity, subscription.busy = some activity →
    ∃ message, activity = Link.handle .core options subscription.delivery message

/-- A client without subscriptions has them in order. -/
theorem inOrder_nil (options : Options) (place : Workplace) : InOrder options place [] :=
  ⟨nofun, nofun⟩

variable {place later : Workplace} {subscriptions : List Subscription}

/-- Subscriptions stay in order as long as queues stay. -/
theorem InOrder.grow (order : InOrder options place subscriptions)
    (longer : place.messages.length ≤ later.messages.length) :
    InOrder options later subscriptions where
  bound subscription member := Nat.lt_of_lt_of_le (order.bound subscription member) longer
  delivers := order.delivers

/-- A new subscription whose queue exists is in order. -/
theorem InOrder.subscribe (order : InOrder options place subscriptions) {delivery : Delivery}
    (inside : delivery.messages < place.messages.length) (subject group : String) :
    InOrder options place (subscriptions ++ [{ subject, queue := group, delivery }]) where
  bound subscription member := by
    rcases List.mem_append.mp member with older | new
    · exact order.bound subscription older
    · rw [List.mem_singleton.mp new]
      exact inside
  delivers subscription member activity working := by
    rcases List.mem_append.mp member with older | new
    · exact order.delivers subscription older activity working
    · rw [List.mem_singleton.mp new] at working
      cases working

/-- What is in a list of which one element changed was there before, or is that element. -/
theorem mem_of_mem_modify {α : Type} {items : List α} {number : Nat} {change : α → α} {item : α}
    (member : item ∈ items.modify number change) :
    item ∈ items ∨ ∃ older, items[number]? = some older ∧ item = change older := by
  obtain ⟨place, found⟩ := List.mem_iff_getElem?.mp member
  rw [List.getElem?_modify] at found
  obtain ⟨older, there, changed⟩ := Option.map_eq_some_iff.mp found
  by_cases here : number = place
  · rw [if_pos here] at changed
    exact .inr ⟨older, here ▸ there, changed.symm⟩
  · rw [if_neg here] at changed
    exact .inl (changed ▸ List.mem_of_getElem? there)

/-- A subscription that changes stays in order if it is still busy with deliveries. -/
theorem InOrder.change (order : InOrder options place subscriptions) {handle : Nat}
    {change : Subscription → Subscription}
    (same : ∀ subscription, (change subscription).delivery = subscription.delivery)
    (delivers : ∀ subscription, subscriptions[handle]? = some subscription →
      ∀ activity, (change subscription).busy = some activity →
        ∃ message, activity = Link.handle .core options subscription.delivery message) :
    InOrder options place (subscriptions.modify handle change) where
  bound subscription member := by
    rcases mem_of_mem_modify member with older | ⟨older, found, rfl⟩
    · exact order.bound subscription older
    · rw [same]
      exact order.bound older (List.mem_of_getElem? found)
  delivers subscription member activity working := by
    rcases mem_of_mem_modify member with older | ⟨older, found, rfl⟩
    · exact order.delivers subscription older activity working
    · rw [same]
      exact delivers older found activity working

end MessageBus.Nats.CoreLink

/-
**Where messages flow.** The way of messages from their arrival to the queues of requests.

* `Sent`, `Genuine` — a message that arrived under the response subject of a request, and an
  envelope read from one.
* `Loyal` — a subscription of a request: all that it has or is busy with was sent under the subject.
* `Flow` — the invariant: the queues of requests are their own, whatever feeds one of them is loyal,
  and what waits in one of them is genuine.
* `Flow.opens`, `Flow.subscribe`, `Flow.takes`, `Flow.incident` — **what keeps the flow**: the turns
  of requests, and whatever else may happen.
-/

import MessageBus.Proofs.Nats.Inquiry
import MessageBus.Proofs.Nats.Order

namespace MessageBus.Nats.Inquiry

open CoreLink

variable {ι : Type}

/-! ### Messages that arrived -/

/-- A message arrived under the response subject of a request. -/
def Sent (log : Chronicle ι) (call : RequestCall) (message : Message) : Prop :=
  ∃ handle, .incident (.arrive handle message) ∈ log ∧ message.subject = subject call

/-- An envelope was read from such a message. -/
def Genuine (options : Options) (log : Chronicle ι) (call : RequestCall)
    (envelope : Envelope) : Prop :=
  ∃ message, Sent log call message ∧ unmarshal options.format message = .ok envelope

/-- A subscription that has, and is busy with, only what was sent to a request. -/
structure Loyal (options : Options) (log : Chronicle ι) (call : RequestCall)
    (subscription : Subscription) : Prop where
  /-- It has the response subject. -/
  subject : subscription.subject = Inquiry.subject call
  /-- It reads messages as the client does. -/
  format : subscription.delivery.format = options.format
  /-- What has arrived was sent. -/
  arrived : ∀ message ∈ subscription.loop.arrived, Sent log call message
  /-- What it is busy with was sent. -/
  busy : ∀ activity, subscription.busy = some activity → ∃ message, Sent log call message ∧
    activity = Link.handle .core options subscription.delivery message

section Log

variable {options : Options} {log extra : Chronicle ι} {call : RequestCall}

/-- What arrived has arrived for good. -/
theorem Sent.append {message : Message} (sent : Sent log call message) :
    Sent (log ++ extra) call message := by
  obtain ⟨handle, arrived, same⟩ := sent
  exact ⟨handle, List.mem_append_left _ arrived, same⟩

theorem Genuine.append {envelope : Envelope} (genuine : Genuine options log call envelope) :
    Genuine options (log ++ extra) call envelope := by
  obtain ⟨message, sent, read⟩ := genuine
  exact ⟨message, sent.append, read⟩

theorem Loyal.append {subscription : Subscription}
    (loyal : Loyal options log call subscription) :
    Loyal options (log ++ extra) call subscription where
  subject := loyal.subject
  format := loyal.format
  arrived message member := (loyal.arrived message member).append
  busy activity working := by
    obtain ⟨message, sent, same⟩ := loyal.busy activity working
    exact ⟨message, sent.append, same⟩

end Log

/-! ### The flow -/

/-- What feeds the queues of requests, and what waits in them. -/
structure Flow (options : Options) (calls : ι → RequestCall) (queues : ι → Option Queues)
    (log : Chronicle ι) (place : Workplace) (subscriptions : List Subscription) : Prop
    extends InOrder options place subscriptions where
  /-- The queues of requests exist. -/
  inside : ∀ who own, queues who = some own → own.messages < place.messages.length
  /-- Different requests have different queues. -/
  apart : ∀ who other own others, who ≠ other → queues who = some own →
    queues other = some others → own.messages ≠ others.messages
  /-- What feeds the queue of a request is loyal to it. -/
  loyal : ∀ who own, queues who = some own → ∀ subscription ∈ subscriptions,
    subscription.delivery.messages = own.messages → Loyal options log (calls who) subscription
  /-- What waits in the queue of a request is genuine. -/
  waiting : ∀ who own, queues who = some own →
    ∀ envelope ∈ Queue.waiting place.messages own.messages,
      Genuine options log (calls who) envelope

variable {options : Options} {calls : ι → RequestCall} {queues : ι → Option Queues}
  {log : Chronicle ι} {place : Workplace} {subscriptions : List Subscription}

/-- The flow stays when more happens. -/
theorem Flow.append (flow : Flow options calls queues log place subscriptions)
    (extra : Chronicle ι) : Flow options calls queues (log ++ extra) place subscriptions where
  inside := flow.inside
  apart := flow.apart
  toInOrder := flow.toInOrder
  loyal who own has subscription member feeds :=
    (flow.loyal who own has subscription member feeds).append
  waiting who own has envelope waits := (flow.waiting who own has envelope waits).append

/-- The flow stays when requests give up queues. -/
theorem Flow.forget (flow : Flow options calls queues log place subscriptions)
    {fewer : ι → Option Queues} (kept : ∀ who own, fewer who = some own → queues who = some own) :
    Flow options calls fewer log place subscriptions where
  inside who own has := flow.inside who own (kept who own has)
  apart who other own others different has hasOther :=
    flow.apart who other own others different (kept who own has) (kept other others hasOther)
  toInOrder := flow.toInOrder
  loyal who own has := flow.loyal who own (kept who own has)
  waiting who own has := flow.waiting who own (kept who own has)

/-- The flow stays when a place only takes from queues. -/
theorem Flow.takes (flow : Flow options calls queues log place subscriptions)
    {later : Workplace} (length : later.messages.length = place.messages.length)
    (fewer : ∀ number, ∀ envelope ∈ Queue.waiting later.messages number,
      envelope ∈ Queue.waiting place.messages number) :
    Flow options calls queues log later subscriptions where
  inside who own has := length ▸ flow.inside who own has
  apart := flow.apart
  toInOrder := flow.grow (Nat.le_of_eq length.symm)
  loyal := flow.loyal
  waiting who own has envelope waits := flow.waiting who own has envelope (fewer _ envelope waits)

/-- Opening queues gives a request queues of its own. -/
theorem Flow.opens [DecidableEq ι] (flow : Flow options calls queues log place subscriptions)
    {who : ι} {own : Queues} {later : Workplace} (capacity : Nat)
    (new : own.messages = place.messages.length)
    (messages : later.messages = place.messages ++ [({ capacity } : Queue Envelope)]) :
    Flow options calls (Function.update queues who (some own)) log later subscriptions := by
  have longer : later.messages.length = place.messages.length + 1 := by
    rw [messages, List.length_append]
    rfl
  have same : ∀ number, Queue.waiting later.messages number =
      Queue.waiting place.messages number := by
    intro number
    rw [messages, Queue.waiting_append]
  have older : ∀ other others, other ≠ who →
      Function.update queues who (some own) other = some others → queues other = some others := by
    intro other others different has
    rwa [Function.update_of_ne different] at has
  have ofWho : ∀ others, Function.update queues who (some own) who = some others →
      others = own := by
    intro others has
    rw [Function.update_self] at has
    exact (Option.some.inj has).symm
  refine ⟨flow.grow (by omega), ?_, ?_, ?_, ?_⟩
  · intro other others has
    by_cases mine : other = who
    · subst mine
      rw [ofWho others has]
      omega
    · have := flow.inside other others (older other others mine has)
      omega
  · intro first second firstQueues secondQueues different hasFirst hasSecond
    by_cases mine : first = who
    · subst mine
      have := flow.inside second secondQueues (older _ _ (Ne.symm different) hasSecond)
      rw [ofWho firstQueues hasFirst]
      omega
    by_cases others : second = who
    · subst others
      have := flow.inside first firstQueues (older _ _ different hasFirst)
      rw [ofWho secondQueues hasSecond]
      omega
    · exact flow.apart first second firstQueues secondQueues different
        (older _ _ mine hasFirst) (older _ _ others hasSecond)
  · intro other others has subscription member feeds
    by_cases mine : other = who
    · subst mine
      have := flow.bound subscription member
      rw [ofWho others has] at feeds
      omega
    · exact flow.loyal other others (older _ _ mine has) subscription member feeds
  · intro other others has envelope waits
    rw [same] at waits
    by_cases mine : other = who
    · subst mine
      have missing : place.messages[place.messages.length]? = none :=
        List.getElem?_eq_none (Nat.le_refl _)
      rw [ofWho others has, new, Queue.waiting_of_none missing] at waits
      cases waits
    · exact flow.waiting other others (older _ _ mine has) envelope waits

/-- A request subscribes its response topic with its own queues. -/
theorem Flow.subscribe (flow : Flow options calls queues log place subscriptions) {who : ι}
    {own : Queues} (has : queues who = some own) (group : String) :
    Flow options calls queues log place (subscriptions ++
      [{ subject := subject (calls who), queue := group
         delivery := delivery options (calls who) own }]) where
  toInOrder := flow.toInOrder.subscribe (flow.inside who own has) _ group
  inside := flow.inside
  apart := flow.apart
  waiting := flow.waiting
  loyal other others hasOther subscription member feeds := by
    rcases List.mem_append.mp member with older | new
    · exact flow.loyal other others hasOther subscription older feeds
    rw [List.mem_singleton.mp new] at feeds ⊢
    by_cases mine : who = other
    · subst mine
      exact ⟨rfl, rfl, nofun, nofun⟩
    · exact absurd feeds (flow.apart who other own others mine has hasOther)

/-- The flow stays when one subscription changes and stays loyal to whom it was. -/
theorem Flow.change (flow : Flow options calls queues log place subscriptions) {handle : Nat}
    {change : Subscription → Subscription}
    (same : ∀ subscription, (change subscription).delivery = subscription.delivery)
    (delivers : ∀ subscription, subscriptions[handle]? = some subscription →
      ∀ activity, (change subscription).busy = some activity →
        ∃ message, activity = Link.handle .core options subscription.delivery message)
    (loyal : ∀ subscription, subscriptions[handle]? = some subscription →
      ∀ who, Loyal options log (calls who) subscription →
        Loyal options log (calls who) (change subscription)) :
    Flow options calls queues log place (subscriptions.modify handle change) where
  toInOrder := flow.toInOrder.change same delivers
  inside := flow.inside
  apart := flow.apart
  waiting := flow.waiting
  loyal who own has subscription member feeds := by
    rcases mem_of_mem_modify member with older | ⟨older, found, rfl⟩
    · exact flow.loyal who own has subscription older feeds
    · rw [same] at feeds
      exact loyal older found who
        (flow.loyal who own has older (List.mem_of_getElem? found) feeds)

/-- The flow stays when a delivery loop gets a signal. -/
theorem Flow.signal (flow : Flow options calls queues log place subscriptions) (handle : Nat)
    (signal : DeliveryLoop → DeliveryLoop)
    (same : ∀ loop, (signal loop).arrived = loop.arrived) :
    Flow options calls queues log place (subscriptions.modify handle fun subscription =>
      { subscription with loop := signal subscription.loop }) := by
  refine flow.change (fun _ => rfl) ?_ ?_
  · exact fun older there => flow.delivers older (List.mem_of_getElem? there)
  · refine fun older there who loyal => ⟨loyal.subject, loyal.format, ?_, loyal.busy⟩
    rw [same]
    exact loyal.arrived

/-! ### What happens beside the turns of requests -/

/-- What the loop does next is with messages that have arrived. -/
theorem arrived_of_next? {loop later : DeliveryLoop} {action : DeliveryLoop.Action}
    (acts : loop.next? = some (action, later)) :
    (∀ message ∈ later.arrived, message ∈ loop.arrived) ∧
      ∀ message, action = .handle message → message ∈ loop.arrived := by
  unfold DeliveryLoop.next? at acts
  split at acts
  · split at acts
    · cases acts
      exact ⟨fun _ member => member, nofun⟩
    split at acts
    · cases acts
      exact ⟨fun _ member => member, nofun⟩
    split at acts
    · rename_i message rest waiting
      cases acts
      rw [waiting]
      refine ⟨fun _ member => List.mem_cons_of_mem _ member, ?_⟩
      rintro _ ⟨⟩
      exact List.mem_cons_self
    split at acts
    · cases acts
      exact ⟨fun _ member => member, nofun⟩
    · cases acts
  · split at acts
    · rename_i message rest waiting
      cases acts
      rw [waiting]
      refine ⟨fun _ member => List.mem_cons_of_mem _ member, ?_⟩
      rintro _ ⟨⟩
      exact List.mem_cons_self
    · cases acts
      exact ⟨fun _ member => member, nofun⟩
  · cases acts

/-- The calls of a run are plain: bases without wildcards and plain identifiers. -/
def ArePlain (calls : ι → RequestCall) : Prop :=
  ∀ who, Topic.IsPlainBase (calls who).base ∧ Subject.IsPlainId (calls who).envelope.requestId

/-- A message that arrives at a loyal subscription was sent to its request. -/
theorem Loyal.arrive (plain : ArePlain calls) {who : ι} {subscription : Subscription}
    {handle : Nat} {message : Message} (loyal : Loyal options log (calls who) subscription)
    (arrived : .incident (.arrive handle message) ∈ log)
    (taken : Subject.Matches subscription.subject message.subject) :
    Loyal options log (calls who)
      { subscription with loop := subscription.loop.arrive message } where
  subject := loyal.subject
  format := loyal.format
  busy := loyal.busy
  arrived other member := by
    change other ∈ (subscription.loop.arrive message).arrived at member
    unfold DeliveryLoop.arrive at member
    split at member
    · rcases List.mem_append.mp member with older | new
      · exact loyal.arrived other older
      · rw [loyal.subject] at taken
        rw [List.mem_singleton.mp new]
        exact ⟨handle, arrived,
          eq_of_matches_responseSubject (plain who).1 (plain who).2 taken⟩
    · exact loyal.arrived other member

/-- A loyal subscription goes on with what was sent to its request. -/
theorem Loyal.act {call : RequestCall} {subscription : Subscription} {action : DeliveryLoop.Action}
    {loop : DeliveryLoop} (loyal : Loyal options log call subscription)
    (acts : subscription.loop.next? = some (action, loop)) :
    Loyal options log call { subscription with
      loop, busy := undertaking options subscription.delivery action } where
  subject := loyal.subject
  format := loyal.format
  arrived message member := loyal.arrived message ((arrived_of_next? acts).1 message member)
  busy activity working := by
    obtain ⟨message, acting, same⟩ := undertaking_eq_some working
    exact ⟨message, loyal.arrived message ((arrived_of_next? acts).2 message acting), same⟩

/-- The flow stays when a delivery goes on: a loop that feeds the queue of a request is busy with a
message that was sent to it. -/
theorem Flow.deliver {supply : Nat → String} {world between : CoreLink} {handle : Nat}
    {subscription : Subscription} {question : Link.interface.work.Ask}
    {resume : Link.interface.work.Answer question → Dialogue Link.interface.work Unit}
    {answer : Link.interface.work.Answer question}
    (flow : Flow options calls queues log world.place world.subscriptions)
    (found : world.subscriptions[handle]? = some subscription)
    (working : subscription.busy = some (.ask question resume))
    (answered : Answers supply question world answer between) :
    Flow options calls queues log between.place (between.subscriptions.modify handle
      fun subscription => { subscription with busy := remaining (resume answer) }) ∧
      between.client = world.client := by
  have member := List.mem_of_getElem? found
  obtain ⟨message, delivering⟩ := flow.delivers subscription member _ working
  obtain ⟨ended, client, subscriptions, length, waiting⟩ := answers_of_delivery delivering answered
  have delivered : Flow options calls queues log between.place between.subscriptions := by
    rw [subscriptions]
    refine ⟨flow.grow (Nat.le_of_eq length.symm),
      fun who own has => length ▸ flow.inside who own has, flow.apart, flow.loyal,
      fun who own has envelope waits => ?_⟩
    rcases waiting own.messages envelope waits with older | ⟨feeds, -⟩
    · exact flow.waiting who own has envelope older
    have loyal := flow.loyal who own has subscription member feeds.symm
    obtain ⟨sentMessage, sent, same⟩ := loyal.busy _ working
    obtain ⟨-, -, -, -, waitingSent⟩ := answers_of_delivery same answered
    rcases waitingSent own.messages envelope waits with older | ⟨-, read⟩
    · exact flow.waiting who own has envelope older
    · exact ⟨sentMessage, sent, loyal.format ▸ read⟩
  refine ⟨delivered.change (fun _ => rfl) ?_ ?_, client⟩
  · intro older there activity busy
    rw [ended] at busy
    cases busy
  · intro older there who loyal
    refine ⟨loyal.subject, loyal.format, loyal.arrived, fun activity busy => ?_⟩
    rw [ended] at busy
    cases busy

/-- **What happens beside the turns of requests keeps the flow**, and touches no registry. -/
theorem Flow.incident (plain : ArePlain calls) {supply : Nat → String} {world after : CoreLink}
    {what : Incident} (flow : Flow options calls queues log world.place world.subscriptions)
    (happened : Happens supply options what world after) :
    Flow options calls queues (log ++ [.incident what]) after.place after.subscriptions ∧
      after.client = world.client := by
  have onward := flow.append [.incident what]
  cases what with
  | arrive handle message =>
    obtain ⟨subscription, found, taken, rfl⟩ := happened
    refine ⟨onward.change (fun _ => rfl) ?_ ?_, rfl⟩
    · intro older there
      exact onward.delivers older (List.mem_of_getElem? there)
    · intro older there who loyal
      cases found.symm.trans there
      exact loyal.arrive plain (List.mem_append_right _ (List.mem_singleton_self _)) taken
  | turn handle =>
    obtain ⟨subscription, action, loop, found, idle, acts, rfl⟩ := happened
    refine ⟨onward.change (fun _ => rfl) ?_ ?_, rfl⟩
    · intro older _ activity working
      obtain ⟨message, -, same⟩ := undertaking_eq_some working
      exact ⟨message, same⟩
    · intro older there who loyal
      cases found.symm.trans there
      exact loyal.act acts
  | deliver handle =>
    obtain ⟨subscription, question, resume, answer, between, found, working, answered, rfl⟩ :=
      happened
    exact onward.deliver found working answered
  | close handle =>
    cases happened
    exact ⟨onward.signal handle (fun loop => { loop with closed := true }) fun _ => rfl, rfl⟩
  | tick milliseconds =>
    cases happened
    exact ⟨onward.takes rfl fun _ _ waits => waits, rfl⟩

end MessageBus.Nats.Inquiry

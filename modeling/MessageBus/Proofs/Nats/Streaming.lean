/-
**Deliveries of a client over streams.** Subscribe and unsubscribe calls one after another, carried
out with a plain session and the management of streams.

* `wire`, `carry` — what the calls talk to there, and how they are carried out.
* `Bench`, `bench` — a client, and the deliveries that its session has started and ended. A delivery
  that is asked to stop does so; everything else may fail.
* `PutBack` — when the subscription of a topic was last taken out, it was put back.
* `Tended` — what the registry and the deliveries are to each other; `Tends` — what calls do to
  that.
* `course_stop`, `course_subscribe` — all that may come of ending a subscription and of a new one.
* `registered_iff_running` — **a topic is registered exactly if its delivery runs, unless its
  subscription was put back**, and that takes a deletion of its consumer that failed.
-/

import MessageBus.Proofs.Nats.PrivateConsumer
import MessageBus.Proofs.Nats.Sequence

namespace MessageBus.Nats.JetStream

open Client (State Operation enter call inSequence release stopPrevious_eq unsubscribeTopic_eq
  subscribeTopic subscribeTopics unsubscribeTopics withConnection stopPrevious)

/-! ### Calls over streams -/

/-- What the calls of a client over streams talk to. -/
abbrev wire : Interface := (Client.sections ConsumerSubscription).sum base

/-- Carries out what a call asks. -/
def carry (options : Options) : (question : (Client.backend ConsumerSubscription).Ask) →
    Dialogue wire ((Client.backend ConsumerSubscription).Answer question)
  | .inl question => .ask (I := wire) (.inl question) .done
  | .inr c => (carryOut options c).right

/-- A client over streams, and the deliveries of its session. -/
structure Bench where
  /-- The client's own state. -/
  client : State ConsumerSubscription := {}
  /-- The deliveries started so far, each with its topic. -/
  issued : List (Nat × String) := []
  /-- The deliveries that were stopped. -/
  ended : List Nat := []

/-- A delivery of the topic runs. -/
def Bench.Runs (world : Bench) (topic : String) : Prop :=
  ∃ handle, (handle, topic) ∈ world.issued ∧ handle ∉ world.ended

/-- The topic has a subscription in the registry. -/
def Bench.Registers (world : Bench) (topic : String) : Prop :=
  (world.client.registry.lookup topic).isSome = true

/-- A delivery is started under a new handle. -/
def Bench.issue (world : Bench) (handle : Nat) (topic : String) : Bench :=
  { world with issued := world.issued ++ [(handle, topic)] }

/-- A delivery is stopped. -/
def Bench.close (world : Bench) (handle : Nat) : Bench :=
  { world with ended := handle :: world.ended }

/-- What a section leaves. -/
def Bench.enter (world : Bench) (question : Client.Section ConsumerSubscription) : Bench :=
  { world with client := (world.client.answer question).2 }

/-- A client over streams whose calls come one after another. A delivery that is asked to stop does
so, and no delivery ends otherwise; whatever else is asked of the server may fail. -/
def bench : Scene wire Bench Empty where
  answers
    | .inl question, world, answer, after =>
      answer = (world.client.answer question).1 ∧ after = world.enter question
    | .inr (.inl (.subscribe _ _ _ delivery)), world, .ok handle, after =>
      handle ∉ world.issued.map Prod.fst ∧ after = world.issue handle delivery.topic
    | .inr (.inl (.stop handle)), world, answer, after =>
      answer = .ok () ∧ after = world.close handle
    | .inr _, world, _, after => after = world
  happens _ _ _ := False

variable {options : Options} {world between after : Bench} {log rest : List (Moment wire Bench)}
  {topic other : String} {back : String → Bool}

/-! ### What was taken out and put back -/

/-- Whether a moment takes the subscription of the topic out or puts it back. -/
def mark? (topic : String) (moment : Moment wire Bench) : Option Bool :=
  match moment.question with
  | .inl (.take taken) => if taken = topic then some false else none
  | .inl (.restore restored _) => if restored = topic then some true else none
  | _ => none

/-- Whether the subscription of the topic was put back when it was last taken out. -/
def lastMark? (topic : String) (log : List (Moment wire Bench)) : Option Bool :=
  (log.filterMap (mark? topic)).getLast?

/-- When the subscription of the topic was last taken out, it was put back. -/
def PutBack (topic : String) (log : List (Moment wire Bench)) : Prop :=
  lastMark? topic log = some true

/-- What was put back last, after some moments. -/
def later (log : List (Moment wire Bench)) (back : String → Bool) (topic : String) : Bool :=
  (lastMark? topic log).getD (back topic)

/-- The server refused to delete the consumer of the topic, which no queue group shares. -/
def Undeleted (options : Options) (topic : String) (log : List (Moment wire Bench)) : Prop :=
  options.queueGroup = "" ∧ ∃ stream error,
    (⟨.inr (.inr (.deleteConsumer stream
      (consumerName options.durable options.clientId (topicToSubject topic)))), .error error⟩ :
      Dialogue.Exchange wire) ∈ log.map Moment.exchange

theorem lastMark?_append :
    lastMark? topic (log ++ rest) = (lastMark? topic rest).or (lastMark? topic log) := by
  unfold lastMark?
  rw [List.filterMap_append, List.getLast?_append]

theorem later_append : later (log ++ rest) back = later rest (later log back) := by
  funext topic
  unfold later
  rw [lastMark?_append]
  cases lastMark? topic rest <;> rfl

theorem later_of_unmarked (unmarked : ∀ topic, lastMark? topic log = none) :
    later log back = back := by
  funext topic
  unfold later
  rw [unmarked]
  rfl

theorem lastMark?_take {answer : Option ConsumerSubscription} :
    lastMark? other [⟨world, .inl (.take topic), answer⟩] =
      if topic = other then some false else none := by
  by_cases same : topic = other <;> simp [lastMark?, mark?, same]

theorem lastMark?_restore {subscription : ConsumerSubscription} :
    lastMark? other [⟨world, .inl (.restore topic subscription), ()⟩] =
      if topic = other then some true else none := by
  by_cases same : topic = other <;> simp [lastMark?, mark?, same]

theorem later_of_mark {up : Bool}
    (mark : ∀ other, lastMark? other log = if topic = other then some up else none) :
    later log back = Function.update back topic up := by
  funext other
  rw [later, mark, Function.update_apply]
  by_cases same : topic = other
  · rw [if_pos same, if_pos same.symm]
    rfl
  · rw [if_neg same, if_neg (Ne.symm same)]
    rfl

theorem later_take {answer : Option ConsumerSubscription} :
    later [⟨world, .inl (.take topic), answer⟩] back = Function.update back topic false :=
  later_of_mark fun _ => lastMark?_take

theorem later_restore {subscription : ConsumerSubscription} :
    later [⟨world, .inl (.restore topic subscription), ()⟩] back =
      Function.update back topic true :=
  later_of_mark fun _ => lastMark?_restore

theorem not_putBack_take {answer : Option ConsumerSubscription} :
    ¬ PutBack other [⟨world, .inl (.take topic), answer⟩] := by
  unfold PutBack
  rw [lastMark?_take]
  split <;> simp

theorem Undeleted.of_subset (undeleted : Undeleted options topic log)
    (subset : ∀ moment ∈ log, moment ∈ rest) : Undeleted options topic rest := by
  obtain ⟨alone, stream, error, member⟩ := undeleted
  obtain ⟨moment, inside, same⟩ := List.mem_map.mp member
  exact ⟨alone, stream, error, List.mem_map.mpr ⟨moment, subset moment inside, same⟩⟩

/-! ### The registry and the deliveries -/

/-- What the registry and the deliveries are to each other, given which subscriptions were put back
last. -/
structure Tended (options : Options) (back : String → Bool) (world : Bench) : Prop where
  /-- Deliveries have handles of their own. -/
  handles : (world.issued.map Prod.fst).Nodup
  /-- Only deliveries that were started are stopped. -/
  ended : ∀ handle ∈ world.ended, handle ∈ world.issued.map Prod.fst
  /-- A registered subscription has a delivery of its topic, which was stopped exactly if the
  subscription was put back. -/
  registered : ∀ {topic subscription}, world.client.registry.lookup topic = some subscription →
    (subscription.delivery, topic) ∈ world.issued ∧
      (subscription.delivery ∈ world.ended ↔ back topic = true)
  /-- Its consumer reads the subject of the topic. -/
  consumer : ∀ {topic subscription}, world.client.registry.lookup topic = some subscription →
    ∃ stream, subscription.spec =
      ConsumerSpec.of options stream (topicToSubject topic) options.queueGroup
  /-- A delivery that runs is that of a registered subscription. -/
  running : ∀ {handle topic}, (handle, topic) ∈ world.issued → handle ∉ world.ended →
    ∃ subscription, world.client.registry.lookup topic = some subscription ∧
      subscription.delivery = handle
  /-- Nothing was put back for a topic that is not registered. -/
  vacant : ∀ {topic}, world.client.registry.lookup topic = none → back topic = false

section Tended

variable {handle : Nat} {subscription : ConsumerSubscription}

/-- A delivery is for one topic. -/
theorem Tended.topic_unique (tended : Tended options back world)
    (issued : (handle, topic) ∈ world.issued) (issuedToo : (handle, other) ∈ world.issued) :
    topic = other :=
  (Prod.ext_iff.mp (List.inj_on_of_nodup_map tended.handles issued issuedToo rfl)).2

/-- **The registry says what runs** unless a subscription was put back. -/
theorem Tended.registers_iff_runs (tended : Tended options back world) (topic : String) :
    (world.Registers topic ↔ world.Runs topic) ↔ back topic = false := by
  unfold Bench.Registers Bench.Runs
  cases found : world.client.registry.lookup topic with
  | none =>
    have idle : ¬ ∃ handle, (handle, topic) ∈ world.issued ∧ handle ∉ world.ended := by
      rintro ⟨handle, issued, runs⟩
      obtain ⟨subscription, registered, -⟩ := tended.running issued runs
      rw [found] at registered
      cases registered
    simpa [tended.vacant found] using idle
  | some subscription =>
    obtain ⟨issued, closed⟩ := tended.registered found
    have runs : (∃ handle, (handle, topic) ∈ world.issued ∧ handle ∉ world.ended) ↔
        subscription.delivery ∉ world.ended := by
      refine ⟨?_, fun runs => ⟨_, issued, runs⟩⟩
      rintro ⟨handle, issued, runs⟩
      obtain ⟨other, registered, rfl⟩ := tended.running issued runs
      rw [found] at registered
      cases registered
      exact runs
    rw [runs, closed]
    simp

/-- A topic without a subscription stays without one when it is taken out. -/
theorem Tended.absent (tended : Tended options back world)
    (missing : world.client.registry.lookup topic = none) :
    Tended options (Function.update back topic false) (world.enter (.take topic)) := by
  have same : Function.update back topic false = back := by
    rw [← tended.vacant missing, Function.update_eq_self]
  have kept : (world.enter (.take topic)) = world :=
    congrArg (fun registry => { world with client := { world.client with registry } })
      (Client.without_of_lookup_none missing)
  rwa [same, kept]

/-- The subscription of a topic is taken out and its delivery stopped. -/
theorem Tended.stop (tended : Tended options back world)
    (found : world.client.registry.lookup topic = some subscription) :
    Tended options (Function.update back topic false)
      ((world.enter (.take topic)).close subscription.delivery) := by
  obtain ⟨issued, -⟩ := tended.registered found
  have taken := State.lookup_take world.client topic
  have kept : ∀ {other current}, (world.client.answer (.take topic)).2.registry.lookup other =
      some current → other ≠ topic ∧ world.client.registry.lookup other = some current := by
    intro other current registered
    rw [taken] at registered
    split at registered
    · cases registered
    · exact ⟨‹_›, registered⟩
  refine ⟨tended.handles, ?_, ?_, ?_, ?_, ?_⟩
  · refine List.forall_mem_cons.mpr ⟨List.mem_map.mpr ⟨_, issued, rfl⟩, tended.ended⟩
  · intro other current registered
    obtain ⟨apart, registered⟩ := kept registered
    obtain ⟨issuedOther, closed⟩ := tended.registered registered
    have apartHandles : current.delivery ≠ subscription.delivery := fun same =>
      apart (tended.topic_unique issuedOther (same ▸ issued))
    refine ⟨issuedOther, ?_⟩
    rw [Function.update_of_ne apart]
    show current.delivery ∈ subscription.delivery :: world.ended ↔ _
    rw [List.mem_cons, or_iff_right apartHandles, closed]
  · intro other current registered
    exact tended.consumer (kept registered).2
  · intro handle other issuedOther runs
    obtain ⟨apart, runs⟩ := List.ne_and_not_mem_of_not_mem_cons runs
    obtain ⟨current, registered, rfl⟩ := tended.running issuedOther runs
    refine ⟨current, ?_, rfl⟩
    show (world.client.answer (.take topic)).2.registry.lookup other = _
    rw [taken, if_neg ?_, registered]
    rintro rfl
    rw [found] at registered
    cases registered
    exact apart rfl
  · intro other missing
    rw [Function.update_apply]
    split
    · rfl
    · rename_i apart
      refine tended.vacant ?_
      rw [← missing]
      show _ = (world.client.answer (.take topic)).2.registry.lookup other
      rw [taken, if_neg apart]

/-- A subscription whose delivery was stopped is put back. -/
theorem Tended.restore (tended : Tended options back world)
    (found : world.client.registry.lookup topic = some subscription) :
    Tended options (Function.update back topic true)
      (((world.enter (.take topic)).close subscription.delivery).enter
        (.restore topic subscription)) := by
  have stopped := tended.stop found
  have taken := State.lookup_take world.client topic
  have restored : ∀ other, (((world.enter (.take topic)).close subscription.delivery).enter
      (.restore topic subscription)).client.registry.lookup other =
        world.client.registry.lookup other := by
    intro other
    have absent := (taken topic).trans (if_pos rfl)
    refine (State.lookup_restore _ topic other subscription absent).trans ?_
    split
    case isTrue same => rw [same, found]
    case isFalse apart => exact (taken other).trans (if_neg apart)
  refine ⟨tended.handles, stopped.ended, ?_, ?_, ?_, ?_⟩
  · intro other current registered
    rw [restored] at registered
    by_cases same : other = topic
    · subst same
      rw [found] at registered
      cases registered
      rw [Function.update_self]
      exact ⟨(tended.registered found).1, iff_of_true List.mem_cons_self rfl⟩
    · obtain ⟨issued, closed⟩ := stopped.registered
        (((taken other).trans (if_neg same)).trans registered)
      rw [Function.update_of_ne same] at closed ⊢
      exact ⟨issued, closed⟩
  · intro other current registered
    rw [restored] at registered
    exact tended.consumer registered
  · intro handle other issued runs
    simp only [restored]
    exact tended.running issued (List.ne_and_not_mem_of_not_mem_cons runs).2
  · intro other missing
    rw [restored] at missing
    have apart : other ≠ topic := by
      rintro rfl
      rw [found] at missing
      cases missing
    rw [Function.update_of_ne apart]
    exact tended.vacant missing

theorem nodup_issue (nodup : (world.issued.map Prod.fst).Nodup)
    (fresh : handle ∉ world.issued.map Prod.fst) (topic : String) :
    ((world.issue handle topic).issued.map Prod.fst).Nodup := by
  show ((world.issued ++ [(handle, topic)]).map Prod.fst).Nodup
  rw [List.map_append]
  exact nodup.append (List.nodup_singleton handle) (by simpa using fresh)

theorem mem_issue {issued : Nat × String} :
    issued ∈ (world.issue handle topic).issued ↔ issued ∈ world.issued ∨ issued = (handle, topic) :=
  List.mem_append.trans (or_congr_right List.mem_singleton)

/-- A delivery is started and stopped at once. -/
theorem Tended.drop (tended : Tended options back world)
    (fresh : handle ∉ world.issued.map Prod.fst) :
    Tended options back ((world.issue handle topic).close handle) where
  handles := nodup_issue tended.handles fresh topic
  ended := by
    refine List.forall_mem_cons.mpr ⟨List.mem_map.mpr ⟨_, mem_issue.mpr (.inr rfl), rfl⟩, ?_⟩
    intro closed member
    obtain ⟨issued, inside, same⟩ := List.mem_map.mp (tended.ended closed member)
    exact List.mem_map.mpr ⟨issued, mem_issue.mpr (.inl inside), same⟩
  registered {other current} registered := by
    obtain ⟨issued, closed⟩ := tended.registered registered
    have apart : current.delivery ≠ handle := fun same =>
      fresh (List.mem_map.mpr ⟨_, issued, same⟩)
    refine ⟨mem_issue.mpr (.inl issued), ?_⟩
    show current.delivery ∈ handle :: world.ended ↔ _
    rw [List.mem_cons, or_iff_right apart, closed]
  consumer := tended.consumer
  running {current other} issued runs := by
    obtain ⟨apart, runs⟩ := List.ne_and_not_mem_of_not_mem_cons runs
    rcases mem_issue.mp issued with issued | same
    · exact tended.running issued runs
    · exact absurd (Prod.ext_iff.mp same).1 apart
  vacant := tended.vacant

/-- A topic without a subscription gets a new one. -/
theorem Tended.subscribe (tended : Tended options back world)
    (missing : world.client.registry.lookup topic = none)
    (fresh : subscription.delivery ∉ world.issued.map Prod.fst)
    (reads : ∃ stream, subscription.spec =
      ConsumerSpec.of options stream (topicToSubject topic) options.queueGroup) :
    Tended options back ((world.issue subscription.delivery topic).enter
      (.register topic subscription)) := by
  have registers : ∀ other, ((world.issue subscription.delivery topic).enter
      (.register topic subscription)).client.registry.lookup other =
        if other = topic then some subscription else world.client.registry.lookup other :=
    fun other => State.lookup_register world.client topic other subscription
  refine ⟨nodup_issue tended.handles fresh topic, ?_, ?_, ?_, ?_, ?_⟩
  · intro closed member
    obtain ⟨issued, inside, same⟩ := List.mem_map.mp (tended.ended closed member)
    exact List.mem_map.mpr ⟨issued, mem_issue.mpr (.inl inside), same⟩
  · intro other current registered
    rw [registers] at registered
    split at registered
    case isTrue same =>
      cases registered
      subst same
      refine ⟨mem_issue.mpr (.inr rfl), ?_⟩
      rw [tended.vacant missing]
      exact iff_of_false (fun member => fresh (tended.ended _ member)) Bool.false_ne_true
    case isFalse apart =>
      obtain ⟨issued, closed⟩ := tended.registered registered
      exact ⟨mem_issue.mpr (.inl issued), closed⟩
  · intro other current registered
    rw [registers] at registered
    split at registered
    case isTrue same =>
      cases registered
      exact same ▸ reads
    case isFalse => exact tended.consumer registered
  · intro handle other issued runs
    simp only [registers]
    rcases mem_issue.mp issued with issued | same
    · obtain ⟨current, registered, rfl⟩ := tended.running issued runs
      have apart : other ≠ topic := by
        rintro rfl
        rw [missing] at registered
        cases registered
      exact ⟨current, (if_neg apart).trans registered, rfl⟩
    · obtain ⟨rfl, rfl⟩ := Prod.mk.inj same
      exact ⟨subscription, if_pos rfl, rfl⟩
  · intro other missing
    rw [registers] at missing
    split at missing
    · cases missing
    · exact tended.vacant missing

end Tended

/-! ### What may come of the calls on the connection -/

section Courses

variable {α : Type} {value : α}

theorem course_question {question : wire.Ask} {resume : wire.Answer question → Dialogue wire α}
    (course : bench.Course (.ask question resume) world log value after) :
    ∃ answer next rest, log = ⟨world, question, answer⟩ :: rest ∧
      bench.answers question world answer next ∧
      bench.Course (resume answer) next rest value after :=
  (Scene.course_ask_still fun incident => incident.elim).mp course

theorem course_section {question : Client.Section ConsumerSubscription}
    {resume : question.Answer → Dialogue (Client.backend ConsumerSubscription) α}
    (course : bench.Course (((enter question).bind resume).translate (carry options)) world log
      value after) :
    ∃ rest, log = ⟨world, .inl question, (world.client.answer question).1⟩ :: rest ∧
      bench.Course ((resume (world.client.answer question).1).translate (carry options))
        (world.enter question) rest value after := by
  obtain ⟨answer, next, rest, rfl, ⟨rfl, rfl⟩, course⟩ := course_question course
  exact ⟨rest, rfl, course⟩

theorem course_call {c : Connection.Call ConsumerSubscription}
    {resume : c.Answer → Dialogue (Client.backend ConsumerSubscription) α}
    (course : bench.Course (((call c).bind resume).translate (carry options)) world log value
      after) :
    ∃ first answer between rest, log = first ++ rest ∧
      bench.Course (carryOut options c).right world first answer between ∧
      bench.Course ((resume answer).translate (carry options)) between rest value after := by
  have carried : (call c).translate (carry options) = (carryOut options c).right :=
    Dialogue.translate_ask_done (carry options) (.inr c)
  rw [Dialogue.translate_bind, carried] at course
  obtain ⟨first, answer, between, rest, rfl, called, further⟩ := Scene.course_bind.mp course
  exact ⟨first, answer, between, rest, rfl, called, further⟩

/-- What comes of ending a subscription: its delivery is stopped, and an error is that of deleting
its consumer, which no queue group shares. -/
structure Stopped (subscription : ConsumerSubscription) (world : Bench)
    (log : List (Moment wire Bench)) (outcome : BusResult Unit) (after : Bench) : Prop where
  closed : after = world.close subscription.delivery
  unmarked : ∀ topic, lastMark? topic log = none
  failed : ∀ {error}, outcome = .error error → subscription.spec.owned = true ∧
    (⟨.inr (.inr (.deleteConsumer subscription.spec.stream subscription.spec.name)),
      .error error⟩ : Dialogue.Exchange wire) ∈ log.map Moment.exchange

theorem course_stop {subscription : ConsumerSubscription} {outcome : BusResult Unit}
    (course : bench.Course (carryOut options (.stop subscription)).right world log outcome after) :
    Stopped subscription world log outcome after := by
  obtain ⟨_, between, _, rfl, ⟨rfl, rfl⟩, stopped⟩ := course_question course
  change bench.Course (if _ then _ else _ : Dialogue base _).right _ _ _ _ at stopped
  split at stopped
  case isTrue owned =>
    obtain ⟨answer, _, _, rfl, same, deleted⟩ := course_question stopped
    obtain ⟨rfl, rfl, rfl⟩ := Scene.course_done.mp deleted
    refine ⟨same, fun _ => rfl, ?_⟩
    rintro error rfl
    exact ⟨owned, List.mem_cons_of_mem _ List.mem_cons_self⟩
  case isFalse =>
    obtain ⟨rfl, rfl, rfl⟩ := Scene.course_done.mp stopped
    exact ⟨rfl, fun _ => rfl, nofun⟩

/-- What comes of a subscription through a stream. -/
inductive Subscribed (options : Options) (subject queue topic : String) (world : Bench) :
    BusResult ConsumerSubscription → Bench → Prop
  /-- There is no stream, or the session refuses a delivery. -/
  | refused (error : BusError) : Subscribed options subject queue topic world (.error error) world
  /-- The consumer cannot be created, and the delivery is stopped. -/
  | dropped (error : BusError) {handle : Nat} (fresh : handle ∉ world.issued.map Prod.fst) :
    Subscribed options subject queue topic world (.error error)
      ((world.issue handle topic).close handle)
  /-- The delivery has a consumer. -/
  | bound (stream : String) {handle : Nat} (fresh : handle ∉ world.issued.map Prod.fst) :
    Subscribed options subject queue topic world
      (.ok ⟨handle, ConsumerSpec.of options stream subject queue⟩) (world.issue handle topic)

theorem course_subscribe {connection : Nat} {subject queue : String} {delivery : Delivery}
    {outcome : BusResult ConsumerSubscription}
    (course : bench.Course (carryOut options (.subscribe connection subject queue delivery)).right
      world log outcome after) :
    Subscribed options subject queue delivery.topic world outcome after ∧
      ∀ topic, lastMark? topic log = none := by
  obtain ⟨found, _, _, rfl, rfl, looked⟩ := course_question course
  obtain error | _ | stream := found
  · obtain ⟨rfl, rfl, rfl⟩ := Scene.course_done.mp looked
    exact ⟨.refused error, fun _ => rfl⟩
  · obtain ⟨rfl, rfl, rfl⟩ := Scene.course_done.mp looked
    exact ⟨.refused _, fun _ => rfl⟩
  obtain ⟨started, _, _, rfl, answered, listening⟩ := course_question looked
  obtain error | handle := started
  · obtain ⟨rfl, rfl, rfl⟩ := Scene.course_done.mp listening
    cases answered
    exact ⟨.refused error, fun _ => rfl⟩
  obtain ⟨fresh, rfl⟩ := answered
  obtain ⟨created, _, _, rfl, rfl, bound⟩ := course_question listening
  obtain error | _ := created
  · obtain ⟨_, _, _, rfl, ⟨rfl, rfl⟩, dropped⟩ := course_question bound
    obtain ⟨rfl, rfl, rfl⟩ := Scene.course_done.mp dropped
    exact ⟨.dropped error fresh, fun _ => rfl⟩
  · obtain ⟨rfl, rfl, rfl⟩ := Scene.course_done.mp bound
    exact ⟨.bound stream fresh, fun _ => rfl⟩

end Courses

/-! ### Calls one after another -/

/-- What a part of the calls does: it keeps the registry and the deliveries what they are to each
other, and puts a subscription back only if its consumer could not be deleted. -/
structure Tends (options : Options) (world : Bench) (log : List (Moment wire Bench))
    (after : Bench) : Prop where
  tended : ∀ {back}, Tended options back world → Tended options (later log back) after
  undeleted : ∀ {back topic}, Tended options back world → PutBack topic log →
    Undeleted options topic log

theorem tends_nil (world : Bench) : Tends options world [] world :=
  ⟨fun tended => tended, fun _ putBack => nomatch putBack⟩

theorem Tends.append (first : Tends options world log between)
    (further : Tends options between rest after) : Tends options world (log ++ rest) after := by
  refine ⟨fun tended => ?_, fun {back topic} tended putBack => ?_⟩
  · rw [later_append]
    exact further.tended (first.tended tended)
  · unfold PutBack at putBack
    rw [lastMark?_append] at putBack
    rcases Option.or_eq_some_iff.mp putBack with putBack | ⟨-, putBack⟩
    · exact (further.undeleted (first.tended tended) putBack).of_subset fun _ =>
        List.mem_append_right _
    · exact (first.undeleted tended putBack).of_subset fun _ => List.mem_append_left _

theorem Tends.of_unmarked (unmarked : ∀ topic, lastMark? topic log = none)
    (tended : ∀ {back}, Tended options back world → Tended options back after) :
    Tends options world log after := by
  refine ⟨fun before => ?_, fun {_ topic} _ putBack => ?_⟩
  · rw [later_of_unmarked unmarked]
    exact tended before
  · unfold PutBack at putBack
    rw [unmarked topic] at putBack
    cases putBack

/-- The subscription of a topic is ended, or it is put back. -/
theorem tends_release {α : Type} {ended value : α} {kept : BusError → α}
    (course : bench.Course ((release topic ended kept).translate (carry options)) world log value
      after) :
    Tends options world log after ∧
      ((∃ error, value = kept error) ∨ after.client.registry.lookup topic = none) := by
  obtain ⟨_, rfl, taken⟩ := course_section course
  rw [State.answer_take] at taken ⊢
  have vacated : (world.enter (.take topic)).client.registry.lookup topic = none :=
    (State.lookup_take world.client topic topic).trans (if_pos rfl)
  cases found : world.client.registry.lookup topic with
  | none =>
    rw [found] at taken
    obtain ⟨rfl, rfl, rfl⟩ := Scene.course_done.mp taken
    refine ⟨⟨fun tended => ?_, fun _ putBack => absurd putBack not_putBack_take⟩, .inr vacated⟩
    rw [later_take]
    exact tended.absent found
  | some subscription =>
    rw [found] at taken
    obtain ⟨first, outcome, between, rest, rfl, called, further⟩ := course_call taken
    obtain ⟨rfl, unmarked, failed⟩ := course_stop called
    rw [← List.singleton_append, ← List.append_assoc]
    have step : ∀ back, later ([⟨world, .inl (.take topic), some subscription⟩] ++ first) back =
        Function.update back topic false := fun back => by
      rw [later_append, later_of_unmarked unmarked, later_take]
    have marked : ∀ other, lastMark? other
        ([⟨world, .inl (.take topic), some subscription⟩] ++ first) =
          lastMark? other [⟨world, .inl (.take topic), some subscription⟩] := fun other => by
      rw [lastMark?_append, unmarked, Option.none_or]
    cases outcome with
    | ok _ =>
      obtain ⟨rfl, rfl, rfl⟩ := Scene.course_done.mp further
      rw [List.append_nil]
      refine ⟨⟨fun tended => ?_, fun {_ other} _ putBack => ?_⟩, .inr vacated⟩
      · rw [step]
        exact tended.stop found
      · unfold PutBack at putBack
        rw [marked] at putBack
        exact absurd putBack not_putBack_take
    | error error =>
      -- The delivery has stopped already when the subscription goes back into the registry.
      obtain ⟨_, rfl, restored⟩ := course_section further
      obtain ⟨rfl, rfl, rfl⟩ := Scene.course_done.mp restored
      refine ⟨⟨fun tended => ?_, fun {_ other} tended putBack => ?_⟩, .inl ⟨error, rfl⟩⟩
      · rw [later_append, step]
        refine (congrArg (Tended options · _) ?_).mpr (tended.restore found)
        exact later_restore.trans (Function.update_idem ..)
      · obtain ⟨stream, spec⟩ := tended.consumer found
        obtain ⟨owned, deleted⟩ := failed rfl
        have same : topic = other := by
          unfold PutBack at putBack
          rw [lastMark?_append, marked, lastMark?_take] at putBack
          by_contra apart
          rw [if_neg apart, Option.or_none] at putBack
          exact apart (by simpa using lastMark?_restore.symm.trans putBack)
        subst same
        rw [spec] at owned deleted
        refine Undeleted.of_subset ⟨(ConsumerSpec.owned_of ..).mp owned, _, error, deleted⟩
          fun moment member => ?_
        exact List.mem_append_left _ (List.mem_append_right _ member)

/-- A new subscription takes the place of the one before. -/
theorem tends_subscribeTopic {connection errors : Nat} {channel : Channel}
    {result : BusResult Unit}
    (course : bench.Course ((subscribeTopic options connection channel errors).translate
      (carry options)) world log result after) : Tends options world log after := by
  unfold subscribeTopic at course
  rw [Dialogue.bind_eq, Dialogue.translate_bind, stopPrevious_eq] at course
  obtain ⟨_, stopped, between, _, rfl, first, further⟩ := Scene.course_bind.mp course
  obtain ⟨tends, vacant⟩ := tends_release first
  refine tends.append ?_
  cases stopped with
  | error error =>
    obtain ⟨rfl, rfl, rfl⟩ := Scene.course_done.mp further
    exact tends_nil _
  | ok _ =>
    have missing : between.client.registry.lookup channel.topic = none :=
      vacant.resolve_left (by rintro ⟨error, same⟩; cases same)
    obtain ⟨_, subscribed, _, _, rfl, called, further⟩ := course_call further
    obtain ⟨outcome, unmarked⟩ := course_subscribe called
    cases outcome with
    | refused error =>
      obtain ⟨rfl, rfl, rfl⟩ := Scene.course_done.mp further
      exact (Tends.of_unmarked unmarked id).append (tends_nil _)
    | dropped error fresh =>
      obtain ⟨rfl, rfl, rfl⟩ := Scene.course_done.mp further
      exact (Tends.of_unmarked unmarked fun tended => tended.drop fresh).append (tends_nil _)
    | @bound stream handle fresh =>
      obtain ⟨_, rfl, registered⟩ := course_section further
      -- The topic is vacant, so the new subscription displaces none whose delivery would run on.
      have vacant : (between.issue handle channel.topic).client.registry.lookup channel.topic =
        none := missing
      rw [State.answer_register, vacant] at registered
      obtain ⟨rfl, rfl, rfl⟩ := Scene.course_done.mp registered
      refine Tends.of_unmarked (fun other => ?_) fun tended =>
        tended.subscribe missing fresh ⟨stream, rfl⟩
      rw [lastMark?_append, unmarked]
      rfl

theorem tends_subscribeTopics {connection errors : Nat} {channels : List Channel}
    {result : BusResult Unit}
    (course : bench.Course ((subscribeTopics options connection errors channels).translate
      (carry options)) world log result after) : Tends options world log after := by
  induction channels generalizing world log with
  | nil =>
    obtain ⟨rfl, rfl, rfl⟩ := Scene.course_done.mp course
    exact tends_nil _
  | cons channel channels ih =>
    unfold subscribeTopics at course
    rw [Dialogue.bind_eq, Dialogue.translate_bind] at course
    obtain ⟨_, subscribed, between, _, rfl, first, further⟩ := Scene.course_bind.mp course
    refine (tends_subscribeTopic first).append ?_
    cases subscribed with
    | error error =>
      obtain ⟨rfl, rfl, rfl⟩ := Scene.course_done.mp further
      exact tends_nil _
    | ok _ => exact ih further

theorem tends_unsubscribeTopics {topics : List String} {failures : List BusError}
    (course : bench.Course ((unsubscribeTopics topics).translate (carry options)) world log failures
      after) : Tends options world log after := by
  induction topics generalizing world log failures with
  | nil =>
    obtain ⟨rfl, rfl, rfl⟩ := Scene.course_done.mp course
    exact tends_nil _
  | cons topic topics ih =>
    unfold unsubscribeTopics at course
    rw [Dialogue.bind_eq, Dialogue.translate_bind, unsubscribeTopic_eq] at course
    obtain ⟨_, _, between, _, rfl, first, further⟩ := Scene.course_bind.mp course
    rw [Dialogue.bind_eq, Dialogue.translate_bind] at further
    obtain ⟨_, _, last, _, rfl, rest, ended⟩ := Scene.course_bind.mp further
    obtain ⟨rfl, rfl, rfl⟩ := Scene.course_done.mp ended
    rw [List.append_nil]
    exact (tends_release first).1.append (ih rest)

/-- A call looks at the session before anything else. -/
theorem tends_withConnection
    {next : Nat → Dialogue (Client.backend ConsumerSubscription) (BusResult Unit)}
    {result : BusResult Unit}
    (course : bench.Course ((withConnection next).translate (carry options)) world log result after)
    (tends : ∀ {connection rest}, bench.Course ((next connection).translate (carry options)) world
      rest result after → Tends options world rest after) : Tends options world log after := by
  obtain ⟨rest, rfl, looked⟩ := course_section course
  rw [← List.singleton_append]
  refine (Tends.of_unmarked (fun _ => rfl) id : Tends options world [_] world).append ?_
  match session : world.client.session with
  | .connected connection =>
    rw [show (world.client.answer .session).1 = .connected connection from session] at looked
    exact tends looked
  | .idle | .closed =>
    rw [show (world.client.answer .session).1 = _ from session] at looked
    obtain ⟨rfl, rfl, rfl⟩ := Scene.course_done.mp looked
    exact tends_nil _

theorem tends_activity {operation : Operation} {result : BusResult Unit}
    (course : bench.Course ((operation.activity options).translate (carry options)) world log result
      after) : Tends options world log after := by
  cases operation with
  | subscribe channels errors => exact tends_withConnection course tends_subscribeTopics
  | unsubscribe topics =>
    refine tends_withConnection course fun unsubscribed => ?_
    rw [Dialogue.bind_eq, Dialogue.translate_bind] at unsubscribed
    obtain ⟨_, _, between, _, rfl, first, ended⟩ := Scene.course_bind.mp unsubscribed
    obtain ⟨rfl, rfl, rfl⟩ := Scene.course_done.mp ended
    rw [List.append_nil]
    exact tends_unsubscribeTopics first

/-- **Every run of calls** keeps the registry and the deliveries what they are to each other. -/
theorem tends_inSequence {operations : List Operation} {results : List (BusResult Unit)}
    (course : bench.Course ((inSequence options operations).translate (carry options)) world log
      results after) : Tends options world log after := by
  induction operations generalizing world log results with
  | nil =>
    obtain ⟨rfl, rfl, rfl⟩ := Scene.course_done.mp course
    exact tends_nil _
  | cons operation operations ih =>
    unfold inSequence at course
    rw [Dialogue.bind_eq, Dialogue.translate_bind] at course
    obtain ⟨_, _, between, _, rfl, first, further⟩ := Scene.course_bind.mp course
    rw [Dialogue.bind_eq, Dialogue.translate_bind] at further
    obtain ⟨_, _, last, _, rfl, rest, ended⟩ := Scene.course_bind.mp further
    obtain ⟨rfl, rfl, rfl⟩ := Scene.course_done.mp ended
    rw [List.append_nil]
    exact (tends_activity first).append (ih rest)

/-! ### The end of all calls -/

theorem tended_start (session : Session) :
    Tended options (fun _ => false) { client := { session } } where
  handles := List.nodup_nil
  ended := nofun
  registered := nofun
  consumer := nofun
  running := nofun
  vacant _ := rfl

/-- **A topic is registered exactly if its delivery runs, unless its subscription was put back**,
whatever subscribe and unsubscribe calls come one after another and whatever fails beside the stops
of deliveries. A subscription is put back only if the server refused to delete its consumer, so the
two agree on every topic if no such deletion fails, and always for clients with a queue group. -/
theorem registered_iff_running {operations : List Operation} {session : Session}
    {results : List (BusResult Unit)}
    (course : bench.Course ((inSequence options operations).translate (carry options))
      { client := { session } } log results world) :
    (∀ topic, (world.Registers topic ↔ world.Runs topic) ↔ ¬ PutBack topic log) ∧
      (∀ topic, world.Runs topic → world.Registers topic) ∧
      ∀ topic, PutBack topic log → Undeleted options topic log := by
  have tends := tends_inSequence course
  have tended := tends.tended (tended_start session)
  refine ⟨fun topic => (tended.registers_iff_runs topic).trans ?_, fun topic runs => ?_,
    fun topic putBack => tends.undeleted (tended_start session) putBack⟩
  · unfold later PutBack
    cases lastMark? topic log with
    | none => simp
    | some putBack => cases putBack <;> simp
  · obtain ⟨handle, issued, runs⟩ := runs
    obtain ⟨subscription, registered, -⟩ := tended.running issued runs
    exact Option.isSome_iff_exists.mpr ⟨subscription, registered⟩

/-- Two topics were subscribed and unsubscribed, and one of them is still registered. -/
def halfReleased : Bench where
  client :=
    { session := .connected 0
      registry := [("a", ⟨0, ConsumerSpec.of {} "S" "a" ""⟩)] }
  issued := [(0, "a"), (1, "b")]
  ended := [1, 0]

theorem halfReleased_idle (topic : String) : ¬ halfReleased.Runs topic := by
  rintro ⟨handle, issued, runs⟩
  simp [halfReleased] at issued runs
  omega

/-- That comes of a server that refuses to delete the consumer of the topic. -/
theorem course_halfReleased :
    ∃ log results, bench.Course
      ((inSequence {} [.subscribe [⟨"a", 0⟩, ⟨"b", 1⟩] 0, .unsubscribe ["a", "b"]]).translate
        (carry {})) { client := { session := .connected 0 } } log results halfReleased :=
  ⟨_, _, Scene.course_ask.mpr ⟨_, Session.connected 0, _, _, rfl, .refl, ⟨rfl, rfl⟩,
    Scene.course_ask.mpr ⟨_, none, _, _, rfl, .refl, ⟨rfl, rfl⟩,
    Scene.course_ask.mpr ⟨_, .ok (some "S"), _, _, rfl, .refl, rfl,
    Scene.course_ask.mpr ⟨_, .ok 0, _, _, rfl, .refl, ⟨nofun, rfl⟩,
    Scene.course_ask.mpr ⟨_, .ok (), _, _, rfl, .refl, rfl,
    Scene.course_ask.mpr ⟨_, none, _, _, rfl, .refl, ⟨rfl, rfl⟩,
    Scene.course_ask.mpr ⟨_, none, _, _, rfl, .refl, ⟨rfl, rfl⟩,
    Scene.course_ask.mpr ⟨_, .ok (some "S"), _, _, rfl, .refl, rfl,
    Scene.course_ask.mpr ⟨_, .ok 1, _, _, rfl, .refl, ⟨by decide, rfl⟩,
    Scene.course_ask.mpr ⟨_, .ok (), _, _, rfl, .refl, rfl,
    Scene.course_ask.mpr ⟨_, none, _, _, rfl, .refl, ⟨rfl, rfl⟩,
    Scene.course_ask.mpr ⟨_, Session.connected 0, _, _, rfl, .refl, ⟨rfl, rfl⟩,
    Scene.course_ask.mpr ⟨_, some ⟨0, ConsumerSpec.of {} "S" "a" ""⟩, _, _, rfl, .refl, ⟨rfl, rfl⟩,
    Scene.course_ask.mpr ⟨_, .ok (), _, _, rfl, .refl, ⟨rfl, rfl⟩,
    Scene.course_ask.mpr ⟨_, .error .disabled, _, _, rfl, .refl, rfl,
    Scene.course_ask.mpr ⟨_, (), _, _, rfl, .refl, ⟨rfl, rfl⟩,
    Scene.course_ask.mpr ⟨_, some ⟨1, ConsumerSpec.of {} "S" "b" ""⟩, _, _, rfl, .refl, ⟨rfl, rfl⟩,
    Scene.course_ask.mpr ⟨_, .ok (), _, _, rfl, .refl, ⟨rfl, rfl⟩,
    Scene.course_ask.mpr ⟨_, .ok (), _, _, rfl, .refl, rfl, .done _ _⟩⟩⟩⟩⟩⟩⟩⟩⟩⟩⟩⟩⟩⟩⟩⟩⟩⟩⟩⟩

/-- The topic whose consumer could not be deleted is registered although its delivery has
stopped. -/
theorem registered_not_running :
    ∃ log results world, bench.Course
      ((inSequence {} [.subscribe [⟨"a", 0⟩, ⟨"b", 1⟩] 0, .unsubscribe ["a", "b"]]).translate
        (carry {})) { client := { session := .connected 0 } } log results world ∧
      world.Registers "a" ∧ ¬ world.Runs "a" := by
  obtain ⟨log, results, course⟩ := course_halfReleased
  exact ⟨log, results, _, course, rfl, halfReleased_idle "a"⟩

/-- It was put back because its consumer could not be deleted, and the other one was not. -/
theorem registered_iff_running_refused :
    ∃ log results world, bench.Course
      ((inSequence {} [.subscribe [⟨"a", 0⟩, ⟨"b", 1⟩] 0, .unsubscribe ["a", "b"]]).translate
        (carry {})) { client := { session := .connected 0 } } log results world ∧
      PutBack "a" log ∧ Undeleted {} "a" log ∧ ¬ PutBack "b" log := by
  obtain ⟨log, results, course⟩ := course_halfReleased
  obtain ⟨agree, -, undeleted⟩ := registered_iff_running course
  have putBack : PutBack "a" log := by
    by_contra kept
    exact halfReleased_idle "a" (((agree "a").mpr kept).mp rfl)
  refine ⟨log, results, _, course, putBack, undeleted "a" putBack, (agree "b").mp ?_⟩
  exact iff_of_false (by unfold Bench.Registers; decide) (halfReleased_idle "b")

end MessageBus.Nats.JetStream

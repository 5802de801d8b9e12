/-
**Delivery loops from their start to their end.** Messages reach the subscriber of a loop, and the
loop is told to stop or to drain, at any time and in any order.

* `Sight` — what is seen of a loop: what is done to it, and what it does; `reached`, `begun`,
  `returns` — the messages that have reached the subscriber, those whose handling has begun, and how
  many handlings have come to their end.
* `Subscription.Step`, `Subscription.History` — a loop does what `DeliveryLoop.next?` says whenever
  it is not busy; the handling of a message gets any answers.
* `DeliveryLoop.Moves` — what a loop does next, case by case.
* `Attends` — the invariant: what has begun and what waits is all that has reached the subscriber.
* `Faithful` — messages are handled one at a time, in order, and completely unless a stop comes.
* `hasHistories_of_run` — every subscription of a client at work has such a history.
* `deliveries_faithful` — **whatever the history of a loop is, it is faithful**.
-/

import MessageBus.Proofs.Nats.Station
import Mathlib.Data.List.Basic

namespace MessageBus.Nats

/-! ### What is seen of a loop -/

/-- One thing that is seen of a delivery loop. A message reaches its subscriber, it is asked to stop
or to drain, or the server closes the subscription. The handling of a message begins, goes on, and
comes to its end. The loop takes notice of a stop and ends, takes notice of a drain, or ends since
there are no more messages. -/
inductive Sight
  | reached (message : Message)
  | stopAsked
  | drainAsked
  | closed
  | began (message : Message)
  | continued
  | returned
  | stopped
  | drained
  | exhausted

namespace Sight

def reached? : Sight → Option Message
  | .reached message => some message
  | _ => none

def began? : Sight → Option Message
  | .began message => some message
  | _ => none

/-- Whether the handling of a message comes to its end. -/
def isReturn : Sight → Bool
  | .returned => true
  | _ => false

/-- What is seen when the handling of a message is left with this. -/
def ofLeft : Option (Dialogue Link.interface.work Unit) → Sight
  | some _ => .continued
  | none => .returned

end Sight

/-- What is seen when a loop does something and is left like this. -/
def DeliveryLoop.Action.sight (loop : DeliveryLoop) : DeliveryLoop.Action → Sight
  | .handle message => .began message
  | .leave => if loop.phase = .ended then .stopped else .drained
  | .finish => .exhausted

/-- The messages that have reached the subscriber, in order. -/
def reached (sights : List Sight) : List Message :=
  sights.filterMap Sight.reached?

/-- The messages whose handling has begun, in order. -/
def begun (sights : List Sight) : List Message :=
  sights.filterMap Sight.began?

/-- How many handlings have come to their end. -/
def returns (sights : List Sight) : Nat :=
  sights.countP Sight.isReturn

/-- One thing was seen right after some others. -/
def SeenAfter (before : List Sight) (sight : Sight) (sights : List Sight) : Prop :=
  before ++ [sight] <+: sights

section Sights

variable {before sights : List Sight} {sight last : Sight}

@[simp]
theorem reached_snoc : reached (sights ++ [sight]) = reached sights ++ sight.reached?.toList := by
  unfold reached
  rw [List.filterMap_append]
  cases shown : sight.reached? <;> simp [shown]

@[simp]
theorem begun_snoc : begun (sights ++ [sight]) = begun sights ++ sight.began?.toList := by
  unfold begun
  rw [List.filterMap_append]
  cases shown : sight.began? <;> simp [shown]

@[simp]
theorem returns_snoc : returns (sights ++ [sight]) = returns sights + sight.isReturn.toNat := by
  unfold returns
  rw [List.countP_append, List.countP_singleton]
  cases sight.isReturn <;> rfl

/-- What was seen after some others is the last thing, or was seen earlier. -/
theorem SeenAfter.cases (seen : SeenAfter before sight (sights ++ [last])) :
    before = sights ∧ sight = last ∨ SeenAfter before sight sights := by
  rcases List.prefix_concat_iff.mp seen with same | earlier
  · obtain ⟨rfl, ending⟩ := List.append_inj' same rfl
    exact .inl ⟨rfl, List.singleton_inj.mp ending⟩
  · exact .inr earlier

end Sights

/-! ### Histories -/

/-- What a subscription goes through, one thing at a time. Messages reach the subscriber while that
is open, a loop that is not busy does what it does next, and the handling of a message gets any
answers. -/
inductive Subscription.Step (style : Style) (options : Options) :
    Subscription → Sight → Subscription → Prop
  | reach {subscription : Subscription} (message : Message) (listens : subscription.loop.listens) :
      Step style options subscription (.reached message)
        { subscription with loop := subscription.loop.arrive message }
  | askStop (subscription : Subscription) : Step style options subscription .stopAsked
      { subscription with loop := { subscription.loop with stopping := true } }
  | askDrain (subscription : Subscription) : Step style options subscription .drainAsked
      { subscription with loop := { subscription.loop with draining := true } }
  | close (subscription : Subscription) : Step style options subscription .closed
      { subscription with loop := { subscription.loop with closed := true } }
  | turn {subscription : Subscription} {action : DeliveryLoop.Action} {loop : DeliveryLoop}
      (idle : subscription.busy = none) (acts : subscription.loop.next? = some (action, loop)) :
      Step style options subscription (action.sight loop) { subscription with
        loop, busy := Station.undertaking style options subscription.delivery action }
  | goOn {subscription : Subscription} {question : Link.interface.work.Ask}
      {resume : Link.interface.work.Answer question → Dialogue Link.interface.work Unit}
      (working : subscription.busy = some (.ask question resume))
      (answer : Link.interface.work.Answer question) :
      Step style options subscription (.ofLeft (CoreLink.remaining (resume answer)))
        { subscription with busy := CoreLink.remaining (resume answer) }

/-- What is seen of a subscription from its start on. -/
inductive Subscription.History (style : Style) (options : Options) :
    List Sight → Subscription → Prop
  | start (subject queue : String) (delivery : Delivery) :
      History style options [] { subject, queue, delivery }
  | step {sights : List Sight} {subscription later : Subscription} {sight : Sight}
      (history : History style options sights subscription)
      (step : subscription.Step style options sight later) :
      History style options (sights ++ [sight]) later

variable {style : Style} {options : Options} {subscription later : Subscription}
  {before sights : List Sight} {sight : Sight}

/-- What was seen was a step from what was there before. -/
theorem Subscription.History.seen (history : History style options sights subscription)
    (seen : SeenAfter before sight sights) :
    ∃ now next, History style options before now ∧ now.Step style options sight next := by
  -- it was the last step, or one of an earlier part of the history
  induction history with
  | start => cases List.append_eq_nil_iff.mp (List.prefix_nil.mp seen) |>.2
  | step history step ih =>
    rcases seen.cases with ⟨rfl, rfl⟩ | earlier
    · exact ⟨_, _, history, step⟩
    · exact ih earlier

/-! ### What a loop does next -/

/-- What a loop does next, with what is seen of that. -/
inductive DeliveryLoop.Moves (loop : DeliveryLoop) : Sight → DeliveryLoop → Prop
  /-- A stop goes before everything else. -/
  | stop (serving : loop.phase = .serving) (stopping : loop.stopping = true) :
      Moves loop .stopped { loop with phase := .ended }
  /-- A drain goes before messages. -/
  | drain (serving : loop.phase = .serving) (going : loop.stopping = false)
      (draining : loop.draining = true) : Moves loop .drained { loop with phase := .draining }
  /-- Without signals, the oldest message is handled. -/
  | serve {message : Message} {rest : List Message} (serving : loop.phase = .serving)
      (going : loop.stopping = false) (arrived : loop.arrived = message :: rest) :
      Moves loop (.began message) { loop with arrived := rest }
  /-- Without signals and messages, a closed subscription is the end. -/
  | close (serving : loop.phase = .serving) (going : loop.stopping = false)
      (nothing : loop.arrived = []) (closed : loop.closed = true) :
      Moves loop .exhausted { loop with phase := .ended }
  /-- After a drain, what has arrived is handled. -/
  | handOut {message : Message} {rest : List Message} (draining : loop.phase = .draining)
      (arrived : loop.arrived = message :: rest) :
      Moves loop (.began message) { loop with arrived := rest }
  /-- After a drain, there is an end when nothing is left. -/
  | finish (draining : loop.phase = .draining) (nothing : loop.arrived = []) :
      Moves loop .exhausted { loop with phase := .ended }

theorem DeliveryLoop.moves_of_next? {loop after : DeliveryLoop} {action : DeliveryLoop.Action}
    (acts : loop.next? = some (action, after)) : loop.Moves (action.sight after) after := by
  obtain ⟨phase, arrived, stopping, draining, closed⟩ := loop
  cases phase with
  | serving =>
    cases stopping with
    | true =>
      cases acts
      exact .stop rfl rfl
    | false =>
      cases draining with
      | true =>
        cases acts
        exact .drain rfl rfl rfl
      | false =>
        cases arrived with
        | cons message rest =>
          cases acts
          exact .serve rfl rfl rfl
        | nil =>
          cases closed with
          | true =>
            cases acts
            exact .close rfl rfl rfl rfl
          | false => cases acts
  | draining =>
    cases arrived with
    | cons message rest =>
      cases acts
      exact .handOut rfl rfl
    | nil =>
      cases acts
      exact .finish rfl rfl
  | ended => cases acts

/-- A loop waits only where there is nothing to do. -/
theorem DeliveryLoop.idle_of_next?_eq_none {loop : DeliveryLoop} (waits : loop.next? = none)
    (runs : loop.phase ≠ .ended) : loop.phase = .serving ∧ loop.arrived = [] ∧
      loop.stopping = false ∧ loop.draining = false ∧ loop.closed = false := by
  unfold DeliveryLoop.next? at waits
  grind

/-- The handling of a message is something to be busy with. -/
theorem isSome_remaining_handle (style : Style) (options : Options) (delivery : Delivery)
    (message : Message) :
    (CoreLink.remaining (Link.handle style options delivery message)).isSome := by
  unfold Link.handle Delivery.handle Delivery.forward
  cases unmarshal delivery.format message <;> rfl

/-! ### The invariant -/

/-- How far a loop is, by what was seen of it. -/
inductive Standing (sights : List Sight) (loop : DeliveryLoop) : Prop
  | serving (phase : loop.phase = .serving) (going : .stopped ∉ sights) (taking : .drained ∉ sights)
      (lasting : .exhausted ∉ sights)
  | draining (phase : loop.phase = .draining) (drained : .drained ∈ sights)
      (asked : .drainAsked ∈ sights) (going : .stopped ∉ sights) (lasting : .exhausted ∉ sights)
  | stopped (phase : loop.phase = .ended) (stopped : .stopped ∈ sights)
      (asked : .stopAsked ∈ sights) (taking : .drained ∉ sights) (lasting : .exhausted ∉ sights)
  | exhausted (phase : loop.phase = .ended) (exhausted : .exhausted ∈ sights)
      (nothing : loop.arrived = []) (going : .stopped ∉ sights)
      (cause : .drained ∈ sights ∧ .drainAsked ∈ sights ∨ .closed ∈ sights)

/-- What was seen of a subscription, and how it is. -/
structure Attends (sights : List Sight) (subscription : Subscription) : Prop where
  /-- What has begun and what waits is all that has reached the subscriber. -/
  account : reached sights = begun sights ++ subscription.loop.arrived
  /-- All handlings but the one that the loop is busy with have come to their end. -/
  handled : (begun sights).length = returns sights + subscription.busy.toList.length
  /-- A loop at its end is not busy. -/
  rest : subscription.loop.phase = .ended → subscription.busy = none
  /-- The signals are those that were asked for. -/
  stop : .stopAsked ∈ sights ↔ subscription.loop.stopping = true
  drain : .drainAsked ∈ sights ↔ subscription.loop.draining = true
  closed : .closed ∈ sights ↔ subscription.loop.closed = true
  standing : Standing sights subscription.loop

/-- Whether what is seen is the loop taking notice of a signal, or its end. -/
def Sight.Turns (sight : Sight) : Prop :=
  sight = .stopped ∨ sight = .drained ∨ sight = .exhausted

/-- A loop stays where it is as long as nothing else is seen. -/
theorem Standing.snoc {loop after : DeliveryLoop} (standing : Standing sights loop)
    (quiet : ¬ sight.Turns) (phase : after.phase = loop.phase)
    (arrived : loop.phase = .ended → after.arrived = loop.arrived) :
    Standing (sights ++ [sight]) after := by
  simp only [Sight.Turns, not_or] at quiet
  obtain ⟨notStopped, notDrained, notExhausted⟩ := quiet
  have old {other : Sight} (different : sight ≠ other) (absent : other ∉ sights) :
      other ∉ sights ++ [sight] := by
    simp [absent, different.symm]
  have kept {other : Sight} (member : other ∈ sights) : other ∈ sights ++ [sight] :=
    List.mem_append_left _ member
  cases standing with
  | serving here going taking lasting =>
    exact .serving (phase.trans here) (old notStopped going) (old notDrained taking)
      (old notExhausted lasting)
  | draining here drained asked going lasting =>
    exact .draining (phase.trans here) (kept drained) (kept asked) (old notStopped going)
      (old notExhausted lasting)
  | stopped here stopped asked taking lasting =>
    exact .stopped (phase.trans here) (kept stopped) (kept asked) (old notDrained taking)
      (old notExhausted lasting)
  | exhausted here exhausted nothing going cause =>
    exact .exhausted (phase.trans here) (kept exhausted) ((arrived here).trans nothing)
      (old notStopped going) (cause.imp (And.imp kept kept) kept)

theorem attends_start (subject queue : String) (delivery : Delivery) :
    Attends [] { subject, queue, delivery } where
  account := rfl
  handled := rfl
  rest := nofun
  stop := by simp
  drain := by simp
  closed := by simp
  standing := .serving rfl nofun nofun nofun

theorem Attends.reach (attends : Attends sights subscription) (message : Message)
    (listens : subscription.loop.listens) :
    Attends (sights ++ [.reached message])
      { subscription with loop := subscription.loop.arrive message } := by
  have arrives : subscription.loop.arrive message =
      { subscription.loop with arrived := subscription.loop.arrived ++ [message] } := if_pos listens
  have serving : subscription.loop.phase = .serving := by
    unfold DeliveryLoop.listens at listens
    simp only [Bool.and_eq_true, decide_eq_true_eq] at listens
    exact listens.1
  rw [arrives]
  exact {
    account := by simp [attends.account, Sight.reached?, Sight.began?]
    handled := by simpa [Sight.began?, Sight.isReturn] using attends.handled
    rest := attends.rest
    stop := by simpa using attends.stop
    drain := by simpa using attends.drain
    closed := by simpa using attends.closed
    standing := by
      refine attends.standing.snoc (by simp [Sight.Turns]) rfl ?_
      intro ended
      cases serving.symm.trans ended }

/-- A signal is given: it changes nothing else. -/
theorem Attends.signal {signal : DeliveryLoop} (attends : Attends sights subscription)
    (phase : signal.phase = subscription.loop.phase)
    (arrived : signal.arrived = subscription.loop.arrived)
    (quiet : sight.reached? = none ∧ sight.began? = none ∧ sight.isReturn = false ∧ ¬ sight.Turns)
    (stop : signal.stopping = true ↔ sight = .stopAsked ∨ subscription.loop.stopping = true)
    (drain : signal.draining = true ↔ sight = .drainAsked ∨ subscription.loop.draining = true)
    (closed : signal.closed = true ↔ sight = .closed ∨ subscription.loop.closed = true) :
    Attends (sights ++ [sight]) { subscription with loop := signal } := by
  obtain ⟨unreached, unbegun, lasting, still⟩ := quiet
  exact {
    account := by simp [attends.account, unreached, unbegun, arrived]
    handled := by simpa [unbegun, lasting] using attends.handled
    rest ended := attends.rest (phase.symm.trans ended)
    stop := by rw [List.mem_append, List.mem_singleton, attends.stop, stop, or_comm, eq_comm]
    drain := by rw [List.mem_append, List.mem_singleton, attends.drain, drain, or_comm, eq_comm]
    closed := by rw [List.mem_append, List.mem_singleton, attends.closed, closed, or_comm, eq_comm]
    standing := attends.standing.snoc still phase fun _ => arrived }

theorem Attends.goOn {left : Option (Dialogue Link.interface.work Unit)}
    (attends : Attends sights subscription) (working : subscription.busy ≠ none) :
    Attends (sights ++ [.ofLeft left]) { subscription with busy := left } := by
  have busy : subscription.busy.toList.length = 1 := by
    obtain ⟨activity, same⟩ := Option.ne_none_iff_exists'.mp working
    rw [same]
    rfl
  have handled := attends.handled
  rw [busy] at handled
  have going : subscription.loop.phase ≠ .ended := fun ended => working (attends.rest ended)
  have quiet : ¬ (Sight.ofLeft left).Turns := by cases left <;> simp [Sight.ofLeft, Sight.Turns]
  exact {
    account := by cases left <;> simp [attends.account, Sight.ofLeft, Sight.reached?, Sight.began?]
    handled := by cases left <;> simp [handled, Sight.ofLeft, Sight.began?, Sight.isReturn]
    rest ended := absurd ended going
    stop := by cases left <;> simpa [Sight.ofLeft] using attends.stop
    drain := by cases left <;> simpa [Sight.ofLeft] using attends.drain
    closed := by cases left <;> simpa [Sight.ofLeft] using attends.closed
    standing := attends.standing.snoc quiet rfl fun _ => rfl }

/-- What every move leaves: the message that begins is the oldest that waits, and signals stay. -/
structure DeliveryLoop.Moves.Frame (loop : DeliveryLoop) (sight : Sight) (after : DeliveryLoop) :
    Prop where
  arrived : loop.arrived = sight.began?.toList ++ after.arrived
  stopping : after.stopping = loop.stopping
  draining : after.draining = loop.draining
  closed : after.closed = loop.closed
  quiet : sight.reached? = none ∧ sight.isReturn = false ∧
    sight ≠ .stopAsked ∧ sight ≠ .drainAsked ∧ sight ≠ .closed
  ended : after.phase = .ended → sight.began? = none

theorem DeliveryLoop.Moves.frame {loop after : DeliveryLoop} (moves : loop.Moves sight after) :
    Frame loop sight after := by
  cases moves with
  | stop | drain | close | finish =>
    exact ⟨rfl, rfl, rfl, rfl, ⟨rfl, rfl, nofun, nofun, nofun⟩, fun _ => rfl⟩
  | serve going _ arrived | handOut going arrived =>
    refine ⟨arrived, rfl, rfl, rfl, ⟨rfl, rfl, nofun, nofun, nofun⟩, fun ended => ?_⟩
    cases going.symm.trans ended

theorem Standing.of_serving {loop : DeliveryLoop} (standing : Standing sights loop)
    (serving : loop.phase = .serving) :
    .stopped ∉ sights ∧ .drained ∉ sights ∧ .exhausted ∉ sights := by
  cases standing with
  | serving _ going taking lasting => exact ⟨going, taking, lasting⟩
  | draining phase | stopped phase | exhausted phase => cases serving.symm.trans phase

theorem Standing.of_draining {loop : DeliveryLoop} (standing : Standing sights loop)
    (draining : loop.phase = .draining) :
    (.drained ∈ sights ∧ .drainAsked ∈ sights) ∧ .stopped ∉ sights := by
  cases standing with
  | draining _ drained asked going _ => exact ⟨⟨drained, asked⟩, going⟩
  | serving phase | stopped phase | exhausted phase => cases draining.symm.trans phase

/-- After a move the loop is as far as was seen. -/
theorem Attends.standing_of_moves {after : DeliveryLoop} (attends : Attends sights subscription)
    (moves : subscription.loop.Moves sight after) : Standing (sights ++ [sight]) after := by
  cases moves with
  | stop serving stopping =>
    obtain ⟨-, taking, lasting⟩ := attends.standing.of_serving serving
    refine .stopped rfl (by simp) ?_ (by simp [taking]) (by simp [lasting])
    exact List.mem_append_left _ (attends.stop.mpr stopping)
  | drain serving going draining =>
    obtain ⟨unstopped, -, lasting⟩ := attends.standing.of_serving serving
    refine .draining rfl (by simp) ?_ (by simp [unstopped]) (by simp [lasting])
    exact List.mem_append_left _ (attends.drain.mpr draining)
  | serve serving going arrived =>
    refine attends.standing.snoc (by simp [Sight.Turns]) rfl fun ended => ?_
    cases serving.symm.trans ended
  | handOut draining arrived =>
    refine attends.standing.snoc (by simp [Sight.Turns]) rfl fun ended => ?_
    cases draining.symm.trans ended
  | close serving going nothing closed =>
    obtain ⟨unstopped, -, -⟩ := attends.standing.of_serving serving
    refine .exhausted rfl (by simp) nothing (by simp [unstopped]) (.inr ?_)
    exact List.mem_append_left _ (attends.closed.mpr closed)
  | finish draining nothing =>
    obtain ⟨⟨drained, asked⟩, unstopped⟩ := attends.standing.of_draining draining
    refine .exhausted rfl (by simp) nothing (by simp [unstopped]) (.inl ?_)
    exact ⟨List.mem_append_left _ drained, List.mem_append_left _ asked⟩

theorem Attends.turn {after : DeliveryLoop} {busy : Option (Dialogue Link.interface.work Unit)}
    (attends : Attends sights subscription) (idle : subscription.busy = none)
    (moves : subscription.loop.Moves sight after)
    (takes : busy.toList.length = sight.began?.toList.length) :
    Attends (sights ++ [sight]) { subscription with loop := after, busy } := by
  have frame := moves.frame
  obtain ⟨unreached, lasting, notStop, notDrain, notClosed⟩ := frame.quiet
  have handled := attends.handled
  rw [idle, Option.toList_none, List.length_nil, Nat.add_zero] at handled
  exact {
    account := by simp [attends.account, frame.arrived, unreached]
    handled := by simp [handled, lasting, takes]
    rest := by
      intro ended
      rw [frame.ended ended] at takes
      cases busy with
      | none => rfl
      | some activity => cases takes
    stop := by simp [attends.stop, frame.stopping, notStop.symm]
    drain := by simp [attends.drain, frame.draining, notDrain.symm]
    closed := by simp [attends.closed, frame.closed, notClosed.symm]
    standing := attends.standing_of_moves moves }

/-- A loop is busy after an action exactly if the handling of a message has begun. -/
theorem length_undertaking (style : Style) (options : Options) (delivery : Delivery)
    (action : DeliveryLoop.Action) (loop : DeliveryLoop) :
    (Station.undertaking style options delivery action).toList.length =
      (action.sight loop).began?.toList.length := by
  cases action with
  | handle message =>
    have begins := isSome_remaining_handle style options delivery message
    obtain ⟨activity, same⟩ := Option.isSome_iff_exists.mp begins
    have working : Station.undertaking style options delivery (.handle message) = some activity :=
      same
    rw [working]
    rfl
  | leave =>
    change 0 = (if loop.phase = .ended then Sight.stopped else .drained).began?.toList.length
    split <;> rfl
  | finish => rfl

/-- **Every step keeps the invariant.** -/
theorem Attends.step (attends : Attends sights subscription)
    (step : subscription.Step style options sight later) : Attends (sights ++ [sight]) later := by
  cases step with
  | reach message listens => exact attends.reach message listens
  | askStop =>
    exact attends.signal rfl rfl ⟨rfl, rfl, rfl, by simp [Sight.Turns]⟩ (by simp) (by simp)
      (by simp)
  | askDrain =>
    exact attends.signal rfl rfl ⟨rfl, rfl, rfl, by simp [Sight.Turns]⟩ (by simp) (by simp)
      (by simp)
  | close =>
    exact attends.signal rfl rfl ⟨rfl, rfl, rfl, by simp [Sight.Turns]⟩ (by simp) (by simp)
      (by simp)
  | turn idle acts =>
    exact attends.turn idle (DeliveryLoop.moves_of_next? acts) (length_undertaking _ _ _ _ _)
  | goOn working answer => exact attends.goOn (by simp [working])

/-- **The invariant holds throughout every history.** -/
theorem Subscription.History.attends (history : History style options sights subscription) :
    Attends sights subscription := by
  induction history with
  | start subject queue delivery => exact attends_start subject queue delivery
  | step _ step ih => exact ih.step step

/-! ### Faithful loops -/

/-- What may be seen of a delivery loop. -/
structure Faithful (sights : List Sight) (subscription : Subscription) : Prop where
  /-- The messages whose handling has begun are the first ones that have reached the subscriber, each
  once and in their order. -/
  order : begun sights <+: reached sights
  /-- They are handled one at a time: when a handling begins, all others have come to their end. -/
  alone : ∀ before message, SeenAfter before (.began message) sights →
    returns before = (begun before).length
  /-- Nothing reaches the subscriber when it has been closed, by the server or by the loop. -/
  closing : ∀ before message, SeenAfter before (.reached message) sights →
    .closed ∉ before ∧ .drained ∉ before ∧ .stopped ∉ before
  /-- A loop that has no more messages, since it was drained or closed by the server, has handled all
  that had reached the subscriber. -/
  whole : .exhausted ∈ sights →
    begun sights = reached sights ∧ returns sights = (begun sights).length
  /-- No handling begins once the loop has taken notice of a stop. -/
  silent : ∀ before message, SeenAfter before (.began message) sights → .stopped ∉ before
  /-- A stop that was asked for goes before a drain that was not taken notice of, before messages and
  before the end of a closed subscription. -/
  first : ∀ before sight, SeenAfter before sight sights → .stopAsked ∈ before → .drained ∉ before →
    sight ≠ .drained ∧ sight ≠ .exhausted ∧ ∀ message, sight ≠ .began message
  /-- A loop ends with a stop that was asked for, or without more messages after a drain that was
  asked for or after the server has closed the subscription. -/
  ends : subscription.ended →
    .stopped ∈ sights ∧ .stopAsked ∈ sights ∧ .drained ∉ sights ∧ .exhausted ∉ sights ∨
    .exhausted ∈ sights ∧ .stopped ∉ sights ∧
      (.drained ∈ sights ∧ .drainAsked ∈ sights ∨ .closed ∈ sights)
  /-- A loop that is not busy waits only where all messages are handled and no signal is given. -/
  waits : subscription.busy = none → subscription.loop.next? = none → ¬ subscription.ended →
    begun sights = reached sights ∧ .stopAsked ∉ sights ∧ .drainAsked ∉ sights ∧ .closed ∉ sights

theorem Attends.begun_eq (attends : Attends sights subscription)
    (nothing : subscription.loop.arrived = []) : begun sights = reached sights := by
  rw [attends.account, nothing, List.append_nil]

/-- A step in which a handling begins starts from an idle loop that has not taken notice of a stop,
and where a stop was asked for, a drain was taken notice of before. -/
theorem Attends.of_begins {message : Message} (attends : Attends before subscription)
    (step : subscription.Step style options sight later) (begins : sight.began? = some message) :
    subscription.busy = none ∧ .stopped ∉ before ∧ (.stopAsked ∈ before → .drained ∈ before) := by
  cases step with
  | reach | askStop | askDrain | close => cases begins
  | goOn working answer =>
    generalize CoreLink.remaining _ = left at begins
    cases left <;> cases begins
  | turn idle acts =>
    have moves := DeliveryLoop.moves_of_next? acts
    generalize DeliveryLoop.Action.sight _ _ = sight at moves begins
    cases moves with
    | stop | drain | close | finish => cases begins
    | serve serving going _ =>
      refine ⟨idle, (attends.standing.of_serving serving).1, fun asked => ?_⟩
      cases going.symm.trans (attends.stop.mp asked)
    | handOut draining _ =>
      obtain ⟨⟨drained, -⟩, unstopped⟩ := attends.standing.of_draining draining
      exact ⟨idle, unstopped, fun _ => drained⟩

/-- A step in which the loop takes notice of a drain, or comes to its end, does not pass over a
stop. -/
theorem Attends.of_leaves (attends : Attends before subscription)
    (step : subscription.Step style options sight later)
    (leaves : sight = .drained ∨ sight = .exhausted) (asked : .stopAsked ∈ before) :
    .drained ∈ before := by
  have stopping := attends.stop.mp asked
  cases step with
  | reach | askStop | askDrain | close => simp at leaves
  | goOn working answer =>
    generalize CoreLink.remaining _ = left at leaves
    cases left <;> simp [Sight.ofLeft] at leaves
  | turn idle acts =>
    have moves := DeliveryLoop.moves_of_next? acts
    generalize DeliveryLoop.Action.sight _ _ = sight at moves leaves
    cases moves with
    | stop | serve | handOut => simp at leaves
    | drain serving going _ => cases going.symm.trans stopping
    | close serving going _ _ => cases going.symm.trans stopping
    | finish draining _ => exact (attends.standing.of_draining draining).1.1

/-- A step in which a message reaches the subscriber starts from an open one. -/
theorem Attends.of_reaches {message : Message} (attends : Attends before subscription)
    (step : subscription.Step style options (.reached message) later) :
    .closed ∉ before ∧ .drained ∉ before ∧ .stopped ∉ before := by
  generalize same : Sight.reached message = sight at step
  cases step with
  | reach other listens =>
    unfold DeliveryLoop.listens at listens
    simp only [Bool.and_eq_true, decide_eq_true_eq, Bool.not_eq_true'] at listens
    obtain ⟨serving, unclosed⟩ := listens
    obtain ⟨unstopped, taking, -⟩ := attends.standing.of_serving serving
    refine ⟨fun closed => ?_, taking, unstopped⟩
    cases unclosed.symm.trans (attends.closed.mp closed)
  | askStop | askDrain | close => cases same
  | goOn working answer =>
    generalize CoreLink.remaining _ = left at same
    cases left <;> cases same
  | turn idle acts =>
    have frame := (DeliveryLoop.moves_of_next? acts).frame
    rw [← same] at frame
    cases frame.quiet.1

theorem Attends.whole (attends : Attends sights subscription) (exhausted : .exhausted ∈ sights) :
    begun sights = reached sights ∧ returns sights = (begun sights).length := by
  cases attends.standing with
  | serving _ _ _ lasting | draining _ _ _ _ lasting | stopped _ _ _ _ lasting =>
    exact absurd exhausted lasting
  | exhausted phase _ nothing _ _ =>
    have handled := attends.handled
    rw [attends.rest phase] at handled
    exact ⟨attends.begun_eq nothing, handled.symm⟩

theorem Attends.ends (attends : Attends sights subscription) (ended : subscription.ended) :
    .stopped ∈ sights ∧ .stopAsked ∈ sights ∧ .drained ∉ sights ∧ .exhausted ∉ sights ∨
      .exhausted ∈ sights ∧ .stopped ∉ sights ∧
        (.drained ∈ sights ∧ .drainAsked ∈ sights ∨ .closed ∈ sights) := by
  have phase : subscription.loop.phase = .ended := of_decide_eq_true ended
  cases attends.standing with
  | serving here | draining here => cases phase.symm.trans here
  | stopped _ stopped asked taking lasting => exact .inl ⟨stopped, asked, taking, lasting⟩
  | exhausted _ exhausted _ going cause => exact .inr ⟨exhausted, going, cause⟩

theorem Attends.waits (attends : Attends sights subscription)
    (waits : subscription.loop.next? = none) (lasting : ¬ subscription.ended) :
    begun sights = reached sights ∧
      .stopAsked ∉ sights ∧ .drainAsked ∉ sights ∧ .closed ∉ sights := by
  have runs : subscription.loop.phase ≠ .ended := fun ended => lasting (decide_eq_true ended)
  obtain ⟨-, nothing, going, taking, unclosed⟩ := DeliveryLoop.idle_of_next?_eq_none waits runs
  refine ⟨attends.begun_eq nothing, ?_, ?_, ?_⟩
  · simp [attends.stop, going]
  · simp [attends.drain, taking]
  · simp [attends.closed, unclosed]

/-- **Every history is one of a faithful loop.** -/
theorem Subscription.History.faithful (history : History style options sights subscription) :
    Faithful sights subscription where
  order := ⟨_, history.attends.account.symm⟩
  alone := by
    intro before message seen
    obtain ⟨now, next, earlier, step⟩ := history.seen seen
    obtain ⟨idle, -, -⟩ := earlier.attends.of_begins step rfl
    have handled := earlier.attends.handled
    rw [idle] at handled
    exact handled.symm
  closing := by
    intro before message seen
    obtain ⟨now, next, earlier, step⟩ := history.seen seen
    exact earlier.attends.of_reaches step
  whole := history.attends.whole
  silent := by
    intro before message seen
    obtain ⟨now, next, earlier, step⟩ := history.seen seen
    exact (earlier.attends.of_begins step rfl).2.1
  first := by
    intro before sight seen asked taking
    obtain ⟨now, next, earlier, step⟩ := history.seen seen
    refine ⟨?_, ?_, ?_⟩
    · intro drained
      exact taking (earlier.attends.of_leaves step (.inl drained) asked)
    · intro exhausted
      exact taking (earlier.attends.of_leaves step (.inr exhausted) asked)
    · intro message begins
      have began : sight.began? = some message := congrArg Sight.began? begins
      exact taking ((earlier.attends.of_begins step began).2.2 asked)
  ends := history.attends.ends
  waits _ := history.attends.waits

/-! ### The subscriptions of a client at work -/

/-- The message that an incident brings to a subscription. -/
def CoreLink.Incident.brings? (handle : Nat) : CoreLink.Incident → Option Message
  | .arrive brought message => if brought = handle then some message else none
  | _ => none

/-- A subscription has a history in which no other messages reach it than these, in their order. -/
def Subscription.HasHistory (style : Style) (options : Options) (messages : List Message)
    (subscription : Subscription) : Prop :=
  ∃ sights, History style options sights subscription ∧ (reached sights).Sublist messages

/-- All subscriptions of a link have histories, with the messages that were brought to them. -/
def CoreLink.HasHistories (style : Style) (options : Options) (brought : Nat → List Message)
    (link : CoreLink) : Prop :=
  ∀ (handle : Nat) (subscription : Subscription), link.subscriptions[handle]? = some subscription →
    subscription.HasHistory style options (brought handle)

section Client

variable {messages more : List Message} {brought after : Nat → List Message} {handle : Nat}
  {link next : CoreLink} {supply : Nat → String}

theorem Subscription.HasHistory.append (has : subscription.HasHistory style options messages)
    (more : List Message) : subscription.HasHistory style options (messages ++ more) := by
  obtain ⟨sights, history, among⟩ := has
  exact ⟨sights, history, among.trans (List.sublist_append_left _ _)⟩

theorem Subscription.HasHistory.step (has : subscription.HasHistory style options messages)
    (step : subscription.Step style options sight later) :
    later.HasHistory style options (messages ++ sight.reached?.toList) := by
  obtain ⟨sights, history, among⟩ := has
  refine ⟨_, history.step step, ?_⟩
  rw [reached_snoc]
  exact among.append (List.Sublist.refl _)

/-- A step in which no message reaches the subscriber. -/
theorem Subscription.HasHistory.quiet (has : subscription.HasHistory style options messages)
    (step : subscription.Step style options sight later) (unreached : sight.reached? = none) :
    later.HasHistory style options messages := by
  have goes := has.step step
  rwa [unreached, Option.toList_none, List.append_nil] at goes

/-- Subscriptions have histories after a change of one that has. -/
theorem CoreLink.HasHistories.modify {change : Subscription → Subscription}
    (has : link.HasHistories style options brought)
    (grows : ∀ other, ∃ more, after other = brought other ++ more)
    (own : ∀ subscription, link.subscriptions[handle]? = some subscription →
      subscription.HasHistory style options (brought handle) →
        (change subscription).HasHistory style options (after handle)) :
    (link.modify handle change).HasHistories style options after := by
  intro other later found
  by_cases same : handle = other
  · subst same
    obtain ⟨subscription, there, rfl⟩ :=
      Option.map_eq_some_iff.mp ((List.getElem?_modify_eq _ _ _).symm.trans found)
    exact own subscription there (has handle subscription there)
  · have there := (List.getElem?_modify_ne change link.subscriptions same).symm.trans found
    obtain ⟨more, grown⟩ := grows other
    rw [grown]
    exact (has other later there).append more

theorem CoreLink.HasHistories.same (brought : Nat → List Message) (other : Nat) :
    ∃ more, brought other = brought other ++ more :=
  ⟨[], (List.append_nil _).symm⟩

/-- **Answers keep histories**: they start subscriptions, and ask for stops and drains. -/
theorem CoreLink.HasHistories.answers {question : Link.interface.work.Ask}
    {answer : Link.interface.work.Answer question}
    (has : link.HasHistories style options brought)
    (answered : Answers supply question link answer next) :
    next.HasHistories style options brought := by
  cases question with
  | inr question =>
    obtain ⟨place, -, rfl⟩ := answered
    exact has
  | inl call =>
    cases call with
    | subscribe subject queue delivery =>
      cases answer with
      | error words =>
        cases answered
        exact has
      | ok started =>
        obtain ⟨-, rfl⟩ := answered
        intro handle subscription found
        by_cases older : handle < link.subscriptions.length
        · exact has handle subscription ((List.getElem?_append_left older).symm.trans found)
        · rw [List.getElem?_append_right (Nat.le_of_not_lt older)] at found
          have fresh := List.mem_singleton.mp (List.mem_of_getElem? found)
          exact fresh ▸ ⟨[], .start subject queue delivery, List.nil_sublist _⟩
    | signalStop stopped =>
      obtain ⟨-, rfl⟩ := answered
      exact has.modify (same brought) fun subscription _ has => has.quiet (.askStop _) rfl
    | signalDrain =>
      obtain ⟨-, rfl⟩ := answered
      intro handle later found
      obtain ⟨subscription, there, rfl⟩ :=
        Option.map_eq_some_iff.mp ((List.getElem?_map ..).symm.trans found)
      exact (has handle subscription there).quiet (.askDrain _) rfl
    | awaitEnd ended deadline =>
      obtain ⟨-, -, rfl⟩ := answered
      exact has
    | readCredentials | readSeed | dial | publish | store | flush | acknowledge | streamNames
    | streamSubjects | createStream | createConsumer | deleteConsumer =>
      cases answered
      exact has

/-- **Whatever happens keeps histories.** -/
theorem CoreLink.HasHistories.happens {incident : CoreLink.Incident}
    (has : link.HasHistories style options brought)
    (happened : Station.Happens style supply options incident link next) :
    next.HasHistories style options
      fun handle => brought handle ++ (incident.brings? handle).toList := by
  have grows (other : Nat) : ∃ more,
      brought other ++ (incident.brings? other).toList = brought other ++ more := ⟨_, rfl⟩
  cases incident with
  | arrive handle message =>
    cases happened
    refine has.modify grows fun subscription _ has => ?_
    by_cases listens : subscription.loop.listens
    · have reaches := has.step (.reach message listens)
      have brings : (CoreLink.Incident.arrive handle message).brings? handle = some message :=
        if_pos rfl
      rwa [brings]
    · have missed : subscription.loop.arrive message = subscription.loop := if_neg listens
      rw [missed]
      exact has.append _
  | turn handle =>
    obtain ⟨subscription, action, loop, found, idle, acts, rfl⟩ := happened
    refine has.modify grows fun other there has => ?_
    cases found.symm.trans there
    have frame := (DeliveryLoop.moves_of_next? acts).frame
    exact (has.quiet (.turn idle acts) frame.quiet.1).append _
  | deliver handle =>
    obtain ⟨subscription, question, resume, answer, between, found, working, answered, rfl⟩ :=
      happened
    refine (has.answers answered).modify grows fun other there has => ?_
    -- the answer has left the loop busy with the same handling
    obtain ⟨later, still, continues⟩ :=
      (CoreLink.stays_of_answers answered).subscriptions handle subscription found
    cases still.symm.trans there
    have goes := has.step (.goOn (continues.busy.trans working) answer)
    generalize CoreLink.remaining (resume answer) = left at goes ⊢
    have unreached : (Sight.ofLeft left).reached? = none := by cases left <;> rfl
    rw [unreached, Option.toList_none, List.append_nil] at goes
    exact goes.append _
  | close handle =>
    cases happened
    exact has.modify grows fun subscription _ has => (has.quiet (.close _) rfl).append _
  | tick milliseconds =>
    cases happened
    intro handle subscription found
    exact (has handle subscription found).append _

end Client

/-- The messages that were brought to a subscription, in order. -/
def broughtTo {Handle ι : Type} (handle : Nat)
    (log : List (Event ι (ScriptedServer.operating Handle) (Station Handle) CoreLink.Incident)) :
    List Message :=
  log.filterMap fun
    | .turn _ _ => none
    | .incident what => what.brings? handle

/-- **Every subscription of a client at work has a history**, whatever calls there are. -/
theorem hasHistories_of_run {Handle ι α : Type} [DecidableEq ι] {carrier : Carrier Handle}
    {supply : Nat → String} {start pool : ι → Dialogue (ScriptedServer.operating Handle) α}
    {world after : Station Handle}
    {log : List (Event ι (ScriptedServer.operating Handle) (Station Handle) CoreLink.Incident)}
    (run : (Station.scene carrier supply options).Run start world log pool after)
    (unused : world.link.subscriptions = []) :
    after.link.HasHistories carrier.style options fun handle => broughtTo handle log := by
  induction run with
  | start =>
    intro handle subscription found
    rw [unused] at found
    cases found
  | @turn log pool now later who question resume answer run asks answered ih =>
    have untold (handle : Nat) : broughtTo handle (log ++ [.turn who ⟨now, question, answer⟩]) =
        broughtTo handle log := by simp [broughtTo]
    simp only [untold]
    cases question with
    | inl question =>
      obtain ⟨-, rfl⟩ := answered
      exact ih
    | inr question =>
      obtain ⟨link, answered, rfl⟩ := answered
      exact ih.answers answered
  | @incident log pool now later what run happened ih =>
    obtain ⟨link, happened, rfl⟩ := happened
    have told (handle : Nat) : broughtTo handle (log ++ [.incident what]) =
        broughtTo handle log ++ (what.brings? handle).toList := by
      unfold broughtTo
      rw [List.filterMap_append]
      cases brings : what.brings? handle <;> simp [brings]
    simp only [told]
    exact ih.happens happened

/-- **Delivery loops are faithful**, whenever messages reach them and signals are given. All
subscriptions of a client at work are served by such loops, whatever calls take turns: what reaches
them are messages that were sent to them, in their order. -/
theorem deliveries_faithful {Handle ι α : Type} [DecidableEq ι] (carrier : Carrier Handle)
    (supply : Nat → String) (options : Options) :
    (∀ sights subscription, Subscription.History carrier.style options sights subscription →
      Faithful sights subscription) ∧
    ∀ (start pool : ι → Dialogue (ScriptedServer.operating Handle) α) (world after : Station Handle)
      (log : List (Event ι (ScriptedServer.operating Handle) (Station Handle) CoreLink.Incident)),
      (Station.scene carrier supply options).Run start world log pool after →
      world.link.subscriptions = [] →
      ∀ handle subscription, after.link.subscriptions[handle]? = some subscription →
        ∃ sights, Subscription.History carrier.style options sights subscription ∧
          Faithful sights subscription ∧ (reached sights).Sublist (broughtTo handle log) := by
  refine ⟨fun sights subscription history => history.faithful, ?_⟩
  intro start pool world after log run unused handle subscription found
  obtain ⟨sights, history, among⟩ := hasHistories_of_run run unused handle subscription found
  exact ⟨sights, history, history.faithful, among⟩

/-- A loop is told to drain while it is busy with the first of two messages, another one is told to
stop and to drain while a message waits, and a message reaches the subscription of a client. -/
theorem deliveries_faithful_drained :
    let delivery : Delivery := ⟨"orders", 0, 0, .native, false⟩
    let message (number : UInt8) : Message := { subject := "orders", payload := [number] }
    let draining : List Sight := [.reached (message 1), .began (message 1), .reached (message 2),
      .drainAsked, .returned, .drained, .began (message 2), .returned, .exhausted]
    let stopping : List Sight := [.reached (message 1), .drainAsked, .stopAsked, .stopped]
    let subscription (loop : DeliveryLoop) : Subscription :=
      { subject := "orders", queue := "", delivery, loop }
    (∃ loop, Subscription.History .core {} draining (subscription loop) ∧
      begun draining = [message 1, message 2] ∧ Faithful draining (subscription loop)) ∧
    (∃ loop, Subscription.History .core {} stopping (subscription loop) ∧
      begun stopping = [] ∧ Faithful stopping (subscription loop)) ∧
    ∃ (log : List (Event Unit (ScriptedServer.operating Nat) (Station Nat) CoreLink.Incident))
      (pool : Unit → Dialogue (ScriptedServer.operating Nat) Unit) (after : Station Nat)
      (sights : List Sight) (start : Unit → Dialogue (ScriptedServer.operating Nat) Unit),
      (Station.scene Carrier.core toString {}).Run start {} log pool after ∧
        broughtTo 0 log = [message 1] ∧
        ∃ loop, after.link.subscriptions[0]? = some (subscription loop) ∧
          Faithful sights (subscription loop) ∧ (reached sights).Sublist [message 1] := by
  intro delivery message draining stopping subscription
  have faithful := @deliveries_faithful Nat Unit Unit _ Carrier.core toString {}
  have opened : Subscription.History .core {} [] (subscription {}) := .start "orders" "" delivery
  have waiting := opened.step (.reach (message 1) rfl)
  refine ⟨?_, ?_, ?_⟩
  · have busy := (waiting.step (.turn rfl rfl)).step (.reach (message 2) rfl)
    have drained := ((busy.step (.askDrain _)).step (.goOn rfl true)).step (.turn rfl rfl)
    have ended := ((drained.step (.turn rfl rfl)).step (.goOn rfl true)).step (.turn rfl rfl)
    exact ⟨_, ended, rfl, faithful.1 _ _ ended⟩
  · have stopped := ((waiting.step (.askDrain _)).step (.askStop _)).step (.turn rfl rfl)
    exact ⟨_, stopped, rfl, faithful.1 _ _ stopped⟩
  · let start (_ : Unit) : Dialogue (ScriptedServer.operating Nat) Unit :=
      .ask (.inr (.inl (.subscribe "orders" "" delivery))) fun _ => .done ()
    have idle : (Station.scene Carrier.core toString {}).Run start {} [] start {} := .start
    have run := (idle.step () rfl (.ok 0) ⟨_, ⟨rfl, rfl⟩, rfl⟩).pass (.arrive 0 (message 1))
      ⟨_, rfl, rfl⟩
    obtain ⟨sights, -, loops, among⟩ := faithful.2 _ _ _ _ _ run rfl 0 _ rfl
    exact ⟨_, _, _, sights, _, run, rfl, _, rfl, loops, among⟩

end MessageBus.Nats

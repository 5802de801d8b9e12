/-
**What calls do with handles.** The handles of a NATS client while its calls take turns.

* `Depot`, `depot` — the client's own state and the handles given out so far; every subscription
  gets a handle of its own, and any call on the connection may fail.
* `Operation` — the calls that subscribe and unsubscribe.
* `story` — what was done with a handle; `Released`, `Discarded` — the two ways in which it may end.
* `Custody` — what a call has in its hand, and what it must do with it.
* `isTidy_activity` — **every call is tidy**: it ends with an empty hand, whatever the answers.
* `story_turn`, `Live.turn` — how stories go on when a call has its turn.
-/

import MessageBus.Proofs.Dialogue.Interleaving
import MessageBus.Proofs.Nats.Registry

namespace MessageBus.Nats.Client

variable {Handle ι : Type}

/-! ### Calls that take turns -/

/-- A client, and the handles that its connection has given out. -/
structure Depot (Handle : Type) where
  /-- The client's own state. -/
  client : State Handle
  /-- The handles given out so far. -/
  issued : List Handle := []

/-- A client on a connection where every call may fail and every subscription gets a new handle. -/
def depot : Scene (backend Handle) (Depot Handle) Empty where
  answers
    | .inl question, world, answer, after =>
      answer = (world.client.answer question).1 ∧
        after = { world with client := (world.client.answer question).2 }
    | .inr (.subscribe _ _ _ _), world, .ok handle, after =>
      handle ∉ world.issued ∧ after = { world with issued := handle :: world.issued }
    | .inr _, world, _, after => after = world
  happens _ _ _ := False

/-- The calls that change subscriptions. -/
inductive Operation
  /-- Subscribes topics. -/
  | subscribe (channels : List Channel) (errors : Nat)
  /-- Ends subscriptions. -/
  | unsubscribe (topics : List String)

/-- What a call does. -/
def Operation.activity (options : Options) :
    Operation → Dialogue (backend Handle) (BusResult Unit)
  | .subscribe channels errors => Client.subscribe options channels errors
  | .unsubscribe topics => Client.unsubscribe topics

/-- What happens on a connection while calls take turns. -/
abbrev Chronicle (ι Handle : Type) := List (Event ι (backend Handle) (Depot Handle) Empty)

/-! ### The story of a handle -/

/-- The handles that a question and its answer are about. -/
def touched : (question : (backend Handle).Ask) → (backend Handle).Answer question → List Handle
  | .inl (.take _), some handle => [handle]
  | .inl (.restore _ handle), _ => [handle]
  | .inl (.register _ handle), some displaced => [handle, displaced]
  | .inl (.register _ handle), none => [handle]
  | .inr (.subscribe _ _ _ _), .ok handle => [handle]
  | .inr (.stop handle), _ => [handle]
  | _, _ => []

/-- What was done with a handle, in order. -/
def story [DecidableEq Handle] (handle : Handle) (log : Chronicle ι Handle) :
    List (Moment (backend Handle) (Depot Handle)) :=
  (moments log).filter fun moment => handle ∈ touched moment.question moment.answer

/-- The native unsubscribe of a handle with an outcome. -/
def stopped (handle : Handle) (outcome : BusResult Unit) : Dialogue.Exchange (backend Handle) :=
  ⟨.inr (.stop handle), outcome⟩

/-- The handle that an answer gives out, with the topic that it is for. -/
def issue? : (question : (backend Handle).Ask) → (backend Handle).Answer question →
    Option (Handle × String)
  | .inr (.subscribe _ _ _ delivery), .ok handle => some (handle, delivery.topic)
  | _, _ => none

/-- The handle was given out for a topic. -/
def IssuedFor (log : Chronicle ι Handle) (handle : Handle) (topic : String) : Prop :=
  ∃ moment ∈ moments log, issue? moment.question moment.answer = some (handle, topic)

/-- The last that was done with a handle is that its native unsubscribe failed: after another handle
had displaced it, or before it could not be put back where another handle was. -/
inductive Rejection (topic : String) (handle other : Handle) :
    List (Moment (backend Handle) (Depot Handle)) → Prop
  /-- Another handle was registered for the topic, and the one it displaced could not be stopped. -/
  | displaced {before registering stopping} {error : BusError}
      (registered : registering.exchange = ⟨.inl (.register topic other), some handle⟩)
      (failed : stopping.exchange = stopped handle (.error error)) :
      Rejection topic handle other (before ++ [registering, stopping])
  /-- The handle could not be stopped, and when it was to be put back, there was another. -/
  | replaced {before stopping restoring} {error : BusError}
      (failed : stopping.exchange = stopped handle (.error error))
      (restored : restoring.exchange = ⟨.inl (.restore topic handle), ()⟩)
      (taken : restoring.world.client.registry.lookup topic = some other) :
      Rejection topic handle other (before ++ [stopping, restoring])

/-- A rejected handle could not be stopped. -/
theorem Rejection.failed {topic : String} {handle other : Handle}
    {told : List (Moment (backend Handle) (Depot Handle))}
    (rejection : Rejection topic handle other told) :
    ∃ moment ∈ told, ∃ error, moment.exchange = stopped handle (.error error) := by
  cases rejection with
  | displaced _ failed => exact ⟨_, by simp, _, failed⟩
  | replaced failed _ _ => exact ⟨_, by simp, _, failed⟩

section

variable [DecidableEq Handle]

/-- The native unsubscribe of a handle has not succeeded. -/
def Live (log : Chronicle ι Handle) (handle : Handle) : Prop :=
  ∀ moment ∈ story handle log, moment.exchange ≠ stopped handle (.ok ())

/-- The last that was done with a handle is that it was put into the registry. -/
def Settled (log : Chronicle ι Handle) (handle : Handle) (topic : String) : Prop :=
  ∃ before last, story handle log = before ++ [last] ∧
    (last.question = .inl (.register topic handle) ∨
      last.question = .inl (.restore topic handle) ∧
        last.world.client.registry.lookup topic = none)

/-- The native unsubscribe of a handle succeeded once, and nothing was done with it after that. -/
def Released (log : Chronicle ι Handle) (handle : Handle) : Prop :=
  ∃ before last, story handle log = before ++ [last] ∧ last.exchange = stopped handle (.ok ()) ∧
    ∀ moment ∈ before, moment.exchange ≠ stopped handle (.ok ())

/-- The native unsubscribe of a handle failed, and the handle was given up for another one of the
same topic. -/
def Discarded (log : Chronicle ι Handle) (handle : Handle) (topic : String) : Prop :=
  Live log handle ∧ ∃ other, other ≠ handle ∧ IssuedFor log other topic ∧
    Rejection topic handle other (story handle log)

end

/-! ### What a call has in its hand -/

/-- What a call has in its hand, and what it must do with it. -/
inductive Custody (Handle : Type)
  /-- Nothing. -/
  | free
  /-- The handle that a topic had, to be stopped. -/
  | taken (topic : String) (handle : Handle)
  /-- A handle that could not be stopped, to be put back. -/
  | refused (topic : String) (handle : Handle)
  /-- A new handle, to be registered. -/
  | opened (topic : String) (handle : Handle)
  /-- A handle that a new one has displaced, to be stopped. -/
  | displaced (topic : String) (handle : Handle)

namespace Custody

/-- The handle in the hand of a call. -/
def hand? : Custody Handle → Option Handle
  | .free => none
  | .taken _ handle => some handle
  | .refused _ handle => some handle
  | .opened _ handle => some handle
  | .displaced _ handle => some handle

/-- What a call may ask. -/
inductive Permits : Custody Handle → (backend Handle).Ask → Prop
  /-- With an empty hand, it looks at the session. -/
  | look : Permits .free (.inl .session)
  /-- With an empty hand, it takes the handle of a topic. -/
  | take (topic : String) : Permits .free (.inl (.take topic))
  /-- With an empty hand, it opens a subscription. -/
  | subscribe (connection : Nat) (subject queue : String) (delivery : Delivery) :
      Permits .free (.inr (.subscribe connection subject queue delivery))
  /-- What was taken is stopped. -/
  | stop (topic : String) (handle : Handle) : Permits (.taken topic handle) (.inr (.stop handle))
  /-- What could not be stopped is put back. -/
  | restore (topic : String) (handle : Handle) :
      Permits (.refused topic handle) (.inl (.restore topic handle))
  /-- What is new is registered. -/
  | register (topic : String) (handle : Handle) :
      Permits (.opened topic handle) (.inl (.register topic handle))
  /-- What was displaced is stopped. -/
  | drop (topic : String) (handle : Handle) :
      Permits (.displaced topic handle) (.inr (.stop handle))

/-- What a call has in its hand after an answer. -/
def next : Custody Handle → (question : (backend Handle).Ask) →
    (backend Handle).Answer question → Custody Handle
  | .free, .inl (.take topic), some handle => .taken topic handle
  | .free, .inr (.subscribe _ _ _ delivery), .ok handle => .opened delivery.topic handle
  | .taken topic handle, .inr (.stop _), .error _ => .refused topic handle
  | .opened topic _, .inl (.register _ _), some older => .displaced topic older
  | _, _, _ => .free

/-- The rules for what a call has in its hand. -/
def protocol : Protocol (backend Handle) (Custody Handle) where
  permits := Permits
  expects _ _ _ := True
  next := next

end Custody

/-- An activity that starts with an empty hand and ends with one. -/
def IsTidy {α : Type} (activity : Dialogue (backend Handle) α) : Prop :=
  activity.Follows Custody.protocol (fun _ stage => stage = .free) .free

theorem isTidy_done {α : Type} (value : α) : IsTidy (.done value : Dialogue (backend Handle) α) :=
  rfl

/-- Tidy activities may be put one after the other. -/
theorem IsTidy.bind {α β : Type} {activity : Dialogue (backend Handle) α}
    {next : α → Dialogue (backend Handle) β} (first : IsTidy activity)
    (rest : ∀ value, IsTidy (next value)) : IsTidy (activity.bind next) := by
  refine Dialogue.Follows.bind first ?_
  rintro value _ rfl
  exact rest value

/-- Looking at the session leaves the hand empty. -/
theorem isTidy_withConnection {next : Nat → Dialogue (backend Handle) (BusResult Unit)}
    (rest : ∀ connection, IsTidy (next connection)) : IsTidy (withConnection next) := by
  refine ⟨.look, fun session _ => ?_⟩
  cases session with
  | connected connection => exact rest connection
  | idle => exact isTidy_done _
  | closed => exact isTidy_done _

/-- A handle that was taken is stopped or put back. -/
theorem isTidy_stopPrevious (topic : String) :
    IsTidy (stopPrevious topic : Dialogue (backend Handle) (BusResult Unit)) := by
  refine ⟨.take topic, fun previous _ => ?_⟩
  cases previous with
  | none => exact isTidy_done _
  | some previous =>
    refine ⟨.stop topic previous, fun outcome _ => ?_⟩
    cases outcome with
    | ok _ => exact isTidy_done _
    | error error => exact ⟨.restore topic previous, fun _ _ => isTidy_done _⟩

/-- A new handle is registered, and one that it displaces is stopped. -/
theorem isTidy_subscribeTopic (options : Options) (connection : Nat) (channel : Channel)
    (errors : Nat) :
    IsTidy (subscribeTopic options connection channel errors :
      Dialogue (backend Handle) (BusResult Unit)) := by
  refine (isTidy_stopPrevious channel.topic).bind fun stopped => ?_
  cases stopped with
  | error error => exact isTidy_done _
  | ok _ =>
    refine ⟨.subscribe .., fun subscribed _ => ?_⟩
    cases subscribed with
    | error error => exact isTidy_done _
    | ok handle =>
      refine ⟨.register channel.topic handle, fun older _ => ?_⟩
      cases older with
      | none => exact isTidy_done _
      | some older => exact ⟨.drop channel.topic older, fun _ _ => isTidy_done _⟩

theorem isTidy_subscribeTopics (options : Options) (connection errors : Nat)
    (channels : List Channel) :
    IsTidy (subscribeTopics options connection errors channels :
      Dialogue (backend Handle) (BusResult Unit)) := by
  induction channels with
  | nil => exact isTidy_done _
  | cons channel rest ih =>
    refine (isTidy_subscribeTopic options connection channel errors).bind fun subscribed => ?_
    cases subscribed with
    | error error => exact isTidy_done _
    | ok _ => exact ih

/-- A handle that was taken is stopped or put back. -/
theorem isTidy_unsubscribeTopic (topic : String) :
    IsTidy (unsubscribeTopic topic : Dialogue (backend Handle) (List BusError)) := by
  refine ⟨.take topic, fun handle _ => ?_⟩
  cases handle with
  | none => exact isTidy_done _
  | some handle =>
    refine ⟨.stop topic handle, fun outcome _ => ?_⟩
    cases outcome with
    | ok _ => exact isTidy_done _
    | error error => exact ⟨.restore topic handle, fun _ _ => isTidy_done _⟩

theorem isTidy_unsubscribeTopics (topics : List String) :
    IsTidy (unsubscribeTopics topics : Dialogue (backend Handle) (List BusError)) := by
  induction topics with
  | nil => exact isTidy_done _
  | cons topic rest ih =>
    exact (isTidy_unsubscribeTopic topic).bind fun _ => ih.bind fun _ => isTidy_done _

/-- **Every call is tidy**: what it takes in its hand it stops, registers or puts back. -/
theorem isTidy_activity (options : Options) (operation : Operation) :
    IsTidy (operation.activity options : Dialogue (backend Handle) (BusResult Unit)) := by
  cases operation with
  | subscribe channels errors =>
    exact isTidy_withConnection fun connection =>
      isTidy_subscribeTopics options connection errors channels
  | unsubscribe topics =>
    exact isTidy_withConnection fun _ =>
      (isTidy_unsubscribeTopics topics).bind fun _ => isTidy_done _

/-! ### Stories go on -/

section Stories

variable {log : Chronicle ι Handle} {who : ι} {moment : Moment (backend Handle) (Depot Handle)}
  {handle : Handle} {topic : String}

/-- What was given out stays given out. -/
theorem IssuedFor.turn (issued : IssuedFor log handle topic) :
    IssuedFor (log ++ [.turn who moment]) handle topic := by
  obtain ⟨earlier, member, rest⟩ := issued
  refine ⟨earlier, ?_, rest⟩
  rw [moments_append]
  exact List.mem_append_left _ member

/-- What is given out after a turn was given out before, or by the turn. -/
theorem issuedFor_turn (issued : IssuedFor (log ++ [.turn who moment]) handle topic) :
    IssuedFor log handle topic ∨ issue? moment.question moment.answer = some (handle, topic) := by
  obtain ⟨given, member, gives⟩ := issued
  rw [moments_append] at member
  rcases List.mem_append.mp member with earlier | last
  · exact .inl ⟨given, earlier, gives⟩
  · rw [moments_turn, List.mem_singleton] at last
    exact .inr (last ▸ gives)

/-- An answer that gives a handle out touches it. -/
theorem mem_touched_of_issue {question : (backend Handle).Ask}
    {answer : (backend Handle).Answer question}
    (given : issue? question answer = some (handle, topic)) : handle ∈ touched question answer := by
  unfold issue? at given
  split at given
  · cases given
    exact List.mem_singleton_self _
  · cases given

variable [DecidableEq Handle]

/-- A handle that was given out has a story. -/
theorem IssuedFor.story_ne_nil (issued : IssuedFor log handle topic) : story handle log ≠ [] := by
  obtain ⟨given, member, gives⟩ := issued
  refine List.ne_nil_of_mem (a := given) (List.mem_filter.mpr ⟨member, ?_⟩)
  exact decide_eq_true (mem_touched_of_issue gives)

/-- A turn goes on with the stories of the handles that it touches. -/
theorem story_turn (handle : Handle) (log : Chronicle ι Handle) (who : ι)
    (moment : Moment (backend Handle) (Depot Handle)) :
    story handle (log ++ [.turn who moment]) =
      if handle ∈ touched moment.question moment.answer then story handle log ++ [moment]
      else story handle log := by
  unfold story
  rw [moments_append, moments_turn, List.filter_append, List.filter_singleton]
  by_cases touches : handle ∈ touched moment.question moment.answer
  · simp [touches]
  · simp [touches]

/-- A turn that touches a handle is the last part of its story. -/
theorem story_of_touched (touches : handle ∈ touched moment.question moment.answer) :
    story handle (log ++ [.turn who moment]) = story handle log ++ [moment] := by
  rw [story_turn, if_pos touches]

/-- A turn that does not touch a handle is no part of its story. -/
theorem story_of_untouched (untouched : handle ∉ touched moment.question moment.answer) :
    story handle (log ++ [.turn who moment]) = story handle log := by
  rw [story_turn, if_neg untouched]

/-- A handle is live until its native unsubscribe succeeds. -/
theorem Live.turn (live : Live log handle) (other : moment.exchange ≠ stopped handle (.ok ())) :
    Live (log ++ [.turn who moment]) handle := by
  intro later member
  rw [story_turn] at member
  split at member
  · rcases List.mem_append.mp member with earlier | last
    · exact live later earlier
    · rw [List.mem_singleton.mp last]
      exact other
  · exact live later member

/-- A turn that does not touch a handle leaves it live. -/
theorem Live.of_untouched (live : Live log handle)
    (untouched : handle ∉ touched moment.question moment.answer) :
    Live (log ++ [.turn who moment]) handle := by
  unfold Live
  rw [story_of_untouched untouched]
  exact live

end Stories

end MessageBus.Nats.Client

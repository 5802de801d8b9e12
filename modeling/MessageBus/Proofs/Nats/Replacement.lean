/-
**Replaced subscriptions.** What is left of the subscriptions of a NATS client when a subscribe
fails.

* `Stock.Sound` — while the session is not closed, the registry is what is live; `sound_callAll` —
  so it is after any calls of a new client.
* `renewals` — what the connection answered about new subscriptions; `Refused`, `Granted`.
* `Replacement` — what can come of a subscribe of one topic: a new subscription, the one that it
  had, or none; `Interrupted` — what can come of a subscribe that fails.
* `kept_iff_not_refused` — **a topic keeps a subscription over a failed subscribe exactly if the
  connection did not refuse it a new one**: what it had is stopped before, and is not put back.
-/

import MessageBus.Proofs.Nats.Sequence
import MessageBus.Proofs.Session.Calls

namespace MessageBus.Nats.Client

variable {Handle : Type}

/-! ### Any calls of a new client -/

/-- While the session is not closed, the registry is what is live. -/
def Stock.Sound (world : Stock Handle) : Prop :=
  world.client.session ≠ .closed → Level world.client.registry world.live

section Sound

variable [DecidableEq Handle] {world after : Stock Handle}

/-- Courses that keep the registry what is live. -/
def sound (Handle : Type) [DecidableEq Handle] :
    (sequential : Scene (backend Handle) (Stock Handle) Empty).Effect where
  acts world _ after := world.Sound → after.Sound
  nothing _ := id
  further first rest := rest ∘ first

omit [DecidableEq Handle] in
theorem Stock.Steady.sound (steady : world.Steady after) : world.Sound → after.Sound :=
  fun level apart => steady.1 (level (steady.2 ▸ apart))

theorem sound_connect (canOpen : Bool) : (sound Handle).Of (connect canOpen) := by
  intro world told result after course
  obtain ⟨rest, rfl, looked⟩ := course_enter course
  obtain ⟨⟨session, registry⟩, live⟩ := world
  cases session with
  | connected _ | closed =>
    obtain ⟨-, -, rfl⟩ := Scene.course_done.mp looked
    exact id
  | idle =>
    cases canOpen with
    | false =>
      obtain ⟨-, -, rfl⟩ := Scene.course_done.mp looked
      exact id
    | true =>
      obtain ⟨opened, next, _, rfl, answered, further⟩ := course_call looked
      cases opened with
      | error error =>
        obtain ⟨-, -, rfl⟩ := Scene.course_done.mp further
        cases answered
        exact id
      | ok connection =>
        cases answered
        obtain ⟨_, rfl, installed⟩ := course_enter further
        obtain ⟨-, -, rfl⟩ := Scene.course_done.mp installed
        exact fun level _ => level nofun

theorem sound_disconnect : (sound Handle).Of disconnect := by
  intro world told result after course
  obtain ⟨rest, rfl, retired⟩ := course_enter course
  obtain ⟨⟨session, registry⟩, live⟩ := world
  cases session with
  | idle | closed =>
    obtain ⟨-, -, rfl⟩ := Scene.course_done.mp retired
    exact id
  | connected connection =>
    obtain ⟨drained, next, _, rfl, answered, further⟩ := course_call retired
    obtain ⟨_, rfl, cleared⟩ := course_enter further
    obtain ⟨-, -, rfl⟩ := Scene.course_done.mp cleared
    cases answered
    exact fun _ apart => absurd rfl apart

theorem sound_publish (options : Options) (envelope : Envelope) (topic : String) (limitKb : Nat) :
    (sound Handle).Of (publishWithLimit options envelope topic limitKb) := by
  intro world told result after course
  rcases course_withConnection course with ⟨-, rfl⟩ | ⟨connection, rest, -, -, further⟩
  · exact id
  · dsimp only at further
    split at further
    · obtain ⟨-, -, rfl⟩ := Scene.course_done.mp further
      exact id
    · split at further
      · obtain ⟨-, -, rfl⟩ := Scene.course_done.mp further
        exact id
      · obtain ⟨answer, next, _, rfl, answered, ended⟩ := course_ask_sequential further
        obtain ⟨-, -, rfl⟩ := Scene.course_done.mp ended
        cases answered
        exact id

theorem sound_operation (options : Options) (operation : Operation) :
    (sound Handle).Of (operation.activity options) :=
  fun _ _ _ _ course => (steady_activity course).sound

/-- **Any calls of a client keep the registry what is live**, until the session is closed. -/
theorem sound_callAll (options : Options) (canOpen : Bool) (calls : List UserCall) :
    ((sound Handle).beside Task.interface).Of
      ((client options canOpen).callAll calls) := by
  refine Scene.Effect.of_callAll (fun _ _ _ _ => rfl) (fun incident => incident.elim)
    (fun call => ?_) (fun _ _ => Scene.Effect.of_done _) (fun _ _ => Scene.Effect.of_done _) calls
  cases call with
  | connect => exact (sound_connect canOpen).left
  | publish envelope topic => exact (sound_publish options envelope topic 0).left
  | publishWithLimit envelope topic limitKb =>
    exact (sound_publish options envelope topic limitKb).left
  | subscribe channels errors => exact (sound_operation options (.subscribe channels errors)).left
  | unsubscribe topics => exact (sound_operation options (.unsubscribe topics)).left
  | disconnect => exact sound_disconnect.left

end Sound

/-! ### A subscribe that fails -/

/-- The handle that a client has for each topic. -/
def State.held (state : State Handle) (topic : String) : Option Handle :=
  state.registry.lookup topic

theorem State.held_register (state : State Handle) (topic : String) (handle : Handle) :
    (state.answer (.register topic handle)).2.held =
      Function.update state.held topic (some handle) := by
  refine funext fun other => (State.lookup_register ..).trans ?_
  rw [Function.update_apply]
  rfl

/-- What the connection answered about a new subscription, with the topic it was for. -/
def renewal? : Dialogue.Exchange (backend Handle) → Option (String × BusResult Handle)
  | ⟨.inr (.subscribe _ _ _ delivery), outcome⟩ => some (delivery.topic, outcome)
  | _ => none

/-- What the connection answered about new subscriptions, in order. -/
def renewals (told : List (Moment (backend Handle) (Stock Handle))) :
    List (String × BusResult Handle) :=
  (told.map Moment.exchange).filterMap renewal?

/-- The connection refused the topic a new subscription. -/
def Refused (told : List (Moment (backend Handle) (Stock Handle))) (topic : String) : Prop :=
  ∃ error, (topic, .error error) ∈ renewals told

/-- The connection granted the topic a new subscription. -/
def Granted (told : List (Moment (backend Handle) (Stock Handle))) (topic : String)
    (handle : Handle) : Prop :=
  (topic, .ok handle) ∈ renewals told

/-- The topic is registered, and its subscription is live. -/
def Stock.Serves (world : Stock Handle) (topic : String) : Prop :=
  ∃ handle, world.client.held topic = some handle ∧ (topic, handle) ∈ world.live

/-- What can come of a subscribe of one topic: what is answered about a new subscription, the
result, and the handles before and after. -/
inductive Replacement (topic : String) (before : String → Option Handle) :
    List (String × BusResult Handle) → BusResult Unit → (String → Option Handle) → Prop
  /-- The topic has a new subscription. -/
  | renewed (handle : Handle) :
      Replacement topic before [(topic, .ok handle)] (.ok ())
        (Function.update before topic (some handle))
  /-- The subscription that the topic had cannot be stopped, and stays. -/
  | kept (error : BusError) :
      Replacement topic before []
        (.error (topicFailure "subscribe" topic ("replacing subscription: " ++ error.message)))
        before
  /-- There is no new subscription, and the one that the topic had is gone. -/
  | refused (error : BusError) :
      Replacement topic before [(topic, .error error)]
        (.error (topicFailure "subscribe" topic error.message)) (Function.update before topic none)

/-- What can come of a subscribe that fails: topics have new subscriptions up to the one that fails,
and those behind it are left alone. -/
inductive Interrupted (error : BusError) (after : String → Option Handle) :
    List Channel → (String → Option Handle) → List (String × BusResult Handle) → Prop
  /-- This topic fails. -/
  | here {channel : Channel} {rest : List Channel} {before : String → Option Handle}
      {issued : List (String × BusResult Handle)}
      (failed : Replacement channel.topic before issued (.error error) after) :
      Interrupted error after (channel :: rest) before issued
  /-- This topic has a new subscription, and a later one fails. -/
  | later {channel : Channel} {rest : List Channel} {before : String → Option Handle}
      {issued : List (String × BusResult Handle)} (handle : Handle)
      (further : Interrupted error after rest (Function.update before channel.topic (some handle))
        issued) :
      Interrupted error after (channel :: rest) before ((channel.topic, .ok handle) :: issued)

section Subscribe

variable [DecidableEq Handle] {options : Options} {world after : Stock Handle}
  {told : List (Moment (backend Handle) (Stock Handle))} {result : BusResult Unit}
  {connection errors : Nat} {channel : Channel} {channels : List Channel}

omit [DecidableEq Handle] in
theorem renewals_append (told rest : List (Moment (backend Handle) (Stock Handle))) :
    renewals (told ++ rest) = renewals told ++ renewals rest := by
  rw [renewals, List.map_append, List.filterMap_append, renewals, renewals]

/-- To stop what a topic had asks for no new subscription. -/
theorem renewals_stopPrevious {topic : String}
    (course : sequential.Course (stopPrevious topic) world told result after) :
    renewals told = [] ∧
      (result = .ok () ∧ after.client.held = Function.update world.client.held topic none ∨
        ∃ error : BusError, result = .error (topicFailure "subscribe" topic
            ("replacing subscription: " ++ error.message)) ∧
          after.client.held = world.client.held) := by
  rw [stopPrevious_eq] at course
  obtain ⟨attempt, rfl, rfl, attempted⟩ := attempted_release course
  have quiet : renewals told = [] := by
    rw [renewals, attempted.exchanges]
    cases attempt <;> rfl
  refine ⟨quiet, ?_⟩
  obtain ⟨freed, kept⟩ : (∀ other, Freed [attempt] other → after.client.held other = none) ∧
      ∀ other, ¬ Freed [attempt] other → after.client.held other = world.client.held other :=
    ⟨fun other => (attempted.lookup other).1, fun other => (attempted.lookup other).2⟩
  cases attempt with
  | absent topic =>
    have missing : none = world.client.held topic :=
      (attempted.turns (List.nil_append _).symm).2 freed_nil
    have unchanged : after.client.held = world.client.held :=
      funext fun other => kept other freed_absent
    refine .inl ⟨rfl, ?_⟩
    show _ = Function.update world.client.held topic none
    rw [unchanged, missing, Function.update_eq_self]
  | stopped topic handle =>
    refine .inl ⟨rfl, funext fun other => ?_⟩
    show _ = Function.update world.client.held topic none other
    by_cases same : other = topic
    · rw [freed other (freed_stopped.mpr same), same, Function.update_self]
    · rw [kept other (mt freed_stopped.mp same), Function.update_of_ne same]
  | failed topic handle error =>
    exact .inr ⟨error, rfl, funext fun other => kept other freed_failed⟩

/-- **A subscribe of one topic comes to one of three ends.** -/
theorem replacement_subscribeTopic
    (course : sequential.Course (subscribeTopic options connection channel errors) world told result
      after) :
    Replacement channel.topic world.client.held (renewals told) result after.client.held := by
  obtain ⟨_, stopped, between, _, rfl, first, further⟩ := Scene.course_bind.mp course
  obtain ⟨quiet, ⟨rfl, left⟩ | ⟨error, rfl, left⟩⟩ := renewals_stopPrevious first
  · obtain ⟨subscribed, next, _, rfl, answered, further⟩ := course_call further
    rw [renewals_append, quiet, List.nil_append]
    cases subscribed with
    | error error =>
      obtain ⟨rfl, rfl, rfl⟩ := Scene.course_done.mp further
      cases answered
      rw [left]
      exact .refused error
    | ok handle =>
      obtain ⟨-, rfl⟩ := answered
      obtain ⟨_, rfl, registered⟩ := course_enter further
      have vacant : between.client.registry.lookup channel.topic = none :=
        (congrFun left channel.topic).trans (Function.update_self ..)
      rw [State.answer_register, vacant] at registered
      obtain ⟨rfl, rfl, rfl⟩ := Scene.course_done.mp registered
      show Replacement _ _ _ _ (between.client.answer (.register channel.topic handle)).2.held
      rw [State.held_register, left, Function.update_idem]
      exact .renewed handle
  · obtain ⟨rfl, rfl, rfl⟩ := Scene.course_done.mp further
    rw [List.append_nil, quiet, left]
    exact .kept error

/-- A subscribe that fails does so at one topic. -/
theorem interrupted_subscribeTopics {error : BusError}
    (course : sequential.Course (subscribeTopics options connection errors channels) world told
      (.error error) after) :
    Interrupted error after.client.held channels world.client.held (renewals told) := by
  induction channels generalizing world told with
  | nil => cases (Scene.course_done.mp course).2.1
  | cons channel channels ih =>
    obtain ⟨_, subscribed, between, _, rfl, first, further⟩ := Scene.course_bind.mp course
    have replacement := replacement_subscribeTopic first
    rw [renewals_append]
    cases subscribed with
    | error error =>
      obtain ⟨rfl, same, rfl⟩ := Scene.course_done.mp further
      cases same
      rw [show renewals [] = ([] : List (String × BusResult Handle)) from rfl, List.append_nil]
      exact .here replacement
    | ok _ =>
      have rest := ih further
      generalize renewals _ = issued at replacement
      generalize between.client.held = held at replacement rest
      cases replacement
      exact .later _ rest

end Subscribe

/-! ### What is kept -/

section Kept

variable {error : BusError} {before after : String → Option Handle} {channels : List Channel}
  {issued : List (String × BusResult Handle)} {topic : String}

/-- A topic that has a subscription is left with one unless it was refused a new one. -/
theorem Interrupted.isSome_iff (interrupted : Interrupted error after channels before issued)
    (held : (before topic).isSome) :
    (after topic).isSome ↔ ¬ ∃ error, (topic, .error error) ∈ issued := by
  induction interrupted with
  | here failed =>
    rename_i channel _ _ _
    cases failed with
    | kept => simpa using held
    | refused error =>
      by_cases same : topic = channel.topic
      · subst same
        simp
      · simp [held, same]
  | later handle further ih =>
    rename_i channel _ before _
    have stillHeld : (Function.update before channel.topic (some handle) topic).isSome := by
      by_cases same : topic = channel.topic
      · rw [same, Function.update_self]
        rfl
      · rwa [Function.update_of_ne same]
    simpa using ih stillHeld

/-- The handle of a topic is the one it had, or was granted. -/
theorem Interrupted.origin (interrupted : Interrupted error after channels before issued)
    {handle : Handle} (held : after topic = some handle) :
    before topic = some handle ∨ (topic, .ok handle) ∈ issued := by
  induction interrupted with
  | here failed =>
    rename_i channel _ _ _
    cases failed with
    | kept => exact .inl held
    | refused error =>
      by_cases same : topic = channel.topic
      · rw [same, Function.update_self] at held
        cases held
      · rw [Function.update_of_ne same] at held
        exact .inl held
  | later granted further ih =>
    rename_i channel _ before _
    rcases ih with held | issued
    · by_cases same : topic = channel.topic
      · rw [same, Function.update_self] at held
        cases held
        exact .inr (same ▸ List.mem_cons_self)
      · rw [Function.update_of_ne same] at held
        exact .inl held
    · exact .inr (List.mem_cons_of_mem _ issued)

/-- A topic outside of the request keeps its handle. -/
theorem Interrupted.eq_of_notMem (interrupted : Interrupted error after channels before issued)
    (outside : topic ∉ channels.map Channel.topic) : after topic = before topic := by
  induction interrupted with
  | here failed =>
    obtain ⟨apart, -⟩ := not_or.mp (mt List.mem_cons.mpr outside)
    cases failed with
    | kept => rfl
    | refused => exact Function.update_of_ne apart ..
  | later handle further ih =>
    obtain ⟨apart, outside⟩ := not_or.mp (mt List.mem_cons.mpr outside)
    exact (ih outside).trans (Function.update_of_ne apart ..)

/-- The error names the topic that fails; those before it were granted new subscriptions, and no
other was refused one. -/
theorem Interrupted.exists_failing (interrupted : Interrupted error after channels before issued) :
    ∃ done failing rest text, channels = done ++ failing :: rest ∧
      error = topicFailure "subscribe" failing.topic text ∧
      (∀ channel ∈ done, ∃ handle, (channel.topic, .ok handle) ∈ issued) ∧
      ∀ topic error, (topic, .error error) ∈ issued → topic = failing.topic := by
  induction interrupted with
  | here failed =>
    rename_i channel rest _ _
    cases failed with
    | kept fault => exact ⟨[], channel, rest, _, rfl, rfl, nofun, nofun⟩
    | refused fault =>
      refine ⟨[], channel, rest, _, rfl, rfl, nofun, fun topic error member => ?_⟩
      exact congrArg Prod.fst (List.mem_singleton.mp member)
  | later handle further ih =>
    rename_i channel _ _ _
    obtain ⟨done, failing, rest, text, rfl, rfl, granted, refused⟩ := ih
    refine ⟨channel :: done, failing, rest, text, rfl, rfl, fun other member => ?_,
      fun topic error member => ?_⟩
    · rcases List.mem_cons.mp member with rfl | member
      · exact ⟨handle, List.mem_cons_self⟩
      · obtain ⟨handle, issued⟩ := granted other member
        exact ⟨handle, List.mem_cons_of_mem _ issued⟩
    · rcases List.mem_cons.mp member with same | member
      · cases same
      · exact refused topic error member

end Kept

/-- **Over a subscribe that fails, a registered topic keeps a live subscription exactly if the
connection did not refuse it a new one**, in any state that calls of a client lead to. Topics
outside of the request keep the subscription they had; whatever is registered afterwards is live,
and was registered before or granted by this call. At most one topic is refused: the one that the
error names, behind those that were granted new subscriptions. -/
theorem kept_iff_not_refused [DecidableEq Handle] {options : Options} {canOpen : Bool}
    {calls : List UserCall} {log : List (Moment (backend Handle).work (Stock Handle))}
    {world after : Stock Handle} {connection errors : Nat} {channels : List Channel}
    {told : List (Moment (backend Handle) (Stock Handle))} {error : BusError}
    (reached : (sequential.beside Task.interface).Course ((client options canOpen).callAll calls)
      ⟨{}, []⟩ log () world)
    (connected : world.client.session = .connected connection)
    (failed : sequential.Course (subscribe options channels errors) world told (.error error)
      after) :
    (∀ topic, (world.client.held topic).isSome → (after.Serves topic ↔ ¬ Refused told topic)) ∧
    (∀ topic, topic ∉ channels.map Channel.topic →
      after.client.held topic = world.client.held topic) ∧
    (∀ topic handle, after.client.held topic = some handle → (topic, handle) ∈ after.live ∧
      (world.client.held topic = some handle ∨ Granted told topic handle)) ∧
    ∃ done failing rest text, channels = done ++ failing :: rest ∧
      error = topicFailure "subscribe" failing.topic text ∧
      (∀ channel ∈ done, ∃ handle, Granted told channel.topic handle) ∧
      ∀ topic, Refused told topic → topic = failing.topic := by
  have level : Level world.client.registry world.live :=
    sound_callAll options canOpen calls _ _ _ _ reached
      (fun _ => ⟨.refl _, List.nodup_nil, List.nodup_nil⟩) (by rw [connected]; nofun)
  rcases course_withConnection failed with ⟨apart, -⟩ | ⟨_, rest, -, rfl, further⟩
  · exact absurd connected (apart connection)
  have levelAfter := (steady_subscribeTopics further).1 level
  have live : ∀ topic handle, after.client.held topic = some handle →
      (topic, handle) ∈ after.live := fun topic handle held =>
    levelAfter.same.mem_iff.mp
      ((perm_without held levelAfter.topics).mem_iff.mpr List.mem_cons_self)
  have interrupted := interrupted_subscribeTopics further
  refine ⟨fun topic held => ?_, fun topic => interrupted.eq_of_notMem,
    fun topic handle held => ⟨live topic handle held, interrupted.origin held⟩, ?_⟩
  · refine Iff.trans ⟨?_, fun kept => ?_⟩ (interrupted.isSome_iff held)
    · rintro ⟨handle, kept, -⟩
      exact Option.isSome_iff_exists.mpr ⟨handle, kept⟩
    · obtain ⟨handle, kept⟩ := Option.isSome_iff_exists.mp kept
      exact ⟨handle, kept, live topic handle kept⟩
  · obtain ⟨done, failing, rest, text, split, named, granted, refused⟩ := interrupted.exists_failing
    exact ⟨done, failing, rest, text, split, named, granted, fun topic ⟨error, member⟩ =>
      refused topic error member⟩

/-- A client with three subscriptions. -/
def threefold : Stock Nat :=
  ⟨⟨.connected 0, [("a", 0), ("b", 1), ("c", 2)]⟩, [("a", 0), ("b", 1), ("c", 2)]⟩

theorem exists_course_threefold :
    ∃ log, ((sequential : Scene (backend Nat) (Stock Nat) Empty).beside Task.interface).Course
      ((client {} true).callAll
        [.plain .connect, .plain (.subscribe [⟨"a", 0⟩, ⟨"b", 1⟩, ⟨"c", 2⟩] 9)])
      ⟨{}, []⟩ log () threefold :=
  ⟨_, Scene.course_ask.mpr ⟨_, Session.idle, _, _, rfl, .refl, ⟨rfl, rfl⟩,
    Scene.course_ask.mpr ⟨_, .ok 0, _, _, rfl, .refl, rfl,
    Scene.course_ask.mpr ⟨_, true, _, _, rfl, .refl, ⟨rfl, rfl⟩,
    Scene.course_ask.mpr ⟨_, Session.connected 0, _, _, rfl, .refl, ⟨rfl, rfl⟩,
    Scene.course_ask.mpr ⟨_, none, _, _, rfl, .refl, ⟨rfl, rfl⟩,
    Scene.course_ask.mpr ⟨_, .ok 0, _, _, rfl, .refl, ⟨nofun, rfl⟩,
    Scene.course_ask.mpr ⟨_, none, _, _, rfl, .refl, ⟨rfl, rfl⟩,
    Scene.course_ask.mpr ⟨_, none, _, _, rfl, .refl, ⟨rfl, rfl⟩,
    Scene.course_ask.mpr ⟨_, .ok 1, _, _, rfl, .refl, ⟨by decide, rfl⟩,
    Scene.course_ask.mpr ⟨_, none, _, _, rfl, .refl, ⟨rfl, rfl⟩,
    Scene.course_ask.mpr ⟨_, none, _, _, rfl, .refl, ⟨rfl, rfl⟩,
    Scene.course_ask.mpr ⟨_, .ok 2, _, _, rfl, .refl, ⟨by decide, rfl⟩,
    Scene.course_ask.mpr ⟨_, none, _, _, rfl, .refl, ⟨rfl, rfl⟩, .done _ _⟩⟩⟩⟩⟩⟩⟩⟩⟩⟩⟩⟩⟩⟩

/-- The first of its subscriptions is replaced, and the second one is refused a new one. -/
theorem exists_course_refused :
    ∃ told after, (sequential : Scene (backend Nat) (Stock Nat) Empty).Course
        (subscribe {} [⟨"a", 3⟩, ⟨"b", 4⟩] 9) threefold told
        (.error (topicFailure "subscribe" "b" "Message bus is disabled")) after ∧
      renewals told = [("a", .ok 3), ("b", .error .disabled)] ∧
      after = ⟨⟨.connected 0, [("c", 2), ("a", 3)]⟩, [("c", 2), ("a", 3)]⟩ :=
  ⟨_, _, Scene.course_ask.mpr ⟨_, Session.connected 0, _, _, rfl, .refl, ⟨rfl, rfl⟩,
    Scene.course_ask.mpr ⟨_, some 0, _, _, rfl, .refl, ⟨rfl, rfl⟩,
    Scene.course_ask.mpr ⟨_, .ok (), _, _, rfl, .refl, rfl,
    Scene.course_ask.mpr ⟨_, .ok 3, _, _, rfl, .refl, ⟨by decide, rfl⟩,
    Scene.course_ask.mpr ⟨_, none, _, _, rfl, .refl, ⟨rfl, rfl⟩,
    Scene.course_ask.mpr ⟨_, some 1, _, _, rfl, .refl, ⟨rfl, rfl⟩,
    Scene.course_ask.mpr ⟨_, .ok (), _, _, rfl, .refl, rfl,
    Scene.course_ask.mpr ⟨_, .error .disabled, _, _, rfl, .refl, rfl, .done _ _⟩⟩⟩⟩⟩⟩⟩⟩, rfl, rfl⟩

/-- The replaced topic and the one outside of the request keep a subscription, the refused one has
none. -/
theorem kept_iff_not_refused_second :
    ∃ log told after,
      ((sequential : Scene (backend Nat) (Stock Nat) Empty).beside Task.interface).Course
        ((client {} true).callAll
          [.plain .connect, .plain (.subscribe [⟨"a", 0⟩, ⟨"b", 1⟩, ⟨"c", 2⟩] 9)])
        ⟨{}, []⟩ log () threefold ∧
      sequential.Course (subscribe {} [⟨"a", 3⟩, ⟨"b", 4⟩] 9) threefold told
        (.error (topicFailure "subscribe" "b" "Message bus is disabled")) after ∧
      after.Serves "a" ∧ ¬ after.Serves "b" ∧ after.client.held "c" = some 2 := by
  obtain ⟨log, reached⟩ := exists_course_threefold
  obtain ⟨told, after, failed, issued, -⟩ := exists_course_refused
  obtain ⟨kept, untouched, -, -⟩ := kept_iff_not_refused reached rfl failed
  refine ⟨log, told, after, reached, failed, (kept "a" rfl).mpr ?_, ?_, untouched "c" (by decide)⟩
  · rintro ⟨error, member⟩
    rw [issued] at member
    simp at member
  · refine fun serves => (kept "b" rfl).mp serves ⟨.disabled, ?_⟩
    rw [issued]
    simp

/-- A subscribe that is refused leaves a topic without the subscription that it had before. -/
theorem failed_subscribe_loses : ¬ ∀ (options : Options) (canOpen : Bool) (calls : List UserCall)
    (log : List (Moment (backend Nat).work (Stock Nat))) (world after : Stock Nat)
    (connection errors : Nat) (channels : List Channel)
    (told : List (Moment (backend Nat) (Stock Nat))) (error : BusError),
    (sequential.beside Task.interface).Course ((client options canOpen).callAll calls) ⟨{}, []⟩ log
      () world →
    world.client.session = .connected connection →
    sequential.Course (subscribe options channels errors) world told (.error error) after →
    ∀ topic, (world.client.held topic).isSome → after.Serves topic := by
  intro loses
  obtain ⟨log, reached⟩ := exists_course_threefold
  obtain ⟨told, after, failed, -, rfl⟩ := exists_course_refused
  obtain ⟨handle, held, -⟩ := loses {} true _ log _ _ 0 9 _ told _ reached rfl failed "b" rfl
  cases show none = some handle from held

end MessageBus.Nats.Client

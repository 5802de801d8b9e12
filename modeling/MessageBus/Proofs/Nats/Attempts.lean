/-
**Attempts to end subscriptions.** One question after another, on a connection without surprises.

* `Stock`, `sequential` — the client's own state and the subscriptions that are live on its
  connection. A stop that fails leaves the subscription live, one that succeeds ends it, and a
  subscription that fails creates nothing.
* `Level` — **the registry is what is live**, one subscription for each topic.
* `Attempt` — what is done to end the subscription of one topic, with its exchanges and its failure;
  `Attempted` — what attempts one after another come to.
* `attempted_release` — **to end one is one attempt**, in a subscribe and in an unsubscribe;
  `attempted_unsubscribeTopics` — an unsubscribe is one for each topic, whatever fails.
-/

import MessageBus.Proofs.Nats.Custody

namespace MessageBus.Nats.Client

variable {Handle : Type}

/-! ### A connection without surprises -/

/-- A client, and what is live on its connection: subscriptions with the topics they are for. -/
structure Stock (Handle : Type) where
  /-- The client's own state. -/
  client : State Handle
  /-- The live subscriptions. -/
  live : List (String × Handle) := []

/-- A client whose calls come one after another. A subscription that succeeds is live from then on,
under a handle that no other live one has; it ends when it is stopped. -/
def sequential [DecidableEq Handle] : Scene (backend Handle) (Stock Handle) Empty where
  answers
    | .inl question, world, answer, after =>
      answer = (world.client.answer question).1 ∧
        after = { world with client := (world.client.answer question).2 }
    | .inr (.subscribe _ _ _ delivery), world, .ok handle, after =>
      handle ∉ world.live.map Prod.snd ∧
        after = { world with live := world.live ++ [(delivery.topic, handle)] }
    | .inr (.stop handle), world, .ok _, after =>
      after = { world with live := world.live.filter fun entry => entry.2 ≠ handle }
    | .inr _, world, _, after => after = world
  happens _ _ _ := False

/-! ### The registry and what is live -/

/-- The registry is what is live, one subscription for each topic. -/
structure Level (registry live : List (String × Handle)) : Prop where
  /-- The registry holds what is live. -/
  same : registry.Perm live
  /-- No topic has two subscriptions. -/
  topics : (registry.map Prod.fst).Nodup
  /-- No two topics share a subscription. -/
  handles : (registry.map Prod.snd).Nodup

section Level

variable {registry live : List (String × Handle)} {topic : String} {handle : Handle}

theorem without_of_lookup_none (missing : registry.lookup topic = none) :
    State.without registry topic = registry :=
  List.filter_eq_self.mpr fun entry member => by
    simpa [bne_comm] using List.lookup_eq_none_iff.mp missing entry member

/-- The entry of a topic and the others are the whole registry. -/
theorem perm_without (found : registry.lookup topic = some handle)
    (topics : (registry.map Prod.fst).Nodup) :
    registry.Perm ((topic, handle) :: State.without registry topic) := by
  induction registry with
  | nil => cases found
  | cons entry rest ih =>
    obtain ⟨key, value⟩ := entry
    obtain ⟨absent, topics⟩ := List.nodup_cons.mp topics
    rw [List.lookup_cons] at found
    unfold State.without
    by_cases same : topic = key
    · subst same
      rw [beq_self_eq_true] at found
      cases found
      have kept : rest.filter (fun entry => entry.1 != topic) = rest :=
        List.filter_eq_self.mpr fun entry member => by
          simpa using fun same => absent (List.mem_map.mpr ⟨entry, member, same⟩)
      rw [List.filter_cons_of_neg (by simp), kept]
    · rw [beq_false_of_ne same] at found
      rw [List.filter_cons_of_pos (by simpa using Ne.symm same)]
      exact (List.Perm.cons _ (ih found topics)).trans (.swap ..)

theorem lookup_without_self : (State.without registry topic).lookup topic = none := by
  rw [State.lookup_without, if_pos rfl]

/-- What was taken is put back at the end of the registry. -/
theorem answer_restore_take (state : State Handle) (topic : String) (handle : Handle) :
    ((state.answer (.take topic)).2.answer (.restore topic handle)).2 =
      { state with registry := State.without state.registry topic ++ [(topic, handle)] } := by
  have missing : ¬ ((State.without state.registry topic).lookup topic).isSome = true := by
    rw [lookup_without_self]
    exact Bool.false_ne_true
  exact congrArg Prod.snd (if_neg missing)

/-- The subscription of a topic is stopped. -/
theorem Level.stop [DecidableEq Handle] (level : Level registry live)
    (found : registry.lookup topic = some handle) :
    Level (State.without registry topic) (live.filter fun entry => entry.2 ≠ handle) := by
  have whole := perm_without found level.topics
  have handles := (whole.map Prod.snd).nodup_iff.mp level.handles
  obtain ⟨alone, handles⟩ := List.nodup_cons.mp handles
  refine ⟨?_, State.keys_nodup_without topic level.topics, handles⟩
  have kept : (State.without registry topic).filter (fun entry => entry.2 ≠ handle) =
      State.without registry topic := List.filter_eq_self.mpr fun entry member => by
    simpa using fun same => alone (List.mem_map.mpr ⟨entry, member, same⟩)
  have filtered := (whole.symm.trans level.same).filter fun entry => entry.2 ≠ handle
  rw [List.filter_cons_of_neg (by simp), kept] at filtered
  exact filtered

/-- A subscription that could not be stopped is put back. -/
theorem Level.restore (level : Level registry live)
    (found : registry.lookup topic = some handle) :
    Level (State.without registry topic ++ [(topic, handle)]) live := by
  have whole : registry.Perm (State.without registry topic ++ [(topic, handle)]) :=
    (perm_without found level.topics).trans (List.perm_append_singleton ..).symm
  exact ⟨whole.symm.trans level.same, (whole.map Prod.fst).nodup_iff.mp level.topics,
    (whole.map Prod.snd).nodup_iff.mp level.handles⟩

/-- A topic without a subscription gets a new one. -/
theorem Level.subscribe (level : Level registry live) (missing : registry.lookup topic = none)
    (fresh : handle ∉ live.map Prod.snd) :
    Level (registry ++ [(topic, handle)]) (live ++ [(topic, handle)]) := by
  refine ⟨level.same.append_right _, State.keys_nodup_append handle level.topics missing, ?_⟩
  have absent : handle ∉ registry.map Prod.snd := fun member =>
    fresh ((level.same.map Prod.snd).mem_iff.mp member)
  rw [List.map_append]
  exact List.Nodup.append level.handles (List.nodup_singleton handle) (by simpa using absent)

end Level

/-! ### One question after another -/

section Questions

variable [DecidableEq Handle] {α : Type} {world after : Stock Handle} {value : α}
  {told : List (Moment (backend Handle) (Stock Handle))}

theorem course_ask_sequential {question : (backend Handle).Ask}
    {resume : (backend Handle).Answer question → Dialogue (backend Handle) α}
    (course : sequential.Course (.ask question resume) world told value after) :
    ∃ answer next rest, told = ⟨world, question, answer⟩ :: rest ∧
      sequential.answers question world answer next ∧
      sequential.Course (resume answer) next rest value after :=
  (Scene.course_ask_still fun incident => incident.elim).mp course

/-- A section is answered by the client's own state. -/
theorem course_enter {question : Section Handle}
    {resume : question.Answer → Dialogue (backend Handle) α}
    (course : sequential.Course ((enter question).bind resume) world told value after) :
    ∃ rest, told = ⟨world, .inl question, (world.client.answer question).1⟩ :: rest ∧
      sequential.Course (resume (world.client.answer question).1)
        { world with client := (world.client.answer question).2 } rest value after := by
  obtain ⟨answer, next, rest, rfl, ⟨rfl, rfl⟩, course⟩ := course_ask_sequential course
  exact ⟨rest, rfl, course⟩

theorem course_call {c : Connection.Call Handle}
    {resume : c.Answer → Dialogue (backend Handle) α}
    (course : sequential.Course ((call c).bind resume) world told value after) :
    ∃ answer next rest, told = ⟨world, .inr c, answer⟩ :: rest ∧
      sequential.answers (.inr c) world answer next ∧
      sequential.Course (resume answer) next rest value after :=
  course_ask_sequential course

end Questions

/-! ### Attempts -/

/-- What is done to end the subscription of one topic. -/
inductive Attempt (Handle : Type)
  /-- The topic has no subscription. -/
  | absent (topic : String)
  /-- The subscription is stopped. -/
  | stopped (topic : String) (handle : Handle)
  /-- The subscription cannot be stopped, and is put back. -/
  | failed (topic : String) (handle : Handle) (error : BusError)

namespace Attempt

/-- The topic of an attempt. -/
def topic : Attempt Handle → String
  | absent topic | stopped topic _ | failed topic _ _ => topic

/-- The subscription that is to be stopped. -/
def handle? : Attempt Handle → Option Handle
  | absent _ => none
  | stopped _ handle | failed _ handle _ => some handle

/-- The error for which the subscription cannot be stopped. -/
def error? : Attempt Handle → Option BusError
  | failed _ _ error => some error
  | _ => none

/-- The failure that is reported. -/
def failure? : Attempt Handle → Option BusError
  | failed topic _ error =>
    some (.operation "unsubscribe" ("topic '" ++ topic ++ "': " ++ error.message))
  | _ => none

/-- The questions of an attempt, with their answers; a topic without a subscription costs no call on
the connection. -/
def exchanges : Attempt Handle → List (Dialogue.Exchange (backend Handle))
  | absent topic => [⟨.inl (.take topic), none⟩]
  | stopped topic handle => [⟨.inl (.take topic), some handle⟩, ⟨.inr (.stop handle), .ok ()⟩]
  | failed topic handle error =>
    [⟨.inl (.take topic), some handle⟩, ⟨.inr (.stop handle), .error error⟩,
      ⟨.inl (.restore topic handle), ()⟩]

end Attempt

/-- Some of the attempts have stopped a subscription of the topic. -/
def Freed (attempts : List (Attempt Handle)) (topic : String) : Prop :=
  ∃ handle, .stopped topic handle ∈ attempts

/-- What attempts, one after another, do to a client and what is live. -/
structure Attempted [DecidableEq Handle] (world : Stock Handle) (attempts : List (Attempt Handle))
    (told : List (Moment (backend Handle) (Stock Handle))) (after : Stock Handle) : Prop where
  /-- These are their questions, and no others. -/
  exchanges : told.map Moment.exchange = attempts.flatMap Attempt.exchanges
  /-- Each is about the subscription that its topic has when its turn comes. -/
  turns : ∀ {before attempt rest}, attempts = before ++ attempt :: rest →
    (Freed before attempt.topic → attempt.handle? = none) ∧
      (¬ Freed before attempt.topic →
        attempt.handle? = world.client.registry.lookup attempt.topic)
  /-- The topics that were freed have no subscription, all others keep theirs. -/
  lookup : ∀ topic, (Freed attempts topic → after.client.registry.lookup topic = none) ∧
    (¬ Freed attempts topic →
      after.client.registry.lookup topic = world.client.registry.lookup topic)
  /-- The registry is still what is live. -/
  level : Level world.client.registry world.live → Level after.client.registry after.live
  /-- The session stays. -/
  session : after.client.session = world.client.session

section Freed

variable {attempt : Attempt Handle} {attempts : List (Attempt Handle)} {topic other : String}

theorem freed_nil : ¬ Freed ([] : List (Attempt Handle)) topic := nofun

theorem freed_cons :
    Freed (attempt :: attempts) topic ↔ Freed [attempt] topic ∨ Freed attempts topic := by
  simp only [Freed, List.mem_cons, List.not_mem_nil, or_false, exists_or]

theorem freed_stopped {handle : Handle} : Freed [.stopped topic handle] other ↔ other = topic := by
  simp [Freed]

theorem freed_absent : ¬ Freed ([.absent topic] : List (Attempt Handle)) other := by
  simp [Freed]

theorem freed_failed {handle : Handle} {error : BusError} :
    ¬ Freed [.failed topic handle error] other := by
  simp [Freed]

/-- What one attempt and then others leave of a topic, together they leave of it. -/
theorem freed_cons_keeps {found next last : Option Handle}
    (first : (Freed [attempt] topic → next = none) ∧ (¬ Freed [attempt] topic → next = found))
    (further : (Freed attempts topic → last = none) ∧ (¬ Freed attempts topic → last = next)) :
    (Freed (attempt :: attempts) topic → last = none) ∧
      (¬ Freed (attempt :: attempts) topic → last = found) := by
  rw [freed_cons, not_or]
  by_cases here : Freed attempts topic
  · exact ⟨fun _ => further.1 here, fun none => absurd here none.2⟩
  · rw [further.2 here]
    exact ⟨fun some => first.1 (some.resolve_right here), fun none => first.2 none.1⟩

/-- A single attempt is about the subscription of its topic. -/
theorem turns_singleton {registry : List (String × Handle)}
    (handle : attempt.handle? = registry.lookup attempt.topic)
    {before later : List (Attempt Handle)} {current : Attempt Handle}
    (split : [attempt] = before ++ current :: later) :
    (Freed before current.topic → current.handle? = none) ∧
      (¬ Freed before current.topic → current.handle? = registry.lookup current.topic) := by
  cases before with
  | nil =>
    cases split
    exact ⟨fun freed => absurd freed freed_nil, fun _ => handle⟩
  | cons head before => cases before <;> cases split

end Freed

section Attempts

variable [DecidableEq Handle] {world between after : Stock Handle} {attempt : Attempt Handle}
  {attempts : List (Attempt Handle)} {told rest : List (Moment (backend Handle) (Stock Handle))}
  {topic : String}

theorem attempted_nil (world : Stock Handle) : Attempted world [] [] world where
  exchanges := rfl
  turns {before _ _} told := by cases before <;> cases told
  lookup _ := ⟨fun freed => absurd freed freed_nil, fun _ => rfl⟩
  level := id
  session := rfl

/-- Attempts come one after another. -/
theorem Attempted.cons (first : Attempted world [attempt] told between)
    (further : Attempted between attempts rest after) :
    Attempted world (attempt :: attempts) (told ++ rest) after where
  exchanges := by
    rw [List.map_append, first.exchanges, further.exchanges, List.flatMap_cons,
      List.flatMap_cons, List.flatMap_nil, List.append_nil]
  turns {before current later} split := by
    cases before with
    | nil =>
      cases split
      exact first.turns (List.nil_append _).symm
    | cons head before =>
      obtain ⟨rfl, later⟩ := List.cons.inj split
      exact freed_cons_keeps (first.lookup current.topic) (further.turns later)
  lookup topic := freed_cons_keeps (first.lookup topic) (further.lookup topic)
  level := further.level ∘ first.level
  session := further.session.trans first.session

/-- Ends the subscription of a topic, if it has one, and puts it back if that fails. -/
def release {α : Type} (topic : String) (ended : α) (kept : BusError → α) :
    Dialogue (backend Handle) α :=
  (enter (.take topic)).bind fun
    | none => .done ended
    | some handle => (call (.stop handle)).bind fun
      | .ok () => .done ended
      | .error error => (enter (.restore topic handle)).bind fun _ => .done (kept error)

omit [DecidableEq Handle] in
theorem unsubscribeTopic_eq (topic : String) :
    (unsubscribeTopic topic : Dialogue (backend Handle) (List BusError)) =
      release topic [] fun error => [topicFailure "unsubscribe" topic error.message] := by
  refine congrArg (Dialogue.bind _) (funext fun handle => ?_)
  cases handle with
  | none => rfl
  | some handle =>
    refine congrArg (Dialogue.bind _) (funext fun outcome => ?_)
    cases outcome <;> rfl

omit [DecidableEq Handle] in
theorem stopPrevious_eq (topic : String) :
    (stopPrevious topic : Dialogue (backend Handle) (BusResult Unit)) =
      release topic (.ok ()) fun error => .error (topicFailure "subscribe" topic
        ("replacing subscription: " ++ error.message)) := by
  refine congrArg (Dialogue.bind _) (funext fun previous => ?_)
  cases previous with
  | none => rfl
  | some previous =>
    refine congrArg (Dialogue.bind _) (funext fun outcome => ?_)
    cases outcome <;> rfl

/-- **To end the subscription of a topic is one attempt.** -/
theorem attempted_release {α : Type} {ended : α} {kept : BusError → α} {value : α}
    (course : sequential.Course (release topic ended kept) world told value after) :
    ∃ attempt : Attempt Handle, attempt.topic = topic ∧ value = attempt.error?.elim ended kept ∧
      Attempted world [attempt] told after := by
  obtain ⟨rest, rfl, taken⟩ := course_enter course
  rw [State.answer_take] at taken ⊢
  cases found : world.client.registry.lookup topic with
  | none =>
    rw [found] at taken
    obtain ⟨rfl, rfl, rfl⟩ := Scene.course_done.mp taken
    have same : State.without world.client.registry topic = world.client.registry :=
      without_of_lookup_none found
    have alone : (Attempt.absent topic : Attempt Handle).handle? =
        world.client.registry.lookup topic := found.symm
    refine ⟨.absent topic, rfl, rfl, rfl, turns_singleton alone, fun other => ?_,
      fun level => ?_, rfl⟩
    · exact ⟨fun freed => absurd freed freed_absent, fun _ => congrArg (List.lookup other) same⟩
    · show Level (State.without world.client.registry topic) world.live
      rwa [same]
  | some handle =>
    rw [found] at taken
    obtain ⟨outcome, next, rest, rfl, answered, stopped⟩ := course_call taken
    cases outcome with
    | ok _ =>
      obtain ⟨rfl, rfl, rfl⟩ := Scene.course_done.mp stopped
      cases answered
      have alone : (Attempt.stopped topic handle).handle? = world.client.registry.lookup topic :=
        found.symm
      refine ⟨.stopped topic handle, rfl, rfl, rfl, turns_singleton alone, fun other => ?_,
        fun level => level.stop found, rfl⟩
      rw [freed_stopped]
      show (_ → (State.without _ topic).lookup other = none) ∧
        (_ → (State.without _ topic).lookup other = _)
      rw [State.lookup_without]
      exact ⟨fun same => if_pos same, fun apart => if_neg apart⟩
    | error error =>
      -- What was taken is put back behind the others: the registry is permuted, and every topic has
      -- the subscription that it had.
      obtain ⟨rest, rfl, restored⟩ := course_enter stopped
      obtain ⟨rfl, rfl, rfl⟩ := Scene.course_done.mp restored
      cases answered
      have alone : (Attempt.failed topic handle error).handle? =
        world.client.registry.lookup topic := found.symm
      refine ⟨.failed topic handle error, rfl, rfl, rfl, turns_singleton alone,
        fun other => ⟨fun freed => absurd freed freed_failed, fun _ => ?_⟩, fun level => ?_, ?_⟩
      · rw [answer_restore_take]
        show (State.without _ topic ++ [(topic, handle)]).lookup other = _
        rw [State.lookup_append_entry _ _ _ _ lookup_without_self, State.lookup_without]
        by_cases same : other = topic
        · rw [if_pos same, same, found]
        · rw [if_neg same, if_neg same]
      · rw [answer_restore_take]
        exact level.restore found
      · rw [answer_restore_take]

/-- **An unsubscribe is an attempt for each topic**, in order, whatever fails. -/
theorem attempted_unsubscribeTopics {topics : List String} {failures : List BusError}
    (course : sequential.Course (unsubscribeTopics topics) world told failures after) :
    ∃ attempts : List (Attempt Handle), attempts.map Attempt.topic = topics ∧
      failures = attempts.filterMap Attempt.failure? ∧ Attempted world attempts told after := by
  induction topics generalizing world told failures with
  | nil =>
    obtain ⟨rfl, rfl, rfl⟩ := Scene.course_done.mp course
    exact ⟨[], rfl, rfl, attempted_nil _⟩
  | cons topic topics ih =>
    obtain ⟨_, _, between, _, rfl, first, further⟩ := Scene.course_bind.mp course
    obtain ⟨_, _, last, _, rfl, rest, ended⟩ := Scene.course_bind.mp further
    obtain ⟨rfl, rfl, rfl⟩ := Scene.course_done.mp ended
    rw [unsubscribeTopic_eq] at first
    obtain ⟨attempt, rfl, rfl, attempted⟩ := attempted_release first
    obtain ⟨attempts, rfl, rfl, attemptedRest⟩ := ih rest
    rw [List.append_nil]
    refine ⟨attempt :: attempts, rfl, ?_, attempted.cons attemptedRest⟩
    cases attempt <;> rfl

end Attempts

end MessageBus.Nats.Client

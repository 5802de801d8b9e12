/-
**Requests that run at the same time.** Any number of requests on one core connection do not meet.

* `Entries` — the registry while every request has at most an entry of its own.
* `Isolated` — the invariant: entries, flow, what was received, and which failures there were.
* `isolated_keeps` — every turn of a request and everything else that may happen keep it.
* `requests_isolated` — **requests stay isolated**: a reply that a request returns was read from a
  message under its own response subject, and when all have returned and every subscription could be
  stopped, the registry is as it was.
-/

import MessageBus.Proofs.Nats.Flow
import MessageBus.Proofs.Nats.Registry

namespace MessageBus.Nats.Inquiry

open CoreLink

variable {ι : Type}

/-! ### The registry -/

/-- The registry while every request has at most an entry of its own. -/
structure Entries (calls : ι → RequestCall) (entries : ι → Option Nat)
    (before state : Client.State Nat) : Prop where
  /-- The session is open. -/
  connected : ∃ connection, state.session = .connected connection
  /-- The entries of the response topics are those of the requests. -/
  own : ∀ who, state.registry.lookup (topic (calls who)) = entries who
  /-- Every other topic has the entry that it had before. -/
  foreign : ∀ other, (∀ who, other ≠ topic (calls who)) →
    state.registry.lookup other = before.registry.lookup other

/-- Identifiers of requests that run at the same time differ. -/
def AreDistinct (calls : ι → RequestCall) : Prop :=
  ∀ who other, (calls who).envelope.requestId = (calls other).envelope.requestId → who = other

section Topics

variable {calls : ι → RequestCall}

/-- Different requests have different response subjects. -/
theorem subject_injective (plain : ArePlain calls) (distinct : AreDistinct calls) {who other : ι}
    (same : subject (calls who) = subject (calls other)) : who = other :=
  distinct who other (responseSubject_injective (plain who).2 (plain other).2 same)

/-- Different requests have different response topics. -/
theorem topic_injective (plain : ArePlain calls) (distinct : AreDistinct calls) {who other : ι}
    (same : topic (calls who) = topic (calls other)) : who = other :=
  subject_injective plain distinct (congrArg topicToSubject same)

end Topics

variable {options : Options} {calls : ι → RequestCall} {entries : ι → Option Nat}
  {before state : Client.State Nat}

/-- A change of the entry of a response topic is a change of the entry of its request. -/
theorem Entries.set [DecidableEq ι] (plain : ArePlain calls) (distinct : AreDistinct calls)
    (known : Entries calls entries before state) {who : ι} {entry : Option Nat}
    {after : Client.State Nat} (session : after.session = state.session)
    (changed : ∀ other, after.registry.lookup other =
      if other = topic (calls who) then entry else state.registry.lookup other) :
    Entries calls (Function.update entries who entry) before after where
  connected := by
    rw [session]
    exact known.connected
  own other := by
    rw [changed]
    by_cases mine : other = who
    · rw [mine, if_pos rfl, Function.update_self]
    · have different : topic (calls other) ≠ topic (calls who) :=
        fun same => mine (topic_injective plain distinct same)
      rw [if_neg different, Function.update_of_ne mine, known.own]
  foreign other different := by
    rw [changed, if_neg (different who), known.foreign other different]

/-! ### The invariant -/

/-- Whether an answer says that a native unsubscribe failed. -/
def isFailure : Moment (ScriptedServer.operating Nat) CoreLink → Bool
  | ⟨_, .inr (.inl (.awaitEnd _ _)), ended⟩ => !ended
  | _ => false

/-- A native unsubscribe failed. -/
def HasFailed (log : Chronicle ι) : Prop :=
  (moments log).any isFailure = true

theorem HasFailed.append {log : Chronicle ι} (failed : HasFailed log) (extra : Chronicle ι) :
    HasFailed (log ++ extra) := by
  unfold HasFailed at failed ⊢
  rw [moments_append, List.any_append, failed, Bool.true_or]

/-- Requests that do not meet. -/
structure Isolated (options : Options) (calls : ι → RequestCall) (before : Client.State Nat)
    (phases : ι → Phase) (log : Chronicle ι) (world : CoreLink) : Prop where
  /-- The registry has the entries of the requests and those from before. -/
  entries : Entries calls (fun who => (phases who).handle?) before world.client
  /-- The queues of requests get what was sent to them. -/
  flow : Flow options calls (fun who => (phases who).queues?) log world.place world.subscriptions
  /-- What a request received was sent to it. -/
  received : ∀ who envelope, (phases who).received? = some envelope →
    Genuine options log (calls who) envelope
  /-- A request that keeps its subscription could not stop it. -/
  failed : ∀ who, (phases who).hasFailed → HasFailed log

variable [DecidableEq ι] {phases : ι → Phase} {log : Chronicle ι} {world after : CoreLink}
  {who : ι}

/-- What is known of the phases after a turn, by what is known of the new one. -/
theorem Isolated.turn {phase : Phase}
    {moment : Moment (ScriptedServer.operating Nat) CoreLink}
    (isolated : Isolated options calls before phases log world)
    (entries : Entries calls (Function.update (fun other => (phases other).handle?) who
      phase.handle?) before after.client)
    (flow : Flow options calls (Function.update (fun other => (phases other).queues?) who
      phase.queues?) log after.place after.subscriptions)
    (received : ∀ envelope, phase.received? = some envelope →
      Genuine options log (calls who) envelope)
    (failed : phase.hasFailed → HasFailed (log ++ [.turn who moment])) :
    Isolated options calls before (Function.update phases who phase)
      (log ++ [.turn who moment]) after where
  entries := by
    have same : (fun other => (Function.update phases who phase other).handle?) =
        Function.update (fun other => (phases other).handle?) who phase.handle? := by
      funext other
      exact Function.apply_update (fun _ => Phase.handle?) phases who phase other
    rw [same]
    exact entries
  flow := by
    have same : (fun other => (Function.update phases who phase other).queues?) =
        Function.update (fun other => (phases other).queues?) who phase.queues? := by
      funext other
      exact Function.apply_update (fun _ => Phase.queues?) phases who phase other
    rw [same]
    exact flow.append _
  received other envelope has := by
    by_cases mine : other = who
    · subst mine
      rw [Function.update_self] at has
      exact (received envelope has).append
    · rw [Function.update_of_ne mine] at has
      exact (isolated.received other envelope has).append
  failed other has := by
    by_cases mine : other = who
    · subst mine
      rw [Function.update_self] at has
      exact failed has
    · rw [Function.update_of_ne mine] at has
      exact (isolated.failed other has).append _

/-- A turn that leaves the phase. -/
theorem Isolated.stay {phase : Phase}
    {moment : Moment (ScriptedServer.operating Nat) CoreLink}
    (isolated : Isolated options calls before phases log world) (here : phases who = phase)
    (entries : Entries calls (fun other => (phases other).handle?) before after.client)
    (flow : Flow options calls (fun other => (phases other).queues?) log after.place
      after.subscriptions) :
    Isolated options calls before (Function.update phases who phase)
      (log ++ [.turn who moment]) after := by
  subst here
  refine isolated.turn ?_ ?_ (isolated.received who) fun has => (isolated.failed who has).append _
  · rw [Function.update_eq_self who fun other => (phases other).handle?]
    exact entries
  · rw [Function.update_eq_self who fun other => (phases other).queues?]
    exact flow

/-- A request whose entry stays leaves the entries. -/
theorem Entries.stay {state : Client.State Nat}
    (entries : Entries calls (fun other => (phases other).handle?) before state)
    {handle : Option Nat} (same : (phases who).handle? = handle) :
    Entries calls (Function.update (fun other => (phases other).handle?) who handle) before
      state := by
  rw [← same, Function.update_eq_self who fun other => (phases other).handle?]
  exact entries

/-- A request that keeps its queues, or gives them up, leaves the flow. -/
theorem Flow.stay {place : Workplace} {subscriptions : List Subscription}
    (flow : Flow options calls (fun other => (phases other).queues?) log place subscriptions)
    {queues : Option Queues} (kept : ∀ own, queues = some own → (phases who).queues? = some own) :
    Flow options calls (Function.update (fun other => (phases other).queues?) who queues) log place
      subscriptions := by
  refine flow.forget fun other own has => ?_
  by_cases mine : other = who
  · subst mine
    rw [Function.update_self] at has
    exact kept own has
  · rwa [Function.update_of_ne mine] at has

/-! ### What the turns of requests keep -/

section Turns

variable {supply : Nat → String} {queues : Queues} {handle : Nat} {reply : Option Envelope}

/-- A request opens its queues. -/
theorem Isolated.openQueues {answer : Queues}
    (isolated : Isolated options calls before phases log world) (idle : phases who = .idle)
    (answered : (scene supply options).answers (.inr (.inr (.openQueues 1))) world answer after) :
    Isolated options calls before (Function.update phases who (.opened answer))
      (log ++ [.turn who ⟨world, .inr (.inr (.openQueues 1)), answer⟩]) after := by
  obtain ⟨place, opened, rfl⟩ := answered
  cases opened
  refine isolated.turn (isolated.entries.stay ?_) (isolated.flow.opens 1 rfl rfl) nofun nofun
  rw [idle]
  rfl

/-- A request subscribes its response topic. -/
theorem Isolated.subscribe {answer : Except String Nat}
    (isolated : Isolated options calls before phases log world)
    (opened : phases who = .opened queues)
    (answered : (scene supply options).answers (.inr (.inl (.subscribe (subject (calls who))
      options.queueGroup (delivery options (calls who) queues)))) world answer after) :
    Isolated options calls before (Function.update phases who (next (.opened queues)
        (.inr (.inl (.subscribe (subject (calls who)) options.queueGroup
          (delivery options (calls who) queues)))) answer))
      (log ++ [.turn who ⟨world, .inr (.inl (.subscribe (subject (calls who)) options.queueGroup
        (delivery options (calls who) queues))), answer⟩]) after := by
  have has : (phases who).queues? = some queues := by
    rw [opened]
    rfl
  cases answer with
  | error words =>
    cases answered
    refine isolated.turn (isolated.entries.stay ?_) (isolated.flow.stay nofun) nofun nofun
    rw [opened]
    rfl
  | ok handle =>
    obtain ⟨rfl, rfl⟩ := answered
    refine isolated.turn (isolated.entries.stay ?_) (Flow.stay ?_ ?_) nofun nofun
    · rw [opened]
      rfl
    · exact isolated.flow.subscribe has options.queueGroup
    · rintro own ⟨⟩
      exact has

/-- A request finds no entry of its topic before it has registered one. -/
theorem Isolated.vacate {answer : Option Nat} (plain : ArePlain calls)
    (distinct : AreDistinct calls) (isolated : Isolated options calls before phases log world)
    (opened : phases who = .opened queues)
    (answered : (scene supply options).answers (.inl (.take (topic (calls who)))) world answer
      after) :
    answer = none ∧ Isolated options calls before (Function.update phases who (.opened queues))
      (log ++ [.turn who ⟨world, .inl (.take (topic (calls who))), answer⟩]) after := by
  obtain ⟨rfl, rfl⟩ := answered
  have vacant : (phases who).handle? = none := by
    rw [opened]
    rfl
  refine ⟨(isolated.entries.own who).trans vacant, isolated.stay opened ?_ isolated.flow⟩
  have taken : Entries calls (Function.update (fun other => (phases other).handle?) who none) before
      (world.client.answer (.take (topic (calls who)))).2 :=
    isolated.entries.set plain distinct rfl
      fun other => Client.State.lookup_take _ (topic (calls who)) other
  rwa [← vacant, Function.update_eq_self who fun other => (phases other).handle?] at taken

/-- A request registers its subscription, and displaces none. -/
theorem Isolated.register {answer : Option Nat} (plain : ArePlain calls)
    (distinct : AreDistinct calls) (isolated : Isolated options calls before phases log world)
    (subscribed : phases who = .subscribed queues handle)
    (answered : (scene supply options).answers (.inl (.register (topic (calls who)) handle)) world
      answer after) :
    answer = none ∧ Isolated options calls before
      (Function.update phases who (.registered queues handle none))
      (log ++ [.turn who ⟨world, .inl (.register (topic (calls who)) handle), answer⟩])
      after := by
  obtain ⟨rfl, rfl⟩ := answered
  have vacant : (phases who).handle? = none := by
    rw [subscribed]
    rfl
  refine ⟨(isolated.entries.own who).trans vacant, isolated.turn ?_ (isolated.flow.stay ?_) nofun
    nofun⟩
  · exact isolated.entries.set plain distinct rfl
      fun other => Client.State.lookup_register _ (topic (calls who)) other handle
  · rw [subscribed]
    exact fun own has => has

/-- A request waits; what it receives was sent to it. -/
theorem Isolated.await {answer : Arrival} {deadline : Nat}
    (isolated : Isolated options calls before phases log world)
    (registered : phases who = .registered queues handle reply)
    (answered : (scene supply options).answers (.inr (.inr (.await queues deadline))) world answer
      after) :
    Isolated options calls before (Function.update phases who
        (next (.registered queues handle reply) (.inr (.inr (.await queues deadline))) answer))
      (log ++ [.turn who ⟨world, .inr (.inr (.await queues deadline)), answer⟩]) after := by
  obtain ⟨place, arrived, rfl⟩ := answered
  obtain ⟨length, fewer, arrival⟩ := Workplace.arrival?_eq_some arrived
  have flow := isolated.flow.takes length fewer
  have has : (phases who).queues? = some queues := by
    rw [registered]
    rfl
  cases answer with
  | message envelope =>
    refine isolated.turn (isolated.entries.stay ?_) (flow.stay ?_) ?_ nofun
    · rw [registered]
      rfl
    · rintro own ⟨⟩
      exact has
    · rintro _ ⟨⟩
      exact isolated.flow.waiting who queues has envelope (arrival envelope rfl)
  | error error => exact isolated.stay registered isolated.entries flow
  | deadline => exact isolated.stay registered isolated.entries flow

/-- A request closes its queues. -/
theorem Isolated.close {answer : Unit}
    (isolated : Isolated options calls before phases log world)
    (registered : phases who = .registered queues handle reply)
    (answered : (scene supply options).answers (.inr (.inr (.close queues))) world answer after) :
    Isolated options calls before
      (Function.update phases who (.registered queues handle reply))
      (log ++ [.turn who ⟨world, .inr (.inr (.close queues)), answer⟩]) after := by
  obtain ⟨place, closed, rfl⟩ := answered
  cases closed
  refine isolated.stay registered isolated.entries (isolated.flow.takes ?_ ?_)
  · exact List.length_modify _ _ _
  · intro number envelope waits
    rwa [Queue.waiting_modify_close] at waits

/-- A request takes its own subscription. -/
theorem Isolated.take {answer : Option Nat} (plain : ArePlain calls)
    (distinct : AreDistinct calls) (isolated : Isolated options calls before phases log world)
    (registered : phases who = .registered queues handle reply)
    (answered : (scene supply options).answers (.inl (.take (topic (calls who)))) world answer
      after) :
    answer = some handle ∧ Isolated options calls before
      (Function.update phases who (.taken handle reply))
      (log ++ [.turn who ⟨world, .inl (.take (topic (calls who))), answer⟩]) after := by
  obtain ⟨rfl, rfl⟩ := answered
  have own : (phases who).handle? = some handle := by
    rw [registered]
    rfl
  refine ⟨(isolated.entries.own who).trans own, isolated.turn ?_ (isolated.flow.stay nofun) ?_
    nofun⟩
  · exact isolated.entries.set plain distinct rfl
      fun other => Client.State.lookup_take _ (topic (calls who)) other
  · have received := isolated.received who
    rw [registered] at received
    exact received

/-- A request asks its delivery loop to stop. -/
theorem Isolated.signalStop {answer : Bool}
    (isolated : Isolated options calls before phases log world)
    (taken : phases who = .taken handle reply)
    (answered : (scene supply options).answers (.inr (.inl (.signalStop handle))) world answer
      after) :
    Isolated options calls before (Function.update phases who
        (next (.taken handle reply) (.inr (.inl (.signalStop handle))) answer))
      (log ++ [.turn who ⟨world, .inr (.inl (.signalStop handle)), answer⟩]) after := by
  obtain ⟨-, rfl⟩ := answered
  have flow : Flow options calls (fun other => (phases other).queues?) log world.place
      (world.modify handle fun subscription => { subscription with
        loop := { subscription.loop with stopping := true } }).subscriptions :=
    isolated.flow.signal handle (fun loop => { loop with stopping := true }) fun _ => rfl
  have received := isolated.received who
  rw [taken] at received
  cases answer with
  | true => exact isolated.stay taken isolated.entries flow
  | false =>
    refine isolated.turn (isolated.entries.stay ?_) (flow.stay nofun) received nofun
    rw [taken]
    rfl

/-- A request waits for the end of its delivery loop. -/
theorem Isolated.awaitEnd {answer : Bool} {deadline : Nat}
    (isolated : Isolated options calls before phases log world)
    (taken : phases who = .taken handle reply)
    (answered : (scene supply options).answers (.inr (.inl (.awaitEnd handle deadline))) world
      answer after) :
    Isolated options calls before (Function.update phases who
        (next (.taken handle reply) (.inr (.inl (.awaitEnd handle deadline))) answer))
      (log ++ [.turn who ⟨world, .inr (.inl (.awaitEnd handle deadline)), answer⟩]) after := by
  obtain ⟨-, -, rfl⟩ := answered
  have received := isolated.received who
  have vacant : (phases who).handle? = none := by
    rw [taken]
    rfl
  rw [taken] at received
  cases answer with
  | true =>
    exact isolated.turn (isolated.entries.stay vacant) (isolated.flow.stay nofun) received nofun
  | false =>
    refine isolated.turn (isolated.entries.stay vacant) (isolated.flow.stay nofun) received
      fun _ => ?_
    unfold HasFailed
    rw [moments_append, List.any_append, moments_turn]
    exact Bool.or_true _

/-- A request puts its subscription back. -/
theorem Isolated.restore {answer : Unit} (plain : ArePlain calls) (distinct : AreDistinct calls)
    (isolated : Isolated options calls before phases log world)
    (refused : phases who = .refused handle reply)
    (answered : (scene supply options).answers (.inl (.restore (topic (calls who)) handle)) world
      answer after) :
    Isolated options calls before (Function.update phases who (.kept handle reply))
      (log ++ [.turn who ⟨world, .inl (.restore (topic (calls who)) handle), answer⟩])
      after := by
  obtain ⟨-, rfl⟩ := answered
  have missing : world.client.registry.lookup (topic (calls who)) = none := by
    rw [isolated.entries.own who, refused]
    rfl
  have received := isolated.received who
  have failed := isolated.failed who
  rw [refused] at received failed
  refine isolated.turn ?_ (isolated.flow.stay nofun) received fun _ => (failed trivial).append _
  refine isolated.entries.set plain distinct ?_
    fun other => Client.State.lookup_restore _ (topic (calls who)) other handle missing
  simp [Client.State.answer, missing]

/-- **Every turn of a request, and whatever else happens, keeps requests apart.** -/
theorem isolated_keeps (plain : ArePlain calls) (distinct : AreDistinct calls)
    (before : Client.State Nat) :
    (scene supply options).Keeps (fun who => protocol options (calls who))
      (Isolated options calls before) where
  incident := by
    intro phases log world what after isolated happened
    obtain ⟨flow, client⟩ := isolated.flow.incident plain happened
    refine ⟨?_, flow, fun who envelope has => (isolated.received who envelope has).append,
      fun who has => (isolated.failed who has).append _⟩
    rw [client]
    exact isolated.entries
  turn := by
    intro phases log world who question answer after isolated permitted answered
    change Permits options (calls who) (phases who) question at permitted
    show Expects (phases who) question answer ∧ Isolated options calls before
      (Function.update phases who (next (phases who) question answer)) _ _
    generalize here : phases who = phase at permitted
    cases permitted with
    | openQueues => exact ⟨trivial, isolated.openQueues here answered⟩
    | look =>
      obtain ⟨rfl, rfl⟩ := answered
      have connected := isolated.entries.connected
      rw [next_session]
      exact ⟨by cases phase <;> exact connected,
        isolated.stay here isolated.entries isolated.flow⟩
    | vacate queues => exact isolated.vacate plain distinct here answered
    | subscribe queues => exact ⟨trivial, isolated.subscribe here answered⟩
    | register queues handle => exact isolated.register plain distinct here answered
    | publish phase message =>
      cases answered
      rw [next_publish]
      exact ⟨by cases phase <;> trivial, isolated.stay here isolated.entries isolated.flow⟩
    | timeIn phase milliseconds =>
      obtain ⟨place, counted, rfl⟩ := answered
      cases counted
      rw [next_timeIn]
      exact ⟨by cases phase <;> trivial, isolated.stay here isolated.entries isolated.flow⟩
    | await queues handle reply deadline => exact ⟨trivial, isolated.await here answered⟩
    | close queues handle reply => exact ⟨trivial, isolated.close here answered⟩
    | take queues handle reply => exact isolated.take plain distinct here answered
    | signalStop handle reply => exact ⟨trivial, isolated.signalStop here answered⟩
    | awaitEnd handle reply deadline => exact ⟨trivial, isolated.awaitEnd here answered⟩
    | restore handle reply => exact ⟨trivial, isolated.restore plain distinct here answered⟩

end Turns

/-! ### Requests stay isolated -/

/-- A client that is ready for requests: it is connected, and their response topics are not
registered. -/
structure Ready (options : Options) (calls : ι → RequestCall) (world : CoreLink) : Prop where
  /-- The session is open. -/
  connected : ∃ connection, world.client.session = .connected connection
  /-- No response topic is registered. -/
  unregistered : ∀ who, world.client.registry.lookup (topic (calls who)) = none
  /-- The subscriptions so far are in order. -/
  order : InOrder options world.place world.subscriptions

omit [DecidableEq ι] in
/-- Before anything has happened, requests are apart. -/
theorem Ready.isolated (ready : Ready options calls world) :
    Isolated options calls world.client (fun _ => .idle) [] world where
  entries := ⟨ready.connected, ready.unregistered, fun _ _ => rfl⟩
  flow := ⟨ready.order, nofun, nofun, nofun, nofun⟩
  received := nofun
  failed := nofun

section Runs

variable {supply : Nat → String} {start : CoreLink}
  {pool : ι → Dialogue (ScriptedServer.operating Nat) (BusResult Envelope)}

/-- Throughout a run requests are apart, and each keeps to its protocol. -/
theorem exists_isolated (plain : ArePlain calls) (distinct : AreDistinct calls)
    (ready : Ready options calls start)
    (run : (scene supply options).Run (fun who => activity supply options (calls who)) start log
      pool after) :
    ∃ phases, Isolated options calls start.client phases log after ∧
      ∀ who, (pool who).Follows (protocol options (calls who)) Ends (phases who) :=
  run.invariant (isolated_keeps plain distinct start.client) ready.isolated
    fun who => follows_activity supply (by simpa using (plain who).2.1)

omit [DecidableEq ι] in
/-- When all requests have returned and no native unsubscribe has failed, the registry is as it
was before them. -/
theorem Isolated.lookup_eq (isolated : Isolated options calls before phases log world)
    (follow : ∀ who, (pool who).Follows (protocol options (calls who)) Ends (phases who))
    (returned : ∀ who, ∃ result, pool who = .done result) (smooth : ¬ HasFailed log)
    (unregistered : ∀ who, before.registry.lookup (topic (calls who)) = none) (other : String) :
    world.client.registry.lookup other = before.registry.lookup other := by
  have released : ∀ who, (phases who).handle? = none := by
    intro who
    obtain ⟨result, done⟩ := returned who
    have ends := follow who
    have failed := isolated.failed who
    rw [done] at ends
    cases phase : phases who with
    | ended => rfl
    | kept =>
      rw [phase] at failed
      exact absurd (failed trivial) smooth
    | idle | opened | subscribed | registered | taken | refused =>
      rw [phase] at ends
      exact ends.1.elim
  by_cases own : ∃ who, other = topic (calls who)
  · obtain ⟨who, rfl⟩ := own
    rw [isolated.entries.own, released, unregistered]
  · exact isolated.entries.foreign other fun who same => own ⟨who, same⟩

/-- **Requests stay isolated**, however many run at the same time and in whatever order they take
turns and messages arrive. A reply that a request returns was read from a message under its own
response subject, which is that of no other request. When all have returned and every native
unsubscribe has succeeded, no response topic is registered, and every other topic has the entry
that it had before. -/
theorem requests_isolated (plain : ArePlain calls) (distinct : AreDistinct calls)
    (ready : Ready options calls start)
    (run : (scene supply options).Run (fun who => activity supply options (calls who)) start log
      pool after) :
    (∀ who envelope, pool who = .done (.ok envelope) → ∃ handle message,
      .incident (.arrive handle message) ∈ log ∧ message.subject = subject (calls who) ∧
      (∀ other, other ≠ who → message.subject ≠ subject (calls other)) ∧
      unmarshal options.format message = .ok envelope) ∧
    ((∀ who, ∃ result, pool who = .done result) → ¬ HasFailed log →
      (∀ who, after.client.registry.lookup (topic (calls who)) = none) ∧
      ∀ other, after.client.registry.lookup other = start.client.registry.lookup other) := by
  obtain ⟨phases, isolated, follow⟩ := exists_isolated plain distinct ready run
  refine ⟨fun who envelope reply => ?_, fun returned smooth => ?_⟩
  · have ends := follow who
    rw [reply] at ends
    obtain ⟨message, ⟨handle, arrived, own⟩, read⟩ :=
      isolated.received who envelope (ends.2 envelope rfl)
    refine ⟨handle, message, arrived, own, fun other different same => ?_, read⟩
    exact different (subject_injective plain distinct (own.symm.trans same)).symm
  · have same := isolated.lookup_eq follow returned smooth ready.unregistered
    exact ⟨fun who => (same _).trans (ready.unregistered who), same⟩

end Runs

/-- Two requests that publish to one topic and have one base. -/
def duet : Fin 2 → RequestCall
  | 0 => { envelope := { requestId := "a" }, topic := "ask", base := "r", timeout := 10 }
  | 1 => { envelope := { requestId := "b" }, topic := "ask", base := "r", timeout := 10 }

/-- A client that has just connected. -/
def online : CoreLink :=
  { client := { session := .connected 0 } }

/-- Both have subscribed before either publishes. The first gets its reply; the second cannot
publish. Both end their subscriptions. -/
theorem exists_duet :
    ∃ (log : Chronicle (Fin 2)) (pool : Fin 2 →
        Dialogue (ScriptedServer.operating Nat) (BusResult Envelope)) (after : CoreLink)
      (reply : Envelope),
      (scene Identifier.numbered {}).Run (fun who => activity Identifier.numbered {} (duet who))
        online log pool after ∧
      pool 0 = .done (.ok reply) ∧ (∀ who, ∃ result, pool who = .done result) ∧
      ¬ HasFailed log := by
  have idle : (scene Identifier.numbered {}).Run
      (fun who => activity Identifier.numbered {} (duet who)) online []
      (fun who => activity Identifier.numbered {} (duet who)) online := .start
  have first := ((((idle.step 0 rfl ⟨0, 0⟩ ⟨_, rfl, rfl⟩).step 0 rfl (.connected 0)
    ⟨rfl, rfl⟩).step 0 rfl none ⟨rfl, rfl⟩).step 0 rfl (.ok 0) ⟨rfl, rfl⟩).step 0 rfl none
    ⟨rfl, rfl⟩
  have second := ((((first.step 1 rfl ⟨1, 1⟩ ⟨_, rfl, rfl⟩).step 1 rfl (.connected 0)
    ⟨rfl, rfl⟩).step 1 rfl none ⟨rfl, rfl⟩).step 1 rfl (.ok 1) ⟨rfl, rfl⟩).step 1 rfl none
    ⟨rfl, rfl⟩
  have asked := ((second.step 0 rfl (.connected 0) ⟨rfl, rfl⟩).step 0 rfl (.ok ()) rfl).step 0
    rfl 10 ⟨_, rfl, rfl⟩
  have own : Subject.Matches "r.a" "r.a" :=
    .literal (by decide) (by decide) (.literal (by decide) (by decide) .nil)
  have delivered := ((asked.pass (.arrive 0 { subject := "r.a" }) ⟨_, rfl, own, rfl⟩).pass
    (.turn 0) ⟨_, _, _, rfl, rfl, rfl, rfl⟩).pass (.deliver 0)
    ⟨_, _, _, true, _, rfl, rfl, ⟨_, rfl, rfl⟩, rfl⟩
  have refused := (delivered.step 1 rfl (.connected 0) ⟨rfl, rfl⟩).step 1 rfl (.error "refused")
    rfl
  have closed := ((refused.step 0 rfl (.message _) ⟨_, rfl, rfl⟩).step 1 rfl () ⟨_, rfl, rfl⟩).step
    0 rfl () ⟨_, rfl, rfl⟩
  have taken := (((closed.step 0 rfl (.connected 0) ⟨rfl, rfl⟩).step 0 rfl (some 0)
    ⟨rfl, rfl⟩).step 1 rfl (.connected 0) ⟨rfl, rfl⟩).step 1 rfl (some 1) ⟨rfl, rfl⟩
  have stopped := (((taken.step 0 rfl true ⟨rfl, rfl⟩).step 1 rfl true ⟨rfl, rfl⟩).pass (.turn 0)
    ⟨_, _, _, rfl, rfl, rfl, rfl⟩).pass (.turn 1) ⟨_, _, _, rfl, rfl, rfl, rfl⟩
  have ended := (((stopped.step 0 rfl 5000 ⟨_, rfl, rfl⟩).step 1 rfl 5000 ⟨_, rfl, rfl⟩).step 1
    rfl true ⟨rfl, nofun, rfl⟩).step 0 rfl true ⟨rfl, nofun, rfl⟩
  refine ⟨_, _, _, _, ended, rfl, ?_, Bool.false_ne_true⟩
  intro who
  match who with
  | 0 | 1 => exact ⟨_, rfl⟩

/-- In such a run the reply was sent to the first request, and no topic stays registered. -/
theorem requests_isolated_duet :
    ArePlain duet ∧ AreDistinct duet ∧ Ready {} duet online ∧
    ∃ (log : Chronicle (Fin 2)) (pool : Fin 2 →
        Dialogue (ScriptedServer.operating Nat) (BusResult Envelope)) (after : CoreLink)
      (reply : Envelope),
      (scene Identifier.numbered {}).Run (fun who => activity Identifier.numbered {} (duet who))
        online log pool after ∧
      pool 0 = .done (.ok reply) ∧
      (∃ handle message, .incident (.arrive handle message) ∈ log ∧
        message.subject = subject (duet 0) ∧ message.subject ≠ subject (duet 1) ∧
        unmarshal .native message = .ok reply) ∧
      ∀ other, after.client.registry.lookup other = none := by
  obtain ⟨log, pool, after, reply, run, returns, returned, smooth⟩ := exists_duet
  have plain : ArePlain duet := by
    intro who
    match who with
    | 0 | 1 => simp [Topic.IsPlainBase, Subject.IsPlainId, Subject.isPlain, duet]
  have distinct : AreDistinct duet := by
    intro who other same
    match who, other with
    | 0, 0 | 1, 1 => rfl
    | 0, 1 | 1, 0 => exact absurd same (by decide)
  have ready : Ready {} duet online := ⟨⟨0, rfl⟩, fun _ => rfl, inOrder_nil _ _⟩
  obtain ⟨replies, releases⟩ := requests_isolated plain distinct ready run
  obtain ⟨handle, message, arrived, own, foreign, read⟩ := replies 0 reply returns
  exact ⟨plain, distinct, ready, log, pool, after, reply, run, returns,
    ⟨handle, message, arrived, own, foreign 1 (by decide), read⟩, (releases returned smooth).2⟩

end MessageBus.Nats.Inquiry

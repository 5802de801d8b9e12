/-
**Releasing a request.** A request that ends its subscription never waits for a delivery loop that
waits for it.

* `Grounds` — what a request has to stand on at each stage: its queues, its entry in the registry
  and its delivery loop.
* `Grounds.turn`, `Grounds.happens` — answers and everything else keep that; `exists_holds` — so a
  request has it in every run.
* `Goes` — something can go on for a request, other than giving up on the end of its delivery loop.
* `Unblocked` — a delivery loop whose end is waited for has no queue to wait for, and comes to its
  end by itself.
* `releases_never_stall` — **in no reachable state does a request stall** once it has subscribed.
-/

import MessageBus.Proofs.Nats.Registry
import MessageBus.Proofs.Nats.Tenure

namespace MessageBus.Nats

variable {Handle : Type}

namespace Tenure

/-- The queues of a request. -/
def queues? : Tenure Handle → Option Queues
  | .outset => none
  | .opened queues => some queues
  | .vacated queues _ => some queues
  | .listening queues _ _ => some queues
  | .registered queues _ _ => some queues
  | .released queues _ _ => some queues
  | .taken queues _ => some queues
  | .stopping queues _ => some queues

/-- Whether they are closed. -/
def isClosed : Tenure Handle → Bool
  | .released _ _ _ => true
  | .taken _ _ => true
  | .stopping _ _ => true
  | _ => false

/-- What the registry has under the topic of a request, as long as the request relies on it. -/
def entry? : Tenure Handle → Option (String × Option Handle)
  | .vacated _ topic => some (topic, none)
  | .listening _ topic _ => some (topic, none)
  | .registered _ topic handle => some (topic, some handle)
  | .released _ topic handle => some (topic, some handle)
  | _ => none

/-- The handle that a request has registered. -/
def handle? : Tenure Handle → Option Handle
  | .registered _ _ handle => some handle
  | .released _ _ handle => some handle
  | .taken _ handle => some handle
  | .stopping _ handle => some handle
  | _ => none

/-- The delivery loop of a request. -/
def loop? (carrier : Carrier Handle) : Tenure Handle → Option Nat
  | .listening _ _ loop => some loop
  | stage => stage.handle?.map carrier.loop

/-- Whether it has been told to stop. -/
def isTold : Tenure Handle → Bool
  | .stopping _ _ => true
  | _ => false

end Tenure

open Tenure

/-- What a request has to stand on. -/
structure Grounds (carrier : Carrier Handle) (stage : Tenure Handle) (world : Station Handle) :
    Prop where
  /-- Its queues are there, and closed at the end. -/
  stand : ∀ queues, stage.queues? = some queues → Stand queues stage.isClosed world.link.place
  /-- The registry has its entry. -/
  entry : ∀ topic entry, stage.entry? = some (topic, entry) →
    world.client.registry.lookup topic = entry
  /-- Its delivery loop feeds its queues, and is told to stop at the end. -/
  feeds : ∀ queues loop, stage.queues? = some queues → stage.loop? carrier = some loop →
    ∃ subscription, world.link.subscriptions[loop]? = some subscription ∧
      Feeds queues stage.isTold subscription

variable {carrier : Carrier Handle} {supply : Nat → String} {options : Options}
  {stage : Tenure Handle} {world after : Station Handle} {link : CoreLink}

/-- What answers leave is what a request stands on. -/
theorem Grounds.stay (grounds : Grounds carrier stage world)
    (stays : CoreLink.Stays world.link link) : Grounds carrier stage { world with link } where
  stand queues has := (grounds.stand queues has).stay stays.messages stays.errors
  entry := grounds.entry
  feeds queues loop has own := by
    obtain ⟨subscription, found, feeds⟩ := grounds.feeds queues loop has own
    obtain ⟨later, still, continues⟩ := stays.subscriptions loop subscription found
    exact ⟨later, still, feeds.continues continues⟩

/-- Whatever happens, a request has what it stands on. -/
theorem Grounds.happens {incident : CoreLink.Incident} (grounds : Grounds carrier stage world)
    (happened : (Station.scene carrier supply options).happens incident world after) :
    Grounds carrier stage after := by
  obtain ⟨link, happened, rfl⟩ := happened
  refine ⟨fun queues has => (grounds.stand queues has).happens happened, grounds.entry, ?_⟩
  intro queues loop has own
  obtain ⟨subscription, found, feeds⟩ := grounds.feeds queues loop has own
  exact feeds_of_happens happened found feeds

section Turns

variable {queues : Queues} {topic : String} {handle : Handle}

/-- A request that subscribes has a delivery loop for its queues, unless that fails. -/
theorem Grounds.subscribe {subject group : String} {delivery : Delivery}
    {answer : Except String Nat} (grounds : Grounds carrier (.vacated queues topic) world)
    (messages : delivery.messages = queues.messages) (errors : delivery.errors = queues.errors)
    (answered : (Station.scene carrier supply options).answers
      (.inr (.inl (.subscribe subject group delivery))) world answer after) :
    Grounds carrier (next (.vacated queues topic)
      (.inr (.inl (.subscribe subject group delivery))) answer) after := by
  obtain ⟨link, answered, rfl⟩ := answered
  have stays := grounds.stay (CoreLink.stays_of_answers answered)
  cases answer with
  | error words => exact stays
  | ok loop =>
    obtain ⟨rfl, rfl⟩ := answered
    refine ⟨stays.stand, stays.entry, ?_⟩
    rintro _ _ ⟨⟩ ⟨⟩
    exact ⟨_, List.getElem?_concat_length, feeds_new subject group messages errors⟩

/-- A request that registers its handle finds no other, and has its entry then. -/
theorem Grounds.register {answer : Option Handle}
    (grounds : Grounds carrier (.listening queues topic (carrier.loop handle)) world)
    (answered : (Station.scene carrier supply options).answers (.inl (.register topic handle)) world
      answer after) :
    answer = none ∧ Grounds carrier (.registered queues topic handle) after := by
  obtain ⟨rfl, rfl⟩ := answered
  refine ⟨grounds.entry topic none rfl, grounds.stand, ?_, ?_⟩
  · rintro _ _ ⟨⟩
    exact (Client.State.lookup_register _ topic topic handle).trans (if_pos rfl)
  · rintro _ _ ⟨⟩ ⟨⟩
    exact grounds.feeds queues _ rfl rfl

theorem Grounds.close {answer : Unit}
    (grounds : Grounds carrier (.registered queues topic handle) world)
    (answered : (Station.scene carrier supply options).answers (.inr (.inr (.close queues))) world
      answer after) :
    Grounds carrier (.released queues topic handle) after := by
  obtain ⟨link, answered, rfl⟩ := answered
  have stays := grounds.stay (CoreLink.stays_of_answers answered)
  refine ⟨?_, stays.entry, stays.feeds⟩
  obtain ⟨place, closed, rfl⟩ := answered
  rintro _ ⟨⟩
  exact (grounds.stand queues rfl).close closed

theorem Grounds.signalStop {answer : Bool} (grounds : Grounds carrier (.taken queues handle) world)
    (answered : (Station.scene carrier supply options).answers
      (.inr (.inl (.signalStop (carrier.loop handle)))) world answer after) :
    Grounds carrier (.stopping queues handle) after := by
  obtain ⟨link, answered, rfl⟩ := answered
  have stays := grounds.stay (CoreLink.stays_of_answers answered)
  refine ⟨stays.stand, nofun, ?_⟩
  obtain ⟨rfl, rfl⟩ := answered
  rintro _ _ ⟨⟩ ⟨⟩
  obtain ⟨subscription, found, feeds⟩ := grounds.feeds queues _ rfl rfl
  refine ⟨_, (List.getElem?_modify_eq _ _ _).trans (congrArg (Option.map _) found), ?_⟩
  exact { feeds with stopping := fun _ => rfl }

end Turns

/-- **Every answer that can come** leaves a request with what it stands on, and is one that it
expects. -/
theorem Grounds.turn {question : (ScriptedServer.operating Handle).Ask}
    {answer : (ScriptedServer.operating Handle).Answer question}
    (grounds : Grounds carrier stage world) (permitted : Permits carrier stage question)
    (answered : (Station.scene carrier supply options).answers question world answer after) :
    Expects stage question answer ∧ Grounds carrier (next stage question answer) after := by
  cases permitted with
  | look =>
    obtain ⟨rfl, rfl⟩ := answered
    rw [next_session]
    exact ⟨by cases stage <;> trivial, grounds⟩
  | inert _ inert =>
    obtain ⟨link, answered, rfl⟩ := answered
    rw [next_inert stage inert]
    exact ⟨by cases stage <;> trivial, grounds.stay (CoreLink.stays_of_answers answered)⟩
  | openQueues =>
    obtain ⟨_, ⟨place, opened, rfl⟩, rfl⟩ := answered
    refine ⟨trivial, ?_, nofun, nofun⟩
    rintro _ ⟨⟩
    exact stand_of_openQueues opened
  | vacate queues topic =>
    obtain ⟨rfl, rfl⟩ := answered
    refine ⟨trivial, grounds.stand, ?_, nofun⟩
    rintro _ _ ⟨⟩
    exact (Client.State.lookup_take _ topic topic).trans (if_pos rfl)
  | giveBack queues topic handle =>
    obtain ⟨rfl, rfl⟩ := answered
    exact ⟨trivial, grounds.stand, nofun, nofun⟩
  | signalOther early loop =>
    obtain ⟨link, answered, rfl⟩ := answered
    rw [next_signalStop early]
    exact ⟨by cases stage <;> trivial, grounds.stay (CoreLink.stays_of_answers answered)⟩
  | awaitOther early loop deadline =>
    obtain ⟨link, answered, rfl⟩ := answered
    rw [next_awaitEnd]
    exact ⟨by cases stage <;> trivial, grounds.stay (CoreLink.stays_of_answers answered)⟩
  | subscribe topic subject group messages errors =>
    exact ⟨trivial, grounds.subscribe messages errors answered⟩
  | register => exact grounds.register answered
  | close => exact ⟨trivial, grounds.close answered⟩
  | signalStop => exact ⟨trivial, grounds.signalStop answered⟩
  | take queues topic handle =>
    obtain ⟨rfl, rfl⟩ := answered
    exact ⟨grounds.entry topic _ rfl, grounds.stand, nofun, grounds.feeds⟩
  | restore queues topic handle =>
    obtain ⟨rfl, rfl⟩ := answered
    exact ⟨trivial, grounds.stand, nofun, grounds.feeds⟩
  | await | awaitEnd =>
    obtain ⟨link, answered, rfl⟩ := answered
    exact ⟨trivial, grounds.stay (CoreLink.stays_of_answers answered)⟩

/-! ### Runs -/

/-- What happens to a client while a request is under way. -/
abbrev Diary (Handle : Type) :=
  List (Event Unit (ScriptedServer.operating Handle) (Station Handle) CoreLink.Incident)

/-- A handle was registered. -/
def Registers (log : Diary Handle) (handle : Handle) : Prop :=
  ∃ moment ∈ moments log, ∃ topic, moment.question = .inl (.register topic handle)

/-- What a request stands on, and that its handle is the only one that was registered. -/
structure Holds (carrier : Carrier Handle) (stage : Tenure Handle) (log : Diary Handle)
    (world : Station Handle) : Prop where
  /-- What the request stands on. -/
  grounds : Grounds carrier stage world
  /-- Only its handle was registered. -/
  known : ∀ handle, Registers log handle → stage.handle? = some handle

/-- A request has a handle exactly from when it registers it. -/
theorem handle?_next {question : (ScriptedServer.operating Handle).Ask}
    (permitted : Permits carrier stage question)
    (answer : (ScriptedServer.operating Handle).Answer question) :
    (next stage question answer).handle? = stage.handle? ∧
        (∀ topic handle, question ≠ .inl (.register topic handle)) ∨
      ∃ topic handle, question = .inl (.register topic handle) ∧ stage.handle? = none ∧
        (next stage question answer).handle? = some handle := by
  cases permitted with
  | register queues topic handle => exact .inr ⟨topic, handle, rfl, rfl, rfl⟩
  | look => exact .inl ⟨by rw [next_session], nofun⟩
  | inert _ inert => exact .inl ⟨by rw [next_inert stage inert], nofun⟩
  | signalOther early loop => exact .inl ⟨by rw [next_signalStop early], nofun⟩
  | awaitOther early loop deadline => exact .inl ⟨by rw [next_awaitEnd], nofun⟩
  | subscribe => exact .inl ⟨by cases answer <;> rfl, nofun⟩
  | openQueues | vacate | giveBack | await | close | take | signalStop | awaitEnd | restore =>
    exact .inl ⟨rfl, nofun⟩

/-- Every turn and every incident keeps what a request stands on. -/
theorem holds_keeps (carrier : Carrier Handle) (supply : Nat → String) (options : Options) :
    (Station.scene carrier supply options).Keeps (fun _ : Unit => protocol carrier)
      fun stages => Holds carrier (stages ()) where
  turn := by
    intro stages log world who question answer later holds permitted answered
    obtain ⟨expected, grounds⟩ := holds.grounds.turn permitted answered
    refine ⟨expected, ?_⟩
    rw [Function.update_self]
    refine ⟨grounds, ?_⟩
    rintro handle ⟨moment, member, topic, asked⟩
    rw [moments_append] at member
    rcases List.mem_append.mp member with older | newer
    · have had := holds.known handle ⟨moment, older, topic, asked⟩
      -- a stage that has a handle keeps it: only one that has none may register
      rcases handle?_next permitted answer with ⟨same, -⟩ | ⟨_, _, -, none, -⟩
      · exact same.trans had
      · exact nomatch had.symm.trans none
    · cases List.mem_singleton.mp newer
      rcases handle?_next permitted answer with ⟨-, other⟩ | ⟨_, _, same, -, has⟩
      · exact absurd asked (other topic handle)
      · cases asked.symm.trans same
        exact has
  incident := by
    intro stages log world incident later holds happened
    refine ⟨holds.grounds.happens happened, ?_⟩
    rintro handle ⟨moment, member, registered⟩
    rw [moments_append] at member
    rcases List.mem_append.mp member with older | newer
    · exact holds.known handle ⟨moment, older, registered⟩
    · cases newer

/-- In every run a request is at some stage with what it stands on, and asks what it may ask. -/
theorem exists_holds {call : RequestCall} {start now : Station Handle} {log : Diary Handle}
    {pool : Unit → Dialogue (ScriptedServer.operating Handle) (BusResult Envelope)}
    (keeps : carrier.Keeps options)
    (run : (Station.scene carrier supply options).Run
      (fun _ => carrier.activity supply options call) start log pool now) :
    ∃ stage, Holds carrier stage log now ∧
      (pool ()).Follows (protocol carrier) (fun _ _ => True) stage := by
  have first : Holds carrier .outset ([] : Diary Handle) start :=
    ⟨⟨nofun, nofun, nofun⟩, fun _ ⟨_, member, _⟩ => nomatch member⟩
  have follow (who : Unit) : (carrier.activity supply options call).Follows (protocol carrier)
      (fun _ _ => True) ((fun _ => .outset : Unit → Tenure Handle) who) :=
    follows_activity keeps supply call
  obtain ⟨stages, holds, follows⟩ := run.invariant (holds_keeps carrier supply options) first follow
  exact ⟨stages (), holds, follows ()⟩

/-! ### Nothing stalls -/

/-- Whether an answer gives up on the end of a delivery loop. -/
def givesUp : (question : (ScriptedServer.operating Handle).Ask) →
    (ScriptedServer.operating Handle).Answer question → Bool
  | .inr (.inl (.awaitEnd _ _)), ended => !ended
  | _, _ => false

/-- Something can go on for a request that asks a question: an answer can come that does not give up
on a delivery loop, its own delivery loop can work, or its deadline is still ahead. -/
inductive Goes (carrier : Carrier Handle) (supply : Nat → String) (options : Options) (loop : Nat)
    (world : Station Handle) : (ScriptedServer.operating Handle).Ask → Prop
  /-- An answer can come. -/
  | answer {question : (ScriptedServer.operating Handle).Ask}
      (answer : (ScriptedServer.operating Handle).Answer question) (after : Station Handle)
      (answered : (Station.scene carrier supply options).answers question world answer after)
      (waits : givesUp question answer = false) : Goes carrier supply options loop world question
  /-- The delivery loop can work. -/
  | work {question : (ScriptedServer.operating Handle).Ask} (after : CoreLink)
      (works : Works carrier.style supply options loop world.link after) :
      Goes carrier supply options loop world question
  /-- The deadline is still ahead. -/
  | deadline (queues : Queues) (deadline : Nat) (ahead : world.link.place.now < deadline) :
      Goes carrier supply options loop world (.inr (.inr (.await queues deadline)))

/-- A delivery loop whose end is waited for. -/
structure Unblocked (carrier : Carrier Handle) (supply : Nat → String) (options : Options)
    (loop : Nat) (world : Station Handle) : Prop where
  /-- If it is busy, what it asks gets an answer: in particular, no queue makes it wait. -/
  free : ∃ subscription, world.link.subscriptions[loop]? = some subscription ∧
    ∀ question resume, subscription.busy = some (.ask question resume) →
      ∃ answer after, CoreLink.Answers supply question world.link answer after
  /-- It comes to its end by itself, and needs no time for it. -/
  ends : ∃ after, Relation.ReflTransGen (Works carrier.style supply options loop) world.link after ∧
    ∃ subscription, after.subscriptions[loop]? = some subscription ∧ subscription.ended

/-- A delivery loop of a request that is told to stop is not blocked. -/
theorem Grounds.unblocked {queues : Queues} {handle : Handle} (supply : Nat → String)
    (options : Options) (grounds : Grounds carrier (.stopping queues handle) world) :
    Unblocked carrier supply options (carrier.loop handle) world := by
  have stand := grounds.stand queues rfl
  obtain ⟨subscription, found, feeds⟩ := grounds.feeds queues _ rfl rfl
  refine ⟨⟨subscription, found, fun question resume working => ?_⟩,
    exists_ended carrier.style supply options found feeds stand⟩
  obtain ⟨answer, after, answered, -⟩ :=
    exists_answer_of_closed supply stand (feeds.busy _ working).1.1
  exact ⟨answer, after, answered⟩

theorem exists_answer_of_inert {question : Link.interface.work.Ask} (inert : IsInert question)
    (supply : Nat → String) (link : CoreLink) :
    ∃ answer after, CoreLink.Answers supply question link answer after ∧
      givesUp (.inr question : (ScriptedServer.operating Handle).Ask) answer = false := by
  cases question with
  | inl call =>
    cases call <;> first | exact inert.elim | exact ⟨.error "", link, rfl, rfl⟩
  | inr question =>
    cases question <;> first | exact inert.elim | exact ⟨_, _, ⟨_, rfl, rfl⟩, rfl⟩

/-- **Whatever a request asks once it has a handle**, something can go on. -/
theorem Grounds.goes {question : (ScriptedServer.operating Handle).Ask} {handle : Handle}
    (supply : Nat → String) (options : Options) (grounds : Grounds carrier stage world)
    (permitted : Permits carrier stage question) (has : stage.handle? = some handle) :
    Goes carrier supply options (carrier.loop handle) world question := by
  cases permitted with
  | look | take | restore => exact .answer _ _ ⟨rfl, rfl⟩ rfl
  | inert _ inert =>
    obtain ⟨answer, link, answered, smooth⟩ := exists_answer_of_inert inert supply world.link
    exact .answer answer _ ⟨link, answered, rfl⟩ smooth
  | close => exact .answer () _ ⟨_, ⟨_, rfl, rfl⟩, rfl⟩ rfl
  | signalStop => exact .answer _ _ ⟨_, ⟨rfl, rfl⟩, rfl⟩ rfl
  | await queues topic handle deadline =>
    cases arrival : world.link.place.arrival? queues deadline with
    | some arrived =>
      exact .answer arrived.1 _ ⟨_, ⟨arrived.2, arrival, rfl⟩, rfl⟩ rfl
    | none =>
      refine .deadline queues deadline (Nat.lt_of_not_le fun due => ?_)
      -- once the deadline is due there is an arrival, if only that nothing came in time
      have arrives := Request.arrival?_isSome queues due
      rw [arrival] at arrives
      cases arrives
  | awaitEnd queues own deadline =>
    cases has
    obtain ⟨after, steps, later, found, ended⟩ := (grounds.unblocked supply options).ends
    -- either the loop has already ended, or the first of its steps can be taken
    rcases steps.cases_head with rfl | ⟨next, works, -⟩
    · refine .answer true world ⟨world.link, ⟨?_, nofun, rfl⟩, rfl⟩ rfl
      rw [found]
      exact ended.symm
    · exact .work next works
  | openQueues | vacate | giveBack | subscribe | register => cases has
  | signalOther early | awaitOther early => cases stage <;> first | exact early.elim | cases has

/-- **No state of a request stalls**: once its handle is registered and until it returns, something
can go on other than giving up on its delivery loop; and when it waits for the end of a delivery
loop, that is its own, and is not blocked. -/
def NeverStalls (carrier : Carrier Handle) (supply : Nat → String) (options : Options)
    (call : RequestCall) : Prop :=
  ∀ start log pool now, (Station.scene carrier supply options).Run
      (fun _ : Unit => carrier.activity supply options call) start log pool now →
    ∀ handle, Registers log handle → ∀ question resume, pool () = .ask question resume →
      Goes carrier supply options (carrier.loop handle) now question ∧
        ∀ waited deadline, question = .inr (.inl (.awaitEnd waited deadline)) →
          waited = carrier.loop handle ∧ Unblocked carrier supply options waited now

theorem neverStalls_of_keeps {call : RequestCall} (keeps : carrier.Keeps options)
    (supply : Nat → String) : NeverStalls carrier supply options call := by
  intro start log pool now run handle registers question resume asks
  obtain ⟨stage, holds, follows⟩ := exists_holds keeps run
  rw [asks] at follows
  have has := holds.known handle registers
  refine ⟨holds.grounds.goes supply options follows.1 has, ?_⟩
  rintro waited deadline rfl
  cases follows.1 with
  | inert _ inert => exact inert.elim
  | awaitOther early =>
    cases stage <;> first | exact early.elim | cases has
  | awaitEnd queues own deadline =>
    cases has
    exact ⟨rfl, holds.grounds.unblocked supply options⟩

/-- **Releasing a request never stalls**, over core connections and over streams, whatever its
connection has to do besides, whatever arrives and when, and however acknowledgements end. -/
theorem releases_never_stall (supply : Nat → String) (options : Options) (call : RequestCall) :
    NeverStalls Carrier.core supply options call ∧
      NeverStalls Carrier.jetStream supply options call :=
  ⟨neverStalls_of_keeps (keeps_core options) supply,
    neverStalls_of_keeps (keeps_jetStream options) supply⟩

/-- A request whose responder answers more than once. -/
def repeated : RequestCall :=
  { envelope := { requestId := "a" }, topic := "ask", base := "r", timeout := 10 }

/-- A client over a core connection that has just connected. -/
def online : Station Nat :=
  { client := { session := .connected 0 } }

/-- The responder answers three times. When the request waits for the end of its delivery loop, the
loop is busy with the last reply, and there is no room for it in the queue. -/
theorem exists_repeated :
    ∃ (log : Diary Nat) (pool : Unit → Dialogue (ScriptedServer.operating Nat) (BusResult Envelope))
        (now : Station Nat) (resume : Bool → _) (subscription : Subscription) (envelope : Envelope)
        (next : Bool → _),
      (Station.scene Carrier.core Identifier.numbered {}).Run
        (fun _ => Carrier.core.activity Identifier.numbered {} repeated) online log pool now ∧
      Registers log 0 ∧ pool () = .ask (.inr (.inl (.awaitEnd 0 5000))) resume ∧
      now.link.subscriptions[0]? = some subscription ∧
      subscription.busy = some (.ask (.inr (.send 0 envelope)) next) ∧
      (now.link.place.messages[0]?.map fun queue => queue.items.length) = some 1 := by
  have idle : (Station.scene Carrier.core Identifier.numbered {}).Run
      (fun _ : Unit => Carrier.core.activity Identifier.numbered {} repeated)
      online []
      (fun _ => Carrier.core.activity Identifier.numbered {} repeated)
      online := .start
  have subscribed := ((((idle.step () rfl ⟨0, 0⟩ ⟨_, ⟨_, rfl, rfl⟩, rfl⟩).step () rfl
    (.connected 0) ⟨rfl, rfl⟩).step () rfl none ⟨rfl, rfl⟩).step () rfl (.ok 0)
    ⟨_, ⟨rfl, rfl⟩, rfl⟩).step () rfl none ⟨rfl, rfl⟩
  have asked := ((subscribed.step () rfl (.connected 0) ⟨rfl, rfl⟩).step () rfl (.ok ())
    ⟨_, rfl, rfl⟩).step () rfl 10 ⟨_, ⟨_, rfl, rfl⟩, rfl⟩
  have arrived := ((asked.pass (.arrive 0 { subject := "r.a" }) ⟨_, rfl, rfl⟩).pass
    (.arrive 0 { subject := "r.a" }) ⟨_, rfl, rfl⟩).pass (.arrive 0 { subject := "r.a" })
    ⟨_, rfl, rfl⟩
  have first := (arrived.pass (.turn 0) ⟨_, ⟨_, _, _, rfl, rfl, rfl, rfl⟩, rfl⟩).pass (.deliver 0)
    ⟨_, ⟨_, _, _, true, _, rfl, rfl, ⟨_, rfl, rfl⟩, rfl⟩, rfl⟩
  have received := first.step () rfl (.message _) ⟨_, ⟨_, rfl, rfl⟩, rfl⟩
  have second := (received.pass (.turn 0) ⟨_, ⟨_, _, _, rfl, rfl, rfl, rfl⟩, rfl⟩).pass (.deliver 0)
    ⟨_, ⟨_, _, _, true, _, rfl, rfl, ⟨_, rfl, rfl⟩, rfl⟩, rfl⟩
  have third := second.pass (.turn 0) ⟨_, ⟨_, _, _, rfl, rfl, rfl, rfl⟩, rfl⟩
  have closed := third.step () rfl () ⟨_, ⟨_, rfl, rfl⟩, rfl⟩
  have taken := (closed.step () rfl (.connected 0) ⟨rfl, rfl⟩).step () rfl (some 0) ⟨rfl, rfl⟩
  have told := (taken.step () rfl true ⟨_, ⟨rfl, rfl⟩, rfl⟩).step () rfl 5000
    ⟨_, ⟨_, rfl, rfl⟩, rfl⟩
  refine ⟨_, _, _, _, _, _, _, told, ?_, rfl, rfl, rfl, rfl⟩
  exact ⟨_, .tail _ (.tail _ (.tail _ (.tail _ (.head _)))), _, rfl⟩

/-- Something can go on in that state, and the delivery loop is not blocked. -/
theorem releases_never_stall_repeated :
    ∃ (log : Diary Nat) (pool : Unit → Dialogue (ScriptedServer.operating Nat) (BusResult Envelope))
        (now : Station Nat) (resume : Bool → _) (subscription : Subscription) (envelope : Envelope)
        (next : Bool → _),
      (Station.scene Carrier.core Identifier.numbered {}).Run
        (fun _ => Carrier.core.activity Identifier.numbered {} repeated) online log pool now ∧
      Registers log 0 ∧ pool () = .ask (.inr (.inl (.awaitEnd 0 5000))) resume ∧
      now.link.subscriptions[0]? = some subscription ∧
      subscription.busy = some (.ask (.inr (.send 0 envelope)) next) ∧
      Goes Carrier.core Identifier.numbered {} 0 now (.inr (.inl (.awaitEnd 0 5000))) ∧
      Unblocked Carrier.core Identifier.numbered {} 0 now := by
  obtain ⟨log, pool, now, resume, subscription, envelope, next, run, registers, asks, found, busy,
    -⟩ := exists_repeated
  have never := (releases_never_stall Identifier.numbered {} repeated).1 online log pool now run 0
    registers _ _ asks
  exact ⟨log, pool, now, resume, subscription, envelope, next, run, registers, asks, found, busy,
    never.1, (never.2 0 5000 rfl).2⟩

end MessageBus.Nats

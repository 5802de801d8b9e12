/-
**Disconnecting while calls take turns.** One disconnect of a NATS client among any number of calls
that subscribe and unsubscribe.

* `Roster`, `roster` — a client on a connection, the delivery tasks started there, and those that
  were told to end: by a stop, by the drain, or because the registry drops their handle.
* `party`, `rules` — one call leaves, the others have custody of handles.
* `lastMark?` — whether a topic was left with a handle when it was last dealt with.
* `Manned` — the invariant: a task that runs is registered or in the hand of a call;
  `manned_keeps` — it holds throughout every run.
* `disconnect_final_iff` — **nothing is left after a disconnect exactly if no topic is left with a
  handle behind the end of the registry**; whatever still runs is registered.
-/

import MessageBus.Proofs.Dialogue.Turns
import MessageBus.Proofs.Nats.Custody

namespace MessageBus.Nats.Client

variable {Handle κ : Type}

/-! ### A connection that can be drained -/

/-- A client, the delivery tasks of its connection, and those of them that were told to end. -/
structure Roster (Handle : Type) where
  client : State Handle
  issued : List Handle := []
  told : List Handle := []

/-- A delivery task that nothing has told to end. -/
def Roster.Runs (world : Roster Handle) (handle : Handle) : Prop :=
  handle ∈ world.issued ∧ handle ∉ world.told

/-- A client on a connection where any call may fail. A drain tells all tasks to end that there are,
and a task ends, too, when the registry drops its handle. -/
def roster : Scene (backend Handle) (Roster Handle) Empty where
  answers
    | .inl .clear, world, _, after => after =
        { world with
          client := { world.client with registry := [] }
          told := world.client.registry.map Prod.snd ++ world.told }
    | .inl question, world, answer, after =>
      answer = (world.client.answer question).1 ∧
        after = { world with client := (world.client.answer question).2 }
    | .inr (.subscribe _ _ _ _), world, .ok handle, after =>
      handle ∉ world.issued ∧ after = { world with issued := handle :: world.issued }
    | .inr (.stop handle), world, _, after => after = { world with told := handle :: world.told }
    | .inr (.drain _), world, _, after => after = { world with told := world.issued ++ world.told }
    | .inr _, world, _, after => after = world
  happens _ _ _ := False

/-- One call disconnects; the others subscribe and unsubscribe. -/
def party (options : Options) (operations : κ → Operation) :
    Option κ → Dialogue (backend Handle) (BusResult Unit)
  | none => disconnect
  | some who => (operations who).activity options

/-- What happens on the connection meanwhile. -/
abbrev Annals (κ Handle : Type) := List (Event (Option κ) (backend Handle) (Roster Handle) Empty)

/-! ### What is done to a topic -/

/-- Whether a moment leaves the topic with a handle in the registry. -/
def mark? (topic : String) (moment : Moment (backend Handle) (Roster Handle)) : Option Bool :=
  match moment.question with
  | .inl (.take taken) => if topic = taken then some false else none
  | .inl (.restore restored _) => if topic = restored then some true else none
  | .inl (.register registered _) => if topic = registered then some true else none
  | .inl .clear => some false
  | _ => none

/-- Whether the topic was left with a handle when it was last dealt with. -/
def lastMark? (topic : String) (log : Annals κ Handle) : Option Bool :=
  ((moments log).filterMap (mark? topic)).getLast?

section Marks

variable {topic : String} {log rest : Annals κ Handle} {who : Option κ}
  {moment : Moment (backend Handle) (Roster Handle)}

theorem lastMark?_append :
    lastMark? topic (log ++ rest) = (lastMark? topic rest).or (lastMark? topic log) := by
  unfold lastMark?
  rw [moments_append, List.filterMap_append, List.getLast?_append]

theorem lastMark?_turn :
    lastMark? topic (log ++ [.turn who moment]) =
      (mark? topic moment).or (lastMark? topic log) := by
  unfold lastMark?
  rw [filterMap_moments_turn, List.getLast?_append]
  cases mark? topic moment <;> rfl

end Marks

/-! ### Standing of calls -/

/-- How far a disconnect is. -/
inductive Leaving
  | present
  | leaving
  | drained
  | gone

/-- How far a call of the party is. -/
abbrev Standing (Handle : Type) := Custody Handle ⊕ Leaving

/-- The handle in the hand of a call. -/
def Standing.hand? : Standing Handle → Option Handle
  | .inl custody => custody.hand?
  | .inr _ => none

/-- The rules of the party. The client is connected when the disconnect closes its session. -/
def rules : Option κ → Protocol (backend Handle) (Standing Handle)
  | some _ =>
    { permits
        | .inl custody, question => custody.Permits question
        | .inr _, _ => False
      expects _ _ _ := True
      next
        | .inl custody, question, answer => .inl (custody.next question answer)
        | standing, _, _ => standing }
  | none =>
    { permits
        | .inr .present, .inl .retire => True
        | .inr .leaving, .inr (.drain _) => True
        | .inr .drained, .inl .clear => True
        | _, _ => False
      expects
        | .inr .present, .inl .retire, connection => ∃ id, connection = some id
        | _, _, _ => True
      next
        | .inr .present, _, _ => .inr .leaving
        | .inr .leaving, _, _ => .inr .drained
        | .inr .drained, _, _ => .inr .gone
        | standing, _, _ => standing }

/-- Where a call starts. -/
def outset : Option κ → Standing Handle
  | some _ => .inl .free
  | none => .inr .present

/-- Where a call ends. -/
def Returned : Option κ → BusResult Unit → Standing Handle → Prop
  | some _, _, standing => standing = .inl .free
  | none, _, standing => standing = .inr .gone

/-- **Every call of the party keeps to the rules.** -/
theorem follows_party (options : Options) (operations : κ → Operation) (who : Option κ) :
    (party options operations who : Dialogue (backend Handle) (BusResult Unit)).Follows (rules who)
      (Returned who) (outset who) := by
  have lift (who : κ) {activity : Dialogue (backend Handle) (BusResult Unit)}
      {custody : Custody Handle}
      (follows : activity.Follows Custody.protocol (fun _ stage => stage = .free) custody) :
      activity.Follows (rules (some who)) (Returned (some who)) (.inl custody) := by
    induction activity generalizing custody with
    | done value => exact congrArg Sum.inl follows
    | ask question resume ih =>
      exact ⟨follows.1, fun answer _ => ih answer (follows.2 answer trivial)⟩
  cases who with
  | some who => exact lift who (isTidy_activity options (operations who))
  | none =>
    refine ⟨trivial, ?_⟩
    rintro _ ⟨connection, rfl⟩
    exact ⟨trivial, fun drained _ => ⟨trivial, fun _ _ => rfl⟩⟩

/-! ### The invariant -/

/-- The handle is registered under some topic. -/
def Roster.Registers (world : Roster Handle) (handle : Handle) : Prop :=
  ∃ topic, world.client.registry.lookup topic = some handle

/-- What tasks, registry and calls are to each other. -/
structure Manned (standings : Option κ → Standing Handle) (log : Annals κ Handle)
    (world : Roster Handle) : Prop where
  /-- A task that runs is registered or in the hand of a call. -/
  placed : ∀ handle, world.Runs handle →
    world.Registers handle ∨ ∃ who, (standings who).hand? = some handle
  /-- What is to be put back was told to end. -/
  refused : ∀ who topic handle, standings who = .inl (.refused topic handle) →
    handle ∈ world.told
  /-- A topic has a handle if it was left with one. -/
  marks : ∀ topic, (world.client.registry.lookup topic).isSome =
    (lastMark? topic log).getD false
  /-- The session is there until the disconnect closes it. -/
  session : standings none = .inr .present → ∃ id, world.client.session = .connected id
  /-- The disconnect empties the registry. -/
  cleared : standings none = .inr .gone →
    ∃ moment, .turn none moment ∈ log ∧ moment.question = .inl .clear

section Manned

variable [DecidableEq κ] {standings : Option κ → Standing Handle} {log : Annals κ Handle}
  {world after : Roster Handle} {who : κ} {custody later : Custody Handle}
  {moment : Moment (backend Handle) (Roster Handle)}

/-- A call other than the disconnect has its turn: what it lets go of is registered or in its hand
again, or does not run. -/
theorem Manned.turn (manned : Manned standings log world)
    (old : standings (some who) = .inl custody)
    (runs : ∀ handle, after.Runs handle → world.Runs handle ∨ later.hand? = some handle)
    (entries : ∀ handle, world.Registers handle → after.Runs handle →
      after.Registers handle ∨ later.hand? = some handle)
    (hand : ∀ handle, custody.hand? = some handle → after.Runs handle →
      after.Registers handle ∨ later.hand? = some handle)
    (told : ∀ handle ∈ world.told, handle ∈ after.told)
    (refused : ∀ topic handle, later = .refused topic handle → handle ∈ after.told)
    (marks : ∀ topic, (after.client.registry.lookup topic).isSome =
      (mark? topic moment).getD (world.client.registry.lookup topic).isSome)
    (session : after.client.session = world.client.session) :
    Manned (Function.update standings (some who) (.inl later)) (log ++ [.turn (some who) moment])
      after := by
  have self : ∀ handle, later.hand? = some handle → ∃ who',
      (Function.update standings (some who) (.inl later) who').hand? = some handle := by
    intro handle has
    exact ⟨some who, by rwa [Function.update_self]⟩
  have leaver : Function.update standings (some who) (.inl later) none = standings none :=
    Function.update_of_ne (Option.some_ne_none who).symm _ _
  refine ⟨fun handle running => ?_, fun other topic handle refusing => ?_, fun topic => ?_, ?_, ?_⟩
  · rcases runs handle running with before | has
    · rcases manned.placed handle before with registered | ⟨holder, has⟩
      · exact (entries handle registered running).imp_right (self handle)
      · by_cases same : holder = some who
        · subst same
          rw [old] at has
          exact (hand handle has running).imp_right (self handle)
        · exact .inr ⟨holder, by rwa [Function.update_of_ne same]⟩
    · exact .inr (self handle has)
  · by_cases same : other = some who
    · subst same
      rw [Function.update_self] at refusing
      exact refused topic handle (Sum.inl.inj refusing)
    · rw [Function.update_of_ne same] at refusing
      exact told handle (manned.refused other topic handle refusing)
  · rw [lastMark?_turn, marks, manned.marks]
    cases mark? topic moment <;> rfl
  · rw [leaver, session]
    exact manned.session
  · rw [leaver]
    intro gone
    obtain ⟨clearing, member, asked⟩ := manned.cleared gone
    exact ⟨clearing, List.mem_append_left _ member, asked⟩

/-! ### Turns of calls that have custody of handles -/

theorem Manned.look (manned : Manned standings log world) (free : standings (some who) = .inl .free)
    (quiet : ∀ topic, mark? topic moment = none) :
    Manned (Function.update standings (some who) (.inl .free)) (log ++ [.turn (some who) moment])
      world :=
  manned.turn free (fun _ => .inl) (fun _ registered _ => .inl registered) nofun (fun _ => id)
    nofun (fun topic => by rw [quiet]; rfl) rfl

theorem Manned.take {topic : String} {answer : Option Handle}
    (manned : Manned standings log world) (free : standings (some who) = .inl .free)
    (answered : answer = world.client.registry.lookup topic)
    (next : after = { world with client := (world.client.answer (.take topic)).2 }) :
    Manned (Function.update standings (some who)
        (.inl (Custody.next .free (.inl (.take topic)) answer)))
      (log ++ [.turn (some who) ⟨world, .inl (.take topic), answer⟩]) after := by
  subst next
  have taken := State.lookup_take world.client topic
  refine manned.turn free (fun _ => .inl) ?_ nofun (fun _ => id) ?_ (fun other => ?_) rfl
  · rintro handle ⟨other, registered⟩ -
    by_cases same : other = topic
    · subst same
      rw [answered, registered]
      exact .inr rfl
    · exact .inl ⟨other, ((taken other).trans (if_neg same)).trans registered⟩
  · intro other handle refusing
    cases answer <;> cases refusing
  · refine (congrArg Option.isSome (taken other)).trans ?_
    by_cases same : other = topic <;> simp [mark?, same]

/-- What is stopped is told to end, whether or not it does so in time. -/
theorem Manned.stop {handle : Handle} {outcome : BusResult Unit}
    (manned : Manned standings log world) (old : standings (some who) = .inl custody)
    (held : custody.hand? = some handle)
    (refused : ∀ topic other, later = .refused topic other → other = handle)
    (next : after = { world with told := handle :: world.told }) :
    Manned (Function.update standings (some who) (.inl later))
      (log ++ [.turn (some who) ⟨world, .inr (.stop handle), outcome⟩]) after := by
  subst next
  refine manned.turn old ?_ (fun _ registered _ => .inl registered) ?_ ?_ ?_ (fun _ => rfl) rfl
  · rintro other ⟨issued, untold⟩
    exact .inl ⟨issued, (List.ne_and_not_mem_of_not_mem_cons untold).2⟩
  · rintro other has ⟨-, untold⟩
    rw [held] at has
    cases has
    exact absurd List.mem_cons_self untold
  · exact fun other told => List.mem_cons_of_mem _ told
  · intro topic other refusing
    rw [refused topic other refusing]
    exact List.mem_cons_self

/-- What is put back was told to end before. -/
theorem Manned.restore {topic : String} {handle : Handle} (manned : Manned standings log world)
    (old : standings (some who) = .inl (.refused topic handle))
    (next : after = { world with client := (world.client.answer (.restore topic handle)).2 }) :
    Manned (Function.update standings (some who) (.inl .free))
      (log ++ [.turn (some who) ⟨world, .inl (.restore topic handle), ()⟩]) after := by
  subst next
  have told := manned.refused _ _ _ old
  have restored : ∀ other, (world.client.answer (.restore topic handle)).2.registry.lookup other =
      if other = topic then some ((world.client.registry.lookup topic).getD handle)
      else world.client.registry.lookup other := by
    intro other
    cases found : world.client.registry.lookup topic with
    | none => exact State.lookup_restore _ _ _ _ found
    | some current =>
      rw [State.answer_restore_of_some _ _ _ found]
      by_cases same : other = topic
      · rw [if_pos same, same, found]
        rfl
      · rw [if_neg same]
  have session : (world.client.answer (.restore topic handle)).2.session =
      world.client.session := by
    simp only [State.answer]
    split <;> rfl
  refine manned.turn old (fun _ => .inl) ?_ ?_ (fun _ => id) (by simp) (fun other => ?_) session
  · rintro other ⟨registered, found⟩ -
    refine .inl ⟨registered, (restored registered).trans ?_⟩
    by_cases same : registered = topic
    · subst same
      rw [if_pos rfl, found]
      rfl
    · rw [if_neg same, found]
  · rintro other has ⟨-, untold⟩
    cases has
    exact absurd told untold
  · refine (congrArg Option.isSome (restored other)).trans ?_
    by_cases same : other = topic <;> simp [mark?, same]

theorem Manned.subscribe {connection : Nat} {subject queue : String} {delivery : Delivery}
    {answer : BusResult Handle} (manned : Manned standings log world)
    (free : standings (some who) = .inl .free)
    (answered : roster.answers (.inr (.subscribe connection subject queue delivery)) world answer
      after) :
    Manned (Function.update standings (some who) (.inl
        (Custody.next .free (.inr (.subscribe connection subject queue delivery)) answer)))
      (log ++ [.turn (some who)
        ⟨world, .inr (.subscribe connection subject queue delivery), answer⟩]) after := by
  cases answer with
  | error error =>
    cases answered
    exact manned.look free fun _ => rfl
  | ok handle =>
    obtain ⟨fresh, rfl⟩ := answered
    refine manned.turn free ?_ (fun _ registered _ => .inl registered) nofun (fun _ => id) nofun
      (fun _ => rfl) rfl
    rintro other ⟨issued, untold⟩
    rcases List.mem_cons.mp issued with rfl | issued
    · exact .inr rfl
    · exact .inl ⟨issued, untold⟩

theorem Manned.register {topic : String} {handle : Handle} {answer : Option Handle}
    (manned : Manned standings log world)
    (old : standings (some who) = .inl (.opened topic handle))
    (answered : answer = world.client.registry.lookup topic)
    (next : after = { world with client := (world.client.answer (.register topic handle)).2 }) :
    Manned (Function.update standings (some who) (.inl
        (Custody.next (.opened topic handle) (.inl (.register topic handle)) answer)))
      (log ++ [.turn (some who) ⟨world, .inl (.register topic handle), answer⟩]) after := by
  subst next
  have registers := fun other => State.lookup_register world.client topic other handle
  refine manned.turn old (fun _ => .inl) ?_ ?_ (fun _ => id) ?_ (fun other => ?_) rfl
  · rintro other ⟨registered, found⟩ -
    by_cases same : registered = topic
    · subst same
      rw [answered, found]
      exact .inr rfl
    · exact .inl ⟨registered, ((registers registered).trans (if_neg same)).trans found⟩
  · rintro other has -
    cases has
    exact .inl ⟨topic, (registers topic).trans (if_pos rfl)⟩
  · intro other older refusing
    cases answer <;> cases refusing
  · refine (congrArg Option.isSome (registers other)).trans ?_
    by_cases same : other = topic <;> simp [mark?, same]

/-! ### Turns of the disconnect -/

theorem Manned.leave {stage : Leaving} (manned : Manned standings log world)
    (old : ∃ before, standings none = .inr before)
    (runs : ∀ handle, after.Runs handle →
      world.Runs handle ∧ (world.Registers handle → after.Registers handle))
    (told : ∀ handle ∈ world.told, handle ∈ after.told)
    (marks : ∀ topic, (after.client.registry.lookup topic).isSome =
      (mark? topic moment).getD (world.client.registry.lookup topic).isSome)
    (absent : stage ≠ .present)
    (cleared : stage = .gone → moment.question = .inl .clear) :
    Manned (Function.update standings none (.inr stage)) (log ++ [.turn none moment]) after := by
  obtain ⟨before, old⟩ := old
  refine ⟨fun handle running => ?_, fun other topic handle refusing => ?_, fun topic => ?_, ?_, ?_⟩
  · obtain ⟨ran, stays⟩ := runs handle running
    rcases manned.placed handle ran with registered | ⟨holder, has⟩
    · exact .inl (stays registered)
    · have apart : holder ≠ none := by
        rintro rfl
        rw [old] at has
        cases has
      exact .inr ⟨holder, by rwa [Function.update_of_ne apart]⟩
  · have apart : other ≠ none := by
      rintro rfl
      rw [Function.update_self] at refusing
      cases refusing
    rw [Function.update_of_ne apart] at refusing
    exact told handle (manned.refused other topic handle refusing)
  · rw [lastMark?_turn, marks, manned.marks]
    cases mark? topic moment <;> rfl
  · rw [Function.update_self]
    exact fun present => absurd (Sum.inr.inj present) absent
  · rw [Function.update_self]
    exact fun gone => ⟨moment, List.mem_append_right _ (List.mem_singleton_self _),
      cleared (Sum.inr.inj gone)⟩

/-- **Tasks, registry and calls stay what they are to each other.** -/
theorem manned_keeps : (roster : Scene (backend Handle) (Roster Handle) Empty).Keeps
    (rules : Option κ → Protocol (backend Handle) (Standing Handle)) Manned where
  turn {standings log world who question answer later} manned permitted answered := by
    cases who with
    | some who =>
      refine ⟨trivial, ?_⟩
      generalize old : standings (some who) = standing at permitted ⊢
      obtain custody | stage := standing
      case inr => exact permitted.elim
      cases permitted with
      | look =>
        obtain ⟨rfl, rfl⟩ := answered
        exact manned.look old fun _ => rfl
      | take topic =>
        obtain ⟨answered, next⟩ := answered
        exact manned.take old answered next
      | subscribe => exact manned.subscribe old answered
      | stop topic handle =>
        refine manned.stop old rfl (fun other kept refusing => ?_) answered
        cases answer <;> cases refusing
        rfl
      | restore topic handle =>
        obtain ⟨-, next⟩ := answered
        exact manned.restore old next
      | register topic handle =>
        obtain ⟨answered, next⟩ := answered
        exact manned.register old answered next
      | drop topic handle => exact manned.stop old rfl (by simp [Custody.next]) answered
    | none =>
      generalize old : standings none = standing at permitted ⊢
      obtain custody | _ | _ | _ | _ := standing
      case inr.present =>
        obtain ⟨_ | _ | _ | _ | _ | _ | _⟩ | _ := question
        case inl.retire =>
          obtain ⟨rfl, rfl⟩ := answered
          obtain ⟨connection, connected⟩ := manned.session old
          have retired : world.client.answer .retire =
              (some connection, { world.client with session := .closed }) := by
            simp only [State.answer, connected]
          refine ⟨⟨connection, congrArg Prod.fst retired⟩, ?_⟩
          have registry := congrArg (fun answer => answer.2.registry) retired
          refine manned.leave ⟨_, old⟩ (fun handle runs => ⟨runs, ?_⟩) (fun _ => id)
            (fun topic => ?_) (by simp) (by simp)
          · rintro ⟨topic, registered⟩
            exact ⟨topic, (congrArg (List.lookup topic) registry).trans registered⟩
          · exact congrArg (fun registry => (List.lookup topic registry).isSome) registry
        all_goals exact permitted.elim
      case inr.leaving =>
        obtain _ | ⟨_ | _ | _ | _ | _ | connection⟩ := question
        case inr.drain =>
          cases answered
          refine ⟨trivial, manned.leave ⟨_, old⟩ ?_ (fun _ => List.mem_append_right _)
            (fun _ => rfl) (by simp) (by simp)⟩
          rintro handle ⟨issued, untold⟩
          exact absurd (List.mem_append_left _ issued) untold
        all_goals exact permitted.elim
      case inr.drained =>
        obtain ⟨_ | _ | _ | _ | _ | _ | _⟩ | _ := question
        case inl.clear =>
          cases answered
          refine ⟨trivial, manned.leave ⟨_, old⟩ ?_ (fun _ => List.mem_append_right _)
            (fun _ => rfl) (by simp) fun _ => rfl⟩
          rintro handle ⟨issued, untold⟩
          refine ⟨⟨issued, fun told => untold (List.mem_append_right _ told)⟩, ?_⟩
          rintro ⟨topic, registered⟩
          obtain ⟨front, rest, split, -⟩ := List.lookup_eq_some_iff.mp registered
          have member : handle ∈ world.client.registry.map Prod.snd := by
            rw [split, List.map_append]
            exact List.mem_append_right _ List.mem_cons_self
          exact absurd (List.mem_append_left _ member) untold
        all_goals exact permitted.elim
      all_goals exact permitted.elim
  incident _ happened := happened.elim

end Manned

/-! ### The end of all calls -/

/-- Nothing is left of a client's subscriptions: none is registered, and no task runs. -/
def Roster.Final (world : Roster Handle) : Prop :=
  world.client.registry = [] ∧ ∀ handle, ¬ world.Runs handle

theorem registry_eq_nil_iff {registry : List (String × Handle)} :
    registry = [] ↔ ∀ topic, (registry.lookup topic).isSome = false := by
  constructor
  · rintro rfl topic
    rfl
  · intro vacant
    cases registry with
    | nil => rfl
    | cons entry rest =>
      have found := vacant entry.1
      rw [List.lookup_cons, beq_self_eq_true] at found
      cases found

theorem manned_start (connection : Nat) :
    Manned (outset : Option κ → Standing Handle) []
      { client := { session := .connected connection } } where
  placed := by
    rintro handle ⟨issued, -⟩
    cases issued
  refused := by
    rintro (_ | who) topic handle refusing <;> cases refusing
  marks _ := rfl
  session _ := ⟨connection, rfl⟩
  cleared := nofun

/-- **A disconnect is final exactly if no topic is left with a handle behind the end of the
registry.** When all calls have returned and every task that was told to end has done so, whatever
still runs is registered, the disconnect has emptied the registry, and nothing is left exactly if no
topic was registered or put back after that and not taken out again. -/
theorem disconnect_final_iff [DecidableEq κ] {options : Options} {operations : κ → Operation}
    {connection : Nat} {log : Annals κ Handle}
    {pool : Option κ → Dialogue (backend Handle) (BusResult Unit)} {world : Roster Handle}
    (run : roster.Run (party options operations) { client := { session := .connected connection } }
      log pool world)
    (returned : ∀ who, ∃ result, pool who = .done result) :
    (∀ handle, world.Runs handle → world.Registers handle) ∧
      (∃ moment, .turn none moment ∈ log ∧ moment.question = .inl .clear) ∧
      ∀ before moment rest, log = before ++ .turn none moment :: rest →
        moment.question = .inl .clear →
          (world.Final ↔ ∀ topic, lastMark? topic rest ≠ some true) := by
  obtain ⟨standings, manned, follow⟩ := run.invariant manned_keeps (manned_start connection)
    (follows_party options operations)
  have ended (who : Option κ) : ∃ result, Returned who result (standings who) := by
    obtain ⟨result, done⟩ := returned who
    have kept := follow who
    rw [done] at kept
    exact ⟨result, kept⟩
  have placed : ∀ handle, world.Runs handle → world.Registers handle := by
    intro handle runs
    refine (manned.placed handle runs).resolve_right ?_
    rintro ⟨_ | who, has⟩
    · rw [show standings none = .inr .gone from (ended none).choose_spec] at has
      cases has
    · rw [show standings (some who) = .inl .free from (ended (some who)).choose_spec] at has
      cases has
  refine ⟨placed, manned.cleared (ended none).choose_spec, fun before moment rest split asked => ?_⟩
  -- What was done before the end of the registry has left no handle.
  have marks : ∀ topic, (world.client.registry.lookup topic).isSome =
      (lastMark? topic rest).getD false := by
    intro topic
    have emptied : lastMark? topic ([.turn none moment] : Annals κ Handle) = some false := by
      simp [lastMark?, mark?, asked]
    rw [manned.marks, split, ← List.singleton_append, lastMark?_append, lastMark?_append, emptied]
    cases lastMark? topic rest <;> rfl
  have empty : world.client.registry = [] ↔ ∀ topic, lastMark? topic rest ≠ some true := by
    rw [registry_eq_nil_iff]
    refine forall_congr' fun topic => ?_
    rw [marks]
    cases lastMark? topic rest with
    | none => simp
    | some left => cases left <;> simp
  refine ⟨fun final => empty.mp final.1, fun none => ⟨empty.mpr none, fun handle runs => ?_⟩⟩
  obtain ⟨topic, registered⟩ := placed handle runs
  rw [empty.mpr none] at registered
  cases registered

/-- One call subscribes a topic while the client is disconnected. -/
def latecomer : Unit → Operation
  | () => .subscribe [⟨"a", 0⟩] 0

theorem idle_latecomer :
    roster.Run (party {} latecomer) { client := { session := .connected 0 } }
      ([] : Annals Unit Nat) (party {} latecomer) { client := { session := .connected 0 } } :=
  .start

/-- A call that has subscribed before the drain leaves nothing. -/
theorem disconnect_final_iff_early :
    ∃ (log : Annals Unit Nat) (pool : Option Unit → Dialogue (backend Nat) (BusResult Unit))
      (world : Roster Nat),
      roster.Run (party {} latecomer) { client := { session := .connected 0 } } log pool world ∧
        (∀ who, ∃ result, pool who = .done result) ∧ world.issued = [0] ∧ world.Final := by
  have subscribed := (((idle_latecomer.step (some ()) rfl (.connected 0) ⟨rfl, rfl⟩).step (some ())
    rfl none ⟨rfl, rfl⟩).step (some ()) rfl (.ok 0) ⟨nofun, rfl⟩).step (some ()) rfl none ⟨rfl, rfl⟩
  have left := ((subscribed.step none rfl (some 0) ⟨rfl, rfl⟩).step none rfl (.ok ()) rfl).step none
    rfl () rfl
  refine ⟨_, _, _, left, ?_, rfl, ?_⟩
  · rintro (_ | _) <;> exact ⟨_, rfl⟩
  · refine ((disconnect_final_iff left ?_).2.2 _ _ [] rfl rfl).mpr fun topic => nofun
    rintro (_ | _) <;> exact ⟨_, rfl⟩

/-- A call that has looked at the session before the disconnect subscribes and registers after the
drain and the end of the registry: its task goes on. -/
theorem disconnect_not_final :
    ∃ (log : Annals Unit Nat) (pool : Option Unit → Dialogue (backend Nat) (BusResult Unit))
      (world : Roster Nat),
      roster.Run (party {} latecomer) { client := { session := .connected 0 } } log pool world ∧
        (∀ who, ∃ result, pool who = .done result) ∧ world.client.session = .closed ∧
        world.client.registry = [("a", 0)] ∧ world.Runs 0 := by
  have looked := (idle_latecomer.step (some ()) rfl (.connected 0) ⟨rfl, rfl⟩).step (some ())
    rfl none ⟨rfl, rfl⟩
  have left := ((looked.step none rfl (some 0) ⟨rfl, rfl⟩).step none rfl (.ok ()) rfl).step none
    rfl () rfl
  have subscribed := (left.step (some ()) rfl (.ok 0) ⟨nofun, rfl⟩).step (some ()) rfl none
    ⟨rfl, rfl⟩
  refine ⟨_, _, _, subscribed, ?_, rfl, rfl, List.mem_cons_self, nofun⟩
  rintro (_ | _) <;> exact ⟨_, rfl⟩

end MessageBus.Nats.Client

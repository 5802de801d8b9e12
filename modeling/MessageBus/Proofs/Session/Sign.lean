/-
**Sessions by their signs.** What the calls of a client show of its session, whatever the backend.

* `Session.Moves`, `Session.Reaches` — one move of a session, and where its moves can lead;
  `Session.install`, `Session.retire` — the two sections that move it.
* `Sign` — what an exchange of a client with its backend means for the session; `Sign.Acts` — what
  it does to it, `Sign.Vain` — it does nothing at all.
* `ClientModel` — a client by its sections and its calls on the broker; every section acts as its
  sign says.
* `ClientModel.scene` — a client whose calls on the broker may come to anything; every session that
  is opened is a new one.
* `ClientCall` — the calls of a client's user.
-/

import MessageBus.Client
import MessageBus.Proofs.Dialogue.Turns
import Mathlib.Data.Fintype.EquivFin

namespace MessageBus

/-! ### Sessions -/

/-- One move of a session: it stays, it is connected, or it is closed. -/
inductive Session.Moves : Session → Session → Prop
  | stay (session : Session) : Moves session session
  | connect (connection : Nat) : Moves .idle (.connected connection)
  | close (connection : Nat) : Moves (.connected connection) .closed

/-- The moves of a session lead from the first to the second. -/
def Session.Reaches (first second : Session) : Prop :=
  first = second ∨ first = .idle ∨ second = .closed

theorem Session.Moves.reaches {first second : Session} (moves : Moves first second) :
    first.Reaches second := by
  cases moves with
  | stay => exact .inl rfl
  | connect => exact .inr (.inl rfl)
  | close => exact .inr (.inr rfl)

theorem Session.Reaches.trans {first second third : Session} (reaches : first.Reaches second)
    (further : second.Reaches third) : first.Reaches third := by
  rcases reaches with rfl | rfl | rfl
  · exact further
  · exact .inr (.inl rfl)
  · rcases further with rfl | idle | rfl
    · exact .inr (.inr rfl)
    · cases idle
    · exact .inr (.inr rfl)

/-- Installs a connection if the session is idle, and says whether it did. -/
def Session.install (connection : Nat) (session : Session) : Bool × Session :=
  if session = .idle then (true, .connected connection) else (false, session)

/-- Closes a connected session, and says which one it was. -/
def Session.retire : Session → Option Nat × Session
  | .connected connection => (some connection, .closed)
  | session => (none, session)

/-- A session that was connected is never idle again. -/
theorem Session.Reaches.ne_idle {connection : Nat} {later : Session}
    (reaches : (Session.connected connection).Reaches later) : later ≠ .idle := by
  rintro rfl
  rcases reaches with same | idle | closed
  · cases same
  · cases idle
  · cases closed

/-- A closed session stays closed. -/
theorem Session.Reaches.eq_closed {later : Session} (reaches : Session.closed.Reaches later) :
    later = .closed := by
  rcases reaches with same | idle | closed
  · exact same.symm
  · cases idle
  · exact closed

/-! ### Signs -/

/-- What an exchange of a client with its backend means for the session. -/
inductive Sign
  /-- The session was looked at. -/
  | looked (found : Session)
  /-- A session was to be opened, and was or was not. -/
  | opened (outcome : BusResult Nat)
  /-- An opened session was to become the client's, and did or did not. -/
  | installed (connection : Nat) (accepted : Bool)
  /-- The session was to be closed; there was one or not. -/
  | retired (former : Option Nat)
  /-- Nothing. -/
  | other

namespace Sign

/-- What an exchange with a sign does to the session. -/
def Acts : Sign → Session → Session → Prop
  | looked found, before, after => before = found ∧ after = before
  | opened _, before, after => after = before
  | installed connection true, before, after => before = .idle ∧ after = .connected connection
  | installed _ false, before, after => before ≠ .idle ∧ after = before
  | retired (some former), before, after => before = .connected former ∧ after = .closed
  | retired none, before, after => (∀ connection, before ≠ .connected connection) ∧ after = before
  | other, before, after => after = before

/-- The exchanges that do nothing at all. -/
inductive Vain : Sign → Prop
  | looked (found : Session) : Vain (looked found)
  | failed (error : BusError) : Vain (opened (.error error))
  | refused : Vain (retired none)

variable {sign : Sign} {before after : Session}

theorem Acts.moves (acts : sign.Acts before after) : before.Moves after := by
  match sign with
  | looked _ | installed _ false | retired none =>
    obtain ⟨-, rfl⟩ := acts
    exact .stay _
  | installed _ true =>
    obtain ⟨rfl, rfl⟩ := acts
    exact .connect _
  | retired (some _) =>
    obtain ⟨rfl, rfl⟩ := acts
    exact .close _
  | opened _ | other =>
    cases acts
    exact .stay _

/-- A session is connected after an exchange that installed it, or if it was so before. -/
theorem Acts.connected {connection : Nat} (acts : sign.Acts before (.connected connection)) :
    sign = installed connection true ∨ before = .connected connection := by
  match sign with
  | looked _ | installed _ false | retired none => exact .inr acts.2.symm
  | installed _ true =>
    obtain ⟨-, same⟩ := acts
    cases same
    exact .inl rfl
  | retired (some _) =>
    obtain ⟨-, same⟩ := acts
    cases same
  | opened _ | other => exact .inr (Eq.symm acts)

theorem acts_install (connection : Nat) (session : Session) :
    (installed connection (session.install connection).1).Acts session
      (session.install connection).2 := by
  by_cases idle : session = .idle
  · rw [Session.install, if_pos idle]
    exact ⟨idle, rfl⟩
  · rw [Session.install, if_neg idle]
    exact ⟨idle, rfl⟩

theorem acts_retire (session : Session) :
    (retired session.retire.1).Acts session session.retire.2 := by
  cases session with
  | connected connection => exact ⟨rfl, rfl⟩
  | idle | closed => exact ⟨nofun, rfl⟩

/-- A session that could not be closed is left as it was. -/
theorem retire_of_vain {session : Session} (vain : (retired session.retire.1).Vain) :
    session.retire.2 = session := by
  cases session with
  | connected connection => cases vain
  | idle | closed => rfl

end Sign

/-! ### Clients -/

/-- A client by its sections and its calls on the broker. -/
structure ClientModel where
  /-- The client's own state. -/
  State : Type
  /-- The sections of its state. -/
  sections : Interface
  /-- The calls on the broker. -/
  calls : Interface
  /-- The session. -/
  session : State → Session
  /-- The state of a new client. -/
  fresh : State
  /-- What the sections do. -/
  answer : (question : sections.Ask) → State → sections.Answer question × State
  /-- What a section means for the session. -/
  shows : (question : sections.Ask) → sections.Answer question → Sign
  /-- The outcome of a call that opens a session. -/
  opening? : (call : calls.Ask) → calls.Answer call → Option (BusResult Nat)
  /-- A new client is idle. -/
  fresh_idle : session fresh = .idle
  /-- A section acts on the session as its sign says. -/
  acts : ∀ question state, (shows question (answer question state).1).Acts (session state)
    (session (answer question state).2)
  /-- A section whose sign is vain leaves the whole state alone. -/
  spares : ∀ question state, (shows question (answer question state).1).Vain →
    (answer question state).2 = state
  /-- No section opens a session. -/
  opens_none : ∀ question answer outcome, shows question answer ≠ .opened outcome

/-- A client, and the numbers of the sessions that were opened so far. -/
structure Premises (State : Type) where
  /-- The client's own state. -/
  client : State
  /-- The sessions opened so far. -/
  opened : List Nat := []

/-- There is always a number for one more session. -/
theorem Premises.exists_fresh {State : Type} (world : Premises State) :
    ∃ connection, connection ∉ world.opened := by
  obtain ⟨connection, fresh⟩ := Infinite.exists_notMem_finset world.opened.toFinset
  exact ⟨connection, fun member => fresh (List.mem_toFinset.mpr member)⟩

namespace ClientModel

variable (model : ClientModel)

/-- What the client's operations talk to. -/
abbrev backend : Interface := model.sections.sum model.calls

/-- What an exchange means for the session. -/
def sign : (question : model.backend.work.Ask) → model.backend.work.Answer question → Sign
  | .inl (.inl question), answer => model.shows question answer
  | .inl (.inr call), answer => match model.opening? call answer with
    | some outcome => .opened outcome
    | none => .other
  | .inr _, _ => .other

/-- A client whose calls on the broker may come to anything. Every session that is opened has a
number of its own. -/
def scene : Scene model.backend.work (Premises model.State) Empty where
  answers
    | .inl (.inl question), world, answer, after =>
      answer = (model.answer question world.client).1 ∧
        after = { world with client := (model.answer question world.client).2 }
    | .inl (.inr call), world, answer, after => match model.opening? call answer with
      | some (.ok connection) => connection ∉ world.opened ∧
          after = { world with opened := connection :: world.opened }
      | _ => after = world
    | .inr _, world, _, after => after = world
  happens _ _ _ := False

variable {model} {question : model.backend.work.Ask} {world after : Premises model.State}
  {answer : model.backend.work.Answer question}

/-- **Every exchange acts on the session as its sign says.** -/
theorem acts_of_answers (answered : model.scene.answers question world answer after) :
    (model.sign question answer).Acts (model.session world.client)
      (model.session after.client) := by
  match question with
  | .inl (.inl question) =>
    obtain ⟨rfl, rfl⟩ := answered
    exact model.acts question world.client
  | .inl (.inr call) =>
    simp only [scene] at answered
    simp only [sign]
    split at answered
    · rename_i opened
      obtain ⟨-, rfl⟩ := answered
      rw [opened]
      rfl
    · subst answered
      split <;> rfl
  | .inr _ =>
    cases answered
    rfl

/-- An exchange with a vain sign leaves the whole world alone. -/
theorem eq_of_vain (answered : model.scene.answers question world answer after)
    (vain : (model.sign question answer).Vain) : after = world := by
  match question with
  | .inl (.inl question) =>
    obtain ⟨rfl, rfl⟩ := answered
    rw [model.spares question world.client vain]
  | .inl (.inr call) =>
    simp only [scene] at answered
    simp only [sign] at vain
    split at answered
    · rename_i opened
      rw [opened] at vain
      cases vain
    · exact answered
  | .inr _ => exact answered

/-- A session that is opened has a new number. -/
theorem opened_of_answers {connection : Nat}
    (answered : model.scene.answers question world answer after)
    (opened : model.sign question answer = .opened (.ok connection)) :
    connection ∉ world.opened ∧ connection ∈ after.opened := by
  match question with
  | .inl (.inl question) => exact absurd opened (model.opens_none question answer _)
  | .inl (.inr call) =>
    simp only [scene] at answered
    simp only [sign] at opened
    split at opened
    · rename_i outcome found
      cases opened
      rw [found] at answered
      obtain ⟨missing, rfl⟩ := answered
      exact ⟨missing, List.mem_cons_self⟩
    · cases opened
  | .inr _ => cases opened

/-- Sessions that were opened stay known. -/
theorem opened_subset_of_answers (answered : model.scene.answers question world answer after) :
    world.opened ⊆ after.opened := by
  match question with
  | .inl (.inl question) =>
    obtain ⟨rfl, rfl⟩ := answered
    exact List.Subset.refl _
  | .inl (.inr call) =>
    simp only [scene] at answered
    split at answered
    · obtain ⟨-, rfl⟩ := answered
      exact List.subset_cons_self _ _
    · exact answered ▸ List.Subset.refl _
  | .inr _ => exact answered ▸ List.Subset.refl _

end ClientModel

/-! ### Calls -/

/-- The calls of a client's user. -/
inductive ClientCall
  /-- Opens the session. -/
  | connect
  /-- Publishes an envelope. -/
  | publish (envelope : Envelope) (topic : String)
  /-- Publishes an envelope of at most a size. -/
  | publishWithLimit (envelope : Envelope) (topic : String) (limitKb : Nat)
  /-- Subscribes topics. -/
  | subscribe (channels : List Channel) (errors : Nat)
  /-- Ends subscriptions. -/
  | unsubscribe (topics : List String)
  /-- Closes the session. -/
  | disconnect
  deriving DecidableEq

/-- What a call does. -/
def ClientCall.activity {backend : Interface} (client : MessageClient backend) :
    ClientCall → Dialogue backend.work (BusResult Unit)
  | .connect => client.connect
  | .publish envelope topic => client.publish envelope topic
  | .publishWithLimit envelope topic limitKb => client.publishWithLimit envelope topic limitKb
  | .subscribe channels errors => client.subscribe channels errors
  | .unsubscribe topics => client.unsubscribe topics
  | .disconnect => client.disconnect

end MessageBus

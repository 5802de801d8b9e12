/-
**Shapes of calls.** What the calls of a client have in common, whatever the backend.

* `Connecting` — how far a connect can come, by the signs of its exchanges; `Guarded` — the same for
  a call that goes on only if the session is connected.
* `Connects`, `Checks` — the programs of such calls, question by question; `connecting_of_connects`,
  `guarded_of_checks` — **they come so far and no further**, whatever the answers are.
* `Conforms` — the calls of a client have these shapes, and its connect can succeed.
-/

import MessageBus.Proofs.Session.Sign

namespace MessageBus

open Dialogue

/-! ### How far calls can come -/

section Shapes

variable {I : Interface}

/-- How far a connect can come: the signs of its exchanges, and what is left of it. -/
inductive Connecting : List Sign → Dialogue I (BusResult Unit) → Prop
  /-- Nothing is decided yet. -/
  | undecided {signs : List Sign} {remaining : Dialogue I (BusResult Unit)}
      (early : signs = [] ∨ signs = [.looked .idle] ∨
        ∃ connection, signs = [.looked .idle, .opened (.ok connection)])
      (unfinished : remaining ≠ .done (.ok ())) : Connecting signs remaining
  /-- The client was not idle. -/
  | busy {found : Session} (occupied : found ≠ .idle) :
      Connecting [.looked found] (.done (.error .alreadyConnected))
  /-- The broker refused. -/
  | failed (error : BusError) :
      Connecting [.looked .idle, .opened (.error error)] (.done (.error error))
  /-- The client is connected. -/
  | accepted (connection : Nat) :
      Connecting [.looked .idle, .opened (.ok connection), .installed connection true]
        (.done (.ok ()))
  /-- Another call was faster. -/
  | beaten (connection : Nat) {rest : List Sign} {remaining : Dialogue I (BusResult Unit)}
      (quiet : ∀ sign ∈ rest, sign = .other)
      (yields : remaining.Yields (.error .alreadyConnected)) :
      Connecting (.looked .idle :: .opened (.ok connection) :: .installed connection false :: rest)
        remaining

/-- The check of a call finds the session not connected; `closes` is whether the call closes it. -/
inductive Sign.Refuses (closes : Prop) : Sign → Prop
  | looked {found : Session} (uses : ¬ closes)
      (apart : ∀ connection, found ≠ .connected connection) : Refuses closes (.looked found)
  | retired (closing : closes) : Refuses closes (.retired none)

/-- The check of a call finds the session connected; `closes` is whether the call closes it. -/
inductive Sign.Admits (closes : Prop) : Sign → Prop
  | looked (uses : ¬ closes) (connection : Nat) : Admits closes (.looked (.connected connection))
  | retired (closing : closes) (connection : Nat) : Admits closes (.retired (some connection))

/-- How far a call can come that checks the session first. -/
inductive Guarded (closes : Prop) : List Sign → Dialogue I (BusResult Unit) → Prop
  /-- It has not checked the session yet. -/
  | waiting {remaining : Dialogue I (BusResult Unit)}
      (unfinished : ∀ result, remaining ≠ .done result) : Guarded closes [] remaining
  /-- The session was not connected. -/
  | refused {sign : Sign} (refuses : sign.Refuses closes) :
      Guarded closes [sign] (.done (.error .notConnected))
  /-- The session was connected. -/
  | admitted {sign : Sign} {rest : List Sign} {remaining : Dialogue I (BusResult Unit)}
      (admits : sign.Admits closes) (quiet : ∀ sign ∈ rest, sign = .other) :
      Guarded closes (sign :: rest) remaining

variable {signs : List Sign} {remaining : Dialogue I (BusResult Unit)} {connection : Nat}

theorem Connecting.retired_notMem (connecting : Connecting signs remaining) (former : Option Nat) :
    .retired former ∉ signs := by
  cases connecting with
  | undecided early => rcases early with rfl | rfl | ⟨_, rfl⟩ <;> simp
  | busy | failed | accepted => simp
  | beaten _ quiet => simpa using fun member => nomatch quiet _ member

/-- What was installed, or came too late to be, was opened before. -/
theorem Connecting.opened_mem {accepted : Bool} (connecting : Connecting signs remaining)
    (member : .installed connection accepted ∈ signs) : .opened (.ok connection) ∈ signs := by
  cases connecting with
  | undecided early => rcases early with rfl | rfl | ⟨_, rfl⟩ <;> simp at member
  | busy | failed => simp at member
  | accepted number =>
    have same : connection = number ∧ accepted = true := by simpa using member
    simp [same.1]
  | beaten number quiet =>
    have same : connection = number ∧ accepted = false := by
      simpa [show .installed connection accepted ∉ _ from fun member => nomatch quiet _ member]
        using member
    simp [same.1]

/-- A connect that came too late installs nothing and returns so. -/
theorem Connecting.beaten_yields (connecting : Connecting signs remaining)
    (member : .installed connection false ∈ signs) :
    remaining.Yields (.error .alreadyConnected) ∧ ∀ other, .installed other true ∉ signs := by
  cases connecting with
  | undecided early => rcases early with rfl | rfl | ⟨_, rfl⟩ <;> simp at member
  | busy | failed | accepted => simp at member
  | beaten _ quiet yields =>
    exact ⟨yields, fun other => by simpa using fun member => nomatch quiet _ member⟩

theorem Connecting.exists_installed (connecting : Connecting signs remaining)
    (succeeded : remaining = .done (.ok ())) :
    ∃ connection, .installed connection true ∈ signs := by
  cases connecting with
  | undecided early unfinished => exact absurd succeeded unfinished
  | busy | failed => cases succeeded
  | accepted connection => exact ⟨connection, by simp⟩
  | beaten _ quiet yields =>
    subst succeeded
    cases yields

theorem Connecting.failed_eq {error : BusError} (connecting : Connecting signs remaining)
    (member : .opened (.error error) ∈ signs) :
    signs = [.looked .idle, .opened (.error error)] ∧ remaining = .done (.error error) := by
  cases connecting with
  | undecided early => rcases early with rfl | rfl | ⟨_, rfl⟩ <;> simp at member
  | busy | accepted => simp at member
  | failed fault =>
    have same : error = fault := by simpa using member
    subst same
    exact ⟨rfl, rfl⟩
  | beaten _ quiet =>
    simp [show .opened (.error error) ∉ _ from fun member => nomatch quiet _ member] at member

theorem Connecting.busy_eq {found : Session} (connecting : Connecting signs remaining)
    (member : .looked found ∈ signs) (occupied : found ≠ .idle) :
    signs = [.looked found] ∧ remaining = .done (.error .alreadyConnected) := by
  cases connecting with
  | undecided early => rcases early with rfl | rfl | ⟨_, rfl⟩ <;> simp [occupied] at member
  | failed | accepted => simp [occupied] at member
  | @busy other =>
    have same : found = other := by simpa using member
    subst same
    exact ⟨rfl, rfl⟩
  | beaten _ quiet =>
    simp [occupied, show .looked found ∉ _ from fun member => nomatch quiet _ member] at member

variable {closes : Prop} {sign : Sign}

/-- A call shows its check of the session, and nothing else. -/
theorem Guarded.cases_of_mem (guarded : Guarded closes signs remaining) (member : sign ∈ signs) :
    sign = .other ∨ sign.Admits closes ∨ sign.Refuses closes ∧ signs = [sign] ∧
      remaining = .done (.error .notConnected) := by
  cases guarded with
  | waiting => cases member
  | refused refuses =>
    cases List.mem_singleton.mp member
    exact .inr (.inr ⟨refuses, rfl, rfl⟩)
  | admitted admits quiet =>
    rcases List.mem_cons.mp member with rfl | later
    · exact .inr (.inl admits)
    · exact .inl (quiet _ later)

/-- A call that has returned was refused or admitted. -/
theorem Guarded.of_done {result : BusResult Unit} (guarded : Guarded closes signs remaining)
    (returned : remaining = .done result) :
    result = .error .notConnected ∨ ∃ sign ∈ signs, sign.Admits closes := by
  cases guarded with
  | waiting unfinished => exact absurd returned (unfinished result)
  | refused =>
    cases returned
    exact .inl rfl
  | admitted admits => exact .inr ⟨_, List.mem_cons_self, admits⟩

end Shapes

/-! ### Programs of calls -/

namespace ClientModel

variable (model : ClientModel)

/-- What exchanges mean for the session. -/
def signs (exchanges : List (Exchange model.backend.work)) : List Sign :=
  exchanges.map fun exchange => model.sign exchange.1 exchange.2

/-- A question that means nothing for the session, whatever the answer is. -/
def Quiet (question : model.backend.work.Ask) : Prop :=
  ∀ answer, model.sign question answer = .other

/-- Installs a session, and returns whether it was in time; after that, nothing concerns it. -/
inductive Installs (connection : Nat) : Dialogue model.backend.work (BusResult Unit) → Prop
  | ask {question : model.backend.work.Ask}
      {resume : model.backend.work.Answer question → Dialogue model.backend.work (BusResult Unit)}
      (accepts : ∀ answer,
        model.sign question answer = .installed connection true ∧ resume answer = .done (.ok ()) ∨
        model.sign question answer = .installed connection false ∧
          (resume answer).Yields (.error .alreadyConnected) ∧ (resume answer).Asks model.Quiet) :
      Installs connection (.ask question resume)

/-- Opens a session and installs it; a client that has no way to open one returns at once. -/
inductive Opens : Dialogue model.backend.work (BusResult Unit) → Prop
  | unable (error : BusError) : Opens (.done (.error error))
  | ask {question : model.backend.work.Ask}
      {resume : model.backend.work.Answer question → Dialogue model.backend.work (BusResult Unit)}
      (outcomes : ∀ answer,
        (∃ error, model.sign question answer = .opened (.error error) ∧
          resume answer = .done (.error error)) ∨
        ∃ connection, model.sign question answer = .opened (.ok connection) ∧
          model.Installs connection (resume answer)) :
      Opens (.ask question resume)

/-- Opens a session if the client is idle. -/
inductive Connects : Dialogue model.backend.work (BusResult Unit) → Prop
  | ask {question : model.backend.work.Ask}
      {resume : model.backend.work.Answer question → Dialogue model.backend.work (BusResult Unit)}
      (idle : ∀ answer,
        model.sign question answer = .looked .idle ∧ model.Opens (resume answer) ∨
        ∃ found, found ≠ .idle ∧ model.sign question answer = .looked found ∧
          resume answer = .done (.error .alreadyConnected)) :
      Connects (.ask question resume)

/-- Checks the session, and goes on only if it is connected. -/
inductive Checks (closes : Prop) : Dialogue model.backend.work (BusResult Unit) → Prop
  | ask {question : model.backend.work.Ask}
      {resume : model.backend.work.Answer question → Dialogue model.backend.work (BusResult Unit)}
      (checks : ∀ answer,
        (model.sign question answer).Refuses closes ∧
          resume answer = .done (.error .notConnected) ∨
        (model.sign question answer).Admits closes ∧ (resume answer).Asks model.Quiet) :
      Checks closes (.ask question resume)

variable {model} {activity remaining : Dialogue model.backend.work (BusResult Unit)}
  {exchanges : List (Exchange model.backend.work)}

/-- Quiet questions have no signs. -/
theorem signs_of_quiet (quiet : activity.Asks model.Quiet)
    (leads : activity.Leads exchanges remaining) :
    ∀ sign ∈ model.signs exchanges, sign = .other := by
  intro sign member
  obtain ⟨exchange, inside, rfl⟩ := List.mem_map.mp member
  exact leads.asks quiet exchange inside exchange.2

/-- An activity that yields a result has it wherever it has been led. -/
theorem yields_of_leads {result : BusResult Unit} (yields : activity.Yields result)
    (leads : activity.Leads exchanges remaining) : remaining.Yields result := by
  induction leads with
  | here => exact yields
  | on _ ih => exact ih (yields _)

/-- What is left of a connect that has opened a session. -/
theorem connecting_of_installs {connection : Nat} (installs : model.Installs connection activity)
    (leads : activity.Leads exchanges remaining) :
    Connecting (.looked .idle :: .opened (.ok connection) :: model.signs exchanges) remaining := by
  obtain ⟨accepts⟩ := installs
  rcases leads_ask.mp leads with ⟨rfl, rfl⟩ | ⟨installed, rest, rfl, further⟩
  · exact .undecided (.inr (.inr ⟨connection, rfl⟩)) nofun
  rw [signs, List.map_cons]
  rcases accepts installed with ⟨sign, ended⟩ | ⟨sign, yields, quiet⟩
  · rw [ended, leads_done] at further
    obtain ⟨rfl, rfl⟩ := further
    rw [sign]
    exact .accepted connection
  · rw [sign]
    exact .beaten connection (signs_of_quiet quiet further) (yields_of_leads yields further)

/-- What is left of a connect that has found the client idle. -/
theorem connecting_of_opens (opens : model.Opens activity)
    (leads : activity.Leads exchanges remaining) :
    Connecting (.looked .idle :: model.signs exchanges) remaining := by
  cases opens with
  | unable error =>
    obtain ⟨rfl, rfl⟩ := leads_done.mp leads
    exact .undecided (.inr (.inl rfl)) nofun
  | ask outcomes =>
    rcases leads_ask.mp leads with ⟨rfl, rfl⟩ | ⟨opened, rest, rfl, further⟩
    · exact .undecided (.inr (.inl rfl)) nofun
    rw [signs, List.map_cons]
    rcases outcomes opened with ⟨error, sign, ended⟩ | ⟨connection, sign, installs⟩
    · rw [ended, leads_done] at further
      obtain ⟨rfl, rfl⟩ := further
      rw [sign]
      exact .failed error
    · rw [sign]
      exact connecting_of_installs installs further

/-- **A connect comes so far and no further.** -/
theorem connecting_of_connects (connects : model.Connects activity)
    (leads : activity.Leads exchanges remaining) :
    Connecting (model.signs exchanges) remaining := by
  obtain ⟨idle⟩ := connects
  rcases leads_ask.mp leads with ⟨rfl, rfl⟩ | ⟨looked, rest, rfl, further⟩
  · exact .undecided (.inl rfl) nofun
  rw [signs, List.map_cons]
  rcases idle looked with ⟨sign, opens⟩ | ⟨found, occupied, sign, ended⟩
  · rw [sign]
    exact connecting_of_opens opens further
  · rw [ended, leads_done] at further
    obtain ⟨rfl, rfl⟩ := further
    rw [sign]
    exact .busy occupied

/-- **A call that checks the session comes so far and no further.** -/
theorem guarded_of_checks {closes : Prop} (checks : model.Checks closes activity)
    (leads : activity.Leads exchanges remaining) :
    Guarded closes (model.signs exchanges) remaining := by
  obtain ⟨checks⟩ := checks
  rcases leads_ask.mp leads with ⟨rfl, rfl⟩ | ⟨checked, rest, rfl, further⟩
  · exact .waiting nofun
  rcases checks checked with ⟨refuses, ended⟩ | ⟨admits, quiet⟩
  · rw [ended, leads_done] at further
    obtain ⟨rfl, rfl⟩ := further
    exact .refused refuses
  · exact .admitted admits (signs_of_quiet quiet further)

end ClientModel

/-- The calls of a client have the shapes of a client's calls, and its connect can succeed. -/
structure Conforms (model : ClientModel) (client : MessageClient model.backend) (canOpen : Prop) :
    Prop where
  /-- A connect opens a session if the client is idle. -/
  connects : model.Connects client.connect
  /-- Every other call checks the session first. -/
  checks : ∀ {call : ClientCall}, call ≠ .connect →
    model.Checks (call = .disconnect) (call.activity client)
  /-- Where a session can be opened, an idle client can be connected. -/
  succeeds : canOpen → ∀ world : Premises model.State, model.session world.client = .idle →
    ∃ told last, model.scene.Course client.connect world told (.ok ()) last

end MessageBus

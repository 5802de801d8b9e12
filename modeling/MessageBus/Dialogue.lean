/-
**Dialogues.** Activities that ask their surroundings and go on as the answers say.

* `Interface` — the questions that may be asked, and the type of the answer to each.
* `Dialogue I α` — an activity that asks questions of `I` and ends with an `α`. Between two
  questions nothing else happens, so the questions are the places where activities interleave.
* `translate` — carries every question out as a dialogue over another interface.
* `run` — asks surroundings that answer at once; `advance` — goes on until an answer must wait.
* `Trace` — the questions and answers of one possible course, whoever gives the answers.
-/

namespace MessageBus

/-- Questions, and the type of the answer to each. -/
structure Interface where
  /-- The questions. -/
  Ask : Type
  /-- The type of the answer to a question. -/
  Answer : Ask → Type

/-- An activity that asks questions and ends with a result. -/
inductive Dialogue (I : Interface) (α : Type)
  /-- The activity has ended. -/
  | done (value : α)
  /-- The activity asks, and goes on with the answer. -/
  | ask (question : I.Ask) (resume : I.Answer question → Dialogue I α)

namespace Dialogue

variable {I J : Interface} {α β : Type}

/-- Goes on with `next` where the first activity ends. -/
def bind : Dialogue I α → (α → Dialogue I β) → Dialogue I β
  | done value, next => next value
  | ask question resume, next => ask question fun answer => (resume answer).bind next

instance : Monad (Dialogue I) where
  pure := done
  bind := bind

/-- Asks one question and ends with its answer. -/
def say (question : I.Ask) : Dialogue I (I.Answer question) :=
  ask question done

/-- Carries every question out as a dialogue over another interface. -/
def translate (carryOut : (question : I.Ask) → Dialogue J (I.Answer question)) :
    Dialogue I α → Dialogue J α
  | done value => done value
  | ask question resume =>
    (carryOut question).bind fun answer => (resume answer).translate carryOut

/-- Runs an activity against surroundings that answer at once. -/
def run {W : Type} (answer : (question : I.Ask) → W → I.Answer question × W) :
    Dialogue I α → W → α × W
  | done value, world => (value, world)
  | ask question resume, world =>
    let (reply, world) := answer question world
    (resume reply).run answer world

/-- Runs an activity up to its end or to the first question whose answer must wait. -/
def advance {W : Type} (answer? : (question : I.Ask) → W → Option (I.Answer question × W)) :
    Dialogue I α → W → Dialogue I α × W
  | done value, world => (done value, world)
  | ask question resume, world => match answer? question world with
    | none => (ask question resume, world)
    | some (reply, world) => (resume reply).advance answer? world

/-- The result of an activity that has ended. -/
def result? : Dialogue I α → Option α
  | done value => some value
  | ask _ _ => none

/-- The question that an activity waits on. -/
def question? : Dialogue I α → Option I.Ask
  | done _ => none
  | ask question _ => some question

/-- One question with its answer. -/
abbrev Exchange (I : Interface) := (question : I.Ask) × I.Answer question

/-- The questions and answers of one possible course from the start of an activity to its end. -/
inductive Trace : Dialogue I α → List (Exchange I) → α → Prop
  /-- An activity that has ended asks nothing. -/
  | done (value : α) : Trace (.done value) [] value
  /-- A question is asked, answered somehow, and the course goes on. -/
  | ask (question : I.Ask) (resume : I.Answer question → Dialogue I α)
      (answer : I.Answer question) {rest : List (Exchange I)} {value : α}
      (course : Trace (resume answer) rest value) :
      Trace (.ask question resume) (⟨question, answer⟩ :: rest) value

@[simp]
theorem pure_eq (value : α) : (pure value : Dialogue I α) = done value :=
  rfl

@[simp]
theorem bind_eq (activity : Dialogue I α) (next : α → Dialogue I β) :
    activity >>= next = activity.bind next :=
  rfl

@[simp]
theorem done_bind (value : α) (next : α → Dialogue I β) : (done value).bind next = next value :=
  rfl

@[simp]
theorem ask_bind (question : I.Ask) (resume : I.Answer question → Dialogue I α)
    (next : α → Dialogue I β) :
    (ask question resume).bind next = ask question fun answer => (resume answer).bind next :=
  rfl

theorem bind_done (activity : Dialogue I α) : activity.bind done = activity := by
  induction activity with
  | done value => rfl
  | ask question resume ih => simp [ih]

theorem bind_assoc {γ : Type} (activity : Dialogue I α) (next : α → Dialogue I β)
    (last : β → Dialogue I γ) :
    (activity.bind next).bind last = activity.bind fun value => (next value).bind last := by
  induction activity with
  | done value => rfl
  | ask question resume ih => simp [ih]

/-- Carrying out two activities one after the other is carrying out each. -/
theorem translate_bind (carryOut : (question : I.Ask) → Dialogue J (I.Answer question))
    (activity : Dialogue I α) (next : α → Dialogue I β) :
    (activity.bind next).translate carryOut =
      (activity.translate carryOut).bind fun value => (next value).translate carryOut := by
  induction activity with
  | done value => rfl
  | ask question resume ih => simp [translate, bind_assoc, ih]

/-- Carrying out one question is what carries it out. -/
theorem translate_ask_done (carryOut : (question : I.Ask) → Dialogue J (I.Answer question))
    (question : I.Ask) : (ask question done).translate carryOut = carryOut question :=
  bind_done _

/-- Carrying out twice is carrying out what carries out. -/
theorem translate_translate {K : Interface}
    (carryOut : (question : I.Ask) → Dialogue J (I.Answer question))
    (further : (question : J.Ask) → Dialogue K (J.Answer question)) (activity : Dialogue I α) :
    (activity.translate carryOut).translate further =
      activity.translate fun question => (carryOut question).translate further := by
  induction activity with
  | done value => rfl
  | ask question resume ih => simp [translate, translate_bind, ih]

end Dialogue

/-- The questions of two interfaces together. -/
abbrev Interface.sum (I J : Interface) : Interface where
  Ask := I.Ask ⊕ J.Ask
  Answer
    | .inl question => I.Answer question
    | .inr question => J.Answer question

namespace Dialogue

variable {I J : Interface} {α : Type}

/-- An activity over the first of two interfaces. -/
def left (activity : Dialogue I α) : Dialogue (I.sum J) α :=
  activity.translate fun question => .ask (I := I.sum J) (.inl question) .done

/-- An activity over the second of two interfaces. -/
def right (activity : Dialogue J α) : Dialogue (I.sum J) α :=
  activity.translate fun question => .ask (I := I.sum J) (.inr question) .done

end Dialogue

end MessageBus

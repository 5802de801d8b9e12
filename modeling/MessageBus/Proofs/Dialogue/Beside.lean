/-
**Parts of activities.** Courses of an activity that is carried out as part of a larger one.

* `Scene.beside` — surroundings in which other questions get any answer and leave no trace.
* `course_left` — an activity that asks none of these has the same courses there.
* `Scene.Effect` — what courses do, if nothing told does nothing and one course after another does
  what both do; `Effect.Of.bind`, `Effect.of_translate` — an activity does what its parts do.
* `Effect.beside`, `Effect.Of.left` — and it does so beside other questions.
* `trace_done`, `trace_ask`, `trace_bind` — the possible courses of an activity, whoever answers,
  follow its shape.
* `CarriedOut`, `trace_translate_iff` — an activity whose questions are carried out takes one of its
  courses, and each question in it takes one of those that carry it out.
-/

import MessageBus.Proofs.Dialogue.Course

namespace MessageBus

open Dialogue

variable {I J : Interface} {W M α β : Type}

/-! ### Other questions beside those of an activity -/

/-- A moment of an activity, beside other questions. -/
def Moment.beside (J : Interface) (moment : Moment I W) : Moment (I.sum J) W :=
  ⟨moment.world, .inl moment.question, moment.answer⟩

/-- A moment of the activity, if it is not one of another question. -/
def Moment.own? : Moment (I.sum J) W → Option (Moment I W)
  | ⟨world, .inl question, answer⟩ => some ⟨world, question, answer⟩
  | ⟨_, .inr _, _⟩ => none

theorem filterMap_own_beside (told : List (Moment I W)) :
    (told.map (Moment.beside J)).filterMap Moment.own? = told := by
  rw [List.filterMap_map]
  exact List.filterMap_some

namespace Scene

/-- Surroundings in which other questions may be asked too: they get any answer, and nothing comes
of them. -/
def beside (scene : Scene I W M) (J : Interface) : Scene (I.sum J) W M where
  answers
    | .inl question, world, answer, after => scene.answers question world answer after
    | .inr _, world, _, after => after = world
  happens := scene.happens

/-- **An activity that asks no other questions has the same courses beside them.** -/
theorem course_left {scene : Scene I W M} {activity : Dialogue I α} {world after : W}
    {log : List (Moment (I.sum J) W)} {value : α} :
    (scene.beside J).Course activity.left world log value after ↔
      ∃ told, log = told.map (Moment.beside J) ∧ scene.Course activity world told value after := by
  induction activity generalizing world log with
  | done result =>
    constructor
    · intro course
      obtain ⟨rfl, rfl, rfl⟩ := course_done.mp course
      exact ⟨[], rfl, .done _ _⟩
    · rintro ⟨told, rfl, course⟩
      obtain ⟨rfl, rfl, rfl⟩ := course_done.mp course
      exact .done _ _
  | ask question resume ih =>
    refine course_ask.trans ⟨?_, ?_⟩
    · rintro ⟨now, answer, next, rest, rfl, passes, answered, course⟩
      obtain ⟨told, rfl, inner⟩ := (ih answer).mp course
      exact ⟨⟨now, question, answer⟩ :: told, rfl, .ask passes answered inner⟩
    · rintro ⟨told, rfl, course⟩
      obtain ⟨now, answer, next, rest, rfl, passes, answered, course⟩ := course_ask.mp course
      exact ⟨now, answer, next, _, rfl, passes, answered, (ih answer).mpr ⟨rest, rfl, course⟩⟩

end Scene

/-! ### What courses do -/

/-- What courses do to a world while they are told something: nothing told does nothing, and one
course after another does what both do. -/
structure Scene.Effect (scene : Scene I W M) where
  /-- This is done to the first world, which becomes the second. -/
  acts : W → List (Moment I W) → W → Prop
  /-- Nothing told does nothing. -/
  nothing : ∀ world, acts world [] world
  /-- One course does its part, and then another. -/
  further : ∀ {world between after told rest},
    acts world told between → acts between rest after → acts world (told ++ rest) after

namespace Scene.Effect

variable {scene : Scene I W M} (effect : scene.Effect)

/-- Every course of an activity does this. -/
def Of (activity : Dialogue I α) : Prop :=
  ∀ world told value after, scene.Course activity world told value after →
    effect.acts world told after

variable {effect}

theorem of_done (value : α) : effect.Of (.done value) := by
  intro world told result after course
  obtain ⟨rfl, rfl, rfl⟩ := course_done.mp course
  exact effect.nothing _

/-- One activity after another does what both do. -/
theorem Of.bind {activity : Dialogue I α} {next : α → Dialogue I β} (first : effect.Of activity)
    (rest : ∀ value, effect.Of (next value)) : effect.Of (activity.bind next) := by
  intro world told result after course
  obtain ⟨_, value, between, _, rfl, course, further⟩ := course_bind.mp course
  exact effect.further (first _ _ _ _ course) (rest value _ _ _ _ further)

/-- **An activity does what the questions do that it asks**, each carried out in full. -/
theorem of_translate {carryOut : (question : J.Ask) → Dialogue I (J.Answer question)}
    (carried : ∀ question, effect.Of (carryOut question)) (activity : Dialogue J α) :
    effect.Of (activity.translate carryOut) := by
  induction activity with
  | done value => exact of_done value
  | ask question resume ih => exact (carried question).bind ih

/-! ### Effects beside other questions -/

/-- The same is done while other questions are asked. -/
def beside (effect : scene.Effect) (J : Interface) : (scene.beside J).Effect where
  acts world log after := effect.acts world (log.filterMap Moment.own?) after
  nothing := effect.nothing
  further first rest := by
    rw [List.filterMap_append]
    exact effect.further first rest

/-- An activity does the same beside other questions. -/
theorem Of.left {activity : Dialogue I α} (of : effect.Of activity) :
    (effect.beside J).Of activity.left := by
  intro world log value after course
  obtain ⟨told, rfl, inner⟩ := course_left.mp course
  show effect.acts world (List.filterMap _ _) after
  rw [filterMap_own_beside]
  exact of _ _ _ _ inner

/-- Other questions do nothing where nothing happens by itself. -/
theorem of_other (still : ∀ incident world next, ¬ scene.happens incident world next)
    (question : J.Ask) :
    (effect.beside J).Of (.ask (I := I.sum J) (.inr question) .done) := by
  intro world log value after course
  have stillBeside : ∀ incident world next, ¬ (scene.beside J).happens incident world next := still
  obtain ⟨_, _, _, rfl, rfl, ended⟩ := (course_ask_still stillBeside).mp course
  obtain ⟨rfl, -, rfl⟩ := course_done.mp ended
  exact effect.nothing _

end Scene.Effect

/-! ### Whoever answers -/

namespace Dialogue

@[simp]
theorem trace_done {value result : α} {told : List (Exchange I)} :
    Trace (.done value) told result ↔ told = [] ∧ result = value := by
  constructor
  · intro trace
    cases trace
    exact ⟨rfl, rfl⟩
  · rintro ⟨rfl, rfl⟩
    exact .done _

theorem trace_ask {question : I.Ask} {resume : I.Answer question → Dialogue I α}
    {told : List (Exchange I)} {result : α} :
    Trace (.ask question resume) told result ↔
      ∃ answer rest, told = ⟨question, answer⟩ :: rest ∧ Trace (resume answer) rest result := by
  constructor
  · intro trace
    cases trace with
    | ask _ _ answer rest => exact ⟨answer, _, rfl, rest⟩
  · rintro ⟨answer, rest, rfl, trace⟩
    exact .ask _ _ _ trace

theorem trace_bind {activity : Dialogue I α} {next : α → Dialogue I β} {told : List (Exchange I)}
    {result : β} :
    Trace (activity.bind next) told result ↔ ∃ first value rest, told = first ++ rest ∧
      Trace activity first value ∧ Trace (next value) rest result := by
  induction activity generalizing told with
  | done value =>
    simp only [done_bind, trace_done]
    constructor
    · exact fun trace => ⟨[], value, told, rfl, ⟨rfl, rfl⟩, trace⟩
    · rintro ⟨_, _, rest, rfl, ⟨rfl, rfl⟩, trace⟩
      exact trace
  | ask question resume ih =>
    simp only [ask_bind, trace_ask, ih]
    constructor
    · rintro ⟨answer, _, rfl, first, value, rest, rfl, trace, further⟩
      exact ⟨_, value, rest, rfl, ⟨answer, first, rfl, trace⟩, further⟩
    · rintro ⟨_, value, rest, rfl, ⟨answer, first, rfl, trace⟩, further⟩
      exact ⟨answer, first ++ rest, rfl, first, value, rest, rfl, trace, further⟩

/-- Questions and answers, each carried out by what was asked and answered in its place. -/
inductive CarriedOut (carryOut : (question : I.Ask) → Dialogue J (I.Answer question)) :
    List (Exchange I) → List (Exchange J) → Prop
  | nil : CarriedOut carryOut [] []
  | cons {question : I.Ask} {answer : I.Answer question} {log : List (Exchange I)}
      {part rest : List (Exchange J)} (trace : Trace (carryOut question) part answer)
      (later : CarriedOut carryOut log rest) :
      CarriedOut carryOut (⟨question, answer⟩ :: log) (part ++ rest)

/-- An activity that is carried out takes one of its own courses. -/
theorem trace_translate_iff {carryOut : (question : I.Ask) → Dialogue J (I.Answer question)}
    {activity : Dialogue I α} {told : List (Exchange J)} {result : α} :
    Trace (activity.translate carryOut) told result ↔
      ∃ log, Trace activity log result ∧ CarriedOut carryOut log told := by
  induction activity generalizing told with
  | done value =>
    rw [translate, trace_done]
    constructor
    · rintro ⟨rfl, rfl⟩
      exact ⟨[], .done _, .nil⟩
    · rintro ⟨log, ended, carried⟩
      obtain ⟨rfl, rfl⟩ := trace_done.mp ended
      cases carried
      exact ⟨rfl, rfl⟩
  | ask question resume ih =>
    rw [translate, trace_bind]
    constructor
    · rintro ⟨part, answer, rest, rfl, trace, further⟩
      obtain ⟨log, course, carried⟩ := (ih answer).mp further
      exact ⟨_, .ask question resume answer course, .cons trace carried⟩
    · rintro ⟨log, course, carried⟩
      obtain ⟨answer, rest, rfl, further⟩ := trace_ask.mp course
      cases carried with
      | cons trace later => exact ⟨_, answer, _, rfl, trace, (ih answer).mpr ⟨rest, further, later⟩⟩

/-- What comes of surroundings that answer at once may come of an activity, with their answers. -/
theorem exists_trace_run {W : Type} (answer : (question : I.Ask) → W → I.Answer question × W)
    (activity : Dialogue I α) (world : W) :
    ∃ told, Trace activity told (activity.run answer world).1 ∧
      ∀ exchange ∈ told, ∃ world, exchange.2 = (answer exchange.1 world).1 := by
  induction activity generalizing world with
  | done value => exact ⟨[], .done value, nofun⟩
  | ask question resume ih =>
    obtain ⟨told, trace, answers⟩ := ih (answer question world).1 (answer question world).2
    exact ⟨_, .ask question resume _ trace, List.forall_mem_cons.mpr ⟨⟨world, rfl⟩, answers⟩⟩

end Dialogue

end MessageBus

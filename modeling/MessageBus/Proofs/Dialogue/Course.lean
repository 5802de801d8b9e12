/-
**Courses of one activity.** What may come of an activity whose surroundings change while it waits.

* `Scene` — which answers a question may get in a world, and what else may happen there. Neither
  need be determined.
* `Scene.Course` — one course of an activity from its start to its end, with the moment of every
  answer. Between two answers anything may happen that the scene allows.
* `course_done`, `course_ask`, `course_bind` — the courses of an activity follow its shape.
* `course_ask_still` — answers come at once where nothing else happens.
* `exists_course` — an activity comes to its end if no question that it may ask is left open for
  ever; `exists_course_keeping` — and such that something holds all the time.
-/

import MessageBus.Dialogue
import Mathlib.Logic.Relation

namespace MessageBus

/-- All questions that an activity may ask are of one kind. -/
def Dialogue.Asks {I : Interface} {α : Type} (kind : I.Ask → Prop) : Dialogue I α → Prop
  | .done _ => True
  | .ask question resume => kind question ∧ ∀ answer, (resume answer).Asks kind

/-- An activity asks what its parts ask. -/
theorem Dialogue.Asks.bind {I : Interface} {α β : Type} {kind : I.Ask → Prop}
    {activity : Dialogue I α} {next : α → Dialogue I β} (first : activity.Asks kind)
    (rest : ∀ value, (next value).Asks kind) : (activity.bind next).Asks kind := by
  induction activity with
  | done value => exact rest value
  | ask question resume ih => exact ⟨first.1, fun answer => ih answer (first.2 answer)⟩

/-- Surroundings that may answer in several ways, and in which other things happen as well. -/
structure Scene (I : Interface) (W M : Type) where
  /-- A question may get this answer in the first world, which leaves the second. -/
  answers : (question : I.Ask) → W → I.Answer question → W → Prop
  /-- Something else may turn the first world into the second. -/
  happens : M → W → W → Prop

/-- An answer, with the world in which it was given. -/
structure Moment (I : Interface) (W : Type) where
  /-- The world right before the answer. -/
  world : W
  /-- The question. -/
  question : I.Ask
  /-- The answer. -/
  answer : I.Answer question

/-- The question and its answer. -/
def Moment.exchange {I : Interface} {W : Type} (moment : Moment I W) : Dialogue.Exchange I :=
  ⟨moment.question, moment.answer⟩

namespace Scene

variable {I : Interface} {W M α β : Type}

/-- Any number of things happen. -/
def Passes (scene : Scene I W M) : W → W → Prop :=
  Relation.ReflTransGen fun world after => ∃ incident, scene.happens incident world after

/-- One course of an activity: the moments of its answers, its result, and the world at its end. -/
inductive Course (scene : Scene I W M) :
    Dialogue I α → W → List (Moment I W) → α → W → Prop
  /-- An activity that has ended has had its course. -/
  | done (value : α) (world : W) : Course scene (.done value) world [] value world
  /-- Things happen, the question is answered, and the course goes on. -/
  | ask {question : I.Ask} {resume : I.Answer question → Dialogue I α} {start world next after : W}
      {answer : I.Answer question} {log : List (Moment I W)} {value : α}
      (passes : scene.Passes start world) (answered : scene.answers question world answer next)
      (course : Course scene (resume answer) next log value after) :
      Course scene (.ask question resume) start (⟨world, question, answer⟩ :: log) value after

variable {scene : Scene I W M}

@[simp]
theorem course_done {value result : α} {world after : W} {log : List (Moment I W)} :
    scene.Course (.done value) world log result after ↔
      log = [] ∧ result = value ∧ after = world := by
  constructor
  · intro course
    cases course
    exact ⟨rfl, rfl, rfl⟩
  · rintro ⟨rfl, rfl, rfl⟩
    exact .done _ _

/-- A course of an activity that asks begins with an answer. -/
theorem course_ask {question : I.Ask} {resume : I.Answer question → Dialogue I α}
    {start after : W} {log : List (Moment I W)} {result : α} :
    scene.Course (.ask question resume) start log result after ↔
      ∃ world answer next rest, log = ⟨world, question, answer⟩ :: rest ∧
        scene.Passes start world ∧ scene.answers question world answer next ∧
        scene.Course (resume answer) next rest result after := by
  constructor
  · intro course
    cases course with
    | ask passes answered rest => exact ⟨_, _, _, _, rfl, passes, answered, rest⟩
  · rintro ⟨world, answer, next, rest, rfl, passes, answered, course⟩
    exact .ask passes answered course

/-- Where nothing happens by itself, nothing comes between a question and its answer. -/
theorem course_ask_still {question : I.Ask} {resume : I.Answer question → Dialogue I α}
    {start after : W} {log : List (Moment I W)} {result : α}
    (still : ∀ incident world next, ¬ scene.happens incident world next) :
    scene.Course (.ask question resume) start log result after ↔
      ∃ answer next rest, log = ⟨start, question, answer⟩ :: rest ∧
        scene.answers question start answer next ∧
        scene.Course (resume answer) next rest result after := by
  rw [course_ask]
  constructor
  · rintro ⟨world, answer, next, rest, rfl, passes, answered, course⟩
    have same : world = start := by
      induction passes with
      | refl => rfl
      | tail _ happened => exact absurd happened.choose_spec (still _ _ _)
    subst same
    exact ⟨answer, next, rest, rfl, answered, course⟩
  · rintro ⟨answer, next, rest, rfl, answered, course⟩
    exact ⟨start, answer, next, rest, rfl, .refl, answered, course⟩

/-- A course of two activities one after the other is a course of each. -/
theorem course_bind {activity : Dialogue I α} {next : α → Dialogue I β} {start after : W}
    {log : List (Moment I W)} {result : β} :
    scene.Course (activity.bind next) start log result after ↔
      ∃ first value between rest, log = first ++ rest ∧
        scene.Course activity start first value between ∧
        scene.Course (next value) between rest result after := by
  induction activity generalizing start log with
  | done value =>
    simp only [Dialogue.done_bind, course_done]
    constructor
    · exact fun course => ⟨[], value, start, log, rfl, ⟨rfl, rfl, rfl⟩, course⟩
    · rintro ⟨_, _, _, rest, rfl, ⟨rfl, rfl, rfl⟩, course⟩
      exact course
  | ask question resume ih =>
    simp only [Dialogue.ask_bind, course_ask, ih]
    constructor
    · rintro ⟨world, answer, later, _, rfl, passes, answered, first, value, between, rest, rfl,
        course, courseRest⟩
      exact ⟨_, value, between, rest, rfl, ⟨world, answer, later, first, rfl, passes, answered,
        course⟩, courseRest⟩
    · rintro ⟨_, value, between, rest, rfl, ⟨world, answer, later, first, rfl, passes, answered,
        course⟩, courseRest⟩
      exact ⟨world, answer, later, first ++ rest, rfl, passes, answered, first, value, between,
        rest, rfl, course, courseRest⟩

/-- An activity comes to its end, and something holds all the time, if every question that it may
ask can be answered so that it goes on to hold. -/
theorem exists_course_keeping {kind : I.Ask → Prop} {holds : W → Prop}
    (kept : ∀ question, kind question → ∀ world, holds world → ∃ later answer next,
      scene.Passes world later ∧ holds later ∧ scene.answers question later answer next ∧ holds next)
    {activity : Dialogue I α} (asks : activity.Asks kind) {start : W} (first : holds start) :
    ∃ log result after, scene.Course activity start log result after ∧
      (∀ moment ∈ log, holds moment.world) ∧ holds after := by
  induction activity generalizing start with
  | done value => exact ⟨[], value, start, .done value start, nofun, first⟩
  | ask question resume ih =>
    obtain ⟨world, answer, next, passes, now, answered, goes⟩ := kept question asks.1 start first
    obtain ⟨log, result, after, course, all, last⟩ := ih answer (asks.2 answer) goes
    exact ⟨_, result, after, .ask passes answered course, List.forall_mem_cons.mpr ⟨now, all⟩, last⟩

/-- **An activity comes to its end** if every question that it may ask gets an answer sooner or
later. -/
theorem exists_course {kind : I.Ask → Prop} (open_ended : ∀ question, kind question → ∀ world,
      ∃ later answer next, scene.Passes world later ∧ scene.answers question later answer next)
    {activity : Dialogue I α} (asks : activity.Asks kind) (start : W) :
    ∃ log result after, scene.Course activity start log result after := by
  have kept : ∀ question, kind question → ∀ world, True → ∃ later answer next,
      scene.Passes world later ∧ True ∧ scene.answers question later answer next ∧ True := by
    intro question may world _
    obtain ⟨later, answer, next, passes, answered⟩ := open_ended question may world
    exact ⟨later, answer, next, passes, trivial, answered, trivial⟩
  obtain ⟨log, result, after, course, -, -⟩ := exists_course_keeping kept asks trivial
  exact ⟨log, result, after, course⟩

end Scene

end MessageBus

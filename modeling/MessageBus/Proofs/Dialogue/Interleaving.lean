/-
**Activities in turns.** Any number of activities in one world, which go on one answer at a time.

* `Scene.Run` — a run: turns of the activities and other incidents, in any order, with their log.
* `Protocol` — what an activity may ask at each stage, which answers can come, and where they lead.
* `Dialogue.Follows` — an activity keeps to a protocol, whatever the answers are. Activities that do
  so may be put one after the other (`Follows.bind`).
* `Scene.Keeps` — what every permitted turn and every incident preserves.
* `Run.invariant` — **what is kept holds throughout every run**, together with the stages of the
  activities.
-/

import MessageBus.Proofs.Dialogue.Course
import Mathlib.Logic.Function.Basic

namespace MessageBus

/-- Something that happens while activities take turns. -/
inductive Event (ι : Type) (I : Interface) (W M : Type)
  /-- The question of an activity is answered. -/
  | turn (who : ι) (moment : Moment I W)
  /-- Something else happens. -/
  | incident (what : M)

variable {ι : Type} {I : Interface} {W M α β σ : Type}

/-- The answers among what happened, in order. -/
def moments (log : List (Event ι I W M)) : List (Moment I W) :=
  log.filterMap fun
    | .turn _ moment => some moment
    | .incident _ => none

@[simp]
theorem moments_nil : moments ([] : List (Event ι I W M)) = [] := rfl

@[simp]
theorem moments_append (first rest : List (Event ι I W M)) :
    moments (first ++ rest) = moments first ++ moments rest :=
  List.filterMap_append

@[simp]
theorem moments_turn (who : ι) (moment : Moment I W) :
    moments ([.turn who moment] : List (Event ι I W M)) = [moment] := rfl

@[simp]
theorem moments_incident (what : M) :
    moments ([.incident what] : List (Event ι I W M)) = [] := rfl

/-- What a turn adds to a selection from the answers. -/
theorem filterMap_moments_turn (select : Moment I W → Option β) (log : List (Event ι I W M))
    (who : ι) (moment : Moment I W) :
    (moments (log ++ [.turn who moment])).filterMap select =
      (moments log).filterMap select ++ (select moment).toList := by
  rw [moments_append, List.filterMap_append, moments_turn]
  cases selected : select moment <;> simp [selected]

/-- A run of several activities: how far each has come, and what happened until then. -/
inductive Scene.Run [DecidableEq ι] (scene : Scene I W M) (start : ι → Dialogue I α) (world : W) :
    List (Event ι I W M) → (ι → Dialogue I α) → W → Prop
  /-- Nothing has happened. -/
  | start : Run scene start world [] start world
  /-- The question of an activity is answered. -/
  | turn {log : List (Event ι I W M)} {pool : ι → Dialogue I α} {now later : W} {who : ι}
      {question : I.Ask} {resume : I.Answer question → Dialogue I α} {answer : I.Answer question}
      (run : Run scene start world log pool now) (asks : pool who = .ask question resume)
      (answered : scene.answers question now answer later) :
      Run scene start world (log ++ [.turn who ⟨now, question, answer⟩])
        (Function.update pool who (resume answer)) later
  /-- Something else happens. -/
  | incident {log : List (Event ι I W M)} {pool : ι → Dialogue I α} {now later : W} {what : M}
      (run : Run scene start world log pool now) (happened : scene.happens what now later) :
      Run scene start world (log ++ [.incident what]) pool later

/-- A run goes on with the turn of an activity that asks. -/
theorem Scene.Run.step [DecidableEq ι] {scene : Scene I W M} {start pool : ι → Dialogue I α}
    {world now later : W} {log : List (Event ι I W M)} {question : I.Ask}
    {resume : I.Answer question → Dialogue I α} (run : scene.Run start world log pool now)
    (who : ι) (asks : pool who = .ask question resume) (answer : I.Answer question)
    (answered : scene.answers question now answer later) :
    scene.Run start world (log ++ [.turn who ⟨now, question, answer⟩])
      (Function.update pool who (resume answer)) later :=
  run.turn asks answered

/-- A run goes on with something else that happens. -/
theorem Scene.Run.pass [DecidableEq ι] {scene : Scene I W M} {start pool : ι → Dialogue I α}
    {world now later : W} {log : List (Event ι I W M)} (run : scene.Run start world log pool now)
    (what : M) (happened : scene.happens what now later) :
    scene.Run start world (log ++ [.incident what]) pool later :=
  run.incident happened

/-! ### Protocols -/

/-- Rules for an activity that passes through stages. -/
structure Protocol (I : Interface) (σ : Type) where
  /-- What may be asked at a stage. -/
  permits : σ → I.Ask → Prop
  /-- The answers that can come at a stage. -/
  expects : σ → (question : I.Ask) → I.Answer question → Prop
  /-- The stage after an answer. -/
  next : σ → (question : I.Ask) → I.Answer question → σ

namespace Dialogue

/-- An activity keeps to a protocol from a stage on, and its result fits the stage at its end. -/
def Follows (protocol : Protocol I σ) (ends : α → σ → Prop) : Dialogue I α → σ → Prop
  | .done value, stage => ends value stage
  | .ask question resume, stage => protocol.permits stage question ∧
      ∀ answer, protocol.expects stage question answer →
        (resume answer).Follows protocol ends (protocol.next stage question answer)

variable {protocol : Protocol I σ}

/-- Two activities one after the other keep to a protocol if each does. -/
theorem Follows.bind {between : α → σ → Prop} {ends : β → σ → Prop} {activity : Dialogue I α}
    {next : α → Dialogue I β} {stage : σ} (first : activity.Follows protocol between stage)
    (rest : ∀ value stage, between value stage → (next value).Follows protocol ends stage) :
    (activity.bind next).Follows protocol ends stage := by
  induction activity generalizing stage with
  | done value => exact rest value stage first
  | ask question resume ih =>
    exact ⟨first.1, fun answer expected => ih answer (first.2 answer expected)⟩

end Dialogue

/-! ### Invariants -/

namespace Scene

variable [DecidableEq ι] {scene : Scene I W M}

/-- Every permitted turn gets an expected answer and, as every incident, keeps what holds. -/
structure Keeps (scene : Scene I W M) (protocol : ι → Protocol I σ)
    (holds : (ι → σ) → List (Event ι I W M) → W → Prop) : Prop where
  /-- The answer to a permitted question. -/
  turn : ∀ {stages log world who question answer later}, holds stages log world →
    (protocol who).permits (stages who) question → scene.answers question world answer later →
    (protocol who).expects (stages who) question answer ∧
      holds (Function.update stages who ((protocol who).next (stages who) question answer))
        (log ++ [.turn who ⟨world, question, answer⟩]) later
  /-- Everything else. -/
  incident : ∀ {stages log world what later}, holds stages log world →
    scene.happens what world later → holds stages (log ++ [.incident what]) later

/-- **What is kept holds throughout every run**, if it holds at the start and every activity keeps
to its protocol. -/
theorem Run.invariant {protocol : ι → Protocol I σ} {ends : ι → α → σ → Prop}
    {holds : (ι → σ) → List (Event ι I W M) → W → Prop} (keeps : scene.Keeps protocol holds)
    {start pool : ι → Dialogue I α} {stages : ι → σ} {world after : W}
    {log : List (Event ι I W M)} (first : holds stages [] world)
    (follow : ∀ who, (start who).Follows (protocol who) (ends who) (stages who))
    (run : scene.Run start world log pool after) :
    ∃ stages, holds stages log after ∧
      ∀ who, (pool who).Follows (protocol who) (ends who) (stages who) := by
  induction run with
  | start => exact ⟨stages, first, follow⟩
  | turn run asks answered ih =>
    rename_i pool now later who question resume answer
    obtain ⟨stages, holding, follow⟩ := ih
    have asking := follow who
    rw [asks] at asking
    obtain ⟨expected, kept⟩ := keeps.turn holding asking.1 answered
    refine ⟨_, kept, fun other => ?_⟩
    by_cases same : other = who
    · subst same
      rw [Function.update_self, Function.update_self]
      exact asking.2 answer expected
    · rw [Function.update_of_ne same, Function.update_of_ne same]
      exact follow other
  | incident run happened ih =>
    obtain ⟨stages, holding, follow⟩ := ih
    exact ⟨stages, keeps.incident holding happened, follow⟩

end Scene

end MessageBus

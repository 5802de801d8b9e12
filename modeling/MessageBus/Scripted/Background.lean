/-
**Background activities.** Activities that go on beside the played ones.

* `Dialogue.goOn?` — takes an activity at least one question further, if its answer is there.
* `Background` — where a world keeps its background activities, and how it answers them.
* `Background.work?` — lets the first activity that can go on do so; afterwards it stands behind the
  others, so those that wait for the same thing get it in the order in which they began to wait.
-/

import MessageBus.Scripted.Stage

namespace MessageBus

namespace Dialogue

variable {I : Interface} {W α : Type}

/-- Takes an activity as far as it goes, if it can answer its question. -/
def goOn? (answer? : (question : I.Ask) → W → Option (I.Answer question × W)) :
    Dialogue I α → W → Option (Dialogue I α × W)
  | done _, _ => none
  | ask question resume, world =>
    (answer? question world).map fun (reply, world) => (resume reply).advance answer? world

end Dialogue

/-- Where a world keeps its background activities, and how it answers them. -/
structure Background (I : Interface) (W : Type) where
  /-- Answers a question, unless the answer must wait. -/
  answer? : (question : I.Ask) → W → Option (I.Answer question × W)
  /-- When a question that waits is answered at the latest. -/
  due? : I.Ask → Option Nat
  /-- The activities, in the order of their turns. -/
  activities : W → List (Dialogue I Unit)
  /-- Replaces the activities. -/
  setActivities : List (Dialogue I Unit) → W → W

namespace Background

variable {I : Interface} {W : Type}

/-- Adds an activity behind the others. -/
def add (background : Background I W) (activity : Dialogue I Unit) (world : W) : W :=
  match activity with
  | .done () => world
  | activity => background.setActivities (background.activities world ++ [activity]) world

/-- Lets the first of the `waiting` activities that can go on do so; `passed` cannot. -/
def turn? (background : Background I W) (passed : List (Dialogue I Unit)) :
    List (Dialogue I Unit) → W → Option W
  | [], _ => none
  | activity :: waiting, world =>
    match activity.goOn? background.answer?
        (background.setActivities (passed ++ waiting) world) with
    | some (activity, world) => some (background.add activity world)
    | none => background.turn? (passed ++ [activity]) waiting world

/-- Lets one activity go on, if any can. -/
def work? (background : Background I W) (world : W) : Option W :=
  background.turn? [] (background.activities world) world

/-- When the next activity that waits can go on. -/
def workDue? (background : Background I W) (world : W) : Option Nat :=
  (background.activities world).foldl
    (fun next activity => Stage.earlier next (activity.question?.bind background.due?)) none

end Background

end MessageBus

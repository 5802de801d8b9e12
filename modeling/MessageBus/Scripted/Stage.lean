/-
**Stages.** Activities played in a world with a clock of its own.

* `Stage` — how the world answers, works in the background and tells the time. Time passes only
  when nothing else can happen, and then jumps to the next thing that is due.
* `Stage.play` — plays activities together, each going as far as it can in its turn, then the
  background work, then the clock; at one time the activities go before the background.
* `Stage.settle` — lets the background work on its own up to a time.
-/

import MessageBus.Dialogue

namespace MessageBus

/-- A number of rounds that no play uses up. -/
def Stage.manyRounds : Nat := 1000000

/-- A world in which activities over an interface are played. -/
structure Stage (I : Interface) (W : Type) where
  /-- Answers a question, unless the answer must wait. -/
  answer? : (question : I.Ask) → W → Option (I.Answer question × W)
  /-- When a question that waits is answered at the latest. -/
  due? : I.Ask → Option Nat
  /-- One piece of background work, if any can be done now. -/
  work? : W → Option W
  /-- When background work that waits can go on. -/
  workDue? : W → Option Nat
  /-- How many pieces of background work are done before the played activities have their turn. -/
  pieces : Nat := Stage.manyRounds
  /-- The time. -/
  now : W → Nat
  /-- Sets the clock. -/
  setTime : Nat → W → W

namespace Stage

variable {I : Interface} {W α : Type}

/-- Lets each activity go as far as it can, in order. -/
def pollAll (stage : Stage I W) : List (Dialogue I α) → W → List (Dialogue I α) × W
  | [], world => ([], world)
  | activity :: rest, world =>
    let (activity, world) := activity.advance stage.answer? world
    let (rest, world) := stage.pollAll rest world
    (activity :: rest, world)

/-- Does background work until none is left, and tells whether there was any. -/
def exhaust (stage : Stage I W) : Nat → W → W × Bool
  | 0, world => (world, false)
  | rounds + 1, world => match stage.work? world with
    | none => (world, false)
    | some world => ((stage.exhaust rounds world).1, true)

/-- The earlier of two times, as far as there are any. -/
def earlier : Option Nat → Option Nat → Option Nat
  | some a, some b => some (min a b)
  | some a, none => some a
  | none, b => b

/-- The next time at which something is due. -/
def nextDue? (stage : Stage I W) (activities : List (Dialogue I α)) (world : W) : Option Nat :=
  activities.foldl
    (fun next activity => earlier next (activity.question?.bind stage.due?))
    (stage.workDue? world)

/-- Moves the clock forward to a time. -/
def moveTo (stage : Stage I W) (time : Nat) (world : W) : W :=
  stage.setTime (max time (stage.now world)) world

/-- Plays activities until all have ended, or nothing is due, or the time `limit` has come. At that
time each activity has one more turn, and what the background does then comes too late. -/
def playFor (stage : Stage I W) (limit : Option Nat) :
    Nat → List (Dialogue I α) → W → List (Dialogue I α) × W
  | 0, activities, world => (activities, world)
  | rounds + 1, activities, world =>
    let (activities, world) := stage.pollAll activities world
    if activities.all (fun activity => activity.result?.isSome) ||
        limit.any (· ≤ stage.now world) then (activities, world)
    else
      let (world, worked) := stage.exhaust stage.pieces world
      if worked then stage.playFor limit rounds activities world
      else match stage.nextDue? activities world, limit with
        | some time, none => stage.playFor limit rounds activities (stage.moveTo time world)
        | some time, some last =>
          if time ≤ last then stage.playFor limit rounds activities (stage.moveTo time world)
          else (activities, stage.moveTo last world)
        | none, some last => (activities, stage.moveTo last world)
        | none, none => (activities, world)

/-- Plays activities together to their ends. -/
def play (stage : Stage I W) (activities : List (Dialogue I α)) (world : W) :
    List (Option α) × W :=
  let (activities, world) := stage.playFor none manyRounds activities world
  (activities.map (·.result?), world)

/-- Plays one activity to its end. -/
def playOne (stage : Stage I W) (activity : Dialogue I α) (world : W) : Option α × W :=
  let (results, world) := stage.play [activity] world
  (results.head?.bind id, world)

/-- Plays one activity for at most a number of milliseconds. -/
def playWithin (stage : Stage I W) (milliseconds : Nat) (activity : Dialogue I α) (world : W) :
    Option α × W :=
  let limit := stage.now world + milliseconds
  let (activities, world) := stage.playFor (some limit) manyRounds [activity] world
  (activities.head?.bind (·.result?), world)

/-- Lets the background work up to a time. -/
def settleUntil (stage : Stage I W) (last : Nat) : Nat → W → W
  | 0, world => world
  | rounds + 1, world =>
    let (world, _) := stage.exhaust manyRounds world
    match stage.workDue? world with
    | some time =>
      if time ≤ last then stage.settleUntil last rounds (stage.moveTo time world)
      else stage.moveTo last world
    | none => stage.moveTo last world

/-- Lets the background work for a number of milliseconds. -/
def settle (stage : Stage I W) (milliseconds : Nat) (world : W) : W :=
  stage.settleUntil (stage.now world + milliseconds) manyRounds world

end Stage

end MessageBus

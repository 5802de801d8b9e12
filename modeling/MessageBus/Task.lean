/-
**Tasks.** What activities need from the place where they run: identifiers, queues and time.

* `Task.Ask` — the questions; sending into a full queue, waiting for a reply and sleeping may have
  to wait.
* `Channel` — a topic with the queue for its messages.
* `Workplace` — identifiers handed out, queues and the time; `Workplace.answer?` answers.
-/

import MessageBus.Dialogue
import MessageBus.Envelope
import MessageBus.Task.Queue

namespace MessageBus

/-- The two queues of a subscription, by their numbers. -/
structure Queues where
  /-- The queue of messages. -/
  messages : Nat
  /-- The queue of errors. -/
  errors : Nat
  deriving DecidableEq, Inhabited, Repr

/-- A topic with the queue for its messages. -/
structure Channel where
  /-- The topic. -/
  topic : String
  /-- The queue of messages. -/
  messages : Nat
  deriving DecidableEq, Inhabited, Repr

/-- What came first while a request waited. -/
inductive Arrival
  /-- A message. -/
  | message (envelope : Envelope)
  /-- An error. -/
  | error (error : BusError)
  /-- The deadline. -/
  | deadline
  deriving Inhabited

namespace Task

/-- What activities ask of the place where they run. -/
inductive Ask
  /-- A new identifier. -/
  | freshId
  /-- New queues for messages and errors, each of one capacity. -/
  | openQueues (capacity : Nat)
  /-- Sends a message, waiting for room; the answer says whether it was taken. -/
  | send (queue : Nat) (envelope : Envelope)
  /-- Sends an error, waiting for room; the answer says whether it was taken. -/
  | report (queue : Nat) (error : BusError)
  /-- The time a number of milliseconds from now. -/
  | timeIn (milliseconds : Nat)
  /-- Waits for a time. -/
  | sleepUntil (time : Nat)
  /-- Waits for a message, an error or a time. -/
  | await (queues : Queues) (deadline : Nat)
  /-- Takes nothing more from two queues. -/
  | close (queues : Queues)

/-- The type of the answer to each question. -/
abbrev Ask.Answer : Ask → Type
  | freshId => String
  | openQueues _ => Queues
  | send _ _ => Bool
  | report _ _ => Bool
  | timeIn _ => Nat
  | sleepUntil _ => Unit
  | await _ _ => Arrival
  | close _ => Unit

/-- The interface of the place where activities run. -/
abbrev interface : Interface := ⟨Ask, Ask.Answer⟩

/-- The time at which a question that waits is answered at the latest. -/
def Ask.due? : Ask → Option Nat
  | sleepUntil time => some time
  | await _ deadline => some deadline
  | _ => none

end Task

/-- A place where activities run. -/
structure Workplace where
  /-- The time in milliseconds. -/
  now : Nat := 0
  /-- How many identifiers were handed out. -/
  identifiers : Nat := 0
  /-- The queues of messages. -/
  messages : List (Queue Envelope) := []
  /-- The queues of errors. -/
  errors : List (Queue BusError) := []

namespace Workplace

/-- Hands out an identifier. -/
def freshId (supply : Nat → String) (place : Workplace) : String × Workplace :=
  (supply place.identifiers, { place with identifiers := place.identifiers + 1 })

/-- Opens a queue of messages. -/
def openMessages (place : Workplace) (capacity : Nat) : Nat × Workplace :=
  (place.messages.length, { place with messages := place.messages ++ [{ capacity }] })

/-- Opens a queue of errors. -/
def openErrors (place : Workplace) (capacity : Nat) : Nat × Workplace :=
  (place.errors.length, { place with errors := place.errors ++ [{ capacity }] })

/-- Sends into one queue of several; a queue that does not exist takes nothing. -/
def sendAt? {α : Type} (queues : List (Queue α)) (place : Nat) (item : α) :
    Option (Bool × List (Queue α)) :=
  match queues[place]? with
  | none => some (false, queues)
  | some queue => (queue.send? item).map fun (took, queue) => (took, queues.set place queue)

/-- Takes the oldest item of one queue of several. -/
def receiveAt? {α : Type} (queues : List (Queue α)) (place : Nat) :
    Option (α × List (Queue α)) := do
  let (item, queue) ← (← queues[place]?).receive?
  return (item, queues.set place queue)

/-- What has come for a waiting request: messages before errors, errors before the deadline. -/
def arrival? (place : Workplace) (queues : Queues) (deadline : Nat) :
    Option (Arrival × Workplace) :=
  match receiveAt? place.messages queues.messages with
  | some (envelope, messages) => some (.message envelope, { place with messages })
  | none => match receiveAt? place.errors queues.errors with
    | some (error, errors) => some (.error error, { place with errors })
    | none => if deadline ≤ place.now then some (.deadline, place) else none

/-- Answers a question, unless the answer must wait. -/
def answer? (supply : Nat → String) :
    (question : Task.Ask) → Workplace → Option (question.Answer × Workplace)
  | .freshId, place => some (place.freshId supply)
  | .openQueues capacity, place =>
    let (messages, place) := place.openMessages capacity
    let (errors, place) := place.openErrors capacity
    some ((⟨messages, errors⟩ : Queues), place)
  | .send queue envelope, place =>
    (sendAt? place.messages queue envelope).map fun (took, messages) =>
      (took, { place with messages })
  | .report queue error, place =>
    (sendAt? place.errors queue error).map fun (took, errors) => (took, { place with errors })
  | .timeIn milliseconds, place => some (place.now + milliseconds, place)
  | .sleepUntil time, place => if time ≤ place.now then some ((), place) else none
  | .await queues deadline, place => place.arrival? queues deadline
  | .close queues, place =>
    some ((), { place with
      messages := place.messages.modify queues.messages Queue.close
      errors := place.errors.modify queues.errors Queue.close })

end Workplace

end MessageBus

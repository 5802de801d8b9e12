/-
**Bounded queues.** Between those who send and the one who receives.

* `Queue` — a capacity, the items in order of arrival, and whether the receiver still takes items.
* `send?` — adds an item: a full queue makes the sender wait, a closed one refuses.
* `offer` — adds an item if there is room, and drops it otherwise.
* `receive?`, `close`, `drain` — the receiver's side.
-/

namespace MessageBus

/-- A bounded queue. -/
structure Queue (α : Type) where
  /-- How many items fit. -/
  capacity : Nat
  /-- The items, oldest first. -/
  items : List α := []
  /-- Whether the receiver takes no more items. -/
  closed : Bool := false

namespace Queue

variable {α : Type}

/-- Adds an item. No answer means that the sender must wait for room; the answer says whether the
queue took the item. -/
def send? (queue : Queue α) (item : α) : Option (Bool × Queue α) :=
  if queue.closed then some (false, queue)
  else if queue.items.length < queue.capacity then
    some (true, { queue with items := queue.items ++ [item] })
  else none

/-- Adds an item if the queue is open and has room. -/
def offer (queue : Queue α) (item : α) : Queue α :=
  match queue.send? item with
  | some (_, queue) => queue
  | none => queue

/-- Takes the oldest item. -/
def receive? (queue : Queue α) : Option (α × Queue α) :=
  match queue.items with
  | [] => none
  | item :: rest => some (item, { queue with items := rest })

/-- The receiver takes no more items. -/
def close (queue : Queue α) : Queue α :=
  { queue with closed := true }

/-- Takes all items. -/
def drain (queue : Queue α) : List α × Queue α :=
  (queue.items, { queue with items := [] })

end Queue

end MessageBus

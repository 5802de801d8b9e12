/-
**What comes through a queue.** A numbered queue of several, with a receiver who keeps what it
takes.

* `Queue.isOpenAt` — whether a queue takes items.
* `Queue.Passed` — which items came through a queue between two moments: what the receiver has kept
  and what still waits, put together, has grown by them. No other queue has changed.
* `Queue.Receives` — the receiver takes an item and keeps it.
* `passed_receives`, `passed_close`, `passed_send` — the receiver lets nothing through, and a sender
  its item if the queue is open.
* `exists_emptied`, `exists_sendAt?` — a receiver may empty a queue, and then there is room in it.
-/

import MessageBus.Proofs.Task.Waiting
import Mathlib.Logic.Relation

namespace MessageBus

variable {α : Type} {queues between after : List (Queue α)} {number : Nat} {item : α}
  {taken held kept : List α}

namespace Queue

/-- Whether a numbered queue takes items. -/
def isOpenAt (queues : List (Queue α)) (number : Nat) : Bool :=
  queues[number]?.any fun queue => !queue.closed

theorem isOpenAt_of_getElem? {queue : Queue α} (found : queues[number]? = some queue) :
    isOpenAt queues number = !queue.closed := by
  rw [isOpenAt, found]
  rfl

/-- Which items came through a numbered queue. -/
structure Passed (number : Nat) (items : List α) (queues : List (Queue α)) (taken : List α)
    (after : List (Queue α)) (kept : List α) : Prop where
  /-- What was taken and what waits has grown by the items. -/
  through : kept ++ waiting after number = taken ++ waiting queues number ++ items
  /-- The queue is still there. -/
  stays : ∀ queue, queues[number]? = some queue →
    ∃ later, after[number]? = some later ∧ later.capacity = queue.capacity
  /-- A closed queue is not opened again. -/
  opened : isOpenAt after number → isOpenAt queues number
  /-- All other queues are as they were. -/
  elsewhere : ∀ other ≠ number, after[other]? = queues[other]?

theorem Passed.refl (number : Nat) (queues : List (Queue α)) (taken : List α) :
    Passed number [] queues taken queues taken where
  through := (List.append_nil _).symm
  stays queue found := ⟨queue, found, rfl⟩
  opened := id
  elsewhere _ _ := rfl

theorem Passed.trans {items more : List α} (first : Passed number items queues taken between held)
    (rest : Passed number more between held after kept) :
    Passed number (items ++ more) queues taken after kept where
  through := by rw [rest.through, first.through, List.append_assoc]
  stays queue found := by
    obtain ⟨middle, there, size⟩ := first.stays queue found
    obtain ⟨later, still, same⟩ := rest.stays middle there
    exact ⟨later, still, same.trans size⟩
  opened := first.opened ∘ rest.opened
  elsewhere other different :=
    (rest.elsewhere other different).trans (first.elsewhere other different)

/-- What came through a queue that is all that has changed. -/
theorem passed_set {items : List α} {queue later : Queue α} (found : queues[number]? = some queue)
    (through : kept ++ later.items = taken ++ queue.items ++ items)
    (size : later.capacity = queue.capacity)
    (opened : later.closed = false → queue.closed = false) :
    Passed number items queues taken (queues.set number later) kept := by
  obtain ⟨inside, -⟩ := List.getElem?_eq_some_iff.mp found
  have replaced : (queues.set number later)[number]? = some later := List.getElem?_set_self inside
  refine ⟨?_, fun other there => ?_, ?_, fun other different => ?_⟩
  · rw [waiting_of_getElem? replaced, waiting_of_getElem? found, through]
  · cases found.symm.trans there
    exact ⟨later, replaced, size⟩
  · rw [isOpenAt_of_getElem? replaced, isOpenAt_of_getElem? found]
    simpa using opened
  · exact List.getElem?_set_ne (Ne.symm different)

/-- A receiver takes the oldest item of a numbered queue and keeps it. -/
def Receives (number : Nat) (before after : List (Queue α) × List α) : Prop :=
  ∃ item, Workplace.receiveAt? before.1 number = some (item, after.1) ∧ after.2 = before.2 ++ [item]

theorem passed_receives {before now : List (Queue α) × List α}
    (receives : Receives number before now) :
    Passed number [] before.1 before.2 now.1 now.2 ∧
      isOpenAt now.1 number = isOpenAt before.1 number := by
  obtain ⟨item, received, kept⟩ := receives
  obtain ⟨queue, rest, found, items, left⟩ := Workplace.exists_of_receiveAt? received
  obtain ⟨inside, -⟩ := List.getElem?_eq_some_iff.mp found
  rw [left, kept]
  refine ⟨passed_set found ?_ rfl id, ?_⟩
  · rw [items, List.append_nil, List.append_assoc]
    rfl
  · rw [isOpenAt_of_getElem? (List.getElem?_set_self inside), isOpenAt_of_getElem? found]

theorem passed_close {queue : Queue α} (found : queues[number]? = some queue) :
    Passed number [] queues taken (queues.modify number close) taken := by
  rw [List.modify_eq_set_getElem?, found]
  exact passed_set found (List.append_nil _).symm rfl nofun

/-- What is sent comes through exactly if the queue is open. -/
theorem passed_send {queue : Queue α} {took : Bool} (taken : List α)
    (found : queues[number]? = some queue)
    (sent : Workplace.sendAt? queues number item = some (took, after)) :
    Passed number (if took then [item] else []) queues taken after taken ∧
      took = isOpenAt queues number ∧ isOpenAt after number = isOpenAt queues number := by
  obtain ⟨inside, -⟩ := List.getElem?_eq_some_iff.mp found
  obtain ⟨rfl, rfl⟩ := Workplace.sendAt?_of_getElem? found sent
  rw [isOpenAt_of_getElem? (List.getElem?_set_self inside), isOpenAt_of_getElem? found]
  by_cases closed : queue.closed
  · rw [if_pos closed, closed]
    exact ⟨passed_set found (List.append_nil _).symm rfl id, rfl, rfl⟩
  · have unclosed := Bool.eq_false_iff.mpr closed
    rw [if_neg closed, unclosed]
    refine ⟨passed_set found (List.append_assoc _ _ _).symm rfl fun _ => unclosed, rfl, rfl⟩

/-! ### Emptying a queue -/

/-- A receiver may empty a queue. -/
theorem exists_emptied {queue : Queue α} (found : queues[number]? = some queue) (taken : List α) :
    ∃ after kept, Relation.ReflTransGen (Receives number) (queues, taken) (after, kept) ∧
      after[number]? = some { queue with items := [] } := by
  cases queue with
  | mk capacity items closed =>
    induction items generalizing queues taken with
    | nil => exact ⟨queues, taken, .refl, found⟩
    | cons item rest ih =>
      obtain ⟨inside, -⟩ := List.getElem?_eq_some_iff.mp found
      have replaced : (queues.set number ⟨capacity, rest, closed⟩)[number]? =
          some ⟨capacity, rest, closed⟩ := List.getElem?_set_self inside
      obtain ⟨after, kept, steps, emptied⟩ := ih (taken ++ [item]) replaced
      have received : Workplace.receiveAt? queues number =
          some (item, queues.set number ⟨capacity, rest, closed⟩) := by
        rw [Workplace.receiveAt?, found]
        rfl
      exact ⟨after, kept, .head ⟨item, received, rfl⟩ steps, emptied⟩

/-- A queue in which nothing waits answers whoever sends. -/
theorem exists_sendAt? {queue : Queue α} (found : queues[number]? = some queue)
    (empty : queue.items = []) (room : 0 < queue.capacity) (item : α) :
    ∃ took after, Workplace.sendAt? queues number item = some (took, after) := by
  have answered : ∃ took later, queue.send? item = some (took, later) := by
    unfold send?
    by_cases closed : queue.closed
    · exact ⟨false, queue, if_pos closed⟩
    · have fits : queue.items.length < queue.capacity := by
        rw [empty]
        exact room
      exact ⟨true, _, by rw [if_neg closed, if_pos fits]⟩
  obtain ⟨took, later, sends⟩ := answered
  refine ⟨took, queues.set number later, ?_⟩
  simp only [Workplace.sendAt?, found, sends, Option.map_some]

end Queue

end MessageBus

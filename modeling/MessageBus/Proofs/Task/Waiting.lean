/-
**What waits in queues.** The items of numbered queues, and what each question does to them.

* `Queue.waiting` — the items that wait in a queue, oldest first; in a queue that does not exist
  there are none.
* `waiting_append`, `waiting_modify_close` — opening and closing queues.
* `exists_of_receiveAt?`, `sendAt?_of_getElem?` — what becomes of the queue that is asked for;
  `receiveAt?_eq_some`, `sendAt?_eq_some`, `arrival?_eq_some` — what waits then: only that queue
  changes.
* `stay_of_answer?` — no question removes a queue or opens it again.
-/

import MessageBus.Task
import Mathlib.Data.List.Basic

namespace MessageBus

variable {α : Type} {queues after : List (Queue α)} {number : Nat} {item : α}

namespace Queue

/-- The items that wait in a numbered queue, oldest first. -/
def waiting (queues : List (Queue α)) (number : Nat) : List α :=
  (queues[number]?.map items).getD []

theorem waiting_of_getElem? {queue : Queue α} (found : queues[number]? = some queue) :
    waiting queues number = queue.items := by
  rw [waiting, found]
  rfl

theorem waiting_of_none (missing : queues[number]? = none) : waiting queues number = [] := by
  rw [waiting, missing]
  rfl

/-- Nothing waits in a new queue, and the others are as before. -/
theorem waiting_append (queues : List (Queue α)) (capacity number : Nat) :
    waiting (queues ++ [({ capacity } : Queue α)]) number = waiting queues number := by
  by_cases inside : number < queues.length
  · unfold waiting
    rw [List.getElem?_append_left inside]
  · have missing : queues[number]? = none := List.getElem?_eq_none (Nat.le_of_not_lt inside)
    rw [waiting_of_none missing, waiting, List.getElem?_append_right (Nat.le_of_not_lt inside)]
    cases number - queues.length <;> rfl

/-- Replacing a queue changes what waits in that queue alone. -/
theorem waiting_set (queue : Queue α) (other : Nat) (inside : number < queues.length) :
    waiting (queues.set number queue) other =
      if other = number then queue.items else waiting queues other := by
  unfold waiting
  by_cases same : other = number
  · rw [if_pos same, same, List.getElem?_set_self inside]
    rfl
  · rw [if_neg same, List.getElem?_set_ne (Ne.symm same)]

/-- Closing a queue leaves what waits in it. -/
theorem waiting_modify_close (queues : List (Queue α)) (number other : Nat) :
    waiting (queues.modify number close) other = waiting queues other := by
  unfold waiting
  rw [List.getElem?_modify]
  cases queues[other]? with
  | none => rfl
  | some queue =>
    by_cases same : number = other
    · simp [same, close]
    · simp [same]

/-! ### Queues stay -/

/-- Every queue is still there, and every closed queue is still closed. -/
def Stay (queues after : List (Queue α)) : Prop :=
  ∀ (number : Nat) (queue : Queue α), queues[number]? = some queue →
    ∃ later : Queue α, after[number]? = some later ∧ (queue.closed → later.closed)

theorem Stay.refl (queues : List (Queue α)) : Stay queues queues :=
  fun _ queue found => ⟨queue, found, id⟩

theorem stay_append (queues more : List (Queue α)) : Stay queues (queues ++ more) := by
  intro number queue found
  obtain ⟨inside, -⟩ := List.getElem?_eq_some_iff.mp found
  exact ⟨queue, (List.getElem?_append_left inside).trans found, id⟩

/-- Queues stay if one of them is changed and not opened again. -/
theorem stay_set {queue later : Queue α} (found : queues[number]? = some queue)
    (closed : queue.closed → later.closed) : Stay queues (queues.set number later) := by
  intro other queue' found'
  obtain ⟨inside, -⟩ := List.getElem?_eq_some_iff.mp found
  by_cases same : number = other
  · subst same
    cases found.symm.trans found'
    exact ⟨later, List.getElem?_set_self inside, closed⟩
  · exact ⟨queue', (List.getElem?_set_ne same).trans found', id⟩

theorem stay_close (queues : List (Queue α)) (number : Nat) :
    Stay queues (queues.modify number close) := by
  rw [List.modify_eq_set_getElem?]
  cases found : queues[number]? with
  | none => exact .refl _
  | some queue => exact stay_set found fun _ => rfl

end Queue

namespace Workplace

/-- An item that is received was the oldest one of a queue, which is left with the others. -/
theorem exists_of_receiveAt? (received : receiveAt? queues number = some (item, after)) :
    ∃ queue rest, queues[number]? = some queue ∧ queue.items = item :: rest ∧
      after = queues.set number { queue with items := rest } := by
  simp only [receiveAt?, Option.bind_eq_bind, Option.bind_eq_some_iff] at received
  obtain ⟨queue, found, ⟨first, left⟩, taken, answer⟩ := received
  obtain ⟨rfl, rfl⟩ : first = item ∧ queues.set number left = after := by
    simpa using answer
  cases items : queue.items with
  | nil => simp [Queue.receive?, items] at taken
  | cons head rest =>
    simp only [Queue.receive?, items, Option.some.injEq, Prod.mk.injEq] at taken
    obtain ⟨rfl, rfl⟩ := taken
    exact ⟨queue, rest, found, items, rfl⟩

/-- Receiving takes the oldest item of the queue, and touches no other queue. -/
theorem receiveAt?_eq_some (received : receiveAt? queues number = some (item, after)) :
    Queue.waiting queues number = item :: Queue.waiting after number ∧
      after.length = queues.length ∧
      ∀ other ≠ number, Queue.waiting after other = Queue.waiting queues other := by
  obtain ⟨queue, rest, found, items, rfl⟩ := exists_of_receiveAt? received
  obtain ⟨inside, -⟩ := List.getElem?_eq_some_iff.mp found
  rw [Queue.waiting_of_getElem? found, Queue.waiting_set _ _ inside, if_pos rfl, List.length_set]
  refine ⟨items, rfl, fun other different => ?_⟩
  rw [Queue.waiting_set _ _ inside, if_neg different]

theorem stay_of_receiveAt? (received : receiveAt? queues number = some (item, after)) :
    Queue.Stay queues after := by
  obtain ⟨queue, rest, found, -, rfl⟩ := exists_of_receiveAt? received
  exact Queue.stay_set found id

/-- Nothing is received where nothing waits. -/
theorem receiveAt?_eq_none :
    receiveAt? queues number = none ↔ Queue.waiting queues number = [] := by
  cases found : queues[number]? with
  | none => simp [receiveAt?, Queue.waiting, found]
  | some queue =>
    cases items : queue.items <;>
      simp [receiveAt?, Queue.waiting, found, Queue.receive?, items]

/-- A queue that is there takes an item that is sent exactly if it is open. -/
theorem sendAt?_of_getElem? {queue : Queue α} {took : Bool} (found : queues[number]? = some queue)
    (sent : sendAt? queues number item = some (took, after)) :
    took = !queue.closed ∧ after = queues.set number
      (if queue.closed then queue else { queue with items := queue.items ++ [item] }) := by
  simp only [sendAt?, found, Option.map_eq_some_iff, Prod.mk.injEq] at sent
  obtain ⟨⟨_, left⟩, sent, rfl, rfl⟩ := sent
  unfold Queue.send? at sent
  by_cases closed : queue.closed
  · rw [if_pos closed] at sent
    cases sent
    exact ⟨by rw [closed]; rfl, by rw [if_pos closed]⟩
  · rw [if_neg closed] at sent
    obtain ⟨-, same⟩ := Option.ite_none_right_eq_some.mp sent
    cases same
    exact ⟨by rw [Bool.eq_false_iff.mpr closed]; rfl, by rw [if_neg closed]⟩

/-- A closed queue refuses what is sent, however full it is. -/
theorem sendAt?_of_closed {queue : Queue α} (found : queues[number]? = some queue)
    (closed : queue.closed) (item : α) :
    sendAt? queues number item = some (false, queues.set number queue) := by
  simp [sendAt?, found, Queue.send?, closed]

/-- Sending adds the item to the queue or leaves it, and touches no other queue. -/
theorem sendAt?_eq_some {took : Bool} (sent : sendAt? queues number item = some (took, after)) :
    after.length = queues.length ∧ ∀ other, Queue.waiting after other = Queue.waiting queues other ∨
      other = number ∧ Queue.waiting after other = Queue.waiting queues other ++ [item] := by
  cases found : queues[number]? with
  | none =>
    rw [sendAt?, found] at sent
    cases sent
    exact ⟨rfl, fun _ => .inl rfl⟩
  | some queue =>
    obtain ⟨inside, -⟩ := List.getElem?_eq_some_iff.mp found
    obtain ⟨-, rfl⟩ := sendAt?_of_getElem? found sent
    refine ⟨List.length_set, fun other => ?_⟩
    rw [Queue.waiting_set _ _ inside]
    by_cases same : other = number
    · rw [if_pos same, same, Queue.waiting_of_getElem? found]
      by_cases closed : queue.closed
      · rw [if_pos closed]
        exact .inl rfl
      · rw [if_neg closed]
        exact .inr ⟨rfl, rfl⟩
    · rw [if_neg same]
      exact .inl rfl

theorem stay_of_sendAt? {took : Bool} (sent : sendAt? queues number item = some (took, after)) :
    Queue.Stay queues after := by
  cases found : queues[number]? with
  | none =>
    rw [sendAt?, found] at sent
    cases sent
    exact .refl _
  | some queue =>
    obtain ⟨-, rfl⟩ := sendAt?_of_getElem? found sent
    refine Queue.stay_set found fun closed => ?_
    rw [if_pos closed]
    exact closed

/-- Waiting takes what arrives from the queues of the wait, and adds nothing to any queue. -/
theorem arrival?_eq_some {place later : Workplace} {queues : Queues} {deadline : Nat}
    {arrival : Arrival} (arrived : place.arrival? queues deadline = some (arrival, later)) :
    later.messages.length = place.messages.length ∧
      (∀ number, ∀ envelope ∈ Queue.waiting later.messages number,
        envelope ∈ Queue.waiting place.messages number) ∧
      ∀ envelope, arrival = .message envelope →
        envelope ∈ Queue.waiting place.messages queues.messages := by
  unfold arrival? at arrived
  split at arrived
  · rename_i envelope messages received
    cases arrived
    obtain ⟨oldest, length, others⟩ := receiveAt?_eq_some received
    refine ⟨length, fun number other waits => ?_, ?_⟩
    · by_cases same : number = queues.messages
      · rw [same, oldest]
        exact List.mem_cons_of_mem _ (same ▸ waits)
      · rwa [others number same] at waits
    · rintro _ ⟨⟩
      rw [oldest]
      exact List.mem_cons_self
  split at arrived
  · cases arrived
    exact ⟨rfl, fun _ _ waits => waits, nofun⟩
  split at arrived
  · cases arrived
    exact ⟨rfl, fun _ _ waits => waits, nofun⟩
  · cases arrived

/-- Whatever is asked, no queue goes away, and no closed queue is opened again. -/
theorem stay_of_answer? {supply : Nat → String} {question : Task.Ask} {answer : question.Answer}
    {place later : Workplace} (answered : place.answer? supply question = some (answer, later)) :
    Queue.Stay place.messages later.messages ∧ Queue.Stay place.errors later.errors := by
  cases question with
  | openQueues capacity =>
    cases answered
    exact ⟨Queue.stay_append _ _, Queue.stay_append _ _⟩
  | send queue envelope =>
    obtain ⟨⟨took, messages⟩, sending, same⟩ := Option.map_eq_some_iff.mp answered
    cases same
    exact ⟨stay_of_sendAt? sending, .refl _⟩
  | report queue error =>
    obtain ⟨⟨took, errors⟩, sending, same⟩ := Option.map_eq_some_iff.mp answered
    cases same
    exact ⟨.refl _, stay_of_sendAt? sending⟩
  | sleepUntil time =>
    obtain ⟨-, same⟩ := Option.ite_none_right_eq_some.mp answered
    cases same
    exact ⟨.refl _, .refl _⟩
  | await queues deadline =>
    change place.arrival? queues deadline = some (answer, later) at answered
    unfold arrival? at answered
    split at answered
    · rename_i envelope messages received
      cases answered
      exact ⟨stay_of_receiveAt? received, .refl _⟩
    split at answered
    · rename_i error errors received
      cases answered
      exact ⟨.refl _, stay_of_receiveAt? received⟩
    split at answered
    · cases answered
      exact ⟨.refl _, .refl _⟩
    · cases answered
  | close queues =>
    cases answered
    exact ⟨Queue.stay_close _ _, Queue.stay_close _ _⟩
  | freshId | timeIn =>
    cases answered
    exact ⟨.refl _, .refl _⟩

end Workplace

end MessageBus

/-
**What has come into queues.** All numbered queues of a place, with receivers who keep what they
take.

* `Intake` — all that has come into a queue so far, taken or not, and whether it takes more.
* `Intake.Grows` — an intake grows by items: by all of them if the queue is still open, by the first
  ones if it was closed meanwhile, by none if it was closed before.
* `Queue.intake` — the intake of a numbered queue; `intake_receive`, `grows_close`, `grows_send` —
  what becomes of it.
* `Queue.AllRoomy` — items fit into every queue; `Queue.Lasts` — they still do, and all queues are
  as open as they were; `exists_room` — a receiver may make room for whoever sends.
-/

import MessageBus.Proofs.Task.Throughput
import Mathlib.Logic.Function.Basic

namespace MessageBus

variable {α : Type} {queues after : List (Queue α)} {kept : Nat → List α} {number other : Nat}
  {item : α}

/-- What has come into a queue. -/
structure Intake (α : Type) where
  /-- All items that the queue has taken, oldest first. -/
  items : List α
  isOpen : Bool

namespace Intake

/-- An intake grows by items. -/
structure Grows (items : List α) (before after : Intake α) : Prop where
  /-- The first ones come in, in order. -/
  first : ∃ took, took <+: items ∧ after.items = before.items ++ took
  /-- All of them come in if the queue is still open. -/
  all : after.isOpen → after.items = before.items ++ items
  /-- Nothing comes into a closed queue. -/
  nothing : before.isOpen = false → after.items = before.items
  /-- A closed queue is not opened again. -/
  opened : after.isOpen → before.isOpen

variable {before between last : Intake α} {items more : List α}

theorem Grows.refl (before : Intake α) : Grows [] before before where
  first := ⟨[], List.nil_prefix, (List.append_nil _).symm⟩
  all _ := (List.append_nil _).symm
  nothing _ := rfl
  opened := id

theorem Grows.trans (first : Grows items before between) (rest : Grows more between last) :
    Grows (items ++ more) before last where
  first := by
    -- what comes in later does so only if all that was sent earlier has come in
    cases still : between.isOpen with
    | true =>
      obtain ⟨took, among, grown⟩ := rest.first
      refine ⟨items ++ took, (List.prefix_append_right_inj items).mpr among, ?_⟩
      rw [grown, first.all still, List.append_assoc]
    | false =>
      obtain ⟨took, among, grown⟩ := first.first
      refine ⟨took, among.trans (List.prefix_append _ _), ?_⟩
      rw [rest.nothing still, grown]
  all still := by rw [rest.all still, first.all (rest.opened still), List.append_assoc]
  nothing closed := by
    have shut : between.isOpen = false :=
      Bool.eq_false_iff.mpr fun still => Bool.eq_false_iff.mp closed (first.opened still)
    rw [rest.nothing shut, first.nothing closed]
  opened still := first.opened (rest.opened still)

theorem Grows.of_eq (same : last = before) : Grows [] before last :=
  same ▸ .refl _

/-- What leaves items as they are lets an intake grow by nothing. -/
theorem Grows.still (same : last.items = before.items) (opened : last.isOpen → before.isOpen) :
    Grows [] before last := by
  have grown : last.items = before.items ++ [] := by rw [same, List.append_nil]
  exact ⟨⟨[], List.nil_prefix, grown⟩, fun _ => grown, fun _ => same, opened⟩

/-- An intake that did not grow by anything has the items that it had. -/
theorem Grows.items_eq (grows : Grows [] before last) : last.items = before.items := by
  obtain ⟨took, among, grown⟩ := grows.first
  rw [grown, List.prefix_nil.mp among, List.append_nil]

end Intake

namespace Queue

/-- What has come into a numbered queue: what its receiver has kept, and what waits. -/
def intake (queues : List (Queue α)) (kept : Nat → List α) (number : Nat) : Intake α :=
  ⟨kept number ++ waiting queues number, isOpenAt queues number⟩

theorem isOpenAt_congr (same : after[number]? = queues[number]?) :
    isOpenAt after number = isOpenAt queues number := by
  rw [isOpenAt, isOpenAt, same]

theorem waiting_congr (same : after[number]? = queues[number]?) :
    waiting after number = waiting queues number := by
  rw [waiting, waiting, same]

/-- A queue that is as it was has the intake that it had. -/
theorem intake_congr (same : after[number]? = queues[number]?) :
    intake after kept number = intake queues kept number := by
  rw [intake, intake, waiting_congr same, isOpenAt_congr same]

/-- **Receivers leave every intake as it is.** -/
theorem intake_receive (received : Workplace.receiveAt? queues number = some (item, after))
    (other : Nat) :
    intake after (Function.update kept number (kept number ++ [item])) other =
      intake queues kept other := by
  have receives : Receives number (queues, kept number) (after, kept number ++ [item]) :=
    ⟨item, received, rfl⟩
  obtain ⟨passed, same⟩ := passed_receives receives
  by_cases here : other = number
  · subst here
    have through := passed.through.trans (List.append_nil _)
    rw [intake, intake, Function.update_self, same, through]
  · rw [intake, Function.update_of_ne here]
    exact intake_congr (passed.elsewhere other here)

/-- A receiver who takes no more lets nothing in. -/
theorem grows_close (queues : List (Queue α)) (kept : Nat → List α) (number other : Nat) :
    Intake.Grows [] (intake queues kept other) (intake (queues.modify number close) kept other) := by
  refine .still ?_ ?_
  · exact congrArg (kept other ++ ·) (waiting_modify_close queues number other)
  · show isOpenAt (queues.modify number close) other → isOpenAt queues other
    intro still
    cases found : queues[number]? with
    | none =>
      rwa [List.modify_eq_set_getElem?, found] at still
    | some queue =>
      have passed : Passed number [] queues [] (queues.modify number close) [] := passed_close found
      by_cases here : other = number
      · subst here
        exact passed.opened still
      · rwa [isOpenAt_congr (passed.elsewhere other here)] at still

/-- **What is sent comes into its queue**, if that is open, and into no other. -/
theorem grows_send {took : Bool}
    (sent : Workplace.sendAt? queues number item = some (took, after)) (other : Nat) :
    Intake.Grows (if number = other then [item] else []) (intake queues kept other)
      (intake after kept other) := by
  cases found : queues[number]? with
  | none =>
    simp only [Workplace.sendAt?, found, Option.some.injEq, Prod.mk.injEq] at sent
    obtain ⟨-, rfl⟩ := sent
    by_cases here : number = other
    · -- a queue that does not exist takes nothing
      subst here
      have missing : isOpenAt queues number = false := by
        rw [isOpenAt, found]
        rfl
      rw [if_pos rfl]
      refine ⟨⟨[], List.nil_prefix, (List.append_nil _).symm⟩, ?_, fun _ => rfl, id⟩
      intro still
      exact absurd still (Bool.eq_false_iff.mp missing)
    · rw [if_neg here]
      exact .refl _
  | some queue =>
    obtain ⟨passed, took, still⟩ := passed_send (kept other) found sent
    by_cases here : number = other
    · subst here
      rw [if_pos rfl]
      have through := passed.through
      rw [took] at through
      cases opened : isOpenAt queues number with
      | true =>
        rw [opened, if_pos rfl] at through
        refine ⟨⟨[item], List.prefix_rfl, through⟩, fun _ => through, ?_, fun _ => opened⟩
        intro closed
        cases opened.symm.trans closed
      | false =>
        rw [opened, if_neg Bool.false_ne_true, List.append_nil] at through
        have shut : ¬ isOpenAt after number := Bool.eq_false_iff.mp (still.trans opened)
        exact ⟨⟨[], List.nil_prefix, through.trans (List.append_nil _).symm⟩,
          fun still => absurd still shut, fun _ => through, fun still => absurd still shut⟩
    · rw [if_neg here, intake_congr (passed.elsewhere other (Ne.symm here))]
      exact .refl _

/-! ### Room -/

/-- Items fit into every queue. -/
def AllRoomy (queues : List (Queue α)) : Prop :=
  ∀ queue ∈ queues, 0 < queue.capacity

instance (queues : List (Queue α)) : Decidable (AllRoomy queues) :=
  inferInstanceAs (Decidable (∀ queue ∈ queues, 0 < queue.capacity))

/-- Items still fit into every queue, and open queues are open, closed ones closed. -/
structure Lasts (queues after : List (Queue α)) : Prop where
  roomy : AllRoomy after
  opened : ∀ number, isOpenAt after number = isOpenAt queues number

theorem Lasts.refl (roomy : AllRoomy queues) : Lasts queues queues :=
  ⟨roomy, fun _ => rfl⟩

theorem Lasts.trans {between : List (Queue α)} (first : Lasts queues between)
    (rest : Lasts between after) : Lasts queues after :=
  ⟨rest.roomy, fun number => (rest.opened number).trans (first.opened number)⟩

/-- Queues last if items come through one of them that is open afterwards as it was before. -/
theorem Passed.lasts {items taken held : List α} {queue : Queue α}
    (passed : Passed number items queues taken after held) (roomy : AllRoomy queues)
    (there : queues[number]? = some queue)
    (same : isOpenAt after number = isOpenAt queues number) : Lasts queues after where
  roomy queue' member := by
    obtain ⟨other, found⟩ := List.getElem?_of_mem member
    by_cases here : other = number
    · subst here
      obtain ⟨later, still, size⟩ := passed.stays queue there
      cases still.symm.trans found
      exact size ▸ roomy queue (List.mem_of_getElem? there)
    · exact roomy queue' (List.mem_of_getElem? ((passed.elsewhere other here).symm.trans found))
  opened other := by
    by_cases here : other = number
    · exact here ▸ same
    · exact isOpenAt_congr (passed.elsewhere other here)

/-- A receiver who takes any number of items lets nothing through. -/
theorem passed_of_receives {before now : List (Queue α) × List α}
    (steps : Relation.ReflTransGen (Receives number) before now) :
    Passed number [] before.1 before.2 now.1 now.2 ∧
      isOpenAt now.1 number = isOpenAt before.1 number := by
  induction steps with
  | refl => exact ⟨.refl _ _ _, rfl⟩
  | tail _ receives ih =>
    obtain ⟨passed, same⟩ := passed_receives receives
    exact ⟨ih.1.trans passed, same.trans ih.2⟩

/-- **A receiver may make room** for whoever sends. -/
theorem exists_room (roomy : AllRoomy queues) (number : Nat) (taken : List α) (item : α) :
    ∃ between held, Relation.ReflTransGen (Receives number) (queues, taken) (between, held) ∧
      Lasts queues between ∧ ∃ took after,
        Workplace.sendAt? between number item = some (took, after) ∧ Lasts queues after := by
  cases found : queues[number]? with
  | none =>
    have refused : Workplace.sendAt? queues number item = some (false, queues) := by
      rw [Workplace.sendAt?, found]
    exact ⟨queues, taken, .refl, .refl roomy, false, queues, refused, .refl roomy⟩
  | some queue =>
    obtain ⟨between, held, steps, emptied⟩ := exists_emptied found taken
    obtain ⟨passed, same⟩ := passed_of_receives steps
    have lasts : Lasts queues between := passed.lasts roomy found same
    obtain ⟨took, after, sent⟩ := exists_sendAt? emptied rfl (roomy queue (List.mem_of_getElem? found)) item
    obtain ⟨through, -, still⟩ := passed_send [] emptied sent
    exact ⟨between, held, steps, lasts, took, after, sent,
      lasts.trans (through.lasts lasts.roomy emptied still)⟩

end Queue

end MessageBus

/-
**The registry as a map.** What the sections of a NATS client do to the handle of each topic.

* `lookup_take`, `lookup_restore`, `lookup_register` — the handle of every topic after each section
  that changes one.
* `keys_nodup_answer` — no section makes two entries of one topic.
-/

import MessageBus.Nats.Client
import Mathlib.Data.List.Nodup

namespace MessageBus.Nats.Client.State

variable {Handle : Type}

/-- A topic that was taken out has no handle; the others keep theirs. -/
theorem lookup_without (registry : List (String × Handle)) (topic other : String) :
    (without registry topic).lookup other =
      if other = topic then none else registry.lookup other := by
  induction registry with
  | nil => simp [without]
  | cons entry rest ih =>
    unfold without at *
    by_cases taken : entry.1 = topic
    · rw [List.filter_cons_of_neg (by simp [taken]), ih, List.lookup_cons]
      by_cases same : other = topic
      · rw [if_pos same, if_pos same]
      · rw [if_neg same, if_neg same, beq_false_of_ne (taken ▸ same)]
    · rw [List.filter_cons_of_pos (by simp [taken]), List.lookup_cons, List.lookup_cons, ih]
      by_cases found : other = entry.1
      · have kept : other ≠ topic := found ▸ taken
        rw [if_neg kept, found, beq_self_eq_true, if_neg taken]
      · rw [beq_false_of_ne found]

/-- An entry at the end counts if its topic has no other. -/
theorem lookup_append_entry (registry : List (String × Handle)) (topic other : String)
    (handle : Handle) (missing : registry.lookup topic = none) :
    (registry ++ [(topic, handle)]).lookup other =
      if other = topic then some handle else registry.lookup other := by
  rw [List.lookup_append]
  by_cases same : other = topic
  · subst same
    simp [missing]
  · rw [if_neg same, List.lookup_cons, beq_false_of_ne same, List.lookup_nil, Option.or_none]

/-- Without a topic there is still one entry for each topic. -/
theorem keys_nodup_without {registry : List (String × Handle)} (topic : String)
    (nodup : (registry.map Prod.fst).Nodup) : ((without registry topic).map Prod.fst).Nodup :=
  nodup.sublist (List.filter_sublist.map Prod.fst)

/-- An entry for a topic that has none leaves one entry for each topic. -/
theorem keys_nodup_append {registry : List (String × Handle)} {topic : String} (handle : Handle)
    (nodup : (registry.map Prod.fst).Nodup) (missing : registry.lookup topic = none) :
    ((registry ++ [(topic, handle)]).map Prod.fst).Nodup := by
  have absent : topic ∉ registry.map Prod.fst := by
    intro member
    obtain ⟨entry, inside, rfl⟩ := List.mem_map.mp member
    simpa using List.lookup_eq_none_iff.mp missing entry inside
  rw [List.map_append]
  exact List.Nodup.append nodup (List.nodup_singleton topic) (by simpa using absent)

variable (state : State Handle) (topic other : String) (handle : Handle)

/-- Taking a topic answers its handle. -/
theorem answer_take : (state.answer (.take topic)).1 = state.registry.lookup topic := rfl

/-- Registering a topic answers its handle so far. -/
theorem answer_register :
    (state.answer (.register topic handle)).1 = state.registry.lookup topic := rfl

/-- After taking, the topic has no handle and the others keep theirs. -/
theorem lookup_take : (state.answer (.take topic)).2.registry.lookup other =
    if other = topic then none else state.registry.lookup other :=
  lookup_without state.registry topic other

/-- After registering, the topic has the handle and the others keep theirs. -/
theorem lookup_register : (state.answer (.register topic handle)).2.registry.lookup other =
    if other = topic then some handle else state.registry.lookup other := by
  have missing : (without state.registry topic).lookup topic = none := by
    rw [lookup_without, if_pos rfl]
  show (without state.registry topic ++ [(topic, handle)]).lookup other = _
  rw [lookup_append_entry _ _ _ _ missing, lookup_without]
  by_cases same : other = topic
  · rw [if_pos same, if_pos same]
  · rw [if_neg same, if_neg same, if_neg same]

/-- Putting back does nothing if the topic has a handle by now. -/
theorem answer_restore_of_some {current : Handle}
    (taken : state.registry.lookup topic = some current) :
    (state.answer (.restore topic handle)).2 = state := by
  simp [answer, taken]

/-- Putting back gives a topic without a handle the old one. -/
theorem lookup_restore (missing : state.registry.lookup topic = none) :
    (state.answer (.restore topic handle)).2.registry.lookup other =
      if other = topic then some handle else state.registry.lookup other := by
  have put : (state.answer (.restore topic handle)).2.registry =
      state.registry ++ [(topic, handle)] := by
    simp [answer, missing]
  rw [put, lookup_append_entry _ _ _ _ missing]

/-- No section makes two entries of one topic. -/
theorem keys_nodup_answer {state : State Handle} (question : Section Handle)
    (nodup : (state.registry.map Prod.fst).Nodup) :
    ((state.answer question).2.registry.map Prod.fst).Nodup := by
  cases question with
  | session => exact nodup
  | install connection =>
    simp only [answer]
    split <;> exact nodup
  | retire =>
    simp only [answer]
    split <;> exact nodup
  | take topic => exact keys_nodup_without topic nodup
  | restore topic handle =>
    simp only [answer]
    split
    · exact nodup
    · rename_i missing
      exact keys_nodup_append handle nodup (Option.not_isSome_iff_eq_none.mp missing)
  | register topic handle =>
    refine keys_nodup_append handle (keys_nodup_without topic nodup) ?_
    rw [lookup_without, if_pos rfl]
  | clear => exact List.nodup_nil

end MessageBus.Nats.Client.State

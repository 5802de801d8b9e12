/-
**The end of all calls.** What the ledger of all handles comes to when no call has one in its hand.

* `Settled.not_rejection`, `Released.not_live` — no handle has come to two ends.
* `handles_accounted_for` — **once all calls have returned**, every handle ever given out is
  registered for its own topic, released or discarded, and no two of these.
-/

import MessageBus.Proofs.Nats.Ledger

namespace MessageBus.Nats.Client

variable {Handle ι : Type} [DecidableEq Handle] {fate : Handle → Fate ι}
  {stages : ι → Custody Handle} {log : Chronicle ι Handle} {world : Depot Handle}

/-- A handle that was put into the registry last has not been rejected. -/
theorem Settled.not_rejection {handle other : Handle} {topic : String}
    (settled : Settled log handle topic) :
    ¬ Rejection topic handle other (story handle log) := by
  obtain ⟨before, last, ending, put⟩ := settled
  intro rejection
  rw [ending] at rejection
  generalize told : before ++ [last] = events at rejection
  have final := congrArg List.getLast? told
  rw [List.getLast?_concat] at final
  cases rejection with
  | @displaced front registering stopping error _ failed =>
    have same : last = stopping := by simpa using final
    have asked : last.question = .inr (.stop handle) := same ▸ congrArg Sigma.fst failed
    rcases put with put | ⟨put, -⟩ <;> rw [asked] at put <;> cases put
  | @replaced front stopping restoring error _ restored taken =>
    have same : last = restoring := by simpa using final
    have asked : last.question = .inl (.restore topic handle) :=
      same ▸ congrArg Sigma.fst restored
    rcases put with put | ⟨-, missing⟩
    · rw [asked] at put
      cases put
    · rw [same, taken] at missing
      cases missing

/-- A handle whose native unsubscribe succeeded is not live. -/
theorem Released.not_live {handle : Handle} (released : Released log handle) :
    ¬ Live log handle := by
  obtain ⟨before, last, ending, stopped, -⟩ := released
  intro live
  refine live last ?_ stopped
  rw [ending]
  exact List.mem_append_right _ (List.mem_singleton_self _)

/-- With all hands empty, a handle that was given out is in one of three places. -/
theorem Ledger.settle {handle : Handle} {topic : String} (ledger : Ledger fate stages log world)
    (free : ∀ who, stages who = .free) (issued : IssuedFor log handle topic) :
    world.client.registry.lookup topic = some handle ∨ Released log handle ∨
      Discarded log handle topic := by
  have told := ledger.tells handle
  match place : fate handle with
  | .unknown =>
    rw [place] at told
    exact absurd told issued.story_ne_nil
  | .at (.hand who) =>
    have inHand := (ledger.placed (.hand who) handle).mpr place
    change (stages who).hand? = some handle at inHand
    rw [free who] at inHand
    cases inHand
  | .at (.entry other) =>
    have found := (ledger.placed (.entry other) handle).mpr place
    rw [place] at told
    rw [ledger.unique handle topic other issued told.1]
    exact .inl found
  | .released =>
    rw [place] at told
    exact .inr (.inl told)
  | .discarded =>
    rw [place] at told
    obtain ⟨other, issuedOther, discarded⟩ := told
    rw [ledger.unique handle topic other issued issuedOther]
    exact .inr (.inr discarded)

/-- **Every handle is accounted for** once all calls have returned, in whatever order they took
turns and whatever failed. A handle ever given out is registered for its own topic, or was released
by its only successful native unsubscribe, or was given up for another handle of the same topic when
its native unsubscribe had failed, and no two of these. If no native unsubscribe failed, the live
handles are those of the registry, one for each topic. -/
theorem handles_accounted_for [DecidableEq ι] {options : Options} {operations : ι → Operation}
    {session : Session} {log : Chronicle ι Handle}
    {pool : ι → Dialogue (backend Handle) (BusResult Unit)} {after : Depot Handle}
    (run : depot.Run (fun who => (operations who).activity options) ⟨{ session }, []⟩ log pool
      after)
    (returned : ∀ who, ∃ result, pool who = .done result) :
    (∀ handle topic, IssuedFor log handle topic →
      (after.client.registry.lookup topic = some handle ∨ Released log handle ∨
        Discarded log handle topic) ∧
      ¬ (after.client.registry.lookup topic = some handle ∧ Released log handle) ∧
      ¬ (after.client.registry.lookup topic = some handle ∧ Discarded log handle topic) ∧
      ¬ (Released log handle ∧ Discarded log handle topic)) ∧
    (∀ topic handle, after.client.registry.lookup topic = some handle →
      IssuedFor log handle topic) ∧
    (after.client.registry.map Prod.fst).Nodup ∧
    ((∀ moment ∈ moments log, ∀ handle error,
        moment.exchange ≠ stopped handle (.error error)) →
      (∀ handle, (∃ topic, IssuedFor log handle topic) ∧ Live log handle ↔
        ∃ topic, after.client.registry.lookup topic = some handle) ∧
      ∀ topic handle other, IssuedFor log handle topic → IssuedFor log other topic →
        Live log handle → Live log other → handle = other) := by
  obtain ⟨stages, ⟨fate, ledger⟩, follow⟩ := run.invariant accounted_keeps
    ⟨_, ledger_start session⟩ fun who => isTidy_activity options (operations who)
  have free : ∀ who, stages who = .free := by
    intro who
    obtain ⟨result, done⟩ := returned who
    have ends := follow who
    rw [done] at ends
    exact ends
  refine ⟨fun handle topic issued => ⟨ledger.settle free issued, ?_, ?_, ?_⟩,
    fun topic handle found => (ledger.known_entry found).1, ledger.keys, fun smooth => ?_⟩
  · rintro ⟨found, released⟩
    exact released.not_live (ledger.known_entry found).2.1
  · rintro ⟨found, -, other, -, -, rejection⟩
    exact (ledger.known_entry found).2.2.not_rejection rejection
  · rintro ⟨released, discarded⟩
    exact released.not_live discarded.1
  have registered : ∀ handle topic, IssuedFor log handle topic → Live log handle →
      after.client.registry.lookup topic = some handle := by
    intro handle topic issued live
    rcases ledger.settle free issued with found | released | ⟨-, other, -, -, rejection⟩
    · exact found
    · exact absurd live released.not_live
    · obtain ⟨moment, member, error, failed⟩ := rejection.failed
      exact absurd failed (smooth moment (List.mem_filter.mp member).1 handle error)
  refine ⟨fun handle => ⟨?_, ?_⟩, ?_⟩
  · rintro ⟨⟨topic, issued⟩, live⟩
    exact ⟨topic, registered handle topic issued live⟩
  · rintro ⟨topic, found⟩
    obtain ⟨issued, live, -⟩ := ledger.known_entry found
    exact ⟨⟨topic, issued⟩, live⟩
  · intro topic handle other issued issuedOther live liveOther
    have first := registered handle topic issued live
    rw [registered other topic issuedOther liveOther] at first
    exact (Option.some.inj first).symm

/-- Three calls about one topic: two that subscribe it, and one that unsubscribes it. -/
def contest : Fin 3 → Operation
  | 0 => .subscribe [⟨"a/b", 0⟩] 0
  | 1 => .unsubscribe ["a/b"]
  | 2 => .subscribe [⟨"a/b", 1⟩] 1

/-- The first handle is taken and cannot be stopped. Before it is put back, the third call registers
another. -/
theorem exists_contest :
    ∃ (log : Chronicle (Fin 3) Nat) (pool : Fin 3 → Dialogue (backend Nat) (BusResult Unit))
      (after : Depot Nat),
      depot.Run (fun who => (contest who).activity {}) ⟨{ session := .connected 0 }, []⟩ log
        pool after ∧ (∀ who, ∃ result, pool who = .done result) ∧ IssuedFor log 0 "a/b" ∧
      after.client.registry.lookup "a/b" = some 1 ∧
      ((story 0 log).map Moment.question).getLast? = some (.inl (.restore "a/b" 0)) := by
  have idle : (depot : Scene (backend Nat) (Depot Nat) Empty).Run
      (fun who => (contest who).activity {}) ⟨{ session := .connected 0 }, []⟩ []
      (fun who => (contest who).activity {}) ⟨{ session := .connected 0 }, []⟩ := .start
  have opened := (((idle.step 0 rfl (.connected 0) ⟨rfl, rfl⟩).step 0 rfl none ⟨rfl, rfl⟩).step
    0 rfl (.ok 0) ⟨nofun, rfl⟩).step 0 rfl none ⟨rfl, rfl⟩
  have refused := ((opened.step 1 rfl (.connected 0) ⟨rfl, rfl⟩).step 1 rfl (some 0)
    ⟨rfl, rfl⟩).step 1 rfl (.error .disabled) rfl
  have again := (((refused.step 2 rfl (.connected 0) ⟨rfl, rfl⟩).step 2 rfl none ⟨rfl, rfl⟩).step
    2 rfl (.ok 1) ⟨by decide, rfl⟩).step 2 rfl none ⟨rfl, rfl⟩
  refine ⟨_, _, _, again.step 1 rfl () ⟨rfl, rfl⟩, ?_, ?_, rfl, rfl⟩
  · intro who
    match who with
    | 0 | 1 | 2 => exact ⟨_, rfl⟩
  · exact ⟨_, .tail _ (.tail _ (.head _)), rfl⟩

/-- In such a course the first handle is given up for the other one. -/
theorem handles_accounted_for_contest :
    ∃ (log : Chronicle (Fin 3) Nat) (pool : Fin 3 → Dialogue (backend Nat) (BusResult Unit))
      (after : Depot Nat),
      depot.Run (fun who => (contest who).activity {}) ⟨{ session := .connected 0 }, []⟩ log
        pool after ∧ (∀ who, ∃ result, pool who = .done result) ∧
      after.client.registry.lookup "a/b" = some 1 ∧ Discarded log 0 "a/b" := by
  obtain ⟨log, pool, after, run, returned, issued, found, final⟩ := exists_contest
  refine ⟨log, pool, after, run, returned, found, ?_⟩
  rcases ((handles_accounted_for run returned).1 0 "a/b" issued).1 with first | released | discarded
  · rw [found] at first
    cases first
  · obtain ⟨before, last, ending, stopped, -⟩ := released
    have asked : last.question = .inr (.stop 0) := congrArg Sigma.fst stopped
    rw [ending, List.map_append, List.map_singleton, List.getLast?_concat, asked] at final
    cases final
  · exact discarded

end MessageBus.Nats.Client

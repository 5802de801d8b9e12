/-
**Publishing into a stream.** How often it is tried, and what comes of it, whatever becomes of the
attempts.

* `Retry.loop` — the attempts with a counter of 32 bits, which is what is asked; `publish_eq_loop` —
  a publish is this loop, with one message for all attempts.
* `Retry.failures` — how many attempts fail before the first success, maybe all.
* `Retry.IsLast` — the attempt after which none is made; `IsLast.eq_min` — which one that is.
* `Retry.counter_of_trace` — the counter counts the attempts, up to the limit and no further.
* `Retry.trace_loop` — the course of the loop when the attempts come out in a given way.
* `publish_retried` — **a publish is tried once more for each failure, as often as it may be**, and
  ends as its last attempt does.
-/

import MessageBus.Nats.Link
import MessageBus.Proofs.Dialogue.Beside
import Mathlib.Data.ENat.Lattice

namespace MessageBus.Nats

open Dialogue

namespace Retry

/-- The outcome of each attempt, should it come to that. -/
abbrev Outcomes := ℕ → Except String Unit

/-- Attempts by their counters. -/
abbrev attempts : Interface := ⟨UInt32, fun _ => Except String Unit⟩

/-- What becomes of a publish whose last attempt has this outcome. -/
def settled : Except String Unit → BusResult Unit :=
  Link.named (.operation "publish")

/-- The counter of an attempt that is not the last one goes up without wrapping around. -/
theorem toNat_next {limit attempt : UInt32} (below : attempt < limit) :
    (attempt + 1).toNat = attempt.toNat + 1 := by
  have room : attempt.toNat + 1 < 2 ^ 32 :=
    Nat.lt_of_le_of_lt (UInt32.lt_iff_toNat_lt.mp below) limit.toNat_lt
  rw [UInt32.toNat_add]
  exact Nat.mod_eq_of_lt room

theorem next_le {limit attempt : UInt32} (below : attempt < limit) : attempt + 1 ≤ limit := by
  rw [UInt32.le_iff_toNat_le, toNat_next below]
  exact UInt32.lt_iff_toNat_lt.mp below

/-- One attempt after another, until one succeeds or the counter has reached the limit. -/
def loop (limit attempt : UInt32) : Dialogue attempts (BusResult Unit) :=
  .ask (I := attempts) attempt fun
    | .ok () => .done (settled (.ok ()))
    | .error words =>
      if attempt < limit then loop limit (attempt + 1) else .done (settled (.error words))
termination_by limit.toNat - attempt.toNat
decreasing_by
  rename_i below
  have next := toNat_next below
  have order := UInt32.lt_iff_toNat_lt.mp below
  omega

/-! ### The counter -/

variable {limit attempt : UInt32} {outcomes : Outcomes} {counted : List (Exchange attempts)}
  {result : BusResult Unit}

/-- **The counter counts the attempts**, and never exceeds the limit. -/
theorem counter_of_trace (within : attempt ≤ limit)
    (trace : Trace (loop limit attempt) counted result) :
    counted.map (fun exchange => exchange.1.toNat) = List.range' attempt.toNat counted.length ∧
      ∀ exchange ∈ counted, exchange.1 ≤ limit := by
  fun_induction loop limit attempt generalizing counted with
  | case1 attempt ih =>
    obtain ⟨outcome, rest, rfl, further⟩ := trace_ask.mp trace
    have first : ∀ exchange ∈ [(⟨attempt, outcome⟩ : Exchange attempts)], exchange.1 ≤ limit :=
      fun exchange member => (List.mem_singleton.mp member) ▸ within
    match outcome with
    | .ok () =>
      obtain ⟨rfl, -⟩ := trace_done.mp further
      exact ⟨rfl, first⟩
    | .error words =>
      simp only at further
      by_cases below : attempt < limit
      · rw [if_pos below] at further
        obtain ⟨counters, bounded⟩ := ih below (next_le below) further
        rw [toNat_next below] at counters
        exact ⟨congrArg (attempt.toNat :: ·) counters, List.forall_mem_cons.mpr ⟨within, bounded⟩⟩
      · rw [if_neg below] at further
        obtain ⟨rfl, -⟩ := trace_done.mp further
        exact ⟨rfl, first⟩

/-! ### Publishing -/

/-- **A publish is the loop**, with the message for each attempt. -/
theorem publish_eq_loop (options : Options) (connection : Nat) (message : Message) (retries : Nat)
    (left : attempt.toNat + retries = limit.toNat) :
    (JetStream.publish connection message retries).translate (Link.base options) =
      (loop limit attempt).translate fun _ => Link.call (.store message) := by
  induction retries generalizing attempt with
  | zero =>
    have reached : ¬ attempt < limit := by
      rw [UInt32.lt_iff_toNat_lt]
      omega
    rw [loop]
    refine congrArg (Dialogue.ask _) (funext fun outcome => ?_)
    match outcome with
    | .ok () => rfl
    | .error words =>
      simp only [if_neg reached]
      rfl
  | succ retries ih =>
    have below : attempt < limit := by
      rw [UInt32.lt_iff_toNat_lt]
      omega
    have next : (attempt + 1).toNat + retries = limit.toNat := by
      rw [toNat_next below]
      omega
    rw [loop]
    refine congrArg (Dialogue.ask _) (funext fun outcome => ?_)
    match outcome with
    | .ok () => rfl
    | .error words =>
      simp only [if_pos below]
      exact ih next

/-! ### The outcomes of the attempts -/

/-- How many attempts fail before the first success. -/
noncomputable def failures (outcomes : Outcomes) : ℕ∞ :=
  ⨅ (count : ℕ) (_ : outcomes count = .ok ()), (count : ℕ∞)

/-- All attempts before this one fail, and it succeeds or is one too many to be followed by
another. -/
structure IsLast (outcomes : Outcomes) (limit last : ℕ) : Prop where
  /-- It is among those that may be made. -/
  within : last ≤ limit
  /-- It comes to this attempt. -/
  failed : ∀ count < last, outcomes count ≠ .ok ()
  /-- There is none after it. -/
  ends : outcomes last = .ok () ∨ last = limit

theorem exists_isLast (outcomes : Outcomes) (limit : ℕ) : ∃ last, IsLast outcomes limit last := by
  induction limit with
  | zero => exact ⟨0, le_rfl, nofun, .inr rfl⟩
  | succ limit ih =>
    obtain ⟨last, within, failed, ends⟩ := ih
    by_cases succeeds : outcomes last = .ok ()
    · exact ⟨last, Nat.le_succ_of_le within, failed, .inl succeeds⟩
    · obtain rfl := ends.resolve_left succeeds
      refine ⟨last + 1, le_rfl, fun count before => ?_, .inr rfl⟩
      rcases Nat.lt_succ_iff_lt_or_eq.mp before with earlier | rfl
      · exact failed count earlier
      · exact succeeds

variable {bound last : ℕ}

theorem IsLast.le_failures (isLast : IsLast outcomes bound last) :
    (last : ℕ∞) ≤ failures outcomes :=
  le_iInf₂ fun count succeeds =>
    Nat.cast_le.mpr (Nat.le_of_not_lt fun before => isLast.failed count before succeeds)

/-- **The last attempt** is the first one that succeeds, or the last one that may be made. -/
theorem IsLast.eq_min (isLast : IsLast outcomes bound last) :
    (last : ℕ∞) = min (failures outcomes) bound := by
  refine le_antisymm (le_min isLast.le_failures (Nat.cast_le.mpr isLast.within)) ?_
  rcases isLast.ends with succeeds | rfl
  · exact (min_le_left _ _).trans (iInf₂_le last succeeds)
  · exact min_le_right _ _

theorem IsLast.succeeds_iff (isLast : IsLast outcomes bound last) :
    outcomes last = .ok () ↔ failures outcomes ≤ bound := by
  constructor
  · intro succeeds
    exact (iInf₂_le last succeeds).trans (Nat.cast_le.mpr isLast.within)
  · intro enough
    by_contra fails
    have later : ((last + 1 : ℕ) : ℕ∞) ≤ failures outcomes := le_iInf₂ fun count succeeds => by
      refine Nat.cast_le.mpr (Nat.lt_of_le_of_ne ?_ fun same => fails (same ▸ succeeds))
      exact Nat.le_of_not_lt fun before => isLast.failed count before succeeds
    obtain rfl := isLast.ends.resolve_left fails
    exact absurd (Nat.cast_le.mp (later.trans enough)) (Nat.not_succ_le_self _)

/-! ### The course of the attempts -/

/-- The loop makes an attempt, and a next one if that fails and the limit is not reached. -/
theorem trace_loop_iff : Trace (loop limit attempt) counted result ↔
    ∃ outcome rest, counted = ⟨attempt, outcome⟩ :: rest ∧
      if outcome ≠ .ok () ∧ attempt < limit then Trace (loop limit (attempt + 1)) rest result
      else rest = [] ∧ result = settled outcome := by
  rw [loop, trace_ask]
  refine exists_congr fun outcome => exists_congr fun rest => and_congr_right fun _ => ?_
  match outcome with
  | .ok () => simp
  | .error words =>
    by_cases below : attempt < limit <;> simp [below]

/-- The attempts come out in a given way, the first of them as that of this number. -/
def AnsweredFrom (outcomes : Outcomes) : ℕ → List (Exchange attempts) → Prop
  | _, [] => True
  | count, exchange :: rest =>
    exchange.2 = outcomes count ∧ AnsweredFrom outcomes (count + 1) rest

theorem answeredFrom_iff {count : ℕ} : AnsweredFrom outcomes count counted ↔
    ∀ place exchange, counted[place]? = some exchange →
      exchange.2 = outcomes (count + place) := by
  induction counted generalizing count with
  | nil => simp [AnsweredFrom]
  | cons exchange rest ih =>
    rw [AnsweredFrom, ih]
    constructor
    · rintro ⟨first, others⟩ (_ | place) other found
      · exact Option.some.inj found ▸ first
      · rw [others place other found, Nat.add_right_comm, Nat.add_assoc]
    · intro all
      refine ⟨all 0 exchange rfl, fun place other found => ?_⟩
      rw [all (place + 1) other found, Nat.add_right_comm, Nat.add_assoc]

/-- **The course of the loop**: if the attempts come out in a given way, they are made up to the
last one, and its outcome is that of the loop. -/
theorem trace_loop (isLast : IsLast outcomes limit.toNat last) (count : ℕ)
    (left : attempt.toNat + count = last) :
    Trace (loop limit attempt) counted result ∧ AnsweredFrom outcomes attempt.toNat counted ↔
      counted = (List.range' attempt.toNat (count + 1)).map
          (fun number => ⟨UInt32.ofNat number, outcomes number⟩) ∧
        result = settled (outcomes last) := by
  induction count generalizing attempt counted with
  | zero =>
    obtain rfl : attempt.toNat = last := left
    have ends : ¬ (outcomes attempt.toNat ≠ .ok () ∧ attempt < limit) := by
      rw [UInt32.lt_iff_toNat_lt]
      rintro ⟨fails, below⟩
      exact Nat.ne_of_lt below (isLast.ends.resolve_left fails)
    rw [trace_loop_iff, List.range'_succ, List.map_cons, UInt32.ofNat_toNat]
    constructor
    · rintro ⟨⟨outcome, rest, rfl, further⟩, rfl, -⟩
      rw [if_neg ends] at further
      obtain ⟨rfl, rfl⟩ := further
      exact ⟨rfl, rfl⟩
    · rintro ⟨rfl, rfl⟩
      refine ⟨⟨_, _, rfl, ?_⟩, rfl, trivial⟩
      rw [if_neg ends]
      exact ⟨rfl, rfl⟩
  | succ count ih =>
    have before : attempt.toNat < last := by omega
    have below : attempt < limit :=
      UInt32.lt_iff_toNat_lt.mpr (Nat.lt_of_lt_of_le before isLast.within)
    have goes : outcomes attempt.toNat ≠ .ok () ∧ attempt < limit := ⟨isLast.failed _ before, below⟩
    have next : (attempt + 1).toNat + count = last := by
      rw [toNat_next below]
      omega
    have rest : ∀ others : List (Exchange attempts), _ := fun others =>
      @ih (attempt + 1) others next
    rw [toNat_next below] at rest
    rw [trace_loop_iff, List.range'_succ, List.map_cons, UInt32.ofNat_toNat]
    constructor
    · rintro ⟨⟨outcome, others, rfl, further⟩, rfl, answered⟩
      rw [if_pos goes] at further
      obtain ⟨rfl, settles⟩ := (rest others).mp ⟨further, answered⟩
      exact ⟨rfl, settles⟩
    · rintro ⟨rfl, settles⟩
      obtain ⟨further, answered⟩ := (rest _).mpr ⟨rfl, settles⟩
      refine ⟨⟨_, _, rfl, ?_⟩, rfl, answered⟩
      rwa [if_pos goes]

/-- What the loop asks when it is carried out for a message. -/
theorem trace_translate (message : Message) {α : Type} {activity : Dialogue attempts α}
    {told : List (Exchange Link.interface.work)} {value : α} :
    Trace (activity.translate fun _ => Link.call (.store message)) told value ↔
      ∃ counted, Trace activity counted value ∧
        told = counted.map fun exchange => ⟨.inl (.store message), exchange.2⟩ := by
  induction activity generalizing told with
  | done result =>
    rw [Dialogue.translate, trace_done]
    constructor
    · rintro ⟨rfl, rfl⟩
      exact ⟨[], .done _, rfl⟩
    · rintro ⟨counted, ended, rfl⟩
      obtain ⟨rfl, rfl⟩ := trace_done.mp ended
      exact ⟨rfl, rfl⟩
  | ask question resume ih =>
    show Trace (.ask _ _) told value ↔ _
    simp only [trace_ask]
    constructor
    · rintro ⟨outcome, rest, rfl, further⟩
      obtain ⟨counted, course, rfl⟩ := (ih outcome).mp further
      exact ⟨_, ⟨outcome, counted, rfl, course⟩, rfl⟩
    · rintro ⟨_, ⟨outcome, counted, rfl, course⟩, rfl⟩
      exact ⟨outcome, _, rfl, (ih outcome).mpr ⟨counted, course, rfl⟩⟩

/-- Whatever is stored at the place of an attempt comes out as that attempt does. -/
def AnsweredBy (outcomes : Outcomes) (told : List (Exchange Link.interface.work)) : Prop :=
  ∀ place message outcome, told[place]? = some ⟨.inl (.store message), outcome⟩ →
    outcome = outcomes place

theorem answeredBy_map_iff (message : Message) :
    AnsweredBy outcomes (counted.map fun exchange => ⟨.inl (.store message), exchange.2⟩) ↔
      AnsweredFrom outcomes 0 counted := by
  rw [answeredFrom_iff]
  constructor
  · intro answered place exchange found
    rw [Nat.zero_add]
    exact answered place message exchange.2 (by rw [List.getElem?_map, found]; rfl)
  · intro answered place other outcome found
    rw [List.getElem?_map, Option.map_eq_some_iff] at found
    obtain ⟨exchange, found, same⟩ := found
    have outcomes := answered place exchange found
    rw [Nat.zero_add] at outcomes
    cases same
    exact outcomes

/-- How a publish goes whose attempts come out in a given way. -/
structure Retried (message : Message) (limit : UInt32) (outcomes : Outcomes)
    (publish : Dialogue Link.interface.work (BusResult Unit)) (made : ℕ) : Prop where
  /-- There is one attempt, and one more for each failure before the first success, up to the
  limit. -/
  count : (made : ℕ∞) = min (failures outcomes) limit.toNat + 1
  /-- There is exactly one course: each attempt sends the same message, and the publish ends as the
  last one does. -/
  course : ∀ told result, Trace publish told result ∧ AnsweredBy outcomes told ↔
    told = (List.range made).map (fun number => ⟨.inl (.store message), outcomes number⟩) ∧
      result = Link.named (.operation "publish") (outcomes (made - 1))
  /-- No attempt follows a success. -/
  failed : ∀ number, number + 1 < made → outcomes number ≠ .ok ()
  /-- The publish succeeds exactly if there are no more failures than it may be repeated. -/
  succeeds_iff : Link.named (.operation "publish") (outcomes (made - 1)) = .ok () ↔
    failures outcomes ≤ limit.toNat
  /-- The publish is a loop with a counter of 32 bits. -/
  loops : publish = (loop limit 0).translate fun _ => Link.call (.store message)
  /-- The counter counts the attempts, without wrapping around, and never exceeds the limit. -/
  counter : ∀ counted result, Trace (loop limit 0) counted result →
    counted.map (fun exchange => exchange.1.toNat) = List.range counted.length ∧
      ∀ exchange ∈ counted, exchange.1 ≤ limit

end Retry

open Retry

/-- **A publish is repeated as often as it may be.** Whatever the setting and whatever becomes of
the attempts, a publish into a stream makes one more attempt for each failure before the first
success, up to the setting, all with the same message, and ends as the last of them does. -/
theorem publish_retried (options : Options) (limit : UInt32) (connection : Nat) (message : Message)
    (outcomes : Outcomes) :
    ∃ made, Retried message limit outcomes
      (Link.jetStream { options with publishRetries := limit.toNat } (.publish connection message))
      made := by
  obtain ⟨last, isLast⟩ := exists_isLast outcomes limit.toNat
  have loops : Link.jetStream { options with publishRetries := limit.toNat }
      (.publish connection message) =
        (loop limit 0).translate fun _ => Link.call (.store message) :=
    publish_eq_loop _ connection message limit.toNat (Nat.zero_add _)
  have course : ∀ counted result,
      Trace (loop limit 0) counted result ∧ AnsweredFrom outcomes 0 counted ↔ _ :=
    fun _ _ => trace_loop isLast last (Nat.zero_add _)
  refine ⟨last + 1, ?_, fun told result => ?_, fun number before => ?_, ?_, loops,
    fun counted result trace => ?_⟩
  · rw [Nat.cast_add, isLast.eq_min, Nat.cast_one]
  · rw [loops, trace_translate]
    constructor
    · rintro ⟨⟨counted, trace, rfl⟩, answered⟩
      obtain ⟨rfl, settles⟩ :=
        (course counted result).mp ⟨trace, (answeredBy_map_iff message).mp answered⟩
      refine ⟨?_, settles⟩
      rw [List.map_map, List.range_eq_range']
      rfl
    · rintro ⟨rfl, settles⟩
      obtain ⟨trace, answered⟩ := (course _ result).mpr ⟨rfl, settles⟩
      have same := (answeredBy_map_iff message).mpr answered
      rw [List.map_map] at same
      rw [List.range_eq_range']
      exact ⟨⟨_, trace, by rw [List.map_map]; rfl⟩, same⟩
  · exact isLast.failed number (Nat.lt_of_succ_lt_succ before)
  · rw [Nat.add_sub_cancel, ← isLast.succeeds_iff]
    cases outcomes last <;> simp [Link.named]
  · rw [List.range_eq_range']
    exact counter_of_trace UInt32.zero_le trace

end MessageBus.Nats

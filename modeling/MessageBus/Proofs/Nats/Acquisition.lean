/-
**Deliveries and their consumers.** How a subscription through a stream acquires both, and how it
releases them, whatever the session and the management of streams answer.

* `Holdings` — the deliveries and the consumers that there are after some exchanges.
* `Acquired` — the ways in which a subscribe can go; `trace_subscribe_iff` — it goes in one of them.
* `Release` — the ways in which one unsubscribe can go; `unsubscribeTimes` — any number of them, one
  after another; `trace_unsubscribeTimes_iff` — each goes in one of these ways.
* `Orderly` — what an unsubscribe does and leaves undone.
* `acquired_and_released_in_order` — **the delivery comes before its consumer, and goes before it**;
  what is left undone is done by a later call.
-/

import MessageBus.Proofs.Dialogue.Beside
import MessageBus.Proofs.Nats.PrivateConsumer

namespace MessageBus.Nats.JetStream

open Dialogue

/-- Questions of a connection over streams, with their answers. -/
abbrev Told := List (Exchange base)

/-! ### What there is -/

/-- Deliveries and consumers that were started or created, and not ended. -/
@[ext]
structure Holdings where
  /-- The handles of the deliveries. -/
  deliveries : List Nat := []
  /-- The consumers. -/
  consumers : List ConsumerSpec := []
  deriving DecidableEq

/-- What an exchange leaves. A call that fails changes nothing. -/
def Holdings.step (holdings : Holdings) : Exchange base → Holdings
  | ⟨.inl (.subscribe _ _ _ _), .ok handle⟩ =>
    { holdings with deliveries := holdings.deliveries ++ [handle] }
  | ⟨.inl (.stop handle), .ok _⟩ =>
    { holdings with deliveries := holdings.deliveries.filter fun other => other ≠ handle }
  | ⟨.inr (.createConsumer spec), .ok _⟩ =>
    { holdings with consumers := holdings.consumers ++ [spec] }
  | ⟨.inr (.deleteConsumer stream name), .ok _⟩ =>
    { holdings with consumers := holdings.consumers.filter fun spec =>
        spec.stream ≠ stream ∨ spec.name ≠ name }
  | _ => holdings

/-- What exchanges leave, one after another. -/
def Holdings.after (holdings : Holdings) (told : Told) : Holdings :=
  told.foldl Holdings.step holdings

theorem Holdings.after_append (holdings : Holdings) (told rest : Told) :
    holdings.after (told ++ rest) = (holdings.after told).after rest :=
  List.foldl_append

/-! ### A subscribe -/

section Acquiring

variable {options : Options} {connection : Nat} {subject queue : String} {delivery : Delivery}
  {told : Told} {result : BusResult ConsumerSubscription}

/-- The ways in which a subscribe can go. -/
inductive Acquired (options : Options) (connection : Nat) (subject queue : String)
    (delivery : Delivery) : Told → BusResult ConsumerSubscription → Prop
  /-- The streams cannot be searched. -/
  | unknown (error : BusError) :
    Acquired options connection subject queue delivery
      [⟨.inr (.streamFor subject), .error error⟩] (.error error)
  /-- No stream covers the subject. -/
  | uncovered :
    Acquired options connection subject queue delivery [⟨.inr (.streamFor subject), .ok none⟩]
      (.error (.operation "subscribe" ("no stream covers '" ++ subject ++ "'")))
  /-- The deliver subject of the consumer cannot be subscribed. -/
  | unheard {spec : ConsumerSpec} (stream : String) (error : BusError)
      (described : spec = ConsumerSpec.of options stream subject queue) :
    Acquired options connection subject queue delivery
      [⟨.inr (.streamFor subject), .ok (some stream)⟩,
        ⟨.inl (.subscribe connection spec.deliverSubject queue delivery), .error error⟩]
      (.error error)
  /-- The consumer cannot be created; the delivery is stopped, or that fails as well. -/
  | unfed {spec : ConsumerSpec} (stream : String) (handle : Nat) (error : BusError)
      (stopped : BusResult Unit) (described : spec = ConsumerSpec.of options stream subject queue) :
    Acquired options connection subject queue delivery
      [⟨.inr (.streamFor subject), .ok (some stream)⟩,
        ⟨.inl (.subscribe connection spec.deliverSubject queue delivery), .ok handle⟩,
        ⟨.inr (.createConsumer spec), .error error⟩, ⟨.inl (.stop handle), stopped⟩]
      (.error error)
  /-- The consumer delivers. -/
  | fed {spec : ConsumerSpec} (stream : String) (handle : Nat)
      (described : spec = ConsumerSpec.of options stream subject queue) :
    Acquired options connection subject queue delivery
      [⟨.inr (.streamFor subject), .ok (some stream)⟩,
        ⟨.inl (.subscribe connection spec.deliverSubject queue delivery), .ok handle⟩,
        ⟨.inr (.createConsumer spec), .ok ()⟩]
      (.ok ⟨handle, spec⟩)

/-- **A subscribe goes in one of these ways, and can go in each of them.** -/
theorem trace_subscribe_iff :
    Trace (subscribe options connection subject queue delivery) told result ↔
      Acquired options connection subject queue delivery told result := by
  constructor
  · intro trace
    obtain ⟨found, _, rfl, listening⟩ := trace_ask.mp trace
    obtain error | _ | stream := found
    · obtain ⟨rfl, rfl⟩ := trace_done.mp listening
      exact .unknown error
    · obtain ⟨rfl, rfl⟩ := trace_done.mp listening
      exact .uncovered
    obtain ⟨started, _, rfl, creating⟩ := trace_ask.mp listening
    obtain error | handle := started
    · obtain ⟨rfl, rfl⟩ := trace_done.mp creating
      exact .unheard stream error rfl
    obtain ⟨created, _, rfl, further⟩ := trace_ask.mp creating
    obtain error | _ := created
    · obtain ⟨stopped, _, rfl, ended⟩ := trace_ask.mp further
      obtain ⟨rfl, rfl⟩ := trace_done.mp ended
      exact .unfed stream handle error stopped rfl
    · obtain ⟨rfl, rfl⟩ := trace_done.mp further
      exact .fed stream handle rfl
  · intro acquired
    cases acquired with
    | unknown | uncovered => exact .ask _ _ _ (.done _)
    | unheard stream error described =>
      subst described
      exact .ask _ _ _ (.ask _ _ _ (.done _))
    | unfed stream handle error stopped described =>
      subst described
      exact .ask _ _ _ (.ask _ _ _ (.ask _ _ _ (.ask _ _ _ (.done _))))
    | fed stream handle described =>
      subst described
      exact .ask _ _ _ (.ask _ _ _ (.ask _ _ _ (.done _)))

/-- **What a subscribe leaves**: one delivery with the consumer that it is for, or nothing, but for
a delivery that could not be stopped. -/
theorem Acquired.holdings
    (acquired : Acquired options connection subject queue delivery told result) :
    (∀ subscription, result = .ok subscription →
      (∃ stream, subscription.spec = ConsumerSpec.of options stream subject queue) ∧
        Holdings.after {} told = ⟨[subscription.delivery], [subscription.spec]⟩) ∧
    (∀ error, result = .error error → Holdings.after {} told = {} ∨
      ∃ handle fault, (⟨.inl (.stop handle), .error fault⟩ : Exchange base) ∈ told ∧
        Holdings.after {} told = ⟨[handle], []⟩) := by
  cases acquired with
  | unknown | uncovered | unheard => exact ⟨nofun, fun _ _ => .inl rfl⟩
  | unfed stream handle error stopped described =>
    refine ⟨nofun, fun _ _ => ?_⟩
    cases stopped with
    | ok _ => exact .inl (by simp [Holdings.after, Holdings.step])
    | error fault => exact .inr ⟨handle, fault, by simp, rfl⟩
  | fed stream handle described =>
    refine ⟨?_, nofun⟩
    rintro _ ⟨⟩
    exact ⟨⟨stream, described⟩, rfl⟩

end Acquiring

/-! ### Any number of unsubscribes -/

/-- Unsubscribes a subscription a number of times, whatever comes of it. -/
def unsubscribeTimes (subscription : ConsumerSubscription) :
    Nat → Dialogue base (List (BusResult Unit))
  | 0 => .done []
  | times + 1 => (unsubscribe subscription).bind fun result =>
    (unsubscribeTimes subscription times).bind fun results => .done (result :: results)

/-- The ways in which one unsubscribe can go. -/
inductive Release
  /-- The delivery cannot be stopped. -/
  | running (error : BusError)
  /-- The delivery is stopped, and a queue group keeps the consumer. -/
  | shared
  /-- The delivery is stopped, and the consumer is deleted or not. -/
  | deleting (outcome : BusResult Unit)

/-- The question that stops the delivery of a subscription, with its answer. -/
def stopping (subscription : ConsumerSubscription) (outcome : BusResult Unit) : Exchange base :=
  ⟨.inl (.stop subscription.delivery), outcome⟩

/-- The question that deletes the consumer of a subscription, with its answer. -/
def deletion (subscription : ConsumerSubscription) (outcome : BusResult Unit) : Exchange base :=
  ⟨.inr (.deleteConsumer subscription.spec.stream subscription.spec.name), outcome⟩

/-- The questions of an unsubscribe, with their answers. -/
def Release.told (subscription : ConsumerSubscription) : Release → Told
  | running error => [stopping subscription (.error error)]
  | shared => [stopping subscription (.ok ())]
  | deleting outcome => [stopping subscription (.ok ()), deletion subscription outcome]

/-- The result of an unsubscribe. -/
def Release.result : Release → BusResult Unit
  | running error => .error error
  | shared => .ok ()
  | deleting outcome => outcome

/-- Only a consumer that no queue group shares is deleted. -/
def Release.Fits (subscription : ConsumerSubscription) : Release → Prop
  | running _ => True
  | shared => subscription.spec.owned = false
  | deleting _ => subscription.spec.owned = true

section Releasing

variable {subscription : ConsumerSubscription} {told : Told} {result : BusResult Unit}

/-- **An unsubscribe goes in one of these ways, and can go in each of them.** -/
theorem trace_unsubscribe_iff :
    Trace (unsubscribe subscription) told result ↔ ∃ release : Release,
      release.Fits subscription ∧ told = release.told subscription ∧ result = release.result := by
  constructor
  · intro trace
    obtain ⟨stopped, _, rfl, further⟩ := trace_ask.mp trace
    obtain error | _ := stopped
    · obtain ⟨rfl, rfl⟩ := trace_done.mp further
      exact ⟨.running error, trivial, rfl, rfl⟩
    change Trace (if _ then _ else _ : Dialogue base _) _ _ at further
    split at further
    case isTrue owned =>
      obtain ⟨outcome, _, rfl, ended⟩ := trace_ask.mp further
      obtain ⟨rfl, rfl⟩ := trace_done.mp ended
      exact ⟨.deleting _, owned, rfl, rfl⟩
    case isFalse shared =>
      obtain ⟨rfl, rfl⟩ := trace_done.mp further
      exact ⟨.shared, Bool.eq_false_iff.mpr shared, rfl, rfl⟩
  · rintro ⟨release, fits, rfl, rfl⟩
    cases release with
    | running error => exact .ask _ _ _ (.done _)
    | shared =>
      refine .ask _ _ _ ?_
      show Trace (if subscription.spec.owned = true then _ else _ : Dialogue base _) _ _
      rw [if_neg (Bool.eq_false_iff.mp fits)]
      exact .done _
    | deleting outcome =>
      refine .ask _ _ _ ?_
      show Trace (if subscription.spec.owned = true then _ else _ : Dialogue base _) _ _
      rw [if_pos (show subscription.spec.owned = true from fits)]
      exact .ask _ _ _ (.done _)

/-- **Of any number of unsubscribes, each goes in one of these ways.** -/
theorem trace_unsubscribeTimes_iff {times : Nat} {results : List (BusResult Unit)} :
    Trace (unsubscribeTimes subscription times) told results ↔ ∃ releases : List Release,
      releases.length = times ∧ (∀ release ∈ releases, release.Fits subscription) ∧
        told = releases.flatMap (Release.told subscription) ∧
        results = releases.map Release.result := by
  induction times generalizing told results with
  | zero =>
    refine trace_done.trans ⟨?_, ?_⟩
    · rintro ⟨rfl, rfl⟩
      exact ⟨[], rfl, nofun, rfl, rfl⟩
    · rintro ⟨releases, none, -, rfl, rfl⟩
      rw [List.length_eq_zero_iff] at none
      subst none
      exact ⟨rfl, rfl⟩
  | succ times ih =>
    simp only [unsubscribeTimes, trace_bind, trace_done, trace_unsubscribe_iff, ih]
    constructor
    · rintro ⟨_, _, _, rfl, ⟨release, fits, rfl, rfl⟩, _, _, _, rfl,
        ⟨releases, rfl, fitting, rfl, rfl⟩, rfl, rfl⟩
      exact ⟨release :: releases, rfl, List.forall_mem_cons.mpr ⟨fits, fitting⟩, by simp, rfl⟩
    · rintro ⟨_ | ⟨release, releases⟩, count, fitting, rfl, rfl⟩
      · cases count
      obtain ⟨fits, fitting⟩ := List.forall_mem_cons.mp fitting
      exact ⟨_, _, _, rfl, ⟨release, fits, rfl, rfl⟩, _, _, [], (List.append_nil _).symm,
        ⟨releases, Nat.succ.inj count, fitting, rfl, rfl⟩, rfl, rfl⟩

/-- A step of an unsubscribe succeeds. -/
def Succeeds : Exchange base → Prop
  | ⟨.inl (.stop _), .ok _⟩ => True
  | ⟨.inr (.deleteConsumer _ _), .ok _⟩ => True
  | _ => False

/-- What one unsubscribe does, and what it leaves undone. -/
structure Orderly (subscription : ConsumerSubscription) (told : Told) (result : BusResult Unit) :
    Prop where
  /-- Its own consumer is deleted and no other, after the delivery was stopped in this call, and
  only if no queue group shares it. -/
  deletes : ∀ {stream name outcome},
    (⟨.inr (.deleteConsumer stream name), outcome⟩ : Exchange base) ∈ told →
      stream = subscription.spec.stream ∧ name = subscription.spec.name ∧
        subscription.spec.deliverGroup = none ∧
        told = [stopping subscription (.ok ()), deletion subscription outcome]
  /-- If the delivery cannot be stopped, nothing else is asked. -/
  spares : ∀ {error}, stopping subscription (.error error) ∈ told →
    told = [stopping subscription (.error error)]
  /-- Once the delivery is stopped, a consumer that no queue group shares is to be deleted. -/
  goesOn : subscription.spec.deliverGroup = none → stopping subscription (.ok ()) ∈ told →
    ∃ outcome, deletion subscription outcome ∈ told
  /-- It returns success exactly if all its steps succeeded. -/
  succeeds : result = .ok () ↔ ∀ exchange ∈ told, Succeeds exchange

/-- **Every unsubscribe is orderly.** -/
theorem orderly_of_fits {release : Release} (fits : release.Fits subscription) :
    Orderly subscription (release.told subscription) release.result := by
  cases release with
  | running error =>
    refine ⟨fun member => ?_, fun member => ?_, fun _ member => ?_,
      iff_of_false nofun fun all => ?_⟩
    · cases List.mem_singleton.mp member
    · rw [List.mem_singleton.mp member]
      rfl
    · cases List.mem_singleton.mp member
    · exact all _ (List.mem_singleton_self _)
  | shared =>
    have group : subscription.spec.deliverGroup ≠ none :=
      fun none => absurd fits (by simp [Release.Fits, ConsumerSpec.owned, none])
    refine ⟨fun member => ?_, fun member => ?_, fun none => absurd none group, iff_of_true rfl ?_⟩
    · cases List.mem_singleton.mp member
    · cases List.mem_singleton.mp member
    · exact List.forall_mem_singleton.mpr trivial
  | deleting outcome =>
    have alone : subscription.spec.deliverGroup = none := by
      simpa [Release.Fits, ConsumerSpec.owned] using fits
    refine ⟨fun member => ?_, fun member => ?_,
      fun _ _ => ⟨outcome, List.mem_cons_of_mem _ (List.mem_singleton_self _)⟩, ?_⟩
    · rcases List.mem_cons.mp member with same | member
      · cases same
      · cases List.mem_singleton.mp member
        exact ⟨rfl, rfl, alone, rfl⟩
    · rcases List.mem_cons.mp member with same | member
      · cases same
      · cases List.mem_singleton.mp member
    · show outcome = .ok () ↔ ∀ exchange ∈ [_, _], Succeeds exchange
      rw [List.forall_mem_cons, List.forall_mem_singleton]
      cases outcome with
      | ok _ => exact iff_of_true rfl ⟨trivial, trivial⟩
      | error error => exact iff_of_false nofun fun all => all.2

/-- What there may be of a subscription: its delivery, unless that was stopped, and its consumer,
unless that was deleted. -/
structure Holdings.Of (subscription : ConsumerSubscription) (holdings : Holdings) : Prop where
  delivery : holdings.deliveries = [subscription.delivery] ∨ holdings.deliveries = []
  consumer : holdings.consumers = [subscription.spec] ∨
    holdings.consumers = [] ∧ subscription.spec.owned = true

/-- Nothing is left of a subscription but a consumer that a queue group shares. -/
def Holdings.Released (subscription : ConsumerSubscription) (holdings : Holdings) : Prop :=
  holdings.deliveries = [] ∧
    holdings.consumers = if subscription.spec.owned then [] else [subscription.spec]

variable {holdings : Holdings} {release : Release} {releases : List Release}

theorem Holdings.Of.stop (of : holdings.Of subscription) :
    (holdings.step (stopping subscription (.ok ()))).deliveries = [] := by
  show holdings.deliveries.filter _ = []
  rcases of.delivery with held | held <;> simp [held]

theorem Holdings.Of.delete (of : holdings.Of subscription) :
    (holdings.step (deletion subscription (.ok ()))).consumers = [] := by
  show holdings.consumers.filter _ = []
  rcases of.consumer with held | ⟨held, -⟩ <;> simp [held]

theorem Holdings.Of.after_release (of : holdings.Of subscription)
    (fits : release.Fits subscription) :
    (holdings.after (release.told subscription)).Of subscription := by
  match release with
  | .running _ => exact of
  | .shared | .deleting (.error _) => exact ⟨.inr of.stop, of.consumer⟩
  | .deleting (.ok _) => exact ⟨.inr of.stop, .inr ⟨of.delete, fits⟩⟩

/-- After an unsubscribe that succeeds nothing is left. -/
theorem Holdings.Of.released (of : holdings.Of subscription) (fits : release.Fits subscription)
    (succeeded : release.result = .ok ()) :
    (holdings.after (release.told subscription)).Released subscription := by
  match release with
  | .running _ | .deleting (.error _) => cases succeeded
  | .shared =>
    have shared : subscription.spec.owned = false := fits
    refine ⟨of.stop, ?_⟩
    rw [shared]
    exact of.consumer.resolve_right fun owned => absurd (shared.symm.trans owned.2) nofun
  | .deleting (.ok _) =>
    have owned : subscription.spec.owned = true := fits
    refine ⟨of.stop, ?_⟩
    rw [owned]
    exact of.delete

/-- Further unsubscribes leave it so. -/
theorem Holdings.Released.after_release (released : holdings.Released subscription)
    (fits : release.Fits subscription) :
    (holdings.after (release.told subscription)).Released subscription := by
  have of : holdings.Of subscription := by
    refine ⟨.inr released.1, ?_⟩
    rw [released.2]
    cases owned : subscription.spec.owned with
    | true => exact .inr ⟨rfl, rfl⟩
    | false => exact .inl rfl
  match release with
  | .running _ => exact released
  | .shared | .deleting (.error _) => exact ⟨of.stop, released.2⟩
  | .deleting (.ok _) =>
    have succeeded : (Release.deleting (.ok ())).result = .ok () := rfl
    exact of.released fits succeeded

theorem Holdings.Released.after_releases (released : holdings.Released subscription)
    (fits : ∀ release ∈ releases, release.Fits subscription) :
    (holdings.after (releases.flatMap (Release.told subscription))).Released subscription := by
  induction releases generalizing holdings with
  | nil => exact released
  | cons release releases ih =>
    obtain ⟨here, later⟩ := List.forall_mem_cons.mp fits
    rw [List.flatMap_cons, Holdings.after_append]
    exact ih (released.after_release here) later

/-- **Once an unsubscribe has succeeded, nothing is left**, whatever comes before and after it. -/
theorem Holdings.Of.released_of_mem (of : holdings.Of subscription)
    (fits : ∀ release ∈ releases, release.Fits subscription)
    (succeeded : .ok () ∈ releases.map Release.result) :
    (holdings.after (releases.flatMap (Release.told subscription))).Released subscription := by
  induction releases generalizing holdings with
  | nil => cases succeeded
  | cons release releases ih =>
    obtain ⟨here, later⟩ := List.forall_mem_cons.mp fits
    rw [List.flatMap_cons, Holdings.after_append]
    rcases List.mem_cons.mp succeeded with first | further
    · exact (of.released here first.symm).after_releases later
    · exact ih (of.after_release here) later further

end Releasing

/-! ### Acquired and released -/

/-- **A subscription acquires its delivery before its consumer and releases it before that**,
whatever the session and the management of streams answer. A subscribe goes in one of the ways of
`Acquired`: it looks for a stream, listens on the deliver subject, and only then creates the
consumer; if that fails, it stops the delivery once and returns why. It leaves one delivery with its
consumer, or nothing but a delivery that could not be stopped. Of any number of unsubscribes each is
orderly; the one after a deletion that failed asks for it again exactly if the delivery is stopped
in that call, and once one of them has succeeded nothing is left but a consumer that a queue group
shares. -/
theorem acquired_and_released_in_order (options : Options) (connection : Nat)
    (subject queue : String) (delivery : Delivery) :
    (∀ told result, Trace (subscribe options connection subject queue delivery) told result ↔
      Acquired options connection subject queue delivery told result) ∧
    (∀ told error, Trace (subscribe options connection subject queue delivery) told (.error error) →
      Holdings.after {} told = {} ∨
        ∃ handle fault, (⟨.inl (.stop handle), .error fault⟩ : Exchange base) ∈ told ∧
          Holdings.after {} told = ⟨[handle], []⟩) ∧
    ∀ told subscription,
      Trace (subscribe options connection subject queue delivery) told (.ok subscription) →
        (∃ stream, subscription.spec = ConsumerSpec.of options stream subject queue) ∧
        (subscription.spec.deliverGroup = none ↔ queue = "") ∧
        Holdings.after {} told = ⟨[subscription.delivery], [subscription.spec]⟩ ∧
        ∀ times further results,
          Trace (unsubscribeTimes subscription times) further results →
            ∃ calls : List (Told × BusResult Unit), calls.length = times ∧
              further = calls.flatMap Prod.fst ∧ results = calls.map Prod.snd ∧
              (∀ call ∈ calls, Orderly subscription call.1 call.2) ∧
              (∀ before first second rest error, calls = before ++ first :: second :: rest →
                deletion subscription (.error error) ∈ first.1 →
                  (stopping subscription (.ok ()) ∈ second.1 ↔
                    ∃ outcome, deletion subscription outcome ∈ second.1)) ∧
              (.ok () ∈ results → Holdings.after {} (told ++ further) =
                ⟨[], if queue = "" then [] else [subscription.spec]⟩) := by
  refine ⟨fun _ _ => trace_subscribe_iff,
    fun told error trace => (trace_subscribe_iff.mp trace).holdings.2 error rfl,
    fun told subscription trace => ?_⟩
  obtain ⟨⟨stream, described⟩, held⟩ :=
    (trace_subscribe_iff.mp trace).holdings.1 subscription rfl
  have owned : subscription.spec.owned = true ↔ queue = "" := by
    rw [described, ConsumerSpec.owned_of]
  have alone : subscription.spec.deliverGroup = none ↔ queue = "" :=
    Option.isNone_iff_eq_none.symm.trans owned
  refine ⟨⟨stream, described⟩, alone, held, fun times further results unsubscribed => ?_⟩
  obtain ⟨releases, count, fits, rfl, rfl⟩ := trace_unsubscribeTimes_iff.mp unsubscribed
  have orderly : ∀ call ∈ releases.map fun release => (release.told subscription, release.result),
      Orderly subscription call.1 call.2 := by
    refine List.forall_mem_map.mpr fun release member => ?_
    exact orderly_of_fits (fits release member)
  refine ⟨_, (List.length_map _).trans count, ?_, ?_, orderly, ?_, fun succeeded => ?_⟩
  · rw [List.flatMap_map]
  · rw [List.map_map]
    rfl
  · intro before first second rest error split failed
    rw [split] at orderly
    have firstOrderly := orderly first (by simp)
    have secondOrderly := orderly second (by simp)
    refine ⟨secondOrderly.goesOn (firstOrderly.deletes failed).2.2.1, ?_⟩
    rintro ⟨outcome, deleted⟩
    rw [(secondOrderly.deletes deleted).2.2.2]
    exact List.mem_cons_self
  · have whole : (Holdings.after {} told).Of subscription := by
      rw [held]
      exact ⟨.inl rfl, .inl rfl⟩
    obtain ⟨deliveries, consumers⟩ := whole.released_of_mem fits succeeded
    rw [Holdings.after_append]
    exact Holdings.ext deliveries (consumers.trans (if_congr owned rfl rfl))

/-- A subscription whose delivery cannot be stopped at first, and whose consumer cannot be deleted
the next time; the third unsubscribe succeeds. Of another one the consumer cannot be created, nor
its delivery stopped. -/
theorem acquired_and_released_in_order_third :
    (∃ told further subscription,
      Trace (subscribe {} 0 "cim.events" "" default) told (.ok subscription) ∧
      Trace (unsubscribeTimes subscription 3) further
        [.error .notConnected, .error .disabled, .ok ()] ∧
      Holdings.after {} (told ++ further) = {}) ∧
    ∃ told, Trace (subscribe {} 0 "cim.events" "" default) told (.error .disabled) ∧
      (⟨.inl (.stop 7), .error .notConnected⟩ : Exchange base) ∈ told ∧
      Holdings.after {} told ≠ {} := by
  obtain ⟨ways, -, released⟩ := acquired_and_released_in_order {} 0 "cim.events" "" default
  constructor
  · have acquired := (ways _ _).mpr (.fed "cim" 7 rfl)
    obtain ⟨-, alone, -, times⟩ := released _ _ acquired
    have owned : (ConsumerSpec.of {} "cim" "cim.events" "").owned = true :=
      (ConsumerSpec.owned_of ..).mpr rfl
    have unsubscribed : Trace (unsubscribeTimes ⟨7, .of {} "cim" "cim.events" ""⟩ 3) _ _ :=
      trace_unsubscribeTimes_iff.mpr
        ⟨[.running .notConnected, .deleting (.error .disabled), .deleting (.ok ())], rfl,
          List.forall_mem_cons.mpr ⟨trivial, List.forall_mem_cons.mpr
            ⟨owned, List.forall_mem_singleton.mpr owned⟩⟩, rfl, rfl⟩
    obtain ⟨_, -, -, -, -, -, left⟩ := times 3 _ _ unsubscribed
    exact ⟨_, _, _, acquired, unsubscribed, left (by simp [Release.result])⟩
  · exact ⟨_, (ways _ _).mpr (.unfed "cim" 7 .disabled (.error .notConnected) rfl), by simp,
      by decide +kernel⟩

end MessageBus.Nats.JetStream

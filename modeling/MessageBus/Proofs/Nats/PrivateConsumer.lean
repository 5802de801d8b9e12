/-
**Consumers without a durable name.** The name of such a consumer, the subject on which it delivers
and what ending its subscription deletes come from the client id and the subscribed subject.

* `Removes` — ending a subscription asks for the deletion of the consumer of another one.
* `removes_iff` — it does so exactly if no queue group shares its own consumer and the two consumers
  are one.
* `consumerSpec_shared_iff` — **name, deliver subject and deletion are shared exactly if the clients
  and subjects blend**; with plain client ids and literal subjects they never are.
-/

import MessageBus.Nats.JetStream
import MessageBus.Proofs.Subject.Naming

namespace MessageBus.Nats

open Subject (Blends SameStem)

/-- Ending the subscription of a consumer asks, in some course, for the deletion of the consumer
`other`. -/
def Removes (spec other : ConsumerSpec) : Prop :=
  ∃ delivery log result,
    Dialogue.Trace (JetStream.unsubscribe ⟨delivery, spec⟩) log result ∧
      .inr (.deleteConsumer other.stream other.name) ∈ log.map Sigma.fst

/-- Ending a subscription deletes its own consumer and no other, and that only if nobody shares
it. -/
theorem removes_iff {spec other : ConsumerSpec} :
    Removes spec other ↔
      spec.owned = true ∧ spec.stream = other.stream ∧ spec.name = other.name := by
  constructor
  · rintro ⟨delivery, log, result, course, member⟩
    obtain _ | ⟨_, _, error | ⟨⟩, course⟩ := course
    · -- The delivery could not be stopped: nothing else is asked.
      cases course
      simp at member
    by_cases owned : spec.owned = true
    · rw [if_pos owned] at course
      obtain _ | ⟨_, _, deleted, course⟩ := course
      cases course
      obtain ⟨sameStream, sameName⟩ : other.stream = spec.stream ∧ other.name = spec.name := by
        simpa using member
      exact ⟨owned, sameStream.symm, sameName.symm⟩
    · rw [if_neg owned] at course
      cases course
      simp at member
  · rintro ⟨owned, sameStream, sameName⟩
    let stopped : JetStream.base.Answer (.inl (.stop 0)) := .ok ()
    let deleted : JetStream.base.Answer (.inr (.deleteConsumer spec.stream spec.name)) := .ok ()
    refine ⟨0, [⟨_, stopped⟩, ⟨_, deleted⟩], .ok (), .ask _ _ _ ?_, ?_⟩
    · show Dialogue.Trace (if spec.owned = true then _ else _) _ _
      rw [if_pos owned]
      exact .ask _ _ _ (.done _)
    · rw [← sameStream, ← sameName]
      exact List.mem_cons_of_mem _ List.mem_cons_self

section Private

variable {options otherOptions : Options}

theorem ConsumerSpec.of_name_eq_iff (own : options.durable = none)
    (ownOther : otherOptions.durable = none) (stream subject queue other otherQueue : String) :
    (of options stream subject queue).name = (of otherOptions stream other otherQueue).name ↔
      Blends subject options.clientId other otherOptions.clientId := by
  unfold of
  rw [own, ownOther]
  exact consumerName_eq_iff

theorem ConsumerSpec.owned_of (options : Options) (stream subject queue : String) :
    (of options stream subject queue).owned = true ↔ queue = "" := by
  unfold owned of
  split
  case isTrue empty => simpa using empty
  case isFalse given => simpa using given

/-- **Two subscriptions of clients without a durable name share a consumer exactly if the clients
and subjects blend**: then the consumers have one name and deliver on one subject, and ending one of
the subscriptions outside a queue group deletes the consumer of the other. Plain client ids blend
only if they are equal and the subjects have one stem, which literal subjects have only if they are
equal, too. -/
theorem consumerSpec_shared_iff (own : options.durable = none)
    (ownOther : otherOptions.durable = none) (stream subject queue other otherQueue : String) :
    let spec := ConsumerSpec.of options stream subject queue
    let otherSpec := ConsumerSpec.of otherOptions stream other otherQueue
    let blend := Blends subject options.clientId other otherOptions.clientId
    (spec.name = otherSpec.name ↔ blend) ∧
      (spec.deliverSubject = otherSpec.deliverSubject ↔ blend) ∧
      (Removes spec otherSpec ↔ queue = "" ∧ blend) ∧
      ((∀ c ∈ options.clientId.toList, Subject.isPlain c = true) →
        (∀ c ∈ otherOptions.clientId.toList, Subject.isPlain c = true) →
        (blend ↔ SameStem subject other ∧ options.clientId = otherOptions.clientId) ∧
          (Subject.IsLiteral subject → Subject.IsLiteral other →
            (blend ↔ subject = other ∧ options.clientId = otherOptions.clientId))) := by
  intro spec otherSpec blend
  have names : spec.name = otherSpec.name ↔ blend :=
    ConsumerSpec.of_name_eq_iff own ownOther stream subject queue other otherQueue
  have delivers : spec.deliverSubject = otherSpec.deliverSubject ↔ spec.name = otherSpec.name :=
    String.append_right_inj "_deliver."
  refine ⟨names, delivers.trans names, ?_, fun plain plainOther => ?_⟩
  · rw [removes_iff, ConsumerSpec.owned_of, names]
    exact ⟨fun ⟨alone, _, blends⟩ => ⟨alone, blends⟩, fun ⟨alone, blends⟩ => ⟨alone, rfl, blends⟩⟩
  have stems : blend ↔ SameStem subject other ∧ options.clientId = otherOptions.clientId :=
    Subject.Blends.iff_of_plain plain plainOther
  refine ⟨stems, fun literal literalOther => stems.trans (and_congr_left fun _ => ?_)⟩
  exact ⟨fun same => same.eq_of_literal literal literalOther,
    fun same => same ▸ List.forall₂_same.mpr fun c _ => .inl rfl⟩

/-- A client without a durable name has two consumers for two literal subjects. -/
theorem consumerSpec_shared_iff_literal :
    ({ clientId := "cim-7" } : Options).durable = none ∧
      (ConsumerSpec.of { clientId := "cim-7" } "S" "cim.a" "").name ≠
        (ConsumerSpec.of { clientId := "cim-7" } "S" "cim.b" "").name ∧
      ¬ Removes (ConsumerSpec.of { clientId := "cim-7" } "S" "cim.a" "")
        (ConsumerSpec.of { clientId := "cim-7" } "S" "cim.b" "") := by
  have plain : ∀ c ∈ "cim-7".toList, Subject.isPlain c = true := by simp [Subject.isPlain]
  have literal : Subject.IsLiteral "cim.a" := by simp [Subject.IsLiteral]
  have literalOther : Subject.IsLiteral "cim.b" := by simp [Subject.IsLiteral]
  let options : Options := { clientId := "cim-7" }
  obtain ⟨names, -, removed, apart⟩ := @consumerSpec_shared_iff options options rfl rfl
    "S" "cim.a" "" "cim.b" ""
  have distinct : ¬ Subject.Blends "cim.a" "cim-7" "cim.b" "cim-7" := fun blend =>
    absurd (((apart plain plain).2 literal literalOther).mp blend).1 (by decide)
  exact ⟨rfl, mt names.mp distinct, fun removes => distinct (removed.mp removes).2⟩

/-- A client without a durable name has one consumer for two filters of one stream, and the end of
one subscription deletes it for both. -/
theorem consumerSpec_shared_wildcards :
    let spec := ConsumerSpec.of { clientId := "cim-7" } "S" "cim.events.>" ""
    let other := ConsumerSpec.of { clientId := "cim-7" } "S" "cim.events.*" ""
    ({ clientId := "cim-7" } : Options).durable = none ∧
      subjectCovers "cim.>" "cim.events.>" = true ∧ subjectCovers "cim.>" "cim.events.*" = true ∧
      "cim.events.>" ≠ "cim.events.*" ∧ spec.name = other.name ∧
      spec.deliverSubject = other.deliverSubject ∧ Removes spec other := by
  intro spec other
  have names : spec.name = other.name := by decide
  exact ⟨rfl, by decide, by decide, by decide, names, congrArg ("_deliver." ++ ·) names,
    removes_iff.mpr ⟨by decide, rfl, names⟩⟩

end Private

end MessageBus.Nats

/-
**Consumers.** What a subscription through a stream binds on the server.

* `ConsumerSpec` — the consumer of one subscription; `owned` when no queue group shares it.
* `ConsumerSpec.of` — the consumer for one subject of a stream. A client without a durable name has
  consumers of its own, which the server drops once nobody listens.
-/

import MessageBus.Nats.Options
import MessageBus.Subject

namespace MessageBus.Nats

/-- How long an unused consumer without a durable name stays on the server. -/
def inactiveThreshold : Duration := .seconds 30

/-- The consumer of one subscription. -/
structure ConsumerSpec where
  /-- The stream that the consumer reads. -/
  stream : String
  /-- The name of the consumer. -/
  name : String
  /-- The subject on which it delivers. -/
  deliverSubject : String
  /-- The queue group that it delivers to. -/
  deliverGroup : Option String
  /-- The subject that it reads. -/
  filterSubject : String
  /-- Where it starts. -/
  deliver : DeliverPolicy
  /-- How long it stays when nobody listens. -/
  inactiveThreshold : Option Duration
  deriving DecidableEq, Inhabited

namespace ConsumerSpec

/-- The consumer for one subject of a stream. -/
def of (options : Options) (stream subject queue : String) : ConsumerSpec :=
  let name := consumerName options.durable options.clientId subject
  { stream
    name
    deliverSubject := "_deliver." ++ name
    deliverGroup := if queue.isEmpty then none else some queue
    filterSubject := subject
    deliver := options.deliver
    inactiveThreshold :=
      if options.durable.isNone then some Nats.inactiveThreshold else none }

/-- The subject by which the server filters; an empty one does not count. -/
def filter? (spec : ConsumerSpec) : Option String :=
  if spec.filterSubject.isEmpty then none else some spec.filterSubject

/-- Whether the consumer belongs to one subscription alone. -/
def owned (spec : ConsumerSpec) : Bool :=
  spec.deliverGroup.isNone

end ConsumerSpec

end MessageBus.Nats

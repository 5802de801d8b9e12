/-
**A catalog in memory.** Streams and consumers without a server.

* `ScriptedCatalog` — the streams, how many of the next calls of each kind fail, and the calls made.
* `ScriptedCatalog.answer` — carries out a call: the first stream in order that covers a subject
  serves it.
* `stopDelivery` — a delivery whose end is a call of the catalog, too.
-/

import MessageBus.Nats.JetStream

namespace MessageBus.Nats

/-- A stream with the subjects that it holds. -/
structure Stream where
  /-- The name. -/
  name : String
  /-- The subjects, with wildcards. -/
  subjects : List String
  deriving DecidableEq, Inhabited

/-- Whether a stream covers a subject. -/
def Stream.covers (stream : Stream) (subject : String) : Bool :=
  stream.subjects.any fun pattern => subjectCovers pattern subject

/-- A call on the catalog, as it is recorded. -/
inductive CatalogEvent
  | lookup (subject : String)
  | create (name subject : String)
  | createConsumer (name : String)
  | delete (stream name : String)
  | stop
  deriving DecidableEq, Inhabited

/-- The name under which failures of a call are scripted. -/
def CatalogEvent.kind : CatalogEvent → String
  | .lookup _ => "lookup"
  | .create _ _ => "create"
  | .createConsumer _ => "consumer"
  | .delete _ _ => "delete"
  | .stop => "stop"

/-- A catalog in memory. -/
structure ScriptedCatalog where
  /-- The streams, oldest first. -/
  streams : List Stream := []
  /-- How many of the next calls of each kind fail. -/
  failures : List (String × Nat) := []
  /-- The calls made, in order. -/
  calls : List CatalogEvent := []
  deriving Inhabited

namespace ScriptedCatalog

/-- Records a call and tells whether it fails. -/
def record (catalog : ScriptedCatalog) (event : CatalogEvent) : Option BusError × ScriptedCatalog :=
  let left := (catalog.failures.lookup event.kind).getD 0
  let catalog := { catalog with calls := catalog.calls ++ [event] }
  if left = 0 then (none, catalog)
  else
    let failures := catalog.failures.map fun entry =>
      if entry.1 = event.kind then (entry.1, left - 1) else entry
    (some (.operation "jetstream" (event.kind ++ " failed")), { catalog with failures })

/-- Records a call that changes nothing. -/
def plain (catalog : ScriptedCatalog) (event : CatalogEvent) : BusResult Unit × ScriptedCatalog :=
  match catalog.record event with
  | (some error, catalog) => (.error error, catalog)
  | (none, catalog) => (.ok (), catalog)

/-- Carries out a call. -/
def answer : (c : Catalog.Call) → ScriptedCatalog → c.Answer × ScriptedCatalog
  | .streamFor subject, catalog => match catalog.record (.lookup subject) with
    | (some error, catalog) => (.error error, catalog)
    | (none, catalog) =>
      (.ok ((catalog.streams.find? (·.covers subject)).map (·.name)), catalog)
  | .createStream name subject, catalog => match catalog.record (.create name subject) with
    | (some error, catalog) => (.error error, catalog)
    | (none, catalog) =>
      (.ok (), { catalog with streams := catalog.streams ++ [⟨name, [subject]⟩] })
  | .createConsumer spec, catalog => catalog.plain (.createConsumer spec.name)
  | .deleteConsumer stream name, catalog => catalog.plain (.delete stream name)

/-- Carries out the calls of a subscription whose delivery ends by a call of the catalog. -/
def answerSubscription :
    (question : JetStream.base.Ask) → ScriptedCatalog →
      JetStream.base.Answer question × ScriptedCatalog
  | .inr c, catalog => answer c catalog
  | .inl (.stop _), catalog => catalog.plain .stop
  | .inl .openSession, catalog => (.ok 0, catalog)
  | .inl (.publish _ _), catalog => (.ok (), catalog)
  | .inl (.subscribe _ _ _ _), catalog => (.ok 0, catalog)
  | .inl (.acknowledge _ _), catalog => (.ok (), catalog)
  | .inl (.drain _), catalog => (.ok (), catalog)

/-- Ensures the configured stream. -/
def provision (catalog : ScriptedCatalog) (options : Options) :
    BusResult String × ScriptedCatalog :=
  (provisionStream options).run answer catalog

/-- Ends a subscription. -/
def unsubscribe (catalog : ScriptedCatalog) (spec : ConsumerSpec) :
    BusResult Unit × ScriptedCatalog :=
  (JetStream.unsubscribe { delivery := 0, spec }).run answerSubscription catalog

end ScriptedCatalog

end MessageBus.Nats

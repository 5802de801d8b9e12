/-
**Choosing a backend.** Clients are built from configurations by registered constructors.

* `Registry` — constructors by normalised type name; `register`, `remove`, `contains`, `types`.
* `Factory.build` — validates the configuration and asks the constructor that it selects to run; each
  run is one question. A known type that is not registered is told apart from an unknown one. A
  factory that is switched off builds the inert client for every configuration.
* `Factory.create` — the same with constructors that answer at once.
* `Backend`, `Registry.builtIn` — the built-in backends.
-/

import MessageBus.Mqtt.Client
import MessageBus.Nats.Client
import MessageBus.Nats.Link
import MessageBus.Text.Quoted

namespace MessageBus

/-- Builds a client from a configuration. -/
abbrev Constructor (C : Type) := BusConfig → BusResult C

/-- What a factory asks: that a constructor runs on a configuration. -/
abbrev construction (C : Type) : Interface :=
  ⟨Constructor C × BusConfig, fun _ => BusResult C⟩

/-- Constructors by normalised type name. -/
structure Registry (C : Type) where
  /-- The constructors. -/
  constructors : StringMap (Constructor C) := StringMap.empty

/-- The types that have a built-in backend. -/
def knownTypes : List String :=
  [typeMqtt, typeNatsCore, typeNatsJetStream]

namespace Registry

variable {C : Type}

/-- The form in which type names are registered. -/
def normalize (name : String) : String :=
  Text.lowercase (Text.trim name)

/-- The registry without constructors. -/
def empty : Registry C := {}

/-- Adds a constructor, or replaces the one of that name. -/
def register (registry : Registry C) (name : String) (constructor : Constructor C) : Registry C :=
  ⟨registry.constructors.insert (normalize name) constructor⟩

/-- The registry of one constructor for each built-in backend. -/
def ofBackends (mqtt core jetStream : Constructor C) : Registry C :=
  ((empty.register typeMqtt mqtt).register typeNatsCore core).register typeNatsJetStream jetStream

/-- Drops a constructor. -/
def remove (registry : Registry C) (name : String) : Registry C :=
  ⟨registry.constructors.erase (normalize name)⟩

/-- Whether a constructor is registered under a name. -/
def contains (registry : Registry C) (name : String) : Bool :=
  registry.constructors.contains (normalize name)

/-- The registered names in increasing order. -/
def types (registry : Registry C) : List String :=
  registry.constructors.keys

/-- A registry as it is shown. -/
def describe (registry : Registry C) : String :=
  "BackendRegistry \x7b types: " ++ Text.quoteList registry.types ++ " \x7d"

end Registry

/-- Builds clients. -/
structure Factory (C : Type) where
  /-- The constructors to choose from. -/
  registry : Registry C
  /-- Whether the bus is switched on. -/
  enabled : Bool := true

namespace Factory

variable {C : Type}

/-- A factory that is switched off. -/
def disabled : Factory C :=
  { registry := Registry.empty, enabled := false }

/-- The failure for a type without a constructor. -/
def missing (config : BusConfig) : BusError :=
  if config.normalizedType ∈ knownTypes then .notEnabled config.normalizedType
  else .configuration
    ("unknown message bus type '" ++ config.busType ++ "', expected one of " ++
      String.intercalate ", " knownTypes)

/-- Builds the client that a configuration selects; `inert` is the client of a bus that is switched
off. -/
def build (factory : Factory C) (inert : C) (config : BusConfig) :
    Dialogue (construction C) (BusResult C) :=
  if factory.enabled then
    match config.validate with
    | .error error => .done (.error error)
    | .ok () => match factory.registry.constructors.get? config.normalizedType with
      | some constructor => .ask (I := construction C) (constructor, config) .done
      | none => .done (.error (missing config))
  else .done (.ok inert)

/-- Runs a constructor on a configuration. -/
def construct (run : Constructor C × BusConfig) (world : Unit) : BusResult C × Unit :=
  (run.1 run.2, world)

/-- Builds the client with constructors that answer at once. -/
def create (factory : Factory C) (inert : C) (config : BusConfig) : BusResult C :=
  ((factory.build inert config).run construct ()).1

end Factory

/-- A client as a constructor builds it. -/
inductive Backend
  /-- Over MQTT. -/
  | mqtt (options : Mqtt.Options)
  /-- Over NATS. -/
  | nats (style : Nats.Style) (options : Nats.Options)
  /-- Switched off. -/
  | disabled
  deriving Inhabited

namespace Backend

/-- The constructor of the MQTT backend; `freshId` serves a configuration without a client id. -/
def mqttConstructor (freshId : String) : Constructor Backend := fun config =>
  (Mqtt.Options.ofConfig freshId config).map mqtt

/-- The constructor of a NATS backend. -/
def natsConstructor (style : Nats.Style) (freshId : String) : Constructor Backend := fun config =>
  (Nats.Options.ofConfig freshId config).map (nats style)

/-- The surroundings of both kinds of client together. -/
abbrev surroundings : Interface := Mqtt.Client.backend.sum (Nats.Client.backend Nat)

/-- A client of one backend as a client of several; `lift` places its questions. -/
def liftClient {I J : Interface} (lift : {α : Type} → Dialogue I.work α → Dialogue J.work α)
    (client : MessageClient I) : MessageClient J where
  connect := lift client.connect
  publish envelope topic := lift (client.publish envelope topic)
  publishWithLimit envelope topic limitKb := lift (client.publishWithLimit envelope topic limitKb)
  subscribe channels errors := lift (client.subscribe channels errors)
  unsubscribe topics := lift (client.unsubscribe topics)
  disconnect := lift client.disconnect
  request envelope requestTopic base timeout :=
    lift (client.request envelope requestTopic base timeout)
  publishBinary payload topic := lift (client.publishBinary payload topic)
  subscribeBinary channels errors := lift (client.subscribeBinary channels errors)

/-- Places the questions of an MQTT client. -/
def liftMqtt : (question : Mqtt.Client.backend.work.Ask) →
    Dialogue surroundings.work (Mqtt.Client.backend.work.Answer question)
  | .inl question => .ask (I := surroundings.work) (.inl (.inl question)) .done
  | .inr question => .ask (I := surroundings.work) (.inr question) .done

/-- Places the questions of a NATS client. -/
def liftNats : (question : (Nats.Client.backend Nat).work.Ask) →
    Dialogue surroundings.work ((Nats.Client.backend Nat).work.Answer question)
  | .inl question => .ask (I := surroundings.work) (.inl (.inr question)) .done
  | .inr question => .ask (I := surroundings.work) (.inr question) .done

/-- The operations of a client. -/
def client : Backend → MessageClient surroundings
  | mqtt _ => liftClient (Dialogue.translate liftMqtt) Mqtt.Client.client
  | nats _ options => liftClient (Dialogue.translate liftNats) (Nats.Client.client options true)
  | disabled => MessageClient.disabled

end Backend

namespace Registry

/-- All built-in backends. -/
def builtIn (freshId : String) : Registry Backend :=
  ofBackends (Backend.mqttConstructor freshId) (Backend.natsConstructor .core freshId)
    (Backend.natsConstructor .jetStream freshId)

/-- The built-in backends other than NATS. -/
def withoutNats (freshId : String) : Registry Backend :=
  ((builtIn freshId).remove typeNatsCore).remove typeNatsJetStream

end Registry

/-- Builds a client with every built-in backend available. -/
def newMessageClient (freshId : String) (config : BusConfig) : BusResult Backend :=
  Factory.create { registry := Registry.builtIn freshId } Backend.disabled config

end MessageBus

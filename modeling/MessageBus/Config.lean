/-
**Configuration.** Which backend to use and where its broker is.

* `BrokerAddress` — host, port and protocol; `url` joins them.
* `BusConfig` — a backend type, a broker address and the backend's options.
* `validate` — refuses a configuration that names no broker or no backend.
* `normalizedType` — the backend type without surrounding blanks, in lower case.
-/

import MessageBus.Error
import MessageBus.Text.Blank
import MessageBus.Text.Case

namespace MessageBus

/-- The name of the MQTT backend. -/
def typeMqtt : String := "mqtt"

/-- The name of the core NATS backend. -/
def typeNatsCore : String := "nats-core"

/-- The name of the NATS JetStream backend. -/
def typeNatsJetStream : String := "nats-jetstream"

/-- The address of a broker. -/
structure BrokerAddress where
  /-- The protocol of the URL. -/
  protocol : String := "nats"
  /-- The host name or address. -/
  host : String := "localhost"
  /-- The port; zero when it is not set. -/
  port : UInt16 := 4222
  deriving DecidableEq, Inhabited

namespace BrokerAddress

/-- Whether host and port are both set. -/
def isSet (broker : BrokerAddress) : Bool :=
  !Text.isBlankText broker.host && broker.port != 0

/-- The address as a URL with another protocol. -/
def urlWith (broker : BrokerAddress) (protocol : String) : String :=
  protocol ++ "://" ++ broker.host ++ ":" ++ toString broker.port.toNat

/-- The address as a URL. -/
def url (broker : BrokerAddress) : String :=
  broker.urlWith broker.protocol

end BrokerAddress

/-- A choice of backend with its broker and options. Options are looked up without regard to the
case of their keys, and the first match counts. -/
structure BusConfig where
  /-- The address of the broker. -/
  broker : BrokerAddress := {}
  /-- The name of the backend, in any case. -/
  busType : String := typeNatsCore
  /-- The backend's options, each key once. -/
  options : List (String × String) := []
  deriving DecidableEq, Inhabited

namespace BusConfig

/-- The backend type without surrounding blanks, in lower case. -/
def normalizedType (config : BusConfig) : String :=
  Text.lowercase (Text.trim config.busType)

/-- Refuses a configuration that cannot address any broker. -/
def validate (config : BusConfig) : BusResult Unit :=
  if Text.isBlankText config.broker.host then
    .error (.configuration "message bus broker host is not set")
  else if config.broker.port = 0 then
    .error (.configuration "message bus broker port is not set")
  else if Text.isBlankText config.busType then
    .error (.configuration "message bus type is not set")
  else .ok ()

end BusConfig

end MessageBus

/-
**Configurations as JSON text.**

* `BusConfig.decode` — reads a configuration; only the options may be absent.
* `BusConfig.encode` — the compact text, options in the order of the map.
-/

import MessageBus.Config.Environment
import MessageBus.Json.Value

namespace MessageBus.BusConfig

open MessageBus.Json

/-- The members of a broker address as far as they were read. -/
structure AddressDraft where
  host : Option String := none
  port : Option UInt16 := none
  protocol : Option String := none

/-- The members of a configuration as far as they were read. -/
structure Draft where
  broker : Option BrokerAddress := none
  busType : Option String := none
  options : Option Options.OptionMap := none

/-- A member that `reader` reads and `put` writes into a draft. -/
def member {σ α : Type} (name : String) (isSet : σ → Bool) (put : σ → α → σ) (reader : Reader α) :
    RecordField σ :=
  { name
    isSet
    read := fun draft s => do
      let (value, rest) ← reader s
      return (put draft value, rest) }

/-- A port of sixteen bits. -/
def portReader : Reader UInt16 := fun s => do
  let (port, rest) ← integer 0 65535 s
  return (port.toNat.toUInt16, rest)

/-- A broker address; every member is needed. -/
def addressReader : Reader BrokerAddress :=
  record
    [ member "Host" (·.host.isSome) (fun d v => { d with host := some v }) text,
      member "Port" (·.port.isSome) (fun d v => { d with port := some v }) portReader,
      member "Protocol" (·.protocol.isSome) (fun d v => { d with protocol := some v }) text ]
    ({} : AddressDraft)
    fun draft => do
      return { host := ← draft.host, port := ← draft.port, protocol := ← draft.protocol }

/-- Options; the last of several values for a key counts. -/
def optionsReader : Reader Options.OptionMap := fun s => do
  let (pairs, rest) ← dictionary text s
  return (pairs.foldl (fun map pair => Options.put map pair.1 pair.2) [], rest)

/-- A configuration; only the options may be absent. -/
def reader : Reader BusConfig :=
  record
    [ member "Broker" (·.broker.isSome) (fun d v => { d with broker := some v }) addressReader,
      member "Type" (·.busType.isSome) (fun d v => { d with busType := some v }) text,
      member "Optional" (·.options.isSome) (fun d v => { d with options := some v })
        optionsReader ]
    ({} : Draft)
    fun draft => do
      return { broker := ← draft.broker, busType := ← draft.busType,
               options := draft.options.getD [] }

/-- The configuration that a whole text holds. -/
def decode (bytes : List UInt8) : Except Fault BusConfig :=
  readAll reader bytes

/-- The text of a configuration. -/
def encode (config : BusConfig) : String :=
  let broker : Value := .object
    [ ("Host", .text config.broker.host), ("Port", .integer config.broker.port.toNat),
      ("Protocol", .text config.broker.protocol) ]
  let options : Value := .object (config.options.map fun entry => (entry.1, .text entry.2))
  Value.render (.object
    [("Broker", broker), ("Type", .text config.busType), ("Optional", options)])

end MessageBus.BusConfig

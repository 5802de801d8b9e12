/-
**Configuration from variables.** The environment names a backend, its broker and its options.

* `parseOptionPairs` — `Key=Value` pairs separated by commas; a later pair replaces an earlier one
  of the same key.
* `BusConfig.ofLookup` — the configuration that a look-up of variables gives. Without a protocol or
  a port, the defaults of MQTT or of NATS apply, by the backend that is named.
-/

import MessageBus.Config.Options

namespace MessageBus

open MessageBus.Text

/-- Puts a value under a key of an option map, in the place of an earlier one. -/
def Options.put (options : Options.OptionMap) (key value : String) : Options.OptionMap :=
  if options.any fun entry => entry.1 == key then
    options.map fun entry => if entry.1 == key then (key, value) else entry
  else options ++ [(key, value)]

/-- Adds the pair that one piece holds; a blank piece adds nothing. -/
def addOptionPair (options : Options.OptionMap) (piece : List Char) :
    BusResult Options.OptionMap :=
  let pair := trimChars piece
  if pair.isEmpty then .ok options
  else if '=' ∈ pair then
    let key := String.ofList (trimChars (pair.takeWhile (· != '=')))
    let value := String.ofList (trimChars ((pair.dropWhile (· != '=')).drop 1))
    .ok (Options.put options key value)
  else .error (.configuration
    ("option '" ++ String.ofList pair ++ "' is not in Key=Value form"))

/-- Reads `Key=Value` pairs separated by commas. -/
def parseOptionPairs (raw : String) : BusResult Options.OptionMap :=
  (raw.toList.splitOn ',').foldlM addOptionPair []

/-- Reads a port. -/
def parsePort (raw : String) : BusResult UInt16 :=
  match Text.natural (UInt16.size - 1) (trimChars raw.toList) with
  | .ok port => .ok port.toUInt16
  | .error fault =>
    .error (.configuration ("invalid MESSAGEBUS_PORT '" ++ raw ++ "': " ++ fault.message))

/-- The configuration that a look-up of variables gives. -/
def BusConfig.ofLookup (lookup : String → Option String) : BusResult BusConfig := do
  let busType := (lookup "MESSAGEBUS_TYPE").getD typeNatsCore
  let isMqtt := eqIgnoringAsciiCase busType typeMqtt
  let protocol := (lookup "MESSAGEBUS_PROTOCOL").getD (if isMqtt then "tcp" else "nats")
  let host := (lookup "MESSAGEBUS_HOST").getD "localhost"
  let port ← match lookup "MESSAGEBUS_PORT" with
    | some raw => parsePort raw
    | none => .ok (if isMqtt then 1883 else 4222)
  let options ← match lookup "MESSAGEBUS_OPTIONAL" with
    | some raw => parseOptionPairs raw
    | none => .ok []
  return { broker := { protocol, host, port }, busType, options }

end MessageBus

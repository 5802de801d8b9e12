/-
**Options of the MQTT backend.**

* `Mqtt.Options` — the settings of a client.
* `Mqtt.Options.ofConfig` — reads them. `freshId` is the client id for a configuration without one.
* `ConnectOptions`, `Options.toConnect` — what is handed to the connection, certificate files read.
* `ConnectPacket` — the fields of the packet that opens a session; keep-alive has sixteen bits.
-/

import MessageBus.Config.Tls
import MessageBus.Url

namespace MessageBus.Mqtt

/-- How often a message may arrive. -/
inductive Qos
  | atMostOnce
  | atLeastOnce
  | exactlyOnce
  deriving DecidableEq, Inhabited, Repr

/-- The number of a quality of service. -/
def Qos.level : Qos → Nat
  | .atMostOnce => 0
  | .atLeastOnce => 1
  | .exactlyOnce => 2

/-- The quality of service of a number. -/
def Qos.ofLevel? : Nat → Option Qos
  | 0 => some .atMostOnce
  | 1 => some .atLeastOnce
  | 2 => some .exactlyOnce
  | _ => none

/-- The settings of an MQTT client. -/
structure Options where
  /-- The host of the broker. -/
  host : String
  /-- The port of the broker. -/
  port : UInt16
  /-- Connect through TLS. -/
  useTls : Bool
  /-- The name of the client. -/
  clientId : String
  /-- The user name. -/
  username : Option String
  /-- The password. -/
  password : Option String
  /-- The quality of service of publishes and subscriptions. -/
  qos : Qos
  /-- How long the connection may be silent. -/
  keepAlive : Duration
  /-- Ask the broker to keep published messages. -/
  retained : Bool
  /-- Connect again after a loss. -/
  autoReconnect : Bool
  /-- Start without the state of an earlier session. -/
  cleanSession : Bool
  /-- How long connecting may take. -/
  connectTimeout : Duration
  /-- How many requests may wait for the connection. -/
  capacityHint : Nat
  /-- The TLS settings. -/
  tls : TlsOptions
  deriving DecidableEq, Inhabited

/-- The shortest keep-alive that is accepted. -/
def minKeepAlive : Duration := .seconds 5

namespace Options

open MessageBus.Options

/-- Whether a protocol asks for TLS; unknown protocols are refused. -/
def protocolTls (protocol : String) : BusResult Bool :=
  let name := Text.lowercase (Text.trim protocol)
  if name ∈ ["", "tcp", "mqtt"] then .ok false
  else if name ∈ ["ssl", "tls", "mqtts"] then .ok true
  else .error (.configuration ("unsupported MQTT protocol '" ++ name ++ "'"))

/-- The host that a URL names. -/
def urlHost (url : String) : BusResult String :=
  match Url.host url with
  | .error fault =>
    .error (.configuration ("invalid MQTT broker URL '" ++ url ++ "': " ++ fault.message))
  | .ok none => .error (.configuration ("MQTT broker URL '" ++ url ++ "' has no host"))
  | .ok (some host) =>
    if host.isEmpty then .error (.configuration ("MQTT broker URL '" ++ url ++ "' has no host"))
    else .ok host

/-- The quality of service under its option. -/
def qosOption (map : OptionMap) : BusResult Qos := do
  let level ← natural (UInt8.size - 1) map "Qos" 0
  match Qos.ofLevel? level with
  | some qos => return qos
  | none => .error (invalid "Qos" (toString level) "expected 0, 1 or 2")

/-- The keep-alive under its option. -/
def keepAliveOption (map : OptionMap) : BusResult Duration := do
  let seconds ← natural (UInt64.size - 1) map "KeepAlive" 60
  if seconds < minKeepAlive.wholeSeconds then
    .error (.configuration
      ("KeepAlive must be at least " ++ toString minKeepAlive.wholeSeconds ++ " seconds"))
  else return .seconds seconds

/-- The capacity under its option. -/
def capacityOption (map : OptionMap) : BusResult Nat := do
  let capacity ← natural (UInt64.size - 1) map "CapacityHint" 16
  if capacity = 0 then .error (.configuration "CapacityHint must be positive")
  else return capacity

/-- Reads the settings of a client. -/
def ofConfig (freshId : String) (config : BusConfig) : BusResult Options := do
  config.validate
  let map := config.options
  let secure ← protocolTls config.broker.protocol
  let host ← urlHost config.broker.url
  let qos ← qosOption map
  let keepAlive ← keepAliveOption map
  let capacityHint ← capacityOption map
  let tls ← TlsOptions.ofOptions map
  let retained ← flag map "Retained" false
  let autoReconnect ← flag map "AutoReconnect" false
  let cleanSession ← flag map "CleanSession" true
  let connectTimeout ← duration map "ConnectTimeout" (.seconds 5)
  return {
    host, qos, keepAlive, capacityHint, tls, retained, autoReconnect, cleanSession, connectTimeout
    port := config.broker.port
    useTls := secure || tls.isConfigured
    clientId := text map "ClientId" ("cim-" ++ freshId)
    username := get? map "Username"
    password := get? map "Password" }

end Options

/-- A file as found on a machine: its bytes, or the machine's words for why it cannot be read. -/
abbrev FileReader := String → Except String (List UInt8)

/-- How the connection is carried. -/
inductive Transport
  /-- In the clear. -/
  | tcp
  /-- Through TLS as it is set up by default: trusting the machine's own certificates, and
  presenting none. -/
  | systemTls
  /-- Through TLS, trusting the certificates of a file, with a client's certificate and key. -/
  | tls (trusted : List UInt8) (client : Option (List UInt8 × List UInt8))
  deriving DecidableEq, Inhabited

/-- What is handed to the connection. -/
structure ConnectOptions where
  /-- The host of the broker. -/
  host : String
  /-- The port of the broker. -/
  port : UInt16
  /-- The name of the client. -/
  clientId : String
  /-- How long the connection may be silent. -/
  keepAlive : Duration
  /-- Start without the state of an earlier session. -/
  cleanSession : Bool
  /-- User name and password. -/
  credentials : Option (String × String)
  /-- How the connection is carried. -/
  transport : Transport
  deriving DecidableEq, Inhabited

/-- Reads a file of certificates or keys. -/
def readPem (files : FileReader) (path : String) : BusResult (List UInt8) :=
  match files path with
  | .ok bytes => .ok bytes
  | .error reason => .error (.configuration ("unable to read '" ++ path ++ "': " ++ reason))

namespace Options

/-- The carrier of a TLS connection. -/
def tlsTransport (files : FileReader) (tls : TlsOptions) : BusResult Transport :=
  match tls.caFile with
  | none => .ok .systemTls
  | some ca => do
    let trusted ← readPem files ca
    match tls.certFile, tls.keyFile with
    | some cert, some key => do
      let cert ← readPem files cert
      let key ← readPem files key
      return .tls trusted (some (cert, key))
    | _, _ => return .tls trusted none

/-- What a client hands to its connection; the files it names are read. -/
def toConnect (options : Options) (files : FileReader) : BusResult ConnectOptions := do
  let transport ← if options.useTls then tlsTransport files options.tls else .ok .tcp
  return {
    host := options.host
    port := options.port
    clientId := options.clientId
    keepAlive := options.keepAlive
    cleanSession := options.cleanSession
    credentials := options.username.map fun name => (name, options.password.getD "")
    transport }

end Options

/-- The fields of the packet that opens a session. -/
structure ConnectPacket where
  /-- The name of the client. -/
  clientId : String
  /-- Start without the state of an earlier session. -/
  cleanSession : Bool
  /-- How many seconds the connection may be silent. -/
  keepAlive : UInt16
  /-- User name and password. -/
  login : Option (String × String)
  deriving DecidableEq, Inhabited

/-- The packet that opens a session; of the keep-alive it carries the low sixteen bits. -/
def ConnectOptions.packet (options : ConnectOptions) : ConnectPacket :=
  { clientId := options.clientId
    cleanSession := options.cleanSession
    keepAlive := options.keepAlive.wholeSeconds.toUInt16
    login := options.credentials }

end MessageBus.Mqtt

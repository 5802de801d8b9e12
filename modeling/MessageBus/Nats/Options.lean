/-
**Options of the NATS backends.**

* `Nats.Options` — the settings of a client, with their defaults.
* `Nats.Options.ofConfig` — reads them; the broker's URL must name a host, and a present option
  must be a text of its type. `freshId` is the client id for a configuration that names none.
-/

import MessageBus.Config.Tls
import MessageBus.Nats.DeliverPolicy
import MessageBus.Nats.WireFormat
import MessageBus.Url

namespace MessageBus.Nats

/-- The settings of a NATS client. -/
structure Options where
  /-- The URL of the broker. -/
  brokerUrl : String := "nats://localhost:4222"
  /-- The name of the client. -/
  clientId : String := "cim-messagebus"
  /-- How envelopes become messages. -/
  format : WireFormat := .native
  /-- How long connecting may take. -/
  connectTimeout : Duration := .seconds 5
  /-- Keep trying when the first connection fails. -/
  retryOnFailedConnect : Bool := false
  /-- The queue group of subscriptions; empty for none. -/
  queueGroup : String := ""
  /-- The durable name shared by clients. -/
  durable : Option String := none
  /-- The topic of the stream that provisioning ensures. -/
  subject : String := "cim/#"
  /-- Ensure a stream when connecting. -/
  autoProvision : Bool := false
  /-- Where new consumers start. -/
  deliver : DeliverPolicy := .new
  /-- How often a failed publish to a stream is repeated. -/
  publishRetries : Nat := 2
  /-- Wait for the confirmation of acknowledgements. -/
  exactlyOnce : Bool := false
  /-- The user name. -/
  username : Option String := none
  /-- The password. -/
  password : Option String := none
  /-- The file of the seed of a key. -/
  nkeySeedFile : Option String := none
  /-- The file of credentials. -/
  credentialsFile : Option String := none
  /-- The TLS settings. -/
  tls : TlsOptions := {}
  deriving DecidableEq, Inhabited

namespace Options

open MessageBus.Options

/-- The protocol of the broker's URL: blank and `tcp` stand for `nats`. -/
def urlProtocol (protocol : String) : String :=
  let name := Text.lowercase (Text.trim protocol)
  if name ∈ ["", "tcp"] then "nats" else name

/-- Refuses a text that is no URL or names no host. -/
def checkUrl (url : String) : BusResult Unit :=
  match Url.host url with
  | .error fault =>
    .error (.configuration ("invalid NATS broker URL '" ++ url ++ "': " ++ fault.message))
  | .ok none => .error (.configuration ("NATS broker URL '" ++ url ++ "' has no host"))
  | .ok (some host) =>
    if host.isEmpty then .error (.configuration ("NATS broker URL '" ++ url ++ "' has no host"))
    else .ok ()

/-- Reads the settings of a client. -/
def ofConfig (freshId : String) (config : BusConfig) : BusResult Options := do
  config.validate
  let map := config.options
  let brokerUrl := config.broker.urlWith (urlProtocol config.broker.protocol)
  checkUrl brokerUrl
  let format ← WireFormat.parse (text map "Format" "")
  let connectTimeout ← duration map "ConnectTimeout" (.seconds 5)
  let retryOnFailedConnect ← flag map "RetryOnFailedConnect" false
  let autoProvision ← flag map "AutoProvision" false
  let deliver ← DeliverPolicy.parse (text map "Deliver" "")
  let publishRetries ← natural (UInt32.size - 1) map "DefaultPubRetryAttempts" 2
  let exactlyOnce ← flag map "ExactlyOnce" false
  let tls ← TlsOptions.ofOptions map
  return {
    brokerUrl, format, connectTimeout, retryOnFailedConnect, autoProvision, deliver,
    publishRetries, exactlyOnce, tls
    clientId := text map "ClientId" ("cim-" ++ freshId)
    queueGroup := text map "QueueGroup" ""
    durable := get? map "Durable"
    subject := text map "Subject" "cim/#"
    username := get? map "Username"
    password := get? map "Password"
    nkeySeedFile := get? map "NKeySeedFile"
    credentialsFile := get? map "CredentialsFile" }

end Options

end MessageBus.Nats

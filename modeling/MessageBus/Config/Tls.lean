/-
**TLS settings.** The settings that every backend shares.

* `TlsOptions.ofOptions` — reads them; a client certificate and its key come together or not at all.
* `isConfigured` — whether a file of certificates was named.
-/

import MessageBus.Config.Options

namespace MessageBus

/-- The TLS settings of a backend. -/
structure TlsOptions where
  /-- Accept any server certificate. -/
  skipCertVerify : Bool := false
  /-- The file of trusted root certificates. -/
  caFile : Option String := none
  /-- The file of the client certificate. -/
  certFile : Option String := none
  /-- The file of the client's private key. -/
  keyFile : Option String := none
  deriving DecidableEq, Inhabited

namespace TlsOptions

/-- Reads the TLS settings of a backend. -/
def ofOptions (options : Options.OptionMap) : BusResult TlsOptions := do
  let skipCertVerify ← Options.flag options "SkipCertVerify" false
  let caFile := Options.get? options "CaFile"
  let certFile := Options.get? options "CertFile"
  let keyFile := Options.get? options "KeyFile"
  if certFile.isSome = keyFile.isSome then
    return { skipCertVerify, caFile, certFile, keyFile }
  else .error (.configuration "CertFile and KeyFile must be configured together")

/-- Whether a file of certificates was named. -/
def isConfigured (tls : TlsOptions) : Bool :=
  tls.caFile.isSome || tls.certFile.isSome

end TlsOptions

end MessageBus

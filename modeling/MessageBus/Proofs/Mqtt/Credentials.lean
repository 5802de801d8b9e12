/-
**The files of a secured connection.** Certificates and keys are named by a configuration and read
when the connection is made.

* `TlsOptions.Carries` — what carries a connection with TLS settings, by the files that they name;
  `Options.tlsTransport_eq_ok_iff` — the carrier that is made.
* `Options.IsSecured` — what the settings of an accepted configuration keep of its files.
* `Options.Readable` — all configured files can be read; `Options.Uses` — a carrier has what is in
  them; `Options.UsesOrRefuses` — they are used if they can be read, and there is no connection if
  they cannot.
* `Options.credentials_kept_iff` — **configured files are used or refused exactly if a client's
  certificate comes with certificates to trust**; `credentials_dropped` — one that comes without.
-/

import MessageBus.Proofs.Mqtt.Settings

namespace MessageBus

/-! ### Settings -/

theorem both_of_isSome_eq {α β : Type} {a : Option α} {b : Option β}
    (together : a.isSome = b.isSome) :
    a = none ∧ b = none ∨ ∃ x y, a = some x ∧ b = some y := by
  cases a <;> cases b <;> simp_all

/-- TLS settings keep the files that the options name, a client's certificate with its key. -/
theorem TlsOptions.files_of_ofOptions {map : Options.OptionMap} {tls : TlsOptions}
    (read : ofOptions map = .ok tls) :
    tls.caFile = Options.get? map "CaFile" ∧ tls.certFile = Options.get? map "CertFile" ∧
      tls.keyFile = Options.get? map "KeyFile" ∧ tls.certFile.isSome = tls.keyFile.isSome := by
  unfold ofOptions at read
  obtain ⟨skip, -, whole⟩ := bind_eq_ok_iff.mp read
  by_cases both : (Options.get? map "CertFile").isSome = (Options.get? map "KeyFile").isSome
  · rw [if_pos both] at whole
    obtain rfl := pure_eq_ok_iff.mp whole
    exact ⟨rfl, rfl, rfl, both⟩
  · rw [if_neg both] at whole
    cases whole

namespace Mqtt

open MessageBus.Options

namespace Transport

/-- The certificates of a file that a connection trusts. -/
def trusted? : Transport → Option (List UInt8)
  | .tls trusted _ => some trusted
  | _ => none

/-- The client's certificate and key that a connection presents. -/
def client? : Transport → Option (List UInt8 × List UInt8)
  | .tls _ client => client
  | _ => none

end Transport

namespace Options

variable {freshId : String} {config : BusConfig} {options : Options} {tls : TlsOptions}
  {files : FileReader} {transport : Transport} {connect : ConnectOptions}

/-- The settings keep the files of their configuration, and ask for TLS where it names any. -/
structure IsSecured (config : BusConfig) (options : Options) : Prop where
  caFile : options.tls.caFile = get? config.options "CaFile"
  certFile : options.tls.certFile = get? config.options "CertFile"
  keyFile : options.tls.keyFile = get? config.options "KeyFile"
  together : options.tls.certFile.isSome = options.tls.keyFile.isSome
  useTls : options.tls.isConfigured = true → options.useTls = true

theorem isSecured_of_ofConfig (accepted : ofConfig freshId config = .ok options) :
    IsSecured config options := by
  have taken := takenFrom_of_ofConfig accepted
  obtain ⟨caFile, certFile, keyFile, together⟩ := TlsOptions.files_of_ofOptions taken.tls
  exact ⟨caFile, certFile, keyFile, together, taken.useTls⟩

/-! ### Carriers -/

theorem readPem_eq_ok_iff {path : String} {bytes : List UInt8} :
    readPem files path = .ok bytes ↔ files path = .ok bytes := by
  unfold readPem
  cases files path <;> simp

theorem onlyConfiguration_readPem (files : FileReader) (path : String) :
    OnlyConfiguration (readPem files path) := by
  unfold readPem
  cases files path with
  | ok bytes => exact onlyConfiguration_ok bytes
  | error reason => exact onlyConfiguration_error _

/-- What carries a connection with TLS settings. A client's certificate and key are read only where
there is a file of certificates to trust. -/
inductive Carries (files : FileReader) (tls : TlsOptions) : Transport → Prop
  /-- No certificates to trust are named. -/
  | system (noCa : tls.caFile = none) : Carries files tls .systemTls
  /-- Certificates to trust are named, and none of a client. -/
  | server {path : String} {trusted : List UInt8} (caFile : tls.caFile = some path)
      (read : files path = .ok trusted) (noCert : tls.certFile = none) (noKey : tls.keyFile = none) :
      Carries files tls (.tls trusted none)
  /-- Certificates to trust are named, and a client's certificate and key. -/
  | both {path certPath keyPath : String} {trusted cert key : List UInt8}
      (caFile : tls.caFile = some path) (read : files path = .ok trusted)
      (certFile : tls.certFile = some certPath) (certRead : files certPath = .ok cert)
      (keyFile : tls.keyFile = some keyPath) (keyRead : files keyPath = .ok key) :
      Carries files tls (.tls trusted (some (cert, key)))

theorem tlsTransport_eq_ok_iff (together : tls.certFile.isSome = tls.keyFile.isSome) :
    tlsTransport files tls = .ok transport ↔ Carries files tls transport := by
  constructor
  · intro made
    unfold tlsTransport at made
    cases caFile : tls.caFile with
    | none =>
      rw [caFile] at made
      obtain rfl := Except.ok.inj made
      exact .system caFile
    | some path =>
      obtain ⟨noCert, noKey⟩ | ⟨certPath, keyPath, certFile, keyFile⟩ := both_of_isSome_eq together
      · simp only [caFile, noCert, noKey, bind_eq_ok_iff, readPem_eq_ok_iff, pure_eq_ok_iff] at made
        obtain ⟨trusted, read, rfl⟩ := made
        exact .server caFile read noCert noKey
      · simp only [caFile, certFile, keyFile, bind_eq_ok_iff, readPem_eq_ok_iff,
          pure_eq_ok_iff] at made
        obtain ⟨trusted, read, cert, certRead, key, keyRead, rfl⟩ := made
        exact .both caFile read certFile certRead keyFile keyRead
  · intro carries
    unfold tlsTransport
    cases carries with
    | system noCa => rw [noCa]
    | server caFile read noCert noKey =>
      simp only [caFile, noCert, noKey, bind_eq_ok_iff, readPem_eq_ok_iff, pure_eq_ok_iff]
      exact ⟨_, read, rfl⟩
    | both caFile read certFile certRead keyFile keyRead =>
      simp only [caFile, certFile, keyFile, bind_eq_ok_iff, readPem_eq_ok_iff, pure_eq_ok_iff]
      exact ⟨_, read, _, certRead, _, keyRead, rfl⟩

theorem onlyConfiguration_tlsTransport (files : FileReader) (tls : TlsOptions) :
    OnlyConfiguration (tlsTransport files tls) := by
  unfold tlsTransport
  split
  · exact onlyConfiguration_ok _
  refine .bind (onlyConfiguration_readPem _ _) fun _ => ?_
  split
  · exact .bind (onlyConfiguration_readPem _ _) fun _ =>
      .bind (onlyConfiguration_readPem _ _) fun _ => onlyConfiguration_ok _
  · exact onlyConfiguration_ok _

/-- What carries the connection of a client. -/
def carrier (options : Options) (files : FileReader) : BusResult Transport :=
  if options.useTls then tlsTransport files options.tls else .ok .tcp

/-- What the connection of a client is given besides its carrier. -/
def opening (options : Options) (transport : Transport) : ConnectOptions :=
  { host := options.host
    port := options.port
    clientId := options.clientId
    keepAlive := options.keepAlive
    cleanSession := options.cleanSession
    credentials := options.username.map fun name => (name, options.password.getD "")
    transport }

theorem toConnect_eq (options : Options) (files : FileReader) :
    options.toConnect files = options.carrier files >>= fun transport =>
      pure (options.opening transport) := by
  unfold toConnect carrier
  cases options.useTls <;> rfl

theorem toConnect_eq_ok_iff : options.toConnect files = .ok connect ↔
    ∃ transport, options.carrier files = .ok transport ∧ options.opening transport = connect := by
  simp only [toConnect_eq, bind_eq_ok_iff, pure_eq_ok_iff]

theorem onlyConfiguration_toConnect (options : Options) (files : FileReader) :
    OnlyConfiguration (options.toConnect files) := by
  rw [toConnect_eq]
  exact .bind (.ite (onlyConfiguration_tlsTransport _ _) (onlyConfiguration_ok _)) fun _ =>
    onlyConfiguration_ok _

/-! ### Configured files -/

/-- The keys of the files that secure a connection. -/
def fileKeys : List String := ["CaFile", "CertFile", "KeyFile"]

/-- All configured files can be read. -/
def Readable (files : FileReader) (map : OptionMap) : Prop :=
  ∀ key ∈ fileKeys, ∀ path, get? map key = some path → ∃ bytes, files path = .ok bytes

/-- A carrier trusts what is in the configured file of certificates, and presents what is in those
of the client's certificate and key. -/
structure Uses (files : FileReader) (map : OptionMap) (transport : Transport) : Prop where
  trusted : ∀ path, get? map "CaFile" = some path →
    ∃ bytes, files path = .ok bytes ∧ transport.trusted? = some bytes
  client : ∀ certPath keyPath, get? map "CertFile" = some certPath →
    get? map "KeyFile" = some keyPath →
      ∃ cert key, files certPath = .ok cert ∧ files keyPath = .ok key ∧
        transport.client? = some (cert, key)

/-- Configured files are used if all of them can be read, and there is no connection if one of them
cannot. -/
structure UsesOrRefuses (files : FileReader) (map : OptionMap) (options : Options) : Prop where
  refused : ¬ Readable files map →
    ∃ text, options.toConnect files = .error (.configuration text)
  used : Readable files map → ∃ connect, options.toConnect files = .ok connect ∧
    (connect.transport ≠ .tcp ↔ options.useTls = true) ∧ Uses files map connect.transport

theorem IsSecured.readable_iff (secured : IsSecured config options) :
    Readable files config.options ↔
      (∀ path, options.tls.caFile = some path → ∃ bytes, files path = .ok bytes) ∧
      (∀ path, options.tls.certFile = some path → ∃ bytes, files path = .ok bytes) ∧
      ∀ path, options.tls.keyFile = some path → ∃ bytes, files path = .ok bytes := by
  simp [Readable, fileKeys, secured.caFile, secured.certFile, secured.keyFile]

/-- **A connection goes through TLS exactly where the settings say so.** -/
theorem IsSecured.ne_tcp_iff (secured : IsSecured config options)
    (made : options.toConnect files = .ok connect) :
    connect.transport ≠ .tcp ↔ options.useTls = true := by
  obtain ⟨transport, carried, rfl⟩ := toConnect_eq_ok_iff.mp made
  show transport ≠ .tcp ↔ options.useTls = true
  unfold carrier at carried
  by_cases useTls : options.useTls = true
  · rw [if_pos useTls, tlsTransport_eq_ok_iff secured.together] at carried
    refine iff_of_true ?_ useTls
    rintro rfl
    cases carried
  · rw [if_neg useTls] at carried
    exact iff_of_false (fun other => other (Except.ok.inj carried).symm) useTls

/-- A client's certificate comes with certificates to trust. -/
def IsComplete (tls : TlsOptions) : Prop :=
  tls.certFile ≠ none → tls.caFile ≠ none

/-- Without certificates to trust, complete settings name no files at all. -/
theorem IsSecured.unnamed (secured : IsSecured config options) (complete : IsComplete options.tls)
    (noCa : options.tls.caFile = none) :
    options.tls.certFile = none ∧ options.tls.keyFile = none := by
  obtain none | ⟨cert, -, certFile, -⟩ := both_of_isSome_eq secured.together
  · exact none
  · exact absurd noCa (complete (by simp [certFile]))

/-- Where any file is named, the connection is carried by what carries its TLS settings. -/
theorem IsSecured.carrier_eq_ok_iff (secured : IsSecured config options)
    (configured : options.tls.isConfigured = true) :
    options.carrier files = .ok transport ↔ Carries files options.tls transport := by
  rw [carrier, if_pos (secured.useTls configured)]
  exact tlsTransport_eq_ok_iff secured.together

/-- **Complete settings are carried exactly if all configured files can be read.** -/
theorem IsSecured.exists_carrier_iff (secured : IsSecured config options)
    (complete : IsComplete options.tls) :
    (∃ transport, options.carrier files = .ok transport) ↔ Readable files config.options := by
  rw [secured.readable_iff]
  cases caFile : options.tls.caFile with
  | none =>
    -- No file is named, and so none is read.
    obtain ⟨noCert, noKey⟩ := secured.unnamed complete caFile
    refine iff_of_true ?_ (by simp [noCert, noKey])
    unfold carrier
    split
    · exact ⟨.systemTls, (tlsTransport_eq_ok_iff secured.together).mpr (.system caFile)⟩
    · exact ⟨.tcp, rfl⟩
  | some path =>
    simp only [secured.carrier_eq_ok_iff (by simp [TlsOptions.isConfigured, caFile])]
    constructor
    · rintro ⟨_, carries⟩
      cases carries with
      | system noCa => simp [caFile] at noCa
      | server named read noCert noKey => simp_all
      | both named read certFile certRead keyFile keyRead => simp_all
    · rintro ⟨ca, cert, key⟩
      obtain ⟨trusted, read⟩ := ca path rfl
      obtain ⟨noCert, noKey⟩ | ⟨certPath, keyPath, certFile, keyFile⟩ :=
        both_of_isSome_eq secured.together
      · exact ⟨_, .server caFile read noCert noKey⟩
      · obtain ⟨certBytes, certRead⟩ := cert certPath certFile
        obtain ⟨keyBytes, keyRead⟩ := key keyPath keyFile
        exact ⟨_, .both caFile read certFile certRead keyFile keyRead⟩

/-- What carries complete settings uses all configured files. -/
theorem IsSecured.uses (secured : IsSecured config options) (complete : IsComplete options.tls)
    (carried : options.carrier files = .ok transport) : Uses files config.options transport := by
  constructor
  · intro path named
    rw [← secured.caFile] at named
    rw [secured.carrier_eq_ok_iff (by simp [TlsOptions.isConfigured, named])] at carried
    cases carried with
    | system noCa => rw [noCa] at named; cases named
    | server caFile read _ _ | both caFile read _ _ _ _ =>
      obtain rfl := Option.some.inj (caFile.symm.trans named)
      exact ⟨_, read, rfl⟩
  · intro certPath keyPath certNamed keyNamed
    rw [← secured.certFile] at certNamed
    rw [← secured.keyFile] at keyNamed
    rw [secured.carrier_eq_ok_iff (by simp [TlsOptions.isConfigured, certNamed])] at carried
    cases carried with
    | system noCa => exact absurd noCa (complete (by simp [certNamed]))
    | server _ _ noCert _ => rw [noCert] at certNamed; cases certNamed
    | both _ _ certFile certRead keyFile keyRead =>
      obtain rfl := Option.some.inj (certFile.symm.trans certNamed)
      obtain rfl := Option.some.inj (keyFile.symm.trans keyNamed)
      exact ⟨_, _, certRead, keyRead, rfl⟩

/-- A client's certificate that comes without certificates to trust is dropped unread. -/
theorem IsSecured.toConnect_of_incomplete (secured : IsSecured config options)
    (incomplete : ¬ IsComplete options.tls) (files : FileReader) :
    options.toConnect files = .ok (options.opening .systemTls) := by
  obtain ⟨cert, noCa⟩ : options.tls.certFile ≠ none ∧ options.tls.caFile = none := by
    simpa [IsComplete] using incomplete
  have configured : options.tls.isConfigured = true := by
    simp [TlsOptions.isConfigured, Option.isSome_iff_ne_none, cert]
  exact toConnect_eq_ok_iff.mpr
    ⟨.systemTls, (secured.carrier_eq_ok_iff configured).mpr (.system noCa), rfl⟩

theorem IsSecured.usesOrRefuses (secured : IsSecured config options)
    (complete : IsComplete options.tls) (files : FileReader) :
    UsesOrRefuses files config.options options := by
  constructor
  · intro unreadable
    cases made : options.toConnect files with
    | error error =>
      obtain ⟨text, rfl⟩ := onlyConfiguration_toConnect options files error made
      exact ⟨text, rfl⟩
    | ok connect =>
      obtain ⟨transport, carried, -⟩ := toConnect_eq_ok_iff.mp made
      exact absurd ((secured.exists_carrier_iff complete).mp ⟨transport, carried⟩) unreadable
  · intro readable
    obtain ⟨transport, carried⟩ := (secured.exists_carrier_iff complete).mpr readable
    have made := toConnect_eq_ok_iff.mpr ⟨transport, carried, rfl⟩
    exact ⟨_, made, secured.ne_tcp_iff made, secured.uses complete carried⟩

/-- A connection that drops the certificate is neither use nor refusal. -/
theorem IsSecured.not_usesOrRefuses (secured : IsSecured config options)
    (incomplete : ¬ IsComplete options.tls) (files : FileReader) :
    ¬ UsesOrRefuses files config.options options := by
  intro kept
  have dropped := secured.toConnect_of_incomplete incomplete files
  by_cases readable : Readable files config.options
  · obtain ⟨connect, made, -, uses⟩ := kept.used readable
    obtain ⟨none, -⟩ | ⟨certPath, keyPath, certFile, keyFile⟩ := both_of_isSome_eq secured.together
    · exact incomplete fun named => absurd none named
    · obtain ⟨cert, key, -, -, presented⟩ := uses.client certPath keyPath
        (secured.certFile.symm.trans certFile) (secured.keyFile.symm.trans keyFile)
      obtain rfl := Except.ok.inj (dropped.symm.trans made)
      cases presented
  · obtain ⟨text, refused⟩ := kept.refused readable
    rw [dropped] at refused
    cases refused

/-- **Configured files are used or refused exactly if a client's certificate comes with certificates
to trust.** If it comes without, there is a connection that trusts the certificates of the machine
and presents none, whether the configured files can be read or not. All failures are errors of the
configuration, and a connection goes through TLS exactly where the settings say so. -/
theorem credentials_kept_iff (accepted : ofConfig freshId config = .ok options)
    (files : FileReader) :
    (UsesOrRefuses files config.options options ↔
        (get? config.options "CertFile" ≠ none → get? config.options "CaFile" ≠ none)) ∧
      (get? config.options "CertFile" ≠ none → get? config.options "CaFile" = none →
        ∃ connect, options.toConnect files = .ok connect ∧ connect.transport = .systemTls) ∧
      OnlyConfiguration (options.toConnect files) ∧
      ∀ connect, options.toConnect files = .ok connect →
        (connect.transport ≠ .tcp ↔ options.useTls = true) := by
  have secured := isSecured_of_ofConfig accepted
  rw [← secured.caFile, ← secured.certFile]
  refine ⟨⟨fun kept => ?_, fun complete => secured.usesOrRefuses complete files⟩,
    fun cert noCa => ?_, onlyConfiguration_toConnect options files,
    fun _ made => secured.ne_tcp_iff made⟩
  · by_contra incomplete
    exact secured.not_usesOrRefuses incomplete files kept
  · exact ⟨_, secured.toConnect_of_incomplete (fun complete => complete cert noCa) files, rfl⟩

/-- A client's certificate with its key, and further options. -/
def certified (others : OptionMap) : BusConfig :=
  { broker := { protocol := "tcp", host := "h", port := 1883 }
    busType := typeMqtt
    options := ("ClientId", "c") :: ("CertFile", "c.pem") :: ("KeyFile", "k.pem") :: others }

/-- What a machine says of a file that it does not have. -/
def missing : Except String (List UInt8) := .error "No such file or directory (os error 2)"

/-- Three files; the last one may be absent. -/
def threeFiles (key : Except String (List UInt8)) : FileReader
  | "ca.pem" => .ok [1]
  | "c.pem" => .ok [2]
  | "k.pem" => key
  | _ => missing

theorem readable_certified (others : OptionMap)
    (ca : ∀ path, get? (certified others).options "CaFile" = some path → path = "ca.pem") :
    Readable (threeFiles (.ok [3])) (certified others).options := by
  simp only [Readable, fileKeys, List.forall_mem_cons]
  refine ⟨fun path named => ca path named ▸ ⟨_, rfl⟩, ?_, ?_, nofun⟩
  all_goals rintro _ ⟨⟩; exact ⟨_, rfl⟩

/-- With certificates to trust, a client's certificate is presented, and a missing key is refused. -/
theorem credentials_kept_iff_mutual :
    ∃ options, ofConfig "1" (certified [("CaFile", "ca.pem")]) = .ok options ∧
      (∃ connect, options.toConnect (threeFiles (.ok [3])) = .ok connect ∧
        connect.transport.trusted? = some [1] ∧ connect.transport.client? = some ([2], [3])) ∧
      ∃ text, options.toConnect (threeFiles missing) = .error (.configuration text) := by
  have accepted : ∃ options, ofConfig "1" (certified [("CaFile", "ca.pem")]) = .ok options :=
    ⟨_, rfl⟩
  obtain ⟨options, accepted⟩ := accepted
  refine ⟨options, accepted, ?_, ?_⟩
  · obtain ⟨kept, -⟩ := credentials_kept_iff accepted (threeFiles (.ok [3]))
    have readable := readable_certified [("CaFile", "ca.pem")] fun _ named => by cases named; rfl
    obtain ⟨connect, made, -, uses⟩ := (kept.mpr fun _ => nofun).used readable
    obtain ⟨_, ⟨⟩, trusted⟩ := uses.trusted "ca.pem" rfl
    obtain ⟨_, _, ⟨⟩, ⟨⟩, client⟩ := uses.client "c.pem" "k.pem" rfl rfl
    exact ⟨connect, made, trusted, client⟩
  · obtain ⟨kept, -⟩ := credentials_kept_iff accepted (threeFiles missing)
    refine (kept.mpr fun _ => nofun).refused fun readable => ?_
    obtain ⟨_, ⟨⟩⟩ := readable "KeyFile" (by decide) "k.pem" rfl

/-- A client's certificate that comes without certificates to trust is dropped: its key is missing,
and there is a connection nonetheless; both are there, and the connection presents nothing. -/
theorem credentials_dropped :
    ∃ options, ofConfig "1" (certified []) = .ok options ∧ options.useTls = true ∧
      ¬ Readable (threeFiles missing) (certified []).options ∧
      ¬ UsesOrRefuses (threeFiles missing) (certified []).options options ∧
      (options.toConnect (threeFiles missing)).map (·.transport) = .ok .systemTls ∧
      Readable (threeFiles (.ok [3])) (certified []).options ∧
      ¬ UsesOrRefuses (threeFiles (.ok [3])) (certified []).options options ∧
      (options.toConnect (threeFiles (.ok [3]))).map (·.transport.client?) = .ok none := by
  have accepted : ∃ options, ofConfig "1" (certified []) = .ok options ∧ options.useTls = true :=
    ⟨_, rfl, rfl⟩
  obtain ⟨options, accepted, useTls⟩ := accepted
  have secured := isSecured_of_ofConfig accepted
  have incomplete : ¬ IsComplete options.tls := by
    rw [IsComplete, secured.caFile, secured.certFile]
    exact fun complete => complete nofun rfl
  have dropped := secured.toConnect_of_incomplete incomplete
  have readable := readable_certified [] nofun
  refine ⟨options, accepted, useTls, fun found => ?_, secured.not_usesOrRefuses incomplete _, ?_,
    readable, secured.not_usesOrRefuses incomplete _, ?_⟩
  · obtain ⟨_, ⟨⟩⟩ := found "KeyFile" (by decide) "k.pem" rfl
  · rw [dropped]; rfl
  · rw [dropped]; rfl

end Options
end Mqtt
end MessageBus

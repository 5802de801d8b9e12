/-
**The settings of a NATS client.**

* `Nats.Options.Acceptable` — the configurations that name a NATS broker and whose options are in
  their grammars and ranges.
* `Nats.Options.Reflects` — the settings that a configuration stands for.
* `Nats.Options.ofConfig_eq_ok_iff` — **settings are read from a configuration exactly if it is
  acceptable and they are those that it stands for**; `exists_ofConfig_iff` — so it is accepted
  exactly if it is acceptable.
* `Nats.Options.exactly_validated` — the same with all failures, the name of the client, and entries
  under other keys.
-/

import MessageBus.Nats.Options
import MessageBus.Proofs.Config.Acceptance
import MessageBus.Proofs.Text.Lowercase

namespace MessageBus.Nats

open MessageBus.Options MessageBus.Text

/-! ### Names of formats and policies -/

/-- The names of a wire format. -/
def WireFormat.names : WireFormat → List String
  | .native => ["nats", "native"]
  | .json => ["json"]

theorem WireFormat.parse_eq_ok_iff {value : String} {format : WireFormat}
    (trimmed : trim value = value) (filled : value ≠ "") :
    WireFormat.parse value = .ok format ↔ lowercase value ∈ format.names := by
  have named : lowercase value ≠ "" := mt lowercase_eq_empty_iff.mp filled
  have apart : ∀ name ∈ WireFormat.native.names, name ∉ WireFormat.json.names := by decide
  unfold WireFormat.parse
  rw [trimmed]
  dsimp only
  by_cases native : lowercase value ∈ WireFormat.native.names
  · rw [if_pos (show _ ∈ ["", "nats", "native"] from List.mem_cons_of_mem _ native)]
    cases format with
    | native => exact iff_of_true rfl native
    | json => exact iff_of_false nofun (apart _ native)
  rw [if_neg (show _ ∉ ["", "nats", "native"] from
    List.not_mem_cons_of_ne_of_not_mem named native)]
  by_cases json : lowercase value = "json"
  · rw [if_pos json]
    cases format with
    | native => exact iff_of_false nofun native
    | json => exact iff_of_true rfl (List.mem_singleton.mpr json)
  · rw [if_neg json]
    cases format with
    | native => exact iff_of_false nofun native
    | json => exact iff_of_false nofun fun same => json (List.mem_singleton.mp same)

theorem WireFormat.onlyConfiguration_parse (s : String) :
    OnlyConfiguration (WireFormat.parse s) := by
  unfold WireFormat.parse
  exact .ite (onlyConfiguration_ok _) <| .ite (onlyConfiguration_ok _) (onlyConfiguration_error _)

theorem DeliverPolicy.parse_eq_ok_iff {value : String} {policy : DeliverPolicy}
    (trimmed : trim value = value) (filled : value ≠ "") :
    DeliverPolicy.parse value = .ok policy ↔ lowercase value = policy.name := by
  have named : lowercase value ≠ "" := mt lowercase_eq_empty_iff.mp filled
  unfold DeliverPolicy.parse
  rw [trimmed]
  dsimp only
  by_cases new : lowercase value = "new"
  · rw [if_pos (List.mem_cons_of_mem _ (List.mem_singleton.mpr new)), new]
    cases policy <;> simp [DeliverPolicy.name]
  rw [if_neg (List.not_mem_cons_of_ne_of_not_mem named (mt List.mem_singleton.mp new))]
  by_cases all : lowercase value = "all"
  · rw [if_pos all, all]
    cases policy <;> simp [DeliverPolicy.name]
  rw [if_neg all]
  by_cases last : lowercase value = "last"
  · rw [if_pos last, last]
    cases policy <;> simp [DeliverPolicy.name]
  rw [if_neg last]
  by_cases lastPerSubject : lowercase value = "lastpersubject"
  · rw [if_pos lastPerSubject, lastPerSubject]
    cases policy <;> simp [DeliverPolicy.name]
  · rw [if_neg lastPerSubject]
    cases policy <;> simp [DeliverPolicy.name, new, all, last, lastPerSubject]

theorem DeliverPolicy.onlyConfiguration_parse (s : String) :
    OnlyConfiguration (DeliverPolicy.parse s) := by
  unfold DeliverPolicy.parse
  exact .ite (onlyConfiguration_ok _) <| .ite (onlyConfiguration_ok _) <|
    .ite (onlyConfiguration_ok _) <| .ite (onlyConfiguration_ok _) (onlyConfiguration_error _)

namespace Options

variable {freshId : String} {config : BusConfig} {options : Options} {map : OptionMap}

/-! ### Rules -/

/-- The wire format: one of its names, in any case. -/
def formatRule : OptionRule WireFormat :=
  { key := "Format", default := .native
    Denotes := fun value format => lowercase value ∈ format.names }

/-- The deliver policy: its name, in any case. -/
def deliverRule : OptionRule DeliverPolicy :=
  { key := "Deliver", default := .new
    Denotes := fun value policy => lowercase value = policy.name }

/-- The retries of a publish: a word of 32 bits. -/
def retriesRule : OptionRule Nat :=
  numberRule "DefaultPubRetryAttempts" 2 0 (UInt32.size - 1)

/-- The keys that the backend recognises. -/
def keys : List String :=
  ["ClientId", "Format", "ConnectTimeout", "RetryOnFailedConnect", "QueueGroup", "Durable",
    "Subject", "AutoProvision", "Deliver", "DefaultPubRetryAttempts", "ExactlyOnce", "Username",
    "Password", "NKeySeedFile", "CredentialsFile", "SkipCertVerify", "CaFile", "CertFile",
    "KeyFile"]

/-- The URL of the broker: the protocol without blanks and in lower case, where none and `tcp` stand
for `nats`. -/
def configUrl (config : BusConfig) : String :=
  config.broker.urlWith (urlProtocol config.broker.protocol)

/-- A configuration that is accepted: it names a broker, by a URL with a host, and all options that
are given are in their grammars and ranges. -/
structure Acceptable (config : BusConfig) : Prop where
  addressed : config.IsAddressed
  url : ∃ host, Url.host (configUrl config) = .ok (some host) ∧ host ≠ ""
  format : formatRule.Admits config.options
  connectTimeout : (durationRule "ConnectTimeout" (.seconds 5)).Admits config.options
  retryOnFailedConnect : (flagRule "RetryOnFailedConnect" false).Admits config.options
  autoProvision : (flagRule "AutoProvision" false).Admits config.options
  deliver : deliverRule.Admits config.options
  publishRetries : retriesRule.Admits config.options
  exactlyOnce : (flagRule "ExactlyOnce" false).Admits config.options
  tls : TlsOptions.Acceptable config.options

/-- The settings that a configuration stands for. -/
structure Reflects (freshId : String) (config : BusConfig) (options : Options) : Prop where
  brokerUrl : options.brokerUrl = configUrl config
  clientId : (textRule "ClientId" ("cim-" ++ freshId)).Sets config.options options.clientId
  format : formatRule.Sets config.options options.format
  connectTimeout : (durationRule "ConnectTimeout" (.seconds 5)).Sets config.options
    options.connectTimeout
  retryOnFailedConnect : (flagRule "RetryOnFailedConnect" false).Sets config.options
    options.retryOnFailedConnect
  queueGroup : (textRule "QueueGroup" "").Sets config.options options.queueGroup
  durable : (optionalRule "Durable").Sets config.options options.durable
  subject : (textRule "Subject" "cim/#").Sets config.options options.subject
  autoProvision : (flagRule "AutoProvision" false).Sets config.options options.autoProvision
  deliver : deliverRule.Sets config.options options.deliver
  publishRetries : retriesRule.Sets config.options options.publishRetries
  exactlyOnce : (flagRule "ExactlyOnce" false).Sets config.options options.exactlyOnce
  username : (optionalRule "Username").Sets config.options options.username
  password : (optionalRule "Password").Sets config.options options.password
  nkeySeedFile : (optionalRule "NKeySeedFile").Sets config.options options.nkeySeedFile
  credentialsFile : (optionalRule "CredentialsFile").Sets config.options options.credentialsFile
  tls : TlsOptions.Reflects config.options options.tls

/-! ### Single steps -/

theorem checkUrl_eq_ok_iff {url : String} :
    checkUrl url = .ok () ↔ ∃ host, Url.host url = .ok (some host) ∧ host ≠ "" := by
  unfold checkUrl
  cases Url.host url with
  | error fault => simp
  | ok found => cases found with
    | none => simp
    | some name => by_cases empty : name = "" <;> simp [empty]

theorem onlyConfiguration_checkUrl (url : String) : OnlyConfiguration (checkUrl url) := by
  unfold checkUrl
  cases Url.host url with
  | error fault => exact onlyConfiguration_error _
  | ok found => cases found with
    | none => exact onlyConfiguration_error _
    | some name => exact .ite (onlyConfiguration_error _) (onlyConfiguration_ok _)

theorem retries_eq_ok_iff (distinct : DistinctKeys map) {n : Nat} :
    MessageBus.Options.natural (UInt32.size - 1) map "DefaultPubRetryAttempts" 2 = .ok n ↔
      retriesRule.Sets map n :=
  numberRule_sets_iff distinct

theorem format_eq_ok_iff (distinct : DistinctKeys map) {format : WireFormat} :
    WireFormat.parse (text map "Format" "") = .ok format ↔ formatRule.Sets map format := by
  rw [← @OptionRule.exists_sets_and_iff _ _ _ (textRule "Format" "") formatRule format
    (fun value format => WireFormat.parse value = .ok format) distinct rfl]
  · simp only [← textRule_sets_iff distinct, exists_eq_left']
  · intro value trimmed filled
    show lowercase value ∈ format.names ↔ ∃ text, text = value ∧ _
    rw [exists_eq_left, WireFormat.parse_eq_ok_iff trimmed filled]
  · show format = .native ↔ WireFormat.parse "" = .ok format
    rw [show WireFormat.parse "" = .ok .native from rfl, Except.ok.injEq]
    exact eq_comm

theorem deliver_eq_ok_iff (distinct : DistinctKeys map) {policy : DeliverPolicy} :
    DeliverPolicy.parse (text map "Deliver" "") = .ok policy ↔ deliverRule.Sets map policy := by
  rw [← @OptionRule.exists_sets_and_iff _ _ _ (textRule "Deliver" "") deliverRule policy
    (fun value policy => DeliverPolicy.parse value = .ok policy) distinct rfl]
  · simp only [← textRule_sets_iff distinct, exists_eq_left']
  · intro value trimmed filled
    show lowercase value = policy.name ↔ ∃ text, text = value ∧ _
    rw [exists_eq_left, DeliverPolicy.parse_eq_ok_iff trimmed filled]
  · show policy = .new ↔ DeliverPolicy.parse "" = .ok policy
    rw [show DeliverPolicy.parse "" = .ok .new from rfl, Except.ok.injEq]
    exact eq_comm

/-! ### The whole configuration -/

/-- **Settings are read from a configuration exactly if it is acceptable and they are those that it
stands for.** -/
theorem ofConfig_eq_ok_iff (distinct : DistinctKeys config.options) :
    ofConfig freshId config = .ok options ↔
      Acceptable config ∧ Reflects freshId config options := by
  unfold ofConfig
  simp only [bind_eq_ok_iff, pure_eq_ok_iff, format_eq_ok_iff distinct,
    deliver_eq_ok_iff distinct, retries_eq_ok_iff distinct, flagRule_sets_iff distinct,
    durationRule_sets_iff distinct, TlsOptions.ofOptions_eq_ok_iff distinct]
  constructor
  · rintro ⟨⟨⟩, valid, ⟨⟩, url, format, formatSets, connectTimeout, connectTimeoutSets,
      retryOnFailedConnect, retryOnFailedConnectSets, autoProvision, autoProvisionSets, deliver,
      deliverSets, publishRetries, publishRetriesSets, exactlyOnce, exactlyOnceSets, tls,
      ⟨tlsAcceptable, tlsReflects⟩, rfl⟩
    constructor
    · exact
        { addressed := BusConfig.validate_eq_ok_iff.mp valid
          url := checkUrl_eq_ok_iff.mp url
          format := formatSets.admits distinct
          connectTimeout := connectTimeoutSets.admits distinct
          retryOnFailedConnect := retryOnFailedConnectSets.admits distinct
          autoProvision := autoProvisionSets.admits distinct
          deliver := deliverSets.admits distinct
          publishRetries := publishRetriesSets.admits distinct
          exactlyOnce := exactlyOnceSets.admits distinct
          tls := tlsAcceptable }
    · exact
        { brokerUrl := rfl
          clientId := (textRule_sets_iff distinct).mp rfl
          format := formatSets
          connectTimeout := connectTimeoutSets
          retryOnFailedConnect := retryOnFailedConnectSets
          queueGroup := (textRule_sets_iff distinct).mp rfl
          durable := (optionalRule_sets_iff distinct).mp rfl
          subject := (textRule_sets_iff distinct).mp rfl
          autoProvision := autoProvisionSets
          deliver := deliverSets
          publishRetries := publishRetriesSets
          exactlyOnce := exactlyOnceSets
          username := (optionalRule_sets_iff distinct).mp rfl
          password := (optionalRule_sets_iff distinct).mp rfl
          nkeySeedFile := (optionalRule_sets_iff distinct).mp rfl
          credentialsFile := (optionalRule_sets_iff distinct).mp rfl
          tls := tlsReflects }
  · rintro ⟨acceptable, reflects⟩
    refine ⟨(), BusConfig.validate_eq_ok_iff.mpr acceptable.addressed, (),
      checkUrl_eq_ok_iff.mpr acceptable.url, _, reflects.format, _, reflects.connectTimeout, _,
      reflects.retryOnFailedConnect, _, reflects.autoProvision, _, reflects.deliver, _,
      reflects.publishRetries, _, reflects.exactlyOnce, _, ⟨acceptable.tls, reflects.tls⟩, ?_⟩
    rw [(textRule_sets_iff distinct).mpr reflects.clientId,
      (textRule_sets_iff distinct).mpr reflects.queueGroup,
      (textRule_sets_iff distinct).mpr reflects.subject,
      (optionalRule_sets_iff distinct).mpr reflects.durable,
      (optionalRule_sets_iff distinct).mpr reflects.username,
      (optionalRule_sets_iff distinct).mpr reflects.password,
      (optionalRule_sets_iff distinct).mpr reflects.nkeySeedFile,
      (optionalRule_sets_iff distinct).mpr reflects.credentialsFile,
      show config.broker.urlWith (urlProtocol config.broker.protocol) = options.brokerUrl from
        reflects.brokerUrl.symm]

/-- An acceptable configuration stands for settings. -/
theorem Acceptable.exists_reflects (acceptable : Acceptable config)
    (distinct : DistinctKeys config.options) (freshId : String) :
    ∃ options, Reflects freshId config options := by
  obtain ⟨format, formatSets⟩ := acceptable.format.exists_sets distinct
  obtain ⟨connectTimeout, connectTimeoutSets⟩ := acceptable.connectTimeout.exists_sets distinct
  obtain ⟨retryOnFailedConnect, retryOnFailedConnectSets⟩ :=
    acceptable.retryOnFailedConnect.exists_sets distinct
  obtain ⟨autoProvision, autoProvisionSets⟩ := acceptable.autoProvision.exists_sets distinct
  obtain ⟨deliver, deliverSets⟩ := acceptable.deliver.exists_sets distinct
  obtain ⟨publishRetries, publishRetriesSets⟩ := acceptable.publishRetries.exists_sets distinct
  obtain ⟨exactlyOnce, exactlyOnceSets⟩ := acceptable.exactlyOnce.exists_sets distinct
  obtain ⟨tls, tlsReflects⟩ := acceptable.tls.exists_reflects distinct
  refine ⟨
    { format, connectTimeout, retryOnFailedConnect, autoProvision, deliver, publishRetries
      exactlyOnce, tls
      brokerUrl := configUrl config
      clientId := text config.options "ClientId" ("cim-" ++ freshId)
      queueGroup := text config.options "QueueGroup" ""
      durable := get? config.options "Durable"
      subject := text config.options "Subject" "cim/#"
      username := get? config.options "Username"
      password := get? config.options "Password"
      nkeySeedFile := get? config.options "NKeySeedFile"
      credentialsFile := get? config.options "CredentialsFile" }, ?_⟩
  exact
    { brokerUrl := rfl
      clientId := (textRule_sets_iff distinct).mp rfl
      format := formatSets
      connectTimeout := connectTimeoutSets
      retryOnFailedConnect := retryOnFailedConnectSets
      queueGroup := (textRule_sets_iff distinct).mp rfl
      durable := (optionalRule_sets_iff distinct).mp rfl
      subject := (textRule_sets_iff distinct).mp rfl
      autoProvision := autoProvisionSets
      deliver := deliverSets
      publishRetries := publishRetriesSets
      exactlyOnce := exactlyOnceSets
      username := (optionalRule_sets_iff distinct).mp rfl
      password := (optionalRule_sets_iff distinct).mp rfl
      nkeySeedFile := (optionalRule_sets_iff distinct).mp rfl
      credentialsFile := (optionalRule_sets_iff distinct).mp rfl
      tls := tlsReflects }

/-- **A configuration is accepted exactly if it is acceptable.** -/
theorem exists_ofConfig_iff (distinct : DistinctKeys config.options) (freshId : String) :
    (∃ options, ofConfig freshId config = .ok options) ↔ Acceptable config := by
  simp only [ofConfig_eq_ok_iff distinct, exists_and_left]
  exact and_iff_left_of_imp fun acceptable => acceptable.exists_reflects distinct freshId

theorem onlyConfiguration_ofConfig (freshId : String) (config : BusConfig) :
    OnlyConfiguration (ofConfig freshId config) := by
  refine .bind config.onlyConfiguration_validate fun _ => ?_
  refine .bind (onlyConfiguration_checkUrl _) fun _ => ?_
  refine .bind (WireFormat.onlyConfiguration_parse _) fun _ => ?_
  refine .bind (onlyConfiguration_parsed _ _ _ _) fun _ => ?_
  refine .bind (onlyConfiguration_parsed _ _ _ _) fun _ => ?_
  refine .bind (onlyConfiguration_parsed _ _ _ _) fun _ => ?_
  refine .bind (DeliverPolicy.onlyConfiguration_parse _) fun _ => ?_
  refine .bind (onlyConfiguration_parsed _ _ _ _) fun _ => ?_
  refine .bind (onlyConfiguration_parsed _ _ _ _) fun _ => ?_
  refine .bind (TlsOptions.onlyConfiguration_ofOptions _) fun _ => ?_
  exact onlyConfiguration_ok _

/-- Maps that answer alike under the recognised keys give the same settings. -/
theorem ofConfig_congr {others : OptionMap}
    (same : ∀ key ∈ keys, get? others key = get? config.options key) :
    ofConfig freshId { config with options := others } = ofConfig freshId config := by
  simp only [keys, List.forall_mem_cons] at same
  simp only [ofConfig, TlsOptions.ofOptions, flag, MessageBus.Options.natural, duration, parsed,
    text, same]
  rfl

theorem clientId_ne_empty (accepted : ofConfig freshId config = .ok options) :
    options.clientId ≠ "" := by
  unfold ofConfig at accepted
  simp only [bind_eq_ok_iff, pure_eq_ok_iff] at accepted
  obtain ⟨_, -, _, -, _, -, _, -, _, -, _, -, _, -, _, -, _, -, _, -, rfl⟩ := accepted
  exact text_ne_empty (by simp)

/-- **Settings are read exactly from a configuration.** -/
theorem exactly_validated (freshId : String) (distinct : DistinctKeys config.options) :
    ExactlyValidated (ofConfig freshId) config (Acceptable config) (Reflects freshId config)
      (·.clientId) keys where
  accepted_iff := exists_ofConfig_iff distinct freshId
  settings _ accepted := ((ofConfig_eq_ok_iff distinct).mp accepted).2
  failures := onlyConfiguration_ofConfig freshId config
  named _ := clientId_ne_empty
  recognised _ same := ofConfig_congr fun _ listed => get?_of_recognised distinct same listed

end Options

end MessageBus.Nats

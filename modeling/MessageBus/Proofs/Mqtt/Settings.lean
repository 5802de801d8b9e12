/-
**The settings of an MQTT client.**

* `Mqtt.Options.Acceptable` — the configurations that name an MQTT broker and whose options are in
  their grammars and ranges.
* `Mqtt.Options.Reflects` — the settings that a configuration stands for.
* `Mqtt.Options.ofConfig_eq_ok_iff` — **settings are read from a configuration exactly if it is
  acceptable and they are those that it stands for**; `exists_ofConfig_iff` — so it is accepted
  exactly if it is acceptable.
* `Mqtt.Options.takenFrom_of_ofConfig` — what settings take from a configuration where several
  entries may fit one key.
* `Mqtt.Options.exactly_validated` — the same with all failures, the name of the client, and entries
  under other keys.
-/

import MessageBus.Mqtt.Options
import MessageBus.Proofs.Config.Acceptance

namespace MessageBus.Mqtt

open MessageBus.Options MessageBus.Text

/-- A level stands for the quality of service that has it. -/
theorem Qos.ofLevel?_eq_some_iff {n : Nat} {qos : Qos} :
    Qos.ofLevel? n = some qos ↔ n = qos.level := by
  unfold Qos.ofLevel?
  split <;> cases qos <;> simp_all [Qos.level]

namespace Options

variable {freshId : String} {config : BusConfig} {options : Options} {map : OptionMap}

/-! ### Rules -/

/-- The quality of service: a number from 0 to 2. -/
def qosRule : OptionRule Qos :=
  { key := "Qos", default := .atMostOnce
    Denotes := fun value qos => IsNumeral value.toList qos.level }

/-- The keep-alive: at least five seconds, in a word of 64 bits. -/
def keepAliveRule : OptionRule Duration :=
  { key := "KeepAlive", default := .seconds 60
    Denotes := fun value keepAlive =>
      ∃ n, IsNumeral value.toList n ∧ 5 ≤ n ∧ n < UInt64.size ∧ keepAlive = .seconds n }

/-- The capacity: at least one, in a word of 64 bits. -/
def capacityRule : OptionRule Nat :=
  numberRule "CapacityHint" 16 1 (UInt64.size - 1)

/-- The protocols with TLS. -/
def secureProtocols : List String := ["ssl", "tls", "mqtts"]

/-- The protocols without TLS; none at all is one of them. -/
def openProtocols : List String := ["", "tcp", "mqtt"]

/-- The keys that the backend recognises. -/
def keys : List String :=
  ["ClientId", "Username", "Password", "Qos", "KeepAlive", "Retained", "AutoReconnect",
    "CleanSession", "ConnectTimeout", "CapacityHint", "SkipCertVerify", "CaFile", "CertFile",
    "KeyFile"]

/-- A configuration that is accepted: it names a broker, by a protocol of MQTT and a URL with a
host, and all options that are given are in their grammars and ranges. -/
structure Acceptable (config : BusConfig) : Prop where
  addressed : config.IsAddressed
  protocol : lowercase (trim config.broker.protocol) ∈ openProtocols ++ secureProtocols
  url : ∃ host, Url.host config.broker.url = .ok (some host) ∧ host ≠ ""
  qos : qosRule.Admits config.options
  keepAlive : keepAliveRule.Admits config.options
  capacityHint : capacityRule.Admits config.options
  retained : (flagRule "Retained" false).Admits config.options
  autoReconnect : (flagRule "AutoReconnect" false).Admits config.options
  cleanSession : (flagRule "CleanSession" true).Admits config.options
  connectTimeout : (durationRule "ConnectTimeout" (.seconds 5)).Admits config.options
  tls : TlsOptions.Acceptable config.options

/-- The settings that a configuration stands for. -/
structure Reflects (freshId : String) (config : BusConfig) (options : Options) : Prop where
  host : Url.host config.broker.url = .ok (some options.host)
  port : options.port = config.broker.port
  useTls : options.useTls = true ↔
    lowercase (trim config.broker.protocol) ∈ secureProtocols ∨
      (∃ file, Given config.options "CaFile" file) ∨ ∃ file, Given config.options "CertFile" file
  clientId : (textRule "ClientId" ("cim-" ++ freshId)).Sets config.options options.clientId
  username : (optionalRule "Username").Sets config.options options.username
  password : (optionalRule "Password").Sets config.options options.password
  qos : qosRule.Sets config.options options.qos
  keepAlive : keepAliveRule.Sets config.options options.keepAlive
  capacityHint : capacityRule.Sets config.options options.capacityHint
  retained : (flagRule "Retained" false).Sets config.options options.retained
  autoReconnect : (flagRule "AutoReconnect" false).Sets config.options options.autoReconnect
  cleanSession : (flagRule "CleanSession" true).Sets config.options options.cleanSession
  connectTimeout : (durationRule "ConnectTimeout" (.seconds 5)).Sets config.options
    options.connectTimeout
  tls : TlsOptions.Reflects config.options options.tls

/-! ### Single steps -/

theorem protocolTls_eq (protocol : String) :
    protocolTls protocol =
      let name := lowercase (trim protocol)
      if name ∈ openProtocols then .ok false
      else if name ∈ secureProtocols then .ok true
      else .error (.configuration ("unsupported MQTT protocol '" ++ name ++ "'")) := rfl

theorem protocolTls_eq_ok_iff {protocol : String} {secure : Bool} :
    protocolTls protocol = .ok secure ↔
      lowercase (trim protocol) ∈ openProtocols ++ secureProtocols ∧
        (secure = true ↔ lowercase (trim protocol) ∈ secureProtocols) := by
  have apart : ∀ name ∈ openProtocols, name ∉ secureProtocols := by decide
  rw [protocolTls_eq, List.mem_append]
  dsimp only
  by_cases plain : lowercase (trim protocol) ∈ openProtocols
  · have insecure := apart _ plain
    rw [if_pos plain]
    cases secure <;> simp [plain, insecure]
  rw [if_neg plain]
  by_cases tls : lowercase (trim protocol) ∈ secureProtocols
  · rw [if_pos tls]
    cases secure <;> simp [tls]
  · rw [if_neg tls]
    simp [plain, tls]

theorem onlyConfiguration_protocolTls (protocol : String) :
    OnlyConfiguration (protocolTls protocol) := by
  rw [protocolTls_eq]
  exact .ite (onlyConfiguration_ok _) <| .ite (onlyConfiguration_ok _) (onlyConfiguration_error _)

theorem urlHost_eq_ok_iff {url host : String} :
    urlHost url = .ok host ↔ Url.host url = .ok (some host) ∧ host ≠ "" := by
  unfold urlHost
  cases Url.host url with
  | error fault => simp
  | ok found => cases found with
    | none => simp
    | some name =>
      by_cases empty : name = ""
      · subst empty
        simp
      · simp only [Except.ok.injEq, Option.some.injEq]
        rw [if_neg (by simpa using empty), Except.ok.injEq]
        exact ⟨fun same => ⟨same, same ▸ empty⟩, And.left⟩

theorem onlyConfiguration_urlHost (url : String) : OnlyConfiguration (urlHost url) := by
  unfold urlHost
  cases Url.host url with
  | error fault => exact onlyConfiguration_error _
  | ok found => cases found with
    | none => exact onlyConfiguration_error _
    | some name => exact .ite (onlyConfiguration_error _) (onlyConfiguration_ok _)

theorem qosOption_eq_ok_iff (distinct : DistinctKeys map) {qos : Qos} :
    qosOption map = .ok qos ↔ qosRule.Sets map qos := by
  unfold qosOption
  simp only [bind_eq_ok_iff, numberRule_sets_iff distinct]
  refine (exists_congr fun n => and_congr_right fun _ => ?_).trans
    (OptionRule.exists_sets_and_iff (fun n qos => n = qos.level) distinct rfl
      (fun value _ _ => ?_) ?_)
  · rw [← Qos.ofLevel?_eq_some_iff]
    cases Qos.ofLevel? n <;> simp [pure_eq_ok_iff]
  · have small : qos.level ≤ 255 := by cases qos <;> decide
    simp [qosRule, numberRule, small]
  · cases qos <;> simp [qosRule, numberRule, Qos.level]

theorem onlyConfiguration_qosOption (map : OptionMap) : OnlyConfiguration (qosOption map) := by
  refine .bind (onlyConfiguration_parsed _ _ _ _) fun level => ?_
  cases Qos.ofLevel? level with
  | none => exact onlyConfiguration_error _
  | some qos => exact onlyConfiguration_ok _

theorem keepAliveOption_takes_iff {keepAlive : Duration} :
    keepAliveOption map = .ok keepAlive ↔ keepAliveRule.Takes map keepAlive := by
  have least : minKeepAlive.wholeSeconds = 5 := rfl
  unfold keepAliveOption
  simp only [bind_eq_ok_iff, numberRule_takes_iff, least]
  have long : ∀ n, (if n < 5 then
        .error (.configuration ("KeepAlive must be at least " ++ toString 5 ++ " seconds"))
      else pure (.seconds n)) = (.ok keepAlive : BusResult Duration) ↔
        5 ≤ n ∧ keepAlive = .seconds n := by
    intro n
    by_cases short : n < 5
    · rw [if_pos short]
      exact iff_of_false nofun fun ⟨long, _⟩ => absurd short (Nat.not_lt.mpr long)
    · rw [if_neg short, pure_eq_ok_iff, eq_comm]
      exact (and_iff_right (Nat.le_of_not_lt short)).symm
  simp only [long]
  refine OptionRule.exists_takes_and_iff (fun n keepAlive => 5 ≤ n ∧ keepAlive = Duration.seconds n)
    rfl (fun value _ _ => ?_) ?_
  · have bound : ∀ n : Nat, n ≤ UInt64.size - 1 ↔ n < UInt64.size := fun n =>
      Nat.le_sub_one_iff_lt (by decide)
    simp only [keepAliveRule, numberRule, bound, Nat.zero_le, true_and, and_assoc]
    exact exists_congr fun n => and_congr_right fun _ => and_left_comm
  · simp [keepAliveRule, numberRule]

theorem keepAliveOption_eq_ok_iff (distinct : DistinctKeys map) {keepAlive : Duration} :
    keepAliveOption map = .ok keepAlive ↔ keepAliveRule.Sets map keepAlive :=
  keepAliveOption_takes_iff.trans (OptionRule.takes_iff_sets distinct)

theorem onlyConfiguration_keepAliveOption (map : OptionMap) :
    OnlyConfiguration (keepAliveOption map) :=
  .bind (onlyConfiguration_parsed _ _ _ _) fun _ =>
    .ite (onlyConfiguration_error _) (onlyConfiguration_ok _)

theorem capacityOption_eq_ok_iff (distinct : DistinctKeys map) {capacity : Nat} :
    capacityOption map = .ok capacity ↔ capacityRule.Sets map capacity := by
  unfold capacityOption
  simp only [bind_eq_ok_iff, numberRule_sets_iff distinct]
  have positive : ∀ n, (if n = 0 then .error (.configuration "CapacityHint must be positive")
      else pure n) = (.ok capacity : BusResult Nat) ↔ 1 ≤ n ∧ capacity = n := by
    intro n
    by_cases zero : n = 0
    · simp [zero]
    · rw [if_neg zero, pure_eq_ok_iff, eq_comm]
      exact (and_iff_right (Nat.pos_of_ne_zero zero)).symm
  simp only [positive]
  refine OptionRule.exists_sets_and_iff (fun n capacity => 1 ≤ n ∧ capacity = n) distinct rfl
    (fun value _ _ => ?_) ?_
  · simp only [capacityRule, numberRule, UInt64.size, Nat.zero_le, true_and]
    constructor
    · rintro ⟨numeral, least, most⟩
      exact ⟨capacity, ⟨numeral, most⟩, least, rfl⟩
    · rintro ⟨_, ⟨numeral, most⟩, least, rfl⟩
      exact ⟨numeral, least, most⟩
  · simp [capacityRule, numberRule]

theorem onlyConfiguration_capacityOption (map : OptionMap) :
    OnlyConfiguration (capacityOption map) :=
  .bind (onlyConfiguration_parsed _ _ _ _) fun _ =>
    .ite (onlyConfiguration_error _) (onlyConfiguration_ok _)

/-! ### The whole configuration -/

/-- TLS is asked for by the protocol, or by a file of certificates. -/
theorem useTls_iff (distinct : DistinctKeys config.options) {secure : Bool} {tls : TlsOptions}
    (asked : secure = true ↔ lowercase (trim config.broker.protocol) ∈ secureProtocols)
    (reflects : TlsOptions.Reflects config.options tls) :
    (secure || tls.isConfigured) = true ↔
      lowercase (trim config.broker.protocol) ∈ secureProtocols ∨
        (∃ file, Given config.options "CaFile" file) ∨
          ∃ file, Given config.options "CertFile" file := by
  rw [Bool.or_eq_true, TlsOptions.isConfigured, Bool.or_eq_true, asked,
    ← (optionalRule_sets_iff distinct).mpr reflects.caFile,
    ← (optionalRule_sets_iff distinct).mpr reflects.certFile,
    TlsOptions.isSome_get?_iff distinct, TlsOptions.isSome_get?_iff distinct]

/-- **Settings are read from a configuration exactly if it is acceptable and they are those that it
stands for.** -/
theorem ofConfig_eq_ok_iff (distinct : DistinctKeys config.options) :
    ofConfig freshId config = .ok options ↔
      Acceptable config ∧ Reflects freshId config options := by
  unfold ofConfig
  simp only [bind_eq_ok_iff, pure_eq_ok_iff, protocolTls_eq_ok_iff, urlHost_eq_ok_iff,
    qosOption_eq_ok_iff distinct, keepAliveOption_eq_ok_iff distinct,
    capacityOption_eq_ok_iff distinct, flagRule_sets_iff distinct, durationRule_sets_iff distinct,
    TlsOptions.ofOptions_eq_ok_iff distinct]
  constructor
  · rintro ⟨⟨⟩, valid, secure, ⟨protocol, asked⟩, host, ⟨url, named⟩, qos, qosSets, keepAlive,
      keepAliveSets, capacity, capacitySets, tls, ⟨tlsAcceptable, tlsReflects⟩, retained,
      retainedSets, autoReconnect, autoReconnectSets, cleanSession, cleanSessionSets,
      connectTimeout, connectTimeoutSets, rfl⟩
    constructor
    · exact
        { addressed := BusConfig.validate_eq_ok_iff.mp valid
          protocol := protocol
          url := ⟨host, url, named⟩
          qos := qosSets.admits distinct
          keepAlive := keepAliveSets.admits distinct
          capacityHint := capacitySets.admits distinct
          retained := retainedSets.admits distinct
          autoReconnect := autoReconnectSets.admits distinct
          cleanSession := cleanSessionSets.admits distinct
          connectTimeout := connectTimeoutSets.admits distinct
          tls := tlsAcceptable }
    · exact
        { host := url
          port := rfl
          useTls := useTls_iff distinct asked tlsReflects
          clientId := (textRule_sets_iff distinct).mp rfl
          username := (optionalRule_sets_iff distinct).mp rfl
          password := (optionalRule_sets_iff distinct).mp rfl
          qos := qosSets
          keepAlive := keepAliveSets
          capacityHint := capacitySets
          retained := retainedSets
          autoReconnect := autoReconnectSets
          cleanSession := cleanSessionSets
          connectTimeout := connectTimeoutSets
          tls := tlsReflects }
  · rintro ⟨acceptable, reflects⟩
    obtain ⟨host, url, named⟩ := acceptable.url
    obtain rfl : host = options.host :=
      Option.some.inj (Except.ok.inj (url.symm.trans reflects.host))
    have asked :=
      decide_eq_true_iff (p := lowercase (trim config.broker.protocol) ∈ secureProtocols)
    refine ⟨(), BusConfig.validate_eq_ok_iff.mpr acceptable.addressed, _,
      ⟨acceptable.protocol, asked⟩, _, ⟨url, named⟩, _, reflects.qos, _, reflects.keepAlive, _,
      reflects.capacityHint, _, ⟨acceptable.tls, reflects.tls⟩, _, reflects.retained, _,
      reflects.autoReconnect, _, reflects.cleanSession, _, reflects.connectTimeout, ?_⟩
    rw [(textRule_sets_iff distinct).mpr reflects.clientId,
      (optionalRule_sets_iff distinct).mpr reflects.username,
      (optionalRule_sets_iff distinct).mpr reflects.password, ← reflects.port,
      Bool.eq_iff_iff.mpr ((useTls_iff distinct asked reflects.tls).trans reflects.useTls.symm)]

/-- An acceptable configuration stands for settings. -/
theorem Acceptable.exists_reflects (acceptable : Acceptable config)
    (distinct : DistinctKeys config.options) (freshId : String) :
    ∃ options, Reflects freshId config options := by
  obtain ⟨host, url, -⟩ := acceptable.url
  obtain ⟨qos, qosSets⟩ := acceptable.qos.exists_sets distinct
  obtain ⟨keepAlive, keepAliveSets⟩ := acceptable.keepAlive.exists_sets distinct
  obtain ⟨capacityHint, capacitySets⟩ := acceptable.capacityHint.exists_sets distinct
  obtain ⟨retained, retainedSets⟩ := acceptable.retained.exists_sets distinct
  obtain ⟨autoReconnect, autoReconnectSets⟩ := acceptable.autoReconnect.exists_sets distinct
  obtain ⟨cleanSession, cleanSessionSets⟩ := acceptable.cleanSession.exists_sets distinct
  obtain ⟨connectTimeout, connectTimeoutSets⟩ := acceptable.connectTimeout.exists_sets distinct
  obtain ⟨tls, tlsReflects⟩ := acceptable.tls.exists_reflects distinct
  obtain ⟨secure, asked⟩ : ∃ secure : Bool,
      secure = true ↔ lowercase (trim config.broker.protocol) ∈ secureProtocols :=
    ⟨_, decide_eq_true_iff⟩
  have useTls := useTls_iff distinct asked tlsReflects
  refine ⟨
    { host, qos, keepAlive, capacityHint, tls, retained, autoReconnect, cleanSession, connectTimeout
      port := config.broker.port
      useTls := secure || tls.isConfigured
      clientId := text config.options "ClientId" ("cim-" ++ freshId)
      username := get? config.options "Username"
      password := get? config.options "Password" }, ?_⟩
  exact
    { host := url
      port := rfl
      useTls := useTls
      clientId := (textRule_sets_iff distinct).mp rfl
      username := (optionalRule_sets_iff distinct).mp rfl
      password := (optionalRule_sets_iff distinct).mp rfl
      qos := qosSets
      keepAlive := keepAliveSets
      capacityHint := capacitySets
      retained := retainedSets
      autoReconnect := autoReconnectSets
      cleanSession := cleanSessionSets
      connectTimeout := connectTimeoutSets
      tls := tlsReflects }

/-- **A configuration is accepted exactly if it is acceptable.** -/
theorem exists_ofConfig_iff (distinct : DistinctKeys config.options) (freshId : String) :
    (∃ options, ofConfig freshId config = .ok options) ↔ Acceptable config := by
  simp only [ofConfig_eq_ok_iff distinct, exists_and_left]
  exact and_iff_left_of_imp fun acceptable => acceptable.exists_reflects distinct freshId

theorem onlyConfiguration_ofConfig (freshId : String) (config : BusConfig) :
    OnlyConfiguration (ofConfig freshId config) := by
  refine .bind config.onlyConfiguration_validate fun _ => ?_
  refine .bind (onlyConfiguration_protocolTls _) fun _ => ?_
  refine .bind (onlyConfiguration_urlHost _) fun _ => ?_
  refine .bind (onlyConfiguration_qosOption _) fun _ => ?_
  refine .bind (onlyConfiguration_keepAliveOption _) fun _ => ?_
  refine .bind (onlyConfiguration_capacityOption _) fun _ => ?_
  refine .bind (TlsOptions.onlyConfiguration_ofOptions _) fun _ => ?_
  refine .bind (onlyConfiguration_parsed _ _ _ _) fun _ => ?_
  refine .bind (onlyConfiguration_parsed _ _ _ _) fun _ => ?_
  refine .bind (onlyConfiguration_parsed _ _ _ _) fun _ => ?_
  refine .bind (onlyConfiguration_parsed _ _ _ _) fun _ => ?_
  exact onlyConfiguration_ok _

/-- Maps that answer alike under the recognised keys give the same settings. -/
theorem ofConfig_congr {others : OptionMap}
    (same : ∀ key ∈ keys, get? others key = get? config.options key) :
    ofConfig freshId { config with options := others } = ofConfig freshId config := by
  simp only [keys, List.forall_mem_cons] at same
  simp only [ofConfig, qosOption, keepAliveOption, capacityOption, TlsOptions.ofOptions, flag,
    MessageBus.Options.natural, duration, parsed, text, same]
  rfl

/-- What the settings of an accepted configuration take from it, whichever entries answer. -/
structure TakenFrom (freshId : String) (config : BusConfig) (options : Options) : Prop where
  clientId : text config.options "ClientId" ("cim-" ++ freshId) = options.clientId
  username : get? config.options "Username" = options.username
  password : get? config.options "Password" = options.password
  keepAlive : keepAliveOption config.options = .ok options.keepAlive
  cleanSession : flag config.options "CleanSession" true = .ok options.cleanSession
  tls : TlsOptions.ofOptions config.options = .ok options.tls
  useTls : options.tls.isConfigured = true → options.useTls = true

theorem takenFrom_of_ofConfig (accepted : ofConfig freshId config = .ok options) :
    TakenFrom freshId config options := by
  unfold ofConfig at accepted
  simp only [bind_eq_ok_iff, pure_eq_ok_iff] at accepted
  obtain ⟨_, -, _, -, _, -, _, -, keepAlive, keepAliveRead, _, -, tls, tlsRead, _, -, _, -,
    cleanSession, cleanSessionRead, _, -, rfl⟩ := accepted
  exact ⟨rfl, rfl, rfl, keepAliveRead, cleanSessionRead, tlsRead,
    fun configured => by simp [configured]⟩

theorem clientId_ne_empty (accepted : ofConfig freshId config = .ok options) :
    options.clientId ≠ "" :=
  (takenFrom_of_ofConfig accepted).clientId ▸ text_ne_empty (by simp)

/-- **Settings are read exactly from a configuration.** -/
theorem exactly_validated (freshId : String) (distinct : DistinctKeys config.options) :
    ExactlyValidated (ofConfig freshId) config (Acceptable config) (Reflects freshId config)
      (·.clientId) keys where
  accepted_iff := exists_ofConfig_iff distinct freshId
  settings _ accepted := ((ofConfig_eq_ok_iff distinct).mp accepted).2
  failures := onlyConfiguration_ofConfig freshId config
  named _ := clientId_ne_empty
  recognised _ same := ofConfig_congr fun _ listed => get?_of_recognised distinct same listed

end Options

end MessageBus.Mqtt

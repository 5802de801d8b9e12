/-
**Defaults from variables.** The name of the backend is read twice: by the look-up of the variables,
which takes the broker's defaults from it, and by the factory, which chooses the constructor.

* `Text.eqIgnoringAsciiCase_mqtt_iff` — **the look-up sees MQTT exactly where the factory does and no
  blanks surround the name**.
* `defaultBroker`, `BusConfig.IsPlain` — where the broker of a backend is found by default, and the
  configurations whose name of MQTT, if that is what they select, has no blanks around it.
* `BusConfig.acceptable_mqtt`, `BusConfig.acceptable_nats`, `BusConfig.ofConfig_mqtt_of_nats` — each
  default serves its own backend, and that of NATS does not serve MQTT.
* `BusConfig.defaults_fit_iff` — **without further variables, the broker's defaults are those of the
  backend that is selected, and a client is created, exactly if the configuration is plain**;
  `defaults_misfit` — a name with blanks, which takes the defaults of NATS to MQTT.
-/

import MessageBus.Config.Environment
import MessageBus.Factory
import MessageBus.Proofs.Mqtt.Settings
import MessageBus.Proofs.Nats.Settings

namespace MessageBus

open Options (DistinctKeys OptionRule)

/-! ### Names of MQTT -/

/-- **A text is a name of MQTT up to the case of Latin letters exactly if its lower-case form is
`mqtt` and no blanks surround it.** -/
theorem Text.eqIgnoringAsciiCase_mqtt_iff {name : String} :
    Text.eqIgnoringAsciiCase name typeMqtt = true ↔
      Registry.normalize name = typeMqtt ∧ Text.trim name = name := by
  have plain : ['m', 'q', 't', 't'] ⊆ Text.plainLetters := by decide
  have lowers : Text.lowercase name = typeMqtt ↔
      name.toList.map Text.asciiLower = ['m', 'q', 't', 't'] := by
    rw [← Text.lowercaseChars_eq_iff plain, Text.lowercase, ← String.toList_inj,
      String.toList_ofList]
    rfl
  have same : Text.eqIgnoringAsciiCase name typeMqtt = true ↔
      name.toList.map Text.asciiLower = ['m', 'q', 't', 't'] :=
    Options.eqIgnoringAsciiCase_iff
  rw [same, Registry.normalize]
  constructor
  · intro letters
    have filled : ∀ c ∈ name.toList, Text.isBlank c = false := fun c member =>
      Text.isBlank_of_asciiLower (plain (letters ▸ List.mem_map_of_mem member))
    have bare : Text.trim name = name := by
      rw [Text.trim, Text.trimChars, Text.trimWhere_of_none filled, String.ofList_toList]
    exact ⟨bare.symm ▸ lowers.mpr letters, bare⟩
  · rintro ⟨normal, bare⟩
    exact lowers.mp (bare ▸ normal)

/-! ### Brokers by default -/

/-- Where the broker of a backend is found by default. -/
def defaultBroker (backend : String) : BrokerAddress :=
  if backend = typeMqtt then { protocol := "tcp", host := "localhost", port := 1883 }
  else { protocol := "nats", host := "localhost", port := 4222 }

/-- The variables of a configuration besides the name of the backend. -/
def brokerVariables : List String :=
  ["MESSAGEBUS_PROTOCOL", "MESSAGEBUS_HOST", "MESSAGEBUS_PORT", "MESSAGEBUS_OPTIONAL"]

/-- The backend that a client is for. -/
def Backend.typeName? : Backend → Option String
  | .mqtt _ => some typeMqtt
  | .nats .core _ => some typeNatsCore
  | .nats .jetStream _ => some typeNatsJetStream
  | .disabled => none

namespace BusConfig

variable {freshId : String} {lookup : String → Option String} {config : BusConfig}

/-- Without further variables, the configuration is that of the defaults, for MQTT where the name is
`mqtt` up to the case of Latin letters. -/
theorem ofLookup_of_unset (unset : ∀ name ∈ brokerVariables, lookup name = none) :
    let busType := (lookup "MESSAGEBUS_TYPE").getD typeNatsCore
    ofLookup lookup = .ok
      { broker := defaultBroker
          (if Text.eqIgnoringAsciiCase busType typeMqtt then typeMqtt else typeNatsCore)
        busType } := by
  simp only [brokerVariables, List.forall_mem_cons] at unset
  obtain ⟨protocol, host, port, optional, -⟩ := unset
  intro busType
  unfold ofLookup
  simp only [protocol, host, port, optional]
  cases Text.eqIgnoringAsciiCase busType typeMqtt <;> rfl

/-- A configuration whose name of MQTT, if that is what it selects, has no blanks around it. -/
def IsPlain (config : BusConfig) : Prop :=
  config.normalizedType = typeMqtt → Text.trim config.busType = config.busType

theorem isAddressed_default {backend : String} (broker : config.broker = defaultBroker backend)
    (named : Text.trim config.busType ≠ "") : config.IsAddressed := by
  have filled : Text.trim (defaultBroker backend).host ≠ "" ∧ (defaultBroker backend).port ≠ 0 := by
    unfold defaultBroker
    split <;> decide
  exact ⟨broker ▸ filled.1, broker ▸ filled.2, named⟩

/-- The default broker of MQTT serves MQTT. -/
theorem acceptable_mqtt (broker : config.broker = defaultBroker typeMqtt)
    (bare : config.options = []) (named : Text.trim config.busType ≠ "") :
    Mqtt.Options.Acceptable config := by
  have protocol : Text.lowercase (Text.trim (defaultBroker typeMqtt).protocol) ∈
      Mqtt.Options.openProtocols ++ Mqtt.Options.secureProtocols := by decide
  have host : Url.host (defaultBroker typeMqtt).url = .ok (some "localhost") := rfl
  have admits : ∀ {α : Type} {rule : OptionRule α}, rule.Admits config.options :=
    bare ▸ OptionRule.admits_nil
  exact
    { addressed := isAddressed_default broker named
      protocol := broker ▸ protocol
      url := ⟨"localhost", broker ▸ host, by decide⟩
      qos := admits
      keepAlive := admits
      capacityHint := admits
      retained := admits
      autoReconnect := admits
      cleanSession := admits
      connectTimeout := admits
      tls := bare ▸ TlsOptions.acceptable_nil }

/-- The default broker of NATS serves NATS. -/
theorem acceptable_nats (broker : config.broker = defaultBroker typeNatsCore)
    (bare : config.options = []) (named : Text.trim config.busType ≠ "") :
    Nats.Options.Acceptable config := by
  have host : Url.host ((defaultBroker typeNatsCore).urlWith
      (Nats.Options.urlProtocol (defaultBroker typeNatsCore).protocol)) =
        .ok (some "localhost") := rfl
  have admits : ∀ {α : Type} {rule : OptionRule α}, rule.Admits config.options :=
    bare ▸ OptionRule.admits_nil
  exact
    { addressed := isAddressed_default broker named
      url := ⟨"localhost", by rwa [Nats.Options.configUrl, broker], by decide⟩
      format := admits
      connectTimeout := admits
      retryOnFailedConnect := admits
      autoProvision := admits
      deliver := admits
      publishRetries := admits
      exactlyOnce := admits
      tls := bare ▸ TlsOptions.acceptable_nil }

/-- The default broker of NATS does not serve MQTT. -/
theorem ofConfig_mqtt_of_nats (broker : config.broker = defaultBroker typeNatsCore)
    (named : Text.trim config.busType ≠ "") :
    Mqtt.Options.ofConfig freshId config =
      .error (.configuration "unsupported MQTT protocol 'nats'") := by
  have refused : Mqtt.Options.protocolTls (defaultBroker typeNatsCore).protocol =
      .error (.configuration "unsupported MQTT protocol 'nats'") := rfl
  unfold Mqtt.Options.ofConfig
  rw [validate_eq_ok_iff.mpr (isAddressed_default broker named), broker, refused]
  rfl

/-- The constructor that the factory chooses. -/
theorem newMessageClient_of_known (known : config.normalizedType ∈ knownTypes)
    (addressed : config.IsAddressed) :
    newMessageClient freshId config =
      if config.normalizedType = typeMqtt then Backend.mqttConstructor freshId config
      else if config.normalizedType = typeNatsCore then
        Backend.natsConstructor .core freshId config
      else Backend.natsConstructor .jetStream freshId config := by
  unfold newMessageClient Factory.create Factory.build
  simp only [knownTypes, List.mem_cons, List.not_mem_nil, or_false] at known
  rw [if_pos rfl, validate_eq_ok_iff.mpr addressed]
  obtain name | name | name := known
  all_goals rw [name]; rfl

theorem creates_mqtt (selected : config.normalizedType = typeMqtt)
    (broker : config.broker = defaultBroker typeMqtt) (bare : config.options = [])
    (named : Text.trim config.busType ≠ "") :
    ∃ options, newMessageClient freshId config = .ok (.mqtt options) := by
  have distinct : DistinctKeys config.options := bare ▸ List.Pairwise.nil
  obtain ⟨options, accepted⟩ :=
    (Mqtt.Options.exists_ofConfig_iff distinct freshId).mpr (acceptable_mqtt broker bare named)
  have known : config.normalizedType ∈ knownTypes := selected ▸ by decide
  rw [newMessageClient_of_known known (isAddressed_default broker named), if_pos selected,
    Backend.mqttConstructor, accepted]
  exact ⟨options, rfl⟩

theorem refuses_mqtt (freshId : String) (selected : config.normalizedType = typeMqtt)
    (broker : config.broker = defaultBroker typeNatsCore) (named : Text.trim config.busType ≠ "") :
    newMessageClient freshId config =
      .error (.configuration "unsupported MQTT protocol 'nats'") := by
  have known : config.normalizedType ∈ knownTypes := selected ▸ by decide
  rw [newMessageClient_of_known known (isAddressed_default broker named), if_pos selected,
    Backend.mqttConstructor, ofConfig_mqtt_of_nats broker named]
  rfl

theorem creates_nats (known : config.normalizedType ∈ knownTypes)
    (other : config.normalizedType ≠ typeMqtt)
    (broker : config.broker = defaultBroker typeNatsCore) (bare : config.options = [])
    (named : Text.trim config.busType ≠ "") :
    ∃ client, newMessageClient freshId config = .ok client ∧
      client.typeName? = some config.normalizedType := by
  have distinct : DistinctKeys config.options := bare ▸ List.Pairwise.nil
  obtain ⟨options, accepted⟩ :=
    (Nats.Options.exists_ofConfig_iff distinct freshId).mpr (acceptable_nats broker bare named)
  rw [newMessageClient_of_known known (isAddressed_default broker named), if_neg other]
  by_cases core : config.normalizedType = typeNatsCore
  · rw [if_pos core, core, Backend.natsConstructor, accepted]
    exact ⟨.nats .core options, rfl, rfl⟩
  · have stream : config.normalizedType = typeNatsJetStream := by
      simpa [knownTypes, other, core] using known
    rw [if_neg core, stream, Backend.natsConstructor, accepted]
    exact ⟨.nats .jetStream options, rfl, rfl⟩

/-- **Without further variables, the defaults of the broker are those of the selected backend
exactly if no blanks surround the name of MQTT.** Exactly then a client is created, and it is one of
that backend; otherwise MQTT refuses the protocol of NATS. -/
theorem defaults_fit_iff (freshId : String) (lookup : String → Option String)
    (unset : ∀ name ∈ brokerVariables, lookup name = none)
    (known : Registry.normalize ((lookup "MESSAGEBUS_TYPE").getD typeNatsCore) ∈ knownTypes) :
    ∃ config, ofLookup lookup = .ok config ∧
      config.busType = (lookup "MESSAGEBUS_TYPE").getD typeNatsCore ∧
      (config.broker = defaultBroker config.normalizedType ↔ config.IsPlain) ∧
      ((∃ client, newMessageClient freshId config = .ok client ∧
        client.typeName? = some config.normalizedType) ↔ config.IsPlain) ∧
      (¬ config.IsPlain → newMessageClient freshId config =
        .error (.configuration "unsupported MQTT protocol 'nats'")) := by
  refine ⟨_, ofLookup_of_unset unset, rfl, ?_⟩
  generalize (lookup "MESSAGEBUS_TYPE").getD typeNatsCore = busType at known
  generalize read : BusConfig.mk _ busType [] = config
  have broker : config.broker = defaultBroker
      (if Text.eqIgnoringAsciiCase busType typeMqtt then typeMqtt else typeNatsCore) := read ▸ rfl
  have bare : config.options = [] := read ▸ rfl
  obtain rfl : config.busType = busType := read ▸ rfl
  have named : Text.trim config.busType ≠ "" := by
    intro blank
    rw [Registry.normalize, blank] at known
    exact absurd known (by decide)
  change config.normalizedType ∈ knownTypes at known
  by_cases selected : config.normalizedType = typeMqtt
  · by_cases plain : Text.trim config.busType = config.busType
    · -- The look-up sees MQTT as well.
      rw [if_pos (Text.eqIgnoringAsciiCase_mqtt_iff.mpr ⟨selected, plain⟩)] at broker
      obtain ⟨options, created⟩ := creates_mqtt selected broker bare named
      have isPlain : config.IsPlain := fun _ => plain
      exact ⟨iff_of_true (selected ▸ broker) isPlain,
        iff_of_true ⟨_, created, selected ▸ rfl⟩ isPlain, fun misfit => absurd isPlain misfit⟩
    · rw [if_neg fun seen => plain (Text.eqIgnoringAsciiCase_mqtt_iff.mp seen).2] at broker
      have refused := refuses_mqtt freshId selected broker named
      have isPlain : ¬ config.IsPlain := fun isPlain => plain (isPlain selected)
      have apart : defaultBroker typeNatsCore ≠ defaultBroker typeMqtt := by decide
      exact ⟨iff_of_false (by rwa [broker, selected]) isPlain,
        iff_of_false (fun ⟨_, created, _⟩ => nomatch refused.symm.trans created) isPlain,
        fun _ => refused⟩
  · rw [if_neg fun seen => selected (Text.eqIgnoringAsciiCase_mqtt_iff.mp seen).1] at broker
    have isPlain : config.IsPlain := fun mqtt => absurd mqtt selected
    have fits : defaultBroker typeNatsCore = defaultBroker config.normalizedType := by
      rw [defaultBroker, defaultBroker, if_neg selected, if_neg (by decide)]
    exact ⟨iff_of_true (broker.trans fits) isPlain,
      iff_of_true (creates_nats known selected broker bare named) isPlain,
      fun misfit => absurd isPlain misfit⟩

/-- A look-up that knows the name of the backend alone. -/
def onlyType (busType : String) : String → Option String
  | "MESSAGEBUS_TYPE" => some busType
  | _ => none

/-- The name `MQTT` takes the defaults of MQTT, and its client is created. -/
theorem defaults_fit_iff_capitals :
    (∀ name ∈ brokerVariables, onlyType "MQTT" name = none) ∧
      Registry.normalize ((onlyType "MQTT" "MESSAGEBUS_TYPE").getD typeNatsCore) ∈ knownTypes ∧
      ∃ config, ofLookup (onlyType "MQTT") = .ok config ∧
        config.broker = { protocol := "tcp", host := "localhost", port := 1883 } ∧
        ∃ client, newMessageClient "1" config = .ok client ∧ client.typeName? = some "mqtt" := by
  have unset : ∀ name ∈ brokerVariables, onlyType "MQTT" name = none := by decide
  have known : Registry.normalize ((onlyType "MQTT" "MESSAGEBUS_TYPE").getD typeNatsCore) ∈
      knownTypes := by decide
  obtain ⟨config, read, busType, fits, creates, -⟩ :=
    defaults_fit_iff "1" (onlyType "MQTT") unset known
  have selected : config.normalizedType = typeMqtt := by
    rw [normalizedType, busType]
    rfl
  have isPlain : config.IsPlain := fun _ => by
    rw [busType]
    rfl
  rw [selected] at fits creates
  exact ⟨unset, known, config, read, fits.mpr isPlain, creates.mpr isPlain⟩

/-- A name with blanks selects MQTT and takes the defaults of NATS, which MQTT refuses. -/
theorem defaults_misfit :
    (∀ name ∈ brokerVariables, onlyType " mqtt " name = none) ∧
      Registry.normalize " mqtt " = typeMqtt ∧
      ∃ config, ofLookup (onlyType " mqtt ") = .ok config ∧ config.normalizedType = typeMqtt ∧
        config.broker = { protocol := "nats", host := "localhost", port := 4222 } ∧
        newMessageClient "1" config =
          .error (.configuration "unsupported MQTT protocol 'nats'") :=
  ⟨by decide, rfl, _, rfl, rfl, rfl, rfl⟩

end BusConfig

end MessageBus

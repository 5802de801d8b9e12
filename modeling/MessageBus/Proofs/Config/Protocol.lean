/-
**The text of a protocol.** Both backends take a protocol without the blanks around it and in lower
case; MQTT then builds the URL of the broker from the text as it stands.

* `Alike` — outcomes that are the same but for one text that errors quote.
* `Url.host_of_isReadable`, `Url.host_of_not_isReadable` — what a URL makes of a protocol with blanks
  around it.
* `BusConfig.protocols_alike_iff` — **two texts of one protocol give the same on NATS**, and on MQTT
  where both or neither are readable: of an accepted protocol, exactly the readable texts are
  accepted. A blank text stands for `nats` on NATS, and for nothing on MQTT.
* `BusConfig.protocols_differ` — a blank text, and a name that a blank follows.
-/

import MessageBus.Proofs.Mqtt.Settings
import MessageBus.Proofs.Nats.Settings
import MessageBus.Proofs.Text.Decimal
import MessageBus.Proofs.Url.Scheme

namespace MessageBus

open MessageBus.Text

/-! ### Outcomes up to quoted text -/

/-- Outcomes that are the same but for one text that errors quote. -/
inductive Alike {α : Type} : BusResult α → BusResult α → Prop
  | same (outcome : BusResult α) : Alike outcome outcome
  | quoting (before one other after : String) :
      Alike (.error (.configuration (before ++ "'" ++ one ++ "'" ++ after)))
        (.error (.configuration (before ++ "'" ++ other ++ "'" ++ after)))

namespace Alike

variable {α β : Type} {first second : BusResult α} {next rest : α → BusResult β}

theorem eq_ok {a : α} (alike : Alike first second) (accepted : first = .ok a) : second = .ok a := by
  cases alike with
  | same => exact accepted
  | quoting => cases accepted

theorem bind (alike : Alike first second)
    (continues : ∀ a, first = .ok a → Alike (next a) (rest a)) :
    Alike (first >>= next) (second >>= rest) := by
  cases alike with
  | same =>
    cases first with
    | error error => exact .same _
    | ok a => exact continues a rfl
  | quoting before one other after => exact .quoting before one other after

end Alike

/-! ### URLs of brokers -/

/-- A configuration with another protocol. -/
def BusConfig.withProtocol (config : BusConfig) (protocol : String) : BusConfig :=
  { config with broker := { config.broker with protocol } }

/-- The protocol is no part of what makes an address. -/
theorem BusConfig.validate_withProtocol (config : BusConfig) (protocol : String) :
    (config.withProtocol protocol).validate = config.validate := rfl

theorem BusConfig.url_withProtocol (config : BusConfig) (protocol : String) :
    (config.withProtocol protocol).broker.url = config.broker.urlWith protocol := rfl

/-- The text of a URL: the protocol, a colon, and what hangs on host and port alone. -/
theorem BrokerAddress.exists_toList_urlWith (broker : BrokerAddress) :
    ∃ rest c, Url.isMargin c = false ∧
      ∀ protocol, (broker.urlWith protocol).toList = protocol.toList ++ ':' :: rest ++ [c] := by
  obtain empty | ⟨front, c, digits⟩ := List.eq_nil_or_concat (Nat.toDigits 10 broker.port.toNat)
  · exact absurd empty Nat.toDigits_ne_nil
  have last : c ∈ Nat.toDigits 10 broker.port.toNat := by simp [digits]
  have code := code_of_isDigit (isDigit_of_mem_toDigits last)
  refine ⟨'/' :: '/' :: broker.host.toList ++ ':' :: front, c, decide_eq_false (by omega),
    fun protocol => ?_⟩
  have port : (toString broker.port.toNat).toList = front ++ [c] := by
    show (Nat.repr _).toList = _
    rw [Nat.repr_eq_ofList_toDigits, String.toList_ofList, digits, List.concat_eq_append]
  unfold BrokerAddress.urlWith
  simp only [String.toList_append, port]
  simp

namespace Url

variable {broker : BrokerAddress} {one other : String}

/-- Readable texts of one name lead to the same host. -/
theorem host_of_isReadable (letters : ∀ c ∈ trimChars one.toList, isLetter c = true)
    (otherLetters : ∀ c ∈ trimChars other.toList, isLetter c = true)
    (same : (trimChars one.toList).map lower = (trimChars other.toList).map lower)
    (readable : IsReadable one.toList) (otherReadable : IsReadable other.toList) :
    host (broker.urlWith one) = host (broker.urlWith other) := by
  obtain ⟨rest, c, visible, text⟩ := broker.exists_toList_urlWith
  unfold host
  rw [text, text, splitScheme?_of_isReadable letters readable visible,
    splitScheme?_of_isReadable otherLetters otherReadable visible, same]

/-- Without a readable protocol, there is no URL. -/
theorem host_of_not_isReadable (letters : ∀ c ∈ trimChars one.toList, isLetter c = true)
    (unreadable : ¬ IsReadable one.toList) : host (broker.urlWith one) = .error .noBase := by
  obtain ⟨rest, c, visible, text⟩ := broker.exists_toList_urlWith
  unfold host
  rw [text, splitScheme?_of_not_isReadable letters unreadable visible]

end Url

/-! ### Protocols of MQTT -/

namespace Mqtt.Options

variable {freshId one other url otherUrl : String} {config : BusConfig} {options : Options}

/-- A protocol of MQTT consists of letters, and lowers letter by letter. -/
theorem letters_of_protocol (supported : lowercase (trim one) ∈ openProtocols ++ secureProtocols) :
    (trimChars one.toList).map Url.lower = (lowercase (trim one)).toList ∧
      ∀ c ∈ trimChars one.toList, Url.isLetter c = true := by
  have plain : ∀ name ∈ openProtocols ++ secureProtocols, name.toList ⊆ plainLetters := by decide
  have spelled : lowercaseChars (trimChars one.toList) = (lowercase (trim one)).toList := by
    rw [lowercase, trim, String.toList_ofList, String.toList_ofList]
  have lowered := (lowercaseChars_eq_iff (plain _ supported)).mp spelled
  refine ⟨lowered, fun c member => ?_⟩
  exact Url.isLetter_of_asciiLower
    (plain _ supported (lowered ▸ List.mem_map_of_mem member))

/-- Two texts of one protocol that are both readable, or both not, lead to the same host. -/
theorem host_congr (supported : lowercase (trim one) ∈ openProtocols ++ secureProtocols)
    (same : lowercase (trim one) = lowercase (trim other))
    (readable : Url.IsReadable one.toList ↔ Url.IsReadable other.toList) (broker : BrokerAddress) :
    Url.host (broker.urlWith one) = Url.host (broker.urlWith other) := by
  obtain ⟨lowered, letters⟩ := letters_of_protocol supported
  obtain ⟨otherLowered, otherLetters⟩ := letters_of_protocol (same ▸ supported)
  by_cases found : Url.IsReadable one.toList
  · exact Url.host_of_isReadable letters otherLetters
      (lowered.trans ((congrArg _ same).trans otherLowered.symm)) found (readable.mp found)
  · rw [Url.host_of_not_isReadable letters found,
      Url.host_of_not_isReadable otherLetters (mt readable.mpr found)]

/-- URLs with the same host give outcomes that are the same but for the URL. -/
theorem urlHost_alike (same : Url.host url = Url.host otherUrl) :
    Alike (urlHost url) (urlHost otherUrl) := by
  have invalid : ∀ (url : String) (fault : UrlFault),
      "invalid MQTT broker URL '" ++ url ++ "': " ++ fault.message =
        "invalid MQTT broker URL " ++ "'" ++ url ++ "'" ++ (": " ++ fault.message) := by
    intro url fault
    rw [show "invalid MQTT broker URL '" = "invalid MQTT broker URL " ++ "'" from rfl,
      show "': " = "'" ++ ": " from rfl]
    simp only [String.append_assoc]
  have hostless : ∀ url : String, "MQTT broker URL '" ++ url ++ "' has no host" =
      "MQTT broker URL " ++ "'" ++ url ++ "'" ++ " has no host" := by
    intro url
    rw [show "MQTT broker URL '" = "MQTT broker URL " ++ "'" from rfl,
      show "' has no host" = "'" ++ " has no host" from rfl]
    simp only [String.append_assoc]
  unfold urlHost
  rw [same]
  cases Url.host otherUrl with
  | error fault =>
    dsimp only
    rw [invalid, invalid]
    exact .quoting ..
  | ok found => cases found with
    | none =>
      dsimp only
      rw [hostless, hostless]
      exact .quoting ..
    | some name =>
      dsimp only
      split
      · rw [hostless, hostless]
        exact .quoting ..
      · exact .same _

/-- **Two texts of one protocol that are both readable, or both not, give the same settings**, up to
what errors quote. -/
theorem ofConfig_alike (same : lowercase (trim one) = lowercase (trim other))
    (readable : Url.IsReadable one.toList ↔ Url.IsReadable other.toList) :
    Alike (ofConfig freshId (config.withProtocol one))
      (ofConfig freshId (config.withProtocol other)) := by
  have tls : protocolTls one = protocolTls other := by
    rw [protocolTls_eq, protocolTls_eq, same]
  unfold ofConfig
  rw [BusConfig.validate_withProtocol, BusConfig.validate_withProtocol,
    BusConfig.url_withProtocol, BusConfig.url_withProtocol]
  dsimp only [BusConfig.withProtocol]
  rw [tls]
  refine .bind (.same _) fun _ _ => ?_
  refine .bind (.same _) fun secure accepted => ?_
  have supported := (protocolTls_eq_ok_iff.mp accepted).1
  have hosts := host_congr (same.symm ▸ supported) same readable config.broker
  exact .bind (urlHost_alike hosts) fun host _ => .same _

/-- What is accepted has a supported protocol and an address, and its protocol is readable. -/
theorem isReadable_of_accepted
    (accepted : ofConfig freshId (config.withProtocol one) = .ok options) :
    config.IsAddressed ∧ lowercase (trim one) ∈ openProtocols ++ secureProtocols ∧
      Url.IsReadable one.toList := by
  unfold ofConfig at accepted
  simp only [bind_eq_ok_iff, protocolTls_eq_ok_iff, urlHost_eq_ok_iff] at accepted
  obtain ⟨⟨⟩, valid, _, ⟨supported, -⟩, host, ⟨url, -⟩, -⟩ := accepted
  refine ⟨BusConfig.validate_eq_ok_iff.mp valid, supported, ?_⟩
  by_contra unreadable
  have refused : Url.host (config.broker.urlWith one) = .error .noBase :=
    Url.host_of_not_isReadable (letters_of_protocol supported).2 unreadable
  cases refused.symm.trans url

/-- A supported protocol that is not readable makes no URL. -/
theorem ofConfig_of_not_isReadable (addressed : config.IsAddressed)
    (supported : lowercase (trim one) ∈ openProtocols ++ secureProtocols)
    (unreadable : ¬ Url.IsReadable one.toList) :
    ofConfig freshId (config.withProtocol one) = .error (.configuration
      ("invalid MQTT broker URL '" ++ config.broker.urlWith one ++
        "': relative URL without a base")) := by
  have secure : protocolTls one = .ok (decide (lowercase (trim one) ∈ secureProtocols)) :=
    protocolTls_eq_ok_iff.mpr ⟨supported, decide_eq_true_iff⟩
  have refused : urlHost (config.broker.urlWith one) = .error (.configuration
      ("invalid MQTT broker URL '" ++ config.broker.urlWith one ++
        "': " ++ UrlFault.noBase.message)) := by
    unfold urlHost
    rw [Url.host_of_not_isReadable (letters_of_protocol supported).2 unreadable]
  unfold ofConfig
  rw [BusConfig.validate_withProtocol, BusConfig.url_withProtocol,
    BusConfig.validate_eq_ok_iff.mpr addressed, refused]
  dsimp only [BusConfig.withProtocol]
  rw [secure, show "': relative URL without a base" = "': " ++ UrlFault.noBase.message from rfl,
    ← String.append_assoc]
  rfl

end Mqtt.Options

namespace Nats.Options

variable {freshId one other : String} {config : BusConfig}

/-- Two texts of one protocol give the same settings. -/
theorem ofConfig_congr_protocol (same : urlProtocol one = urlProtocol other) :
    ofConfig freshId (config.withProtocol one) = ofConfig freshId (config.withProtocol other) := by
  unfold ofConfig
  rw [BusConfig.validate_withProtocol, BusConfig.validate_withProtocol]
  dsimp only [BusConfig.withProtocol, BrokerAddress.urlWith]
  rw [same]

end Nats.Options

namespace BusConfig

/-- **Two texts of one protocol give the same on NATS, and on MQTT where both or neither are
readable.** Of a protocol that MQTT accepts in one text, it accepts exactly the readable texts. A
blank text stands for `nats` on NATS, and MQTT accepts none. -/
theorem protocols_alike_iff (freshId : String) (config : BusConfig) (one other : String)
    (same : lowercase (trim one) = lowercase (trim other)) :
    Nats.Options.ofConfig freshId (config.withProtocol one) =
        Nats.Options.ofConfig freshId (config.withProtocol other) ∧
      (trim one = "" → Nats.Options.ofConfig freshId (config.withProtocol one) =
        Nats.Options.ofConfig freshId (config.withProtocol "nats")) ∧
      ((Url.IsReadable one.toList ↔ Url.IsReadable other.toList) →
        Alike (Mqtt.Options.ofConfig freshId (config.withProtocol one))
          (Mqtt.Options.ofConfig freshId (config.withProtocol other))) ∧
      (∀ options, Mqtt.Options.ofConfig freshId (config.withProtocol one) = .ok options →
        (Mqtt.Options.ofConfig freshId (config.withProtocol other) = .ok options ↔
            Url.IsReadable other.toList) ∧
          (¬ Url.IsReadable other.toList →
            Mqtt.Options.ofConfig freshId (config.withProtocol other) = .error (.configuration
              ("invalid MQTT broker URL '" ++ config.broker.urlWith other ++
                "': relative URL without a base")))) ∧
      (trim one = "" → ∀ options,
        Mqtt.Options.ofConfig freshId (config.withProtocol one) ≠ .ok options) := by
  refine ⟨?nats, ?natsBlank, Mqtt.Options.ofConfig_alike same, fun options accepted => ?mqtt,
    fun blank options accepted => ?mqttBlank⟩
  case nats =>
    refine Nats.Options.ofConfig_congr_protocol ?_
    rw [Nats.Options.urlProtocol, Nats.Options.urlProtocol, same]
  case natsBlank =>
    intro blank
    refine Nats.Options.ofConfig_congr_protocol ?_
    rw [Nats.Options.urlProtocol, blank]
    rfl
  case mqtt =>
    obtain ⟨addressed, supported, readable⟩ := Mqtt.Options.isReadable_of_accepted accepted
    refine ⟨⟨fun accepted => (Mqtt.Options.isReadable_of_accepted accepted).2.2, fun found => ?_⟩,
      Mqtt.Options.ofConfig_of_not_isReadable addressed (same ▸ supported)⟩
    exact (Mqtt.Options.ofConfig_alike same (iff_of_true readable found)).eq_ok accepted
  case mqttBlank =>
    obtain ⟨-, -, front, back, -, -, -, filled, -⟩ := Mqtt.Options.isReadable_of_accepted accepted
    rw [trim, ← String.toList_inj, String.toList_ofList] at blank
    exact filled blank

/-- A broker with a plain host name. -/
def plainConfig : BusConfig :=
  { broker := { host := "h", port := 1883 }, busType := typeMqtt }

/-- Capitals, and blanks that a URL drops, change nothing. -/
theorem protocols_alike_iff_padded :
    lowercase (trim "TCP") = lowercase (trim " tcp\n") ∧
      Nats.Options.ofConfig "1" (plainConfig.withProtocol "TCP") =
        Nats.Options.ofConfig "1" (plainConfig.withProtocol " tcp\n") ∧
      ∃ options, Mqtt.Options.ofConfig "1" (plainConfig.withProtocol "TCP") = .ok options ∧
        Mqtt.Options.ofConfig "1" (plainConfig.withProtocol " tcp\n") = .ok options := by
  have same : lowercase (trim "TCP") = lowercase (trim " tcp\n") := by decide
  have readable : Url.IsReadable " tcp\n".toList :=
    ⟨[' '], ['\n'], by decide, by decide, by decide, by decide,
      List.forall_mem_singleton.mpr rfl, List.forall_mem_singleton.mpr rfl⟩
  obtain ⟨nats, -, -, mqtt, -⟩ := protocols_alike_iff "1" plainConfig "TCP" " tcp\n" same
  exact ⟨same, nats, _, rfl, (mqtt _ rfl).1.mpr readable⟩

/-- MQTT accepts `tcp`, but neither a blank text, which it takes for the same, nor `tcp` with a blank
behind it; NATS accepts them all. -/
theorem protocols_differ :
    lowercase (trim "tcp ") = lowercase (trim "tcp") ∧
      (∃ options, Mqtt.Options.ofConfig "1" (plainConfig.withProtocol "tcp") = .ok options) ∧
      Mqtt.Options.ofConfig "1" (plainConfig.withProtocol "tcp ") = .error (.configuration
        "invalid MQTT broker URL 'tcp ://h:1883': relative URL without a base") ∧
      Mqtt.Options.protocolTls "" = .ok false ∧
      Mqtt.Options.ofConfig "1" (plainConfig.withProtocol "") = .error (.configuration
        "invalid MQTT broker URL '://h:1883': relative URL without a base") ∧
      ∃ options, ∀ protocol ∈ ["tcp", "tcp ", ""],
        Nats.Options.ofConfig "1" (plainConfig.withProtocol protocol) = .ok options :=
  ⟨by decide, ⟨_, rfl⟩, rfl, rfl, rfl, _, fun protocol listed => by
    simp only [List.mem_cons, List.not_mem_nil, or_false] at listed
    obtain rfl | rfl | rfl := listed <;> rfl⟩

end BusConfig

end MessageBus

/-
**Configurations are accepted exactly and validated completely.** Before a backend does anything, it
reads its settings from the configuration.

* `BusConfig.settings_exact` — **both backends accept exactly the configurations that are
  acceptable to them, and read exactly the settings that those stand for**. What is acceptable, and
  what it stands for, is told option by option in `Mqtt.Options.Acceptable`, `Mqtt.Options.Reflects`
  and their counterparts for NATS.
-/

import MessageBus.Proofs.Mqtt.Settings
import MessageBus.Proofs.Nats.Settings

namespace MessageBus

open Options (Apart DistinctKeys)

/-- **Both backends accept exactly the configurations that are acceptable to them, and read exactly
the settings that those stand for**, where no two keys are the same but for letter case. -/
theorem BusConfig.settings_exact (freshId : String) (config : BusConfig)
    (distinct : DistinctKeys config.options) :
    ExactlyValidated (Mqtt.Options.ofConfig freshId) config (Mqtt.Options.Acceptable config)
        (Mqtt.Options.Reflects freshId config) (·.clientId) Mqtt.Options.keys ∧
      ExactlyValidated (Nats.Options.ofConfig freshId) config (Nats.Options.Acceptable config)
        (Nats.Options.Reflects freshId config) (·.clientId) Nats.Options.keys :=
  ⟨Mqtt.Options.exactly_validated freshId distinct, Nats.Options.exactly_validated freshId distinct⟩

/-- A configuration with keys and values in mixed case, with blanks, and with a key that no backend
recognises. -/
def mixedConfig : BusConfig :=
  { broker := { protocol := "TCP", host := "broker.example.com", port := 1883 }
    busType := "Mqtt"
    options := [("QOS", " 2 "), ("keepalive", "5"), ("Retained", "TRUE"), ("Username", "  "),
      ("Colour", "red")] }

/-- The mixed configuration is accepted by both backends, and its number under `QOS` is the quality
of service. -/
theorem BusConfig.settings_exact_mixed :
    DistinctKeys mixedConfig.options ∧ Mqtt.Options.Acceptable mixedConfig ∧
      Nats.Options.Acceptable mixedConfig ∧
        ∃ options, Mqtt.Options.ofConfig "1" mixedConfig = .ok options ∧
          Mqtt.Options.Reflects "1" mixedConfig options ∧ options.qos = .exactlyOnce ∧
            options.username = none := by
  have distinct : DistinctKeys mixedConfig.options := by
    unfold DistinctKeys Apart
    decide
  obtain ⟨mqtt, nats⟩ := BusConfig.settings_exact "1" mixedConfig distinct
  exact ⟨distinct, mqtt.accepted_iff.mp ⟨_, rfl⟩, nats.accepted_iff.mp ⟨_, rfl⟩, _, rfl,
    mqtt.settings _ rfl, rfl, rfl⟩

end MessageBus

/-
**Configurations that a backend accepts.** What the two backends have in common.

* `BusConfig.IsAddressed` — a configuration that names a broker and a backend.
* `ExactlyValidated` — what it means that settings are read exactly: a configuration is accepted
  exactly if it is acceptable, its settings are those that it stands for, all failures are errors of
  the configuration, a client has a name, and entries under other keys do not matter.
-/

import MessageBus.Proofs.Config.Setting

namespace MessageBus

open Options (OptionMap)

/-! ### Addresses -/

namespace BusConfig

variable {config : BusConfig}

/-- A configuration that names a broker and a backend. -/
structure IsAddressed (config : BusConfig) : Prop where
  host : Text.trim config.broker.host ≠ ""
  port : config.broker.port ≠ 0
  busType : Text.trim config.busType ≠ ""

theorem validate_eq_ok_iff : config.validate = .ok () ↔ config.IsAddressed := by
  have blank : ∀ s : String, Text.isBlankText s = true ↔ Text.trim s = "" :=
    fun _ => Text.isBlankText_iff
  unfold validate
  constructor
  · intro valid
    split at valid
    · cases valid
    split at valid
    · cases valid
    split at valid
    · cases valid
    rename_i host port busType
    exact ⟨mt (blank _).mpr host, port, mt (blank _).mpr busType⟩
  · rintro ⟨host, port, busType⟩
    rw [if_neg (mt (blank _).mp host), if_neg port, if_neg (mt (blank _).mp busType)]

theorem onlyConfiguration_validate (config : BusConfig) : OnlyConfiguration config.validate := by
  exact .ite (onlyConfiguration_error _) <| .ite (onlyConfiguration_error _) <|
    .ite (onlyConfiguration_error _) (onlyConfiguration_ok _)

/-- A configuration passes its validation, or the failure is an error of the configuration. -/
theorem validate_cases (config : BusConfig) :
    config.IsAddressed ∧ config.validate = .ok () ∨
      ¬ config.IsAddressed ∧ ∃ text, config.validate = .error (.configuration text) := by
  cases checked : config.validate with
  | ok _ => exact .inl ⟨validate_eq_ok_iff.mp checked, rfl⟩
  | error error =>
    obtain ⟨text, rfl⟩ := onlyConfiguration_validate config error checked
    refine .inr ⟨fun addressed => ?_, text, rfl⟩
    rw [validate_eq_ok_iff.mpr addressed] at checked
    cases checked

end BusConfig

/-! ### Recognised keys -/

/-- An entry under one of the keys, in any case of letters. -/
def Options.isRecognised (keys : List String) (entry : String × String) : Bool :=
  keys.any fun key => Text.eqIgnoringAsciiCase entry.1 key

/-- Maps with the same entries under the keys of a list answer alike under each of them. -/
theorem Options.get?_of_recognised {keys : List String} {options others : OptionMap} {key : String}
    (distinct : DistinctKeys options)
    (same : (options.filter (isRecognised keys)).Perm (others.filter (isRecognised keys)))
    (listed : key ∈ keys) : get? others key = get? options key := by
  have kept : ∀ entry, Answers key entry → isRecognised keys entry = true :=
    fun _ answers => List.any_eq_true.mpr ⟨key, listed, answers⟩
  have apart : DistinctKeys (options.filter (isRecognised keys)) :=
    List.Pairwise.sublist List.filter_sublist distinct
  rw [← get?_filter kept, get?_of_perm (apart.agree key) same, get?_filter kept]

/-- Settings are read exactly from a configuration. -/
structure ExactlyValidated {O : Type} (ofConfig : BusConfig → BusResult O) (config : BusConfig)
    (acceptable : Prop) (reflects : O → Prop) (clientId : O → String) (keys : List String) :
    Prop where
  /-- A configuration is accepted exactly if it is acceptable. -/
  accepted_iff : (∃ options, ofConfig config = .ok options) ↔ acceptable
  /-- The settings of an accepted configuration are those that it stands for. -/
  settings : ∀ options, ofConfig config = .ok options → reflects options
  /-- All failures are errors of the configuration. -/
  failures : OnlyConfiguration (ofConfig config)
  /-- A client has a name. -/
  named : ∀ options, ofConfig config = .ok options → clientId options ≠ ""
  /-- Only the entries under recognised keys matter, in whatever order. -/
  recognised : ∀ others : OptionMap,
    (config.options.filter (Options.isRecognised keys)).Perm
        (others.filter (Options.isRecognised keys)) →
      ofConfig { config with options := others } = ofConfig config

end MessageBus

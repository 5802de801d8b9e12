/-
**Settings.** How the text options of a backend become values.

* `bind_eq_ok_iff`, `OnlyConfiguration` — steps that succeed one after another, and steps whose
  failures are all errors of the configuration.
* `OptionRule` — an option: its key, its default, and what a text of its grammar stands for.
  `OptionRule.Admits` — every value that is given for it is in its grammar; `OptionRule.Sets` — the
  value that it takes.
* `OptionRule.exists_sets_iff` — **an option takes a value exactly if what is given for it is in its
  grammar**.
* `OptionRule.Takes` — the value by a look-up, whether or not other entries fit the key as well;
  `OptionRule.takes_iff_sets` — the same where keys are distinct;
  `OptionRule.exists_takes_and_iff` — rules may go on from one another.
* `parsed_takes_iff` — a typed look-up follows a rule if its parser keeps to the grammar; the rules
  of texts, flags, numbers and durations, and of the TLS settings.
-/

import MessageBus.Config.Tls
import MessageBus.Proofs.Config.Duration
import MessageBus.Proofs.Config.Lookup

namespace MessageBus

/-! ### Steps that may fail -/

/-- Two steps succeed exactly if the first one does, and then the second. -/
theorem bind_eq_ok_iff {α β : Type} {first : BusResult α} {next : α → BusResult β} {b : β} :
    first >>= next = .ok b ↔ ∃ a, first = .ok a ∧ next a = .ok b := by
  cases first with
  | error error => exact iff_of_false nofun fun ⟨_, failed, _⟩ => nomatch failed
  | ok a => exact ⟨fun whole => ⟨a, rfl, whole⟩, fun ⟨_, same, rest⟩ => Except.ok.inj same ▸ rest⟩

theorem pure_eq_ok_iff {α : Type} {a b : α} : (pure a : BusResult α) = .ok b ↔ a = b :=
  ⟨Except.ok.inj, congrArg _⟩

/-- All failures are errors of the configuration. -/
def OnlyConfiguration {α : Type} (outcome : BusResult α) : Prop :=
  ∀ error, outcome = .error error → ∃ text, error = .configuration text

theorem onlyConfiguration_ok {α : Type} (a : α) : OnlyConfiguration (.ok a) := nofun

theorem onlyConfiguration_error {α : Type} (text : String) :
    OnlyConfiguration (.error (.configuration text) : BusResult α) := by
  rintro _ ⟨⟩
  exact ⟨text, rfl⟩

theorem OnlyConfiguration.bind {α β : Type} {first : BusResult α} {next : α → BusResult β}
    (only : OnlyConfiguration first) (rest : ∀ a, OnlyConfiguration (next a)) :
    OnlyConfiguration (first >>= next) := by
  cases first with
  | error error =>
    rintro _ ⟨⟩
    exact only error rfl
  | ok a => exact rest a

/-- A choice between outcomes fails as they do. -/
theorem OnlyConfiguration.ite {α : Type} {condition : Prop} [Decidable condition]
    {one other : BusResult α} (yes : OnlyConfiguration one) (no : OnlyConfiguration other) :
    OnlyConfiguration (if condition then one else other) := by
  split
  · exact yes
  · exact no

namespace Options

open MessageBus.Text

variable {options : OptionMap} {key value : String} {α β : Type}

/-- An option of a backend. -/
structure OptionRule (α : Type) where
  /-- The key under which it is given. -/
  key : String
  /-- The value that it takes when it is not given. -/
  default : α
  /-- What a text of its grammar stands for. -/
  Denotes : String → α → Prop

namespace OptionRule

/-- Every value that is given for an option is in its grammar. -/
def Admits (rule : OptionRule α) (options : OptionMap) : Prop :=
  ∀ value, Given options rule.key value → ∃ a, rule.Denotes value a

/-- The value that an option takes: what the given text stands for, or else the default. -/
def Sets (rule : OptionRule α) (options : OptionMap) (a : α) : Prop :=
  (∃ value, Given options rule.key value ∧ rule.Denotes value a) ∨
    (∀ value, ¬ Given options rule.key value) ∧ a = rule.default

/-- The value that an option takes by a look-up, whichever entry answers. -/
def Takes (rule : OptionRule α) (options : OptionMap) (a : α) : Prop :=
  match get? options rule.key with
  | some value => rule.Denotes value a
  | none => a = rule.default

theorem takes_of_get?_some (rule : OptionRule α) {a : α}
    (found : get? options rule.key = some value) : rule.Takes options a ↔ rule.Denotes value a := by
  rw [Takes, found]

theorem takes_of_get?_none (rule : OptionRule α) {a : α}
    (absent : get? options rule.key = none) : rule.Takes options a ↔ a = rule.default := by
  rw [Takes, absent]

theorem sets_of_get?_some (rule : OptionRule α) {a : α} (distinct : DistinctKeys options)
    (found : get? options rule.key = some value) : rule.Sets options a ↔ rule.Denotes value a := by
  have given := (get?_eq_some_iff distinct).mp found
  constructor
  · rintro (⟨other, otherGiven, denotes⟩ | ⟨none, -⟩)
    · rw [← get?_eq_some_iff distinct, found] at otherGiven
      exact Option.some.inj otherGiven ▸ denotes
    · exact absurd given (none value)
  · exact fun denotes => .inl ⟨value, given, denotes⟩

theorem sets_of_get?_none (rule : OptionRule α) {a : α} (distinct : DistinctKeys options)
    (absent : get? options rule.key = none) : rule.Sets options a ↔ a = rule.default := by
  have none := (get?_eq_none_iff distinct).mp absent
  constructor
  · rintro (⟨value, given, -⟩ | ⟨-, same⟩)
    · exact absurd given (none value)
    · exact same
  · exact fun same => .inr ⟨none, same⟩

/-- Where keys are distinct, a look-up finds what is given. -/
theorem takes_iff_sets {rule : OptionRule α} {a : α} (distinct : DistinctKeys options) :
    rule.Takes options a ↔ rule.Sets options a := by
  cases found : get? options rule.key with
  | none => rw [rule.takes_of_get?_none found, rule.sets_of_get?_none distinct found]
  | some value => rw [rule.takes_of_get?_some found, rule.sets_of_get?_some distinct found]

/-- **An option takes a value exactly if what is given for it is in its grammar.** -/
theorem exists_sets_iff {rule : OptionRule α} (distinct : DistinctKeys options) :
    (∃ a, rule.Sets options a) ↔ rule.Admits options := by
  cases found : get? options rule.key with
  | none =>
    have none := (get?_eq_none_iff distinct).mp found
    exact iff_of_true ⟨rule.default, .inr ⟨none, rfl⟩⟩ fun value given => absurd given (none value)
  | some value =>
    simp only [rule.sets_of_get?_some distinct found]
    constructor
    · rintro ⟨a, denotes⟩ other given
      rw [← get?_eq_some_iff distinct, found] at given
      exact ⟨a, Option.some.inj given ▸ denotes⟩
    · exact fun admits => admits value ((get?_eq_some_iff distinct).mp found)

theorem Sets.admits {rule : OptionRule α} {a : α} (sets : rule.Sets options a)
    (distinct : DistinctKeys options) : rule.Admits options :=
  (exists_sets_iff distinct).mp ⟨a, sets⟩

theorem Admits.exists_sets {rule : OptionRule α} (admits : rule.Admits options)
    (distinct : DistinctKeys options) : ∃ a, rule.Sets options a :=
  (exists_sets_iff distinct).mpr admits

/-- Where no options are given, all are in their grammars. -/
theorem admits_nil {rule : OptionRule α} : rule.Admits [] := by
  rintro value ⟨entry, member, -⟩
  cases member

/-- A rule that goes on from the value of another rule under the same key. -/
theorem exists_takes_and_iff {rule : OptionRule α} {next : OptionRule β} {b : β}
    (leads : α → β → Prop) (sameKey : next.key = rule.key)
    (denotes : ∀ value, trim value = value → value ≠ "" →
      (next.Denotes value b ↔ ∃ a, rule.Denotes value a ∧ leads a b))
    (default : b = next.default ↔ leads rule.default b) :
    (∃ a, rule.Takes options a ∧ leads a b) ↔ next.Takes options b := by
  cases found : get? options rule.key with
  | none =>
    rw [next.takes_of_get?_none (sameKey ▸ found), default]
    simp only [rule.takes_of_get?_none found, exists_eq_left]
  | some value =>
    obtain ⟨trimmed, filled⟩ := trim_of_get? found
    rw [next.takes_of_get?_some (sameKey ▸ found), denotes value trimmed filled]
    simp only [rule.takes_of_get?_some found]

theorem exists_sets_and_iff {rule : OptionRule α} {next : OptionRule β} {b : β}
    (leads : α → β → Prop) (distinct : DistinctKeys options) (sameKey : next.key = rule.key)
    (denotes : ∀ value, trim value = value → value ≠ "" →
      (next.Denotes value b ↔ ∃ a, rule.Denotes value a ∧ leads a b))
    (default : b = next.default ↔ leads rule.default b) :
    (∃ a, rule.Sets options a ∧ leads a b) ↔ next.Sets options b := by
  simp only [← takes_iff_sets distinct]
  exact exists_takes_and_iff leads sameKey denotes default

end OptionRule

/-! ### Typed look-ups -/

/-- **A typed look-up follows a rule if its parser keeps to the grammar.** -/
theorem parsed_takes_iff (rule : OptionRule α) {parse : String → Except String α} {a : α}
    (reads : ∀ value, trim value = value → value ≠ "" →
      (parse value = .ok a ↔ rule.Denotes value a)) :
    parsed options rule.key rule.default parse = .ok a ↔ rule.Takes options a := by
  unfold parsed
  cases found : get? options rule.key with
  | none =>
    rw [rule.takes_of_get?_none found]
    exact ⟨fun same => (Except.ok.inj same).symm, fun same => congrArg _ same.symm⟩
  | some value =>
    obtain ⟨trimmed, filled⟩ := trim_of_get? found
    rw [rule.takes_of_get?_some found, ← reads value trimmed filled]
    cases outcome : parse value <;> simp [outcome]

theorem parsed_eq_ok_iff (rule : OptionRule α) {parse : String → Except String α} {a : α}
    (distinct : DistinctKeys options)
    (reads : ∀ value, trim value = value → value ≠ "" →
      (parse value = .ok a ↔ rule.Denotes value a)) :
    parsed options rule.key rule.default parse = .ok a ↔ rule.Sets options a :=
  (parsed_takes_iff rule reads).trans (OptionRule.takes_iff_sets distinct)

theorem onlyConfiguration_parsed (options : OptionMap) (key : String) (default : α)
    (parse : String → Except String α) : OnlyConfiguration (parsed options key default parse) := by
  unfold parsed
  split
  · exact onlyConfiguration_ok _
  · split
    · exact onlyConfiguration_ok _
    · exact onlyConfiguration_error _

/-- A text option: any text stands for itself. -/
def textRule (key default : String) : OptionRule String :=
  { key, default, Denotes := fun value text => text = value }

/-- A text option without a default. -/
def optionalRule (key : String) : OptionRule (Option String) :=
  { key, default := none, Denotes := fun value text => text = some value }

/-- A flag: `true` or `false`, in any case of letters. -/
def flagRule (key : String) (default : Bool) : OptionRule Bool :=
  { key, default, Denotes := fun value flag => eqIgnoringAsciiCase value (toString flag) = true }

/-- A number from `least` to `most`. -/
def numberRule (key : String) (default least most : Nat) : OptionRule Nat :=
  { key, default, Denotes := fun value n => IsNumeral value.toList n ∧ least ≤ n ∧ n ≤ most }

/-- A duration. -/
def durationRule (key : String) (default : Duration) : OptionRule Duration :=
  { key, default, Denotes := fun value duration => Duration.Spells value.toList duration }

theorem textRule_takes_iff {default text : String} :
    Options.text options key default = text ↔ (textRule key default).Takes options text := by
  unfold Options.text
  cases found : get? options key with
  | none => rw [(textRule key default).takes_of_get?_none found]; exact eq_comm
  | some value => rw [(textRule key default).takes_of_get?_some found]; exact eq_comm

theorem textRule_sets_iff (distinct : DistinctKeys options) {default text : String} :
    Options.text options key default = text ↔ (textRule key default).Sets options text :=
  textRule_takes_iff.trans (OptionRule.takes_iff_sets distinct)

/-- A text option is empty only if its default is. -/
theorem text_ne_empty {default : String} (named : default ≠ "") :
    Options.text options key default ≠ "" := by
  unfold Options.text
  cases found : get? options key with
  | none => exact named
  | some value => exact (trim_of_get? found).2

theorem optionalRule_sets_iff (distinct : DistinctKeys options) {text : Option String} :
    get? options key = text ↔ (optionalRule key).Sets options text := by
  cases found : get? options key with
  | none => rw [(optionalRule key).sets_of_get?_none distinct found]; exact eq_comm
  | some value =>
    rw [(optionalRule key).sets_of_get?_some distinct found]
    exact eq_comm

theorem parseFlag_eq_ok_iff {flag : Bool} :
    parseFlag value = .ok flag ↔ eqIgnoringAsciiCase value (toString flag) = true := by
  have apart : eqIgnoringAsciiCase value "true" = true →
      ¬ eqIgnoringAsciiCase value "false" = true := by
    rw [eqIgnoringAsciiCase_iff, eqIgnoringAsciiCase_iff]
    exact fun one another => absurd (one.symm.trans another) (by decide)
  unfold parseFlag
  by_cases isTrue : eqIgnoringAsciiCase value "true" = true
  · rw [if_pos isTrue]
    cases flag with
    | true => exact iff_of_true rfl isTrue
    | false => exact iff_of_false nofun (apart isTrue)
  · rw [if_neg isTrue]
    cases flag with
    | true => exact iff_of_false (by split <;> nofun) isTrue
    | false =>
      show _ ↔ eqIgnoringAsciiCase value "false" = true
      split
      case isTrue isFalse => exact iff_of_true rfl isFalse
      case isFalse other => exact iff_of_false nofun other

theorem flagRule_takes_iff {default flag : Bool} :
    Options.flag options key default = .ok flag ↔ (flagRule key default).Takes options flag :=
  parsed_takes_iff (flagRule key default) fun _ _ _ => parseFlag_eq_ok_iff

theorem flagRule_sets_iff (distinct : DistinctKeys options) {default flag : Bool} :
    Options.flag options key default = .ok flag ↔ (flagRule key default).Sets options flag :=
  flagRule_takes_iff.trans (OptionRule.takes_iff_sets distinct)

theorem numberRule_takes_iff {limit default n : Nat} :
    Options.natural limit options key default = .ok n ↔
      (numberRule key default 0 limit).Takes options n := by
  refine parsed_takes_iff (numberRule key default 0 limit) fun value _ _ => ?_
  have read : (Text.natural limit value.toList).mapError IntegerFault.message = .ok n ↔
      Text.natural limit value.toList = .ok n := by
    cases Text.natural limit value.toList <;> simp [Except.mapError]
  rw [read, natural_eq_ok_iff]
  simp [numberRule]

theorem numberRule_sets_iff (distinct : DistinctKeys options) {limit default n : Nat} :
    Options.natural limit options key default = .ok n ↔
      (numberRule key default 0 limit).Sets options n :=
  numberRule_takes_iff.trans (OptionRule.takes_iff_sets distinct)

theorem durationRule_sets_iff (distinct : DistinctKeys options) {default duration : Duration} :
    Options.duration options key default = .ok duration ↔
      (durationRule key default).Sets options duration := by
  refine parsed_eq_ok_iff (durationRule key default) distinct fun value trimmed _ => ?_
  have bare : trimChars value.toList = value.toList := by
    rw [← String.toList_inj, trim, String.toList_ofList] at trimmed
    exact trimmed
  have spelled : Duration.parse? value = some duration ↔ Duration.Spells value.toList duration := by
    rw [Duration.parse?_eq_some_iff, bare]
  show _ ↔ Duration.Spells value.toList duration
  rw [← spelled]
  cases Duration.parse? value <;> simp

end Options

/-! ### TLS -/

namespace TlsOptions

open MessageBus.Options

variable {options : OptionMap} {tls : TlsOptions}

/-- The TLS options that are accepted: a flag, and a certificate and its key together. -/
structure Acceptable (options : OptionMap) : Prop where
  skipCertVerify : (flagRule "SkipCertVerify" false).Admits options
  together : (∃ file, Given options "CertFile" file) ↔ ∃ file, Given options "KeyFile" file

/-- The TLS settings that options stand for. -/
structure Reflects (options : OptionMap) (tls : TlsOptions) : Prop where
  skipCertVerify : (flagRule "SkipCertVerify" false).Sets options tls.skipCertVerify
  caFile : (optionalRule "CaFile").Sets options tls.caFile
  certFile : (optionalRule "CertFile").Sets options tls.certFile
  keyFile : (optionalRule "KeyFile").Sets options tls.keyFile

theorem isSome_get?_iff (distinct : DistinctKeys options) {key : String} :
    (get? options key).isSome = true ↔ ∃ value, Given options key value := by
  simp only [Option.isSome_iff_exists, get?_eq_some_iff distinct]

/-- **The TLS settings are read exactly from acceptable options.** -/
theorem ofOptions_eq_ok_iff (distinct : DistinctKeys options) :
    ofOptions options = .ok tls ↔ Acceptable options ∧ Reflects options tls := by
  have together : ((get? options "CertFile").isSome = (get? options "KeyFile").isSome) ↔
      ((∃ file, Given options "CertFile" file) ↔ ∃ file, Given options "KeyFile" file) := by
    rw [← isSome_get?_iff distinct, ← isSome_get?_iff distinct, Bool.eq_iff_iff]
  unfold ofOptions
  simp only [bind_eq_ok_iff, flagRule_sets_iff distinct]
  constructor
  · rintro ⟨skip, sets, whole⟩
    split at whole
    case isTrue both =>
      obtain rfl := pure_eq_ok_iff.mp whole
      exact ⟨⟨sets.admits distinct, together.mp both⟩, sets,
        (optionalRule_sets_iff distinct).mp rfl, (optionalRule_sets_iff distinct).mp rfl,
        (optionalRule_sets_iff distinct).mp rfl⟩
    case isFalse => cases whole
  · rintro ⟨acceptable, reflects⟩
    refine ⟨tls.skipCertVerify, reflects.skipCertVerify, ?_⟩
    rw [if_pos (together.mpr acceptable.together), pure_eq_ok_iff,
      (optionalRule_sets_iff distinct).mpr reflects.caFile,
      (optionalRule_sets_iff distinct).mpr reflects.certFile,
      (optionalRule_sets_iff distinct).mpr reflects.keyFile]

/-- Acceptable options stand for settings. -/
theorem Acceptable.exists_reflects (distinct : DistinctKeys options)
    (acceptable : Acceptable options) : ∃ tls, Reflects options tls := by
  obtain ⟨skip, sets⟩ := acceptable.skipCertVerify.exists_sets distinct
  exact ⟨⟨skip, _, _, _⟩, sets, (optionalRule_sets_iff distinct).mp rfl,
    (optionalRule_sets_iff distinct).mp rfl, (optionalRule_sets_iff distinct).mp rfl⟩

theorem acceptable_nil : Acceptable [] where
  skipCertVerify := OptionRule.admits_nil
  together := by simp [Given]

theorem onlyConfiguration_ofOptions (options : OptionMap) :
    OnlyConfiguration (ofOptions options) := by
  exact .bind (onlyConfiguration_parsed _ _ _ _) fun skip =>
    .ite (onlyConfiguration_ok _) (onlyConfiguration_error _)

end TlsOptions

end MessageBus

/-
**The order of options.** Keys fit without regard to letter case and the first entry that fits
answers, so where several entries fit one key, their order decides.

* `Options.SameAnswers` — two maps give the same results under a key, whatever type is asked for.
* `Options.forall_order_sameAnswers_iff` — **every order of a map answers alike under a key exactly
  if all entries that fit the key stand for one value**.
* `BusConfig.order_immaterial_iff` — the same for the look-ups and the settings of a configuration;
  `order_matters` — two entries that differ in letter case alone, and two orders that disagree.
-/

import MessageBus.Config.Environment
import MessageBus.Proofs.Config.Validation

namespace MessageBus

namespace Options

variable {options order : OptionMap} {key : String}

/-- Two maps give the same results under a key, whatever type is asked for. -/
structure SameAnswers (options order : OptionMap) (key : String) : Prop where
  value : get? order key = get? options key
  text : ∀ default, Options.text order key default = Options.text options key default
  flag : ∀ default, Options.flag order key default = Options.flag options key default
  natural : ∀ limit default,
    Options.natural limit order key default = Options.natural limit options key default
  integer : ∀ limit default,
    Options.integer limit order key default = Options.integer limit options key default
  duration : ∀ default, Options.duration order key default = Options.duration options key default
  parsed : ∀ {α : Type} (default : α) parse,
    Options.parsed order key default parse = Options.parsed options key default parse

/-- All typed look-ups go by the text under the key. -/
theorem sameAnswers_of_get? (same : get? order key = get? options key) :
    SameAnswers options order key := by
  have typed : ∀ {α : Type} (default : α) parse,
      Options.parsed order key default parse = Options.parsed options key default parse := by
    intro α default parse
    unfold Options.parsed
    rw [same]
  exact
    { value := same
      text := fun default => by unfold Options.text; rw [same]
      flag := fun default => typed default _
      natural := fun limit default => typed default _
      integer := fun limit default => typed default _
      duration := fun default => typed default _
      parsed := typed }

/-- **Every order of a map answers alike under a key exactly if all entries that fit the key stand
for one value.** -/
theorem forall_order_sameAnswers_iff (options : OptionMap) (key : String) :
    (∀ order, options.Perm order → SameAnswers options order key) ↔ Agree options key := by
  constructor
  · intro alike entry member other otherMember answers otherAnswers
    -- Each of the two entries answers in an order of its own, and all orders answer alike.
    obtain ⟨one, onePerm, oneFound⟩ := exists_order member answers
    obtain ⟨two, twoPerm, twoFound⟩ := exists_order otherMember otherAnswers
    rw [← oneFound, ← twoFound, (alike one onePerm).value, (alike two twoPerm).value]
  · exact fun agree order perm => sameAnswers_of_get? (get?_of_perm agree perm)

end Options

namespace BusConfig

open Options (Agree OptionMap SameAnswers)

/-- **The order of options is immaterial exactly where entries that fit one key agree.** Under each
key, every order gives the same results exactly if all entries that fit the key stand for one value;
and if they do so under each key that a backend recognises, every order gives the same settings. -/
theorem order_immaterial_iff (freshId : String) (config : BusConfig) :
    (∀ key, (∀ order, config.options.Perm order → SameAnswers config.options order key) ↔
        Agree config.options key) ∧
      ((∀ key ∈ Mqtt.Options.keys, Agree config.options key) →
        ∀ order : OptionMap, config.options.Perm order →
          Mqtt.Options.ofConfig freshId { config with options := order } =
            Mqtt.Options.ofConfig freshId config) ∧
      ((∀ key ∈ Nats.Options.keys, Agree config.options key) →
        ∀ order : OptionMap, config.options.Perm order →
          Nats.Options.ofConfig freshId { config with options := order } =
            Nats.Options.ofConfig freshId config) :=
  ⟨Options.forall_order_sameAnswers_iff config.options,
    fun agree _ perm => Mqtt.Options.ofConfig_congr fun key listed =>
      Options.get?_of_perm (agree key listed) perm,
    fun agree _ perm => Nats.Options.ofConfig_congr fun key listed =>
      Options.get?_of_perm (agree key listed) perm⟩

/-- A configuration with given options, for a broker that both backends accept. -/
def ofPairs (options : OptionMap) : BusConfig :=
  { broker := { protocol := "tcp" }, options }

/-- Two entries fit `Username`; they agree, so both orders give the same settings. -/
theorem order_immaterial_iff_repeated :
    let config := ofPairs [("Username", "alice"), ("username", " alice ")]
    (∀ key ∈ Mqtt.Options.keys, Agree config.options key) ∧
      (∀ key ∈ Nats.Options.keys, Agree config.options key) ∧
      Mqtt.Options.ofConfig "1" (ofPairs [("username", " alice "), ("Username", "alice")]) =
        Mqtt.Options.ofConfig "1" config ∧
      Nats.Options.ofConfig "1" (ofPairs [("username", " alice "), ("Username", "alice")]) =
        Nats.Options.ofConfig "1" config := by
  intro config
  have agree : ∀ key, Agree config.options key := by
    intro key entry member other otherMember _ _
    have alice : ∀ entry ∈ config.options, Options.valueOf entry = some "alice" := by decide
    rw [alice entry member, alice other otherMember]
  have swap : config.options.Perm [("username", " alice "), ("Username", "alice")] :=
    List.Perm.swap _ _ _
  obtain ⟨-, mqtt, nats⟩ := order_immaterial_iff "1" config
  exact ⟨fun key _ => agree key, fun key _ => agree key, mqtt (fun key _ => agree key) _ swap,
    nats (fun key _ => agree key) _ swap⟩

/-- Two pairs whose keys differ in letter case alone are two entries of the map. In one order both
backends take the user name; in the other one the blank entry answers, and they take none. -/
theorem order_matters :
    let options := [("Username", "alice"), ("username", "")]
    parseOptionPairs "Username=alice,username=" = .ok options ∧
      (options.map Prod.fst).Nodup ∧ options.Perm options.reverse ∧
      Options.get? options "Username" = some "alice" ∧
      Options.get? options.reverse "Username" = none ∧
      (Mqtt.Options.ofConfig "1" (ofPairs options)).map (·.username) = .ok (some "alice") ∧
      (Mqtt.Options.ofConfig "1" (ofPairs options.reverse)).map (·.username) = .ok none ∧
      (Nats.Options.ofConfig "1" (ofPairs options)).map (·.username) = .ok (some "alice") ∧
      (Nats.Options.ofConfig "1" (ofPairs options.reverse)).map (·.username) = .ok none :=
  ⟨rfl, by decide, (List.reverse_perm _).symm, rfl, rfl, rfl, rfl, rfl, rfl⟩

end BusConfig

end MessageBus

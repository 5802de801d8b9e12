/-
**Which constructor builds a client.** A registry is changed any number of times; then a client is
built from a configuration.

* `Registry.Change`, `Registry.after` — calls that register and remove constructors, one after
  another.
* `Registry.get?_apply`, `Registry.get?_after` — what one change does to the constructor under each
  name, and what a run of changes does.
* `Registry.Stands`, `Registry.stands_iff` — **the last change of a name decides what stands under
  it**; names differ up to their normal form only.
* `Factory.Course`, `Factory.trace_build_iff` — how a client may be built: at most one constructor
  runs, once, and its result is the result.
* `Factory.build_after_exact` — all of this about every registry that changes lead to.
-/

import MessageBus.Factory
import MessageBus.Proofs.Config.Acceptance
import MessageBus.Proofs.Dialogue.Beside
import MessageBus.Proofs.StringMap

namespace MessageBus

open Dialogue (Exchange Trace trace_ask trace_done)

variable {C : Type}

/-! ### Changes of a registry -/

namespace Registry

/-- A call that changes a registry; the name may be spelled in any way. -/
inductive Change (C : Type)
  /-- A constructor is added, or replaces the one of that name. -/
  | register (spelling : String) (constructor : Constructor C)
  /-- The constructor of that name is dropped. -/
  | remove (spelling : String)

namespace Change

/-- The normal form of the name that a change is about. -/
def name : Change C → String
  | register spelling _ => normalize spelling
  | remove spelling => normalize spelling

/-- What a change leaves under its name. -/
def entry? : Change C → Option (Constructor C)
  | register _ constructor => some constructor
  | remove _ => none

/-- Carries a change out. -/
def apply (registry : Registry C) : Change C → Registry C
  | register spelling constructor => registry.register spelling constructor
  | remove spelling => registry.remove spelling

end Change

/-- The registry after some changes, the first one first. -/
def after (start : Registry C) (changes : List (Change C)) : Registry C :=
  changes.foldl Change.apply start

/-- What stands under a name in normal form after some changes of a registry. -/
inductive Stands (start : Registry C) (changes : List (Change C)) (name : String) :
    Option (Constructor C) → Prop
  /-- The last change of that name decides. -/
  | changed {front back : List (Change C)} {change : Change C}
      (whole : changes = front ++ change :: back) (same : change.name = name)
      (last : ∀ later ∈ back, later.name ≠ name) : Stands start changes name change.entry?
  /-- No change is about that name, so what stood there at the start is still there. -/
  | kept (others : ∀ change ∈ changes, change.name ≠ name) :
      Stands start changes name (start.constructors.get? name)

variable {registry start : Registry C} {changes : List (Change C)} {name : String}
  {entry : Option (Constructor C)}

/-- A change leaves what it says under its own name and nothing else anywhere else. -/
theorem get?_apply (registry : Registry C) (change : Change C) (name : String) :
    (change.apply registry).constructors.get? name =
      if change.name = name then change.entry? else registry.constructors.get? name := by
  simp only [eq_comm (a := change.name)]
  cases change with
  | register spelling constructor => exact StringMap.get?_insert _ _ _ _
  | remove spelling => exact StringMap.get?_erase _ _ _

/-- After some changes, the last one of a name has decided about that name. -/
theorem get?_after (start : Registry C) (changes : List (Change C)) (name : String) :
    (start.after changes).constructors.get? name =
      match changes.reverse.find? fun change => change.name = name with
      | some change => change.entry?
      | none => start.constructors.get? name := by
  -- From the right end the changes are met the last one first.
  rw [after, ← List.foldr_reverse]
  induction changes.reverse with
  | nil => rfl
  | cons latest earlier ih =>
    rw [List.foldr_cons, get?_apply, ih, List.find?_cons]
    by_cases same : latest.name = name <;> simp [same]

/-- The last change of a name, if there is one. -/
theorem find?_reverse_eq_some_iff {change : Change C} :
    (changes.reverse.find? fun change => change.name = name) = some change ↔
      ∃ front back, changes = front ++ change :: back ∧ change.name = name ∧
        ∀ later ∈ back, later.name ≠ name := by
  rw [List.find?_eq_some_iff_append]
  simp only [decide_eq_true_eq, Bool.not_eq_true', decide_eq_false_iff_not]
  constructor
  · rintro ⟨same, back, front, whole, last⟩
    refine ⟨front.reverse, back.reverse, ?_, same, fun later member => ?_⟩
    · rw [List.reverse_eq_iff.mp whole]
      simp
    · exact last later (List.mem_reverse.mp member)
  · rintro ⟨front, back, rfl, same, last⟩
    refine ⟨same, back.reverse, front.reverse, by simp, fun later member => ?_⟩
    exact last later (List.mem_reverse.mp member)

/-- **The last change of a name decides what stands under it.** -/
theorem stands_iff :
    Stands start changes name entry ↔ (start.after changes).constructors.get? name = entry := by
  rw [get?_after]
  constructor
  · intro stands
    cases stands with
    | changed whole same last => rw [find?_reverse_eq_some_iff.mpr ⟨_, _, whole, same, last⟩]
    | kept others =>
      have none : (changes.reverse.find? fun change => change.name = name) = none := by
        simpa using others
      rw [none]
  · rintro rfl
    cases found : changes.reverse.find? fun change => change.name = name with
    | some change =>
      obtain ⟨front, back, whole, same, last⟩ := find?_reverse_eq_some_iff.mp found
      exact .changed whole same last
    | none => exact .kept (by simpa using found)

/-- Under each name, one thing stands: a constructor, or nothing. -/
theorem existsUnique_stands (start : Registry C) (changes : List (Change C)) (name : String) :
    ∃! entry, Stands start changes name entry :=
  ⟨_, stands_iff.mpr rfl, fun _ stands => (stands_iff.mp stands).symm⟩

/-- A registry has a constructor under every spelling of a name under which one stands. -/
theorem contains_after_iff {spelling : String} :
    (start.after changes).contains spelling = true ↔
      ∃ constructor, Stands start changes (normalize spelling) (some constructor) := by
  simp only [stands_iff, contains, StringMap.contains, Option.isSome_iff_exists]

/-- The constructors of the built-in backends stand under their names, and nothing else does. -/
theorem get?_ofBackends (mqtt core jetStream : Constructor C) (name : String) :
    (ofBackends mqtt core jetStream).constructors.get? name =
      if name = typeMqtt then some mqtt
      else if name = typeNatsCore then some core
      else if name = typeNatsJetStream then some jetStream
      else none := by
  have mqttName : normalize typeMqtt = typeMqtt := by decide +kernel
  have coreName : normalize typeNatsCore = typeNatsCore := by decide +kernel
  have streamName : normalize typeNatsJetStream = typeNatsJetStream := by decide +kernel
  unfold ofBackends register
  simp only [StringMap.get?_insert, mqttName, coreName, streamName, empty, StringMap.get?_empty]
  -- The three names differ, so it does not matter which of them is asked for first.
  by_cases isMqtt : name = typeMqtt
  · subst isMqtt
    rfl
  · by_cases isCore : name = typeNatsCore
    · subst isCore
      rfl
    · simp only [isMqtt, isCore, if_false]

end Registry

/-! ### Building a client -/

namespace Factory

open Registry (Change Stands)

/-- The runs of constructors while a client is built from a configuration, and what comes of it. -/
inductive Course (start : Registry C) (changes : List (Change C)) (config : BusConfig) :
    List (Exchange (construction C)) → BusResult C → Prop
  /-- The configuration addresses no broker or names no backend. -/
  | invalid {text : String} (unaddressed : ¬ config.IsAddressed)
      (refused : config.validate = .error (.configuration text)) :
      Course start changes config [] (.error (.configuration text))
  /-- The constructor that stands under the type runs once on the configuration, whatever comes of
  it. -/
  | built {constructor : Constructor C} (addressed : config.IsAddressed)
      (stands : Stands start changes config.normalizedType (some constructor))
      (result : BusResult C) :
      Course start changes config [⟨(constructor, config), result⟩] result
  /-- The type has a built-in backend, but nothing stands under it. -/
  | notEnabled (addressed : config.IsAddressed)
      (none : Stands start changes config.normalizedType none)
      (known : config.normalizedType ∈ [typeMqtt, typeNatsCore, typeNatsJetStream]) :
      Course start changes config [] (.error (.notEnabled config.normalizedType))
  /-- Nothing is known under the type. -/
  | unknown (addressed : config.IsAddressed)
      (none : Stands start changes config.normalizedType none)
      (unknown : config.normalizedType ∉ [typeMqtt, typeNatsCore, typeNatsJetStream]) :
      Course start changes config [] (.error (.configuration
        ("unknown message bus type '" ++ config.busType ++
          "', expected one of mqtt, nats-core, nats-jetstream")))

variable {start : Registry C} {changes : List (Change C)} {config : BusConfig} {inert : C}

/-- A factory has the constructor run that is registered for the type. -/
theorem build_of_registered {registry : Registry C} {constructor : Constructor C} (inert : C)
    (addressed : config.IsAddressed)
    (found : registry.constructors.get? config.normalizedType = some constructor) :
    (Factory.mk registry true).build inert config =
      .ask (I := construction C) (constructor, config) .done := by
  simp only [build, if_true, BusConfig.validate_eq_ok_iff.mpr addressed, found]

theorem build_of_unregistered {registry : Registry C} (inert : C) (addressed : config.IsAddressed)
    (absent : registry.constructors.get? config.normalizedType = none) :
    (Factory.mk registry true).build inert config = .done (.error (missing config)) := by
  simp only [build, if_true, BusConfig.validate_eq_ok_iff.mpr addressed, absent]

/-- A factory asks nothing about a configuration that is not valid. -/
theorem build_of_refused (registry : Registry C) (inert : C) {error : BusError}
    (refused : config.validate = .error error) :
    (Factory.mk registry true).build inert config = .done (.error error) := by
  simp only [build, if_true, refused]

theorem missing_of_known (known : config.normalizedType ∈ knownTypes) :
    missing config = .notEnabled config.normalizedType :=
  if_pos known

theorem missing_of_unknown (unknown : config.normalizedType ∉ knownTypes) :
    missing config = .configuration ("unknown message bus type '" ++ config.busType ++
      "', expected one of mqtt, nats-core, nats-jetstream") := by
  have names : "', expected one of " ++ String.intercalate ", " knownTypes =
      "', expected one of mqtt, nats-core, nats-jetstream" := by decide
  rw [missing, if_neg unknown, String.append_assoc, names]

/-- **A client is built in one of the four ways.** -/
theorem trace_build_iff {log : List (Exchange (construction C))} {result : BusResult C} :
    Trace ((Factory.mk (start.after changes) true).build inert config) log result ↔
      Course start changes config log result := by
  constructor
  · intro trace
    rcases BusConfig.validate_cases config with ⟨addressed, -⟩ | ⟨unaddressed, text, refused⟩
    · cases found : (start.after changes).constructors.get? config.normalizedType with
      | some constructor =>
        rw [build_of_registered inert addressed found] at trace
        obtain ⟨answer, rest, rfl, ended⟩ := trace_ask.mp trace
        obtain ⟨rfl, rfl⟩ := trace_done.mp ended
        exact .built addressed (Registry.stands_iff.mpr found) _
      | none =>
        rw [build_of_unregistered inert addressed found] at trace
        obtain ⟨rfl, rfl⟩ := trace_done.mp trace
        have none := Registry.stands_iff.mpr found
        by_cases known : config.normalizedType ∈ knownTypes
        · rw [missing_of_known known]
          exact .notEnabled addressed none known
        · rw [missing_of_unknown known]
          exact .unknown addressed none known
    · rw [build_of_refused _ inert refused] at trace
      obtain ⟨rfl, rfl⟩ := trace_done.mp trace
      exact .invalid unaddressed refused
  · intro course
    cases course with
    | invalid unaddressed refused =>
      rw [build_of_refused _ inert refused]
      exact .done _
    | built addressed stands result =>
      rw [build_of_registered inert addressed (Registry.stands_iff.mp stands)]
      exact trace_ask.mpr ⟨result, [], rfl, .done result⟩
    | notEnabled addressed none known =>
      rw [build_of_unregistered inert addressed (Registry.stands_iff.mp none),
        missing_of_known known]
      exact .done _
    | unknown addressed none unknown =>
      rw [build_of_unregistered inert addressed (Registry.stands_iff.mp none),
        missing_of_unknown unknown]
      exact .done _

theorem trace_build_disabled_iff {log : List (Exchange (construction C))} {result : BusResult C} :
    Trace (Factory.disabled.build inert config) log result ↔ log = [] ∧ result = .ok inert :=
  trace_done

/-- A client that is created is one that is built by constructors with their own results. -/
theorem exists_course_create (start : Registry C) (changes : List (Change C)) (inert : C)
    (config : BusConfig) :
    ∃ log, Course start changes config log
        ((Factory.mk (start.after changes) true).create inert config) ∧
      ∀ run ∈ log, run.2 = run.1.1 run.1.2 := by
  obtain ⟨log, trace, answers⟩ := Dialogue.exists_trace_run construct
    ((Factory.mk (start.after changes) true).build inert config) ()
  exact ⟨log, trace_build_iff.mp trace, fun run member => (answers run member).choose_spec⟩

/-- **A client is built by the constructor that was registered last.** The registry may have changed
in any way since it was empty or had the built-in backends, and names may be spelled in any way. -/
theorem build_after_exact (start : Registry C) (changes : List (Change C)) (inert : C)
    (config : BusConfig) :
    (∀ log result,
      Trace ((Factory.mk (start.after changes) true).build inert config) log result ↔
        Course start changes config log result) ∧
    (∃ log, Course start changes config log
        ((Factory.mk (start.after changes) true).create inert config) ∧
      ∀ run ∈ log, run.2 = run.1.1 run.1.2) ∧
    (∀ name, ∃! entry, Stands start changes name entry) ∧
    (∀ spelling, (start.after changes).contains spelling = true ↔
      ∃ constructor, Stands start changes
        { config with busType := spelling : BusConfig}.normalizedType (some constructor)) ∧
    (∀ name, (Registry.empty : Registry C).constructors.get? name = none) ∧
    (∀ freshId name, (Registry.builtIn freshId).constructors.get? name =
      if name = "mqtt" then some (Backend.mqttConstructor freshId)
      else if name = "nats-core" then some (Backend.natsConstructor .core freshId)
      else if name = "nats-jetstream" then some (Backend.natsConstructor .jetStream freshId)
      else none) ∧
    (∀ log result, Trace (Factory.disabled.build inert config) log result ↔
      log = [] ∧ result = .ok inert) ∧
    Factory.disabled.create inert config = .ok inert :=
  ⟨fun _ _ => trace_build_iff, exists_course_create start changes inert config,
    Registry.existsUnique_stands start changes, fun _ => Registry.contains_after_iff, fun _ => rfl,
    fun _ => Registry.get?_ofBackends _ _ _, fun _ _ => trace_build_disabled_iff, rfl⟩

example :
    (Factory.create ⟨Registry.empty.after [.register " Kafka" fun _ => .ok 1, .remove "KAFKA",
        .register "kafka\t" fun _ => .ok 2], true⟩ 0 { busType := "KaFKA " }).toOption = some 2 := by
  decide +kernel

end Factory

end MessageBus

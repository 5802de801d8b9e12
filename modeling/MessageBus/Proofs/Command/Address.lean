/-
**Subjects of commands.** Where the requests for device commands are published on a server with
dotted subjects, when names are escaped.

* `CommandConfig.commandSubject` — the subject of one command of a device.
* `commandTopic_toList` — the topic is that of all requests, with a level for each of the three.
* `commandSubject_toList` — escaping keeps out all that has a meaning in topics, but not the dot:
  the subject is that of all requests, then the escaped form of both names with a dot between them,
  and the method.
* `commandSubject_eq_iff` — **two commands have one subject exactly if the methods are the same and
  so are the names with a dot between them**, so names are told apart where the devices or the
  commands have no dots.
-/

import MessageBus.Command
import MessageBus.Proofs.Text.Percent
import MessageBus.Proofs.Topic.Response

namespace MessageBus

open Text

/-! ### Levels of a topic -/

/-- A level that is not empty and holds no separator goes behind what there is. -/
theorem Topic.append_level {topic level : List Char} (begun : topic ≠ []) (named : level ≠ [])
    (clean : ∀ c ∈ level, c ≠ '/') : Topic.append topic level = topic ++ '/' :: level := by
  have whole := trimWhere_of_clean clean
  rcases append_cases topic level with ⟨vanishes, -⟩ | ⟨-, ⟨empty, -⟩ | ⟨-, joined⟩⟩
  · exact absurd (whole.symm.trans vanishes) named
  · exact absurd empty begun
  · rw [joined, whole]
    rfl

/-- A topic is not empty once it has a level. -/
theorem Topic.append_ne_nil {level : List Char} (topic : List Char) (named : level ≠ [])
    (clean : ∀ c ∈ level, c ≠ '/') : Topic.append topic level ≠ [] := by
  have whole := trimWhere_of_clean clean
  rcases append_cases topic level with ⟨vanishes, -⟩ | ⟨stays, ⟨-, begins⟩ | ⟨-, joined⟩⟩
  · exact absurd (whole.symm.trans vanishes) named
  · rwa [begins]
  · simp [joined]

namespace TopicBuilder

/-- A further part goes behind the topic built so far. -/
theorem build_segment {builder : TopicBuilder} (begun : builder.parts ≠ []) (part : String) :
    (builder.segment part).build.toList = Topic.append builder.build.toList part.toList := by
  obtain ⟨_ | ⟨first, rest⟩, escapes⟩ := builder
  · exact absurd rfl begun
  · simp [build, segment, buildTopic, Topic.join]

/-- A name is escaped before it goes there. -/
theorem build_escaped {builder : TopicBuilder} (begun : builder.parts ≠ [])
    (escapes : builder.escapes = true) (name : String) :
    (builder.escaped name).build.toList =
      Topic.append builder.build.toList (Percent.escapeSegment name).toList := by
  rw [escaped, if_pos escapes, build_segment begun]

end TopicBuilder

/-! ### The subject of a command -/

namespace CommandConfig

variable {config : CommandConfig} {device command other otherCommand : String}
  {method otherMethod : CommandMethod}

/-- The subject under which the request for a device command is published. -/
def commandSubject (config : CommandConfig) (device command : String) (method : CommandMethod) :
    String :=
  topicToSubject (config.commandTopic device command method)

theorem method_name_clean (method : CommandMethod) :
    method.name.toList ≠ [] ∧ ∀ c ∈ method.name.toList, c ≠ '/' ∧ c ≠ '+' ∧ c ≠ '#' := by
  cases method <;> simp [CommandMethod.name]

theorem requestTopic_ne_nil (config : CommandConfig) : config.requestTopic.build.toList ≠ [] := by
  unfold requestTopic
  rw [TopicBuilder.build_segment (by simp [TopicBuilder.segment])]
  exact Topic.append_ne_nil _ (by simp) (by simp)

/-- **The topic of a command** is that of all requests, with a level for the device, the command and
the method. -/
theorem commandTopic_toList (escapes : config.escapeNames = true) (namedDevice : device ≠ "")
    (namedCommand : command ≠ "") (method : CommandMethod) :
    (config.commandTopic device command method).toList =
      config.requestTopic.build.toList ++ '/' :: ((Percent.escapeSegment device).toList ++
        '/' :: ((Percent.escapeSegment command).toList ++ '/' :: method.name.toList)) := by
  have level : ∀ {topic : List Char} {name : String}, topic ≠ [] → name ≠ "" →
      Topic.append topic (Percent.escapeSegment name).toList =
        topic ++ '/' :: (Percent.escapeSegment name).toList := fun begun named =>
    Topic.append_level begun (by simpa using mt Percent.escapeSegment_eq_empty.mp named)
      fun c member => (Percent.clean_of_mem_escapeSegment member).1
  unfold commandTopic
  rw [TopicBuilder.build_segment (by simp [TopicBuilder.escaped, TopicBuilder.segment]),
    TopicBuilder.build_escaped (by simp [TopicBuilder.escaped, TopicBuilder.segment]) escapes,
    TopicBuilder.build_escaped (by simp [requestTopic, TopicBuilder.segment]) escapes,
    level (requestTopic_ne_nil config) namedDevice, level (by simp) namedCommand,
    Topic.append_level (by simp) (method_name_clean method).1
      fun c member => ((method_name_clean method).2 c member).1]
  simp only [List.append_assoc, List.cons_append]

/-- **The subject of a command** is that of all requests, the escaped form of both names with a dot
between them, and the method. -/
theorem commandSubject_toList (escapes : config.escapeNames = true) (namedDevice : device ≠ "")
    (namedCommand : command ≠ "") (method : CommandMethod) :
    (config.commandSubject device command method).toList =
      config.requestTopic.build.toList.map Subject.ofTopicChar ++
        '.' :: ((Percent.escapeSegment (device ++ "." ++ command)).toList ++
          '.' :: method.name.toList) := by
  have dot : Subject.ofTopicChar '/' = '.' := rfl
  have spelled : ".".toList = ['.'] := rfl
  rw [commandSubject, topicToSubject, String.toList_ofList,
    commandTopic_toList escapes namedDevice namedCommand, Percent.escapeSegment_append,
    Percent.escapeSegment_append, Percent.escapeSegment_dot]
  simp only [List.map_append, List.map_cons, dot, String.toList_append, List.append_assoc,
    map_ofTopicChar_of_clean fun c => Percent.clean_of_mem_escapeSegment,
    map_ofTopicChar_of_clean (method_name_clean method).2, spelled, List.cons_append,
    List.nil_append]

/-- Methods have names of one length, so they are told apart behind any two names. -/
theorem append_method_inj {text otherText : List Char} :
    text ++ '.' :: method.name.toList = otherText ++ '.' :: otherMethod.name.toList ↔
      text = otherText ∧ method = otherMethod := by
  have length : ∀ method : CommandMethod, ('.' :: method.name.toList).length = 4 := by
    intro method
    cases method <;> decide
  constructor
  · intro same
    obtain ⟨front, ending⟩ := List.append_inj' same ((length _).trans (length _).symm)
    refine ⟨front, ?_⟩
    cases method <;> cases otherMethod <;> first | rfl | exact absurd ending (by decide)
  · rintro ⟨rfl, rfl⟩
    rfl

/-- Names without dots are told apart from what stands behind the next dot. -/
theorem append_dot_inj : ∀ {name otherName rest otherRest : List Char}, '.' ∉ name →
    '.' ∉ otherName → name ++ '.' :: rest = otherName ++ '.' :: otherRest →
      name = otherName ∧ rest = otherRest
  | [], [], _, _, _, _, same => ⟨rfl, (List.cons.inj same).2⟩
  | [], c :: otherName, _, _, _, undotted, same =>
    absurd ((List.cons.inj same).1 ▸ List.mem_cons_self) undotted
  | c :: name, [], _, _, undotted, _, same =>
    absurd ((List.cons.inj same).1 ▸ List.mem_cons_self) undotted
  | c :: name, d :: otherName, _, _, undotted, undottedOther, same => by
    obtain ⟨first, rest⟩ := List.cons.inj same
    obtain ⟨names, rests⟩ := append_dot_inj (mt (List.mem_cons_of_mem c) undotted)
      (mt (List.mem_cons_of_mem d) undottedOther) rest
    exact ⟨by rw [first, names], rests⟩

/-- Names are told apart from what stands before the last dot if they have none themselves. -/
theorem append_dot_inj_right {name otherName rest otherRest : List Char} (undotted : '.' ∉ rest)
    (undottedOther : '.' ∉ otherRest) (same : name ++ '.' :: rest = otherName ++ '.' :: otherRest) :
    name = otherName ∧ rest = otherRest := by
  have turned : rest.reverse ++ '.' :: name.reverse =
      otherRest.reverse ++ '.' :: otherName.reverse := by
    simpa using congrArg List.reverse same
  obtain ⟨rests, names⟩ := append_dot_inj (by simpa using undotted) (by simpa using undottedOther)
    turned
  exact ⟨List.reverse_inj.mp names, List.reverse_inj.mp rests⟩

/-- **Two commands have one subject exactly if their methods are the same and so are their names
with a dot between them.** Escaped names keep their dots, which are no topic structure but separate
the levels of a subject; so commands are told apart where their devices, or their names, have no
dots. -/
theorem commandSubject_eq_iff (config : CommandConfig)
    (device command otherDevice otherCommand : String) (method otherMethod : CommandMethod)
    (escapes : config.escapeNames = true) (namedDevice : device ≠ "") (namedCommand : command ≠ "")
    (namedOther : otherDevice ≠ "") (namedOtherCommand : otherCommand ≠ "") :
    (config.commandSubject device command method =
        config.commandSubject otherDevice otherCommand otherMethod ↔
      device ++ "." ++ command = otherDevice ++ "." ++ otherCommand ∧ method = otherMethod) ∧
    ('.' ∉ device.toList ∧ '.' ∉ otherDevice.toList ∨
        '.' ∉ command.toList ∧ '.' ∉ otherCommand.toList →
      config.commandSubject device command method =
          config.commandSubject otherDevice otherCommand otherMethod →
        (device, command, method) = (otherDevice, otherCommand, otherMethod)) := by
  have shared : config.commandSubject device command method =
        config.commandSubject otherDevice otherCommand otherMethod ↔
      device ++ "." ++ command = otherDevice ++ "." ++ otherCommand ∧ method = otherMethod := by
    rw [← String.toList_inj, commandSubject_toList escapes namedDevice namedCommand,
      commandSubject_toList escapes namedOther namedOtherCommand, List.append_cancel_left_eq,
      List.cons.injEq, append_method_inj, String.toList_inj, Percent.escapeSegment_inj]
    simp only [true_and]
  refine ⟨shared, fun undotted same => ?_⟩
  obtain ⟨names, rfl⟩ := shared.mp same
  have spelled : device.toList ++ '.' :: command.toList =
      otherDevice.toList ++ '.' :: otherCommand.toList := by
    simpa using congrArg String.toList names
  obtain ⟨devices, commands⟩ : device.toList = otherDevice.toList ∧
      command.toList = otherCommand.toList := by
    obtain ⟨plain, plainOther⟩ | ⟨plain, plainOther⟩ := undotted
    · exact append_dot_inj plain plainOther spelled
    · exact append_dot_inj_right plain plainOther spelled
  rw [String.toList_inj.mp devices, String.toList_inj.mp commands]

/-- Dots between the parts of a name: a device `a.b` with a command `c` and a device `a` with a
command `b.c` share their subject, and a name that only looks escaped has another one. -/
theorem commandSubject_eq_iff_dotted :
    ({ escapeNames := true } : CommandConfig).commandSubject "a.b" "c" .get =
      ({ escapeNames := true } : CommandConfig).commandSubject "a" "b.c" .get ∧
    ({ escapeNames := true } : CommandConfig).commandSubject "plant/1" "#ü" .set ≠
      ({ escapeNames := true } : CommandConfig).commandSubject "plant%2F1" "#ü" .set :=
  ⟨((commandSubject_eq_iff _ "a.b" "c" "a" "b.c" .get .get rfl (by decide) (by decide) (by decide)
      (by decide)).1).mpr (by decide),
    fun same => absurd ((commandSubject_eq_iff _ "plant/1" "#ü" "plant%2F1" "#ü" .set .set rfl
      (by decide) (by decide) (by decide) (by decide)).2 (.inl (by decide)) same) (by decide)⟩

/-- Escaped names of two commands run into each other: the subject does not tell where the name of
the device ends. -/
theorem commandSubject_not_injective : ¬ ∀ (config : CommandConfig)
    (device command otherDevice otherCommand : String) (method otherMethod : CommandMethod),
    config.escapeNames = true → device ≠ "" → command ≠ "" → otherDevice ≠ "" → otherCommand ≠ "" →
      (device, command, method) ≠ (otherDevice, otherCommand, otherMethod) →
        config.commandSubject device command method ≠
          config.commandSubject otherDevice otherCommand otherMethod := fun injective =>
  injective { escapeNames := true } "a.b" "c" "a" "b.c" .get .get rfl (by decide) (by decide)
    (by decide) (by decide) (by decide) (by decide +kernel)

end CommandConfig

end MessageBus

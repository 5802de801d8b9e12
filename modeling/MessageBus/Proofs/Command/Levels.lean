/-
**Levels of command topics.** What the topics of device commands are made of when names are escaped.

* `Topic.properLevels` — the levels of a topic, none for the empty one; a level without separators
  is added by appending it (`properLevels_append`).
* `CommandConfig.baseLevels` — the levels that the base brings.
* `levels_commandTopic`, `levels_queryTopic` — the topics level by level.
* `commandTopic_ne_queryTopic`, `queryTopic_eq_iff` — no command is taken for a query, and a query
  for one device is that for all devices only if the device has this name.
* `commandTopics_unambiguous` — **the escaped names have levels of their own and come back from
  them**, so the topics tell commands from queries.
-/

import MessageBus.Proofs.Command.Address

namespace MessageBus

open Text

namespace Topic

/-- The levels of a topic, none for the empty one. -/
def properLevels (topic : List Char) : List (List Char) :=
  if topic = [] then [] else levels topic

theorem properLevels_of_ne_nil {topic : List Char} (begun : topic ≠ []) :
    properLevels topic = levels topic :=
  if_neg begun

/-- **A level without separators is added** to those that there are. -/
theorem properLevels_append {level : List Char} (topic : List Char) (named : level ≠ [])
    (clean : ∀ c ∈ level, c ≠ '/') :
    properLevels (append topic level) = properLevels topic ++ [level] := by
  have alone : levels level = [level] :=
    List.splitOn_eq_singleton fun member => clean separator member rfl
  rw [properLevels_of_ne_nil (append_ne_nil topic named clean)]
  by_cases begun : topic = []
  · have whole := trimWhere_of_clean clean
    have bare : append [] level = level := by simp [append, whole]
    rw [begun, bare, alone]
    rfl
  · rw [append_level begun named clean, properLevels_of_ne_nil begun, ← alone]
    exact List.splitOn_append_cons_self topic level

end Topic

open Topic

namespace TopicBuilder

/-- A part without separators is one more level of the topic. -/
theorem properLevels_segment {builder : TopicBuilder} {part : String} (begun : builder.parts ≠ [])
    (named : part ≠ "") (clean : ∀ c ∈ part.toList, c ≠ '/') :
    properLevels (builder.segment part).build.toList =
      properLevels builder.build.toList ++ [part.toList] := by
  rw [build_segment begun]
  exact properLevels_append _ (by simpa using named) clean

/-- So is an escaped name. -/
theorem properLevels_escaped {builder : TopicBuilder} {name : String} (begun : builder.parts ≠ [])
    (escapes : builder.escapes = true) (named : name ≠ "") :
    properLevels (builder.escaped name).build.toList =
      properLevels builder.build.toList ++ [(Percent.escapeSegment name).toList] := by
  rw [escaped, if_pos escapes]
  exact properLevels_segment begun (mt Percent.escapeSegment_eq_empty.mp named)
    fun c member => (Percent.clean_of_mem_escapeSegment member).1

end TopicBuilder

namespace CommandConfig

variable {config other : CommandConfig} {device command : String}

/-- The levels that the base brings: those of its text without the separators at the end, and none
if nothing is left of that. -/
def baseLevels (config : CommandConfig) : List (List Char) :=
  properLevels (trimEndWhere isSeparator config.baseTopic.toList)

/-! ### Level by level -/

/-- All requests go under two levels behind the base. -/
theorem properLevels_requestTopic (config : CommandConfig) :
    properLevels config.requestTopic.build.toList =
      config.baseLevels ++ ["core-command".toList, "request".toList] := by
  have begun : ((TopicBuilder.start config.baseTopic).escapeNames config.escapeNames).parts ≠ [] :=
    List.cons_ne_nil _ _
  have base : ((TopicBuilder.start config.baseTopic).escapeNames config.escapeNames).build.toList =
      trimEndWhere isSeparator config.baseTopic.toList := toList_buildTopic [config.baseTopic]
  rw [requestTopic, TopicBuilder.properLevels_segment (by simp [TopicBuilder.segment]) (by decide)
    (by simp), TopicBuilder.properLevels_segment begun (by decide) (by simp [coreCommand]), base,
    List.append_assoc]
  rfl

/-- **The topic of a command, level by level.** -/
theorem levels_commandTopic (escapes : config.escapeNames = true) (namedDevice : device ≠ "")
    (namedCommand : command ≠ "") (method : CommandMethod) :
    levels (config.commandTopic device command method).toList =
      config.baseLevels ++ ["core-command".toList, "request".toList,
        (Percent.escapeSegment device).toList, (Percent.escapeSegment command).toList,
        method.name.toList] := by
  obtain ⟨named, clean⟩ := method_name_clean method
  have begun : (config.commandTopic device command method).toList ≠ [] := by
    rw [commandTopic_toList escapes namedDevice namedCommand]
    exact List.append_ne_nil_of_right_ne_nil _ (List.cons_ne_nil _ _)
  rw [← properLevels_of_ne_nil begun, commandTopic,
    TopicBuilder.properLevels_segment (by simp [TopicBuilder.escaped, TopicBuilder.segment])
      (by simpa using named) fun c member => (clean c member).1,
    TopicBuilder.properLevels_escaped (by simp [TopicBuilder.escaped, TopicBuilder.segment]) escapes
      namedCommand,
    TopicBuilder.properLevels_escaped (by simp [requestTopic, TopicBuilder.segment]) escapes
      namedDevice, properLevels_requestTopic]
  simp only [List.append_assoc, List.cons_append, List.nil_append]

/-- The last level of the topic for the commands of a device, or of all devices. -/
def queried : Option String → List Char
  | some device => (Percent.escapeSegment device).toList
  | none => "all".toList

/-- **The topic of a query, level by level.** -/
theorem levels_queryTopic (escapes : config.escapeNames = true) {device : Option String}
    (named : ∀ name ∈ device, name ≠ "") :
    levels (config.queryTopic device).toList =
      config.baseLevels ++ ["core-command".toList, "request".toList, "query".toList,
        queried device] := by
  have begun : config.requestTopic.parts ≠ [] := by simp [requestTopic, TopicBuilder.segment]
  have query : properLevels (config.requestTopic.segment "query").build.toList =
      properLevels config.requestTopic.build.toList ++ ["query".toList] :=
    TopicBuilder.properLevels_segment begun (by decide) (by simp)
  rw [properLevels_requestTopic] at query
  have proper : properLevels (config.queryTopic device).toList =
      properLevels (config.requestTopic.segment "query").build.toList ++ [queried device] := by
    cases device with
    | none =>
      exact TopicBuilder.properLevels_segment (by simp [TopicBuilder.segment]) (by decide)
        (by simp)
    | some name =>
      exact TopicBuilder.properLevels_escaped (by simp [TopicBuilder.segment]) escapes
        (named name rfl)
  rw [query] at proper
  rw [← properLevels_of_ne_nil, proper]
  · simp only [List.append_assoc, List.cons_append, List.nil_append]
  · rintro empty
    rw [empty] at proper
    simp [properLevels] at proper

/-! ### Commands and queries -/

/-- **No command has the topic of a query**, not even under another base. -/
theorem commandTopic_ne_queryTopic (escapes : config.escapeNames = true)
    (escapesOther : other.escapeNames = true) (namedDevice : device ≠ "")
    (namedCommand : command ≠ "") (method : CommandMethod) {queriedDevice : Option String}
    (named : ∀ name ∈ queriedDevice, name ≠ "") :
    config.commandTopic device command method ≠ other.queryTopic queriedDevice := by
  intro same
  have aligned := levels_commandTopic escapes namedDevice namedCommand method
  rw [same, levels_queryTopic escapesOther named, List.append_cons config.baseLevels] at aligned
  -- The fourth level from the end is that of all requests in one and of the service in the other.
  have ending := (List.append_inj' aligned (by simp only [List.length_cons])).2
  simp at ending

/-- **The query for a device is that for all devices only if the device has this name.** -/
theorem queryTopic_eq_iff (escapes : config.escapeNames = true) (named : device ≠ "") :
    config.queryTopic (some device) = config.queryTopic none ↔ device = "all" := by
  have all : Percent.escapeSegment "all" = "all" := by decide
  constructor
  · intro same
    have one := @levels_queryTopic config escapes (some device) (by simpa using named)
    have every := @levels_queryTopic config escapes none (by simp)
    rw [same, every, List.append_cancel_left_eq] at one
    have last : "all".toList = (Percent.escapeSegment device).toList := by
      simpa [queried] using one
    rw [String.toList_inj, ← all, Percent.escapeSegment_inj] at last
    exact last.symm
  · rintro rfl
    have begun : (config.requestTopic.segment "query").escapes = true := escapes
    rw [queryTopic, queryTopic, TopicBuilder.escaped, if_pos begun, all]

/-- **Topics of commands with escaped names are unambiguous.** A command has the levels of the base,
two for all requests, one for each of the names in their escaped form, and the method; a query has
the levels of the base, two for all requests, one for queries, and the escaped device. Escaped names
are made of letters, digits and five marks, none of them with a meaning in topics, and each name
comes back from its escaped form. So no command has the topic of a query, and the query for a device
is that for all devices only if the device has this name. -/
theorem commandTopics_unambiguous :
    (∀ (config : CommandConfig) (device command : String) (method : CommandMethod),
      config.escapeNames = true → device ≠ "" → command ≠ "" →
        levels (config.commandTopic device command method).toList =
          config.baseLevels ++ ["core-command".toList, "request".toList,
            (Percent.escapeSegment device).toList, (Percent.escapeSegment command).toList,
            method.name.toList]) ∧
    (∀ name : String,
      (∀ c ∈ (Percent.escapeSegment name).toList,
        Percent.IsEscapedChar c ∧ c ≠ '/' ∧ c ≠ '+' ∧ c ≠ '#') ∧
      Utf8.text? (Percent.unescape (Utf8.bytes (Percent.escapeSegment name))) = some name) ∧
    (∀ (config : CommandConfig) (device : String), config.escapeNames = true → device ≠ "" →
      levels (config.queryTopic (some device)).toList =
        config.baseLevels ++ ["core-command".toList, "request".toList, "query".toList,
          (Percent.escapeSegment device).toList]) ∧
    (∀ (config other : CommandConfig) (device command : String) (method : CommandMethod)
      (queriedDevice : Option String), config.escapeNames = true → other.escapeNames = true →
        device ≠ "" → command ≠ "" → (∀ name ∈ queriedDevice, name ≠ "") →
          config.commandTopic device command method ≠ other.queryTopic queriedDevice) ∧
    (∀ (config : CommandConfig) (device : String), config.escapeNames = true → device ≠ "" →
      (config.queryTopic (some device) = config.queryTopic none ↔ device = "all")) := by
  refine ⟨fun config device command method escapes namedDevice namedCommand =>
      levels_commandTopic escapes namedDevice namedCommand method, fun name => ⟨?_, ?_⟩,
    fun config device escapes named => levels_queryTopic escapes (by simpa using named),
    fun config other device command method queriedDevice escapes escapesOther namedDevice
      namedCommand => commandTopic_ne_queryTopic escapes escapesOther namedDevice namedCommand method,
    fun config device => queryTopic_eq_iff⟩
  · exact fun c member => ⟨Percent.isEscapedChar_of_mem_escapeSegment member,
      Percent.clean_of_mem_escapeSegment member⟩
  · exact Percent.text?_unescape_escapeSegment name

/-- Names that look like the end of another topic keep to their levels, under a base that vanishes
and under one that starts with a separator. -/
theorem commandTopics_unambiguous_query :
    levels (({ baseTopic := "//", escapeNames := true } : CommandConfig).commandTopic
        "query" "a/ü" .set).toList =
      ["core-command".toList, "request".toList, "query".toList, "a%2F%C3%BC".toList,
        "set".toList] ∧
    levels (({ baseTopic := "/cim/", escapeNames := true } : CommandConfig).queryTopic
        (some "#")).toList =
      [[], "cim".toList, "core-command".toList, "request".toList, "query".toList,
        "%23".toList] ∧
    ({ baseTopic := "/cim/", escapeNames := true } : CommandConfig).commandTopic "query" "all" .get ≠
      ({ baseTopic := "/cim/core-command", escapeNames := true } : CommandConfig).queryTopic none ∧
    ({ escapeNames := true } : CommandConfig).queryTopic (some "ALL") ≠
      ({ escapeNames := true } : CommandConfig).queryTopic none := by
  obtain ⟨commands, -, queries, apart, all⟩ := commandTopics_unambiguous
  refine ⟨(commands _ _ _ _ rfl (by decide) (by decide)).trans (by decide),
    (queries _ _ rfl (by decide)).trans (by decide),
    apart _ _ _ _ _ _ rfl rfl (by decide) (by decide) (by simp), fun same => ?_⟩
  exact absurd ((all _ _ rfl (by decide)).mp same) (by decide)

end CommandConfig

end MessageBus

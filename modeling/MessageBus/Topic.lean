/-
**Topics.** Hierarchical addresses: levels separated by `/`, where `+` stands for one level and `#`
for any number of trailing levels.

* `levels` — the levels of a topic; `matchesLevels`, `topicMatches` — when a filter takes a topic.
* `buildTopic` — joins parts with exactly one separator between each two; a leading separator of
  the first part is kept, empty parts are dropped.
* `responseTopic` — where the reply to one request is expected.
* `TopicBuilder` — parts collected one by one, names escaped on the way when asked for.
-/

import MessageBus.Text.Blank
import MessageBus.Text.Percent

namespace MessageBus

/-- The separator of topic levels. -/
def Topic.separator : Char := '/'

/-- The wildcard for exactly one level. -/
def Topic.wildcardOne : Char := '+'

/-- The wildcard for any number of trailing levels. -/
def Topic.wildcardAll : Char := '#'

/-- The levels of a topic, in order; the empty topic has one empty level. -/
def Topic.levels (topic : List Char) : List (List Char) :=
  topic.splitOn Topic.separator

/-- Level-wise matching: the rest of the filter against the rest of the topic. -/
def matchesLevels : List (List Char) → List (List Char) → Bool
  | [], [] => true
  | [], _ :: _ => false
  | f :: _, [] => f == [Topic.wildcardAll]
  | f :: fs, t :: ts =>
    f == [Topic.wildcardAll] || ((f == [Topic.wildcardOne] || f == t) && matchesLevels fs ts)

/-- Whether `topic` is taken by the subscription filter `filter`. -/
def topicMatches (filter topic : String) : Bool :=
  matchesLevels (Topic.levels filter.toList) (Topic.levels topic.toList)

/-- Whether a character separates levels. -/
def Topic.isSeparator (c : Char) : Bool :=
  c == Topic.separator

/-- Appends one part to a topic under construction: separators at its ends are dropped, and with
nothing left the topic stands. -/
def Topic.append (topic part : List Char) : List Char :=
  let level := Text.trimWhere Topic.isSeparator part
  if level.isEmpty then topic
  else if topic.isEmpty then level
  else topic ++ Topic.separator :: level

/-- Joins parts with exactly one separator between each two. -/
def Topic.join : List (List Char) → List Char
  | [] => []
  | first :: rest => rest.foldl Topic.append (Text.trimEndWhere Topic.isSeparator first)

/-- Joins texts into a topic with exactly one separator between each two. -/
def buildTopic (parts : List String) : String :=
  String.ofList (Topic.join (parts.map String.toList))

/-- The topic on which the reply to the request `id` is expected. -/
def responseTopic (base id : String) : String :=
  buildTopic [base, id]

/-- A topic under construction: its parts so far, and whether names are escaped. -/
structure TopicBuilder where
  /-- The parts collected so far, in order. -/
  parts : List String
  /-- Whether names added from here on are escaped. -/
  escapes : Bool

namespace TopicBuilder

/-- A topic that starts with `base` and escapes names. -/
def start (base : String) : TopicBuilder :=
  ⟨[base], true⟩

/-- Turns the escaping of names on or off. -/
def escapeNames (builder : TopicBuilder) (escapes : Bool) : TopicBuilder :=
  { builder with escapes }

/-- Adds a part as it is. -/
def segment (builder : TopicBuilder) (part : String) : TopicBuilder :=
  { builder with parts := builder.parts ++ [part] }

/-- Adds a name, escaped when escaping is on. -/
def escaped (builder : TopicBuilder) (name : String) : TopicBuilder :=
  builder.segment (if builder.escapes then Text.Percent.escapeSegment name else name)

/-- The topic built from the parts. -/
def build (builder : TopicBuilder) : String :=
  buildTopic builder.parts

/-- A filter that takes the topic and everything below it. -/
def buildWildcard (builder : TopicBuilder) : String :=
  (builder.segment (String.singleton Topic.wildcardAll)).build

end TopicBuilder

end MessageBus

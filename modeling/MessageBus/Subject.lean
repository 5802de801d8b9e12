/-
**Subjects.** The dotted spelling of topics: tokens separated by `.`, where `*` stands for one
token and a final `>` for one or more.

* `topicToSubject`, `subjectToTopic` — the two spellings, character by character.
* `subjectCovers` — whether a pattern takes every subject that another pattern takes.
* `streamName` — the name of a stream that holds a subject.
* `consumerName` — the name of the consumer bound for one subscribed subject.
-/

import MessageBus.Text.Blank

namespace MessageBus

/-- The separator of subject tokens. -/
def Subject.separator : Char := '.'

/-- The wildcard for exactly one token. -/
def Subject.wildcardOne : Char := '*'

/-- The wildcard for one or more trailing tokens. -/
def Subject.wildcardAll : Char := '>'

/-- The subject spelling of a character of a topic. -/
def Subject.ofTopicChar (c : Char) : Char :=
  if c = '/' then '.' else if c = '+' then '*' else if c = '#' then '>' else c

/-- The topic spelling of a character of a subject. -/
def Subject.toTopicChar (c : Char) : Char :=
  if c = '.' then '/' else if c = '*' then '+' else if c = '>' then '#' else c

/-- The subject spelling of a topic. -/
def topicToSubject (topic : String) : String :=
  String.ofList (topic.toList.map Subject.ofTopicChar)

/-- The topic spelling of a subject. -/
def subjectToTopic (subject : String) : String :=
  String.ofList (subject.toList.map Subject.toTopicChar)

/-- The tokens of a subject, in order. -/
def Subject.tokens (subject : List Char) : List (List Char) :=
  subject.splitOn Subject.separator

/-- Token-wise covering: the rest of the pattern against the rest of the subject. -/
def coversTokens : List (List Char) → List (List Char) → Bool
  | [], [] => true
  | [], _ :: _ => false
  | _ :: _, [] => false
  | p :: ps, s :: ss =>
    if p = ['>'] then true
    else if p = ['*'] then s != ['>'] && coversTokens ps ss
    else p == s && s != ['>'] && coversTokens ps ss

/-- Whether the pattern `pattern` takes every subject that `subject` takes; `subject` may hold
wildcards, and a wildcard is covered only by one at least as wide. -/
def subjectCovers (pattern subject : String) : Bool :=
  coversTokens (Subject.tokens pattern.toList) (Subject.tokens subject.toList)

/-- The characters with a meaning in subjects: the separator and the two wildcards. -/
def Subject.isStructure (c : Char) : Bool :=
  c == '.' || c == '*' || c == '>'

/-- The name of the stream for a subject: trailing structure is dropped and the rest of it is
filled with `_`. -/
def streamNameChars (subject : List Char) : List Char :=
  (Text.trimEndWhere Subject.isStructure subject).map fun c =>
    if Subject.isStructure c then '_' else c

/-- The name of the stream for a subject. -/
def streamName (subject : String) : String :=
  String.ofList (streamNameChars subject.toList)

/-- A character that a client id may bring into a consumer name. -/
def Subject.isPlain (c : Char) : Bool :=
  ('a' ≤ c && c ≤ 'z') || ('A' ≤ c && c ≤ 'Z') || ('0' ≤ c && c ≤ '9') || c == '-'

/-- The name of the consumer for one subscribed subject: a durable name is shared by every client
that uses it, otherwise the client id makes the name its own. -/
def consumerName (durable : Option String) (clientId subject : String) : String :=
  match durable with
  | some name => name ++ "_" ++ streamName subject
  | none =>
    let client := clientId.toList.map fun c => if Subject.isPlain c then c else '_'
    streamName subject ++ "_" ++ String.ofList client

end MessageBus

/-
**Outcomes of commands.** What an operation of a command client asks of the bus, and how it takes
the answer.

* `Operation` — the four operations; `settings`, `topic`, `flags` — what each puts into its request.
* `Verdict`, `Verdict.classified` — **a failure of the bus comes before an error code, and an error
  code before the payload**; `Decoded`, `Event` — what the payload of an accepted reply stands for.
* `Course`, `trace_dialogue_iff` — an operation issues one request under a new identifier, or none
  when its settings cannot be written.
* `outcomes_exact` — all of this over every client of a message bus.
-/

import MessageBus.Command
import MessageBus.Identifier
import MessageBus.Proofs.Dialogue.Beside
import Mathlib.Logic.ExistsUnique

namespace MessageBus

open Dialogue (CarriedOut Exchange Trace trace_ask trace_done trace_translate_iff)

/-! ### Operations -/

namespace CommandConfig

/-- A name as it stands in a topic. -/
def spelled (config : CommandConfig) (name : String) : String :=
  if config.escapeNames then Text.Percent.escapeSegment name else name

/-- The topics under which replies are awaited: those that are configured, or those of the base. -/
def replyBase (config : CommandConfig) : String :=
  if config.responseTopicPrefix = "" then buildTopic [config.baseTopic, "response", "core-command"]
  else config.responseTopicPrefix

theorem responsePrefix_eq (config : CommandConfig) : config.responsePrefix = config.replyBase := by
  unfold responsePrefix replyBase
  by_cases derived : config.responseTopicPrefix = ""
  · rw [if_pos derived, if_pos (String.isEmpty_iff.mpr derived)]
    rfl
  · rw [if_neg derived, if_neg (mt String.isEmpty_iff.mp derived)]

end CommandConfig

namespace Command

/-- An operation of a command client. Settings come with their text, or with the reason why they
cannot be written. -/
inductive Operation
  | get (device command : String) (pushEvent returnEvent : Bool)
  | set (device command : String) (settings : Except String (List UInt8))
  | listOne (device : String)
  | listAll (offset : UInt32) (limit : Int32)

namespace Operation

/-- What an operation finds out. -/
abbrev Finding : Operation → Type
  | get .. => Option Json.Value
  | set .. => Unit
  | listOne _ => Json.Value
  | listAll .. => Json.Value

/-- What an operation does. -/
def dialogue (config : CommandConfig) :
    (operation : Operation) → Dialogue interface (CommandResult operation.Finding)
  | get device command pushEvent returnEvent =>
    getCommand config device command pushEvent returnEvent
  | set device command settings => setCommand config device command settings
  | listOne device => deviceCommands config device
  | listAll offset limit => allCommands config offset limit

/-- The payload of the request. -/
def settings : Operation → Except String (List UInt8)
  | set _ _ settings => settings
  | _ => .ok []

/-- The topic of the request. -/
def topic (config : CommandConfig) : Operation → String
  | get device command _ _ => buildTopic [config.baseTopic, "core-command", "request",
      config.spelled device, config.spelled command, "get"]
  | set device command _ => buildTopic [config.baseTopic, "core-command", "request",
      config.spelled device, config.spelled command, "set"]
  | listOne device =>
    buildTopic [config.baseTopic, "core-command", "request", "query", config.spelled device]
  | listAll .. => buildTopic [config.baseTopic, "core-command", "request", "query", "all"]

/-- The query parameters of the request. -/
def flags : Operation → List (String × String)
  | get _ _ pushEvent returnEvent =>
    [("ds-pushevent", toString pushEvent), ("ds-returnevent", toString returnEvent)]
  | set .. => []
  | listOne _ => []
  | listAll offset limit =>
    [("offset", toString offset.toNat), ("limit", toString limit.toInt)]

/-- The request of an operation. -/
def request (operation : Operation) (requestId correlationId : String) (payload : List UInt8) :
    Envelope where
  requestId
  correlationId
  payload
  queryParams := StringMap.ofList operation.flags

end Operation

/-! ### Replies -/

/-- What a payload stands for that has to be a JSON text. -/
inductive Decoded (payload : List UInt8) : CommandResult Json.Value → Prop
  | value {value : Json.Value} (read : Json.readAll Json.value payload = .ok value) :
      Decoded payload (.ok value)
  | malformed {fault : Json.Fault} (failed : Json.readAll Json.value payload = .error fault) :
      Decoded payload (.error (.invalidResponse fault.message))

/-- What a payload stands for that may be missing. -/
inductive Event (payload : List UInt8) : CommandResult (Option Json.Value) → Prop
  | missing (empty : payload = []) : Event payload (.ok none)
  | value {value : Json.Value} (filled : payload ≠ [])
      (read : Json.readAll Json.value payload = .ok value) : Event payload (.ok (some value))
  | malformed {fault : Json.Fault} (filled : payload ≠ [])
      (failed : Json.readAll Json.value payload = .error fault) :
      Event payload (.error (.invalidResponse fault.message))

/-- What the payload of a reply without an error code stands for. -/
def Operation.Reads : (operation : Operation) → List UInt8 → CommandResult operation.Finding → Prop
  | get .., payload, result => Event payload result
  | set .., _, result => result = .ok ()
  | listOne _, payload, result => Decoded payload result
  | listAll .., payload, result => Decoded payload result

/-- How the outcome of a request is taken: the bus may fail, the service may refuse, or the payload
counts. -/
inductive Verdict {V : Type} (reads : List UInt8 → CommandResult V → Prop) :
    BusResult Envelope → CommandResult V → Prop
  /-- A failure of the bus is passed on. -/
  | bus (error : BusError) : Verdict reads (.error error) (.error (.bus error))
  /-- An error code is a refusal, whatever the payload. -/
  | refused {reply : Envelope} (code : reply.errorCode ≠ 0) :
      Verdict reads (.ok reply)
        (.error (.application reply.errorCode (Text.Utf8.text reply.payload)))
  /-- Without an error code, the payload counts. -/
  | accepted {reply : Envelope} {result : CommandResult V} (code : reply.errorCode = 0)
      (read : reads reply.payload result) : Verdict reads (.ok reply) result

/-- Each kind of result tells what the outcome of the request was: an operation neither succeeds nor
finds a payload unreadable unless the service has accepted the command. -/
structure Classified {V : Type} (reply : BusResult Envelope) (result : CommandResult V) : Prop where
  bus : ∀ error, result = .error (.bus error) ↔ reply = .error error
  refused : ∀ code text, result = .error (.application code text) ↔ ∃ envelope : Envelope,
    reply = .ok envelope ∧ code ≠ 0 ∧ code = envelope.errorCode ∧
      text = Text.Utf8.text envelope.payload
  accepted : ((∃ value, result = .ok value) ∨ ∃ text, result = .error (.invalidResponse text)) ↔
    ∃ envelope : Envelope, reply = .ok envelope ∧ envelope.errorCode = 0

/-- The function with which a client reads replies. -/
def Operation.read : (operation : Operation) → Envelope → CommandResult operation.Finding
  | get .. => readEvent
  | set .. => fun _ => .ok ()
  | listOne _ => readReply
  | listAll .. => readReply

theorem decoded_iff {reply : Envelope} {result : CommandResult Json.Value} :
    Decoded reply.payload result ↔ readReply reply = result := by
  unfold readReply
  constructor
  · intro decoded
    cases decoded with
    | value read => rw [read]
    | malformed failed => rw [failed]
  · rintro rfl
    cases parsed : Json.readAll Json.value reply.payload with
    | ok value => exact .value parsed
    | error fault => exact .malformed parsed

theorem Decoded.cases {payload : List UInt8} {result : CommandResult Json.Value}
    (decoded : Decoded payload result) :
    (∃ value, result = .ok value) ∨ ∃ text, result = .error (.invalidResponse text) := by
  cases decoded with
  | value => exact .inl ⟨_, rfl⟩
  | malformed => exact .inr ⟨_, rfl⟩

theorem event_iff {reply : Envelope} {result : CommandResult (Option Json.Value)} :
    Event reply.payload result ↔ readEvent reply = result := by
  unfold readEvent readReply
  constructor
  · intro event
    cases event with
    | missing empty => rw [if_pos (List.isEmpty_iff.mpr empty)]
    | value filled read =>
      rw [if_neg (mt List.isEmpty_iff.mp filled), read]
      rfl
    | malformed filled failed =>
      rw [if_neg (mt List.isEmpty_iff.mp filled), failed]
      rfl
  · rintro rfl
    by_cases empty : reply.payload = []
    · rw [if_pos (List.isEmpty_iff.mpr empty)]
      exact .missing empty
    · rw [if_neg (mt List.isEmpty_iff.mp empty)]
      cases parsed : Json.readAll Json.value reply.payload with
      | ok value => exact .value empty parsed
      | error fault => exact .malformed empty parsed

namespace Operation

variable {operation : Operation}

theorem reads_iff {reply : Envelope} {result : CommandResult operation.Finding} :
    operation.Reads reply.payload result ↔ operation.read reply = result := by
  cases operation with
  | get => exact event_iff
  | set => exact eq_comm
  | listOne => exact decoded_iff
  | listAll => exact decoded_iff

/-- A payload is read, or it is unreadable. -/
theorem Reads.cases {payload : List UInt8} {result : CommandResult operation.Finding}
    (reads : operation.Reads payload result) :
    (∃ value, result = .ok value) ∨ ∃ text, result = .error (.invalidResponse text) := by
  cases operation with
  | get =>
    cases reads with
    | missing => exact .inl ⟨_, rfl⟩
    | value => exact .inl ⟨_, rfl⟩
    | malformed => exact .inr ⟨_, rfl⟩
  | set => exact .inl ⟨_, reads⟩
  | listOne => exact Decoded.cases reads
  | listAll => exact Decoded.cases reads

/-- A client takes the outcome of a request as it is to be taken. -/
theorem verdict_iff {reply : BusResult Envelope} {result : CommandResult operation.Finding} :
    Verdict operation.Reads reply result ↔ (outcome reply).bind operation.read = result := by
  constructor
  · intro verdict
    cases verdict with
    | bus error => rfl
    | refused code =>
      rw [outcome, Envelope.isError, if_pos (bne_iff_ne.mpr code)]
      rfl
    | accepted code reads =>
      rw [outcome, Envelope.isError, if_neg (by simpa using code)]
      exact reads_iff.mp reads
  · rintro rfl
    cases reply with
    | error error => exact .bus error
    | ok reply =>
      by_cases code : reply.errorCode = 0
      · rw [outcome, Envelope.isError, if_neg (by simpa using code)]
        exact .accepted code (reads_iff.mpr rfl)
      · rw [outcome, Envelope.isError, if_pos (bne_iff_ne.mpr code)]
        exact .refused code

/-- **Every outcome of a request is taken in one way.** -/
theorem existsUnique_verdict (operation : Operation) (reply : BusResult Envelope) :
    ∃! result, Verdict operation.Reads reply result :=
  ⟨_, verdict_iff.mpr rfl, fun _ verdict => (verdict_iff.mp verdict).symm⟩

example : Verdict (listOne "pump-1").Reads (.ok { errorCode := 7, payload := [0xFF] })
    (.error (.application 7 "\uFFFD")) := by
  have text : Text.Utf8.text [0xFF] = "\uFFFD" := by decide +kernel
  exact text ▸ .refused (by decide)

end Operation

/-- **A refused command is never taken for a success or for an unreadable reply**, and neither is a
failure of the bus. -/
theorem Verdict.classified {operation : Operation} {reply : BusResult Envelope}
    {result : CommandResult operation.Finding} (verdict : Verdict operation.Reads reply result) :
    Classified reply result := by
  cases verdict with
  | bus error =>
    exact
      { bus := fun other => by simp
        refused := fun _ _ => by simp
        accepted := by simp }
  | @refused envelope code =>
    have same : ∀ number text,
        (.error (.application envelope.errorCode (Text.Utf8.text envelope.payload)) :
          CommandResult operation.Finding) = .error (.application number text) ↔
        ∃ other : Envelope, (.ok envelope : BusResult Envelope) = .ok other ∧ number ≠ 0 ∧
          number = other.errorCode ∧ text = Text.Utf8.text other.payload := by
      intro number text
      constructor
      · intro same
        cases same
        exact ⟨envelope, rfl, code, rfl, rfl⟩
      · rintro ⟨_, same, -, rfl, rfl⟩
        cases same
        rfl
    exact
      { bus := fun other => by simp
        refused := same
        accepted := by simpa using code }
  | @accepted envelope _ code reads =>
    -- What is read is a value or an unreadable payload, so it is none of the other kinds.
    have accepted := reads.cases
    have unrefused : ∀ number text, ¬ ∃ other : Envelope,
        (.ok envelope : BusResult Envelope) = .ok other ∧ number ≠ 0 ∧ number = other.errorCode ∧
          text = Text.Utf8.text other.payload := by
      rintro _ _ ⟨_, same, failed, rfl, -⟩
      cases same
      exact failed code
    exact
      { bus := fun other => by
          rcases accepted with ⟨_, rfl⟩ | ⟨_, rfl⟩ <;> simp
        refused := fun number text => by
          rcases accepted with ⟨_, rfl⟩ | ⟨_, rfl⟩ <;>
            exact iff_of_false nofun (unrefused number text)
        accepted := iff_of_true accepted ⟨envelope, rfl, code⟩ }

/-! ### Courses -/

theorem flagText_eq (value : Bool) : flagText value = toString value := by
  cases value <;> rfl

/-- A request under new identifiers, with what is read from its outcome. -/
def inquiry (config : CommandConfig) (operation : Operation) (payload : List UInt8) :
    Dialogue interface (CommandResult operation.Finding) :=
  (ask .freshId).bind fun requestId => (ask .freshId).bind fun correlationId =>
    (ask (.request (operation.request requestId correlationId payload) (operation.topic config)
      config.replyBase config.timeout.milliseconds)).bind fun reply =>
        .done ((outcome reply).bind operation.read)

/-- An operation is an inquiry once its settings are written. -/
theorem dialogue_of_written {config : CommandConfig} {operation : Operation} {payload : List UInt8}
    (written : operation.settings = .ok payload) :
    operation.dialogue config = inquiry config operation payload := by
  unfold inquiry
  rw [← config.responsePrefix_eq]
  cases operation with
  | get device command pushEvent returnEvent =>
    cases written
    simp only [Operation.dialogue, getCommand, flagText_eq]
    rfl
  | set device command settings =>
    cases written
    have nothing : ∀ reply : CommandResult Envelope,
        (reply.map fun _ => ()) = reply.bind fun _ => .ok () := by
      intro reply
      cases reply <;> rfl
    simp only [Operation.dialogue, setCommand, nothing]
    rfl
  | listOne device =>
    cases written
    rfl
  | listAll offset limit =>
    cases written
    rfl

/-- An operation asks nothing when its settings cannot be written. -/
theorem dialogue_of_unwritten {config : CommandConfig} {operation : Operation} {reason : String}
    (unwritten : operation.settings = .error reason) :
    operation.dialogue config = .done (.error (.invalidRequest reason)) := by
  cases operation with
  | set device command settings =>
    cases unwritten
    rfl
  | _ => cases unwritten

/-- What an operation asks and is answered, and what comes of it. -/
inductive Course (config : CommandConfig) (operation : Operation) :
    List (Exchange interface) → CommandResult operation.Finding → Prop
  /-- Without settings there is no request. -/
  | unwritten {reason : String} (failed : operation.settings = .error reason) :
      Course config operation [] (.error (.invalidRequest reason))
  /-- Two identifiers are made, then there is one request. -/
  | asked {requestId correlationId : String} {payload : List UInt8} {reply : BusResult Envelope}
      {result : CommandResult operation.Finding} (written : operation.settings = .ok payload)
      (verdict : Verdict operation.Reads reply result) :
      Course config operation
        [⟨.freshId, requestId⟩, ⟨.freshId, correlationId⟩,
          ⟨.request (operation.request requestId correlationId payload) (operation.topic config)
            config.replyBase config.timeout.milliseconds, reply⟩]
        result

variable {config : CommandConfig} {operation : Operation} {log : List (Exchange interface)}
  {result : CommandResult operation.Finding}

theorem trace_inquiry_iff {payload : List UInt8} :
    Trace (inquiry config operation payload) log result ↔
      ∃ requestId correlationId reply, Verdict operation.Reads reply result ∧
        log = [⟨.freshId, requestId⟩, ⟨.freshId, correlationId⟩,
          ⟨.request (operation.request requestId correlationId payload) (operation.topic config)
            config.replyBase config.timeout.milliseconds, reply⟩] := by
  simp only [inquiry, ask, Dialogue.ask_bind, Dialogue.done_bind, trace_ask, trace_done,
    Operation.verdict_iff]
  constructor
  · rintro ⟨requestId, _, rfl, correlationId, _, rfl, reply, _, rfl, rfl, rfl⟩
    exact ⟨requestId, correlationId, reply, rfl, rfl⟩
  · rintro ⟨requestId, correlationId, reply, rfl, rfl⟩
    exact ⟨requestId, _, rfl, correlationId, _, rfl, reply, _, rfl, rfl, rfl⟩

/-- **An operation issues one request, or none when its settings cannot be written.** -/
theorem trace_dialogue_iff :
    Trace (operation.dialogue config) log result ↔ Course config operation log result := by
  constructor
  · intro trace
    cases settings : operation.settings with
    | error reason =>
      rw [dialogue_of_unwritten settings] at trace
      obtain ⟨rfl, rfl⟩ := trace_done.mp trace
      exact .unwritten settings
    | ok payload =>
      rw [dialogue_of_written settings] at trace
      obtain ⟨requestId, correlationId, reply, verdict, rfl⟩ := trace_inquiry_iff.mp trace
      exact .asked settings verdict
  · intro course
    cases course with
    | unwritten failed =>
      rw [dialogue_of_unwritten failed]
      exact .done _
    | asked written verdict =>
      rw [dialogue_of_written written]
      exact trace_inquiry_iff.mpr ⟨_, _, _, verdict, rfl⟩

/-! ### Identifiers -/

/-- New identifiers are the texts of 128 bits. -/
def MakesIdentifiers (log : List (Exchange interface)) : Prop :=
  ∀ id, (⟨.freshId, id⟩ : Exchange interface) ∈ log → ∃ bits, id = Identifier.ofBits bits

theorem ofBits_ne_empty (bits : Nat) : Identifier.ofBits bits ≠ "" := by
  intro empty
  have none := congrArg String.toList empty
  simp [Identifier.ofBits] at none

/-- A request goes out under an identifier that was made for it. -/
theorem Course.identified {envelope : Envelope} {topic base : String} {timeout : Nat}
    {reply : BusResult Envelope} (course : Course config operation log result)
    (issued : (⟨.request envelope topic base timeout, reply⟩ : Exchange interface) ∈ log) :
    (⟨.freshId, envelope.requestId⟩ : Exchange interface) ∈ log := by
  cases course with
  | unwritten failed => cases issued
  | asked written verdict =>
    -- Only the last of the three questions is a request.
    rcases issued with _ | ⟨_, _ | ⟨_, _ | ⟨_, issued⟩⟩⟩
    · exact List.mem_cons_self
    · cases issued

/-! ### The operations of a command client -/

/-- **Every outcome of a command is told apart.** An operation of a command client issues at most
one request, under an identifier of its own, whichever client of a message bus carries it out; and
it takes a failure of the bus, a refusal of the service and every payload as what they are. -/
theorem outcomes_exact (config : CommandConfig) (operation : Operation) :
    (∀ log result,
      Trace (operation.dialogue config) log result ↔ Course config operation log result) ∧
    (∀ (backend : Interface) (client : MessageClient backend) told result,
      Trace ((operation.dialogue config).translate (carryOut client)) told result ↔
        ∃ log, Course config operation log result ∧ CarriedOut (carryOut client) log told) ∧
    (∀ log result envelope topic base timeout reply, Course config operation log result →
      (⟨.request envelope topic base timeout, reply⟩ : Exchange interface) ∈ log →
        (⟨.freshId, envelope.requestId⟩ : Exchange interface) ∈ log ∧
          (MakesIdentifiers log → envelope.requestId ≠ "")) ∧
    (∀ reply, ∃! result, Verdict operation.Reads reply result) ∧
    (∀ reply result, Verdict operation.Reads reply result → Classified reply result) ∧
    (∀ device command pushEvent returnEvent payload,
      (Operation.get device command pushEvent returnEvent).Reads payload (.ok none) ↔
        payload = []) := by
  refine ⟨fun _ _ => trace_dialogue_iff, fun backend client told result => ?_,
    fun log result envelope topic base timeout reply course issued => ?_,
    Operation.existsUnique_verdict operation, fun _ _ verdict => verdict.classified,
    fun _ _ _ _ payload => ⟨fun event => ?_, .missing⟩⟩
  · simp only [trace_translate_iff, trace_dialogue_iff]
  · have made := course.identified issued
    refine ⟨made, fun identifies => ?_⟩
    obtain ⟨bits, same⟩ := identifies _ made
    exact same ▸ ofBits_ne_empty bits
  · cases event
    assumption

/-- A reading is refused with a payload that would be an event. The request went out under a new
identifier, and the refusal is taken for nothing else. -/
theorem outcomes_exact_refused :
    let operation : Operation := .get "pump-1" "speed" false true
    let first := Identifier.ofBits 1
    let second := Identifier.ofBits 2
    let reply : Envelope := { errorCode := 7, payload := [0x32, 0x31] }
    let refusal : CommandResult operation.Finding := .error (.application 7 "21")
    let log : List (Exchange interface) := [⟨.freshId, first⟩, ⟨.freshId, second⟩,
      ⟨.request (operation.request first second []) "cim/core-command/request/pump-1/speed/get"
        "cim/response/core-command" 10000, .ok reply⟩]
    operation.Reads reply.payload (.ok (some (.integer 21))) ∧
    Trace (operation.dialogue {}) log refusal ∧ Course {} operation log refusal ∧
    MakesIdentifiers log ∧ first ≠ "" ∧
    Verdict operation.Reads (.ok reply) refusal ∧ Classified (.ok reply) refusal := by
  intro operation first second reply refusal log
  have event : operation.Reads reply.payload (.ok (some (.integer 21))) :=
    .value (List.cons_ne_nil _ _) rfl
  have verdict : Verdict operation.Reads (.ok reply) refusal := by
    have text : Text.Utf8.text reply.payload = "21" := by decide +kernel
    have refused : Verdict operation.Reads (.ok reply)
        (.error (.application 7 (Text.Utf8.text reply.payload))) := .refused (by decide)
    rwa [text] at refused
  have course : Course {} operation log refusal := by
    have topic : operation.topic {} = "cim/core-command/request/pump-1/speed/get" := by
      decide +kernel
    have base : CommandConfig.replyBase {} = "cim/response/core-command" := by decide +kernel
    have asked : Course {} operation [⟨.freshId, first⟩, ⟨.freshId, second⟩,
        ⟨.request (operation.request first second []) (operation.topic {})
          (CommandConfig.replyBase {}) 10000, .ok reply⟩] refusal := .asked rfl verdict
    rwa [topic, base] at asked
  have made : MakesIdentifiers log := by
    intro id (member : (⟨.freshId, id⟩ : Exchange interface) ∈ _ :: _ :: [_])
    rcases member with _ | ⟨_, _ | ⟨_, _ | ⟨_, member⟩⟩⟩
    · exact ⟨1, rfl⟩
    · exact ⟨2, rfl⟩
    · cases member
  obtain ⟨traces, -, identified, -, classified, -⟩ := outcomes_exact {} operation
  have issued := identified log refusal _ _ _ _ _ course
    (List.mem_cons_of_mem _ (List.mem_cons_of_mem _ List.mem_cons_self))
  exact ⟨event, (traces log refusal).mpr course, course, made, issued.2 made, verdict,
    classified _ _ verdict⟩

end Command

end MessageBus

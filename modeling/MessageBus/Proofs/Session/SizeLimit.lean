/-
**Publishing under a limit**, on both backends.

* `Exceeds` — a size is over a limit, over the natural numbers; `checkLimit_eq` — **the limit in 64
  bits is the limit itself**: where it has been capped, no body is over it either way.
* `Parcel` — what a publish sends: its topic, the body that is measured, and how it is handed to the
  broker; `Parcel.verdict` — what a session and a limit say to it.
* `Parcel.Posts` — the program of a publish; `Parcel.Posted` — what comes of it over a run of calls;
  `Parcel.posted_of_runs` — **what the verdict says**.
* `Parcel.Limited`, `publishWithLimit_exact` — on both backends, what is refused is never handed
  over, and the call might as well not have been; anything else is handed over once, as it is
  without a limit.
-/

import MessageBus.Proofs.Envelope.RoundTrip
import MessageBus.Proofs.Session.Lifecycle
import MessageBus.Proofs.Session.Mqtt
import MessageBus.Proofs.Session.Nats

namespace MessageBus

open Dialogue

/-! ### Limits -/

/-- A size is over a limit in kilobytes; a limit of zero is none. -/
def Exceeds (size limitKb : Nat) : Prop :=
  0 < limitKb ∧ limitKb * 1024 < size

instance (size limitKb : Nat) : Decidable (Exceeds size limitKb) :=
  inferInstanceAs (Decidable (_ ∧ _))

/-- **A size that is a 64-bit number is held against the limit itself.** A limit that does not fit
into 64 bits is capped, but then no such size is over the cap. -/
theorem checkLimit_eq {size limitKb : Nat} (held : size < UInt64.size) :
    checkLimit size limitKb =
      if Exceeds size limitKb then .error (.payloadTooLarge size (limitKb * 1024)) else .ok () := by
  have capped : maxLimit + 1 = UInt64.size := rfl
  unfold checkLimit
  by_cases exceeds : Exceeds size limitKb
  · obtain ⟨positive, larger⟩ := exceeds
    -- The limit is below a 64-bit number here, so the cap does nothing.
    have uncapped : min (limitKb * 1024) maxLimit = limitKb * 1024 := by omega
    rw [uncapped, if_neg (by omega), if_pos ⟨positive, larger⟩]
  · have fits : limitKb = 0 ∨ size ≤ min (limitKb * 1024) maxLimit := by
      simp only [Exceeds] at exceeds
      omega
    rw [if_pos fits, if_neg exceeds]

/-- A limit that a body is not over is as good as none. -/
theorem checkLimit_eq_zero {size limitKb : Nat} (held : size < UInt64.size)
    (fits : ¬ Exceeds size limitKb) : checkLimit size limitKb = checkLimit size 0 := by
  rw [checkLimit_eq held, checkLimit_eq held, if_neg fits, if_neg fun none => nomatch none.1]

/-! ### Parcels -/

/-- What a publish sends. -/
structure Parcel (model : ClientModel) where
  /-- The topic. -/
  topic : String
  /-- The body that a limit is held against. -/
  body : List UInt8
  /-- The call that hands the message to a connection. -/
  handOver : Nat → model.calls.Ask
  /-- The result of the publish, by the answer to that call. -/
  outcome : (connection : Nat) → model.calls.Answer (handOver connection) → BusResult Unit

namespace Parcel

variable {model : ClientModel} (parcel : Parcel model) (limitKb : Nat)

/-- What a session and a limit say to a parcel: why it is refused, or the connection it goes to. -/
def verdict : Session → BusResult Nat
  | .connected connection =>
    if parcel.topic = "" then .error (.operation "publish" "topic is empty")
    else if Exceeds parcel.body.length limitKb then
      .error (.payloadTooLarge parcel.body.length (limitKb * 1024))
    else .ok connection
  | _ => .error .notConnected

variable {parcel limitKb} in
/-- A parcel is taken if there is a session, a topic, and no more than the limit. -/
theorem verdict_eq_ok_iff {found : Session} {connection : Nat} :
    parcel.verdict limitKb found = .ok connection ↔
      found = .connected connection ∧ parcel.topic ≠ "" ∧
        ¬ Exceeds parcel.body.length limitKb := by
  unfold verdict
  cases found <;> grind

variable {parcel limitKb} in
/-- A parcel is too large if it is over the limit, and for nothing else. -/
theorem verdict_eq_payloadTooLarge_iff {found : Session} {size limit : Nat} :
    parcel.verdict limitKb found = .error (.payloadTooLarge size limit) ↔
      (∃ connection, found = .connected connection) ∧ parcel.topic ≠ "" ∧
        Exceeds parcel.body.length limitKb ∧
        size = parcel.body.length ∧ limit = limitKb * 1024 := by
  unfold verdict
  cases found <;> grind

/-- On a connection, the topic is looked at before the limit. -/
theorem verdict_of_empty (empty : parcel.topic.isEmpty) (connection : Nat) :
    parcel.verdict limitKb (.connected connection) =
      .error (.operation "publish" "topic is empty") :=
  if_pos (String.isEmpty_iff.mp empty)

/-- On a connection, a parcel with a topic is refused if its body is over the limit. -/
theorem verdict_of_filled (held : parcel.body.length < UInt64.size)
    (filled : ¬ parcel.topic.isEmpty) (connection : Nat) :
    parcel.verdict limitKb (.connected connection) =
      (checkLimit parcel.body.length limitKb).map fun _ => connection := by
  rw [verdict, if_neg (fun empty => filled (String.isEmpty_iff.mpr empty)), checkLimit_eq held]
  split <;> rfl

/-- Does what the verdict on a session says. -/
inductive Settles (found : Session) : Dialogue model.backend.work (BusResult Unit) → Prop
  /-- It returns why the parcel is refused. -/
  | refused {error : BusError} (refuses : parcel.verdict limitKb found = .error error) :
      Settles found (.done (.error error))
  /-- It hands the parcel over and returns what that comes to. -/
  | admitted {connection : Nat} (admits : parcel.verdict limitKb found = .ok connection)
      {resume : model.calls.Answer (parcel.handOver connection) →
        Dialogue model.backend.work (BusResult Unit)}
      (returns : ∀ answer, resume answer = .done (parcel.outcome connection answer)) :
      Settles found (.ask (I := model.backend.work) (.inl (.inr (parcel.handOver connection)))
        resume)

/-- Looks at the session, and does what the verdict on it says. -/
inductive Posts : Dialogue model.backend.work (BusResult Unit) → Prop
  | ask {question : model.backend.work.Ask}
      {resume : model.backend.work.Answer question → Dialogue model.backend.work (BusResult Unit)}
      (looks : ∀ answer, ∃ found, model.sign question answer = .looked found ∧
        parcel.Settles limitKb found (resume answer)) :
      Posts (.ask question resume)

variable {parcel limitKb} {activity remaining : Dialogue model.backend.work (BusResult Unit)}
  {look : Exchange model.backend.work} {exchanges : List (Exchange model.backend.work)}
  {found : Session}

theorem Posts.ne_done (posts : parcel.Posts limitKb activity) (result : BusResult Unit) :
    activity ≠ .done result := by
  rintro rfl
  cases posts

/-- A publish looks at the session before anything else. -/
theorem Posts.looked (posts : parcel.Posts limitKb activity)
    (leads : activity.Leads (look :: exchanges) remaining) :
    ∃ found settling, model.sign look.1 look.2 = .looked found ∧
      parcel.Settles limitKb found settling ∧ settling.Leads exchanges remaining := by
  obtain ⟨looks⟩ := posts
  cases leads with
  | @on question resume answer rest remaining further =>
    obtain ⟨found, looked, settles⟩ := looks answer
    exact ⟨found, _, looked, settles, further⟩

/-- A parcel that is refused is not handed over. -/
theorem Settles.of_refused {error : BusError} (settles : parcel.Settles limitKb found activity)
    (leads : activity.Leads exchanges remaining)
    (refuses : parcel.verdict limitKb found = .error error) :
    exchanges = [] ∧ remaining = .done (.error error) := by
  cases settles with
  | refused same =>
    cases refuses.symm.trans same
    exact leads_done.mp leads
  | admitted admits => cases refuses.symm.trans admits

/-- A parcel that is not refused is handed over once. -/
theorem Settles.of_admitted {connection : Nat} (settles : parcel.Settles limitKb found activity)
    (leads : activity.Leads exchanges remaining)
    (admits : parcel.verdict limitKb found = .ok connection) :
    exchanges = [] ∧ (∃ resume, remaining = .ask (I := model.backend.work)
        (.inl (.inr (parcel.handOver connection))) resume) ∨
      ∃ answer, exchanges = [⟨.inl (.inr (parcel.handOver connection)), answer⟩] ∧
        remaining = .done (parcel.outcome connection answer) := by
  cases settles with
  | refused refuses => cases admits.symm.trans refuses
  | admitted same returns =>
    cases admits.symm.trans same
    rcases leads_ask.mp leads with ⟨rfl, rfl⟩ | ⟨answer, rest, rfl, further⟩
    · exact .inl ⟨rfl, _, rfl⟩
    · rw [returns, leads_done] at further
      obtain ⟨rfl, rfl⟩ := further
      exact .inr ⟨answer, rfl, rfl⟩

/-! ### Publishing in a run -/

section Runs

variable {ι : Type} [DecidableEq ι]

/-- What comes of a publish over a run of calls. -/
structure Posted (parcel : Parcel model) (limitKb : Nat) (client : MessageClient model.backend)
    (calls : ι → ClientCall) (log : model.History ι)
    (pool : ι → Dialogue model.backend.work (BusResult Unit)) (after : Premises model.State)
    (who : ι) : Prop where
  /-- It does not return before it has looked at the session. -/
  waits : turns who log = [] → ∀ result, pool who ≠ .done result
  /-- Before anything else it looks at the session. -/
  looks : ∀ {moment rest}, turns who log = moment :: rest →
    model.signOf moment = .looked (model.session moment.world.client)
  /-- If the parcel is refused, it returns so after this one question: nothing is handed over, and
  the publish might as well not have been. -/
  refused : ∀ {moment rest error}, turns who log = moment :: rest →
    parcel.verdict limitKb (model.session moment.world.client) = .error error →
      rest = [] ∧ pool who = .done (.error error) ∧
        model.Runs client calls (others who log)
          (Function.update pool who ((calls who).activity client)) after
  /-- Otherwise it hands the parcel to the connection, once, and returns what that comes to. -/
  handed : ∀ {moment rest connection}, turns who log = moment :: rest →
    parcel.verdict limitKb (model.session moment.world.client) = .ok connection →
      rest = [] ∧ (∃ resume, pool who = .ask (I := model.backend.work)
          (.inl (.inr (parcel.handOver connection))) resume) ∨
        ∃ world answer, rest = [⟨world, .inl (.inr (parcel.handOver connection)), answer⟩] ∧
          pool who = .done (parcel.outcome connection answer)

variable {client : MessageClient model.backend} {calls : ι → ClientCall} {log : model.History ι}
  {pool : ι → Dialogue model.backend.work (BusResult Unit)} {after : Premises model.State} {who : ι}
  {moment : Moment model.backend.work (Premises model.State)}
  {rest : List (Moment model.backend.work (Premises model.State))}

/-- A publish looks at the session as it is. -/
theorem looked_of_runs (run : model.Runs client calls log pool after)
    (posts : parcel.Posts limitKb ((calls who).activity client))
    (told : turns who log = moment :: rest) :
    model.signOf moment = .looked (model.session moment.world.client) ∧
      ∃ settling, parcel.Settles limitKb (model.session moment.world.client) settling ∧
        settling.Leads (rest.map Moment.exchange) (pool who) := by
  have leads := run.leads who
  rw [told, List.map_cons] at leads
  obtain ⟨found, settling, looked, settles, further⟩ := posts.looked leads
  have member : moment ∈ turns who log := told ▸ List.mem_cons_self
  obtain ⟨later, acts⟩ := run.acts (mem_moments_of_turn (mem_turns.mp member))
  rw [show model.signOf moment = .looked found from looked] at acts ⊢
  rw [acts.1]
  exact ⟨rfl, settling, settles, further⟩

/-- **What comes of a publish is what the verdict says.** -/
theorem posted_of_runs (run : model.Runs client calls log pool after)
    (posts : parcel.Posts limitKb ((calls who).activity client)) :
    parcel.Posted limitKb client calls log pool after who where
  waits silent result := by
    rw [run.eq_start silent]
    exact posts.ne_done result
  looks told := (looked_of_runs run posts told).1
  refused {moment rest error} told refuses := by
    obtain ⟨looked, settling, settles, further⟩ := looked_of_runs run posts told
    obtain ⟨none, returned⟩ := settles.of_refused further refuses
    cases List.map_eq_nil_iff.mp none
    exact ⟨rfl, returned, run.others_of_single told (looked ▸ .looked _)⟩
  handed {moment rest connection} told admits := by
    obtain ⟨-, settling, settles, further⟩ := looked_of_runs run posts told
    rcases settles.of_admitted further admits with ⟨none, asks⟩ | ⟨answer, single, returned⟩
    · exact .inl ⟨List.map_eq_nil_iff.mp none, asks⟩
    · obtain ⟨⟨world, question, taken⟩, rfl, same⟩ := List.map_eq_singleton_iff.mp single
      cases same
      exact .inr ⟨world, taken, rfl, returned⟩

end Runs

/-- A client holds an envelope to a limit. -/
structure Limited (parcel : Parcel model) (client : MessageClient model.backend)
    (envelope : Envelope) (limitKb : Nat) : Prop where
  /-- Over any run of calls, a publish under the limit comes to what the verdict says. -/
  posted : ∀ (ι : Type) [DecidableEq ι] (calls : ι → ClientCall) log pool after,
    model.Runs client calls log pool after → ∀ who,
      calls who = .publishWithLimit envelope parcel.topic limitKb →
        parcel.Posted limitKb client calls log pool after who
  /-- It is too large on a connection and with a topic, if its body is over the limit, and for
  nothing else; the sizes that it is refused with are those two. -/
  too_large : ∀ {found size limit},
    parcel.verdict limitKb found = .error (.payloadTooLarge size limit) ↔
      (∃ connection, found = .connected connection) ∧ parcel.topic ≠ "" ∧
        Exceeds parcel.body.length limitKb ∧ size = parcel.body.length ∧ limit = limitKb * 1024
  /-- If the body is not over the limit, it does and hands over what a publish without one does. -/
  unlimited : ¬ Exceeds parcel.body.length limitKb →
    client.publishWithLimit envelope parcel.topic limitKb = client.publish envelope parcel.topic

theorem limited_of_posts {client : MessageClient model.backend} {envelope : Envelope}
    (posts : parcel.Posts limitKb (client.publishWithLimit envelope parcel.topic limitKb))
    (unlimited : ¬ Exceeds parcel.body.length limitKb →
      client.publishWithLimit envelope parcel.topic limitKb =
        client.publish envelope parcel.topic) :
    parcel.Limited client envelope limitKb where
  posted _ _ calls _ _ _ run who publishes := by
    refine posted_of_runs run ?_
    rw [publishes]
    exact posts
  too_large := verdict_eq_payloadTooLarge_iff
  unlimited := unlimited

end Parcel

/-! ### Both backends -/

namespace Nats

/-- The body of an envelope in a format: its payload as it is, or the text of all of it. -/
def WireFormat.body : WireFormat → Envelope → List UInt8
  | native, envelope => envelope.payload
  | json, envelope => Text.Utf8.bytes envelope.encode

theorem payload_marshal (format : WireFormat) (envelope : Envelope) (subject : String) :
    (marshal format envelope subject).payload = format.body envelope := by
  cases format with
  | native => rfl
  | json => exact envelope.bytes_encode.symm

theorem encodedLength_marshal (format : WireFormat) (envelope : Envelope) (subject : String) :
    (marshal format envelope subject).encodedLength = (format.body envelope).length :=
  congrArg List.length (payload_marshal format envelope subject)

namespace Client

/-- An envelope as a message on the subject of its topic. -/
def parcel (Handle : Type) (options : Options) (envelope : Envelope) (topic : String) :
    Parcel (model Handle) where
  topic := topic
  body := options.format.body envelope
  handOver connection :=
    .publish connection (marshal options.format envelope (topicToSubject topic))
  outcome _ answer := answer

/-- A publish tests the topic, and then the length of the message against the limit. -/
theorem posts_publishWithLimit {Handle : Type} {options : Options} {envelope : Envelope}
    {topic : String} (held : (options.format.body envelope).length < UInt64.size) (limitKb : Nat) :
    (parcel Handle options envelope topic).Posts limitKb
      (publishWithLimit options envelope topic limitKb).left := by
  refine .ask fun found => ⟨found, rfl, ?_⟩
  match found with
  | .idle | .closed => exact .refused rfl
  | .connected connection =>
    split
    · rename_i empty
      exact .refused (Parcel.verdict_of_empty _ _ empty connection)
    · rename_i filled
      have verdict := Parcel.verdict_of_filled (parcel Handle options envelope topic) limitKb held
        filled connection
      simp only [encodedLength_marshal]
      split <;> rename_i checks
      · exact .refused (verdict.trans (congrArg (Except.map _) checks))
      · exact .admitted (verdict.trans (congrArg (Except.map _) checks)) fun _ => rfl

theorem limited_publishWithLimit {Handle : Type} {options : Options} {envelope : Envelope}
    {topic : String} (held : (options.format.body envelope).length < UInt64.size) (canOpen : Bool)
    (limitKb : Nat) :
    (parcel Handle options envelope topic).Limited (client options canOpen) envelope limitKb := by
  refine Parcel.limited_of_posts (posts_publishWithLimit held limitKb) fun fits => ?_
  show (publishWithLimit options envelope topic limitKb).left =
    (publishWithLimit options envelope topic 0).left
  unfold publishWithLimit
  simp only [encodedLength_marshal, checkLimit_eq_zero held fits]

end Client

end Nats

namespace Mqtt.Client

/-- A body on a topic. -/
def parcel (payload : List UInt8) (topic : String) : Parcel model where
  topic := topic
  body := payload
  handOver connection := .publish connection topic payload
  outcome _ answer := answer.mapError (.operation "publish")

/-- A publish tests the topic, and then the length of the body against the limit. -/
theorem posts_publishBytes {payload : List UInt8} {topic : String}
    (held : payload.length < UInt64.size) (limitKb : Nat) :
    (parcel payload topic).Posts limitKb (publishBytes payload topic limitKb).left := by
  refine .ask fun found => ⟨found, rfl, ?_⟩
  match found with
  | .idle | .closed => exact .refused rfl
  | .connected connection =>
    split
    · rename_i empty
      exact .refused (Parcel.verdict_of_empty _ _ empty connection)
    · rename_i filled
      have verdict := Parcel.verdict_of_filled (parcel payload topic) limitKb held filled connection
      split <;> rename_i checks
      · exact .refused (verdict.trans (congrArg (Except.map _) checks))
      · refine .admitted (verdict.trans (congrArg (Except.map _) checks)) fun answer => ?_
        cases answer <;> rfl

/-- The body of an envelope is the text of all of it. -/
theorem publishWithLimit_eq (envelope : Envelope) (topic : String) (limitKb : Nat) :
    publishWithLimit envelope topic limitKb =
      publishBytes (Text.Utf8.bytes envelope.encode) topic limitKb := by
  rw [envelope.bytes_encode]
  rfl

/-- An envelope that is sent as a body is held to a limit, whatever that body is. -/
theorem limited_publishBytes {payload : List UInt8} {envelope : Envelope} {topic : String}
    (held : payload.length < UInt64.size)
    (sends : ∀ limitKb, publishWithLimit envelope topic limitKb =
      publishBytes payload topic limitKb) (limitKb : Nat) :
    (parcel payload topic).Limited client envelope limitKb := by
  refine Parcel.limited_of_posts ?_ fun fits => ?_
  · show (parcel payload topic).Posts limitKb (publishWithLimit envelope topic limitKb).left
    rw [sends]
    exact posts_publishBytes held limitKb
  · show (publishWithLimit envelope topic limitKb).left = (publishWithLimit envelope topic 0).left
    rw [sends, sends]
    unfold publishBytes
    rw [checkLimit_eq_zero held fits]

end Mqtt.Client

/-- **Publishes under a limit are exact, and hand over all or nothing**, on both backends: over any
run of calls, and for every limit. A body is held in memory, so its size is a 64-bit number. -/
theorem publishWithLimit_exact :
    (∀ (Handle : Type) (options : Nats.Options) (canOpen : Bool) (envelope : Envelope)
      (topic : String) (limitKb : Nat),
      (options.format.body envelope).length < UInt64.size →
        (Nats.Client.parcel Handle options envelope topic).Limited
            (Nats.Client.client options canOpen) envelope limitKb ∧
          (Nats.marshal options.format envelope (topicToSubject topic)).payload =
            options.format.body envelope) ∧
    (∀ (envelope : Envelope) (topic : String) (limitKb : Nat),
      (Text.Utf8.bytes envelope.encode).length < UInt64.size →
        (Mqtt.Client.parcel (Text.Utf8.bytes envelope.encode) topic).Limited Mqtt.Client.client
          envelope limitKb) :=
  ⟨fun _ _ canOpen _ _ limitKb held =>
      ⟨Nats.Client.limited_publishWithLimit held canOpen limitKb, Nats.payload_marshal ..⟩,
    fun envelope topic limitKb held => Mqtt.Client.limited_publishBytes held
      (Mqtt.Client.publishWithLimit_eq envelope topic) limitKb⟩

/-- A connect, and a publish under a limit. -/
def connectAndPublish (envelope : Envelope) (limitKb : Nat) : Fin 2 → ClientCall
  | 0 => .connect
  | 1 => .publishWithLimit envelope "a/b" limitKb

/-- A payload one byte over the limit is refused over NATS; over MQTT the greatest limit of 64 bits
refuses nothing. -/
theorem publishWithLimit_exact_boundary :
    (∃ log pool after, (Nats.Client.model Nat).Runs (Nats.Client.client {} true)
        (connectAndPublish (Envelope.new (List.replicate 1025 0) "") 1) log pool after ∧
        pool 1 = .done (.error (.payloadTooLarge 1025 1024))) ∧
    (∃ log pool after, Mqtt.Client.model.Runs Mqtt.Client.client
        (connectAndPublish (Envelope.new [] "") (UInt64.size - 1)) log pool after ∧
        ∃ resume, pool 1 = .ask (I := Mqtt.Client.backend.work) (.inl (.inr (.publish 0 "a/b"
          (Text.Utf8.bytes (Envelope.new [] "").encode)))) resume) := by
  have filled : "a/b" ≠ "" := by decide
  constructor
  · have looks : ∀ envelope, ∃ log pool after moment,
        (Nats.Client.model Nat).Runs (Nats.Client.client {} true) (connectAndPublish envelope 1) log
          pool after ∧
        turns 1 log = [moment] ∧ moment.world.client.session = .connected 0 := by
      intro envelope
      have idle : (Nats.Client.model Nat).Runs (Nats.Client.client {} true)
        (connectAndPublish envelope 1) [] _ { client := {} } := .start
      have connected := ((idle.step 0 rfl Session.idle ⟨rfl, rfl⟩).step 0 rfl (.ok 0)
        ⟨nofun, rfl⟩).step 0 rfl true ⟨rfl, rfl⟩
      exact ⟨_, _, _, _, connected.step 1 rfl (Session.connected 0) ⟨rfl, rfl⟩, rfl, rfl⟩
    obtain ⟨log, pool, after, moment, run, single, connected⟩ :=
      looks (Envelope.new (List.replicate 1025 0) "")
    have size : (List.replicate 1025 (0 : UInt8)).length = 1025 := List.length_replicate
    have larger : 1 * 1024 < (List.replicate 1025 (0 : UInt8)).length := by
      rw [size]
      decide
    have limited := (publishWithLimit_exact.1 Nat {} true (Envelope.new (List.replicate 1025 0) "")
      "a/b" 1 (size.trans_lt (by decide))).1
    have large := limited.too_large.mpr
      ⟨⟨0, connected⟩, filled, ⟨by decide, larger⟩, size.symm, rfl⟩
    exact ⟨log, pool, after, run,
      ((limited.posted (Fin 2) _ _ _ _ run 1 rfl).refused single large).2.1⟩
  · have looks : ∀ envelope, ∃ log pool after moment,
        Mqtt.Client.model.Runs Mqtt.Client.client (connectAndPublish envelope (UInt64.size - 1)) log
          pool after ∧
        turns 1 log = [moment] ∧ moment.world.client.session = .connected 0 := by
      intro envelope
      have idle : Mqtt.Client.model.Runs Mqtt.Client.client
        (connectAndPublish envelope (UInt64.size - 1)) [] _ { client := {} } := .start
      have connected := ((idle.step 0 rfl Session.idle ⟨rfl, rfl⟩).step 0 rfl (.ok 0)
        ⟨nofun, rfl⟩).step 0 rfl true ⟨rfl, rfl⟩
      exact ⟨_, _, _, _, connected.step 1 rfl (Session.connected 0) ⟨rfl, rfl⟩, rfl, rfl⟩
    obtain ⟨log, pool, after, moment, run, single, connected⟩ := looks (Envelope.new [] "")
    have held : (Text.Utf8.bytes (Envelope.new [] "").encode).length < UInt64.size := by
      rw [Envelope.bytes_encode]
      decide +kernel
    have limited := publishWithLimit_exact.2 (Envelope.new [] "") "a/b" (UInt64.size - 1) held
    have admits : ∀ payload : List UInt8, payload.length < UInt64.size →
        (Mqtt.Client.parcel payload "a/b").verdict (UInt64.size - 1) (.connected 0) = .ok 0 := by
      intro payload held
      refine Parcel.verdict_eq_ok_iff.mpr ⟨rfl, filled, fun exceeds => ?_⟩
      have above : (UInt64.size - 1) * 1024 < payload.length := exceeds.2
      omega
    rcases (limited.posted (Fin 2) _ _ _ _ run 1 rfl).handed single
      ((congrArg _ connected).trans (admits _ held)) with ⟨-, asks⟩ | ⟨_, _, more, -⟩
    · exact ⟨log, pool, after, run, asks⟩
    · cases more

end MessageBus

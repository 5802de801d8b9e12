/-
**Messages for many routes.** What comes into the queues of all routes when messages arrive one
after another, in whatever order the route table is enumerated.

* `Publication.Received` — what a message becomes: a raw body, the decoded envelope, or an error.
* `gather` — what routes make of a message, in the order of the table; `perm_gather` — in any other
  order they make the same, and only routes that share a queue send to it.
* `Publication.share`, `Publication.blame` — the envelopes and the errors that routes make of a
  message. All these errors are the same, and so are the envelopes of routes of one kind.
* `FannedOut` — every message comes to every route whose filter takes its topic, once.
* `publications_fanned_out` — **whatever comes of messages, they are fanned out**.
-/

import MessageBus.Proofs.Mqtt.Dispatch
import Mathlib.Data.List.Forall2

namespace MessageBus.Mqtt

/-- Routes that are all of one kind. -/
def RouteTable.OfOneKind (table : RouteTable) : Prop :=
  ∀ entry ∈ table, ∀ other ∈ table, entry.2.binary = other.2.binary

namespace EventLoop

/-! ### One message for one route -/

/-- What a message becomes: a route of raw bodies gets its body, any other route the envelope that
it holds, and an error if it holds none. Every envelope tells the topic. -/
structure Publication.Received (publication : Publication) : Prop where
  raw : ∃ envelope, publication.received true = .ok envelope ∧
    envelope.payload = publication.payload ∧ envelope.contentType = ContentType.binary.name
  decoded : ∀ envelope, Envelope.decode publication.payload = .ok envelope →
    publication.received false = .ok { envelope with receivedTopic := publication.topic }
  undecodable : ∀ fault, Envelope.decode publication.payload = .error fault →
    ∃ text, publication.received false = .error (.deserialization text)
  topic : ∀ binary envelope, publication.received binary = .ok envelope →
    envelope.receivedTopic = publication.topic

theorem Publication.received_false (publication : Publication) : publication.received false =
    match Envelope.decode publication.payload with
    | .ok envelope => .ok { envelope with receivedTopic := publication.topic }
    | .error fault => .error (.deserialization
        ("unable to decode envelope from '" ++ publication.topic ++ "': " ++ fault.message)) :=
  rfl

theorem Publication.received_all (publication : Publication) : publication.Received where
  raw := ⟨_, rfl, rfl, rfl⟩
  decoded envelope decoded := by rw [received_false, decoded]
  undecodable fault undecodable := by
    rw [received_false, undecodable]
    exact ⟨_, rfl⟩
  topic binary envelope received := by
    cases binary with
    | true =>
      cases received
      rfl
    | false =>
      rw [received_false] at received
      cases decoded : Envelope.decode publication.payload with
      | ok decoded =>
        rw [decoded] at received
        cases received
        rfl
      | error fault =>
        rw [decoded] at received
        cases received

/-! ### One message for all routes -/

section Gathering

variable {α : Type} {item? : Bool → Option α} {table : RouteTable} {topic : String}
  {queue : Route → Nat} {number : Nat} {item : α} {order : List Route}

/-- What routes make of a message on a topic, in the order of the table. -/
def gather (item? : Bool → Option α) (table : RouteTable) (topic : String) : List α :=
  (table.matching topic).filterMap fun route => item? route.binary

theorem mem_gather (member : item ∈ gather item? table topic) :
    ∃ entry ∈ table, item? entry.2.binary = some item := by
  obtain ⟨route, matching, made⟩ := List.mem_filterMap.mp member
  obtain ⟨entry, takes, rfl⟩ := List.mem_map.mp matching
  exact ⟨entry, List.mem_of_mem_filter takes, made⟩

/-- Only routes that share a queue send to it. -/
theorem filterMap_matching (item? : Bool → Option α) (table : RouteTable) (topic : String)
    (queue : Route → Nat) (number : Nat) :
    ((table.matching topic).filterMap fun route =>
        if queue route = number then item? route.binary else none) =
      gather item? (table.sharing queue number) topic := by
  unfold gather RouteTable.matching RouteTable.sharing
  simp only [List.filterMap_map, List.filterMap_filter]
  refine List.filterMap_congr fun entry _ => ?_
  by_cases takes : topicMatches entry.1 topic <;>
    by_cases here : queue entry.2 = number <;> simp [takes, here]

/-- **In any order, routes make the same of a message.** -/
theorem perm_gather (item? : Bool → Option α) (queue : Route → Nat) (number : Nat)
    (found : order.Perm (table.matching topic)) :
    (order.filterMap fun route => if queue route = number then item? route.binary else none).Perm
      (gather item? (table.sharing queue number) topic) := by
  rw [← filterMap_matching]
  exact found.filterMap _

/-- Where all items are the same, their order does not show. -/
theorem eq_of_perm_of_alike {items others : List α} (perm : items.Perm others)
    (alike : ∀ item ∈ others, ∀ other ∈ others, item = other) : items = others := by
  cases others with
  | nil => exact perm.eq_nil
  | cons first rest =>
    have same : first :: rest = List.replicate (rest.length + 1) first :=
      List.eq_replicate_of_mem fun item member => alike item member first List.mem_cons_self
    rw [same] at perm ⊢
    exact List.perm_replicate.mp perm

/-- Routes of one kind make the same of a message. -/
theorem gather_alike (oneKind : table.OfOneKind) : ∀ item ∈ gather item? table topic,
    ∀ other ∈ gather item? table topic, item = other := by
  intro item member other further
  obtain ⟨entry, there, made⟩ := mem_gather member
  obtain ⟨entry', there', made'⟩ := mem_gather further
  rw [oneKind entry there entry' there', made'] at made
  exact (Option.some.inj made).symm

end Gathering

namespace Publication

/-- The envelopes that routes make of a message. -/
def share (publication : Publication) (table : RouteTable) : List Envelope :=
  gather publication.envelope? table publication.topic

/-- The errors that routes make of a message. -/
def blame (publication : Publication) (table : RouteTable) : List BusError :=
  gather publication.fault? table publication.topic

/-- All routes make the same error of a message: those of raw bodies make none. -/
theorem blame_alike (publication : Publication) (table : RouteTable) :
    ∀ error ∈ publication.blame table, ∀ other ∈ publication.blame table, error = other := by
  have only : ∀ error ∈ publication.blame table, publication.fault? false = some error := by
    intro error member
    obtain ⟨⟨filter, route⟩, -, made⟩ := mem_gather member
    cases binary : route.binary with
    | false => exact binary ▸ made
    | true =>
      rw [binary] at made
      cases made
  intro error member other further
  exact Option.some.inj ((only error member).symm.trans (only other further))

end Publication

/-- A queue that only one route uses gets one item for each message that its filter takes. -/
theorem flatMap_gather_singleton {α : Type} (item? : Publication → Bool → Option α)
    (filter : String) (route : Route) (publications : List Publication) :
    (publications.flatMap fun publication =>
        gather (item? publication) [(filter, route)] publication.topic) =
      (publications.filter fun publication => topicMatches filter publication.topic).filterMap
        fun publication => item? publication route.binary := by
  induction publications with
  | nil => rfl
  | cons publication rest ih =>
    rw [List.flatMap_cons, ih]
    unfold gather RouteTable.matching
    by_cases takes : topicMatches filter publication.topic
    · cases made : item? publication route.binary <;> simp [takes, made]
    · simp [takes]

/-! ### All messages -/

/-- A round that is fair to the routes of a table. -/
structure Round.FairTo (table : RouteTable) (round : Round) : Prop where
  steady : round.world.table = table
  fair : round.Fair

theorem Round.FairTo.found {table : RouteTable} {round : Round} (fairly : round.FairTo table) :
    round.order.Perm (table.matching round.publication.topic) := by
  have found := fairly.fair.found
  rwa [fairly.steady] at found

/-- Every message comes to every route whose filter takes its topic, once, and to no other. What
comes into a queue depends on nothing but the messages, the routes that use it, and how long it is
open. -/
structure FannedOut (table : RouteTable) (publications : List Publication)
    (log : List (Moment looks.work Surroundings)) (world after : Surroundings) : Prop where
  /-- The event loop goes from message to message: it looks for routes, and gives each of those that
  match its parcel. -/
  rounds : ∃ rounds : List Round, rounds.map (·.publication) = publications ∧
    log = rounds.flatMap Round.log ∧ ∀ round ∈ rounds, round.FairTo table
  /-- Every queue of messages gets what the routes that send to it make of each message, in the order
  of arrival. -/
  messages : ∀ number, ∃ shares : List (List Envelope),
    List.Forall₂ (fun publication share => share.Perm (publication.share (table.into number)))
      publications shares ∧
    Intake.Grows shares.flatten (world.messages number) (after.messages number)
  /-- Where these routes are of one kind, the order of the table does not show. -/
  alike : ∀ number, (table.into number).OfOneKind →
    Intake.Grows (publications.flatMap fun publication => publication.share (table.into number))
      (world.messages number) (after.messages number)
  /-- A route with a queue of messages of its own gets one envelope for each message that it takes
  and that makes one. -/
  own : ∀ filter route, table.into route.messages = [(filter, route)] →
    Intake.Grows
      ((publications.filter fun publication => topicMatches filter publication.topic).filterMap
        fun publication => publication.envelope? route.binary)
      (world.messages route.messages) (after.messages route.messages)
  /-- Every queue of errors gets what the routes that report to it make of each message. -/
  errors : ∀ number, Intake.Grows
    (publications.flatMap fun publication => publication.blame (table.noting number))
    (world.errors number) (after.errors number)
  /-- A route with a queue of errors of its own gets one error for each message that it takes and that
  makes no envelope. -/
  blamed : ∀ filter route, table.noting route.errors = [(filter, route)] →
    Intake.Grows
      ((publications.filter fun publication => topicMatches filter publication.topic).filterMap
        fun publication => publication.fault? route.binary)
      (world.errors route.errors) (after.errors route.errors)

/-- What rounds send to a queue, where the order of the routes does not show. -/
theorem flatMap_rounds {α : Type} {table : RouteTable} {rounds : List Round}
    (item? : Publication → Bool → Option α) (queue : Route → Nat) (number : Nat)
    (fair : ∀ round ∈ rounds, round.FairTo table)
    (alike : ∀ publication : Publication, ∀ item ∈ gather (item? publication)
      (table.sharing queue number) publication.topic, ∀ other ∈ gather (item? publication)
        (table.sharing queue number) publication.topic, item = other) :
    (rounds.flatMap fun round => round.order.filterMap fun route =>
        if queue route = number then item? round.publication route.binary else none) =
      (rounds.map (·.publication)).flatMap fun publication =>
        gather (item? publication) (table.sharing queue number) publication.topic := by
  rw [List.flatMap_map]
  refine List.flatMap_congr ?_
  intro round member
  have perm := perm_gather (item? round.publication) queue number (fair round member).found
  exact eq_of_perm_of_alike perm (alike round.publication)

section Courses

variable {supply : Nat → String} {reconnect value : Bool} {table : RouteTable}
  {publications : List Publication} {world after : Surroundings}
  {log : List (Moment looks.work Surroundings)} {rounds : List Round}

theorem report_quiet (publications : List Publication) :
    ∀ report ∈ publications.map (·.report), report.ends = false := by
  intro report member
  obtain ⟨publication, -, rfl⟩ := List.mem_map.mp member
  rfl

theorem asks_publications (reconnect : Bool) (publications : List Publication) :
    (run reconnect (publications.map (·.report))).Asks Feeds := by
  refine asks_run ?_
  intro report member ends
  cases (report_quiet publications report member).symm.trans ends

/-- Messages are dispatched in rounds. -/
theorem rounds_of_publications (course : (scene supply).Course
      (run reconnect (publications.map (·.report))) world log value after) :
    value = true ∧ ∃ rounds : List Round, rounds.map (·.publication) = publications ∧
      (∀ round ∈ rounds, round.Fair) ∧ log = rounds.flatMap Round.log := by
  obtain ⟨value, rounds, published, fair, story⟩ :=
    course_run_quiet (report_quiet publications) course
  refine ⟨value, rounds, ?_, fair, story⟩
  rw [published, List.filterMap_map]
  exact List.filterMap_some

/-- **Fair rounds fan messages out.** -/
theorem fannedOut_of_rounds (fair : ∀ round ∈ rounds, round.FairTo table)
    (fills : Fills (sent · (rounds.flatMap Round.log)) (reported · (rounds.flatMap Round.log)) world
      after) :
    FannedOut table (rounds.map (·.publication)) (rounds.flatMap Round.log) world after := by
  obtain ⟨messages, errors⟩ := fills_of_rounds (fun round member => (fair round member).fair) fills
  have alike (number : Nat) (oneKind : (table.into number).OfOneKind) :=
    flatMap_rounds Publication.envelope? (·.messages) number fair
      (fun publication => gather_alike oneKind) ▸ messages number
  have blamed (number : Nat) := flatMap_rounds Publication.fault? (·.errors) number fair
    (fun publication => publication.blame_alike (table.noting number)) ▸ errors number
  exact {
    rounds := ⟨rounds, rfl, rfl, fair⟩
    messages := by
      intro number
      refine ⟨rounds.map fun round => round.publication.envelopes number round.order, ?_, ?_⟩
      · rw [List.forall₂_map_left_iff, List.forall₂_map_right_iff, List.forall₂_same]
        intro round member
        exact perm_gather _ (·.messages) number (fair round member).found
      · rw [← List.flatMap_def]
        exact messages number
    alike
    own := by
      intro filter route only
      rw [← flatMap_gather_singleton, ← only]
      -- one route is of one kind
      refine alike route.messages ?_
      rw [only]
      exact List.forall_mem_singleton.mpr (List.forall_mem_singleton.mpr rfl)
    errors := blamed
    blamed := by
      intro filter route only
      rw [← flatMap_gather_singleton, ← only]
      exact blamed route.errors }

/-- **Messages are fanned out**, whatever happens to the queues, as long as the table stays. -/
theorem fannedOut_of_course (course : (scene supply).Course
      (run reconnect (publications.map (·.report))) world log value after)
    (stays : ∀ moment ∈ log, moment.world.table = table) :
    value = true ∧ FannedOut table publications log world after := by
  have fills := fills_of_course (asks_publications reconnect publications) course
  obtain ⟨value, rounds, rfl, fair, rfl⟩ := rounds_of_publications course
  refine ⟨value, fannedOut_of_rounds ?_ fills⟩
  intro round member
  -- the table was the same when the routes of the round were looked up
  have looked := stays _ (List.mem_flatMap.mpr ⟨round, member, List.mem_cons_self⟩)
  exact ⟨looked, fair round member⟩

end Courses

/-- **Messages are fanned out** to the routes of a table: each route whose filter takes the topic of
a message gets its raw body, the envelope that it holds, or one error, in the order of arrival,
whatever becomes of other routes and in whatever order the table is enumerated. This comes to its
end if receivers take what waits. -/
theorem publications_fanned_out (supply : Nat → String) (reconnect : Bool)
    (publications : List Publication) (world : Surroundings) :
    (∀ publication ∈ publications, publication.Received) ∧
    (∀ table log value after, (scene supply).Course
        (run reconnect (publications.map (·.report))) world log value after →
      (∀ moment ∈ log, moment.world.table = table) →
        value = true ∧ FannedOut table publications log world after) ∧
    (world.Roomy → ∃ log after, (scene supply).Course
        (run reconnect (publications.map (·.report))) world log true after ∧
      (∀ moment ∈ log, moment.world.table = world.table) ∧ Steady world after) := by
  refine ⟨fun publication _ => publication.received_all,
    fun table log value after => fannedOut_of_course, fun roomy => ?_⟩
  obtain ⟨log, value, after, course, steady, last⟩ :=
    exists_steady_course supply (asks_publications reconnect publications) roomy
  obtain ⟨rfl, -⟩ := rounds_of_publications course
  exact ⟨log, after, course, fun moment member => (steady moment member).table, last⟩

/-- A message for a route of raw bodies and one of envelopes, which it does not hold, and then a
message for the first of them alone. A third route gets neither. -/
theorem publications_fanned_out_overlapping :
    let table : RouteTable :=
      [("raw/#", ⟨0, 0, true⟩), ("raw/+", ⟨1, 1, false⟩), ("other", ⟨2, 0, true⟩)]
    let place : Workplace := { messages := List.replicate 3 { capacity := 1 },
                               errors := List.replicate 2 { capacity := 1 } }
    let publications : List Publication := [⟨"raw/feed", [120]⟩, ⟨"raw/feed/old", [121]⟩]
    ∃ log after, (scene toString).Course (run false (publications.map (·.report)))
        { table, place } log true after ∧
      FannedOut table publications log { table, place } after ∧
      (after.messages 0).items.map (·.payload) = [[120], [121]] ∧
      (after.messages 1).items = [] ∧ (after.messages 2).items = [] ∧
      (after.errors 0).items = [] ∧ (after.errors 1).items.length = 1 := by
  intro table place publications
  let world : Surroundings := { table, place }
  have roomy : world.Roomy := ⟨by decide, by decide⟩
  obtain ⟨-, fans, comes⟩ := publications_fanned_out toString false publications world
  obtain ⟨log, after, course, stays, steady⟩ := comes roomy
  obtain ⟨-, fanned⟩ := fans table log true after course stays
  have isOpen (number : Nat) (small : number < 3) : (after.messages number).isOpen := by
    rw [steady.isOpen_messages]
    revert number
    decide
  have notes (number : Nat) (small : number < 2) : (after.errors number).isOpen := by
    rw [steady.isOpen_errors]
    revert number
    decide
  refine ⟨log, after, course, fanned, ?_, ?_, ?_, ?_, ?_⟩
  · rw [(fanned.own "raw/#" ⟨0, 0, true⟩ rfl).all (isOpen 0 (by decide))]
    decide +kernel
  · rw [(fanned.own "raw/+" ⟨1, 1, false⟩ rfl).all (isOpen 1 (by decide))]
    decide +kernel
  · rw [(fanned.own "other" ⟨2, 0, true⟩ rfl).all (isOpen 2 (by decide))]
    decide +kernel
  · rw [(fanned.errors 0).all (notes 0 (by decide))]
    decide +kernel
  · rw [(fanned.blamed "raw/+" ⟨1, 1, false⟩ rfl).all (notes 1 (by decide))]
    decide +kernel

end EventLoop

end MessageBus.Mqtt

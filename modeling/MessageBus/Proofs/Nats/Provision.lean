/-
**Provisioning.** The stream that a client ensures when it connects.

* `Catalog.listing` — a catalog that is a list of streams: a lookup finds the first stream that
  covers the subject, a creation adds a stream, and any call may fail.
* `Link.listing`, `Link.answers_of_streamFor` — **over a link that lists its streams, a lookup is
  that of such a catalog**.
* `Provisioning` — all that can come of provisioning; `provisioning_of_course` — **there is nothing
  else**.
* `Provisioned` — what provisioning does: it creates at most one stream, and none unless it has
  found that no stream covers the subject and has a name for a new one.
* `Serves` — what a catalog offers under the name that provisioning gave: a stream that covers the
  subject, the same name to whoever provisions again, and a stream for every subscription below.
* `provisioning_suffices` — **provisioning is safe, idempotent and sufficient**.
-/

import MessageBus.Proofs.Dialogue.Course
import MessageBus.Nats.Link
import MessageBus.Proofs.Subject.Coverage
import MessageBus.Scripted.Catalog
import Mathlib.Data.List.Nodup

namespace MessageBus.Nats

/-! ### Streams that cover -/

/-- A stream that covers a subject covers whatever that subject covers. -/
theorem Stream.covers_trans {stream : Stream} {wide narrow : String} (covers : stream.covers wide)
    (within : subjectCovers wide narrow) : stream.covers narrow := by
  obtain ⟨pattern, member, taken⟩ := List.any_eq_true.mp covers
  exact List.any_eq_true.mpr ⟨pattern, member, subjectCovers_trans taken within⟩

theorem Stream.covers_single (name subject : String) :
    (Stream.mk name [subject]).covers subject :=
  List.any_eq_true.mpr ⟨subject, List.mem_singleton_self _, subjectCovers_refl subject⟩

/-! ### A catalog as a list -/

namespace Catalog

/-- The first stream of several that covers a subject. -/
def first? (streams : List Stream) (subject : String) : Option Stream :=
  streams.find? (·.covers subject)

/-- A catalog that lists its streams. Every call may fail, and then changes nothing. A lookup finds
the first stream that covers the subject; a new stream may stand anywhere among the others. -/
def listing : Scene interface (List Stream) Empty where
  answers
    | .streamFor subject, streams, .ok found, after =>
      found = (first? streams subject).map (·.name) ∧ after = streams
    | .createStream name subject, streams, .ok _, after =>
      ∃ front back, streams = front ++ back ∧ after = front ++ ⟨name, [subject]⟩ :: back
    | _, streams, _, after => after = streams
  happens _ _ _ := False

/-- What such a catalog is asked, with its answers. -/
abbrev Account := List (Moment interface (List Stream))

/-- The streams that were to be created, with their subjects. -/
def creations (log : Account) : List (String × String) :=
  log.filterMap fun moment => match moment.question with
    | .createStream name subject => some (name, subject)
    | _ => none

/-- The failures of lookups. -/
def lookupFailures (log : Account) : List BusError :=
  log.filterMap fun
    | ⟨_, .streamFor _, .error error⟩ => some error
    | _ => none

variable {streams : List Stream} {subject : String}

theorem first?_eq_some {stream : Stream} (found : first? streams subject = some stream) :
    stream ∈ streams ∧ stream.covers subject := by
  have covers := List.find?_some found
  exact ⟨List.mem_of_find?_eq_some found, covers⟩

theorem first?_eq_none :
    first? streams subject = none ↔ ∀ stream ∈ streams, ¬ stream.covers subject :=
  List.find?_eq_none

/-- Among streams that do not cover a subject, a new one that does is found wherever it stands. -/
theorem first?_insert {front back : List Stream} {stream : Stream}
    (none : first? (front ++ back) subject = none) (covers : stream.covers subject) :
    first? (front ++ stream :: back) subject = some stream := by
  have before : front.find? (·.covers subject) = Option.none :=
    first?_eq_none.mpr fun other member =>
      first?_eq_none.mp none other (List.mem_append_left _ member)
  rw [first?, List.find?_append, before, Option.none_or, List.find?_cons, covers]

theorem exists_first? {stream : Stream} (member : stream ∈ streams)
    (covers : stream.covers subject) : ∃ first, first? streams subject = some first := by
  cases found : first? streams subject with
  | none => exact absurd covers (first?_eq_none.mp found stream member)
  | some first => exact ⟨first, rfl⟩

end Catalog

/-! ### A link that lists streams -/

namespace Link

/-- A link to a server that lists its streams and tells their subjects. Every call may fail. -/
def listing : Scene Link.interface.work (List Stream) Empty where
  answers
    | .inl .streamNames, streams, .ok names, after =>
      names = streams.map (·.name) ∧ after = streams
    | .inl (.streamSubjects name), streams, .ok subjects, after =>
      (∃ stream ∈ streams, stream.name = name ∧ subjects = stream.subjects) ∧ after = streams
    | _, streams, _, after => after = streams
  happens _ _ _ := False

variable {streams rest after : List Stream} {subject : String}
  {told : List (Moment Link.interface.work (List Stream))} {found : BusResult (Option String)}

/-- A course of a call goes on with any answer that the link may give. -/
theorem course_call {c : Call} {α : Type} {value : α}
    {resume : c.Answer → Dialogue Link.interface.work α} :
    listing.Course ((Link.call c).bind resume) streams told value after ↔
      ∃ answer next rest, told = ⟨streams, .inl c, answer⟩ :: rest ∧
        listing.answers (.inl c) streams answer next ∧
        listing.Course (resume answer) next rest value after :=
  Scene.course_ask_still fun incident => incident.elim

/-- A search asks for the subjects of one stream after another until one covers the subject. -/
theorem firstCovering_cons (subject name : String) (names : List String) :
    firstCovering subject (name :: names) = (Link.call (.streamSubjects name)).bind fun
      | .error words =>
        .done (.error (.operation "jetstream" ("stream '" ++ name ++ "': " ++ words)))
      | .ok subjects =>
        if (Stream.mk name subjects).covers subject then .done (.ok (some name))
        else firstCovering subject names := by
  refine congrArg (Dialogue.ask _) (funext fun told => ?_)
  match told with
  | .error _ | .ok _ => rfl

/-- Of streams with names of their own, the first that covers the subject is found. -/
theorem answers_of_firstCovering (distinct : (streams.map (·.name)).Nodup) (within : rest ⊆ streams)
    (course : listing.Course (firstCovering subject (rest.map (·.name))) streams told found after) :
    after = streams ∧ ((∃ error, found = .error error) ∨
      found = .ok ((Catalog.first? rest subject).map (·.name))) := by
  induction rest generalizing told with
  | nil =>
    obtain ⟨rfl, rfl, rfl⟩ := Scene.course_done.mp course
    exact ⟨rfl, .inr rfl⟩
  | cons stream rest ih =>
    obtain ⟨member, others⟩ := List.cons_subset.mp within
    rw [List.map_cons, firstCovering_cons] at course
    obtain ⟨answer, next, _, rfl, answered, further⟩ := course_call.mp course
    cases answer with
    | error words =>
      cases answered
      obtain ⟨rfl, rfl, rfl⟩ := Scene.course_done.mp further
      exact ⟨rfl, .inl ⟨_, rfl⟩⟩
    | ok subjects =>
      obtain ⟨⟨other, otherMember, same, rfl⟩, rfl⟩ := answered
      -- a name stands for one stream only, so these are the subjects of this one
      obtain rfl : other = stream :=
        List.inj_on_of_nodup_map distinct otherMember member same
      dsimp only at further
      unfold Catalog.first? at ih ⊢
      by_cases covers : other.covers subject
      · rw [if_pos covers] at further
        obtain ⟨rfl, rfl, rfl⟩ := Scene.course_done.mp further
        rw [List.find?_cons, covers]
        exact ⟨rfl, .inr rfl⟩
      · rw [if_neg covers] at further
        rw [List.find?_cons, Bool.eq_false_iff.mpr covers]
        exact ih others further

/-- **Over a link that lists streams with names of their own, a lookup is that of a catalog that
lists them.** -/
theorem answers_of_streamFor (distinct : (streams.map (·.name)).Nodup)
    (course : listing.Course (streamFor subject) streams told found after) :
    Catalog.listing.answers (.streamFor subject) streams found after := by
  obtain ⟨answer, next, _, rfl, answered, course⟩ := course_call.mp course
  cases answer with
  | error words =>
    cases answered
    obtain ⟨rfl, rfl, rfl⟩ := Scene.course_done.mp course
    exact rfl
  | ok names =>
    obtain ⟨rfl, rfl⟩ := answered
    obtain ⟨rfl, ⟨error, rfl⟩ | rfl⟩ :=
      answers_of_firstCovering distinct (List.Subset.refl _) course
    · exact rfl
    · exact ⟨rfl, rfl⟩

end Link

open Catalog

variable {options : Options} {streams after : List Stream} {log : Account}
  {result : BusResult String} {name : String}

/-! ### What can come of provisioning -/

/-- The subject that is provisioned. -/
def Options.provisioned (options : Options) : String :=
  topicToSubject options.subject

/-- All that can come of provisioning, with what the catalog is asked. -/
inductive Provisioning (options : Options) (streams : List Stream) :
    Account → BusResult String → List Stream → Prop
  /-- The lookup fails. -/
  | unknown (error : BusError) :
    Provisioning options streams [⟨streams, .streamFor options.provisioned, .error error⟩]
      (.error error) streams
  /-- A stream covers the subject. -/
  | covered {stream : Stream} (found : first? streams options.provisioned = some stream) :
    Provisioning options streams
      [⟨streams, .streamFor options.provisioned, .ok (some stream.name)⟩] (.ok stream.name) streams
  /-- No stream covers the subject, and there is no name for a new one. -/
  | nameless (none : first? streams options.provisioned = none)
      (nameless : provisionedName options options.provisioned = "") :
    Provisioning options streams [⟨streams, .streamFor options.provisioned, .ok Option.none⟩]
      (.error (.configuration
        ("cannot derive a stream name from subject '" ++ options.provisioned ++ "'"))) streams
  /-- The new stream cannot be created. -/
  | refused (none : first? streams options.provisioned = none)
      (named : provisionedName options options.provisioned ≠ "") (error : BusError) :
    Provisioning options streams [⟨streams, .streamFor options.provisioned, .ok Option.none⟩,
      ⟨streams, .createStream (provisionedName options options.provisioned) options.provisioned,
        .error error⟩] (.error error) streams
  /-- A new stream is created. -/
  | created {front back : List Stream} (none : first? streams options.provisioned = none)
      (named : provisionedName options options.provisioned ≠ "") (split : streams = front ++ back) :
    Provisioning options streams [⟨streams, .streamFor options.provisioned, .ok Option.none⟩,
      ⟨streams, .createStream (provisionedName options options.provisioned) options.provisioned,
        .ok ()⟩] (.ok (provisionedName options options.provisioned))
      (front ++ ⟨provisionedName options options.provisioned, [options.provisioned]⟩ :: back)

/-- A course of a call goes on with any answer that the catalog may give. -/
theorem course_call {c : Call} {α : Type} {value : α} {resume : c.Answer → Dialogue interface α} :
    listing.Course ((Catalog.call c).bind resume) streams log value after ↔
      ∃ answer next rest, log = ⟨streams, c, answer⟩ :: rest ∧
        listing.answers c streams answer next ∧
        listing.Course (resume answer) next rest value after :=
  Scene.course_ask_still fun incident => incident.elim

/-- Creates a stream for the subject, if there is a name for it. -/
def provisionNew (options : Options) : Dialogue interface (BusResult String) := do
  let name := provisionedName options options.provisioned
  if name.isEmpty then
    return .error (.configuration
      ("cannot derive a stream name from subject '" ++ options.provisioned ++ "'"))
  else match ← Catalog.call (.createStream name options.provisioned) with
    | .error error => return .error error
    | .ok () => return .ok name

/-- Provisioning creates a stream only if it finds none. -/
theorem provisionStream_eq (options : Options) :
    provisionStream options = (Catalog.call (.streamFor options.provisioned)).bind fun
      | .error error => .done (.error error)
      | .ok (some existing) => .done (.ok existing)
      | .ok none => provisionNew options := by
  refine congrArg (Dialogue.bind _) (funext fun found => ?_)
  match found with
  | .error _ | .ok (some _) => rfl
  | .ok none =>
    refine congrArg (ite _ _) (congrArg (Dialogue.bind _) (funext fun created => ?_))
    match created with
    | .error _ | .ok () => rfl

/-- What comes of creating a stream, after a lookup that has found none. -/
theorem provisioning_of_new (none : first? streams options.provisioned = none)
    (course : listing.Course (provisionNew options) streams log result after) :
    Provisioning options streams
      (⟨streams, .streamFor options.provisioned, .ok Option.none⟩ :: log) result after := by
  unfold provisionNew at course
  by_cases nameless : provisionedName options options.provisioned = ""
  · rw [if_pos (by simpa using nameless)] at course
    obtain ⟨rfl, rfl, rfl⟩ := Scene.course_done.mp course
    exact .nameless none nameless
  rw [if_neg (by simpa using nameless)] at course
  obtain ⟨created, next, rest, rfl, answered, course⟩ := course_call.mp course
  cases created with
  | error error =>
    cases answered
    obtain ⟨rfl, rfl, rfl⟩ := Scene.course_done.mp course
    exact .refused none nameless error
  | ok _ =>
    obtain ⟨front, back, split, rfl⟩ := answered
    obtain ⟨rfl, rfl, rfl⟩ := Scene.course_done.mp course
    exact .created none nameless split

/-- **All that comes of provisioning.** -/
theorem provisioning_of_course
    (course : listing.Course (provisionStream options) streams log result after) :
    Provisioning options streams log result after := by
  rw [provisionStream_eq, course_call] at course
  obtain ⟨found, next, rest, rfl, answered, course⟩ := course
  cases found with
  | error error =>
    cases answered
    obtain ⟨rfl, rfl, rfl⟩ := Scene.course_done.mp course
    exact .unknown error
  | ok found =>
    obtain ⟨rfl, still⟩ := answered
    -- the lookup leaves the streams, so what follows starts from the same ones
    rw [still] at course
    cases first : first? streams options.provisioned with
    | some stream =>
      rw [first] at course
      obtain ⟨rfl, rfl, rfl⟩ := Scene.course_done.mp course
      exact .covered first
    | none =>
      rw [first] at course
      exact provisioning_of_new first course

theorem exists_course_covered {stream : Stream}
    (found : first? streams options.provisioned = some stream) :
    ∃ log, listing.Course (provisionStream options) streams log (.ok stream.name) streams := by
  rw [provisionStream_eq]
  exact ⟨_, course_call.mpr
    ⟨.ok (some stream.name), _, [], rfl, ⟨congrArg (Option.map _) found.symm, rfl⟩, .done _ _⟩⟩

/-! ### What provisioning does -/

/-- What provisioning does about the streams of a catalog. -/
structure Provisioned (options : Options) (streams : List Stream) (log : Account)
    (result : BusResult String) (after : List Stream) : Prop where
  /-- At most one stream is to be created. -/
  one : (creations log).length ≤ 1
  /-- If the lookup fails, its failure is the result, and nothing is created. -/
  failed : ∀ error ∈ lookupFailures log,
    result = .error error ∧ creations log = [] ∧ after = streams
  /-- If a stream covers the subject, nothing is created, and the first such stream is named. -/
  covered : (∃ stream ∈ streams, stream.covers options.provisioned) →
    creations log = [] ∧ after = streams ∧ (lookupFailures log = [] →
      ∃ stream, first? streams options.provisioned = some stream ∧ result = .ok stream.name)
  /-- If none does, the configuration is refused and nothing is created exactly if there is no name
  for a new stream. -/
  nameless : lookupFailures log = [] → (∀ stream ∈ streams, ¬ stream.covers options.provisioned) →
    ((∃ text, result = .error (.configuration text)) ∧ creations log = [] ↔
      provisionedName options options.provisioned = "")
  /-- If there is a name, one stream is to be created for the subject. It is, and is named, unless
  that fails. -/
  created : lookupFailures log = [] → (∀ stream ∈ streams, ¬ stream.covers options.provisioned) →
    provisionedName options options.provisioned ≠ "" →
    creations log = [(provisionedName options options.provisioned, options.provisioned)] ∧
      ((∃ error, result = .error error ∧ after = streams) ∨
        result = .ok (provisionedName options options.provisioned) ∧
          ∃ front back, streams = front ++ back ∧ after = front ++
            ⟨provisionedName options options.provisioned, [options.provisioned]⟩ :: back)

/-- **Whatever comes of provisioning, it has done what it should.** -/
theorem Provisioning.provisioned (provisioning : Provisioning options streams log result after) :
    Provisioned options streams log result after := by
  cases provisioning with
  | unknown error =>
    refine ⟨Nat.zero_le _, fun other member => ?_, fun _ => ⟨rfl, rfl, nofun⟩, nofun, nofun⟩
    cases List.mem_singleton.mp member
    exact ⟨rfl, rfl, rfl⟩
  | @covered stream found =>
    have covers := first?_eq_some found
    exact ⟨Nat.zero_le _, nofun, fun _ => ⟨rfl, rfl, fun _ => ⟨stream, found, rfl⟩⟩,
      fun _ none => absurd covers.2 (none stream covers.1),
      fun _ none => absurd covers.2 (none stream covers.1)⟩
  | nameless none nameless =>
    exact ⟨Nat.zero_le _, nofun,
      fun ⟨stream, member, covers⟩ => absurd covers (first?_eq_none.mp none stream member),
      fun _ _ => ⟨fun _ => nameless, fun _ => ⟨⟨_, rfl⟩, rfl⟩⟩,
      fun _ _ named => absurd nameless named⟩
  | refused none named error =>
    exact ⟨Nat.le_refl _, nofun,
      fun ⟨stream, member, covers⟩ => absurd covers (first?_eq_none.mp none stream member),
      fun _ _ => ⟨nofun, (absurd · named)⟩, fun _ _ _ => ⟨rfl, .inl ⟨error, rfl, rfl⟩⟩⟩
  | created none named split =>
    exact ⟨Nat.le_refl _, nofun,
      fun ⟨stream, member, covers⟩ => absurd covers (first?_eq_none.mp none stream member),
      fun _ _ => ⟨nofun, (absurd · named)⟩,
      fun _ _ _ => ⟨rfl, .inr ⟨rfl, _, _, split, rfl⟩⟩⟩

/-! ### What it is good for -/

/-- A name that provisioning gives is that of the first stream that covers the subject from then
on. -/
theorem Provisioning.first?_eq (provisioning : Provisioning options streams log (.ok name) after) :
    ∃ stream, first? after options.provisioned = some stream ∧ stream.name = name := by
  cases provisioning with
  | covered found => exact ⟨_, found, rfl⟩
  | created none named split =>
    exact ⟨_, first?_insert (split ▸ none) (Stream.covers_single _ _), rfl⟩

/-- A session over streams, with a catalog that lists them. -/
def JetStream.listing : Scene JetStream.base (List Stream) Empty where
  answers
    | .inl _, streams, _, after => after = streams
    | .inr c, streams, answer, after => Catalog.listing.answers c streams answer after
  happens _ _ _ := False

/-- What a catalog offers under a name that stands for the configured subject. -/
structure Serves (options : Options) (name : String) (streams : List Stream) : Prop where
  /-- A stream of that name covers the subject. -/
  covers : ∃ stream ∈ streams, stream.name = name ∧ stream.covers options.provisioned
  /-- Provisioning again gives the name again and creates nothing, unless the lookup fails. -/
  again : ∀ log result after, Catalog.listing.Course (provisionStream options) streams log result
    after → lookupFailures log = [] → result = .ok name ∧ creations log = [] ∧ after = streams
  /-- Provisioning again may come to that end. -/
  possible : ∃ log,
    Catalog.listing.Course (provisionStream options) streams log (.ok name) streams
  /-- A subscription of a subject that the configured one covers first looks for a stream, and finds
  one that covers its subject, unless the lookup fails. -/
  subscriptions : ∀ (subscriber : Options) connection subject queue delivery,
    subjectCovers options.provisioned subject = true → ∀ log result after,
    JetStream.listing.Course (JetStream.subscribe subscriber connection subject queue delivery)
      streams log result after →
    ∃ found rest, log = ⟨streams, .inr (.streamFor subject), found⟩ :: rest ∧
      ((∃ error, found = .error error) ∨
        ∃ stream ∈ streams, stream.covers subject ∧ found = .ok (some stream.name))

/-- Where a stream covers the configured subject, the catalog serves under the name of the first one
that does. -/
theorem serves_of_first? {stream : Stream}
    (found : first? streams options.provisioned = some stream) :
    Serves options stream.name streams where
  covers := ⟨stream, (first?_eq_some found).1, rfl, (first?_eq_some found).2⟩
  again log result after course smooth := by
    obtain ⟨created, still, named⟩ := (provisioning_of_course course).provisioned.covered
      ⟨stream, first?_eq_some found⟩
    obtain ⟨other, first, rfl⟩ := named smooth
    cases found.symm.trans first
    exact ⟨rfl, created, still⟩
  possible := exists_course_covered found
  subscriptions subscriber connection subject queue delivery within log result after course := by
    obtain ⟨looked, next, rest, rfl, answered, -⟩ :=
      (Scene.course_ask_still fun incident => incident.elim).mp course
    refine ⟨looked, rest, rfl, ?_⟩
    cases looked with
    | error error => exact .inl ⟨error, rfl⟩
    | ok looked =>
      obtain ⟨member, covers⟩ := first?_eq_some found
      obtain ⟨other, first⟩ := exists_first? member (Stream.covers_trans covers within)
      obtain ⟨rfl, -⟩ := answered
      rw [first]
      exact .inr ⟨other, (first?_eq_some first).1, (first?_eq_some first).2, rfl⟩

/-- **Provisioning is safe, idempotent and sufficient**, whatever the catalog holds and whichever
calls fail. It creates at most one stream, and only for a subject that has none; and once it has
given a name, the catalog serves under it: provisioning again finds the same, and every subscription
below the configured subject finds a stream. Lookups are as the catalog has them over every link
that lists streams with names of their own. -/
theorem provisioning_suffices (options : Options) (streams : List Stream) :
    (∀ log result after,
      Catalog.listing.Course (provisionStream options) streams log result after →
        Provisioned options streams log result after ∧
          ∀ name, result = .ok name → Serves options name after) ∧
    ((streams.map (·.name)).Nodup → ∀ subject told found after,
      Link.listing.Course (Link.streamFor subject) streams told found after →
        Catalog.listing.answers (.streamFor subject) streams found after) := by
  refine ⟨fun log result after course => ?_,
    fun distinct _ _ _ _ course => Link.answers_of_streamFor distinct course⟩
  have provisioning := provisioning_of_course course
  refine ⟨provisioning.provisioned, ?_⟩
  rintro name rfl
  obtain ⟨stream, found, rfl⟩ := provisioning.first?_eq
  exact serves_of_first? found

/-- A catalog with another subject, and with streams that cover only a part of the configured one:
a stream is created, and it serves. Before that, a link that lists these streams finds that one of
them covers the part. -/
theorem provisioning_suffices_partial :
    let options : Options := { subject := "cim/#" }
    let streams : List Stream := [⟨"orders", ["orders.>"]⟩, ⟨"events", ["cim.*", "cim.a.b"]⟩]
    let created : Stream := ⟨"cim", ["cim.>"]⟩
    let log : Account := [⟨streams, .streamFor "cim.>", .ok none⟩,
      ⟨streams, .createStream "cim" "cim.>", .ok ()⟩]
    let told : List (Moment Link.interface.work (List Stream)) :=
      [⟨streams, .inl .streamNames, .ok ["orders", "events"]⟩,
        ⟨streams, .inl (.streamSubjects "orders"), .ok ["orders.>"]⟩,
        ⟨streams, .inl (.streamSubjects "events"), .ok ["cim.*", "cim.a.b"]⟩]
    Catalog.listing.Course (provisionStream options) streams log (.ok "cim")
      (created :: streams) ∧
    Provisioned options streams log (.ok "cim") (created :: streams) ∧
    Serves options "cim" (created :: streams) ∧
    (streams.map (·.name)).Nodup ∧
    Link.listing.Course (Link.streamFor "cim.a.b") streams told (.ok (some "events")) streams ∧
    Catalog.listing.answers (.streamFor "cim.a.b") streams (.ok (some "events")) streams := by
  intro options streams created log told
  have course : Catalog.listing.Course (provisionStream options) streams log (.ok "cim")
      (created :: streams) := by
    have subject : options.provisioned = "cim.>" := by decide +kernel
    have named : provisionedName options "cim.>" = "cim" := by decide +kernel
    rw [provisionStream_eq, provisionNew, subject, named, course_call]
    refine ⟨.ok none, streams, _, rfl, ⟨by decide +kernel, rfl⟩, ?_⟩
    refine course_call.mpr ⟨.ok (), created :: streams, [], rfl, ?_, .done _ _⟩
    exact ⟨[], streams, rfl, rfl⟩
  have distinct : (streams.map (·.name)).Nodup := by decide
  obtain ⟨outcomes, lookups⟩ := provisioning_suffices options streams
  obtain ⟨provisioned, serves⟩ := outcomes log (.ok "cim") (created :: streams) course
  -- The link tells of both streams; only the second one covers the subject.
  have looked : Link.listing.Course (Link.streamFor "cim.a.b") streams told (.ok (some "events"))
      streams := by
    have other : ¬ (Stream.mk "orders" ["orders.>"]).covers "cim.a.b" := by decide +kernel
    have covers : (Stream.mk "events" ["cim.*", "cim.a.b"]).covers "cim.a.b" := by decide +kernel
    refine Link.course_call.mpr ⟨_, streams, _, rfl, ⟨rfl, rfl⟩, ?_⟩
    dsimp only
    rw [Link.firstCovering_cons, Link.course_call]
    refine ⟨_, streams, _, rfl, ⟨⟨_, List.mem_cons_self, rfl, rfl⟩, rfl⟩, ?_⟩
    dsimp only
    rw [if_neg other, Link.firstCovering_cons, Link.course_call]
    refine ⟨_, streams, _, rfl, ⟨⟨_, List.mem_cons_of_mem _ List.mem_cons_self, rfl, rfl⟩, rfl⟩, ?_⟩
    dsimp only
    rw [if_pos covers]
    exact .done _ _
  exact ⟨course, provisioned, serves "cim" rfl, distinct, looked,
    lookups distinct "cim.a.b" told _ _ looked⟩

end MessageBus.Nats

/-
**The ledger of all handles.** The invariant of subscribing and unsubscribing.

* `Ledger` — every handle has its fate, and its story tells how it came to that.
* `Ledger.turn`, `Ledger.move`, `Ledger.pass` — what keeps the ledger: only what a turn touches may
  move.
* `accounted_keeps` — **every turn of a call keeps the ledger**, one lemma for each thing it may
  ask.
-/

import MessageBus.Proofs.Nats.Places

namespace MessageBus.Nats.Client

variable {Handle ι : Type}

/-! ### Fates and stories -/

section Ledgers

variable [DecidableEq Handle]

/-- What is known about the handle in the hand of a call. -/
def Known (log : Chronicle ι Handle) : Custody Handle → Prop
  | .free => True
  | .taken topic handle => IssuedFor log handle topic ∧ Live log handle
  | .opened topic handle => IssuedFor log handle topic ∧ Live log handle
  | .refused topic handle => IssuedFor log handle topic ∧ Live log handle ∧
      ∃ before stopping error, story handle log = before ++ [stopping] ∧
        stopping.exchange = stopped handle (.error error)
  | .displaced topic handle => IssuedFor log handle topic ∧ Live log handle ∧
      ∃ before registering other, story handle log = before ++ [registering] ∧
        registering.exchange = ⟨.inl (.register topic other), some handle⟩ ∧ other ≠ handle ∧
        IssuedFor log other topic

/-- What the story of a handle tells about its fate. -/
def Tells (stages : ι → Custody Handle) (log : Chronicle ι Handle) (handle : Handle) :
    Fate ι → Prop
  | .unknown => story handle log = []
  | .at (.entry topic) =>
    IssuedFor log handle topic ∧ Live log handle ∧ Settled log handle topic
  | .at (.hand who) => Known log (stages who)
  | .released => Released log handle
  | .discarded => ∃ topic, IssuedFor log handle topic ∧ Discarded log handle topic

/-- Every handle has its fate, and its story tells how it came to that. -/
structure Ledger (fate : Handle → Fate ι) (stages : ι → Custody Handle)
    (log : Chronicle ι Handle) (world : Depot Handle) : Prop where
  /-- The registry and the hands have the handles that are at their places. -/
  placed : Placed fate (contents world.client.registry stages)
  /-- The handles given out so far are those with a fate. -/
  issued : ∀ handle, handle ∈ world.issued ↔ fate handle ≠ .unknown
  /-- The registry has one entry for each topic. -/
  keys : (world.client.registry.map Prod.fst).Nodup
  /-- A handle was given out for one topic. -/
  unique : ∀ handle topic other, IssuedFor log handle topic → IssuedFor log handle other →
    topic = other
  /-- The stories tell so. -/
  tells : ∀ handle, Tells stages log handle (fate handle)

variable {fate : Handle → Fate ι} {stages : ι → Custody Handle} {log : Chronicle ι Handle}
  {world : Depot Handle}

/-- A turn that does not touch the handle in a hand leaves what is known about it. -/
theorem Known.turn {who : ι} {moment : Moment (backend Handle) (Depot Handle)}
    {stage : Custody Handle} (known : Known log stage)
    (untouched : ∀ handle, stage.hand? = some handle →
      handle ∉ touched moment.question moment.answer) :
    Known (log ++ [.turn who moment]) stage := by
  cases stage with
  | free => trivial
  | taken topic handle => exact ⟨known.1.turn, known.2.of_untouched (untouched handle rfl)⟩
  | opened topic handle => exact ⟨known.1.turn, known.2.of_untouched (untouched handle rfl)⟩
  | refused topic handle =>
    refine ⟨known.1.turn, known.2.1.of_untouched (untouched handle rfl), ?_⟩
    rw [story_of_untouched (untouched handle rfl)]
    exact known.2.2
  | displaced topic handle =>
    refine ⟨known.1.turn, known.2.1.of_untouched (untouched handle rfl), ?_⟩
    rw [story_of_untouched (untouched handle rfl)]
    obtain ⟨before, registering, newer, ending, registered, different, issued⟩ := known.2.2
    exact ⟨before, registering, newer, ending, registered, different, issued.turn⟩

/-- A turn that does not touch a handle leaves what its story tells. -/
theorem Tells.turn {later : ι → Custody Handle} {who : ι} {handle : Handle} {outcome : Fate ι}
    {moment : Moment (backend Handle) (Depot Handle)} (tells : Tells stages log handle outcome)
    (untouched : handle ∉ touched moment.question moment.answer)
    (holding : ∀ holder, outcome = .at (.hand holder) → (stages holder).hand? = some handle)
    (same : ∀ holder, outcome = .at (.hand holder) → later holder = stages holder) :
    Tells later (log ++ [.turn who moment]) handle outcome := by
  match outcome with
  | .unknown => exact (story_of_untouched untouched).trans tells
  | .at (.entry topic) =>
    refine ⟨tells.1.turn, tells.2.1.of_untouched untouched, ?_⟩
    unfold Settled
    rw [story_of_untouched untouched]
    exact tells.2.2
  | .at (.hand holder) =>
    show Known _ (later holder)
    rw [same holder rfl]
    refine Known.turn tells fun other inHand => ?_
    have : other = handle := Option.some.inj (inHand.symm.trans (holding holder rfl))
    exact this ▸ untouched
  | .released =>
    show Released _ handle
    unfold Released
    rw [story_of_untouched untouched]
    exact tells
  | .discarded =>
    obtain ⟨topic, issued, live, other, different, issuedOther, rejection⟩ := tells
    refine ⟨topic, issued.turn, live.of_untouched untouched, other, different,
      issuedOther.turn, ?_⟩
    rw [story_of_untouched untouched]
    exact rejection

/-- **What one turn does to the ledger**: it moves the handles that it touches, and no others. -/
theorem Ledger.turn [DecidableEq ι] {moved : Handle → Fate ι} {who : ι} {stage : Custody Handle}
    {moment : Moment (backend Handle) (Depot Handle)} {after : Depot Handle}
    (ledger : Ledger fate stages log world)
    (placed : Placed moved (contents after.client.registry (Function.update stages who stage)))
    (keys : (after.client.registry.map Prod.fst).Nodup)
    (fresh : ∀ handle topic, issue? moment.question moment.answer = some (handle, topic) →
      fate handle = .unknown)
    (frame : ∀ handle ∉ touched moment.question moment.answer,
      moved handle = fate handle ∧ (handle ∈ after.issued ↔ handle ∈ world.issued))
    (holding : ∀ handle, (stages who).hand? = some handle →
      handle ∈ touched moment.question moment.answer)
    (given : ∀ handle ∈ touched moment.question moment.answer,
      handle ∈ after.issued ∧ moved handle ≠ .unknown)
    (tells : ∀ handle ∈ touched moment.question moment.answer,
      Tells (Function.update stages who stage) (log ++ [.turn who moment]) handle (moved handle)) :
    Ledger moved (Function.update stages who stage) (log ++ [.turn who moment]) after where
  placed := placed
  keys := keys
  issued handle := by
    by_cases touches : handle ∈ touched moment.question moment.answer
    · exact iff_of_true (given handle touches).1 (given handle touches).2
    · obtain ⟨same, issued⟩ := frame handle touches
      rw [issued, same]
      exact ledger.issued handle
  unique handle topic other first second := by
    have earlier : ∀ topic, IssuedFor log handle topic → fate handle ≠ .unknown := by
      intro topic issued unknown
      have told := ledger.tells handle
      rw [unknown] at told
      exact issued.story_ne_nil told
    rcases issuedFor_turn first with first | first <;>
      rcases issuedFor_turn second with second | second
    · exact ledger.unique handle topic other first second
    · exact absurd (fresh handle other second) (earlier topic first)
    · exact absurd (fresh handle topic first) (earlier other second)
    · cases first.symm.trans second
      rfl
  tells handle := by
    by_cases touches : handle ∈ touched moment.question moment.answer
    · exact tells handle touches
    rw [(frame handle touches).1]
    have inHand : ∀ holder, fate handle = .at (.hand holder) →
        (stages holder).hand? = some handle :=
      fun holder place => (ledger.placed (.hand holder) handle).mpr place
    refine (ledger.tells handle).turn touches inHand fun holder place => ?_
    have elsewhere : holder ≠ who := by
      rintro rfl
      exact touches (holding handle (inHand holder place))
    exact Function.update_of_ne elsewhere _ _

/-- Every handle is accounted for. -/
def Accounted (stages : ι → Custody Handle) (log : Chronicle ι Handle)
    (world : Depot Handle) : Prop :=
  ∃ fate, Ledger fate stages log world

/-- A turn that touches no handle and leaves the map from topics to handles moves nothing. -/
theorem Ledger.quiet [DecidableEq ι] {who : ι}
    {moment : Moment (backend Handle) (Depot Handle)} {after : Depot Handle}
    (ledger : Ledger fate stages log world) (free : stages who = .free)
    (untouched : touched moment.question moment.answer = [])
    (lookup : ∀ topic, after.client.registry.lookup topic = world.client.registry.lookup topic)
    (keys : (after.client.registry.map Prod.fst).Nodup) (issued : after.issued = world.issued) :
    Accounted (Function.update stages who .free) (log ++ [.turn who moment]) after := by
  have same : Function.update stages who .free = stages := by
    rw [← free, Function.update_eq_self]
  have contents_eq : contents after.client.registry stages =
      contents world.client.registry stages := by
    funext place
    cases place with
    | entry topic => exact lookup topic
    | hand holder => rfl
  refine ⟨fate, ledger.turn ?_ keys ?_ ?_ ?_ ?_ ?_⟩
  · rw [same, contents_eq]
    exact ledger.placed
  · intro handle topic given
    have touches := mem_touched_of_issue given
    rw [untouched] at touches
    cases touches
  · intro handle _
    rw [issued]
    exact ⟨rfl, Iff.rfl⟩
  · rw [free]
    nofun
  · rw [untouched]
    nofun
  · rw [untouched]
    nofun

/-- A turn that touches one handle, which was given out before, moves that handle. -/
theorem Ledger.move [DecidableEq ι] {who : ι} {stage : Custody Handle} {handle : Handle}
    {moment : Moment (backend Handle) (Depot Handle)} {after : Depot Handle}
    (ledger : Ledger fate stages log world) (outcome : Fate ι)
    (touches : touched moment.question moment.answer = [handle])
    (placed : Placed (Function.update fate handle outcome)
      (contents after.client.registry (Function.update stages who stage)))
    (keys : (after.client.registry.map Prod.fst).Nodup)
    (fresh : issue? moment.question moment.answer = none)
    (known : fate handle ≠ .unknown) (stays : outcome ≠ .unknown)
    (issued : after.issued = world.issued)
    (holding : ∀ other, (stages who).hand? = some other → other = handle)
    (tells : Tells (Function.update stages who stage) (log ++ [.turn who moment]) handle outcome) :
    Accounted (Function.update stages who stage) (log ++ [.turn who moment]) after := by
  refine ⟨_, ledger.turn placed keys ?_ ?_ ?_ ?_ ?_⟩
  · rw [fresh]
    nofun
  all_goals rw [touches]; simp only [List.mem_singleton]
  · intro other different
    rw [issued]
    exact ⟨Function.update_of_ne different _ _, Iff.rfl⟩
  · exact holding
  · rintro _ rfl
    rw [Function.update_self, issued]
    exact ⟨(ledger.issued _).mpr known, stays⟩
  · rintro _ rfl
    rw [Function.update_self]
    exact tells

/-- What a call has in its hand is there. -/
theorem Ledger.fate_of_hand {who : ι} {handle : Handle} (ledger : Ledger fate stages log world)
    (inHand : (stages who).hand? = some handle) : fate handle = .at (.hand who) :=
  (ledger.placed (.hand who) handle).mp inHand

/-- A turn that touches the handle in the hand of the call moves that handle. -/
theorem Ledger.pass [DecidableEq ι] {who : ι} {stage : Custody Handle} {handle : Handle}
    {moment : Moment (backend Handle) (Depot Handle)} {after : Depot Handle}
    (ledger : Ledger fate stages log world) (outcome : Fate ι)
    (inHand : (stages who).hand? = some handle)
    (touches : touched moment.question moment.answer = [handle])
    (placed : Placed (Function.update fate handle outcome)
      (contents after.client.registry (Function.update stages who stage)))
    (keys : (after.client.registry.map Prod.fst).Nodup)
    (fresh : issue? moment.question moment.answer = none) (stays : outcome ≠ .unknown)
    (issued : after.issued = world.issued)
    (tells : Tells (Function.update stages who stage) (log ++ [.turn who moment]) handle outcome) :
    Accounted (Function.update stages who stage) (log ++ [.turn who moment]) after := by
  refine ledger.move outcome touches placed keys fresh ?_ stays issued ?_ tells
  · rw [ledger.fate_of_hand inHand]
    nofun
  · exact fun other other_eq => Option.some.inj (other_eq.symm.trans inHand)

/-- The story of the handle in a hand is known. -/
theorem Ledger.known (ledger : Ledger fate stages log world) (who : ι) :
    Known log (stages who) := by
  cases inHand : (stages who).hand? with
  | none =>
    cases stage : stages who with
    | free => trivial
    | taken | refused | opened | displaced =>
      rw [stage] at inHand
      cases inHand
  | some handle =>
    have told := ledger.tells handle
    rwa [ledger.fate_of_hand inHand] at told

/-- The story of a registered handle is known. -/
theorem Ledger.known_entry {topic : String} {handle : Handle}
    (ledger : Ledger fate stages log world)
    (found : world.client.registry.lookup topic = some handle) :
    IssuedFor log handle topic ∧ Live log handle ∧ Settled log handle topic := by
  have told := ledger.tells handle
  rwa [(ledger.placed (.entry topic) handle).mp found] at told

/-- Taking the handle of a topic in hand. -/
theorem Ledger.take [DecidableEq ι] {who : ι} {topic : String} {answer : Option Handle}
    {after : Depot Handle} (ledger : Ledger fate stages log world) (free : stages who = .free)
    (answered : depot.answers (.inl (.take topic)) world answer after) :
    Accounted (Function.update stages who (Custody.next .free (.inl (.take topic)) answer))
      (log ++ [.turn who ⟨world, .inl (.take topic), answer⟩]) after := by
  obtain ⟨rfl, rfl⟩ := answered
  rw [State.answer_take]
  have keys := State.keys_nodup_answer (.take topic) ledger.keys
  cases found : world.client.registry.lookup topic with
  | none =>
    refine ledger.quiet free rfl (fun other => ?_) keys rfl
    rw [State.lookup_take]
    by_cases same : other = topic
    · rw [if_pos same, same, found]
    · rw [if_neg same]
  | some handle =>
    have full : contents world.client.registry stages (.entry topic) = some handle := found
    have empty : contents world.client.registry stages (.hand who) = none := by
      show (stages who).hand? = none
      rw [free]
      rfl
    have place : fate handle = .at (.entry topic) := (ledger.placed _ _).mp full
    have told := ledger.known_entry found
    refine ledger.move (.at (.hand who)) rfl ?_ keys rfl ?_ nofun rfl ?_ ?_
    · rw [contents_stage, contents_entry stages (State.lookup_take _ _)]
      exact ledger.placed.move full empty
    · simp [place]
    · rw [free]
      nofun
    · show Known _ (Function.update stages who (.taken topic handle) who)
      rw [Function.update_self]
      exact ⟨told.1.turn, told.2.1.turn nofun⟩

/-- Opening a subscription brings a new handle in hand. -/
theorem Ledger.subscribe [DecidableEq ι] {who : ι} {connection : Nat} {subject queue : String}
    {delivery : Delivery} {answer : BusResult Handle} {after : Depot Handle}
    (ledger : Ledger fate stages log world) (free : stages who = .free)
    (answered : depot.answers (.inr (.subscribe connection subject queue delivery)) world answer
      after) :
    Accounted (Function.update stages who
        (Custody.next .free (.inr (.subscribe connection subject queue delivery)) answer))
      (log ++ [.turn who ⟨world, .inr (.subscribe connection subject queue delivery), answer⟩])
      after := by
  cases answer with
  | error error =>
    cases answered
    exact ledger.quiet free rfl (fun _ => rfl) ledger.keys rfl
  | ok handle =>
    obtain ⟨new, rfl⟩ := answered
    have unknown : fate handle = .unknown := by
      rwa [ledger.issued, not_not] at new
    have empty : contents world.client.registry stages (.hand who) = none := by
      show (stages who).hand? = none
      rw [free]
      rfl
    have untold := ledger.tells handle
    rw [unknown] at untold
    refine ⟨Function.update fate handle (.at (.hand who)),
      ledger.turn ?_ ledger.keys ?_ ?_ ?_ ?_ ?_⟩
    · rw [contents_stage]
      refine ledger.placed.fill empty fun other => ?_
      rw [unknown]
      nofun
    · rintro _ _ ⟨⟩
      exact unknown
    · intro other untouched
      have different : other ≠ handle := fun same => untouched (same ▸ List.mem_singleton_self _)
      refine ⟨Function.update_of_ne different _ _, ?_⟩
      rw [List.mem_cons]
      exact or_iff_right different
    · rw [free]
      nofun
    · intro other touches
      cases List.mem_singleton.mp touches
      rw [Function.update_self]
      exact ⟨List.mem_cons_self, nofun⟩
    · intro other touches
      cases List.mem_singleton.mp touches
      rw [Function.update_self]
      show Known _ (Function.update stages who (.opened delivery.topic handle) who)
      rw [Function.update_self]
      refine ⟨⟨⟨world, .inr (.subscribe connection subject queue delivery), .ok handle⟩, ?_, rfl⟩,
        ?_⟩
      · rw [moments_append]
        exact List.mem_append_right _ (List.mem_singleton_self _)
      · have quiet : Live log handle := by
          unfold Live
          rw [untold]
          nofun
        exact quiet.turn nofun

/-- A handle whose native unsubscribe succeeds is released. -/
theorem Ledger.release [DecidableEq ι] {who : ι} {handle : Handle}
    (ledger : Ledger fate stages log world) (inHand : (stages who).hand? = some handle)
    (live : Live log handle) :
    Accounted (Function.update stages who .free)
      (log ++ [.turn who ⟨world, .inr (.stop handle), .ok ()⟩]) world := by
  have full : contents world.client.registry stages (.hand who) = some handle := inHand
  refine ledger.pass .released inHand rfl ?_ ledger.keys rfl nofun rfl ?_
  · rw [contents_stage]
    exact ledger.placed.clear full nofun
  · exact ⟨_, _, story_of_touched (List.mem_singleton_self _), rfl, live⟩

/-- Stopping what was taken. -/
theorem Ledger.stop [DecidableEq ι] {who : ι} {topic : String} {handle : Handle}
    {answer : BusResult Unit} {after : Depot Handle} (ledger : Ledger fate stages log world)
    (taken : stages who = .taken topic handle)
    (answered : depot.answers (.inr (.stop handle)) world answer after) :
    Accounted (Function.update stages who
        (Custody.next (.taken topic handle) (.inr (.stop handle)) answer))
      (log ++ [.turn who ⟨world, .inr (.stop handle), answer⟩]) after := by
  cases answered
  have inHand : (stages who).hand? = some handle := by
    rw [taken]
    rfl
  have told := ledger.known who
  rw [taken] at told
  cases answer with
  | ok _ => exact ledger.release inHand told.2
  | error error =>
    have place := ledger.fate_of_hand inHand
    refine ledger.pass (.at (.hand who)) inHand rfl ?_ ledger.keys rfl nofun rfl ?_
    · rw [contents_stage, ← place, Function.update_eq_self]
      have same : some handle = contents world.client.registry stages (.hand who) := inHand.symm
      show Placed fate (Function.update _ _ (some handle))
      rw [same, Function.update_eq_self]
      exact ledger.placed
    · show Known _ (Function.update stages who (.refused topic handle) who)
      rw [Function.update_self]
      exact ⟨told.1.turn, told.2.turn nofun, _, _, error,
        story_of_touched (List.mem_singleton_self _), rfl⟩

/-- Stopping what was displaced. -/
theorem Ledger.drop [DecidableEq ι] {who : ι} {topic : String} {handle : Handle}
    {answer : BusResult Unit} {after : Depot Handle} (ledger : Ledger fate stages log world)
    (displaced : stages who = .displaced topic handle)
    (answered : depot.answers (.inr (.stop handle)) world answer after) :
    Accounted (Function.update stages who
        (Custody.next (.displaced topic handle) (.inr (.stop handle)) answer))
      (log ++ [.turn who ⟨world, .inr (.stop handle), answer⟩]) after := by
  cases answered
  have inHand : (stages who).hand? = some handle := by
    rw [displaced]
    rfl
  have told := ledger.known who
  rw [displaced] at told
  obtain ⟨issued, live, before, registering, other, ending, registered, different, issuedOther⟩ :=
    told
  cases answer with
  | ok _ => exact ledger.release inHand live
  | error error =>
    have full : contents world.client.registry stages (.hand who) = some handle := inHand
    refine ledger.pass .discarded inHand rfl ?_ ledger.keys rfl nofun rfl ?_
    · rw [contents_stage]
      exact ledger.placed.clear full nofun
    · refine ⟨topic, issued.turn, live.turn nofun, other, different, issuedOther.turn, ?_⟩
      rw [story_of_touched (List.mem_singleton_self _), ending, List.append_assoc]
      exact .displaced registered rfl

/-- Putting back what could not be stopped. -/
theorem Ledger.restore [DecidableEq ι] {who : ι} {topic : String} {handle : Handle}
    {answer : Unit} {after : Depot Handle} (ledger : Ledger fate stages log world)
    (refused : stages who = .refused topic handle)
    (answered : depot.answers (.inl (.restore topic handle)) world answer after) :
    Accounted (Function.update stages who .free)
      (log ++ [.turn who ⟨world, .inl (.restore topic handle), answer⟩]) after := by
  obtain ⟨-, rfl⟩ := answered
  have inHand : (stages who).hand? = some handle := by
    rw [refused]
    rfl
  have place := ledger.fate_of_hand inHand
  have full : contents world.client.registry stages (.hand who) = some handle := inHand
  have keys := State.keys_nodup_answer (.restore topic handle) ledger.keys
  have told := ledger.known who
  rw [refused] at told
  obtain ⟨issued, live, before, stopping, error, ending, failed⟩ := told
  cases found : world.client.registry.lookup topic with
  | some other =>
    have different : other ≠ handle := by
      rintro rfl
      have elsewhere := (ledger.placed (.entry topic) other).mp found
      rw [place] at elsewhere
      cases elsewhere
    refine ledger.pass .discarded inHand rfl ?_ keys rfl nofun rfl ?_
    · show Placed _ (contents (State.answer _ _).2.registry _)
      rw [State.answer_restore_of_some _ _ _ found, contents_stage]
      exact ledger.placed.clear full nofun
    · refine ⟨topic, issued.turn, live.turn nofun, other, different,
        (ledger.known_entry found).1.turn, ?_⟩
      rw [story_of_touched (List.mem_singleton_self _), ending, List.append_assoc]
      exact .replaced failed rfl found
  | none =>
    have empty : contents world.client.registry stages (.entry topic) = none := found
    refine ledger.pass (.at (.entry topic)) inHand rfl ?_ keys rfl nofun rfl ?_
    · rw [contents_entry _ fun other => State.lookup_restore _ topic other handle found,
        contents_stage]
      exact ledger.placed.move full empty
    · exact ⟨issued.turn, live.turn nofun, _, _, story_of_touched (List.mem_singleton_self _),
        .inr ⟨rfl, found⟩⟩

/-- Registering a new handle where there is an older one brings that one in hand. -/
theorem Ledger.displace [DecidableEq ι] {who : ι} {topic : String} {handle older : Handle}
    (ledger : Ledger fate stages log world) (opened : stages who = .opened topic handle)
    (found : world.client.registry.lookup topic = some older) :
    Accounted (Function.update stages who (.displaced topic older))
      (log ++ [.turn who ⟨world, .inl (.register topic handle), some older⟩])
      { world with client := (world.client.answer (.register topic handle)).2 } := by
  have inHand : (stages who).hand? = some handle := by
    rw [opened]
    rfl
  have full : contents world.client.registry stages (.hand who) = some handle := inHand
  have taken : contents world.client.registry stages (.entry topic) = some older := found
  have place := ledger.fate_of_hand inHand
  have olderPlace := (ledger.placed _ _).mp taken
  have different : handle ≠ older := by
    rintro rfl
    rw [place] at olderPlace
    cases olderPlace
  have told := ledger.known who
  rw [opened] at told
  obtain ⟨olderIssued, olderLive, -⟩ := ledger.known_entry found
  have given : ∀ other, other = handle ∨ other = older → other ∈ world.issued := by
    rintro other (rfl | rfl) <;> rw [ledger.issued]
    · rw [place]
      nofun
    · rw [olderPlace]
      nofun
  refine ⟨Function.update (Function.update fate older (.at (.hand who))) handle
    (.at (.entry topic)), ledger.turn ?_ (State.keys_nodup_answer _ ledger.keys) nofun ?_ ?_ ?_ ?_⟩
  · rw [contents_entry _ fun other => State.lookup_register _ topic other handle, contents_stage]
    exact ledger.placed.swap full taken different
  · intro other untouched
    have apart : other ≠ handle ∧ other ≠ older := by
      simpa [touched] using untouched
    rw [Function.update_of_ne apart.1, Function.update_of_ne apart.2]
    exact ⟨rfl, Iff.rfl⟩
  · intro other other_eq
    rw [Option.some.inj (other_eq.symm.trans inHand)]
    exact List.mem_cons_self
  · intro other touches
    have either : other = handle ∨ other = older := by
      simpa [touched] using touches
    refine ⟨given other either, ?_⟩
    rcases either with rfl | rfl
    · rw [Function.update_self]
      nofun
    · rw [Function.update_of_ne different.symm, Function.update_self]
      nofun
  · intro other touches
    have either : other = handle ∨ other = older := by
      simpa [touched] using touches
    rcases either with rfl | rfl
    · rw [Function.update_self]
      exact ⟨told.1.turn, told.2.turn nofun, _, _, story_of_touched touches, .inl rfl⟩
    · rw [Function.update_of_ne different.symm, Function.update_self]
      show Known _ (Function.update stages who (.displaced topic other) who)
      rw [Function.update_self]
      exact ⟨olderIssued.turn, olderLive.turn nofun, _, _, handle, story_of_touched touches, rfl,
        different, told.1.turn⟩

/-- Registering what is new. -/
theorem Ledger.register [DecidableEq ι] {who : ι} {topic : String} {handle : Handle}
    {answer : Option Handle} {after : Depot Handle} (ledger : Ledger fate stages log world)
    (opened : stages who = .opened topic handle)
    (answered : depot.answers (.inl (.register topic handle)) world answer after) :
    Accounted (Function.update stages who
        (Custody.next (.opened topic handle) (.inl (.register topic handle)) answer))
      (log ++ [.turn who ⟨world, .inl (.register topic handle), answer⟩]) after := by
  obtain ⟨rfl, rfl⟩ := answered
  rw [State.answer_register]
  cases found : world.client.registry.lookup topic with
  | some older => exact ledger.displace opened found
  | none =>
    have inHand : (stages who).hand? = some handle := by
      rw [opened]
      rfl
    have full : contents world.client.registry stages (.hand who) = some handle := inHand
    have empty : contents world.client.registry stages (.entry topic) = none := found
    have told := ledger.known who
    rw [opened] at told
    refine ledger.pass (.at (.entry topic)) inHand rfl ?_ (State.keys_nodup_answer _ ledger.keys)
      rfl nofun rfl ?_
    · rw [contents_entry _ fun other => State.lookup_register _ topic other handle, contents_stage]
      exact ledger.placed.move full empty
    · exact ⟨told.1.turn, told.2.turn nofun, _, _, story_of_touched (List.mem_singleton_self _),
        .inl rfl⟩

/-- **Every step keeps the ledger.** -/
theorem accounted_keeps [DecidableEq ι] :
    Scene.Keeps (depot : Scene (backend Handle) (Depot Handle) Empty)
      (fun _ : ι => Custody.protocol) Accounted where
  incident _ happened := happened.elim
  turn := by
    rintro stages log world who question answer after ⟨fate, ledger⟩ permitted answered
    refine ⟨trivial, ?_⟩
    change Custody.Permits (stages who) question at permitted
    show Accounted (Function.update stages who (Custody.next (stages who) question answer)) _ _
    generalize stage_eq : stages who = stage at permitted
    cases permitted with
    | look =>
      obtain ⟨rfl, rfl⟩ := answered
      exact ledger.quiet stage_eq rfl (fun _ => rfl) ledger.keys rfl
    | take topic => exact ledger.take stage_eq answered
    | subscribe => exact ledger.subscribe stage_eq answered
    | stop topic handle => exact ledger.stop stage_eq answered
    | restore topic handle => exact ledger.restore stage_eq answered
    | register topic handle => exact ledger.register stage_eq answered
    | drop topic handle => exact ledger.drop stage_eq answered

/-- At the start nothing has been given out. -/
theorem ledger_start (session : Session) :
    Ledger (fun _ => .unknown) (fun _ : ι => Custody.free) []
      ⟨{ session }, ([] : List Handle)⟩ where
  placed place handle := by
    cases place <;> exact iff_of_false nofun nofun
  issued handle := iff_of_false List.not_mem_nil fun known => known rfl
  keys := List.nodup_nil
  unique := by
    rintro _ _ _ ⟨_, member, _⟩
    cases member
  tells handle := rfl

end Ledgers

end MessageBus.Nats.Client

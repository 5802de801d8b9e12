/-
**The life of a session**, for any client whose calls have the shapes of a client's calls.

* `Lifecycle` — what holds of the session over a run of calls.
* `Runs.reaches_since`, `Runs.closed_since` — the session moves in one direction only;
  `Runs.installed_unique`, `Runs.opened_unique` — it is installed once, and each session is opened
  once.
* `Conforms.lifecycle` — **every run of a conforming client has the life of a session**: every
  attempt that comes too early or too late leaves no trace.
-/

import MessageBus.Proofs.Session.Shape
import Mathlib.Data.List.Chain

namespace MessageBus

open Dialogue

namespace ClientModel

variable (model : ClientModel)

/-- What a moment means for the session. -/
def signOf (moment : Moment model.backend.work (Premises model.State)) : Sign :=
  model.sign moment.question moment.answer

/-- What happens while the calls of a client take turns. -/
abbrev History (ι : Type) := List (Event ι model.backend.work (Premises model.State) Empty)

/-- The session before every answer, and at the end. -/
def sessions {ι : Type} (log : model.History ι) (after : Premises model.State) : List Session :=
  (moments log).map (fun moment => model.session moment.world.client) ++
    [model.session after.client]

/-- A run of calls of a new client. -/
def Runs {ι : Type} [DecidableEq ι] (client : MessageClient model.backend) (calls : ι → ClientCall)
    (log : model.History ι) (pool : ι → Dialogue model.backend.work (BusResult Unit))
    (after : Premises model.State) : Prop :=
  model.scene.Run (fun who => (calls who).activity client) { client := model.fresh } log pool after

end ClientModel

/-! ### What holds of a session -/

variable {ι : Type} [DecidableEq ι]

/-- The life of a session over a run of calls. -/
structure Lifecycle (model : ClientModel) (client : MessageClient model.backend) (canOpen : Prop)
    (calls : ι → ClientCall) (log : model.History ι)
    (pool : ι → Dialogue model.backend.work (BusResult Unit)) (after : Premises model.State) :
    Prop where
  /-- The session starts idle, and only ever moves from idle to connected to closed. -/
  advances : (model.sessions log after).head? = some .idle ∧
    (model.sessions log after).IsChain Session.Moves
  /-- At most one connect returns successfully. -/
  one_connected : ∀ {one other}, calls one = .connect → calls other = .connect →
    pool one = .done (.ok ()) → pool other = .done (.ok ()) → one = other
  /-- A connect that comes too late returns that there is a session, whatever it is still answered,
  and the session it has opened is never the client's. -/
  beaten : ∀ {who moment connection}, moment ∈ turns who log →
    model.signOf moment = .installed connection false →
      (pool who).Yields (.error .alreadyConnected) ∧
        .connected connection ∉ model.sessions log after
  /-- A connect that could not open a session returns why, and it might as well not have been. -/
  failed : ∀ {who moment error}, moment ∈ turns who log →
    model.signOf moment = .opened (.error error) →
      pool who = .done (.error error) ∧
        model.Runs client calls (others who log)
          (Function.update pool who ((calls who).activity client)) after
  /-- While the session is idle, a further connect may succeed. -/
  retry : canOpen → model.session after.client = .idle → ∀ {who}, calls who = .connect →
    turns who log = [] → ∃ further later last, model.Runs client calls (log ++ further) later last ∧
      later who = .done (.ok ())
  /-- At most once a session is closed, by a disconnect, and it is closed from then on. -/
  one_closed : ∀ {before who moment rest former}, log = before ++ .turn who moment :: rest →
    model.signOf moment = .retired (some former) →
      calls who = .disconnect ∧ model.session after.client = .closed ∧
        (∀ later ∈ moments rest, model.session later.world.client = .closed) ∧
        ∀ other ∈ moments (before ++ rest), ∀ session,
          model.signOf other ≠ .retired (some session)
  /-- A disconnect that has returned found the session not connected, or closed it. -/
  disconnected : ∀ {who result}, calls who = .disconnect → pool who = .done result →
    result = .error .notConnected ∨
      ∃ moment ∈ turns who log, ∃ former, model.signOf moment = .retired (some former)
  /-- Any call but a connect that asks for the session while it is not connected returns so after
  this one question, and it might as well not have been. -/
  refused : ∀ {who moment}, calls who ≠ .connect → moment ∈ turns who log →
    (∃ found, model.signOf moment = .looked found) ∨
      (∃ former, model.signOf moment = .retired former) →
    (∀ connection, model.session moment.world.client ≠ .connected connection) →
      turns who log = [moment] ∧ pool who = .done (.error .notConnected) ∧
        model.Runs client calls (others who log)
          (Function.update pool who ((calls who).activity client)) after
  /-- A connect that finds the session not idle returns so after this one question, and it might as
  well not have been. -/
  busy : ∀ {who moment found}, calls who = .connect → moment ∈ turns who log →
    model.signOf moment = .looked found → model.session moment.world.client ≠ .idle →
      turns who log = [moment] ∧ pool who = .done (.error .alreadyConnected) ∧
        model.Runs client calls (others who log)
          (Function.update pool who ((calls who).activity client)) after

/-! ### Moves of the session -/

section Moves

variable {model : ClientModel} {client : MessageClient model.backend} {canOpen : Prop}
  {calls : ι → ClientCall} {log before rest : model.History ι}
  {pool : ι → Dialogue model.backend.work (BusResult Unit)} {after : Premises model.State}
  {who : ι} {moment : Moment model.backend.work (Premises model.State)}

theorem ClientModel.Runs.acts (run : model.Runs client calls log pool after)
    (member : moment ∈ moments log) :
    ∃ later : Premises model.State, (model.signOf moment).Acts
      (model.session moment.world.client) (model.session later.client) := by
  obtain ⟨later, answered⟩ := run.answered member
  exact ⟨later, ClientModel.acts_of_answers answered⟩

/-- The session moves in one direction only. -/
theorem ClientModel.Runs.reaches_since
    (run : model.Runs client calls (before ++ .turn who moment :: rest) pool after) :
    ∃ later : Premises model.State,
      (model.signOf moment).Acts (model.session moment.world.client) (model.session later.client) ∧
      (model.session later.client).Reaches (model.session after.client) ∧
      ∀ other ∈ moments rest,
        (model.session later.client).Reaches (model.session other.world.client) := by
  obtain ⟨later, answered, further⟩ := Scene.Run.since
    (fun world later => (model.session world.client).Reaches (model.session later.client))
    (fun _ => .inl rfl) Session.Reaches.trans
    (fun answered => (ClientModel.acts_of_answers answered).moves.reaches) nofun run
  exact ⟨later, ClientModel.acts_of_answers answered, further⟩

theorem ClientModel.Runs.advances (run : model.Runs client calls log pool after) :
    (model.sessions log after).head? = some .idle ∧
      (model.sessions log after).IsChain Session.Moves := by
  induction run with
  | start => exact ⟨congrArg some model.fresh_idle, .singleton _⟩
  | @turn log pool now later who question resume answer run asks answered ih =>
    obtain ⟨begins, chain⟩ := ih
    have grown : model.sessions (log ++ [.turn who ⟨now, question, answer⟩]) later =
        model.sessions log now ++ [model.session later.client] := by
      rw [ClientModel.sessions, moments_append, moments_turn, List.map_append]
      rfl
    rw [grown, List.head?_append, begins]
    refine ⟨rfl, List.isChain_append.mpr ⟨chain, .singleton _, ?_⟩⟩
    rw [ClientModel.sessions, List.getLast?_concat]
    rintro _ ⟨⟩ _ ⟨⟩
    exact (ClientModel.acts_of_answers answered).moves
  | incident run happened => cases happened

/-- A session becomes the client's by being installed. -/
theorem ClientModel.Runs.exists_installed {connection : Nat}
    (run : model.Runs client calls log pool after)
    (connected : model.session after.client = .connected connection) :
    ∃ who moment, .turn who moment ∈ log ∧ model.signOf moment = .installed connection true := by
  induction run with
  | start =>
    rw [model.fresh_idle] at connected
    cases connected
  | turn run asks answered ih =>
    have acts := ClientModel.acts_of_answers answered
    rw [connected] at acts
    rcases acts.connected with installed | earlier
    · exact ⟨_, _, List.mem_append_right _ (List.mem_singleton_self _), installed⟩
    · obtain ⟨who, moment, member, installed⟩ := ih earlier
      exact ⟨who, moment, List.mem_append_left _ member, installed⟩
  | incident run happened => cases happened

theorem ClientModel.Runs.exists_installed_of_mem {connection : Nat}
    (run : model.Runs client calls log pool after)
    (member : .connected connection ∈ model.sessions log after) :
    ∃ who moment, .turn who moment ∈ log ∧ model.signOf moment = .installed connection true := by
  rcases List.mem_append.mp member with earlier | final
  · obtain ⟨moment, inside, connected⟩ := List.mem_map.mp earlier
    obtain ⟨who, turned⟩ := exists_turn_of_mem_moments inside
    obtain ⟨before, rest, rfl⟩ := List.append_of_mem (mem_turns.mp turned)
    obtain ⟨middle, -, -, first, -⟩ := run.at_turn
    obtain ⟨winner, installing, found, installed⟩ :=
      ClientModel.Runs.exists_installed first connected
    exact ⟨winner, installing, List.mem_append_left _ found, installed⟩
  · exact run.exists_installed (List.mem_singleton.mp final).symm

/-- Only one activity installs a session. -/
theorem ClientModel.Runs.installed_unique (run : model.Runs client calls log pool after)
    {one other : ι}
    {first second : Moment model.backend.work (Premises model.State)} {connection another : Nat}
    (turned : .turn one first ∈ log) (turnedToo : .turn other second ∈ log)
    (installed : model.signOf first = .installed connection true)
    (installedToo : model.signOf second = .installed another true) : one = other := by
  refine unique_turn (fun moment => ∃ connection,
    model.signOf moment = .installed connection true) ?_ turned turnedToo ⟨_, installed⟩
    ⟨_, installedToo⟩
  -- A session is installed only while the client is idle, and after that it never is again.
  rintro before who moment rest rfl ⟨connection, installed⟩ another later ⟨number, again⟩
  obtain ⟨next, acts, -, further⟩ := run.reaches_since
  have reaches := further another later
  rw [installed] at acts
  rw [acts.2] at reaches
  obtain ⟨last, acts⟩ := run.acts (mem_moments_of_rest before who moment later)
  rw [again] at acts
  exact reaches.ne_idle acts.1

/-- A session that was closed is closed from then on. -/
theorem ClientModel.Runs.closed_since {former : Nat}
    (run : model.Runs client calls (before ++ .turn who moment :: rest) pool after)
    (retired : model.signOf moment = .retired (some former)) :
    model.session moment.world.client = .connected former ∧
      model.session after.client = .closed ∧
      ∀ later ∈ moments rest, model.session later.world.client = .closed := by
  obtain ⟨next, acts, final, further⟩ := run.reaches_since
  rw [retired] at acts
  rw [acts.2] at final further
  exact ⟨acts.1, final.eq_closed, fun later member => (further later member).eq_closed⟩

/-- Only one activity opens a session of a number. -/
theorem ClientModel.Runs.opened_unique (run : model.Runs client calls log pool after)
    {one other : ι} {first second : Moment model.backend.work (Premises model.State)}
    {connection : Nat} (turned : .turn one first ∈ log) (turnedToo : .turn other second ∈ log)
    (opened : model.signOf first = .opened (.ok connection))
    (openedToo : model.signOf second = .opened (.ok connection)) : one = other := by
  refine unique_turn (fun moment => model.signOf moment = .opened (.ok connection)) ?_
    turned turnedToo opened openedToo
  rintro before who moment rest rfl opened another later again
  obtain ⟨next, answered, -, further⟩ := Scene.Run.since
    (fun world later : Premises model.State => world.opened ⊆ later.opened)
    (fun _ => List.Subset.refl _) List.Subset.trans ClientModel.opened_subset_of_answers nofun run
  obtain ⟨last, answeredToo⟩ := run.answered (mem_moments_of_rest before who moment later)
  have known := (ClientModel.opened_of_answers answered opened).2
  exact (ClientModel.opened_of_answers answeredToo again).1 (further another later known)

end Moves

/-! ### Calls in a run -/

section Calls

variable {model : ClientModel} {client : MessageClient model.backend} {canOpen : Prop}
  {calls : ι → ClientCall} {log : model.History ι}
  {pool : ι → Dialogue model.backend.work (BusResult Unit)} {after : Premises model.State}
  {who : ι} {moment : Moment model.backend.work (Premises model.State)}

theorem ClientModel.sign_mem {sign : Sign} (member : moment ∈ turns who log)
    (shown : model.signOf moment = sign) : sign ∈ (turns who log).map model.signOf :=
  List.mem_map.mpr ⟨moment, member, shown⟩

/-- The signs of the turns of a call lead it to where it is. -/
theorem Conforms.connecting (conforms : Conforms model client canOpen)
    (run : model.Runs client calls log pool after) (connects : calls who = .connect) :
    Connecting ((turns who log).map model.signOf) (pool who) := by
  have leads := run.leads who
  rw [connects] at leads
  have shape := ClientModel.connecting_of_connects conforms.connects leads
  rwa [ClientModel.signs, List.map_map] at shape

theorem Conforms.guarded (conforms : Conforms model client canOpen)
    (run : model.Runs client calls log pool after) (other : calls who ≠ .connect) :
    Guarded (calls who = .disconnect) ((turns who log).map model.signOf) (pool who) := by
  have shape := ClientModel.guarded_of_checks (conforms.checks other) (run.leads who)
  rwa [ClientModel.signs, List.map_map] at shape

/-- Only a connect opens and installs sessions. -/
theorem Conforms.connects_of_sign (conforms : Conforms model client canOpen)
    (run : model.Runs client calls log pool after) (member : moment ∈ turns who log)
    (kind : (∃ outcome, model.signOf moment = .opened outcome) ∨
      ∃ connection accepted, model.signOf moment = .installed connection accepted) :
    calls who = .connect := by
  by_contra other
  have shown := (conforms.guarded run other).cases_of_mem (List.mem_map_of_mem member)
  rcases kind with ⟨outcome, sign⟩ | ⟨connection, accepted, sign⟩ <;> rw [sign] at shown
  · exact shown.elim nofun fun checked => checked.elim nofun fun refused => nomatch refused.1
  · exact shown.elim nofun fun checked => checked.elim nofun fun refused => nomatch refused.1

/-- A call whose turns were all vain might as well not have been. -/
theorem ClientModel.Runs.others (run : model.Runs client calls log pool after)
    (vain : ∀ moment ∈ turns who log, (model.signOf moment).Vain) :
    model.Runs client calls (MessageBus.others who log)
      (Function.update pool who ((calls who).activity client)) after :=
  Scene.Run.others run fun moment member _ answered =>
    ClientModel.eq_of_vain answered (vain moment member)

theorem ClientModel.Runs.others_of_single (run : model.Runs client calls log pool after)
    (single : turns who log = [moment]) (vain : (model.signOf moment).Vain) :
    model.Runs client calls (MessageBus.others who log)
      (Function.update pool who ((calls who).activity client)) after := by
  refine run.others ?_
  rw [single]
  exact List.forall_mem_singleton.mpr vain

/-- The only turn of a call is the one that is known. -/
theorem turns_eq_singleton {sign : Sign} (member : moment ∈ turns who log)
    (signs : (turns who log).map model.signOf = [sign]) : turns who log = [moment] := by
  obtain ⟨only, single, -⟩ := List.map_eq_singleton_iff.mp signs
  rw [single] at member ⊢
  rw [List.mem_singleton.mp member]

variable (conforms : Conforms model client canOpen) (run : model.Runs client calls log pool after)

include conforms run

theorem Conforms.one_connected {one other : ι} (connects : calls one = .connect)
    (connectsToo : calls other = .connect) (succeeded : pool one = .done (.ok ()))
    (succeededToo : pool other = .done (.ok ())) : one = other := by
  obtain ⟨connection, installed⟩ := (conforms.connecting run connects).exists_installed succeeded
  obtain ⟨another, installedToo⟩ :=
    (conforms.connecting run connectsToo).exists_installed succeededToo
  obtain ⟨first, turned, sign⟩ := List.mem_map.mp installed
  obtain ⟨second, turnedToo, signToo⟩ := List.mem_map.mp installedToo
  exact run.installed_unique (mem_turns.mp turned) (mem_turns.mp turnedToo) sign signToo

theorem Conforms.beaten {connection : Nat} (member : moment ∈ turns who log)
    (late : model.signOf moment = .installed connection false) :
    (pool who).Yields (.error .alreadyConnected) ∧
      .connected connection ∉ model.sessions log after := by
  have connecting := conforms.connecting run
    (conforms.connects_of_sign run member (.inr ⟨_, _, late⟩))
  have inside := ClientModel.sign_mem member late
  obtain ⟨yields, none⟩ := connecting.beaten_yields inside
  refine ⟨yields, fun connected => ?_⟩
  -- Whoever installed this session opened it, and it was opened but once.
  obtain ⟨winner, installing, turned, installed⟩ := run.exists_installed_of_mem connected
  have winning := ClientModel.sign_mem (mem_turns.mpr turned) installed
  have wins := conforms.connecting run
    (conforms.connects_of_sign run (mem_turns.mpr turned) (.inr ⟨_, _, installed⟩))
  obtain ⟨first, opening, opened⟩ := List.mem_map.mp (connecting.opened_mem inside)
  obtain ⟨second, openingToo, openedToo⟩ := List.mem_map.mp (wins.opened_mem winning)
  have same := run.opened_unique (mem_turns.mp opening) (mem_turns.mp openingToo) opened openedToo
  exact none connection (same ▸ winning)

theorem Conforms.failed {error : BusError} (member : moment ∈ turns who log)
    (refused : model.signOf moment = .opened (.error error)) :
    pool who = .done (.error error) ∧ model.Runs client calls (others who log)
      (Function.update pool who ((calls who).activity client)) after := by
  have inside := ClientModel.sign_mem member refused
  obtain ⟨signs, ended⟩ := (conforms.connecting run
    (conforms.connects_of_sign run member (.inl ⟨_, refused⟩))).failed_eq inside
  refine ⟨ended, run.others fun other turned => ?_⟩
  have sign := ClientModel.sign_mem turned rfl
  rw [signs] at sign
  simp only [List.mem_cons, List.not_mem_nil, or_false] at sign
  rcases sign with sign | sign <;> rw [sign]
  · exact .looked _
  · exact .failed _

theorem Conforms.retry (able : canOpen) (idle : model.session after.client = .idle)
    (connects : calls who = .connect) (waits : turns who log = []) :
    ∃ further later last, model.Runs client calls (log ++ further) later last ∧
      later who = .done (.ok ()) := by
  obtain ⟨told, last, course⟩ := conforms.succeeds able after idle
  have start : pool who = client.connect := by
    rw [run.eq_start waits, connects]
    rfl
  rw [← start] at course
  obtain ⟨further, run⟩ := Scene.Run.course run who course
  exact ⟨further, _, last, run, Function.update_self ..⟩

theorem Conforms.busy {found : Session} (connects : calls who = .connect)
    (member : moment ∈ turns who log) (looked : model.signOf moment = .looked found)
    (occupied : model.session moment.world.client ≠ .idle) :
    turns who log = [moment] ∧ pool who = .done (.error .alreadyConnected) ∧
      model.Runs client calls (others who log)
        (Function.update pool who ((calls who).activity client)) after := by
  obtain ⟨_, acts⟩ := run.acts (mem_moments_of_turn (mem_turns.mp member))
  rw [looked] at acts
  have inside := ClientModel.sign_mem member looked
  obtain ⟨signs, ended⟩ :=
    (conforms.connecting run connects).busy_eq inside (acts.1 ▸ occupied)
  have single := turns_eq_singleton member signs
  exact ⟨single, ended, run.others_of_single single (looked ▸ .looked _)⟩

theorem Conforms.refused (other : calls who ≠ .connect) (member : moment ∈ turns who log)
    (asks : (∃ found, model.signOf moment = .looked found) ∨
      ∃ former, model.signOf moment = .retired former)
    (apart : ∀ connection, model.session moment.world.client ≠ .connected connection) :
    turns who log = [moment] ∧ pool who = .done (.error .notConnected) ∧
      model.Runs client calls (others who log)
        (Function.update pool who ((calls who).activity client)) after := by
  obtain ⟨_, acts⟩ := run.acts (mem_moments_of_turn (mem_turns.mp member))
  rcases (conforms.guarded run other).cases_of_mem (ClientModel.sign_mem member rfl) with
    plain | admits | ⟨refuses, signs, ended⟩
  · rcases asks with ⟨_, sign⟩ | ⟨_, sign⟩ <;> rw [sign] at plain <;> cases plain
  · generalize model.signOf moment = sign at acts admits
    cases admits with
    | looked _ connection => exact absurd acts.1 (apart connection)
    | retired _ connection => exact absurd acts.1 (apart connection)
  · have single := turns_eq_singleton member signs
    refine ⟨single, ended, run.others_of_single single ?_⟩
    generalize model.signOf moment = sign at refuses
    cases refuses with
    | looked => exact .looked _
    | retired => exact .refused

theorem Conforms.disconnected {result : BusResult Unit} (disconnects : calls who = .disconnect)
    (returned : pool who = .done result) :
    result = .error .notConnected ∨
      ∃ moment ∈ turns who log, ∃ former, model.signOf moment = .retired (some former) := by
  have other : calls who ≠ .connect := disconnects ▸ nofun
  refine ((conforms.guarded run other).of_done returned).imp_right ?_
  rintro ⟨sign, member, admits⟩
  obtain ⟨moment, turned, rfl⟩ := List.mem_map.mp member
  refine ⟨moment, turned, ?_⟩
  generalize model.signOf moment = sign at admits
  cases admits with
  | looked uses => exact absurd disconnects uses
  | retired _ connection => exact ⟨connection, rfl⟩

omit run in
theorem Conforms.one_closed {before rest : model.History ι} {former : Nat}
    (run : model.Runs client calls (before ++ .turn who moment :: rest) pool after)
    (retired : model.signOf moment = .retired (some former)) :
    calls who = .disconnect ∧ model.session after.client = .closed ∧
      (∀ later ∈ moments rest, model.session later.world.client = .closed) ∧
      ∀ other ∈ moments (before ++ rest), ∀ session,
        model.signOf other ≠ .retired (some session) := by
  obtain ⟨connected, closed, closedLater⟩ := run.closed_since retired
  have turned : moment ∈ turns who (before ++ .turn who moment :: rest) :=
    mem_turns.mpr (List.mem_append_right _ List.mem_cons_self)
  have disconnects : calls who = .disconnect := by
    have shown := ClientModel.sign_mem turned retired
    have other : calls who ≠ .connect := fun connects =>
      (conforms.connecting run connects).retired_notMem _ shown
    rcases (conforms.guarded run other).cases_of_mem shown with plain | admits | ⟨refuses, -⟩
    · cases plain
    · cases admits with
      | retired closing => exact closing
    · cases refuses
  refine ⟨disconnects, closed, closedLater, fun other member session again => ?_⟩
  rw [moments_append] at member
  rcases List.mem_append.mp member with earlier | later
  · -- Had it been closed before, it would have been closed at this turn.
    obtain ⟨leaver, left⟩ := exists_turn_of_mem_moments earlier
    obtain ⟨front, between, rfl⟩ := List.append_of_mem (mem_turns.mp left)
    rw [List.append_assoc, List.cons_append] at run
    obtain ⟨-, -, closedHere⟩ := run.closed_since again
    rw [closedHere moment (mem_moments_of_turn (List.mem_append_right _ List.mem_cons_self))]
      at connected
    cases connected
  · obtain ⟨_, acts⟩ := run.acts (mem_moments_of_rest before who moment later)
    rw [again, closedLater other later] at acts
    cases acts.1

/-- **Every run of a conforming client has the life of a session.** -/
theorem Conforms.lifecycle : Lifecycle model client canOpen calls log pool after where
  advances := run.advances
  one_connected := conforms.one_connected run
  beaten := conforms.beaten run
  failed := conforms.failed run
  retry able idle := conforms.retry run able idle
  one_closed told retired := by
    subst told
    exact conforms.one_closed run retired
  disconnected := conforms.disconnected run
  refused := conforms.refused run
  busy := conforms.busy run

end Calls

end MessageBus

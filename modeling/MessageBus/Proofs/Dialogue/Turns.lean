/-
**One activity among others.** What a run shows of a single activity, and what it is without it.

* `Dialogue.Leads` — answers lead an activity from one point to a later one.
* `Dialogue.Yields` — an activity comes to a result, whatever the answers are.
* `turns`, `others` — the turns of an activity, and everything else that happened.
* `Run.leads` — the turns of an activity lead it to where it is.
* `Run.at_turn` — a run up to a turn, the turn, and the run after it; `Run.along`, `Run.since` —
  what comes about step by step, from the start and from a turn on.
* `unique_turn` — turns of a kind that does not come again are of one activity.
* `Run.others` — **turns that leave the world alone can be left out** of a run.
* `Run.course` — an activity may have its whole course while the others wait.
-/

import MessageBus.Proofs.Dialogue.Interleaving

namespace MessageBus

variable {ι : Type} {I : Interface} {W M α : Type}

namespace Dialogue

/-- Answers lead an activity from one point to a later one. -/
inductive Leads : Dialogue I α → List (Exchange I) → Dialogue I α → Prop
  /-- Without an answer it stays where it is. -/
  | here (activity : Dialogue I α) : Leads activity [] activity
  /-- An answer leads on. -/
  | on {question : I.Ask} {resume : I.Answer question → Dialogue I α} {answer : I.Answer question}
      {rest : List (Exchange I)} {remaining : Dialogue I α}
      (further : Leads (resume answer) rest remaining) :
      Leads (.ask question resume) (⟨question, answer⟩ :: rest) remaining

theorem leads_done {value : α} {exchanges : List (Exchange I)} {remaining : Dialogue I α} :
    Leads (.done value) exchanges remaining ↔ exchanges = [] ∧ remaining = .done value := by
  constructor
  · rintro ⟨⟩
    exact ⟨rfl, rfl⟩
  · rintro ⟨rfl, rfl⟩
    exact .here _

theorem leads_ask {question : I.Ask} {resume : I.Answer question → Dialogue I α}
    {exchanges : List (Exchange I)} {remaining : Dialogue I α} :
    Leads (.ask question resume) exchanges remaining ↔
      exchanges = [] ∧ remaining = .ask question resume ∨
        ∃ answer rest, exchanges = ⟨question, answer⟩ :: rest ∧
          Leads (resume answer) rest remaining := by
  constructor
  · intro leads
    cases leads with
    | here => exact .inl ⟨rfl, rfl⟩
    | on further => exact .inr ⟨_, _, rfl, further⟩
  · rintro (⟨rfl, rfl⟩ | ⟨answer, rest, rfl, further⟩)
    · exact .here _
    · exact .on further

/-- One more answer leads one question further. -/
theorem Leads.snoc {activity : Dialogue I α} {exchanges : List (Exchange I)} {question : I.Ask}
    {resume : I.Answer question → Dialogue I α}
    (leads : Leads activity exchanges (.ask question resume)) (answer : I.Answer question) :
    Leads activity (exchanges ++ [⟨question, answer⟩]) (resume answer) := by
  generalize asking : Dialogue.ask question resume = remaining at leads
  induction leads with
  | here activity =>
    subst asking
    exact .on (.here _)
  | on further ih => exact .on (ih asking)

/-- An activity that asks questions of one kind is led by answers to such questions. -/
theorem Leads.asks {kind : I.Ask → Prop} {activity remaining : Dialogue I α}
    {exchanges : List (Exchange I)} (leads : Leads activity exchanges remaining)
    (asks : activity.Asks kind) : ∀ exchange ∈ exchanges, kind exchange.1 := by
  induction leads with
  | here => nofun
  | on further ih => exact List.forall_mem_cons.mpr ⟨asks.1, ih (asks.2 _)⟩

theorem asks_anything (activity : Dialogue I α) : activity.Asks fun _ => True := by
  induction activity with
  | done value => trivial
  | ask question resume ih => exact ⟨trivial, ih⟩

theorem Asks.mono {kind wider : I.Ask → Prop} {activity : Dialogue I α} (asks : activity.Asks kind)
    (widens : ∀ {question}, kind question → wider question) : activity.Asks wider := by
  induction activity with
  | done value => trivial
  | ask question resume ih => exact ⟨widens asks.1, fun answer => ih answer (asks.2 answer)⟩

/-- Over two interfaces an activity asks what it asks over the first. -/
theorem Asks.left {J : Interface} {kind : (I.sum J).Ask → Prop} {activity : Dialogue I α}
    (asks : activity.Asks fun question => kind (.inl question)) :
    (activity.left : Dialogue (I.sum J) α).Asks kind := by
  induction activity with
  | done value => trivial
  | ask question resume ih => exact ⟨asks.1, fun answer => ih answer (asks.2 answer)⟩

/-- An activity comes to a result, whatever the answers are. -/
def Yields (value : α) : Dialogue I α → Prop
  | .done result => result = value
  | .ask _ resume => ∀ answer, (resume answer).Yields value

end Dialogue

/-! ### Turns of one activity -/

/-- The last event of a history is a given one of its events, or comes after it. -/
theorem last_event {before rest log : List (Event ι I W M)} {event last : Event ι I W M}
    (told : before ++ event :: rest = log ++ [last]) :
    rest = [] ∧ before = log ∧ event = last ∨
      ∃ front, rest = front ++ [last] ∧ before ++ event :: front = log := by
  rcases List.eq_nil_or_concat rest with rfl | ⟨front, final, rfl⟩
  · obtain ⟨same, ending⟩ := List.append_inj' told rfl
    exact .inl ⟨rfl, same, (List.cons.inj ending).1⟩
  · rw [List.concat_eq_append, ← List.cons_append, ← List.append_assoc] at told
    obtain ⟨same, ending⟩ := List.append_inj' told rfl
    rw [List.concat_eq_append, (List.cons.inj ending).1]
    exact .inr ⟨front, rfl, same⟩

theorem mem_moments_of_turn {log : List (Event ι I W M)} {who : ι} {moment : Moment I W}
    (turned : .turn who moment ∈ log) : moment ∈ moments log :=
  List.mem_filterMap.mpr ⟨_, turned, rfl⟩

theorem mem_moments_of_rest (before : List (Event ι I W M)) (who : ι) (moment : Moment I W)
    {rest : List (Event ι I W M)} {later : Moment I W} (member : later ∈ moments rest) :
    later ∈ moments (before ++ .turn who moment :: rest) := by
  rw [moments_append]
  exact List.mem_append_right _ (List.mem_cons_of_mem _ member)

/-- If nothing of a kind comes after a turn of that kind, all turns of that kind are of one
activity. -/
theorem unique_turn (kind : Moment I W → Prop) {log : List (Event ι I W M)}
    (once : ∀ before who moment rest, log = before ++ .turn who moment :: rest → kind moment →
      ∀ other ∈ moments rest, ¬ kind other)
    {one another : ι} {first second : Moment I W} (turned : .turn one first ∈ log)
    (turnedToo : .turn another second ∈ log) (kindly : kind first) (kindlyToo : kind second) :
    one = another := by
  obtain ⟨before, rest, rfl⟩ := List.append_of_mem turned
  rcases List.mem_append.mp turnedToo with earlier | later
  · obtain ⟨front, between, rfl⟩ := List.append_of_mem earlier
    have told := List.append_assoc front (.turn another second :: between) (.turn one first :: rest)
    have later : .turn one first ∈ between ++ .turn one first :: rest :=
      List.mem_append_right _ List.mem_cons_self
    exact absurd kindly (once _ _ _ _ told kindlyToo first (mem_moments_of_turn later))
  · rcases List.mem_cons.mp later with same | later
    · cases same
      rfl
    · exact absurd kindlyToo (once _ _ _ _ rfl kindly second (mem_moments_of_turn later))

section

variable [DecidableEq ι] {who : ι}

/-- The turns of an activity, in order. -/
def turns (who : ι) (log : List (Event ι I W M)) : List (Moment I W) :=
  log.filterMap fun
    | .turn other moment => if other = who then some moment else none
    | .incident _ => none

/-- What happened apart from the turns of an activity. -/
def others (who : ι) (log : List (Event ι I W M)) : List (Event ι I W M) :=
  log.filter fun
    | .turn other _ => other ≠ who
    | .incident _ => true

theorem mem_turns {log : List (Event ι I W M)} {moment : Moment I W} :
    moment ∈ turns who log ↔ .turn who moment ∈ log := by
  unfold turns
  rw [List.mem_filterMap]
  constructor
  · rintro ⟨event, member, shows⟩
    split at shows
    · split at shows
      · rename_i same
        cases shows
        exact same ▸ member
      · cases shows
    · cases shows
  · exact fun member => ⟨_, member, if_pos rfl⟩

theorem turns_append (log rest : List (Event ι I W M)) :
    turns who (log ++ rest) = turns who log ++ turns who rest :=
  List.filterMap_append

theorem turns_turn_self (moment : Moment I W) :
    turns who ([.turn who moment] : List (Event ι I W M)) = [moment] := by
  simp [turns]

theorem turns_turn_of_ne {other : ι} (apart : other ≠ who) (moment : Moment I W) :
    turns who ([.turn other moment] : List (Event ι I W M)) = [] := by
  simp [turns, apart]

theorem others_append (log rest : List (Event ι I W M)) :
    others who (log ++ rest) = others who log ++ others who rest :=
  List.filter_append ..

theorem others_turn_self (moment : Moment I W) :
    others who ([.turn who moment] : List (Event ι I W M)) = [] := by
  simp [others]

theorem others_turn_of_ne {other : ι} (apart : other ≠ who) (moment : Moment I W) :
    others who ([.turn other moment] : List (Event ι I W M)) = [.turn other moment] := by
  simp [others, apart]

theorem exists_turn_of_mem_moments {log : List (Event ι I W M)} {moment : Moment I W}
    (member : moment ∈ moments log) : ∃ who, moment ∈ turns who log := by
  obtain ⟨event, inside, shows⟩ := List.mem_filterMap.mp member
  split at shows
  · cases shows
    exact ⟨_, mem_turns.mpr inside⟩
  · cases shows

namespace Scene

variable {scene : Scene I W M} {start pool : ι → Dialogue I α} {world after : W}
  {log before rest : List (Event ι I W M)} {moment : Moment I W}

/-- **The turns of an activity lead it to where it is.** -/
theorem Run.leads (run : scene.Run start world log pool after) (who : ι) :
    (start who).Leads ((turns who log).map Moment.exchange) (pool who) := by
  induction run with
  | start => exact .here _
  | @turn log pool now later actor question resume answer run asks answered ih =>
    rw [turns_append, List.map_append]
    by_cases same : actor = who
    · subst same
      rw [asks] at ih
      rw [turns_turn_self, Function.update_self]
      exact ih.snoc answer
    · rw [turns_turn_of_ne same, Function.update_of_ne (Ne.symm same), List.map_nil,
        List.append_nil]
      exact ih
  | incident run happened ih =>
    rw [turns_append, List.map_append]
    exact (List.append_nil _).symm ▸ ih

/-- **A run up to a turn, the turn, and the run after it.** -/
theorem Run.at_turn (run : scene.Run start world (before ++ .turn who moment :: rest) pool after) :
    ∃ middle later resume, scene.Run start world before middle moment.world ∧
      middle who = .ask moment.question resume ∧
      scene.answers moment.question moment.world moment.answer later ∧
      scene.Run (Function.update middle who (resume moment.answer)) later rest pool after := by
  generalize told : before ++ .turn who moment :: rest = log at run
  induction run generalizing rest with
  | start => cases (List.append_eq_nil_iff.mp told).2
  | turn run asks answered ih =>
    rcases last_event told with ⟨rfl, rfl, same⟩ | ⟨front, rfl, earlier⟩
    · cases same
      exact ⟨_, _, _, run, asks, answered, .start⟩
    · obtain ⟨middle, later, resume, first, asking, answering, further⟩ := ih earlier
      exact ⟨middle, later, resume, first, asking, answering, further.turn asks answered⟩
  | incident run happened ih =>
    rcases last_event told with ⟨-, -, same⟩ | ⟨front, rfl, earlier⟩
    · cases same
    · obtain ⟨middle, later, resume, first, asking, answering, further⟩ := ih earlier
      exact ⟨middle, later, resume, first, asking, answering, further.incident happened⟩

/-- Every moment of a run is that of an answer. -/
theorem Run.answered (run : scene.Run start world log pool after)
    (member : moment ∈ moments log) :
    ∃ later, scene.answers moment.question moment.world moment.answer later := by
  obtain ⟨who, member⟩ := exists_turn_of_mem_moments member
  obtain ⟨before, rest, rfl⟩ := List.append_of_mem (mem_turns.mp member)
  obtain ⟨-, later, -, -, -, answered, -⟩ := run.at_turn
  exact ⟨later, answered⟩

/-- An activity without a turn is where it started. -/
theorem Run.eq_start (run : scene.Run start world log pool after) (waits : turns who log = []) :
    pool who = start who := by
  have leads := run.leads who
  rw [waits, List.map_nil] at leads
  generalize start who = first at leads
  cases leads with
  | here => rfl

section Along

variable (relates : W → W → Prop) (stays : ∀ world, relates world world)
  (joins : ∀ {first second third}, relates first second → relates second third →
    relates first third)
  (answers : ∀ {question world answer later}, scene.answers question world answer later →
    relates world later)
  (happens : ∀ {what world later}, scene.happens what world later → relates world later)

include stays joins answers happens

/-- What every answer and every incident brings about step by step, a run brings about, up to its
end and up to each of its turns. -/
theorem Run.along (run : scene.Run start world log pool after) :
    relates world after ∧ ∀ moment ∈ moments log, relates world moment.world := by
  induction run with
  | start => exact ⟨stays _, nofun⟩
  | turn run asks answered ih =>
    refine ⟨joins ih.1 (answers answered), ?_⟩
    rw [moments_append, moments_turn, List.forall_mem_append, List.forall_mem_singleton]
    exact ⟨ih.2, ih.1⟩
  | incident run happened ih =>
    refine ⟨joins ih.1 (happens happened), ?_⟩
    rw [moments_append, moments_incident, List.append_nil]
    exact ih.2

/-- A turn brings about what holds from then on. -/
theorem Run.since (run : scene.Run start world (before ++ .turn who moment :: rest) pool after) :
    ∃ later, scene.answers moment.question moment.world moment.answer later ∧
      relates later after ∧ ∀ other ∈ moments rest, relates later other.world := by
  obtain ⟨middle, later, resume, -, -, answered, further⟩ := run.at_turn
  exact ⟨later, answered, further.along relates stays joins answers happens⟩

end Along

/-! ### Leaving an activity out -/

/-- **Turns that leave the world alone can be left out.** The rest of the run is a run of its
own. -/
theorem Run.others (run : scene.Run start world log pool after)
    (idle : ∀ moment ∈ turns who log, ∀ later,
      scene.answers moment.question moment.world moment.answer later → later = moment.world) :
    scene.Run start world (others who log) (Function.update pool who (start who)) after := by
  induction run with
  | start =>
    rw [Function.update_eq_self]
    exact .start
  | @turn log pool now later actor question resume answer run asks answered ih =>
    have earlier := ih fun moment member => idle moment (by
      rw [turns_append]
      exact List.mem_append_left _ member)
    rw [others_append]
    -- A turn of the one left out changes neither the rest of the run nor the world under it; a turn of
    -- another finds its own activity untouched by the update.
    by_cases same : actor = who
    · subst same
      have stays : later = now := idle ⟨now, question, answer⟩ (by
        rw [turns_append, turns_turn_self]
        exact List.mem_append_right _ (List.mem_singleton_self _)) later answered
      rw [others_turn_self, List.append_nil, Function.update_idem, stays]
      exact earlier
    · have asking : Function.update pool who (start who) actor = .ask question resume := by
        rwa [Function.update_of_ne same]
      rw [others_turn_of_ne same, Function.update_comm same]
      exact earlier.turn asking answered
  | incident run happened ih =>
    have earlier := ih fun moment member => idle moment (by
      rw [turns_append]
      exact List.mem_append_left _ member)
    rw [others_append]
    exact earlier.incident happened

/-! ### Letting an activity go on -/

/-- A run goes on with whatever may happen. -/
theorem Run.passes {now later : W} (run : scene.Run start world log pool now)
    (passes : scene.Passes now later) :
    ∃ further, scene.Run start world (log ++ further) pool later := by
  induction passes with
  | refl => exact ⟨[], by rwa [List.append_nil]⟩
  | tail _ happened ih =>
    obtain ⟨further, run⟩ := ih
    obtain ⟨what, happened⟩ := happened
    refine ⟨further ++ [.incident what], ?_⟩
    rw [← List.append_assoc]
    exact run.incident happened

/-- **An activity may have its whole course** while the others wait. -/
theorem Run.course {now last : W} {told : List (Moment I W)} {value : α}
    (run : scene.Run start world log pool now) (who : ι)
    (course : scene.Course (pool who) now told value last) :
    ∃ further, scene.Run start world (log ++ further)
      (Function.update pool who (.done value)) last := by
  generalize going : pool who = activity at course
  induction course generalizing log pool with
  | done value world =>
    refine ⟨[], ?_⟩
    rwa [← going, Function.update_eq_self, List.append_nil]
  | ask passes answered course ih =>
    obtain ⟨waiting, run⟩ := run.passes passes
    obtain ⟨further, run⟩ := ih (run.turn going answered) (Function.update_self ..)
    rw [Function.update_idem] at run
    exact ⟨_, by simpa only [List.append_assoc] using run⟩

end Scene

end

end MessageBus

/-
**The life of an event loop.** It does not connect again: the first leave that goes out, or the first
loss of the connection, ends it.

* `served`, `ending?` — the reports before the end, and the one that ends the event loop.
* `run_eq_of_ends` — whatever is reported after the end makes no difference.
* `Parting` — how the event loop is left: only a loss that the client does not want is told, to every
  route of the table at that moment.
* `Lifespan` — messages are dispatched until the end, and then comes the parting.
* `event_loop_lifespan` — **every course of an event loop is such a life**.
-/

import MessageBus.Proofs.Mqtt.Dispatch
import Mathlib.Data.List.TakeWhile

namespace MessageBus.Mqtt.EventLoop

/-- The reports before the first one that ends the event loop. -/
def served (reports : List Report) : List Report :=
  reports.takeWhile fun report => !report.ends

/-- The first report that ends the event loop. -/
def ending? (reports : List Report) : Option Report :=
  reports.find? Report.ends

/-- Either no report ends the event loop, or there is a first one that does. -/
theorem served_cases (reports : List Report) :
    ending? reports = none ∧ served reports = reports ∧
        (∀ report ∈ reports, report.ends = false) ∨
      ∃ before ending more, reports = before ++ ending :: more ∧ ending.ends = true ∧
        (∀ report ∈ before, report.ends = false) ∧ served reports = before ∧
          ending? reports = some ending := by
  cases found : ending? reports with
  | none =>
    have quiet : ∀ report ∈ reports, report.ends = false := fun report member =>
      Bool.eq_false_iff.mpr (List.find?_eq_none.mp found report member)
    refine .inl ⟨rfl, List.takeWhile_eq_self_iff.mpr fun report member => ?_, quiet⟩
    rw [quiet report member]
    rfl
  | some ending =>
    obtain ⟨ends, before, more, rfl, quiet⟩ := List.find?_eq_some_iff_append.mp found
    refine .inr ⟨before, ending, more, rfl, ends, ?_, ?_, rfl⟩
    · exact fun report member => Bool.not_eq_true' _ ▸ quiet report member
    · unfold served
      rw [List.takeWhile_append_of_pos quiet, List.takeWhile_cons_of_neg (by simp [ends]),
        List.append_nil]

/-! ### Reports one after another -/

/-- An event loop goes on with further reports if it goes on after the first ones. -/
theorem run_append (reconnect : Bool) (first rest : List Report) :
    run reconnect (first ++ rest) =
      (run reconnect first).bind fun goes => if goes then run reconnect rest else .done false := by
  induction first with
  | nil => rfl
  | cons report first ih =>
    change (react reconnect report).bind _ = ((react reconnect report).bind _).bind _
    rw [Dialogue.bind_assoc]
    refine congrArg _ (funext fun goes => ?_)
    cases goes with
    | true => exact ih
    | false => rfl

/-- An event loop does not go on after a report that ends it. -/
theorem react_bind_of_ends {α : Type} {ending : Report} (ends : ending.ends = true)
    (next : Bool → Dialogue looks.work α) :
    (react false ending).bind next = (react false ending).bind fun _ => next false := by
  cases ending with
  | arrived | other => cases ends
  | left => rfl
  | lost reason =>
    -- whatever the looks find, the event loop does not go on
    change Dialogue.ask _ _ = Dialogue.ask _ _
    refine congrArg _ (funext fun closing => ?_)
    cases closing with
    | true => rfl
    | false =>
      change Dialogue.ask _ _ = Dialogue.ask _ _
      refine congrArg _ (funext fun routes => ?_)
      change ((reportAll reason routes).bind fun _ => .done false).bind next =
        ((reportAll reason routes).bind fun _ => .done false).bind fun _ => next false
      rw [Dialogue.bind_assoc, Dialogue.bind_assoc]
      rfl

/-- An event loop that begins with a report that ends it does nothing else. -/
theorem run_cons_of_ends {ending : Report} (ends : ending.ends = true) (more : List Report) :
    run false (ending :: more) = (react false ending).bind fun _ => .done false :=
  react_bind_of_ends ends fun goes => if goes then run false more else .done false

/-- **Whatever is reported after the end makes no difference.** -/
theorem run_eq_of_ends {ending : Report} (ends : ending.ends = true) (before more : List Report) :
    run false (before ++ ending :: more) = run false (before ++ [ending]) := by
  rw [run_append, run_append, run_cons_of_ends ends, run_cons_of_ends ends]

/-! ### The end -/

/-- How an event loop is left, what is asked then, whether it goes on, and what is told to queues of
errors. -/
inductive Parting : Option Report → List (Moment looks.work Surroundings) → Bool →
    (Nat → List BusError) → Prop
  /-- No report ends it: it waits for more. -/
  | none : Parting none [] true fun _ => []
  /-- The leave has gone out. Nobody is told. -/
  | left : Parting (some .left) [] false fun _ => []
  /-- The connection is lost while the client wants to end. Nobody is told. -/
  | closing (reason : String) (now : Surroundings) (wants : now.closing = true) :
      Parting (some (.lost reason)) [⟨now, .inl .closing, true⟩] false fun _ => []
  /-- The connection is lost, and every route of the table at that moment is told, once. -/
  | lost (reason : String) (now later : Surroundings) (order : List Route)
      (told : List (Moment looks.work Surroundings)) (going : now.closing = false)
      (found : order.Perm later.table.routes)
      (each : asked told =
        order.map fun route => .inr (.report route.errors (.transport reason))) :
      Parting (some (.lost reason))
        (⟨now, .inl .closing, false⟩ :: ⟨later, .inl .allRoutes, order⟩ :: told) false
        fun number => List.replicate (later.table.noting number).length (.transport reason)

section Courses

variable {supply : Nat → String} {world after : Surroundings} {routes order : List Route}
  {table : RouteTable} {log told : List (Moment looks.work Surroundings)} {value : Bool}
  {reason : String} {report? : Option Report} {tells : Nat → List BusError}

/-- Every route is told, in order. -/
theorem course_reportAll {value : Unit}
    (course : (scene supply).Course (reportAll reason routes) world log value after) :
    asked log = routes.map fun route => .inr (.report route.errors (.transport reason)) := by
  induction routes generalizing world log with
  | nil =>
    obtain ⟨rfl, -, -⟩ := Scene.course_done.mp course
    rfl
  | cons route routes ih =>
    obtain ⟨now, took, next, rest, rfl, -, further⟩ := course_ask course
    exact congrArg (_ :: ·) (ih further)

/-- **An event loop ends with a parting.** -/
theorem parting_of_react {report : Report} (ends : report.ends = true)
    (course : (scene supply).Course (react false report) world log value after) :
    ∃ tells, Parting (some report) log value tells := by
  cases report with
  | arrived | other => cases ends
  | left =>
    obtain ⟨rfl, rfl, -⟩ := Scene.course_done.mp course
    exact ⟨_, .left⟩
  | lost reason =>
    obtain ⟨_, wants, now, _, rfl, ⟨same, rfl⟩, further⟩ := course_ask course
    cases wants with
    | true =>
      obtain ⟨rfl, rfl, -⟩ := Scene.course_done.mp further
      exact ⟨_, .closing reason now same.symm⟩
    | false =>
      obtain ⟨_, order, later, _, rfl, ⟨found, rfl⟩, telling⟩ := course_ask further
      change (scene supply).Course ((reportAll reason order).bind fun _ => .done false) _ _ _ _
        at telling
      obtain ⟨told, _, _, _, rfl, reported, ended⟩ := Scene.course_bind.mp telling
      obtain ⟨rfl, rfl, -⟩ := Scene.course_done.mp ended
      rw [List.append_nil]
      exact ⟨_, .lost reason now later order told same.symm found (course_reportAll reported)⟩

theorem filterMap_routes (error : BusError) (number : Nat) (table : RouteTable) :
    (table.routes.filterMap fun route => if route.errors = number then some error else none) =
      List.replicate (table.noting number).length error := by
  unfold RouteTable.routes RouteTable.noting RouteTable.sharing
  induction table with
  | nil => rfl
  | cons entry table ih =>
    by_cases here : entry.2.errors = number
    · simp [here, ih, List.replicate_succ]
    · simp [here, ih]

/-- **A queue of errors is told once for each route that reports to it**, whatever the order of the
routes is. -/
theorem filterMap_order (error : BusError) (number : Nat) (found : order.Perm table.routes) :
    (order.filterMap fun route => if route.errors = number then some error else none) =
      List.replicate (table.noting number).length error := by
  have perm := found.filterMap fun route => if route.errors = number then some error else none
  rw [filterMap_routes] at perm
  exact List.perm_replicate.mp perm

/-- A parting sends no message, and reports what it tells. -/
theorem Parting.sent_and_reported (parting : Parting report? log value tells) (number : Nat) :
    sent number log = [] ∧ reported number log = tells number := by
  cases parting with
  | none | left | closing => exact ⟨rfl, rfl⟩
  | lost reason now later order told going found each =>
    constructor
    · show (asked told).filterMap (sent? number) = []
      rw [each, List.filterMap_map]
      exact List.filterMap_eq_nil_iff.mpr fun _ _ => rfl
    · show (asked told).filterMap (reported? number) = _
      rw [each, List.filterMap_map]
      exact filterMap_order (.transport reason) number found

end Courses

/-! ### The whole life -/

/-- The life of an event loop: rounds and a parting. -/
structure Lifespan (reports : List Report) (log : List (Moment looks.work Surroundings))
    (value : Bool) (world after : Surroundings) (rounds : List Round)
    (parting : List (Moment looks.work Surroundings)) (between : Surroundings) : Prop where
  /-- It goes from round to round, and then comes the parting. -/
  story : log = rounds.flatMap Round.log ++ parting
  /-- The messages before the end are dispatched, in order, and no others. -/
  dispatched : rounds.map (·.publication) = (served reports).filterMap publication?
  /-- Each of them comes to the routes of the table at that moment whose filters take its topic. -/
  fair : ∀ round ∈ rounds, round.Fair
  /-- Until the end, queues take what rounds send and report, and nothing else. -/
  filled : Fills (fun number => rounds.flatMap fun round =>
      round.publication.envelopes number round.order)
    (fun number => rounds.flatMap fun round => round.publication.faults number round.order) world
    between
  /-- At the end, no queue takes a message, and those of errors take what the parting tells. -/
  left : ∃ tells, Parting (ending? reports) parting value tells ∧
    Fills (fun _ => []) tells between after

section Lives

variable {supply : Nat → String} {reports before more : List Report} {ending : Report}
  {world after : Surroundings} {log : List (Moment looks.work Surroundings)} {value : Bool}

theorem lifespan_of_quiet (none : ending? reports = none) (all : served reports = reports)
    (quiet : ∀ report ∈ reports, report.ends = false)
    (course : (scene supply).Course (run false reports) world log value after) :
    ∃ rounds, Lifespan reports log value world after rounds [] after := by
  have fills := fills_of_course (asks_run fun _ _ _ => rfl) course
  obtain ⟨rfl, rounds, published, fair, rfl⟩ := course_run_quiet quiet course
  refine ⟨rounds, ?_⟩
  exact {
    story := (List.append_nil _).symm
    dispatched := by rw [published, all]
    fair
    filled := fills_of_rounds fair fills
    left := ⟨_, none ▸ .none, .refl after⟩ }

theorem lifespan_of_ends (ends : ending.ends = true) (quiet : ∀ report ∈ before, report.ends = false)
    (all : served (before ++ ending :: more) = before)
    (first : ending? (before ++ ending :: more) = some ending)
    (course : (scene supply).Course (run false (before ++ ending :: more)) world log value after) :
    ∃ rounds parting between,
      Lifespan (before ++ ending :: more) log value world after rounds parting between := by
  rw [run_eq_of_ends ends, run_append] at course
  obtain ⟨_, _, between, _, rfl, dispatched, further⟩ := Scene.course_bind.mp course
  have fills := fills_of_course (asks_run fun _ _ _ => rfl) dispatched
  obtain ⟨rfl, rounds, published, fair, rfl⟩ := course_run_quiet quiet dispatched
  -- all that is left is the reaction to the report that ends the event loop
  obtain ⟨parting, goes, last, _, rfl, reacted, ended⟩ := Scene.course_bind.mp further
  obtain ⟨rfl, rfl, rfl⟩ : _ = [] ∧ value = goes ∧ after = last := by
    cases goes <;> exact Scene.course_done.mp ended
  have told := fills_of_course (asks_react fun _ => rfl) reacted
  obtain ⟨tells, parts⟩ := parting_of_react ends reacted
  refine ⟨rounds, parting, between, ?_⟩
  exact {
    story := by rw [List.append_nil]
    dispatched := by rw [published, all]
    fair
    filled := fills_of_rounds fair fills
    left := ⟨tells, first ▸ parts, fun number => (parts.sent_and_reported number).1 ▸
      told.messages number, fun number => (parts.sent_and_reported number).2 ▸ told.errors number⟩ }

/-- **Every course is a life.** -/
theorem exists_lifespan
    (course : (scene supply).Course (run false reports) world log value after) :
    ∃ rounds parting between, Lifespan reports log value world after rounds parting between := by
  rcases served_cases reports with ⟨none, all, quiet⟩ |
      ⟨before, ending, more, rfl, ends, quiet, all, first⟩
  · obtain ⟨rounds, life⟩ := lifespan_of_quiet none all quiet course
    exact ⟨rounds, [], after, life⟩
  · exact lifespan_of_ends ends quiet all first course

end Lives

/-- **The life of an event loop** that does not connect again, whatever is reported and whatever
happens to routes and queues meanwhile: the messages before the first leave and the first loss of the
connection are dispatched, in order, and nothing else is done. A loss is told to every route that is
in the table at that moment, once, unless the client wants to end. All this comes to its end if
receivers take what waits. -/
theorem event_loop_lifespan (supply : Nat → String) (reports : List Report) (world : Surroundings) :
    (∀ before ending more, reports = before ++ ending :: more → ending.ends = true →
      run false reports = run false (before ++ [ending])) ∧
    (∀ log value after, (scene supply).Course (run false reports) world log value after →
      ∃ rounds parting between,
        Lifespan reports log value world after rounds parting between) ∧
    (world.Roomy → ∃ log value after,
      (scene supply).Course (run false reports) world log value after ∧
        (∀ moment ∈ log, Steady world moment.world) ∧ Steady world after) := by
  refine ⟨?_, fun log value after => exists_lifespan, fun roomy => ?_⟩
  · rintro before ending more rfl ends
    exact run_eq_of_ends ends before more
  · exact exists_steady_course supply (asks_run fun _ _ _ => rfl) roomy

/-- A message arrives, the connection is lost, and another message is reported. Two routes share a
queue of errors, which is told twice. -/
theorem event_loop_lifespan_shared :
    let table : RouteTable := [("a", ⟨0, 0, true⟩), ("b", ⟨1, 0, true⟩), ("c", ⟨1, 1, false⟩)]
    let queues {α : Type} : List (Queue α) := List.replicate 2 { capacity := 1 }
    let world : Surroundings := { table, place := { messages := queues, errors := queues } }
    let reports : List Report := [.arrived "a" [120], .lost "gone", .arrived "a" [121]]
    run false reports = run false (reports.take 2) ∧
    ∃ log after rounds parting between,
      (scene toString).Course (run false reports) world log false after ∧
      Lifespan reports log false world after rounds parting between ∧
      rounds.map (·.publication) = [⟨"a", [120]⟩] ∧
      (∀ number, (after.messages number).items = (between.messages number).items) ∧
      (after.errors 0).items =
        (between.errors 0).items ++ [.transport "gone", .transport "gone"] ∧
      (after.errors 1).items = (between.errors 1).items ++ [.transport "gone"] := by
  intro table queues world reports
  have roomy : world.Roomy := ⟨by decide, by decide⟩
  obtain ⟨stops, lives, comes⟩ := event_loop_lifespan toString reports world
  obtain ⟨log, value, after, course, steady, last⟩ := comes roomy
  obtain ⟨rounds, parting, between, life⟩ := lives log value after course
  obtain ⟨tells, parts, filled⟩ := life.left
  have first : ending? reports = some (.lost "gone") := rfl
  have steadily : ∀ moment ∈ parting, Steady world moment.world := fun moment member =>
    steady moment (life.story ▸ List.mem_append_right _ member)
  have isOpen (number : Nat) (small : number < 2) : (after.errors number).isOpen := by
    rw [last.isOpen_errors]
    revert number
    decide
  rw [first] at parts
  cases parts with
  | closing _ now wants =>
    cases wants.symm.trans (steadily _ List.mem_cons_self).closing
  | lost _ now later order told going found each =>
    have same : later.table = table := (steadily ⟨later, .inl .allRoutes, order⟩ (by simp)).table
    refine ⟨stops [.arrived "a" [120]] (.lost "gone") _ rfl rfl, log, after, rounds, _, between,
      course, life, life.dispatched, fun number => (filled.messages number).items_eq, ?_, ?_⟩
    · rw [(filled.errors 0).all (isOpen 0 (by decide)), same]
      rfl
    · rw [(filled.errors 1).all (isOpen 1 (by decide)), same]
      rfl

end MessageBus.Mqtt.EventLoop

/-
**Places of handles.** The registry's entries and the hands of calls, with a handle at most at each.

* `Place`, `Fate` — where a handle may be, and what has become of one.
* `contents` — the handle at each place; `contents_stage`, `contents_entry` — how that changes.
* `Placed` — every handle is at one place at most; `clear`, `fill`, `move` and `swap` keep that.
-/

import MessageBus.Proofs.Nats.Custody

namespace MessageBus.Nats.Client

variable {Handle ι : Type}

/-- Where there may be a handle. -/
inductive Place (ι : Type)
  /-- The registry's entry for a topic. -/
  | entry (topic : String)
  /-- The hand of a call. -/
  | hand (who : ι)
  deriving DecidableEq

/-- What has become of a handle. -/
inductive Fate (ι : Type)
  /-- It has not been given out. -/
  | unknown
  /-- It is at a place. -/
  | at (place : Place ι)
  /-- Its native unsubscribe succeeded. -/
  | released
  /-- Its native unsubscribe failed, and it was given up. -/
  | discarded

/-- The handle at each place. -/
def contents (registry : List (String × Handle)) (stages : ι → Custody Handle) :
    Place ι → Option Handle
  | .entry topic => registry.lookup topic
  | .hand who => (stages who).hand?

/-- The handles at their places, each at one only. -/
def Placed (fate : Handle → Fate ι) (content : Place ι → Option Handle) : Prop :=
  ∀ place handle, content place = some handle ↔ fate handle = .at place

section Places

variable [DecidableEq ι] {registry after : List (String × Handle)} {stages : ι → Custody Handle}

/-- A new stage of a call changes what it has in its hand. -/
theorem contents_stage (registry : List (String × Handle)) (stages : ι → Custody Handle) (who : ι)
    (stage : Custody Handle) :
    contents registry (Function.update stages who stage) =
      Function.update (contents registry stages) (.hand who) stage.hand? := by
  funext place
  cases place with
  | entry topic => rfl
  | hand holder =>
    show (Function.update stages who stage holder).hand? = _
    by_cases same : holder = who
    · rw [same, Function.update_self, Function.update_self]
    · rw [Function.update_of_ne same, Function.update_of_ne (by simpa using same)]
      rfl

/-- A change of one entry of the registry changes what there is for one topic. -/
theorem contents_entry {topic : String} {entry : Option Handle} (stages : ι → Custody Handle)
    (changed : ∀ other, after.lookup other =
      if other = topic then entry else registry.lookup other) :
    contents after stages = Function.update (contents registry stages) (.entry topic) entry := by
  funext place
  cases place with
  | hand holder => rfl
  | entry other =>
    show after.lookup other = _
    rw [changed]
    by_cases same : other = topic
    · rw [if_pos same, same, Function.update_self]
    · rw [if_neg same, Function.update_of_ne (by simpa using same)]
      rfl

variable [DecidableEq Handle] {fate : Handle → Fate ι} {content : Place ι → Option Handle}
  {place : Place ι} {handle : Handle}

/-- A handle leaves its place. -/
theorem Placed.clear {outcome : Fate ι} (placed : Placed fate content)
    (full : content place = some handle) (away : ∀ other, outcome ≠ .at other) :
    Placed (Function.update fate handle outcome) (Function.update content place none) := by
  intro other current
  have here := (placed place handle).mp full
  by_cases same : current = handle
  · subst same
    rw [Function.update_self]
    refine iff_of_false ?_ (away other)
    by_cases there : other = place
    · rw [there, Function.update_self]
      nofun
    · rw [Function.update_of_ne there, placed, here, Fate.at.injEq]
      exact fun equal => there equal.symm
  · rw [Function.update_of_ne same, ← placed]
    by_cases there : other = place
    · rw [there, Function.update_self, full]
      simpa using fun equal => same equal.symm
    · rw [Function.update_of_ne there]

/-- A handle that is nowhere comes to a place where there is none. -/
theorem Placed.fill (placed : Placed fate content) (empty : content place = none)
    (loose : ∀ other, fate handle ≠ .at other) :
    Placed (Function.update fate handle (.at place))
      (Function.update content place (some handle)) := by
  intro other current
  by_cases there : other = place
  · subst there
    rw [Function.update_self]
    by_cases same : current = handle
    · rw [same, Function.update_self]
      exact iff_of_true rfl rfl
    · rw [Function.update_of_ne same, ← placed, empty]
      simpa using fun equal => same equal.symm
  · rw [Function.update_of_ne there]
    by_cases same : current = handle
    · subst same
      rw [Function.update_self, placed, Fate.at.injEq]
      exact iff_of_false (loose other) fun equal => there equal.symm
    · rw [Function.update_of_ne same, placed]

/-- A handle moves to a place where there is none. -/
theorem Placed.move {other : Place ι} (placed : Placed fate content)
    (full : content place = some handle) (empty : content other = none) :
    Placed (Function.update fate handle (.at other))
      (Function.update (Function.update content place none) other (some handle)) := by
  have elsewhere : other ≠ place := by
    rintro rfl
    rw [full] at empty
    cases empty
  have cleared : Placed (Function.update fate handle .unknown)
      (Function.update content place none) := placed.clear full (by simp)
  rw [← Function.update_idem .unknown (.at other) fate]
  refine cleared.fill ?_ (by simp)
  rw [Function.update_of_ne elsewhere, empty]

/-- Two handles change places. -/
theorem Placed.swap {other : Place ι} {older : Handle} (placed : Placed fate content)
    (full : content place = some handle) (taken : content other = some older)
    (different : handle ≠ older) :
    Placed (Function.update (Function.update fate older (.at place)) handle (.at other))
      (Function.update (Function.update content place (some older)) other (some handle)) := by
  have elsewhere : other ≠ place := by
    rintro rfl
    exact different (Option.some.inj (full.symm.trans taken))
  have cleared : Placed (Function.update fate handle .unknown)
      (Function.update content place none) := placed.clear full (by simp)
  have stillTaken : Function.update content place none other = some older := by
    rw [Function.update_of_ne elsewhere, taken]
  have moved := cleared.move stillTaken (Function.update_self place none content)
  have emptied : Function.update (Function.update (Function.update content place none) other none)
      place (some older) other = none := by
    rw [Function.update_of_ne elsewhere, Function.update_self]
  have loose : ∀ spot, Function.update (Function.update fate handle .unknown) older (.at place)
      handle ≠ .at spot := by
    simp [different]
  have filled := moved.fill emptied loose
  rwa [Function.update_comm elsewhere, Function.update_idem, Function.update_idem,
    Function.update_comm different, Function.update_idem] at filled

end Places

end MessageBus.Nats.Client

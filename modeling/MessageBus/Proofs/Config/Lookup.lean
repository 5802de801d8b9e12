/-
**Which entry answers a look-up.** Keys are compared without regard to the case of Latin letters,
and the first entry that fits answers.

* `Answers`, `valueOf` — the entries that fit a key, and the value that an entry stands for.
* `get?_cases` — a look-up gives the value of an entry that answers, if there is one;
  `exists_order` — each of them answers in some order of the entries.
* `get?_of_perm` — **entries that agree answer alike in every order**.
* `Given`, `get?_eq_some_iff` — where no two keys are the same but for letter case, a look-up gives
  exactly the value that the map holds.
* `get?_filter` — entries under other keys do not matter.
-/

import MessageBus.Config.Options
import MessageBus.Proofs.Text.Trimming
import Mathlib.Data.List.Pairwise
import Mathlib.Data.List.Perm.Basic

namespace MessageBus.Options

open MessageBus.Text

variable {options order : OptionMap} {key value : String} {entry : String × String}

/-- An entry fits a key: the keys are the same but for the case of Latin letters. -/
def Answers (key : String) (entry : String × String) : Prop :=
  eqIgnoringAsciiCase entry.1 key = true

instance (key : String) (entry : String × String) : Decidable (Answers key entry) :=
  inferInstanceAs (Decidable (_ = true))

/-- The value that an entry stands for: its trimmed text, unless that is empty. -/
def valueOf (entry : String × String) : Option String :=
  if isBlankText entry.2 then none else some (trim entry.2)

/-- A value stands under a key of a map. -/
def Given (options : OptionMap) (key value : String) : Prop :=
  ∃ entry ∈ options, Answers key entry ∧ valueOf entry = some value

/-- The keys of two entries differ in more than letter case. -/
def Apart (entry other : String × String) : Prop :=
  eqIgnoringAsciiCase entry.1 other.1 = false

/-- No two keys of a map are the same but for letter case. -/
def DistinctKeys (options : OptionMap) : Prop :=
  options.Pairwise Apart

/-- All entries that fit a key stand for one value. -/
def Agree (options : OptionMap) (key : String) : Prop :=
  ∀ entry ∈ options, ∀ other ∈ options,
    Answers key entry → Answers key other → valueOf entry = valueOf other

/-! ### Keys -/

theorem eqIgnoringAsciiCase_iff {s t : String} :
    eqIgnoringAsciiCase s t = true ↔ s.toList.map asciiLower = t.toList.map asciiLower :=
  beq_iff_eq

/-- Entries that fit one key have keys that are the same but for letter case. -/
theorem Answers.alike {other : String × String} (one : Answers key entry)
    (another : Answers key other) : eqIgnoringAsciiCase entry.1 other.1 = true :=
  eqIgnoringAsciiCase_iff.mpr
    ((eqIgnoringAsciiCase_iff.mp one).trans (eqIgnoringAsciiCase_iff.mp another).symm)

instance : Std.Symm Apart where
  symm entry other apart := by
    unfold Apart at apart ⊢
    rw [Bool.eq_false_iff, ne_eq, eqIgnoringAsciiCase_iff] at apart ⊢
    exact fun same => apart same.symm

/-- Where keys are distinct, one entry at most fits a key. -/
theorem DistinctKeys.unique (distinct : DistinctKeys options) {other : String × String}
    (member : entry ∈ options) (otherMember : other ∈ options) (answers : Answers key entry)
    (otherAnswers : Answers key other) : entry = other := by
  by_contra different
  have apart : Apart entry other := List.Pairwise.forall distinct member otherMember different
  rw [Apart, answers.alike otherAnswers] at apart
  cases apart

theorem DistinctKeys.agree (distinct : DistinctKeys options) (key : String) : Agree options key :=
  fun _ member _ otherMember answers otherAnswers =>
    congrArg valueOf (distinct.unique member otherMember answers otherAnswers)

/-! ### What a look-up gives -/

theorem get?_cons (entry : String × String) (options : OptionMap) (key : String) :
    get? (entry :: options) key = if Answers key entry then valueOf entry else get? options key := by
  unfold get?
  rw [List.find?_cons]
  by_cases answers : Answers key entry
  · rw [if_pos answers, show eqIgnoringAsciiCase entry.1 key = true from answers]
    rfl
  · rw [if_neg answers, Bool.eq_false_iff.mpr answers]

/-- **A look-up gives the value of an entry that answers**, if there is one. -/
theorem get?_cases (options : OptionMap) (key : String) :
    (∃ entry ∈ options, Answers key entry ∧ get? options key = valueOf entry) ∨
      (∀ entry ∈ options, ¬ Answers key entry) ∧ get? options key = none := by
  induction options with
  | nil => exact .inr ⟨nofun, rfl⟩
  | cons first rest ih =>
    rw [get?_cons]
    by_cases answers : Answers key first
    · exact .inl ⟨first, List.mem_cons_self, answers, if_pos answers⟩
    · rw [if_neg answers]
      obtain ⟨entry, member, found⟩ | ⟨none, empty⟩ := ih
      · exact .inl ⟨entry, List.mem_cons_of_mem first member, found⟩
      · exact .inr ⟨List.forall_mem_cons.mpr ⟨answers, none⟩, empty⟩

/-- Each entry that fits a key answers in some order of the entries. -/
theorem exists_order (member : entry ∈ options) (answers : Answers key entry) :
    ∃ order, options.Perm order ∧ get? order key = valueOf entry := by
  obtain ⟨front, back, rfl⟩ := List.append_of_mem member
  exact ⟨entry :: (front ++ back), List.perm_middle, (get?_cons ..).trans (if_pos answers)⟩

/-- **Entries that agree answer alike in every order.** -/
theorem get?_of_perm (agree : Agree options key) (perm : options.Perm order) :
    get? order key = get? options key := by
  obtain ⟨entry, member, answers, found⟩ | ⟨none, found⟩ := get?_cases order key
  · have listed := perm.mem_iff.mpr member
    obtain ⟨other, otherMember, otherAnswers, given⟩ | ⟨none, -⟩ := get?_cases options key
    · rw [found, given, agree entry listed other otherMember answers otherAnswers]
    · exact absurd answers (none entry listed)
  · obtain ⟨other, member, answers, -⟩ | ⟨-, given⟩ := get?_cases options key
    · exact absurd answers (none other (perm.mem_iff.mp member))
    · rw [found, given]

/-- **Where keys are distinct, a look-up gives exactly the value that the map holds.** -/
theorem get?_eq_some_iff (distinct : DistinctKeys options) :
    get? options key = some value ↔ Given options key value := by
  obtain ⟨entry, member, answers, found⟩ | ⟨none, found⟩ := get?_cases options key
  · rw [found]
    constructor
    · exact fun stands => ⟨entry, member, answers, stands⟩
    · rintro ⟨other, otherMember, otherAnswers, stands⟩
      rw [distinct.unique member otherMember answers otherAnswers, stands]
  · rw [found]
    refine iff_of_false nofun ?_
    rintro ⟨entry, member, answers, -⟩
    exact none entry member answers

theorem get?_eq_none_iff (distinct : DistinctKeys options) :
    get? options key = none ↔ ∀ value, ¬ Given options key value := by
  simp only [Option.eq_none_iff_forall_ne_some, ne_eq, get?_eq_some_iff distinct]

/-- What a look-up gives has no blanks at its ends and is not empty. -/
theorem trim_of_get? (found : get? options key = some value) : trim value = value ∧ value ≠ "" := by
  have tidy : ∀ entry, valueOf entry = some value → trim value = value ∧ value ≠ "" := by
    intro entry stands
    unfold valueOf at stands
    split at stands
    case isTrue => cases stands
    case isFalse filled =>
      cases stands
      exact ⟨trim_trim entry.2, fun empty => filled (isBlankText_iff.mpr empty)⟩
  obtain ⟨entry, -, -, same⟩ | ⟨-, none⟩ := get?_cases options key
  · exact tidy entry (same.symm.trans found)
  · rw [none] at found
    cases found

/-- Entries that fit no key that is asked for do not matter. -/
theorem get?_filter {keep : String × String → Bool}
    (kept : ∀ entry, Answers key entry → keep entry = true) :
    get? (options.filter keep) key = get? options key := by
  induction options with
  | nil => rfl
  | cons first rest ih =>
    rw [List.filter_cons, get?_cons, ← ih]
    split
    · rw [get?_cons]
    · rename_i left
      rw [if_neg fun answers => left (kept first answers)]

end MessageBus.Options

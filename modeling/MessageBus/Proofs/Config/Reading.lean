/-
**Readings of durations.** The one way in which a text stands for a duration.

* `TimeUnit`, `Duration.Reading` — a numeral alone, or a numeral with a unit that blanks may part
  from it; `Reading.IsOf` — the reading is one of this text and keeps to words of 64 bits.
* `Spells.exists_reading`, `Reading.IsOf.spells` — the grammar of durations by readings.
* `Reading.IsOf.unique` — **a text has one reading at most**: the numeral ends where its characters
  end, and so do the blanks.
* `durations_exact` — **a text is read as a duration exactly if it has a reading**, with the value
  of that reading; an option without one is an error that names its key.
-/

import MessageBus.Proofs.Config.Setting

namespace MessageBus

open Text (AreBlank IsNumeral trimChars)

/-- The units of durations. -/
inductive TimeUnit
  | milliseconds
  | seconds
  | minutes

namespace TimeUnit

/-- The letters of a unit; without a unit there are none. -/
def letters : Option TimeUnit → List Char
  | none => []
  | some milliseconds => ['m', 's']
  | some seconds => ['s']
  | some minutes => ['m']

/-- How many milliseconds a unit lasts. -/
def length : TimeUnit → Nat
  | milliseconds => 1
  | seconds => 1000
  | minutes => 60000

theorem letters_injective : Function.Injective letters := by
  rintro (_ | _ | _ | _) (_ | _ | _ | _) same <;> first | rfl | cases same

/-- The letters of a unit are no blanks. -/
theorem isBlank_of_mem_letters {unit? : Option TimeUnit} :
    ∀ c ∈ letters unit?, Text.isBlank c = false := by
  have plain : (letters unit?).all (!Text.isBlank ·) = true := by
    obtain _ | _ | _ | _ := unit? <;> decide
  intro c member
  simpa using List.all_eq_true.mp plain c member

end TimeUnit

namespace Duration

variable {cs front back gap : List Char} {duration : Duration}

/-- A way to read a text: a numeral of some count, with a unit behind blanks or without one. -/
structure Reading where
  numeral : List Char
  count : Nat
  gap : List Char := []
  unit? : Option TimeUnit := none

/-- The duration that a reading stands for. A count without a unit is one of seconds. -/
def Reading.value (reading : Reading) : Duration :=
  ⟨reading.count * (reading.unit?.getD .seconds).length⟩

/-- The reading is one of this text. Its count is a word of 64 bits, and so are the seconds of a
count of minutes. -/
structure Reading.IsOf (reading : Reading) (cs : List Char) : Prop where
  whole : cs = reading.numeral ++ (reading.gap ++ TimeUnit.letters reading.unit?)
  numeral : IsNumeral reading.numeral reading.count
  blank : AreBlank reading.gap
  bare : reading.unit? = none → reading.gap = []
  word : reading.count < UInt64.size
  minutes : reading.unit? = some .minutes → reading.count * 60 < UInt64.size

/-! ### Readings and the grammar -/

theorem le_wordLimit_iff {n : Nat} : n ≤ wordLimit ↔ n < UInt64.size := by
  have limit : wordLimit + 1 = UInt64.size := by decide
  omega

/-- What is spelled has a reading. -/
theorem Spells.exists_reading (spells : Spells cs duration) :
    ∃ reading : Reading, reading.IsOf cs ∧ reading.value = duration := by
  cases spells with
  | @bare _ n numeral fits =>
    refine ⟨⟨cs, n, [], none⟩, ?_, rfl⟩
    exact ⟨by simp [TimeUnit.letters], numeral, Text.areBlank_nil, fun _ => rfl,
      le_wordLimit_iff.mp fits, nofun⟩
  | @milliseconds number gap n numeral blank fits =>
    refine ⟨⟨number, n, gap, some .milliseconds⟩, ?_, ?_⟩
    · exact ⟨List.append_assoc .., numeral, blank, nofun, le_wordLimit_iff.mp fits, nofun⟩
    · exact congrArg Duration.mk (Nat.mul_one n)
  | @seconds number gap n numeral blank fits =>
    refine ⟨⟨number, n, gap, some .seconds⟩, ?_, rfl⟩
    exact ⟨List.append_assoc .., numeral, blank, nofun, le_wordLimit_iff.mp fits, nofun⟩
  | @minutes number gap n numeral blank fits =>
    have seconds := le_wordLimit_iff.mp fits
    have word : n < UInt64.size := by omega
    refine ⟨⟨number, n, gap, some .minutes⟩, ?_, ?_⟩
    · exact ⟨List.append_assoc .., numeral, blank, nofun, word, fun _ => seconds⟩
    · exact congrArg Duration.mk (Nat.mul_assoc n 60 1000).symm

/-- What has a reading is spelled. -/
theorem Reading.IsOf.spells {reading : Reading} (reads : reading.IsOf cs) :
    Spells cs reading.value := by
  obtain ⟨number, n, gap, unit?⟩ := reading
  obtain ⟨rfl, numeral, blank, bare, word, seconds⟩ := reads
  dsimp only at numeral blank bare word seconds
  have fits := le_wordLimit_iff.mpr word
  obtain _ | _ | _ | _ := unit?
  · rw [bare rfl, TimeUnit.letters, List.append_nil, List.append_nil]
    exact .bare numeral fits
  all_goals rw [← List.append_assoc]
  · show Spells _ ⟨n * 1⟩
    rw [Nat.mul_one]
    exact .milliseconds numeral blank fits
  · exact .seconds numeral blank fits
  · have spelled := Spells.minutes numeral blank (le_wordLimit_iff.mpr (seconds rfl))
    rwa [Duration.seconds, Nat.mul_assoc] at spelled

/-! ### One reading at most -/

/-- A text is parted in one way into characters of a class and a rest that begins with another. -/
theorem append_inj_of_class {p : Char → Bool} {other rest : List Char}
    (all : ∀ c ∈ front, p c = true) (allOther : ∀ c ∈ other, p c = true)
    (stops : ∀ c ∈ back.head?, p c = false) (stopsOther : ∀ c ∈ rest.head?, p c = false)
    (same : front ++ back = other ++ rest) : front = other ∧ back = rest := by
  have taken : ∀ {front back : List Char}, (∀ c ∈ front, p c = true) →
      (∀ c ∈ back.head?, p c = false) → (front ++ back).takeWhile p = front := by
    intro front back all stops
    rw [List.takeWhile_append_of_pos all]
    cases back with
    | nil => rw [List.takeWhile_nil, List.append_nil]
    | cons c back => rw [List.takeWhile_cons_of_neg (by simp [stops c rfl]), List.append_nil]
  have fronts : front = other := by rw [← taken all stops, same, taken allOther stopsOther]
  subst fronts
  exact ⟨rfl, List.append_cancel_left same⟩

/-- The characters that numerals are made of. -/
def isNumeralChar (c : Char) : Bool :=
  c.isDigit || c == '+'

theorem isNumeralChar_of_mem {number : List Char} {n : Nat} (numeral : IsNumeral number n) :
    ∀ c ∈ number, isNumeralChar c = true := by
  intro c member
  simpa [isNumeralChar] using numeral.isDigit_or_plus member

/-- Blanks are no characters of numerals. -/
theorem isNumeralChar_of_isBlank {c : Char} (blank : Text.isBlank c = true) :
    isNumeralChar c = false := by
  rw [isNumeralChar, Bool.or_eq_false_iff, beq_eq_false_iff_ne]
  constructor
  · refine Bool.eq_false_iff.mpr fun digit => ?_
    rw [Text.isBlank_of_isDigit digit] at blank
    cases blank
  · rintro rfl
    exact absurd blank (by decide)

/-- What stands behind a numeral does not begin like one. -/
theorem isNumeralChar_head (blank : AreBlank gap) (unit? : Option TimeUnit) :
    ∀ c ∈ (gap ++ TimeUnit.letters unit?).head?, isNumeralChar c = false := by
  cases gap with
  | nil => obtain _ | _ | _ | _ := unit? <;> rintro c ⟨⟩ <;> decide
  | cons first gap =>
    rintro c ⟨⟩
    exact isNumeralChar_of_isBlank (blank first List.mem_cons_self)

/-- **A text has one reading at most.** -/
theorem Reading.IsOf.unique {one other : Reading} (reads : one.IsOf cs) (also : other.IsOf cs) :
    one = other := by
  obtain ⟨number, n, gap, unit?⟩ := one
  obtain ⟨otherNumber, m, otherGap, otherUnit?⟩ := other
  obtain ⟨rfl, numeral, blank, -⟩ := reads
  obtain ⟨same, otherNumeral, otherBlank, -⟩ := also
  have letters : ∀ unit? : Option TimeUnit, ∀ c ∈ (TimeUnit.letters unit?).head?,
      Text.isBlank c = false := fun _ c head =>
    TimeUnit.isBlank_of_mem_letters c (List.mem_of_head? head)
  -- The numeral is the longest run of its characters, and the gap the longest run of blanks then.
  obtain ⟨rfl, tails⟩ := append_inj_of_class (isNumeralChar_of_mem numeral)
    (isNumeralChar_of_mem otherNumeral) (isNumeralChar_head blank unit?)
    (isNumeralChar_head otherBlank otherUnit?) same
  obtain ⟨rfl, units⟩ := append_inj_of_class blank otherBlank (letters unit?) (letters otherUnit?)
    tails
  obtain rfl := numeral.unique otherNumeral
  obtain rfl := TimeUnit.letters_injective units
  rfl

/-! ### Texts and options -/

/-- A text is read as a duration exactly if it has a reading of that duration. -/
theorem parse?_eq_some_iff_exists_reading {raw : String} :
    parse? raw = some duration ↔
      ∃ reading : Reading, reading.IsOf (trimChars raw.toList) ∧ reading.value = duration := by
  rw [parse?_eq_some_iff]
  constructor
  · exact Spells.exists_reading
  · rintro ⟨reading, reads, rfl⟩
    exact reads.spells

/-- A text without a reading is no duration. -/
theorem parse?_eq_none_iff {raw : String} :
    parse? raw = none ↔ ∀ reading : Reading, ¬ reading.IsOf (trimChars raw.toList) := by
  simp only [Option.eq_none_iff_forall_ne_some, ne_eq, parse?_eq_some_iff_exists_reading]
  exact ⟨fun none reading reads => none _ ⟨reading, reads, rfl⟩,
    fun none _ ⟨reading, reads, _⟩ => none reading reads⟩

end Duration

namespace Options

variable {options : OptionMap} {key value : String} {default : Duration}

/-- An option of durations has what its text is read as, and a text that is none is an error with
its key. -/
theorem duration_of_get? (found : get? options key = some value) :
    (∀ result, Duration.parse? value = some result →
      Options.duration options key default = .ok result) ∧
    (Duration.parse? value = none → Options.duration options key default =
      .error (.configuration
        ("invalid value '" ++ value ++ "' for option '" ++ key ++ "': expected a duration"))) := by
  unfold Options.duration parsed
  rw [found]
  constructor
  · intro result read
    simp only [read]
  · intro unread
    simp only [unread, invalid, String.append_assoc]
    rfl

end Options

/-- **Durations are read exactly.** A text is read as a duration exactly if it has, without the
blanks at its ends, a reading of that duration: a numeral below 2⁶⁴ with a unit that blanks may part
from it, or a numeral alone, which counts seconds; of a count of minutes the seconds are below 2⁶⁴
as well. A text has one reading at most, a text without one is no duration, and an option with such
a text is an error of the configuration that names its key. -/
theorem Duration.durations_exact :
    (∀ (raw : String) (duration : Duration), parse? raw = some duration ↔
      ∃ reading : Reading, reading.IsOf (trimChars raw.toList) ∧ reading.value = duration) ∧
    (∀ (cs : List Char) (one other : Reading), one.IsOf cs → other.IsOf cs → one = other) ∧
    (∀ raw : String, parse? raw = none ↔
      ∀ reading : Reading, ¬ reading.IsOf (trimChars raw.toList)) ∧
    ∀ (options : Options.OptionMap) (key value : String) (default : Duration),
      Options.get? options key = some value →
        (∀ duration, parse? value = some duration →
          Options.duration options key default = .ok duration) ∧
        (parse? value = none → Options.duration options key default =
          .error (.configuration
            ("invalid value '" ++ value ++ "' for option '" ++ key ++ "': expected a duration"))) :=
  ⟨fun _ _ => parse?_eq_some_iff_exists_reading, fun _ _ _ reads also => reads.unique also,
    fun _ => parse?_eq_none_iff, fun _ _ _ _ found => Options.duration_of_get? found⟩

/-- The largest count of milliseconds and the largest count of minutes are read in one way; one
minute more is no duration, although its count is a word. -/
theorem Duration.durations_exact_largest :
    (∃ reading : Reading, reading.IsOf (trimChars "\t+18446744073709551615\u3000ms ".toList) ∧
      reading.value = ⟨18446744073709551615⟩ ∧
      ∀ other : Reading, other.IsOf (trimChars "\t+18446744073709551615\u3000ms ".toList) →
        other = reading) ∧
    (∃ reading : Reading, reading.IsOf (trimChars "307445734561825860m".toList) ∧
      reading.value = ⟨18446744073709551600000⟩) ∧
    (∀ reading : Reading, ¬ reading.IsOf (trimChars "307445734561825861m".toList)) ∧
    Options.get? [("connecttimeout", " 307445734561825861m")] "ConnectTimeout" =
      some "307445734561825861m" ∧
    Options.duration [("connecttimeout", " 307445734561825861m")] "ConnectTimeout" (.seconds 5) =
      .error (.configuration
        "invalid value '307445734561825861m' for option 'ConnectTimeout': expected a duration") := by
  obtain ⟨exact, unique, none, options⟩ := durations_exact
  obtain ⟨reading, reads, value⟩ :=
    (exact "\t+18446744073709551615\u3000ms " ⟨18446744073709551615⟩).mp rfl
  have refused := (options [("connecttimeout", " 307445734561825861m")] "ConnectTimeout"
    "307445734561825861m" (.seconds 5) rfl).2 rfl
  exact ⟨⟨reading, reads, value, fun other also => unique _ other reading also reads⟩,
    (exact "307445734561825860m" ⟨18446744073709551600000⟩).mp rfl,
    (none "307445734561825861m").mp rfl, rfl, refused⟩

end MessageBus

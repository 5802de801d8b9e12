/-
**Pairs of options.** What a text of `Key=Value` pairs stands for.

* `Puts`, `IsStray` — a piece between two commas puts a value under a key, is blank, or is neither.
* `addOptionPair_of_puts`, `addOptionPair_of_stray` — what one piece does to a map; the blanks
  around the piece and around its parts make no difference.
* `mem_foldlM_iff` — **each key has the value of the last piece that puts one under it**.
* `foldlM_eq_error_iff` — **the first stray piece is the error**.
* `Written`, `foldlM_of_written` — pairs as they may be written, and **the map that comes back**.
-/

import MessageBus.Config.Environment
import MessageBus.Proofs.Text.Trimming
import Mathlib.Data.List.Nodup

namespace MessageBus

open Options (OptionMap)
open Text (AreBlank IsTrim trimChars)

variable {options : OptionMap} {key value : String} {piece before behind : List Char}
  {pieces : List (List Char)}

/-! ### Pieces -/

/-- The pieces of a text between its commas. -/
def optionPieces (raw : String) : List (List Char) :=
  raw.toList.splitOn ','

/-- A piece puts a value under a key: they are the trimmed texts before and behind its first equals
sign. -/
def Puts (piece : List Char) (key value : String) : Prop :=
  ∃ before behind, piece = before ++ '=' :: behind ∧ '=' ∉ before ∧
    key = String.ofList (trimChars before) ∧ value = String.ofList (trimChars behind)

/-- A piece that is not blank and has no equals sign. -/
def IsStray (piece : List Char) : Prop :=
  ¬ AreBlank piece ∧ '=' ∉ piece

/-- The error for a stray piece. -/
def strayError (piece : List Char) : BusError :=
  .configuration ("option '" ++ String.ofList (trimChars piece) ++ "' is not in Key=Value form")

/-- The last of some pieces that puts a value under a key puts this one. -/
def LastPuts (pieces : List (List Char)) (key value : String) : Prop :=
  ∃ front piece back, pieces = front ++ piece :: back ∧ Puts piece key value ∧
    ∀ later ∈ back, ∀ other, ¬ Puts later key other

/-- The first stray piece. -/
def FirstStray (pieces : List (List Char)) (piece : List Char) : Prop :=
  ∃ front back, pieces = front ++ piece :: back ∧ (∀ earlier ∈ front, ¬ IsStray earlier) ∧
    IsStray piece

/-- Every piece is blank, a pair, or stray. -/
theorem piece_cases (piece : List Char) :
    AreBlank piece ∨ (∃ key value, Puts piece key value) ∨ IsStray piece := by
  by_cases equals : '=' ∈ piece
  · obtain ⟨before, behind, whole, plain⟩ := List.eq_append_cons_of_mem equals
    exact .inr (.inl ⟨_, _, before, behind, whole, plain, rfl, rfl⟩)
  · by_cases blank : AreBlank piece
    · exact .inl blank
    · exact .inr (.inr ⟨blank, equals⟩)

theorem Puts.mem (puts : Puts piece key value) : '=' ∈ piece := by
  obtain ⟨before, behind, rfl, -⟩ := puts
  simp

/-- What stands before the first equals sign, and what stands behind it. -/
theorem span_equals (plain : '=' ∉ before) :
    (before ++ '=' :: behind).takeWhile (· != '=') = before ∧
      (before ++ '=' :: behind).dropWhile (· != '=') = '=' :: behind := by
  have passed : ∀ c ∈ before, (c != '=') = true := by
    intro c member
    simp only [bne_iff_ne, ne_eq]
    rintro rfl
    exact plain member
  rw [List.takeWhile_append_of_pos passed, List.dropWhile_append_of_pos passed]
  simp

/-- A piece puts one value under one key. -/
theorem Puts.unique {otherKey otherValue : String} (puts : Puts piece key value)
    (other : Puts piece otherKey otherValue) : otherKey = key ∧ otherValue = value := by
  obtain ⟨before, behind, rfl, plain, rfl, rfl⟩ := puts
  obtain ⟨front, back, same, otherPlain, rfl, rfl⟩ := other
  have first := @span_equals front back otherPlain
  rw [← same, (span_equals plain).1, (span_equals plain).2] at first
  obtain ⟨rfl, rest⟩ := first
  cases rest
  exact ⟨rfl, rfl⟩

/-! ### One piece -/

theorem addOptionPair_of_blank (blank : AreBlank piece) :
    addOptionPair options piece = .ok options := by
  rw [addOptionPair, Text.trimChars_eq_nil_iff.mpr blank]
  rfl

/-- A pair is put into the map. -/
theorem addOptionPair_of_puts (puts : Puts piece key value) :
    addOptionPair options piece = .ok (Options.put options key value) := by
  obtain ⟨front, back, whole, leading, trailing⟩ := Text.exists_parts piece
  -- The equals sign is no blank, so trimming keeps it.
  have equals : '=' ∈ trimChars piece := by
    have inside := puts.mem
    rw [whole] at inside
    simpa [leading.notMem (c := '=') (by decide),
      trailing.notMem (c := '=') (by decide)] using inside
  obtain ⟨before, behind, pair, plain⟩ := List.eq_append_cons_of_mem equals
  have own : Puts piece (String.ofList (trimChars before)) (String.ofList (trimChars behind)) := by
    refine ⟨front ++ before, behind ++ back, ?_, ?_, ?_, ?_⟩
    · rw [whole, pair]
      simp only [List.append_assoc, List.cons_append]
    · simpa [plain] using leading.notMem (by decide)
    · have same := @Text.trimChars_between front before [] leading Text.areBlank_nil
      rw [List.append_nil] at same
      rw [same]
    · have same := @Text.trimChars_between [] behind back Text.areBlank_nil trailing
      rw [List.nil_append] at same
      rw [same]
  obtain ⟨rfl, rfl⟩ := puts.unique own
  have some : (trimChars piece).isEmpty = false := by rw [pair]; cases before <;> rfl
  simp only [addOptionPair, some, equals, if_true, Bool.false_eq_true, if_false]
  rw [pair, (span_equals plain).1, (span_equals plain).2, List.drop_succ_cons, List.drop_zero]

/-- A stray piece is quoted. -/
theorem addOptionPair_of_stray (stray : IsStray piece) :
    addOptionPair options piece = .error (strayError piece) := by
  obtain ⟨filled, plain⟩ := stray
  have some : (trimChars piece).isEmpty = false := by
    rw [List.isEmpty_eq_false_iff]
    exact mt Text.trimChars_eq_nil_iff.mp filled
  have absent : '=' ∉ trimChars piece := by
    obtain ⟨front, back, whole, -⟩ := Text.exists_parts piece
    rw [whole] at plain
    exact fun member => plain (by simp [member])
  simp only [addOptionPair, some, absent, if_false, Bool.false_eq_true]
  rfl

/-! ### Putting into a map -/

namespace Options

theorem any_key_iff :
    (options.any fun entry => entry.1 == key) = true ↔ key ∈ options.map Prod.fst := by
  simp [List.any_eq_true]

/-- The keys after a put. -/
theorem keys_put (options : OptionMap) (key value : String) :
    (put options key value).map Prod.fst =
      if key ∈ options.map Prod.fst then options.map Prod.fst else options.map Prod.fst ++ [key] := by
  unfold put
  by_cases present : key ∈ options.map Prod.fst
  · rw [if_pos (any_key_iff.mpr present), if_pos present, List.map_map]
    refine List.map_congr_left fun entry _ => ?_
    by_cases same : entry.1 = key <;> simp [same]
  · rw [if_neg (mt any_key_iff.mp present), if_neg present, List.map_append]
    rfl

/-- No key stands twice after a put. -/
theorem nodup_put (nodup : (options.map Prod.fst).Nodup) :
    ((put options key value).map Prod.fst).Nodup := by
  rw [keys_put]
  split
  · exact nodup
  · rename_i absent
    exact List.nodup_append.mpr ⟨nodup, List.nodup_singleton key, fun one member other last =>
      fun same => absent (List.mem_singleton.mp last ▸ same ▸ member)⟩

/-- After a put, the key has the value, and the others keep theirs. -/
theorem mem_put_iff {other text : String} :
    (other, text) ∈ put options key value ↔
      other = key ∧ text = value ∨ other ≠ key ∧ (other, text) ∈ options := by
  unfold put
  by_cases present : key ∈ options.map Prod.fst
  · rw [if_pos (any_key_iff.mpr present), List.mem_map]
    constructor
    · rintro ⟨entry, member, same⟩
      by_cases found : entry.1 = key
      · rw [if_pos (beq_iff_eq.mpr found)] at same
        cases same
        exact .inl ⟨rfl, rfl⟩
      · rw [if_neg (by simpa using found)] at same
        exact .inr ⟨by rwa [same] at found, same ▸ member⟩
    · rintro (⟨rfl, rfl⟩ | ⟨apart, member⟩)
      · obtain ⟨entry, member, same⟩ := List.mem_map.mp present
        exact ⟨entry, member, if_pos (beq_iff_eq.mpr same)⟩
      · exact ⟨_, member, if_neg (by simpa using apart)⟩
  · rw [if_neg (mt any_key_iff.mp present), List.mem_append, List.mem_singleton, Prod.mk.injEq]
    constructor
    · rintro (member | same)
      · refine .inr ⟨?_, member⟩
        rintro rfl
        exact present (List.mem_map_of_mem member)
      · exact .inl same
    · rintro (same | ⟨-, member⟩)
      · exact .inr same
      · exact .inl member

end Options

/-! ### All pieces -/

/-- One more piece decides about its own key alone. -/
theorem lastPuts_concat :
    LastPuts (pieces ++ [piece]) key value ↔
      Puts piece key value ∨ (∀ other, ¬ Puts piece key other) ∧ LastPuts pieces key value := by
  constructor
  · rintro ⟨front, last, back, whole, puts, silent⟩
    rcases List.eq_nil_or_concat' back with rfl | ⟨back, latest, rfl⟩
    · obtain ⟨-, same⟩ := List.append_inj' whole rfl
      cases same
      exact .inl puts
    · rw [← List.cons_append, ← List.append_assoc] at whole
      obtain ⟨earlier, same⟩ := List.append_inj' whole rfl
      cases same
      exact .inr ⟨silent _ List.mem_concat_self, front, last, back, earlier, puts,
        fun later member => silent later (List.mem_append_left _ member)⟩
  · rintro (puts | ⟨quiet, front, last, back, rfl, puts, silent⟩)
    · exact ⟨pieces, piece, [], rfl, puts, nofun⟩
    · refine ⟨front, last, back ++ [piece], by simp, puts, ?_⟩
      exact List.forall_mem_append.mpr ⟨silent, List.forall_mem_singleton.mpr quiet⟩

theorem foldlM_concat (pieces : List (List Char)) (piece : List Char) (start : OptionMap) :
    (pieces ++ [piece]).foldlM addOptionPair start =
      pieces.foldlM addOptionPair start >>= fun options => addOptionPair options piece := by
  rw [List.foldlM_append]
  simp only [List.foldlM_cons, List.foldlM_nil, bind_pure]

/-- **Each key has the value of the last piece that puts one under it**, and no other key stands in
the map. -/
theorem mem_foldlM_iff (read : pieces.foldlM addOptionPair [] = .ok options) :
    (options.map Prod.fst).Nodup ∧
      ∀ key value, (key, value) ∈ options ↔ LastPuts pieces key value := by
  induction pieces using List.reverseRecOn generalizing options with
  | nil =>
    cases read
    exact ⟨List.nodup_nil, fun key value => by simp [LastPuts]⟩
  | append_singleton pieces piece ih =>
    rw [foldlM_concat] at read
    cases earlier : pieces.foldlM addOptionPair [] with
    | error error => rw [earlier] at read; cases read
    | ok start =>
      obtain ⟨nodup, held⟩ := ih earlier
      rw [earlier] at read
      change addOptionPair start piece = .ok options at read
      simp only [lastPuts_concat]
      rcases piece_cases piece with blank | ⟨own, text, puts⟩ | stray
      · rw [addOptionPair_of_blank blank] at read
        cases read
        have silent : ∀ key value, ¬ Puts piece key value := fun _ _ puts =>
          blank.notMem (by decide) puts.mem
        exact ⟨nodup, fun key value => by simp [silent, held]⟩
      · rw [addOptionPair_of_puts puts] at read
        cases read
        refine ⟨Options.nodup_put nodup, fun key value => ?_⟩
        have iff : ∀ key value, Puts piece key value ↔ key = own ∧ value = text := fun key value =>
          ⟨puts.unique, fun ⟨sameKey, sameValue⟩ => sameKey ▸ sameValue ▸ puts⟩
        rw [Options.mem_put_iff, held]
        simp [iff]
      · rw [addOptionPair_of_stray stray] at read
        cases read

theorem firstStray_cons {first : List Char} :
    FirstStray (first :: pieces) piece ↔
      IsStray first ∧ piece = first ∨ ¬ IsStray first ∧ FirstStray pieces piece := by
  constructor
  · rintro ⟨_ | ⟨c, front⟩, back, whole, plain, stray⟩
    · cases whole
      exact .inl ⟨stray, rfl⟩
    · cases whole
      obtain ⟨first, others⟩ := List.forall_mem_cons.mp plain
      exact .inr ⟨first, front, back, rfl, others, stray⟩
  · rintro (⟨stray, rfl⟩ | ⟨plain, front, back, rfl, others, stray⟩)
    · exact ⟨[], pieces, rfl, nofun, stray⟩
    · exact ⟨first :: front, back, rfl, List.forall_mem_cons.mpr ⟨plain, others⟩, stray⟩

/-- **The first stray piece is the error.** -/
theorem foldlM_eq_error_iff {error : BusError} :
    pieces.foldlM addOptionPair options = .error error ↔
      ∃ piece, FirstStray pieces piece ∧ error = strayError piece := by
  induction pieces generalizing options with
  | nil =>
    refine iff_of_false nofun ?_
    rintro ⟨piece, ⟨front, back, whole, -⟩, -⟩
    simp at whole
  | cons first rest ih =>
    simp only [List.foldlM_cons, firstStray_cons]
    rcases piece_cases first with blank | ⟨key, value, puts⟩ | stray
    · have plain : ¬ IsStray first := fun stray => stray.1 blank
      simp only [plain, false_and, not_false_eq_true, true_and, false_or]
      rw [addOptionPair_of_blank blank]
      exact ih
    · have plain : ¬ IsStray first := fun stray => stray.2 puts.mem
      simp only [plain, false_and, not_false_eq_true, true_and, false_or]
      rw [addOptionPair_of_puts puts]
      exact ih
    · simp only [stray, true_and, not_true_eq_false, false_and, or_false, exists_eq_left]
      rw [addOptionPair_of_stray stray]
      exact ⟨fun same => (Except.error.inj same).symm, fun same => congrArg _ same.symm⟩

/-- Where there are stray pieces, one is the first. -/
theorem exists_firstStray_iff :
    (∃ piece, FirstStray pieces piece) ↔ ∃ piece ∈ pieces, IsStray piece := by
  induction pieces with
  | nil => simp [FirstStray]
  | cons first rest ih =>
    by_cases stray : IsStray first
    · simp [firstStray_cons, stray]
    · simp [firstStray_cons, stray, ih]

/-- **Pieces are read exactly if none of them is stray.** -/
theorem exists_foldlM_iff :
    (∃ read, pieces.foldlM addOptionPair options = .ok read) ↔
      ∀ piece ∈ pieces, ¬ IsStray piece := by
  have failed : (∃ error, pieces.foldlM addOptionPair options = .error error) ↔
      ∃ piece ∈ pieces, IsStray piece := by
    simp only [foldlM_eq_error_iff, ← exists_firstStray_iff]
    exact ⟨fun ⟨_, piece, first, _⟩ => ⟨piece, first⟩, fun ⟨piece, first⟩ => ⟨_, piece, first, rfl⟩⟩
  have none : (∀ piece ∈ pieces, ¬ IsStray piece) ↔ ¬ ∃ piece ∈ pieces, IsStray piece := by
    simp only [not_exists, not_and]
  rw [none, ← failed]
  cases pieces.foldlM addOptionPair options <;> simp

/-! ### Written pairs -/

/-- The pieces in which pairs are written one after another. Blanks may stand around each key and
each value, and pieces of blanks alone in any place. -/
inductive Written : OptionMap → List (List Char) → Prop
  | nil : Written [] []
  | blank {order : OptionMap} {pieces : List (List Char)} {piece : List Char}
      (blank : AreBlank piece) (rest : Written order pieces) : Written order (piece :: pieces)
  | pair {order : OptionMap} {pieces : List (List Char)} {key value : String}
      {leading gap space trailing : List Char} (blankLeading : AreBlank leading)
      (blankGap : AreBlank gap) (blankSpace : AreBlank space) (blankTrailing : AreBlank trailing)
      (rest : Written order pieces) :
      Written ((key, value) :: order)
        ((leading ++ key.toList ++ gap ++ '=' :: (space ++ value.toList ++ trailing)) :: pieces)

/-- A pair that can be written: neither part has a comma or blanks at its ends, and the key has no
equals sign. -/
structure IsWritable (entry : String × String) : Prop where
  plainKey : ',' ∉ entry.1.toList ∧ '=' ∉ entry.1.toList
  plainValue : ',' ∉ entry.2.toList
  trimKey : IsTrim entry.1.toList
  trimValue : IsTrim entry.2.toList

/-- What is written holds no comma within its pieces. -/
theorem Written.plain {order : OptionMap} (written : Written order pieces)
    (writable : ∀ entry ∈ order, IsWritable entry) : ∀ piece ∈ pieces, ',' ∉ piece := by
  have comma : ∀ {blanks : List Char}, AreBlank blanks → ',' ∉ blanks := fun blank =>
    blank.notMem (by decide)
  induction written with
  | nil => nofun
  | blank blank rest ih => exact List.forall_mem_cons.mpr ⟨comma blank, ih writable⟩
  | pair blankLeading blankGap blankSpace blankTrailing rest ih =>
    obtain ⟨first, others⟩ := List.forall_mem_cons.mp writable
    refine List.forall_mem_cons.mpr ⟨?_, ih others⟩
    simp [comma blankLeading, comma blankGap, comma blankSpace, comma blankTrailing,
      first.plainKey.1, first.plainValue]

/-- A written pair puts its value under its key. -/
theorem puts_of_written {leading gap space trailing : List Char} (writable : IsWritable (key, value))
    (blankLeading : AreBlank leading) (blankGap : AreBlank gap) (blankSpace : AreBlank space)
    (blankTrailing : AreBlank trailing) :
    Puts (leading ++ key.toList ++ gap ++ '=' :: (space ++ value.toList ++ trailing)) key value := by
  refine ⟨leading ++ key.toList ++ gap, space ++ value.toList ++ trailing, rfl, ?_, ?_, ?_⟩
  · simp [blankLeading.notMem (c := '=') (by decide),
      blankGap.notMem (c := '=') (by decide), writable.plainKey.2]
  · rw [Text.trimChars_of_parts writable.trimKey blankLeading blankGap, String.ofList_toList]
  · rw [Text.trimChars_of_parts writable.trimValue blankSpace blankTrailing, String.ofList_toList]

/-- **Written pairs are added in order** to a map without their keys. -/
theorem foldlM_of_written {order : OptionMap} (written : Written order pieces)
    (writable : ∀ entry ∈ order, IsWritable entry)
    (nodup : ((options ++ order).map Prod.fst).Nodup) :
    pieces.foldlM addOptionPair options = .ok (options ++ order) := by
  induction written generalizing options with
  | nil => rw [List.append_nil]; rfl
  | blank blank rest ih =>
    rw [List.foldlM_cons, addOptionPair_of_blank blank]
    exact ih writable nodup
  | @pair order pieces key value _ _ _ _ blankLeading blankGap blankSpace blankTrailing rest ih =>
    obtain ⟨first, others⟩ := List.forall_mem_cons.mp writable
    have fresh : key ∉ options.map Prod.fst := by
      rw [List.map_append, List.nodup_append] at nodup
      exact fun member => nodup.2.2 key member key (by simp) rfl
    have grown : Options.put options key value = options ++ [(key, value)] := by
      rw [Options.put, if_neg (mt Options.any_key_iff.mp fresh)]
    rw [List.foldlM_cons, addOptionPair_of_puts
      (puts_of_written first blankLeading blankGap blankSpace blankTrailing), grown]
    rw [List.append_cons options (key, value) order] at nodup ⊢
    exact ih others nodup

/-- **Pairs come back from their text**, in the order in which they are written. -/
theorem parseOptionPairs_of_written {order : OptionMap} {raw : String}
    (written : Written order pieces) (writable : ∀ entry ∈ order, IsWritable entry)
    (nodup : (order.map Prod.fst).Nodup) (joined : raw.toList = [','].intercalate pieces) :
    parseOptionPairs raw = .ok order := by
  rw [parseOptionPairs, joined]
  by_cases some : pieces = []
  · subst some
    cases written
    rfl
  · rw [List.splitOn_intercalate ',' (written.plain writable) some]
    exact foldlM_of_written written writable nodup

/-- **A text of option pairs is read by exactly its grammar.** It is read exactly if every piece
between commas that is not blank has an equals sign. Then each key has the value of the last piece
that puts one under it, and there are no other keys; otherwise the first stray piece is quoted. And
a map whose pairs can be written comes back from its text, whatever their order and whatever blanks
and blank pieces stand between them. -/
theorem optionPairs_exact :
    (∀ raw : String,
      ((∃ options, parseOptionPairs raw = .ok options) ↔
        ∀ piece ∈ optionPieces raw, ¬ AreBlank piece → '=' ∈ piece) ∧
      (∀ options, parseOptionPairs raw = .ok options →
        (options.map Prod.fst).Nodup ∧
          ∀ key value, (key, value) ∈ options ↔ LastPuts (optionPieces raw) key value) ∧
      ∀ error, parseOptionPairs raw = .error error ↔
        ∃ piece, FirstStray (optionPieces raw) piece ∧
          error = .configuration
            ("option '" ++ String.ofList (trimChars piece) ++ "' is not in Key=Value form")) ∧
    ∀ (options order : OptionMap) (pieces : List (List Char)) (raw : String),
      (options.map Prod.fst).Nodup → (∀ entry ∈ options, IsWritable entry) → options.Perm order →
        Written order pieces → raw.toList = [','].intercalate pieces →
          ∃ read, parseOptionPairs raw = .ok read ∧ read.Perm options := by
  refine ⟨fun raw => ⟨?_, fun options read => mem_foldlM_iff read,
    fun error => foldlM_eq_error_iff⟩, ?_⟩
  · rw [parseOptionPairs, exists_foldlM_iff]
    refine forall₂_congr fun piece _ => ?_
    rw [IsStray, not_and, not_not]
  · intro options order pieces raw nodup writable perm written joined
    refine ⟨order, parseOptionPairs_of_written written ?_ ?_ joined, perm.symm⟩
    · exact fun entry member => writable entry (perm.mem_iff.mpr member)
    · exact (perm.map Prod.fst).nodup_iff.mp nodup

/-- Of two pairs with one key the later one counts, an equals sign in a value stays, a pair may be
empty on both sides, and ideographic blanks are blanks. -/
theorem optionPairs_exact_padded :
    let options := [("", ""), ("Mode", "a=b")]
    (∀ value, LastPuts (optionPieces "Qos=1,,Qos = 2=3 ") "Qos" value ↔ value = "2=3") ∧
      FirstStray (optionPieces "=, Qos\t,Mode") " Qos\t".toList ∧
      parseOptionPairs "=, Qos\t,Mode" =
        .error (.configuration "option 'Qos' is not in Key=Value form") ∧
      (options.map Prod.fst).Nodup ∧ (∀ entry ∈ options, IsWritable entry) ∧
      ∃ read, parseOptionPairs "\u3000Mode = a=b,, =" = .ok read ∧ read.Perm options := by
  intro options
  obtain ⟨exact, back⟩ := optionPairs_exact
  obtain ⟨-, held, -⟩ := exact "Qos=1,,Qos = 2=3 "
  obtain ⟨-, -, failed⟩ := exact "=, Qos\t,Mode"
  have nodup : (options.map Prod.fst).Nodup := by decide
  have writable : ∀ entry ∈ options, IsWritable entry := by
    intro entry member
    obtain rfl | rfl : entry = ("", "") ∨ entry = ("Mode", "a=b") := by simpa [options] using member
    all_goals exact ⟨by decide, by decide, by decide, by decide⟩
  have stray : FirstStray (optionPieces "=, Qos\t,Mode") " Qos\t".toList :=
    ⟨[['=']], ["Mode".toList], rfl, by simp [IsStray], by decide, by decide⟩
  have empty : Written [("", "")] [" =".toList] :=
    @Written.pair [] [] "" "" [] [' '] [] [] (by decide) (by decide) (by decide) (by decide) .nil
  have written : Written options.reverse ["\u3000Mode = a=b".toList, [], " =".toList] :=
    @Written.pair [("", "")] _ "Mode" "a=b" ['\u3000'] [' '] [' '] [] (by decide) (by decide)
      (by decide) (by decide) (.blank (by decide) empty)
  refine ⟨fun value => ?_, stray, (failed _).mpr ⟨_, stray, rfl⟩, nodup, writable,
    back options _ _ _ nodup writable (List.reverse_perm _).symm written rfl⟩
  rw [← (held [("Qos", "2=3")] rfl).2]
  simp

end MessageBus

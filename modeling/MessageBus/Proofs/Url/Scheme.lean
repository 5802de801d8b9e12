/-
**The scheme of a URL.** Which scheme a text in front of a colon names, with blanks around it.

* `clean_of_last` — at the end of a URL that ends with a visible character nothing is dropped.
* `IsReadable` — a text that holds a name, with blanks in front of it only where a URL drops them at
  its start and behind it only where a URL drops them anywhere.
* `splitScheme?_of_isReadable` — **a readable text names its scheme**, whatever the blanks;
  `splitScheme?_of_not_isReadable` — **any other one names none**, if it is a name of letters with
  blanks around it.
-/

import MessageBus.Proofs.Text.Lowercase
import MessageBus.Proofs.Text.Trimming
import MessageBus.Url

namespace MessageBus.Url

open MessageBus.Text

variable {cs name text rest : List Char} {c : Char}

/-! ### Cleaning -/

/-- Controls and the blank of ASCII, which are dropped at the ends of a URL. -/
def isMargin (c : Char) : Bool :=
  decide (c.toNat ≤ 32)

/-- Tabs and line ends, which are dropped anywhere in a URL. -/
def isBreak (c : Char) : Bool :=
  c == '\t' || c == '\n' || c == '\r'

theorem clean_eq (cs : List Char) :
    clean cs = (trimWhere isMargin cs).filter fun c => !isBreak c := rfl

/-- At the end of a URL that ends with a visible character nothing is dropped. -/
theorem clean_of_last (visible : isMargin c = false) :
    clean (cs ++ [c]) = ((cs ++ [c]).dropWhile isMargin).filter fun c => !isBreak c := by
  have kept : ∃ front, (cs ++ [c]).dropWhile isMargin = front ++ [c] := by
    rw [List.dropWhile_append]
    split
    · exact ⟨[], by rw [List.dropWhile_cons_of_neg (by simp [visible])]; rfl⟩
    · exact ⟨_, rfl⟩
  obtain ⟨front, ends⟩ := kept
  rw [clean_eq, trimWhere, ends, trimEndWhere_append_singleton, visible]
  rfl

/-! ### Kinds of characters -/

theorem code_of_isLetter (letter : isLetter c = true) : 65 ≤ c.toNat ∧ c.toNat ≤ 122 := by
  simp only [isLetter, Bool.or_eq_true, Bool.and_eq_true, decide_eq_true_eq, Char.le_def,
    UInt32.le_iff_toNat_le] at letter
  change (97 ≤ c.toNat ∧ c.toNat ≤ 122) ∨ 65 ≤ c.toNat ∧ c.toNat ≤ 90 at letter
  omega

theorem isMargin_of_isLetter (letter : isLetter c = true) : isMargin c = false := by
  have code := code_of_isLetter letter
  exact decide_eq_false (by omega)

theorem isBreak_of_isLetter (letter : isLetter c = true) : isBreak c = false := by
  have code := code_of_isLetter letter
  unfold isBreak
  simp only [Bool.or_eq_false_iff, beq_eq_false_iff_ne]
  refine ⟨⟨?_, ?_⟩, ?_⟩ <;> rintro rfl <;> exact absurd code (by decide)

theorem isMargin_of_isBreak (breaks : isBreak c = true) : isMargin c = true := by
  unfold isBreak at breaks
  simp only [Bool.or_eq_true, beq_iff_eq] at breaks
  obtain (rfl | rfl) | rfl := breaks <;> decide

theorem isSchemeChar_of_isLetter (letter : isLetter c = true) : isSchemeChar c = true := by
  simp [isSchemeChar, letter]

theorem code_of_isSchemeChar (scheme : isSchemeChar c = true) : 43 ≤ c.toNat ∧ c.toNat ≤ 122 := by
  simp only [isSchemeChar, Bool.or_eq_true, Bool.and_eq_true, decide_eq_true_eq, Char.le_def,
    UInt32.le_iff_toNat_le, beq_iff_eq] at scheme
  obtain (((letter | digit) | rfl) | rfl) | rfl := scheme
  · have code := code_of_isLetter letter
    omega
  · change 48 ≤ c.toNat ∧ c.toNat ≤ 57 at digit
    omega
  all_goals decide

theorem code_of_isBlank (blank : isBlank c = true) : c.toNat ≤ 32 ∨ 133 ≤ c.toNat := by
  simp only [isBlank, Bool.or_eq_true, Bool.and_eq_true, decide_eq_true_eq, beq_iff_eq] at blank
  omega

/-- No blank is part of a scheme. -/
theorem isSchemeChar_of_isBlank (blank : isBlank c = true) : isSchemeChar c = false := by
  by_contra scheme
  have code := code_of_isSchemeChar (Bool.not_eq_false _ ▸ scheme)
  have outside := code_of_isBlank blank
  omega

theorem isLetter_of_isBlank (blank : isBlank c = true) : isLetter c = false := by
  by_contra letter
  have scheme := isSchemeChar_of_isLetter (Bool.not_eq_false _ ▸ letter)
  rw [isSchemeChar_of_isBlank blank] at scheme
  cases scheme

/-- A plain letter in either case is a letter. -/
theorem isLetter_of_asciiLower (plain : asciiLower c ∈ plainLetters) : isLetter c = true :=
  of_asciiLower (P := fun c => isLetter c = true) (by decide +kernel) plain

/-! ### Splitting the scheme off -/

theorem splitScheme?_of_head (strange : ∀ c ∈ cs.head?, isLetter c = false) :
    splitScheme? cs = none := by
  cases cs with
  | nil => rfl
  | cons c cs =>
    rw [splitScheme?, strange c rfl]
    rfl

/-- A name of letters is a scheme if a colon follows it. -/
theorem splitScheme?_of_name (letters : ∀ c ∈ name, isLetter c = true) (filled : name ≠ [])
    (outside : isSchemeChar c = false) :
    splitScheme? (name ++ c :: rest) = if c = ':' then some (name.map lower, rest) else none := by
  have inside : ∀ c ∈ name, isSchemeChar c = true := fun c member =>
    isSchemeChar_of_isLetter (letters c member)
  have taken : (name ++ c :: rest).takeWhile isSchemeChar = name := by
    rw [List.takeWhile_append_of_pos inside, List.takeWhile_cons_of_neg (by simp [outside]),
      List.append_nil]
  have left : (name ++ c :: rest).dropWhile isSchemeChar = c :: rest := by
    rw [List.dropWhile_append_of_pos inside, List.dropWhile_cons_of_neg (by simp [outside])]
  obtain ⟨first, others, rfl⟩ := List.exists_cons_of_ne_nil filled
  rw [List.cons_append] at taken left ⊢
  rw [splitScheme?, if_pos (letters first List.mem_cons_self), taken, left]
  split
  case h_1 same =>
    obtain ⟨rfl, rfl⟩ := List.cons.inj same
    rw [if_pos rfl]
  case h_2 other =>
    rw [if_neg]
    rintro rfl
    exact other rest rfl

/-! ### Blanks around a scheme -/

/-- A text that holds a name, with blanks in front of it only where a URL drops them at its start
and behind it only where a URL drops them anywhere. -/
def IsReadable (text : List Char) : Prop :=
  ∃ front back, text = front ++ trimChars text ++ back ∧ AreBlank front ∧ AreBlank back ∧
    trimChars text ≠ [] ∧ (∀ c ∈ front, isMargin c = true) ∧ ∀ c ∈ back, isBreak c = true

/-- Cleaning drops what stands in front of a name, and the name stays. -/
theorem clean_of_margin {front : List Char} (margin : ∀ c ∈ front, isMargin c = true)
    (letters : ∀ c ∈ name, isLetter c = true) (filled : name ≠ []) (visible : isMargin c = false) :
    clean (front ++ name ++ rest ++ [c]) = name ++ (rest ++ [c]).filter fun c => !isBreak c := by
  have kept : name.filter (fun c => !isBreak c) = name :=
    List.filter_eq_self.mpr fun c member => by simp [isBreak_of_isLetter (letters c member)]
  have dropped : (name ++ (rest ++ [c])).dropWhile isMargin = name ++ (rest ++ [c]) := by
    obtain ⟨first, others, rfl⟩ := List.exists_cons_of_ne_nil filled
    have shown := isMargin_of_isLetter (letters first List.mem_cons_self)
    exact List.dropWhile_cons_of_neg (by simp [shown])
  rw [clean_of_last visible, List.append_assoc, List.append_assoc,
    List.dropWhile_append_of_pos margin, dropped, List.filter_append, kept]

/-- **A readable text names its scheme**, whatever the blanks around it. -/
theorem splitScheme?_of_isReadable (letters : ∀ c ∈ trimChars text, isLetter c = true)
    (readable : IsReadable text) (visible : isMargin c = false) :
    splitScheme? (clean (text ++ ':' :: rest ++ [c])) =
      some ((trimChars text).map lower, (rest ++ [c]).filter fun c => !isBreak c) := by
  obtain ⟨front, back, whole, -, -, filled, margin, breaks⟩ := readable
  generalize trimChars text = name at letters whole filled
  have gone : back.filter (fun c => !isBreak c) = [] :=
    List.filter_eq_nil_iff.mpr fun c member => by simp [breaks c member]
  rw [whole, List.append_assoc (front ++ name), clean_of_margin margin letters filled visible,
    List.append_assoc back, List.filter_append, gone, List.nil_append, List.cons_append,
    List.filter_cons_of_pos (by decide), splitScheme?_of_name letters filled (by decide),
    if_pos rfl]

/-- Blanks that a URL does not drop at its start hide the scheme. -/
theorem splitScheme?_of_blank {front : List Char} (blank : AreBlank front)
    (shown : ¬ ∀ c ∈ front, isMargin c = true) :
    splitScheme? (((front ++ rest).dropWhile isMargin).filter fun c => !isBreak c) = none := by
  have left : front.dropWhile isMargin ≠ [] := fun none =>
    shown (List.dropWhile_eq_nil_iff.mp none)
  have head := List.head_dropWhile_not isMargin left
  obtain ⟨first, others, split⟩ := List.exists_cons_of_ne_nil left
  simp only [split, List.head_cons] at head
  have isBlank := blank first ((List.dropWhile_sublist isMargin).mem (split ▸ List.mem_cons_self))
  have kept : isBreak first = false := by
    by_contra breaks
    rw [isMargin_of_isBreak (Bool.not_eq_false _ ▸ breaks)] at head
    cases head
  rw [List.dropWhile_append, split, if_neg (by simp), List.cons_append,
    List.filter_cons_of_pos (by simp [kept])]
  refine splitScheme?_of_head fun c same => ?_
  obtain rfl := Option.some.inj same
  exact isLetter_of_isBlank isBlank

/-- **A text that is not readable names no scheme**, if it is a name of letters with blanks around
it. -/
theorem splitScheme?_of_not_isReadable (letters : ∀ c ∈ trimChars text, isLetter c = true)
    (unreadable : ¬ IsReadable text) (visible : isMargin c = false) :
    splitScheme? (clean (text ++ ':' :: rest ++ [c])) = none := by
  obtain ⟨front, back, whole, before, behind⟩ := exists_parts text
  by_cases empty : trimChars text = []
  · -- Without a name, the first character that is left is a blank or the colon.
    rw [clean_of_last visible, List.append_assoc]
    by_cases margin : ∀ c ∈ text, isMargin c = true
    · rw [List.dropWhile_append_of_pos margin]
      refine splitScheme?_of_head fun c same => ?_
      obtain rfl := Option.some.inj same
      decide
    · exact splitScheme?_of_blank (trimChars_eq_nil_iff.mp empty) margin
  by_cases margin : ∀ c ∈ front, isMargin c = true
  · -- A blank is left between the name and the colon.
    have shown : back.filter (fun c => !isBreak c) ≠ [] := fun none =>
      unreadable ⟨front, back, whole, before, behind, empty, margin, fun c member => by
        simpa using List.filter_eq_nil_iff.mp none c member⟩
    generalize trimChars text = name at letters whole empty
    obtain ⟨first, others, split⟩ := List.exists_cons_of_ne_nil shown
    have blank := behind first (List.mem_of_mem_filter (split ▸ List.mem_cons_self))
    rw [whole, List.append_assoc (front ++ name), clean_of_margin margin letters empty visible,
      List.append_assoc back, List.filter_append, split, List.cons_append,
      splitScheme?_of_name letters empty (isSchemeChar_of_isBlank blank), if_neg]
    rintro rfl
    cases blank
  · rw [clean_of_last visible, whole]
    simp only [List.append_assoc]
    exact splitScheme?_of_blank before margin

end MessageBus.Url

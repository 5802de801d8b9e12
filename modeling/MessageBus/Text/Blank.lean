/-
**Blank characters and trimming.**

* `isBlank` — the characters of the Unicode property White_Space.
* `trim` — a text without the blanks at either end; `trimEndWhere` and `trimWhere` strip any class
  of characters.
* `getLast_trimEndWhere` — what is left does not end with a stripped character;
  `trimWhere_of_none` — a text without a stripped character stays as it is.
-/

namespace MessageBus.Text

/-- The characters of the Unicode property White_Space. -/
def isBlank (c : Char) : Bool :=
  let code := c.toNat
  (0x09 ≤ code && code ≤ 0x0D) || code == 0x20 || code == 0x85 || code == 0xA0 ||
    code == 0x1680 || (0x2000 ≤ code && code ≤ 0x200A) || code == 0x2028 || code == 0x2029 ||
    code == 0x202F || code == 0x205F || code == 0x3000

/-- Strips the longest run of `p` from the end. -/
def trimEndWhere (p : Char → Bool) (cs : List Char) : List Char :=
  (cs.reverse.dropWhile p).reverse

/-- Strips the longest runs of `p` from both ends. -/
def trimWhere (p : Char → Bool) (cs : List Char) : List Char :=
  trimEndWhere p (cs.dropWhile p)

/-- Strips blanks from both ends. -/
def trimChars (cs : List Char) : List Char :=
  trimWhere isBlank cs

/-- Strips blanks from both ends of a text. -/
def trim (s : String) : String :=
  String.ofList (trimChars s.toList)

/-- A text of blanks alone, the empty text among them. -/
def isBlankText (s : String) : Bool :=
  s.toList.all isBlank

/-- A last character outside the class ends the trimming at once. -/
theorem trimEndWhere_append_singleton (p : Char → Bool) (cs : List Char) (c : Char) :
    trimEndWhere p (cs ++ [c]) = if p c then trimEndWhere p cs else cs ++ [c] := by
  by_cases h : p c <;> simp [trimEndWhere, h]

/-- The class is gone from the end of what is left. -/
theorem getLast_trimEndWhere (p : Char → Bool) (cs : List Char)
    (nonempty : trimEndWhere p cs ≠ []) :
    p ((trimEndWhere p cs).getLast nonempty) = false := by
  have left : cs.reverse.dropWhile p ≠ [] := by simpa [trimEndWhere] using nonempty
  simpa [trimEndWhere, List.getLast_reverse] using List.head_dropWhile_not p left

/-- A text without a stripped character stays as it is. -/
theorem trimWhere_of_none {p : Char → Bool} {text : List Char}
    (none : ∀ c ∈ text, p c = false) : trimWhere p text = text := by
  have front : text.dropWhile p = text := by
    cases text with
    | nil => rfl
    | cons c rest => rw [List.dropWhile_cons_of_neg (by simp [none c List.mem_cons_self])]
  have back : text.reverse.dropWhile p = text.reverse := by
    cases reversed : text.reverse with
    | nil => rfl
    | cons c rest =>
      have member : c ∈ text := List.mem_reverse.mp (reversed ▸ List.mem_cons_self)
      rw [List.dropWhile_cons_of_neg (by simp [none c member])]
  rw [trimWhere, front, trimEndWhere, back, List.reverse_reverse]

end MessageBus.Text

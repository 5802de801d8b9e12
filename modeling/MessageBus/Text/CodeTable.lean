/-
**Tables of code points.** The shapes in which data on characters is kept. All of it is that of
version 17 of the Unicode character database.

* `inRanges` — membership in closed ranges.
* `Run` — code points whose images lie at one distance from them.
* `Row` — neighbouring code points with the image of each written out.
-/

namespace MessageBus.Text

/-- Membership in a table of closed ranges. -/
def inRanges (ranges : List (Nat × Nat)) (c : Char) : Bool :=
  ranges.any fun range => range.1 ≤ c.toNat && c.toNat ≤ range.2

/-- Code points whose images lie at one distance from them: every `stride`-th one from `first` to
`last`. -/
structure Run where
  /-- The lowest code point of the run. -/
  first : Nat
  /-- The highest code point of the run. -/
  last : Nat
  /-- The step from one member to the next. -/
  stride : Nat
  /-- The image of `first`. -/
  image : Nat

/-- The image of a character that lies on the run. -/
def Run.image? (run : Run) (c : Char) : Option Char :=
  if run.first ≤ c.toNat ∧ c.toNat ≤ run.last ∧ (c.toNat - run.first) % run.stride = 0 then
    some (Char.ofNat (run.image + (c.toNat - run.first)))
  else none

/-- Neighbouring code points with the image of each. -/
structure Row where
  /-- The lowest code point of the row. -/
  first : Nat
  /-- The highest code point of the row. -/
  last : Nat
  /-- The images, separated by blanks or line ends: code points in hexadecimal, joined by `+`, or a
  dash for a character that has none. -/
  images : String

namespace Row

/-- The value of an upper-case hexadecimal digit. -/
def digitValue (c : Char) : Nat :=
  if c ≤ '9' then c.toNat - '0'.toNat else c.toNat - 'A'.toNat + 10

/-- The character of a code point in hexadecimal. -/
def character (digits : List Char) : Char :=
  Char.ofNat (digits.foldl (fun value c => value * 16 + digitValue c) 0)

/-- The characters of an image, if it is not a dash. -/
def characters? (image : List Char) : Option (List Char) :=
  if image = ['-'] then none else some ((image.splitOn '+').map character)

/-- The images of the row as they are written. -/
def words (row : Row) : List (List Char) :=
  (row.images.toList.splitOnP fun c => c = ' ' ∨ c = '\n').filter (· ≠ [])

/-- The image of a character that lies on the row, if it has one. -/
def image? (row : Row) (c : Char) : Option (List Char) :=
  if row.first ≤ c.toNat ∧ c.toNat ≤ row.last then
    row.words[c.toNat - row.first]?.bind characters?
  else none

/-- The characters of the row that have images, with these. -/
def entries (row : Row) : List (Char × List Char) :=
  row.words.zipIdx.filterMap fun (image, place) =>
    (characters? image).map fun cs => (Char.ofNat (row.first + place), cs)

end Row

end MessageBus.Text

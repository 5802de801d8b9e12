/-
**Text as bytes.** The UTF-8 form of a list of characters and the two ways back.

* `encode` — the bytes of a list of characters.
* `Piece`, `piece` — the first character of a byte list, or its first malformed piece: the longest
  start of a character that cannot be continued, at least one byte.
* `decode?` — the characters of a well-formed byte list.
* `decodeLossy` — every malformed piece gives one replacement character.
-/

namespace MessageBus.Text.Utf8

/-- The bytes of a list of characters. -/
def encode (cs : List Char) : List UInt8 :=
  cs.flatMap String.utf8EncodeChar

/-- The bytes of a text. -/
def bytes (s : String) : List UInt8 :=
  encode s.toList

/-- What a nonempty byte list starts with, and the bytes after it. -/
inductive Piece
  | char (c : Char) (rest : List UInt8)
  | malformed (rest : List UInt8)

/-- A byte that continues a character. -/
def isTail (b : UInt8) : Bool :=
  0x80 ≤ b && b ≤ 0xBF

/-- The six low bits of a continuation byte. -/
def low (b : UInt8) : Nat :=
  b.toNat % 64

/-- The second byte that may follow `first` in a character of three bytes. -/
def second3 (first b : UInt8) : Bool :=
  if first == 0xE0 then 0xA0 ≤ b && b ≤ 0xBF
  else if first == 0xED then 0x80 ≤ b && b ≤ 0x9F
  else isTail b

/-- The second byte that may follow `first` in a character of four bytes. -/
def second4 (first b : UInt8) : Bool :=
  if first == 0xF0 then 0x90 ≤ b && b ≤ 0xBF
  else if first == 0xF4 then 0x80 ≤ b && b ≤ 0x8F
  else isTail b

/-- The piece that the byte `a` starts. -/
def piece (a : UInt8) (rest : List UInt8) : Piece :=
  if a ≤ 0x7F then .char (Char.ofNat a.toNat) rest
  else if 0xC2 ≤ a && a ≤ 0xDF then
    match rest with
    | b :: rest' =>
      if isTail b then .char (Char.ofNat (a.toNat % 32 * 64 + low b)) rest' else .malformed rest
    | [] => .malformed []
  else if 0xE0 ≤ a && a ≤ 0xEF then
    match rest with
    | b :: rest' =>
      if second3 a b then
        match rest' with
        | c :: rest'' =>
          if isTail c then
            .char (Char.ofNat (a.toNat % 16 * 4096 + low b * 64 + low c)) rest''
          else .malformed rest'
        | [] => .malformed []
      else .malformed rest
    | [] => .malformed []
  else if 0xF0 ≤ a && a ≤ 0xF4 then
    match rest with
    | b :: rest' =>
      if second4 a b then
        match rest' with
        | c :: rest'' =>
          if isTail c then
            match rest'' with
            | d :: rest''' =>
              if isTail d then
                .char (Char.ofNat (a.toNat % 8 * 262144 + low b * 4096 + low c * 64 + low d))
                  rest'''
              else .malformed rest''
            | [] => .malformed []
          else .malformed rest'
        | [] => .malformed []
      else .malformed rest
    | [] => .malformed []
  else .malformed rest

/-- The bytes that a piece leaves. -/
def Piece.rest : Piece → List UInt8
  | .char _ rest => rest
  | .malformed rest => rest

/-- A piece takes its first byte at least. -/
theorem piece_rest_length (a : UInt8) (rest : List UInt8) :
    (piece a rest).rest.length ≤ rest.length := by
  unfold piece
  repeat' split
  all_goals simp only [Piece.rest, List.length_cons, List.length_nil] at *
  all_goals omega

/-- The characters of a well-formed byte list. -/
def decode? : List UInt8 → Option (List Char)
  | [] => some []
  | a :: rest =>
    match _taken : piece a rest with
    | .char c rest' => (decode? rest').map (c :: ·)
    | .malformed _ => none
termination_by bs => bs.length
decreasing_by
  have shorter := piece_rest_length a rest
  simp only [_taken, Piece.rest] at shorter
  simp only [List.length_cons]
  omega

/-- The character that stands for a malformed piece. -/
def replacement : Char := Char.ofNat 0xFFFD

/-- The characters of a byte list, with one replacement character for each malformed piece. -/
def decodeLossy : List UInt8 → List Char
  | [] => []
  | a :: rest =>
    match _taken : piece a rest with
    | .char c rest' => c :: decodeLossy rest'
    | .malformed rest' => replacement :: decodeLossy rest'
termination_by bs => bs.length
decreasing_by
  all_goals
    have shorter := piece_rest_length a rest
    simp only [_taken, Piece.rest] at shorter
    simp only [List.length_cons]
    omega

/-- The text of a byte list, malformed pieces replaced. -/
def text (bs : List UInt8) : String :=
  String.ofList (decodeLossy bs)

/-- The text of a well-formed byte list. -/
def text? (bs : List UInt8) : Option String :=
  (decode? bs).map String.ofList

end MessageBus.Text.Utf8

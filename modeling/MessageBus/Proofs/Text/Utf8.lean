/-
**Text comes back from its bytes.** The UTF-8 form of characters, read piece by piece.

* `piece_encodeChar` — the bytes of a character are one piece, whatever follows them.
* `decode?_encode`, `decodeLossy_encode` — **both ways back give the characters**; the lossy one
  puts in no replacement.
* `text_bytes`, `text?_bytes` — the same for texts.
* `encodeChar_of_ascii`, `encode_of_ascii` — characters of ASCII are a byte each;
  `le_of_mem_encodeChar` — every byte of another character lies above them.
-/

import MessageBus.Text.Utf8

namespace MessageBus.Text.Utf8

/-! ### Pieces by their length -/

theorem toNat_ofNat_of_lt {n : Nat} (small : n < 256) : (UInt8.ofNat n).toNat = n := by
  rw [UInt8.toNat_ofNat']
  omega

theorem piece_one {a : UInt8} (first : a.toNat ≤ 0x7F) (rest : List UInt8) :
    piece a rest = .char (Char.ofNat a.toNat) rest := by
  simp [piece, UInt8.le_iff_toNat_le, first]

theorem piece_two {a b : UInt8} (first : 0xC2 ≤ a.toNat ∧ a.toNat ≤ 0xDF)
    (second : isTail b = true) (rest : List UInt8) :
    piece a (b :: rest) = .char (Char.ofNat (a.toNat % 32 * 64 + low b)) rest := by
  have above : ¬ a.toNat ≤ 0x7F := by omega
  simp [piece, UInt8.le_iff_toNat_le, above, first, second]

theorem piece_three {a b c : UInt8} (first : 0xE0 ≤ a.toNat ∧ a.toNat ≤ 0xEF)
    (second : second3 a b = true) (third : isTail c = true) (rest : List UInt8) :
    piece a (b :: c :: rest) =
      .char (Char.ofNat (a.toNat % 16 * 4096 + low b * 64 + low c)) rest := by
  have above : ¬ a.toNat ≤ 0x7F ∧ ¬ a.toNat ≤ 0xDF := by omega
  simp [piece, UInt8.le_iff_toNat_le, above, first, second, third]

theorem piece_four {a b c d : UInt8} (first : 0xF0 ≤ a.toNat ∧ a.toNat ≤ 0xF4)
    (second : second4 a b = true) (third : isTail c = true) (fourth : isTail d = true)
    (rest : List UInt8) :
    piece a (b :: c :: d :: rest) =
      .char (Char.ofNat (a.toNat % 8 * 262144 + low b * 4096 + low c * 64 + low d)) rest := by
  have above : ¬ a.toNat ≤ 0x7F ∧ ¬ a.toNat ≤ 0xDF ∧ ¬ a.toNat ≤ 0xEF := by omega
  simp [piece, UInt8.le_iff_toNat_le, above, first, second, third, fourth]

/-! ### Continuation bytes -/

/-- The continuation byte of six bits. -/
theorem tail_ofNat (n : Nat) :
    isTail (UInt8.ofNat (n % 64 + 128)) = true ∧ low (UInt8.ofNat (n % 64 + 128)) = n % 64 ∧
      (UInt8.ofNat (n % 64 + 128)).toNat = n % 64 + 128 := by
  have value : (UInt8.ofNat (n % 64 + 128)).toNat = n % 64 + 128 :=
    toNat_ofNat_of_lt (by omega)
  refine ⟨?_, ?_, value⟩
  · simp only [isTail, UInt8.le_iff_toNat_le, value, Bool.and_eq_true, decide_eq_true_eq]
    exact ⟨Nat.le_add_left 128 _, show n % 64 + 128 ≤ 191 by omega⟩
  · rw [low, value]
    omega

/-- A continuation byte follows the start of three bytes, unless the two make too small a character
or half of a surrogate pair. -/
theorem second3_of_isTail {a b : UInt8} (tail : isTail b = true)
    (least : a.toNat = 0xE0 → 0xA0 ≤ b.toNat) (most : a.toNat = 0xED → b.toNat ≤ 0x9F) :
    second3 a b = true := by
  have bounds : 0x80 ≤ b.toNat ∧ b.toNat ≤ 0xBF := by
    simpa [isTail, UInt8.le_iff_toNat_le] using tail
  unfold second3
  split
  · rename_i first
    simpa [UInt8.le_iff_toNat_le] using ⟨least (congrArg UInt8.toNat (eq_of_beq first)), bounds.2⟩
  · split
    · rename_i first
      simpa [UInt8.le_iff_toNat_le] using ⟨bounds.1, most (congrArg UInt8.toNat (eq_of_beq first))⟩
    · exact tail

/-- A continuation byte follows the start of four bytes, unless the two make too small or too large
a character. -/
theorem second4_of_isTail {a b : UInt8} (tail : isTail b = true)
    (least : a.toNat = 0xF0 → 0x90 ≤ b.toNat) (most : a.toNat = 0xF4 → b.toNat ≤ 0x8F) :
    second4 a b = true := by
  have bounds : 0x80 ≤ b.toNat ∧ b.toNat ≤ 0xBF := by
    simpa [isTail, UInt8.le_iff_toNat_le] using tail
  unfold second4
  split
  · rename_i first
    simpa [UInt8.le_iff_toNat_le] using ⟨least (congrArg UInt8.toNat (eq_of_beq first)), bounds.2⟩
  · split
    · rename_i first
      simpa [UInt8.le_iff_toNat_le] using ⟨bounds.1, most (congrArg UInt8.toNat (eq_of_beq first))⟩
    · exact tail

/-! ### Characters -/

/-- **The bytes of a character are one piece**, whatever follows them. -/
theorem piece_encodeChar (c : Char) :
    ∃ a tail, String.utf8EncodeChar c = a :: tail ∧
      ∀ rest, piece a (tail ++ rest) = .char c rest := by
  have valid : c.toNat < 0xD800 ∨ 0xDFFF < c.toNat ∧ c.toNat < 0x110000 := c.valid
  have same : Char.ofNat c.toNat = c := Char.ofNat_toNat c
  rw [String.utf8EncodeChar.eq_1, show c.val.toNat = c.toNat from rfl]
  -- From here on only the code matters: it is below or above the surrogates, which is what the second
  -- byte of three is checked for, and small enough for the second byte of four.
  generalize c.toNat = n at valid same
  obtain ⟨tail₀, low₀, -⟩ := tail_ofNat n
  obtain ⟨tail₁, low₁, value₁⟩ := tail_ofNat (n / 64)
  obtain ⟨tail₂, low₂, value₂⟩ := tail_ofNat (n / 4096)
  by_cases one : n ≤ 127
  · have first : (UInt8.ofNat n).toNat = n := toNat_ofNat_of_lt (by omega)
    refine ⟨_, _, if_pos one, fun rest => ?_⟩
    rw [List.nil_append, piece_one (by omega), first, same]
  by_cases two : n ≤ 2047
  · have first : (UInt8.ofNat (n / 64 % 32 + 192)).toNat = n / 64 % 32 + 192 :=
      toNat_ofNat_of_lt (by omega)
    have sum : (n / 64 % 32 + 192) % 32 * 64 + n % 64 = n := by omega
    refine ⟨_, _, (if_neg one).trans (if_pos two), fun rest => ?_⟩
    rw [List.cons_append, List.nil_append, piece_two (by omega) tail₀, first, low₀, sum, same]
  by_cases three : n ≤ 65535
  · have first : (UInt8.ofNat (n / 4096 % 16 + 224)).toNat = n / 4096 % 16 + 224 :=
      toNat_ofNat_of_lt (by omega)
    have second : second3 (UInt8.ofNat (n / 4096 % 16 + 224)) (UInt8.ofNat (n / 64 % 64 + 128)) =
        true := second3_of_isTail tail₁ (by omega) (by omega)
    have sum : (n / 4096 % 16 + 224) % 16 * 4096 + n / 64 % 64 * 64 + n % 64 = n := by omega
    refine ⟨_, _, (if_neg one).trans ((if_neg two).trans (if_pos three)), fun rest => ?_⟩
    rw [List.cons_append, List.cons_append, List.nil_append,
      piece_three (by omega) second tail₀, first, low₁, low₀, sum, same]
  · have first : (UInt8.ofNat (n / 262144 % 8 + 240)).toNat = n / 262144 % 8 + 240 :=
      toNat_ofNat_of_lt (by omega)
    have second : second4 (UInt8.ofNat (n / 262144 % 8 + 240)) (UInt8.ofNat (n / 4096 % 64 + 128)) =
        true := second4_of_isTail tail₂ (by omega) (by omega)
    have sum : (n / 262144 % 8 + 240) % 8 * 262144 + n / 4096 % 64 * 4096 + n / 64 % 64 * 64 +
        n % 64 = n := by omega
    refine ⟨_, _, (if_neg one).trans ((if_neg two).trans (if_neg three)), fun rest => ?_⟩
    rw [List.cons_append, List.cons_append, List.cons_append, List.nil_append,
      piece_four (by omega) second tail₁ tail₀, first, low₂, low₁, low₀, sum, same]

theorem decode?_encodeChar_append (c : Char) (rest : List UInt8) :
    decode? (String.utf8EncodeChar c ++ rest) = (decode? rest).map (c :: ·) := by
  obtain ⟨a, tail, bytes, taken⟩ := piece_encodeChar c
  rw [bytes, List.cons_append, decode?]
  split
  · rename_i found
    rw [taken rest] at found
    cases found
    rfl
  · rename_i found
    rw [taken rest] at found
    cases found

theorem decodeLossy_encodeChar_append (c : Char) (rest : List UInt8) :
    decodeLossy (String.utf8EncodeChar c ++ rest) = c :: decodeLossy rest := by
  obtain ⟨a, tail, bytes, taken⟩ := piece_encodeChar c
  rw [bytes, List.cons_append, decodeLossy]
  split
  · rename_i found
    rw [taken rest] at found
    cases found
    rfl
  · rename_i found
    rw [taken rest] at found
    cases found

/-! ### Texts -/

@[simp]
theorem encode_nil : encode [] = [] := rfl

theorem encode_cons (c : Char) (cs : List Char) :
    encode (c :: cs) = String.utf8EncodeChar c ++ encode cs := rfl

theorem encode_append (first rest : List Char) :
    encode (first ++ rest) = encode first ++ encode rest :=
  List.flatMap_append

/-- **The characters come back from their bytes.** -/
theorem decode?_encode (cs : List Char) : decode? (encode cs) = some cs := by
  induction cs with
  | nil => rw [encode_nil, decode?]
  | cons c cs ih => rw [encode_cons, decode?_encodeChar_append, ih, Option.map_some]

/-- **The characters come back from their bytes** without a replacement. -/
theorem decodeLossy_encode (cs : List Char) : decodeLossy (encode cs) = cs := by
  induction cs with
  | nil => rw [encode_nil, decodeLossy]
  | cons c cs ih => rw [encode_cons, decodeLossy_encodeChar_append, ih]

theorem text_bytes (s : String) : text (bytes s) = s := by
  rw [text, bytes, decodeLossy_encode, String.ofList_toList]

theorem text?_bytes (s : String) : text? (bytes s) = some s := by
  rw [text?, bytes, decode?_encode, Option.map_some, String.ofList_toList]

/-! ### ASCII -/

/-- A number below the surrogates is a character's. -/
theorem toNat_char_ofNat {n : Nat} (small : n < 0xD800) : (Char.ofNat n).toNat = n := by
  rw [Char.ofNat, dif_pos (Or.inl small)]
  rfl

theorem encodeChar_of_ascii {c : Char} (ascii : c.toNat < 128) :
    String.utf8EncodeChar c = [UInt8.ofNat c.toNat] := by
  rw [String.utf8EncodeChar.eq_1, show c.val.toNat = c.toNat from rfl, if_pos (by omega)]

theorem encode_of_ascii {cs : List Char} (ascii : ∀ c ∈ cs, c.toNat < 128) :
    encode cs = cs.map fun c => UInt8.ofNat c.toNat := by
  induction cs with
  | nil => rfl
  | cons c cs ih =>
    rw [encode_cons, encodeChar_of_ascii (ascii c List.mem_cons_self),
      ih fun other member => ascii other (List.mem_cons_of_mem c member)]
    rfl

/-- A byte of ASCII is the form of its character. -/
theorem encode_byte {b : UInt8} (ascii : b.toNat < 128) : encode [Char.ofNat b.toNat] = [b] := by
  have value : (Char.ofNat b.toNat).toNat = b.toNat := toNat_char_ofNat (by omega)
  rw [encode_cons, encodeChar_of_ascii (by omega), value, UInt8.ofNat_toNat]
  rfl

/-- The bytes of a character outside ASCII lie above those of ASCII. -/
theorem le_of_mem_encodeChar {c : Char} (above : 128 ≤ c.toNat) {b : UInt8}
    (member : b ∈ String.utf8EncodeChar c) : 128 ≤ b.toNat := by
  have valid : c.toNat < 0xD800 ∨ 0xDFFF < c.toNat ∧ c.toNat < 0x110000 := c.valid
  rw [String.utf8EncodeChar.eq_1, show c.val.toNat = c.toNat from rfl, if_neg (by omega)] at member
  have value : ∀ k, 128 ≤ k → k < 256 → 128 ≤ (UInt8.ofNat k).toNat := fun k least most => by
    rwa [toNat_ofNat_of_lt most]
  split at member
  · simp only [List.mem_cons, List.not_mem_nil, or_false] at member
    rcases member with rfl | rfl <;> exact value _ (by omega) (by omega)
  · split at member
    · simp only [List.mem_cons, List.not_mem_nil, or_false] at member
      rcases member with rfl | rfl | rfl <;> exact value _ (by omega) (by omega)
    · simp only [List.mem_cons, List.not_mem_nil, or_false] at member
      rcases member with rfl | rfl | rfl | rfl <;> exact value _ (by omega) (by omega)

end MessageBus.Text.Utf8

/-
**Values are passed over to their end.**

* `Situation`, `Leads` — where the passing of a value stands, and in how many steps it comes from
  one such place to another.
* `leads_space`, `leads_scalar`, `leads_list`, `leads_object`, `leads_key`, `leads_part`,
  `leads_close` — one lemma for each thing that can stand in front.
* `Passes`, `IsPart`, `leads_joined` — the parts of a list or an object are passed up to its closing
  bracket.
* `IsValue.passes` — a value is passed in fewer than two steps a byte, by induction on it.
* `reads_skipValue` — **a value that nobody asked for is taken off the front**, and nothing behind
  it.
-/

import MessageBus.Json.Skip
import MessageBus.Proofs.Json.Grammar

namespace MessageBus.Json

open MessageBus.Text

variable {stack : List Frame} {rest : List UInt8}

/-! ### From one place to another -/

/-- Where the passing of a value stands. -/
structure Situation where
  expecting : Expecting
  stack : List Frame
  left : List UInt8

/-- So many steps lead from one situation to another, however many come behind. -/
def Leads (cost : Nat) (here there : Situation) : Prop :=
  ∀ steps, skipSteps (steps + cost) here.expecting here.stack here.left =
    skipSteps steps there.expecting there.stack there.left

theorem Leads.trans {first second : Nat} {here middle there : Situation}
    (front : Leads first here middle) (back : Leads second middle there) :
    Leads (first + second) here there := by
  intro steps
  rw [← back steps, ← front (steps + second)]
  congr 1
  omega

/-- As long as something is still to come, white space in front is not seen. -/
theorem skipSteps_skipGap {expecting : Expecting} (coming : expecting ≠ .more ∨ stack ≠ [])
    (steps : Nat) (s : List UInt8) :
    skipSteps steps expecting stack (skipGap s) = skipSteps steps expecting stack s := by
  cases steps with
  | zero => rfl
  | succ steps =>
    cases expecting with
    | more =>
      cases stack with
      | nil => simp at coming
      | cons frame stack => simp only [skipSteps, skipGap_skipGap]
    | value => simp only [skipSteps, skipGap_skipGap]
    | first => cases stack <;> simp only [skipSteps, skipGap_skipGap]
    | key => simp only [skipSteps, skipGap_skipGap]

theorem leads_space {expecting : Expecting} (coming : expecting ≠ .more ∨ stack ≠ [])
    {gap : List Char} (space : IsSpace gap) :
    Leads 0 ⟨expecting, stack, Utf8.encode gap ++ rest⟩ ⟨expecting, stack, rest⟩ := by
  intro steps
  show skipSteps steps expecting stack (Utf8.encode gap ++ rest) = _
  rw [← skipSteps_skipGap coming, skipGap_space space, skipSteps_skipGap coming]

/-! ### One step -/

/-- A word, a number or a string takes one step. -/
theorem leads_scalar {b : UInt8} {s : List UInt8} (solid : isGap b = false) (list : b ≠ 91)
    (object : b ≠ 123) (passed : skipScalar b s = .ok rest) :
    Leads 1 ⟨.value, stack, b :: s⟩ ⟨.more, stack, rest⟩ := by
  intro steps
  simp only [skipSteps, skipGap_cons solid, if_neg list, if_neg object, passed]
  rfl

theorem leads_list : Leads 1 ⟨.value, stack, 91 :: rest⟩ ⟨.first, .list :: stack, rest⟩ :=
  fun _ => rfl

theorem leads_object : Leads 1 ⟨.value, stack, 123 :: rest⟩ ⟨.first, .object :: stack, rest⟩ :=
  fun _ => rfl

/-- A key goes together with its colon. -/
theorem leads_key {s left : List UInt8} (key : skipString s = .ok left)
    (colon : skipColon left = .ok rest) :
    Leads 1 ⟨.key, stack, 34 :: s⟩ ⟨.value, stack, rest⟩ := by
  intro steps
  show (skipString s >>= fun left => skipColon left >>= skipSteps steps .value stack) = _
  rw [key]
  show (skipColon left >>= skipSteps steps .value stack) = _
  rw [colon]
  rfl

/-- Inside a list or an object, in front of all parts or behind one. -/
def Expecting.inside (first : Bool) : Expecting :=
  if first then .first else .more

/-- What is closed is passed. -/
theorem leads_close {first : Bool} {frame : Frame} :
    Leads 1 ⟨.inside first, frame :: stack, frame.closing :: rest⟩ ⟨.more, stack, rest⟩ := by
  intro steps
  cases frame <;> cases first <;> rfl

/-- A part follows, after its comma if it is not the first. -/
theorem leads_part {first : Bool} {frame : Frame} {b : UInt8} {s more : List UInt8}
    (front : skipGap s = b :: more) (goesOn : b ≠ frame.closing) :
    Leads 1 ⟨.inside first, frame :: stack, Utf8.encode (if first then [] else [',']) ++ s⟩
      ⟨frame.item, frame :: stack, s⟩ := by
  intro steps
  cases first with
  | false => cases frame <;> rfl
  | true =>
    show skipSteps (steps + 1) .first (frame :: stack) s =
      skipSteps steps frame.item (frame :: stack) s
    rw [← skipSteps_skipGap (.inr (List.cons_ne_nil _ _)) steps s, front]
    simp only [skipSteps, front, if_neg goesOn]

/-! ### Parts -/

/-- What is expected is passed, in fewer than two steps a byte. -/
def Passes (expecting : Expecting) (stack : List Frame) (written : List Char) : Prop :=
  ∀ rest, Ends rest → ∃ cost, cost < 2 * (Utf8.encode written).length ∧
    Leads cost ⟨expecting, stack, Utf8.encode written ++ rest⟩ ⟨.more, stack, rest⟩

/-- A part of a list or an object: it is passed, and does not begin with the closing bracket. -/
structure IsPart (frame : Frame) (part : List Char) : Prop where
  goesOn : ∀ rest, Ends rest →
    ∃ b more, skipGap (Utf8.encode part ++ rest) = b :: more ∧ b ≠ frame.closing
  passes : ∀ stack, Passes frame.item (frame :: stack) part

theorem ends_closing (frame : Frame) (rest : List UInt8) : Ends (frame.closing :: rest) := by
  rintro b ⟨⟩
  cases frame
  · exact .inr (.inr (.inl rfl))
  · exact .inr (.inr (.inr rfl))

/-- **The parts of a list or an object are passed** with the closing bracket behind them. -/
theorem leads_joined {frame : Frame} {parts : List (List Char)}
    (each : ∀ part ∈ parts, IsPart frame part) (first : Bool) (stack : List Frame)
    (rest : List UInt8) :
    ∃ cost ≤ 2 * (Utf8.encode (joined first parts)).length + 1,
      Leads cost
        ⟨.inside first, frame :: stack, Utf8.encode (joined first parts) ++ frame.closing :: rest⟩
        ⟨.more, stack, rest⟩ := by
  induction parts generalizing first with
  | nil =>
    rw [joined_nil]
    exact ⟨1, Nat.le_refl 1, leads_close⟩
  | cons part parts ih =>
    obtain ⟨isPart, others⟩ := List.forall_mem_cons.mp each
    have ends := ends_joined parts (ends_closing frame rest)
    obtain ⟨b, more, front, goesOn⟩ := isPart.goesOn _ ends
    obtain ⟨cost, cheap, passes⟩ := isPart.passes stack _ ends
    obtain ⟨costs, least, further⟩ := ih others false
    rw [joined_cons, Utf8.encode_append, Utf8.encode_append]
    refine ⟨1 + cost + costs, ?_, ?_⟩
    · rw [List.length_append, List.length_append]
      omega
    · rw [List.append_assoc, List.append_assoc]
      exact ((leads_part front goesOn).trans passes).trans further

/-! ### Values -/

/-- A value with white space around it is a part of a list. -/
theorem isPart_item {item : Padded} (spaced : item.IsSpaced) (value : IsValue item.text)
    (passes : ∀ stack, Passes .value stack item.text) : IsPart .list item.print where
  goesOn := by
    intro rest ends
    obtain ⟨b, more, front⟩ := value.front (ends_space spaced.after ends)
    rw [encode_padded, skipGap_space spaced.before, front.bytes]
    exact ⟨b, more, skipGap_cons front.solid _, front.goesOn.1⟩
  passes := by
    intro stack rest ends
    obtain ⟨cost, cheap, leads⟩ := passes (.list :: stack) _ (ends_space spaced.after ends)
    refine ⟨0 + cost + 0, ?_, ?_⟩
    · rw [Padded.print, Utf8.encode_append, Utf8.encode_append, List.length_append,
        List.length_append]
      omega
    · rw [encode_padded]
      exact ((leads_space (.inl Expecting.noConfusion) spaced.before).trans leads).trans
        (leads_space (.inr (List.cons_ne_nil _ _)) spaced.after)

/-- A member with white space around its name and its value is a part of an object. -/
theorem isPart_member {member : Member} (spaced : member.IsSpaced)
    (name : IsQuoted member.name.text) (passes : ∀ stack, Passes .value stack member.value.text) :
    IsPart .object member.print := by
  obtain ⟨pieces, each, quoted⟩ := name
  have front : ∀ rest, Utf8.encode member.name.text ++ rest =
      34 :: (Utf8.encode pieces.flatten ++ 34 :: rest) := by
    intro rest
    rw [quoted, encode_quoted]
  refine ⟨fun rest ends => ?_, fun stack rest ends => ?_⟩
  · rw [encode_member, skipGap_space spaced.name.before, front]
    exact ⟨34, _, skipGap_cons rfl _, by decide⟩
  · obtain ⟨cost, cheap, leads⟩ := passes (.object :: stack) _ (ends_space spaced.value.after ends)
    have key : Leads 1
        ⟨.key, .object :: stack, Utf8.encode member.name.text ++
          (Utf8.encode member.behindName ++ (Utf8.encode member.value.after ++ rest))⟩
        ⟨.value, .object :: stack, Utf8.encode (member.value.before ++ member.value.text) ++
          (Utf8.encode member.value.after ++ rest)⟩ := by
      rw [front]
      exact leads_key (skipString_quoted each _) (skipColon_behindName spaced _)
    rw [Utf8.encode_append, List.append_assoc] at key
    refine ⟨0 + 1 + 0 + cost + 0, ?_, ?_⟩
    · have length := congrArg List.length (encode_member member [])
      have quotes := congrArg List.length (front [])
      simp only [Member.behindName, Utf8.encode_append, Utf8.encode_cons, List.length_append,
        List.length_cons, List.length_nil] at length quotes
      omega
    · rw [encode_member]
      exact ((((leads_space (.inl Expecting.noConfusion) spaced.name.before).trans key).trans
        (leads_space (.inl Expecting.noConfusion) spaced.value.before)).trans leads).trans
        (leads_space (.inr (List.cons_ne_nil _ _)) spaced.value.after)

/-- A word, a number or a string is passed. -/
theorem passes_of_scalar {text : List Char} (scalar : ∀ rest, Ends rest → ∃ b more,
      Utf8.encode text ++ rest = b :: more ∧ isGap b = false ∧ b ≠ 91 ∧ b ≠ 123 ∧
        skipScalar b more = .ok rest) (stack : List Frame) : Passes .value stack text := by
  intro rest ends
  obtain ⟨b, more, bytes, solid, list, object, passed⟩ := scalar rest ends
  refine ⟨1, ?_, bytes ▸ leads_scalar solid list object passed⟩
  obtain ⟨c, others, alone, -⟩ := scalar [] nofun
  rw [List.append_nil] at alone
  rw [alone, List.length_cons]
  omega

/-- A bracket, white space, the parts and a bracket are passed. -/
theorem passes_of_parts (frame : Frame) {gap : List Char} {parts : List (List Char)}
    {written : List Char} {opening : UInt8} (space : IsSpace gap)
    (each : ∀ part ∈ parts, IsPart frame part)
    (opens : ∀ stack rest, Leads 1 ⟨.value, stack, opening :: rest⟩ ⟨.first, frame :: stack, rest⟩)
    (bytes : ∀ rest, Utf8.encode written ++ rest = opening :: (Utf8.encode gap ++
      (Utf8.encode (commaJoined parts) ++ frame.closing :: rest))) (stack : List Frame) :
    Passes .value stack written := by
  intro rest ends
  obtain ⟨cost, cheap, leads⟩ := leads_joined each true stack rest
  refine ⟨1 + 0 + cost, ?_, ?_⟩
  · have length := congrArg List.length (bytes [])
    simp only [List.append_nil, List.length_append, List.length_cons, List.length_nil] at length
    simp only [joined, if_true] at cheap
    omega
  · rw [bytes]
    exact ((opens stack _).trans (leads_space (.inl Expecting.noConfusion) space)).trans leads

/-- **A value is passed**, whatever is open around it. -/
theorem IsValue.passes {text : List Char} (value : IsValue text) :
    ∀ stack, Passes .value stack text := by
  induction value with
  | word known =>
    refine passes_of_scalar fun rest _ => ?_
    simp only [words, List.mem_cons, List.not_mem_nil, or_false] at known
    rcases known with rfl | rfl | rfl <;>
      exact ⟨_, _, rfl, by decide, by decide, by decide, rfl⟩
  | number number =>
    refine passes_of_scalar fun rest ends => ?_
    obtain ⟨b, more, bytes, first, passed⟩ := skipNumber_number number ends
    have code := code_of_first first
    have other : ∀ c : UInt8, 57 < c.toNat → b ≠ c := by
      rintro c above rfl
      omega
    refine ⟨b, more, bytes, isGap_of_first first, other 91 (by decide), other 123 (by decide), ?_⟩
    rw [skipScalar, if_neg (other _ (by decide)), if_neg (other _ (by decide)),
      if_neg (other _ (by decide)), if_pos first, passed]
  | quoted quoted =>
    refine passes_of_scalar fun rest _ => ?_
    obtain ⟨pieces, each, rfl⟩ := quoted
    exact ⟨34, _, encode_quoted _ rest, by decide, by decide, by decide,
      skipString_quoted each rest⟩
  | list space spaced values ih =>
    refine passes_of_parts .list space ?_ (fun _ _ => leads_list) (encode_printList _ _)
    intro part member
    obtain ⟨item, inside, rfl⟩ := List.mem_map.mp member
    exact isPart_item (spaced item inside) (values item inside) (ih item inside)
  | object space spaced names values ih =>
    refine passes_of_parts .object space ?_ (fun _ _ => leads_object) (encode_printObject _ _)
    intro part member
    obtain ⟨entry, inside, rfl⟩ := List.mem_map.mp member
    exact isPart_member (spaced entry inside) (names entry inside) (ih entry inside)

/-- **A value that nobody asked for is taken off the front**, whatever it is, with the white space
before it. -/
theorem reads_skipValue {gap text : List Char} (space : IsSpace gap) (value : IsValue text) :
    Reads skipValue (gap ++ text) () := by
  intro rest ends
  obtain ⟨cost, cheap, leads⟩ := value.passes [] rest ends
  have whole := (leads_space (.inl Expecting.noConfusion) space).trans leads
  rw [Utf8.encode_append, List.append_assoc]
  generalize bytes : Utf8.encode gap ++ (Utf8.encode text ++ rest) = s at whole ⊢
  have steps : 2 * s.length + 2 = (2 * s.length + 1 - cost) + 1 + (0 + cost) := by
    rw [← bytes, List.length_append, List.length_append]
    omega
  show (skipSteps (2 * s.length + 2) .value [] s).map _ = _
  rw [steps, whole]
  rfl

end MessageBus.Json

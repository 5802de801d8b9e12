/-
**Objects are read member by member**, whatever their members are read into.

* `members_round` — one round: white space, a comma, a name, and what the step makes of the rest.
* `Folds`, `members_of_folds` — a step takes members one after another, up to the closing brace.
* `reads_record`, `reads_dictionary` — **a record and a dictionary come back from their members**;
  `recordMember_of_read`, `recordMember_unknown` — the members of a record that have a field that
  was not read before, and those that have none.
* `Leaves`, `Walks`, `walks_of_members` — when a step never reads past a member, the members in
  front are read one after another, whatever stands behind them.
-/

import MessageBus.Json.Reader
import MessageBus.Proofs.Json.Passing

namespace MessageBus.Json

open MessageBus.Text

variable {σ : Type} {step : σ → String → Reader σ} {state next last : σ} {rest : List UInt8}

/-! ### One round -/

/-- White space in front of members is not seen. -/
theorem skipsGap_members (step : σ → String → Reader σ) (rounds : Nat) (first : Bool) (state : σ) :
    SkipsGap (members step rounds first state) := by
  intro s
  cases rounds with
  | zero => rfl
  | succ rounds => rw [members, members, skipGap_skipGap]

/-- Behind a comma comes a name, and then what the step makes of the rest. -/
theorem members_comma (step : σ → String → Reader σ) (rounds : Nat) (state : σ) (s : List UInt8) :
    members step (rounds + 1) false state (44 :: s) = (memberKey (skipGap s) >>=
      fun named => step state named.1 named.2 >>=
      fun taken => members step rounds false taken.1 taken.2) :=
  rfl

theorem skipGap_quoted {written : List Char} (quoted : IsQuoted written) (rest : List UInt8) :
    skipGap (Utf8.encode written ++ rest) = Utf8.encode written ++ rest := by
  obtain ⟨pieces, each, rfl⟩ := quoted
  rw [encode_quoted, skipGap_cons rfl]

/-- The name of a member, up to where its colon may stand. -/
theorem memberKey_spelled {name : String} {written : List Char} (named : Spells name written)
    (rest : List UInt8) : memberKey (Utf8.encode written ++ rest) = .ok (name, rest) := by
  obtain ⟨pieces, each, rfl⟩ := named
  rw [encode_quoted, memberKey, if_pos rfl]
  exact readString_spelled each rest

/-- A name that is read is the only one that is spelled so, and nothing behind it is taken. -/
theorem memberKey_quoted {name : String} {written : List Char} {left : List UInt8}
    (quoted : IsQuoted written) (read : memberKey (Utf8.encode written ++ rest) = .ok (name, left)) :
    left = rest ∧ ∀ other, Spells other written → other = name := by
  refine ⟨?_, fun other spelled => ?_⟩
  · obtain ⟨pieces, each, rfl⟩ := quoted
    rw [encode_quoted, memberKey, if_pos rfl] at read
    have passed := skipString_of_readString read
    rw [skipString_quoted each] at passed
    exact (Except.ok.inj passed).symm
  · rw [memberKey_spelled spelled] at read
    exact (Prod.mk.inj (Except.ok.inj read)).1

/-- **One round reads a member**, after its comma if it is not the first. -/
theorem members_round {member : Member} (spaced : member.IsSpaced)
    (quoted : IsQuoted member.name.text) (rounds : Nat) (first : Bool) (state : σ)
    (rest : List UInt8) :
    members step (rounds + 1) first state
      (Utf8.encode (if first then [] else [',']) ++ (Utf8.encode member.print ++ rest)) =
        (memberKey (Utf8.encode member.name.text ++
          (Utf8.encode member.behindName ++ (Utf8.encode member.value.after ++ rest))) >>=
        fun named => step state named.1 named.2 >>=
        fun taken => members step rounds false taken.1 taken.2) := by
  have front : skipGap (Utf8.encode member.print ++ rest) =
      Utf8.encode member.name.text ++ (Utf8.encode member.behindName ++
        (Utf8.encode member.value.after ++ rest)) := by
    rw [encode_member, skipGap_space spaced.name.before, skipGap_quoted quoted]
  cases first with
  | false =>
    show members step (rounds + 1) false state (44 :: (Utf8.encode member.print ++ rest)) = _
    rw [members_comma, front]
  | true =>
    -- The quote in front of the name is no closing brace.
    obtain ⟨pieces, each, text⟩ := quoted
    rw [text, encode_quoted] at front ⊢
    rw [if_pos rfl, Utf8.encode_nil, List.nil_append, members, front]
    rfl

/-! ### Objects -/

/-- A step takes members one after another, each by its name. -/
inductive Folds (step : σ → String → Reader σ) : List (String × Member) → σ → σ → Prop
  | nil (state : σ) : Folds step [] state state
  | cons {name : String} {member : Member} {parts : List (String × Member)} {state next last : σ}
      (spaced : member.IsSpaced) (named : Spells name member.name.text)
      (taken : Reads (step state name) member.behindName next)
      (further : Folds step parts next last) : Folds step ((name, member) :: parts) state last

/-- **Members are read up to the closing brace**, in as many rounds as there are members and one
more. -/
theorem members_of_folds {parts : List (String × Member)} (folds : Folds step parts state last)
    {rounds : Nat} (enough : parts.length < rounds) (first : Bool) (rest : List UInt8) :
    members step rounds first state
      (Utf8.encode (joined first (parts.map fun part => part.2.print)) ++ 125 :: rest) =
        .ok (last, rest) := by
  induction folds generalizing rounds first with
  | nil state =>
    obtain ⟨rounds, rfl⟩ := Nat.exists_eq_add_one_of_ne_zero (Nat.ne_of_gt enough)
    rw [List.map_nil, joined_nil]
    rfl
  | @cons name member parts state next last spaced named taken further ih =>
    obtain ⟨rounds, rfl⟩ := Nat.exists_eq_add_one_of_ne_zero (Nat.ne_zero_of_lt enough)
    rw [List.length_cons] at enough
    have ends := ends_space spaced.value.after
      (ends_joined (parts.map fun part => part.2.print) (ends_closing .object rest))
    rw [List.map_cons, joined_cons, Utf8.encode_append, Utf8.encode_append, List.append_assoc,
      List.append_assoc, members_round spaced named.isQuoted, memberKey_spelled named]
    show (step state name (Utf8.encode member.behindName ++ (Utf8.encode member.value.after ++
      (_ ++ Frame.object.closing :: rest))) >>= _) = _
    rw [taken _ ends]
    show members step rounds false next _ = _
    rw [skipsGap_members, skipGap_space spaced.value.after, ← skipsGap_members]
    exact ih (by omega) false

/-- The members of an object are read to its end, with a round for each byte. -/
theorem members_of_object {parts : List (String × Member)} (folds : Folds step parts state last)
    {gap : List Char} (space : IsSpace gap) (rest : List UInt8) :
    let body := Utf8.encode gap ++
      (Utf8.encode (commaJoined ((parts.map Prod.snd).map Member.print)) ++ 125 :: rest)
    members step (body.length + 1) true state body = .ok (last, rest) := by
  intro body
  have enough : parts.length < body.length + 1 := by
    have nonempty : ∀ part ∈ parts.map fun part => part.2.print, part ≠ [] := by
      intro part inside
      obtain ⟨entry, -, rfl⟩ := List.mem_map.mp inside
      exact fun empty => List.cons_ne_nil _ _ (List.append_eq_nil_iff.mp empty).2
    have bound := length_le_joined nonempty true
    rw [List.length_map] at bound
    show _ < (Utf8.encode gap ++ (Utf8.encode _ ++ 125 :: rest)).length + 1
    rw [List.map_map, List.length_append, List.length_append]
    have same : joined true (parts.map fun part => part.2.print) =
        commaJoined (parts.map (Member.print ∘ Prod.snd)) := rfl
    rw [← same]
    omega
  have read := members_of_folds folds enough true rest
  rw [skipsGap_members]
  show members step (body.length + 1) true state (skipGap (Utf8.encode gap ++ _)) = _
  rw [skipGap_space space, ← skipsGap_members, List.map_map]
  exact read

/-! ### Records -/

/-- A member whose field was not read before is read into it. -/
theorem recordMember_of_read {fields : List (RecordField σ)} {field : RecordField σ} {name : String}
    {member : Member} (found : fields.find? (fun field => field.name == name) = some field)
    (unset : field.isSet state = false) (spaced : member.IsSpaced)
    (read : Reads (field.read state) (member.value.before ++ member.value.text) next) :
    Reads (recordMember fields state name) member.behindName next := by
  intro rest ends
  unfold recordMember
  simp only [found, unset, Bool.false_eq_true, if_false, skipColon_behindName spaced]
  exact read rest ends

/-- A member without a field is passed over. -/
theorem recordMember_unknown {fields : List (RecordField σ)} {name : String} {member : Member}
    (unknown : fields.find? (fun field => field.name == name) = none) (spaced : member.IsSpaced)
    (value : IsValue member.value.text) (state : σ) :
    Reads (recordMember fields state name) member.behindName state := by
  intro rest ends
  unfold recordMember
  simp only [unknown, skipColon_behindName spaced]
  show (skipValue (Utf8.encode (member.value.before ++ member.value.text) ++ rest) >>= _) = _
  rw [reads_skipValue spaced.value.before value rest ends]
  rfl

theorem record_open {α : Type} (fields : List (RecordField σ)) (start : σ)
    (complete : σ → Option α) (s : List UInt8) : record fields start complete (123 :: s) =
      (members (recordMember fields) (s.length + 1) true start s >>=
        fun read => record.finished complete read.1 read.2) :=
  rfl

/-- **A record comes back from its members.** -/
theorem reads_record {α : Type} {fields : List (RecordField σ)} {complete : σ → Option α}
    {parts : List (String × Member)} {value : α} {gap : List Char}
    (folds : Folds (recordMember fields) parts state last) (whole : complete last = some value)
    (space : IsSpace gap) :
    Reads (record fields state complete) (printObject gap (parts.map Prod.snd)) value := by
  intro rest _
  rw [encode_printObject, record_open, members_of_object folds space rest]
  show record.finished complete last rest = _
  rw [record.finished, whole]

/-! ### Dictionaries -/

/-- A member stands for a name and a value, as the reader of its value sees it. -/
structure Member.StandsFor {α : Type} (reader : Reader α) (entry : String × α) (member : Member) :
    Prop where
  spaced : member.IsSpaced
  name : Spells entry.1 member.name.text
  value : Reads reader member.value.text entry.2

/-- The step of a dictionary: it puts each pair in front of those before it. -/
def dictionaryStep {α : Type} (reader : Reader α) (seen : List (String × α)) (name : String) :
    Reader (List (String × α)) := fun s => do
  let (value, rest) ← reader (← skipColon s)
  return ((name, value) :: seen, rest)

theorem dictionary_open {α : Type} (reader : Reader α) (s : List UInt8) :
    dictionary reader (123 :: s) = (members (dictionaryStep reader) (s.length + 1) true [] s >>=
      fun read => .ok (read.1.reverse, read.2)) :=
  rfl

/-- The pairs of an object are gathered, the last in front. -/
theorem folds_entries {α : Type} {reader : Reader α} (skips : SkipsGap reader)
    {entries : List (String × α)} {members : List Member}
    (each : List.Forall₂ (Member.StandsFor reader) entries members) (seen : List (String × α)) :
    ∃ parts, parts.map Prod.snd = members ∧
      Folds (dictionaryStep reader) parts seen (entries.reverse ++ seen) := by
  induction each generalizing seen with
  | nil => exact ⟨[], rfl, .nil seen⟩
  | @cons entry member entries members first others ih =>
    obtain ⟨parts, same, folds⟩ := ih (entry :: seen)
    refine ⟨(entry.1, member) :: parts, by rw [List.map_cons, same], ?_⟩
    rw [List.reverse_cons, List.append_assoc]
    refine .cons first.spaced first.name (fun rest ends => ?_) folds
    show (skipColon _ >>= fun left => reader left >>= _) = _
    rw [skipColon_behindName first.spaced]
    show (reader _ >>= _) = _
    rw [first.value.behind_space skips first.spaced.value.before rest ends]
    rfl

/-- **The pairs of an object come back** in their order. -/
theorem reads_dictionary {α : Type} {reader : Reader α} (skips : SkipsGap reader)
    {entries : List (String × α)} {members : List Member} {gap : List Char} (space : IsSpace gap)
    (each : List.Forall₂ (Member.StandsFor reader) entries members) :
    Reads (dictionary reader) (printObject gap members) entries := by
  intro rest _
  obtain ⟨parts, rfl, folds⟩ := folds_entries skips each []
  rw [encode_printObject, dictionary_open, members_of_object folds space rest]
  show Except.ok ((entries.reverse ++ []).reverse, rest) = _
  rw [List.append_nil, List.reverse_reverse]

/-! ### Members in front -/

/-- What a reader makes of a text, it leaves what stands behind. -/
def Leaves {α : Type} (reader : Reader α) (written : List Char) : Prop :=
  ∀ rest, Ends rest → ∀ value left,
    reader (Utf8.encode written ++ rest) = .ok (value, left) → left = rest

/-- The states that a step comes to over members, one after another. -/
inductive Walks (step : σ → String → Reader σ) : List Member → σ → σ → Prop
  | nil (state : σ) : Walks step [] state state
  | cons {name : String} {member : Member} {members : List Member} {state next last : σ}
      {s left : List UInt8} (named : ∀ other, Spells other member.name.text → other = name)
      (taken : step state name s = .ok (next, left)) (further : Walks step members next last) :
      Walks step (member :: members) state last

/-- **Members in front are read one after another**, whatever stands behind them, if a step never
reads past a member. -/
theorem walks_of_members {parts : List Member} {rounds : Nat} {first : Bool}
    {left : List UInt8} {result : σ} (formed : ∀ member ∈ parts, member.IsFormed)
    (leaves : ∀ member ∈ parts, ∀ state name, Leaves (step state name) member.behindName)
    (ends : Ends rest)
    (read : members step rounds first state
      (Utf8.encode (joined first (parts.map Member.print)) ++ rest) = .ok (result, left)) :
    ∃ rounds last, Walks step parts state last ∧
      members step rounds (first && parts.isEmpty) last rest = .ok (result, left) := by
  induction parts generalizing rounds first state with
  | nil =>
    rw [List.map_nil, joined_nil] at read
    rw [List.isEmpty_nil, Bool.and_true]
    exact ⟨rounds, state, .nil state, read⟩
  | cons member parts ih =>
    obtain ⟨⟨spaced, quoted, -⟩, others⟩ := List.forall_mem_cons.mp formed
    obtain ⟨leaves, otherLeaves⟩ := List.forall_mem_cons.mp leaves
    cases rounds with
    | zero => cases read
    | succ rounds =>
      rw [List.map_cons, joined_cons, Utf8.encode_append, Utf8.encode_append, List.append_assoc,
        List.append_assoc, members_round spaced quoted] at read
      obtain ⟨⟨name, behind⟩, key, read⟩ := exists_of_bind read
      obtain ⟨rfl, named⟩ := memberKey_quoted quoted key
      obtain ⟨⟨next, between⟩, taken, read⟩ := exists_of_bind read
      obtain rfl := leaves state name _
        (ends_space spaced.value.after (ends_joined _ ends)) _ _ taken
      rw [skipsGap_members, skipGap_space spaced.value.after, ← skipsGap_members] at read
      obtain ⟨rounds, last, walks, read⟩ := ih others otherLeaves read
      rw [List.isEmpty_cons, Bool.and_false]
      exact ⟨rounds, last, .cons named taken walks, read⟩

end MessageBus.Json

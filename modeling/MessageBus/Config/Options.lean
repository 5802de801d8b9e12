/-
**Options.** Typed look-up in the text options of a backend.

* `get?` — the trimmed value of the first key that is the same but for letter case; a blank value
  counts as absent.
* `text`, `flag`, `natural`, `duration` — a value of one type, or the caller's default when it is
  absent. A value that is present but no text of the type is a configuration error naming the key.
-/

import MessageBus.Config
import MessageBus.Config.Duration
import MessageBus.Text.Integer

namespace MessageBus.Options

open MessageBus.Text

/-- The options of a backend. -/
abbrev OptionMap := List (String × String)

/-- The trimmed value under a key, unless it is blank. -/
def get? (options : OptionMap) (key : String) : Option String :=
  match options.find? fun entry => eqIgnoringAsciiCase entry.1 key with
  | none => none
  | some entry => if isBlankText entry.2 then none else some (trim entry.2)

/-- The value under a key, or a default. -/
def text (options : OptionMap) (key default : String) : String :=
  (get? options key).getD default

/-- The error for a value that does not fit its option. -/
def invalid (key value reason : String) : BusError :=
  .configuration ("invalid value '" ++ value ++ "' for option '" ++ key ++ "': " ++ reason)

/-- Reads the value under a key, or takes the default. -/
def parsed {α : Type} (options : OptionMap) (key : String) (default : α)
    (parse : String → Except String α) : BusResult α :=
  match get? options key with
  | none => .ok default
  | some value => match parse value with
    | .ok result => .ok result
    | .error reason => .error (invalid key value reason)

/-- A flag: `true` or `false` in any letter case. -/
def parseFlag (value : String) : Except String Bool :=
  if eqIgnoringAsciiCase value "true" then .ok true
  else if eqIgnoringAsciiCase value "false" then .ok false
  else .error "expected true or false"

/-- The flag under a key. -/
def flag (options : OptionMap) (key : String) (default : Bool) : BusResult Bool :=
  parsed options key default parseFlag

/-- The natural number of at most `limit` under a key. -/
def natural (limit : Nat) (options : OptionMap) (key : String) (default : Nat) : BusResult Nat :=
  parsed options key default fun value =>
    (Text.natural limit value.toList).mapError IntegerFault.message

/-- The integer from `-(limit + 1)` to `limit` under a key. -/
def integer (limit : Nat) (options : OptionMap) (key : String) (default : Int) : BusResult Int :=
  parsed options key default fun value =>
    (Text.integer limit value.toList).mapError IntegerFault.message

/-- The duration under a key. -/
def duration (options : OptionMap) (key : String) (default : Duration) : BusResult Duration :=
  parsed options key default fun value =>
    match Duration.parse? value with
    | some result => .ok result
    | none => .error "expected a duration"

end MessageBus.Options

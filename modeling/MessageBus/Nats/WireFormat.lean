/-
**Wire formats.** How an envelope becomes a NATS message.

* `WireFormat.parse` — the format that an option names.
* `WireFormat.name` — the name that it is shown by.
-/

import MessageBus.Error
import MessageBus.Text.Blank
import MessageBus.Text.Case

namespace MessageBus.Nats

/-- How an envelope becomes a NATS message. -/
inductive WireFormat
  /-- Everything but the payload in headers, the payload as the body. -/
  | native
  /-- The whole envelope as a JSON body. -/
  | json
  deriving DecidableEq, Inhabited, Repr

namespace WireFormat

/-- The format that a text names; a blank text names the native one. -/
def parse (s : String) : BusResult WireFormat :=
  let name := Text.lowercase (Text.trim s)
  if name ∈ ["", "nats", "native"] then .ok .native
  else if name = "json" then .ok .json
  else .error (.configuration
    ("unknown message format '" ++ name ++ "', expected 'nats' or 'json'"))

/-- The name of a format. -/
def name : WireFormat → String
  | native => "nats"
  | json => "json"

end WireFormat

end MessageBus.Nats

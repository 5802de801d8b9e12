/-
**Reply rules.** What a scripted broker sends in answer to a publish.

* `Rule` — which publishes it answers, and what is sent where, how often and after which time.
* `Rule.fill` — puts a request identifier into an address.
* `Rule.applies` — whether a publish is answered.
* `bodyRequestId` — the request identifier in a JSON body.
-/

import MessageBus.Envelope.Json
import MessageBus.Json.Value

namespace MessageBus

/-- What is sent in answer to a publish. -/
structure Rule where
  /-- The address of the publishes that are answered; any if there is none. -/
  heard : Option String := none
  /-- The request identifier of the publishes that are answered; any if there is none. -/
  request : Option String := none
  /-- The address of the reply, with a marker for the request identifier. -/
  address : String := ""
  /-- The subscription that gets the reply, with a marker, if it is not that of the address. -/
  receiver : Option String := none
  /-- How many milliseconds pass before the reply. -/
  delay : Nat := 0
  /-- How often the reply is sent. -/
  times : Nat := 1
  /-- The body of the reply, if it is not the published one. -/
  payload : Option (List UInt8) := none
  /-- The headers of the reply, if they are not the published ones. -/
  headers : Option (List (String × String)) := none
  /-- The address for the acknowledgement of the reply. -/
  reply : Option String := none
  deriving Inhabited

namespace Rule

/-- Puts a request identifier in the place of its marker. -/
def fill (id text : String) : String :=
  text.replace "\x7bid\x7d" id

/-- Whether a publish is answered. -/
def applies (rule : Rule) (address id : String) : Bool :=
  rule.heard.all (· = address) && rule.request.all (· = id)

end Rule

/-- The request identifier in a JSON body; empty if there is none. -/
def bodyRequestId (payload : List UInt8) : String :=
  match Json.readAll Json.value payload with
  | .ok (.object members) => match members.lookup "RequestID" with
    | some (.text id) => id
    | _ => ""
  | _ => ""

end MessageBus

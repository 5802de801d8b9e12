/-
**Deliver policies.** Where a new consumer starts in its stream.

* `DeliverPolicy.parse` — the policy that an option names.
* `DeliverPolicy.name`, `DeliverPolicy.serverName` — the names in options and on the server.
-/

import MessageBus.Error
import MessageBus.Text.Blank
import MessageBus.Text.Case

namespace MessageBus.Nats

/-- Where a new consumer starts in its stream. -/
inductive DeliverPolicy
  /-- With the messages published from now on. -/
  | new
  /-- With the first message of the stream. -/
  | all
  /-- With the last message of the stream. -/
  | last
  /-- With the last message of each subject. -/
  | lastPerSubject
  deriving DecidableEq, Inhabited, Repr

namespace DeliverPolicy

/-- The policy that a text names; a blank text names `new`. -/
def parse (s : String) : BusResult DeliverPolicy :=
  let name := Text.lowercase (Text.trim s)
  if name ∈ ["", "new"] then .ok .new
  else if name = "all" then .ok .all
  else if name = "last" then .ok .last
  else if name = "lastpersubject" then .ok .lastPerSubject
  else .error (.configuration
    ("unknown deliver policy '" ++ name ++ "', expected new, all, last or lastpersubject"))

/-- The name of a policy in options. -/
def name : DeliverPolicy → String
  | new => "new"
  | all => "all"
  | last => "last"
  | lastPerSubject => "lastpersubject"

/-- The name of a policy on the server. -/
def serverName : DeliverPolicy → String
  | lastPerSubject => "last_per_subject"
  | policy => policy.name

end DeliverPolicy

end MessageBus.Nats

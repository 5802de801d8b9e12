/-
**The command line.** The monitor, run against a broker in memory.

* `readVariables` — the look-up of the variables that the monitor knows.
* `main` — runs the monitor: each line of the input is a message, its topic first and its text after
  the first blank; the log goes to the output and the reason of a failure to the error output.
-/

import MessageBus.Identifier
import MessageBus.Scripted.MonitorRun

namespace MessageBus

/-- The names of the variables that the monitor knows. -/
def MonitorConfig.variableNames : List String :=
  [ "MESSAGEBUS_TYPE", "MESSAGEBUS_HOST", "MESSAGEBUS_PORT", "MESSAGEBUS_PROTOCOL",
    "MESSAGEBUS_OPTIONAL", "MESSAGEBUS_MONITOR_TOPICS" ]

/-- The message that a line stands for: a topic, and after the first blank a text. -/
def MonitorRun.messageOfLine (line : String) : String × List UInt8 :=
  let topic := line.toList.takeWhile (· ≠ ' ')
  (String.ofList topic, Text.Utf8.encode (line.toList.drop (topic.length + 1)))

/-- A number made of random bytes. -/
def Identifier.seedOf (bytes : List UInt8) : Nat :=
  bytes.foldl (fun seed byte => seed * 256 + byte.toNat) 0

/-- Reads the variables that the monitor knows. -/
def readVariables : IO (List (String × String)) := do
  let mut settings := []
  for name in MonitorConfig.variableNames do
    if let some value ← IO.getEnv name then
      settings := settings ++ [(name, value)]
  return settings

end MessageBus

open MessageBus

/-- Runs the monitor. -/
def main : IO UInt32 := do
  let settings ← readVariables
  let seed := Identifier.seedOf (← IO.getRandomBytes 16).toList
  let lines ← (← IO.getStdin).lines
  let messages := (lines.toList.filter fun line => !line.isEmpty).map MonitorRun.messageOfLine
  let report := MonitorRun.run (fun number => Identifier.ofBits (seed + number))
    (fun _ => .accepts) (settings.lookup ·) messages
  for line in report.log do
    IO.println line.render
  IO.eprint report.complaint
  return report.exitCode.toUInt32

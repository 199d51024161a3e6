import SessionGateway.Log

/-!
# Log lines

The writing of events on the console: severity, the part of the gateway the
event comes from, message and fields.
-/

namespace SessionGateway.Log

/-- Which events are written, by the level an operator names. -/
inductive Verbosity where
  | silent
  | upTo (level : Level)
  deriving DecidableEq, Repr

namespace Verbosity

/-- Whether an event is written. -/
def admits (verbosity : Verbosity) (event : Event) : Bool :=
  match verbosity with
  | silent => false
  | upTo level => level.admits event.level

/-- Reads a verbosity: the name of a level in any case, `off`, or a number; no name is all. -/
def ofName? (name : String) : Option Verbosity :=
  match name.toLower with
  | "" => some (upTo .trace)
  | "off" | "0" => some silent
  | "1" => some (upTo .error)
  | "2" => some (upTo .warn)
  | "3" => some (upTo .info)
  | "4" => some (upTo .debug)
  | "5" => some (upTo .trace)
  | lower => (Level.ofName? lower).map upTo

end Verbosity

/-- The line of an event that comes from a part of the gateway. -/
def line (part : String) (event : Event) : String :=
  let fields := event.fields.map fun (name, value) => s!" {name}={value}"
  s!"{event.level.label} {part}: {event.message}{String.join fields}"

end SessionGateway.Log

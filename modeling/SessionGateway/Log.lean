/-!
# Log events

Severities, events with named text fields, computations that record events,
and the filter a threshold applies.  An event never carries anything but text,
so recording it cannot influence what is computed.
-/

namespace SessionGateway

namespace Log

/-! ## Levels -/

/-- Severity, the most severe first. -/
inductive Level where
  | error
  | warn
  | info
  | debug
  | trace
  deriving DecidableEq, Repr

namespace Level

/-- Position in the order of severity, the most severe at zero. -/
def rank : Level → Nat
  | error => 0
  | warn => 1
  | info => 2
  | debug => 3
  | trace => 4

/-- A threshold admits every level at least as severe as itself. -/
def admits (threshold level : Level) : Bool :=
  level.rank ≤ threshold.rank

/-- The upper-case name written in front of a log line. -/
def label : Level → String
  | error => "ERROR"
  | warn => "WARN"
  | info => "INFO"
  | debug => "DEBUG"
  | trace => "TRACE"

/-- Reads the lower-case name of a level. -/
def ofName? : String → Option Level
  | "error" => some error
  | "warn" => some warn
  | "info" => some info
  | "debug" => some debug
  | "trace" => some trace
  | _ => none

end Level

/-! ## Events -/

/-- One event: severity, fixed message and named text fields. -/
structure Event where
  level : Level
  message : String
  fields : List (String × String) := []
  deriving DecidableEq, Repr

/-- The events a threshold lets through, in order. -/
def visible (threshold : Level) (events : List Event) : List Event :=
  events.filter fun event => threshold.admits event.level

/-! ## Computations that log -/

/-- A value together with the events recorded on the way to it. -/
structure Logged (α : Type) where
  value : α
  events : List Event := []

namespace Logged

/-- A value nothing was recorded for. -/
protected def pure {α : Type} (value : α) : Logged α :=
  { value }

/-- Continues with the value; the later events follow the earlier ones. -/
protected def bind {α β : Type} (first : Logged α) (next : α → Logged β) : Logged β :=
  let second := next first.value
  { value := second.value, events := first.events ++ second.events }

instance : Monad Logged where
  pure := Logged.pure
  bind := Logged.bind

@[simp]
theorem pure_value {α : Type} (value : α) : (pure value : Logged α).value = value := rfl

@[simp]
theorem pure_events {α : Type} (value : α) : (pure value : Logged α).events = [] := rfl

@[simp]
theorem bind_value {α β : Type} (first : Logged α) (next : α → Logged β) :
    (first >>= next).value = (next first.value).value := rfl

@[simp]
theorem bind_events {α β : Type} (first : Logged α) (next : α → Logged β) :
    (first >>= next).events = first.events ++ (next first.value).events := rfl

end Logged

/-- Records events. -/
def record (events : List Event) : Logged Unit :=
  { value := (), events }

/-- The filter a log level stands for: it covers the gateway and its HTTP layer. -/
def defaultFilter (level : String) : String :=
  s!"sockjs_gateway={level},tower_http={level}"

end Log

end SessionGateway

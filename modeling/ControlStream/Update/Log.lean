import ControlStream.Log.Record
import ControlStream.Wire.Field

/-!
# Log updates

A line of the node's own log. The node names its levels in a way of its own; what it logs is
passed on under the severity that stands for the level.
-/

namespace ControlStream

/-- From the most to the least severe. -/
inductive LogLevel where
  | error
  | warn
  | info
  | debug
  | trace
  deriving DecidableEq, Repr, Ord

namespace LogLevel

def all : List LogLevel := [.error, .warn, .info, .debug, .trace]

def name : LogLevel → String
  | .error => "Error"
  | .warn => "Warn"
  | .info => "Info"
  | .debug => "Debug"
  | .trace => "Trace"

def ofName : String → Except DecodeError LogLevel
  | "Error" => .ok .error
  | "Warn" => .ok .warn
  | "Info" => .ok .info
  | "Debug" => .ok .debug
  | "Trace" => .ok .trace
  | other => .error (.unknownVariant "log_level" other)

theorem ofName_name (level : LogLevel) : ofName level.name = .ok level := by
  cases level <;> rfl

def severity : LogLevel → Severity
  | .error => .error
  | .warn => .warn
  | .info => .info
  | .debug => .debug
  | .trace => .trace

def label (level : LogLevel) : String := level.severity.label

/-- The two tables of names agree. -/
theorem label_eq_toUpper_name (level : LogLevel) :
    level.label.toList = level.name.toList.map Char.toUpper := by
  cases level <;> rfl

end LogLevel

structure NodeLog where
  level : LogLevel
  message : String
  backtrace : Option String
  deriving DecidableEq, Repr

namespace NodeLog

def read (value : Json) : Except DecodeError NodeLog := do
  let _ ← value.asRecord "log"
  let level ← LogLevel.ofName (← value.requireString "log_level")
  let message ← value.requireString "message"
  let backtrace ← value.optionalString "backtrace"
  return { level, message, backtrace }

def members (log : NodeLog) : List (String × Json) :=
  [("log_level", .string log.level.name),
    ("message", .string log.message),
    ("backtrace", .ofOption Json.string log.backtrace)]

instance : Wire NodeLog where
  name := "log"
  read _ := read
  write log := .ofMembers log.members

/-- The log records that pass a node's log line on: its message, then its backtrace. -/
def forwarded (log : NodeLog) : List LogRecord :=
  ⟨log.level.severity, LogRecord.nodeTarget, log.message⟩ ::
    (log.backtrace.map fun backtrace =>
      ⟨log.level.severity, LogRecord.nodeTarget, "backtrace: " ++ backtrace⟩).toList

end NodeLog

end ControlStream

import ControlStream.Text.Terminal

/-!
# Log records

A severity, the target that a filter selects by, and a text.
-/

namespace ControlStream

/-- From the most to the least severe. -/
inductive Severity where
  | error
  | warn
  | info
  | debug
  | trace
  deriving DecidableEq, Repr

namespace Severity

def all : List Severity := [.error, .warn, .info, .debug, .trace]

def label : Severity → String
  | .error => "ERROR"
  | .warn => "WARN"
  | .info => "INFO"
  | .debug => "DEBUG"
  | .trace => "TRACE"

/-- How many severities are as severe or more. -/
def rank : Severity → Nat
  | .error => 1
  | .warn => 2
  | .info => 3
  | .debug => 4
  | .trace => 5

end Severity

structure LogRecord where
  level : Severity
  target : String
  text : String
  deriving DecidableEq, Repr

namespace LogRecord

/-- The target of records that pass on the node's own log. -/
def nodeTarget : String := "veilid_node"

def streamTarget : String := "veilid_events::stream"

def programTarget : String := "veilid_events"

def updateTarget : String := "veilid_updates::update"

def messageTarget : String := "veilid_updates::message"

def apiErrorTarget : String := "veilid_updates::api_error"

/-- The text of a record as the log shows it: the lines after the first are indented, and nothing
is left of terminal control sequences. -/
def shownText (record : LogRecord) : String :=
  let indented := record.text.toList.flatMap fun c =>
    if c = '\n' then c :: List.replicate 4 ' ' else [c]
  String.ofList (Terminal.plain indented)

end LogRecord

end ControlStream

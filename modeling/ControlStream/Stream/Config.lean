import ControlStream.Update.Describe
import ControlStream.Message

/-!
# Stream configuration

How a capture of the control stream is shown, and what happens at a line that cannot be decoded.
-/

namespace ControlStream

inductive OutputFormat where
  | text
  | json
  deriving DecidableEq, Repr

namespace OutputFormat

def name : OutputFormat → String
  | .text => "text"
  | .json => "json"

def ofName? (text : String) : Option OutputFormat :=
  [OutputFormat.text, .json].find? fun format => format.name == text

def ofResponse (response : Response) : OutputFormat → String
  | .text => response.describe
  | .json => (Wire.write response).write

def ofUpdate (update : Update) : OutputFormat → String
  | .text => update.describe
  | .json => update.write.write

end OutputFormat

structure StreamConfig where
  /-- Which log records are shown. -/
  logFilter : Option String := none
  /-- Whether the node's log lines are passed on to the log. -/
  forwardNodeLogs : Bool := true
  /-- Whether a line that cannot be decoded is skipped. -/
  keepGoing : Bool := false
  /-- The names of the update kinds to show; none at all shows every kind. -/
  kinds : List String := []
  format : OutputFormat := .text
  deriving DecidableEq, Repr

namespace StreamConfig

/-- The kinds to show. The first name that is no kind is the error. -/
def kindFilter (config : StreamConfig) : Except DecodeError (List UpdateKind) :=
  config.kinds.mapM UpdateKind.ofName

end StreamConfig

end ControlStream

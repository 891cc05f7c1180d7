import ControlStream.Stream.Config
import ControlStream.Stream.Error

/-!
# Runs

A run takes the lines of a source one by one, shows the decoded events and counts them. It ends
with the source, at the first shutdown update, or at an error. `Step.ofLine` says what a line leads
to on its own; a run strings the steps together.
-/

namespace ControlStream

variable [Json.Wording]

/-- What has been counted. Blank lines count in no number. -/
structure Summary where
  lines : Nat := 0
  updates : Nat := 0
  responses : Nat := 0
  filtered : Nat := 0
  failed : Nat := 0
  shutdown : Bool := false
  deriving DecidableEq, Repr

namespace Summary

instance : Add Summary where
  add x y :=
    { lines := x.lines + y.lines
      updates := x.updates + y.updates
      responses := x.responses + y.responses
      filtered := x.filtered + y.filtered
      failed := x.failed + y.failed
      shutdown := x.shutdown || y.shutdown }

def text (summary : Summary) : String :=
  toString summary.lines ++ " lines, " ++ toString summary.updates ++ " updates, " ++
    toString summary.responses ++ " responses, " ++ toString summary.filtered ++ " filtered, " ++
    toString summary.failed ++ " failed"

end Summary

/-- Bytes to be read, and the error that the reader meets after them, if any. -/
structure Source where
  bytes : List UInt8
  failure : Option String := none

namespace Source

/-- The lines that a reader gets to see. What follows the last line feed is a line of its own,
unless it is empty or the reader fails before its end. -/
def lines (source : Source) : List Line :=
  let (whole, rest) := splitLines source.bytes
  if source.failure.isSome ∨ rest = [] then whole else whole ++ [rest]

end Source

/-- Where events are written. A run learns of a sink only how many bytes it takes before a write
fails, if one does, and whether it can be flushed. -/
structure Sink where
  /-- The error of the write that fails, if one does. -/
  failure : Option String := none
  /-- How many bytes are taken before that write. -/
  room : Nat := 0
  /-- The error of flushing. -/
  flushFailure : Option String := none

namespace Sink

/-- Writes bytes: what is left of the sink, or the error if they do not all fit. -/
def write (sink : Sink) (bytes : List UInt8) : Except String Sink :=
  match sink.failure with
  | none => .ok sink
  | some text =>
      if bytes.length ≤ sink.room then .ok { sink with room := sink.room - bytes.length }
      else .error text

end Sink

/-- What a line leads to: counts, an event to show, log records before and after it, and the
error that ends the run. -/
structure Step where
  counted : Summary := {}
  before : List LogRecord := []
  event : Option String := none
  after : List LogRecord := []
  failure : Option StreamError := none

namespace Step

def lineOf (event : String) : List UInt8 := Utf8.encode event ++ [lineFeed]

def written (step : Step) : List UInt8 := step.event.toList.flatMap lineOf

def ofFault (config : StreamConfig) (number : Nat) (fault : LineFault) : Step :=
  let error := StreamError.line number fault
  if config.keepGoing then
    { counted := { lines := 1, failed := 1 }
      before := [⟨.warn, LogRecord.streamTarget, "events: skipping " ++ error.message⟩] }
  else { counted := { lines := 1 }, failure := some error }

def ofResponse (config : StreamConfig) (response : Response) : Step :=
  { counted := { lines := 1, responses := 1 }
    before := if config.format = .text then response.notes else []
    event := some (config.format.ofResponse response) }

def shows (kinds : List UpdateKind) (update : Update) : Bool :=
  kinds.isEmpty || kinds.contains update.kind

def ofUpdate (config : StreamConfig) (kinds : List UpdateKind) (number : Nat) (update : Update) :
    Step :=
  let shown := shows kinds update
  let ends := update.kind == .shutdown
  { counted :=
      { lines := 1, updates := 1, filtered := if shown then 0 else 1, shutdown := ends }
    before := if config.forwardNodeLogs then update.forwarded else []
    event := if shown then some (config.format.ofUpdate update) else none
    after :=
      if ends then
        [⟨.debug, LogRecord.streamTarget, "events: node shut down at line " ++ toString number⟩]
      else [] }

/-- What the numbered line leads to. -/
def ofLine (config : StreamConfig) (kinds : List UpdateKind) (number : Nat) (line : Line) : Step :=
  if isBlankLine line then {}
  else
    let decoded :=
      match Line.message line with
      | .error fault => ofFault config number fault
      | .ok (.response response) => ofResponse config response
      | .ok (.update update) => ofUpdate config kinds number update
    { decoded with before := Line.notes line ++ decoded.before }

end Step

/-- What a run has shown and logged, in order, and how it has ended. `torn` is what was written of
an event that the sink did not take whole. -/
structure Outcome where
  shown : List String
  torn : List UInt8 := []
  logs : List LogRecord
  result : Except StreamError Summary

namespace Outcome

/-- The written bytes: a line for each event. -/
def output (outcome : Outcome) : List UInt8 :=
  outcome.shown.flatMap Step.lineOf ++ outcome.torn

/-- A run that begins with a step. -/
def behind (step : Step) (rest : Outcome) : Outcome :=
  { shown := step.event.toList ++ rest.shown
    torn := rest.torn
    logs := step.before ++ step.after ++ rest.logs
    result := rest.result.map (step.counted + ·) }

/-- A run that ends without a line. -/
def finished (failure : Option StreamError) : Outcome :=
  { shown := []
    logs := []
    result := match failure with
      | some error => .error error
      | none => .ok {} }

end Outcome

/-- The run over lines, the first of which has the given number. `ending` is the error that the
reader meets after the last of them. The sink is flushed unless an error comes first. -/
def runLines (config : StreamConfig) (kinds : List UpdateKind) (ending : Option StreamError) :
    Sink → (number : Nat) → List Line → Outcome
  | sink, _, [] => .finished (ending.or (sink.flushFailure.map .io))
  | sink, number, line :: rest =>
      let step := Step.ofLine config kinds number line
      match sink.write step.written with
      | .error text =>
          { shown := []
            torn := step.written.take sink.room
            logs := step.before
            result := .error (.io text) }
      | .ok sink =>
          if step.failure.isSome ∨ step.counted.shutdown then
            (Outcome.finished (step.failure.or (sink.flushFailure.map .io))).behind step
          else (runLines config kinds ending sink (number + 1) rest).behind step

/-- The run over a source. The names of the kinds to show are looked at before anything is
read. -/
def run (config : StreamConfig) (source : Source) (sink : Sink) : Outcome :=
  match config.kindFilter with
  | .error cause => .finished (some (.kindFilter cause))
  | .ok kinds => runLines config kinds (source.failure.map .io) sink 1 source.lines

end ControlStream

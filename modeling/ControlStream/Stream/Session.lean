import ControlStream.Stream.Run

/-!
# Sessions

A run that is given its bytes one by one, so that the stream of a node that is still running can be
followed. A session keeps the line that is not whole yet and what has been counted; what a line
leads to is done as soon as it ends.
-/

namespace ControlStream

variable [Json.Wording]

/-- A run under way. The bytes of the line that is not whole yet are held last one first. -/
structure Session where
  config : StreamConfig
  kinds : List UpdateKind
  number : Nat := 1
  summary : Summary := {}
  held : Line := []

inductive Progress where
  | going (session : Session)
  | ended (result : Except StreamError Summary)

namespace Session

def endLine (session : Session) : Step × Progress :=
  let step := Step.ofLine session.config session.kinds session.number session.held.reverse
  let summary := session.summary + step.counted
  let progress :=
    match step.failure with
    | some error => .ended (.error error)
    | none =>
        if step.counted.shutdown then .ended (.ok summary)
        else .going { session with number := session.number + 1, summary, held := [] }
  (step, progress)

def push (session : Session) (byte : UInt8) : Step × Progress :=
  if byte = lineFeed then session.endLine
  else ({}, .going { session with held := byte :: session.held })

/-- Takes the end of the bytes, which ends the held line if there is one. -/
def close (session : Session) : Step × Except StreamError Summary :=
  if session.held = [] then ({}, .ok session.summary)
  else
    match session.endLine with
    | (step, .going next) => (step, .ok next.summary)
    | (step, .ended result) => (step, result)

end Session

/-- What a step shows and logs, and then what comes behind it. -/
def Outcome.precededBy (step : Step) (rest : Outcome) : Outcome :=
  { rest with
    shown := step.event.toList ++ rest.shown
    logs := step.before ++ step.after ++ rest.logs }

/-- What a session leads to that is fed bytes, behind which the reader may fail. -/
def Session.feed (failure : Option String) : Session → List UInt8 → Outcome
  | session, [] =>
      match failure with
      | some text => { shown := [], logs := [], result := .error (.io text) }
      | none =>
          let (step, result) := session.close
          .precededBy step { shown := [], logs := [], result }
  | session, byte :: rest =>
      match session.push byte with
      | (step, .going next) => .precededBy step (feed failure next rest)
      | (step, .ended result) => .precededBy step { shown := [], logs := [], result }

end ControlStream

import ControlStream.CommandLine
import ControlStream.Stream.Session

/-!
# The program

Feeds a session a capture byte by byte and shows the events of each line as soon as the line is
whole. What a byte leads to is for the session to say; here it is only carried out.
-/

namespace ControlStream

namespace Program

def log (config : StreamConfig) (records : List LogRecord) : IO Unit := do
  for record in records.filter config.filter.passes do
    IO.eprintln ("[" ++ record.level.label ++ " " ++ record.target ++ "] " ++ record.shownText)

def carryOut (config : StreamConfig) (step : Step) : IO Unit := do
  log config step.before
  if let some event := step.event then
    let stdout ← IO.getStdout
    stdout.putStr (event ++ "\n")
    stdout.flush
  log config step.after

/-- Feeds a session until it has ended or there are no more bytes. -/
partial def follow (stream : IO.FS.Stream) (session : Session) :
    IO (Except StreamError Summary) := do
  match (← stream.read 1).toList with
  | [] =>
      let (step, result) := session.close
      carryOut session.config step
      return result
  | byte :: _ =>
      let (step, progress) := session.push byte
      carryOut session.config step
      match progress with
      | .going next => follow stream next
      | .ended result => return result

def ioText : IO.Error → String
  | .noFileOrDirectory .. => "No such file or directory (os error 2)"
  | error => toString error

/-- An action whose input and output errors end the run. -/
def guarded {α : Type} (action : IO (Except StreamError α)) : IO (Except StreamError α) := do
  try action catch error => return .error (.io (ioText error))

def loadConfig (arguments : Arguments) : IO (Except StreamError StreamConfig) := do
  match arguments.config with
  | none => return .ok (arguments.apply {})
  | some path =>
      let bytes ← IO.FS.readBinFile path
      return (StreamConfig.ofFile (some bytes.toList)).map arguments.apply

def openInput (arguments : Arguments) : IO IO.FS.Stream := do
  match arguments.input with
  | none => IO.getStdin
  | some path => return IO.FS.Stream.ofHandle (← IO.FS.Handle.mk path .read)

def runArguments (arguments : Arguments) : IO (Except StreamError Unit) := do
  match ← guarded (loadConfig arguments) with
  | .error error => return .error error
  | .ok config =>
      guarded do
        let stream ← openInput arguments
        match config.kindFilter with
        | .error cause => return .error (.kindFilter cause)
        | .ok kinds =>
            match ← follow stream { config, kinds } with
            | .error error => return .error error
            | .ok summary =>
                log config summary.closing
                return .ok ()

end Program

end ControlStream

def main (words : List String) : IO UInt32 := do
  match ControlStream.Arguments.parse words with
  | .error .help =>
      for line in ControlStream.helpLines do IO.println line
      return 0
  | .error .usage =>
      IO.eprintln "error: unusable arguments; for more information, try '--help'"
      return 2
  | .ok arguments =>
      match ← ControlStream.Program.runArguments arguments with
      | .ok () => return 0
      | .error error =>
          IO.eprintln error.report
          return 1

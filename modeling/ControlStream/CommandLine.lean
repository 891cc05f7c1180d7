import ControlStream.Log.Filter
import ControlStream.Stream.ConfigFile
import ControlStream.Stream.Run

/-!
# The command line

The program reads a capture from a file or from its standard input and shows its events.
Arguments are taken in order: the first that is wrong, or that asks for help, decides.
-/

namespace ControlStream

structure Arguments where
  input : Option String := none
  config : Option String := none
  json : Bool := false
  keepGoing : Bool := false
  deriving DecidableEq, Repr

inductive Refusal where
  | usage
  | help
  deriving DecidableEq, Repr

namespace Arguments

inductive Name where
  | input
  | config
  | json
  | keepGoing
  | help
  deriving DecidableEq, Repr

def Name.ofText? : List Char → Option Name
  | ['i', 'n', 'p', 'u', 't'] => some .input
  | ['c', 'o', 'n', 'f', 'i', 'g'] => some .config
  | ['j', 's', 'o', 'n'] => some .json
  | ['k', 'e', 'e', 'p', '-', 'g', 'o', 'i', 'n', 'g'] => some .keepGoing
  | ['h', 'e', 'l', 'p'] => some .help
  | _ => none

def looksLikeOption (word : String) : Bool :=
  match word.toList with
  | '-' :: _ :: _ => true
  | _ => false

/-- Sets an option that takes a value; the value is not empty and the option not given twice. -/
def setValue (arguments : Arguments) (name : Name) (value : String) : Except Refusal Arguments :=
  if value.isEmpty then .error .usage
  else match name with
    | .input =>
        if arguments.input.isSome then .error .usage
        else .ok { arguments with input := some value }
    | .config =>
        if arguments.config.isSome then .error .usage
        else .ok { arguments with config := some value }
    | _ => .error .usage

/-- Sets an option that takes no value and is not given twice. -/
def setFlag (arguments : Arguments) (name : Name) : Except Refusal Arguments :=
  match name with
  | .json => if arguments.json then .error .usage else .ok { arguments with json := true }
  | .keepGoing =>
      if arguments.keepGoing then .error .usage else .ok { arguments with keepGoing := true }
  | .help => .error .help
  | _ => .error .usage

def splitOption (text : List Char) : List Char × Option String :=
  match text.dropWhile (· != '=') with
  | [] => (text, none)
  | _ :: value => (text.takeWhile (· != '='), some (String.ofList value))

def parseFrom (arguments : Arguments) : List String → Except Refusal Arguments
  | [] => .ok arguments
  | word :: rest =>
      match word.toList with
      | '-' :: '-' :: [] => if rest = [] then .ok arguments else .error .usage
      | '-' :: '-' :: option =>
          let (text, attached) := splitOption option
          match Name.ofText? text, attached with
          | none, _ => .error .usage
          | some name, some value => do parseFrom (← arguments.setValue name value) rest
          | some name, none =>
              if name = .input ∨ name = .config then
                match rest with
                | value :: rest =>
                    if looksLikeOption value then .error .usage
                    else do parseFrom (← arguments.setValue name value) rest
                | [] => .error .usage
              else do parseFrom (← arguments.setFlag name) rest
      | '-' :: 'h' :: _ => .error .help
      | _ => .error .usage

def parse (words : List String) : Except Refusal Arguments := parseFrom {} words

/-- A configuration with what the arguments ask for on top. -/
def apply (arguments : Arguments) (config : StreamConfig) : StreamConfig :=
  { config with
    format := if arguments.json then .json else config.format
    keepGoing := arguments.keepGoing || config.keepGoing }

end Arguments

def helpLines : List String :=
  ["Usage: veilid-events [OPTIONS]",
    "",
    "Options:",
    "      --input <INPUT>    NDJSON capture to read; stdin when omitted",
    "      --config <CONFIG>  ",
    "      --json             ",
    "      --keep-going       ",
    "  -h, --help             Print help"]

def StreamConfig.filter (config : StreamConfig) : LogFilter :=
  LogFilter.ofText (config.logFilter.getD "info")

def StreamError.report [Json.Wording] (error : StreamError) : String :=
  "veilid-events error: " ++ error.message

/-- The records that close the log of a run without errors. -/
def Summary.closing (summary : Summary) : List LogRecord :=
  ⟨.info, LogRecord.programTarget, "events: " ++ summary.text⟩ ::
    (if summary.shutdown then []
    else [⟨.debug, LogRecord.programTarget, "events: input ended before node shutdown"⟩])

/-- What a call of the program leads to: the exit code, the lines it writes, the records it logs
and the error it reports. -/
structure Invocation where
  exit : Nat
  shown : List String := []
  logs : List LogRecord := []
  failure : Option StreamError := none

namespace Invocation

def ofError (error : StreamError) : Invocation := { exit := 1, failure := some error }

def ofOutcome (config : StreamConfig) (outcome : Outcome) : Invocation :=
  let closing :=
    match outcome.result with
    | .ok summary => summary.closing
    | .error _ => []
  let logs := (outcome.logs ++ closing).filter config.filter.passes
  match outcome.result with
  | .ok _ => { exit := 0, shown := outcome.shown, logs }
  | .error error => { exit := 1, shown := outcome.shown, logs, failure := some error }

def missing : StreamError := .io "No such file or directory (os error 2)"

/-- Calls the program. `file?` gives the bytes of the files that there are. The configuration is
loaded before the capture is looked for. -/
def ofWords [Json.Wording] (words : List String) (file? : String → Option (List UInt8))
    (stdin : List UInt8) : Invocation :=
  match Arguments.parse words with
  | .error .usage => { exit := 2 }
  | .error .help => { exit := 0, shown := helpLines }
  | .ok arguments =>
      let loaded : Except StreamError StreamConfig :=
        match arguments.config with
        | none => .ok {}
        | some path => StreamConfig.ofFile (file? path)
      match loaded with
      | .error error => ofError error
      | .ok config =>
          let config := arguments.apply config
          let capture :=
            match arguments.input with
            | none => some stdin
            | some path => file? path
          match capture with
          | none => ofError missing
          | some bytes => ofOutcome config (run config { bytes } {})

end Invocation

end ControlStream

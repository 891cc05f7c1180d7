import ControlStream.Log.Record
import ControlStream.Wire.Field

/-!
# API errors

What the node answers when it refuses a request. A kind that is not known is kept by its name.
-/

namespace ControlStream

inductive ApiError where
  | notInitialized
  | alreadyInitialized
  | timeout
  | tryAgain
  | shutdown
  | invalidTarget
  | noConnection (message : String)
  | keyNotFound (key : String)
  | internal (message : String)
  | unimplemented (message : String)
  | parseError (message value : String)
  | invalidArgument (context argument value : String)
  | missingArgument (context argument : String)
  | generic (message : String)
  | unrecognized (kind : String)
  deriving DecidableEq, Repr

namespace ApiError

def kind : ApiError → String
  | .notInitialized => "NotInitialized"
  | .alreadyInitialized => "AlreadyInitialized"
  | .timeout => "Timeout"
  | .tryAgain => "TryAgain"
  | .shutdown => "Shutdown"
  | .invalidTarget => "InvalidTarget"
  | .noConnection _ => "NoConnection"
  | .keyNotFound _ => "KeyNotFound"
  | .internal _ => "Internal"
  | .unimplemented _ => "Unimplemented"
  | .parseError .. => "ParseError"
  | .invalidArgument .. => "InvalidArgument"
  | .missingArgument .. => "MissingArgument"
  | .generic _ => "Generic"
  | .unrecognized kind => kind

def knownKinds : List String :=
  ["NotInitialized", "AlreadyInitialized", "Timeout", "TryAgain", "Shutdown", "InvalidTarget",
    "NoConnection", "KeyNotFound", "Internal", "Unimplemented", "ParseError", "InvalidArgument",
    "MissingArgument", "Generic"]

def message : ApiError → String
  | .notInitialized => "api not initialized"
  | .alreadyInitialized => "api already initialized"
  | .timeout => "timeout"
  | .tryAgain => "try again"
  | .shutdown => "node is shutting down"
  | .invalidTarget => "invalid target"
  | .noConnection message => "no connection: " ++ message
  | .keyNotFound key => "key not found: " ++ key
  | .internal message => "internal error: " ++ message
  | .unimplemented message => "unimplemented: " ++ message
  | .parseError message value => "parse error: " ++ message ++ " (" ++ Text.quote value ++ ")"
  | .invalidArgument context argument value =>
      "invalid argument in " ++ context ++ ": " ++ argument ++ " = " ++ Text.quote value
  | .missingArgument context argument => "missing argument in " ++ context ++ ": " ++ argument
  | .generic message => message
  | .unrecognized kind => "unrecognized api error kind " ++ Text.quote kind

/-- Whether the same request may succeed when it is sent again. -/
def isRetryable : ApiError → Bool
  | .timeout | .tryAgain | .noConnection _ => true
  | _ => false

/-- The error of a kind, with the texts that the kind carries. -/
def readPayload (value : Json) (kind : String) : Except DecodeError ApiError :=
  match kind with
  | "NotInitialized" => .ok .notInitialized
  | "AlreadyInitialized" => .ok .alreadyInitialized
  | "Timeout" => .ok .timeout
  | "TryAgain" => .ok .tryAgain
  | "Shutdown" => .ok .shutdown
  | "InvalidTarget" => .ok .invalidTarget
  | "NoConnection" => return .noConnection (← value.requireString "message")
  | "KeyNotFound" => return .keyNotFound (← value.requireString "key")
  | "Internal" => return .internal (← value.requireString "message")
  | "Unimplemented" => return .unimplemented (← value.requireString "message")
  | "ParseError" => do
      let message ← value.requireString "message"
      return .parseError message (← value.requireString "value")
  | "InvalidArgument" => do
      let context ← value.requireString "context"
      let argument ← value.requireString "argument"
      return .invalidArgument context argument (← value.requireString "value")
  | "MissingArgument" => do
      let context ← value.requireString "context"
      return .missingArgument context (← value.requireString "argument")
  | "Generic" => return .generic (← value.requireString "message")
  | other => .ok (.unrecognized other)

def read (value : Json) : Except DecodeError ApiError := do
  let _ ← value.asRecord "api error"
  readPayload value (← value.requireString "kind")

def payloadTexts : ApiError → List (String × String)
  | .noConnection message | .internal message | .unimplemented message | .generic message =>
      [("message", message)]
  | .keyNotFound key => [("key", key)]
  | .parseError message value => [("message", message), ("value", value)]
  | .invalidArgument context argument value =>
      [("context", context), ("argument", argument), ("value", value)]
  | .missingArgument context argument => [("context", context), ("argument", argument)]
  | _ => []

def write (error : ApiError) : Json :=
  .ofMembers
    ((("kind", error.kind) :: error.payloadTexts).map fun text => (text.1, .string text.2))

instance : Wire ApiError where
  name := "api error"
  read _ := read
  write := write

def notes (value : Json) : List LogRecord :=
  match read value with
  | .ok (.unrecognized kind) =>
      [⟨.debug, LogRecord.apiErrorTarget, "api error: unrecognized kind " ++ Text.quote kind⟩]
  | _ => []

end ApiError

end ControlStream

import ControlStream.Stream.Line

/-!
# Stream errors

What ends a run early. Only an error of a single line can be skipped instead.
-/

namespace ControlStream

inductive StreamError where
  | io (text : String)
  | config
  | kindFilter (cause : DecodeError)
  | line (number : Nat) (fault : LineFault)
  deriving DecidableEq, Repr

namespace StreamError

def message [Json.Wording] : StreamError → String
  | .io text => "io: " ++ text
  | .config => "config: TOML parse error"
  | .kindFilter cause => "config: " ++ cause.message
  | .line number fault => "line " ++ toString number ++ ": " ++ fault.message

def isLineError : StreamError → Bool
  | .line .. => true
  | _ => false

end StreamError

end ControlStream

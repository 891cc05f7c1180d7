import ControlStream.Bytes.Utf8
import ControlStream.Stream.Config
import ControlStream.Stream.Error
import ControlStream.Toml.Reader

/-!
# Configuration files

A stream configuration is written in TOML. A key that is not given keeps its default, a key that
is not known is passed over, and a value of another type is an error.
-/

namespace ControlStream

namespace StreamConfig

def textOf? : Toml → Option String
  | .string s => some s
  | _ => none

def flagOf? : Toml → Option Bool
  | .boolean b => some b
  | _ => none

def textsOf? : Toml → Option (List String)
  | .array items => items.mapM textOf?
  | _ => none

/-- A container without content, which may stand behind the name of a format. -/
def isEmptyContainer : Toml → Bool
  | .array [] | .inlineTable [] | .table _ [] => true
  | _ => false

/-- An output format by its name, or by a table whose only key is its name. -/
def formatOf? : Toml → Option OutputFormat
  | .string s => OutputFormat.ofName? s
  | .inlineTable [(name, held)] | .table _ [(name, held)] =>
      if isEmptyContainer held then OutputFormat.ofName? name else none
  | _ => none

def entryOr {α : Type} (entries : Toml.Entries) (key : String) (read? : Toml → Option α)
    (default : α) : Option α :=
  match Toml.Entries.get? key entries with
  | none => some default
  | some held => read? held

def ofEntries? (entries : Toml.Entries) : Option StreamConfig := do
  let blank : StreamConfig := {}
  let logFilter ←
    entryOr entries "log_filter" (fun held => (textOf? held).map some) blank.logFilter
  let forwardNodeLogs ← entryOr entries "forward_node_logs" flagOf? blank.forwardNodeLogs
  let keepGoing ← entryOr entries "keep_going" flagOf? blank.keepGoing
  let kinds ← entryOr entries "kinds" textsOf? blank.kinds
  let format ← entryOr entries "format" formatOf? blank.format
  return { logFilter, forwardNodeLogs, keepGoing, kinds, format }

def ofToml (text : List Char) : Except StreamError StreamConfig :=
  match (Toml.read? text).bind ofEntries? with
  | some config => .ok config
  | none => .error .config

/-- The configuration in a file, given the bytes of the file or, where there is none, nothing. -/
def ofFile (content : Option (List UInt8)) : Except StreamError StreamConfig :=
  match content with
  | none => .error (.io "No such file or directory (os error 2)")
  | some bytes =>
      match Utf8.decode bytes with
      | .error _ => .error (.io "stream did not contain valid UTF-8")
      | .ok text => ofToml text

end StreamConfig

end ControlStream

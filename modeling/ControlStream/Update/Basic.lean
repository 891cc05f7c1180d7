import ControlStream.Node.State
import ControlStream.Update.App
import ControlStream.Update.Log
import ControlStream.Update.RouteChange
import ControlStream.Update.ValueChange

/-!
# Updates

What the node reports of its own accord. On the wire an update is one flat object: `kind` says
which record its other fields make.
-/

namespace ControlStream

inductive UpdateKind where
  | log
  | appMessage
  | appCall
  | attachment
  | network
  | config
  | routeChange
  | valueChange
  | shutdown
  deriving DecidableEq, Repr

namespace UpdateKind

def all : List UpdateKind :=
  [.log, .appMessage, .appCall, .attachment, .network, .config, .routeChange, .valueChange,
    .shutdown]

def name : UpdateKind → String
  | .log => "Log"
  | .appMessage => "AppMessage"
  | .appCall => "AppCall"
  | .attachment => "Attachment"
  | .network => "Network"
  | .config => "Config"
  | .routeChange => "RouteChange"
  | .valueChange => "ValueChange"
  | .shutdown => "Shutdown"

def ofName (text : String) : Except DecodeError UpdateKind :=
  match all.find? fun kind => kind.name == text with
  | some kind => .ok kind
  | none => .error (.unknownUpdateKind text)

theorem ofName_name (kind : UpdateKind) : ofName kind.name = .ok kind := by
  cases kind <;> rfl

end UpdateKind

inductive Update where
  | log (entry : NodeLog)
  | appMessage (app : AppMessage)
  | appCall (app : AppCall)
  | attachment (report : Attachment)
  | network (state : NetworkState)
  | config (state : ConfigState)
  | routeChange (change : RouteChange)
  | valueChange (change : ValueChange)
  | shutdown
  deriving Repr

namespace Update

def kind : Update → UpdateKind
  | .log _ => .log
  | .appMessage _ => .appMessage
  | .appCall _ => .appCall
  | .attachment _ => .attachment
  | .network _ => .network
  | .config _ => .config
  | .routeChange _ => .routeChange
  | .valueChange _ => .valueChange
  | .shutdown => .shutdown

def payloadIsEmpty : Update → Bool
  | .shutdown => true
  | _ => false

def readPayload (value : Json) : UpdateKind → Except DecodeError Update
  | .log => (NodeLog.read value).map .log
  | .appMessage => (AppMessage.read value).map .appMessage
  | .appCall => (AppCall.read value).map .appCall
  | .attachment => (Attachment.read value).map .attachment
  | .network => (NetworkState.read value).map .network
  | .config => (ConfigState.read value).map .config
  | .routeChange => (RouteChange.read value).map .routeChange
  | .valueChange => (ValueChange.read value).map .valueChange
  | .shutdown => .ok .shutdown

def read (value : Json) : Except DecodeError Update := do
  let _ ← value.asRecord "update"
  let kind ← UpdateKind.ofName (← value.requireString "kind")
  readPayload value kind

def payloadMembers : Update → List (String × Json)
  | .log entry => entry.members
  | .appMessage app => app.members
  | .appCall app => app.members
  | .attachment report => report.members
  | .network state => state.members
  | .config state => state.members
  | .routeChange change => change.members
  | .valueChange change => change.members
  | .shutdown => []

def members (update : Update) : List (String × Json) :=
  ("kind", .string update.kind.name) :: update.payloadMembers

def write (update : Update) : Json := .ofMembers update.members

instance : Wire Update where
  name := "update"
  read _ := read
  write := write

def notes (value : Json) : List LogRecord :=
  match value.requireString "kind" with
  | .error _ => []
  | .ok name =>
      match UpdateKind.ofName name with
      | .ok kind => [⟨.trace, LogRecord.updateTarget, "update: decoding " ++ kind.name⟩]
      | .error _ =>
          [⟨.debug, LogRecord.updateTarget, "update: unknown kind " ++ Text.quote name⟩]

def forwarded : Update → List LogRecord
  | .log entry => entry.forwarded
  | _ => []

end Update

end ControlStream

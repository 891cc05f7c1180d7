import ControlStream.Response.Basic
import ControlStream.Update.Basic

/-!
# Messages

One line of the control stream: a response or an update, told apart by the field `type`.
-/

namespace ControlStream

inductive Message where
  | response (response : Response)
  | update (update : Update)
  deriving Repr

namespace Message

def responseTag : String := "Response"

def updateTag : String := "Update"

def read (value : Json) : Except DecodeError Message := do
  let _ ← value.asRecord "message"
  let tag ← value.requireString "type"
  if tag = responseTag then return .response (← Response.read value)
  else if tag = updateTag then return .update (← Update.read value)
  else .error (.unknownMessageType tag)

def notes (value : Json) : List LogRecord :=
  match value.requireString "type" with
  | .error _ => []
  | .ok tag =>
      if tag = responseTag then []
      else if tag = updateTag then Update.notes value
      else [⟨.debug, LogRecord.messageTarget, "message: unknown type " ++ Text.quote tag⟩]

end Message

end ControlStream

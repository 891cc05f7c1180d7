import ControlStream.Leaf.Scalar
import ControlStream.Leaf.Typed

/-!
# Application messages and calls

Bytes that another node's application has sent: one way, or as a call that is answered by its
operation id. There is no sender when they came over a private route.
-/

namespace ControlStream

structure AppMessage where
  sender : Option TypedKey
  message : List UInt8
  deriving DecidableEq, Repr

namespace AppMessage

def read (value : Json) : Except DecodeError AppMessage := do
  let _ ← value.asRecord "app message"
  let sender ← value.optionalField "sender"
  let message ← value.requireBytes "message"
  return { sender, message }

def members (app : AppMessage) : List (String × Json) :=
  [("sender", .ofOption Wire.write app.sender), ("message", .ofBytes app.message)]

instance : Wire AppMessage where
  name := "app message"
  read _ := read
  write app := .ofMembers app.members

end AppMessage

structure AppCall where
  sender : Option TypedKey
  message : List UInt8
  operationId : OperationId
  deriving DecidableEq, Repr

namespace AppCall

def read (value : Json) : Except DecodeError AppCall := do
  let _ ← value.asRecord "app call"
  let sender ← value.optionalField "sender"
  let message ← value.requireBytes "message"
  let operationId ← value.requireField "operation_id"
  return { sender, message, operationId }

def members (app : AppCall) : List (String × Json) :=
  [("sender", .ofOption Wire.write app.sender),
    ("message", .ofBytes app.message),
    ("operation_id", Wire.write app.operationId)]

instance : Wire AppCall where
  name := "app call"
  read _ := read
  write app := .ofMembers app.members

end AppCall

end ControlStream

import ControlStream.Wire.DecodeError
import ControlStream.Wire.Unsigned

/-!
# Reading the fields of an object

Every read goes through `Json.present?`, for which null is the same as absent, and every failure
names the field that was read. `Wire` is the capability of a type that travels as JSON: a leaf
names the field it was read from in its errors, a record reports its own fields instead.
-/

namespace ControlStream

/-- A type that is read from and written as JSON. `name` is what a leaf calls itself when it was
read from no field. -/
class Wire (α : Type) where
  name : String
  read : (field : String) → Json → Except DecodeError α
  write : α → Json

namespace Wire

def decode (α : Type) [Wire α] (value : Json) : Except DecodeError α :=
  read (name α) value

end Wire

namespace Json

/-- The value of a field, null being the same as absent. -/
def present? (value : Json) (field : String) : Option Json :=
  (value.get? field).filter fun held => !held.isNull

def require (value : Json) (field : String) : Except DecodeError Json :=
  match value.present? field with
  | some held => .ok held
  | none => .error (.missingField field)

def asRecord (record : String) : Json → Except DecodeError Fields
  | .object fields => .ok fields
  | _ => .error (.expectedObject record)

def asString (field : String) : Json → Except DecodeError String
  | .string s => .ok s
  | _ => .error (.invalidField field .string)

def asBool (field : String) : Json → Except DecodeError Bool
  | .bool b => .ok b
  | _ => .error (.invalidField field .boolean)

def asArray (field : String) : Json → Except DecodeError (List Json)
  | .array items => .ok items
  | _ => .error (.invalidField field .array)

def asObject (field : String) : Json → Except DecodeError Fields
  | .object fields => .ok fields
  | _ => .error (.invalidField field .object)

def asUnsigned (field : String) (value : Json) : Except DecodeError (BitVec 64) :=
  match value.unsigned? with
  | some n => .ok n
  | none => .error (.invalidField field .unsigned)

/-- An unsigned integer of fewer bits; `tooWide` says what a larger one is reported as. -/
def asNarrow (width : Nat) (tooWide : Shape) (field : String) (value : Json) :
    Except DecodeError (BitVec width) := do
  let n ← value.asUnsigned field
  match narrow? width n with
  | some narrowed => .ok narrowed
  | none => .error (.invalidField field tooWide)

def bytesOfText (text : String) : Except DecodeError (List UInt8) :=
  match Base64.decode text with
  | .ok bytes => .ok bytes
  | .error cause => .error (.malformedEncoding cause)

def ofBytes (bytes : List UInt8) : Json := .string (Base64.encode bytes)

def requireString (value : Json) (field : String) : Except DecodeError String := do
  (← value.require field).asString field

def optionalString (value : Json) (field : String) : Except DecodeError (Option String) :=
  match value.present? field with
  | none => .ok none
  | some held => (held.asString field).map some

def requireBool (value : Json) (field : String) : Except DecodeError Bool := do
  (← value.require field).asBool field

def requireUnsigned64 (value : Json) (field : String) : Except DecodeError (BitVec 64) := do
  (← value.require field).asUnsigned field

def requireUnsigned32 (value : Json) (field : String) : Except DecodeError (BitVec 32) := do
  (← value.require field).asNarrow 32 .bits32 field

def requireUnsigned16 (value : Json) (field : String) : Except DecodeError (BitVec 16) := do
  (← value.require field).asNarrow 16 .bits16 field

def requireArray (value : Json) (field : String) : Except DecodeError (List Json) := do
  (← value.require field).asArray field

def requireObject (value : Json) (field : String) : Except DecodeError Fields := do
  (← value.require field).asObject field

def requireBytes (value : Json) (field : String) : Except DecodeError (List UInt8) := do
  bytesOfText (← value.requireString field)

variable {α : Type} [Wire α]

def requireField (value : Json) (field : String) : Except DecodeError α := do
  Wire.read field (← value.require field)

def optionalField (value : Json) (field : String) : Except DecodeError (Option α) :=
  match value.present? field with
  | none => .ok none
  | some held => (Wire.read field held).map some

/-- Reads items in order; the first that fails is the failure of all. -/
def readItems (field : String) : List Json → Except DecodeError (List α)
  | [] => .ok []
  | item :: items => do
      let first ← Wire.read field item
      let others ← readItems field items
      return first :: others

def requireList (value : Json) (field : String) : Except DecodeError (List α) := do
  readItems field (← value.requireArray field)

end Json

end ControlStream

import ControlStream.Leaf.Plain

/-!
# Scalars

Unsigned integers that mean something: instants and durations in microseconds, byte counts,
operation ids, and the subkeys and sequence numbers of records. The role in the type fixes the
width and keeps them apart.
-/

namespace ControlStream

inductive ScalarRole where
  | timestamp
  | timestampDuration
  | byteCount
  | operationId
  | valueSubkey
  | valueSeqNum
  deriving DecidableEq, Repr

namespace ScalarRole

def name : ScalarRole → String
  | .timestamp => "Timestamp"
  | .timestampDuration => "TimestampDuration"
  | .byteCount => "ByteCount"
  | .operationId => "OperationId"
  | .valueSubkey => "ValueSubkey"
  | .valueSeqNum => "ValueSeqNum"

def width : ScalarRole → Nat
  | .valueSubkey | .valueSeqNum => 32
  | _ => 64

/-- What a number that is too large for the role is reported as. -/
def tooWide : ScalarRole → Shape
  | .valueSubkey | .valueSeqNum => .fitting32
  | _ => .fitting64

end ScalarRole

structure Scalar (role : ScalarRole) where
  value : BitVec role.width
  deriving DecidableEq, Repr

/-- Microseconds since the start of 1970. -/
abbrev Timestamp := Scalar .timestamp
/-- Microseconds. -/
abbrev TimestampDuration := Scalar .timestampDuration
abbrev ByteCount := Scalar .byteCount
/-- The id that the node gives to an app call, echoed in the reply to it. -/
abbrev OperationId := Scalar .operationId
abbrev ValueSubkey := Scalar .valueSubkey
abbrev ValueSeqNum := Scalar .valueSeqNum

namespace Scalar

variable {role : ScalarRole}

def toNat (scalar : Scalar role) : Nat := scalar.value.toNat

def text (scalar : Scalar role) : String := toString scalar.toNat

instance : Ord (Scalar role) where
  compare x y := compare x.toNat y.toNat

def toNumber (scalar : Scalar role) : Json := .natural (scalar.value.setWidth 64)

/-- An operation id is written as a decimal string, because a JSON reader may keep 53 bits of a
number only; every other scalar is a number. -/
def toJson (scalar : Scalar role) : Json :=
  match role with
  | .operationId => .string scalar.text
  | _ => scalar.toNumber

instance : Wire (Scalar role) where
  name := role.name
  read field value := (value.asNarrow role.width role.tooWide field).map Scalar.mk
  write := toJson

instance : Plain (Scalar role) := .transparent Scalar.mk Scalar.value

end Scalar

end ControlStream

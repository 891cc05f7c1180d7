import ControlStream.Record.Value

/-!
# Value changes

Watched subkeys of a record have changed.
-/

namespace ControlStream

structure ValueChange where
  key : TypedKey
  subkeys : List ValueSubkey
  /-- How many notices are left before the watch ends. -/
  count : BitVec 32
  value : ValueData
  deriving DecidableEq, Repr

namespace ValueChange

def read (value : Json) : Except DecodeError ValueChange := do
  let _ ← value.asRecord "value change"
  let key ← value.requireField "key"
  let subkeys ← value.requireList "subkeys"
  let count ← value.requireUnsigned32 "count"
  let content ← value.requireField "value"
  return { key, subkeys, count, value := content }

def members (change : ValueChange) : List (String × Json) :=
  [("key", Wire.write change.key),
    ("subkeys", .ofList Wire.write change.subkeys),
    ("count", .natural (change.count.setWidth 64)),
    ("value", Wire.write change.value)]

instance : Wire ValueChange where
  name := "value change"
  read _ := read
  write change := .ofMembers change.members

end ValueChange

end ControlStream

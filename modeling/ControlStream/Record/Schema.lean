import ControlStream.Leaf.Opaque

/-!
# Record schemas

The subkey layout of a record: subkeys of the owner alone, or of the owner and of listed members.
-/

namespace ControlStream

inductive SchemaKind where
  | dflt
  | smpl
  deriving DecidableEq, Repr

namespace SchemaKind

def name : SchemaKind → String
  | .dflt => "DFLT"
  | .smpl => "SMPL"

def ofName : String → Except DecodeError SchemaKind
  | "DFLT" => .ok .dflt
  | "SMPL" => .ok .smpl
  | other => .error (.unknownVariant "kind" other)

theorem ofName_name (kind : SchemaKind) : ofName kind.name = .ok kind := by
  cases kind <;> rfl

end SchemaKind

/-- A writer that a schema lists, with the number of its subkeys. -/
structure SchemaMember where
  key : PublicKey
  count : BitVec 16
  deriving DecidableEq, Repr

namespace SchemaMember

def read (value : Json) : Except DecodeError SchemaMember := do
  let _ ← value.asRecord "schema member"
  let key ← value.requireField "m_key"
  let count ← value.requireUnsigned16 "m_cnt"
  return { key, count }

def write (member : SchemaMember) : Json :=
  .ofMembers [("m_key", Wire.write member.key), ("m_cnt", .natural (member.count.setWidth 64))]

instance : Wire SchemaMember where
  name := "schema member"
  read _ := read
  write := write

end SchemaMember

/-- The layout of a record; `ownerCount` is the number of the owner's subkeys. -/
inductive Schema where
  | dflt (ownerCount : BitVec 16)
  | smpl (ownerCount : BitVec 16) (members : List SchemaMember)
  deriving DecidableEq, Repr

namespace Schema

def kind : Schema → SchemaKind
  | .dflt _ => .dflt
  | .smpl .. => .smpl

def ownerCount : Schema → BitVec 16
  | .dflt count => count
  | .smpl count _ => count

def members : Schema → List SchemaMember
  | .dflt _ => []
  | .smpl _ members => members

def subkeyCount (schema : Schema) : Nat :=
  schema.members.foldr (fun member total => member.count.toNat + total) schema.ownerCount.toNat

def addWord? (a b : BitVec 64) : Option (BitVec 64) :=
  if a.uaddOverflow b then none else some (a + b)

/-- The subkeys counted in words of 64 bits, those of the members one after another and then the
owner's. There is no count if a sum on the way overflows. -/
def subkeyWord? (schema : Schema) : Option (BitVec 64) := do
  let shared ← schema.members.foldlM (fun sum member => addWord? sum (member.count.setWidth 64)) 0
  addWord? (schema.ownerCount.setWidth 64) shared

def read (value : Json) : Except DecodeError Schema := do
  let _ ← value.asRecord "schema"
  let kind ← SchemaKind.ofName (← value.requireString "kind")
  let count ← value.requireUnsigned16 "o_cnt"
  match kind with
  | .dflt => return .dflt count
  | .smpl => return .smpl count (← value.requireList "members")

def write (schema : Schema) : Json :=
  let shared := [("kind", .string schema.kind.name),
    ("o_cnt", .natural (schema.ownerCount.setWidth 64))]
  match schema with
  | .dflt _ => .ofMembers shared
  | .smpl _ members => .ofMembers (shared ++ [("members", .ofList Wire.write members)])

instance : Wire Schema where
  name := "schema"
  read _ := read
  write := write

end Schema

end ControlStream

import ControlStream.Leaf.Scalar
import ControlStream.Leaf.Typed
import ControlStream.Record.Schema

/-!
# Records and their values

What the node tells about a record, and the content of one of its subkeys.
-/

namespace ControlStream

structure RecordDescriptor where
  key : TypedKey
  owner : PublicKey
  /-- There only when this client has just created the record. -/
  ownerSecret : Option SecretKey
  schema : Schema
  deriving DecidableEq, Repr

namespace RecordDescriptor

def read (value : Json) : Except DecodeError RecordDescriptor := do
  let _ ← value.asRecord "record descriptor"
  let key ← value.requireField "key"
  let owner ← value.requireField "owner"
  let ownerSecret ← value.optionalField "owner_secret"
  let schema ← value.requireField "schema"
  return { key, owner, ownerSecret, schema }

def write (record : RecordDescriptor) : Json :=
  .ofMembers
    [("key", Wire.write record.key),
      ("owner", Wire.write record.owner),
      ("owner_secret", .ofOption Wire.write record.ownerSecret),
      ("schema", Wire.write record.schema)]

instance : Wire RecordDescriptor where
  name := "record descriptor"
  read _ := read
  write := write

end RecordDescriptor

/-- The content of a subkey at a sequence number. -/
structure ValueData where
  seq : ValueSeqNum
  data : List UInt8
  writer : PublicKey
  deriving DecidableEq, Repr

namespace ValueData

def read (value : Json) : Except DecodeError ValueData := do
  let _ ← value.asRecord "value data"
  let seq ← value.requireField "seq"
  let data ← value.requireBytes "data"
  let writer ← value.requireField "writer"
  return { seq, data, writer }

def write (content : ValueData) : Json :=
  .ofMembers
    [("seq", Wire.write content.seq),
      ("data", .ofBytes content.data),
      ("writer", Wire.write content.writer)]

instance : Wire ValueData where
  name := "value data"
  read _ := read
  write := write

end ValueData

end ControlStream

import ControlStream.Wire.Field

/-!
# Versions

The version of the node, in three parts and ordered by them.
-/

namespace ControlStream

structure Version where
  major : BitVec 32
  minor : BitVec 32
  patch : BitVec 32
  deriving DecidableEq, Repr

namespace Version

def parts (version : Version) : List Nat :=
  [version.major.toNat, version.minor.toNat, version.patch.toNat]

instance : Ord Version where
  compare x y := compare x.parts y.parts

def text (version : Version) : String := ".".intercalate (version.parts.map toString)

def read (value : Json) : Except DecodeError Version := do
  let _ ← value.asRecord "version"
  let major ← value.requireUnsigned32 "major"
  let minor ← value.requireUnsigned32 "minor"
  let patch ← value.requireUnsigned32 "patch"
  return { major, minor, patch }

def write (version : Version) : Json :=
  .ofMembers
    [("major", .natural (version.major.setWidth 64)),
      ("minor", .natural (version.minor.setWidth 64)),
      ("patch", .natural (version.patch.setWidth 64))]

instance : Wire Version where
  name := "version"
  read _ := read
  write := write

end Version

end ControlStream

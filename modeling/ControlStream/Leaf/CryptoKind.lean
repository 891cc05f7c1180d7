import ControlStream.Leaf.Plain

/-!
# Crypto kinds

The algorithm suite of a typed value, known by a tag of four characters, none of them a colon.
-/

namespace ControlStream

inductive CryptoKind where
  | vld0
  | none
  deriving DecidableEq, Repr

namespace CryptoKind

def all : List CryptoKind := [.vld0, .none]

def tagLength : Nat := 4

def tag : CryptoKind → String
  | .vld0 => "VLD0"
  | .none => "NONE"

def ofTag (text : String) : Except DecodeError CryptoKind :=
  match all.find? fun kind => kind.tag == text with
  | some kind => .ok kind
  | Option.none => .error (.unknownCryptoKind text)

theorem ofTag_tag (kind : CryptoKind) : ofTag kind.tag = .ok kind := by
  cases kind <;> rfl

instance : Wire CryptoKind where
  name := "kind"
  read field value := do ofTag (← value.asString field)
  write kind := .string kind.tag

instance : Plain CryptoKind := .converted ofTag tag

end CryptoKind

end ControlStream

import ControlStream.Leaf.CryptoKind
import ControlStream.Leaf.KeyPair
import ControlStream.Text.Offsets

/-!
# Typed values

A crypto kind's tag, a colon and a payload in one text. The tag is the first four characters and
the colon the fifth, so the split never depends on the payload. The characters are counted, but the
text is cut at byte offsets. A value read from JSON is kept unchecked; `Typed.parse` checks the
colon and the tag.
-/

namespace ControlStream

/-- A type whose values can follow a crypto kind: a wrapped text, and the name of the typed value
it makes. -/
class Payload (α : Type) where
  typedName : String
  ofText : String → α
  text : α → String
  text_ofText : ∀ s, text (ofText s) = s
  ofText_text : ∀ x, ofText (text x) = x

instance : Payload PublicKey := ⟨"TypedKey", .mk, (·.text), fun _ => rfl, fun _ => rfl⟩

instance : Payload SecretKey := ⟨"TypedSecret", .mk, (·.text), fun _ => rfl, fun _ => rfl⟩

instance : Payload Signature := ⟨"TypedSignature", .mk, (·.text), fun _ => rfl, fun _ => rfl⟩

instance : Payload KeyPair := ⟨"TypedKeyPair", .mk, (·.text), fun _ => rfl, fun _ => rfl⟩

structure Typed (α : Type) where
  text : String
  deriving DecidableEq, Repr, Ord

/-- A typed public key: a node id, the sender of a message or the key of a record. -/
abbrev TypedKey := Typed PublicKey
abbrev TypedSecret := Typed SecretKey
abbrev TypedSignature := Typed Signature
abbrev TypedKeyPair := Typed KeyPair

namespace Typed

/-- The byte offsets before and behind the colon, if the fifth character of a text is one. -/
def cuts? (text : String) : Option (String.Pos.Raw × String.Pos.Raw) :=
  match (Text.charIndices 0 text.toList)[CryptoKind.tagLength]? with
  | some (offset, ':') => some (offset, offset + ':')
  | _ => none

/-- The tag and the payload of a text whose fifth character is a colon. -/
def split (text : String) : Except DecodeError (String × String) :=
  match cuts? text with
  | some (before, behind) =>
      .ok (String.Pos.Raw.extract text 0 before,
        String.Pos.Raw.extract text behind text.rawEndPos)
  | none => .error (.malformedTyped text)

variable {α : Type}

/-- A text whose colon and tag are in order. -/
def parse (text : String) : Except DecodeError (Typed α) := do
  let (tag, _) ← split text
  let _ ← CryptoKind.ofTag tag
  return ⟨text⟩

def kind (value : Typed α) : Except DecodeError CryptoKind := do
  let (tag, _) ← split value.text
  CryptoKind.ofTag tag

variable [Payload α]

def ofParts (kind : CryptoKind) (payload : α) : Typed α :=
  ⟨kind.tag ++ ":" ++ Payload.text payload⟩

def payload (value : Typed α) : Except DecodeError α := do
  let (_, payload) ← split value.text
  return Payload.ofText payload

instance : Wire (Typed α) where
  name := Payload.typedName α
  read field value := (value.asString field).map Typed.mk
  write value := .string value.text

instance : Plain (Typed α) := .transparent Typed.mk Typed.text

end Typed

end ControlStream

import ControlStream.Leaf.Opaque

/-!
# Key pairs

A public and a secret key in one text, with a colon between them. Only the public half is sure to
be free of colons, so a text is split at its first.
-/

namespace ControlStream

structure KeyPair where
  text : String
  deriving DecidableEq, Repr, Ord

namespace KeyPair

def ofParts (key : PublicKey) (secret : SecretKey) : KeyPair :=
  ⟨key.text ++ ":" ++ secret.text⟩

/-- What stands before and after the first colon. -/
def split? : List Char → Option (List Char × List Char)
  | [] => none
  | c :: rest =>
      if c = ':' then some ([], rest)
      else (split? rest).map fun halves => (c :: halves.1, halves.2)

def parts (pair : KeyPair) : Except DecodeError (PublicKey × SecretKey) :=
  match split? pair.text.toList with
  | some (key, secret) => .ok (⟨String.ofList key⟩, ⟨String.ofList secret⟩)
  | none => .error (.malformedKeyPair pair.text)

def key (pair : KeyPair) : Except DecodeError PublicKey := pair.parts.map (·.1)

def secret (pair : KeyPair) : Except DecodeError SecretKey := pair.parts.map (·.2)

instance : Wire KeyPair where
  name := "KeyPair"
  read field value := (value.asString field).map KeyPair.mk
  write pair := .string pair.text

instance : Plain KeyPair := .transparent KeyPair.mk KeyPair.text

end KeyPair

end ControlStream

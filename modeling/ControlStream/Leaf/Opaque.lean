import ControlStream.Leaf.Plain

/-!
# Opaque values

Keys, digests, signatures, nonces and route ids travel as the base64url text of their bytes and
are kept as that text, unchecked. They share one representation, and the role in the type keeps
them apart.
-/

namespace ControlStream

inductive OpaqueRole where
  | publicKey
  | secretKey
  | sharedSecret
  | hashDigest
  | keyDistance
  | signature
  | nonce
  | routeId
  deriving DecidableEq, Repr

def OpaqueRole.name : OpaqueRole → String
  | .publicKey => "PublicKey"
  | .secretKey => "SecretKey"
  | .sharedSecret => "SharedSecret"
  | .hashDigest => "HashDigest"
  | .keyDistance => "CryptoKeyDistance"
  | .signature => "Signature"
  | .nonce => "Nonce"
  | .routeId => "RouteId"

/-- A text that stands for bytes in a role. -/
structure Opaque (role : OpaqueRole) where
  text : String
  deriving DecidableEq, Repr, Ord

/-- The public half of a key pair, also a node id and the owner of a record. -/
abbrev PublicKey := Opaque .publicKey
abbrev SecretKey := Opaque .secretKey
abbrev SharedSecret := Opaque .sharedSecret
abbrev HashDigest := Opaque .hashDigest
/-- The exclusive-or distance of two keys. -/
abbrev KeyDistance := Opaque .keyDistance
abbrev Signature := Opaque .signature
abbrev Nonce := Opaque .nonce
abbrev RouteId := Opaque .routeId

namespace Opaque

variable {role : OpaqueRole}

def ofBytes (bytes : List UInt8) : Opaque role := ⟨Base64.encode bytes⟩

/-- The bytes, if the text is the form of any. -/
def bytes (value : Opaque role) : Except DecodeError (List UInt8) := Json.bytesOfText value.text

instance : Wire (Opaque role) where
  name := role.name
  read field value := (value.asString field).map Opaque.mk
  write value := .string value.text

instance : Plain (Opaque role) := .transparent Opaque.mk Opaque.text

end Opaque

end ControlStream

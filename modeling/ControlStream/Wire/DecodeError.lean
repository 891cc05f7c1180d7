import ControlStream.Bytes.Base64
import ControlStream.Text.Quoted

/-!
# Decoding errors

The causes for which a JSON value is no record of the control stream, or a text no identifier.
Structural causes concern the shape of the JSON; the others concern a text held by it.
-/

namespace ControlStream

inductive Shape where
  | string
  | boolean
  | unsigned
  | array
  | object
  | bits16
  | bits32
  | fitting32
  | fitting64
  deriving DecidableEq, Repr

def Shape.description : Shape → String
  | .string => "a string"
  | .boolean => "a boolean"
  | .unsigned => "an unsigned integer"
  | .array => "an array"
  | .object => "an object"
  | .bits16 => "a 16-bit integer"
  | .bits32 => "a 32-bit integer"
  | .fitting32 => "a value that fits u32"
  | .fitting64 => "a value that fits u64"

inductive DecodeError where
  | malformedEncoding (cause : Base64.Malformed)
  | unknownCryptoKind (tag : String)
  | malformedTyped (text : String)
  | malformedKeyPair (text : String)
  | unknownUpdateKind (kind : String)
  | unknownMessageType (tag : String)
  | expectedObject (record : String)
  | missingField (field : String)
  | invalidField (field : String) (expected : Shape)
  | unknownVariant (field value : String)
  deriving DecidableEq, Repr

namespace DecodeError

def message : DecodeError → String
  | .malformedEncoding cause => "malformed encoding: " ++ cause.message
  | .unknownCryptoKind tag => "unknown crypto kind: " ++ Text.quote tag
  | .malformedTyped text => "malformed typed value: " ++ Text.quote text
  | .malformedKeyPair text => "malformed key pair: no delimiter in " ++ Text.quote text
  | .unknownUpdateKind kind => "unknown update kind: " ++ Text.quote kind
  | .unknownMessageType tag => "unknown message type: " ++ Text.quote tag
  | .expectedObject record => "expected json object for " ++ record
  | .missingField field => "missing field '" ++ field ++ "'"
  | .invalidField field expected => "field '" ++ field ++ "' must be " ++ expected.description
  | .unknownVariant field value =>
      "field '" ++ field ++ "' has unknown value " ++ Text.quote value

/-- Whether the JSON itself has the wrong shape, rather than a text held by it. -/
def isStructural : DecodeError → Bool
  | .expectedObject _ | .missingField _ | .invalidField .. | .unknownVariant .. => true
  | _ => false

end DecodeError

end ControlStream

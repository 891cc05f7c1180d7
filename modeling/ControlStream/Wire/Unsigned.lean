import ControlStream.Json.Basic

/-!
# Unsigned integers on the wire

An unsigned integer is sent as a JSON integer or, so that no reader loses digits, as a decimal
string: ASCII digits, any number of leading zeros, and one plus sign at most.
-/

namespace ControlStream

/-- The digits of a decimal string without its sign. -/
def unsignedDigits (text : String) : List Char :=
  match text.toList with
  | '+' :: digits => digits
  | digits => digits

/-- The number that a decimal string spells, if it is below `2 ^ 64`. -/
def unsignedOfText? (text : String) : Option (BitVec 64) :=
  let digits := unsignedDigits text
  let value := Nat.ofDigitChars 10 digits 0
  if digits ≠ [] ∧ digits.all Char.isDigit ∧ value < Nat.pow 2 64 then
    some (BitVec.ofNat 64 value)
  else none

def Json.unsigned? : Json → Option (BitVec 64)
  | .number (.natural n) => some n
  | .string text => unsignedOfText? text
  | _ => none

def narrow? (width : Nat) (n : BitVec 64) : Option (BitVec width) :=
  if n.toNat < Nat.pow 2 width then some (n.setWidth width) else none

end ControlStream

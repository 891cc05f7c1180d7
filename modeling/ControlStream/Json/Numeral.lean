import ControlStream.Json.Basic

/-!
# JSON numerals

A numeral is a sign, the digits before the point, the digits after it and an exponent. Without a
point and an exponent it is an integer if it fits 64 bits; minus zero and every other numeral is
a double. A double takes the leading digits that fit a 64-bit significand and scales them by a
power of ten.
-/

namespace ControlStream

/-- The parts of a JSON numeral; `fraction` is empty when there is no point. -/
structure Numeral where
  negative : Bool
  whole : List Char
  fraction : List Char
  exponent : Option Int
  deriving DecidableEq, Repr

namespace Numeral

def readFraction? : List Char → Option (List Char × List Char)
  | '.' :: rest =>
      match rest.takeWhile Char.isDigit with
      | [] => none
      | digits => some (digits, rest.dropWhile Char.isDigit)
  | rest => some ([], rest)

def readDigits? (digits : List Char) : Option Nat :=
  if digits ≠ [] ∧ digits.all Char.isDigit then some (Nat.ofDigitChars 10 digits 0) else none

def readExponent? : List Char → Option Int
  | '-' :: digits => (readDigits? digits).map fun n => -(n : Int)
  | '+' :: digits => (readDigits? digits).map Int.ofNat
  | digits => (readDigits? digits).map Int.ofNat

/-- The numeral that a text spells. The first digit is no zero unless it is the only one before
the point. -/
def ofChars? (text : List Char) : Option Numeral := do
  let negative := text.head? == some '-'
  let unsigned := if negative then text.drop 1 else text
  let whole := unsigned.takeWhile Char.isDigit
  if whole = [] ∨ (whole.head? = some '0' ∧ whole.length ≠ 1) then none
  else do
    let (fraction, rest) ← readFraction? (unsigned.dropWhile Char.isDigit)
    match rest with
    | [] => some ⟨negative, whole, fraction, none⟩
    | letter :: rest =>
        if letter = 'e' ∨ letter = 'E' then do
          let exponent ← readExponent? rest
          some ⟨negative, whole, fraction, some exponent⟩
        else none

/-- Appends digits to a significand as long as it fits 64 bits, and counts the digits that are
left over. -/
def takeDigits (significand : Nat) : List Char → Nat × Nat
  | [] => (significand, 0)
  | c :: rest =>
      let longer := significand * 10 + (c.toNat - 48)
      if longer < Nat.pow 2 64 then takeDigits longer rest else (significand, rest.length + 1)

def toDouble? (numeral : Numeral) : Option Double :=
  let (begun, leftWhole) := takeDigits 0 numeral.whole
  let (significand, leftFraction) := takeDigits begun numeral.fraction
  let places : Nat := numeral.fraction.length - leftFraction
  let exponent := (leftWhole : Int) - places + numeral.exponent.getD 0
  (Magnitude.scaled? significand exponent).map fun magnitude => ⟨numeral.negative, magnitude⟩

def toNumber? (numeral : Numeral) : Option JsonNumber :=
  let value := Nat.ofDigitChars 10 numeral.whole 0
  let isInteger := numeral.fraction = [] ∧ numeral.exponent = none
  if isInteger ∧ ¬ numeral.negative ∧ value < Nat.pow 2 64 then
    some (.natural (BitVec.ofNat 64 value))
  else if isInteger ∧ numeral.negative ∧ 0 < value ∧ value ≤ Nat.pow 2 63 then
    some (.negSucc (BitVec.ofNat 63 (value - 1)))
  else numeral.toDouble?.map .double

end Numeral

end ControlStream

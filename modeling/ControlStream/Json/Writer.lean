import ControlStream.Json.Basic
import ControlStream.Number.Shortest

/-!
# Compact JSON text

No white space is written and an object's fields are written in their order. A string escapes
the double quote, the backslash and the controls below U+0020, and nothing else. A double has the
shortest digits that read back, in plain notation from `10 ^ -5` up to `10 ^ 16`.
-/

namespace ControlStream

namespace Json

/-- Two lower-case hexadecimal digits of a number below 256. -/
def hexPair (n : Nat) : List Char := [Nat.digitChar (n / 16), Nat.digitChar (n % 16)]

def escapeChar (c : Char) : List Char :=
  match c with
  | '"' => ['\\', '"']
  | '\\' => ['\\', '\\']
  | '\x08' => ['\\', 'b']
  | '\x0c' => ['\\', 'f']
  | '\n' => ['\\', 'n']
  | '\r' => ['\\', 'r']
  | '\t' => ['\\', 't']
  | _ => if c.toNat < 0x20 then '\\' :: 'u' :: '0' :: '0' :: hexPair c.toNat else [c]

def writeString (s : String) : List Char := '"' :: (s.toList.flatMap escapeChar ++ ['"'])

/-- The least exponent of a first digit that is written in plain notation. -/
def plainFrom : Int := -5

/-- The first exponent above those written in plain notation. -/
def plainBelow : Int := 16

/-- A sign and digits with the point after the first `places + 1` of them; a whole number gets a
zero after the point. -/
def plainText (digits : List Char) : Int → List Char
  | .ofNat places =>
      if places + 1 < digits.length then
        digits.take (places + 1) ++ '.' :: digits.drop (places + 1)
      else digits ++ List.replicate (places + 1 - digits.length) '0' ++ ['.', '0']
  | .negSucc zeros => '0' :: '.' :: (List.replicate zeros '0' ++ digits)

def exponentText : Int → List Char
  | .ofNat n => '+' :: Nat.toDigits 10 n
  | .negSucc n => '-' :: Nat.toDigits 10 (n + 1)

/-- One digit before the point and the others, if there are any, after it. -/
def scientificText (digits : List Char) (exponent : Int) : List Char :=
  match digits with
  | [] => []
  | [first] => first :: 'e' :: exponentText exponent
  | first :: rest => first :: '.' :: (rest ++ 'e' :: exponentText exponent)

def writeMagnitude (x : Magnitude) : List Char :=
  if x.val = 0 then ['0', '.', '0']
  else
    let decimal := Decimal.shortest x
    let digits := decimal.digits
    let exponent := decimal.exponent + digits.length - 1
    if plainFrom ≤ exponent ∧ exponent < plainBelow then plainText digits exponent
    else scientificText digits exponent

def writeNumber : JsonNumber → List Char
  | .natural n => Nat.toDigits 10 n.toNat
  | .negSucc n => '-' :: Nat.toDigits 10 (n.toNat + 1)
  | .double x => (if x.negative then ['-'] else []) ++ writeMagnitude x.magnitude

mutual

/-- The text of a value, put in front of `rest`. -/
def writeBefore : Json → List Char → List Char
  | .null, rest => 'n' :: 'u' :: 'l' :: 'l' :: rest
  | .bool true, rest => 't' :: 'r' :: 'u' :: 'e' :: rest
  | .bool false, rest => 'f' :: 'a' :: 'l' :: 's' :: 'e' :: rest
  | .number n, rest => writeNumber n ++ rest
  | .string s, rest => writeString s ++ rest
  | .array [], rest => '[' :: ']' :: rest
  | .array (item :: items), rest => '[' :: writeBefore item (writeItems items (']' :: rest))
  | .object [], rest => '\x7b' :: '\x7d' :: rest
  | .object ((key, value) :: fields), rest =>
      '\x7b' :: (writeString key ++ ':' :: writeBefore value (writeFields fields ('\x7d' :: rest)))

/-- The items after the first, each behind a comma. -/
def writeItems : List Json → List Char → List Char
  | [], rest => rest
  | item :: items, rest => ',' :: writeBefore item (writeItems items rest)

def writeFields : List (String × Json) → List Char → List Char
  | [], rest => rest
  | (key, value) :: fields, rest =>
      ',' :: (writeString key ++ ':' :: writeBefore value (writeFields fields rest))

end

def write (value : Json) : String := String.ofList (writeBefore value [])

end Json

end ControlStream

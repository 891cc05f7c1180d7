import ControlStream.Number.Double

/-!
# TOML numbers and moments

Which words are integers, floats, dates and times. Digits may be grouped by single underscores
between them; a decimal number has no leading zero.
-/

namespace ControlStream

namespace Toml

/-- The digits of a group of digits with single underscores between them. -/
def ungroup? (isDigit : Char → Bool) : List Char → Option (List Char)
  | [] => none
  | [c] => if isDigit c then some [c] else none
  | c :: '_' :: rest => if isDigit c then (ungroup? isDigit rest).map (c :: ·) else none
  | c :: rest => if isDigit c then (ungroup? isDigit rest).map (c :: ·) else none

def isHexDigit (c : Char) : Bool :=
  c.isDigit || ('a' ≤ c && c ≤ 'f') || ('A' ≤ c && c ≤ 'F')

def hexDigit (c : Char) : Nat :=
  if c.isDigit then c.toNat - 48
  else if 'a' ≤ c then c.toNat - 87
  else c.toNat - 55

def digitsIn (base : Nat) (digits : List Char) : Nat :=
  digits.foldl (fun n c => base * n + hexDigit c) 0

def splitSign : List Char → Bool × List Char
  | '-' :: rest => (true, rest)
  | '+' :: rest => (false, rest)
  | rest => (false, rest)

def wholeDigits? (text : List Char) : Option (List Char) := do
  let digits ← ungroup? Char.isDigit text
  if digits.head? = some '0' ∧ digits.length ≠ 1 then none else some digits

/-- Whether digits in a base make a number below `2 ^ 63`. -/
def fits (base : Nat) (isDigit : Char → Bool) (text : List Char) : Bool :=
  match ungroup? isDigit text with
  | some digits => digitsIn base digits < Nat.pow 2 63
  | none => false

def isInteger (word : List Char) : Bool :=
  match word with
  | '0' :: 'x' :: digits => fits 16 isHexDigit digits
  | '0' :: 'o' :: digits => fits 8 (fun c => '0' ≤ c && c ≤ '7') digits
  | '0' :: 'b' :: digits => fits 2 (fun c => c == '0' || c == '1') digits
  | _ =>
      let (negative, unsigned) := splitSign word
      match wholeDigits? unsigned with
      | some digits => digitsIn 10 digits < Nat.pow 2 63 + (if negative then 1 else 0)
      | none => false

/-- The value of an exponent, which may be empty. -/
def exponent? : List Char → Option Int
  | [] => some 0
  | _ :: text => do
      let (negative, unsigned) := splitSign text
      let digits ← ungroup? Char.isDigit unsigned
      let n : Int := digitsIn 10 digits
      return if negative then -n else n

/-- Whether a word is a float: a decimal number with a fraction, an exponent or both, or one of
the names of infinity and of no number. A positive number too large for a double is none. -/
def isFloat (word : List Char) : Bool :=
  let (negative, unsigned) := splitSign word
  if unsigned = ['i', 'n', 'f'] ∨ unsigned = ['n', 'a', 'n'] then true
  else
    let mantissa := unsigned.takeWhile fun c => c != 'e' && c != 'E'
    let power := unsigned.drop mantissa.length
    let whole := mantissa.takeWhile (· != '.')
    let fraction := mantissa.drop whole.length
    let fractionDigits? :=
      match fraction with
      | [] => some []
      | _ :: digits => ungroup? Char.isDigit digits
    match wholeDigits? whole, fractionDigits?, exponent? power with
    | some wholeDigits, some fractionDigits, some exponent =>
        let digits := wholeDigits ++ fractionDigits
        let significand := digitsIn 10 digits
        let tooLarge := Magnitude.overflows significand digits.length
          (exponent - fractionDigits.length)
        (!fraction.isEmpty || !power.isEmpty) && (negative || !tooLarge)
    | _, _, _ => false

/-- The number that exactly `count` digits at the front make, and the rest. -/
def takeNumber? (count : Nat) (text : List Char) : Option (Nat × List Char) :=
  let digits := text.take count
  if digits.length = count ∧ digits.all Char.isDigit then
    some (digitsIn 10 digits, text.drop count)
  else none

def daysInMonth (year month : Nat) : Nat :=
  if month = 2 then
    if year % 4 = 0 ∧ (year % 100 ≠ 0 ∨ year % 400 = 0) then 29 else 28
  else if month = 4 ∨ month = 6 ∨ month = 9 ∨ month = 11 then 30
  else 31

def skipDate? (text : List Char) : Option (List Char) := do
  let (year, rest) ← takeNumber? 4 text
  guard (rest.head? = some '-')
  let (month, rest) ← takeNumber? 2 (rest.drop 1)
  guard (rest.head? = some '-')
  let (day, rest) ← takeNumber? 2 (rest.drop 1)
  guard (1 ≤ month ∧ month ≤ 12 ∧ 1 ≤ day ∧ day ≤ daysInMonth year month)
  return rest

def skipTime? (text : List Char) : Option (List Char) := do
  let (hour, rest) ← takeNumber? 2 text
  guard (rest.head? = some ':')
  let (minute, rest) ← takeNumber? 2 (rest.drop 1)
  guard (rest.head? = some ':')
  let (second, rest) ← takeNumber? 2 (rest.drop 1)
  guard (hour ≤ 23 ∧ minute ≤ 59 ∧ second ≤ 60)
  match rest with
  | '.' :: fraction =>
      guard ((fraction.takeWhile Char.isDigit) ≠ [])
      return fraction.dropWhile Char.isDigit
  | _ => return rest

/-- Whether a text is the offset of a moment from universal time, or no offset at all. -/
def isOffset (text : List Char) : Bool :=
  match text with
  | [] | ['Z'] | ['z'] => true
  | sign :: rest =>
      (sign == '+' || sign == '-') &&
        match takeNumber? 2 rest with
        | some (hour, ':' :: minutes) =>
            match takeNumber? 2 minutes with
            | some (minute, []) => hour ≤ 23 && minute ≤ 59
            | _ => false
        | _ => false

/-- Whether a word is a date, a time of day, or both with a letter `T` between them. -/
def isMoment (word : List Char) : Bool :=
  match skipDate? word with
  | some [] => true
  | some (mark :: time) =>
      (mark == 'T' || mark == 't') &&
        match skipTime? time with
        | some offset => isOffset offset
        | none => false
  | none => skipTime? word == some []

end Toml

end ControlStream

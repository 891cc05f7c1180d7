import ControlStream.Number.Double

/-!
# The shortest decimal that reads back

Of the decimals whose nearest double is a given one, the shortest has the fewest significant
digits and is the closest of those. For one digit, two digits and so on, the two neighbours of
the value on the grid with so many digits are tried; if a decimal of that length reads back, one
of the two does. The exact expansion reads back in any case, so there is always an answer.
-/

namespace ControlStream

/-- The number `coefficient * 10 ^ exponent`. -/
structure Decimal where
  coefficient : Nat
  exponent : Int
  deriving DecidableEq, Repr

namespace Decimal

def nearest? (d : Decimal) : Option Magnitude :=
  match d.exponent with
  | .ofNat power => Magnitude.ofRatio? (d.coefficient * Nat.pow 10 power * Magnitude.unitsPerOne) 1
  | .negSucc less =>
      Magnitude.ofRatio? (d.coefficient * Magnitude.unitsPerOne) (Nat.pow 10 (less + 1))

/-- Drops the zeros that end the coefficient, at most `count` of them. -/
def stripZeros : (count : Nat) → Decimal → Decimal
  | 0, d => d
  | count + 1, d =>
      if d.coefficient % 10 = 0 then stripZeros count ⟨d.coefficient / 10, d.exponent + 1⟩
      else d

def width (n : Nat) : Nat := (Nat.toDigits 10 n).length

/-- A power of ten that lifts every positive double above one. -/
def lift : Nat := 330

/-- The exponent of the first significant digit of a positive double. -/
def leadingExponent (x : Magnitude) : Int :=
  (width (x.units * Nat.pow 10 lift / Magnitude.unitsPerOne) : Int) - 1 - lift

/-- The quotient of a double by a power of ten, as numerator and denominator. -/
def ratioTo (x : Magnitude) : Int → Nat × Nat
  | .ofNat power => (x.units, Magnitude.unitsPerOne * Nat.pow 10 power)
  | .negSucc less => (x.units * Nat.pow 10 (less + 1), Magnitude.unitsPerOne)

/-- The better neighbour of a double on the grid of `10 ^ exponent` that reads back, if one does;
at the same distance the even one. -/
def onGrid? (x : Magnitude) (exponent : Int) : Option Decimal :=
  let (num, den) := ratioTo x exponent
  let below : Decimal := ⟨num / den, exponent⟩
  let above : Decimal := ⟨num / den + 1, exponent⟩
  let twice := 2 * (num % den)
  let belowFirst := twice < den ∨ (twice = den ∧ num / den % 2 = 0)
  let order := if belowFirst then [below, above] else [above, below]
  order.find? fun d => d.nearest? == some x

def exact (x : Magnitude) : Decimal := ⟨x.units * Nat.pow 5 1074, -1074⟩

def shortest (x : Magnitude) : Decimal :=
  let leading := leadingExponent x
  let found := (List.range 17).findSome? fun (more : Nat) => onGrid? x (leading - more)
  let d := found.getD (exact x)
  stripZeros (width d.coefficient) d

def digits (d : Decimal) : List Char := Nat.toDigits 10 d.coefficient

end Decimal

end ControlStream

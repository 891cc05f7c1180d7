/-!
# Finite doubles

A finite binary64 value is a sign and a magnitude, and a magnitude is known by its rank: how many
smaller non-negative doubles there are. The ranks below `2 ^ 53` are the multiples of the least
positive double, `2 ^ -1074`; after them each `2 ^ 52` ranks take steps of twice the size. All
arithmetic is exact, in that least unit, and rounds once: to the nearest rank, a tie to the even
one.
-/

namespace ControlStream

/-- How many doubles lie in a binade, from a power of two up to the next. -/
def binadeSize : Nat := Nat.pow 2 52

def finiteCount : Nat := 2047 * binadeSize

/-- The rank of a finite non-negative double. -/
abbrev Magnitude := Fin finiteCount

structure Double where
  negative : Bool
  magnitude : Magnitude
  deriving DecidableEq, Repr

namespace Magnitude

def unitsPerOne : Nat := Nat.pow 2 1074

def unitsOfRank (rank : Nat) : Nat :=
  if rank < 2 * binadeSize then rank
  else (binadeSize + rank % binadeSize) * Nat.pow 2 (rank / binadeSize - 1)

def units (magnitude : Magnitude) : Nat := unitsOfRank magnitude.val

/-- A quotient rounded to the nearest natural number, a tie to the even one. -/
def roundRatio (num den : Nat) : Nat :=
  let floor := num / den
  let twice := 2 * (num % den)
  if twice < den then floor
  else if den < twice then floor + 1
  else floor + floor % 2

/-- The rank nearest to `num / den` least units. The shift is that of the binade which holds the
quotient, and a significand rounded up to the next binade carries into the rank by itself. -/
def nearestRank (num den : Nat) : Nat :=
  let shift := (num / den).log2 - 52
  shift * binadeSize + roundRatio num (den * Nat.pow 2 shift)

/-- The magnitude nearest to `num / den` least units, unless it is too large to be finite. -/
def ofRatio? (num den : Nat) : Option Magnitude :=
  let rank := nearestRank num den
  if finite : rank < finiteCount then some ⟨rank, finite⟩ else none

def zero : Magnitude := ⟨0, by decide⟩

def ofNat? (n : Nat) : Option Magnitude := ofRatio? (n * unitsPerOne) 1

def mul? (x y : Magnitude) : Option Magnitude := ofRatio? (x.units * y.units) unitsPerOne

def div? (x y : Magnitude) : Option Magnitude := ofRatio? (x.units * unitsPerOne) y.units

/-- The greatest exponent whose power of ten is finite. -/
def maxPower : Nat := 308

def powerOfTen (exponent : Nat) : Magnitude := (ofNat? (Nat.pow 10 exponent)).getD zero

/-- Divides by a power of ten, by at most `maxPower` of them at a time, until nothing is left. -/
def divPowerOfTen (exponent : Nat) (x : Magnitude) : Magnitude :=
  if exponent ≤ maxPower then (x.div? (powerOfTen exponent)).getD zero
  else if x.val = 0 then x
  else divPowerOfTen (exponent - maxPower) ((x.div? (powerOfTen maxPower)).getD zero)
termination_by exponent
decreasing_by simp_all [maxPower]; omega

/-- The least whole number whose nearest magnitude is too large: it lies half a step above the
greatest double, and a tie goes to the even rank, which is the one beyond. -/
def overflowBound : Nat := (Nat.pow 2 54 - 1) * Nat.pow 2 970

/-- Whether a significand of at most `digits` digits, scaled by a power of ten, is too large for a
double. A number below one is not, and one scaled beyond `maxPower` is unless it is zero. -/
def overflows (significand digits : Nat) (exponent : Int) : Bool :=
  match exponent with
  | .ofNat power =>
      significand != 0 &&
        (maxPower < power || overflowBound ≤ significand * Nat.pow 10 power)
  | .negSucc less =>
      less + 1 < digits && overflowBound * Nat.pow 10 (less + 1) ≤ significand

/-- A significand scaled by a power of ten. The significand is rounded first, and the product or
quotient with the rounded power after it, so the result can be one rank away from the nearest. -/
def scaled? (significand : Nat) (exponent : Int) : Option Magnitude := do
  let whole ← ofNat? significand
  match exponent with
  | .ofNat power =>
      if power ≤ maxPower then whole.mul? (powerOfTen power)
      else if whole.val = 0 then some whole
      else none
  | .negSucc less => some (divPowerOfTen (less + 1) whole)

end Magnitude

end ControlStream

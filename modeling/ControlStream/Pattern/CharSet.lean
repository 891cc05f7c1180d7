/-!
# Sets of characters

A set is a list of ranges of code points, in no order. Ranges may overlap, none is empty, and
none reaches into the surrogates, so a set without ranges is the empty one.
-/

namespace ControlStream

/-- First and last code point of each range. -/
structure CharSet where
  ranges : List (Nat × Nat)
  deriving DecidableEq, Repr

namespace CharSet

def empty : CharSet := ⟨[]⟩

/-- Every character: the code points on both sides of the surrogates. -/
def all : CharSet := ⟨[(0, 0xD7FF), (0xE000, 0x10FFFF)]⟩

def contains (set : CharSet) (c : Char) : Bool :=
  set.ranges.any fun range => range.1 ≤ c.toNat && c.toNat ≤ range.2

def union (left right : CharSet) : CharSet := ⟨left.ranges ++ right.ranges⟩

def common (left right : Nat × Nat) : List (Nat × Nat) :=
  let first := max left.1 right.1
  let last := min left.2 right.2
  if first ≤ last then [(first, last)] else []

def inter (left right : CharSet) : CharSet :=
  ⟨left.ranges.flatMap fun range => right.ranges.flatMap (common range)⟩

def without (range taken : Nat × Nat) : List (Nat × Nat) :=
  if taken.2 < range.1 ∨ range.2 < taken.1 then [range]
  else
    (if range.1 < taken.1 then [(range.1, taken.1 - 1)] else []) ++
      (if taken.2 < range.2 then [(taken.2 + 1, range.2)] else [])

def diff (left right : CharSet) : CharSet :=
  ⟨right.ranges.foldl (fun ranges taken => ranges.flatMap fun range => without range taken)
    left.ranges⟩

def complement (set : CharSet) : CharSet := diff all set

def symmDiff (left right : CharSet) : CharSet := union (diff left right) (diff right left)

def ofRange (first last : Char) : CharSet := inter ⟨[(first.toNat, last.toNat)]⟩ all

def ofChar (c : Char) : CharSet := ⟨[(c.toNat, c.toNat)]⟩

def ofRanges (ranges : List (Char × Char)) : CharSet :=
  ranges.foldr (fun range set => union (ofRange range.1 range.2) set) empty

/-- A set with the other case of each of its ASCII letters. -/
def closeCase (set : CharSet) : CharSet :=
  let shift (letters : CharSet) (move : Nat → Nat) : CharSet :=
    ⟨(inter set letters).ranges.map fun range => (move range.1, move range.2)⟩
  union set (union (shift (ofRange 'A' 'Z') (· + 32)) (shift (ofRange 'a' 'z') (· - 32)))

/-- A range and the ranges after it, each of which starts no earlier than the one before it, with
those joined that overlap or touch. -/
def joinRanges (range : Nat × Nat) : List (Nat × Nat) → List (Nat × Nat)
  | [] => [range]
  | next :: rest =>
      if next.1 ≤ range.2 + 1 then joinRanges (range.1, max range.2 next.2) rest
      else range :: joinRanges next rest

/-- The same set by as few ranges as there can be, in increasing order. -/
def canonical (set : CharSet) : CharSet :=
  match set.ranges.mergeSort fun left right => left.1 ≤ right.1 with
  | [] => empty
  | range :: rest => ⟨joinRanges range rest⟩

def bound (set : CharSet) : Nat := set.ranges.foldl (fun bound range => max bound range.2) 0

def isAscii (set : CharSet) : Bool := set.bound ≤ 0x7F

end CharSet

end ControlStream

import ControlStream.Pattern.CharSet

/-!
# Ranges of characters as ranges of bytes

The encoded characters of a range are those whose bytes lie, one by one, in the byte ranges of one
of several sequences. Each sequence belongs to characters of one length, and all but one of its
byte ranges from some point on are full.
-/

namespace ControlStream

namespace Pattern

/-- The least and the greatest byte of a range. -/
abbrev ByteRange := Nat × Nat

def encoded (code : Nat) : List Nat :=
  let tail (shift : Nat) : Nat := 0x80 + code / shift % 64
  if code < 0x80 then [code]
  else if code < 0x800 then [0xC0 + code / 64, tail 1]
  else if code < 0x10000 then [0xE0 + code / 4096, tail 64, tail 1]
  else [0xF0 + code / 262144, tail 4096, tail 64, tail 1]

/-- The code points of each length, without the surrogates. -/
def lengthRanges : List (Nat × Nat) :=
  [(0, 0x7F), (0x80, 0x7FF), (0x800, 0xD7FF), (0xE000, 0xFFFF), (0x10000, 0x10FFFF)]

/-- Cuts a range at the ends of blocks of a size, so that each piece lies in one block or fills
several of them. -/
def alignTo (size : Nat) (range : Nat × Nat) : List (Nat × Nat) :=
  if range.1 / size = range.2 / size then [range]
  else
    let start := (range.1 + size - 1) / size * size
    let stop := (range.2 + 1) / size * size
    (if range.1 < start then [(range.1, start - 1)] else []) ++
      (if start < stop then [(start, stop - 1)] else []) ++
      (if stop ≤ range.2 then [(stop, range.2)] else [])

/-- The sequences of a range of code points, in increasing order. -/
def byteSequences (range : Nat × Nat) : List (List ByteRange) :=
  (lengthRanges.flatMap (CharSet.common range)).flatMap fun piece =>
    let aligned :=
      if piece.2 < 0x80 then [piece]
      else ((alignTo 64 piece).flatMap (alignTo 4096)).flatMap (alignTo 262144)
    aligned.map fun piece => List.zip (encoded piece.1) (encoded piece.2)

end Pattern

end ControlStream

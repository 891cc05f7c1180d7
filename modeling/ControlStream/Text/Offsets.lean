/-!
# Byte offsets of characters

A text is counted in characters and cut at byte offsets. Each character comes with the offset of
its first byte.
-/

namespace ControlStream

namespace Text

/-- The characters with the byte offsets at which they begin, the first of them at `start`. -/
def charIndices (start : String.Pos.Raw) : List Char → List (String.Pos.Raw × Char)
  | [] => []
  | c :: rest => (start, c) :: charIndices (start + c) rest

end Text

end ControlStream

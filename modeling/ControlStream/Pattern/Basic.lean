import ControlStream.Pattern.CharSet

/-!
# Patterns

A pattern describes parts of a text. Its places ask what stands before and after a position; word
characters are the ASCII letters, digits and the underscore.
-/

namespace ControlStream

namespace Pattern

inductive Place where
  | textStart
  | textEnd
  | lineStart
  | lineEnd
  /-- A line start where a carriage return, with or without a line feed, ends lines too. -/
  | anyLineStart
  | anyLineEnd
  | wordEdge
  | noWordEdge
  | wordStart
  | wordEnd
  /-- Not after a word character. -/
  | wordStartHalf
  /-- Not before a word character. -/
  | wordEndHalf
  deriving DecidableEq, Repr

def isWordChar (c : Char) : Bool := c.isAlphanum || c == '_'

namespace Place

/-- Whether a position is such a place, by the characters before and after it. -/
def holds (place : Place) (before after : Option Char) : Bool :=
  let wordBefore := before.any isWordChar
  let wordAfter := after.any isWordChar
  match place with
  | textStart => before.isNone
  | textEnd => after.isNone
  | lineStart => before.isNone || before == some '\n'
  | lineEnd => after.isNone || after == some '\n'
  | anyLineStart =>
      before.isNone || before == some '\n' || (before == some '\r' && after != some '\n')
  | anyLineEnd =>
      after.isNone || after == some '\r' || (after == some '\n' && before != some '\r')
  | wordEdge => wordBefore != wordAfter
  | noWordEdge => wordBefore == wordAfter
  | wordStart => !wordBefore && wordAfter
  | wordEnd => wordBefore && !wordAfter
  | wordStartHalf => !wordBefore
  | wordEndHalf => !wordAfter

end Place

end Pattern

/-- A pattern; `both` and `either` chain to the right. -/
inductive Pattern where
  /-- The empty text. -/
  | empty
  /-- A text that is not empty. -/
  | literal (text : List Char)
  /-- One character of a set. `asByte` says that the set was written as one of bytes. -/
  | char (set : CharSet) (asByte : Bool)
  | place (place : Pattern.Place)
  /-- A place that asks for word characters beyond ASCII, which are not known here. -/
  | foreignPlace
  /-- A part in parentheses that is counted among the groups. -/
  | group (inner : Pattern)
  | both (first rest : Pattern)
  | either (first rest : Pattern)
  /-- A pattern several times in a row. `short` says that few times are preferred to many, which
  does not matter for what is described. -/
  | repeated (inner : Pattern) (least : Nat) (most : Option Nat) (short : Bool)
  deriving DecidableEq, Repr

end ControlStream

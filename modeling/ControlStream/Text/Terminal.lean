/-!
# Text without terminal control sequences

A text for a terminal can hold sequences that move, colour or name things instead of being shown.
A reader goes over the text and knows in what kind of sequence it stands; what lies in a sequence
is left out, and so are controls that are no layout. An escape character begins a new sequence
wherever it stands.
-/

namespace ControlStream

namespace Terminal

inductive Place where
  /-- Outside of all sequences. -/
  | ground
  /-- After an escape character. -/
  | escape
  /-- After an escape character and others that do not end the sequence. -/
  | escapeTail
  /-- In a control sequence, up to its final character. -/
  | control
  /-- At the start of the head of a device control string. -/
  | device
  /-- After parameters in the head of a device control string. -/
  | deviceParameter
  /-- At the end of the head of a device control string, where no parameter may stand. -/
  | deviceTail
  /-- In the body of a device control string, or in a string of no further meaning. -/
  | body
  /-- In an operating system command, which a bell ends. -/
  | systemCommand
  deriving DecidableEq, Repr

def escapeChar : Char := '\x1b'

/-- The controls that break off a sequence. -/
def isCancel (c : Char) : Bool := c == '\x18' || c == '\x1a'

def isIntermediate (c : Char) : Bool := '\x20' ≤ c && c ≤ '\x2f'

def isParameter (c : Char) : Bool := '\x30' ≤ c && c ≤ '\x3f'

/-- The parameters that mark a private sequence, and may only come first. -/
def isPrivateMark (c : Char) : Bool := '\x3c' ≤ c && c ≤ '\x3f'

/-- The characters that end the head of a control sequence or of a device control string. -/
def isFinal (c : Char) : Bool := '\x40' ≤ c && c ≤ '\x7e'

/-- Whether the encoding of a character holds the byte that terminates a string. -/
def holdsTerminator (c : Char) : Bool := (String.utf8EncodeChar c).contains 0x9C

namespace Place

/-- Where the character after an escape character leads. -/
def ofEscaped (c : Char) : Place :=
  if c = '[' then .control
  else if c = ']' then .systemCommand
  else if c = 'P' then .device
  else if c = 'X' ∨ c = '^' ∨ c = '_' then .body
  else if isIntermediate c then .escapeTail
  else if isParameter c ∨ isFinal c then .ground
  else .escape

def next (place : Place) (c : Char) : Place :=
  if c = escapeChar then .escape
  else if isCancel c then .ground
  else
    match place with
    | .ground => .ground
    | .escape => ofEscaped c
    | .escapeTail => if isParameter c ∨ isFinal c then .ground else .escapeTail
    | .control => if isFinal c then .ground else .control
    | .device =>
        if isFinal c then .body
        else if isIntermediate c then .deviceTail
        else if isParameter c then .deviceParameter
        else .device
    | .deviceParameter =>
        if isFinal c ∨ isPrivateMark c then .body
        else if isIntermediate c then .deviceTail
        else .deviceParameter
    | .deviceTail => if isFinal c ∨ isParameter c then .body else .deviceTail
    | .body => if holdsTerminator c then .ground else .body
    | .systemCommand => if c = '\x07' then .ground else .systemCommand

end Place

def isLayout (c : Char) : Bool := c == '\t' || c == '\n' || c == '\x0c' || c == '\r'

/-- Whether a character outside of all sequences is shown. -/
def isPlain (c : Char) : Bool := isLayout c || ('\x20' ≤ c && c != '\x7f')

/-- Whether a character is shown at a place. A control that lays text out is also shown in an
escape or control sequence, which goes on after it. -/
def Place.shows (place : Place) (c : Char) : Bool :=
  match place with
  | .ground => isPlain c
  | .escape | .escapeTail | .control => isLayout c
  | .device | .deviceParameter | .deviceTail | .body | .systemCommand => false

/-- A reader, and whether the last character was shown. A run of shown characters goes on as long
as the characters are plain ones, also where it began inside a sequence. -/
structure Reader where
  place : Place := .ground
  showing : Bool := true

/-- Goes over a character, and says whether it is shown. A character of several bytes that is shown
ends every sequence. -/
def Reader.step (reader : Reader) (c : Char) : Reader × Bool :=
  if reader.showing && isPlain c then
    ({ place := if '\x7f' < c then .ground else reader.place, showing := true }, true)
  else
    let shown := reader.place.shows c
    ({ place := reader.place.next c, showing := shown }, shown)

def plainFrom (reader : Reader) : List Char → List Char
  | [] => []
  | c :: rest =>
      let (reader, shown) := reader.step c
      if shown then c :: plainFrom reader rest else plainFrom reader rest

def plain (text : List Char) : List Char := plainFrom {} text

end Terminal

end ControlStream

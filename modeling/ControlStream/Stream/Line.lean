import ControlStream.Bytes.Utf8
import ControlStream.Json.Reader
import ControlStream.Message

/-!
# Lines of a capture

A capture is split at line feeds, before anything is known of its text. A line of blanks stands
for nothing; every other line is UTF-8 text that holds one JSON value, which is one message.
-/

namespace ControlStream

abbrev Line := List UInt8

def lineFeed : UInt8 := 10

/-- The pieces between line feeds: one more than there are line feeds. -/
def splitPieces (bytes : List UInt8) : Line × List Line :=
  bytes.foldr
    (fun byte pieces =>
      if byte = lineFeed then ([], pieces.1 :: pieces.2) else (byte :: pieces.1, pieces.2))
    ([], [])

@[simp] theorem splitPieces_nil : splitPieces [] = ([], []) := rfl

theorem splitPieces_cons (byte : UInt8) (bytes : List UInt8) :
    splitPieces (byte :: bytes) =
      if byte = lineFeed then ([], (splitPieces bytes).1 :: (splitPieces bytes).2)
      else (byte :: (splitPieces bytes).1, (splitPieces bytes).2) := rfl

/-- The lines that a line feed ends, and what follows the last of them. -/
def splitLines (bytes : List UInt8) : List Line × Line :=
  let pieces := (splitPieces bytes).1 :: (splitPieces bytes).2
  (pieces.dropLast, pieces.getLastD [])

def isBlankByte (byte : UInt8) : Bool :=
  byte == 0x20 || byte == 0x09 || byte == 0x0A || byte == 0x0D || byte == 0x0C

def isBlankLine (line : Line) : Bool := line.all isBlankByte

/-- How a reader of JSON words what is wrong with a text that it refuses. The wording is its own
and hangs on the text alone: runs are defined for whatever it is. -/
class Json.Wording where
  /-- What follows the colon of `invalid json:`, the blank included. -/
  refusal : List Char → String

/-- The reader of this library says no more than that it refuses a text. -/
instance Json.Wording.silent : Json.Wording := ⟨fun _ => ""⟩

inductive LineFault where
  | utf8 (cause : Utf8.Malformed)
  | notJson (text : List Char)
  | decode (cause : DecodeError)
  deriving DecidableEq, Repr

namespace LineFault

/-- A text that is no JSON, whichever it is. -/
@[match_pattern] abbrev json {text : List Char} : LineFault := .notJson text

def message [Json.Wording] : LineFault → String
  | .utf8 cause => "invalid utf-8: " ++ cause.message
  | .notJson text => "invalid json:" ++ Json.Wording.refusal text
  | .decode cause => cause.message

end LineFault

namespace Line

def value (line : Line) : Except LineFault Json :=
  match Utf8.decode line with
  | .error cause => .error (.utf8 cause)
  | .ok text =>
      match Json.ofChars? text with
      | none => .error (.notJson text)
      | some value => .ok value

def message (line : Line) : Except LineFault Message := do
  let value ← value line
  match Message.read value with
  | .ok message => .ok message
  | .error cause => .error (.decode cause)

def notes (line : Line) : List LogRecord :=
  match value line with
  | .ok value => Message.notes value
  | .error _ => []

end Line

end ControlStream

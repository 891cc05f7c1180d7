import ControlStream.Json.Numeral

/-!
# Reading JSON text

The reader takes one character at a time. Its scanner stands between tokens or inside a word or
a string; its place says what the next token may be and keeps the containers that are open, the
innermost first. Words (literals and numerals) end at the first character that belongs to white
space, to a string or to the punctuation. A text is the RFC 8259 grammar with at most
`Reader.maxDepth` containers open at once, and of several fields with one key the last counts.
-/

namespace ControlStream

namespace Json

inductive Mark where
  | arrayOpen
  | arrayClose
  | objectOpen
  | objectClose
  | comma
  | colon
  deriving DecidableEq, Repr

def Mark.ofChar? : Char → Option Mark
  | '[' => some .arrayOpen
  | ']' => some .arrayClose
  | '\x7b' => some .objectOpen
  | '\x7d' => some .objectClose
  | ',' => some .comma
  | ':' => some .colon
  | _ => none

/-- A container around the value that comes next, with what it holds so far, last first. -/
inductive Frame where
  | array (done : List Json)
  | object (done : List (String × Json)) (key : String)

/-- What the next token may be. `outer` holds the containers around it, innermost first. -/
inductive Place where
  | nextValue (outer : List Frame)
  | firstItem (outer : List Frame)
  | afterItem (done : List Json) (outer : List Frame)
  | firstKey (outer : List Frame)
  | nextKey (done : List (String × Json)) (outer : List Frame)
  | colon (done : List (String × Json)) (key : String) (outer : List Frame)
  | afterField (done : List (String × Json)) (outer : List Frame)
  | finished (value : Json)

namespace Place

/-- How many containers may be open at once. -/
def maxDepth : Nat := 127

/-- Puts a finished value into the container around it. -/
def deliver (value : Json) : List Frame → Place
  | [] => .finished value
  | .array done :: outer => .afterItem (value :: done) outer
  | .object done key :: outer => .afterField ((key, value) :: done) outer

/-- Opens a container, unless too many are open. -/
def openMark (mark : Mark) (outer : List Frame) : Option Place :=
  if maxDepth ≤ outer.length then none
  else match mark with
    | .arrayOpen => some (.firstItem outer)
    | .objectOpen => some (.firstKey outer)
    | _ => none

def scalar (value : Json) : Place → Option Place
  | .nextValue outer => some (deliver value outer)
  | .firstItem outer => some (deliver value (.array [] :: outer))
  | _ => none

/-- A string, which is a value or a key. -/
def text (s : String) : Place → Option Place
  | .firstKey outer => some (.colon [] s outer)
  | .nextKey done outer => some (.colon done s outer)
  | place => place.scalar (.string s)

def mark (mark : Mark) : Place → Option Place
  | .nextValue outer => openMark mark outer
  | .firstItem outer =>
      if mark = .arrayClose then some (deliver (.array []) outer)
      else openMark mark (.array [] :: outer)
  | .afterItem done outer =>
      match mark with
      | .comma => some (.nextValue (.array done :: outer))
      | .arrayClose => some (deliver (.array done.reverse) outer)
      | _ => none
  | .firstKey outer => if mark = .objectClose then some (deliver (.object []) outer) else none
  | .colon done key outer =>
      if mark = .colon then some (.nextValue (.object done key :: outer)) else none
  | .afterField done outer =>
      match mark with
      | .comma => some (.nextKey done outer)
      | .objectClose => some (deliver (ofMembers done.reverse) outer)
      | _ => none
  | _ => none

end Place

def ofWord? (word : List Char) : Option Json :=
  if word = ['n', 'u', 'l', 'l'] then some .null
  else if word = ['t', 'r', 'u', 'e'] then some (.bool true)
  else if word = ['f', 'a', 'l', 's', 'e'] then some (.bool false)
  else (Numeral.ofChars? word).bind fun numeral => numeral.toNumber?.map .number

/-- Where the scanner stands. Characters are kept last first. Inside the escape of a UTF-16 unit,
`high` is the high surrogate before it, `count` the number of digits read and `unit` their
value. -/
inductive Scan where
  | between
  | word (chars : List Char)
  | text (chars : List Char)
  | escape (chars : List Char)
  | unit (chars : List Char) (high : Option Nat) (count unit : Nat)
  | lowEscape (chars : List Char) (high : Nat)
  | lowLetter (chars : List Char) (high : Nat)

def unescape? : Char → Option Char
  | '"' => some '"'
  | '\\' => some '\\'
  | '/' => some '/'
  | 'b' => some '\x08'
  | 'f' => some '\x0c'
  | 'n' => some '\n'
  | 'r' => some '\r'
  | 't' => some '\t'
  | _ => none

def hexValue? (c : Char) : Option Nat :=
  if c.isDigit then some (c.toNat - 48)
  else if 'a' ≤ c ∧ c ≤ 'f' then some (c.toNat - 87)
  else if 'A' ≤ c ∧ c ≤ 'F' then some (c.toNat - 55)
  else none

def isHighSurrogate (unit : Nat) : Bool := 0xD800 ≤ unit && unit < 0xDC00

def isLowSurrogate (unit : Nat) : Bool := 0xDC00 ≤ unit && unit < 0xE000

/-- What follows a whole UTF-16 unit: surrogates stand in pairs only. -/
def Scan.closeUnit (chars : List Char) (high : Option Nat) (unit : Nat) : Option Scan :=
  match high with
  | none =>
      if isHighSurrogate unit then some (.lowEscape chars unit)
      else if isLowSurrogate unit then none
      else some (.text (Char.ofNat unit :: chars))
  | some high =>
      if isLowSurrogate unit then
        some (.text (Char.ofNat (0x10000 + (high - 0xD800) * 0x400 + (unit - 0xDC00)) :: chars))
      else none

def isSpace (c : Char) : Bool := c == ' ' || c == '\t' || c == '\n' || c == '\r'

def continuesWord (c : Char) : Bool :=
  !isSpace c && c != '"' && (Mark.ofChar? c).isNone

structure Reader where
  scan : Scan
  place : Place

namespace Reader

def start : Reader := ⟨.between, .nextValue []⟩

def begin (place : Place) (c : Char) : Option Reader :=
  if isSpace c then some ⟨.between, place⟩
  else if c = '"' then some ⟨.text [], place⟩
  else match Mark.ofChar? c with
    | some mark => (place.mark mark).map fun next => ⟨.between, next⟩
    | none => some ⟨.word [c], place⟩

def closeWord (chars : List Char) (place : Place) : Option Place :=
  (ofWord? chars.reverse).bind place.scalar

def step (reader : Reader) (c : Char) : Option Reader :=
  let place := reader.place
  match reader.scan with
  | .between => begin place c
  | .word chars =>
      if continuesWord c then some ⟨.word (c :: chars), place⟩
      else (closeWord chars place).bind fun next => begin next c
  | .text chars =>
      if c = '"' then
        (place.text (String.ofList chars.reverse)).map fun next => ⟨.between, next⟩
      else if c = '\\' then some ⟨.escape chars, place⟩
      else if c.toNat < 0x20 then none
      else some ⟨.text (c :: chars), place⟩
  | .escape chars =>
      if c = 'u' then some ⟨.unit chars none 0 0, place⟩
      else (unescape? c).map fun d => ⟨.text (d :: chars), place⟩
  | .unit chars high count unit =>
      (hexValue? c).bind fun digit =>
        let longer := unit * 16 + digit
        if count < 3 then some ⟨.unit chars high (count + 1) longer, place⟩
        else (Scan.closeUnit chars high longer).map fun scan => ⟨scan, place⟩
  | .lowEscape chars high =>
      if c = '\\' then some ⟨.lowLetter chars high, place⟩ else none
  | .lowLetter chars high =>
      if c = 'u' then some ⟨.unit chars (some high) 0 0, place⟩ else none

def finish (reader : Reader) : Option Json :=
  match reader.scan, reader.place with
  | .between, .finished value => some value
  | .word chars, place =>
      match closeWord chars place with
      | some (.finished value) => some value
      | _ => none
  | _, _ => none

end Reader

def ofChars? (text : List Char) : Option Json :=
  (text.foldlM Reader.step Reader.start).bind Reader.finish

def read? (text : String) : Option Json := ofChars? text.toList

end Json

end ControlStream

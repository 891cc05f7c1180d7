import ControlStream.Text.Scan
import ControlStream.Toml.Basic
import ControlStream.Toml.Numeral

/-!
# Reading TOML

A document is a sequence of lines that define keys or open tables. Strings keep their text; of
numbers and moments only the form is checked.
-/

namespace ControlStream

namespace Toml

open Scan

def isBlank (c : Char) : Bool := c == ' ' || c == '\t'

def skipBlanks : Scan Unit := do
  let _ ← takeWhile isBlank

/-- Whether a character may stand in a comment or, quotes aside, in a string. -/
def isPlain (c : Char) : Bool := c == '\t' || (0x20 ≤ c.toNat && c.toNat != 0x7F)

def newline? : Scan Bool := do
  if ← skip? ['\n'] then return true else skip? ['\r', '\n']

def skipComment : Scan Unit := do
  if ← skip? ['#'] then
    let _ ← takeWhile isPlain

/-- The rest of a line: blanks, a comment, and its end or that of the text. -/
def finishLine : Scan Unit := do
  skipBlanks
  skipComment
  unless ← newline? do
    unless (← get).isEmpty do failure

def skipLines : Scan Unit :=
  loop (fun (_ : Unit) => do
    skipBlanks
    skipComment
    if ← newline? then return .inl () else return .inr ()) ()

/-! ## Strings -/

def codePoint (count : Nat) : Scan Char := do
  let digits := (← get).take count
  modify fun text => text.drop count
  let code := digitsIn 16 digits
  if digits.length = count ∧ digits.all isHexDigit ∧ code.isValidChar then
    return Char.ofNat code
  else failure

def escape : Scan Char := do
  match ← next with
  | 'b' => return '\x08'
  | 't' => return '\t'
  | 'n' => return '\n'
  | 'f' => return '\x0c'
  | 'r' => return '\r'
  | '\x22' => return '\x22'
  | '\\' => return '\\'
  | 'u' => codePoint 4
  | 'U' => codePoint 8
  | _ => failure

def lineString (quote : Char) (escapes : Bool) : Scan String :=
  loop (fun (done : List Char) => do
    let c ← next
    if c = quote then return .inr (String.ofList done.reverse)
    else if escapes && c == '\\' then return .inl ((← escape) :: done)
    else if isPlain c then return .inl (c :: done)
    else failure) []

/-- Takes the white space after a backslash that ends a line, if one ends here. -/
def lineContinuation? : Scan Bool := do
  let text ← get
  skipBlanks
  if ← newline? then
    loop (fun (_ : Unit) => do
      skipBlanks
      if ← newline? then return .inl () else return .inr true) ()
  else
    set text
    return false

/-- The text between triple quotes. Its first line end is dropped, and up to two quotes may stand
before the closing ones. -/
def blockString (quote : Char) (escapes : Bool) : Scan String := do
  let _ ← newline?
  loop (fun (done : List Char) => do
    if ← newline? then return .inl ('\n' :: done)
    else if ← startsWith [quote, quote, quote] then
      let quotes := ((← get).take 5).takeWhile (· == quote)
      modify fun text => text.drop quotes.length
      return .inr (String.ofList (done.reverse ++ quotes.drop 3))
    else
      let c ← next
      if escapes && c == '\\' then
        if ← lineContinuation? then return .inl done
        else return .inl ((← escape) :: done)
      else if isPlain c then return .inl (c :: done)
      else failure) []

def quoted : Scan String := do
  if ← skip? ['\x22', '\x22', '\x22'] then blockString '\x22' true
  else if ← skip? ['\x27', '\x27', '\x27'] then blockString '\x27' false
  else if ← skip? ['\x22'] then lineString '\x22' true
  else
    expect ['\x27']
    lineString '\x27' false

/-! ## Keys -/

def isKeyChar (c : Char) : Bool := c.isAlphanum || c == '_' || c == '-'

/-- One part of a key, bare or quoted on one line. -/
def keyPart : Scan String := do
  if ← skip? ['\x22'] then lineString '\x22' true
  else if ← skip? ['\x27'] then lineString '\x27' false
  else
    let chars ← takeWhile isKeyChar
    if chars.isEmpty then failure else return String.ofList chars

/-- How many parts a key may have, and how many arrays and inline tables may lie in one another. -/
def maxDepth : Nat := 79

def key : Scan (List String × String) := do
  let parts ← loop (fun (done : List String) => do
    skipBlanks
    let part ← keyPart
    skipBlanks
    if ← skip? ['.'] then return .inl (part :: done) else return .inr (part :: done)) []
  match parts with
  | last :: before => if parts.length ≤ maxDepth then return (before.reverse, last) else failure
  | [] => failure

/-! ## Values -/

def isWordChar (c : Char) : Bool :=
  c.isAlphanum || c == '_' || c == '-' || c == '+' || c == '.' || c == ':'

/-- A word, in which a date and the time after it count as one. -/
def word : Scan (List Char) := do
  let first ← takeWhile isWordChar
  match skipDate? first, ← get with
  | some [], ' ' :: c :: rest =>
      if c.isDigit then
        set (c :: rest)
        return first ++ 'T' :: (← takeWhile isWordChar)
      else return first
  | _, _ => return first

def wordValue (word : List Char) : Scan Toml :=
  if word = ['t', 'r', 'u', 'e'] then return .boolean true
  else if word = ['f', 'a', 'l', 's', 'e'] then return .boolean false
  else if isInteger word then return .integer
  else if isFloat word then return .float
  else if isMoment word then return .moment
  else failure

def arrayItems (value : Scan Toml) : Scan Toml :=
  loop (fun (done : List Toml) => do
    skipLines
    if ← skip? [']'] then return .inr (.array done.reverse)
    else
      let item ← value
      skipLines
      if ← skip? [','] then return .inl (item :: done)
      else
        expect [']']
        return .inr (.array (item :: done).reverse)) []

def definition (value : Scan Toml) : Scan (List String × String × Toml) := do
  let (path, key) ← key
  expect ['=']
  skipBlanks
  return (path, key, ← value)

def inlineEntries (value : Scan Toml) : Scan Toml := do
  skipBlanks
  if ← skip? ['\x7d'] then return .inlineTable []
  else
    loop (fun (entries : Entries) => do
      let (path, key, held) ← definition value
      let entries ← orFail (Entries.define path key held entries)
      skipBlanks
      if ← skip? [','] then return .inl entries
      else
        expect ['\x7d']
        return .inr (.inlineTable entries)) []

/-- A value that holds no others. -/
def simpleValue : Scan Toml := do
  match ← peek? with
  | some '\x22' | some '\x27' => return .string (← quoted)
  | _ => wordValue (← word)

/-- A value with at most `depth` arrays and inline tables in one another. -/
def value : (depth : Nat) → Scan Toml
  | 0 => simpleValue
  | depth + 1 => do
      if ← skip? ['['] then arrayItems (value depth)
      else if ← skip? ['\x7b'] then inlineEntries (value depth)
      else simpleValue

/-! ## Documents -/

/-- A document under way, and the header under which its next keys stand. -/
structure Draft where
  root : Entries := []
  header : List String := []

/-- One line of a document, or the finished document where the text ends. -/
def documentLine (draft : Draft) : Scan (Draft ⊕ Entries) := do
  skipBlanks
  match ← peek? with
  | none => return .inr draft.root
  | some '[' =>
      let repeated ← skip? ['[', '[']
      unless repeated do expect ['[']
      let (path, name) ← key
      expect (if repeated then [']', ']'] else [']'])
      finishLine
      let opened :=
        if repeated then Entries.openElement path name draft.root
        else Entries.openTable path name draft.root
      return .inl { root := ← orFail opened, header := path ++ [name] }
  | some c =>
      if c = '#' ∨ c = '\n' ∨ c = '\r' then
        finishLine
        return .inl draft
      else
        let (path, name, held) ← definition (value maxDepth)
        finishLine
        let defined :=
          Entries.modifyAt .path (fun _ inner => Entries.define path name held inner)
            draft.header .header draft.root
        return .inl { draft with root := ← orFail defined }

/-- The entries of a document. A byte order mark at its start is no part of it. -/
def read? (text : List Char) : Option Entries :=
  let text := if text.head? = some (Char.ofNat 0xFEFF) then text.drop 1 else text
  ((loop documentLine {}).run text).map (·.1)

end Toml

end ControlStream

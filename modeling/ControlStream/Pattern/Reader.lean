import ControlStream.Pattern.Flags
import ControlStream.Pattern.Machine
import ControlStream.Text.Letter
import ControlStream.Text.Scan
import ControlStream.Text.Space

/-!
# Reading patterns

A pattern is written as alternatives of parts in a row. What is read of it comes with the height
of its written form, the number of forms of more than one character in one another, and with the
names of its groups: a pattern may not be too high, and no two groups may have one name.
-/

namespace ControlStream

namespace Pattern

open Scan

structure Piece where
  pattern : Pattern
  height : Nat := 0
  names : List (List Char) := []
  /-- Whether the piece only sets flags, so that it cannot be repeated. -/
  setsFlags : Bool := false

namespace Piece

def maxHeight (pieces : List Piece) : Nat := pieces.foldr (fun piece n => max piece.height n) 0

def allNames (pieces : List Piece) : List (List Char) := pieces.flatMap Piece.names

def ofSequence : List Piece → Piece
  | [piece] => piece
  | [] => { pattern := .empty }
  | pieces =>
      { pattern := Pattern.sequence (pieces.map Piece.pattern)
        height := maxHeight pieces + 1
        names := allNames pieces }

def ofChoices (first : Piece) (others : List Piece) : Piece :=
  if others.isEmpty then first
  else
    { pattern := Pattern.choice ((first :: others).map Piece.pattern)
      height := maxHeight (first :: others) + 1
      names := allNames (first :: others) }

end Piece

/-! ## Blanks and numbers -/

/-- Skips what means nothing under the flags. -/
def skipSpace (flags : Flags) : Scan Unit := do
  if flags.has .ignoreSpace then
    loop (fun (_ : Unit) => do
      let _ ← takeWhile Text.isSpace
      if ← skip? ['#'] then
        let _ ← takeWhile (· != '\n')
        return .inl ()
      else return .inr ()) ()

/-- The next character, after which blanks are skipped. -/
def nextSpaced (flags : Flags) : Scan Char := do
  let c ← next
  skipSpace flags
  return c

def maxCount : Nat := 4294967295

/-- A decimal number, with white space around it. -/
def count (flags : Flags) : Scan Nat := do
  let _ ← takeWhile Text.isSpace
  let digits ← loop (fun (done : List Char) => do
    match ← peek? with
    | some c => if c.isDigit then return .inl ((← nextSpaced flags) :: done) else return .inr done
    | none => return .inr done) []
  let _ ← takeWhile Text.isSpace
  let n := digits.foldr (fun c n => 10 * n + (c.toNat - 48)) 0
  if digits ≠ [] ∧ n ≤ maxCount then return n else failure

/-! ## Escapes -/

inductive Escape where
  /-- A character; `asByte` says that it is written by exactly two hexadecimal digits. -/
  | literal (c : Char) (asByte : Bool)
  /-- A class of one letter. -/
  | letterClass (letter : Char)
  | place (pattern : Pattern)

def hexValue? (c : Char) : Option Nat :=
  if c.isDigit then some (c.toNat - 48)
  else if 'a' ≤ c ∧ c ≤ 'f' then some (c.toNat - 87)
  else if 'A' ≤ c ∧ c ≤ 'F' then some (c.toNat - 55)
  else none

def ofCode (code : Nat) : Scan Char :=
  if code.isValidChar then return Char.ofNat code else failure

/-- A code point in hexadecimal: in braces, or of exactly `width` digits. -/
def hexadecimal (flags : Flags) (width : Nat) : Scan Escape := do
  if ← skip? ['\x7b'] then
    skipSpace flags
    loop (fun (code : Option Nat) => do
      let c ← nextSpaced flags
      if c = '\x7d' then return .inr (.literal (← ofCode (← orFail code)) false)
      else return .inl (some (16 * code.getD 0 + (← orFail (hexValue? c))))) none
  else
    let code ← (List.range width).foldlM
      (fun code _ => do return 16 * code + (← orFail (hexValue? (← nextSpaced flags)))) 0
    return .literal (← ofCode code) (width == 2)

/-- The characters that have a meaning of their own somewhere in a pattern. -/
def isMeta (c : Char) : Bool :=
  ['\\', '.', '+', '*', '?', '(', ')', '|', '[', ']', '\x7b', '\x7d', '^', '$', '#', '&', '-',
    '~'].contains c

/-- Whether a backslash before a character leaves it as it is. -/
def isEscapable (c : Char) : Bool :=
  isMeta c || (c ≤ '\x7f' && !c.isAlphanum && c != '<' && c != '>')

/-- A kind of word place named in braces, if a name stands there: a number is left for a
repetition. -/
def namedPlace? (flags : Flags) : Scan (Option Place) := do
  let text ← get
  let isNameChar (c : Char) : Bool := c.isAlpha || c == '-'
  if ← skip? ['\x7b'] then
    skipSpace flags
    let name ← loop (fun (done : List Char) => do
      match ← peek? with
      | none => failure
      | some c =>
          if isNameChar c then return .inl ((← nextSpaced flags) :: done)
          else return .inr done.reverse) []
    if name.isEmpty then
      set text
      return none
    else
      expect ['\x7d']
      match String.ofList name with
      | "start" => return some .wordStart
      | "end" => return some .wordEnd
      | "start-half" => return some .wordStartHalf
      | "end-half" => return some .wordEndHalf
      | _ => failure
  else return none

def escape (flags : Flags) : Scan Escape := do
  let c ← next
  if isEscapable c then return .literal c false
  else
    match c with
    | 'x' => skipSpace flags; hexadecimal flags 2
    | 'u' => skipSpace flags; hexadecimal flags 4
    | 'U' => skipSpace flags; hexadecimal flags 8
    | 'd' | 's' | 'w' | 'D' | 'S' | 'W' => return .letterClass c
    | 'a' => return .literal '\x07' false
    | 'f' => return .literal '\x0c' false
    | 't' => return .literal '\t' false
    | 'n' => return .literal '\n' false
    | 'r' => return .literal '\r' false
    | 'v' => return .literal '\x0b' false
    | 'A' => return .place (.place .textStart)
    | 'z' => return .place (.place .textEnd)
    | 'b' => return .place (flags.wordPlace ((← namedPlace? flags).getD .wordEdge))
    | 'B' => return .place (flags.wordPlace .noWordEdge)
    | '<' => return .place (flags.wordPlace .wordStart)
    | '>' => return .place (flags.wordPlace .wordEnd)
    | _ => failure

/-! ## Classes -/

/-- Characters read in a class, and the height of their written form. -/
structure Members where
  set : CharSet
  height : Nat := 0

def Members.ofItems : List Members → Members
  | [] => { set := .empty }
  | [item] => item
  | items =>
      { set := items.foldr (fun item set => item.set.union set) .empty
        height := items.foldr (fun item n => max item.height n) 0 + 1 }

inductive SetOperator where
  | inter
  | diff
  | symmDiff

def SetOperator.apply : SetOperator → CharSet → CharSet → CharSet
  | inter => CharSet.inter
  | diff => CharSet.diff
  | symmDiff => CharSet.symmDiff

/-- A class under way: what stands before the last operator, and the items after it, last first. -/
structure ClassDraft where
  left : Option (Members × SetOperator) := none
  items : List Members := []

namespace ClassDraft

def add (draft : ClassDraft) (item : Members) : ClassDraft :=
  { draft with items := item :: draft.items }

/-- Operators group to the left. -/
def finish (draft : ClassDraft) : Members :=
  let right := Members.ofItems draft.items.reverse
  match draft.left with
  | none => right
  | some (left, operator) =>
      { set := operator.apply left.set right.set, height := max left.height right.height + 1 }

end ClassDraft

/-- A class given by its name between colons and brackets, if one stands here. -/
def namedMembers? (flags : Flags) : Scan (Option Members) := do
  let text ← get
  if ← skip? ['[', ':'] then
    let negated ← skip? ['^']
    let name ← takeWhile (· != ':')
    match namedClass? (String.ofList name), ← skip? [':', ']'] with
    | some named, true =>
        let named ← orFail (flags.members? named)
        return some { set := ← orFail (flags.negate? negated named) }
    | _, _ =>
        set text
        return none
  else return none

def classAtom (flags : Flags) : Scan Escape := do
  if ← skip? ['\\'] then escape flags else return .literal (← next) false

/-- What follows the next character, blanks aside; one mark of a comment is skipped. -/
def peekSecond? (flags : Flags) : Scan (Option Char) := do
  let rest := (← get).drop 1
  if flags.has .ignoreSpace then
    match rest.dropWhile Text.isSpace with
    | '#' :: comment => return (comment.dropWhile Text.isSpace).head?
    | rest => return rest.head?
  else return rest.head?

/-- A character, a class of one letter or a range in a class. -/
def classItem (flags : Flags) : Scan Members := do
  let first ← classAtom flags
  skipSpace flags
  let second ← peekSecond? flags
  if (← peek?) = some '-' ∧ second ≠ some ']' ∧ second ≠ some '-' then
    let _ ← nextSpaced flags
    match first, ← classAtom flags with
    | .literal first _, .literal last _ =>
        if first ≤ last then return { set := ← orFail (flags.members? (.ofRange first last)) }
        else failure
    | _, _ => failure
  else
    match first with
    | .literal c _ => return { set := ← orFail (flags.members? (.ofChar c)) }
    | .letterClass letter => return { set := ← orFail (flags.letterClass? letter) }
    | .place _ => failure

/-- A hyphen that stands for itself at the start of a class. -/
def hyphen? (flags : Flags) : Scan Bool := do
  if ← skip? ['-'] then
    skipSpace flags
    return true
  else return false

/-- The start of a class: whether it is negated, and its characters that would have a meaning of
their own further on. -/
def classStart (flags : Flags) : Scan (Bool × ClassDraft) := do
  skipSpace flags
  let negated ← skip? ['^']
  skipSpace flags
  let hyphens ← loop (fun (draft : ClassDraft) => do
    if ← hyphen? flags then
      return .inl (draft.add { set := ← orFail (flags.members? (.ofChar '-')) })
    else return .inr draft) {}
  if hyphens.items.isEmpty then
    if ← skip? [']'] then
      return (negated, hyphens.add { set := ← orFail (flags.members? (.ofChar ']')) })
  return (negated, hyphens)

def operator? : Scan (Option SetOperator) := do
  if ← skip? ['&', '&'] then return some .inter
  else if ← skip? ['-', '-'] then return some .diff
  else if ← skip? ['~', '~'] then return some .symmDiff
  else return none

/-- The rest of a class after its opening bracket. `inner` reads a class inside of it. -/
def classBody (inner : Scan Members) (flags : Flags) : Scan Members := do
  let (negated, draft) ← classStart flags
  let members ← loop (fun (draft : ClassDraft) => do
    skipSpace flags
    if ← startsWith ['['] then
      match ← namedMembers? flags with
      | some named => return .inl (draft.add named)
      | none =>
          expect ['[']
          return .inl (draft.add (← inner))
    else if ← skip? [']'] then return .inr draft.finish
    else
      match ← operator? with
      | some operator => return .inl { left := some (draft.finish, operator) }
      | none => return .inl (draft.add (← classItem flags))) draft
  return { set := ← orFail (flags.negate? negated members.set), height := members.height + 1 }

/-- A class after its opening bracket, with at most `depth` classes inside one another in it. -/
def classMembers (flags : Flags) : (depth : Nat) → Scan Members
  | 0 => classBody failure flags
  | depth + 1 => classBody (classMembers flags depth) flags

/-! ## Groups and repetitions -/

def maxHeight : Nat := 250

/-- The flags of a group up to the character that ends them, which is a colon before a pattern or
the closing parenthesis. A minus stands for `none`; nothing comes twice, and no minus last. -/
def flagItems : Scan (List (Option Flag) × Char) :=
  loop (fun (done : List (Option Flag)) => do
    let c ← next
    if c = ':' ∨ c = ')' then
      if done.head? = some none then failure else return .inr (done.reverse, c)
    else
      let item ← if c = '-' then pure none else some <$> orFail (Flag.ofLetter? c)
      if done.contains item then failure else return .inl (item :: done)) []

def groupName : Scan (List Char) := do
  let name ← takeWhile (· != '>')
  expect ['>']
  match name with
  | first :: rest =>
      let isInner (c : Char) : Bool :=
        c == '_' || c == '.' || c == '[' || c == ']' || Text.isAlphabetic c || Text.isNumeric c
      if (first = '_' ∨ Text.isAlphabetic first) ∧ rest.all isInner then return name else failure
  | [] => failure

/-- A group after its opening parenthesis, with the flags that hold after it. `inner` reads the
alternatives in a group. -/
def parenthesized (inner : Flags → Scan Piece) (flags : Flags) : Scan (Piece × Flags) := do
  let counted (names : List (List Char)) : Scan (Piece × Flags) := do
    let piece ← inner flags
    expect [')']
    let read : Piece :=
      { pattern := .group piece.pattern
        height := piece.height + 1
        names := names ++ piece.names }
    return (read, flags)
  skipSpace flags
  if ← skip? ['?', 'P', '<'] then counted [← groupName]
  else if ← skip? ['?', '<'] then counted [← groupName]
  else if ← skip? ['?'] then
    let (items, closing) ← flagItems
    let changed := flags.update items
    if closing = ')' then
      if items.isEmpty then failure
      else return ({ pattern := .empty, setsFlags := true }, changed)
    else
      let piece ← inner changed
      expect [')']
      return ({ piece with height := piece.height + 1, setsFlags := false }, flags)
  else counted []

def bounds (flags : Flags) : Scan (Nat × Option Nat) := do
  skipSpace flags
  let least ← count flags
  let most ←
    if ← skip? [','] then
      skipSpace flags
      if ← startsWith ['\x7d'] then pure none else some <$> count flags
    else pure (some least)
  expect ['\x7d']
  skipSpace flags
  if most.all (least ≤ ·) then return (least, most) else failure

structure Repetition where
  least : Nat
  most : Option Nat
  short : Bool

/-- A repetition, if one is written here. A question mark after it changes which number of times
is preferred. -/
def repetition? (flags : Flags) : Scan (Option Repetition) := do
  let bounds? : Option (Nat × Option Nat) ←
    if ← skip? ['?'] then pure (some (0, some 1))
    else if ← skip? ['*'] then pure (some (0, none))
    else if ← skip? ['+'] then pure (some (1, none))
    else if ← skip? ['\x7b'] then some <$> bounds flags
    else pure none
  match bounds? with
  | some (least, most) =>
      let short ← skip? ['?']
      return some { least, most, short := short != flags.has .swapGreed }
  | none => return none

def atom (flags : Flags) : Scan Pattern := do
  let ofSet (set? : Option CharSet) : Scan Pattern := do
    return Pattern.ofSet (← orFail set?) (!flags.has .unicode)
  let ofEscape : Escape → Scan Pattern
    | .literal c asByte => ofSet (flags.literal? c asByte)
    | .letterClass letter => ofSet (flags.letterClass? letter)
    | .place pattern => return pattern
  match ← next with
  | '\\' => ofEscape (← escape flags)
  | '.' => ofSet flags.dot?
  | '^' => return flags.caret
  | '$' => return flags.dollar
  | c => ofEscape (.literal c false)

/-! ## Alternatives -/

/-- Alternatives under way: the finished ones and the pieces of the next, last first, and the
flags that hold. -/
structure Draft where
  flags : Flags
  choices : List Piece := []
  pieces : List Piece := []

namespace Draft

def add (draft : Draft) (piece : Piece) : Draft := { draft with pieces := piece :: draft.pieces }

def split (draft : Draft) : Draft :=
  { draft with
    choices := Piece.ofSequence draft.pieces.reverse :: draft.choices
    pieces := [] }

def finish (draft : Draft) : Piece :=
  match draft.split.choices.reverse with
  | first :: others => Piece.ofChoices first others
  | [] => { pattern := .empty }

def repeatLast? (draft : Draft) (repetition : Repetition) : Option Draft :=
  match draft.pieces with
  | piece :: others =>
      if piece.setsFlags then none
      else
        let repeated :=
          { piece with
            pattern :=
              ofRepetition piece.pattern repetition.least repetition.most repetition.short
            height := piece.height + 1 }
        some { draft with pieces := repeated :: others }
  | [] => none

end Draft

/-- Alternatives up to a closing parenthesis or the end. `inner` reads those in a group. -/
def alternativesWith (inner : Flags → Scan Piece) (flags : Flags) : Scan Piece :=
  loop (fun (draft : Draft) => do
    skipSpace draft.flags
    match ← peek? with
    | none | some ')' => return .inr draft.finish
    | some '|' =>
        expect ['|']
        return .inl draft.split
    | some '(' =>
        expect ['(']
        let (piece, flags) ← parenthesized inner draft.flags
        return .inl { draft.add piece with flags }
    | some '[' =>
        expect ['[']
        let members ← classMembers draft.flags maxHeight
        let pattern := ofSet members.set (!draft.flags.has .unicode)
        return .inl (draft.add { pattern, height := members.height })
    | some _ =>
        match ← repetition? draft.flags with
        | some repetition => return .inl (← orFail (draft.repeatLast? repetition))
        | none => return .inl (draft.add { pattern := ← atom draft.flags })) { flags }

/-- Alternatives with at most `depth` groups inside one another. -/
def alternatives : (depth : Nat) → Flags → Scan Piece
  | 0 => alternativesWith fun _ => failure
  | depth + 1 => alternativesWith (alternatives depth)

/-- Whether all that a pattern asks for is known here. -/
def isKnown : Pattern → Bool
  | empty | literal _ | char _ _ | place _ => true
  | foreignPlace => false
  | group inner => inner.isKnown
  | both first rest => first.isKnown && rest.isKnown
  | either first rest => first.isKnown && rest.isKnown
  | repeated inner _ _ _ => inner.isKnown

def Piece.isAcceptable (piece : Piece) : Bool :=
  piece.height ≤ Pattern.maxHeight && piece.names.eraseDups.length == piece.names.length &&
    piece.pattern.isKnown && piece.pattern.fits

def read? (text : String) : Option Pattern :=
  match (alternatives Pattern.maxHeight Flags.standard).run text.toList with
  | some (piece, []) => if piece.isAcceptable then some piece.pattern else none
  | _ => none

end Pattern

end ControlStream

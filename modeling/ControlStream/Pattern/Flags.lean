import ControlStream.Pattern.Basic

/-!
# Flags of a pattern

What the characters of a pattern mean depends on flags that are set and cleared in it. At first a
pattern is about characters; with the flag for them cleared it is about ASCII bytes, and must not
describe a part of a character. The classes of letters and the pairs of letter cases are known
for ASCII alone, so a pattern about characters may not ask for either.
-/

namespace ControlStream

namespace Pattern

inductive Flag where
  | ignoreCase
  | multiLine
  /-- The dot stands for line ends too. -/
  | dotAll
  /-- Repetitions prefer to be short. It does not matter for what a pattern describes. -/
  | swapGreed
  | unicode
  /-- A carriage return ends lines too. -/
  | anyLineEnd
  /-- White space and comments in a pattern mean nothing. -/
  | ignoreSpace
  deriving DecidableEq, Repr

def Flag.ofLetter? : Char → Option Flag
  | 'i' => some .ignoreCase
  | 'm' => some .multiLine
  | 's' => some .dotAll
  | 'U' => some .swapGreed
  | 'u' => some .unicode
  | 'R' => some .anyLineEnd
  | 'x' => some .ignoreSpace
  | _ => none

abbrev Flags := List Flag

namespace Flags

def standard : Flags := [.unicode]

def has (flags : Flags) (flag : Flag) : Bool := flags.contains flag

/-- Sets the listed flags, and clears those after `none`. -/
def update (flags : Flags) (items : List (Option Flag)) : Flags :=
  (items.foldl
    (fun (state : Flags × Bool) item =>
      match item with
      | none => (state.1, false)
      | some flag =>
          let others := state.1.filter (· != flag)
          (if state.2 then flag :: others else others, state.2))
    (flags, true)).1

def members? (flags : Flags) (set : CharSet) : Option CharSet :=
  if flags.has .unicode then
    if flags.has .ignoreCase then none else some set
  else if set.isAscii then some (if flags.has .ignoreCase then set.closeCase else set)
  else none

/-- What a character written outside of a class stands for. `asByte` says that it is written as
the number of a byte. -/
def literal? (flags : Flags) (c : Char) (asByte : Bool) : Option CharSet :=
  if !flags.has .unicode && !asByte && '\x7f' < c then some (.ofChar c)
  else flags.members? (.ofChar c)

def negate? (flags : Flags) (negated : Bool) (set : CharSet) : Option CharSet :=
  if negated then
    if flags.has .unicode then some set.complement else none
  else some set

/-- A class of one letter: digits, white space or word characters of ASCII. -/
def letterClass? (flags : Flags) (letter : Char) : Option CharSet :=
  if flags.has .unicode then none
  else
    match letter with
    | 'd' => some (.ofRange '0' '9')
    | 's' => some (.ofRanges [('\t', '\r'), (' ', ' ')])
    | 'w' => some (.ofRanges [('0', '9'), ('A', 'Z'), ('_', '_'), ('a', 'z')])
    | _ => none

def dot? (flags : Flags) : Option CharSet :=
  if !flags.has .unicode then none
  else if flags.has .dotAll then some .all
  else if flags.has .anyLineEnd then some (.complement (.ofRanges [('\n', '\n'), ('\r', '\r')]))
  else some (.complement (.ofChar '\n'))

def caret (flags : Flags) : Pattern :=
  .place
    (if !flags.has .multiLine then .textStart
    else if flags.has .anyLineEnd then .anyLineStart
    else .lineStart)

def dollar (flags : Flags) : Pattern :=
  .place
    (if !flags.has .multiLine then .textEnd
    else if flags.has .anyLineEnd then .anyLineEnd
    else .lineEnd)

def wordPlace (flags : Flags) (here : Place) : Pattern :=
  if flags.has .unicode then .foreignPlace else .place here

end Flags

def namedClass? (name : String) : Option CharSet :=
  match name with
  | "alnum" => some (.ofRanges [('0', '9'), ('A', 'Z'), ('a', 'z')])
  | "alpha" => some (.ofRanges [('A', 'Z'), ('a', 'z')])
  | "ascii" => some (.ofRange '\x00' '\x7f')
  | "blank" => some (.ofRanges [('\t', '\t'), (' ', ' ')])
  | "cntrl" => some (.ofRanges [('\x00', '\x1f'), ('\x7f', '\x7f')])
  | "digit" => some (.ofRange '0' '9')
  | "graph" => some (.ofRange '!' '~')
  | "lower" => some (.ofRange 'a' 'z')
  | "print" => some (.ofRange ' ' '~')
  | "punct" => some (.ofRanges [('!', '/'), (':', '@'), ('[', '\x60'), ('\x7b', '~')])
  | "space" => some (.ofRanges [('\t', '\r'), (' ', ' ')])
  | "upper" => some (.ofRange 'A' 'Z')
  | "word" => some (.ofRanges [('0', '9'), ('A', 'Z'), ('_', '_'), ('a', 'z')])
  | "xdigit" => some (.ofRanges [('0', '9'), ('A', 'F'), ('a', 'f')])
  | _ => none

end Pattern

end ControlStream

import ControlStream.Pattern.Basic

/-!
# Normal forms of patterns

Patterns are put together so that what can be said simply is said simply: texts in a row are one
text, a choice between characters is a set, what begins all branches of a choice stands before it,
and nothing is repeated for no gain. How large a pattern is depends on it.
-/

namespace ControlStream

namespace Pattern

/-! ## What a pattern can take -/

/-- Whether a pattern describes empty parts of a text only. -/
def isZeroWidth : Pattern → Bool
  | empty | place _ | foreignPlace => true
  | literal _ | char _ _ => false
  | group inner => inner.isZeroWidth
  | both first rest => first.isZeroWidth && rest.isZeroWidth
  | either first rest => first.isZeroWidth && rest.isZeroWidth
  | repeated inner _ _ _ => inner.isZeroWidth

/-- Whether every part that a pattern describes takes something up. A pattern with a branch that
describes nothing at all does not count. -/
def isSolid : Pattern → Option Bool
  | empty | place _ | foreignPlace => some false
  | literal _ => some true
  | char set _ => if set.ranges.isEmpty then none else some true
  | group inner => inner.isSolid
  | both first rest => do return (← first.isSolid) || (← rest.isSolid)
  | either first rest => do return (← first.isSolid) && (← rest.isSolid)
  | repeated inner least _ _ => inner.isSolid.map (· && least != 0)

def isAtStart : Pattern → Bool
  | place here => here == .textStart
  | empty | literal _ | char _ _ | foreignPlace => false
  | group inner => inner.isAtStart
  | both first rest => first.isAtStart || (first.isZeroWidth && rest.isAtStart)
  | either first rest => first.isAtStart && rest.isAtStart
  | repeated inner least _ _ => least != 0 && inner.isAtStart

def isAtEnd : Pattern → Bool
  | place here => here == .textEnd
  | empty | literal _ | char _ _ | foreignPlace => false
  | group inner => inner.isAtEnd
  | both first rest => rest.isAtEnd || (rest.isZeroWidth && first.isAtEnd)
  | either first rest => first.isAtEnd && rest.isAtEnd
  | repeated inner least _ _ => least != 0 && inner.isAtEnd

/-! ## Characters and repetitions -/

def ofSet (set : CharSet) (asByte : Bool) : Pattern :=
  match set.canonical with
  | ⟨[]⟩ => char .empty true
  | ⟨[(first, last)]⟩ =>
      if first = last then literal [Char.ofNat first] else char ⟨[(first, last)]⟩ asByte
  | ranges => char ranges asByte

/-- A pattern repeated. To ask for an empty part again says no more than to ask once, and what is
repeated no times is the empty text, whatever it asks for. -/
def ofRepetition (inner : Pattern) (least : Nat) (most : Option Nat) (short : Bool) : Pattern :=
  let (least, most) :=
    if inner.isZeroWidth then (min least 1, some (min 1 (most.getD 1))) else (least, most)
  if most = some 0 then empty
  else if least = 1 ∧ most = some 1 then inner
  else repeated inner least most short

/-! ## Sequences -/

def parts : Pattern → List Pattern
  | empty => []
  | both first rest => first :: rest.parts
  | pattern => [pattern]

def ofParts : List Pattern → Pattern
  | [] => empty
  | [pattern] => pattern
  | pattern :: rest => both pattern (ofParts rest)

def mergeTexts : List Pattern → List Pattern
  | [] => []
  | literal text :: rest =>
      match mergeTexts rest with
      | literal more :: others => literal (text ++ more) :: others
      | others => literal text :: others
  | pattern :: rest => pattern :: mergeTexts rest

def sequence (patterns : List Pattern) : Pattern :=
  ofParts (mergeTexts (patterns.flatMap parts))

/-! ## Choices -/

def branches : Pattern → List Pattern
  | either first rest => first :: rest.branches
  | pattern => [pattern]

def ofBranches : List Pattern → Pattern
  | [] => char .empty true
  | [pattern] => pattern
  | pattern :: rest => either pattern (ofBranches rest)

/-- The set of a text of one character. -/
def singleChar? : Pattern → Option CharSet
  | literal [c] => some (.ofChar c)
  | _ => none

def charSet? : Pattern → Option CharSet
  | char set _ => some set
  | _ => none

/-- A choice between characters, or between sets of them, as a set. -/
def mergeBranches (branches : List Pattern) : Pattern :=
  let merge (sets : List CharSet) : Pattern := ofSet (sets.foldr .union .empty) false
  match branches with
  | [pattern] => pattern
  | _ =>
      match branches.mapM singleChar?, branches.mapM charSet? with
      | some sets, _ => merge sets
      | none, some sets => merge sets
      | none, none => ofBranches branches

def holdsGroup : Pattern → Bool
  | group _ => true
  | empty | literal _ | char _ _ | place _ | foreignPlace => false
  | both first rest => first.holdsGroup || rest.holdsGroup
  | either first rest => first.holdsGroup || rest.holdsGroup
  | repeated inner _ _ _ => inner.holdsGroup

/-- What two rows have in common at their start. Groups are told apart by their numbers, so no two
are alike. -/
def sharedStart : List Pattern → List Pattern → List Pattern
  | left :: lefts, right :: rights =>
      if left = right ∧ !left.holdsGroup then left :: sharedStart lefts rights else []
  | _, _ => []

def sharedByAll : List (List Pattern) → List Pattern
  | [] => []
  | [row] => row
  | row :: rows => sharedStart row (sharedByAll rows)

/-- Branches that are all rows of patterns with the same start, as that start and a choice. -/
def factor? (branches : List Pattern) : Option Pattern :=
  let rows := branches.map parts
  let shared := sharedByAll rows
  if rows.all (2 ≤ ·.length) ∧ shared ≠ [] then
    let ends := rows.map fun row => sequence (row.drop shared.length)
    some (sequence (shared ++ [mergeBranches (ends.flatMap Pattern.branches)]))
  else none

def choice (patterns : List Pattern) : Pattern :=
  let branches := patterns.flatMap Pattern.branches
  match mergeBranches branches with
  | either first rest => (factor? branches).getD (either first rest)
  | pattern => pattern

end Pattern

end ControlStream

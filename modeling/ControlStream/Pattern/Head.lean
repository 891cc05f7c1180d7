import ControlStream.Pattern.Normal

/-!
# Heads of a pattern

A pattern that describes a few short texts and nothing else is looked for by these texts, without
a machine. They are found as heads: each part of a text that a pattern describes begins with one
of its heads, and a head that is whole is all of the part. Heads are kept few and short, so most
patterns have none, or some that are not whole.
-/

namespace ControlStream

namespace Pattern

/-- The bytes that a part begins with, and whether they are all of it. -/
structure Head where
  bytes : List UInt8 := []
  whole : Bool := true
  deriving DecidableEq, Repr

namespace Head

def ofText (text : List Char) : Head := { bytes := text.flatMap String.utf8EncodeChar }

def leaveOpen (head : Head) : Head := { head with whole := false }

def cut (length : Nat) (head : Head) : Head :=
  if head.bytes.length ≤ length then head
  else { bytes := head.bytes.take length, whole := false }

/-- Makes one of equal heads in a row, which is whole if all of them are. -/
def mergeAlike : List Head → List Head
  | [] => []
  | head :: rest =>
      match mergeAlike rest with
      | next :: others =>
          if head.bytes = next.bytes then { head with whole := head.whole && next.whole } :: others
          else head :: next :: others
      | [] => [head]

/-- Leaves out each head that begins with an earlier one. -/
def withoutLonger (heads : List Head) : List Head :=
  (heads.foldl
    (fun kept head => if kept.any (·.bytes.isPrefixOf head.bytes) then kept else head :: kept)
    []).reverse

end Head

/-- The heads of a pattern, those that are preferred first, if they are known. -/
abbrev Heads := Option (List Head)

namespace Heads

def maxCount : Nat := 250

def maxLength : Nat := 100

def ofEmpty : Heads := some [{}]

def leaveOpen (heads : Heads) : Heads := heads.map (·.map Head.leaveOpen)

/-- The heads of a choice. If they are too many, they are tried with a few bytes of each. -/
def union (left right : Heads) : Heads := do
  let left ← left
  let right ← right
  if left.length + right.length ≤ maxCount then return Head.mergeAlike (left ++ right)
  else
    let short (heads : List Head) : List Head := Head.mergeAlike (heads.map (Head.cut 4))
    let left := short left
    let right := short right
    if left.length + right.length ≤ maxCount then return Head.mergeAlike (left ++ right)
    else failure

/-- The heads of a row whose first part has `left`: the whole ones go on with `right`. If that
would be too many, none is whole. -/
def append (left right : Heads) : Heads := do
  let heads ← left
  if heads.all (!·.whole) then return heads
  else
    match right.filter (heads.length * ·.length ≤ maxCount) with
    | some right =>
        let longer := heads.flatMap fun head =>
          if head.whole then right.map fun next => { next with bytes := head.bytes ++ next.bytes }
          else [head]
        return (Head.mergeAlike longer).map (Head.cut maxLength)
    | none =>
        if heads.any (·.bytes.isEmpty) then failure else return heads.map Head.leaveOpen

def power (heads : Heads) (count : Nat) : Heads :=
  let maxTurns := 10
  let turns := (List.replicate (min count maxTurns) heads).foldl append ofEmpty
  if maxTurns < count then turns.leaveOpen else turns

def ofRepetition (heads : Heads) (least : Nat) (most : Option Nat) (short : Bool) : Heads :=
  if least = 0 then
    let heads := if most = some 1 then heads else heads.leaveOpen
    if short then union ofEmpty heads else union heads ofEmpty
  else if most = some least then heads.power least
  else if most.isSome then (heads.power least).leaveOpen
  else heads.leaveOpen

def ofSet (set : CharSet) : Heads :=
  let count := set.ranges.foldr (fun range n => range.2 + 1 - range.1 + n) 0
  if count ≤ 10 then
    some <| set.ranges.flatMap fun range =>
      (List.range (range.2 + 1 - range.1)).map fun n => .ofText [Char.ofNat (range.1 + n)]
  else none

end Heads

/-- How a pattern stands to those before it. -/
inductive Joint where
  | row
  | choice

def Joint.join : Joint → Heads → Heads → Heads
  | row => Heads.append
  | choice => Heads.union

def headsAfter : Pattern → Joint → (before : Heads) → Heads
  | empty, joint, before => joint.join before .ofEmpty
  | place _, joint, before => joint.join before .ofEmpty
  | foreignPlace, joint, before => joint.join before .ofEmpty
  | literal text, joint, before =>
      joint.join before (some [(Head.ofText text).cut Heads.maxLength])
  | char set _, joint, before => joint.join before (.ofSet set)
  | group inner, joint, before => joint.join before (inner.headsAfter .row .ofEmpty)
  | both first rest, .row, before => rest.headsAfter .row (first.headsAfter .row before)
  | both first rest, .choice, before =>
      before.union (rest.headsAfter .row (first.headsAfter .row .ofEmpty))
  | either first rest, .choice, before =>
      rest.headsAfter .choice (first.headsAfter .choice before)
  | either first rest, .row, before =>
      before.append (rest.headsAfter .choice (first.headsAfter .choice (some [])))
  | repeated inner least most short, joint, before =>
      joint.join before (.ofRepetition (inner.headsAfter .row .ofEmpty) least most short)

def heads (pattern : Pattern) : Heads := pattern.headsAfter .row .ofEmpty

/-! ## Patterns that are texts -/

/-- Whether a byte is one of the most frequent in texts and programs. -/
def isFrequent (byte : UInt8) : Bool :=
  0xC0 ≤ byte.toNat ||
    ("\n\r (),-./0129:_abcdefghilmnoprstuvxy|".toList.map Char.toUInt8).contains byte

def commonStart : List (List UInt8) → List UInt8
  | [] => []
  | [bytes] => bytes
  | bytes :: others =>
      ((List.zip bytes (commonStart others)).takeWhile fun pair => pair.1 == pair.2).map Prod.fst

/-- Shortens heads to fewer and fewer bytes, in steps that each name the number of bytes and how
many heads are few enough not to be shortened. -/
def shorten : (steps : List (Nat × Nat)) → List Head → List Head
  | [], heads => heads
  | (length, few) :: steps, heads =>
      if heads.length ≤ few then heads
      else shorten steps (Head.withoutLonger (heads.map (Head.cut length)))

/-- Whether heads are taken as the texts to look for. They are if all are whole, unless shorter
ones serve better to find the places to look at: a rare first byte, a long common start, or fewer
starts of some length. -/
def areTexts (heads : List Head) : Bool :=
  let kept := Head.withoutLonger heads
  let start := commonStart (kept.map Head.bytes)
  let hasRareStart := heads.length != 1 && start.length ≤ 3 && start.head?.any (!isFrequent ·)
  let starts := shorten [(5, 10), (4, 10), (3, 64), (2, 64), (1, 10)] kept
  !kept.isEmpty && heads.all (!·.bytes.isEmpty) && kept.all Head.whole &&
    if hasRareStart then kept.all (·.bytes.length ≤ 1)
    else
      kept.length == 1 ||
        ((start.length ≤ 1 || (start.length ≤ 4 && kept.length ≤ 16)) &&
          (starts.any (·.bytes.length ≤ 2) || 64 < starts.length || starts.all Head.whole))

/-- Whether a pattern has neither groups nor places in it. -/
def isPlain : Pattern → Bool
  | empty | literal _ | char _ _ => true
  | place _ | foreignPlace | group _ => false
  | both first rest => first.isPlain && rest.isPlain
  | either first rest => first.isPlain && rest.isPlain
  | repeated inner _ _ _ => inner.isPlain

def text? : Pattern → Option (List Char)
  | literal text => some text
  | _ => none

/-- Whether a pattern is looked for by its texts: by those that it describes, or by its branches
if they are very many texts. -/
def isTexts (pattern : Pattern) : Bool :=
  (pattern.isPlain && pattern.heads.any areTexts) ||
    (pattern.branches.mapM text?).any (3000 ≤ ·.length)

end Pattern

end ControlStream

import ControlStream.Pattern.ByteRange
import ControlStream.Pattern.Head

/-!
# The machine for a pattern

A pattern is matched by a machine over bytes whose states are written out one after another, a
repetition as often as it is counted. Only its size is made here: how many states there are, and
how many bytes their tables take. A pattern is accepted if both the machine that reads forwards and
the one that reads backwards stay within a limit, or if it is looked for without them.
-/

namespace ControlStream

namespace Pattern

structure Build where
  states : Nat := 0
  /-- The bytes of the tables that states have besides their own. -/
  tables : Nat := 0

namespace Build

def stateSize : Nat := 32

/-- The bytes of a step over a range of bytes, in the table of a state. -/
def stepSize : Nat := 8

/-- The bytes of a way on without a byte, in the table of a state. -/
def waySize : Nat := 4

def maxSize : Nat := 10485760

def size (build : Build) : Nat := stateSize * build.states + build.tables

def isFull (build : Build) : Bool := maxSize < build.size

def add (build : Build) (count : Nat) : Build := { build with states := build.states + count }

def addSteps (build : Build) (count : Nat) : Build :=
  { states := build.states + 1, tables := build.tables + stepSize * count }

def addWays (build : Build) (count : Nat) : Build :=
  { build with tables := build.tables + waySize * count }

def addFork (build : Build) (ways : Nat) : Build := (build.add 1).addWays ways

def copies (part : Build → Build) : (count : Nat) → Build → Build
  | 0, build => build
  | count + 1, build => if build.isFull then build else copies part count (part build)

end Build

/-! ## Slots

States that are alike are shared as far as a table with a fixed number of slots remembers them. A
slot holds what was put into it last. -/

/-- What was put into the slots of a table, last first: the slot, the key and the state. -/
abbrev Slots (key : Type) := List (Nat × key × Nat)

def slotOf (size : Nat) (numbers : List Nat) : Nat :=
  let mix (hash : UInt64) (n : Nat) : UInt64 := (hash ^^^ n.toUInt64) * 1099511628211
  (numbers.foldl mix 14695981039346656037).toNat % size

def Slots.find? {key : Type} [DecidableEq key] (slots : Slots key) (slot : Nat) (wanted : key) :
    Option Nat :=
  match List.find? (fun entry => entry.1 == slot) slots with
  | some (_, held, state) => if held = wanted then some state else none
  | none => none

/-! ## A character, forwards

The byte sequences come in increasing order. The states for the last of them stay open as long as
the next one may begin with the same byte ranges. -/

/-- The steps of a state: byte ranges, and the states that they lead to. -/
abbrev Steps := List (ByteRange × Nat)

/-- A state that is still open, with the byte range of the step to the next open one. -/
structure OpenState where
  steps : Steps := []
  last : Option ByteRange := none

/-- The steps of an open state once the state after its last step is known. -/
def OpenState.close (state : OpenState) (target : Nat) : Steps :=
  match state.last with
  | some range => state.steps ++ [(range, target)]
  | none => state.steps

structure Tree where
  build : Build
  slots : Slots Steps := []

namespace Tree

/-- The state with the given steps. -/
def stateFor (tree : Tree) (steps : Steps) : Tree × Nat :=
  let slot := slotOf 10000 (steps.flatMap fun step => [step.1.1, step.1.2, step.2])
  match tree.slots.find? slot steps with
  | some state => (tree, state)
  | none =>
      let state := tree.build.states
      ({ build := tree.build.addSteps steps.length, slots := (slot, steps, state) :: tree.slots },
        state)

def closeAll (target : Nat) : List OpenState → Tree → Tree × Nat
  | [], tree => (tree, target)
  | state :: deeper, tree =>
      let (tree, next) := closeAll target deeper tree
      tree.stateFor (state.close next)

/-- Adds a sequence, which leaves the states for it open. -/
def insert (target : Nat) : List ByteRange → List OpenState → Tree → Tree × List OpenState
  | range :: ranges, state :: deeper, tree =>
      if state.last = some range then
        let (tree, deeper) := insert target ranges deeper tree
        (tree, state :: deeper)
      else
        let (tree, next) := closeAll target deeper tree
        let changed : OpenState := { steps := state.close next, last := some range }
        (tree, changed :: ranges.map fun range => { last := some range })
  | ranges, [], tree => (tree, ranges.map fun range => { last := some range })
  | [], states, tree => (tree, states)

end Tree

def forwardTree (sequences : List (List ByteRange)) (build : Build) : Build :=
  let target := build.states
  let (tree, states) := sequences.foldl
    (fun (state : Tree × List OpenState) ranges => Tree.insert target ranges state.2 state.1)
    ({ build := build.add 1 }, [{}])
  (Tree.closeAll target states tree).1.build

/-! ## A character, backwards -/

/-- The states for a sequence, each of which is reached from the one for the byte after it. -/
def backwardChain (build : Build) (slots : Slots (Nat × ByteRange)) :
    (target : Nat) → List ByteRange → Build × Slots (Nat × ByteRange)
  | _, [] => (build, slots)
  | target, range :: ranges =>
      let slot := slotOf 1000 [target, range.1, range.2]
      match slots.find? slot (target, range) with
      | some state => backwardChain build slots state ranges
      | none =>
          let state := build.states
          backwardChain (build.add 1) ((slot, (target, range), state) :: slots) state ranges

def backwardTree (sequences : List (List ByteRange)) (build : Build) : Build :=
  let target := build.states + 1
  let build := (build.addFork sequences.length).add 1
  (sequences.foldl
    (fun (state : Build × Slots (Nat × ByteRange)) ranges =>
      backwardChain state.1 state.2 target ranges)
    (build, [])).1

/-- Builds a set of characters. ASCII characters take one state with a table. -/
def buildSet (backward : Bool) (set : CharSet) (build : Build) : Build :=
  if set.isAscii then (build.add 1).addSteps set.ranges.length
  else
    let sequences := set.ranges.flatMap byteSequences
    if backward then backwardTree sequences build else forwardTree sequences build

/-! ## A choice between texts -/

/-- The words up to each empty one, and those after the last. -/
def chunks (words : List (List UInt8)) : List (List (List UInt8)) :=
  words.foldr
    (fun word chunks =>
      if word.isEmpty then [] :: chunks
      else
        match chunks with
        | chunk :: others => (word :: chunk) :: others
        | [] => [[word]])
    [[]]

/-- A tree of the letters of words, in which words with the same start share its states. Where a
word ends, others may go on, but they share nothing with those before it. -/
def wordTree : (depth : Nat) → List (List UInt8) → Build → Build
  | 0, _, build => build
  | depth + 1, words, build =>
      if words.all List.isEmpty then build
      else
        let first := if words.head? = some [] then [[]] else []
        let chunks := chunks (first ++ words.dropWhile List.isEmpty)
        let filled := chunks.filter (!·.isEmpty)
        let build := filled.foldl
          (fun build chunk =>
            let letters := (chunk.filterMap List.head?).eraseDups
            let build := letters.foldl
              (fun build letter =>
                let starting := chunk.filter fun word => word.head? == some letter
                wordTree depth (starting.map fun word => word.drop 1) build)
              build
            if letters.length = 1 then build.add 1 else build.addSteps letters.length)
          build
        build.addFork (filled.length + (chunks.length - 1))

def buildTexts (backward : Bool) (texts : List (List Char)) (build : Build) : Build :=
  let words := texts.map fun text =>
    let bytes := text.flatMap String.utf8EncodeChar
    if backward then bytes.reverse else bytes
  let depth := words.foldr (fun word n => max word.length n) 0
  wordTree (depth + 1) words (build.add 1)

/-! ## Patterns -/

/-- Where a pattern stands in a choice: first or alone, second, or later. -/
inductive Seat where
  | first
  | second
  | later

namespace Seat

def next : Seat → Seat
  | first => second
  | second => later
  | later => later

/-- Joins a branch to those before it, by a state to start at and one to end at. -/
def close (seat : Seat) (build : Build) : Build :=
  match seat with
  | first => build
  | second => (build.addFork 2).add 1
  | later => build.addWays 1

end Seat

/-- Builds a part `least` times in a row and then up to `most` times, or any number of times. -/
def buildRepeated (part : Build → Build) (solid : Bool) (least : Nat) (most : Option Nat)
    (build : Build) : Build :=
  match least, most with
  | 0, some 1 => (part (build.addFork 2)).add 1
  | 0, none =>
      if solid then part (build.addFork 2)
      else (((part build).addFork 2).addFork 2).add 1
  | least, none => (Build.copies part least build).addFork 2
  | least, some most =>
      let required := if least = 0 then build.add 1 else Build.copies part least build
      if least = most then required
      else Build.copies (fun build => part (build.addFork 2)) (most - least) (required.add 1)

/-- Builds a pattern. Groups are noted by the forward machine only. -/
def build (backward : Bool) : Pattern → Seat → Build → Build
  | empty, seat, build => seat.close (build.add 1)
  | literal text, seat, build =>
      seat.close (build.add (text.foldr (fun c n => c.utf8Size + n) 0))
  | char set _, seat, build => seat.close (buildSet backward set build)
  | place _, seat, build => seat.close (build.add 1)
  | foreignPlace, seat, build => seat.close (build.add 1)
  | group inner, seat, build =>
      if backward then seat.close (inner.build backward .first build)
      else seat.close ((inner.build backward .first (build.add 1)).add 1)
  | both first rest, seat, build =>
      seat.close
        (if backward then first.build backward .first (rest.build backward .first build)
        else rest.build backward .first (first.build backward .first build))
  | either first rest, seat, build =>
      let texts? :=
        match seat with
        | .first => (either first rest).branches.mapM text?
        | _ => none
      match texts? with
      | some texts => buildTexts backward texts build
      | none => rest.build backward seat.next (seat.close (first.build backward .first build))
  | repeated inner least most _, seat, build =>
      seat.close
        (buildRepeated (inner.build backward .first) (inner.isSolid == some true) least most build)

/-- The whole machine. Unless it is tied to where it starts reading, it first skips any number of
bytes. It ends in a state of its own. -/
def machine (pattern : Pattern) (backward : Bool) : Build :=
  let tied := if backward then pattern.isAtEnd else pattern.isAtStart
  let none : Build := {}
  let start := if tied then none.add 1 else ((none.addFork 2).add 1).addSteps 1
  let whole := if backward then pattern else .group pattern
  (whole.build backward .first start).add 1

/-- Whether a pattern needs no machine, or both machines for it stay within the limit. -/
def fits (pattern : Pattern) : Bool :=
  pattern.isTexts || (!(pattern.machine false).isFull && !(pattern.machine true).isFull)

end Pattern

end ControlStream

import ControlStream.Pattern.Basic

/-!
# Following a pattern through a text

A trail is a pattern with marks on its characters: a mark says that a part of the text that ends
at the present position has just taken up this character. Moving over a character of the text
moves each mark to the characters that may come next, so that all parts of the text are followed
at once, and the work for a character does not grow with what was read before it.
-/

namespace ControlStream

/-- A pattern with marks; counted repetitions are written out. -/
inductive Trail where
  | empty
  | text (chars : List (Char × Bool))
  | char (set : CharSet) (mark : Bool)
  | place (place : Pattern.Place)
  | both (first rest : Trail)
  | either (first rest : Trail)
  /-- Any number of times in a row. -/
  | many (inner : Trail)
  deriving DecidableEq, Repr

/-- A position in a text: the characters on both sides of it. -/
structure Position where
  before : Option Char
  after : Option Char
  deriving DecidableEq, Repr

namespace Trail

/-! ## Marks -/

/-- Whether nothing has to be taken up at a position. -/
def passes (here : Position) : Trail → Bool
  | empty | many _ => true
  | text chars => chars.isEmpty
  | char _ _ => false
  | place spot => spot.holds here.before here.after
  | both first rest => first.passes here && rest.passes here
  | either first rest => first.passes here || rest.passes here

/-- Whether a part that has taken something up can end at a position. -/
def arrives (here : Position) : Trail → Bool
  | empty | place _ => false
  | text chars => chars.getLast?.any Prod.snd
  | char _ mark => mark
  | both first rest => (first.arrives here && rest.passes here) || rest.arrives here
  | either first rest => first.arrives here || rest.arrives here
  | many inner => inner.arrives here

/-- Moves the marks over a character that comes after a position. `start` says that a new part may
start at the position. -/
def move (here : Position) (c : Char) : (start : Bool) → Trail → Trail
  | _, empty => empty
  | start, text chars =>
      text (List.zipWith (fun mark step => (step.1, mark && step.1 == c))
        (start :: chars.map Prod.snd) chars)
  | start, char set _ => char set (start && set.contains c)
  | _, place spot => place spot
  | start, both first rest =>
      both (first.move here c start)
        (rest.move here c ((start && first.passes here) || first.arrives here))
  | start, either first rest => either (first.move here c start) (rest.move here c start)
  | start, many inner => many (inner.move here c (start || inner.arrives here))

/-- Whether a part of a text ends at some position. `before` is the character before the text. -/
def isFoundIn (trail : Trail) : (before : Option Char) → (text : List Char) → Bool
  | before, c :: rest =>
      let here : Position := ⟨before, some c⟩
      trail.passes here || trail.arrives here || (trail.move here c true).isFoundIn (some c) rest
  | before, [] => trail.passes ⟨before, none⟩ || trail.arrives ⟨before, none⟩

/-! ## Trails of patterns -/

def times (trail : Trail) : (count : Nat) → Trail
  | 0 => empty
  | 1 => trail
  | count + 2 => both trail (trail.times (count + 1))

/-- A trail `least` times in a row and then up to `most` times, or any number of times. In a text
shorter than `bound` one of that many times takes nothing up, so more change nothing. -/
def repeated (bound least : Nat) (most : Option Nat) (trail : Trail) : Trail :=
  let required := trail.times (min least bound)
  match most, trail with
  | none, many _ => trail
  | none, _ => both required (many trail)
  | some most, _ => both required ((either trail empty).times (min (most - least) bound))

end Trail

namespace Pattern

/-- The trail of a pattern for texts shorter than `bound`. -/
def trail (bound : Nat) : Pattern → Trail
  | empty => .empty
  | literal text => .text (text.map fun c => (c, false))
  | char set _ => .char set false
  | place spot => .place spot
  | foreignPlace => .char .empty false
  | group inner => inner.trail bound
  | both first rest => .both (first.trail bound) (rest.trail bound)
  | either first rest => .either (first.trail bound) (rest.trail bound)
  | repeated inner least most _ => (inner.trail bound).repeated bound least most

def occursIn (pattern : Pattern) (text : List Char) : Bool :=
  (pattern.trail (text.length + 1)).isFoundIn none text

end Pattern

end ControlStream

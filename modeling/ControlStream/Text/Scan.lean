/-!
# Scanning

Steps over a text that is used up from the front. A step that repeats is bounded by the length
of the text that is left, which every useful round shortens.
-/

namespace ControlStream

/-- A step that takes characters from the front of a text, or fails. -/
abbrev Scan := StateT (List Char) Option

namespace Scan

/-- Repeats a step until it gives a result, at most `fuel` times. -/
def rounds {σ α : Type} (step : σ → Scan (σ ⊕ α)) : (fuel : Nat) → σ → Scan α
  | 0, _ => failure
  | fuel + 1, state => do
      match ← step state with
      | .inl next => rounds step fuel next
      | .inr result => return result

def loop {σ α : Type} (step : σ → Scan (σ ⊕ α)) (state : σ) : Scan α := do
  let text ← get
  rounds step (text.length + 2) state

def peek? : Scan (Option Char) := do return (← get).head?

def next : Scan Char := do
  match ← get with
  | [] => failure
  | c :: rest =>
      set rest
      return c

def startsWith (chars : List Char) : Scan Bool := do return chars.isPrefixOf (← get)

/-- Takes the given characters if the text goes on with them. -/
def skip? (chars : List Char) : Scan Bool := do
  if ← startsWith chars then
    modify fun text => text.drop chars.length
    return true
  else return false

def expect (chars : List Char) : Scan Unit := do
  unless ← skip? chars do failure

def takeWhile (p : Char → Bool) : Scan (List Char) := do
  let text ← get
  set (text.dropWhile p)
  return text.takeWhile p

def orFail {α : Type} : Option α → Scan α
  | some result => return result
  | none => failure

end Scan

end ControlStream

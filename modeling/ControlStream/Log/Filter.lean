import ControlStream.Log.Record
import ControlStream.Pattern.Reader
import ControlStream.Pattern.Trail

/-!
# Log filters

A filter is a list of directives, `target=level`, of which the one with the longest target that
begins a record's target decides. A level alone holds for every target and a target alone lets
every level pass. After a slash a pattern may follow that has to occur in a record's text.
-/

namespace ControlStream

/-- The greatest rank of level that passes; `none` stands for every target. -/
structure LogDirective where
  target : Option String
  maxRank : Nat
  deriving DecidableEq, Repr

structure LogFilter where
  directives : List LogDirective
  pattern : Option Pattern
  deriving Repr

namespace LogFilter

/-- The rank of a level's label, in any case; nothing passes at the rank of `off`. -/
def rankOf? (text : String) : Option Nat :=
  let label := text.map Char.toUpper
  if label = "OFF" then some 0
  else (Severity.all.find? fun level => level.label == label).map Severity.rank

def allRanks : Nat := Severity.trace.rank

def pieces (mark : Char) (text : List Char) : List (List Char) :=
  let (first, others) := text.foldr
    (fun c split => if c = mark then ([], split.1 :: split.2) else (c :: split.1, split.2))
    (([], []) : List Char × List (List Char))
  first :: others

/-- The directive of a piece; one that is malformed counts for nothing. -/
def directive? (piece : List Char) : Option LogDirective :=
  match pieces '=' piece with
  | [single] =>
      let text := String.ofList single
      match rankOf? text with
      | some rank => some ⟨none, rank⟩
      | none => some ⟨some text, allRanks⟩
  | [target, level] =>
      let name := some (String.ofList target)
      let level := Text.trim level
      if level = [] then some ⟨name, allRanks⟩
      else (rankOf? (String.ofList level)).map fun rank => ⟨name, rank⟩
  | _ => none

/-- Adds a directive, in place of the one with the same target. -/
def add (directives : List LogDirective) (directive : LogDirective) : List LogDirective :=
  if directives.any fun held => held.target == directive.target then
    directives.map fun held => if held.target = directive.target then directive else held
  else directives ++ [directive]

/-- What passes when nothing is asked for: errors. -/
def standard : List LogDirective := [⟨none, Severity.error.rank⟩]

/-- A text that writes no pattern asks for nothing, and with more than one slash the whole filter
counts for nothing. -/
def ofText (text : String) : LogFilter :=
  match pieces '/' text.toList with
  | spec :: rest =>
      let pattern :=
        match rest with
        | [pattern] => Pattern.read? (String.ofList pattern)
        | _ => none
      let parsed :=
        if rest.length ≤ 1 then
          (((pieces ',' spec).map Text.trim).filter (· ≠ [])).filterMap directive?
        else []
      let directives := parsed.foldl add []
      { directives := if directives = [] then standard else directives, pattern }
  | [] => { directives := standard, pattern := none }

/-- How specific a directive is for a target, if it applies. -/
def weight? (target : String) (directive : LogDirective) : Option Nat :=
  match directive.target with
  | none => some 0
  | some name => if name.toList.isPrefixOf target.toList then some name.utf8ByteSize else none

/-- The rank that passes for a target: that of the last of the most specific directives. -/
def rankFor (directives : List LogDirective) (target : String) : Nat :=
  let best := directives.foldl
    (fun (best : Option (Nat × Nat)) directive =>
      match weight? target directive, best with
      | none, _ => best
      | some weight, none => some (weight, directive.maxRank)
      | some weight, some (held, rank) =>
          if held ≤ weight then some (weight, directive.maxRank) else some (held, rank))
    none
  (best.map (·.2)).getD 0

def passes (filter : LogFilter) (record : LogRecord) : Bool :=
  record.level.rank ≤ rankFor filter.directives record.target &&
    match filter.pattern with
    | none => true
    | some pattern => pattern.occursIn record.text.toList

end LogFilter

end ControlStream

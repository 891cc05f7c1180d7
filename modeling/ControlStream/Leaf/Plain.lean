import ControlStream.Wire.Field

/-!
# Leaves without field access

A leaf has a second way to and from JSON, for use where no object surrounds it: strings stay
strings and every number is a JSON integer. It is the one that serde derives from the declaration
of the leaf, which makes it either a `transparent` wrapper or converts it by `try_from` and `into`.
-/

namespace ControlStream

/-- A leaf's form outside the records of the control stream. -/
class Plain (α : Type) where
  ofPlain? : Json → Option α
  toPlain : α → Json

def Json.string? : Json → Option String
  | .string s => some s
  | _ => none

namespace Plain

instance : Plain String where
  ofPlain? := Json.string?
  toPlain := .string

instance {width : Nat} : Plain (BitVec width) where
  ofPlain?
    | .number (.natural n) => narrow? width n
    | _ => none
  toPlain n := .natural (n.setWidth 64)

/-- What is derived for a `transparent` wrapper: the form of what it wraps. -/
abbrev transparent {α β : Type} [Plain β] (wrap : β → α) (unwrap : α → β) : Plain α where
  ofPlain? value := (ofPlain? value).map wrap
  toPlain x := toPlain (unwrap x)

/-- What is derived for a leaf with `try_from` and `into` a text: the form of the text. -/
abbrev converted {ε α : Type} (tryFrom : String → Except ε α) (into : α → String) : Plain α where
  ofPlain? value := (ofPlain? value).bind fun text => (tryFrom text).toOption
  toPlain x := toPlain (into x)

end Plain

end ControlStream

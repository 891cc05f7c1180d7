/-!
# TOML values

The tree that a TOML document makes, as far as a configuration needs it: numbers and moments are
checked while they are read, and their values are not kept. A table remembers how it came to be,
which decides whether a later header or dotted key may still add to it.
-/

namespace ControlStream

namespace Toml

/-- How a table came to be: under a header of its own, on the way to the table of a header, or
through a dotted key. -/
inductive Origin where
  | header
  | path
  | dotted
  deriving DecidableEq, Repr

end Toml

inductive Toml where
  | string (s : String)
  | boolean (b : Bool)
  | integer
  | float
  | moment
  | array (items : List Toml)
  | inlineTable (entries : List (String × Toml))
  | table (origin : Toml.Origin) (entries : List (String × Toml))
  /-- The tables of a repeated header, last first. -/
  | tables (elements : List (List (String × Toml)))
  deriving Inhabited, Repr

namespace Toml

abbrev Entries := List (String × Toml)

namespace Entries

def get? (key : String) (entries : Entries) : Option Toml := entries.lookup key

def set (key : String) (value : Toml) (entries : Entries) : Entries :=
  (key, value) :: entries.filter fun entry => entry.1 != key

/-- Changes the table at a path. Tables that are missing on the way are made with the origin
`made`; a dotted key passes through no table that has a header of its own. -/
def modifyAt (made : Origin) (change : Origin → Entries → Option Entries) :
    (path : List String) → (origin : Origin) → Entries → Option Entries
  | [], origin, entries => change origin entries
  | key :: path, _, entries =>
      match get? key entries with
      | none => do
          let inner ← modifyAt made change path made []
          return entries.set key (.table made inner)
      | some (.table origin inner) =>
          if made = .dotted ∧ origin = .header then none
          else do
            let inner ← modifyAt made change path origin inner
            return entries.set key (.table origin inner)
      | some (.tables (last :: others)) => do
          let last ← modifyAt made change path .header last
          return entries.set key (.tables (last :: others))
      | some _ => none

/-- Adds a value under a key that may be dotted. The last table on the way was made by dotted
keys exactly when the key is dotted, and no key is given twice. -/
def define (path : List String) (key : String) (value : Toml) (entries : Entries) :
    Option Entries :=
  modifyAt .dotted
    (fun origin inner =>
      if (origin = .dotted ↔ path = []) ∨ (get? key inner).isSome then none
      else some (inner.set key value))
    path .header entries

/-- Opens the table of a header. A table that was only passed through on the way to others may
still be opened, once. -/
def openTable (path : List String) (key : String) (entries : Entries) : Option Entries :=
  modifyAt .path
    (fun _ inner =>
      match get? key inner with
      | none => some (inner.set key (.table .header []))
      | some (.table .path held) => some (inner.set key (.table .header held))
      | some _ => none)
    path .header entries

def openElement (path : List String) (key : String) (entries : Entries) : Option Entries :=
  modifyAt .path
    (fun _ inner =>
      match get? key inner with
      | none => some (inner.set key (.tables [[]]))
      | some (.tables others) => some (inner.set key (.tables ([] :: others)))
      | some _ => none)
    path .header entries

end Entries

end Toml

end ControlStream

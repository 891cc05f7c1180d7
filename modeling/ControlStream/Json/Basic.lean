import ControlStream.Number.Double

/-!
# JSON values

An object is kept as its members in increasing order of their keys, each key once, so that equal
objects are the same list. `Fields.insert` keeps that order, and `Fields.get?` is the view through
which the rest of the library reads an object.
-/

namespace ControlStream

/-- A JSON number: a natural number or a negative integer of at most 64 bits, or a double.
`negSucc n` is `-(n + 1)`. -/
inductive JsonNumber where
  | natural (n : BitVec 64)
  | negSucc (n : BitVec 63)
  | double (x : Double)
  deriving DecidableEq, Repr

inductive Json where
  | null
  | bool (b : Bool)
  | number (n : JsonNumber)
  | string (s : String)
  | array (items : List Json)
  | object (fields : List (String × Json))
  deriving Inhabited, Repr

namespace Json

abbrev Fields := List (String × Json)

namespace Fields

def get? (key : String) : Fields → Option Json
  | [] => none
  | (k, v) :: rest => if k = key then some v else get? key rest

/-- Puts a value under a key, in place of the one it had. -/
def insert (key : String) (value : Json) : Fields → Fields
  | [] => [(key, value)]
  | (k, v) :: rest =>
      if key = k then (key, value) :: rest
      else if key < k then (key, value) :: (k, v) :: rest
      else (k, v) :: insert key value rest

/-- The fields of a list of members; the last of several with one key counts. -/
def ofList (members : List (String × Json)) : Fields :=
  members.foldl (fun fields member => insert member.1 member.2 fields) []

def keys (fields : Fields) : List String := fields.map (·.1)

def Sorted (fields : Fields) : Prop := fields.Pairwise fun a b => a.1 < b.1

@[simp] theorem get?_nil (key : String) : get? key [] = none := rfl

theorem get?_insert (key other : String) (value : Json) (fields : Fields) :
    get? other (insert key value fields) =
      if key = other then some value else get? other fields := by
  induction fields with
  | nil => simp [insert, get?]
  | cons head rest ih =>
      obtain ⟨k, v⟩ := head
      by_cases hk : key = k
      · subst hk
        by_cases ho : key = other
        · subst ho
          simp [insert, get?]
        · simp [insert, get?, ho]
      · by_cases hlt : key < k
        · by_cases ho : key = other
          · subst ho
            simp [insert, get?, hk, hlt]
          · simp [insert, get?, hk, hlt, ho]
        · by_cases ho : k = other
          · subst ho
            simp [insert, get?, hk, hlt]
          · simp [insert, get?, hk, hlt, ho, ih]

theorem mem_keys_insert {key other : String} {value : Json} {fields : Fields} :
    other ∈ keys (insert key value fields) ↔ other = key ∨ other ∈ keys fields := by
  induction fields with
  | nil => simp [insert, keys]
  | cons head rest ih =>
      obtain ⟨k, v⟩ := head
      simp only [insert]
      split
      · next hk =>
          subst hk
          simp [keys]
      · split
        · simp [keys]
        · simp only [keys, List.map_cons, List.mem_cons] at ih ⊢
          rw [ih]
          grind

theorem Sorted.insert {fields : Fields} (sorted : Sorted fields) (key : String) (value : Json) :
    Sorted (insert key value fields) := by
  induction fields with
  | nil => simp [Fields.insert, Sorted]
  | cons head rest ih =>
      obtain ⟨k, v⟩ := head
      have hrest : Sorted rest := (List.pairwise_cons.mp sorted).2
      have hhead := (List.pairwise_cons.mp sorted).1
      simp only [Fields.insert]
      split
      · next hk =>
          subst hk
          exact List.pairwise_cons.mpr ⟨hhead, hrest⟩
      · next hk =>
          split
          · next hlt =>
              refine List.pairwise_cons.mpr ⟨fun entry mem => ?_, sorted⟩
              rcases List.mem_cons.mp mem with rfl | mem
              · exact hlt
              · exact String.lt_trans hlt (hhead entry mem)
          · next hlt =>
              have hgt : k < key := by grind
              refine List.pairwise_cons.mpr ⟨fun entry mem => ?_, ih hrest⟩
              have hkey : entry.1 ∈ keys (Fields.insert key value rest) :=
                List.mem_map_of_mem mem
              rcases mem_keys_insert.mp hkey with h | h
              · exact h ▸ hgt
              · obtain ⟨other, hother, heq⟩ := List.mem_map.mp h
                exact heq ▸ hhead other hother

theorem sorted_nil : Sorted [] := List.Pairwise.nil

theorem sorted_foldl_insert (members : List (String × Json)) {fields : Fields}
    (sorted : Sorted fields) :
    Sorted (members.foldl (fun fields member => insert member.1 member.2 fields) fields) := by
  induction members generalizing fields with
  | nil => exact sorted
  | cons member rest ih => exact ih (sorted.insert member.1 member.2)

theorem sorted_ofList (members : List (String × Json)) : Sorted (ofList members) :=
  sorted_foldl_insert members sorted_nil

theorem get?_foldl_insert (key : String) (members : List (String × Json)) (fields : Fields) :
    get? key (members.foldl (fun fields member => insert member.1 member.2 fields) fields) =
      (members.reverse.lookup key).or (get? key fields) := by
  induction members generalizing fields with
  | nil => simp
  | cons member rest ih =>
      obtain ⟨k, v⟩ := member
      rw [List.foldl_cons, ih, get?_insert, List.reverse_cons, List.lookup_append, Option.or_assoc]
      congr 1
      by_cases h : k = key
      · subst h
        simp
      · have hne : (key == k) = false := by simp [Ne.symm h]
        simp [List.lookup_cons, hne, h]

/-- The last of several members with one key is the one that is found. -/
theorem get?_ofList (key : String) (members : List (String × Json)) :
    get? key (ofList members) = members.reverse.lookup key := by
  simp [ofList, get?_foldl_insert]

end Fields

def ofMembers (members : List (String × Json)) : Json := .object (Fields.ofList members)

/-- The value under a key; a value that is no object has none. -/
def get? (value : Json) (key : String) : Option Json :=
  match value with
  | .object fields => Fields.get? key fields
  | _ => none

def isNull : Json → Bool
  | .null => true
  | _ => false

def natural (n : BitVec 64) : Json := .number (.natural n)

def ofList {α : Type} (write : α → Json) (items : List α) : Json := .array (items.map write)

/-- An optional value, null when absent. -/
def ofOption {α : Type} (write : α → Json) : Option α → Json
  | none => .null
  | some x => write x

end Json

end ControlStream

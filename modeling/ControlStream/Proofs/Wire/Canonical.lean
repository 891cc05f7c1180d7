import ControlStream.Proofs.Text.Decimal
import ControlStream.Proofs.Wire.Spelling
import Mathlib.Data.List.Sort

/-!
# Canonical values

A record may be spelled in many ways, and is written in one: every field of its table, null when it
is missing, and no other; a number as an integer or, where a reader might lose digits, as a decimal
text. A `Form` is the table from which the one is made of the other.
-/

namespace ControlStream

namespace Json

/-! ## Objects of given members -/

namespace Fields

theorem mem_of_get? {key : String} {held : Json} {fields : Fields}
    (h : get? key fields = some held) : (key, held) ∈ fields := by
  induction fields with
  | nil => cases h
  | cons head rest ih =>
      obtain ⟨k, v⟩ := head
      rw [get?] at h
      split at h
      · next hk =>
          cases h
          exact hk ▸ List.mem_cons_self
      · exact List.mem_cons_of_mem _ (ih h)

/-- In key order no earlier member hides a later one. -/
theorem Sorted.get?_of_mem {key : String} {held : Json} {fields : Fields} (sorted : Sorted fields)
    (h : (key, held) ∈ fields) : get? key fields = some held := by
  induction fields with
  | nil => cases h
  | cons head rest ih =>
      obtain ⟨k, v⟩ := head
      obtain ⟨hhead, hrest⟩ := List.pairwise_cons.mp sorted
      rw [get?]
      rcases List.mem_cons.mp h with hfirst | hlater
      · cases hfirst
        rw [if_pos rfl]
      · have hlt : k < key := hhead _ hlater
        have hne : k ≠ key := by
          rintro rfl
          exact String.lt_irrefl k hlt
        rw [if_neg hne]
        exact ih hrest hlater

/-- In key order an object is determined by what is found in it. -/
theorem Sorted.ext {fields other : Fields} (hfields : Sorted fields) (hother : Sorted other)
    (h : ∀ key, get? key fields = get? key other) : fields = other := by
  -- The order of the keys is strict on members, and so the two lists agree once they have the same.
  have hirrefl : Std.Irrefl fun a b : String × Json => a.1 < b.1 :=
    ⟨fun a => String.lt_irrefl a.1⟩
  have hantisymm : Std.Antisymm fun a b : String × Json => a.1 < b.1 :=
    ⟨fun a b hab hba => absurd hba (String.lt_asymm hab)⟩
  refine List.Pairwise.eq_of_mem_iff hfields hother fun member => ⟨fun hmem => ?_, fun hmem => ?_⟩
  · exact mem_of_get? ((h member.1).symm.trans (hfields.get?_of_mem hmem))
  · exact mem_of_get? ((h member.1).trans (hother.get?_of_mem hmem))

theorem get?_eq_none_iff {key : String} {fields : Fields} :
    get? key fields = none ↔ key ∉ keys fields := by
  induction fields with
  | nil => simp [keys]
  | cons head rest ih =>
      obtain ⟨k, v⟩ := head
      by_cases hk : k = key
      · simp [get?, keys, hk]
      · have hne : key ≠ k := fun heq => hk heq.symm
        simpa [get?, keys, hk, hne] using ih

theorem mem_keys_foldl_insert {key : String} (members : List (String × Json)) {fields : Fields} :
    key ∈ keys (members.foldl (fun fields member => insert member.1 member.2 fields) fields) ↔
      key ∈ members.map (·.1) ∨ key ∈ keys fields := by
  induction members generalizing fields with
  | nil => simp
  | cons member rest ih =>
      rw [List.foldl_cons, ih, mem_keys_insert, List.map_cons, List.mem_cons, or_assoc,
        or_left_comm]

theorem mem_of_mem_ofList {members : List (String × Json)} {member : String × Json}
    (h : member ∈ ofList members) : member ∈ members :=
  mem_of_get?_ofMembers ((sorted_ofList members).get?_of_mem h)

theorem mem_keys_ofList {key : String} {members : List (String × Json)} :
    key ∈ keys (ofList members) ↔ key ∈ members.map (·.1) := by
  rw [ofList, mem_keys_foldl_insert]
  simp [keys]

end Fields

/-- An object in key order that carries members and has no other key is the object of the
members. -/
theorem ofMembers_eq_of_carries {fields : Fields} {members : List (String × Json)}
    (hsorted : fields.Sorted) (hcarries : (object fields).Carries members)
    (hkeys : ∀ key ∈ fields.keys, key ∈ members.map (·.1)) :
    ofMembers members = .object fields := by
  have hget := (carries_iff.mp hcarries).2
  refine congrArg object (Fields.Sorted.ext (Fields.sorted_ofList members) hsorted fun key => ?_)
  cases hfound : Fields.get? key (Fields.ofList members) with
  | none =>
      have hkey := Fields.get?_eq_none_iff.mp hfound
      rw [Fields.mem_keys_ofList] at hkey
      exact (Fields.get?_eq_none_iff.mpr fun hmem => hkey (hkeys key hmem)).symm
  | some held =>
      exact (hget _ (mem_of_get?_ofMembers hfound)).symm

/-! ## Parts of a value -/

/-- The number that an integer is, or that the digits of a text make. -/
def numeral : Json → Nat
  | .number (.natural n) => n.toNat
  | .string text => Nat.ofDigitChars 10 (text.toList.filter Char.isDigit) 0
  | _ => 0

theorem IsNumber.numeral_eq {value : Json} {n : Nat} (h : value.IsNumber n) :
    value.numeral = n := by
  have hfilter : ∀ {digits : List Char}, (∀ c ∈ digits, c.isDigit = true) →
      digits.filter Char.isDigit = digits := List.filter_eq_self.mpr
  cases h with
  | integer word => rfl
  | unsigned digits hne hall =>
      rw [numeral, String.toList_ofList, hfilter hall]
  | signed digits hne hall =>
      rw [numeral, String.toList_ofList, List.filter_cons_of_neg (by decide), hfilter hall]

example : numeral (.string "+007") = 7 := by decide

def items : Json → List Json
  | .array items => items
  | _ => []

/-- What is done to the value of a field, if it has one. -/
def orNull (f : Json → Json) : Option Json → Json
  | none | some .null => .null
  | some held => f held

end Json

open Json

/-! ## Forms -/

/-- How a value is written: as it stands, as a number or its decimal text, item by item, or by a
table of fields. -/
inductive Form where
  | same
  | integer
  | decimal
  | list (item : Form)
  | record (fields : List (String × Form))

namespace Form

mutual

def canonical : Form → Json → Json
  | same, value => value
  | integer, value => .natural (.ofNat 64 value.numeral)
  | decimal, value => .string (toString value.numeral)
  | list item, value => .array (value.items.map fun held => canonical item held)
  | record fields, value => .ofMembers (canonicalMembers fields value)

def canonicalMembers : List (String × Form) → Json → List (String × Json)
  | [], _ => []
  | (key, form) :: rest, value =>
      (key, orNull (fun held => canonical form held) (value.get? key)) ::
        canonicalMembers rest value

end

def canonicalField (form : Form) (value : Json) (key : String) : Json :=
  orNull (fun held => canonical form held) (value.get? key)

theorem canonical_record (fields : List (String × Form)) (value : Json) :
    canonical (record fields) value = .ofMembers (canonicalMembers fields value) := by
  rw [canonical]

theorem canonicalMembers_nil (value : Json) : canonicalMembers [] value = [] := rfl

theorem canonicalMembers_cons (key : String) (form : Form) (rest : List (String × Form))
    (value : Json) :
    canonicalMembers ((key, form) :: rest) value =
      (key, form.canonicalField value key) :: canonicalMembers rest value := rfl

theorem canonicalMembers_eq_map (fields : List (String × Form)) (value : Json) :
    canonicalMembers fields value =
      fields.map fun field => (field.1, field.2.canonicalField value field.1) := by
  induction fields with
  | nil => rfl
  | cons field rest ih => rw [canonicalMembers_cons, ih, List.map_cons]

theorem mem_canonicalMembers {fields : List (String × Form)} {field : String × Form}
    (h : field ∈ fields) (value : Json) :
    (field.1, field.2.canonicalField value field.1) ∈ canonicalMembers fields value := by
  rw [canonicalMembers_eq_map]
  exact List.mem_map_of_mem h

theorem map_fst_canonicalMembers (fields : List (String × Form)) (value : Json) :
    (canonicalMembers fields value).map (·.1) = fields.map (·.1) := by
  rw [canonicalMembers_eq_map, List.map_map]
  rfl

mutual

/-- A value that is already written in a form. -/
def IsNormal : Form → Json → Prop
  | same, _ => True
  | integer, value => ∃ n : BitVec 64, value = .natural n
  | decimal, value => ∃ n : Nat, value = .string (toString n)
  | list item, value => ∃ items, value = .array items ∧ ∀ held ∈ items, IsNormal item held
  | record fields, value =>
      ∃ members : Fields, value = .object members ∧ members.Sorted ∧
        (∀ key ∈ members.keys, key ∈ fields.map (·.1)) ∧ AllNormal fields value

/-- Every field of a table is there, and null or already as it is written. -/
def AllNormal : List (String × Form) → Json → Prop
  | [], _ => True
  | (key, form) :: rest, value =>
      (∃ held, value.get? key = some held ∧ (held = .null ∨ IsNormal form held)) ∧
        AllNormal rest value

end

/-! ## What is normal stays as it is -/

theorem numeral_toString (n : Nat) : numeral (.string (toString n)) = n := by
  have hall : ∀ c ∈ Nat.toDigits 10 n, c.isDigit = true := fun _ => Text.isDigit_of_mem_toDigits
  rw [numeral, Text.toList_toString, List.filter_eq_self.mpr hall, Nat.ofDigitChars_ten_toDigits]

mutual

theorem canonical_eq_self (form : Form) {value : Json} (h : form.IsNormal value) :
    form.canonical value = value := by
  cases form with
  | same => rfl
  | integer =>
      obtain ⟨n, rfl⟩ := h
      simp [canonical, numeral, natural]
  | decimal =>
      obtain ⟨n, rfl⟩ := h
      rw [canonical, numeral_toString]
  | list item =>
      obtain ⟨items, rfl, hitems⟩ := h
      have hself : ∀ held ∈ items, canonical item held = held :=
        fun held hmem => canonical_eq_self item (hitems held hmem)
      rw [canonical, Json.items, List.map_congr_left hself, List.map_id']
  | record fields =>
      obtain ⟨members, rfl, hsorted, hkeys, hall⟩ := h
      have hcarries := carries_of_allNormal fields ⟨members, rfl⟩ hall
      rw [canonical_record]
      refine ofMembers_eq_of_carries hsorted hcarries ?_
      rwa [map_fst_canonicalMembers]

theorem carries_of_allNormal (fields : List (String × Form)) {value : Json}
    (hobject : value.IsObject) (h : AllNormal fields value) :
    value.Carries (canonicalMembers fields value) := by
  cases fields with
  | nil => exact hobject
  | cons field rest =>
      obtain ⟨key, form⟩ := field
      obtain ⟨⟨held, hheld, hnormal⟩, hrest⟩ := h
      rw [canonicalMembers_cons]
      refine ⟨?_, carries_of_allNormal rest hobject hrest⟩
      rw [canonicalField, hheld]
      rcases hnormal with rfl | hnormal
      · rfl
      · have hself := canonical_eq_self form hnormal
        cases held with
        | null => rfl
        | _ => exact congrArg some hself.symm

end

/-! ## What is written is normal -/

mutual

/-- No table names a key twice. -/
def Distinct : Form → Prop
  | list item => Distinct item
  | record fields => (fields.map (·.1)).Nodup ∧ AllDistinct fields
  | _ => True

def AllDistinct : List (String × Form) → Prop
  | [] => True
  | (_, form) :: rest => Distinct form ∧ AllDistinct rest

end

theorem allNormal_iff {fields : List (String × Form)} {value : Json} :
    AllNormal fields value ↔ ∀ field ∈ fields,
      ∃ held, value.get? field.1 = some held ∧ (held = .null ∨ IsNormal field.2 held) := by
  induction fields with
  | nil => simp [AllNormal]
  | cons field rest ih => simp only [AllNormal, ih, List.forall_mem_cons]

mutual

theorem isNormal_canonical (form : Form) (h : form.Distinct) (value : Json) :
    form.IsNormal (form.canonical value) := by
  cases form with
  | same => trivial
  | integer => exact ⟨_, rfl⟩
  | decimal => exact ⟨_, rfl⟩
  | list item =>
      refine ⟨_, rfl, fun held hmem => ?_⟩
      obtain ⟨found, -, rfl⟩ := List.mem_map.mp hmem
      exact isNormal_canonical item h found
  | record fields =>
      obtain ⟨hkeys, hfields⟩ := h
      have hmembers : ((canonicalMembers fields value).map (·.1)).Nodup := by
        rwa [map_fst_canonicalMembers]
      have hcarries := (carries_iff.mp (carries_ofMembers hmembers)).2
      refine ⟨_, rfl, Fields.sorted_ofList _, fun key hkey => ?_,
        allNormal_iff.mpr fun field hmem => ?_⟩
      · rwa [Fields.mem_keys_ofList, map_fst_canonicalMembers] at hkey
      · refine ⟨_, hcarries _ (mem_canonicalMembers hmem value), ?_⟩
        rw [canonicalField]
        cases value.get? field.1 with
        | none => exact .inl rfl
        | some held =>
            have hnormal := isNormal_canonical_field fields hfields field hmem held
            cases held with
            | null => exact .inl rfl
            | _ => exact .inr hnormal

theorem isNormal_canonical_field (fields : List (String × Form)) (h : AllDistinct fields)
    (field : String × Form) (hmem : field ∈ fields) (held : Json) :
    field.2.IsNormal (field.2.canonical held) := by
  cases fields with
  | nil => cases hmem
  | cons first rest =>
      obtain ⟨key, form⟩ := first
      rcases List.mem_cons.mp hmem with rfl | hrest
      · exact isNormal_canonical form h.1 held
      · exact isNormal_canonical_field rest h.2 field hrest held

end

theorem canonical_eq_self_iff {form : Form} (h : form.Distinct) {value : Json} :
    form.canonical value = value ↔ form.IsNormal value := by
  constructor
  · intro heq
    exact heq ▸ isNormal_canonical form h value
  · exact canonical_eq_self form

/-! ## What is spelled is written -/

/-- A form takes every spelling of a value to what is written for it. -/
structure Writes {α : Type} (form : Form) (spells : Json → α → Prop) (write : α → Json) :
    Prop where
  canonical_eq : ∀ {held : Json} {x : α}, spells held x → form.canonical held = write x
  not_null : ∀ x : α, ¬ spells .null x

section Writes

variable {α : Type} {form : Form} {spells : Json → α → Prop} {write : α → Json} {value : Json}
  {key : String}

theorem Writes.field (h : form.Writes spells write) {x : α} (hx : value.HasField key spells x) :
    form.canonicalField value key = write x := by
  obtain ⟨held, hheld, hspells⟩ := hx
  have hwrite := h.canonical_eq hspells
  rw [canonicalField, hheld]
  cases held with
  | null => exact absurd hspells (h.not_null x)
  | _ => exact hwrite

theorem Writes.optional (h : form.Writes spells write) {x : Option α}
    (hx : value.HasOptional key spells x) :
    form.canonicalField value key = .ofOption write x := by
  cases x with
  | none =>
      rcases hx with habsent | hnull
      · rw [canonicalField, habsent]
        rfl
      · rw [canonicalField, hnull]
        rfl
  | some x => exact h.field hx

theorem Writes.ofRecord
    (hcanonical : ∀ {held : Json} {x : α}, spells held x → form.canonical held = write x)
    (hobject : ∀ {held : Json} {x : α}, spells held x → held.IsObject) :
    form.Writes spells write :=
  ⟨hcanonical, not_spells_null hobject⟩

theorem Writes.items (h : form.Writes spells write) :
    (list form).Writes (IsList spells) (.ofList write) where
  canonical_eq {held xs} hspells := by
    obtain ⟨found, rfl, hitems⟩ := hspells
    have hmap : found.map (fun held => canonical form held) = xs.map write := by
      induction hitems with
      | nil => rfl
      | cons hx _ ih => rw [List.map_cons, List.map_cons, ih, h.canonical_eq hx]
    rw [canonical, Json.items, hmap, ofList]
  not_null xs hspells := by
    obtain ⟨found, hfound, -⟩ := hspells
    cases hfound

end Writes

theorem same_writes_text : same.Writes IsText .string := ⟨id, nofun⟩

theorem same_writes_flag : same.Writes IsFlag .bool := ⟨id, nofun⟩

theorem same_writes_fields : same.Writes IsFields .object := ⟨id, nofun⟩

theorem same_writes_bytes : same.Writes IsBytes .ofBytes := ⟨id, nofun⟩

theorem same_writes_opaque {role : OpaqueRole} :
    same.Writes (Opaque.SpelledBy : Json → Opaque role → Prop) Wire.write := ⟨id, nofun⟩

theorem same_writes_typed {α : Type} [Payload α] :
    same.Writes (Typed.SpelledBy : Json → Typed α → Prop) Wire.write := ⟨id, nofun⟩

theorem integer_writes {width : Nat} :
    integer.Writes (IsUnsigned width) fun n => .natural (n.setWidth 64) where
  canonical_eq {held n} h := by
    rw [canonical, IsNumber.numeral_eq h, BitVec.ofNat_toNat]
  not_null _ := nofun

end Form

theorem Scalar.integer_writes {role : ScalarRole} (hrole : role ≠ .operationId) :
    Form.integer.Writes (Scalar.SpelledBy : Json → Scalar role → Prop) Wire.write where
  canonical_eq h := by
    cases role with
    | operationId => exact absurd rfl hrole
    | _ => exact Form.integer_writes.canonical_eq h
  not_null _ := nofun

theorem Scalar.decimal_writes :
    Form.decimal.Writes (Scalar.SpelledBy : Json → OperationId → Prop) Wire.write where
  canonical_eq {held scalar} h := by
    have hnumeral : held.numeral = scalar.toNat := IsNumber.numeral_eq h
    show Json.string (toString held.numeral) = .string scalar.text
    rw [hnumeral, text]
  not_null _ := nofun

end ControlStream

import ControlStream.Proofs.Wire.Leaf
import Mathlib.Data.List.Forall2

/-!
# What a field spells

A field spells a text, a flag, a number, bytes, a list or a record. The relations here say which
JSON values spell what, with no word about reading: a number may be written as an integer or in
digits, and an optional field that holds null spells as much as one that is absent. Then each read
of a field succeeds exactly with what the field spells.
-/

namespace ControlStream

theorem Except.bind_eq_ok_iff {ε α β : Type} {x : Except ε α} {f : α → Except ε β} {y : β} :
    (x >>= f) = .ok y ↔ ∃ a, x = .ok a ∧ f a = .ok y := by
  cases x with
  | error cause => simp [bind, Except.bind]
  | ok a => simp

theorem Except.map_eq_ok_iff {ε α β : Type} {x : Except ε α} {f : α → β} {y : β} :
    x.map f = .ok y ↔ ∃ a, x = .ok a ∧ f a = y := by
  cases x with
  | error cause => simp [Except.map]
  | ok a => simp [Except.map]

theorem eq_name_of_find? {α : Type} {all : List α} {name : α → String} {text : String} {x : α}
    (h : all.find? (fun x => name x == text) = some x) : text = name x := by
  have hname : name x = text := by simpa using List.find?_some h
  exact hname.symm

namespace Json

/-! ## Values -/

def IsObject (value : Json) : Prop := ∃ fields, value = .object fields

def IsText (value : Json) (text : String) : Prop := value = .string text

def IsFlag (value : Json) (flag : Bool) : Prop := value = .bool flag

def IsFields (value : Json) (fields : Fields) : Prop := value = .object fields

/-- The one text of the bytes. -/
def IsBytes (value : Json) (bytes : List UInt8) : Prop := value = .string (Base64.encode bytes)

/-- The spellings of a natural number: an integer, or ASCII digits with any number of leading zeros
and at most one plus sign before them. -/
inductive IsNumber : Json → Nat → Prop where
  | integer (word : BitVec 64) : IsNumber (.number (.natural word)) word.toNat
  | unsigned (digits : List Char) (hne : digits ≠ []) (hall : ∀ c ∈ digits, c.isDigit = true) :
      IsNumber (.string (String.ofList digits)) (Nat.ofDigitChars 10 digits 0)
  | signed (digits : List Char) (hne : digits ≠ []) (hall : ∀ c ∈ digits, c.isDigit = true) :
      IsNumber (.string (String.ofList ('+' :: digits))) (Nat.ofDigitChars 10 digits 0)

def IsUnsigned (width : Nat) (value : Json) (n : BitVec width) : Prop := value.IsNumber n.toNat

variable {α : Type}

/-- An array of items that spell the members of a list in order. -/
def IsList (spells : Json → α → Prop) (value : Json) (items : List α) : Prop :=
  ∃ held, value = .array held ∧ List.Forall₂ spells held items

/-! ## Fields -/

def HasField (value : Json) (key : String) (spells : Json → α → Prop) (x : α) : Prop :=
  ∃ held, value.get? key = some held ∧ spells held x

theorem HasField.isObject {value : Json} {key : String} {spells : Json → α → Prop} {x : α}
    (h : value.HasField key spells x) : value.IsObject := by
  obtain ⟨held, hheld, -⟩ := h
  cases value with
  | object fields => exact ⟨fields, rfl⟩
  | _ => cases hheld

/-- A field that may be missing; null says that it is. -/
def HasOptional (value : Json) (key : String) (spells : Json → α → Prop) : Option α → Prop
  | none => value.get? key = none ∨ value.get? key = some .null
  | some x => value.HasField key spells x

/-! ## Exact reads -/

/-- A read that succeeds exactly with what a value spells. Null spells nothing, so a field that
holds it is as good as absent. -/
structure Exact (read : Json → Except DecodeError α) (spells : Json → α → Prop) : Prop where
  ok_iff : ∀ {value : Json} {x : α}, read value = .ok x ↔ spells value x
  not_null : ∀ x : α, ¬ spells .null x

variable {read : Json → Except DecodeError α} {spells : Json → α → Prop} {value : Json}
  {field : String}

theorem present?_eq_some_iff {held : Json} :
    value.present? field = some held ↔ value.get? field = some held ∧ held ≠ .null := by
  have hnull : (!held.isNull) = true ↔ held ≠ .null := by cases held <;> simp [isNull]
  rw [present?, Option.filter_eq_some_iff, hnull]

theorem present?_eq_none_iff :
    value.present? field = none ↔ value.get? field = none ∨ value.get? field = some .null := by
  unfold present?
  cases value.get? field with
  | none => simp
  | some found => cases found <;> simp [isNull]

theorem require_eq_ok_iff {held : Json} :
    value.require field = .ok held ↔ value.get? field = some held ∧ held ≠ .null := by
  rw [← present?_eq_some_iff, require]
  cases value.present? field with
  | none => simp
  | some found => simp

theorem Exact.require (h : Exact read spells) {x : α} :
    (value.require field >>= read) = .ok x ↔ value.HasField field spells x := by
  simp only [Except.bind_eq_ok_iff, require_eq_ok_iff, h.ok_iff, HasField]
  constructor
  · rintro ⟨held, ⟨hheld, -⟩, hspells⟩
    exact ⟨held, hheld, hspells⟩
  · rintro ⟨held, hheld, hspells⟩
    -- Null spells nothing, so the field is not taken for absent.
    refine ⟨held, ⟨hheld, ?_⟩, hspells⟩
    rintro rfl
    exact h.not_null x hspells

theorem Exact.optional (h : Exact read spells) {x : Option α} :
    (match value.present? field with
      | none => Except.ok none
      | some held => (read held).map some) = .ok x ↔ value.HasOptional field spells x := by
  cases hpresent : value.present? field with
  | none =>
      have habsent := present?_eq_none_iff.mp hpresent
      cases x with
      | none => simpa [HasOptional] using habsent
      | some x =>
          simp only [Except.ok.injEq, reduceCtorEq, HasOptional, HasField, false_iff]
          rintro ⟨held, hheld, hspells⟩
          rcases habsent with hnone | hnull
          · exact absurd (hheld.symm.trans hnone) nofun
          · cases hheld.symm.trans hnull
            exact h.not_null x hspells
  | some held =>
      obtain ⟨hheld, hne⟩ := present?_eq_some_iff.mp hpresent
      simp only [Except.map_eq_ok_iff, h.ok_iff]
      cases x with
      | none => simp [HasOptional, hheld, hne]
      | some x => simp [HasOptional, HasField, hheld]

theorem exact_asString (field : String) : Exact (asString field) IsText where
  ok_iff {value text} := by cases value <;> simp [asString, IsText]
  not_null _ := nofun

theorem exact_asBool (field : String) : Exact (asBool field) IsFlag where
  ok_iff {value flag} := by cases value <;> simp [asBool, IsFlag]
  not_null _ := nofun

theorem exact_asObject (field : String) : Exact (asObject field) IsFields where
  ok_iff {value fields} := by cases value <;> simp [asObject, IsFields]
  not_null _ := nofun

theorem exact_asArray (field : String) :
    Exact (asArray field) fun held items => held = .array items where
  ok_iff {value items} := by cases value <;> simp [asArray]
  not_null _ := nofun

theorem asRecord_eq_ok_iff {record : String} {fields : Fields} :
    value.asRecord record = .ok fields ↔ value = .object fields := by
  cases value <;> simp [asRecord]

theorem bytesOfText_eq_ok_iff {text : String} {bytes : List UInt8} :
    bytesOfText text = .ok bytes ↔ text = Base64.encode bytes := by
  constructor
  · exact eq_encode_of_bytesOfText
  · rintro rfl
    exact bytesOfText_encode bytes

theorem not_spells_null (hobject : ∀ {value : Json} {x : α}, spells value x → value.IsObject)
    (x : α) : ¬ spells .null x := by
  intro h
  obtain ⟨fields, hfields⟩ := hobject h
  cases hfields

theorem Exact.ofRecord
    (hok : ∀ {value : Json} {x : α}, read value = .ok x ↔ spells value x)
    (hobject : ∀ {value : Json} {x : α}, spells value x → value.IsObject) : Exact read spells :=
  ⟨hok, not_spells_null hobject⟩

/-- A wrapped value is spelled as what it wraps. -/
theorem Exact.map (h : Exact read spells) {β : Type} (wrap : α → β) (unwrap : β → α)
    (hleft : ∀ x, unwrap (wrap x) = x) (hright : ∀ y, wrap (unwrap y) = y) :
    Exact (fun value => (read value).map wrap) fun value y => spells value (unwrap y) where
  ok_iff {value y} := by
    simp only [Except.map_eq_ok_iff, h.ok_iff]
    constructor
    · rintro ⟨x, hx, rfl⟩
      rwa [hleft]
    · intro hspells
      exact ⟨unwrap y, hspells, hright y⟩
  not_null y := h.not_null (unwrap y)

/-! ## Numbers -/

/-- A sign is no digit, so only a text that has one loses it. -/
theorem unsignedDigits_ofList {digits : List Char} (hall : ∀ c ∈ digits, c.isDigit = true) :
    unsignedDigits (String.ofList digits) = digits := by
  unfold unsignedDigits
  rw [String.toList_ofList]
  split
  · next rest =>
      have hsign := hall '+' List.mem_cons_self
      exact absurd hsign (by decide)
  · rfl

theorem toList_eq_unsignedDigits (text : String) :
    text.toList = unsignedDigits text ∨ text.toList = '+' :: unsignedDigits text := by
  unfold unsignedDigits
  split
  · next digits hsign => exact .inr hsign
  · exact .inl rfl

theorem isNumber_string_iff {text : String} {n : Nat} :
    IsNumber (.string text) n ↔
      unsignedDigits text ≠ [] ∧ (∀ c ∈ unsignedDigits text, c.isDigit = true) ∧
        Nat.ofDigitChars 10 (unsignedDigits text) 0 = n := by
  constructor
  · intro h
    cases h with
    | unsigned digits hne hall =>
        rw [unsignedDigits_ofList hall]
        exact ⟨hne, hall, rfl⟩
    | signed digits hne hall =>
        have hdigits : unsignedDigits (String.ofList ('+' :: digits)) = digits := by
          simp [unsignedDigits]
        rw [hdigits]
        exact ⟨hne, hall, rfl⟩
  · rintro ⟨hne, hall, rfl⟩
    have htext : String.ofList text.toList = text := String.ofList_toList
    rcases toList_eq_unsignedDigits text with hplain | hsign
    · have h := IsNumber.unsigned _ hne hall
      rwa [← hplain, htext, hplain] at h
    · have h := IsNumber.signed _ hne hall
      rwa [← hsign, htext] at h

theorem unsignedOfText?_eq_some_iff {text : String} {n : BitVec 64} :
    unsignedOfText? text = some n ↔ IsNumber (.string text) n.toNat := by
  rw [isNumber_string_iff]
  unfold unsignedOfText?
  simp only [List.all_eq_true, Option.ite_none_right_eq_some, Option.some.injEq]
  constructor
  · rintro ⟨⟨hne, hall, hlt⟩, rfl⟩
    exact ⟨hne, hall, (Nat.mod_eq_of_lt hlt).symm⟩
  · rintro ⟨hne, hall, hvalue⟩
    have hlt : n.toNat < Nat.pow 2 64 := n.isLt
    rw [hvalue]
    exact ⟨⟨hne, hall, hlt⟩, BitVec.ofNat_toNat 64 n⟩

theorem isNumber_natural_iff {word : BitVec 64} {n : Nat} :
    IsNumber (.number (.natural word)) n ↔ word.toNat = n := by
  constructor
  · intro h
    cases h
    rfl
  · rintro rfl
    exact .integer word

theorem unsigned?_eq_some_iff {value : Json} {n : BitVec 64} :
    value.unsigned? = some n ↔ value.IsNumber n.toNat := by
  cases value with
  | string text => exact unsignedOfText?_eq_some_iff
  | number number =>
      cases number with
      | natural word =>
          rw [isNumber_natural_iff, unsigned?, Option.some.injEq]
          exact BitVec.toNat_inj.symm
      | _ => simpa only [unsigned?, reduceCtorEq, false_iff] using nofun
  | _ => simpa only [unsigned?, reduceCtorEq, false_iff] using nofun

theorem exact_asUnsigned (field : String) : Exact (asUnsigned field) (IsUnsigned 64) where
  ok_iff {value n} := by
    rw [IsUnsigned, ← unsigned?_eq_some_iff, asUnsigned]
    cases value.unsigned? <;> simp
  not_null _ := nofun

theorem narrow?_eq_some_iff {width : Nat} (hwidth : width ≤ 64) {wide : BitVec 64}
    {n : BitVec width} : narrow? width wide = some n ↔ wide.toNat = n.toNat := by
  unfold narrow?
  constructor
  · intro h
    split at h
    · next hlt =>
        cases h
        rw [BitVec.toNat_setWidth]
        exact (Nat.mod_eq_of_lt hlt).symm
    · cases h
  · intro h
    have hwide : wide = n.setWidth 64 := by
      apply BitVec.eq_of_toNat_eq
      rw [h, BitVec.toNat_setWidth_of_le hwidth]
    rw [hwide]
    exact narrow?_setWidth hwidth n

theorem exact_asNarrow {width : Nat} (hwidth : width ≤ 64) (tooWide : Shape) (field : String) :
    Exact (asNarrow width tooWide field) (IsUnsigned width) where
  ok_iff {value n} := by
    simp only [asNarrow, Except.bind_eq_ok_iff, (exact_asUnsigned field).ok_iff]
    constructor
    · rintro ⟨wide, hwide, h⟩
      split at h
      · next narrowed hnarrow =>
          cases h
          have heq := (narrow?_eq_some_iff hwidth).mp hnarrow
          rwa [IsUnsigned, heq] at hwide
      · cases h
    · intro h
      have heq : (n.setWidth 64).toNat = n.toNat := BitVec.toNat_setWidth_of_le hwidth
      refine ⟨n.setWidth 64, by rwa [IsUnsigned, heq], ?_⟩
      rw [narrow?_setWidth hwidth]
  not_null _ := nofun

/-! ## Reads of one field -/

theorem requireString_eq_ok_iff {text : String} :
    value.requireString field = .ok text ↔ value.HasField field IsText text :=
  (exact_asString field).require

theorem optionalString_eq_ok_iff {text : Option String} :
    value.optionalString field = .ok text ↔ value.HasOptional field IsText text :=
  (exact_asString field).optional

theorem requireBool_eq_ok_iff {flag : Bool} :
    value.requireBool field = .ok flag ↔ value.HasField field IsFlag flag :=
  (exact_asBool field).require

theorem requireObject_eq_ok_iff {fields : Fields} :
    value.requireObject field = .ok fields ↔ value.HasField field IsFields fields :=
  (exact_asObject field).require

theorem requireUnsigned16_eq_ok_iff {n : BitVec 16} :
    value.requireUnsigned16 field = .ok n ↔ value.HasField field (IsUnsigned 16) n :=
  (exact_asNarrow (by decide) _ field).require

theorem requireUnsigned32_eq_ok_iff {n : BitVec 32} :
    value.requireUnsigned32 field = .ok n ↔ value.HasField field (IsUnsigned 32) n :=
  (exact_asNarrow (by decide) _ field).require

theorem requireBytes_eq_ok_iff {bytes : List UInt8} :
    value.requireBytes field = .ok bytes ↔ value.HasField field IsBytes bytes := by
  simp only [requireBytes, Except.bind_eq_ok_iff, requireString_eq_ok_iff, bytesOfText_eq_ok_iff,
    HasField, IsText, IsBytes]
  constructor
  · rintro ⟨_, ⟨held, hheld, rfl⟩, rfl⟩
    exact ⟨_, hheld, rfl⟩
  · rintro ⟨held, hheld, rfl⟩
    exact ⟨_, ⟨_, hheld, rfl⟩, rfl⟩

theorem exists_forall₂_iff {held : List Json} :
    (∃ items, List.Forall₂ spells held items) ↔ ∀ item ∈ held, ∃ x, spells item x := by
  induction held with
  | nil => exact ⟨fun _ => nofun, fun _ => ⟨[], .nil⟩⟩
  | cons first rest ih =>
      rw [List.forall_mem_cons, ← ih]
      constructor
      · intro h
        obtain ⟨items, hitems⟩ := h
        cases hitems with
        | cons hfirst hrest => exact ⟨⟨_, hfirst⟩, _, hrest⟩
      · intro h
        obtain ⟨⟨x, hfirst⟩, items, hrest⟩ := h
        exact ⟨x :: items, .cons hfirst hrest⟩

section Wire

variable [Wire α]

theorem requireField_eq_ok_iff (h : Exact (Wire.read field) spells) {x : α} :
    value.requireField field = .ok x ↔ value.HasField field spells x :=
  h.require

theorem optionalField_eq_ok_iff (h : Exact (Wire.read field) spells) {x : Option α} :
    value.optionalField field = .ok x ↔ value.HasOptional field spells x :=
  h.optional

theorem readItems_eq_ok_iff (h : Exact (Wire.read field) spells) {held : List Json}
    {items : List α} : readItems field held = .ok items ↔ List.Forall₂ spells held items := by
  induction held generalizing items with
  | nil =>
      simp only [readItems, Except.ok.injEq, List.forall₂_nil_left_iff]
      exact eq_comm
  | cons first rest ih =>
      simp only [readItems, Except.bind_eq_ok_iff, Except.pure_eq_ok, Except.ok.injEq, h.ok_iff,
        ih, List.forall₂_cons_left_iff]
      constructor
      · rintro ⟨x, hx, xs, hxs, rfl⟩
        exact ⟨x, xs, hx, hxs, rfl⟩
      · rintro ⟨x, xs, hx, hxs, rfl⟩
        exact ⟨x, hx, xs, hxs, rfl⟩

theorem requireList_eq_ok_iff (h : Exact (Wire.read field) spells) {items : List α} :
    value.requireList field = .ok items ↔ value.HasField field (IsList spells) items := by
  have hrequire : ∀ {list}, value.requireArray field = .ok list ↔
      value.HasField field (fun held list => held = .array list) list :=
    (exact_asArray field).require
  simp only [requireList, Except.bind_eq_ok_iff, hrequire, readItems_eq_ok_iff h, HasField, IsList]
  constructor
  · rintro ⟨list, ⟨held, hheld, rfl⟩, hitems⟩
    exact ⟨_, hheld, list, rfl, hitems⟩
  · rintro ⟨_, hheld, list, rfl, hitems⟩
    exact ⟨list, ⟨_, hheld, rfl⟩, hitems⟩

end Wire

end Json

/-! ## Leaves -/

open Json

/-- The leaves that are kept as their text. -/
def Opaque.SpelledBy {role : OpaqueRole} (value : Json) (leaf : Opaque role) : Prop :=
  value.IsText leaf.text

def Typed.SpelledBy {α : Type} (value : Json) (leaf : Typed α) : Prop := value.IsText leaf.text

/-- A number of the width of its role, whichever way it is written. -/
def Scalar.SpelledBy {role : ScalarRole} (value : Json) (scalar : Scalar role) : Prop :=
  value.IsUnsigned role.width scalar.value

theorem Opaque.exact_read {role : OpaqueRole} (field : String) :
    Exact (Wire.read field) (Opaque.SpelledBy : Json → Opaque role → Prop) :=
  (exact_asString field).map Opaque.mk (·.text) (fun _ => rfl) fun _ => rfl

theorem Typed.exact_read {α : Type} [Payload α] (field : String) :
    Exact (Wire.read field) (Typed.SpelledBy : Json → Typed α → Prop) :=
  (exact_asString field).map Typed.mk (·.text) (fun _ => rfl) fun _ => rfl

theorem Scalar.exact_read {role : ScalarRole} (field : String) :
    Exact (Wire.read field) (Scalar.SpelledBy : Json → Scalar role → Prop) :=
  (exact_asNarrow (Scalar.width_le role) _ field).map Scalar.mk (·.value) (fun _ => rfl)
    fun _ => rfl

end ControlStream

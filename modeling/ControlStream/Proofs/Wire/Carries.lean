import ControlStream.Proofs.Base64.Canonical

/-!
# Objects that carry given members

A record is read from any object in which its members are found; other members do no harm. An
object that is made of members with distinct keys carries them all, and each kind of field is read
back from the value that it is written as.
-/

namespace ControlStream

@[simp] theorem Except.ok_bind {ε α β : Type} (x : α) (f : α → Except ε β) :
    (Except.ok x >>= f) = f x := rfl

@[simp] theorem Except.pure_eq_ok {ε α : Type} (x : α) : (pure x : Except ε α) = .ok x := rfl

/-- A type whose values are read back from what they are written as, in whatever field. Nothing is
written as null, which would be the same as an absent field. -/
class LawfulWire (α : Type) [Wire α] : Prop where
  read_write : ∀ (field : String) (x : α), Wire.read field (Wire.write x) = .ok x
  isNull_write : ∀ x : α, (Wire.write x).isNull = false

namespace Json

/-- An object in which each of the members is found under its key. -/
def Carries (value : Json) : List (String × Json) → Prop
  | [] => ∃ fields, value = .object fields
  | (key, held) :: rest => value.get? key = some held ∧ Carries value rest

theorem carries_iff {value : Json} {members : List (String × Json)} :
    value.Carries members ↔
      (∃ fields, value = .object fields) ∧
        ∀ member ∈ members, value.get? member.1 = some member.2 := by
  induction members with
  | nil => simp [Carries]
  | cons member rest ih =>
      obtain ⟨key, held⟩ := member
      simp only [Carries, ih, List.forall_mem_cons]
      constructor
      · rintro ⟨hheld, hobject, hrest⟩
        exact ⟨hobject, hheld, hrest⟩
      · rintro ⟨hobject, hheld, hrest⟩
        exact ⟨hheld, hobject, hrest⟩

theorem Carries.asRecord {value : Json} {members : List (String × Json)}
    (h : value.Carries members) (record : String) :
    ∃ fields, value.asRecord record = .ok fields := by
  obtain ⟨⟨fields, rfl⟩, _⟩ := carries_iff.mp h
  exact ⟨fields, rfl⟩

/-- With distinct keys the last member under a key is the only one. -/
theorem lookup_reverse_of_mem {members : List (String × Json)} {key : String} {held : Json}
    (hkeys : (members.map (·.1)).Nodup) (hmem : (key, held) ∈ members) :
    members.reverse.lookup key = some held := by
  induction members with
  | nil => cases hmem
  | cons first rest ih =>
      simp only [List.map_cons, List.nodup_cons] at hkeys
      rw [List.reverse_cons, List.lookup_append]
      rcases List.mem_cons.mp hmem with rfl | hrest
      · have hnone : rest.reverse.lookup key = none := by
          rw [List.lookup_eq_none_iff]
          intro other hother
          have hne : key ≠ other.1 := by
            intro heq
            exact hkeys.1 (List.mem_map.mpr ⟨other, List.mem_reverse.mp hother, heq.symm⟩)
          simpa using hne
        simp [hnone]
      · simp [ih hkeys.2 hrest]

theorem carries_ofMembers {members : List (String × Json)} (hkeys : (members.map (·.1)).Nodup) :
    (ofMembers members).Carries members := by
  refine carries_iff.mpr ⟨⟨_, rfl⟩, fun member hmem => ?_⟩
  show Fields.get? member.1 (Fields.ofList members) = some member.2
  rw [Fields.get?_ofList, lookup_reverse_of_mem hkeys hmem]

theorem mem_of_get?_ofMembers {members : List (String × Json)} {key : String} {held : Json}
    (h : (ofMembers members).get? key = some held) : (key, held) ∈ members := by
  have hlookup : members.reverse.lookup key = some held := (Fields.get?_ofList key members) ▸ h
  obtain ⟨before, after, hsplit, -⟩ := List.lookup_eq_some_iff.mp hlookup
  exact List.mem_reverse.mp (by simp [hsplit])

/-- Members under other keys hide none of the first. -/
theorem carries_ofMembers_append {members more : List (String × Json)}
    (hkeys : (members.map (·.1)).Nodup)
    (hmore : ∀ member ∈ more, member.1 ∉ members.map (·.1)) :
    (ofMembers (members ++ more)).Carries members := by
  refine carries_iff.mpr ⟨⟨_, rfl⟩, fun member hmem => ?_⟩
  have hnone : more.reverse.lookup member.1 = none := by
    rw [List.lookup_eq_none_iff]
    intro other hother
    have hne : member.1 ≠ other.1 := by
      intro heq
      exact hmore other (List.mem_reverse.mp hother) (heq ▸ List.mem_map_of_mem hmem)
    simpa using hne
  show Fields.get? member.1 (Fields.ofList (members ++ more)) = some member.2
  rw [Fields.get?_ofList, List.reverse_append, List.lookup_append, hnone, Option.none_or,
    lookup_reverse_of_mem hkeys hmem]

/-- An object with one more member; what is no object stays as it is. -/
def withMember (value : Json) (key : String) (held : Json) : Json :=
  match value with
  | .object fields => .object (Fields.insert key held fields)
  | other => other

theorem Carries.withMember {value : Json} {members : List (String × Json)}
    (h : value.Carries members) {key : String} (hkey : key ∉ members.map (·.1)) (held : Json) :
    (value.withMember key held).Carries ((key, held) :: members) := by
  obtain ⟨⟨fields, rfl⟩, hget⟩ := carries_iff.mp h
  refine carries_iff.mpr ⟨⟨Fields.insert key held fields, rfl⟩,
    List.forall_mem_cons.mpr ⟨?_, fun member hmem => ?_⟩⟩
  · show Fields.get? key (Fields.insert key held fields) = some held
    rw [Fields.get?_insert, if_pos rfl]
  · show Fields.get? member.1 (Fields.insert key held fields) = some member.2
    have hne : key ≠ member.1 := by
      rintro rfl
      exact hkey (List.mem_map_of_mem hmem)
    rw [Fields.get?_insert, if_neg hne]
    exact hget member hmem

/-! ## One field -/

variable {value held : Json} {field : String}

theorem present?_of_get? (h : value.get? field = some held) (hnull : held.isNull = false) :
    value.present? field = some held := by
  simp [present?, h, hnull]

theorem present?_of_get?_null (h : value.get? field = some .null) :
    value.present? field = none := by
  rw [present?, h]
  rfl

theorem require_of_get? (h : value.get? field = some held) (hnull : held.isNull = false) :
    value.require field = .ok held := by
  simp [require, present?_of_get? h hnull]

theorem requireString_of_get? {text : String} (h : value.get? field = some (.string text)) :
    value.requireString field = .ok text := by
  simp [requireString, require_of_get? h rfl, asString]

theorem optionalString_of_get? {text : Option String}
    (h : value.get? field = some (.ofOption .string text)) :
    value.optionalString field = .ok text := by
  cases text with
  | none => rw [optionalString, present?_of_get?_null h]
  | some text =>
      rw [optionalString, present?_of_get? h rfl]
      rfl

theorem requireBool_of_get? {b : Bool} (h : value.get? field = some (.bool b)) :
    value.requireBool field = .ok b := by
  simp [requireBool, require_of_get? h rfl, asBool]

theorem requireObject_of_get? {fields : Fields} (h : value.get? field = some (.object fields)) :
    value.requireObject field = .ok fields := by
  simp [requireObject, require_of_get? h rfl, asObject]

theorem requireBytes_of_get? {bytes : List UInt8}
    (h : value.get? field = some (.ofBytes bytes)) : value.requireBytes field = .ok bytes := by
  simp [requireBytes, requireString_of_get? h, bytesOfText_encode]

/-- A word that has been widened to 64 bits fits its own width again. -/
theorem narrow?_setWidth {width : Nat} (hwidth : width ≤ 64) (n : BitVec width) :
    narrow? width (n.setWidth 64) = some n := by
  have hfits : (n.setWidth 64).toNat < Nat.pow 2 width := by
    rw [BitVec.toNat_setWidth_of_le hwidth]
    exact n.isLt
  rw [narrow?, if_pos hfits, BitVec.setWidth_setWidth_of_le _ hwidth, BitVec.setWidth_eq]

theorem asNarrow_of_unsigned? {width : Nat} (hwidth : width ≤ 64) (tooWide : Shape)
    {n : BitVec width} (h : value.unsigned? = some (n.setWidth 64)) :
    value.asNarrow width tooWide field = .ok n := by
  simp [asNarrow, asUnsigned, h, narrow?_setWidth hwidth]

theorem requireUnsigned64_of_get? {n : BitVec 64} (h : value.get? field = some held)
    (hn : held.unsigned? = some n) : value.requireUnsigned64 field = .ok n := by
  have hnull : held.isNull = false := by cases held <;> first | rfl | cases hn
  simp [requireUnsigned64, require_of_get? h hnull, asUnsigned, hn]

theorem requireUnsigned16_of_get? {n : BitVec 16}
    (h : value.get? field = some (.natural (n.setWidth 64))) :
    value.requireUnsigned16 field = .ok n := by
  rw [requireUnsigned16, require_of_get? h rfl, Except.ok_bind]
  exact asNarrow_of_unsigned? (by decide) _ rfl

theorem requireUnsigned32_of_get? {n : BitVec 32}
    (h : value.get? field = some (.natural (n.setWidth 64))) :
    value.requireUnsigned32 field = .ok n := by
  rw [requireUnsigned32, require_of_get? h rfl, Except.ok_bind]
  exact asNarrow_of_unsigned? (by decide) _ rfl

section Lawful

variable {α : Type} [Wire α] [LawfulWire α]

theorem requireField_of_get? {x : α} (h : value.get? field = some (Wire.write x)) :
    value.requireField field = .ok x := by
  simp [requireField, require_of_get? h (LawfulWire.isNull_write x), LawfulWire.read_write]

theorem optionalField_of_get? {x : Option α}
    (h : value.get? field = some (.ofOption Wire.write x)) :
    value.optionalField field = .ok x := by
  cases x with
  | none => rw [optionalField, present?_of_get?_null h]
  | some x =>
      rw [optionalField, present?_of_get? h (LawfulWire.isNull_write x)]
      show (Wire.read field (Wire.write x)).map some = .ok (some x)
      rw [LawfulWire.read_write]
      rfl

theorem readItems_map_write (items : List α) :
    readItems field (items.map Wire.write) = .ok items := by
  induction items with
  | nil => rfl
  | cons item items ih => simp [readItems, LawfulWire.read_write, ih]

theorem requireList_of_get? {items : List α}
    (h : value.get? field = some (.ofList Wire.write items)) :
    value.requireList field = .ok items := by
  simp [requireList, requireArray, require_of_get? h rfl, asArray, ofList, readItems_map_write]

end Lawful

end Json

end ControlStream

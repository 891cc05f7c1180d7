import ControlStream.Proofs.Record.RoundTrip
import ControlStream.Proofs.Wire.Spelling
import Mathlib.Algebra.GroupWithZero.Nat

/-!
# What spells a schema, and how many subkeys it has

A schema is read from exactly the objects that spell it. A layout for the owner alone is a matter
of two fields, whatever else the object holds. The subkeys are those of the owner and of the
members, in whatever order these are listed. Each count has 16 bits, so that words of 64 bits are
wide enough to add them up.
-/

namespace ControlStream

open Json

structure SchemaMember.SpelledBy (value : Json) (member : SchemaMember) : Prop where
  isObject : value.IsObject
  key : value.HasField "m_key" Opaque.SpelledBy member.key
  count : value.HasField "m_cnt" (IsUnsigned 16) member.count

/-- The grammar of the listed members; a layout for the owner alone lists none. -/
def Schema.MembersSpelledBy (value : Json) : Schema → Prop
  | .dflt _ => True
  | .smpl _ members => value.HasField "members" (IsList SchemaMember.SpelledBy) members

structure Schema.SpelledBy (value : Json) (schema : Schema) : Prop where
  isObject : value.IsObject
  kind : value.HasField "kind" IsText schema.kind.name
  ownerCount : value.HasField "o_cnt" (IsUnsigned 16) schema.ownerCount
  members : Schema.MembersSpelledBy value schema

/-! ## Spelling -/

theorem SchemaKind.ofName_eq_ok_iff {text : String} {kind : SchemaKind} :
    ofName text = .ok kind ↔ text = kind.name := by
  constructor
  · intro h
    unfold ofName at h
    split at h <;> cases h <;> rfl
  · intro h
    rw [h]
    exact ofName_name kind

theorem SchemaMember.read_eq_ok_iff {value : Json} {member : SchemaMember} :
    SchemaMember.read value = .ok member ↔ SchemaMember.SpelledBy value member := by
  simp only [read, Except.bind_eq_ok_iff, Except.pure_eq_ok, Except.ok.injEq, asRecord_eq_ok_iff,
    requireField_eq_ok_iff (Opaque.exact_read _), requireUnsigned16_eq_ok_iff]
  constructor
  · rintro ⟨fields, hobject, _, hkey, _, hcount, rfl⟩
    exact ⟨⟨fields, hobject⟩, hkey, hcount⟩
  · rintro ⟨⟨fields, hobject⟩, hkey, hcount⟩
    exact ⟨fields, hobject, _, hkey, _, hcount, rfl⟩

theorem SchemaMember.exact_read (field : String) :
    Exact (Wire.read field) SchemaMember.SpelledBy :=
  .ofRecord SchemaMember.read_eq_ok_iff SchemaMember.SpelledBy.isObject

namespace Schema

variable {value other : Json} {schema : Schema}

theorem read_eq_ok_iff : Schema.read value = .ok schema ↔ Schema.SpelledBy value schema := by
  simp only [read, Except.bind_eq_ok_iff, asRecord_eq_ok_iff, requireString_eq_ok_iff,
    SchemaKind.ofName_eq_ok_iff, requireUnsigned16_eq_ok_iff]
  constructor
  · rintro ⟨fields, hobject, _, hkind, kind, rfl, count, hcount, hread⟩
    -- Only now does the kind decide whether members are read.
    cases kind with
    | dflt =>
        cases hread
        exact ⟨⟨fields, hobject⟩, hkind, hcount, trivial⟩
    | smpl =>
        obtain ⟨members, hmembers, hschema⟩ := Except.bind_eq_ok_iff.mp hread
        cases hschema
        rw [requireList_eq_ok_iff (SchemaMember.exact_read _)] at hmembers
        exact ⟨⟨fields, hobject⟩, hkind, hcount, hmembers⟩
  · rintro ⟨⟨fields, hobject⟩, hkind, hcount, hmembers⟩
    refine ⟨fields, hobject, _, hkind, schema.kind, rfl, _, hcount, ?_⟩
    cases schema with
    | dflt count => rfl
    | smpl count members =>
        have hread := (requireList_eq_ok_iff (SchemaMember.exact_read _)).mpr hmembers
        exact Except.bind_eq_ok_iff.mpr ⟨members, hread, rfl⟩

/-- The objects that spell some schema, by their three fields. -/
theorem exists_read_eq_ok_iff :
    (∃ schema, Schema.read value = .ok schema) ↔
      value.IsObject ∧ (∃ count, value.HasField "o_cnt" (IsUnsigned 16) count) ∧
        (value.HasField "kind" IsText "DFLT" ∨
          value.HasField "kind" IsText "SMPL" ∧
            ∃ items, value.get? "members" = some (.array items) ∧
              ∀ item ∈ items, ∃ member, SchemaMember.SpelledBy item member) := by
  simp only [read_eq_ok_iff]
  constructor
  · intro h
    obtain ⟨schema, hobject, hkind, hcount, hmembers⟩ := h
    refine ⟨hobject, ⟨_, hcount⟩, ?_⟩
    cases schema with
    | dflt count => exact .inl hkind
    | smpl count members =>
        obtain ⟨_, hget, items, rfl, hitems⟩ := hmembers
        exact .inr ⟨hkind, items, hget, exists_forall₂_iff.mp ⟨members, hitems⟩⟩
  · intro h
    obtain ⟨hobject, ⟨count, hcount⟩, hkind | ⟨hkind, items, hget, hitems⟩⟩ := h
    · exact ⟨.dflt count, hobject, hkind, hcount, trivial⟩
    · obtain ⟨members, hmembers⟩ := exists_forall₂_iff.mpr hitems
      exact ⟨.smpl count members, hobject, hkind, hcount, _, hget, items, rfl, hmembers⟩

/-- A layout for the owner alone is a matter of its kind and of the owner's count. -/
theorem read_eq_of_dflt (hother : other.IsObject) (hdflt : value.HasField "kind" IsText "DFLT")
    (hkind : other.present? "kind" = value.present? "kind")
    (hcount : other.present? "o_cnt" = value.present? "o_cnt") :
    Schema.read other = Schema.read value := by
  have hname : value.requireString "kind" = .ok "DFLT" := requireString_eq_ok_iff.mpr hdflt
  have hsame : other.requireString "kind" = value.requireString "kind" := by
    simp only [requireString, require, hkind]
  have hnumber : other.requireUnsigned16 "o_cnt" = value.requireUnsigned16 "o_cnt" := by
    simp only [requireUnsigned16, require, hcount]
  have hread : SchemaKind.ofName "DFLT" = .ok .dflt := rfl
  obtain ⟨fields, rfl⟩ := hdflt.isObject
  obtain ⟨others, rfl⟩ := hother
  simp only [read, asRecord, hsame, hname, hread, hnumber, Except.ok_bind]

/-! ## Subkeys -/

theorem subkeyCount_eq (schema : Schema) :
    schema.subkeyCount =
      schema.ownerCount.toNat + (schema.members.map (·.count.toNat)).sum := by
  unfold subkeyCount
  induction schema.members with
  | nil => rfl
  | cons member members ih =>
      rw [List.foldr_cons, ih, List.map_cons, List.sum_cons]
      omega

theorem sum_count_le (members : List SchemaMember) :
    (members.map (·.count.toNat)).sum ≤ 65535 * members.length := by
  induction members with
  | nil => simp
  | cons member members ih =>
      have hcount := member.count.isLt
      rw [List.map_cons, List.sum_cons, List.length_cons]
      omega

theorem subkeyCount_le (schema : Schema) :
    schema.subkeyCount ≤ 65535 * (schema.members.length + 1) := by
  have hmembers := sum_count_le schema.members
  have howner := schema.ownerCount.isLt
  rw [subkeyCount_eq]
  omega

theorem subkeyCount_eq_of_perm {shuffled : Schema}
    (howner : shuffled.ownerCount = schema.ownerCount)
    (hmembers : shuffled.members.Perm schema.members) :
    shuffled.subkeyCount = schema.subkeyCount := by
  have hsum := (hmembers.map (·.count.toNat)).sum_nat
  rw [subkeyCount_eq, subkeyCount_eq, howner]
  exact congrArg _ hsum

theorem addWord?_eq_some_iff {a b sum : BitVec 64} :
    addWord? a b = some sum ↔ sum.toNat = a.toNat + b.toNat := by
  have hsum := sum.isLt
  unfold addWord?
  by_cases hover : a.uaddOverflow b = true
  · have hlarge : 2 ^ 64 ≤ a.toNat + b.toNat := by simpa [BitVec.uaddOverflow] using hover
    rw [if_pos hover]
    constructor
    · intro h
      cases h
    · omega
  · have hadd := BitVec.toNat_add_of_not_uaddOverflow hover
    rw [if_neg hover, Option.some.injEq, ← BitVec.toNat_inj, hadd]
    exact eq_comm

/-- What has been summed up so far is never larger than the sum, so that it has a word if the sum
has one. -/
theorem foldlM_addWord?_eq_some_iff (members : List SchemaMember) {start total : BitVec 64} :
    members.foldlM (fun sum member => addWord? sum (member.count.setWidth 64)) start =
        some total ↔
      total.toNat = start.toNat + (members.map (·.count.toNat)).sum := by
  induction members generalizing start with
  | nil => simp [← BitVec.toNat_inj, eq_comm]
  | cons member members ih =>
      have htotal := total.isLt
      have hcount : (member.count.setWidth 64).toNat = member.count.toNat :=
        BitVec.toNat_setWidth_of_le (by decide)
      rw [List.foldlM_cons, List.map_cons, List.sum_cons]
      cases hnext : addWord? start (member.count.setWidth 64) with
      | none =>
          constructor
          · intro h
            cases h
          · -- What follows only adds to a sum that is too large already.
            intro h
            have hlt : start.toNat + member.count.toNat < 2 ^ 64 := by omega
            have hsum :
                addWord? start (member.count.setWidth 64) = some (BitVec.ofNatLT _ hlt) := by
              rw [addWord?_eq_some_iff, hcount, BitVec.toNat_ofNatLT]
            rw [hnext] at hsum
            cases hsum
      | some next =>
          have hsum := addWord?_eq_some_iff.mp hnext
          rw [Option.bind_eq_bind, Option.bind_some, ih, hsum, hcount, Nat.add_assoc]

/-- The subkeys can be counted in words whenever their number is a word, and then the count is that
number. -/
theorem subkeyWord?_eq_some_iff {word : BitVec 64} :
    schema.subkeyWord? = some word ↔ word.toNat = schema.subkeyCount := by
  have howner : (schema.ownerCount.setWidth 64).toNat = schema.ownerCount.toNat :=
    BitVec.toNat_setWidth_of_le (by decide)
  have hzero : (0 : BitVec 64).toNat = 0 := rfl
  have hword := word.isLt
  rw [subkeyWord?, Option.bind_eq_bind, Option.bind_eq_some_iff, subkeyCount_eq]
  constructor
  · intro h
    obtain ⟨shared, hshared, hall⟩ := h
    rw [foldlM_addWord?_eq_some_iff, hzero, Nat.zero_add] at hshared
    rw [addWord?_eq_some_iff, howner, hshared] at hall
    exact hall
  · intro h
    have hsum : (schema.members.map (·.count.toNat)).sum < 2 ^ 64 := by omega
    refine ⟨BitVec.ofNatLT _ hsum, ?_, ?_⟩
    · rw [foldlM_addWord?_eq_some_iff, hzero, Nat.zero_add, BitVec.toNat_ofNatLT]
    · rw [addWord?_eq_some_iff, howner, h, BitVec.toNat_ofNatLT]

/-- Each of fewer than `2 ^ 48` counts of 16 bits leaves room for the others. -/
theorem exists_subkeyWord?_eq_some (h : schema.members.length < Nat.pow 2 48 - 1) :
    ∃ word, schema.subkeyWord? = some word ∧ word.toNat = schema.subkeyCount := by
  have hbound := subkeyCount_le schema
  have hlength : schema.members.length < 281474976710655 := h
  have hfits : schema.subkeyCount < 2 ^ 64 := by omega
  have hword := BitVec.toNat_ofNatLT schema.subkeyCount hfits
  exact ⟨_, subkeyWord?_eq_some_iff.mpr hword, hword⟩

/-! ## Schemas -/

/-- A schema is read from exactly the objects that spell it. A value spells one if it is an object
with a count of 16 bits for the owner and, unless its kind is that of a layout for the owner alone,
an array of members, each with a key and a count of 16 bits. A layout for the owner alone is read
in the same way whatever stands in its other fields. A schema is read back from what it is written
as. It has the subkeys of the owner and of all members, in whatever order these are listed, and
counting them in words of 64 bits does not overflow for fewer than `2 ^ 48 - 1` members. -/
theorem reads_and_counts (value : Json) (schema : Schema) :
    (Schema.read value = .ok schema ↔ Schema.SpelledBy value schema) ∧
      ((∃ schema, Schema.read value = .ok schema) ↔
        value.IsObject ∧ (∃ count, value.HasField "o_cnt" (IsUnsigned 16) count) ∧
          (value.HasField "kind" IsText "DFLT" ∨
            value.HasField "kind" IsText "SMPL" ∧
              ∃ items, value.get? "members" = some (.array items) ∧
                ∀ item ∈ items, ∃ member, SchemaMember.SpelledBy item member)) ∧
      (∀ other : Json, other.IsObject → value.HasField "kind" IsText "DFLT" →
        other.present? "kind" = value.present? "kind" →
        other.present? "o_cnt" = value.present? "o_cnt" →
          Schema.read other = Schema.read value) ∧
      Schema.read schema.write = .ok schema ∧
      schema.subkeyCount =
        schema.ownerCount.toNat + (schema.members.map (·.count.toNat)).sum ∧
      schema.subkeyCount ≤ 65535 * (schema.members.length + 1) ∧
      (schema.members.length < Nat.pow 2 48 - 1 →
        ∃ word, schema.subkeyWord? = some word ∧ word.toNat = schema.subkeyCount) ∧
      ∀ shuffled : Schema, shuffled.ownerCount = schema.ownerCount →
        shuffled.members.Perm schema.members → shuffled.subkeyCount = schema.subkeyCount := by
  refine ⟨read_eq_ok_iff, exists_read_eq_ok_iff, ?alone, LawfulWire.read_write "schema" schema,
    subkeyCount_eq schema, subkeyCount_le schema, exists_subkeyWord?_eq_some, ?shuffled⟩
  case alone =>
    intro other hother hdflt hkind hcount
    exact read_eq_of_dflt hother hdflt hkind hcount
  case shuffled =>
    intro shuffled howner hmembers
    exact subkeyCount_eq_of_perm howner hmembers

/-- A shared layout, its counts in digits, with a field that is not read. -/
def looseLayout : Json :=
  .ofMembers
    [("kind", .string "SMPL"), ("o_cnt", .string "+0001"), ("note", .null),
      ("members", .array
        [.ofMembers [("m_key", .string "writer"), ("m_cnt", .string "02")],
          .ofMembers [("m_key", .string ""), ("m_cnt", .natural 65535)]])]

def schemaOfLoose : Schema := .smpl 1 [⟨⟨"writer"⟩, 2⟩, ⟨⟨""⟩, 65535⟩]

def ownerLayout : Json := .ofMembers [("kind", .string "DFLT"), ("o_cnt", .natural 3)]

/-- The same layout with members that are none. -/
def crowdedLayout : Json :=
  .ofMembers [("kind", .string "DFLT"), ("o_cnt", .natural 3), ("members", .bool true)]

theorem reads_and_counts_of_looseLayout :
    Schema.SpelledBy looseLayout schemaOfLoose ∧
      (∃ word, schemaOfLoose.subkeyWord? = some word ∧ word.toNat = schemaOfLoose.subkeyCount) ∧
      Schema.read crowdedLayout = .ok (.dflt 3) := by
  obtain ⟨hread, -, -, -, -, -, hword, -⟩ := reads_and_counts looseLayout schemaOfLoose
  obtain ⟨-, -, halone, -⟩ := reads_and_counts ownerLayout (.dflt 3)
  have howner : Schema.read ownerLayout = .ok (.dflt 3) := rfl
  have hcrowded := halone crowdedLayout ⟨_, rfl⟩ ⟨_, rfl, rfl⟩ rfl rfl
  exact ⟨hread.mp rfl, hword (by decide), hcrowded.trans howner⟩

end Schema

end ControlStream

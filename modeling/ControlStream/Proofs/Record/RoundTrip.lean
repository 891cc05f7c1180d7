import ControlStream.Proofs.Wire.Leaf
import ControlStream.Record.Value

/-!
# Records and their schemas are read back

A schema is read back with its members in order, whatever their number, and a descriptor with and
without the owner's secret.
-/

namespace ControlStream

open Json

instance : LawfulWire SchemaMember where
  read_write _ member := by
    have h : member.write.Carries _ := carries_ofMembers (by simp)
    obtain ⟨_, hrecord⟩ := h.asRecord "schema member"
    obtain ⟨hkey, hcount, -⟩ := h
    show SchemaMember.read member.write = .ok member
    simp [SchemaMember.read, hrecord, requireField_of_get? hkey, requireUnsigned16_of_get? hcount]
  isNull_write _ := rfl

instance : LawfulWire Schema where
  read_write _ schema := by
    show Schema.read schema.write = .ok schema
    cases schema with
    | dflt count =>
        have h : (Schema.dflt count).write.Carries _ := carries_ofMembers (by simp)
        obtain ⟨_, hrecord⟩ := h.asRecord "schema"
        obtain ⟨hkind, hcount, -⟩ := h
        simp [Schema.read, hrecord, requireString_of_get? hkind, SchemaKind.ofName_name,
          requireUnsigned16_of_get? hcount, Schema.kind, Schema.ownerCount]
    | smpl count members =>
        have h : (Schema.smpl count members).write.Carries _ := carries_ofMembers (by simp)
        obtain ⟨_, hrecord⟩ := h.asRecord "schema"
        obtain ⟨hkind, hcount, hmembers, -⟩ := h
        simp [Schema.read, hrecord, requireString_of_get? hkind, SchemaKind.ofName_name,
          requireUnsigned16_of_get? hcount, requireList_of_get? hmembers, Schema.kind,
          Schema.ownerCount]
  isNull_write schema := by
    cases schema <;> rfl

instance : LawfulWire RecordDescriptor where
  read_write _ record := by
    have h : record.write.Carries _ := carries_ofMembers (by simp)
    obtain ⟨_, hrecord⟩ := h.asRecord "record descriptor"
    obtain ⟨hkey, howner, hsecret, hschema, -⟩ := h
    show RecordDescriptor.read record.write = .ok record
    simp [RecordDescriptor.read, hrecord, requireField_of_get? hkey, requireField_of_get? howner,
      optionalField_of_get? hsecret, requireField_of_get? hschema]
  isNull_write _ := rfl

instance : LawfulWire ValueData where
  read_write _ content := by
    have h : content.write.Carries _ := carries_ofMembers (by simp)
    obtain ⟨_, hrecord⟩ := h.asRecord "value data"
    obtain ⟨hseq, hdata, hwriter, -⟩ := h
    show ValueData.read content.write = .ok content
    simp [ValueData.read, hrecord, requireField_of_get? hseq, requireBytes_of_get? hdata,
      requireField_of_get? hwriter]
  isNull_write _ := rfl

end ControlStream

import ControlStream.Proofs.Node.Canonical
import ControlStream.Proofs.Update.RoundTrip
import ControlStream.Proofs.Update.Spelling

/-!
# Updates are written in one way

However an update is spelled, it is written with every field of its kind and no other. What is
spelled in one way only comes back as it was; so does the whole update when it was canonical.
-/

namespace ControlStream

open Json Form

/-! ## Tables -/

def NodeLog.fields : List (String × Form) :=
  [("log_level", .same), ("message", .same), ("backtrace", .same)]

def AppMessage.fields : List (String × Form) := [("sender", .same), ("message", .same)]

def AppCall.fields : List (String × Form) :=
  [("sender", .same), ("message", .same), ("operation_id", .decimal)]

def RouteChange.fields : List (String × Form) :=
  [("dead_routes", .list .same), ("dead_remote_routes", .list .same)]

def ValueData.form : Form := .record [("seq", .integer), ("data", .same), ("writer", .same)]

def ValueChange.fields : List (String × Form) :=
  [("key", .same), ("subkeys", .list .integer), ("count", .integer), ("value", ValueData.form)]

namespace UpdateKind

def fields : UpdateKind → List (String × Form)
  | .log => NodeLog.fields
  | .appMessage => AppMessage.fields
  | .appCall => AppCall.fields
  | .attachment => Attachment.fields
  | .network => NetworkState.fields
  | .config => ConfigState.fields
  | .routeChange => RouteChange.fields
  | .valueChange => ValueChange.fields
  | .shutdown => []

def form (kind : UpdateKind) : Form := .record (("kind", .same) :: kind.fields)

theorem distinct_form (kind : UpdateKind) : kind.form.Distinct := by
  cases kind <;>
    simp [form, fields, Distinct, AllDistinct, NodeLog.fields, AppMessage.fields, AppCall.fields,
      Attachment.fields, NetworkState.fields, ConfigState.fields, RouteChange.fields,
      ValueChange.fields, ValueData.form, Peer.distinct_form]

end UpdateKind

/-! ## Records -/

variable {value : Json}

theorem ValueData.writes : ValueData.form.Writes ValueData.SpelledBy Wire.write := by
  refine .ofRecord (fun {value content} h => ?_) SpelledBy.isObject
  have hseq := @Scalar.integer_writes .valueSeqNum nofun
  show _ = content.write
  simp only [form, canonical_record, canonicalMembers_cons, canonicalMembers_nil, write,
    hseq.field h.seq, same_writes_bytes.field h.data,
    same_writes_opaque.field h.writer]

theorem NodeLog.canonicalMembers_eq {entry : NodeLog} (h : SpelledBy value entry) :
    canonicalMembers fields value = entry.members := by
  simp only [fields, canonicalMembers_cons, canonicalMembers_nil, members,
    same_writes_text.field h.level, same_writes_text.field h.message,
    same_writes_text.optional h.backtrace]

theorem AppMessage.canonicalMembers_eq {app : AppMessage} (h : SpelledBy value app) :
    canonicalMembers fields value = app.members := by
  simp only [fields, canonicalMembers_cons, canonicalMembers_nil, members,
    same_writes_typed.optional h.sender, same_writes_bytes.field h.message]

theorem AppCall.canonicalMembers_eq {app : AppCall} (h : SpelledBy value app) :
    canonicalMembers fields value = app.members := by
  simp only [fields, canonicalMembers_cons, canonicalMembers_nil, members,
    same_writes_typed.optional h.sender, same_writes_bytes.field h.message,
    Scalar.decimal_writes.field h.operationId]

theorem RouteChange.canonicalMembers_eq {change : RouteChange} (h : SpelledBy value change) :
    canonicalMembers fields value = change.members := by
  simp only [fields, canonicalMembers_cons, canonicalMembers_nil, members,
    same_writes_opaque.items.field h.deadRoutes, same_writes_opaque.items.field h.deadRemoteRoutes]

theorem ValueChange.canonicalMembers_eq {change : ValueChange} (h : SpelledBy value change) :
    canonicalMembers fields value = change.members := by
  have hsubkey := @Scalar.integer_writes .valueSubkey nofun
  simp only [fields, canonicalMembers_cons, canonicalMembers_nil, members,
    same_writes_typed.field h.key, hsubkey.items.field h.subkeys,
    integer_writes.field h.count, ValueData.writes.field h.content]

/-! ## Updates -/

namespace Update

theorem canonicalMembers_eq {update : Update} (h : SpelledBy value update) :
    canonicalMembers (("kind", .same) :: update.kind.fields) value = update.members := by
  have hkind := same_writes_text.field h.kind
  have hpayload := h.payload
  rw [canonicalMembers_cons, hkind, members]
  congr 1
  cases update with
  | log entry => exact NodeLog.canonicalMembers_eq hpayload
  | appMessage app => exact AppMessage.canonicalMembers_eq hpayload
  | appCall app => exact AppCall.canonicalMembers_eq hpayload
  | attachment report => exact Attachment.canonicalMembers_eq hpayload
  | network state => exact NetworkState.canonicalMembers_eq hpayload
  | config state => exact ConfigState.canonicalMembers_eq hpayload
  | routeChange change => exact RouteChange.canonicalMembers_eq hpayload
  | valueChange change => exact ValueChange.canonicalMembers_eq hpayload
  | shutdown => rfl

theorem write_eq_of_spelledBy {update : Update} (h : SpelledBy value update) :
    update.write = update.kind.form.canonical value := by
  rw [UpdateKind.form, canonical_record, canonicalMembers_eq h, write]

/-- However an update is spelled, it is written by the table of its kind: an object of exactly the
keys of the table, with every value as its form has it. A field that is only kept comes back as the
very value it was, bytes and configuration with it, and the whole object does exactly when it was
written by the table already. -/
theorem write_eq_canonical {value : Json} {update : Update} (h : Update.read value = .ok update) :
    update.write = update.kind.form.canonical value ∧
      (∃ fields : Fields, update.write = .object fields ∧ fields.Sorted ∧
        ∀ key, key ∈ fields.keys ↔ key = "kind" ∨ key ∈ update.kind.fields.map (·.1)) ∧
      (∀ field ∈ ("kind", Form.same) :: update.kind.fields,
        update.write.get? field.1 = some (field.2.canonicalField value field.1)) ∧
      (∀ key held, (key, Form.same) ∈ update.kind.fields → value.get? key = some held →
        update.write.get? key = some held) ∧
      (update.write = value ↔ update.kind.form.IsNormal value) := by
  have hmembers := canonicalMembers_eq (read_eq_ok_iff.mp h)
  have hwrite := write_eq_of_spelledBy (read_eq_ok_iff.mp h)
  have hfields : ∀ field ∈ ("kind", Form.same) :: update.kind.fields,
      update.write.get? field.1 = some (field.2.canonicalField value field.1) := by
    intro field hmem
    have hmember : (field.1, field.2.canonicalField value field.1) ∈ update.members := by
      rw [← hmembers]
      exact mem_canonicalMembers hmem value
    exact (carries_iff.mp update.carries_write).2 _ hmember
  refine ⟨hwrite, ⟨_, rfl, Fields.sorted_ofList _, fun key => ?_⟩, hfields, ?_, ?_⟩
  · rw [Fields.mem_keys_ofList, ← hmembers, map_fst_canonicalMembers, List.map_cons,
      List.mem_cons]
  · intro key held hmem hheld
    rw [hfields _ (List.mem_cons_of_mem _ hmem), canonicalField, hheld]
    cases held <;> rfl
  · rw [hwrite]
    exact canonical_eq_self_iff update.kind.distinct_form

/-- A value change with numbers in digits and a field too many, also in the content. -/
def looseChange : Json :=
  .object
    [("count", .string "+03"), ("key", .string "VLD0:record"), ("kind", .string "ValueChange"),
      ("subkeys", .array [.string "01", .natural 2]), ("type", .string "Update"),
      ("value", .object
        [("data", .string "aGk"), ("extra", .bool true), ("seq", .string "7"),
          ("writer", .string "owner")])]

def strictChange : Json :=
  .object
    [("count", .natural 3), ("key", .string "VLD0:record"), ("kind", .string "ValueChange"),
      ("subkeys", .array [.natural 1, .natural 2]),
      ("value", .object
        [("data", .string "aGk"), ("seq", .natural 7), ("writer", .string "owner")])]

def changeOfLoose : Update :=
  .valueChange ⟨⟨"VLD0:record"⟩, [⟨1⟩, ⟨2⟩], 3, ⟨⟨7⟩, [104, 105], ⟨"owner"⟩⟩⟩

theorem write_eq_canonical_of_looseChange :
    Update.read looseChange = .ok changeOfLoose ∧ changeOfLoose.write = strictChange ∧
      UpdateKind.valueChange.form.canonical looseChange = strictChange := by
  have hread : Update.read looseChange = .ok changeOfLoose := by rfl
  have hwrite : changeOfLoose.write = strictChange := by rfl
  have hcanonical := (write_eq_canonical hread).1
  exact ⟨hread, hwrite, hcanonical.symm.trans hwrite⟩

end Update

end ControlStream

import ControlStream.Proofs.Update.Agreement
import ControlStream.Proofs.Wire.Blame

/-!
# Blame for a line that is no message

When a line is refused, what is reported is really wrong with it: the tag or the kind is unknown, or
a field of an object that is read is missing, of another shape, no encoding or no known name. The
field is always named by its key on the wire.
-/

namespace ControlStream

open Json

/-! ## Tables -/

def Message.frame : Grammar := .record "message" [("type", .one, .text)]

def Update.frame : Grammar := .record "update" [("kind", .one, .text)]

def Response.grammar : Grammar :=
  .record "response" [("id", .one, .integer .fitting64), ("op", .optional, .text)]

theorem Response.failsAs (key : String) (value : Json) :
    FailsAs (Response.read value) (grammar.check key value) :=
  record_failsAs fun _ =>
    (requireUnsigned64_failsAs value "id").bind fun _ =>
    (optionalString_failsAs value "op").bind fun _ => rfl

namespace Message

/-- The tables by which the object of a message is read. -/
inductive ReadBy (value : Json) : Grammar → Prop where
  | frame : ReadBy value frame
  | response (htype : value.HasField "type" IsText responseTag) : ReadBy value Response.grammar
  | update (htype : value.HasField "type" IsText updateTag) : ReadBy value Update.frame
  | payload {kind : UpdateKind} (htype : value.HasField "type" IsText updateTag)
      (hkind : value.HasField "kind" IsText kind.name) : ReadBy value kind.grammar

/-- An object of a message that is read, and the table by which it is. -/
def Reads (value : Json) (table : Grammar.Table) (holder : Json) : Prop :=
  ∃ grammar, ReadBy value grammar ∧ grammar.Reads value table holder

/-- What is wrong with a value that is no message. -/
inductive Fault (value : Json) : DecodeError → Prop where
  | notObject (hnot : ¬ value.IsObject) : Fault value (.expectedObject "message")
  | unknownType {tag : String} (htype : value.HasField "type" IsText tag)
      (hresponse : tag ≠ responseTag) (hupdate : tag ≠ updateTag) :
      Fault value (.unknownMessageType tag)
  | unknownKind {name : String} (htype : value.HasField "type" IsText updateTag)
      (hkind : value.HasField "kind" IsText name) (hother : ∀ kind : UpdateKind, name ≠ kind.name) :
      Fault value (.unknownUpdateKind name)
  | field {grammar : Grammar} {table : Grammar.Table} {holder : Json}
      {field : String × Arity × Grammar} {cause : DecodeError} (hread : ReadBy value grammar)
      (hreads : grammar.Reads value table holder) (hmem : field ∈ table)
      (hfault : FieldFault holder field cause) : Fault value cause

variable {value : Json} {cause : DecodeError}

theorem ReadBy.exists_record {grammar : Grammar} (h : ReadBy value grammar) :
    ∃ label table, grammar = .record label table := by
  cases h with
  | @payload kind => cases kind <;> exact ⟨_, _, rfl⟩
  | _ => exact ⟨_, _, rfl⟩

theorem fault_of_check {grammar : Grammar} {key : String} (hobject : value.IsObject)
    (hread : ReadBy value grammar) (h : grammar.check key value = .error cause) :
    Fault value cause := by
  obtain ⟨label, table, rfl⟩ := hread.exists_record
  rcases Grammar.fault_of_check _ h with hself | ⟨inner, holder, hreads, field, hmem, hfault⟩
  · cases hself with
    | shape hmem => cases hmem
    | object hnot => exact absurd hobject hnot
  · exact .field hread hreads hmem hfault

theorem fault_of_requireString {label key : String} (hobject : value.IsObject)
    (hread : ReadBy value (.record label [(key, .one, .text)]))
    (h : value.requireString key = .error cause) : Fault value cause := by
  have hcheck := (requireString_failsAs value key).error_iff.mp h
  obtain ⟨fields, rfl⟩ := hobject
  have hrecord : (Grammar.record label [(key, .one, .text)]).check label (.object fields) =
      .error cause := by
    show Grammar.checkFields _ _ = _
    rw [Grammar.checkFields_cons, hcheck]
    rfl
  exact fault_of_check ⟨fields, rfl⟩ hread hrecord

theorem fault_of_update (hobject : value.IsObject)
    (htype : value.HasField "type" IsText updateTag) (h : Update.read value = .error cause) :
    Fault value cause := by
  rw [Update.read_of_isObject hobject] at h
  cases hname : value.requireString "kind" with
  | error found =>
      rw [hname] at h
      cases h
      exact fault_of_requireString hobject (.update htype) hname
  | ok name =>
      have hfield := requireString_eq_ok_iff.mp hname
      rw [hname, Except.ok_bind] at h
      cases hkind : UpdateKind.ofName name with
      | error found =>
          rw [hkind] at h
          cases h
          obtain ⟨hother, rfl⟩ := UpdateKind.ofName_eq_error hkind
          exact .unknownKind htype hfield hother
      | ok kind =>
          rw [hkind, Except.ok_bind] at h
          rw [UpdateKind.ofName_eq_ok_iff.mp hkind] at hfield
          have hcheck := (Update.readPayload_failsAs "update" value hobject kind).error_iff.mp h
          exact fault_of_check hobject (.payload htype hfield) hcheck

theorem fault_of_read (h : read value = .error cause) : Fault value cause := by
  unfold read at h
  cases hrecord : value.asRecord "message" with
  | error found =>
      rw [hrecord] at h
      cases h
      obtain ⟨hnot, rfl⟩ := asRecord_eq_error hrecord
      exact .notObject hnot
  | ok fields =>
      have hobject : value.IsObject := ⟨fields, asRecord_eq_ok_iff.mp hrecord⟩
      rw [hrecord, Except.ok_bind] at h
      cases htag : value.requireString "type" with
      | error found =>
          rw [htag] at h
          cases h
          exact fault_of_requireString hobject .frame htag
      | ok tag =>
          have htype := requireString_eq_ok_iff.mp htag
          rw [htag, Except.ok_bind] at h
          split at h
          · next hresponse =>
              subst hresponse
              cases hread : Response.read value with
              | error found =>
                  rw [hread] at h
                  cases h
                  exact fault_of_check hobject (.response htype)
                    ((Response.failsAs "response" value).error_iff.mp hread)
              | ok response =>
                  rw [hread] at h
                  cases h
          · next hresponse =>
              split at h
              · next hupdate =>
                  subst hupdate
                  cases hread : Update.read value with
                  | error found =>
                      rw [hread] at h
                      cases h
                      exact fault_of_update hobject htype hread
                  | ok update =>
                      rw [hread] at h
                      cases h
              · next hupdate =>
                  cases h
                  exact .unknownType htype hresponse hupdate

/-! ## Names and encodings -/

def IsUpdateOf (value : Json) (kind : UpdateKind) : Prop :=
  value.HasField "type" IsText updateTag ∧ value.HasField "kind" IsText kind.name

/-- The texts that stand for bytes: the message of an application, and the data of a changed
value. -/
inductive HasByteText (value : Json) : String → Prop where
  | message {kind : UpdateKind} {text : String} (hkind : kind = .appMessage ∨ kind = .appCall)
      (hupdate : IsUpdateOf value kind) (htext : value.HasField "message" IsText text) :
      HasByteText value text
  | data {content : Json} {text : String} (hupdate : IsUpdateOf value .valueChange)
      (hcontent : value.present? "value" = some content)
      (htext : content.HasField "data" IsText text) : HasByteText value text

/-- A field whose text is none of the names that it may hold. -/
inductive HasStrangeName (value : Json) : String → String → Prop where
  | level {text : String} (hupdate : IsUpdateOf value .log)
      (htext : value.HasField "log_level" IsText text)
      (hother : ∀ level : LogLevel, text ≠ level.name) : HasStrangeName value "log_level" text
  | state {text : String} (hupdate : IsUpdateOf value .attachment)
      (htext : value.HasField "state" IsText text)
      (hother : ∀ state : AttachmentState, text ≠ state.name) : HasStrangeName value "state" text

theorem hasField_of_present? {holder : Json} {key text : String}
    (h : holder.present? key = some (.string text)) : holder.HasField key IsText text :=
  ⟨_, (present?_eq_some_iff.mp h).1, rfl⟩

section Payload

variable {kind : UpdateKind} {table : Grammar.Table} {holder : Json} {key text : String}
  {arity : Arity} {held : Json}

/-- Where bytes are expected for an update, its byte text is found. -/
theorem hasByteText_of_reads (hupdate : IsUpdateOf value kind)
    (hreads : kind.grammar.Reads value table holder) (hmem : (key, arity, .bytes) ∈ table)
    (hheld : holder.present? key = some held) (hpart : arity.Holds held (.string text)) :
    HasByteText value text := by
  have hbytes : ¬ ∀ field ∈ kind.grammar.allFields, field.2.2.isBytes = false := fun h =>
    Bool.noConfusion (h _ (hreads.mem_allFields hmem))
  cases kind with
  | appMessage =>
      obtain ⟨rfl, rfl⟩ := hreads.eq_of_flat (by decide)
      obtain ⟨rfl, rfl⟩ : key = "message" ∧ arity = .one := by simpa using hmem
      subst hpart
      exact .message (.inl rfl) hupdate (hasField_of_present? hheld)
  | appCall =>
      obtain ⟨rfl, rfl⟩ := hreads.eq_of_flat (by decide)
      obtain ⟨rfl, rfl⟩ : key = "message" ∧ arity = .one := by simpa using hmem
      subst hpart
      exact .message (.inr rfl) hupdate (hasField_of_present? hheld)
  | valueChange =>
      rcases hreads.cases_record with
        ⟨rfl, rfl⟩ | ⟨key', arity', label, table', found, part, hfield, hfound, hcontent, hinner⟩
      · simp [ValueData.grammar] at hmem
      · simp only [ValueData.grammar, List.mem_cons, Prod.mk.injEq, Grammar.record.injEq,
          reduceCtorEq, and_false, false_or, List.not_mem_nil, or_false] at hfield
        obtain ⟨rfl, rfl, rfl, rfl⟩ := hfield
        subst hcontent
        obtain ⟨rfl, rfl⟩ := hinner.eq_of_flat (by decide)
        obtain ⟨rfl, rfl⟩ : key = "data" ∧ arity = .one := by simpa using hmem
        subst hpart
        exact .data hupdate hfound (hasField_of_present? hheld)
  | _ => exact absurd (by decide) hbytes

/-- Where a name is expected for an update and a strange one is found, it is strange for the level
of a log line or the state of an attachment. -/
theorem hasStrangeName_of_reads {names : List String} (hupdate : IsUpdateOf value kind)
    (hreads : kind.grammar.Reads value table holder) (hmem : (key, arity, .name names) ∈ table)
    (hheld : holder.present? key = some held) (hpart : arity.Holds held (.string text))
    (hnot : text ∉ names) : HasStrangeName value key text := by
  have hnames : ¬ ∀ field ∈ kind.grammar.allFields, field.2.2.isName = false := fun h =>
    Bool.noConfusion (h _ (hreads.mem_allFields hmem))
  cases kind with
  | log =>
      obtain ⟨rfl, rfl⟩ := hreads.eq_of_flat (by decide)
      obtain ⟨rfl, rfl, rfl⟩ : key = "log_level" ∧ arity = .one ∧
          names = LogLevel.all.map LogLevel.name := by simpa using hmem
      subst hpart
      refine .level hupdate (hasField_of_present? hheld) fun level hname => hnot ?_
      exact hname ▸ List.mem_map_of_mem (by cases level <;> decide)
  | attachment =>
      obtain ⟨rfl, rfl⟩ := hreads.eq_of_flat (by decide)
      obtain ⟨rfl, rfl, rfl⟩ : key = "state" ∧ arity = .one ∧
          names = AttachmentState.all.map AttachmentState.name := by simpa using hmem
      subst hpart
      refine .state hupdate (hasField_of_present? hheld) fun state hname => hnot ?_
      exact hname ▸ List.mem_map_of_mem (by cases state <;> decide)
  | _ => exact absurd (by decide) hnames

end Payload

theorem hasByteText_of_fault {reason : Base64.Malformed}
    (h : Fault value (.malformedEncoding reason)) :
    ∃ text, HasByteText value text ∧ ∀ bytes, text ≠ Base64.encode bytes := by
  cases h with
  | @field grammar table holder field _ hread hreads hmem hfault =>
      obtain ⟨key, arity, leaf⟩ := field
      obtain ⟨rfl, held, text, hheld, hpart, hnot⟩ := hfault.of_malformedEncoding
      refine ⟨text, ?_, hnot⟩
      cases hread with
      | payload htype hkind =>
          exact hasByteText_of_reads ⟨htype, hkind⟩ hreads hmem hheld hpart
      | _ =>
          have hall := hreads.mem_allFields hmem
          simp [frame, Update.frame, Response.grammar, Grammar.allFields, Grammar.tableFields]
            at hall

theorem hasStrangeName_of_fault {key text : String} (h : Fault value (.unknownVariant key text)) :
    HasStrangeName value key text := by
  cases h with
  | @field grammar table holder field _ hread hreads hmem hfault =>
      obtain ⟨key', arity, leaf⟩ := field
      obtain ⟨rfl, names, held, rfl, hheld, hpart, hnot⟩ := hfault.of_unknownVariant
      cases hread with
      | payload htype hkind =>
          exact hasStrangeName_of_reads ⟨htype, hkind⟩ hreads hmem hheld hpart hnot
      | _ =>
          have hall := hreads.mem_allFields hmem
          simp [frame, Update.frame, Response.grammar, Grammar.allFields, Grammar.tableFields]
            at hall

/-! ## Blame -/

def keys : List String :=
  ["type", "id", "op", "kind", "log_level", "message", "backtrace", "sender", "operation_id",
    "state", "public_internet_ready", "local_network_ready", "started", "bps_down", "bps_up",
    "peers", "node_ids", "peer_address", "peer_stats", "time_added", "rpc_stats", "latency",
    "transfer", "messages_sent", "messages_rcvd", "questions_in_flight", "last_question_ts",
    "last_seen_ts", "first_consecutive_seen_ts", "recent_lost_answers", "failed_to_send",
    "fastest", "average", "slowest", "down", "up", "total", "maximum", "minimum", "config",
    "dead_routes", "dead_remote_routes", "key", "subkeys", "count", "value", "seq", "data",
    "writer"]

theorem ReadBy.mem_keys {grammar : Grammar} (h : ReadBy value grammar) :
    ∀ field ∈ grammar.allFields, field.1 ∈ keys := by
  cases h with
  | @payload kind => cases kind <;> decide
  | _ => decide

/-- Keys are written in lower case, as no name of a type is. -/
theorem lower_of_mem_keys : ∀ key ∈ keys, ∀ c ∈ key.toList, c.isLower = true ∨ c = '_' := by
  have hall : (keys.all fun key => key.toList.all fun c => c.isLower || c == '_') = true := by
    decide
  intro key hkey c hc
  have hkey := List.all_eq_true.mp hall key hkey
  have hc := List.all_eq_true.mp hkey c hc
  simpa using hc

theorem Fault.mem_keys (h : Fault value cause) {key : String} (hkey : cause.field? = some key) :
    key ∈ keys := by
  cases h with
  | field hread hreads hmem hfault =>
      rw [hfault.key_eq hkey]
      exact hread.mem_keys _ (hreads.mem_allFields hmem)
  | _ => cases hkey

theorem Fault.isStructural_or (h : Fault value cause) :
    cause.isStructural = true ∨ (∃ reason, cause = .malformedEncoding reason) ∨
      (∃ tag, cause = .unknownMessageType tag) ∨ ∃ name, cause = .unknownUpdateKind name := by
  cases h with
  | notObject hnot => exact .inl rfl
  | unknownType htype hresponse hupdate => exact .inr (.inr (.inl ⟨_, rfl⟩))
  | unknownKind htype hkind hother => exact .inr (.inr (.inr ⟨_, rfl⟩))
  | field hread hreads hmem hfault => exact hfault.isStructural_or.imp_right .inl

theorem unknownMessageType_iff (h : read value = .error cause) (tag : String) :
    cause = .unknownMessageType tag ↔
      value.HasField "type" IsText tag ∧ tag ≠ responseTag ∧ tag ≠ updateTag := by
  constructor
  · rintro rfl
    cases fault_of_read h with
    | unknownType htype hresponse hupdate => exact ⟨htype, hresponse, hupdate⟩
    | field _ _ _ hfault =>
        cases hfault with
        | held _ _ hfault => cases hfault
  · rintro ⟨htype, hresponse, hupdate⟩
    obtain ⟨fields, rfl⟩ := htype.isObject
    rw [read, requireString_eq_ok_iff.mpr htype] at h
    simp only [asRecord, Except.ok_bind, if_neg hresponse, if_neg hupdate] at h
    exact (Except.error.inj h).symm

theorem unknownUpdateKind_iff (h : read value = .error cause) (name : String) :
    cause = .unknownUpdateKind name ↔
      value.HasField "type" IsText updateTag ∧ value.HasField "kind" IsText name ∧
        ∀ kind : UpdateKind, name ≠ kind.name := by
  constructor
  · rintro rfl
    cases fault_of_read h with
    | unknownKind htype hkind hother => exact ⟨htype, hkind, hother⟩
    | field _ _ _ hfault =>
        cases hfault with
        | held _ _ hfault => cases hfault
  · rintro ⟨htype, hkind, hother⟩
    rw [read_of_isUpdate htype, Update.read_of_isObject htype.isObject,
      requireString_eq_ok_iff.mpr hkind, Except.ok_bind] at h
    cases hname : UpdateKind.ofName name with
    | ok kind => exact absurd (UpdateKind.ofName_eq_ok_iff.mp hname) (hother kind)
    | error found =>
        rw [hname] at h
        cases h
        exact (UpdateKind.ofName_eq_error hname).2

/-- Whatever is reported of a line that is no message is so. The tag is unknown exactly if it is
reported, and so is the kind. An encoding, a missing field, a field of another shape and a strange
name are reported only of a place that is read and where they are found; the field is named by its
key on the wire. Nothing is ever reported of the inside of a text. -/
theorem blame_sound (h : read value = .error cause) :
    (∀ text, cause ≠ .unknownCryptoKind text ∧ cause ≠ .malformedTyped text ∧
        cause ≠ .malformedKeyPair text) ∧
      (∀ tag, cause = .unknownMessageType tag ↔
        value.HasField "type" IsText tag ∧ tag ≠ responseTag ∧ tag ≠ updateTag) ∧
      (∀ name, cause = .unknownUpdateKind name ↔
        value.HasField "type" IsText updateTag ∧ value.HasField "kind" IsText name ∧
          ∀ kind : UpdateKind, name ≠ kind.name) ∧
      (∀ reason, cause = .malformedEncoding reason →
        ∃ text, HasByteText value text ∧ ∀ bytes, text ≠ Base64.encode bytes) ∧
      (∀ key, cause = .missingField key → ∃ table holder, Reads value table holder ∧
        (∃ field ∈ table, field.1 = key ∧ field.2.1 ≠ .optional) ∧ holder.present? key = none) ∧
      (∀ key expected, cause = .invalidField key expected →
        ∃ table holder, Reads value table holder ∧
          ∃ field ∈ table, field.1 = key ∧
            ∃ held, holder.present? key = some held ∧ IsMisshapen field held expected) ∧
      (∀ key text, cause = .unknownVariant key text → HasStrangeName value key text) ∧
      ∀ key, cause.field? = some key →
        key ∈ keys ∧ ∀ c ∈ key.toList, c.isLower = true ∨ c = '_' := by
  have hfault := fault_of_read h
  refine ⟨fun text => ?_, unknownMessageType_iff h, unknownUpdateKind_iff h, ?_, ?_, ?_, ?_, ?_⟩
  · have hcause := hfault.isStructural_or
    refine ⟨?_, ?_, ?_⟩ <;> rintro rfl <;> simp [DecodeError.isStructural] at hcause
  · rintro reason rfl
    exact hasByteText_of_fault hfault
  · rintro key rfl
    cases hfault with
    | @field grammar table holder field _ hread hreads hmem hfault =>
        obtain ⟨hkey, harity, habsent⟩ := hfault.of_missingField
        exact ⟨table, holder, ⟨grammar, hread, hreads⟩, ⟨field, hmem, hkey, harity⟩, habsent⟩
  · rintro key expected rfl
    cases hfault with
    | @field grammar table holder field _ hread hreads hmem hfault =>
        obtain ⟨hkey, hheld⟩ := hfault.of_invalidField
        exact ⟨table, holder, ⟨grammar, hread, hreads⟩, field, hmem, hkey, hheld⟩
  · rintro key text rfl
    exact hasStrangeName_of_fault hfault
  · intro key hkey
    have hmem := hfault.mem_keys hkey
    exact ⟨hmem, lower_of_mem_keys key hmem⟩

def datalessChange : Json :=
  .object
    [("count", .natural 3), ("key", .string "VLD0:record"), ("kind", .string "ValueChange"),
      ("subkeys", .array [.natural 1, .natural 2]), ("type", .string "Update"),
      ("value", .object [("data", .null), ("seq", .natural 7), ("writer", .string "owner")])]

theorem blame_sound_of_datalessChange :
    read datalessChange = .error (.missingField "data") ∧
      ∃ table holder, Reads datalessChange table holder ∧
        (∃ field ∈ table, field.1 = "data" ∧ field.2.1 ≠ .optional) ∧
        holder.present? "data" = none := by
  have hread : read datalessChange = .error (.missingField "data") := by rfl
  obtain ⟨-, -, -, -, hmissing, -⟩ := blame_sound hread
  exact ⟨hread, hmissing "data" rfl⟩

end Message

end ControlStream

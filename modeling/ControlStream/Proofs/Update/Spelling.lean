import ControlStream.Proofs.Node.Spelling
import ControlStream.Update.Basic

/-!
# How updates are spelled

The grammar of an update: an object whose `kind` names one of the nine kinds and whose other fields
spell the record of that kind. An update is read from exactly the values that spell it.
-/

namespace ControlStream

open Json

structure NodeLog.SpelledBy (value : Json) (entry : NodeLog) : Prop where
  isObject : value.IsObject
  level : value.HasField "log_level" IsText entry.level.name
  message : value.HasField "message" IsText entry.message
  backtrace : value.HasOptional "backtrace" IsText entry.backtrace

structure AppMessage.SpelledBy (value : Json) (app : AppMessage) : Prop where
  isObject : value.IsObject
  sender : value.HasOptional "sender" Typed.SpelledBy app.sender
  message : value.HasField "message" IsBytes app.message

structure AppCall.SpelledBy (value : Json) (app : AppCall) : Prop where
  isObject : value.IsObject
  sender : value.HasOptional "sender" Typed.SpelledBy app.sender
  message : value.HasField "message" IsBytes app.message
  operationId : value.HasField "operation_id" Scalar.SpelledBy app.operationId

structure RouteChange.SpelledBy (value : Json) (change : RouteChange) : Prop where
  isObject : value.IsObject
  deadRoutes : value.HasField "dead_routes" (IsList Opaque.SpelledBy) change.deadRoutes
  deadRemoteRoutes :
    value.HasField "dead_remote_routes" (IsList Opaque.SpelledBy) change.deadRemoteRoutes

structure ValueData.SpelledBy (value : Json) (content : ValueData) : Prop where
  isObject : value.IsObject
  seq : value.HasField "seq" Scalar.SpelledBy content.seq
  data : value.HasField "data" IsBytes content.data
  writer : value.HasField "writer" Opaque.SpelledBy content.writer

structure ValueChange.SpelledBy (value : Json) (change : ValueChange) : Prop where
  isObject : value.IsObject
  key : value.HasField "key" Typed.SpelledBy change.key
  subkeys : value.HasField "subkeys" (IsList Scalar.SpelledBy) change.subkeys
  count : value.HasField "count" (IsUnsigned 32) change.count
  content : value.HasField "value" ValueData.SpelledBy change.value

def Update.PayloadSpelledBy (value : Json) : Update → Prop
  | .log entry => NodeLog.SpelledBy value entry
  | .appMessage app => AppMessage.SpelledBy value app
  | .appCall app => AppCall.SpelledBy value app
  | .attachment report => Attachment.SpelledBy value report
  | .network state => NetworkState.SpelledBy value state
  | .config state => ConfigState.SpelledBy value state
  | .routeChange change => RouteChange.SpelledBy value change
  | .valueChange change => ValueChange.SpelledBy value change
  | .shutdown => True

structure Update.SpelledBy (value : Json) (update : Update) : Prop where
  isObject : value.IsObject
  kind : value.HasField "kind" IsText update.kind.name
  payload : Update.PayloadSpelledBy value update

variable {value : Json}

/-! ## Records -/

theorem LogLevel.ofName_eq_ok_iff {text : String} {level : LogLevel} :
    ofName text = .ok level ↔ text = level.name := by
  constructor
  · intro h
    unfold ofName at h
    split at h <;> cases h <;> rfl
  · intro h
    rw [h]
    exact ofName_name level

theorem UpdateKind.ofName_eq_ok_iff {text : String} {kind : UpdateKind} :
    ofName text = .ok kind ↔ text = kind.name := by
  constructor
  · intro h
    unfold ofName at h
    split at h
    · next found hfound =>
        cases h
        exact eq_name_of_find? hfound
    · cases h
  · rintro rfl
    exact ofName_name kind

theorem UpdateKind.name_injective : Function.Injective name := by
  intro kind kind' h
  have hread := ofName_name kind
  rw [h, ofName_name] at hread
  exact (Except.ok.inj hread).symm

theorem UpdateKind.mem_all (kind : UpdateKind) : kind ∈ all := by
  cases kind <;> decide

theorem NodeLog.read_eq_ok_iff {entry : NodeLog} :
    NodeLog.read value = .ok entry ↔ NodeLog.SpelledBy value entry := by
  simp only [read, Except.bind_eq_ok_iff, Except.pure_eq_ok, Except.ok.injEq,
    asRecord_eq_ok_iff, requireString_eq_ok_iff, LogLevel.ofName_eq_ok_iff,
    optionalString_eq_ok_iff]
  constructor
  · rintro ⟨fields, hobject, _, hlevel, _, rfl, _, hmessage, _, hbacktrace, rfl⟩
    exact ⟨⟨fields, hobject⟩, hlevel, hmessage, hbacktrace⟩
  · rintro ⟨⟨fields, hobject⟩, hlevel, hmessage, hbacktrace⟩
    exact ⟨fields, hobject, _, hlevel, entry.level, rfl, _, hmessage, _, hbacktrace, rfl⟩

theorem AppMessage.read_eq_ok_iff {app : AppMessage} :
    AppMessage.read value = .ok app ↔ AppMessage.SpelledBy value app := by
  simp only [read, Except.bind_eq_ok_iff, Except.pure_eq_ok, Except.ok.injEq,
    asRecord_eq_ok_iff, optionalField_eq_ok_iff (Typed.exact_read _), requireBytes_eq_ok_iff]
  constructor
  · rintro ⟨fields, hobject, _, hsender, _, hmessage, rfl⟩
    exact ⟨⟨fields, hobject⟩, hsender, hmessage⟩
  · rintro ⟨⟨fields, hobject⟩, hsender, hmessage⟩
    exact ⟨fields, hobject, _, hsender, _, hmessage, rfl⟩

theorem AppCall.read_eq_ok_iff {app : AppCall} :
    AppCall.read value = .ok app ↔ AppCall.SpelledBy value app := by
  simp only [read, Except.bind_eq_ok_iff, Except.pure_eq_ok, Except.ok.injEq,
    asRecord_eq_ok_iff, optionalField_eq_ok_iff (Typed.exact_read _), requireBytes_eq_ok_iff,
    requireField_eq_ok_iff (Scalar.exact_read _)]
  constructor
  · rintro ⟨fields, hobject, _, hsender, _, hmessage, _, hid, rfl⟩
    exact ⟨⟨fields, hobject⟩, hsender, hmessage, hid⟩
  · rintro ⟨⟨fields, hobject⟩, hsender, hmessage, hid⟩
    exact ⟨fields, hobject, _, hsender, _, hmessage, _, hid, rfl⟩

theorem RouteChange.read_eq_ok_iff {change : RouteChange} :
    RouteChange.read value = .ok change ↔ RouteChange.SpelledBy value change := by
  simp only [read, Except.bind_eq_ok_iff, Except.pure_eq_ok, Except.ok.injEq,
    asRecord_eq_ok_iff, requireList_eq_ok_iff (Opaque.exact_read _)]
  constructor
  · rintro ⟨fields, hobject, _, hdead, _, hremote, rfl⟩
    exact ⟨⟨fields, hobject⟩, hdead, hremote⟩
  · rintro ⟨⟨fields, hobject⟩, hdead, hremote⟩
    exact ⟨fields, hobject, _, hdead, _, hremote, rfl⟩

theorem ValueData.read_eq_ok_iff {content : ValueData} :
    ValueData.read value = .ok content ↔ ValueData.SpelledBy value content := by
  simp only [read, Except.bind_eq_ok_iff, Except.pure_eq_ok, Except.ok.injEq,
    asRecord_eq_ok_iff, requireField_eq_ok_iff (Scalar.exact_read _), requireBytes_eq_ok_iff,
    requireField_eq_ok_iff (Opaque.exact_read _)]
  constructor
  · rintro ⟨fields, hobject, _, hseq, _, hdata, _, hwriter, rfl⟩
    exact ⟨⟨fields, hobject⟩, hseq, hdata, hwriter⟩
  · rintro ⟨⟨fields, hobject⟩, hseq, hdata, hwriter⟩
    exact ⟨fields, hobject, _, hseq, _, hdata, _, hwriter, rfl⟩

theorem ValueData.exact_read (field : String) :
    Exact (Wire.read field) ValueData.SpelledBy :=
  .ofRecord ValueData.read_eq_ok_iff ValueData.SpelledBy.isObject

theorem ValueChange.read_eq_ok_iff {change : ValueChange} :
    ValueChange.read value = .ok change ↔ ValueChange.SpelledBy value change := by
  simp only [read, Except.bind_eq_ok_iff, Except.pure_eq_ok, Except.ok.injEq,
    asRecord_eq_ok_iff, requireField_eq_ok_iff (Typed.exact_read _),
    requireList_eq_ok_iff (Scalar.exact_read _), requireUnsigned32_eq_ok_iff,
    requireField_eq_ok_iff (ValueData.exact_read _)]
  constructor
  · rintro ⟨fields, hobject, _, hkey, _, hsubkeys, _, hcount, _, hcontent, rfl⟩
    exact ⟨⟨fields, hobject⟩, hkey, hsubkeys, hcount, hcontent⟩
  · rintro ⟨⟨fields, hobject⟩, hkey, hsubkeys, hcount, hcontent⟩
    exact ⟨fields, hobject, _, hkey, _, hsubkeys, _, hcount, _, hcontent, rfl⟩

/-! ## Updates -/

namespace Update

theorem payloadSpelledBy_of_readPayload {kind : UpdateKind} {update : Update}
    (h : readPayload value kind = .ok update) :
    update.kind = kind ∧ PayloadSpelledBy value update := by
  cases kind with
  | log =>
      obtain ⟨entry, hentry, rfl⟩ := Except.map_eq_ok_iff.mp h
      exact ⟨rfl, NodeLog.read_eq_ok_iff.mp hentry⟩
  | appMessage =>
      obtain ⟨app, happ, rfl⟩ := Except.map_eq_ok_iff.mp h
      exact ⟨rfl, AppMessage.read_eq_ok_iff.mp happ⟩
  | appCall =>
      obtain ⟨app, happ, rfl⟩ := Except.map_eq_ok_iff.mp h
      exact ⟨rfl, AppCall.read_eq_ok_iff.mp happ⟩
  | attachment =>
      obtain ⟨report, hreport, rfl⟩ := Except.map_eq_ok_iff.mp h
      exact ⟨rfl, Attachment.read_eq_ok_iff.mp hreport⟩
  | network =>
      obtain ⟨state, hstate, rfl⟩ := Except.map_eq_ok_iff.mp h
      exact ⟨rfl, NetworkState.read_eq_ok_iff.mp hstate⟩
  | config =>
      obtain ⟨state, hstate, rfl⟩ := Except.map_eq_ok_iff.mp h
      exact ⟨rfl, ConfigState.read_eq_ok_iff.mp hstate⟩
  | routeChange =>
      obtain ⟨change, hchange, rfl⟩ := Except.map_eq_ok_iff.mp h
      exact ⟨rfl, RouteChange.read_eq_ok_iff.mp hchange⟩
  | valueChange =>
      obtain ⟨change, hchange, rfl⟩ := Except.map_eq_ok_iff.mp h
      exact ⟨rfl, ValueChange.read_eq_ok_iff.mp hchange⟩
  | shutdown =>
      cases h
      exact ⟨rfl, trivial⟩

theorem readPayload_of_payloadSpelledBy {update : Update} (h : PayloadSpelledBy value update) :
    readPayload value update.kind = .ok update := by
  cases update with
  | log entry => exact Except.map_eq_ok_iff.mpr ⟨entry, NodeLog.read_eq_ok_iff.mpr h, rfl⟩
  | appMessage app => exact Except.map_eq_ok_iff.mpr ⟨app, AppMessage.read_eq_ok_iff.mpr h, rfl⟩
  | appCall app => exact Except.map_eq_ok_iff.mpr ⟨app, AppCall.read_eq_ok_iff.mpr h, rfl⟩
  | attachment report =>
      exact Except.map_eq_ok_iff.mpr ⟨report, Attachment.read_eq_ok_iff.mpr h, rfl⟩
  | network state =>
      exact Except.map_eq_ok_iff.mpr ⟨state, NetworkState.read_eq_ok_iff.mpr h, rfl⟩
  | config state => exact Except.map_eq_ok_iff.mpr ⟨state, ConfigState.read_eq_ok_iff.mpr h, rfl⟩
  | routeChange change =>
      exact Except.map_eq_ok_iff.mpr ⟨change, RouteChange.read_eq_ok_iff.mpr h, rfl⟩
  | valueChange change =>
      exact Except.map_eq_ok_iff.mpr ⟨change, ValueChange.read_eq_ok_iff.mpr h, rfl⟩
  | shutdown => rfl

theorem read_eq_ok_iff {update : Update} :
    Update.read value = .ok update ↔ Update.SpelledBy value update := by
  simp only [read, Except.bind_eq_ok_iff, asRecord_eq_ok_iff, requireString_eq_ok_iff,
    UpdateKind.ofName_eq_ok_iff]
  constructor
  · rintro ⟨fields, hobject, _, hkind, kind, rfl, hpayload⟩
    obtain ⟨rfl, hspelled⟩ := payloadSpelledBy_of_readPayload hpayload
    exact ⟨⟨fields, hobject⟩, hkind, hspelled⟩
  · rintro ⟨⟨fields, hobject⟩, hkind, hspelled⟩
    exact ⟨fields, hobject, _, hkind, update.kind, rfl, readPayload_of_payloadSpelledBy hspelled⟩

/-- A value is read as an update exactly when it spells it. So reading succeeds exactly for the
objects whose `kind` is one of the nine names and whose fields spell the record of that kind, and
no value spells two updates. -/
theorem read_iff_spelledBy (value : Json) :
    (∀ update, Update.read value = .ok update ↔ Update.SpelledBy value update) ∧
      ((∃ update, Update.read value = .ok update) ↔
        value.IsObject ∧ ∃ kind ∈ UpdateKind.all, value.HasField "kind" IsText kind.name ∧
          ∃ update, update.kind = kind ∧ PayloadSpelledBy value update) ∧
      ∀ update other, Update.SpelledBy value update → Update.SpelledBy value other →
        update = other := by
  refine ⟨fun update => read_eq_ok_iff, ⟨?_, ?_⟩, fun update other hupdate hother => ?_⟩
  · rintro ⟨update, hread⟩
    obtain ⟨hobject, hkind, hpayload⟩ := read_eq_ok_iff.mp hread
    exact ⟨hobject, update.kind, UpdateKind.mem_all _, hkind, update, rfl, hpayload⟩
  · rintro ⟨hobject, kind, -, hkind, update, rfl, hpayload⟩
    exact ⟨update, read_eq_ok_iff.mpr ⟨hobject, hkind, hpayload⟩⟩
  · have hread := read_eq_ok_iff.mpr hupdate
    rw [read_eq_ok_iff.mpr hother] at hread
    exact (Except.ok.inj hread).symm

end Update

end ControlStream

import ControlStream.Proofs.Node.Grammar
import ControlStream.Proofs.Update.Canonical

/-!
# Tables of the updates

What the fields beside `kind` have to be, for each kind. With the kind known, an update can be read
when the table of the kind is met, and otherwise fails as the check of the table does.
-/

namespace ControlStream

open Json

/-! ## Tables -/

def NodeLog.grammar : Grammar :=
  .record "log"
    [("log_level", .one, .name (LogLevel.all.map LogLevel.name)), ("message", .one, .text),
      ("backtrace", .optional, .text)]

def AppMessage.grammar : Grammar :=
  .record "app message" [("sender", .optional, .text), ("message", .one, .bytes)]

def AppCall.grammar : Grammar :=
  .record "app call"
    [("sender", .optional, .text), ("message", .one, .bytes), ("operation_id", .one, .decimal)]

def RouteChange.grammar : Grammar :=
  .record "route change" [("dead_routes", .many, .text), ("dead_remote_routes", .many, .text)]

def ValueData.grammar : Grammar :=
  .record "value data"
    [("seq", .one, .integer .fitting32), ("data", .one, .bytes), ("writer", .one, .text)]

def ValueChange.grammar : Grammar :=
  .record "value change"
    [("key", .one, .text), ("subkeys", .many, .integer .fitting32),
      ("count", .one, .integer .bits32), ("value", .one, ValueData.grammar)]

/-- What the fields beside `kind` have to be. -/
def UpdateKind.grammar : UpdateKind → Grammar
  | .log => NodeLog.grammar
  | .appMessage => AppMessage.grammar
  | .appCall => AppCall.grammar
  | .attachment => Attachment.grammar
  | .network => NetworkState.grammar
  | .config => ConfigState.grammar
  | .routeChange => RouteChange.grammar
  | .valueChange => ValueChange.grammar
  | .shutdown => .record "shutdown" []

/-- The fields are checked by the table by which they are written. -/
theorem UpdateKind.form_grammar (kind : UpdateKind) : kind.grammar.form = .record kind.fields := by
  cases kind <;> rfl

/-! ## Records -/

variable (key : String) (value : Json)

theorem LogLevel.ofName_eq_error {text : String} (h : text ∉ all.map LogLevel.name) :
    ofName text = .error (.unknownVariant "log_level" text) := by
  unfold ofName
  split
  case h_6 => rfl
  all_goals exact absurd (by decide) h

theorem NodeLog.failsAs :
    FailsAs (Wire.read key value : Except DecodeError NodeLog) (grammar.check key value) := by
  have hok : ∀ text ∈ LogLevel.all.map LogLevel.name,
      ∃ level, LogLevel.ofName text = .ok level := by
    intro text hmem
    obtain ⟨level, -, rfl⟩ := List.mem_map.mp hmem
    exact ⟨level, level.ofName_name⟩
  exact record_failsAs fun _ =>
    requireName_failsAs value "log_level" hok (fun _ => LogLevel.ofName_eq_error) fun _ =>
    (requireString_failsAs value "message").bind fun _ =>
    (optionalString_failsAs value "backtrace").bind fun _ => rfl

theorem AppMessage.failsAs :
    FailsAs (Wire.read key value : Except DecodeError AppMessage) (grammar.check key value) := by
  have hsender := optionalField_failsAs value _ (@Typed.failsAs PublicKey _ "sender")
  exact record_failsAs fun _ =>
    hsender.bind fun _ => (requireBytes_failsAs value "message").bind fun _ => rfl

theorem AppCall.failsAs :
    FailsAs (Wire.read key value : Except DecodeError AppCall) (grammar.check key value) := by
  have hsender := optionalField_failsAs value _ (@Typed.failsAs PublicKey _ "sender")
  have hid := requireField_failsAs value _ (Scalar.decimal_failsAs "operation_id")
  exact record_failsAs fun _ =>
    hsender.bind fun _ => (requireBytes_failsAs value "message").bind fun _ =>
    hid.bind fun _ => rfl

theorem RouteChange.failsAs :
    FailsAs (Wire.read key value : Except DecodeError RouteChange) (grammar.check key value) := by
  have hroutes := fun key => requireList_failsAs value key (@Opaque.failsAs .routeId key)
  exact record_failsAs fun _ =>
    (hroutes "dead_routes").bind fun _ => (hroutes "dead_remote_routes").bind fun _ => rfl

theorem ValueData.failsAs :
    FailsAs (Wire.read key value : Except DecodeError ValueData) (grammar.check key value) := by
  have hseq := requireField_failsAs value _ (@Scalar.failsAs .valueSeqNum "seq")
  have hwriter := requireField_failsAs value _ (@Opaque.failsAs .publicKey "writer")
  exact record_failsAs fun _ =>
    hseq.bind fun _ => (requireBytes_failsAs value "data").bind fun _ => hwriter.bind fun _ => rfl

theorem ValueChange.failsAs :
    FailsAs (Wire.read key value : Except DecodeError ValueChange) (grammar.check key value) := by
  have hkey := requireField_failsAs value _ (@Typed.failsAs PublicKey _ "key")
  have hsubkeys := requireList_failsAs value _ (@Scalar.failsAs .valueSubkey "subkeys")
  have hcount := requireUnsigned32_failsAs value "count"
  have hcontent := requireField_failsAs value _ (ValueData.failsAs "value")
  exact record_failsAs fun _ =>
    hkey.bind fun _ => hsubkeys.bind fun _ => hcount.bind fun _ => hcontent.bind fun _ => rfl

/-! ## Updates -/

theorem UpdateKind.ofName_eq_error {text : String} {cause : DecodeError}
    (h : ofName text = .error cause) :
    (∀ kind : UpdateKind, text ≠ kind.name) ∧ cause = .unknownUpdateKind text := by
  constructor
  · rintro kind rfl
    rw [kind.ofName_name] at h
    cases h
  · unfold ofName at h
    split at h
    · cases h
    · cases h
      rfl

variable {value} in
theorem Update.read_of_isObject (h : value.IsObject) :
    read value =
      value.requireString "kind" >>= fun name => UpdateKind.ofName name >>= readPayload value := by
  obtain ⟨fields, rfl⟩ := h
  rfl

/-- Of an object whose kind is known, the fields beside `kind` are read as the table of the kind
says. -/
theorem Update.readPayload_failsAs (hobject : value.IsObject) (kind : UpdateKind) :
    FailsAs (readPayload value kind) (kind.grammar.check key value) := by
  cases kind with
  | log => exact (NodeLog.failsAs key value).map _
  | appMessage => exact (AppMessage.failsAs key value).map _
  | appCall => exact (AppCall.failsAs key value).map _
  | attachment => exact (Attachment.failsAs key value).map _
  | network => exact (NetworkState.failsAs key value).map _
  | config => exact (ConfigState.failsAs key value).map _
  | routeChange => exact (RouteChange.failsAs key value).map _
  | valueChange => exact (ValueChange.failsAs key value).map _
  | shutdown =>
      obtain ⟨fields, rfl⟩ := hobject
      rfl

end ControlStream

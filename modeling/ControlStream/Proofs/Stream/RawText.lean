import ControlStream.Proofs.Json.OneLine
import ControlStream.Stream.Config

/-!
# What stands unescaped in the line about a message

The text format puts some of the node's texts into a line as they came. Whatever else it puts
there, names, numbers, quoted texts and JSON, holds no line break, so a line has exactly the
breaks of those texts.
-/

namespace ControlStream

open Text (breaks)

/-! ## Updates -/

@[simp] theorem LogLevel.breaks_name (level : LogLevel) : breaks level.name = 0 := by
  cases level <;> rfl

@[simp] theorem AttachmentState.breaks_name (state : AttachmentState) :
    breaks state.name = 0 := by
  cases state <;> rfl

@[simp] theorem Scalar.breaks_text {role : ScalarRole} (scalar : Scalar role) :
    breaks scalar.text = 0 :=
  Text.breaks_repr _

theorem Text.breaks_toString_bool (b : Bool) : breaks (toString b) = 0 := by
  cases b <;> rfl

namespace Update

/-- The texts that the line about an update holds as they came. -/
def rawTexts : Update → List String
  | .log entry => [entry.message]
  | .appMessage app => app.sender.toList.map Typed.text
  | .appCall app => app.sender.toList.map Typed.text
  | .valueChange change => [change.key.text]
  | _ => []

theorem breaks_describeSender (sender : Option TypedKey) :
    breaks (describeSender sender) = Text.totalBreaks (sender.toList.map Typed.text) := by
  cases sender with
  | none => rfl
  | some key => simp [describeSender]

@[simp] theorem breaks_countText {α : Type} (items : List α) : breaks (countText items) = 0 :=
  Text.breaks_repr _

theorem breaks_describe (update : Update) :
    breaks update.describe = Text.totalBreaks update.rawTexts := by
  unfold describe
  cases update with
  | log entry =>
      have hlabel : breaks "log " = 0 ∧ breaks ": " = 0 := ⟨rfl, rfl⟩
      simp [rawTexts, hlabel]
  | appMessage app =>
      have hlabel : breaks "app_message from " = 0 ∧ breaks ": " = 0 ∧ breaks " bytes" = 0 :=
        ⟨rfl, rfl, rfl⟩
      simp [rawTexts, hlabel, breaks_describeSender]
  | appCall app =>
      have hlabel : breaks "app_call " = 0 ∧ breaks " from " = 0 ∧ breaks ": " = 0 ∧
          breaks " bytes" = 0 := ⟨rfl, rfl, rfl, rfl⟩
      simp [rawTexts, hlabel, breaks_describeSender]
  | attachment report =>
      have hlabel : breaks "attachment " = 0 ∧ breaks " public_internet_ready=" = 0 ∧
          breaks " local_network_ready=" = 0 := ⟨rfl, rfl, rfl⟩
      have hpublic := Text.breaks_toString_bool report.publicInternetReady
      have hlocal := Text.breaks_toString_bool report.localNetworkReady
      simp [rawTexts, hlabel, hpublic, hlocal]
  | network state =>
      have hlabel : breaks "network started=" = 0 ∧ breaks " bps_down=" = 0 ∧
          breaks " bps_up=" = 0 ∧ breaks " peers=" = 0 := ⟨rfl, rfl, rfl, rfl⟩
      have hstarted := Text.breaks_toString_bool state.started
      simp [rawTexts, hlabel, hstarted]
  | config state =>
      have hlabel : breaks "config " = 0 ∧ breaks " keys" = 0 := ⟨rfl, rfl⟩
      simp [rawTexts, hlabel]
  | routeChange change =>
      have hlabel : breaks "route_change dead_routes=" = 0 ∧
          breaks " dead_remote_routes=" = 0 := ⟨rfl, rfl⟩
      simp [rawTexts, hlabel]
  | valueChange change =>
      have hlabel : breaks "value_change " = 0 ∧ breaks " subkeys=[" = 0 ∧
          breaks "] count=" = 0 ∧ breaks " seq=" = 0 := ⟨rfl, rfl, rfl, rfl⟩
      have hsubkeys : breaks (",".intercalate (change.subkeys.map Scalar.text)) = 0 := by
        refine Text.breaks_intercalate_comma fun text hmem => ?_
        obtain ⟨subkey, _, rfl⟩ := List.mem_map.mp hmem
        exact subkey.breaks_text
      simp [rawTexts, hlabel, hsubkeys]
  | shutdown => rfl

end Update

/-! ## API errors -/

/-- A read whose failure, if it fails, is told on one line. -/
def FailsOnOneLine {α : Type} : Except DecodeError α → Prop
  | .ok _ => True
  | .error cause => breaks cause.message = 0

theorem FailsOnOneLine.bind {α β : Type} {read : Except DecodeError α}
    {rest : α → Except DecodeError β} (h : FailsOnOneLine read)
    (hrest : ∀ x, FailsOnOneLine (rest x)) : FailsOnOneLine (read >>= rest) := by
  cases read with
  | error cause => exact h
  | ok x => exact hrest x

namespace Json

theorem asRecord_failsOnOneLine {record : String} (h : breaks record = 0) (value : Json) :
    FailsOnOneLine (value.asRecord record) := by
  have hmessage : breaks (DecodeError.expectedObject record).message = 0 := by
    have hlabel : breaks "expected json object for " = 0 := rfl
    unfold DecodeError.message
    simp [hlabel, h]
  cases value with
  | object fields => trivial
  | _ => exact hmessage

theorem requireString_failsOnOneLine {field : String} (h : breaks field = 0) (value : Json) :
    FailsOnOneLine (value.requireString field) := by
  have hmissing : breaks (DecodeError.missingField field).message = 0 := by
    have hlabel : breaks "missing field '" = 0 ∧ breaks "'" = 0 := ⟨rfl, rfl⟩
    unfold DecodeError.message
    simp [hlabel, h]
  have hinvalid : breaks (DecodeError.invalidField field .string).message = 0 := by
    have hlabel : breaks "field '" = 0 ∧ breaks "' must be " = 0 := ⟨rfl, rfl⟩
    have hshape : breaks Shape.string.description = 0 := rfl
    unfold DecodeError.message
    simp [hlabel, hshape, h]
  refine .bind ?_ fun held => ?_
  · unfold require
    split
    · trivial
    · exact hmissing
  · cases held with
    | string s => trivial
    | _ => exact hinvalid

end Json

namespace ApiError

def rawTexts : ApiError → List String
  | .noConnection message | .internal message | .unimplemented message | .generic message =>
      [message]
  | .keyNotFound key => [key]
  | .parseError message _ => [message]
  | .invalidArgument context argument _ => [context, argument]
  | .missingArgument context argument => [context, argument]
  | _ => []

theorem breaks_message (error : ApiError) :
    breaks error.message = Text.totalBreaks error.rawTexts := by
  unfold ApiError.message
  cases error with
  | noConnection message =>
      have hlabel : breaks "no connection: " = 0 := rfl
      simp [rawTexts, hlabel]
  | keyNotFound key =>
      have hlabel : breaks "key not found: " = 0 := rfl
      simp [rawTexts, hlabel]
  | internal message =>
      have hlabel : breaks "internal error: " = 0 := rfl
      simp [rawTexts, hlabel]
  | unimplemented message =>
      have hlabel : breaks "unimplemented: " = 0 := rfl
      simp [rawTexts, hlabel]
  | parseError message value =>
      have hlabel : breaks "parse error: " = 0 ∧ breaks " (" = 0 ∧ breaks ")" = 0 :=
        ⟨rfl, rfl, rfl⟩
      simp [rawTexts, hlabel]
  | invalidArgument context argument value =>
      have hlabel : breaks "invalid argument in " = 0 ∧ breaks ": " = 0 ∧ breaks " = " = 0 :=
        ⟨rfl, rfl, rfl⟩
      simp [rawTexts, hlabel]
  | missingArgument context argument =>
      have hlabel : breaks "missing argument in " = 0 ∧ breaks ": " = 0 := ⟨rfl, rfl⟩
      simp [rawTexts, hlabel]
  | generic message => simp [rawTexts]
  | unrecognized kind =>
      have hlabel : breaks "unrecognized api error kind " = 0 := rfl
      simp [rawTexts, hlabel]
  | _ => rfl

theorem readPayload_failsOnOneLine (value : Json) (kind : String) :
    FailsOnOneLine (readPayload value kind) := by
  have hread : ∀ field, breaks field = 0 → FailsOnOneLine (value.requireString field) :=
    fun field h => Json.requireString_failsOnOneLine h value
  have hmessage := hread "message" rfl
  have hcontext := hread "context" rfl
  have hargument := hread "argument" rfl
  have hvalue := hread "value" rfl
  unfold readPayload
  split
  case h_8 => exact (hread "key" rfl).bind fun _ => trivial
  case h_11 => exact hmessage.bind fun _ => hvalue.bind fun _ => trivial
  case h_12 => exact hcontext.bind fun _ => hargument.bind fun _ => hvalue.bind fun _ => trivial
  case h_13 => exact hcontext.bind fun _ => hargument.bind fun _ => trivial
  case h_7 | h_9 | h_10 | h_14 => exact hmessage.bind fun _ => trivial
  all_goals trivial

theorem read_failsOnOneLine (value : Json) : FailsOnOneLine (read value) :=
  (value.asRecord_failsOnOneLine rfl).bind fun _ =>
    (value.requireString_failsOnOneLine rfl).bind fun kind => readPayload_failsOnOneLine value kind

end ApiError

/-! ## Responses -/

namespace Response

def rawErrorTexts (response : Response) : List String :=
  match response.result with
  | .error (.api error) => error.rawTexts
  | _ => []

def rawTexts (response : Response) : List String :=
  response.op.toList ++ response.rawErrorTexts

theorem breaks_op (op : Option String) : breaks (op.getD "?") = Text.totalBreaks op.toList := by
  cases op with
  | none => rfl
  | some op => simp

theorem breaks_message_of_result {response : Response} {error : ResponseError}
    (h : response.result = .error error) :
    breaks error.message = Text.totalBreaks response.rawErrorTexts := by
  unfold rawErrorTexts ResponseError.message
  rw [h]
  cases error with
  | api error =>
      have hlabel : breaks "node returned error: " = 0 := rfl
      simp [hlabel, error.breaks_message]
  | decode cause =>
      have hlabel : breaks "undecodable response error: " = 0 := rfl
      have hcause : breaks cause.message = 0 := by
        unfold result at h
        split at h
        · rename_i held _
          have hfails := ApiError.read_failsOnOneLine held
          cases hread : ApiError.read held with
          | ok error => simp [hread] at h
          | error found =>
              rw [hread] at h hfails
              cases h
              exact hfails
        · cases h
      simp [hlabel, hcause]

theorem breaks_describe (response : Response) :
    breaks response.describe = Text.totalBreaks response.rawTexts := by
  have hlabel : breaks "response " = 0 ∧ breaks " " = 0 ∧ breaks ": " = 0 := ⟨rfl, rfl, rfl⟩
  have htotal : Text.totalBreaks response.rawTexts =
      breaks (response.op.getD "?") + Text.totalBreaks response.rawErrorTexts := by
    rw [breaks_op]
    simp [rawTexts]
  unfold describe
  rw [htotal]
  cases h : response.result with
  | error error =>
      have herror := breaks_message_of_result h
      simp [hlabel, herror]
  | ok value =>
      have hnone : Text.totalBreaks response.rawErrorTexts = 0 := by
        simp [rawErrorTexts, h]
      have hok : breaks "ok" = 0 := rfl
      cases value <;> simp [hlabel, hnone, hok]

end Response

end ControlStream

import ControlStream.Message
import ControlStream.Proofs.Node.RoundTrip
import ControlStream.Proofs.Record.RoundTrip

/-!
# Updates are read back

An update is read from every object that carries its members, so from what it is written as, and
from that with a further member. With the type of an update it is a message.
-/

namespace ControlStream

open Json

section Payload

variable {value : Json}

theorem NodeLog.read_of_carries {entry : NodeLog} (h : value.Carries entry.members) :
    read value = .ok entry := by
  obtain ⟨_, hrecord⟩ := h.asRecord "log"
  obtain ⟨hlevel, hmessage, hbacktrace, -⟩ := h
  simp [read, hrecord, requireString_of_get? hlevel, LogLevel.ofName_name,
    requireString_of_get? hmessage, optionalString_of_get? hbacktrace]

theorem AppMessage.read_of_carries {app : AppMessage} (h : value.Carries app.members) :
    read value = .ok app := by
  obtain ⟨_, hrecord⟩ := h.asRecord "app message"
  obtain ⟨hsender, hmessage, -⟩ := h
  simp [read, hrecord, optionalField_of_get? hsender, requireBytes_of_get? hmessage]

theorem AppCall.read_of_carries {app : AppCall} (h : value.Carries app.members) :
    read value = .ok app := by
  obtain ⟨_, hrecord⟩ := h.asRecord "app call"
  obtain ⟨hsender, hmessage, hid, -⟩ := h
  simp [read, hrecord, optionalField_of_get? hsender, requireBytes_of_get? hmessage,
    requireField_of_get? hid]

theorem RouteChange.read_of_carries {change : RouteChange} (h : value.Carries change.members) :
    read value = .ok change := by
  obtain ⟨_, hrecord⟩ := h.asRecord "route change"
  obtain ⟨hdead, hremote, -⟩ := h
  simp [read, hrecord, requireList_of_get? hdead, requireList_of_get? hremote]

theorem ValueChange.read_of_carries {change : ValueChange} (h : value.Carries change.members) :
    read value = .ok change := by
  obtain ⟨_, hrecord⟩ := h.asRecord "value change"
  obtain ⟨hkey, hsubkeys, hcount, hvalue, -⟩ := h
  simp [read, hrecord, requireField_of_get? hkey, requireList_of_get? hsubkeys,
    requireUnsigned32_of_get? hcount, requireField_of_get? hvalue]

end Payload

namespace Update

variable {value : Json} {update : Update}

theorem readPayload_of_carries (h : value.Carries update.payloadMembers) :
    readPayload value update.kind = .ok update := by
  cases update with
  | log entry => simp [readPayload, kind, NodeLog.read_of_carries h, Except.map]
  | appMessage app => simp [readPayload, kind, AppMessage.read_of_carries h, Except.map]
  | appCall app => simp [readPayload, kind, AppCall.read_of_carries h, Except.map]
  | attachment report => simp [readPayload, kind, Attachment.read_of_carries h, Except.map]
  | network state => simp [readPayload, kind, NetworkState.read_of_carries h, Except.map]
  | config state => simp [readPayload, kind, ConfigState.read_of_carries h, Except.map]
  | routeChange change => simp [readPayload, kind, RouteChange.read_of_carries h, Except.map]
  | valueChange change => simp [readPayload, kind, ValueChange.read_of_carries h, Except.map]
  | shutdown => rfl

theorem read_of_carries (h : value.Carries update.members) : read value = .ok update := by
  obtain ⟨_, hrecord⟩ := h.asRecord "update"
  obtain ⟨hkind, hpayload⟩ := h
  simp [read, hrecord, requireString_of_get? hkind, UpdateKind.ofName_name,
    readPayload_of_carries hpayload]

/-- No payload has a member that is called `kind`, or one name twice. -/
theorem nodup_keys (update : Update) : (update.members.map (·.1)).Nodup := by
  cases update <;>
    simp [members, payloadMembers, NodeLog.members, AppMessage.members, AppCall.members,
      Attachment.members, NetworkState.members, ConfigState.members, RouteChange.members,
      ValueChange.members]

theorem type_notMem_keys (update : Update) : "type" ∉ update.members.map (·.1) := by
  cases update <;>
    simp [members, payloadMembers, NodeLog.members, AppMessage.members, AppCall.members,
      Attachment.members, NetworkState.members, ConfigState.members, RouteChange.members,
      ValueChange.members]

theorem carries_write (update : Update) : update.write.Carries update.members :=
  carries_ofMembers update.nodup_keys

end Update

theorem Message.read_of_carries {value : Json} {update : Update}
    (h : value.Carries (("type", .string updateTag) :: update.members)) :
    read value = .ok (.update update) := by
  obtain ⟨_, hrecord⟩ := h.asRecord "message"
  obtain ⟨htype, hmembers⟩ := h
  have htag : updateTag ≠ responseTag := by decide
  simp [read, hrecord, requireString_of_get? htype, htag, Update.read_of_carries hmembers]

/-- Every update is read back from what it is written as, whatever its payload, and with a type
added to the same object it is read back as a message. -/
theorem Update.written_reads_back (update : Update) :
    Update.read update.write = .ok update ∧
      Message.read (update.write.withMember "type" (.string Message.updateTag)) =
        .ok (.update update) := by
  have h := update.carries_write
  exact ⟨read_of_carries h,
    Message.read_of_carries (h.withMember update.type_notMem_keys (.string Message.updateTag))⟩

end ControlStream

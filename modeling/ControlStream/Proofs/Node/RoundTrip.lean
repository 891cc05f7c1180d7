import ControlStream.Node.State
import ControlStream.Proofs.Wire.Leaf

/-!
# The node's records are read back

Peers with their statistics are read back from what they are written as. The records that an update
spreads over its own object are read from every object that carries their members.
-/

namespace ControlStream

open Json

instance : LawfulWire RpcStats where
  read_write _ stats := by
    have h : stats.write.Carries _ := carries_ofMembers (by simp)
    obtain ⟨_, hrecord⟩ := h.asRecord "rpc stats"
    obtain ⟨hsent, hreceived, hinFlight, hquestion, hseen, hfirst, hlost, hfailed, -⟩ := h
    show RpcStats.read stats.write = .ok stats
    simp [RpcStats.read, hrecord, requireUnsigned32_of_get? hsent,
      requireUnsigned32_of_get? hreceived, requireUnsigned32_of_get? hinFlight,
      optionalField_of_get? hquestion, optionalField_of_get? hseen, optionalField_of_get? hfirst,
      requireUnsigned32_of_get? hlost, requireUnsigned32_of_get? hfailed]
  isNull_write _ := rfl

instance : LawfulWire LatencyStats where
  read_write _ stats := by
    have h : stats.write.Carries _ := carries_ofMembers (by simp)
    obtain ⟨_, hrecord⟩ := h.asRecord "latency stats"
    obtain ⟨hfastest, haverage, hslowest, -⟩ := h
    show LatencyStats.read stats.write = .ok stats
    simp [LatencyStats.read, hrecord, requireField_of_get? hfastest,
      requireField_of_get? haverage, requireField_of_get? hslowest]
  isNull_write _ := rfl

instance : LawfulWire TransferStats where
  read_write _ stats := by
    have h : stats.write.Carries _ := carries_ofMembers (by simp)
    obtain ⟨_, hrecord⟩ := h.asRecord "transfer stats"
    obtain ⟨htotal, hmaximum, haverage, hminimum, -⟩ := h
    show TransferStats.read stats.write = .ok stats
    simp [TransferStats.read, hrecord, requireField_of_get? htotal, requireField_of_get? hmaximum,
      requireField_of_get? haverage, requireField_of_get? hminimum]
  isNull_write _ := rfl

instance : LawfulWire Transfer where
  read_write _ transfer := by
    have h : transfer.write.Carries _ := carries_ofMembers (by simp)
    obtain ⟨_, hrecord⟩ := h.asRecord "transfer"
    obtain ⟨hdown, hup, -⟩ := h
    show Transfer.read transfer.write = .ok transfer
    simp [Transfer.read, hrecord, requireField_of_get? hdown, requireField_of_get? hup]
  isNull_write _ := rfl

instance : LawfulWire PeerStats where
  read_write _ stats := by
    have h : stats.write.Carries _ := carries_ofMembers (by simp)
    obtain ⟨_, hrecord⟩ := h.asRecord "peer stats"
    obtain ⟨hadded, hrpc, hlatency, htransfer, -⟩ := h
    show PeerStats.read stats.write = .ok stats
    simp [PeerStats.read, hrecord, requireField_of_get? hadded, requireField_of_get? hrpc,
      optionalField_of_get? hlatency, requireField_of_get? htransfer]
  isNull_write _ := rfl

instance : LawfulWire Peer where
  read_write _ peer := by
    have h : peer.write.Carries _ := carries_ofMembers (by simp)
    obtain ⟨_, hrecord⟩ := h.asRecord "peer"
    obtain ⟨hids, haddress, hstats, -⟩ := h
    show Peer.read peer.write = .ok peer
    simp [Peer.read, hrecord, requireList_of_get? hids, requireString_of_get? haddress,
      requireField_of_get? hstats]
  isNull_write _ := rfl

/-! ## Records that share the object of an update -/

variable {value : Json}

theorem Attachment.read_of_carries {report : Attachment} (h : value.Carries report.members) :
    read value = .ok report := by
  obtain ⟨_, hrecord⟩ := h.asRecord "attachment state"
  obtain ⟨hstate, hpublic, hlocal, -⟩ := h
  simp [read, hrecord, requireString_of_get? hstate, AttachmentState.ofName_name,
    requireBool_of_get? hpublic, requireBool_of_get? hlocal]

theorem NetworkState.read_of_carries {state : NetworkState} (h : value.Carries state.members) :
    read value = .ok state := by
  obtain ⟨_, hrecord⟩ := h.asRecord "network state"
  obtain ⟨hstarted, hdown, hup, hpeers, -⟩ := h
  simp [read, hrecord, requireBool_of_get? hstarted, requireField_of_get? hdown,
    requireField_of_get? hup, requireList_of_get? hpeers]

theorem ConfigState.read_of_carries {state : ConfigState} (h : value.Carries state.members) :
    read value = .ok state := by
  obtain ⟨_, hrecord⟩ := h.asRecord "config state"
  obtain ⟨hconfig, -⟩ := h
  simp [read, hrecord, requireObject_of_get? hconfig]

/-! ## Snapshots -/

instance : LawfulWire Attachment where
  read_write _ report :=
    Attachment.read_of_carries (carries_ofMembers (by simp [Attachment.members]))
  isNull_write _ := rfl

instance : LawfulWire NetworkState where
  read_write _ state :=
    NetworkState.read_of_carries (carries_ofMembers (by simp [NetworkState.members]))
  isNull_write _ := rfl

instance : LawfulWire ConfigState where
  read_write _ state :=
    ConfigState.read_of_carries (carries_ofMembers (by simp [ConfigState.members]))
  isNull_write _ := rfl

instance : LawfulWire NodeState where
  read_write _ state := by
    have h : state.write.Carries _ := carries_ofMembers (by simp)
    obtain ⟨_, hrecord⟩ := h.asRecord "state"
    obtain ⟨hattachment, hnetwork, hconfig, -⟩ := h
    show NodeState.read state.write = .ok state
    simp [NodeState.read, hrecord, requireField_of_get? hattachment,
      requireField_of_get? hnetwork, requireField_of_get? hconfig]
  isNull_write _ := rfl

end ControlStream

import ControlStream.Node.State
import ControlStream.Proofs.Wire.Spelling

/-!
# How the node's records are spelled

For each record the fields that an object must have, what each of them spells and which may be
missing. Other fields of the object play no part. A record is read from exactly the objects that
spell it.
-/

namespace ControlStream

open Json

structure RpcStats.SpelledBy (value : Json) (stats : RpcStats) : Prop where
  isObject : value.IsObject
  messagesSent : value.HasField "messages_sent" (IsUnsigned 32) stats.messagesSent
  messagesReceived : value.HasField "messages_rcvd" (IsUnsigned 32) stats.messagesReceived
  questionsInFlight :
    value.HasField "questions_in_flight" (IsUnsigned 32) stats.questionsInFlight
  lastQuestion : value.HasOptional "last_question_ts" Scalar.SpelledBy stats.lastQuestion
  lastSeen : value.HasOptional "last_seen_ts" Scalar.SpelledBy stats.lastSeen
  firstConsecutiveSeen :
    value.HasOptional "first_consecutive_seen_ts" Scalar.SpelledBy stats.firstConsecutiveSeen
  recentLostAnswers :
    value.HasField "recent_lost_answers" (IsUnsigned 32) stats.recentLostAnswers
  failedToSend : value.HasField "failed_to_send" (IsUnsigned 32) stats.failedToSend

structure LatencyStats.SpelledBy (value : Json) (stats : LatencyStats) : Prop where
  isObject : value.IsObject
  fastest : value.HasField "fastest" Scalar.SpelledBy stats.fastest
  average : value.HasField "average" Scalar.SpelledBy stats.average
  slowest : value.HasField "slowest" Scalar.SpelledBy stats.slowest

structure TransferStats.SpelledBy (value : Json) (stats : TransferStats) : Prop where
  isObject : value.IsObject
  total : value.HasField "total" Scalar.SpelledBy stats.total
  maximum : value.HasField "maximum" Scalar.SpelledBy stats.maximum
  average : value.HasField "average" Scalar.SpelledBy stats.average
  minimum : value.HasField "minimum" Scalar.SpelledBy stats.minimum

structure Transfer.SpelledBy (value : Json) (transfer : Transfer) : Prop where
  isObject : value.IsObject
  down : value.HasField "down" TransferStats.SpelledBy transfer.down
  up : value.HasField "up" TransferStats.SpelledBy transfer.up

structure PeerStats.SpelledBy (value : Json) (stats : PeerStats) : Prop where
  isObject : value.IsObject
  timeAdded : value.HasField "time_added" Scalar.SpelledBy stats.timeAdded
  rpc : value.HasField "rpc_stats" RpcStats.SpelledBy stats.rpc
  latency : value.HasOptional "latency" LatencyStats.SpelledBy stats.latency
  transfer : value.HasField "transfer" Transfer.SpelledBy stats.transfer

structure Peer.SpelledBy (value : Json) (peer : Peer) : Prop where
  isObject : value.IsObject
  nodeIds : value.HasField "node_ids" (IsList Typed.SpelledBy) peer.nodeIds
  address : value.HasField "peer_address" IsText peer.address
  stats : value.HasField "peer_stats" PeerStats.SpelledBy peer.stats

structure Attachment.SpelledBy (value : Json) (report : Attachment) : Prop where
  isObject : value.IsObject
  state : value.HasField "state" IsText report.state.name
  publicInternetReady :
    value.HasField "public_internet_ready" IsFlag report.publicInternetReady
  localNetworkReady : value.HasField "local_network_ready" IsFlag report.localNetworkReady

structure NetworkState.SpelledBy (value : Json) (network : NetworkState) : Prop where
  isObject : value.IsObject
  started : value.HasField "started" IsFlag network.started
  bpsDown : value.HasField "bps_down" Scalar.SpelledBy network.bpsDown
  bpsUp : value.HasField "bps_up" Scalar.SpelledBy network.bpsUp
  peers : value.HasField "peers" (IsList Peer.SpelledBy) network.peers

structure ConfigState.SpelledBy (value : Json) (state : ConfigState) : Prop where
  isObject : value.IsObject
  config : value.HasField "config" IsFields state.config

variable {value : Json}

/-! ## Peers -/

theorem RpcStats.read_eq_ok_iff {stats : RpcStats} :
    RpcStats.read value = .ok stats ↔ RpcStats.SpelledBy value stats := by
  simp only [read, Except.bind_eq_ok_iff, Except.pure_eq_ok, Except.ok.injEq,
    asRecord_eq_ok_iff, requireUnsigned32_eq_ok_iff,
    optionalField_eq_ok_iff (Scalar.exact_read _)]
  constructor
  · rintro ⟨fields, hobject, _, hsent, _, hreceived, _, hinFlight, _, hquestion, _, hseen, _,
      hfirst, _, hlost, _, hfailed, rfl⟩
    exact ⟨⟨fields, hobject⟩, hsent, hreceived, hinFlight, hquestion, hseen, hfirst, hlost,
      hfailed⟩
  · rintro ⟨⟨fields, hobject⟩, hsent, hreceived, hinFlight, hquestion, hseen, hfirst, hlost,
      hfailed⟩
    exact ⟨fields, hobject, _, hsent, _, hreceived, _, hinFlight, _, hquestion, _, hseen, _,
      hfirst, _, hlost, _, hfailed, rfl⟩

theorem LatencyStats.read_eq_ok_iff {stats : LatencyStats} :
    LatencyStats.read value = .ok stats ↔ LatencyStats.SpelledBy value stats := by
  simp only [read, Except.bind_eq_ok_iff, Except.pure_eq_ok, Except.ok.injEq,
    asRecord_eq_ok_iff, requireField_eq_ok_iff (Scalar.exact_read _)]
  constructor
  · rintro ⟨fields, hobject, _, hfastest, _, haverage, _, hslowest, rfl⟩
    exact ⟨⟨fields, hobject⟩, hfastest, haverage, hslowest⟩
  · rintro ⟨⟨fields, hobject⟩, hfastest, haverage, hslowest⟩
    exact ⟨fields, hobject, _, hfastest, _, haverage, _, hslowest, rfl⟩

theorem TransferStats.read_eq_ok_iff {stats : TransferStats} :
    TransferStats.read value = .ok stats ↔ TransferStats.SpelledBy value stats := by
  simp only [read, Except.bind_eq_ok_iff, Except.pure_eq_ok, Except.ok.injEq,
    asRecord_eq_ok_iff, requireField_eq_ok_iff (Scalar.exact_read _)]
  constructor
  · rintro ⟨fields, hobject, _, htotal, _, hmaximum, _, haverage, _, hminimum, rfl⟩
    exact ⟨⟨fields, hobject⟩, htotal, hmaximum, haverage, hminimum⟩
  · rintro ⟨⟨fields, hobject⟩, htotal, hmaximum, haverage, hminimum⟩
    exact ⟨fields, hobject, _, htotal, _, hmaximum, _, haverage, _, hminimum, rfl⟩

theorem RpcStats.exact_read (field : String) :
    Exact (Wire.read field) RpcStats.SpelledBy :=
  .ofRecord RpcStats.read_eq_ok_iff RpcStats.SpelledBy.isObject

theorem LatencyStats.exact_read (field : String) :
    Exact (Wire.read field) LatencyStats.SpelledBy :=
  .ofRecord LatencyStats.read_eq_ok_iff LatencyStats.SpelledBy.isObject

theorem TransferStats.exact_read (field : String) :
    Exact (Wire.read field) TransferStats.SpelledBy :=
  .ofRecord TransferStats.read_eq_ok_iff TransferStats.SpelledBy.isObject

theorem Transfer.read_eq_ok_iff {transfer : Transfer} :
    Transfer.read value = .ok transfer ↔ Transfer.SpelledBy value transfer := by
  simp only [read, Except.bind_eq_ok_iff, Except.pure_eq_ok, Except.ok.injEq,
    asRecord_eq_ok_iff, requireField_eq_ok_iff (TransferStats.exact_read _)]
  constructor
  · rintro ⟨fields, hobject, _, hdown, _, hup, rfl⟩
    exact ⟨⟨fields, hobject⟩, hdown, hup⟩
  · rintro ⟨⟨fields, hobject⟩, hdown, hup⟩
    exact ⟨fields, hobject, _, hdown, _, hup, rfl⟩

theorem Transfer.exact_read (field : String) :
    Exact (Wire.read field) Transfer.SpelledBy :=
  .ofRecord Transfer.read_eq_ok_iff Transfer.SpelledBy.isObject

theorem PeerStats.read_eq_ok_iff {stats : PeerStats} :
    PeerStats.read value = .ok stats ↔ PeerStats.SpelledBy value stats := by
  simp only [read, Except.bind_eq_ok_iff, Except.pure_eq_ok, Except.ok.injEq,
    asRecord_eq_ok_iff, requireField_eq_ok_iff (Scalar.exact_read _),
    requireField_eq_ok_iff (RpcStats.exact_read _),
    optionalField_eq_ok_iff (LatencyStats.exact_read _),
    requireField_eq_ok_iff (Transfer.exact_read _)]
  constructor
  · rintro ⟨fields, hobject, _, hadded, _, hrpc, _, hlatency, _, htransfer, rfl⟩
    exact ⟨⟨fields, hobject⟩, hadded, hrpc, hlatency, htransfer⟩
  · rintro ⟨⟨fields, hobject⟩, hadded, hrpc, hlatency, htransfer⟩
    exact ⟨fields, hobject, _, hadded, _, hrpc, _, hlatency, _, htransfer, rfl⟩

theorem PeerStats.exact_read (field : String) :
    Exact (Wire.read field) PeerStats.SpelledBy :=
  .ofRecord PeerStats.read_eq_ok_iff PeerStats.SpelledBy.isObject

theorem Peer.read_eq_ok_iff {peer : Peer} :
    Peer.read value = .ok peer ↔ Peer.SpelledBy value peer := by
  simp only [read, Except.bind_eq_ok_iff, Except.pure_eq_ok, Except.ok.injEq,
    asRecord_eq_ok_iff, requireList_eq_ok_iff (Typed.exact_read _), requireString_eq_ok_iff,
    requireField_eq_ok_iff (PeerStats.exact_read _)]
  constructor
  · rintro ⟨fields, hobject, _, hids, _, haddress, _, hstats, rfl⟩
    exact ⟨⟨fields, hobject⟩, hids, haddress, hstats⟩
  · rintro ⟨⟨fields, hobject⟩, hids, haddress, hstats⟩
    exact ⟨fields, hobject, _, hids, _, haddress, _, hstats, rfl⟩

theorem Peer.exact_read (field : String) :
    Exact (Wire.read field) Peer.SpelledBy :=
  .ofRecord Peer.read_eq_ok_iff Peer.SpelledBy.isObject

/-! ## The state of the node -/

theorem AttachmentState.ofName_eq_ok_iff {text : String} {state : AttachmentState} :
    ofName text = .ok state ↔ text = state.name := by
  constructor
  · intro h
    unfold ofName at h
    split at h
    · next found hfound =>
        cases h
        exact eq_name_of_find? hfound
    · cases h
  · rintro rfl
    exact ofName_name state

theorem Attachment.read_eq_ok_iff {report : Attachment} :
    Attachment.read value = .ok report ↔ Attachment.SpelledBy value report := by
  simp only [read, Except.bind_eq_ok_iff, Except.pure_eq_ok, Except.ok.injEq,
    asRecord_eq_ok_iff, requireString_eq_ok_iff, AttachmentState.ofName_eq_ok_iff,
    requireBool_eq_ok_iff]
  constructor
  · rintro ⟨fields, hobject, _, hstate, _, rfl, _, hpublic, _, hlocal, rfl⟩
    exact ⟨⟨fields, hobject⟩, hstate, hpublic, hlocal⟩
  · rintro ⟨⟨fields, hobject⟩, hstate, hpublic, hlocal⟩
    exact ⟨fields, hobject, _, hstate, report.state, rfl, _, hpublic, _, hlocal, rfl⟩

theorem NetworkState.read_eq_ok_iff {network : NetworkState} :
    NetworkState.read value = .ok network ↔ NetworkState.SpelledBy value network := by
  simp only [read, Except.bind_eq_ok_iff, Except.pure_eq_ok, Except.ok.injEq,
    asRecord_eq_ok_iff, requireBool_eq_ok_iff, requireField_eq_ok_iff (Scalar.exact_read _),
    requireList_eq_ok_iff (Peer.exact_read _)]
  constructor
  · rintro ⟨fields, hobject, _, hstarted, _, hdown, _, hup, _, hpeers, rfl⟩
    exact ⟨⟨fields, hobject⟩, hstarted, hdown, hup, hpeers⟩
  · rintro ⟨⟨fields, hobject⟩, hstarted, hdown, hup, hpeers⟩
    exact ⟨fields, hobject, _, hstarted, _, hdown, _, hup, _, hpeers, rfl⟩

theorem ConfigState.read_eq_ok_iff {state : ConfigState} :
    ConfigState.read value = .ok state ↔ ConfigState.SpelledBy value state := by
  simp only [read, Except.bind_eq_ok_iff, Except.pure_eq_ok, Except.ok.injEq,
    asRecord_eq_ok_iff, requireObject_eq_ok_iff]
  constructor
  · rintro ⟨fields, hobject, _, hconfig, rfl⟩
    exact ⟨⟨fields, hobject⟩, hconfig⟩
  · rintro ⟨⟨fields, hobject⟩, hconfig⟩
    exact ⟨fields, hobject, _, hconfig, rfl⟩

end ControlStream

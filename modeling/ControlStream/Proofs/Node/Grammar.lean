import ControlStream.Proofs.Node.Canonical
import ControlStream.Proofs.Wire.Grammar

/-!
# Tables of the node's records

What each record of the node's state asks for, field by field in the order of its reads. A record
can be read when its table is met, and otherwise fails as the check of its table does.
-/

namespace ControlStream

open Json

/-! ## Tables -/

def RpcStats.grammar : Grammar :=
  .record "rpc stats"
    [("messages_sent", .one, .integer .bits32),
      ("messages_rcvd", .one, .integer .bits32),
      ("questions_in_flight", .one, .integer .bits32),
      ("last_question_ts", .optional, .integer .fitting64),
      ("last_seen_ts", .optional, .integer .fitting64),
      ("first_consecutive_seen_ts", .optional, .integer .fitting64),
      ("recent_lost_answers", .one, .integer .bits32),
      ("failed_to_send", .one, .integer .bits32)]

def LatencyStats.grammar : Grammar :=
  .record "latency stats"
    [("fastest", .one, .integer .fitting64),
      ("average", .one, .integer .fitting64),
      ("slowest", .one, .integer .fitting64)]

def TransferStats.grammar : Grammar :=
  .record "transfer stats"
    [("total", .one, .integer .fitting64),
      ("maximum", .one, .integer .fitting64),
      ("average", .one, .integer .fitting64),
      ("minimum", .one, .integer .fitting64)]

def Transfer.grammar : Grammar :=
  .record "transfer" [("down", .one, TransferStats.grammar), ("up", .one, TransferStats.grammar)]

def PeerStats.grammar : Grammar :=
  .record "peer stats"
    [("time_added", .one, .integer .fitting64),
      ("rpc_stats", .one, RpcStats.grammar),
      ("latency", .optional, LatencyStats.grammar),
      ("transfer", .one, Transfer.grammar)]

def Peer.grammar : Grammar :=
  .record "peer"
    [("node_ids", .many, .text), ("peer_address", .one, .text),
      ("peer_stats", .one, PeerStats.grammar)]

def Attachment.grammar : Grammar :=
  .record "attachment state"
    [("state", .one, .name (AttachmentState.all.map AttachmentState.name)),
      ("public_internet_ready", .one, .flag),
      ("local_network_ready", .one, .flag)]

def NetworkState.grammar : Grammar :=
  .record "network state"
    [("started", .one, .flag),
      ("bps_down", .one, .integer .fitting64),
      ("bps_up", .one, .integer .fitting64),
      ("peers", .many, Peer.grammar)]

def ConfigState.grammar : Grammar := .record "config state" [("config", .one, .fields)]

/-! ## Peers -/

variable (key : String) (value : Json)

theorem RpcStats.failsAs :
    FailsAs (Wire.read key value : Except DecodeError RpcStats) (grammar.check key value) := by
  have hcount := requireUnsigned32_failsAs value
  have hinstant := fun key => optionalField_failsAs value key (@Scalar.failsAs .timestamp key)
  exact record_failsAs fun _ =>
    (hcount "messages_sent").bind fun _ => (hcount "messages_rcvd").bind fun _ =>
    (hcount "questions_in_flight").bind fun _ => (hinstant "last_question_ts").bind fun _ =>
    (hinstant "last_seen_ts").bind fun _ => (hinstant "first_consecutive_seen_ts").bind fun _ =>
    (hcount "recent_lost_answers").bind fun _ => (hcount "failed_to_send").bind fun _ => rfl

theorem LatencyStats.failsAs :
    FailsAs (Wire.read key value : Except DecodeError LatencyStats) (grammar.check key value) := by
  have hduration := fun key =>
    requireField_failsAs value key (@Scalar.failsAs .timestampDuration key)
  exact record_failsAs fun _ =>
    (hduration "fastest").bind fun _ => (hduration "average").bind fun _ =>
    (hduration "slowest").bind fun _ => rfl

theorem TransferStats.failsAs :
    FailsAs (Wire.read key value : Except DecodeError TransferStats)
      (grammar.check key value) := by
  have hcount := fun key => requireField_failsAs value key (@Scalar.failsAs .byteCount key)
  exact record_failsAs fun _ =>
    (hcount "total").bind fun _ => (hcount "maximum").bind fun _ =>
    (hcount "average").bind fun _ => (hcount "minimum").bind fun _ => rfl

theorem Transfer.failsAs :
    FailsAs (Wire.read key value : Except DecodeError Transfer) (grammar.check key value) := by
  have hstats := fun key => requireField_failsAs value key (TransferStats.failsAs key)
  exact record_failsAs fun _ => (hstats "down").bind fun _ => (hstats "up").bind fun _ => rfl

theorem PeerStats.failsAs :
    FailsAs (Wire.read key value : Except DecodeError PeerStats) (grammar.check key value) := by
  have hadded := requireField_failsAs value _ (@Scalar.failsAs .timestamp "time_added")
  have hrpc := requireField_failsAs value _ (RpcStats.failsAs "rpc_stats")
  have hlatency := optionalField_failsAs value _ (LatencyStats.failsAs "latency")
  have htransfer := requireField_failsAs value _ (Transfer.failsAs "transfer")
  exact record_failsAs fun _ =>
    hadded.bind fun _ => hrpc.bind fun _ => hlatency.bind fun _ => htransfer.bind fun _ => rfl

theorem Peer.failsAs :
    FailsAs (Wire.read key value : Except DecodeError Peer) (grammar.check key value) := by
  have hids := requireList_failsAs value _ (@Typed.failsAs PublicKey _ "node_ids")
  have haddress := requireString_failsAs value "peer_address"
  have hstats := requireField_failsAs value _ (PeerStats.failsAs "peer_stats")
  exact record_failsAs fun _ =>
    hids.bind fun _ => haddress.bind fun _ => hstats.bind fun _ => rfl

/-! ## The state of the node -/

theorem AttachmentState.ofName_eq_error {text : String}
    (h : text ∉ all.map AttachmentState.name) :
    ofName text = .error (.unknownVariant "state" text) := by
  rw [ofName, find?_eq_none_of_notMem_names h]

theorem Attachment.failsAs :
    FailsAs (Wire.read key value : Except DecodeError Attachment) (grammar.check key value) := by
  have hok : ∀ text ∈ AttachmentState.all.map AttachmentState.name,
      ∃ state, AttachmentState.ofName text = .ok state := by
    intro text hmem
    obtain ⟨state, -, rfl⟩ := List.mem_map.mp hmem
    exact ⟨state, state.ofName_name⟩
  have hready := requireBool_failsAs value
  exact record_failsAs fun _ =>
    requireName_failsAs value "state" hok (fun _ => AttachmentState.ofName_eq_error) fun _ =>
    (hready "public_internet_ready").bind fun _ => (hready "local_network_ready").bind fun _ => rfl

theorem NetworkState.failsAs :
    FailsAs (Wire.read key value : Except DecodeError NetworkState) (grammar.check key value) := by
  have hstarted := requireBool_failsAs value "started"
  have hcount := fun key => requireField_failsAs value key (@Scalar.failsAs .byteCount key)
  have hpeers := requireList_failsAs value _ (Peer.failsAs "peers")
  exact record_failsAs fun _ =>
    hstarted.bind fun _ => (hcount "bps_down").bind fun _ => (hcount "bps_up").bind fun _ =>
    hpeers.bind fun _ => rfl

theorem ConfigState.failsAs :
    FailsAs (Wire.read key value : Except DecodeError ConfigState) (grammar.check key value) :=
  record_failsAs fun _ => (requireObject_failsAs value "config").bind fun _ => rfl

end ControlStream

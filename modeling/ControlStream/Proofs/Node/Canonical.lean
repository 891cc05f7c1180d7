import ControlStream.Proofs.Node.Spelling
import ControlStream.Proofs.Wire.Canonical

/-!
# How the node's records are written

The tables of the records, and that each record is written from any of its spellings by its table.
-/

namespace ControlStream

open Json Form

/-! ## Tables -/

def RpcStats.form : Form :=
  .record
    [("messages_sent", .integer), ("messages_rcvd", .integer), ("questions_in_flight", .integer),
      ("last_question_ts", .integer), ("last_seen_ts", .integer),
      ("first_consecutive_seen_ts", .integer), ("recent_lost_answers", .integer),
      ("failed_to_send", .integer)]

def LatencyStats.form : Form :=
  .record [("fastest", .integer), ("average", .integer), ("slowest", .integer)]

def TransferStats.form : Form :=
  .record
    [("total", .integer), ("maximum", .integer), ("average", .integer), ("minimum", .integer)]

def Transfer.form : Form :=
  .record [("down", TransferStats.form), ("up", TransferStats.form)]

def PeerStats.form : Form :=
  .record
    [("time_added", .integer), ("rpc_stats", RpcStats.form), ("latency", LatencyStats.form),
      ("transfer", Transfer.form)]

def Peer.form : Form :=
  .record [("node_ids", .list .same), ("peer_address", .same), ("peer_stats", PeerStats.form)]

def Attachment.fields : List (String × Form) :=
  [("state", .same), ("public_internet_ready", .same), ("local_network_ready", .same)]

def NetworkState.fields : List (String × Form) :=
  [("started", .same), ("bps_down", .integer), ("bps_up", .integer), ("peers", .list Peer.form)]

def ConfigState.fields : List (String × Form) := [("config", .same)]

theorem Peer.distinct_form : Peer.form.Distinct := by
  simp [form, PeerStats.form, RpcStats.form, LatencyStats.form, Transfer.form, TransferStats.form,
    Distinct, AllDistinct]

/-! ## Peers -/

theorem RpcStats.writes : RpcStats.form.Writes RpcStats.SpelledBy Wire.write := by
  refine .ofRecord (fun {value stats} h => ?_) SpelledBy.isObject
  have hinstant := @Scalar.integer_writes .timestamp nofun
  show _ = stats.write
  simp only [form, canonical_record, canonicalMembers_cons, canonicalMembers_nil, write,
    integer_writes.field h.messagesSent, integer_writes.field h.messagesReceived,
    integer_writes.field h.questionsInFlight, hinstant.optional h.lastQuestion,
    hinstant.optional h.lastSeen, hinstant.optional h.firstConsecutiveSeen,
    integer_writes.field h.recentLostAnswers, integer_writes.field h.failedToSend]

theorem LatencyStats.writes : LatencyStats.form.Writes LatencyStats.SpelledBy Wire.write := by
  refine .ofRecord (fun {value stats} h => ?_) SpelledBy.isObject
  have hduration := @Scalar.integer_writes .timestampDuration nofun
  show _ = stats.write
  simp only [form, canonical_record, canonicalMembers_cons, canonicalMembers_nil, write,
    hduration.field h.fastest, hduration.field h.average, hduration.field h.slowest]

theorem TransferStats.writes : TransferStats.form.Writes TransferStats.SpelledBy Wire.write := by
  refine .ofRecord (fun {value stats} h => ?_) SpelledBy.isObject
  have hcount := @Scalar.integer_writes .byteCount nofun
  show _ = stats.write
  simp only [form, canonical_record, canonicalMembers_cons, canonicalMembers_nil, write,
    hcount.field h.total, hcount.field h.maximum, hcount.field h.average, hcount.field h.minimum]

theorem Transfer.writes : Transfer.form.Writes Transfer.SpelledBy Wire.write := by
  refine .ofRecord (fun {value transfer} h => ?_) SpelledBy.isObject
  show _ = transfer.write
  simp only [form, canonical_record, canonicalMembers_cons, canonicalMembers_nil, write,
    TransferStats.writes.field h.down, TransferStats.writes.field h.up]

theorem PeerStats.writes : PeerStats.form.Writes PeerStats.SpelledBy Wire.write := by
  refine .ofRecord (fun {value stats} h => ?_) SpelledBy.isObject
  have hinstant := @Scalar.integer_writes .timestamp nofun
  show _ = stats.write
  simp only [form, canonical_record, canonicalMembers_cons, canonicalMembers_nil, write,
    hinstant.field h.timeAdded, RpcStats.writes.field h.rpc,
    LatencyStats.writes.optional h.latency, Transfer.writes.field h.transfer]

theorem Peer.writes : Peer.form.Writes Peer.SpelledBy Wire.write := by
  refine .ofRecord (fun {value peer} h => ?_) SpelledBy.isObject
  show _ = peer.write
  simp only [form, canonical_record, canonicalMembers_cons, canonicalMembers_nil, write,
    same_writes_typed.items.field h.nodeIds, same_writes_text.field h.address,
    PeerStats.writes.field h.stats]

/-! ## The state of the node -/

variable {value : Json}

theorem Attachment.canonicalMembers_eq {report : Attachment} (h : SpelledBy value report) :
    canonicalMembers fields value = report.members := by
  simp only [fields, canonicalMembers_cons, canonicalMembers_nil, members,
    same_writes_text.field h.state, same_writes_flag.field h.publicInternetReady,
    same_writes_flag.field h.localNetworkReady]

theorem NetworkState.canonicalMembers_eq {network : NetworkState}
    (h : SpelledBy value network) : canonicalMembers fields value = network.members := by
  have hcount := @Scalar.integer_writes .byteCount nofun
  simp only [fields, canonicalMembers_cons, canonicalMembers_nil, members,
    same_writes_flag.field h.started, hcount.field h.bpsDown, hcount.field h.bpsUp,
    Peer.writes.items.field h.peers]

theorem ConfigState.canonicalMembers_eq {state : ConfigState} (h : SpelledBy value state) :
    canonicalMembers fields value = state.members := by
  simp only [fields, canonicalMembers_cons, canonicalMembers_nil, members,
    same_writes_fields.field h.config]

end ControlStream

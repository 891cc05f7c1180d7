import ControlStream.Leaf.Scalar
import ControlStream.Leaf.Typed

/-!
# Peers

The entries of the node's peer table and the statistics kept for each.
-/

namespace ControlStream

structure RpcStats where
  messagesSent : BitVec 32
  messagesReceived : BitVec 32
  questionsInFlight : BitVec 32
  lastQuestion : Option Timestamp
  lastSeen : Option Timestamp
  firstConsecutiveSeen : Option Timestamp
  recentLostAnswers : BitVec 32
  failedToSend : BitVec 32
  deriving DecidableEq, Repr

namespace RpcStats

def read (value : Json) : Except DecodeError RpcStats := do
  let _ ← value.asRecord "rpc stats"
  let messagesSent ← value.requireUnsigned32 "messages_sent"
  let messagesReceived ← value.requireUnsigned32 "messages_rcvd"
  let questionsInFlight ← value.requireUnsigned32 "questions_in_flight"
  let lastQuestion ← value.optionalField "last_question_ts"
  let lastSeen ← value.optionalField "last_seen_ts"
  let firstConsecutiveSeen ← value.optionalField "first_consecutive_seen_ts"
  let recentLostAnswers ← value.requireUnsigned32 "recent_lost_answers"
  let failedToSend ← value.requireUnsigned32 "failed_to_send"
  return {
    messagesSent, messagesReceived, questionsInFlight, lastQuestion, lastSeen,
    firstConsecutiveSeen, recentLostAnswers, failedToSend }

def write (stats : RpcStats) : Json :=
  .ofMembers
    [("messages_sent", .natural (stats.messagesSent.setWidth 64)),
      ("messages_rcvd", .natural (stats.messagesReceived.setWidth 64)),
      ("questions_in_flight", .natural (stats.questionsInFlight.setWidth 64)),
      ("last_question_ts", .ofOption Wire.write stats.lastQuestion),
      ("last_seen_ts", .ofOption Wire.write stats.lastSeen),
      ("first_consecutive_seen_ts", .ofOption Wire.write stats.firstConsecutiveSeen),
      ("recent_lost_answers", .natural (stats.recentLostAnswers.setWidth 64)),
      ("failed_to_send", .natural (stats.failedToSend.setWidth 64))]

instance : Wire RpcStats where
  name := "rpc stats"
  read _ := read
  write := write

end RpcStats

structure LatencyStats where
  fastest : TimestampDuration
  average : TimestampDuration
  slowest : TimestampDuration
  deriving DecidableEq, Repr

namespace LatencyStats

def read (value : Json) : Except DecodeError LatencyStats := do
  let _ ← value.asRecord "latency stats"
  let fastest ← value.requireField "fastest"
  let average ← value.requireField "average"
  let slowest ← value.requireField "slowest"
  return { fastest, average, slowest }

def write (stats : LatencyStats) : Json :=
  .ofMembers
    [("fastest", Wire.write stats.fastest),
      ("average", Wire.write stats.average),
      ("slowest", Wire.write stats.slowest)]

instance : Wire LatencyStats where
  name := "latency stats"
  read _ := read
  write := write

end LatencyStats

structure TransferStats where
  total : ByteCount
  maximum : ByteCount
  average : ByteCount
  minimum : ByteCount
  deriving DecidableEq, Repr

namespace TransferStats

def read (value : Json) : Except DecodeError TransferStats := do
  let _ ← value.asRecord "transfer stats"
  let total ← value.requireField "total"
  let maximum ← value.requireField "maximum"
  let average ← value.requireField "average"
  let minimum ← value.requireField "minimum"
  return { total, maximum, average, minimum }

def write (stats : TransferStats) : Json :=
  .ofMembers
    [("total", Wire.write stats.total),
      ("maximum", Wire.write stats.maximum),
      ("average", Wire.write stats.average),
      ("minimum", Wire.write stats.minimum)]

instance : Wire TransferStats where
  name := "transfer stats"
  read _ := read
  write := write

end TransferStats

structure Transfer where
  down : TransferStats
  up : TransferStats
  deriving DecidableEq, Repr

namespace Transfer

def read (value : Json) : Except DecodeError Transfer := do
  let _ ← value.asRecord "transfer"
  let down ← value.requireField "down"
  let up ← value.requireField "up"
  return { down, up }

def write (transfer : Transfer) : Json :=
  .ofMembers [("down", Wire.write transfer.down), ("up", Wire.write transfer.up)]

instance : Wire Transfer where
  name := "transfer"
  read _ := read
  write := write

end Transfer

structure PeerStats where
  timeAdded : Timestamp
  rpc : RpcStats
  latency : Option LatencyStats
  transfer : Transfer
  deriving DecidableEq, Repr

namespace PeerStats

def read (value : Json) : Except DecodeError PeerStats := do
  let _ ← value.asRecord "peer stats"
  let timeAdded ← value.requireField "time_added"
  let rpc ← value.requireField "rpc_stats"
  let latency ← value.optionalField "latency"
  let transfer ← value.requireField "transfer"
  return { timeAdded, rpc, latency, transfer }

def write (stats : PeerStats) : Json :=
  .ofMembers
    [("time_added", Wire.write stats.timeAdded),
      ("rpc_stats", Wire.write stats.rpc),
      ("latency", .ofOption Wire.write stats.latency),
      ("transfer", Wire.write stats.transfer)]

instance : Wire PeerStats where
  name := "peer stats"
  read _ := read
  write := write

/-- The statistics of a peer with which nothing has been exchanged. -/
def blank : PeerStats :=
  let none : TransferStats := ⟨⟨0⟩, ⟨0⟩, ⟨0⟩, ⟨0⟩⟩
  ⟨⟨0⟩, ⟨0, 0, 0, .none, .none, .none, 0, 0⟩, .none, ⟨none, none⟩⟩

end PeerStats

structure Peer where
  nodeIds : List TypedKey
  address : String
  stats : PeerStats
  deriving DecidableEq, Repr

namespace Peer

def read (value : Json) : Except DecodeError Peer := do
  let _ ← value.asRecord "peer"
  let nodeIds ← value.requireList "node_ids"
  let address ← value.requireString "peer_address"
  let stats ← value.requireField "peer_stats"
  return { nodeIds, address, stats }

def write (peer : Peer) : Json :=
  .ofMembers
    [("node_ids", .ofList Wire.write peer.nodeIds),
      ("peer_address", .string peer.address),
      ("peer_stats", Wire.write peer.stats)]

instance : Wire Peer where
  name := "peer"
  read _ := read
  write := write

end Peer

end ControlStream

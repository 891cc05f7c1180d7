import ControlStream.Node.Attachment
import ControlStream.Node.Peer

/-!
# Node state

The network and the configuration of the node, and the snapshot that holds them together with the
attachment. The configuration is an object that is passed on as it is.
-/

namespace ControlStream

structure NetworkState where
  started : Bool
  bpsDown : ByteCount
  bpsUp : ByteCount
  peers : List Peer
  deriving DecidableEq, Repr

namespace NetworkState

def read (value : Json) : Except DecodeError NetworkState := do
  let _ ← value.asRecord "network state"
  let started ← value.requireBool "started"
  let bpsDown ← value.requireField "bps_down"
  let bpsUp ← value.requireField "bps_up"
  let peers ← value.requireList "peers"
  return { started, bpsDown, bpsUp, peers }

def members (network : NetworkState) : List (String × Json) :=
  [("started", .bool network.started),
    ("bps_down", Wire.write network.bpsDown),
    ("bps_up", Wire.write network.bpsUp),
    ("peers", .ofList Wire.write network.peers)]

instance : Wire NetworkState where
  name := "network state"
  read _ := read
  write network := .ofMembers network.members

end NetworkState

structure ConfigState where
  config : Json.Fields
  deriving Repr

namespace ConfigState

def read (value : Json) : Except DecodeError ConfigState := do
  let _ ← value.asRecord "config state"
  let config ← value.requireObject "config"
  return { config }

def members (state : ConfigState) : List (String × Json) := [("config", .object state.config)]

instance : Wire ConfigState where
  name := "config state"
  read _ := read
  write state := .ofMembers state.members

end ConfigState

structure NodeState where
  attachment : Attachment
  network : NetworkState
  config : ConfigState
  deriving Repr

namespace NodeState

def read (value : Json) : Except DecodeError NodeState := do
  let _ ← value.asRecord "state"
  let attachment ← value.requireField "attachment"
  let network ← value.requireField "network"
  let config ← value.requireField "config"
  return { attachment, network, config }

def write (state : NodeState) : Json :=
  .ofMembers
    [("attachment", Wire.write state.attachment),
      ("network", Wire.write state.network),
      ("config", Wire.write state.config)]

instance : Wire NodeState where
  name := "state"
  read _ := read
  write := write

end NodeState

end ControlStream

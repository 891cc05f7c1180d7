import ControlStream.Wire.Field

/-!
# Attachment

How firmly the node is attached to the network.
-/

namespace ControlStream

inductive AttachmentState where
  | detached
  | attaching
  | attachedWeak
  | attachedGood
  | attachedStrong
  | fullyAttached
  | overAttached
  | detaching
  deriving DecidableEq, Repr

namespace AttachmentState

def all : List AttachmentState :=
  [.detached, .attaching, .attachedWeak, .attachedGood, .attachedStrong, .fullyAttached,
    .overAttached, .detaching]

def name : AttachmentState → String
  | .detached => "Detached"
  | .attaching => "Attaching"
  | .attachedWeak => "AttachedWeak"
  | .attachedGood => "AttachedGood"
  | .attachedStrong => "AttachedStrong"
  | .fullyAttached => "FullyAttached"
  | .overAttached => "OverAttached"
  | .detaching => "Detaching"

def ofName (text : String) : Except DecodeError AttachmentState :=
  match all.find? fun state => state.name == text with
  | some state => .ok state
  | none => .error (.unknownVariant "state" text)

theorem ofName_name (state : AttachmentState) : ofName state.name = .ok state := by
  cases state <;> rfl

def isAttached : AttachmentState → Bool
  | .attachedWeak | .attachedGood | .attachedStrong | .fullyAttached | .overAttached => true
  | _ => false

end AttachmentState

structure Attachment where
  state : AttachmentState
  publicInternetReady : Bool
  localNetworkReady : Bool
  deriving DecidableEq, Repr

namespace Attachment

def read (value : Json) : Except DecodeError Attachment := do
  let _ ← value.asRecord "attachment state"
  let state ← AttachmentState.ofName (← value.requireString "state")
  let publicInternetReady ← value.requireBool "public_internet_ready"
  let localNetworkReady ← value.requireBool "local_network_ready"
  return { state, publicInternetReady, localNetworkReady }

def members (attachment : Attachment) : List (String × Json) :=
  [("state", .string attachment.state.name),
    ("public_internet_ready", .bool attachment.publicInternetReady),
    ("local_network_ready", .bool attachment.localNetworkReady)]

instance : Wire Attachment where
  name := "attachment state"
  read _ := read
  write attachment := .ofMembers attachment.members

end Attachment

end ControlStream

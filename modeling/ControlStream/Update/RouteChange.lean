import ControlStream.Leaf.Opaque

/-!
# Route changes

The routes that the node has given up.
-/

namespace ControlStream

structure RouteChange where
  deadRoutes : List RouteId
  deadRemoteRoutes : List RouteId
  deriving DecidableEq, Repr

namespace RouteChange

def isEmpty (change : RouteChange) : Bool :=
  change.deadRoutes.isEmpty && change.deadRemoteRoutes.isEmpty

def read (value : Json) : Except DecodeError RouteChange := do
  let _ ← value.asRecord "route change"
  let deadRoutes ← value.requireList "dead_routes"
  let deadRemoteRoutes ← value.requireList "dead_remote_routes"
  return { deadRoutes, deadRemoteRoutes }

def members (change : RouteChange) : List (String × Json) :=
  [("dead_routes", .ofList Wire.write change.deadRoutes),
    ("dead_remote_routes", .ofList Wire.write change.deadRemoteRoutes)]

instance : Wire RouteChange where
  name := "route change"
  read _ := read
  write change := .ofMembers change.members

end RouteChange

end ControlStream

import ControlStream.Leaf.Opaque

/-!
# New private routes

The id of a route that the node has made, and the blob to hand to the remote side.
-/

namespace ControlStream

structure PrivateRoute where
  id : RouteId
  blob : List UInt8
  deriving DecidableEq, Repr

namespace PrivateRoute

def read (value : Json) : Except DecodeError PrivateRoute := do
  let _ ← value.asRecord "new private route"
  let id ← value.requireField "route_id"
  let blob ← value.requireBytes "blob"
  return { id, blob }

def write (route : PrivateRoute) : Json :=
  .ofMembers [("route_id", Wire.write route.id), ("blob", .ofBytes route.blob)]

instance : Wire PrivateRoute where
  name := "new private route"
  read _ := read
  write := write

end PrivateRoute

end ControlStream

import ControlStream.Json.Writer
import ControlStream.Response.ApiError

/-!
# Responses

The reply to a request, matched to it by its id. What the body means depends on the request, so
it is kept as it came and looked into only when a result is asked for.
-/

namespace ControlStream

structure Response where
  id : BitVec 64
  op : Option String
  body : Json
  deriving Repr

inductive ResponseError where
  | api (error : ApiError)
  | decode (cause : DecodeError)
  deriving DecidableEq, Repr

def ResponseError.message : ResponseError → String
  | .api error => "node returned error: " ++ error.message
  | .decode cause => "undecodable response error: " ++ cause.message

namespace Response

def read (value : Json) : Except DecodeError Response := do
  let _ ← value.asRecord "response"
  let id ← value.requireUnsigned64 "id"
  let op ← value.optionalString "op"
  return { id, op, body := value }

instance : Wire Response where
  name := "response"
  read _ := read
  write response := response.body

/-- The value of the response, null when it has none; an error in the body comes first. -/
def result (response : Response) : Except ResponseError Json :=
  match response.body.present? "error" with
  | some held =>
      match ApiError.read held with
      | .ok error => .error (.api error)
      | .error cause => .error (.decode cause)
  | none => .ok ((response.body.present? "value").getD .null)

def decodeResult (α : Type) [Wire α] (response : Response) : Except ResponseError α := do
  let value ← response.result
  match Wire.decode α value with
  | .ok x => .ok x
  | .error cause => .error (.decode cause)

def describe (response : Response) : String :=
  let outcome :=
    match response.result with
    | .ok .null => "ok"
    | .ok value => value.write
    | .error cause => cause.message
  "response " ++ toString response.id.toNat ++ " " ++ response.op.getD "?" ++ ": " ++ outcome

def notes (response : Response) : List LogRecord :=
  match response.body.present? "error" with
  | some held => ApiError.notes held
  | none => []

end Response

end ControlStream

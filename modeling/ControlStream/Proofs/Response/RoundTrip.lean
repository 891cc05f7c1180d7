import ControlStream.Message
import ControlStream.Proofs.Node.RoundTrip
import ControlStream.Proofs.Record.RoundTrip
import ControlStream.Proofs.Wire.Spelling
import ControlStream.Response.PrivateRoute
import ControlStream.Response.Version

/-!
# Results are read back from responses

A response keeps its body undecoded, and its result is looked into later as a value of the type
that the request promises. Whatever that type, the value that was put into the body is the one that
comes out of it; a decimal id, an error that is null and members of other names change nothing.
-/

namespace ControlStream

open Json

instance : LawfulWire PrivateRoute where
  read_write _ route := by
    have h : route.write.Carries _ := carries_ofMembers (by simp)
    obtain ⟨_, hrecord⟩ := h.asRecord "new private route"
    obtain ⟨hid, hblob, -⟩ := h
    show PrivateRoute.read route.write = .ok route
    simp [PrivateRoute.read, hrecord, requireField_of_get? hid, requireBytes_of_get? hblob]
  isNull_write _ := rfl

instance : LawfulWire Version where
  read_write _ version := by
    have h : version.write.Carries _ := carries_ofMembers (by simp)
    obtain ⟨_, hrecord⟩ := h.asRecord "version"
    obtain ⟨hmajor, hminor, hpatch, -⟩ := h
    show Version.read version.write = .ok version
    simp [Version.read, hrecord, requireUnsigned32_of_get? hmajor,
      requireUnsigned32_of_get? hminor, requireUnsigned32_of_get? hpatch]
  isNull_write _ := rfl

/-! ## Types of results -/

/-- What a request can promise as its result. -/
inductive ResultType where
  | schema
  | recordDescriptor
  | valueData
  | nodeState
  | privateRoute
  | version
  | typedKey
  | typedSecret
  | typedSignature
  | typedKeyPair
  | keyPair
  | text (role : OpaqueRole)
  | scalar (role : ScalarRole)
  deriving DecidableEq, Repr

namespace ResultType

def Value : ResultType → Type
  | schema => Schema
  | recordDescriptor => RecordDescriptor
  | valueData => ValueData
  | nodeState => NodeState
  | privateRoute => PrivateRoute
  | version => Version
  | typedKey => TypedKey
  | typedSecret => TypedSecret
  | typedSignature => TypedSignature
  | typedKeyPair => TypedKeyPair
  | keyPair => KeyPair
  | text role => Opaque role
  | scalar role => Scalar role

instance (type : ResultType) : Wire type.Value :=
  match type with
  | schema => inferInstanceAs (Wire Schema)
  | recordDescriptor => inferInstanceAs (Wire RecordDescriptor)
  | valueData => inferInstanceAs (Wire ValueData)
  | nodeState => inferInstanceAs (Wire NodeState)
  | privateRoute => inferInstanceAs (Wire PrivateRoute)
  | version => inferInstanceAs (Wire Version)
  | typedKey => inferInstanceAs (Wire TypedKey)
  | typedSecret => inferInstanceAs (Wire TypedSecret)
  | typedSignature => inferInstanceAs (Wire TypedSignature)
  | typedKeyPair => inferInstanceAs (Wire TypedKeyPair)
  | keyPair => inferInstanceAs (Wire KeyPair)
  | text role => inferInstanceAs (Wire (Opaque role))
  | scalar role => inferInstanceAs (Wire (Scalar role))

instance (type : ResultType) : LawfulWire type.Value :=
  match type with
  | schema => inferInstanceAs (LawfulWire Schema)
  | recordDescriptor => inferInstanceAs (LawfulWire RecordDescriptor)
  | valueData => inferInstanceAs (LawfulWire ValueData)
  | nodeState => inferInstanceAs (LawfulWire NodeState)
  | privateRoute => inferInstanceAs (LawfulWire PrivateRoute)
  | version => inferInstanceAs (LawfulWire Version)
  | typedKey => inferInstanceAs (LawfulWire TypedKey)
  | typedSecret => inferInstanceAs (LawfulWire TypedSecret)
  | typedSignature => inferInstanceAs (LawfulWire TypedSignature)
  | typedKeyPair => inferInstanceAs (LawfulWire TypedKeyPair)
  | keyPair => inferInstanceAs (LawfulWire KeyPair)
  | text role => inferInstanceAs (LawfulWire (Opaque role))
  | scalar role => inferInstanceAs (LawfulWire (Scalar role))

end ResultType

/-! ## Responses -/

namespace Response

/-- The members of a response that brings a value, with the id as it is given. -/
def membersWith (id : Json) (op : Option String) (value : Json) : List (String × Json) :=
  [("type", .string Message.responseTag), ("id", id), ("op", .ofOption .string op),
    ("value", value)]

/-- The two forms of an id: an integer and its decimal text. -/
def idForms (id : BitVec 64) : List Json := [.natural id, .string (toString id.toNat)]

/-- Whether a member says nothing about the result: it has a name of its own, or is an error that
is null. -/
def IsAside (member : String × Json) : Prop :=
  member.1 ∉ ["type", "id", "op", "value"] ∧ (member.1 = "error" → member.2 = .null)

theorem unsigned?_of_mem_idForms {id : BitVec 64} {form : Json} (h : form ∈ idForms id) :
    form.unsigned? = some id := by
  simp only [idForms, List.mem_cons, List.not_mem_nil, or_false] at h
  rcases h with rfl | rfl
  · rfl
  · exact unsignedOfText?_toString id

variable {body form value : Json} {id : BitVec 64} {op : Option String}

theorem read_of_carries (h : body.Carries (membersWith form op value))
    (hid : form.unsigned? = some id) : Message.read body = .ok (.response ⟨id, op, body⟩) := by
  obtain ⟨_, hmessage⟩ := h.asRecord "message"
  obtain ⟨_, hresponse⟩ := h.asRecord "response"
  obtain ⟨htype, hform, hop, -, -⟩ := h
  simp [Message.read, hmessage, requireString_of_get? htype, Response.read, hresponse,
    requireUnsigned64_of_get? hform hid, optionalString_of_get? hop]

theorem decodeResult_of_carries {α : Type} [Wire α] [LawfulWire α] {x : α}
    (h : body.Carries (membersWith form op (Wire.write x)))
    (herror : body.present? "error" = none) :
    decodeResult α ⟨id, op, body⟩ = .ok x := by
  obtain ⟨-, -, -, hvalue, -⟩ := h
  have hresult : result ⟨id, op, body⟩ = .ok (Wire.write x) := by
    simp [result, herror, present?_of_get? hvalue (LawfulWire.isNull_write x)]
  simp [decodeResult, hresult, Wire.decode, LawfulWire.read_write]

theorem present?_error_of_aside {more : List (String × Json)}
    (hmore : ∀ member ∈ more, IsAside member) :
    (ofMembers (membersWith form op value ++ more)).present? "error" = none := by
  rw [present?_eq_none_iff]
  cases hfound : (ofMembers (membersWith form op value ++ more)).get? "error" with
  | none => exact .inl rfl
  | some held =>
      have hmem := mem_of_get?_ofMembers hfound
      have haside : ("error", held) ∈ more := by simpa [membersWith] using hmem
      exact .inr (congrArg some ((hmore _ haside).2 rfl))

/-- Whatever the type of its result, a response is read back with its id, its operation and its
whole body, and the value is found in it again. Its id may as well be in digits, and other members
may be added, a null error among them. -/
theorem result_reads_back (type : ResultType) (x : type.Value) (id : BitVec 64)
    (op : Option String) :
    (∃ response, Message.read (.ofMembers (membersWith (.natural id) op (Wire.write x))) =
        .ok (.response response) ∧
      response.id = id ∧ response.op = op ∧
      Wire.write response = .ofMembers (membersWith (.natural id) op (Wire.write x)) ∧
      response.decodeResult type.Value = .ok x) ∧
    ∀ form ∈ idForms id, ∀ more : List (String × Json), (∀ member ∈ more, IsAside member) →
      ∃ response, Message.read (.ofMembers (membersWith form op (Wire.write x) ++ more)) =
          .ok (.response response) ∧
        response.id = id ∧ response.op = op ∧ response.decodeResult type.Value = .ok x := by
  have hvariant : ∀ form ∈ idForms id, ∀ more, (∀ member ∈ more, IsAside member) →
      let body := Json.ofMembers (membersWith form op (Wire.write x) ++ more)
      Message.read body = .ok (.response ⟨id, op, body⟩) ∧
        decodeResult type.Value ⟨id, op, body⟩ = .ok x := by
    intro form hform more hmore body
    have hcarries : body.Carries (membersWith form op (Wire.write x)) :=
      carries_ofMembers_append (by simp [membersWith]) fun member hmem => by
        simpa [membersWith] using (hmore member hmem).1
    exact ⟨read_of_carries hcarries (unsigned?_of_mem_idForms hform),
      decodeResult_of_carries hcarries (present?_error_of_aside hmore)⟩
  constructor
  · have h := hvariant (.natural id) List.mem_cons_self [] nofun
    rw [List.append_nil] at h
    exact ⟨_, h.1, rfl, rfl, rfl, h.2⟩
  · intro form hform more hmore
    have h := hvariant form hform more hmore
    exact ⟨_, h.1, rfl, rfl, h.2⟩

def sharedSchema : Schema := .smpl 1 [⟨⟨"writer"⟩, 2⟩]

def asideMembers : List (String × Json) := [("error", .null), ("kind", .string "Log")]

theorem result_reads_back_of_sharedSchema :
    ∃ response, Message.read (.ofMembers
        (membersWith (.string "7") (some "CreateDHTRecord") sharedSchema.write ++ asideMembers)) =
          .ok (.response response) ∧
      response.id = 7 ∧ response.op = some "CreateDHTRecord" ∧
      response.decodeResult Schema = .ok sharedSchema := by
  have hform : Json.string "7" ∈ idForms 7 := List.mem_cons_of_mem _ List.mem_cons_self
  have hmore : ∀ member ∈ asideMembers, IsAside member := by
    simp [asideMembers, IsAside]
  exact (result_reads_back .schema sharedSchema 7 (some "CreateDHTRecord")).2 _ hform _ hmore

end Response

end ControlStream

import ControlStream.Leaf.Typed
import ControlStream.Proofs.Response.ApiError
import ControlStream.Response.Basic

/-!
# Results and errors of responses

An error in the body of a response comes before its value, whatever the value is and whatever type
it is read as: it is the error of the node, or what is wrong with the text of that error. Only a
body without an error has a result, which is read as its type reads it.
-/

namespace ControlStream

open Json

namespace Response

theorem body_of_read {value : Json} {response : Response} (h : read value = .ok response) :
    response.body = value := by
  simp only [read, Except.bind_eq_ok_iff, Except.pure_eq_ok, Except.ok.injEq] at h
  obtain ⟨_, -, id, -, op, -, rfl⟩ := h
  rfl

variable {response : Response}

section Error

variable {held : Json} (h : response.body.present? "error" = some held)
include h

theorem result_eq_api_iff {error : ApiError} :
    response.result = .error (.api error) ↔ ApiError.read held = .ok error := by
  rw [result, h]
  cases hread : ApiError.read held <;> simp [hread]

theorem result_eq_decode_iff {cause : DecodeError} :
    response.result = .error (.decode cause) ↔ ApiError.read held = .error cause := by
  rw [result, h]
  cases hread : ApiError.read held <;> simp [hread]

theorem exists_result_eq_error : ∃ failure, response.result = .error failure := by
  rw [result, h]
  cases hread : ApiError.read held with
  | error cause => exact ⟨.decode cause, by simp [hread]⟩
  | ok error => exact ⟨.api error, by simp [hread]⟩

end Error

theorem result_of_no_error (h : response.body.present? "error" = none) :
    response.result = .ok ((response.body.get? "value").getD .null) := by
  rw [result, h]
  cases hvalue : response.body.present? "value" with
  | none =>
      rcases present?_eq_none_iff.mp hvalue with hnone | hnull
      · simp [hnone]
      · simp [hnull]
  | some held =>
      obtain ⟨hget, -⟩ := present?_eq_some_iff.mp hvalue
      simp [hget]

section Typed

variable {α : Type} [Wire α]

theorem decodeResult_of_error {failure : ResponseError} (h : response.result = .error failure) :
    response.decodeResult α = .error failure := by
  rw [decodeResult, h]
  rfl

theorem decodeResult_of_ok {value : Json} (h : response.result = .ok value) :
    response.decodeResult α = (Wire.decode α value).mapError .decode := by
  rw [decodeResult, h, Except.ok_bind]
  cases Wire.decode α value with
  | error cause => rfl
  | ok x => rfl

end Typed

/-- An error in the body decides that there is no result, for any type. It is the node's own error,
of the kind that it holds, exactly if it holds the texts of that kind; otherwise it is the first
structural fault of the error. Without an error the result is the value of the body, null if there
is none, and is read as its type reads that value. -/
theorem error_precedes_value {value : Json} {response : Response}
    (h : read value = .ok response) (α : Type) [Wire α] :
    (∀ held, value.get? "error" = some held → held ≠ .null →
      (∃ failure, response.result = .error failure ∧ response.decodeResult α = .error failure) ∧
        (∀ kind, (∃ error, error.kind = kind ∧ response.result = .error (.api error)) ↔
          held.HasField "kind" IsText kind ∧
            ∀ key ∈ ApiError.payloadFields kind, ∃ text, held.HasField key IsText text) ∧
        ∀ cause, response.result = .error (.decode cause) ↔
          ApiError.Fault held cause ∧ cause.isStructural = true) ∧
    (value.get? "error" = none ∨ value.get? "error" = some .null →
      let result := (value.get? "value").getD .null
      response.result = .ok result ∧
        (∀ x, response.decodeResult α = .ok x ↔ Wire.decode α result = .ok x) ∧
        ∀ failure, response.decodeResult α = .error failure ↔
          ∃ cause, failure = .decode cause ∧ Wire.decode α result = .error cause) := by
  obtain rfl := body_of_read h
  constructor
  · intro held hget hne
    have herror := present?_eq_some_iff.mpr ⟨hget, hne⟩
    obtain ⟨failure, hfailure⟩ := exists_result_eq_error herror
    refine ⟨⟨failure, hfailure, decodeResult_of_error hfailure⟩, ?_, ?_⟩
    · intro kind
      simp only [result_eq_api_iff herror, ApiError.exists_read_eq_ok_iff]
    · intro cause
      rw [result_eq_decode_iff herror, ApiError.read_eq_error_iff]
      exact ⟨fun hfault => ⟨hfault, hfault.isStructural⟩, And.left⟩
  · intro habsent result
    have hresult := result_of_no_error (present?_eq_none_iff.mpr habsent)
    have hdecode : response.decodeResult α = (Wire.decode α result).mapError .decode :=
      decodeResult_of_ok hresult
    refine ⟨hresult, ?_, ?_⟩
    · intro x
      rw [hdecode]
      cases Wire.decode α result <;> simp [Except.mapError]
    · intro failure
      rw [hdecode]
      cases Wire.decode α result <;> simp [Except.mapError, eq_comm]

def brokenError : Json := .ofMembers [("kind", .string "KeyNotFound"), ("key", .natural 7)]

/-- A response with that error beside a value that could be read. -/
def brokenRefusal : Json :=
  .ofMembers [("id", .string "3"), ("value", .string "VLD0:abcd"), ("error", brokenError)]

theorem error_precedes_value_of_brokenRefusal :
    read brokenRefusal = .ok ⟨3, none, brokenRefusal⟩ ∧
      result ⟨3, none, brokenRefusal⟩ = .error (.decode (.invalidField "key" .string)) ∧
      ∃ failure, decodeResult TypedKey ⟨3, none, brokenRefusal⟩ = .error failure := by
  have hread : read brokenRefusal = .ok ⟨3, none, brokenRefusal⟩ := rfl
  obtain ⟨⟨failure, -, hfailure⟩, -, hdecode⟩ :=
    (error_precedes_value hread TypedKey).1 brokenError rfl nofun
  have hnumber : FieldFault brokenError ("key", .one, .text) (.invalidField "key" .string) :=
    .held rfl rfl (.shape List.mem_cons_self nofun)
  have hfault : ApiError.Fault brokenError (.invalidField "key" .string) :=
    .field ⟨_, rfl⟩ (.later ⟨_, rfl, rfl⟩ (.here hnumber))
  exact ⟨hread, (hdecode _).mpr ⟨hfault, rfl⟩, failure, hfailure⟩

end Response

end ControlStream

import ControlStream.Proofs.Wire.Blame
import ControlStream.Response.ApiError

/-!
# Kinds of API errors

The kind of an error is the text of its field `kind`, and decides which other texts are read. An
error is read from a value exactly when the value holds its kind and its texts, and a kind that is
known is never kept by its name alone. So an error is written as a part of what it was read from,
and read back from that. A read that fails reports the first of its fields that holds no text.
-/

namespace ControlStream

open Json

namespace ApiError

/-- The fields that are read for a kind, in this order. -/
def payloadFields : String → List String
  | "NoConnection" | "Internal" | "Unimplemented" | "Generic" => ["message"]
  | "KeyNotFound" => ["key"]
  | "ParseError" => ["message", "value"]
  | "InvalidArgument" => ["context", "argument", "value"]
  | "MissingArgument" => ["context", "argument"]
  | _ => []

/-- All texts of an error under their field names, its kind first. -/
def texts (error : ApiError) : List (String × String) := ("kind", error.kind) :: error.payloadTexts

/-- An error that is kept by its name has a name that is not known. -/
def IsProper : ApiError → Prop
  | .unrecognized kind => kind ∉ knownKinds
  | _ => True

/-- An object that holds the texts of an error. -/
structure SpelledBy (value : Json) (error : ApiError) : Prop where
  texts : ∀ text ∈ error.texts, value.HasField text.1 IsText text.2
  proper : error.IsProper

variable {value : Json} {error : ApiError} {kind : String}

theorem isProper_iff : error.IsProper ↔ ¬ ∃ kind ∈ knownKinds, error = .unrecognized kind := by
  cases error with
  | unrecognized kind => simp [IsProper]
  | _ => simp [IsProper]

/-- The names of the kinds are what the errors of these kinds are told apart by. -/
theorem IsProper.unrecognized_iff (h : error.IsProper) :
    (∃ kind, error = .unrecognized kind) ↔ error.kind ∉ knownKinds := by
  cases error with
  | unrecognized kind => exact ⟨fun _ => h, fun _ => ⟨kind, rfl⟩⟩
  | _ => simp [kind, knownKinds]

/-! ## What is read for a kind -/

theorem readPayload_of_unknown (h : kind ∉ knownKinds) :
    readPayload value kind = .ok (.unrecognized kind) := by
  simp only [knownKinds, List.mem_cons, List.not_mem_nil, or_false, not_or] at h
  unfold readPayload
  split
  case h_15 => rfl
  all_goals simp at h

theorem payloadFields_of_unknown (h : kind ∉ knownKinds) : payloadFields kind = [] := by
  simp only [knownKinds, List.mem_cons, List.not_mem_nil, or_false, not_or] at h
  unfold payloadFields
  split
  case h_9 => rfl
  all_goals simp at h

/-- An error that is read is of the kind it is read for, and holds the texts that are found. -/
theorem spelled_of_readPayload (h : readPayload value kind = .ok error) :
    error.kind = kind ∧ error.IsProper ∧
      ∀ text ∈ error.payloadTexts, value.HasField text.1 IsText text.2 := by
  unfold readPayload at h
  split at h
  all_goals
    simp only [Except.bind_eq_ok_iff, requireString_eq_ok_iff, Except.pure_eq_ok,
      Except.ok.injEq] at h
  case h_7 | h_8 | h_9 | h_10 | h_14 =>
    obtain ⟨text, htext, rfl⟩ := h
    exact ⟨rfl, trivial, List.forall_mem_singleton.mpr htext⟩
  case h_11 | h_13 =>
    obtain ⟨first, hfirst, second, hsecond, rfl⟩ := h
    exact ⟨rfl, trivial, List.forall_mem_cons.mpr
      ⟨hfirst, List.forall_mem_singleton.mpr hsecond⟩⟩
  case h_12 =>
    obtain ⟨context, hcontext, argument, hargument, held, hheld, rfl⟩ := h
    exact ⟨rfl, trivial, List.forall_mem_cons.mpr ⟨hcontext, List.forall_mem_cons.mpr
      ⟨hargument, List.forall_mem_singleton.mpr hheld⟩⟩⟩
  case h_15 =>
    -- The name is none of those that were tried before.
    have hunknown : kind ∉ knownKinds := by
      simp only [knownKinds, List.mem_cons, List.not_mem_nil, or_false, not_or]
      and_intros <;> assumption
    subst h
    exact ⟨rfl, hunknown, fun _ => nofun⟩
  all_goals
    subst h
    exact ⟨rfl, trivial, fun _ => nofun⟩

theorem readPayload_of_spelled (hproper : error.IsProper)
    (htexts : ∀ text ∈ error.payloadTexts, value.HasField text.1 IsText text.2) :
    readPayload value error.kind = .ok error := by
  cases error with
  | unrecognized kind => exact readPayload_of_unknown hproper
  | _ =>
      simp only [payloadTexts, List.forall_mem_cons, ← requireString_eq_ok_iff] at htexts
      simp [readPayload, kind, htexts]

theorem read_eq_ok_iff : read value = .ok error ↔ SpelledBy value error := by
  simp only [read, Except.bind_eq_ok_iff, asRecord_eq_ok_iff, requireString_eq_ok_iff]
  constructor
  · rintro ⟨_, -, kind, hkind, h⟩
    obtain ⟨rfl, hproper, htexts⟩ := spelled_of_readPayload h
    exact ⟨List.forall_mem_cons.mpr ⟨hkind, htexts⟩, hproper⟩
  · intro h
    obtain ⟨hkind, htexts⟩ := List.forall_mem_cons.mp h.texts
    obtain ⟨fields, hobject⟩ := hkind.isObject
    exact ⟨fields, hobject, error.kind, hkind, readPayload_of_spelled h.proper htexts⟩

/-! ## Written errors -/

theorem nodup_texts (error : ApiError) : (error.texts.map (·.1)).Nodup := by
  cases error <;> simp [texts, payloadTexts]

theorem hasField_write (error : ApiError) :
    ∀ text ∈ error.texts, (write error).HasField text.1 IsText text.2 := by
  have hkeys : ((error.texts.map fun text => (text.1, Json.string text.2)).map (·.1)).Nodup := by
    rw [List.map_map]
    exact error.nodup_texts
  intro text hmem
  have hget := (carries_iff.mp (carries_ofMembers hkeys)).2 _ (List.mem_map_of_mem hmem)
  exact ⟨_, hget, rfl⟩

theorem mem_texts_of_get?_write {key : String} {held : Json}
    (h : (write error).get? key = some held) :
    ∃ text, (key, text) ∈ error.texts ∧ held = .string text := by
  obtain ⟨⟨key, text⟩, hmem, heq⟩ := List.mem_map.mp (mem_of_get?_ofMembers h)
  cases heq
  exact ⟨text, hmem, rfl⟩

theorem read_write_iff : read (write error) = .ok error ↔ error.IsProper := by
  rw [read_eq_ok_iff]
  exact ⟨SpelledBy.proper, fun hproper => ⟨error.hasField_write, hproper⟩⟩

/-- An error is read back from what it is written as, unless a known kind is kept by its name
alone. An error that was read never is so: its kind is the text of the field `kind`, it is kept by
its name only if the name is unknown, and it is written as members of what it was read from. -/
theorem kind_decides_error :
    (∀ error : ApiError, read (write error) = .ok error ↔
      ¬ ∃ kind ∈ knownKinds, error = .unrecognized kind) ∧
    ∀ (value : Json) (error : ApiError), read value = .ok error →
      value.get? "kind" = some (.string error.kind) ∧
        ((∃ kind, error = .unrecognized kind) ↔ error.kind ∉ knownKinds) ∧
        (∀ key held, (write error).get? key = some held → value.get? key = some held) ∧
        read (write error) = .ok error := by
  refine ⟨fun error => read_write_iff.trans isProper_iff, ?_⟩
  intro value error h
  obtain ⟨htexts, hproper⟩ := read_eq_ok_iff.mp h
  have hget : ∀ text ∈ error.texts, value.get? text.1 = some (.string text.2) := by
    intro text hmem
    obtain ⟨_, hheld, rfl⟩ := htexts text hmem
    exact hheld
  refine ⟨hget _ List.mem_cons_self, hproper.unrecognized_iff, ?_, read_write_iff.mpr hproper⟩
  intro key held hwritten
  obtain ⟨text, hmem, rfl⟩ := mem_texts_of_get?_write hwritten
  exact hget _ hmem

def parseReport : Json :=
  .ofMembers [("kind", .string "ParseError"), ("message", .string "no tag"),
    ("value", .string "abcd"), ("id", .natural 4)]

theorem kind_decides_error_of_parseReport :
    read parseReport = .ok (.parseError "no tag" "abcd") ∧
      read (write (.parseError "no tag" "abcd")) = .ok (.parseError "no tag" "abcd") ∧
      (parseError "no tag" "abcd").kind ∈ knownKinds := by
  have hread : read parseReport = .ok (.parseError "no tag" "abcd") := rfl
  obtain ⟨-, hunknown, -, hback⟩ := kind_decides_error.2 _ _ hread
  refine ⟨hread, hback, ?_⟩
  by_contra hnot
  obtain ⟨kind, hkind⟩ := hunknown.mpr hnot
  cases hkind

/-! ## Failed reads -/

/-- The fields of a value that are looked at. -/
def fieldsRead (value : Json) : List String :=
  match value.get? "kind" with
  | some (.string kind) => "kind" :: payloadFields kind
  | _ => ["kind"]

def textTable (keys : List String) : Grammar.Table := keys.map fun key => (key, .one, .text)

theorem readPayload_failsAs (value : Json) (kind : String) :
    FailsAs (readPayload value kind)
      (Grammar.checkFields (textTable (payloadFields kind)) value) := by
  have hread := requireString_failsAs value
  unfold readPayload
  split
  case h_7 | h_9 | h_10 | h_14 => exact (hread "message").bind fun _ => rfl
  case h_8 => exact (hread "key").bind fun _ => rfl
  case h_11 => exact (hread "message").bind fun _ => (hread "value").bind fun _ => rfl
  case h_12 =>
    exact (hread "context").bind fun _ => (hread "argument").bind fun _ =>
      (hread "value").bind fun _ => rfl
  case h_13 => exact (hread "context").bind fun _ => (hread "argument").bind fun _ => rfl
  case h_15 =>
    have hunknown : kind ∉ knownKinds := by
      simp only [knownKinds, List.mem_cons, List.not_mem_nil, or_false, not_or]
      and_intros <;> assumption
    rw [payloadFields_of_unknown hunknown]
    rfl
  all_goals rfl

theorem fieldsRead_of_hasField (h : value.HasField "kind" IsText kind) :
    fieldsRead value = "kind" :: payloadFields kind := by
  obtain ⟨_, hheld, rfl⟩ := h
  rw [fieldsRead, hheld]

theorem fieldsRead_of_not_hasField (h : ∀ kind, ¬ value.HasField "kind" IsText kind) :
    fieldsRead value = ["kind"] := by
  unfold fieldsRead
  split
  · next kind hheld => exact absurd ⟨_, hheld, rfl⟩ (h kind)
  · rfl

/-- The fields that are looked at depend on the kind, but given these a read is a check of them. -/
theorem failsAs (key : String) (value : Json) :
    FailsAs (read value)
      ((Grammar.record "api error" (textTable (fieldsRead value))).check key value) := by
  refine record_failsAs fun fields => ?_
  have hcheck : verdict (value.requireString "kind") = _ := requireString_failsAs value "kind"
  cases hkind : value.requireString "kind" with
  | error cause =>
      have hnone : ∀ kind, ¬ value.HasField "kind" IsText kind := by
        intro kind hfield
        rw [requireString_eq_ok_iff.mpr hfield] at hkind
        cases hkind
      rw [hkind] at hcheck
      rw [fieldsRead_of_not_hasField hnone, textTable, List.map_cons, Grammar.checkFields_cons,
        ← hcheck]
      rfl
  | ok kind =>
      rw [hkind] at hcheck
      rw [fieldsRead_of_hasField (requireString_eq_ok_iff.mp hkind), textTable, List.map_cons,
        Grammar.checkFields_cons, ← hcheck]
      exact readPayload_failsAs value kind

/-- The first of some fields that holds no text, with what is wrong there. -/
inductive FirstFault (value : Json) : List String → DecodeError → Prop where
  | here {key : String} {rest : List String} {cause : DecodeError}
      (hfault : FieldFault value (key, .one, .text) cause) : FirstFault value (key :: rest) cause
  | later {key text : String} {rest : List String} {cause : DecodeError}
      (hfield : value.HasField key IsText text) (hrest : FirstFault value rest cause) :
      FirstFault value (key :: rest) cause

/-- What is wrong with a value that is no error. -/
inductive Fault (value : Json) : DecodeError → Prop where
  | object (hnot : ¬ value.IsObject) : Fault value (.expectedObject "api error")
  | field {cause : DecodeError} (hobject : value.IsObject)
      (hfirst : FirstFault value (fieldsRead value) cause) : Fault value cause

theorem checkFields_textTable_eq_error_iff {keys : List String} {cause : DecodeError} :
    Grammar.checkFields (textTable keys) value = .error cause ↔ FirstFault value keys cause := by
  induction keys with
  | nil =>
      constructor
      · intro h
        cases h
      · intro h
        cases h
  | cons key rest ih =>
      have hcheck : verdict (value.requireString key) = _ := requireString_failsAs value key
      rw [textTable, List.map_cons, Grammar.checkFields_cons, ← hcheck]
      cases hread : value.requireString key with
      | error found =>
          have hfound := requireString_eq_error_iff.mp hread
          change Except.error found = .error cause ↔ _
          constructor
          · intro h
            cases h
            exact .here hfound
          · intro h
            cases h with
            | here hfault =>
                have hcause := requireString_eq_error_iff.mpr hfault
                rw [hread, Except.error.injEq] at hcause
                rw [hcause]
            | later hfield hrest =>
                rw [requireString_eq_ok_iff.mpr hfield] at hread
                cases hread
      | ok text =>
          have hfield := requireString_eq_ok_iff.mp hread
          change Grammar.checkFields (textTable rest) value = .error cause ↔ _
          rw [ih]
          constructor
          · exact .later hfield
          · intro h
            cases h with
            | here hfault =>
                rw [requireString_eq_error_iff.mpr hfault] at hread
                cases hread
            | later _ hrest => exact hrest

theorem read_eq_error_iff {cause : DecodeError} :
    read value = .error cause ↔ Fault value cause := by
  rw [(failsAs "error" value).error_iff, Grammar.check_record]
  cases hobject : value.asRecord "api error" with
  | error found =>
      obtain ⟨hnot, rfl⟩ := asRecord_eq_error hobject
      constructor
      · intro h
        cases h
        exact .object hnot
      · intro h
        cases h with
        | object => rfl
        | field hvalue => exact absurd hvalue hnot
  | ok fields =>
      have hvalue : value.IsObject := ⟨fields, asRecord_eq_ok_iff.mp hobject⟩
      rw [Except.ok_bind, checkFields_textTable_eq_error_iff]
      constructor
      · exact .field hvalue
      · intro h
        cases h with
        | object hnot => exact absurd hvalue hnot
        | field _ hfirst => exact hfirst

theorem FirstFault.exists_mem {keys : List String} {cause : DecodeError}
    (h : FirstFault value keys cause) :
    ∃ key ∈ keys, ∀ text, ¬ value.HasField key IsText text := by
  induction h with
  | here hfault =>
      refine ⟨_, List.mem_cons_self, fun text hfield => ?_⟩
      have herror := requireString_eq_error_iff.mpr hfault
      rw [requireString_eq_ok_iff.mpr hfield] at herror
      cases herror
  | later _ _ ih =>
      obtain ⟨key, hmem, hnone⟩ := ih
      exact ⟨key, List.mem_cons_of_mem _ hmem, hnone⟩

theorem FirstFault.isStructural {keys : List String} {cause : DecodeError}
    (h : FirstFault value keys cause) : cause.isStructural = true := by
  induction h with
  | here hfault =>
      cases hfault with
      | missing => rfl
      | held _ _ hpart =>
          cases hpart with
          | shape => rfl
  | later _ _ ih => exact ih

theorem Fault.isStructural {cause : DecodeError} (h : Fault value cause) :
    cause.isStructural = true := by
  cases h with
  | object => rfl
  | field _ hfirst => exact hfirst.isStructural

theorem IsProper.map_fst_payloadTexts (h : error.IsProper) :
    error.payloadTexts.map (·.1) = payloadFields error.kind := by
  cases error with
  | unrecognized kind => exact (payloadFields_of_unknown h).symm
  | _ => rfl

/-- An error of a kind is read exactly from the objects of that kind that hold all its texts. -/
theorem exists_read_eq_ok_iff :
    (∃ error, error.kind = kind ∧ read value = .ok error) ↔
      value.HasField "kind" IsText kind ∧
        ∀ key ∈ payloadFields kind, ∃ text, value.HasField key IsText text := by
  constructor
  · rintro ⟨error, rfl, h⟩
    obtain ⟨htexts, hproper⟩ := read_eq_ok_iff.mp h
    obtain ⟨hkind, hpayload⟩ := List.forall_mem_cons.mp htexts
    refine ⟨hkind, fun key hmem => ?_⟩
    rw [← hproper.map_fst_payloadTexts] at hmem
    obtain ⟨text, htext, rfl⟩ := List.mem_map.mp hmem
    exact ⟨text.2, hpayload text htext⟩
  · rintro ⟨hkind, hpayload⟩
    cases hread : read value with
    | error cause =>
        cases read_eq_error_iff.mp hread with
        | object hnot => exact absurd hkind.isObject hnot
        | field _ hfirst =>
            obtain ⟨key, hmem, hnone⟩ := hfirst.exists_mem
            rw [fieldsRead_of_hasField hkind] at hmem
            rcases List.mem_cons.mp hmem with rfl | hmem
            · exact absurd hkind (hnone kind)
            · obtain ⟨text, htext⟩ := hpayload key hmem
              exact absurd htext (hnone text)
    | ok error =>
        obtain ⟨htexts, -⟩ := read_eq_ok_iff.mp hread
        have hfound := requireString_eq_ok_iff.mpr (htexts _ List.mem_cons_self)
        rw [requireString_eq_ok_iff.mpr hkind, Except.ok.injEq] at hfound
        exact ⟨error, hfound.symm, rfl⟩

end ApiError

end ControlStream

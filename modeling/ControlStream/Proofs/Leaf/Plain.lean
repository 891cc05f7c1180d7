import ControlStream.Proofs.Wire.Leaf

/-!
# Leaves in their plain form

A leaf is read from a field, from no field, and from its plain form. The three readings accept the
same values with the same result, except that no plain scalar is a string, and a failure tells the
same cause whatever field it names. Both written forms of a leaf are read back.
-/

namespace ControlStream

theorem Except.toOption_eq_some_iff {ε α : Type} {x : Except ε α} {y : α} :
    x.toOption = some y ↔ x = .ok y := by
  cases x <;> simp [Except.toOption]

def DecodeError.inField (field : String) : DecodeError → DecodeError
  | .missingField _ => .missingField field
  | .invalidField _ expected => .invalidField field expected
  | .unknownVariant _ value => .unknownVariant field value
  | cause => cause

/-- A leaf that is read alike from a field, from no field and from its plain form; the plain reading
alone refuses what is `apart`. -/
structure ReadsAlike (α : Type) [Wire α] [Plain α] (apart : Json → Prop) : Prop where
  read_eq : ∀ (field : String) (value : Json),
    Wire.read field value = (Wire.decode α value).mapError (·.inField field)
  ofPlain?_iff : ∀ {value : Json} {x : α},
    Plain.ofPlain? value = some x ↔ Wire.decode α value = .ok x ∧ ¬ apart value
  decode_toPlain : ∀ x : α, Wire.decode α (Plain.toPlain x) = .ok x
  decode_write : ∀ x : α, Wire.decode α (Wire.write x) = .ok x

/-! ## Texts -/

/-- A leaf whose text is parsed apart from the field that holds it. -/
theorem ReadsAlike.of_parse {α : Type} [Wire α] [LawfulWire α] [Plain α]
    (parse : String → Except DecodeError α)
    (hread : ∀ (field : String) (value : Json),
      Wire.read field value = value.asString field >>= parse)
    (hplain : ∀ value : Json,
      Plain.ofPlain? value = value.string?.bind fun text => (parse text).toOption)
    (hparse : ∀ {text : String} {cause : DecodeError}, parse text = .error cause →
      ∀ field, cause.inField field = cause)
    (hwrite : ∀ x : α, Plain.toPlain x = Wire.write x) : ReadsAlike α fun _ => False where
  read_eq field value := by
    rw [Wire.decode, hread, hread]
    cases value with
    | string text =>
        change parse text = (parse text).mapError _
        cases htext : parse text with
        | error cause => exact congrArg Except.error (hparse htext field).symm
        | ok x => rfl
    | _ => rfl
  ofPlain?_iff {value x} := by
    rw [hplain, Wire.decode, hread, not_false_eq_true, and_true]
    cases value with
    | string text => exact Except.toOption_eq_some_iff
    | _ => simp [Json.string?, Json.asString, bind, Except.bind]
  decode_toPlain x := by
    rw [hwrite]
    exact LawfulWire.read_write _ x
  decode_write x := LawfulWire.read_write _ x

/-- A leaf that is kept as its text, which is not parsed at all. -/
theorem ReadsAlike.of_text {α : Type} [Wire α] [LawfulWire α] [Plain α] (wrap : String → α)
    (hread : ∀ (field : String) (value : Json),
      Wire.read field value = (value.asString field).map wrap)
    (hplain : ∀ value : Json, Plain.ofPlain? value = value.string?.map wrap)
    (hwrite : ∀ x : α, Plain.toPlain x = Wire.write x) : ReadsAlike α fun _ => False := by
  refine .of_parse (fun text => .ok (wrap text)) (fun field value => ?_) (fun value => ?_) nofun
    hwrite
  · rw [hread]
    cases value <;> rfl
  · rw [hplain]
    cases value <;> rfl

theorem Opaque.readsAlike (role : OpaqueRole) : ReadsAlike (Opaque role) fun _ => False :=
  .of_text Opaque.mk (fun _ _ => rfl) (fun _ => rfl) fun _ => rfl

theorem KeyPair.readsAlike : ReadsAlike KeyPair fun _ => False :=
  .of_text KeyPair.mk (fun _ _ => rfl) (fun _ => rfl) fun _ => rfl

theorem Typed.readsAlike {α : Type} [Payload α] : ReadsAlike (Typed α) fun _ => False :=
  .of_text Typed.mk (fun _ _ => rfl) (fun _ => rfl) fun _ => rfl

theorem CryptoKind.readsAlike : ReadsAlike CryptoKind fun _ => False := by
  refine .of_parse ofTag (fun _ _ => rfl) (fun _ => rfl) ?_ fun _ => rfl
  intro text cause h field
  unfold ofTag at h
  split at h
  · cases h
  · cases h
    rfl

/-! ## Numbers -/

theorem Json.asNarrow_eq_mapError (width : Nat) (tooWide : Shape) (field other : String)
    (value : Json) :
    value.asNarrow width tooWide field =
      (value.asNarrow width tooWide other).mapError (·.inField field) := by
  unfold asNarrow asUnsigned
  cases value.unsigned? with
  | none => rfl
  | some word =>
      simp only [Except.ok_bind]
      cases narrow? width word <;> rfl

/-- Numbers are read from the plain form as from a field, and no text is. -/
theorem Scalar.ofPlain?_eq {role : ScalarRole} {value : Json} (h : ∀ text, value ≠ .string text) :
    Plain.ofPlain? value = (Wire.decode (Scalar role) value).toOption := by
  cases value with
  | string text => exact absurd rfl (h text)
  | number number =>
      cases number with
      | natural word =>
          change (narrow? role.width word).map Scalar.mk =
            ((Json.asNarrow role.width role.tooWide role.name
              (.number (.natural word))).map Scalar.mk).toOption
          simp only [Json.asNarrow, Json.asUnsigned, Json.unsigned?, Except.ok_bind]
          cases narrow? role.width word <;> rfl
      | _ => rfl
  | _ => rfl

theorem Scalar.readsAlike (role : ScalarRole) :
    ReadsAlike (Scalar role) fun value => ∃ text, value = .string text where
  read_eq field value := by
    change (value.asNarrow role.width role.tooWide field).map Scalar.mk =
      ((value.asNarrow role.width role.tooWide role.name).map Scalar.mk).mapError _
    rw [value.asNarrow_eq_mapError role.width role.tooWide field role.name]
    cases value.asNarrow role.width role.tooWide role.name <;> rfl
  ofPlain?_iff {value scalar} := by
    by_cases htext : ∃ text, value = .string text
    · obtain ⟨text, rfl⟩ := htext
      have hnone : Plain.ofPlain? (.string text) = (none : Option (Scalar role)) := rfl
      simp [hnone]
    · rw [ofPlain?_eq (not_exists.mp htext), and_iff_left htext, Except.toOption_eq_some_iff]
  decode_toPlain scalar := read_of_unsigned? _ rfl
  decode_write scalar := LawfulWire.read_write _ scalar

/-! ## Every leaf -/

/-- Whatever the leaf, reading it from a field, from no field and from its plain form comes to the
same, with the same cause where it fails, and both forms that it is written in are read back. Only
a scalar is read from a string where no plain scalar is. -/
theorem leaves_readAlike :
    (∀ role, ReadsAlike (Opaque role) fun _ => False) ∧
      ReadsAlike KeyPair (fun _ => False) ∧
      ReadsAlike TypedKey (fun _ => False) ∧
      ReadsAlike TypedSecret (fun _ => False) ∧
      ReadsAlike TypedSignature (fun _ => False) ∧
      ReadsAlike TypedKeyPair (fun _ => False) ∧
      ReadsAlike CryptoKind (fun _ => False) ∧
      ∀ role, ReadsAlike (Scalar role) fun value => ∃ text, value = .string text :=
  ⟨Opaque.readsAlike, KeyPair.readsAlike, Typed.readsAlike, Typed.readsAlike, Typed.readsAlike,
    Typed.readsAlike, CryptoKind.readsAlike, Scalar.readsAlike⟩

end ControlStream

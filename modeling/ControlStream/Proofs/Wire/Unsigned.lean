import ControlStream.Proofs.Wire.Spelling

/-!
# Unsigned fields

A field is read as a number of 16, 32 or 64 bits exactly when it holds a spelling of one. Nothing
wraps round: a number that is too large, like a value that spells none, is refused under the name
of the field. A record's own numbers of 32 bits and the scalars of that width are refused in
different words, but they accept the same.
-/

namespace ControlStream

namespace Json

/-- What is said to be wanted in place of a value that spells no number of so many bits. A number of
64 bits is only too wide; anything else is no unsigned integer at all. -/
inductive RefusedAs (width : Nat) (tooWide : Shape) (value : Json) : Shape → Prop where
  | wide (n : Nat) (hspells : value.IsNumber n) (hwide : Nat.pow 2 width ≤ n)
      (hword : n < Nat.pow 2 64) : RefusedAs width tooWide value tooWide
  | noWord (h : ∀ n, value.IsNumber n → Nat.pow 2 64 ≤ n) : RefusedAs width tooWide value .unsigned

/-- A read of a field as a number of so many bits. Of the values that a field can hold it takes the
spellings of the numbers below `2 ^ width`, each for its number, and refuses all others under the
name of the field. -/
structure ReadsUnsigned {α : Type} (width : Nat) (tooWide : Shape) (toNat : α → Nat)
    (read : Json → String → Except DecodeError α) : Prop where
  accepts_iff : ∀ {value held : Json} {field : String}, value.get? field = some held →
    held ≠ .null → ∀ n, (∃ x, read value field = .ok x ∧ toNat x = n) ↔
      held.IsNumber n ∧ n < Nat.pow 2 width
  refuses : ∀ {value held : Json} {field : String}, value.get? field = some held →
    held ≠ .null → (∀ n, held.IsNumber n → Nat.pow 2 width ≤ n) →
      ∃ expected, held.RefusedAs width tooWide expected ∧
        read value field = .error (.invalidField field expected)

variable {width : Nat} {tooWide : Shape} {value : Json} {field : String}

/-! ## Narrow numbers -/

theorem exists_refusedAs (h : ∀ n, value.IsNumber n → Nat.pow 2 width ≤ n) :
    ∃ expected, value.RefusedAs width tooWide expected ∧
      value.asNarrow width tooWide field = .error (.invalidField field expected) := by
  cases hword : value.unsigned? with
  | none =>
      refine ⟨.unsigned, .noWord fun n hspells => Nat.le_of_not_lt fun hlt => ?_, ?_⟩
      · have htoNat : (BitVec.ofNat 64 n).toNat = n := Nat.mod_eq_of_lt hlt
        rw [← htoNat, ← unsigned?_eq_some_iff, hword] at hspells
        cases hspells
      · simp only [asNarrow, asUnsigned, hword]
        rfl
  | some word =>
      have hspells := unsigned?_eq_some_iff.mp hword
      have hwide := h word.toNat hspells
      have hnarrow : narrow? width word = none := if_neg (Nat.not_lt.mpr hwide)
      refine ⟨tooWide, .wide word.toNat hspells hwide word.isLt, ?_⟩
      simp only [asNarrow, asUnsigned, hword, Except.ok_bind, hnarrow]

/-- Every read that narrows the number of its field is one of so many bits, whatever wraps the
narrowed number. -/
theorem ReadsUnsigned.of_asNarrow {α : Type} (wrap : BitVec width → α) {toNat : α → Nat}
    {read : Json → String → Except DecodeError α} (hwidth : width ≤ 64)
    (hread : ∀ {value held : Json} {field : String}, value.require field = .ok held →
      read value field = (held.asNarrow width tooWide field).map wrap)
    (hwrap : ∀ word, toNat (wrap word) = word.toNat) :
    ReadsUnsigned width tooWide toNat read where
  accepts_iff {value held field} hheld hnull n := by
    rw [hread (require_eq_ok_iff.mpr ⟨hheld, hnull⟩)]
    simp only [Except.map_eq_ok_iff, (exact_asNarrow hwidth tooWide field).ok_iff, IsUnsigned]
    constructor
    · rintro ⟨_, ⟨word, hspells, rfl⟩, rfl⟩
      rw [hwrap]
      exact ⟨hspells, word.isLt⟩
    · rintro ⟨hspells, hlt⟩
      have hword : (BitVec.ofNat width n).toNat = n := Nat.mod_eq_of_lt hlt
      exact ⟨_, ⟨BitVec.ofNat width n, by rwa [hword], rfl⟩, by rw [hwrap, hword]⟩
  refuses {value held field} hheld hnull h := by
    obtain ⟨expected, hrefused, herror⟩ := exists_refusedAs h
    refine ⟨expected, hrefused, ?_⟩
    rw [hread (require_eq_ok_iff.mpr ⟨hheld, hnull⟩), herror]
    rfl

/-- A number of 64 bits needs no narrowing. -/
theorem asNarrow_word : value.asNarrow 64 tooWide field = value.asUnsigned field := by
  unfold asNarrow
  cases value.asUnsigned field with
  | error cause => rfl
  | ok word =>
      have hword := narrow?_setWidth (Nat.le_refl 64) word
      rw [BitVec.setWidth_eq] at hword
      rw [Except.ok_bind, hword]

/-! ## The reads of numbers -/

theorem requireUnsigned16_reads :
    ReadsUnsigned 16 .bits16 BitVec.toNat requireUnsigned16 := by
  refine .of_asNarrow id (by decide) (fun hheld => ?_) fun _ => rfl
  rw [requireUnsigned16, hheld, Except.map_id]
  rfl

theorem requireUnsigned32_reads :
    ReadsUnsigned 32 .bits32 BitVec.toNat requireUnsigned32 := by
  refine .of_asNarrow id (by decide) (fun hheld => ?_) fun _ => rfl
  rw [requireUnsigned32, hheld, Except.map_id]
  rfl

theorem requireUnsigned64_reads :
    ReadsUnsigned 64 .unsigned BitVec.toNat requireUnsigned64 := by
  refine .of_asNarrow id (Nat.le_refl 64) (fun hheld => ?_) fun _ => rfl
  rw [requireUnsigned64, hheld, Except.map_id, asNarrow_word]
  rfl

theorem requireScalar_reads (role : ScalarRole) :
    ReadsUnsigned role.width role.tooWide (@Scalar.toNat role) requireField := by
  refine .of_asNarrow Scalar.mk (Scalar.width_le role) (fun hheld => ?_) fun _ => rfl
  rw [requireField, hheld]
  rfl

/-- The reads of a record's own numbers, those of scalars, and what scalars are written as: a field
of any of them is read as a number of its width, so it takes the integers and the digit strings of
that width and nothing else. The two ways to 32 bits accept the same values with the same number,
and every scalar is read back from what it is written as, an operation id from a digit string. -/
theorem unsigned_fields_exact :
    ReadsUnsigned 16 .bits16 BitVec.toNat requireUnsigned16 ∧
      ReadsUnsigned 32 .bits32 BitVec.toNat requireUnsigned32 ∧
      ReadsUnsigned 64 .unsigned BitVec.toNat requireUnsigned64 ∧
      (∀ role : ScalarRole, (role.width = 32 ∨ role.width = 64) ∧
        ReadsUnsigned role.width role.tooWide (@Scalar.toNat role) requireField) ∧
      (∀ (value : Json) (field : String) (n : BitVec 32),
        (value.requireUnsigned32 field = .ok n ↔
            value.requireField field = .ok (⟨n⟩ : ValueSubkey)) ∧
          (value.requireUnsigned32 field = .ok n ↔
            value.requireField field = .ok (⟨n⟩ : ValueSeqNum))) ∧
      (∀ (role : ScalarRole) (scalar : Scalar role),
        Wire.decode (Scalar role) (Wire.write scalar) = .ok scalar ∧
          ∀ field, Wire.read field (Wire.write scalar) = .ok scalar) ∧
      ∀ id : OperationId, Wire.write id = .string (toString id.toNat) := by
  refine ⟨requireUnsigned16_reads, requireUnsigned32_reads, requireUnsigned64_reads, ?scalars,
    ?narrow, ?written, fun _ => rfl⟩
  case scalars =>
    intro role
    have hwidth : role.width = 32 ∨ role.width = 64 := by cases role <;> decide
    exact ⟨hwidth, requireScalar_reads role⟩
  case narrow =>
    intro value field n
    have hrecord : value.requireUnsigned32 field = .ok n ↔ _ := requireUnsigned32_eq_ok_iff
    exact ⟨hrecord.trans (requireField_eq_ok_iff (Scalar.exact_read field)).symm,
      hrecord.trans (requireField_eq_ok_iff (Scalar.exact_read field)).symm⟩
  case written =>
    intro role scalar
    exact ⟨LawfulWire.read_write _ scalar, fun field => LawfulWire.read_write field scalar⟩

/-- Leading zeros and a sign do not make a number wider. -/
example : (ofMembers [("count", .string "+0065535")]).requireUnsigned16 "count" = .ok 65535 ∧
    (ofMembers [("count", .string "65536")]).requireUnsigned16 "count" =
      .error (.invalidField "count" .bits16) ∧
    (ofMembers [("count", .string "+18446744073709551616")]).requireUnsigned16 "count" =
      .error (.invalidField "count" .unsigned) ∧
    (ofMembers [("count", .string "++1")]).requireUnsigned16 "count" =
      .error (.invalidField "count" .unsigned) :=
  ⟨rfl, rfl, rfl, rfl⟩

end Json

end ControlStream

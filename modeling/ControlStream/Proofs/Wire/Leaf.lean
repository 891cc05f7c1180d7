import ControlStream.Leaf.Scalar
import ControlStream.Leaf.Typed
import ControlStream.Proofs.Text.Decimal
import ControlStream.Proofs.Wire.Carries

/-!
# Leaves are read back

Texts are kept as they are, a crypto kind is known by its tag, and a scalar is read back from the
number or, for an operation id, from the decimal text that it is written as.
-/

namespace ControlStream

instance {role : OpaqueRole} : LawfulWire (Opaque role) where
  read_write _ _ := rfl
  isNull_write _ := rfl

instance : LawfulWire KeyPair where
  read_write _ _ := rfl
  isNull_write _ := rfl

instance {α : Type} [Payload α] : LawfulWire (Typed α) where
  read_write _ _ := rfl
  isNull_write _ := rfl

instance : LawfulWire CryptoKind where
  read_write _ kind := CryptoKind.ofTag_tag kind
  isNull_write _ := rfl

/-! ## Decimal texts -/

/-- No decimal text begins with a sign. -/
theorem unsignedDigits_toString (n : Nat) : unsignedDigits (toString n) = Nat.toDigits 10 n := by
  unfold unsignedDigits
  rw [Text.toList_toString]
  split
  · next rest hsign =>
      have hmem : '+' ∈ Nat.toDigits 10 n := hsign ▸ List.mem_cons_self
      have hdigit := Text.isDigit_of_mem_toDigits hmem
      exact absurd hdigit (by decide)
  · rfl

theorem unsignedOfText?_toString (n : BitVec 64) :
    unsignedOfText? (toString n.toNat) = some n := by
  have hne : Nat.toDigits 10 n.toNat ≠ [] := Nat.toDigits_ne_nil
  have hall : (Nat.toDigits 10 n.toNat).all Char.isDigit = true :=
    List.all_eq_true.mpr fun _ => Text.isDigit_of_mem_toDigits
  have hlt : n.toNat < Nat.pow 2 64 := n.isLt
  rw [unsignedOfText?, unsignedDigits_toString, Nat.ofDigitChars_ten_toDigits]
  simp only [hne, hall, hlt, ne_eq, not_false_eq_true, and_self, if_true, BitVec.ofNat_toNat,
    BitVec.setWidth_eq]

namespace Scalar

variable {role : ScalarRole}

theorem width_le (role : ScalarRole) : role.width ≤ 64 := by
  cases role <;> decide

/-- A scalar is read from whatever stands for its number. -/
theorem read_of_unsigned? {value : Json} {scalar : Scalar role} (field : String)
    (h : value.unsigned? = some (scalar.value.setWidth 64)) :
    Wire.read field value = .ok scalar := by
  show (value.asNarrow role.width role.tooWide field).map Scalar.mk = .ok scalar
  rw [Json.asNarrow_of_unsigned? (width_le role) _ h]
  rfl

theorem unsigned?_text (scalar : Scalar role) :
    Json.unsigned? (.string scalar.text) = some (scalar.value.setWidth 64) := by
  have h := unsignedOfText?_toString (scalar.value.setWidth 64)
  rwa [BitVec.toNat_setWidth_of_le (width_le role)] at h

instance : LawfulWire (Scalar role) where
  read_write field scalar := by
    cases role with
    | operationId => exact read_of_unsigned? field scalar.unsigned?_text
    | _ => exact read_of_unsigned? field rfl
  isNull_write scalar := by
    cases role <;> rfl

end Scalar

end ControlStream

import ControlStream.Bytes.Utf8
import Mathlib.Data.List.Basic

/-!
# Encoded text is decoded

The machine takes the bytes of one character after another: a first byte that says how many are
owed, and the others with six bits of the code point each. Over the encoding of a text it meets no
fault and reads the text.
-/

namespace ControlStream

namespace Utf8

variable {index : Nat} {done : List Char} {rest : List UInt8}

/-! ## One byte -/

theorem toNat_ofNat_of_lt {n : Nat} (h : n < 0x100) : (UInt8.ofNat n).toNat = n := by
  rw [UInt8.toNat_ofNat']
  exact Nat.mod_eq_of_lt h

theorem decodeFrom_single {n : Nat} (h : n < 0x80) :
    decodeFrom index done none (.ofNat n :: rest) =
      decodeFrom (index + 1) (Char.ofNat n :: done) none rest := by
  rw [decodeFrom, toNat_ofNat_of_lt (by omega), if_pos h]

theorem decodeFrom_lead {n : Nat} {pending : Pending} (hlow : 0x80 ≤ n) (hhigh : n < 0x100)
    (h : lead? n = some pending) :
    decodeFrom index done none (.ofNat n :: rest) =
      decodeFrom index done (some pending) rest := by
  rw [decodeFrom, toNat_ofNat_of_lt hhigh, if_neg (by omega), h]

section Tail

variable {code seen owed low high bits : Nat}

theorem decodeFrom_more (hbits : bits < 64) (hlow : low ≤ bits + 0x80)
    (hhigh : bits + 0x80 ≤ high) :
    decodeFrom index done (some ⟨code, seen, owed + 2, low, high⟩)
        (.ofNat (bits + 0x80) :: rest) =
      decodeFrom index done (some ⟨code * 64 + bits, seen + 1, owed + 1, 0x80, 0xBF⟩) rest := by
  rw [decodeFrom, toNat_ofNat_of_lt (by omega), if_pos ⟨hlow, hhigh⟩, Pending.take,
    if_neg (by simp), Nat.add_sub_cancel]
  rfl

theorem decodeFrom_last (hbits : bits < 64) (hlow : low ≤ bits + 0x80)
    (hhigh : bits + 0x80 ≤ high) :
    decodeFrom index done (some ⟨code, seen, 1, low, high⟩) (.ofNat (bits + 0x80) :: rest) =
      decodeFrom (index + seen + 1) (Char.ofNat (code * 64 + bits) :: done) none rest := by
  rw [decodeFrom, toNat_ofNat_of_lt (by omega), if_pos ⟨hlow, hhigh⟩, Pending.take,
    if_pos (Nat.le_refl _), Nat.add_sub_cancel]

end Tail

/-! ## First bytes -/

section Lead

variable {v : Nat}

theorem lead?_two (hlow : 0x7F < v) (hhigh : v ≤ 0x7FF) :
    lead? (v / 64 + 0xC0) = some ⟨v / 64, 1, 1, 0x80, 0xBF⟩ := by
  unfold lead?
  rw [if_neg (by omega), if_pos (by omega), Nat.add_sub_cancel]

/-- The bounds on the second byte keep out what fewer bytes could hold, and surrogates. -/
theorem lead?_three (hlow : 0x7FF < v) (hhigh : v ≤ 0xFFFF)
    (hscalar : v < 0xD800 ∨ 0xDFFF < v) :
    ∃ low high, lead? (v / 4096 + 0xE0) = some ⟨v / 4096, 1, 2, low, high⟩ ∧
      low ≤ v / 64 % 64 + 0x80 ∧ v / 64 % 64 + 0x80 ≤ high := by
  unfold lead?
  rw [if_neg (by omega), if_neg (by omega)]
  by_cases hzero : v / 4096 = 0
  · rw [hzero]
    exact ⟨0xA0, 0xBF, rfl, by omega, by omega⟩
  · rw [if_neg (by omega)]
    by_cases hlast : v / 4096 = 0xD
    · rw [hlast]
      exact ⟨0x80, 0x9F, rfl, by omega, by omega⟩
    · rw [if_neg (by omega), if_pos (by omega), Nat.add_sub_cancel]
      exact ⟨0x80, 0xBF, rfl, by omega, by omega⟩

/-- The bounds on the second byte keep out what fewer bytes could hold, and what is no code
point. -/
theorem lead?_four (hlow : 0xFFFF < v) (hhigh : v ≤ 0x10FFFF) :
    ∃ low high, lead? (v / 262144 + 0xF0) = some ⟨v / 262144, 1, 3, low, high⟩ ∧
      low ≤ v / 4096 % 64 + 0x80 ∧ v / 4096 % 64 + 0x80 ≤ high := by
  unfold lead?
  rw [if_neg (by omega), if_neg (by omega), if_neg (by omega), if_neg (by omega),
    if_neg (by omega)]
  by_cases hzero : v / 262144 = 0
  · rw [hzero]
    exact ⟨0x90, 0xBF, rfl, by omega, by omega⟩
  · rw [if_neg (by omega)]
    by_cases hlast : v / 262144 = 4
    · rw [hlast]
      exact ⟨0x80, 0x8F, rfl, by omega, by omega⟩
    · rw [if_pos (by omega), Nat.add_sub_cancel]
      exact ⟨0x80, 0xBF, rfl, by omega, by omega⟩

end Lead

/-! ## Texts -/

theorem decodeFrom_encodeChar (c : Char) (index : Nat) (done : List Char) (rest : List UInt8) :
    decodeFrom index done none (String.utf8EncodeChar c ++ rest) =
      decodeFrom (index + (String.utf8EncodeChar c).length) (c :: done) none rest := by
  obtain ⟨v, hv⟩ : ∃ v, v = c.val.toNat := ⟨_, rfl⟩
  have hc : Char.ofNat v = c := hv ▸ Char.ofNat_toNat c
  have hvalid : v < 0xD800 ∨ 0xDFFF < v ∧ v < 0x110000 := hv ▸ c.valid
  unfold String.utf8EncodeChar
  simp only [← hv]
  split
  · next hone =>
      rw [List.singleton_append, decodeFrom_single (by omega), hc]
      rfl
  split
  · next hone htwo =>
      have hlead := lead?_two (by omega) htwo
      have hfirst : v / 64 % 32 = v / 64 := Nat.mod_eq_of_lt (by omega)
      have hcode : v / 64 * 64 + v % 64 = v := by omega
      rw [hfirst, List.cons_append, List.singleton_append,
        decodeFrom_lead (by omega) (by omega) hlead,
        decodeFrom_last (by omega) (by omega) (by omega), hcode, hc]
      rfl
  split
  · next hone htwo hthree =>
      obtain ⟨low, high, hlead, hlow, hhigh⟩ := lead?_three (by omega) hthree (by omega)
      have hfirst : v / 4096 % 16 = v / 4096 := Nat.mod_eq_of_lt (by omega)
      have hcode : (v / 4096 * 64 + v / 64 % 64) * 64 + v % 64 = v := by omega
      rw [hfirst, List.cons_append, List.cons_append, List.singleton_append,
        decodeFrom_lead (by omega) (by omega) hlead, decodeFrom_more (by omega) hlow hhigh,
        decodeFrom_last (by omega) (by omega) (by omega), hcode, hc]
      rfl
  · next hone htwo hthree =>
      obtain ⟨low, high, hlead, hlow, hhigh⟩ := lead?_four (v := v) (by omega) (by omega)
      have hfirst : v / 262144 % 8 = v / 262144 := Nat.mod_eq_of_lt (by omega)
      have hcode : ((v / 262144 * 64 + v / 4096 % 64) * 64 + v / 64 % 64) * 64 + v % 64 = v := by
        omega
      rw [hfirst, List.cons_append, List.cons_append, List.cons_append, List.singleton_append,
        decodeFrom_lead (by omega) (by omega) hlead, decodeFrom_more (by omega) hlow hhigh,
        decodeFrom_more (by omega) (by omega) (by omega),
        decodeFrom_last (by omega) (by omega) (by omega), hcode, hc]
      rfl

/-- The bytes of a text are passed over, whatever comes behind them. -/
theorem decodeFrom_flatMap_encodeChar_append (chars : List Char) (index : Nat) (done : List Char)
    (rest : List UInt8) :
    decodeFrom index done none (chars.flatMap String.utf8EncodeChar ++ rest) =
      decodeFrom (index + (chars.flatMap String.utf8EncodeChar).length) (chars.reverse ++ done) none
        rest := by
  induction chars generalizing index done with
  | nil => rfl
  | cons c chars ih =>
      rw [List.flatMap_cons, List.append_assoc, decodeFrom_encodeChar, ih, List.length_append,
        Nat.add_assoc, List.reverse_cons, List.append_assoc]
      rfl

theorem decodeFrom_flatMap_encodeChar (chars : List Char) (index : Nat) (done : List Char) :
    decodeFrom index done none (chars.flatMap String.utf8EncodeChar) =
      .ok (done.reverse ++ chars) := by
  have hpassed := decodeFrom_flatMap_encodeChar_append chars index done []
  rw [List.append_nil] at hpassed
  rw [hpassed, decodeFrom, List.reverse_append, List.reverse_reverse]

theorem encodeChar_inj {c c' : Char} (h : String.utf8EncodeChar c = String.utf8EncodeChar c') :
    c = c' := by
  have hread := decodeFrom_flatMap_encodeChar [c] 0 []
  have hread' := decodeFrom_flatMap_encodeChar [c'] 0 []
  rw [List.flatMap_cons, h, ← List.flatMap_cons, hread'] at hread
  simpa using (Except.ok.inj hread).symm

theorem length_encode (text : String) : (encode text).length = text.utf8ByteSize := by
  rw [encode, ← List.size_toByteArray]
  change text.toList.utf8Encode.size = _
  rw [String.utf8Encode_toList]
  rfl

theorem decode_encode (text : String) : decode (encode text) = .ok text.toList := by
  rw [decode, encode, decodeFrom_flatMap_encodeChar]
  rfl

end Utf8

end ControlStream

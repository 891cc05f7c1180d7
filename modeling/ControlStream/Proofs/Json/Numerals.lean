import ControlStream.Json.Reader
import ControlStream.Json.Writer
import ControlStream.Proofs.Text.Decimal

/-!
# Texts of numbers

The text of a number is a word: digits, signs, points and the letter of an exponent, and nothing
that would end it. The text of an integer is read back as the integer.
-/

namespace ControlStream

namespace Json

/-! ## Characters -/

def isNumeralChar (c : Char) : Bool :=
  c.isDigit || c == '.' || c == 'e' || c == '+' || c == '-'

theorem isNumeralChar_of_isDigit {c : Char} (h : c.isDigit = true) : isNumeralChar c = true := by
  simp [isNumeralChar, h]

theorem isNumeralChar_of_mem_toDigits {n : Nat} {c : Char} (h : c ∈ Nat.toDigits 10 n) :
    isNumeralChar c = true :=
  isNumeralChar_of_isDigit (Text.isDigit_of_mem_toDigits h)

section Digits

variable {digits : List Char} {c : Char}

theorem isNumeralChar_of_mem_plainText (h : ∀ d ∈ digits, isNumeralChar d = true)
    {exponent : Int} (hc : c ∈ plainText digits exponent) : isNumeralChar c = true := by
  cases exponent with
  | ofNat places =>
      simp only [plainText] at hc
      split at hc
      · simp only [List.mem_append, List.mem_cons] at hc
        rcases hc with htake | rfl | hdrop
        · exact h c (List.mem_of_mem_take htake)
        · rfl
        · exact h c (List.mem_of_mem_drop hdrop)
      · simp only [List.mem_append, List.mem_cons, List.not_mem_nil, or_false] at hc
        rcases hc with (hdigits | hzeros) | rfl | rfl
        · exact h c hdigits
        · rw [List.eq_of_mem_replicate hzeros]
          rfl
        · rfl
        · rfl
  | negSucc zeros =>
      simp only [plainText, List.mem_cons, List.mem_append] at hc
      rcases hc with rfl | rfl | hzeros | hdigits
      · rfl
      · rfl
      · rw [List.eq_of_mem_replicate hzeros]
        rfl
      · exact h c hdigits

theorem isNumeralChar_of_mem_exponentText {exponent : Int} (hc : c ∈ exponentText exponent) :
    isNumeralChar c = true := by
  cases exponent with
  | ofNat n =>
      rcases List.mem_cons.mp hc with rfl | hdigits
      · rfl
      · exact isNumeralChar_of_mem_toDigits hdigits
  | negSucc n =>
      rcases List.mem_cons.mp hc with rfl | hdigits
      · rfl
      · exact isNumeralChar_of_mem_toDigits hdigits

theorem isNumeralChar_of_mem_scientificText (h : ∀ d ∈ digits, isNumeralChar d = true)
    {exponent : Int} (hc : c ∈ scientificText digits exponent) : isNumeralChar c = true := by
  unfold scientificText at hc
  split at hc
  · cases hc
  · simp only [List.mem_cons] at hc
    rcases hc with rfl | rfl | hexponent
    · exact h c List.mem_cons_self
    · rfl
    · exact isNumeralChar_of_mem_exponentText hexponent
  · simp only [List.mem_cons, List.mem_append] at hc
    rcases hc with rfl | rfl | hrest | rfl | hexponent
    · exact h c List.mem_cons_self
    · rfl
    · exact h c (List.mem_cons_of_mem _ hrest)
    · rfl
    · exact isNumeralChar_of_mem_exponentText hexponent

end Digits

theorem isNumeralChar_of_mem_writeMagnitude {x : Magnitude} {c : Char}
    (hc : c ∈ writeMagnitude x) : isNumeralChar c = true := by
  have hdigits : ∀ d ∈ (Decimal.shortest x).digits, isNumeralChar d = true :=
    fun d hd => isNumeralChar_of_mem_toDigits hd
  unfold writeMagnitude at hc
  split at hc
  · have hzero : ['0', '.', '0'].all isNumeralChar = true := rfl
    exact List.all_eq_true.mp hzero c hc
  · dsimp only at hc
    split at hc
    · exact isNumeralChar_of_mem_plainText hdigits hc
    · exact isNumeralChar_of_mem_scientificText hdigits hc

theorem isNumeralChar_of_mem_writeNumber {number : JsonNumber} {c : Char}
    (hc : c ∈ writeNumber number) : isNumeralChar c = true := by
  cases number with
  | natural n => exact isNumeralChar_of_mem_toDigits hc
  | negSucc n =>
      rcases List.mem_cons.mp hc with rfl | hdigits
      · rfl
      · exact isNumeralChar_of_mem_toDigits hdigits
  | double x =>
      rcases List.mem_append.mp hc with hsign | hmagnitude
      · split at hsign
        · rw [List.mem_singleton.mp hsign]
          rfl
        · cases hsign
      · exact isNumeralChar_of_mem_writeMagnitude hmagnitude

theorem continuesWord_of_isNumeralChar {c : Char} (h : isNumeralChar c = true) :
    continuesWord c = true := by
  have hne : ∀ d, isNumeralChar d = false → c ≠ d := by
    rintro d hd rfl
    rw [h] at hd
    cases hd
  have hspace : isSpace c = false := by
    simp [isSpace, hne ' ' rfl, hne '\t' rfl, hne '\n' rfl, hne '\r' rfl]
  have hmark : Mark.ofChar? c = none := by
    unfold Mark.ofChar?
    split
    · exact absurd rfl (hne '[' rfl)
    · exact absurd rfl (hne ']' rfl)
    · exact absurd rfl (hne '\x7b' rfl)
    · exact absurd rfl (hne '\x7d' rfl)
    · exact absurd rfl (hne ',' rfl)
    · exact absurd rfl (hne ':' rfl)
    · rfl
  simp [continuesWord, hspace, hmark, hne '"' rfl]

/-! ## Integers -/

/-- The digits of a number are a numeral without a sign, a point and an exponent. -/
theorem ofChars?_toDigits (n : Nat) :
    Numeral.ofChars? (Nat.toDigits 10 n) = some ⟨false, Nat.toDigits 10 n, [], none⟩ := by
  obtain ⟨htake, hdrop⟩ := Text.takeWhile_toDigits n
  have hsign : (Nat.toDigits 10 n).head? ≠ some '-' := by
    intro h
    have hdigit := Text.isDigit_of_mem_toDigits (List.mem_of_mem_head? h)
    exact absurd hdigit (by decide)
  have hminus : ((Nat.toDigits 10 n).head? == some '-') = false := by simpa using hsign
  simpa [Numeral.ofChars?, hminus, htake, hdrop, Numeral.readFraction?] using
    Text.length_toDigits_of_head?_eq_zero

theorem ofChars?_minus_toDigits (n : Nat) :
    Numeral.ofChars? ('-' :: Nat.toDigits 10 n) = some ⟨true, Nat.toDigits 10 n, [], none⟩ := by
  obtain ⟨htake, hdrop⟩ := Text.takeWhile_toDigits n
  simpa [Numeral.ofChars?, htake, hdrop, Numeral.readFraction?] using
    Text.length_toDigits_of_head?_eq_zero

theorem ofWord?_of_isNumeralChar {first : Char} {rest : List Char}
    (h : isNumeralChar first = true) :
    ofWord? (first :: rest) =
      (Numeral.ofChars? (first :: rest)).bind fun numeral => numeral.toNumber?.map .number := by
  have hne : ∀ d, isNumeralChar d = false → first ≠ d := by
    rintro d hd rfl
    rw [h] at hd
    cases hd
  simp [ofWord?, hne 'n' rfl, hne 't' rfl, hne 'f' rfl]

theorem ofWord?_natural (n : BitVec 64) :
    ofWord? (writeNumber (.natural n)) = some (.number (.natural n)) := by
  have hlt : n.toNat < Nat.pow 2 64 := n.isLt
  have hnumber : Numeral.toNumber? ⟨false, Nat.toDigits 10 n.toNat, [], none⟩ =
      some (.natural n) := by
    simp [Numeral.toNumber?, Nat.ofDigitChars_ten_toDigits, hlt]
  obtain ⟨first, rest, hdigits⟩ := List.exists_cons_of_ne_nil (@Nat.toDigits_ne_nil n.toNat 10)
  have hfirst : isNumeralChar first = true :=
    isNumeralChar_of_mem_toDigits (hdigits ▸ List.mem_cons_self)
  rw [writeNumber, hdigits, ofWord?_of_isNumeralChar hfirst, ← hdigits, ofChars?_toDigits,
    Option.bind_some, hnumber]
  rfl

theorem ofWord?_negSucc (n : BitVec 63) :
    ofWord? (writeNumber (.negSucc n)) = some (.number (.negSucc n)) := by
  have hle : n.toNat + 1 ≤ Nat.pow 2 63 := n.isLt
  have hnumber : Numeral.toNumber? ⟨true, Nat.toDigits 10 (n.toNat + 1), [], none⟩ =
      some (.negSucc n) := by
    simp [Numeral.toNumber?, Nat.ofDigitChars_ten_toDigits, hle]
  rw [writeNumber, ofWord?_of_isNumeralChar rfl, ofChars?_minus_toDigits, Option.bind_some,
    hnumber]
  rfl

end Json

end ControlStream

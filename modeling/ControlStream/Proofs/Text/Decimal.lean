import Mathlib.Data.List.TakeWhile

/-!
# Decimal texts

The text of a number is made of digits, the first of them no zero unless it is the only one. So the
number is found again in front of any text that does not go on with a digit.
-/

namespace ControlStream

namespace Text

theorem isDigit_of_mem_toDigits {n : Nat} {c : Char} (h : c ∈ Nat.toDigits 10 n) :
    c.isDigit = true :=
  Nat.isDigit_of_mem_toDigits (by decide) (by decide) h

/-- No number but zero has a leading zero. -/
theorem head?_toDigits_ne_zero {n : Nat} (h : 0 < n) :
    (Nat.toDigits 10 n).head? ≠ some '0' := by
  have hsmall : ∀ n < 10, 0 < n → Nat.digitChar n ≠ '0' := by decide
  induction n using Nat.strongRecOn with
  | ind n ih =>
      rw [Nat.toDigits_eq_if (by decide)]
      split
      · next hlt => simpa using hsmall n hlt h
      · next hlarge =>
          have hfewer := ih (n / 10) (by omega) (by omega)
          rw [List.head?_append]
          cases hhead : (Nat.toDigits 10 (n / 10)).head? with
          | none => exact absurd (List.head?_eq_none_iff.mp hhead) Nat.toDigits_ne_nil
          | some d => rwa [hhead] at hfewer

theorem length_toDigits_of_head?_eq_zero {n : Nat} (h : (Nat.toDigits 10 n).head? = some '0') :
    (Nat.toDigits 10 n).length = 1 := by
  by_cases hn : 0 < n
  · exact absurd h (head?_toDigits_ne_zero hn)
  · obtain rfl : n = 0 := by omega
    rfl

theorem takeWhile_toDigits_append {n : Nat} {rest : List Char}
    (h : rest.head?.any Char.isDigit = false) :
    (Nat.toDigits 10 n ++ rest).takeWhile Char.isDigit = Nat.toDigits 10 n ∧
      (Nat.toDigits 10 n ++ rest).dropWhile Char.isDigit = rest := by
  have hall : ∀ c ∈ Nat.toDigits 10 n, c.isDigit = true := fun _ => isDigit_of_mem_toDigits
  rw [List.takeWhile_append_of_pos hall, List.dropWhile_append_of_pos hall]
  cases rest with
  | nil => exact ⟨List.append_nil _, rfl⟩
  | cons c rest =>
      have hc : c.isDigit = false := h
      rw [List.takeWhile_cons, List.dropWhile_cons, hc]
      exact ⟨List.append_nil _, rfl⟩

theorem takeWhile_toDigits (n : Nat) :
    (Nat.toDigits 10 n).takeWhile Char.isDigit = Nat.toDigits 10 n ∧
      (Nat.toDigits 10 n).dropWhile Char.isDigit = [] := by
  have hnil : ([] : List Char).head?.any Char.isDigit = false := rfl
  simpa only [List.append_nil] using takeWhile_toDigits_append (n := n) hnil

theorem toDigits_inj {m n : Nat} (h : Nat.toDigits 10 m = Nat.toDigits 10 n) : m = n := by
  have hvalue := congrArg (Nat.ofDigitChars 10 · 0) h
  simpa only [Nat.ofDigitChars_ten_toDigits] using hvalue

theorem toList_toString (n : Nat) : (toString n).toList = Nat.toDigits 10 n := by
  rw [Nat.toString_eq_repr, Nat.toList_repr]

theorem toString_inj {m n : Nat} (h : toString m = toString n) : m = n := by
  have hchars := congrArg String.toList h
  rw [toList_toString, toList_toString] at hchars
  exact toDigits_inj hchars

/-- A number ends where its text goes on with something else. -/
theorem toString_append_inj {m n : Nat} {rest rest' : String}
    (hrest : rest.toList.head?.any Char.isDigit = false)
    (hrest' : rest'.toList.head?.any Char.isDigit = false)
    (h : toString m ++ rest = toString n ++ rest') : m = n ∧ rest = rest' := by
  have hchars := congrArg String.toList h
  rw [String.toList_append, String.toList_append, toList_toString, toList_toString] at hchars
  obtain ⟨htake, hdrop⟩ := takeWhile_toDigits_append (n := m) hrest
  obtain ⟨htake', hdrop'⟩ := takeWhile_toDigits_append (n := n) hrest'
  rw [hchars] at htake hdrop
  exact ⟨toDigits_inj (htake.symm.trans htake'), String.toList_inj.mp (hdrop.symm.trans hdrop')⟩

end Text

end ControlStream

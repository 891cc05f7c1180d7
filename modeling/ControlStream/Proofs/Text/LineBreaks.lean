import ControlStream.Proofs.Bytes.LongestText
import ControlStream.Stream.Line
import ControlStream.Text.Quoted

/-!
# Line breaks in texts

How many line feeds a text holds. Numbers and quoted texts hold none, and encoding a text neither
adds nor loses one.
-/

namespace ControlStream

namespace Text

def breaks (text : String) : Nat := text.toList.count '\n'

@[simp] theorem breaks_append (text text' : String) :
    breaks (text ++ text') = breaks text + breaks text' := by
  simp [breaks]

theorem breaks_eq_zero {text : String} : breaks text = 0 ↔ '\n' ∉ text.toList :=
  List.count_eq_zero

theorem breaks_ofList_eq_zero {chars : List Char} (h : '\n' ∉ chars) :
    breaks (String.ofList chars) = 0 := by
  rw [breaks_eq_zero, String.toList_ofList]
  exact h

theorem breaks_intercalate_comma {texts : List String} (h : ∀ text ∈ texts, breaks text = 0) :
    breaks (",".intercalate texts) = 0 := by
  induction texts with
  | nil => rfl
  | cons text texts ih =>
      have htext : breaks text = 0 := h text (by simp)
      have htexts := ih fun text' hmem => h text' (by simp [hmem])
      cases texts with
      | nil => simpa using htext
      | cons next rest =>
          have hcomma : breaks "," = 0 := rfl
          rw [String.intercalate_cons_cons, breaks_append, breaks_append, htext, htexts, hcomma]

def totalBreaks : List String → Nat
  | [] => 0
  | text :: texts => breaks text + totalBreaks texts

@[simp] theorem totalBreaks_nil : totalBreaks [] = 0 := rfl

@[simp] theorem totalBreaks_cons (text : String) (texts : List String) :
    totalBreaks (text :: texts) = breaks text + totalBreaks texts := rfl

@[simp] theorem totalBreaks_append (texts texts' : List String) :
    totalBreaks (texts ++ texts') = totalBreaks texts + totalBreaks texts' := by
  induction texts with
  | nil => simp
  | cons text texts ih =>
      rw [List.cons_append, totalBreaks_cons, totalBreaks_cons, ih]
      omega

theorem totalBreaks_eq_zero {texts : List String} :
    totalBreaks texts = 0 ↔ ∀ text ∈ texts, '\n' ∉ text.toList := by
  induction texts with
  | nil => simp
  | cons text texts ih =>
      rw [totalBreaks_cons, Nat.add_eq_zero_iff, ih, breaks_eq_zero, List.forall_mem_cons]

/-! ## Numbers -/

theorem lineFeed_notMem_toDigits {base : Nat} (hbase : 1 < base) (n : Nat) :
    '\n' ∉ Nat.toDigits base n := by
  induction n using Nat.strongRecOn with
  | ind n ih =>
      rw [Nat.toDigits_eq_if hbase]
      split
      · have hdigit : n.digitChar ≠ '\n' := Nat.digitChar_ne '\n' rfl
        simp [hdigit.symm]
      · rename_i hlarge
        have hdigit : (n % base).digitChar ≠ '\n' := Nat.digitChar_ne '\n' rfl
        have hfewer := ih (n / base) (Nat.div_lt_self (by omega) hbase)
        simp [hfewer, hdigit.symm]

@[simp] theorem breaks_repr (n : Nat) : breaks n.repr = 0 := by
  rw [breaks_eq_zero, Nat.toList_repr]
  exact lineFeed_notMem_toDigits (by omega) n

/-! ## Quoted texts -/

theorem lineFeed_notMem_quoteChar (c : Char) : '\n' ∉ quoteChar c := by
  unfold quoteChar
  split
  · decide
  · decide
  · decide
  · decide
  · decide
  · decide
  · rename_i hfeed _
    split
    · have hdigits : '\n' ∉ Nat.toDigits 16 c.toNat := lineFeed_notMem_toDigits (by omega) _
      simp [spellNumber, hdigits]
    · simpa [eq_comm] using hfeed

@[simp] theorem breaks_quote (text : String) : breaks (quote text) = 0 := by
  refine breaks_ofList_eq_zero ?_
  simp [lineFeed_notMem_quoteChar]

end Text

/-! ## Encoded texts -/

namespace Utf8

theorem eq_lineFeed_of_mem_encodeChar {c : Char} (h : lineFeed ∈ String.utf8EncodeChar c) :
    c = '\n' :=
  encodeChar_inj (encodeChar_eq_of_mem h (by decide))

theorem count_lineFeed_encodeChar (c : Char) :
    (String.utf8EncodeChar c).count lineFeed = [c].count '\n' := by
  by_cases hfeed : c = '\n'
  · subst hfeed
    rfl
  · have hbytes : lineFeed ∉ String.utf8EncodeChar c :=
      fun h => hfeed (eq_lineFeed_of_mem_encodeChar h)
    have hchar : '\n' ∉ [c] := by simpa [eq_comm] using hfeed
    rw [List.count_eq_zero.mpr hbytes, List.count_eq_zero.mpr hchar]

theorem count_lineFeed_encode (text : String) :
    (encode text).count lineFeed = Text.breaks text := by
  unfold encode Text.breaks
  induction text.toList with
  | nil => rfl
  | cons c chars ih =>
      rw [List.flatMap_cons, List.count_append, ih, count_lineFeed_encodeChar,
        ← List.count_append]
      rfl

end Utf8

end ControlStream

import ControlStream.Proofs.Json.Numerals
import ControlStream.Proofs.Text.LineBreaks

/-!
# Compact JSON text is one line

A string's line feeds are escaped and no number holds one, so the text of a value has no line
break, whatever strings the value holds.
-/

namespace ControlStream

namespace Json

/-! ## Numbers -/

theorem lineFeed_notMem_writeNumber (number : JsonNumber) : '\n' ∉ writeNumber number := by
  intro hmem
  have hfeed : isNumeralChar '\n' = true := isNumeralChar_of_mem_writeNumber hmem
  exact absurd hfeed (by decide)

/-! ## Strings -/

theorem lineFeed_notMem_escapeChar (c : Char) : '\n' ∉ escapeChar c := by
  unfold escapeChar
  split
  · decide
  · decide
  · decide
  · decide
  · decide
  · decide
  · decide
  · rename_i hfeed _ _
    have hhigh : '\n' ≠ (c.toNat / 16).digitChar := (Nat.digitChar_ne '\n' rfl).symm
    have hlow : '\n' ≠ (c.toNat % 16).digitChar := (Nat.digitChar_ne '\n' rfl).symm
    split
    · simp [hexPair, hhigh, hlow]
    · simpa [eq_comm] using hfeed

theorem lineFeed_notMem_writeString (s : String) : '\n' ∉ writeString s := by
  simp [writeString, lineFeed_notMem_escapeChar]

/-! ## Values -/

mutual

theorem lineFeed_mem_writeBefore (value : Json) (rest : List Char) :
    '\n' ∈ writeBefore value rest ↔ '\n' ∈ rest := by
  cases value with
  | null => simp [writeBefore]
  | bool b => cases b <;> simp [writeBefore]
  | number n => simp [writeBefore, lineFeed_notMem_writeNumber]
  | string s => simp [writeBefore, lineFeed_notMem_writeString]
  | array items =>
      cases items with
      | nil => simp [writeBefore]
      | cons item items =>
          simp [writeBefore, lineFeed_mem_writeBefore item, lineFeed_mem_writeItems items]
  | object fields =>
      cases fields with
      | nil => simp [writeBefore]
      | cons field fields =>
          obtain ⟨key, value⟩ := field
          simp [writeBefore, lineFeed_notMem_writeString, lineFeed_mem_writeBefore value,
            lineFeed_mem_writeFields fields]

theorem lineFeed_mem_writeItems (items : List Json) (rest : List Char) :
    '\n' ∈ writeItems items rest ↔ '\n' ∈ rest := by
  cases items with
  | nil => simp [writeItems]
  | cons item items =>
      simp [writeItems, lineFeed_mem_writeBefore item, lineFeed_mem_writeItems items]

theorem lineFeed_mem_writeFields (fields : List (String × Json)) (rest : List Char) :
    '\n' ∈ writeFields fields rest ↔ '\n' ∈ rest := by
  cases fields with
  | nil => simp [writeFields]
  | cons field fields =>
      obtain ⟨key, value⟩ := field
      simp [writeFields, lineFeed_notMem_writeString, lineFeed_mem_writeBefore value,
        lineFeed_mem_writeFields fields]

end

@[simp] theorem breaks_write (value : Json) : Text.breaks value.write = 0 := by
  refine Text.breaks_ofList_eq_zero ?_
  rw [lineFeed_mem_writeBefore]
  simp

end Json

end ControlStream

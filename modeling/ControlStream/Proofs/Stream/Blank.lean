import ControlStream.Stream.Line

/-!
# Blank lines

A blank line that a run did not pass over would be faulty: its bytes are characters, and no text of
white space and form feeds is JSON.
-/

namespace ControlStream

theorem Utf8.decodeFrom_ascii {bytes : List UInt8} (h : ∀ byte ∈ bytes, byte.toNat < 0x80)
    (index : Nat) (done : List Char) :
    decodeFrom index done none bytes =
      .ok (done.reverse ++ bytes.map fun byte => Char.ofNat byte.toNat) := by
  induction bytes generalizing index done with
  | nil => simp [decodeFrom]
  | cons byte bytes ih =>
      obtain ⟨hbyte, hbytes⟩ := List.forall_mem_cons.mp h
      rw [decodeFrom, if_pos hbyte, ih hbytes]
      simp

/-! ## Texts of white space and form feeds -/

namespace Json

theorem ofWord?_formFeed (rest : List Char) : ofWord? ('\x0c' :: rest) = none := by
  simp [ofWord?, Numeral.ofChars?]

namespace Reader

/-- A reader that has met nothing but white space, or is in a word that a form feed begins. No
value can come of either. -/
inductive Idle : Reader → Prop
  | start : Idle start
  | word (chars : List Char) : Idle ⟨.word (chars ++ ['\x0c']), .nextValue []⟩

theorem closeWord_eq_none (chars : List Char) (place : Place) :
    closeWord (chars ++ ['\x0c']) place = none := by
  simp [closeWord, ofWord?_formFeed]

theorem Idle.finish_eq_none {reader : Reader} (h : reader.Idle) : reader.finish = none := by
  cases h with
  | start => rfl
  | word chars => simp [finish, closeWord_eq_none]

theorem Idle.step {reader next : Reader} {c : Char} (h : reader.Idle)
    (hc : isSpace c = true ∨ c = '\x0c') (hstep : reader.step c = some next) : next.Idle := by
  cases h with
  | start =>
      rcases hc with hspace | rfl
      · change begin (.nextValue []) c = some next at hstep
        rw [begin, if_pos hspace] at hstep
        cases hstep
        exact .start
      · cases hstep
        exact .word []
  | word chars =>
      rcases hc with hspace | rfl
      · simp [Reader.step, continuesWord, hspace, closeWord_eq_none] at hstep
      · cases hstep
        exact .word ('\x0c' :: chars)

theorem Idle.foldlM_bind_finish {reader : Reader} (h : reader.Idle) {text : List Char}
    (htext : ∀ c ∈ text, isSpace c = true ∨ c = '\x0c') :
    (text.foldlM Reader.step reader).bind finish = none := by
  induction text generalizing reader with
  | nil => exact h.finish_eq_none
  | cons c text ih =>
      obtain ⟨hc, hrest⟩ := List.forall_mem_cons.mp htext
      rw [List.foldlM_cons]
      cases hstep : reader.step c with
      | none => rfl
      | some next => exact ih (h.step hc hstep) hrest

end Reader

end Json

/-! ## Lines -/

theorem isBlankByte_cases {byte : UInt8} (h : isBlankByte byte = true) :
    byte.toNat < 0x80 ∧
      (Json.isSpace (Char.ofNat byte.toNat) = true ∨ Char.ofNat byte.toNat = '\x0c') := by
  simp only [isBlankByte, Bool.or_eq_true, beq_iff_eq] at h
  rcases h with (((rfl | rfl) | rfl) | rfl) | rfl <;> decide

/-- A blank line is text and no JSON. -/
theorem Line.message_of_blank {line : Line} (h : isBlankLine line = true) :
    message line = .error (.notJson (line.map fun byte => Char.ofNat byte.toNat)) := by
  have hbytes : ∀ byte ∈ line, isBlankByte byte = true := List.all_eq_true.mp h
  have hascii := Utf8.decodeFrom_ascii (fun byte hmem => (isBlankByte_cases (hbytes byte hmem)).1)
    0 []
  have htext : ∀ c ∈ line.map fun byte => Char.ofNat byte.toNat,
      Json.isSpace c = true ∨ c = '\x0c' := by
    intro c hmem
    obtain ⟨byte, hbyte, rfl⟩ := List.mem_map.mp hmem
    exact (isBlankByte_cases (hbytes byte hbyte)).2
  have hjson : Json.ofChars? (line.map fun byte => Char.ofNat byte.toNat) = none :=
    Json.Reader.Idle.start.foldlM_bind_finish htext
  have hvalue : value line =
      .error (.notJson (line.map fun byte => Char.ofNat byte.toNat)) := by
    rw [value, Utf8.decode, hascii]
    simp [hjson]
  rw [message, hvalue]
  rfl

end ControlStream

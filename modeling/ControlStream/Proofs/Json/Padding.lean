import ControlStream.Json.Reader

/-!
# White space around a text

White space in front of a text leaves the reader where it starts. Behind a text it ends the last
word, which is what finishing does, and lets nothing else come to a value.
-/

namespace ControlStream

namespace Json

namespace Reader

variable {c : Char} {space : List Char}

theorem step_start_of_isSpace (h : isSpace c = true) : start.step c = some start := by
  change begin (.nextValue []) c = some start
  rw [begin, if_pos h]
  rfl

theorem foldlM_start_of_isSpace (h : ∀ c ∈ space, isSpace c = true) :
    space.foldlM step start = some start := by
  induction space with
  | nil => rfl
  | cons c space ih =>
      obtain ⟨hc, hspace⟩ := List.forall_mem_cons.mp h
      rw [List.foldlM_cons, step_start_of_isSpace hc]
      exact ih hspace

theorem isSpace_cases (h : isSpace c = true) : c = ' ' ∨ c = '\t' ∨ c = '\n' ∨ c = '\r' := by
  simpa [isSpace, or_assoc] using h

/-- White space comes to a value exactly if the text in front of it does, and to the same. -/
theorem finish_step_of_isSpace (h : isSpace c = true) (reader : Reader) :
    (reader.step c).bind finish = reader.finish := by
  obtain ⟨scan, place⟩ := reader
  cases scan with
  | between => simp [step, begin, h]
  | word chars =>
      have hends : continuesWord c = false := by simp [continuesWord, h]
      simp only [step, hends, Bool.false_eq_true, if_false, finish]
      cases closeWord chars place with
      | none => rfl
      | some next =>
          rw [Option.bind_some, begin, if_pos h]
          cases next <;> rfl
  | text chars => rcases isSpace_cases h with rfl | rfl | rfl | rfl <;> rfl
  | escape chars => rcases isSpace_cases h with rfl | rfl | rfl | rfl <;> rfl
  | unit chars high count value => rcases isSpace_cases h with rfl | rfl | rfl | rfl <;> rfl
  | lowEscape chars high => rcases isSpace_cases h with rfl | rfl | rfl | rfl <;> rfl
  | lowLetter chars high => rcases isSpace_cases h with rfl | rfl | rfl | rfl <;> rfl

theorem finish_foldlM_of_isSpace (h : ∀ c ∈ space, isSpace c = true) (reader : Reader) :
    (space.foldlM step reader).bind finish = reader.finish := by
  induction space generalizing reader with
  | nil => rfl
  | cons c space ih =>
      obtain ⟨hc, hspace⟩ := List.forall_mem_cons.mp h
      have hrest : (fun next => (space.foldlM step next).bind finish) = finish :=
        funext (ih hspace)
      rw [List.foldlM_cons, ← finish_step_of_isSpace hc reader]
      change ((reader.step c).bind fun next => space.foldlM step next).bind finish = _
      rw [Option.bind_assoc, hrest]

end Reader

/-- White space around a text changes nothing of what is read. -/
theorem ofChars?_of_isSpace {before after : List Char} (hbefore : ∀ c ∈ before, isSpace c = true)
    (hafter : ∀ c ∈ after, isSpace c = true) (text : List Char) :
    ofChars? (before ++ text ++ after) = ofChars? text := by
  have hrest : (fun reader => (after.foldlM Reader.step reader).bind Reader.finish) =
      Reader.finish := funext (Reader.finish_foldlM_of_isSpace hafter)
  rw [ofChars?, List.foldlM_append, List.foldlM_append, Reader.foldlM_start_of_isSpace hbefore]
  change ((text.foldlM Reader.step Reader.start).bind fun reader =>
    after.foldlM Reader.step reader).bind Reader.finish = _
  rw [Option.bind_assoc, hrest, ofChars?]

end Json

end ControlStream

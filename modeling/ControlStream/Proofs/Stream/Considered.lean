import ControlStream.Proofs.Stream.Blank
import ControlStream.Stream.Run

/-!
# The lines that a run considers

Of the lines that a reader gets to see, a run leaves out the blank ones and looks at no line after
the first that decodes to a shutdown update. What a line decodes to is told here apart from any
run.
-/

namespace ControlStream

/-! ## Up to a first hit -/

section ThroughFirst

variable {α : Type} (p : α → Bool)

/-- The items up to the first that satisfies `p`, with it; all of them when none does. -/
def throughFirst : List α → List α
  | [] => []
  | x :: xs => if p x then [x] else x :: throughFirst xs

@[simp] theorem throughFirst_nil : throughFirst p [] = [] := rfl

variable {p} {x : α} {xs : List α}

theorem throughFirst_cons_of_pos (h : p x = true) : throughFirst p (x :: xs) = [x] := by
  simp [throughFirst, h]

theorem throughFirst_cons_of_neg (h : p x = false) :
    throughFirst p (x :: xs) = x :: throughFirst p xs := by
  simp [throughFirst, h]

theorem eq_false_of_mem_dropLast_throughFirst {y : α} (h : y ∈ (throughFirst p xs).dropLast) :
    p y = false := by
  induction xs with
  | nil => simp at h
  | cons x xs ih =>
      cases hx : p x with
      | true => simp [throughFirst_cons_of_pos hx] at h
      | false =>
          rw [throughFirst_cons_of_neg hx] at h
          by_cases hrest : throughFirst p xs = []
          · simp [hrest] at h
          · rw [List.dropLast_cons_of_ne_nil hrest, List.mem_cons] at h
            rcases h with rfl | h
            · exact hx
            · exact ih h

theorem any_throughFirst :
    (throughFirst p xs).any p = true ↔
      ∃ before last, throughFirst p xs = before ++ [last] ∧ p last = true := by
  constructor
  · intro h
    obtain ⟨y, hy, hhit⟩ := List.any_eq_true.mp h
    have hne : throughFirst p xs ≠ [] := List.ne_nil_of_mem hy
    have hsplit := List.dropLast_concat_getLast hne
    rw [← hsplit, List.mem_append, List.mem_singleton] at hy
    rcases hy with hy | hy
    · have hmiss := eq_false_of_mem_dropLast_throughFirst hy
      rw [hhit] at hmiss
      cases hmiss
    · exact ⟨_, _, hsplit.symm, hy ▸ hhit⟩
  · rintro ⟨before, last, hsplit, hhit⟩
    rw [hsplit]
    simp [hhit]

end ThroughFirst

/-! ## What a line decodes to -/

namespace Line

def message? (line : Line) : Option Message :=
  match message line with
  | .ok message => some message
  | .error _ => none

def update? (line : Line) : Option Update :=
  match message line with
  | .ok (.update update) => some update
  | _ => none

def response? (line : Line) : Option Response :=
  match message line with
  | .ok (.response response) => some response
  | _ => none

/-- Whether a line decodes to nothing. -/
def isFaulty (line : Line) : Bool :=
  match message line with
  | .ok _ => false
  | .error _ => true

def isShutdown (line : Line) : Bool := line.update?.any (·.kind == .shutdown)

theorem isShutdown_iff {line : Line} : line.isShutdown = true ↔ line.update? = some .shutdown := by
  cases h : line.update? with
  | none => simp [isShutdown, h]
  | some update => cases update <;> simp [isShutdown, h, Update.kind]

theorem update?_of_blank {line : Line} (h : isBlankLine line = true) : line.update? = none := by
  rw [update?, message_of_blank h]

theorem decoded_cases (line : Line) :
    (∃ fault, message line = .error fault ∧ line.message? = none ∧ line.update? = none ∧
        line.response? = none ∧ line.isFaulty = true) ∨
      (∃ response, message line = .ok (.response response) ∧
        line.message? = some (.response response) ∧ line.update? = none ∧
        line.response? = some response ∧ line.isFaulty = false) ∨
      ∃ update, message line = .ok (.update update) ∧ line.message? = some (.update update) ∧
        line.update? = some update ∧ line.response? = none ∧ line.isFaulty = false := by
  cases h : message line with
  | error fault =>
      left
      exact ⟨fault, rfl, by simp [message?, update?, response?, isFaulty, h]⟩
  | ok held =>
      right
      cases held with
      | response response =>
          left
          exact ⟨response, rfl, by simp [message?, update?, response?, isFaulty, h]⟩
      | update update =>
          right
          exact ⟨update, rfl, by simp [message?, update?, response?, isFaulty, h]⟩

end Line

/-- The lines that are not blank, up to and with the first that decodes to a shutdown update. -/
def considered (lines : List Line) : List Line :=
  throughFirst Line.isShutdown (lines.filter fun line => !isBlankLine line)

section Considered

variable {line : Line} {rest : List Line}

@[simp] theorem considered_nil : considered [] = [] := rfl

theorem considered_cons_of_blank (h : isBlankLine line = true) :
    considered (line :: rest) = considered rest := by
  simp [considered, h]

theorem considered_cons_of_shutdown (hblank : isBlankLine line = false)
    (h : line.isShutdown = true) : considered (line :: rest) = [line] := by
  simp [considered, hblank, throughFirst_cons_of_pos h]

theorem considered_cons_of_other (hblank : isBlankLine line = false)
    (h : line.isShutdown = false) : considered (line :: rest) = line :: considered rest := by
  simp [considered, hblank, throughFirst_cons_of_neg h]

/-- Only the last line considered can be a shutdown. -/
theorem update?_ne_shutdown_of_mem_dropLast {lines : List Line}
    (h : line ∈ (considered lines).dropLast) : line.update? ≠ some .shutdown := by
  have hmiss : line.isShutdown = false := eq_false_of_mem_dropLast_throughFirst h
  intro hshutdown
  rw [Line.isShutdown_iff.mpr hshutdown] at hmiss
  cases hmiss

theorem any_isShutdown_considered (lines : List Line) :
    (considered lines).any Line.isShutdown = true ↔
      ∃ before last, considered lines = before ++ [last] ∧ last.update? = some .shutdown := by
  simp only [← Line.isShutdown_iff]
  exact any_throughFirst

end Considered

end ControlStream

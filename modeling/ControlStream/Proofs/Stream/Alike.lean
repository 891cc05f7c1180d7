import ControlStream.Proofs.Stream.Forwarded
import ControlStream.Proofs.Stream.Reliable

/-!
# Lines that make the same run

Lines are alike when both are blank or neither is, and both hold the same message or have the same
fault; of bytes that are no text, the place may differ, and the texts that are no JSON may. Runs
over lines that are alike, one by one, differ in nothing else.
-/

namespace ControlStream

/-- Faults that are the same, but for the place in bytes that are no text and for the text that is
no JSON. -/
inductive LineFault.Alike : LineFault → LineFault → Prop
  | utf8 (cause cause' : Utf8.Malformed) : Alike (.utf8 cause) (.utf8 cause')
  | json (text text' : List Char) : Alike (.notJson text) (.notJson text')
  | decode (cause : DecodeError) : Alike (.decode cause) (.decode cause)

theorem LineFault.Alike.refl : (fault : LineFault) → fault.Alike fault
  | .utf8 cause => .utf8 cause cause
  | .json => .json _ _
  | .decode cause => .decode cause

namespace Line

/-- Lines that a run treats in the same way. -/
structure Alike (line line' : Line) : Prop where
  blank : isBlankLine line' = isBlankLine line
  message : (∃ held, message line = .ok held ∧ message line' = .ok held) ∨
    ∃ fault fault', message line = .error fault ∧ message line' = .error fault' ∧
      fault.Alike fault'

namespace Alike

variable {line line' : Line}

theorem message?_eq (h : line.Alike line') : line'.message? = line.message? := by
  rcases h.message with ⟨held, hheld, hheld'⟩ | ⟨_, _, hfault, hfault', _⟩
  · rw [message?, message?, hheld, hheld']
  · rw [message?, message?, hfault, hfault']

theorem update?_eq (h : line.Alike line') : line'.update? = line.update? := by
  rcases h.message with ⟨held, hheld, hheld'⟩ | ⟨_, _, hfault, hfault', _⟩
  · rw [update?, update?, hheld, hheld']
  · rw [update?, update?, hfault, hfault']

theorem response?_eq (h : line.Alike line') : line'.response? = line.response? := by
  rcases h.message with ⟨held, hheld, hheld'⟩ | ⟨_, _, hfault, hfault', _⟩
  · rw [response?, response?, hheld, hheld']
  · rw [response?, response?, hfault, hfault']

theorem isFaulty_eq (h : line.Alike line') : line'.isFaulty = line.isFaulty := by
  rcases h.message with ⟨held, hheld, hheld'⟩ | ⟨_, _, hfault, hfault', _⟩
  · rw [isFaulty, isFaulty, hheld, hheld']
  · rw [isFaulty, isFaulty, hfault, hfault']

theorem isShutdown_eq (h : line.Alike line') : line'.isShutdown = line.isShutdown := by
  rw [isShutdown, isShutdown, h.update?_eq]

theorem stopsAt_eq (h : line.Alike line') (config : StreamConfig) :
    config.stopsAt line' = config.stopsAt line := by
  rw [StreamConfig.stopsAt, StreamConfig.stopsAt, h.isShutdown_eq, h.isFaulty_eq]

theorem printed_eq (h : line.Alike line') (config : StreamConfig) :
    config.printed [line'] = config.printed [line] := by
  simp only [StreamConfig.printed, List.filterMap_cons, h.message?_eq]

theorem forwardedBy_eq (h : line.Alike line') (config : StreamConfig) :
    config.forwardedBy line' = config.forwardedBy line := by
  rw [StreamConfig.forwardedBy, StreamConfig.forwardedBy, h.update?_eq]

theorem tally_eq (h : line.Alike line') (config : StreamConfig) :
    Summary.tally config [line'] = Summary.tally config [line] := by
  simp only [Summary.tally, List.filterMap_cons, List.countP_singleton, List.any_cons, h.update?_eq,
    h.response?_eq, h.isFaulty_eq, h.isShutdown_eq, List.length_singleton]

end Alike

end Line

/-! ## Runs -/

section Runs

variable {config : StreamConfig} {kinds : List UpdateKind} {sink : Sink} {number : Nat}
  {lines lines' : List Line}

theorem StreamConfig.reached_alike (h : List.Forall₂ Line.Alike lines lines') :
    List.Forall₂ Line.Alike (config.reached lines) (config.reached lines') := by
  induction h with
  | nil => exact .nil
  | @cons line line' rest rest' hline hrest ih =>
      cases hblank : isBlankLine line with
      | true =>
          rw [reached_cons_of_blank hblank, reached_cons_of_blank (hline.blank.trans hblank)]
          exact ih
      | false =>
          have hblank' := hline.blank.trans hblank
          cases hstop : config.stopsAt line with
          | true =>
              have hstop' := (hline.stopsAt_eq config).trans hstop
              rw [reached_cons_of_stop hblank hstop, reached_cons_of_stop hblank' hstop']
              exact .cons hline .nil
          | false =>
              have hstop' := (hline.stopsAt_eq config).trans hstop
              rw [reached_cons_of_pass hblank hstop, reached_cons_of_pass hblank' hstop']
              exact .cons hline ih

theorem StreamConfig.printed_alike (h : List.Forall₂ Line.Alike lines lines') :
    config.printed lines' = config.printed lines := by
  induction h with
  | nil => rfl
  | cons hline hrest ih => rw [config.printed_cons, hline.printed_eq, ih, ← config.printed_cons]

theorem StreamConfig.flatMap_forwardedBy_alike (h : List.Forall₂ Line.Alike lines lines') :
    lines'.flatMap config.forwardedBy = lines.flatMap config.forwardedBy := by
  induction h with
  | nil => rfl
  | cons hline hrest ih => rw [List.flatMap_cons, hline.forwardedBy_eq, ih, ← List.flatMap_cons]

/-- Results that are the same, but for what may differ of a fault. -/
inductive ResultsAlike : Except StreamError Summary → Except StreamError Summary → Prop
  | ok (summary : Summary) : ResultsAlike (.ok summary) (.ok summary)
  | line (number : Nat) {fault fault' : LineFault} (h : fault.Alike fault') :
      ResultsAlike (.error (.line number fault)) (.error (.line number fault'))

theorem ResultsAlike.ok_or_line {result result' : Except StreamError Summary}
    (h : ResultsAlike result result') :
    (∃ summary, result = .ok summary ∧ result' = .ok summary) ∨
      ∃ number fault fault', result = .error (.line number fault) ∧
        result' = .error (.line number fault') ∧ fault.Alike fault' := by
  cases h with
  | ok summary => exact .inl ⟨summary, rfl, rfl⟩
  | line number h => exact .inr ⟨number, _, _, rfl, rfl, h⟩

theorem ResultsAlike.map_add {result result' : Except StreamError Summary} (x : Summary)
    (h : ResultsAlike result result') :
    ResultsAlike (result.map (x + ·)) (result'.map (x + ·)) := by
  cases h with
  | ok summary => exact .ok _
  | line number h => exact .line number h

variable [Json.Wording]

theorem resultsAlike_of_alike (hkinds : config.kindFilter = .ok kinds) (hsink : sink.Reliable)
    (h : List.Forall₂ Line.Alike lines lines') :
    ResultsAlike (runLines config kinds none sink number lines).result
      (runLines config kinds none sink number lines').result := by
  induction h generalizing number with
  | nil =>
      rw [runLines_nil hsink]
      exact .ok _
  | @cons line line' rest rest' hline hrest ih =>
      cases hblank : isBlankLine line with
      | true =>
          rw [runLines_cons_of_blank hblank,
            runLines_cons_of_blank (hline.blank.trans hblank)]
          exact ih
      | false =>
          have hblank' := hline.blank.trans hblank
          cases hstop : config.stopsAt line with
          | true =>
              have hstop' := (hline.stopsAt_eq config).trans hstop
              rw [result_cons_of_stop hkinds hsink hblank hstop,
                result_cons_of_stop hkinds hsink hblank' hstop', hline.tally_eq]
              rcases hline.message with ⟨held, hheld, hheld'⟩ |
                ⟨fault, fault', hfault, hfault', halike⟩
              · rw [hheld, hheld']
                exact .ok _
              · rw [hfault, hfault']
                exact .line number halike
          | false =>
              have hstop' := (hline.stopsAt_eq config).trans hstop
              rw [result_cons_of_pass hkinds hsink hblank hstop,
                result_cons_of_pass hkinds hsink hblank' hstop', hline.tally_eq]
              exact ih.map_add _

/-! ## Blank lines at the end -/

theorem runLines_append_of_blank {ending : Option StreamError} {last : List Line}
    (hsink : sink.Reliable) (h : ∀ line ∈ last, isBlankLine line = true) :
    runLines config kinds ending sink number (lines ++ last) =
      runLines config kinds ending sink number lines := by
  induction lines using config.stop_induction generalizing number with
  | nil =>
      induction last generalizing number with
      | nil => rfl
      | cons line last ih =>
          obtain ⟨hline, hlast⟩ := List.forall_mem_cons.mp h
          rw [List.nil_append, runLines_cons_of_blank hline, runLines_nil hsink,
            ← List.nil_append last, ih hlast, runLines_nil hsink]
  | blank line rest hblank ih =>
      rw [List.cons_append, runLines_cons_of_blank hblank,
        runLines_cons_of_blank hblank, ih]
  | stop line rest hblank hstop =>
      rw [List.cons_append, runLines_cons_of_stop hsink hblank hstop,
        runLines_cons_of_stop hsink hblank hstop]
  | pass line rest hblank hstop ih =>
      rw [List.cons_append, runLines_cons_of_pass hsink hblank hstop,
        runLines_cons_of_pass hsink hblank hstop, ih]

end Runs

end ControlStream

import ControlStream.Proofs.Bytes.LongestText
import ControlStream.Proofs.Stream.AnySink
import ControlStream.Proofs.Stream.FirstFault
import ControlStream.Proofs.Text.Decimal

/-!
# Lines of text

No character but the line feed has the byte of a line feed in it. So splitting at line feeds makes
text of text and of nothing else, and the fault of a line stands at the place in the capture where
the text of the capture ends.
-/

namespace ControlStream

open Utf8 (IsText IsLongestText)

/-! ## Text that is cut at line feeds -/

namespace Utf8

variable {line : Line} {bytes tail : List UInt8}

theorem toNat_lineFeed_lt : lineFeed.toNat < 0x80 := by decide

theorem isText_ended (h : IsText line) : IsText line.ended :=
  h.append (isText_encodeChar '\n')

theorem isText_flatMap_ended {lines : List Line} (h : ∀ line ∈ lines, IsText line) :
    IsText (lines.flatMap Line.ended) := by
  induction lines with
  | nil => exact isText_nil
  | cons line lines ih =>
      obtain ⟨hline, hlines⟩ := List.forall_mem_cons.mp h
      rw [List.flatMap_cons]
      exact (isText_ended hline).append (ih hlines)

theorem isText_ended_append_iff : IsText (line.ended ++ tail) ↔ IsText line ∧ IsText tail := by
  constructor
  · intro h
    have hline : IsText line := by
      rw [Line.ended, List.append_assoc] at h
      exact h.of_append_cons toNat_lineFeed_lt
    exact ⟨hline, (isText_ended hline).of_append h⟩
  · rintro ⟨hline, htail⟩
    exact (isText_ended hline).append htail

theorem isText_flatMap_ended_append_iff {lines : List Line} :
    IsText (lines.flatMap Line.ended ++ tail) ↔ (∀ line ∈ lines, IsText line) ∧ IsText tail := by
  induction lines with
  | nil => simp
  | cons line lines ih =>
      rw [List.flatMap_cons, List.append_assoc, isText_ended_append_iff, ih, List.forall_mem_cons,
        and_assoc]

/-- The end of the longest text in a line that is no text is not moved by what stands behind the
line. -/
theorem IsLongestText.append_ended {length : Nat} (h : IsLongestText length line)
    (hline : ¬IsText line) (htail : tail = [] ∨ ∃ later, tail = lineFeed :: later) :
    IsLongestText length (line ++ tail) where
  within := by
    rw [List.length_append]
    exact Nat.le_trans h.within (Nat.le_add_right _ _)
  isText := by
    rw [List.take_append_of_le_length h.within]
    exact h.isText
  longest := by
    intro start hstart htext
    rcases prefix_append_cases hstart with hshort | ⟨behind, rfl, hbehind⟩
    · exact h.longest start hshort htext
    · -- A text that goes past the line would cut it off at a line feed.
      exfalso
      cases behind with
      | nil =>
          rw [List.append_nil] at htext
          exact hline htext
      | cons byte behind =>
          rcases htail with rfl | ⟨later, rfl⟩
          · simp at hbehind
          · rw [(List.cons_prefix_cons.mp hbehind).1] at htext
            exact hline (htext.of_append_cons toNat_lineFeed_lt)

end Utf8

namespace Line

variable {line : Line} {cause : Utf8.Malformed}

theorem message_eq_utf8_iff :
    message line = .error (.utf8 cause) ↔ Utf8.decode line = .error cause :=
  message_eq_error_iff

theorem message_ne_utf8_of_isText (h : IsText line) : message line ≠ .error (.utf8 cause) := by
  intro hmessage
  exact Utf8.not_isText_iff.mpr ⟨cause, message_eq_utf8_iff.mp hmessage⟩ h

end Line

namespace Source

variable {bytes : List UInt8} {before after : List Line} {line : Line}

theorem isText_bytes_iff :
    IsText bytes ↔ ∀ line ∈ ({ bytes } : Source).lines, IsText line := by
  have hsplit : IsText bytes ↔
      (∀ line ∈ (splitLines bytes).1, IsText line) ∧ IsText (splitLines bytes).2 := by
    rw [← Utf8.isText_flatMap_ended_append_iff, ← (splitLines_spec bytes).1]
  rw [hsplit, lines_of_not_failing rfl]
  by_cases hrest : (splitLines bytes).2 = []
  · simp [hrest, Utf8.isText_nil]
  · simp [hrest, or_imp, forall_and]

theorem mem_lines_of_failing {failure : Option String}
    (h : line ∈ ({ bytes, failure } : Source).lines) : line ∈ ({ bytes } : Source).lines := by
  rw [lines_of_not_failing rfl]
  unfold lines at h
  dsimp only at h
  split at h
  · exact List.mem_append_left _ h
  · next hgoes =>
      have hrest : (splitLines bytes).2 ≠ [] := fun hempty => hgoes (.inr hempty)
      simpa [hrest] using h

/-- Each line stands in the bytes behind the lines before it, and ends at a line feed or with
the bytes. -/
theorem exists_bytes_eq (h : ({ bytes } : Source).lines = before ++ line :: after) :
    ∃ tail, bytes = before.flatMap Line.ended ++ (line ++ tail) ∧
      (tail = [] ∨ ∃ later, tail = lineFeed :: later) := by
  obtain ⟨hbytes, -, -⟩ := splitLines_spec bytes
  rw [lines_of_not_failing rfl] at h
  dsimp only at h
  generalize (splitLines bytes).1 = whole at h hbytes
  generalize (splitLines bytes).2 = rest at h hbytes
  have hwhole : ∀ later, whole = before ++ line :: later → ∃ tail,
      bytes = before.flatMap Line.ended ++ (line ++ tail) ∧
        (tail = [] ∨ ∃ later, tail = lineFeed :: later) := by
    rintro later rfl
    refine ⟨lineFeed :: (later.flatMap Line.ended ++ rest), ?_, .inr ⟨_, rfl⟩⟩
    simpa [Line.ended] using hbytes
  by_cases hrest : rest = []
  · exact hwhole after (by simpa [hrest] using h)
  · rw [List.filter_cons_of_pos (by simpa using hrest), List.filter_nil] at h
    have hlast : line = rest → before = whole → ∃ tail,
        bytes = before.flatMap Line.ended ++ (line ++ tail) ∧
          (tail = [] ∨ ∃ later, tail = lineFeed :: later) := by
      rintro rfl rfl
      exact ⟨[], by rw [List.append_nil]; exact hbytes, .inl rfl⟩
    rcases List.append_eq_append_iff.mp h with ⟨later, rfl, hlater⟩ | ⟨later, rfl, hlater⟩
    · rcases List.cons_eq_append_iff.mp hlater with ⟨rfl, hline⟩ | ⟨_, _, hnone⟩
      · exact hlast (List.cons.inj hline).1 (List.append_nil _)
      · simp at hnone
    · rcases List.cons_eq_append_iff.mp hlater with ⟨rfl, hline⟩ | ⟨later, rfl, _⟩
      · exact hlast (List.cons.inj hline).1.symm (List.append_nil _).symm
      · exact hwhole later rfl

end Source

/-- Where a capture is no text, its first line that is none has the fault, and the text of the
capture ends at the place that the fault tells. -/
theorem Source.exists_first_fault {bytes : List UInt8} (h : ¬IsText bytes) :
    ∃ before line after cause, ({ bytes } : Source).lines = before ++ line :: after ∧
      (∀ earlier ∈ before, IsText earlier) ∧ ¬IsText line ∧
      Line.message line = .error (.utf8 cause) ∧
      before.flatMap Line.ended ++ line <+: bytes ∧
      IsLongestText ((before.flatMap Line.ended).length + cause.index) bytes := by
  classical
  obtain ⟨line, hfirst⟩ : ∃ line,
      ({ bytes } : Source).lines.find? (fun line => decide ¬IsText line) = some line := by
    rw [isText_bytes_iff] at h
    rw [← Option.isSome_iff_exists, List.find?_isSome]
    simpa only [decide_eq_true_eq, not_forall, exists_prop] using h
  obtain ⟨hfaulty, before, after, hlines, hbefore⟩ := List.find?_eq_some_iff_append.mp hfirst
  have hline : ¬IsText line := by simpa using hfaulty
  have hearlier : ∀ earlier ∈ before, IsText earlier := by simpa using hbefore
  obtain ⟨cause, hcause⟩ := Utf8.not_isText_iff.mp hline
  obtain ⟨tail, hbytes, htail⟩ := exists_bytes_eq hlines
  have hlongest : IsLongestText cause.index (line ++ tail) :=
    (Utf8.isLongestText_of_decode_eq_error hcause).append_ended hline htail
  refine ⟨before, line, after, cause, hlines, hearlier, hline,
    Line.message_eq_utf8_iff.mpr hcause, ⟨tail, ?_⟩, ?_⟩
  · rw [hbytes, List.append_assoc]
  · rw [hbytes]
    exact hlongest.append (Utf8.isText_flatMap_ended hearlier)

/-! ## Messages about faults -/

theorem DecodeError.head?_message_ne (cause : DecodeError) :
    cause.message.toList.head? ≠ some 'i' := by
  have happend : ∀ (label text : String) (c : Char), label.toList.head? = some c →
      (label ++ text).toList.head? = some c := by
    intro label text c h
    rw [String.toList_append, List.head?_append, h]
    rfl
  unfold message
  simp only [String.append_assoc]
  cases cause <;> (rw [happend _ _ _ rfl]; decide)

namespace LineFault

/-- The message about bytes that are no text is like no other message about a line. -/
theorem exists_utf8_of_message [Json.Wording] {fault : LineFault} {cause : Utf8.Malformed}
    (h : fault.message = (LineFault.utf8 cause).message) : ∃ found, fault = .utf8 found := by
  have hstart : fault.message.toList.take 9 = "invalid u".toList := by
    rw [h, message, String.toList_append]
    rfl
  cases fault with
  | utf8 found => exact ⟨found, rfl⟩
  | notJson text =>
      rw [message, String.toList_append, List.take_append_of_le_length (by decide)] at hstart
      exact absurd hstart (by decide)
  | decode cause =>
      have hhead := congrArg List.head? hstart
      rw [List.head?_take, if_neg (by decide)] at hhead
      exact absurd hhead cause.head?_message_ne

end LineFault

theorem StreamError.message_line_inj [Json.Wording] {number place : Nat} {fault found : LineFault}
    (h : (line number fault).message = (line place found).message) :
    number = place ∧ fault.message = found.message := by
  have hcolon : ∀ text : String, (": " ++ text).toList.head?.any Char.isDigit = false := by
    intro text
    rw [String.toList_append]
    rfl
  simp only [message, String.append_assoc, String.append_right_inj] at h
  obtain ⟨hnumber, hmessage⟩ := Text.toString_append_inj (hcolon _) (hcolon _) h
  exact ⟨hnumber, (String.append_right_inj _).mp hmessage⟩

/-- A record about a line that is skipped as no text is about nothing else. -/
theorem LogRecord.exists_utf8_of_ofSkip [Json.Wording] {number place : Nat} {fault : LineFault}
    {cause : Utf8.Malformed}
    (h : ofSkip (.line place fault) = ofSkip (.line number (.utf8 cause))) :
    ∃ found, fault = .utf8 found := by
  have htext := congrArg LogRecord.text h
  exact LineFault.exists_utf8_of_message
    (StreamError.message_line_inj ((String.append_right_inj _).mp htext)).2

/-! ## Runs -/

/-- Over lines of text, no run fails at one as no text, or says that it skips one as such. -/
theorem run_of_text_lines [Json.Wording] {source : Source} (h : ∀ line ∈ source.lines, IsText line)
    (config : StreamConfig) (sink : Sink) (number : Nat) (cause : Utf8.Malformed) :
    (run config source sink).result ≠ .error (.line number (.utf8 cause)) ∧
      LogRecord.ofSkip (.line number (.utf8 cause)) ∉ (run config source sink).logs := by
  cases hkinds : config.kindFilter with
  | error fault => simp [run, hkinds, Outcome.finished]
  | ok kinds =>
      rw [run_of_kindFilter hkinds]
      constructor
      · intro hresult
        obtain ⟨line, hmem, hmessage⟩ := exists_message_of_lineError hresult
        exact Line.message_ne_utf8_of_isText (h line hmem) hmessage
      · intro hlog
        have hskip := skips_runLines_prefix.subset (List.mem_filter.mpr ⟨hlog, rfl⟩)
        obtain ⟨error, herror, hrecord⟩ := List.mem_map.mp hskip
        obtain ⟨place, fault, rfl⟩ := StreamConfig.exists_line_of_mem_skipped herror
        obtain ⟨-, before, line, after, hlines, -, -, hmessage, -⟩ :=
          StreamConfig.line_mem_skipped_iff.mp herror
        have hmem : line ∈ source.lines := hlines ▸ List.mem_append_right _ List.mem_cons_self
        obtain ⟨found, rfl⟩ := LogRecord.exists_utf8_of_ofSkip hrecord
        exact Line.message_ne_utf8_of_isText (h line hmem) hmessage

/-- A capture is text exactly when all of its lines are. Where it is none, the first of its lines
that is none has a fault, and the start of the line in the capture and the place that the fault
tells make the length of the longest text that the capture begins with. Where it is text, no run
over it, on whatever sink and whether the reader fails behind it or not, fails at a line as no text
or logs that it skips one as such. -/
theorem splitting_keeps_text [Json.Wording] (bytes : List UInt8) :
    let lines := ({ bytes } : Source).lines
    (IsText bytes ↔ ∀ line ∈ lines, IsText line) ∧
      (¬IsText bytes → ∃ before line after cause, lines = before ++ line :: after ∧
        (∀ earlier ∈ before, IsText earlier) ∧ ¬IsText line ∧
        Line.message line = .error (.utf8 cause) ∧
        before.flatMap Line.ended ++ line <+: bytes ∧
        IsLongestText ((before.flatMap Line.ended).length + cause.index) bytes) ∧
      (IsText bytes → ∀ config failure sink number cause,
        let outcome := run config { bytes, failure } sink
        outcome.result ≠ .error (.line number (.utf8 cause)) ∧
          LogRecord.ofSkip (.line number (.utf8 cause)) ∉ outcome.logs) := by
  intro lines
  refine ⟨Source.isText_bytes_iff, Source.exists_first_fault, ?_⟩
  intro htext config failure sink number cause
  apply run_of_text_lines
  intro line hmem
  exact Source.isText_bytes_iff.mp htext line (Source.mem_lines_of_failing hmem)

/-- A line of text, and one whose last character is cut off. -/
def cutCharacter : List UInt8 := Utf8.encode "é\na" ++ [0xE2, 0x82, lineFeed]

/-- The fault of the second line is told from the start of the line, three bytes behind the start
of the capture. -/
theorem splitting_keeps_text_cutCharacter :
    let lines := ({ bytes := cutCharacter } : Source).lines
    let typed : Source := { bytes := Utf8.encode "é\nx" }
    ¬IsText cutCharacter ∧
      (∃ before line after cause, lines = before ++ line :: after ∧
        (∀ earlier ∈ before, IsText earlier) ∧ Line.message line = .error (.utf8 cause) ∧
        IsLongestText ((before.flatMap Line.ended).length + cause.index) cutCharacter) ∧
      lines = [Utf8.encode "é", [0x61, 0xE2, 0x82]] ∧
      Line.message [0x61, 0xE2, 0x82] = .error (.utf8 (.incomplete 1)) ∧
      (run {} typed {}).result = .error (.line 1 (.notJson ['é'])) ∧
      ∀ cause, (run {} typed {}).result ≠ .error (.line 1 (.utf8 cause)) := by
  intro lines typed
  have hfault : ¬IsText cutCharacter := Utf8.not_isText_iff.mpr ⟨.sequence 2 4, by rfl⟩
  obtain ⟨before, line, after, cause, hlines, hbefore, -, hmessage, -, hlongest⟩ :=
    (splitting_keeps_text cutCharacter).2.1 hfault
  refine ⟨hfault, ⟨before, line, after, cause, hlines, hbefore, hmessage, hlongest⟩, by rfl, by rfl,
    by rfl, ?_⟩
  intro cause
  exact ((splitting_keeps_text typed.bytes).2.2 ⟨_, rfl⟩ {} none {} 1 cause).1

end ControlStream

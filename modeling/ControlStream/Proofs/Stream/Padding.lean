import ControlStream.Proofs.Bytes.LongestText
import ControlStream.Proofs.Json.Padding
import ControlStream.Proofs.Stream.Alike
import ControlStream.Proofs.Stream.Blank
import ControlStream.Proofs.Stream.KeepGoing
import ControlStream.Proofs.Stream.Lines

/-!
# White space around lines

Spaces, tabs and carriage returns around a line are blanks of the line and white space of JSON, and
they neither end a line nor stand inside a character. So a line with such padding is like the line
without it, and captures that differ in padding make the same run.
-/

namespace ControlStream

/-! ## Padded lines -/

/-- Spaces, tabs and carriage returns. -/
def isPadByte (byte : UInt8) : Bool := byte == 0x20 || byte == 0x09 || byte == 0x0D

/-- The second line is the first with padding around it. -/
def Line.PaddedTo (line padded : Line) : Prop :=
  ∃ before after : List UInt8, (∀ byte ∈ before, isPadByte byte = true) ∧
    (∀ byte ∈ after, isPadByte byte = true) ∧ padded = before ++ line ++ after

theorem isPadByte_cases {byte : UInt8} (h : isPadByte byte = true) :
    byte.toNat < 0x80 ∧ isBlankByte byte = true ∧ byte ≠ lineFeed ∧
      Json.isSpace (Char.ofNat byte.toNat) = true := by
  simp only [isPadByte, Bool.or_eq_true, beq_iff_eq] at h
  rcases h with (rfl | rfl) | rfl <;> decide

section Pad

variable {pad : List UInt8}

theorem isBlankLine_of_pad (h : ∀ byte ∈ pad, isPadByte byte = true) : isBlankLine pad = true :=
  List.all_eq_true.mpr fun byte hmem => (isPadByte_cases (h byte hmem)).2.1

theorem lineFeed_notMem_of_pad (h : ∀ byte ∈ pad, isPadByte byte = true) : lineFeed ∉ pad :=
  fun hmem => (isPadByte_cases (h lineFeed hmem)).2.2.1 rfl

theorem toNat_lt_of_pad (h : ∀ byte ∈ pad, isPadByte byte = true) :
    ∀ byte ∈ pad, byte.toNat < 0x80 :=
  fun byte hmem => (isPadByte_cases (h byte hmem)).1

/-- Padding is a text of white space. -/
theorem exists_decode_of_pad (h : ∀ byte ∈ pad, isPadByte byte = true) :
    ∃ space, Utf8.decode pad = .ok space ∧ ∀ c ∈ space, Json.isSpace c = true := by
  refine ⟨pad.map fun byte => Char.ofNat byte.toNat, ?_, ?_⟩
  · exact Utf8.decodeFrom_ascii (toNat_lt_of_pad h) 0 []
  · intro c hmem
    obtain ⟨byte, hbyte, rfl⟩ := List.mem_map.mp hmem
    exact (isPadByte_cases (h byte hbyte)).2.2.2

end Pad

namespace Line.PaddedTo

variable {line padded : Line}

theorem refl (line : Line) : line.PaddedTo line := ⟨[], [], by simp, by simp, by simp⟩

theorem ne_nil (h : line.PaddedTo padded) (hne : line ≠ []) : padded ≠ [] := by
  obtain ⟨before, after, -, -, rfl⟩ := h
  simp [hne]

theorem isBlankLine_eq (h : line.PaddedTo padded) : isBlankLine padded = isBlankLine line := by
  obtain ⟨before, after, hbefore, hafter, rfl⟩ := h
  have hfront : before.all isBlankByte = true := isBlankLine_of_pad hbefore
  have hback : after.all isBlankByte = true := isBlankLine_of_pad hafter
  simp only [isBlankLine, List.all_append, hfront, hback, Bool.true_and, Bool.and_true]

theorem lineFeed_notMem (h : line.PaddedTo padded) (hline : lineFeed ∉ line) :
    lineFeed ∉ padded := by
  obtain ⟨before, after, hbefore, hafter, rfl⟩ := h
  simp only [List.mem_append, not_or]
  exact ⟨⟨lineFeed_notMem_of_pad hbefore, hline⟩, lineFeed_notMem_of_pad hafter⟩

/-- Padding makes no text of bytes that are none. -/
theorem isText (h : line.PaddedTo padded) (htext : Utf8.IsText padded) : Utf8.IsText line := by
  obtain ⟨before, after, hbefore, hafter, rfl⟩ := h
  obtain ⟨space, hspace, -⟩ := exists_decode_of_pad hbefore
  rw [List.append_assoc] at htext
  have hrest : Utf8.IsText (line ++ after) := .of_append (Utf8.isText_iff.mpr ⟨space, hspace⟩) htext
  exact hrest.of_append_ascii (toNat_lt_of_pad hafter)

/-- A padded line holds the value of the line, or neither holds one. -/
theorem value_cases (h : line.PaddedTo padded) :
    (∃ held, value line = .ok held ∧ value padded = .ok held) ∨
      ∃ fault fault', value line = .error fault ∧ value padded = .error fault' ∧
        fault.Alike fault' := by
  cases hline : Utf8.decode line with
  | error cause =>
      have hnot : ¬Utf8.IsText padded := fun htext =>
        Utf8.not_isText_iff.mpr ⟨cause, hline⟩ (h.isText htext)
      obtain ⟨cause', hpadded⟩ := Utf8.not_isText_iff.mp hnot
      refine .inr ⟨.utf8 cause, .utf8 cause', ?_, ?_, .utf8 cause cause'⟩
      · rw [value, hline]
      · rw [value, hpadded]
  | ok text =>
      obtain ⟨before, after, hbefore, hafter, rfl⟩ := h
      obtain ⟨front, hfront, hfrontSpace⟩ := exists_decode_of_pad hbefore
      obtain ⟨back, hback, hbackSpace⟩ := exists_decode_of_pad hafter
      have hpadded := Utf8.decode_append (Utf8.decode_append hfront hline) hback
      have hread : Json.ofChars? (front ++ text ++ back) = Json.ofChars? text :=
        Json.ofChars?_of_isSpace hfrontSpace hbackSpace text
      rw [value, value, hpadded, hline]
      dsimp only
      rw [hread]
      cases Json.ofChars? text with
      | none => exact .inr ⟨.notJson text, .notJson _, rfl, rfl, .json text _⟩
      | some held => exact .inl ⟨held, rfl, rfl⟩

theorem alike (h : line.PaddedTo padded) : line.Alike padded where
  blank := h.isBlankLine_eq
  message := by
    rcases h.value_cases with ⟨held, hline, hpadded⟩ | ⟨fault, fault', hline, hpadded, halike⟩
    · have hmessage : message padded = message line := by rw [message, hpadded, message, hline]
      cases hline : message line with
      | ok held => exact .inl ⟨held, rfl, hmessage.trans hline⟩
      | error fault => exact .inr ⟨fault, fault, rfl, hmessage.trans hline, .refl fault⟩
    · refine .inr ⟨fault, fault', ?_, ?_, halike⟩
      · rw [message, hline]
        rfl
      · rw [message, hpadded]
        rfl

end Line.PaddedTo

/-! ## Padded captures -/

/-- The second capture is the first with padding around its lines, and possibly with a line feed
more at its end. What follows the last line feed may be padded too, when it is empty. -/
def LinesPaddedTo (bytes padded : List UInt8) : Prop :=
  ∃ (whole : List Line) (rest : Line),
    List.Forall₂ Line.PaddedTo (splitLines bytes).1 whole ∧
      (splitLines bytes).2.PaddedTo rest ∧
      (padded = whole.flatMap Line.ended ++ rest ∨ padded = whole.flatMap Line.ended ++ rest.ended)

def withReturns (bytes : List UInt8) : List UInt8 :=
  bytes.flatMap fun byte => if byte = lineFeed then [0x0D, lineFeed] else [byte]

theorem withReturns_append (bytes bytes' : List UInt8) :
    withReturns (bytes ++ bytes') = withReturns bytes ++ withReturns bytes' :=
  List.flatMap_append

theorem withReturns_of_notMem {line : Line} (h : lineFeed ∉ line) : withReturns line = line := by
  induction line with
  | nil => rfl
  | cons byte line ih =>
      have hbyte : byte ≠ lineFeed := fun heq => h (heq ▸ List.mem_cons_self)
      have hline := ih fun hmem => h (List.mem_cons_of_mem byte hmem)
      rw [withReturns] at hline
      rw [withReturns, List.flatMap_cons, if_neg hbyte, hline]
      rfl

theorem withReturns_flatMap_ended {whole : List Line} (h : ∀ line ∈ whole, lineFeed ∉ line) :
    withReturns (whole.flatMap Line.ended) =
      (whole.map fun line => line ++ [0x0D]).flatMap Line.ended := by
  induction whole with
  | nil => rfl
  | cons line whole ih =>
      obtain ⟨hline, hwhole⟩ := List.forall_mem_cons.mp h
      rw [List.flatMap_cons, withReturns_append, ih hwhole, List.map_cons, List.flatMap_cons,
        Line.ended, withReturns_append, withReturns_of_notMem hline]
      simp [withReturns, Line.ended]

/-- Line ends of two bytes are padding. -/
theorem linesPaddedTo_withReturns (bytes : List UInt8) :
    LinesPaddedTo bytes (withReturns bytes) := by
  obtain ⟨hbytes, hwhole, hrest⟩ := splitLines_spec bytes
  refine ⟨(splitLines bytes).1.map fun line => line ++ [0x0D], (splitLines bytes).2, ?_,
    .refl _, .inl ?_⟩
  · rw [List.forall₂_map_right_iff, List.forall₂_same]
    intro line _
    exact ⟨[], [0x0D], by simp, List.forall_mem_singleton.mpr rfl, by simp⟩
  · rw [← withReturns_flatMap_ended hwhole]
    nth_rewrite 1 [hbytes]
    rw [withReturns_append, withReturns_of_notMem hrest]

theorem lineFeed_notMem_of_forall₂ {lines padded : List Line}
    (h : List.Forall₂ Line.PaddedTo lines padded) (hlines : ∀ line ∈ lines, lineFeed ∉ line) :
    ∀ line ∈ padded, lineFeed ∉ line := by
  induction h with
  | nil => exact hlines
  | cons hline hrest ih =>
      obtain ⟨hfirst, hothers⟩ := List.forall_mem_cons.mp hlines
      exact List.forall_mem_cons.mpr ⟨hline.lineFeed_notMem hfirst, ih hothers⟩

namespace LinesPaddedTo

variable {bytes padded : List UInt8}

/-- The last line of a padded capture is there, ended or not, unless it is empty. -/
theorem lines_eq {whole : List Line} {rest : Line} (hwhole : ∀ line ∈ whole, lineFeed ∉ line)
    (hrest : lineFeed ∉ rest)
    (h : padded = whole.flatMap Line.ended ++ rest ∨
      padded = whole.flatMap Line.ended ++ rest.ended) :
    ({ bytes := padded } : Source).lines = whole ++ [rest] ∨
      rest = [] ∧ ({ bytes := padded } : Source).lines = whole := by
  rcases h with rfl | rfl
  · rw [Source.lines_of_not_failing rfl, splitLines_flatMap_ended hwhole hrest]
    by_cases hempty : rest = []
    · exact .inr ⟨hempty, by simp [hempty]⟩
    · exact .inl (by simp [hempty])
  · have hlines : ∀ line ∈ whole ++ [rest], lineFeed ∉ line := by
      intro line hmem
      rcases List.mem_append.mp hmem with hmem | hmem
      · exact hwhole line hmem
      · exact List.mem_singleton.mp hmem ▸ hrest
    have hended : whole.flatMap Line.ended ++ rest.ended =
        (Source.ofLines (whole ++ [rest])).bytes := by
      simp [Source.ofLines]
    rw [hended]
    exact .inl (Source.lines_ofLines hlines)

/-- The lines of a padded capture are like those of the capture, but for blank ones at the end. -/
theorem exists_alike (h : LinesPaddedTo bytes padded) :
    ∃ lines last, ({ bytes := padded } : Source).lines = lines ++ last ∧
      List.Forall₂ Line.Alike ({ bytes } : Source).lines lines ∧
      ∀ line ∈ last, isBlankLine line = true := by
  obtain ⟨whole, rest, hpadded, hrest, hbytes⟩ := h
  obtain ⟨-, hlines, hlast⟩ := splitLines_spec bytes
  have halike : List.Forall₂ Line.Alike (splitLines bytes).1 whole :=
    hpadded.imp fun _ _ hline => hline.alike
  have hsplit := lines_eq (lineFeed_notMem_of_forall₂ hpadded hlines) (hrest.lineFeed_notMem hlast)
    hbytes
  have hsource : ({ bytes } : Source).lines =
      (splitLines bytes).1 ++ [(splitLines bytes).2].filter (· ≠ []) :=
    Source.lines_of_not_failing rfl
  by_cases hempty : (splitLines bytes).2 = []
  · have hblank : isBlankLine rest = true := by
      rw [hrest.isBlankLine_eq, hempty]
      rfl
    have hwhole : ({ bytes } : Source).lines = (splitLines bytes).1 := by
      simp [hsource, hempty]
    rw [hwhole]
    rcases hsplit with hsplit | ⟨-, hsplit⟩
    · exact ⟨whole, [rest], hsplit, halike, by simpa using hblank⟩
    · exact ⟨whole, [], by rw [hsplit, List.append_nil], halike, by simp⟩
  · have hsome : rest ≠ [] := hrest.ne_nil hempty
    have hwhole : ({ bytes } : Source).lines = (splitLines bytes).1 ++ [(splitLines bytes).2] := by
      simp [hsource, hempty]
    rw [hwhole]
    rcases hsplit with hsplit | ⟨hnone, -⟩
    · refine ⟨whole ++ [rest], [], by rw [hsplit, List.append_nil], ?_, by simp⟩
      exact List.rel_append halike (.cons hrest.alike .nil)
    · exact absurd hnone hsome

end LinesPaddedTo

/-! ## Runs -/

/-- Spaces, tabs and carriage returns around the lines of a capture, and a line feed more at its
end, change nothing of what a run writes and passes on of the node's log. The run ends well
exactly if the run over the capture does, and counts the same. Otherwise it fails at the same line
with the same fault, up to the place in bytes that are no text and the text that is no JSON, or both
do not know a kind. -/
theorem run_padded [Json.Wording] {sink : Sink} {bytes padded : List UInt8} (hsink : sink.Reliable)
    (h : LinesPaddedTo bytes padded) (config : StreamConfig) :
    let outcome := run config { bytes } sink
    let outcome' := run config { bytes := padded } sink
    outcome'.output = outcome.output ∧ outcome'.nodeRecords = outcome.nodeRecords ∧
      ((∃ summary, outcome.result = .ok summary ∧ outcome'.result = .ok summary) ∨
        (∃ number fault fault', outcome.result = .error (.line number fault) ∧
          outcome'.result = .error (.line number fault') ∧ fault.Alike fault') ∨
        ∃ cause, config.kindFilter = .error cause ∧
          outcome.result = .error (.kindFilter cause) ∧
          outcome'.result = .error (.kindFilter cause)) := by
  intro outcome outcome'
  cases hkinds : config.kindFilter with
  | error cause =>
      have hrun : ∀ source, run config source sink = .finished (some (.kindFilter cause)) := by
        intro source
        simp only [run, hkinds]
      have hsame : outcome' = outcome := (hrun _).trans (hrun _).symm
      have hresult : outcome.result = .error (.kindFilter cause) := congrArg _ (hrun _)
      rw [hsame]
      exact ⟨rfl, rfl, .inr (.inr ⟨cause, rfl, hresult, hresult⟩)⟩
  | ok kinds =>
      obtain ⟨lines, last, hlines, halike, hlast⟩ := h.exists_alike
      have hrun : outcome = runLines config kinds none sink 1 ({ bytes } : Source).lines :=
        run_eq_runLines hkinds rfl
      have hrun' : outcome' = runLines config kinds none sink 1 lines := by
        rw [← runLines_append_of_blank hsink hlast, ← hlines]
        exact run_eq_runLines hkinds rfl
      have hreached : List.Forall₂ Line.Alike (config.reached ({ bytes } : Source).lines)
          (config.reached lines) := StreamConfig.reached_alike halike
      have hresult : ResultsAlike outcome.result outcome'.result := by
        rw [hrun, hrun']
        exact resultsAlike_of_alike hkinds hsink halike
      refine ⟨?output, ?records, ?result⟩
      case output =>
        rw [hrun, hrun', output_runLines hkinds hsink, output_runLines hkinds hsink,
          StreamConfig.printed_alike hreached]
      case records =>
        rw [hrun, hrun', nodeRecords_runLines hsink, nodeRecords_runLines hsink,
          StreamConfig.flatMap_forwardedBy_alike hreached]
      case result =>
        rcases hresult.ok_or_line with hok | hline
        · exact .inl hok
        · exact .inr (.inl hline)

/-- With line ends of two bytes, a run skips and shows the same. A character that is cut at the end
of the capture is cut by the padding too, if at another place. -/
theorem run_padded_of_faultyCapture :
    let lenient := StreamConfig.lenient {}
    let source : Source := { bytes := faultyCapture.bytes }
    let returned : Source := { bytes := withReturns faultyCapture.bytes }
    let cut : Source := { bytes := [0xC3] }
    let padded : Source := { bytes := [0x20, 0xC3, 0x0D, lineFeed] }
    (run lenient source {}).result = .ok ⟨5, 2, 0, 0, 3, true⟩ ∧
      (run lenient returned {}).result = .ok ⟨5, 2, 0, 0, 3, true⟩ ∧
      (run lenient returned {}).output = (run lenient source {}).output ∧
      (run lenient returned {}).nodeRecords = (run lenient source {}).nodeRecords ∧
      (run {} cut {}).result = .error (.line 1 (.utf8 (.incomplete 0))) ∧
      ∃ fault, (run {} padded {}).result = .error (.line 1 fault) ∧
        LineFault.Alike (.utf8 (.incomplete 0)) fault := by
  intro lenient source returned cut padded
  have hsink : Sink.Reliable {} := ⟨rfl, rfl⟩
  have hpadded : LinesPaddedTo cut.bytes padded.bytes :=
    ⟨[], [0x20, 0xC3, 0x0D], .nil, ⟨[0x20], [0x0D], List.forall_mem_singleton.mpr rfl,
      List.forall_mem_singleton.mpr rfl, rfl⟩, .inr rfl⟩
  have hok : (run lenient source {}).result = .ok ⟨5, 2, 0, 0, 3, true⟩ := by rfl
  have hcut : (run {} cut {}).result = .error (.line 1 (.utf8 (.incomplete 0))) := by rfl
  obtain ⟨houtput, hrecords, hresult⟩ :=
    run_padded hsink (linesPaddedTo_withReturns source.bytes) lenient
  obtain ⟨-, -, hfault⟩ := run_padded hsink hpadded {}
  refine ⟨hok, ?_, houtput, hrecords, hcut, ?_⟩
  · rcases hresult with ⟨summary, hsummary, hsame⟩ | ⟨_, _, _, herror, _⟩ | ⟨_, _, herror, _⟩
    · cases hok.symm.trans hsummary
      exact hsame
    · cases hok.symm.trans herror
    · cases hok.symm.trans herror
  · rcases hfault with ⟨_, hsummary, _⟩ | ⟨number, fault, fault', herror, hsame, halike⟩ |
      ⟨_, _, herror, _⟩
    · cases hcut.symm.trans hsummary
    · cases hcut.symm.trans herror
      exact ⟨fault', hsame, halike⟩
    · cases hcut.symm.trans herror

end ControlStream

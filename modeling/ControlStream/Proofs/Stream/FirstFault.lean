import ControlStream.Proofs.Stream.Blank
import ControlStream.Proofs.Stream.Forwarded
import ControlStream.Proofs.Stream.Lines
import ControlStream.Proofs.Wire.Carries

/-!
# The first fault

A strict run fails at the first faulty line, unless a shutdown comes before it. The line is told by
its place among all lines, and the run leaves behind what the run over the lines before it does.
-/

namespace ControlStream

namespace Line

/-- The fault of a line: no UTF-8, else no JSON, else no message. -/
def HasFault (line : Line) : LineFault → Prop
  | .utf8 cause => Utf8.decode line = .error cause
  | .notJson text => Utf8.decode line = .ok text ∧ Json.ofChars? text = none
  | .decode cause => ∃ text value, Utf8.decode line = .ok text ∧
      Json.ofChars? text = some value ∧ Message.read value = .error cause

theorem message_eq_error_iff {line : Line} {fault : LineFault} :
    message line = .error fault ↔ line.HasFault fault := by
  unfold message value
  cases htext : Utf8.decode line with
  | error cause => cases fault <;> simp [HasFault, htext, bind, Except.bind]
  | ok text =>
      cases hvalue : Json.ofChars? text with
      | none =>
          cases fault <;> simp [HasFault, htext, hvalue, bind, Except.bind]
          intro hfound
          exact hfound ▸ hvalue
      | some value =>
          cases hmessage : Message.read value <;> cases fault <;>
            simp [HasFault, htext, hvalue, hmessage]
          all_goals
            intro hfound
            simp [← hfound, hvalue]

theorem isFaulty_iff {line : Line} :
    line.isFaulty = true ↔ ∃ fault, message line = .error fault := by
  unfold isFaulty
  cases message line <;> simp

end Line

section Runs

variable {config : StreamConfig} {kinds : List UpdateKind} {sink : Sink} {line : Line}
  {before rest : List Line} {fault : LineFault}

theorem Step.ofLine_of_fault [Json.Wording] (number : Nat) (hstrict : config.keepGoing = false)
    (hblank : isBlankLine line = false) (hfault : Line.message line = .error fault) :
    ofLine config kinds number line =
      { counted := { lines := 1 }
        before := Line.notes line
        failure := some (.line number fault) } := by
  simp [ofLine, hblank, hfault, ofFault, hstrict]

/-- A strict run does not stop at lines that are blank or decode to anything but a shutdown. -/
theorem StreamConfig.passes_iff (hstrict : config.keepGoing = false) :
    (∀ line ∈ before, isBlankLine line = false → config.stopsAt line = false) ↔
      (∀ line ∈ before, isBlankLine line = false → line.isFaulty = false) ∧
        ∀ line ∈ before, line.update? ≠ some .shutdown := by
  constructor
  · intro h
    refine ⟨fun line hmem hblank => ?_, fun line hmem hshutdown => ?_⟩
    · exact (stopsAt_eq_false_iff.mp (h line hmem hblank)).2 hstrict
    · cases hblank : isBlankLine line with
      | true => simp [Line.update?_of_blank hblank] at hshutdown
      | false =>
          have hother := (stopsAt_eq_false_iff.mp (h line hmem hblank)).1
          rw [Line.isShutdown_iff.mpr hshutdown] at hother
          cases hother
  · rintro ⟨hfaultless, hgoing⟩ line hmem hblank
    have hother : line.isShutdown = false :=
      Bool.eq_false_iff.mpr (mt Line.isShutdown_iff.mp (hgoing line hmem))
    exact stopsAt_eq_false_iff.mpr ⟨hother, fun _ => hfaultless line hmem hblank⟩

variable [Json.Wording]

theorem runLines_completes (hkinds : config.kindFilter = .ok kinds) (hsink : sink.Reliable)
    (number : Nat)
    (h : ∀ line ∈ before, isBlankLine line = false → config.stopsAt line = false) :
    (runLines config kinds none sink number before).torn = [] ∧
      ∃ summary, (runLines config kinds none sink number before).result = .ok summary ∧
        summary.shutdown = false := by
  have hpasses : ∀ line ∈ considered before, line.isShutdown = false ∧
      (config.keepGoing = false → line.isFaulty = false) := by
    intro line hmem
    obtain ⟨hin, hblank⟩ := mem_of_mem_considered hmem
    exact StreamConfig.stopsAt_eq_false_iff.mp (h line hin hblank)
  obtain ⟨summary, hresult⟩ : ∃ summary,
      (runLines config kinds none sink number before).result = .ok summary :=
    exists_runLines_eq_ok hsink number fun hstrict line hmem => (hpasses line hmem).2 hstrict
  have hcovers := runLines_covers hkinds hresult
  refine ⟨hcovers.torn, _, hcovers.result, List.any_eq_false.mpr fun line hmem => ?_⟩
  simp [(hpasses line hmem).1]

theorem runLines_append_fault (hkinds : config.kindFilter = .ok kinds) (hsink : sink.Reliable)
    (hstrict : config.keepGoing = false) (number : Nat)
    (h : ∀ line ∈ before, isBlankLine line = false → config.stopsAt line = false)
    (hblank : isBlankLine line = false) (hfault : Line.message line = .error fault) :
    runLines config kinds none sink number (before ++ line :: rest) =
      let head := runLines config kinds none sink number before
      { head with
        logs := head.logs ++ Line.notes line
        result := .error (.line (number + before.length) fault) } := by
  have hstop : config.stopsAt line = true := by
    simp [StreamConfig.stopsAt, hstrict, Line.isFaulty_iff.mpr ⟨fault, hfault⟩]
  obtain ⟨htorn, summary, hresult, -⟩ := runLines_completes hkinds hsink number h
  rw [runLines_append hsink h, runLines_cons_of_stop hsink hblank hstop,
    Step.ofLine_of_fault _ hstrict hblank hfault]
  simp [Outcome.andThen, Outcome.behind, Outcome.finished, htorn, hresult, Except.bind, Except.map]

/-- A run gets past so many lines, and the next one is faulty. -/
def StreamConfig.FailsAfter (config : StreamConfig) (count : Nat) (fault : LineFault)
    (lines : List Line) : Prop :=
  ∃ before line rest, lines = before ++ line :: rest ∧ before.length = count ∧
    isBlankLine line = false ∧ Line.message line = .error fault ∧
    ∀ earlier ∈ before, isBlankLine earlier = false → config.stopsAt earlier = false

theorem failsAfter_of_runLines (hsink : sink.Reliable) {number place : Nat} {lines : List Line}
    (h : (runLines config kinds none sink number lines).result = .error (.line place fault)) :
    ∃ count, place = number + count ∧ config.FailsAfter count fault lines := by
  obtain ⟨before, line, rest, hlines, hplace, hblank, -, hfault, hbefore⟩ :=
    exists_stop_of_lineError hsink none h
  exact ⟨before.length, hplace, before, line, rest, hlines, rfl, hblank, hfault, hbefore⟩

/-- With a source and a sink that do not fail, a strict run fails at a line exactly when it is the
first that is neither blank nor decodes to a message, and no line before it is a shutdown. Its
number counts all lines, the blank ones too. What the run has written and passed on is what the run
over the lines before it does, which ends well and without a shutdown. -/
theorem run_lineFault {source : Source} (hkinds : config.kindFilter = .ok kinds)
    (hstrict : config.keepGoing = false) (hsource : source.failure = none)
    (hsink : sink.Reliable) (number : Nat) (fault : LineFault) :
    ((run config source sink).result = .error (.line number fault) ↔
      ∃ before line after, source.lines = before ++ line :: after ∧
        number = before.length + 1 ∧ isBlankLine line = false ∧ line.HasFault fault ∧
        (∀ earlier ∈ before, isBlankLine earlier = false → earlier.isFaulty = false) ∧
        ∀ earlier ∈ before, earlier.update? ≠ some .shutdown) ∧
      ((run config source sink).result = .error (.line number fault) →
        let start := Source.ofLines (source.lines.take (number - 1))
        let head := run config start sink
        start.bytes <+: source.bytes ∧
          (∃ summary, head.result = .ok summary ∧ summary.shutdown = false) ∧
          (run config source sink).output = head.output ∧
          (run config source sink).nodeRecords = head.nodeRecords) := by
  have hrun : run config source sink = _ := run_eq_runLines hkinds hsource
  have hiff : (run config source sink).result = .error (.line number fault) ↔
      ∃ count, number = 1 + count ∧ config.FailsAfter count fault source.lines := by
    rw [hrun]
    constructor
    · exact failsAfter_of_runLines hsink
    · rintro ⟨_, rfl, before, line, rest, hlines, rfl, hblank, hfault, hbefore⟩
      rw [hlines, runLines_append_fault hkinds hsink hstrict 1 hbefore hblank hfault]
  refine ⟨?_, fun herror => ?_⟩
  · rw [hiff]
    constructor
    · rintro ⟨_, rfl, before, line, rest, hlines, rfl, hblank, hfault, hbefore⟩
      exact ⟨before, line, rest, hlines, Nat.add_comm _ _, hblank,
        Line.message_eq_error_iff.mp hfault, (StreamConfig.passes_iff hstrict).mp hbefore⟩
    · rintro ⟨before, line, rest, hlines, rfl, hblank, hfault, hbefore⟩
      exact ⟨_, Nat.add_comm _ _, before, line, rest, hlines, rfl, hblank,
        Line.message_eq_error_iff.mpr hfault, (StreamConfig.passes_iff hstrict).mpr hbefore⟩
  · obtain ⟨_, rfl, before, line, rest, hlines, rfl, hblank, hfault, hbefore⟩ := hiff.mp herror
    have htake : source.lines.take (1 + before.length - 1) = before := by
      rw [hlines, Nat.add_sub_cancel_left, List.take_left']
      rfl
    have hcount : 1 + before.length - 1 < source.lines.length := by
      rw [hlines, List.length_append, List.length_cons]
      omega
    have hended : ∀ line ∈ before, lineFeed ∉ line := fun line hmem =>
      Source.lineFeed_notMem_of_mem_lines hsource (hlines ▸ List.mem_append_left _ hmem)
    have hhead : run config (.ofLines before) sink = runLines config kinds none sink 1 before := by
      rw [run_eq_runLines hkinds rfl, Source.lines_ofLines hended]
    obtain ⟨-, hcompletes⟩ := runLines_completes hkinds hsink 1 hbefore
    refine ⟨Source.bytes_ofLines_take_prefix hsource hcount, ?_, ?_, ?_⟩
    · rw [htake, hhead]
      exact hcompletes
    · rw [htake, hhead, hrun, hlines,
        runLines_append_fault hkinds hsink hstrict 1 hbefore hblank hfault]
      rfl
    · rw [htake, hhead, hrun, hlines,
        runLines_append_fault hkinds hsink hstrict 1 hbefore hblank hfault]
      simp [Outcome.nodeRecords, Line.ofNode_notes]

end Runs

def brokenCapture : Source :=
  let update := Update.write (.log ⟨.warn, "down", none⟩)
  { bytes := Utf8.encode " \n" ++
      Step.lineOf (update.withMember "type" (.string Message.updateTag)).write ++
      Utf8.encode "\n\x7b\x7d\nx" }

theorem run_lineFault_of_brokenCapture :
    (run {} brokenCapture {}).result = .error (.line 4 (.decode (.missingField "type"))) ∧
      (∃ summary, (run {} (.ofLines (brokenCapture.lines.take 3)) {}).result = .ok summary ∧
        summary.shutdown = false) ∧
      (run {} brokenCapture {}).output =
        (run {} (.ofLines (brokenCapture.lines.take 3)) {}).output ∧
      (run {} brokenCapture {}).nodeRecords = [⟨.warn, LogRecord.nodeTarget, "down"⟩] ∧
      ∃ before line after, brokenCapture.lines = before ++ line :: after ∧ 4 = before.length + 1 ∧
        line.HasFault (.decode (.missingField "type")) := by
  have h : (run {} brokenCapture {}).result =
      .error (.line 4 (.decode (.missingField "type"))) := by rfl
  have hkinds : StreamConfig.kindFilter {} = .ok [] := rfl
  have hsource : brokenCapture.failure = none := rfl
  have hsink : Sink.Reliable {} := ⟨rfl, rfl⟩
  obtain ⟨hiff, hhead⟩ := run_lineFault hkinds rfl hsource hsink 4 (.decode (.missingField "type"))
  obtain ⟨before, line, after, hlines, hnumber, _, hfault, _⟩ := hiff.mp h
  obtain ⟨_, hcompletes, houtput, _⟩ := hhead h
  exact ⟨h, hcompletes, houtput, by rfl, before, line, after, hlines, hnumber, hfault⟩

end ControlStream

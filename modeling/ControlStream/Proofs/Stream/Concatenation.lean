import ControlStream.Proofs.Stream.AfterShutdown
import ControlStream.Proofs.Stream.FirstFault
import ControlStream.Proofs.Stream.Reliable

/-!
# Concatenated captures

A run over one capture behind another is the two runs one behind the other, as long as the first
is cut between lines and comes to no shutdown. What the second run does does not hang on where it
starts, but for the numbers of its lines.
-/

namespace ControlStream

/-- The error as it is when so many lines stand before. -/
def StreamError.shifted (count : Nat) : StreamError → StreamError
  | .line number fault => .line (number + count) fault
  | error => error

namespace Outcome

theorem output_andThen {first : Outcome} (h : first.torn = []) (second : Outcome) :
    (first.andThen second).output = first.output ++ second.output := by
  simp only [output, andThen, h, List.flatMap_append, List.append_nil, List.append_assoc]

theorem nodeRecords_andThen (first second : Outcome) :
    (first.andThen second).nodeRecords = first.nodeRecords ++ second.nodeRecords :=
  LogRecord.ofNode_append _ _

end Outcome

section Runs

variable [Json.Wording]
variable {config : StreamConfig} {kinds : List UpdateKind} {sink : Sink} {number : Nat}
  {lines : List Line}

/-- Only the numbers in errors tell where a run starts. -/
theorem result_runLines_shifted (hkinds : config.kindFilter = .ok kinds) (hsink : sink.Reliable)
    (failure : Option String) (count : Nat) :
    (runLines config kinds (failure.map .io) sink (number + count) lines).result =
      (runLines config kinds (failure.map .io) sink number lines).result.mapError
        (·.shifted count) := by
  induction lines using config.stop_induction generalizing number with
  | nil =>
      rw [runLines_nil hsink, runLines_nil hsink]
      cases failure with
      | none => rfl
      | some text => rfl
  | blank line rest hblank ih =>
      rw [runLines_cons_of_blank hblank, runLines_cons_of_blank hblank,
        Nat.add_right_comm]
      exact ih
  | stop line rest hblank hstop =>
      rw [result_cons_of_stop hkinds hsink hblank hstop,
        result_cons_of_stop hkinds hsink hblank hstop]
      cases Line.message line with
      | error fault => rfl
      | ok message => rfl
  | pass line rest hblank hstop ih =>
      rw [result_cons_of_pass hkinds hsink hblank hstop,
        result_cons_of_pass hkinds hsink hblank hstop, Nat.add_right_comm, ih]
      cases (runLines config kinds (failure.map .io) sink (number + 1) rest).result with
      | error error => rfl
      | ok later => rfl

/-- A run that gets past whole lines goes on behind them as the run over the rest does. -/
theorem run_append_eq_andThen {start : List UInt8} {first : Summary}
    (hkinds : config.kindFilter = .ok kinds) (hsink : sink.Reliable) (hwhole : IsWholeLines start)
    (hfirst : (run config { bytes := start } sink).result = .ok first)
    (hgoes : first.shutdown = false) (source : Source) :
    run config { source with bytes := start ++ source.bytes } sink =
      (run config { bytes := start } sink).andThen
        (runLines config kinds (source.failure.map .io) sink (1 + start.count lineFeed)
          source.lines) := by
  have hlines : ({ bytes := start } : Source).lines = (splitLines start).1 :=
    Source.lines_of_isWholeLines hwhole
  have hstart : run config { bytes := start } sink =
      runLines config kinds none sink 1 (splitLines start).1 := by
    rw [← hlines]
    exact run_eq_runLines hkinds rfl
  rw [hstart] at hfirst ⊢
  have hpasses := passes_of_result_eq_ok hkinds hsink hfirst hgoes
  rw [run_of_kindFilter hkinds, Source.lines_append hwhole, runLines_append hsink hpasses,
    hwhole.length_splitLines_fst]

/-- When the run over whole lines ends well and without a shutdown, the run over a source that goes
on behind them writes and passes on what the run over the lines does and then what the run over the
rest does. It counts what both count together, and fails where the run over the rest does, with the
same error: of a line, the number is the one among all lines. -/
theorem run_append {start : List UInt8} {first : Summary} (hsink : sink.Reliable)
    (hwhole : IsWholeLines start)
    (hfirst : (run config { bytes := start } sink).result = .ok first)
    (hgoes : first.shutdown = false) (source : Source) :
    let head := run config { bytes := start } sink
    let tail := run config source sink
    let joined := run config { source with bytes := start ++ source.bytes } sink
    joined.output = head.output ++ tail.output ∧
      joined.nodeRecords = head.nodeRecords ++ tail.nodeRecords ∧
      (∀ second, tail.result = .ok second →
        joined.result = .ok
          { lines := first.lines + second.lines
            updates := first.updates + second.updates
            responses := first.responses + second.responses
            filtered := first.filtered + second.filtered
            failed := first.failed + second.failed
            shutdown := second.shutdown }) ∧
      ∀ error, tail.result = .error error →
        joined.result = .error (error.shifted (start.count lineFeed)) := by
  intro head tail joined
  obtain ⟨kinds, hkinds⟩ := exists_kindFilter_eq_ok hfirst
  let later := runLines config kinds (source.failure.map .io) sink (1 + start.count lineFeed)
    source.lines
  have hjoined : joined = head.andThen later :=
    run_append_eq_andThen hkinds hsink hwhole hfirst hgoes source
  have hhead : head.torn = [] := by
    rw [show head = _ from run_of_kindFilter hkinds _]
    exact torn_runLines hsink
  have htail : tail = runLines config kinds (source.failure.map .io) sink 1 source.lines :=
    run_of_kindFilter hkinds source
  have hresult : joined.result =
      (tail.result.mapError (·.shifted (start.count lineFeed))).map (first + ·) := by
    rw [hjoined, htail, ← result_runLines_shifted hkinds hsink, Outcome.andThen, hfirst]
    rfl
  refine ⟨?_, ?_, ?_, ?_⟩
  · rw [hjoined, Outcome.output_andThen hhead, output_runLines hkinds hsink, htail,
      output_runLines hkinds hsink]
  · rw [hjoined, Outcome.nodeRecords_andThen, nodeRecords_runLines hsink, htail,
      nodeRecords_runLines hsink]
  · intro second hsecond
    rw [hresult, hsecond]
    simp only [Except.mapError, Except.map, Summary.add_def, hgoes, Bool.false_or]
  · intro error herror
    rw [hresult, herror]
    rfl

end Runs

def answeredCapture : Source :=
  let response := Json.ofMembers [("type", .string Message.responseTag), ("id", .natural 7)]
  .ofLines [[0x20], Utf8.encode response.write]

/-- The fourth line of a capture is the sixth behind two others, and a shutdown stays one. -/
theorem run_append_of_answeredCapture :
    let start := answeredCapture.bytes
    let broken : Source := { brokenCapture with bytes := start ++ brokenCapture.bytes }
    let ended : Source := { endedCapture with bytes := start ++ endedCapture.bytes }
    (run {} answeredCapture {}).result = .ok ⟨1, 0, 1, 0, 0, false⟩ ∧
      (run {} brokenCapture {}).result = .error (.line 4 (.decode (.missingField "type"))) ∧
      (run {} broken {}).result = .error (.line 6 (.decode (.missingField "type"))) ∧
      (run {} broken {}).output =
        (run {} answeredCapture {}).output ++ (run {} brokenCapture {}).output ∧
      (run {} broken {}).nodeRecords =
        (run {} answeredCapture {}).nodeRecords ++ (run {} brokenCapture {}).nodeRecords ∧
      (run {} ended {}).result = .ok ⟨3, 2, 1, 0, 0, true⟩ := by
  intro start broken ended
  have hsink : Sink.Reliable {} := ⟨rfl, rfl⟩
  have hwhole : IsWholeLines start := Source.isWholeLines_ofLines _
  have hfirst : (run {} answeredCapture {}).result = .ok ⟨1, 0, 1, 0, 0, false⟩ := by rfl
  have hbroken : (run {} brokenCapture {}).result =
      .error (.line 4 (.decode (.missingField "type"))) := by rfl
  have hended : (run {} endedCapture {}).result = .ok ⟨2, 2, 0, 0, 0, true⟩ := by rfl
  have hcount : start.count lineFeed = 2 := by rfl
  obtain ⟨houtput, hrecords, -, herror⟩ := run_append hsink hwhole hfirst rfl brokenCapture
  obtain ⟨-, -, hok, -⟩ := run_append hsink hwhole hfirst rfl endedCapture
  have hshifted := herror _ hbroken
  rw [hcount] at hshifted
  exact ⟨hfirst, hbroken, hshifted, houtput, hrecords, hok _ hended⟩

end ControlStream

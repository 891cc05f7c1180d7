import ControlStream.Proofs.Stream.Lines
import ControlStream.Proofs.Stream.Stops

/-!
# Failing readers

A reader that fails in the middle of a line leaves a run nothing but the whole lines before. The run
is the one over these: when that stops at a line it never learns of the failure, and otherwise the
failure is what it ends with.
-/

namespace ControlStream

/-! ## Whole lines -/

/-- The bytes up to and with the last line feed. -/
def finishedPart (bytes : List UInt8) : List UInt8 := (splitLines bytes).1.flatMap Line.ended

theorem finishedPart_append_rest (bytes : List UInt8) :
    finishedPart bytes ++ (splitLines bytes).2 = bytes :=
  (splitLines_spec bytes).1.symm

theorem isWholeLines_finishedPart (bytes : List UInt8) : IsWholeLines (finishedPart bytes) :=
  Source.isWholeLines_ofLines (splitLines bytes).1

/-- The finished part has the lines that a reader gets to see when it fails behind the bytes. -/
theorem lines_finishedPart (bytes : List UInt8) (failure : Option String) (text : String) :
    ({ bytes := finishedPart bytes, failure } : Source).lines =
      ({ bytes, failure := some text } : Source).lines := by
  let whole := Source.ofLines (splitLines bytes).1
  have hwhole : IsWholeLines whole.bytes := isWholeLines_finishedPart bytes
  calc ({ bytes := finishedPart bytes, failure } : Source).lines
      = (splitLines whole.bytes).1 := Source.lines_of_isWholeLines hwhole
    _ = whole.lines := (Source.lines_of_isWholeLines hwhole).symm
    _ = (splitLines bytes).1 := Source.lines_ofLines (splitLines_spec bytes).2.1
    _ = ({ bytes, failure := some text } : Source).lines := rfl

/-- Whole lines that bytes begin with are among the finished ones. -/
theorem IsWholeLines.length_le_finishedPart {start bytes : List UInt8} (h : IsWholeLines start)
    (hstart : start <+: bytes) : start.length ≤ (finishedPart bytes).length := by
  obtain ⟨rest, rfl⟩ := hstart
  rw [finishedPart, h.splitLines_append, List.flatMap_append, ← h.eq_flatMap_ended,
    List.length_append]
  exact Nat.le_add_right _ _

/-! ## Interrupted runs -/

namespace Outcome

/-- The outcome when an error comes where the lines end. A run that stops at a line does not get
there. -/
def interrupted (error : StreamError) (outcome : Outcome) : Outcome :=
  match outcome.result with
  | .ok summary => if summary.shutdown then outcome else { outcome with result := .error error }
  | .error _ => outcome

variable {error : StreamError} {outcome : Outcome}

theorem interrupted_of_error {cause : StreamError} (h : outcome.result = .error cause) :
    outcome.interrupted error = outcome := by
  simp only [interrupted, h]

theorem interrupted_of_shutdown {summary : Summary} (h : outcome.result = .ok summary)
    (hshutdown : summary.shutdown = true) : outcome.interrupted error = outcome := by
  simp only [interrupted, h, hshutdown, if_true]

theorem interrupted_of_ok {summary : Summary} (h : outcome.result = .ok summary)
    (hgoes : summary.shutdown = false) :
    outcome.interrupted error = { outcome with result := .error error } := by
  simp only [interrupted, h, hgoes, Bool.false_eq_true, if_false]

/-- A step that is no shutdown makes no difference to what interrupts the rest. -/
theorem interrupted_behind {step : Step} (h : step.counted.shutdown = false) :
    (outcome.behind step).interrupted error = (outcome.interrupted error).behind step := by
  obtain ⟨shown, torn, logs, result⟩ := outcome
  cases result with
  | error cause => rfl
  | ok summary =>
      have hshutdown : (step.counted + summary).shutdown = summary.shutdown := by
        rw [Summary.add_def, h, Bool.false_or]
      cases hlast : summary.shutdown <;>
        simp [interrupted, behind, Except.map, hshutdown, hlast]

end Outcome

section Runs

variable [Json.Wording]
variable {config : StreamConfig} {kinds : List UpdateKind} {sink : Sink} {number : Nat}

theorem runLines_interrupted (hsink : sink.Reliable) (error : StreamError) (lines : List Line) :
    runLines config kinds (some error) sink number lines =
      (runLines config kinds none sink number lines).interrupted error := by
  induction lines using config.stop_induction generalizing number with
  | nil =>
      rw [runLines_nil hsink, runLines_nil hsink]
      rfl
  | blank line rest hblank ih =>
      rw [runLines_cons_of_blank hblank, runLines_cons_of_blank hblank, ih]
  | stop line rest hblank hstop =>
      have hstops := (Step.stops_ofLine kinds number hblank).mpr hstop
      rw [runLines_cons_of_stop hsink hblank hstop, runLines_cons_of_stop hsink hblank hstop]
      -- A run that ends well at a line ends at a shutdown, where nothing interrupts it.
      cases hfailure : (Step.ofLine config kinds number line).failure with
      | some cause => exact (Outcome.interrupted_of_error rfl).symm
      | none =>
          have hshutdown :
              ((Step.ofLine config kinds number line).counted + {}).shutdown = true := by
            rw [Summary.add_zero]
            simpa [hfailure] using hstops
          exact (Outcome.interrupted_of_shutdown rfl hshutdown).symm
  | pass line rest hblank hstop ih =>
      have hgoes := not_or.mp (Step.goes_ofLine kinds number hblank hstop)
      rw [runLines_cons_of_pass hsink hblank hstop, runLines_cons_of_pass hsink hblank hstop, ih,
        Outcome.interrupted_behind (Bool.eq_false_iff.mpr hgoes.2)]

/-- A run whose reader fails is the run over the finished part, interrupted. -/
theorem run_failing_eq_interrupted (hkinds : config.kindFilter = .ok kinds) (hsink : sink.Reliable)
    (bytes : List UInt8) (text : String) :
    run config { bytes, failure := some text } sink =
      (run config { bytes := finishedPart bytes } sink).interrupted (.io text) := by
  rw [run_of_kindFilter hkinds, run_of_kindFilter hkinds, lines_finishedPart bytes none text]
  exact runLines_interrupted hsink (.io text) _

/-- With a sink that does not fail, let a reader fail behind some bytes, and take the longest
beginning of these that is whole lines. The bytes behind it make no difference. When the run over
the whole lines alone fails, or comes to a shutdown, the run whose reader fails is the very same.
Otherwise it ends with the error of the reader and is the same in all else: what it has written, and
what it has logged. -/
theorem run_of_failing_reader (hkinds : config.kindFilter = .ok kinds) (hsink : sink.Reliable)
    (bytes : List UInt8) (text : String) :
    let whole := finishedPart bytes
    let healthy := run config { bytes := whole } sink
    let failing := run config { bytes, failure := some text } sink
    (whole <+: bytes ∧ IsWholeLines whole ∧
        ∀ start, start <+: bytes → IsWholeLines start → start.length ≤ whole.length) ∧
      failing = run config { bytes := whole, failure := some text } sink ∧
      (∀ error, healthy.result = .error error → failing = healthy) ∧
      (∀ summary, healthy.result = .ok summary → summary.shutdown = true → failing = healthy) ∧
      ∀ summary, healthy.result = .ok summary → summary.shutdown = false →
        failing = { healthy with result := .error (.io text) } := by
  intro whole healthy failing
  have hwhole : IsWholeLines whole := isWholeLines_finishedPart bytes
  have hinterrupted : failing = healthy.interrupted (.io text) :=
    run_failing_eq_interrupted hkinds hsink bytes text
  refine ⟨⟨⟨_, finishedPart_append_rest bytes⟩, hwhole, ?longest⟩, ?behind, ?failed, ?shutdown,
    ?ended⟩
  case longest =>
    intro start hstart hlines
    exact hlines.length_le_finishedPart hstart
  case behind =>
    rw [run_of_kindFilter hkinds, lines_finishedPart bytes (some text) text]
    exact run_of_kindFilter hkinds _
  case failed =>
    intro error herror
    rw [hinterrupted, Outcome.interrupted_of_error herror]
  case shutdown =>
    intro summary hok hshutdown
    rw [hinterrupted, Outcome.interrupted_of_shutdown hok hshutdown]
  case ended =>
    intro summary hok hgoes
    rw [hinterrupted, Outcome.interrupted_of_ok hok hgoes]

end Runs

/-- A log update and a line that is no JSON, and then a shutdown without an end to its line. -/
def cutCapture : List UInt8 :=
  let lineOf (update : Update) : Line :=
    Utf8.encode (update.write.withMember "type" (.string Message.updateTag)).write
  (Source.ofLines [lineOf (.log ⟨.info, "up", none⟩), [0x78]]).bytes ++ lineOf .shutdown

/-- The shutdown is lost with its line, whether the fault before it is skipped or ends the run. -/
theorem run_of_failing_reader_cutCapture :
    let lenient : StreamConfig := { keepGoing := true }
    let cut : Source := { bytes := cutCapture, failure := some "gone" }
    let whole : Source := { bytes := finishedPart cutCapture }
    (run lenient whole {}).result = .ok ⟨2, 1, 0, 0, 1, false⟩ ∧
      run lenient cut {} = { run lenient whole {} with result := .error (.io "gone") } ∧
      (run {} whole {}).result = .error (.line 2 (.notJson ['x'])) ∧
      run {} cut {} = run {} whole {} := by
  intro lenient cut whole
  have hsink : Sink.Reliable {} := ⟨rfl, rfl⟩
  have hkinds : lenient.kindFilter = .ok [] := rfl
  have hstrictKinds : StreamConfig.kindFilter {} = .ok [] := rfl
  have hlenient : (run lenient whole {}).result = .ok ⟨2, 1, 0, 0, 1, false⟩ := by rfl
  have hstrict : (run {} whole {}).result = .error (.line 2 (.notJson ['x'])) := by rfl
  obtain ⟨-, -, -, -, hended⟩ := run_of_failing_reader hkinds hsink cutCapture "gone"
  obtain ⟨-, -, hfailed, -, -⟩ := run_of_failing_reader hstrictKinds hsink cutCapture "gone"
  exact ⟨hlenient, hended _ hlenient rfl, hstrict, hfailed _ hstrict⟩

end ControlStream

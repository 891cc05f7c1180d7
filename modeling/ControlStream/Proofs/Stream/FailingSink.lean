import ControlStream.Proofs.Stream.AnySink
import ControlStream.Proofs.Stream.KeepGoing
import ControlStream.Proofs.Stream.Reliable

/-!
# Failing sinks

A sink that takes no byte is noticed at the first event, and only there. A run that shows nothing is
the same as on a reliable sink; any other ends at its first event, when the line of the event has
passed its records on already.
-/

namespace ControlStream

/-- A sink that can be flushed, but takes no byte: every write of some fails with the same error. -/
structure Sink.Refuses (sink : Sink) (text : String) : Prop where
  failure : sink.failure = some text
  room : sink.room = 0
  flushFailure : sink.flushFailure = none

theorem Sink.Refuses.write_eq {sink : Sink} {text : String} (h : sink.Refuses text)
    {bytes : List UInt8} (hne : bytes ≠ []) : sink.write bytes = .error text := by
  have hlarge : ¬bytes.length ≤ 0 := by
    rw [Nat.le_zero, List.length_eq_zero_iff]
    exact hne
  simp only [write, h.failure, h.room, if_neg hlarge]

/-! ## Steps -/

section Steps

variable [Json.Wording]
variable {config : StreamConfig} {kinds : List UpdateKind} {number : Nat} {line : Line}

/-- All that a line passes on is logged before its event is written. -/
theorem Step.ofNode_before (hblank : isBlankLine line = false) :
    LogRecord.ofNode (ofLine config kinds number line).before = config.forwardedBy line := by
  have hafter : LogRecord.ofNode (ofLine config kinds number line).after = [] := by
    have hstream : LogRecord.streamTarget ≠ LogRecord.nodeTarget := by decide
    rcases line.decoded_cases with ⟨fault, h, _⟩ | ⟨response, h, _⟩ | ⟨update, h, _⟩
    · cases hkeep : config.keepGoing <;> simp [ofLine, hblank, h, ofFault, hkeep]
    · simp [ofLine, hblank, h, ofResponse]
    · cases hends : update.kind == .shutdown <;>
        simp [ofLine, hblank, h, ofUpdate, hends, LogRecord.ofNode_singleton_of_ne hstream]
  have hstep : LogRecord.ofNode ((ofLine config kinds number line).before ++
      (ofLine config kinds number line).after) = config.forwardedBy line := ofNode_ofLine hblank
  rwa [LogRecord.ofNode_append, hafter, List.append_nil] at hstep

/-- A line has an event exactly when it decodes to a message that is shown. -/
theorem Step.event_cases (hkinds : config.kindFilter = .ok kinds)
    (hblank : isBlankLine line = false) :
    ((ofLine config kinds number line).event = none ∧ config.printed [line] = []) ∨
      (ofLine config kinds number line).event ≠ none ∧
        ∃ message, config.printed [line] = [message] := by
  have hevent : (ofLine config kinds number line).event.toList = _ := event_ofLine hkinds hblank
  cases hshown : (ofLine config kinds number line).event with
  | none =>
      rw [hshown] at hevent
      exact .inl ⟨rfl, List.map_eq_nil_iff.mp hevent.symm⟩
  | some event =>
      rw [hshown] at hevent
      obtain ⟨message, hprinted, -⟩ := List.map_eq_singleton_iff.mp hevent.symm
      exact .inr ⟨nofun, message, hprinted⟩

end Steps

/-! ## Runs -/

section Runs

variable [Json.Wording]
variable {config : StreamConfig} {kinds : List UpdateKind} {ending : Option StreamError}
  {sink refusing : Sink} {text : String} {number : Nat} {line : Line} {lines rest : List Line}

theorem runLines_cons_of_refusal (hrefuses : refusing.Refuses text)
    (hevent : (Step.ofLine config kinds number line).event ≠ none) :
    runLines config kinds ending refusing number (line :: rest) =
      { shown := []
        logs := (Step.ofLine config kinds number line).before
        result := .error (.io text) } := by
  have hwritten := mt Step.written_eq_nil_iff.mp hevent
  rw [runLines_cons_of_tear (hrefuses.write_eq hwritten), hrefuses.room]
  rfl

theorem runLines_cons_of_silent_pass (hblank : isBlankLine line = false)
    (hstop : config.stopsAt line = false)
    (hevent : (Step.ofLine config kinds number line).event = none) :
    runLines config kinds ending sink number (line :: rest) =
      (runLines config kinds ending sink (number + 1) rest).behind
        (Step.ofLine config kinds number line) := by
  rw [runLines_cons_of_silent hevent]
  exact if_neg (Step.goes_ofLine kinds number hblank hstop)

/-- A run that shows nothing does not learn that the sink takes nothing. -/
theorem runLines_refusing_of_silent (hkinds : config.kindFilter = .ok kinds)
    (hsink : sink.Reliable) (hrefuses : refusing.Refuses text)
    (h : config.printed (config.reached lines) = []) :
    runLines config kinds ending refusing number lines =
      runLines config kinds ending sink number lines := by
  induction lines using config.stop_induction generalizing number with
  | nil => rw [runLines, runLines, hrefuses.flushFailure, hsink.flushFailure]
  | blank line rest hblank ih =>
      rw [StreamConfig.reached_cons_of_blank hblank] at h
      rw [runLines_cons_of_blank hblank, runLines_cons_of_blank hblank, ih h]
  | stop line rest hblank hstop =>
      rw [StreamConfig.reached_cons_of_stop hblank hstop] at h
      rcases Step.event_cases hkinds hblank with ⟨hevent, -⟩ | ⟨-, message, hprinted⟩
      · rw [runLines_cons_of_silent hevent, runLines_cons_of_silent hevent, hrefuses.flushFailure,
          hsink.flushFailure]
        simp only [if_pos ((Step.stops_ofLine kinds number hblank).mpr hstop)]
      · rw [h] at hprinted
        cases hprinted
  | pass line rest hblank hstop ih =>
      rw [StreamConfig.reached_cons_of_pass hblank hstop, config.printed_cons,
        List.append_eq_nil_iff] at h
      rcases Step.event_cases hkinds hblank with ⟨hevent, -⟩ | ⟨-, message, hprinted⟩
      · rw [runLines_cons_of_silent_pass hblank hstop hevent,
          runLines_cons_of_silent_pass hblank hstop hevent, ih h.2]
      · rw [h.1] at hprinted
        cases hprinted

/-- Any other run ends at the first line that is shown. It has passed on what the lines before it do
and what the line itself does. -/
theorem runLines_refusing_of_event (hkinds : config.kindFilter = .ok kinds)
    (hrefuses : refusing.Refuses text) (h : config.printed (config.reached lines) ≠ []) :
    ∃ before line after message, config.reached lines = before ++ line :: after ∧
      config.printed before = [] ∧ config.printed [line] = [message] ∧
      (runLines config kinds ending refusing number lines).result = .error (.io text) ∧
      (runLines config kinds ending refusing number lines).output = [] ∧
      (runLines config kinds ending refusing number lines).nodeRecords =
        (before ++ [line]).flatMap config.forwardedBy := by
  induction lines using config.stop_induction generalizing number with
  | nil => exact absurd rfl h
  | blank line rest hblank ih =>
      rw [StreamConfig.reached_cons_of_blank hblank] at h ⊢
      rw [runLines_cons_of_blank hblank]
      exact ih h
  | stop line rest hblank hstop =>
      rw [StreamConfig.reached_cons_of_stop hblank hstop] at h ⊢
      rcases Step.event_cases hkinds hblank with ⟨-, hnone⟩ | ⟨hevent, message, hprinted⟩
      · exact absurd hnone h
      · rw [runLines_cons_of_refusal hrefuses hevent]
        refine ⟨[], line, [], message, rfl, rfl, hprinted, rfl, rfl, ?_⟩
        simpa [Outcome.nodeRecords] using Step.ofNode_before hblank
  | pass line rest hblank hstop ih =>
      rw [StreamConfig.reached_cons_of_pass hblank hstop] at h ⊢
      rcases Step.event_cases hkinds hblank with ⟨hevent, hnone⟩ | ⟨hevent, message, hprinted⟩
      · rw [config.printed_cons, hnone, List.nil_append] at h
        obtain ⟨before, shown, after, message, hreached, hbefore, hprinted, hresult, houtput,
          hrecords⟩ := ih h
        rw [runLines_cons_of_silent_pass hblank hstop hevent, hreached]
        refine ⟨line :: before, shown, after, message, rfl, ?_, hprinted, ?_, ?_, ?_⟩
        · rw [config.printed_cons, hnone, hbefore, List.append_nil]
        · rwa [Outcome.result_behind_eq_error_iff]
        · simpa [Outcome.output, Outcome.behind, hevent] using houtput
        · rw [Outcome.nodeRecords_behind, Step.ofNode_ofLine hblank, hrecords]
          rfl
      · rw [runLines_cons_of_refusal hrefuses hevent]
        refine ⟨[], line, config.reached rest, message, rfl, rfl, hprinted, rfl, rfl, ?_⟩
        simpa [Outcome.nodeRecords] using Step.ofNode_before hblank

theorem output_runLines_eq_nil_iff (hkinds : config.kindFilter = .ok kinds)
    (hsink : sink.Reliable) :
    (runLines config kinds ending sink number lines).output = [] ↔
      config.printed (config.reached lines) = [] := by
  rw [output_runLines hkinds hsink]
  cases config.printed (config.reached lines) <;> simp [Step.lineOf]

/-- Let a sink refuse every byte, and compare with a sink that does not fail. A run that would write
nothing is the very same. Any other ends with the error of the sink, whatever it does about faulty
lines and however it would end; it has written nothing, and of the node's log it has passed on what
it would have up to its first event, with what the line of the event passes on. An error is known by
its text, so only where the reader does not fail with the text of the sink does the error tell that
the sink was written to. -/
theorem run_on_refusing_sink (hkinds : config.kindFilter = .ok kinds) (hsink : sink.Reliable)
    (hrefuses : refusing.Refuses text) (source : Source) :
    let healthy := run config source sink
    let refused := run config source refusing
    (source.failure ≠ some text →
        (refused.result = .error (.io text) ↔ healthy.output ≠ [])) ∧
      (healthy.output = [] → refused = healthy) ∧
      (healthy.output ≠ [] → refused.result = .error (.io text) ∧ refused.output = [] ∧
        ∃ before line after message, config.reached source.lines = before ++ line :: after ∧
          config.printed before = [] ∧ config.printed [line] = [message] ∧
          Step.lineOf (config.format.ofMessage message) <+: healthy.output ∧
          refused.nodeRecords = (before ++ [line]).flatMap config.forwardedBy ∧
          healthy.nodeRecords = refused.nodeRecords ++ after.flatMap config.forwardedBy) := by
  intro healthy refused
  have hhealthy : healthy = runLines config kinds (source.failure.map .io) sink 1 source.lines :=
    run_of_kindFilter hkinds source
  have hrefused : refused =
      runLines config kinds (source.failure.map .io) refusing 1 source.lines :=
    run_of_kindFilter hkinds source
  have hsame : healthy.output = [] → refused = healthy := by
    intro hsilent
    rw [hhealthy, output_runLines_eq_nil_iff hkinds hsink] at hsilent
    rw [hhealthy, hrefused]
    exact runLines_refusing_of_silent hkinds hsink hrefuses hsilent
  have hrefusal : healthy.output ≠ [] → config.printed (config.reached source.lines) ≠ [] := by
    rw [hhealthy]
    exact mt (output_runLines_eq_nil_iff hkinds hsink).mpr
  refine ⟨fun hreader => ⟨fun hresult hsilent => ?_, fun hwrites => ?_⟩, hsame, fun hwrites => ?_⟩
  · -- The run that writes nothing is the healthy one, and its only such error is the reader's.
    rw [hsame hsilent, hhealthy] at hresult
    have hending := (passes_of_result_eq_io hsink hresult).1
    obtain ⟨found, hfound, herror⟩ := Option.map_eq_some_iff.mp hending
    exact hreader (hfound.trans (congrArg some (StreamError.io.inj herror)))
  · obtain ⟨_, _, _, _, -, -, -, hresult, -⟩ :=
      runLines_refusing_of_event hkinds hrefuses (hrefusal hwrites)
    rw [hrefused]
    exact hresult
  · obtain ⟨before, line, after, message, hreached, hbefore, hprinted, hresult, houtput,
        hrecords⟩ :=
      runLines_refusing_of_event hkinds hrefuses (hrefusal hwrites)
    rw [← hrefused] at hresult houtput hrecords
    refine ⟨hresult, houtput, before, line, after, message, hreached, hbefore, hprinted, ?_,
      hrecords, ?_⟩
    · rw [hhealthy, output_runLines hkinds hsink, hreached, config.printed_append, hbefore,
        config.printed_cons, hprinted, List.nil_append, List.singleton_append, List.map_cons,
        List.flatMap_cons]
      exact List.prefix_append _ _
    · rw [hhealthy, nodeRecords_runLines hsink, hreached, hrecords]
      simp

end Runs

/-- The log update of the capture is passed on though only the shutdown behind it is shown, and
faulty lines before it are skipped. When neither is shown, or a faulty line ends the run before
them, the sink is not written to. -/
theorem run_on_refusing_sink_of_faultyCapture :
    let full : Sink := { failure := some "full" }
    let shown : StreamConfig := { keepGoing := true, kinds := ["Shutdown"] }
    let hidden : StreamConfig := { shown with kinds := ["Config"] }
    (run shown faultyCapture {}).output = Step.lineOf "shutdown" ∧
      (run shown faultyCapture full).result = .error (.io "full") ∧
      (run shown faultyCapture full).output = [] ∧
      (run shown faultyCapture full).nodeRecords = [⟨.info, LogRecord.nodeTarget, "up"⟩] ∧
      (run hidden faultyCapture full).result = .ok ⟨5, 2, 0, 2, 3, true⟩ ∧
      run {} faultyCapture full = run {} faultyCapture {} := by
  intro full shown hidden
  have hsink : Sink.Reliable {} := ⟨rfl, rfl⟩
  have hfull : full.Refuses "full" := ⟨rfl, rfl, rfl⟩
  have hwritten : (run shown faultyCapture {}).output = Step.lineOf "shutdown" := by
    decide
  have hwrites : (run shown faultyCapture {}).output ≠ [] := by
    rw [hwritten]
    decide
  have hshown : shown.kindFilter = .ok [.shutdown] := rfl
  have hhidden : hidden.kindFilter = .ok [.config] := rfl
  have hstrict : StreamConfig.kindFilter {} = .ok [] := rfl
  obtain ⟨-, -, hrefusal⟩ := run_on_refusing_sink hshown hsink hfull faultyCapture
  obtain ⟨hresult, houtput, -⟩ := hrefusal hwrites
  obtain ⟨-, hsame, -⟩ := run_on_refusing_sink hhidden hsink hfull faultyCapture
  obtain ⟨-, hsame', -⟩ := run_on_refusing_sink hstrict hsink hfull faultyCapture
  refine ⟨hwritten, hresult, houtput, by decide, ?_, hsame' (by rfl)⟩
  rw [hsame (by rfl)]
  rfl

end ControlStream

import ControlStream.Proofs.Stream.Account
import ControlStream.Proofs.Stream.Reliable
import ControlStream.Proofs.Stream.Skipped

/-!
# Presentation

Which kinds of updates are shown, in which format, and whether the node's log is passed on: none of
it changes what a run reads, what it counts but for the filtered updates, which lines it skips, and
how it ends. The kinds are a filter on the events, and only which kinds there are matters.
-/

namespace ControlStream

/-! ## What is shown -/

def Message.kind? : Message → Option UpdateKind
  | .response _ => none
  | .update event => some event.kind

namespace StreamConfig

variable {config config' : StreamConfig}

theorem printed_of_kinds_eq_nil (h : config.kinds = []) (lines : List Line) :
    config.printed lines = lines.filterMap Line.message? := by
  apply List.filter_eq_self.mpr
  intro message _
  cases message with
  | response response => rfl
  | update event => simp [prints, shows, h]

/-- The kinds that are named take the updates of other kinds out. -/
theorem printed_of_kinds_ne_nil (h : config.kinds ≠ []) (lines : List Line) :
    config.printed lines = (lines.filterMap Line.message?).filter fun message =>
      message.kind?.all fun kind => config.kinds.contains kind.name := by
  apply List.filter_congr
  intro message _
  cases message with
  | response response => rfl
  | update event => simp [prints, shows, Message.kind?, h]

/-- Order and repetitions of the kinds do not matter. -/
theorem shows_congr (h : ∀ name, name ∈ config.kinds ↔ name ∈ config'.kinds) :
    config.shows = config'.shows := by
  have hnone : config.kinds = [] ↔ config'.kinds = [] := by
    rw [List.eq_nil_iff_forall_not_mem, List.eq_nil_iff_forall_not_mem]
    exact forall_congr' fun name => not_congr (h name)
  funext update
  rw [shows, shows, Bool.eq_iff_iff]
  simp only [Bool.or_eq_true, List.isEmpty_iff, List.contains_iff_mem]
  exact or_congr hnone (h _)

end StreamConfig

/-! ## What is counted -/

namespace Summary

/-- A summary without the number that the kinds to show decide. -/
def unfiltered (summary : Summary) : Summary := { summary with filtered := 0 }

theorem unfiltered_tally (config config' : StreamConfig) (lines : List Line) :
    (tally config lines).unfiltered = (tally config' lines).unfiltered := rfl

theorem map_unfiltered_add (x : Summary) (result : Except StreamError Summary) :
    (result.map (x + ·)).map unfiltered = (result.map unfiltered).map (x.unfiltered + ·) := by
  cases result with
  | error error => rfl
  | ok summary => rfl

theorem cases_of_map_unfiltered {result result' : Except StreamError Summary}
    (h : result.map unfiltered = result'.map unfiltered) :
    (∃ summary summary', result = .ok summary ∧ result' = .ok summary' ∧
        summary.lines = summary'.lines ∧ summary.updates = summary'.updates ∧
        summary.responses = summary'.responses ∧ summary.failed = summary'.failed ∧
        summary.shutdown = summary'.shutdown) ∨
      ∃ error, result = .error error ∧ result' = .error error := by
  cases result with
  | error error =>
      cases result' with
      | error error' => exact .inr ⟨error, rfl, (Except.error.inj h) ▸ rfl⟩
      | ok summary' => cases h
  | ok summary =>
      cases result' with
      | error error' => cases h
      | ok summary' =>
          have hsame : summary.unfiltered = summary'.unfiltered := Except.ok.inj h
          simp only [unfiltered, Summary.mk.injEq] at hsame
          obtain ⟨hlines, hupdates, hresponses, -, hfailed, hshutdown⟩ := hsame
          exact .inl ⟨summary, summary', rfl, rfl, hlines, hupdates, hresponses, hfailed,
            hshutdown⟩

end Summary

section Runs

variable [Json.Wording]
variable {config config' : StreamConfig} {kinds kinds' : List UpdateKind}
  {ending : Option StreamError} {sink : Sink} {number : Nat} {lines : List Line}

/-- Configurations that treat faulty lines alike read, count and end alike. -/
theorem result_runLines_congr (hkinds : config.kindFilter = .ok kinds)
    (hkinds' : config'.kindFilter = .ok kinds') (hkeep : config.keepGoing = config'.keepGoing)
    (hsink : sink.Reliable) :
    (runLines config kinds ending sink number lines).result.map Summary.unfiltered =
      (runLines config' kinds' ending sink number lines).result.map Summary.unfiltered := by
  have hstops := StreamConfig.stopsAt_congr hkeep
  induction lines using config.stop_induction generalizing number with
  | nil => rw [runLines_nil hsink, runLines_nil hsink]
  | blank line rest hblank ih =>
      rw [runLines_cons_of_blank hblank, runLines_cons_of_blank hblank]
      exact ih
  | stop line rest hblank hstop =>
      have hstop' : config'.stopsAt line = true := hstops ▸ hstop
      rw [result_cons_of_stop hkinds hsink hblank hstop,
        result_cons_of_stop hkinds' hsink hblank hstop']
      cases Line.message line with
      | error fault => rfl
      | ok message => rfl
  | pass line rest hblank hstop ih =>
      have hstop' : config'.stopsAt line = false := hstops ▸ hstop
      rw [result_cons_of_pass hkinds hsink hblank hstop,
        result_cons_of_pass hkinds' hsink hblank hstop', Summary.map_unfiltered_add,
        Summary.map_unfiltered_add, ih, Summary.unfiltered_tally config config']

/-! ## Equal steps -/

theorem Step.ofLine_congr (hkeep : config.keepGoing = config'.keepGoing)
    (hformat : config.format = config'.format)
    (hforward : config.forwardNodeLogs = config'.forwardNodeLogs)
    (hshows : shows kinds = shows kinds') : ofLine config kinds = ofLine config' kinds' := by
  funext number line
  simp only [ofLine, ofFault, ofResponse, ofUpdate, hkeep, hformat, hforward, hshows]

theorem runLines_congr (h : Step.ofLine config kinds = Step.ofLine config' kinds') :
    runLines config kinds ending sink number lines =
      runLines config' kinds' ending sink number lines := by
  induction lines generalizing sink number with
  | nil => rfl
  | cons line rest ih =>
      rw [runLines, runLines, h]
      simp only [ih]

/-- Two lists of the same kinds make the same run. -/
theorem run_eq_of_same_kinds (hkinds : config.kindFilter = .ok kinds)
    (hkinds' : config'.kindFilter = .ok kinds') (hkeep : config.keepGoing = config'.keepGoing)
    (hformat : config.format = config'.format)
    (hforward : config.forwardNodeLogs = config'.forwardNodeLogs)
    (hsame : ∀ name, name ∈ config.kinds ↔ name ∈ config'.kinds) (source : Source) :
    run config source sink = run config' source sink := by
  have hshows : Step.shows kinds = Step.shows kinds' := by
    funext update
    rw [StreamConfig.shows_eq hkinds, StreamConfig.shows_eq hkinds',
      StreamConfig.shows_congr hsame]
  rw [run_of_kindFilter hkinds, run_of_kindFilter hkinds']
  exact runLines_congr (Step.ofLine_congr hkeep hformat hforward hshows)

/-- Configurations that agree on whether a faulty line ends a run, and know their kinds, read the
same of every source: their runs count the same but for the filtered updates, or fail with the same
error, and skip the same lines, which are those with a fault up to the first shutdown, each told by
its number. In one format, naming kinds takes the updates of other kinds out of the output, and
nothing else. Two lists of the same kinds make the same run. -/
theorem run_presentation (hkinds : config.kindFilter = .ok kinds)
    (hkinds' : config'.kindFilter = .ok kinds') (hkeep : config.keepGoing = config'.keepGoing)
    (hsink : sink.Reliable) (source : Source) :
    let outcome := run config source sink
    let outcome' := run config' source sink
    let read := (config.reached source.lines).filterMap Line.message?
    let written := fun messages : List Message =>
      (messages.map config.format.ofMessage).flatMap Step.lineOf
    ((∃ summary summary', outcome.result = .ok summary ∧ outcome'.result = .ok summary' ∧
          summary.lines = summary'.lines ∧ summary.updates = summary'.updates ∧
          summary.responses = summary'.responses ∧ summary.failed = summary'.failed ∧
          summary.shutdown = summary'.shutdown) ∨
        ∃ error, outcome.result = .error error ∧ outcome'.result = .error error) ∧
      (outcome.skips = (config.skipped 1 source.lines).map LogRecord.ofSkip ∧
        outcome'.skips = outcome.skips ∧
        config'.skipped 1 source.lines = config.skipped 1 source.lines ∧
        ∀ number fault, .line number fault ∈ config.skipped 1 source.lines ↔
          config.keepGoing = true ∧ FaultAt 1 source.lines number fault) ∧
      (config.format = config'.format → config.kinds ≠ [] → config'.kinds = [] →
        outcome'.output = written read ∧
          outcome.output = written (read.filter fun message =>
            message.kind?.all fun kind => config.kinds.contains kind.name)) ∧
      (config.format = config'.format → config.forwardNodeLogs = config'.forwardNodeLogs →
        (∀ name, name ∈ config.kinds ↔ name ∈ config'.kinds) → outcome = outcome') := by
  intro outcome outcome' read written
  have hrun : outcome = runLines config kinds (source.failure.map .io) sink 1 source.lines :=
    run_of_kindFilter hkinds source
  have hrun' : outcome' = runLines config' kinds' (source.failure.map .io) sink 1 source.lines :=
    run_of_kindFilter hkinds' source
  refine ⟨?_, ?_, ?_, ?_⟩
  · apply Summary.cases_of_map_unfiltered
    rw [hrun, hrun']
    exact result_runLines_congr hkinds hkinds' hkeep hsink
  · have hskipped : config'.skipped 1 source.lines = config.skipped 1 source.lines := by
      rw [StreamConfig.skipped_congr hkeep]
    rw [hrun, hrun', skips_runLines hsink, skips_runLines hsink, hskipped]
    exact ⟨rfl, rfl, rfl, fun number fault => StreamConfig.line_mem_skipped_iff⟩
  · intro hformat hsome hnone
    constructor
    · rw [hrun', output_runLines hkinds' hsink, config'.printed_of_kinds_eq_nil hnone, ← hformat,
        ← StreamConfig.reached_congr hkeep]
    · rw [hrun, output_runLines hkinds hsink, config.printed_of_kinds_ne_nil hsome]
  · intro hformat hforward hsame
    exact run_eq_of_same_kinds hkinds hkinds' hkeep hformat hforward hsame source

end Runs

/-- Without the kind of the shutdown, the run stops there all the same. -/
theorem run_presentation_of_mixedCapture :
    let wide : StreamConfig := { keepGoing := true }
    let narrow : StreamConfig := { wide with kinds := ["Config"], forwardNodeLogs := false }
    (∃ summary summary', (run narrow mixedCapture {}).result = .ok summary ∧
        (run wide mixedCapture {}).result = .ok summary' ∧ summary.lines = 4 ∧
        summary'.lines = 4 ∧ summary.shutdown = true ∧ summary'.shutdown = true) ∧
      (run narrow mixedCapture {}).skips = [.ofSkip (.line 1 (.notJson ['x']))] ∧
      (run wide mixedCapture {}).skips = [.ofSkip (.line 1 (.notJson ['x']))] ∧
      (run narrow mixedCapture {}).output =
        ["response 7 ?: ok", "config 0 keys"].flatMap Step.lineOf ∧
      (run wide mixedCapture {}).output =
        ["response 7 ?: ok", "config 0 keys", "shutdown"].flatMap Step.lineOf ∧
      run { wide with kinds := ["Config", "Shutdown"] } mixedCapture {} =
        run { wide with kinds := ["Shutdown", "Config", "Shutdown"] } mixedCapture {} := by
  intro wide narrow
  have hwide : wide.kindFilter = .ok [] := rfl
  have hnarrow : narrow.kindFilter = .ok [.config] := rfl
  have hsink : Sink.Reliable {} := ⟨rfl, rfl⟩
  obtain ⟨hcounts, ⟨hskips, hskips', -⟩, houtput, -⟩ :=
    run_presentation hnarrow hwide rfl hsink mixedCapture
  obtain ⟨hall, hsifted⟩ := houtput rfl (by decide) rfl
  have hresult : (run wide mixedCapture {}).result = .ok ⟨4, 2, 1, 0, 1, true⟩ := by rfl
  have hskipped : (narrow.skipped 1 mixedCapture.lines).map LogRecord.ofSkip =
      [.ofSkip (.line 1 (.notJson ['x']))] := by rfl
  refine ⟨?_, hskips.trans hskipped, hskips'.trans (hskips.trans hskipped), ?_, ?_, ?_⟩
  · rcases hcounts with ⟨summary, summary', hok, hok', hlines, _, _, _, hshutdown⟩ |
      ⟨error, _, herror⟩
    · rw [hresult] at hok'
      cases hok'
      exact ⟨summary, _, hok, hresult, hlines, rfl, hshutdown, rfl⟩
    · rw [hresult] at herror
      cases herror
  · rw [hsifted]
    rfl
  · rw [hall]
    rfl
  · have hkinds : StreamConfig.kindFilter { wide with kinds := ["Config", "Shutdown"] } =
        .ok [.config, .shutdown] := rfl
    have hkinds' : StreamConfig.kindFilter
        { wide with kinds := ["Shutdown", "Config", "Shutdown"] } =
          .ok [.shutdown, .config, .shutdown] := rfl
    obtain ⟨-, -, -, hsame⟩ := run_presentation hkinds hkinds' rfl hsink mixedCapture
    exact hsame rfl rfl (by simp [or_comm])

end ControlStream

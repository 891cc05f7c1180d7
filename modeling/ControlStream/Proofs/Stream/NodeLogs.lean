import ControlStream.Proofs.Stream.KeepGoing
import ControlStream.Proofs.Stream.Reliable

/-!
# The node's log, as a run passes it on

A run passes on the log updates among the lines that it decodes, each as its message and then its
backtrace, whether they are shown or not. How far it decodes shows in how it ends.
-/

namespace ControlStream

def Line.nodeLog? (line : Line) : Option NodeLog :=
  match line.update? with
  | some (.log entry) => some entry
  | _ => none

theorem StreamConfig.forwardedBy_eq (config : StreamConfig) (line : Line) :
    config.forwardedBy line =
      if config.forwardNodeLogs then line.nodeLog?.toList.flatMap NodeLog.forwarded else [] := by
  unfold forwardedBy Line.nodeLog?
  cases line.update? with
  | none => rfl
  | some update => cases update <;> rfl

/-- The records that lines pass on are those of the log updates among them. -/
theorem StreamConfig.flatMap_forwardedBy (config : StreamConfig) (lines : List Line) :
    lines.flatMap config.forwardedBy =
      if config.forwardNodeLogs then (lines.filterMap Line.nodeLog?).flatMap NodeLog.forwarded
      else [] := by
  induction lines with
  | nil => simp
  | cons line lines ih =>
      rw [List.flatMap_cons, ih, config.forwardedBy_eq]
      cases config.forwardNodeLogs with
      | false => rfl
      | true => cases hlog : line.nodeLog? <;> simp [hlog]

/-! ## How far a run decodes -/

section Runs

variable {config : StreamConfig} {kinds : List UpdateKind} {failure : Option String}
  {sink : Sink} {number place : Nat} {fault : LineFault} {lines : List Line}

/-- A run that gets past all lines decodes those that are not blank. -/
theorem StreamConfig.reached_of_passes
    (h : ∀ line ∈ lines, isBlankLine line = false → config.stopsAt line = false) :
    config.reached lines = lines.filter fun line => !isBlankLine line := by
  have hreached : config.reached (lines ++ []) = _ := reached_append h
  rwa [List.append_nil, reached_nil, List.append_nil] at hreached

variable [Json.Wording]

/-- A run that fails at a line decodes the lines up to it that are not blank. -/
theorem reached_of_result_eq_line (hsink : sink.Reliable)
    (h : (runLines config kinds (failure.map .io) sink number lines).result =
      .error (.line place fault)) :
    ∃ count, place = number + count ∧
      config.reached lines = (lines.take (count + 1)).filter fun line => !isBlankLine line := by
  obtain ⟨before, line, rest, rfl, hplace, hblank, hstop, -, hbefore⟩ :=
    exists_stop_of_lineError hsink failure h
  refine ⟨before.length, hplace, ?_⟩
  rw [StreamConfig.reached_append hbefore, StreamConfig.reached_cons_of_stop hblank hstop,
    List.take_length_add_append, List.filter_append]
  simp [hblank]

/-- On a sink that does not fail, a run passes on the log updates among the lines that it decodes,
in order, each as a record of its message and, if it has a backtrace, a second one of that; or none
at all if it is not to. Which updates are shown, and how, makes no difference. The lines that it
decodes are those that are not blank up to the first shutdown when the run ends well, up to and
with the line at which it fails, and to the end when the reader fails. -/
theorem run_forwards_nodeLogs (hkinds : config.kindFilter = .ok kinds) (hsink : sink.Reliable)
    (source : Source) :
    let outcome := run config source sink
    let decoded := config.reached source.lines
    let recordsOf := fun entry : NodeLog => match entry.backtrace with
      | none => [⟨entry.level.severity, LogRecord.nodeTarget, entry.message⟩]
      | some backtrace =>
          [⟨entry.level.severity, LogRecord.nodeTarget, entry.message⟩,
            ⟨entry.level.severity, LogRecord.nodeTarget, "backtrace: " ++ backtrace⟩]
    outcome.nodeRecords =
        (if config.forwardNodeLogs then (decoded.filterMap Line.nodeLog?).flatMap recordsOf
        else []) ∧
      (∀ config' kinds', config'.kindFilter = .ok kinds' →
        config'.keepGoing = config.keepGoing →
        config'.forwardNodeLogs = config.forwardNodeLogs →
        (run config' source sink).nodeRecords = outcome.nodeRecords) ∧
      (∀ summary, outcome.result = .ok summary → decoded = considered source.lines) ∧
      (∀ number fault, outcome.result = .error (.line number fault) →
        decoded = (source.lines.take number).filter fun line => !isBlankLine line) ∧
      ∀ text, outcome.result = .error (.io text) →
        decoded = source.lines.filter fun line => !isBlankLine line := by
  intro outcome decoded recordsOf
  have hrun : outcome = runLines config kinds (source.failure.map .io) sink 1 source.lines :=
    run_of_kindFilter hkinds source
  have hrecordsOf : NodeLog.forwarded = recordsOf := by
    funext entry
    cases hbacktrace : entry.backtrace <;>
      simp [recordsOf, NodeLog.forwarded, hbacktrace]
  have hrecords : outcome.nodeRecords = decoded.flatMap config.forwardedBy := by
    rw [hrun]
    exact nodeRecords_runLines hsink 1 source.lines
  refine ⟨?records, ?presentation, ?ended, ?faulty, ?failed⟩
  case records => rw [hrecords, config.flatMap_forwardedBy, hrecordsOf]
  case presentation =>
    intro config' kinds' hkinds' hkeep hforward
    rw [run_of_kindFilter hkinds', nodeRecords_runLines hsink, hrecords,
      config.flatMap_forwardedBy, config'.flatMap_forwardedBy, hforward,
      StreamConfig.reached_congr hkeep]
  case ended =>
    intro summary hresult
    exact StreamConfig.reached_eq_considered (run_covers hresult).decoded
  case faulty =>
    intro number fault hresult
    rw [hrun] at hresult
    obtain ⟨count, rfl, hreached⟩ := reached_of_result_eq_line hsink hresult
    rw [Nat.add_comm 1 count]
    exact hreached
  case failed =>
    intro text hresult
    rw [hrun] at hresult
    exact StreamConfig.reached_of_passes (passes_of_result_eq_io hsink hresult).2

end Runs

/-- Log updates without a backtrace, with an empty one and with one, and a faulty line. -/
def loggedCapture : Source :=
  let lineOf (update : Update) : Line :=
    Utf8.encode (update.write.withMember "type" (.string Message.updateTag)).write
  .ofLines [lineOf (.log ⟨.warn, "low", none⟩), [], [0x78], lineOf (.log ⟨.error, "", some ""⟩),
    lineOf (.log ⟨.trace, "tick", some "rpc"⟩)]

/-- Though none of them is shown, every log update is passed on; of a strict run, only the one
before the faulty line. -/
theorem run_forwards_nodeLogs_of_loggedCapture :
    let lenient : StreamConfig := { keepGoing := true, kinds := ["Config"], format := .json }
    let quiet : StreamConfig := { lenient with forwardNodeLogs := false }
    (run lenient loggedCapture {}).nodeRecords =
        [⟨.warn, LogRecord.nodeTarget, "low"⟩, ⟨.error, LogRecord.nodeTarget, ""⟩,
          ⟨.error, LogRecord.nodeTarget, "backtrace: "⟩, ⟨.trace, LogRecord.nodeTarget, "tick"⟩,
          ⟨.trace, LogRecord.nodeTarget, "backtrace: rpc"⟩] ∧
      (run quiet loggedCapture {}).nodeRecords = [] ∧
      (run { keepGoing := true } loggedCapture {}).nodeRecords =
        (run lenient loggedCapture {}).nodeRecords ∧
      (run {} loggedCapture {}).result = .error (.line 3 (.notJson ['x'])) ∧
      (run {} loggedCapture {}).nodeRecords = [⟨.warn, LogRecord.nodeTarget, "low"⟩] := by
  intro lenient quiet
  have hsink : Sink.Reliable {} := ⟨rfl, rfl⟩
  have hlenient : lenient.kindFilter = .ok [.config] := rfl
  have hquiet : quiet.kindFilter = .ok [.config] := rfl
  have hstrict : StreamConfig.kindFilter {} = .ok [] := rfl
  obtain ⟨hrecords, hsame, -⟩ := run_forwards_nodeLogs hlenient hsink loggedCapture
  obtain ⟨hnone, -⟩ := run_forwards_nodeLogs hquiet hsink loggedCapture
  obtain ⟨hfirst, -⟩ := run_forwards_nodeLogs hstrict hsink loggedCapture
  exact ⟨hrecords.trans (by rfl), hnone, hsame _ _ rfl rfl rfl, by rfl, hfirst.trans (by rfl)⟩

end ControlStream

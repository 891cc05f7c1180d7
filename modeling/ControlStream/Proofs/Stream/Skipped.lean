import ControlStream.Proofs.Stream.Forwarded

/-!
# Skipped lines

A run that goes on past faulty lines says of each, in order, that it is skipped, and why. Nothing
else that it logs is a warning of the stream.
-/

namespace ControlStream

namespace LogRecord

def ofSkip [Json.Wording] (error : StreamError) : LogRecord :=
  ⟨.warn, streamTarget, "events: skipping " ++ error.message⟩

def ofSkips (records : List LogRecord) : List LogRecord :=
  records.filter fun record => record.level == .warn && record.target == streamTarget

@[simp] theorem ofSkips_nil : ofSkips [] = [] := rfl

@[simp] theorem ofSkips_append (records records' : List LogRecord) :
    ofSkips (records ++ records') = ofSkips records ++ ofSkips records' :=
  List.filter_append _ _

theorem ofSkips_ofSkip [Json.Wording] (error : StreamError) :
    ofSkips [ofSkip error] = [ofSkip error] := rfl

theorem ofSkips_singleton_of_ne {severity : Severity} {target text : String}
    (h : severity ≠ .warn) :
    ofSkips [⟨severity, target, text⟩] = [] := by
  simp [ofSkips, h]

theorem ofSkips_eq_nil {records : List LogRecord}
    (h : ∀ record ∈ records, record.target ≠ streamTarget) : ofSkips records = [] := by
  apply List.filter_eq_nil_iff.mpr
  intro record hmem hskip
  have htarget : (record.target == streamTarget) = true := (Bool.and_eq_true_iff.mp hskip).2
  exact h record hmem (beq_iff_eq.mp htarget)

theorem ofSkips_eq_nil_of_decoding {records : List LogRecord}
    (h : ∀ record ∈ records, record.target ∈ decodingTargets) : ofSkips records = [] := by
  have hother : streamTarget ∉ decodingTargets := by decide
  apply ofSkips_eq_nil
  intro record hmem htarget
  exact hother (htarget ▸ h record hmem)

end LogRecord

open LogRecord (ofSkip ofSkips)

theorem Line.ofSkips_notes (line : Line) : ofSkips (notes line) = [] :=
  LogRecord.ofSkips_eq_nil_of_decoding fun _ => target_of_mem_notes

theorem Response.ofSkips_notes (response : Response) : ofSkips response.notes = [] :=
  LogRecord.ofSkips_eq_nil_of_decoding fun _ => target_of_mem_notes

theorem Update.ofSkips_forwarded (update : Update) : ofSkips update.forwarded = [] := by
  have hother : LogRecord.nodeTarget ≠ LogRecord.streamTarget := by decide
  apply LogRecord.ofSkips_eq_nil
  intro record hmem htarget
  exact hother (target_of_mem_forwarded hmem ▸ htarget)

/-! ## The lines that are skipped -/

namespace StreamConfig

/-- The lines that a run reaches, each with its number. -/
def reachedFrom (config : StreamConfig) (number : Nat) (lines : List Line) : List (Line × Nat) :=
  throughFirst (fun numbered => config.stopsAt numbered.1)
    ((lines.zipIdx number).filter fun numbered => !isBlankLine numbered.1)

/-- The error for which a numbered line is skipped, if it is. -/
def skip? (config : StreamConfig) (numbered : Line × Nat) : Option StreamError :=
  match Line.message numbered.1 with
  | .error fault => if config.keepGoing then some (.line numbered.2 fault) else none
  | .ok _ => none

/-- The errors of the lines that a run skips, the first of which has the given number. -/
def skipped (config : StreamConfig) (number : Nat) (lines : List Line) : List StreamError :=
  (config.reachedFrom number lines).filterMap config.skip?

variable {config : StreamConfig} {number : Nat} {line : Line} {rest : List Line}

theorem skipped_cons_of_blank (h : isBlankLine line = true) :
    config.skipped number (line :: rest) = config.skipped (number + 1) rest := by
  simp [skipped, reachedFrom, h]

theorem skipped_cons_of_stop (hblank : isBlankLine line = false)
    (h : config.stopsAt line = true) :
    config.skipped number (line :: rest) = (config.skip? (line, number)).toList := by
  have hreached : config.reachedFrom number (line :: rest) = [(line, number)] := by
    rw [reachedFrom, List.zipIdx_cons, List.filter_cons_of_pos (by simp [hblank])]
    exact throughFirst_cons_of_pos h
  rw [skipped, hreached, List.filterMap_cons]
  cases config.skip? (line, number) <;> rfl

theorem skipped_cons_of_pass (hblank : isBlankLine line = false)
    (h : config.stopsAt line = false) :
    config.skipped number (line :: rest) =
      (config.skip? (line, number)).toList ++ config.skipped (number + 1) rest := by
  have hreached : config.reachedFrom number (line :: rest) =
      (line, number) :: config.reachedFrom (number + 1) rest := by
    rw [reachedFrom, List.zipIdx_cons, List.filter_cons_of_pos (by simp [hblank])]
    exact throughFirst_cons_of_neg h
  rw [skipped, hreached, List.filterMap_cons]
  cases config.skip? (line, number) <;> rfl

/-- Which lines are skipped hangs on nothing else in a configuration. -/
theorem skipped_congr {config' : StreamConfig} (h : config.keepGoing = config'.keepGoing) :
    config.skipped = config'.skipped := by
  have hskip : config.skip? = config'.skip? := by
    funext numbered
    rw [skip?, skip?, h]
  funext number lines
  rw [skipped, skipped, reachedFrom, reachedFrom, stopsAt_congr h, hskip]

end StreamConfig

/-! ## The numbers of skipped lines -/

/-- The line with a number has a fault, is not blank, and stands behind no shutdown. -/
def FaultAt (number : Nat) (lines : List Line) (place : Nat) (fault : LineFault) : Prop :=
  ∃ before line after, lines = before ++ line :: after ∧ place = number + before.length ∧
    isBlankLine line = false ∧ Line.message line = .error fault ∧
    ∀ earlier ∈ before, earlier.update? ≠ some .shutdown

section Numbers

variable {config : StreamConfig} {number place : Nat} {fault : LineFault} {line : Line}
  {lines rest : List Line}

theorem not_faultAt_nil : ¬FaultAt number [] place fault := by
  intro ⟨before, _, _, hlines, _⟩
  cases before <;> cases hlines

theorem faultAt_cons_iff :
    FaultAt number (line :: rest) place fault ↔
      (place = number ∧ isBlankLine line = false ∧ Line.message line = .error fault) ∨
        line.update? ≠ some .shutdown ∧ FaultAt (number + 1) rest place fault := by
  constructor
  · intro ⟨before, faulty, after, hlines, hplace, hblank, hfault, hbefore⟩
    cases before with
    | nil =>
        cases hlines
        exact .inl ⟨hplace, hblank, hfault⟩
    | cons first before =>
        cases hlines
        have hothers := List.forall_mem_cons.mp hbefore
        refine .inr ⟨hothers.1, before, faulty, after, rfl, ?_, hblank, hfault, hothers.2⟩
        rw [hplace, List.length_cons]
        omega
  · intro h
    cases h with
    | inl hhere =>
        exact ⟨[], line, rest, rfl, hhere.1, hhere.2.1, hhere.2.2, List.forall_mem_nil _⟩
    | inr hlater =>
        obtain ⟨hother, before, faulty, after, hrest, hplace, hblank, hfault, hbefore⟩ := hlater
        refine ⟨line :: before, faulty, after, ?_, ?_, hblank, hfault, ?_⟩
        · rw [hrest, List.cons_append]
        · rw [hplace, List.length_cons]
          omega
        · exact List.forall_mem_cons.mpr ⟨hother, hbefore⟩

theorem StreamConfig.line_mem_skip?_iff :
    StreamError.line place fault ∈ (config.skip? (line, number)).toList ↔
      config.keepGoing = true ∧ place = number ∧ Line.message line = .error fault := by
  unfold skip?
  cases Line.message line with
  | ok message => simp
  | error found => cases config.keepGoing <;> simp [eq_comm]

/-- If faulty lines are skipped, it is those that stand behind no shutdown, each under its number
among all lines, the blank ones too. -/
theorem StreamConfig.line_mem_skipped_iff :
    StreamError.line place fault ∈ config.skipped number lines ↔
      config.keepGoing = true ∧ FaultAt number lines place fault := by
  induction lines using config.stop_induction generalizing number with
  | nil => simp [skipped, reachedFrom, not_faultAt_nil]
  | blank line rest hblank ih =>
      rw [skipped_cons_of_blank hblank, ih, faultAt_cons_iff]
      simp [hblank, Line.update?_of_blank hblank]
  | stop line rest hblank hstop =>
      rw [skipped_cons_of_stop hblank hstop, line_mem_skip?_iff, faultAt_cons_iff]
      refine and_congr_right fun hkeep => ?_
      have hshutdown : line.update? = some .shutdown :=
        Line.isShutdown_iff.mp (by simpa [stopsAt, hkeep] using hstop)
      simp [hblank, hshutdown]
  | pass line rest hblank hstop ih =>
      have hother : line.update? ≠ some .shutdown := by
        intro hshutdown
        have hgoes := (stopsAt_eq_false_iff.mp hstop).1
        rw [Line.isShutdown_iff.mpr hshutdown] at hgoes
        cases hgoes
      rw [skipped_cons_of_pass hblank hstop, List.mem_append, line_mem_skip?_iff, ih,
        faultAt_cons_iff, and_or_left]
      simp [hblank, hother]

theorem StreamConfig.exists_line_of_mem_skipped {error : StreamError}
    (h : error ∈ config.skipped number lines) : ∃ place fault, error = .line place fault := by
  obtain ⟨⟨line, place⟩, -, hskip⟩ := List.mem_filterMap.mp h
  unfold skip? at hskip
  dsimp only at hskip
  split at hskip
  · next fault _ =>
      split at hskip
      · exact ⟨place, fault, (Option.some.inj hskip).symm⟩
      · cases hskip
  · cases hskip

end Numbers

/-! ## Steps and runs -/

theorem Step.ofSkips_ofLine [Json.Wording] {config : StreamConfig} {kinds : List UpdateKind}
    {number : Nat} {line : Line} (hblank : isBlankLine line = false) :
    ofSkips ((ofLine config kinds number line).before ++ (ofLine config kinds number line).after) =
      (config.skip? (line, number)).toList.map ofSkip := by
  have hdebug : Severity.debug ≠ .warn := by decide
  rcases line.decoded_cases with ⟨fault, h, _⟩ | ⟨response, h, _⟩ | ⟨update, h, _⟩
  · cases hkeep : config.keepGoing with
    | false => simp [ofLine, hblank, h, ofFault, hkeep, StreamConfig.skip?, Line.ofSkips_notes]
    | true =>
        have hskip := LogRecord.ofSkips_ofSkip (.line number fault)
        rw [ofSkip] at hskip
        simp [ofLine, hblank, h, ofFault, hkeep, StreamConfig.skip?, Line.ofSkips_notes, ofSkip,
          hskip]
  · cases hformat : config.format <;>
      simp [ofLine, hblank, h, ofResponse, hformat, StreamConfig.skip?, Line.ofSkips_notes,
        Response.ofSkips_notes]
  · cases hends : update.kind == .shutdown <;> cases hforward : config.forwardNodeLogs <;>
      simp [ofLine, hblank, h, ofUpdate, hends, hforward, StreamConfig.skip?, Line.ofSkips_notes,
        Update.ofSkips_forwarded, LogRecord.ofSkips_singleton_of_ne hdebug]

namespace Outcome

def skips (outcome : Outcome) : List LogRecord := ofSkips outcome.logs

theorem skips_behind (outcome : Outcome) (step : Step) :
    (outcome.behind step).skips = ofSkips (step.before ++ step.after) ++ outcome.skips := by
  simp [skips, behind]

end Outcome

/-- A run on a reliable sink logs a warning for each line that it skips, and no other. -/
theorem skips_runLines [Json.Wording] {config : StreamConfig} {kinds : List UpdateKind}
    {ending : Option StreamError} {sink : Sink} (hsink : sink.Reliable) (number : Nat)
    (lines : List Line) :
    (runLines config kinds ending sink number lines).skips =
      (config.skipped number lines).map ofSkip := by
  induction lines using config.stop_induction generalizing number with
  | nil =>
      rw [runLines_nil hsink]
      rfl
  | blank line rest hblank ih =>
      rw [runLines_cons_of_blank hblank, StreamConfig.skipped_cons_of_blank hblank, ih]
  | stop line rest hblank hstop =>
      rw [runLines_cons_of_stop hsink hblank hstop,
        StreamConfig.skipped_cons_of_stop hblank hstop, Outcome.skips_behind,
        Step.ofSkips_ofLine hblank]
      exact List.append_nil _
  | pass line rest hblank hstop ih =>
      rw [runLines_cons_of_pass hsink hblank hstop,
        StreamConfig.skipped_cons_of_pass hblank hstop, Outcome.skips_behind,
        Step.ofSkips_ofLine hblank, ih, List.map_append]

end ControlStream

import ControlStream.Proofs.Stream.Stops

/-!
# Runs on a reliable sink

A run on a sink that does not fail is told by the lines that it reaches: it writes the messages
that they decode to, as far as those are shown, and its result is the tally of the lines or the
error that it ends with.
-/

namespace ControlStream

/-- A step that stops a run without being a shutdown is one of a faulty line. -/
theorem StreamConfig.keepGoing_eq_false_of_stopsAt {config : StreamConfig} {line : Line}
    {fault : LineFault} (hstop : config.stopsAt line = true)
    (hfault : Line.message line = .error fault) : config.keepGoing = false := by
  have hother : line.isShutdown = false := by
    simp [Line.isShutdown, Line.update?, hfault]
  rw [stopsAt, hother, Bool.false_or] at hstop
  have hstrict : (!config.keepGoing) = true := (Bool.and_eq_true_iff.mp hstop).1
  simpa using hstrict

section Runs

variable [Json.Wording]
variable {config : StreamConfig} {kinds : List UpdateKind} {ending : Option StreamError}
  {sink : Sink} {number : Nat} {line : Line} {lines rest : List Line}

/-! ## What is written -/

theorem torn_runLines (hsink : sink.Reliable) :
    (runLines config kinds ending sink number lines).torn = [] := by
  induction lines using config.stop_induction generalizing number with
  | nil =>
      rw [runLines_nil hsink]
      rfl
  | blank line rest hblank ih =>
      rw [runLines_cons_of_blank hblank]
      exact ih
  | stop line rest hblank hstop =>
      rw [runLines_cons_of_stop hsink hblank hstop]
      rfl
  | pass line rest hblank hstop ih =>
      rw [runLines_cons_of_pass hsink hblank hstop]
      exact ih

/-- A run shows the messages of the lines that it reaches, as far as those are to be shown. -/
theorem shown_runLines (hkinds : config.kindFilter = .ok kinds) (hsink : sink.Reliable) :
    (runLines config kinds ending sink number lines).shown =
      (config.printed (config.reached lines)).map config.format.ofMessage := by
  induction lines using config.stop_induction generalizing number with
  | nil =>
      rw [runLines_nil hsink]
      rfl
  | blank line rest hblank ih =>
      rw [runLines_cons_of_blank hblank, StreamConfig.reached_cons_of_blank hblank]
      exact ih
  | stop line rest hblank hstop =>
      rw [runLines_cons_of_stop hsink hblank hstop,
        StreamConfig.reached_cons_of_stop hblank hstop, ← Step.event_ofLine hkinds hblank]
      exact List.append_nil _
  | pass line rest hblank hstop ih =>
      rw [runLines_cons_of_pass hsink hblank hstop,
        StreamConfig.reached_cons_of_pass hblank hstop, config.printed_cons, List.map_append,
        ← Step.event_ofLine hkinds hblank, ← ih]
      rfl

theorem output_runLines (hkinds : config.kindFilter = .ok kinds) (hsink : sink.Reliable) :
    (runLines config kinds ending sink number lines).output =
      ((config.printed (config.reached lines)).map config.format.ofMessage).flatMap
        Step.lineOf := by
  rw [Outcome.output, torn_runLines hsink, List.append_nil, shown_runLines hkinds hsink]

/-! ## The result -/

/-- A run that stops at a line ends with the fault of the line, or well at a shutdown. -/
theorem result_cons_of_stop (hkinds : config.kindFilter = .ok kinds) (hsink : sink.Reliable)
    (hblank : isBlankLine line = false) (hstop : config.stopsAt line = true) :
    (runLines config kinds ending sink number (line :: rest)).result =
      match Line.message line with
      | .error fault => .error (.line number fault)
      | .ok _ => .ok (.tally config [line]) := by
  have hfailure : (Step.ofLine config kinds number line).failure = _ := Step.failure_ofLine hblank
  rw [runLines_cons_of_stop hsink hblank hstop]
  cases hmessage : Line.message line with
  | error fault =>
      rw [hmessage, StreamConfig.keepGoing_eq_false_of_stopsAt hstop hmessage] at hfailure
      rw [hfailure]
      rfl
  | ok message =>
      rw [hmessage] at hfailure
      have hcounted := Step.counted_ofLine hkinds hblank hfailure
      rw [hfailure, Outcome.behind, hcounted]
      simp [Outcome.finished, Except.map]

theorem result_cons_of_pass (hkinds : config.kindFilter = .ok kinds) (hsink : sink.Reliable)
    (hblank : isBlankLine line = false) (hstop : config.stopsAt line = false) :
    (runLines config kinds ending sink number (line :: rest)).result =
      (runLines config kinds ending sink (number + 1) rest).result.map
        (.tally config [line] + ·) := by
  have hgoes : (Step.ofLine config kinds number line).failure = none := by
    simpa using (not_or.mp (Step.goes_ofLine kinds number hblank hstop)).1
  have hcounted := Step.counted_ofLine hkinds hblank hgoes
  rw [runLines_cons_of_pass hsink hblank hstop, Outcome.behind, hcounted]

/-- A run that ends well and without a shutdown has got past all of its lines. -/
theorem passes_of_result_eq_ok {summary : Summary} (hkinds : config.kindFilter = .ok kinds)
    (hsink : sink.Reliable)
    (h : (runLines config kinds ending sink number lines).result = .ok summary)
    (hgoes : summary.shutdown = false) :
    ∀ line ∈ lines, isBlankLine line = false → config.stopsAt line = false := by
  induction lines using config.stop_induction generalizing number summary with
  | nil => simp
  | blank line rest hblank ih =>
      rw [runLines_cons_of_blank hblank] at h
      exact List.forall_mem_cons.mpr ⟨fun hnot => by simp [hblank] at hnot, ih h hgoes⟩
  | stop line rest hblank hstop =>
      rw [result_cons_of_stop hkinds hsink hblank hstop] at h
      cases hmessage : Line.message line with
      | error fault =>
          rw [hmessage] at h
          cases h
      | ok message =>
          rw [hmessage] at h
          have hsound : line.isFaulty = false := by rw [Line.isFaulty, hmessage]
          have hshutdown : line.isShutdown = true := by
            rwa [StreamConfig.stopsAt, hsound, Bool.and_false, Bool.or_false] at hstop
          rw [← Except.ok.inj h] at hgoes
          simp [Summary.tally, hshutdown] at hgoes
  | pass line rest hblank hstop ih =>
      rw [result_cons_of_pass hkinds hsink hblank hstop] at h
      obtain ⟨later, hlater, rfl⟩ := Except.map_eq_ok_iff.mp h
      have hlast : later.shutdown = false := (Bool.or_eq_false_iff.mp hgoes).2
      exact List.forall_mem_cons.mpr ⟨fun _ => hstop, ih hlater hlast⟩

/-- A run on a reliable sink that fails without a faulty line has got past all of its lines, and
meets the error that comes behind them. -/
theorem passes_of_result_eq_io {text : String} (hsink : sink.Reliable)
    (h : (runLines config kinds ending sink number lines).result = .error (.io text)) :
    ending = some (.io text) ∧
      ∀ line ∈ lines, isBlankLine line = false → config.stopsAt line = false := by
  induction lines using config.stop_induction generalizing number with
  | nil =>
      rw [runLines_nil hsink, Outcome.result_finished_eq_error_iff] at h
      exact ⟨h, by simp⟩
  | blank line rest hblank ih =>
      rw [runLines_cons_of_blank hblank] at h
      obtain ⟨hending, hrest⟩ := ih h
      exact ⟨hending, List.forall_mem_cons.mpr ⟨fun hnot => by simp [hblank] at hnot, hrest⟩⟩
  | stop line rest hblank hstop =>
      rw [runLines_cons_of_stop hsink hblank hstop, Outcome.result_behind_eq_error_iff,
        Outcome.result_finished_eq_error_iff, Step.failure_ofLine hblank] at h
      cases hmessage : Line.message line <;> cases hkeep : config.keepGoing <;>
        simp [hmessage, hkeep] at h
  | pass line rest hblank hstop ih =>
      rw [runLines_cons_of_pass hsink hblank hstop, Outcome.result_behind_eq_error_iff] at h
      obtain ⟨hending, hrest⟩ := ih h
      exact ⟨hending, List.forall_mem_cons.mpr ⟨fun _ => hstop, hrest⟩⟩

end Runs

end ControlStream

import ControlStream.Proofs.Stream.Skipped

/-!
# Runs on any sink

Nothing is asked of the sink at a line without an event. So whatever the sink does, a run fails at
no line but a faulty one, and the lines that it says to skip are the first of those that it would
skip on a reliable sink.
-/

namespace ControlStream

theorem Step.written_eq_nil_iff {step : Step} : step.written = [] ↔ step.event = none := by
  cases hevent : step.event <;> simp [written, hevent, lineOf]

section Runs

variable [Json.Wording]
variable {config : StreamConfig} {kinds : List UpdateKind} {ending : Option StreamError}
  {failure : Option String} {sink : Sink} {number place : Nat} {line : Line}
  {lines rest : List Line} {fault : LineFault}

theorem runLines_cons_of_silent (hevent : (Step.ofLine config kinds number line).event = none) :
    runLines config kinds ending sink number (line :: rest) =
      let step := Step.ofLine config kinds number line
      if step.failure.isSome ∨ step.counted.shutdown then
        (Outcome.finished (step.failure.or (sink.flushFailure.map .io))).behind step
      else (runLines config kinds ending sink (number + 1) rest).behind step := by
  have hwrite : sink.write (Step.ofLine config kinds number line).written = .ok sink := by
    rw [Step.written_eq_nil_iff.mpr hevent, Sink.write_nil]
  exact runLines_cons_of_write hwrite

theorem exists_message_of_lineError
    (h : (runLines config kinds (failure.map .io) sink number lines).result =
      .error (.line place fault)) : ∃ line ∈ lines, Line.message line = .error fault := by
  induction lines generalizing sink number with
  | nil =>
      rw [runLines, Outcome.result_finished_eq_error_iff] at h
      cases failure <;> cases hflush : sink.flushFailure <;> simp [hflush] at h
  | cons line rest ih =>
      cases hwrite : sink.write (Step.ofLine config kinds number line).written with
      | error text =>
          rw [runLines_cons_of_tear hwrite] at h
          cases h
      | ok left =>
          rw [runLines_cons_of_write hwrite] at h
          dsimp only at h
          split at h
          · rw [Outcome.result_behind_eq_error_iff, Outcome.result_finished_eq_error_iff] at h
            have hfailure : (Step.ofLine config kinds number line).failure =
                some (.line place fault) := by
              rcases Option.or_eq_some_iff.mp h with hstep | ⟨_, hflush⟩
              · exact hstep
              · cases hnone : left.flushFailure <;> simp [hnone] at hflush
            exact ⟨line, List.mem_cons_self, (Step.fault_of_failure hfailure).2⟩
          · rw [Outcome.result_behind_eq_error_iff] at h
            obtain ⟨faulty, hmem, hfault⟩ := ih h
            exact ⟨faulty, List.mem_cons_of_mem line hmem, hfault⟩

/-- A step says of its line alone whether it is skipped. -/
theorem Step.ofSkips_before_prefix (hblank : isBlankLine line = false) :
    LogRecord.ofSkips (ofLine config kinds number line).before <+:
      (config.skip? (line, number)).toList.map LogRecord.ofSkip := by
  have hstep : LogRecord.ofSkips ((ofLine config kinds number line).before ++
      (ofLine config kinds number line).after) = _ := ofSkips_ofLine hblank
  rw [← hstep, LogRecord.ofSkips_append]
  exact List.prefix_append _ _

theorem StreamConfig.skip?_prefix_skipped (hblank : isBlankLine line = false) :
    (config.skip? (line, number)).toList.map LogRecord.ofSkip <+:
      (config.skipped number (line :: rest)).map LogRecord.ofSkip := by
  cases hstops : config.stopsAt line with
  | true =>
      have hskipped : config.skipped number (line :: rest) =
          (config.skip? (line, number)).toList := skipped_cons_of_stop hblank hstops
      exact hskipped ▸ List.prefix_rfl
  | false =>
      rw [skipped_cons_of_pass hblank hstops, List.map_append]
      exact List.prefix_append _ _

/-- On any sink, a run says of the first lines that it would skip on a reliable one that it skips
them. -/
theorem skips_runLines_prefix :
    (runLines config kinds ending sink number lines).skips <+:
      (config.skipped number lines).map LogRecord.ofSkip := by
  induction lines generalizing sink number with
  | nil => exact List.nil_prefix
  | cons line rest ih =>
      cases hblank : isBlankLine line with
      | true =>
          rw [runLines_cons_of_blank hblank, StreamConfig.skipped_cons_of_blank hblank]
          exact ih
      | false =>
          cases hwrite : sink.write (Step.ofLine config kinds number line).written with
          | error text =>
              rw [runLines_cons_of_tear hwrite]
              exact (Step.ofSkips_before_prefix hblank).trans
                (StreamConfig.skip?_prefix_skipped hblank)
          | ok left =>
              rw [runLines_cons_of_write hwrite]
              dsimp only
              by_cases hstops : config.stopsAt line = true
              · rw [if_pos ((Step.stops_ofLine kinds number hblank).mpr hstops),
                  StreamConfig.skipped_cons_of_stop hblank hstops, Outcome.skips_behind,
                  Step.ofSkips_ofLine hblank]
                exact List.append_nil _ ▸ List.prefix_rfl
              · have hgoes : config.stopsAt line = false := Bool.eq_false_iff.mpr hstops
                rw [if_neg (Step.goes_ofLine kinds number hblank hgoes),
                  StreamConfig.skipped_cons_of_pass hblank hgoes, Outcome.skips_behind,
                  Step.ofSkips_ofLine hblank, List.map_append]
                exact (List.prefix_append_right_inj _).mpr ih

end Runs

end ControlStream

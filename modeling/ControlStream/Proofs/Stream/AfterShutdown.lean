import ControlStream.Proofs.Stream.Lines
import ControlStream.Proofs.Stream.Stops

/-!
# After a shutdown

A run looks at nothing behind the line of a shutdown: neither at what is there nor at whether the
reader fails.
-/

namespace ControlStream

section Runs

variable [Json.Wording]
variable {config : StreamConfig} {kinds : List UpdateKind} {ending : Option StreamError}
  {sink : Sink} {number : Nat} {summary : Summary}

theorem runLines_append_of_shutdown {lines : List Line}
    (h : (runLines config kinds ending sink number lines).result = .ok summary)
    (hshutdown : summary.shutdown = true) (later : List Line) (ending' : Option StreamError) :
    runLines config kinds ending' sink number (lines ++ later) =
      runLines config kinds ending sink number lines := by
  induction lines generalizing sink number summary with
  | nil =>
      have hempty : summary = {} := by
        cases hend : ending.or (sink.flushFailure.map .io) with
        | none => simpa [runLines, Outcome.finished, hend] using h.symm
        | some error => simp [runLines, Outcome.finished, hend] at h
      rw [hempty] at hshutdown
      cases hshutdown
  | cons line rest ih =>
      rw [List.cons_append]
      cases hwrite : sink.write (Step.ofLine config kinds number line).written with
      | error text => rw [runLines_cons_of_tear hwrite, runLines_cons_of_tear hwrite]
      | ok left =>
          rw [runLines_cons_of_write hwrite] at h ⊢
          rw [runLines_cons_of_write hwrite]
          generalize Step.ofLine config kinds number line = step at h ⊢
          dsimp only at h ⊢
          by_cases hstops : step.failure.isSome ∨ step.counted.shutdown
          · rw [if_pos hstops, if_pos hstops]
          · rw [if_neg hstops] at h
            rw [if_neg hstops, if_neg hstops]
            -- The step itself is no shutdown, so the rest of the run comes to one.
            obtain ⟨last, hlast, rfl⟩ := Except.map_eq_ok_iff.mp h
            have hother : step.counted.shutdown = false := by
              simpa using (not_or.mp hstops).2
            have hrest : last.shutdown = true := by
              change (step.counted.shutdown || last.shutdown) = true at hshutdown
              rwa [hother, Bool.false_or] at hshutdown
            rw [ih hlast hrest]

/-- When the run over whole lines comes to a shutdown, every source that goes on behind them, and
whose reader fails there or does not, has the very same run: the same summary, the same output and
the same log. -/
theorem run_append_of_shutdown {source : Source} (hwhole : IsWholeLines source.bytes)
    (h : (run config source sink).result = .ok summary) (hshutdown : summary.shutdown = true)
    (later : List UInt8) (failure : Option String) :
    run config { bytes := source.bytes ++ later, failure } sink = run config source sink := by
  obtain ⟨kinds, hkinds⟩ := exists_kindFilter_eq_ok h
  have hlines : ({ bytes := source.bytes ++ later, failure } : Source).lines =
      source.lines ++ ({ bytes := later, failure } : Source).lines := by
    rw [Source.lines_of_isWholeLines hwhole]
    exact Source.lines_append hwhole { bytes := later, failure }
  rw [run_of_kindFilter hkinds] at h
  rw [run_of_kindFilter hkinds, run_of_kindFilter hkinds, hlines]
  exact runLines_append_of_shutdown h hshutdown _ _

end Runs

def endedCapture : Source :=
  .ofLines ([Update.log ⟨.info, "up", none⟩, .shutdown].map fun update =>
    Utf8.encode (update.write.withMember "type" (.string Message.updateTag)).write)

/-- A shutdown that is not shown ends the run all the same, before bytes that are no text, a second
shutdown and a failure of the reader. -/
theorem run_append_of_shutdown_of_endedCapture :
    let config : StreamConfig := { kinds := ["Log"] }
    let longer : Source :=
      { bytes := endedCapture.bytes ++ (0xFF :: lineFeed :: endedCapture.bytes)
        failure := some "gone" }
    (run config endedCapture {}).result = .ok ⟨2, 2, 0, 1, 0, true⟩ ∧
      (run config longer {}).result = .ok ⟨2, 2, 0, 1, 0, true⟩ ∧
      run config longer {} = run config endedCapture {} := by
  intro config longer
  have h : (run config endedCapture {}).result = .ok ⟨2, 2, 0, 1, 0, true⟩ := by rfl
  have hwhole : IsWholeLines endedCapture.bytes := Source.isWholeLines_ofLines _
  have hsame : run config longer {} = run config endedCapture {} :=
    run_append_of_shutdown hwhole h rfl _ _
  refine ⟨h, ?_, hsame⟩
  rw [hsame]
  exact h

end ControlStream

import ControlStream.Proofs.Stream.Completed
import ControlStream.Proofs.Wire.Carries

/-!
# What a summary says

The six numbers of a summary, read off the lines that the run has considered.
-/

namespace ControlStream

variable {config : StreamConfig} {source : Source} {sink : Sink} {summary : Summary}

/-- Each line counts once, as what it decodes to. -/
theorem Line.sorts_add (lines : List Line) :
    lines.length = (lines.filterMap Line.update?).length +
      (lines.filterMap Line.response?).length + lines.countP Line.isFaulty := by
  induction lines with
  | nil => rfl
  | cons line lines ih =>
      rcases line.decoded_cases with ⟨_, _, _, hupdate, hresponse, hfaulty⟩ |
        ⟨_, _, _, hupdate, hresponse, hfaulty⟩ | ⟨_, _, _, hupdate, hresponse, hfaulty⟩
      · simp [hupdate, hresponse, hfaulty]
        omega
      · simp [hupdate, hresponse, hfaulty]
        omega
      · simp [hupdate, hresponse, hfaulty]
        omega

/-- A run that ends without an error has counted exactly its considered lines: each as an update,
a response or a failure, the updates that no given kind names as filtered, and the shutdown that
can only be the last of them. -/
theorem run_summary [Json.Wording] (h : (run config source sink).result = .ok summary) :
    let seen := considered source.lines
    let updates := seen.filterMap Line.update?
    summary.lines = seen.length ∧
      summary.updates = updates.length ∧
      summary.responses = (seen.filterMap Line.response?).length ∧
      summary.failed = seen.countP Line.isFaulty ∧
      summary.lines = summary.updates + summary.responses + summary.failed ∧
      summary.filtered =
        updates.countP (fun update => config.kinds ≠ [] ∧ update.kind.name ∉ config.kinds) ∧
      (config.kinds = [] → summary.filtered = 0) ∧
      summary.filtered ≤ summary.updates ∧
      (config.keepGoing = false → summary.failed = 0) ∧
      (summary.shutdown = true ↔
        ∃ before last, seen = before ++ [last] ∧ last.update? = some .shutdown) ∧
      ∀ line ∈ seen.dropLast, line.update? ≠ some .shutdown := by
  intro seen updates
  have hdecoded := (run_covers h).decoded
  rw [eq_tally_of_run h]
  have hfiltered : (Summary.tally config seen).filtered =
      updates.countP (fun update => config.kinds ≠ [] ∧ update.kind.name ∉ config.kinds) := by
    refine List.countP_congr fun update _ => ?_
    simp [StreamConfig.shows]
  have hlast : (Summary.tally config seen).shutdown = true ↔
      ∃ before last, seen = before ++ [last] ∧ last.update? = some .shutdown :=
    any_isShutdown_considered source.lines
  refine ⟨rfl, rfl, rfl, rfl, Line.sorts_add seen, hfiltered, ?_, List.countP_le_length, ?_, hlast,
    fun line => update?_ne_shutdown_of_mem_dropLast⟩
  · intro hall
    refine hfiltered.trans ?_
    simp [hall]
  · intro hkeep
    change seen.countP Line.isFaulty = 0
    refine List.countP_eq_zero.mpr fun line hline => ?_
    simp [hdecoded hkeep line hline]

/-- A line that fails, a blank one, a response, two updates and a line that the reader cuts off. -/
def mixedCapture : Source :=
  let response := Json.ofMembers [("type", .string Message.responseTag), ("id", .natural 7)]
  let updates := [Update.config ⟨[]⟩, .shutdown].map fun update =>
    update.write.withMember "type" (.string Message.updateTag)
  { bytes := Utf8.encode "x\n \n" ++
      (response :: updates).flatMap (fun value => Step.lineOf value.write) ++ Utf8.encode "y"
    failure := some "gone" }

/-- The first update is filtered and the second ends the run before the reader fails. -/
theorem run_summary_of_mixedCapture :
    (run { kinds := ["Shutdown"], keepGoing := true } mixedCapture {}).result =
        .ok ⟨4, 2, 1, 1, 1, true⟩ ∧
      (considered mixedCapture.lines).length = 4 ∧
      (considered mixedCapture.lines).countP Line.isFaulty = 1 ∧
      ∃ before last, considered mixedCapture.lines = before ++ [last] ∧
        last.update? = some .shutdown := by
  have h : (run { kinds := ["Shutdown"], keepGoing := true } mixedCapture {}).result =
      .ok ⟨4, 2, 1, 1, 1, true⟩ := by rfl
  obtain ⟨hlines, _, _, hfailed, _, _, _, _, _, hshutdown, _⟩ := run_summary h
  exact ⟨h, hlines.symm, hfailed.symm, hshutdown.mp rfl⟩

end ControlStream

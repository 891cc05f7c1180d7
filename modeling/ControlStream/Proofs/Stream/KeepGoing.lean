import ControlStream.Proofs.Stream.Forwarded
import ControlStream.Proofs.Stream.Lines
import ControlStream.Proofs.Wire.Carries

/-!
# Skipping faulty lines

A run that skips faulty lines does what a strict run does with a source that has none: the faulty
lines leave a trace in two numbers of the summary and nowhere else.
-/

namespace ControlStream

namespace Line

/-- Whether a line is left when the faulty ones are taken out. Blank lines stand for nothing and
are left. -/
def isSound (line : Line) : Bool := isBlankLine line || !line.isFaulty

variable {line : Line}

theorem isFaulty_eq_false_of_isShutdown (h : line.isShutdown = true) : line.isFaulty = false := by
  rw [isFaulty, message_of_isShutdown h]

theorem undecoded_of_isFaulty (h : line.isFaulty = true) :
    line.message? = none ∧ line.update? = none ∧ line.response? = none := by
  rcases line.decoded_cases with ⟨_, _, hmessage, hupdate, hresponse, _⟩ |
    ⟨_, _, _, _, _, hfaulty⟩ | ⟨_, _, _, _, _, hfaulty⟩
  · exact ⟨hmessage, hupdate, hresponse⟩
  · rw [hfaulty] at h
    cases h
  · rw [hfaulty] at h
    cases h

/-- What faulty lines do not have can be looked for among the others. -/
theorem filterMap_filter_not_isFaulty {α : Type} (f : Line → Option α)
    (h : ∀ line, line.isFaulty = true → f line = none) (lines : List Line) :
    (lines.filter fun line => !line.isFaulty).filterMap f = lines.filterMap f := by
  induction lines with
  | nil => rfl
  | cons line lines ih =>
      cases hfaulty : line.isFaulty with
      | true => simp [hfaulty, h line hfaulty, ih]
      | false => simp [hfaulty, List.filterMap_cons, ih]

end Line

/-- Taking the faulty lines out first or last comes to the same: none of them is a shutdown. -/
theorem considered_filter_isSound (lines : List Line) :
    considered (lines.filter Line.isSound) =
      (considered lines).filter fun line => !line.isFaulty := by
  induction lines with
  | nil => rfl
  | cons line lines ih =>
      cases hblank : isBlankLine line with
      | true =>
          have hsound : line.isSound = true := by simp [Line.isSound, hblank]
          rw [List.filter_cons_of_pos hsound, considered_cons_of_blank hblank,
            considered_cons_of_blank hblank, ih]
      | false =>
          have hsound : line.isSound = !line.isFaulty := by simp [Line.isSound, hblank]
          cases hshutdown : line.isShutdown with
          | true =>
              have hdecodes := Line.isFaulty_eq_false_of_isShutdown hshutdown
              rw [hdecodes] at hsound
              rw [List.filter_cons_of_pos hsound, considered_cons_of_shutdown hblank hshutdown,
                considered_cons_of_shutdown hblank hshutdown]
              simp [hdecodes]
          | false =>
              rw [considered_cons_of_other hblank hshutdown]
              cases hfaulty : line.isFaulty with
              | true =>
                  rw [hfaulty] at hsound
                  simp [hsound, hfaulty, ih]
              | false =>
                  rw [hfaulty] at hsound
                  rw [List.filter_cons_of_pos hsound, considered_cons_of_other hblank hshutdown, ih]
                  simp [hfaulty]

/-! ## What faulty lines count for -/

section Faultless

variable (config : StreamConfig) (lines : List Line)

/-- Faulty lines count as lines and as failures and for nothing else. -/
theorem Summary.tally_eq_add_isFaulty :
    Summary.tally config lines =
      Summary.tally config (lines.filter fun line => !line.isFaulty) +
        { lines := lines.countP Line.isFaulty, failed := lines.countP Line.isFaulty } := by
  have hlength : lines.length =
      (lines.filter fun line => !line.isFaulty).length + lines.countP Line.isFaulty := by
    have hsplit : lines.length = lines.countP Line.isFaulty + _ :=
      List.length_eq_countP_add_countP _
    rw [← List.countP_eq_length_filter]
    simp only [Bool.not_eq_true, Bool.decide_eq_false] at hsplit
    omega
  have hfailed : (lines.filter fun line => !line.isFaulty).countP Line.isFaulty = 0 := by
    simp [List.countP_eq_zero]
  have hupdates := Line.filterMap_filter_not_isFaulty Line.update?
    (fun _ h => (Line.undecoded_of_isFaulty h).2.1) lines
  have hresponses := Line.filterMap_filter_not_isFaulty Line.response?
    (fun _ h => (Line.undecoded_of_isFaulty h).2.2) lines
  have hshutdown : (lines.filter fun line => !line.isFaulty).any Line.isShutdown =
      lines.any Line.isShutdown := by
    rw [Bool.eq_iff_iff, List.any_eq_true, List.any_eq_true]
    constructor
    · rintro ⟨line, hmem, h⟩
      exact ⟨line, (List.mem_filter.mp hmem).1, h⟩
    · rintro ⟨line, hmem, h⟩
      have hdecodes := Line.isFaulty_eq_false_of_isShutdown h
      exact ⟨line, List.mem_filter.mpr ⟨hmem, by simp [hdecodes]⟩, h⟩
  simp only [tally, add_def, hfailed, hupdates, hresponses, hshutdown, hlength, Nat.add_zero,
    Nat.zero_add, Bool.or_false]

theorem StreamConfig.printed_filter_not_isFaulty :
    config.printed (lines.filter fun line => !line.isFaulty) = config.printed lines := by
  rw [printed, Line.filterMap_filter_not_isFaulty Line.message?
    (fun _ h => (Line.undecoded_of_isFaulty h).1), printed]

theorem StreamConfig.forwardedBy_filter_not_isFaulty :
    (lines.filter fun line => !line.isFaulty).flatMap config.forwardedBy =
      lines.flatMap config.forwardedBy := by
  induction lines with
  | nil => rfl
  | cons line lines ih =>
      cases hfaulty : line.isFaulty with
      | true =>
          have hnone : config.forwardedBy line = [] := by
            simp [forwardedBy, (Line.undecoded_of_isFaulty hfaulty).2.1]
          simp [hfaulty, hnone, ih]
      | false => simp [hfaulty, ih]

end Faultless

/-! ## Runs -/

namespace StreamConfig

def lenient (config : StreamConfig) : StreamConfig := { config with keepGoing := true }

def strict (config : StreamConfig) : StreamConfig := { config with keepGoing := false }

end StreamConfig

/-- The source without the lines that are neither blank nor decode to a message. -/
def Source.withoutFaults (source : Source) : Source := source.filterLines Line.isSound

section Runs

variable [Json.Wording]
variable {config : StreamConfig} {kinds : List UpdateKind} {source : Source} {sink : Sink}

/-- A run over a whole source ends well if it considers no faulty line that it does not skip. It
then passes on what the considered lines do. -/
theorem run_completes (hkinds : config.kindFilter = .ok kinds) (hsource : source.failure = none)
    (hsink : sink.Reliable)
    (h : config.keepGoing = false → ∀ line ∈ considered source.lines, line.isFaulty = false) :
    (run config source sink).Covers config (considered source.lines) ∧
      (run config source sink).nodeRecords =
        (considered source.lines).flatMap config.forwardedBy := by
  obtain ⟨summary, hresult⟩ : ∃ summary,
      (runLines config kinds none sink 1 source.lines).result = .ok summary :=
    exists_runLines_eq_ok hsink 1 h
  rw [run_eq_runLines hkinds hsource, nodeRecords_runLines hsink,
    StreamConfig.reached_eq_considered h]
  exact ⟨runLines_covers hkinds hresult, rfl⟩

/-- A run that skips faulty lines always ends well, and it does exactly what a strict run does with
the source without its faulty lines. The two summaries differ by the lines that are skipped. Where
a strict run over the source itself ends well, it is the same run. -/
theorem run_lenient (hkinds : config.kindFilter = .ok kinds) (hsource : source.failure = none)
    (hsink : sink.Reliable) :
    ∃ summary summary',
      (run config.lenient source sink).result = .ok summary ∧
      (run config.strict source.withoutFaults sink).result = .ok summary' ∧
      (run config.strict source.withoutFaults sink).output =
        (run config.lenient source sink).output ∧
      (run config.strict source.withoutFaults sink).nodeRecords =
        (run config.lenient source sink).nodeRecords ∧
      summary'.updates = summary.updates ∧
      summary'.responses = summary.responses ∧
      summary'.filtered = summary.filtered ∧
      summary'.shutdown = summary.shutdown ∧
      summary'.failed = 0 ∧
      summary.lines = summary'.lines + summary.failed ∧
      ∀ own, (run config.strict source sink).result = .ok own →
        own = summary ∧
          (run config.strict source sink).output = (run config.lenient source sink).output := by
  have hkept : source.withoutFaults.lines = source.lines.filter Line.isSound :=
    Source.lines_filterLines _ hsource
  have hfaultless : ∀ line ∈ considered source.withoutFaults.lines, line.isFaulty = false := by
    intro line hmem
    rw [hkept, considered_filter_isSound] at hmem
    simpa using (List.mem_filter.mp hmem).2
  have hkinds' : config.lenient.kindFilter = .ok kinds := hkinds
  have hkinds'' : config.strict.kindFilter = .ok kinds := hkinds
  have hwhole : source.withoutFaults.failure = none := hsource
  obtain ⟨hlenient, hpassed⟩ := run_completes hkinds' hsource hsink nofun
  obtain ⟨hstrict, hpassed'⟩ := run_completes hkinds'' hwhole hsink fun _ => hfaultless
  rw [hkept, considered_filter_isSound] at hstrict hpassed'
  have hnone : (Summary.tally config.strict
      ((considered source.lines).filter fun line => !line.isFaulty)).failed = 0 := by
    simp [Summary.tally, List.countP_eq_zero]
  -- Both configurations count, show and pass on the same of a line.
  have hsum : Summary.tally config.lenient (considered source.lines) = _ :=
    Summary.tally_eq_add_isFaulty config.strict (considered source.lines)
  have hshutdown := (congrArg Summary.shutdown hsum).trans (Bool.or_false _)
  refine ⟨_, _, hlenient.result, hstrict.result, ?_, ?_, (congrArg Summary.updates hsum).symm,
    (congrArg Summary.responses hsum).symm, (congrArg Summary.filtered hsum).symm, hshutdown.symm,
    hnone, congrArg Summary.lines hsum, ?_⟩
  · rw [hstrict.output_eq, hlenient.output_eq, config.strict.printed_filter_not_isFaulty]
    rfl
  · rw [hpassed, hpassed', config.strict.forwardedBy_filter_not_isFaulty]
    rfl
  · intro own hown
    have hcovers := run_covers hown
    refine ⟨(eq_tally_of_run hown).trans rfl, ?_⟩
    rw [hcovers.output_eq, hlenient.output_eq]
    rfl

end Runs

/-- A line for each way to be faulty, a blank one, a log update and a shutdown, and behind it a
faulty line that nothing ends. -/
def faultyCapture : Source :=
  let updates := [Update.log ⟨.info, "up", none⟩, .shutdown].map fun update =>
    update.write.withMember "type" (.string Message.updateTag)
  { bytes := 0xFF :: Utf8.encode "\nx\n\x7b\x7d\n \n" ++
      updates.flatMap (fun value => Step.lineOf value.write) ++ Utf8.encode "y" }

theorem run_lenient_of_faultyCapture :
    (run (StreamConfig.lenient {}) faultyCapture {}).result = .ok ⟨5, 2, 0, 0, 3, true⟩ ∧
      (run (StreamConfig.lenient {}) faultyCapture {}).nodeRecords =
        [⟨.info, LogRecord.nodeTarget, "up"⟩] ∧
      faultyCapture.withoutFaults.lines.length = 3 ∧
      ∃ summary, (run (StreamConfig.strict {}) faultyCapture.withoutFaults {}).result =
          .ok summary ∧
        (run (StreamConfig.strict {}) faultyCapture.withoutFaults {}).output =
          (run (StreamConfig.lenient {}) faultyCapture {}).output ∧
        (run (StreamConfig.strict {}) faultyCapture.withoutFaults {}).nodeRecords =
          (run (StreamConfig.lenient {}) faultyCapture {}).nodeRecords ∧
        summary.updates = 2 ∧ summary.failed = 0 ∧ summary.shutdown = true := by
  have h : (run (StreamConfig.lenient {}) faultyCapture {}).result = .ok ⟨5, 2, 0, 0, 3, true⟩ := by
    rfl
  have hkinds : StreamConfig.kindFilter {} = .ok [] := rfl
  have hsource : faultyCapture.failure = none := rfl
  have hsink : Sink.Reliable {} := ⟨rfl, rfl⟩
  obtain
    ⟨_, summary, hlenient, hstrict, houtput, hrecords, hupdates, _, _, hshutdown, hfailed, _⟩ :=
    run_lenient hkinds hsource hsink
  rw [h] at hlenient
  cases hlenient
  exact ⟨h, by rfl, by rfl, summary, hstrict, houtput, hrecords, hupdates, hfailed, hshutdown⟩

end ControlStream

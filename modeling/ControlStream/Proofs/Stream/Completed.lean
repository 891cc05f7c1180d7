import ControlStream.Proofs.Stream.Considered
import ControlStream.Proofs.Update.Spelling

/-!
# Completed runs

A run that ends without an error has counted, and shown, what its considered lines decode to.
`Outcome.Covers` says so of an outcome; it holds of the empty run, each step keeps it, and so it
holds of every run that ends well.
-/

namespace ControlStream

/-! ## The kinds that are shown -/

namespace UpdateKind

theorem map_name_of_mapM_ofName {names : List String} {kinds : List UpdateKind}
    (h : names.mapM ofName = .ok kinds) : kinds.map name = names := by
  induction names generalizing kinds with
  | nil =>
      cases h
      rfl
  | cons text names ih =>
      rw [List.mapM_cons] at h
      cases hkind : ofName text with
      | error cause => simp [hkind, bind, Except.bind] at h
      | ok kind =>
          cases hrest : names.mapM ofName with
          | error cause => simp [hkind, hrest, bind, Except.bind] at h
          | ok rest =>
              simp only [hkind, hrest, bind, Except.bind, pure, Except.pure, Except.ok.injEq] at h
              subst h
              rw [List.map_cons, ← ofName_eq_ok_iff.mp hkind, ih hrest]

end UpdateKind

namespace StreamConfig

/-- Whether an update is shown: no kind is named, or its own is. -/
def shows (config : StreamConfig) (update : Update) : Bool :=
  config.kinds.isEmpty || config.kinds.contains update.kind.name

def prints (config : StreamConfig) : Message → Bool
  | .response _ => true
  | .update update => config.shows update

/-- The messages that lines decode to, as far as they are shown. -/
def printed (config : StreamConfig) (lines : List Line) : List Message :=
  (lines.filterMap Line.message?).filter config.prints

theorem shows_eq {config : StreamConfig} {kinds : List UpdateKind}
    (h : config.kindFilter = .ok kinds) (update : Update) :
    Step.shows kinds update = config.shows update := by
  have hnames : config.kinds = kinds.map UpdateKind.name :=
    (UpdateKind.map_name_of_mapM_ofName h).symm
  rw [Step.shows, shows, hnames, Bool.eq_iff_iff]
  simp [UpdateKind.name_injective.eq_iff]

theorem printed_append (config : StreamConfig) (lines lines' : List Line) :
    config.printed (lines ++ lines') = config.printed lines ++ config.printed lines' := by
  rw [printed, List.filterMap_append, List.filter_append, printed, printed]

theorem printed_cons (config : StreamConfig) (line : Line) (lines : List Line) :
    config.printed (line :: lines) = config.printed [line] ++ config.printed lines :=
  config.printed_append [line] lines

end StreamConfig

/-! ## What lines count for -/

def OutputFormat.ofMessage (format : OutputFormat) : Message → String
  | .update update => format.ofUpdate update
  | .response response => format.ofResponse response

/-- What lines count for: how many there are, and how many of each sort. -/
def Summary.tally (config : StreamConfig) (lines : List Line) : Summary where
  lines := lines.length
  updates := (lines.filterMap Line.update?).length
  responses := (lines.filterMap Line.response?).length
  filtered := (lines.filterMap Line.update?).countP fun update => !config.shows update
  failed := lines.countP Line.isFaulty
  shutdown := lines.any Line.isShutdown

theorem Summary.add_def (x y : Summary) :
    x + y = ⟨x.lines + y.lines, x.updates + y.updates, x.responses + y.responses,
      x.filtered + y.filtered, x.failed + y.failed, x.shutdown || y.shutdown⟩ := rfl

@[simp] theorem Summary.add_zero (x : Summary) : x + {} = x := by
  simp [Summary.add_def]

@[simp] theorem Summary.zero_add (x : Summary) : {} + x = x := by
  simp [Summary.add_def]

theorem Summary.add_assoc (x y z : Summary) : x + y + z = x + (y + z) := by
  simp only [add_def, Nat.add_assoc, Bool.or_assoc]

theorem Summary.tally_cons (config : StreamConfig) (line : Line) (lines : List Line) :
    tally config (line :: lines) = tally config [line] + tally config lines := by
  cases hu : line.update? <;> cases hr : line.response? <;>
    simp [tally, Summary.add_def, List.countP_cons, hu, hr, Nat.add_comm]

/-! ## Steps -/

namespace Step

variable [Json.Wording]
variable {config : StreamConfig} {kinds : List UpdateKind} {number : Nat} {line : Line}

theorem ofLine_of_blank (h : isBlankLine line = true) :
    ofLine config kinds number line = {} := by
  simp [ofLine, h]

theorem counted_ofLine (hkinds : config.kindFilter = .ok kinds) (hblank : isBlankLine line = false)
    (hgoes : (ofLine config kinds number line).failure = none) :
    (ofLine config kinds number line).counted = .tally config [line] := by
  rcases line.decoded_cases with ⟨fault, h, _, hupdate, hresponse, hfaulty⟩ |
    ⟨response, h, _, hupdate, hresponse, hfaulty⟩ | ⟨update, h, _, hupdate, hresponse, hfaulty⟩
  · cases hkeep : config.keepGoing with
    | false => simp [ofLine, hblank, h, ofFault, hkeep] at hgoes
    | true =>
        simp [ofLine, hblank, h, ofFault, hkeep, Summary.tally, Line.isShutdown, hupdate, hresponse,
          hfaulty]
  · simp [ofLine, hblank, h, ofResponse, Summary.tally, Line.isShutdown, hupdate, hresponse,
      hfaulty]
  · have hshows := StreamConfig.shows_eq hkinds update
    cases hshown : config.shows update <;>
      simp [ofLine, hblank, h, ofUpdate, Summary.tally, Line.isShutdown, hupdate, hresponse,
        hfaulty, hshows, hshown]

theorem event_ofLine (hkinds : config.kindFilter = .ok kinds) (hblank : isBlankLine line = false) :
    (ofLine config kinds number line).event.toList =
      (config.printed [line]).map config.format.ofMessage := by
  rcases line.decoded_cases with ⟨fault, h, hmessage, _⟩ | ⟨response, h, hmessage, _⟩ |
    ⟨update, h, hmessage, _⟩
  · cases hkeep : config.keepGoing <;>
      simp [ofLine, hblank, h, ofFault, hkeep, StreamConfig.printed, hmessage]
  · simp [ofLine, hblank, h, ofResponse, StreamConfig.printed, hmessage, List.filter_cons,
      StreamConfig.prints, OutputFormat.ofMessage]
  · have hshows := StreamConfig.shows_eq hkinds update
    cases hshown : config.shows update <;>
      simp [ofLine, hblank, h, ofUpdate, hshows, hshown, StreamConfig.printed, hmessage,
        StreamConfig.prints, OutputFormat.ofMessage]

/-- Unless faulty lines are skipped, one of them ends the run. -/
theorem isFaulty_eq_false (hblank : isBlankLine line = false)
    (hgoes : (ofLine config kinds number line).failure = none) (hkeep : config.keepGoing = false) :
    line.isFaulty = false := by
  rcases line.decoded_cases with ⟨fault, h, _⟩ | ⟨_, _, _, _, _, hfaulty⟩ | ⟨_, _, _, _, _, hfaulty⟩
  · simp [ofLine, hblank, h, ofFault, hkeep] at hgoes
  · exact hfaulty
  · exact hfaulty

end Step

/-! ## Runs -/

namespace Outcome

/-- What a run that ends without an error leaves behind of the lines it has considered. -/
structure Covers (config : StreamConfig) (lines : List Line) (outcome : Outcome) : Prop where
  result : outcome.result = .ok (.tally config lines)
  shown : outcome.shown = (config.printed lines).map config.format.ofMessage
  torn : outcome.torn = []
  decoded : config.keepGoing = false → ∀ line ∈ lines, line.isFaulty = false

namespace Covers

variable {config : StreamConfig} {kinds : List UpdateKind} {line : Line} {lines : List Line}
  {outcome : Outcome}

/-- What is written: a line for each message that is shown. -/
theorem output_eq (h : Covers config lines outcome) :
    outcome.output = ((config.printed lines).map config.format.ofMessage).flatMap Step.lineOf := by
  rw [output, h.shown, h.torn, List.append_nil]

theorem empty : Covers config [] (finished none) :=
  ⟨rfl, rfl, rfl, by simp⟩

theorem behind_blank (h : Covers config lines outcome) :
    Covers config lines (outcome.behind {}) := by
  refine ⟨?_, h.shown, h.torn, h.decoded⟩
  simp [behind, h.result, Except.map]

/-- One more line in front keeps the account. -/
theorem behind [Json.Wording] {number : Nat} (hkinds : config.kindFilter = .ok kinds)
    (hblank : isBlankLine line = false)
    (hgoes : (Step.ofLine config kinds number line).failure = none)
    (h : Covers config lines outcome) :
    Covers config (line :: lines) (outcome.behind (Step.ofLine config kinds number line)) := by
  refine ⟨?_, ?_, h.torn, ?_⟩
  · rw [Summary.tally_cons, ← Step.counted_ofLine hkinds hblank hgoes]
    simp [Outcome.behind, h.result, Except.map]
  · rw [config.printed_cons, List.map_append, ← h.shown, ← Step.event_ofLine hkinds hblank]
    rfl
  · intro hkeep line' hmem
    rcases List.mem_cons.mp hmem with rfl | hmem
    · exact Step.isFaulty_eq_false hblank hgoes hkeep
    · exact h.decoded hkeep line' hmem

end Covers

end Outcome

section Runs

variable [Json.Wording]
variable {config : StreamConfig} {kinds : List UpdateKind} {ending : Option StreamError}
  {sink : Sink} {number : Nat} {summary : Summary} {line : Line} {rest : List Line}

theorem runLines_cons_of_write {left : Sink}
    (hwrite : sink.write (Step.ofLine config kinds number line).written = .ok left) :
    runLines config kinds ending sink number (line :: rest) =
      let step := Step.ofLine config kinds number line
      if step.failure.isSome ∨ step.counted.shutdown then
        (Outcome.finished (step.failure.or (left.flushFailure.map .io))).behind step
      else (runLines config kinds ending left (number + 1) rest).behind step := by
  rw [runLines]
  simp only [hwrite]

theorem runLines_cons_of_tear {text : String}
    (hwrite : sink.write (Step.ofLine config kinds number line).written = .error text) :
    runLines config kinds ending sink number (line :: rest) =
      { shown := []
        torn := (Step.ofLine config kinds number line).written.take sink.room
        logs := (Step.ofLine config kinds number line).before
        result := .error (.io text) } := by
  rw [runLines]
  simp only [hwrite]

/-- A run that ends well has come through its first step and either stops there, at a shutdown,
or goes on to a rest that ends well. -/
theorem runLines_cons_of_ok
    (h : (runLines config kinds ending sink number (line :: rest)).result = .ok summary) :
    (Step.ofLine config kinds number line).failure = none ∧
      ((Step.ofLine config kinds number line).counted.shutdown = true ∧
          runLines config kinds ending sink number (line :: rest) =
            (Outcome.finished none).behind (Step.ofLine config kinds number line) ∨
        (Step.ofLine config kinds number line).counted.shutdown = false ∧
          ∃ sink' later, (runLines config kinds ending sink' (number + 1) rest).result = .ok later ∧
            runLines config kinds ending sink number (line :: rest) =
              (runLines config kinds ending sink' (number + 1) rest).behind
                (Step.ofLine config kinds number line)) := by
  cases hwrite : sink.write (Step.ofLine config kinds number line).written with
  | error text =>
      rw [runLines_cons_of_tear hwrite] at h
      cases h
  | ok left =>
      rw [runLines_cons_of_write hwrite] at h ⊢
      generalize Step.ofLine config kinds number line = step at h ⊢
      dsimp only at h ⊢
      cases hfail : step.failure with
      | some error => simp [hfail, Outcome.finished, Outcome.behind, Except.map] at h
      | none =>
          refine ⟨rfl, ?_⟩
          cases hshut : step.counted.shutdown with
          | true =>
              cases hflush : left.flushFailure with
              | some text =>
                  simp [hfail, hshut, hflush, Outcome.finished, Outcome.behind, Except.map] at h
              | none => simp
          | false =>
              simp only [hfail, hshut, Option.isSome_none, Bool.false_eq_true, or_self,
                if_false] at h
              cases hrest : (runLines config kinds ending left (number + 1) rest).result with
              | error error => simp [Outcome.behind, hrest, Except.map] at h
              | ok later => exact .inr ⟨rfl, left, later, hrest, by simp⟩

theorem runLines_covers {lines : List Line} (hkinds : config.kindFilter = .ok kinds)
    (h : (runLines config kinds ending sink number lines).result = .ok summary) :
    (runLines config kinds ending sink number lines).Covers config (considered lines) := by
  induction lines generalizing sink number summary with
  | nil =>
      cases hend : ending.or (sink.flushFailure.map .io) with
      | some error => simp [runLines, hend, Outcome.finished] at h
      | none => simpa [runLines, hend] using Outcome.Covers.empty
  | cons line rest ih =>
      obtain ⟨hgoes, hcase⟩ := runLines_cons_of_ok h
      cases hblank : isBlankLine line with
      | true =>
          rw [considered_cons_of_blank hblank]
          rw [Step.ofLine_of_blank hblank] at hcase
          rcases hcase with ⟨hshut, _⟩ | ⟨_, sink', later, hlater, hrun⟩
          · cases hshut
          · rw [hrun]
            exact (ih hlater).behind_blank
      | false =>
          have hshutdown : (Step.ofLine config kinds number line).counted.shutdown =
              line.isShutdown := by
            simp [Step.counted_ofLine hkinds hblank hgoes, Summary.tally]
          rw [hshutdown] at hcase
          rcases hcase with ⟨hshut, hrun⟩ | ⟨hother, sink', later, hlater, hrun⟩
          · rw [considered_cons_of_shutdown hblank hshut, hrun]
            exact Outcome.Covers.empty.behind hkinds hblank hgoes
          · rw [considered_cons_of_other hblank hother, hrun]
            exact (ih hlater).behind hkinds hblank hgoes

/-- A run that ends without an error covers the considered lines of its source. -/
theorem run_covers {source : Source} (h : (run config source sink).result = .ok summary) :
    (run config source sink).Covers config (considered source.lines) := by
  cases hkinds : config.kindFilter with
  | error cause => simp [run, hkinds, Outcome.finished] at h
  | ok kinds =>
      simp only [run, hkinds] at h ⊢
      exact runLines_covers hkinds h

theorem eq_tally_of_run {source : Source} (h : (run config source sink).result = .ok summary) :
    summary = .tally config (considered source.lines) := by
  rw [(run_covers h).result] at h
  exact (Except.ok.inj h).symm

end Runs

end ControlStream

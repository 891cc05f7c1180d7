import ControlStream.Proofs.Stream.Lines
import ControlStream.Proofs.Stream.Stops
import ControlStream.Stream.Session

/-!
# Sessions are runs

A session that is fed a capture byte by byte shows, logs and counts what the run over the whole
capture does. The invariant is that no line feed is held, so that the held bytes and those to come
are split like a capture.
-/

namespace ControlStream

/-- An outcome that also counts what has been counted before. -/
def Outcome.counting (done : Summary) (outcome : Outcome) : Outcome :=
  { outcome with result := outcome.result.map (done + ·) }

namespace Outcome

@[simp] theorem precededBy_empty (outcome : Outcome) : precededBy {} outcome = outcome := rfl

theorem counting_empty (outcome : Outcome) : outcome.counting {} = outcome := by
  obtain ⟨shown, torn, logs, result⟩ := outcome
  cases result with
  | error error => rfl
  | ok summary => simp [counting, Except.map]

theorem precededBy_counting (done : Summary) (step : Step) (outcome : Outcome) :
    precededBy step (outcome.counting (done + step.counted)) =
      (outcome.behind step).counting done := by
  cases hresult : outcome.result with
  | error error => simp [precededBy, counting, behind, hresult, Except.map]
  | ok summary => simp [precededBy, counting, behind, hresult, Except.map, Summary.add_assoc]

end Outcome

namespace Source

theorem lines_of_notMem {bytes : List UInt8} (h : lineFeed ∉ bytes) (failure : Option String) :
    ({ bytes, failure } : Source).lines =
      if failure.isSome ∨ bytes = [] then [] else [bytes] := by
  simp only [lines, splitLines_of_notMem h, List.nil_append]

theorem lines_ended_append {line : Line} (h : lineFeed ∉ line) (rest : List UInt8)
    (failure : Option String) :
    ({ bytes := line ++ lineFeed :: rest, failure } : Source).lines =
      line :: ({ bytes := rest, failure } : Source).lines := by
  have hbytes : line ++ lineFeed :: rest = line.ended ++ rest := by simp [Line.ended]
  rw [hbytes]
  simp only [lines, splitLines_ended_append h]
  split <;> rfl

end Source

namespace Session

variable [Json.Wording]

/-- The run over the lines that the held bytes and those to come make. -/
def ahead (session : Session) (failure : Option String) (bytes : List UInt8) : Outcome :=
  runLines session.config session.kinds (failure.map .io) {} session.number
    ({ bytes := session.held.reverse ++ bytes, failure } : Source).lines

variable {session : Session}

/-- The run over a line that ends and the lines behind it is what ending the line leads to. -/
theorem counting_runLines_cons (ending : Option StreamError) (lines : List Line) :
    (runLines session.config session.kinds ending {} session.number
        (session.held.reverse :: lines)).counting session.summary =
      match session.endLine with
      | (step, .going next) => .precededBy step
          ((runLines next.config next.kinds ending {} next.number lines).counting next.summary)
      | (step, .ended result) => .precededBy step { shown := [], logs := [], result } := by
  rw [runLines_cons_of_write rfl]
  unfold endLine
  generalize Step.ofLine session.config session.kinds session.number session.held.reverse = step
  dsimp only
  cases hfailure : step.failure with
  | some error =>
      rw [if_pos (.inl rfl)]
      simp [Outcome.finished, Outcome.behind, Outcome.counting, Outcome.precededBy, Except.map]
  | none =>
      cases hshutdown : step.counted.shutdown with
      | true =>
          rw [if_pos (.inr rfl)]
          simp [Outcome.finished, Outcome.behind, Outcome.counting, Outcome.precededBy, Except.map]
      | false => simp [Outcome.precededBy_counting]

theorem held_of_endLine {step : Step} {next : Session}
    (h : session.endLine = (step, .going next)) : next.held = [] := by
  unfold endLine at h
  have hprogress := (Prod.mk.inj h).2
  split at hprogress
  · cases hprogress
  · split at hprogress
    · cases hprogress
    · cases hprogress
      rfl

/-- At the end of the bytes a run goes on with the held line, if there is one, and is through. -/
theorem close_eq (h : lineFeed ∉ session.held) :
    .precededBy session.close.1 { shown := [], logs := [], result := session.close.2 } =
      (session.ahead none []).counting session.summary := by
  rw [ahead, List.append_nil, Source.lines_of_notMem (mt List.mem_reverse.mp h)]
  unfold close
  by_cases hempty : session.held = []
  · simp [hempty, runLines, Outcome.finished, Outcome.counting, Except.map]
  · rw [if_neg hempty, if_neg (by simp [hempty]), Option.map_none, counting_runLines_cons]
    cases session.endLine with
    | mk step progress =>
        cases progress with
        | ended result => rfl
        | going next => simp [runLines, Outcome.finished, Outcome.counting, Except.map]

theorem ahead_cons (failure : Option String) (byte : UInt8) (rest : List UInt8) :
    session.ahead failure (byte :: rest) =
      ahead { session with held := byte :: session.held } failure rest := by
  rw [ahead, ahead, List.reverse_cons, List.append_assoc, List.singleton_append]

theorem counting_ahead_lineFeed (h : lineFeed ∉ session.held) (failure : Option String)
    (rest : List UInt8) :
    (session.ahead failure (lineFeed :: rest)).counting session.summary =
      match session.endLine with
      | (step, .going next) => .precededBy step ((next.ahead failure rest).counting next.summary)
      | (step, .ended result) => .precededBy step { shown := [], logs := [], result } := by
  rw [ahead, Source.lines_ended_append (mt List.mem_reverse.mp h), counting_runLines_cons]
  cases hend : session.endLine with
  | mk step progress =>
      cases progress with
      | ended result => rfl
      | going next =>
          dsimp only
          rw [ahead, held_of_endLine hend, List.reverse_nil, List.nil_append]

/-- Feeding a session is going on with its run. -/
theorem feed_eq (failure : Option String) (bytes : List UInt8) (h : lineFeed ∉ session.held) :
    session.feed failure bytes = (session.ahead failure bytes).counting session.summary := by
  induction bytes generalizing session with
  | nil =>
      cases failure with
      | none => exact close_eq h
      | some text =>
          rw [ahead, List.append_nil, Source.lines_of_notMem (mt List.mem_reverse.mp h)]
          rfl
  | cons byte rest ih =>
      unfold feed push
      by_cases hbyte : byte = lineFeed
      · rw [if_pos hbyte, hbyte, counting_ahead_lineFeed h]
        cases hend : session.endLine with
        | mk step progress =>
            cases progress with
            | ended result => rfl
            | going next =>
                have hheld : lineFeed ∉ next.held := by
                  rw [held_of_endLine hend]
                  exact List.not_mem_nil
                exact congrArg (Outcome.precededBy step) (ih hheld)
      · have hheld : lineFeed ∉ byte :: session.held :=
          List.not_mem_cons_of_ne_of_not_mem (Ne.symm hbyte) h
        rw [if_neg hbyte, ahead_cons]
        exact ih hheld

/-- A session shows a capture as the run over it does, whether the reader fails behind it or not. -/
theorem feed_eq_run {config : StreamConfig} {kinds : List UpdateKind}
    (hkinds : config.kindFilter = .ok kinds) (source : Source) :
    feed source.failure { config, kinds } source.bytes = run config source {} := by
  rw [feed_eq source.failure source.bytes List.not_mem_nil, run_of_kindFilter hkinds]
  exact Outcome.counting_empty _

end Session

end ControlStream

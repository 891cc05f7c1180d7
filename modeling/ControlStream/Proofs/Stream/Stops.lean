import ControlStream.Proofs.Stream.Completed

/-!
# Where runs stop

On a reliable sink only the lines decide how far a run gets: it stops at a shutdown update, or at a
faulty line unless those are skipped. The run over lines that it gets past is the beginning of the
run over all.
-/

namespace ControlStream

/-- A sink on which no write and no flush fails. -/
structure Sink.Reliable (sink : Sink) : Prop where
  failure : sink.failure = none
  flushFailure : sink.flushFailure = none

theorem Sink.Reliable.write_eq {sink : Sink} (h : sink.Reliable) (bytes : List UInt8) :
    sink.write bytes = .ok sink := by
  rw [write, h.failure]

theorem Sink.write_nil (sink : Sink) : sink.write [] = .ok sink := by
  obtain ⟨failure, room, flushFailure⟩ := sink
  cases failure with
  | none => rfl
  | some text => simp [write]

namespace StreamConfig

/-- Whether a run stops at a line that is not blank. -/
def stopsAt (config : StreamConfig) (line : Line) : Bool :=
  line.isShutdown || (!config.keepGoing && line.isFaulty)

theorem stopsAt_eq_false_iff {config : StreamConfig} {line : Line} :
    config.stopsAt line = false ↔
      line.isShutdown = false ∧ (config.keepGoing = false → line.isFaulty = false) := by
  cases hkeep : config.keepGoing <;> simp [stopsAt, hkeep]

/-- The lines that are not blank, up to and with the one at which a run stops. -/
def reached (config : StreamConfig) (lines : List Line) : List Line :=
  throughFirst config.stopsAt (lines.filter fun line => !isBlankLine line)

variable {config : StreamConfig} {line : Line} {rest : List Line}

@[simp] theorem reached_nil : config.reached [] = [] := rfl

theorem reached_cons_of_blank (h : isBlankLine line = true) :
    config.reached (line :: rest) = config.reached rest := by
  simp [reached, h]

theorem reached_cons_of_stop (hblank : isBlankLine line = false)
    (h : config.stopsAt line = true) : config.reached (line :: rest) = [line] := by
  simp [reached, hblank, throughFirst_cons_of_pos h]

theorem reached_cons_of_pass (hblank : isBlankLine line = false)
    (h : config.stopsAt line = false) :
    config.reached (line :: rest) = line :: config.reached rest := by
  simp [reached, hblank, throughFirst_cons_of_neg h]

/-- A run reaches every line that is not blank up to where it gets past. -/
theorem reached_append {before : List Line}
    (h : ∀ line ∈ before, isBlankLine line = false → config.stopsAt line = false) :
    config.reached (before ++ rest) =
      (before.filter fun line => !isBlankLine line) ++ config.reached rest := by
  induction before with
  | nil => rfl
  | cons line before ih =>
      obtain ⟨hline, hbefore⟩ := List.forall_mem_cons.mp h
      cases hblank : isBlankLine line with
      | true =>
          rw [List.cons_append, reached_cons_of_blank hblank, ih hbefore,
            List.filter_cons_of_neg (by simp [hblank])]
      | false =>
          rw [List.cons_append, reached_cons_of_pass hblank (hline hblank), ih hbefore,
            List.filter_cons_of_pos (by simp [hblank]), List.cons_append]

/-- Induction along a run: it is through with its lines, passes over a blank one, stops at the
first, or gets past it. -/
@[elab_as_elim]
theorem stop_induction (config : StreamConfig) {motive : List Line → Prop} (nil : motive [])
    (blank : ∀ line rest, isBlankLine line = true → motive rest → motive (line :: rest))
    (stop : ∀ line rest, isBlankLine line = false → config.stopsAt line = true →
      motive (line :: rest))
    (pass : ∀ line rest, isBlankLine line = false → config.stopsAt line = false → motive rest →
      motive (line :: rest))
    (lines : List Line) : motive lines := by
  induction lines with
  | nil => exact nil
  | cons line rest ih =>
      cases hblank : isBlankLine line with
      | true => exact blank line rest hblank ih
      | false =>
          cases hstop : config.stopsAt line with
          | true => exact stop line rest hblank hstop
          | false => exact pass line rest hblank hstop ih

/-- What is shown of a capture, and how, does not move the place at which a run stops. -/
theorem stopsAt_congr {config' : StreamConfig} (h : config.keepGoing = config'.keepGoing) :
    config.stopsAt = config'.stopsAt := by
  funext line
  rw [stopsAt, stopsAt, h]

theorem reached_congr {config' : StreamConfig} (h : config.keepGoing = config'.keepGoing) :
    config.reached = config'.reached := by
  funext lines
  rw [reached, reached, stopsAt_congr h]

end StreamConfig

theorem mem_of_mem_throughFirst {α : Type} {p : α → Bool} {x : α} {xs : List α}
    (h : x ∈ throughFirst p xs) : x ∈ xs := by
  induction xs with
  | nil => exact h
  | cons y ys ih =>
      cases hy : p y with
      | true =>
          rw [throughFirst_cons_of_pos hy, List.mem_singleton] at h
          exact h ▸ List.mem_cons_self
      | false =>
          rw [throughFirst_cons_of_neg hy, List.mem_cons] at h
          exact List.mem_cons.mpr (h.imp_right ih)

theorem mem_of_mem_considered {line : Line} {lines : List Line} (h : line ∈ considered lines) :
    line ∈ lines ∧ isBlankLine line = false := by
  simpa using mem_of_mem_throughFirst h

theorem throughFirst_congr {α : Type} {p q : α → Bool} {xs : List α}
    (h : ∀ x ∈ throughFirst q xs, p x = q x) : throughFirst p xs = throughFirst q xs := by
  induction xs with
  | nil => rfl
  | cons x xs ih =>
      cases hx : q x with
      | true =>
          rw [throughFirst_cons_of_pos hx] at h ⊢
          exact throughFirst_cons_of_pos ((h x List.mem_cons_self).trans hx)
      | false =>
          rw [throughFirst_cons_of_neg hx] at h ⊢
          rw [throughFirst_cons_of_neg ((h x List.mem_cons_self).trans hx),
            ih fun y hy => h y (List.mem_cons_of_mem x hy)]

/-- A run that comes past the faulty lines reaches the lines that it considers. -/
theorem StreamConfig.reached_eq_considered {config : StreamConfig} {lines : List Line}
    (h : config.keepGoing = false → ∀ line ∈ considered lines, line.isFaulty = false) :
    config.reached lines = considered lines := by
  refine throughFirst_congr fun line hmem => ?_
  cases hkeep : config.keepGoing with
  | true => simp [stopsAt, hkeep]
  | false => simp [stopsAt, h hkeep line hmem]

/-! ## Steps -/

/-- A run ends behind a step that fails or shuts down, and only there. -/
theorem Step.stops_ofLine [Json.Wording] {config : StreamConfig} {line : Line}
    (kinds : List UpdateKind) (number : Nat) (hblank : isBlankLine line = false) :
    ((ofLine config kinds number line).failure.isSome = true ∨
        (ofLine config kinds number line).counted.shutdown = true) ↔
      config.stopsAt line = true := by
  rcases line.decoded_cases with ⟨fault, h, _, hupdate, _, hfaulty⟩ |
    ⟨response, h, _, hupdate, _, hfaulty⟩ | ⟨update, h, _, hupdate, _, hfaulty⟩
  · cases hkeep : config.keepGoing <;>
      simp [ofLine, hblank, h, ofFault, hkeep, StreamConfig.stopsAt, Line.isShutdown, hupdate,
        hfaulty]
  · simp [ofLine, hblank, h, ofResponse, StreamConfig.stopsAt, Line.isShutdown, hupdate, hfaulty]
  · simp [ofLine, hblank, h, ofUpdate, StreamConfig.stopsAt, Line.isShutdown, hupdate, hfaulty]

theorem Step.goes_ofLine [Json.Wording] {config : StreamConfig} {line : Line}
    (kinds : List UpdateKind) (number : Nat) (hblank : isBlankLine line = false)
    (h : config.stopsAt line = false) :
    ¬((ofLine config kinds number line).failure.isSome = true ∨
      (ofLine config kinds number line).counted.shutdown = true) := by
  intro hstops
  rw [(stops_ofLine kinds number hblank).mp hstops] at h
  cases h

theorem Step.failure_ofLine [Json.Wording] {config : StreamConfig} {kinds : List UpdateKind}
    {number : Nat} {line : Line} (hblank : isBlankLine line = false) :
    (ofLine config kinds number line).failure =
      match Line.message line with
      | .error fault => if config.keepGoing then none else some (.line number fault)
      | .ok _ => none := by
  rcases line.decoded_cases with ⟨fault, h, _⟩ | ⟨response, h, _⟩ | ⟨update, h, _⟩
  · cases hkeep : config.keepGoing <;> simp [ofLine, hblank, h, ofFault, hkeep]
  · simp [ofLine, hblank, h, ofResponse]
  · simp [ofLine, hblank, h, ofUpdate]

theorem Step.fault_of_failure [Json.Wording] {config : StreamConfig} {kinds : List UpdateKind}
    {number place : Nat} {line : Line} {fault : LineFault}
    (h : (ofLine config kinds number line).failure = some (.line place fault)) :
    place = number ∧ Line.message line = .error fault := by
  cases hblank : isBlankLine line with
  | true =>
      rw [ofLine_of_blank hblank] at h
      cases h
  | false =>
      rw [failure_ofLine hblank] at h
      cases hmessage : Line.message line with
      | ok message =>
          rw [hmessage] at h
          cases h
      | error found =>
          cases hkeep : config.keepGoing with
          | true => simp [hmessage, hkeep] at h
          | false =>
              have herror : StreamError.line number found = .line place fault := by
                simpa [hmessage, hkeep] using h
              obtain ⟨rfl, rfl⟩ := StreamError.line.inj herror
              exact ⟨rfl, rfl⟩

theorem Line.message_of_isShutdown {line : Line} (h : line.isShutdown = true) :
    message line = .ok (.update .shutdown) := by
  have hshutdown := isShutdown_iff.mp h
  rcases line.decoded_cases with ⟨_, _, _, hupdate, _⟩ | ⟨_, _, _, hupdate, _⟩ |
    ⟨update, hmessage, _, hupdate, _⟩
  · simp [hupdate] at hshutdown
  · simp [hupdate] at hshutdown
  · rw [hupdate, Option.some.injEq] at hshutdown
    rw [hmessage, hshutdown]

/-! ## Runs -/

namespace Outcome

@[simp] theorem behind_empty (outcome : Outcome) : outcome.behind {} = outcome := by
  obtain ⟨shown, torn, logs, result⟩ := outcome
  cases result with
  | error error => rfl
  | ok summary => simp [behind, Except.map]

theorem result_behind_eq_error_iff {step : Step} {outcome : Outcome} {error : StreamError} :
    (outcome.behind step).result = .error error ↔ outcome.result = .error error := by
  cases hresult : outcome.result <;> simp [behind, hresult, Except.map]

theorem result_finished_eq_error_iff {ending : Option StreamError} {error : StreamError} :
    (finished ending).result = .error error ↔ ending = some error := by
  cases ending <;> simp [finished]

def andThen (first second : Outcome) : Outcome where
  shown := first.shown ++ second.shown
  torn := second.torn
  logs := first.logs ++ second.logs
  result := first.result.bind fun summary => second.result.map (summary + ·)

@[simp] theorem andThen_finished_none (second : Outcome) :
    (finished none).andThen second = second := by
  obtain ⟨shown, torn, logs, result⟩ := second
  cases result with
  | error error => rfl
  | ok summary => simp [andThen, finished, Except.bind, Except.map]

theorem behind_andThen (first second : Outcome) (step : Step) :
    (first.behind step).andThen second = (first.andThen second).behind step := by
  obtain ⟨shown, torn, logs, result⟩ := first
  obtain ⟨shown', torn', logs', result'⟩ := second
  cases result <;> cases result' <;>
    simp [behind, andThen, Except.map, Except.bind, List.append_assoc, Summary.add_assoc]

end Outcome

section Runs

variable [Json.Wording]
variable {config : StreamConfig} {kinds : List UpdateKind} {ending : Option StreamError}
  {sink : Sink} {number : Nat} {line : Line} {lines rest : List Line}

theorem run_of_kindFilter (hkinds : config.kindFilter = .ok kinds) (source : Source) :
    run config source sink =
      runLines config kinds (source.failure.map .io) sink 1 source.lines := by
  simp only [run, hkinds]

theorem run_eq_runLines {source : Source} (hkinds : config.kindFilter = .ok kinds)
    (hsource : source.failure = none) :
    run config source sink = runLines config kinds none sink 1 source.lines := by
  rw [run_of_kindFilter hkinds, hsource]
  rfl

theorem exists_kindFilter_eq_ok {source : Source} {summary : Summary}
    (h : (run config source sink).result = .ok summary) :
    ∃ kinds, config.kindFilter = .ok kinds := by
  cases hkinds : config.kindFilter with
  | error cause => simp [run, hkinds, Outcome.finished] at h
  | ok kinds => exact ⟨kinds, rfl⟩

theorem runLines_nil (hsink : sink.Reliable) :
    runLines config kinds ending sink number [] = .finished ending := by
  simp [runLines, hsink.flushFailure]

/-- A blank line is passed over, whatever the sink. -/
theorem runLines_cons_of_blank (hblank : isBlankLine line = true) :
    runLines config kinds ending sink number (line :: rest) =
      runLines config kinds ending sink (number + 1) rest := by
  have hstep : Step.ofLine config kinds number line = {} := Step.ofLine_of_blank hblank
  have hwrite : sink.write (Step.ofLine config kinds number line).written = .ok sink := by
    rw [hstep]
    exact sink.write_nil
  rw [runLines_cons_of_write hwrite, hstep]
  exact Outcome.behind_empty _

theorem runLines_cons_of_stop (hsink : sink.Reliable) (hblank : isBlankLine line = false)
    (h : config.stopsAt line = true) :
    runLines config kinds ending sink number (line :: rest) =
      (Outcome.finished (Step.ofLine config kinds number line).failure).behind
        (Step.ofLine config kinds number line) := by
  rw [runLines_cons_of_write (hsink.write_eq _)]
  simp only [if_pos ((Step.stops_ofLine kinds number hblank).mpr h), hsink.flushFailure,
    Option.map_none, Option.or_none]

theorem runLines_cons_of_pass (hsink : sink.Reliable) (hblank : isBlankLine line = false)
    (h : config.stopsAt line = false) :
    runLines config kinds ending sink number (line :: rest) =
      (runLines config kinds ending sink (number + 1) rest).behind
        (Step.ofLine config kinds number line) := by
  rw [runLines_cons_of_write (hsink.write_eq _)]
  simp only [if_neg (Step.goes_ofLine kinds number hblank h)]

theorem runLines_append (hsink : sink.Reliable) {before : List Line}
    (h : ∀ line ∈ before, isBlankLine line = false → config.stopsAt line = false) :
    runLines config kinds ending sink number (before ++ rest) =
      (runLines config kinds none sink number before).andThen
        (runLines config kinds ending sink (number + before.length) rest) := by
  induction before generalizing number with
  | nil => rw [runLines_nil hsink, Outcome.andThen_finished_none]; rfl
  | cons line before ih =>
      obtain ⟨hline, hbefore⟩ := List.forall_mem_cons.mp h
      have hnumber : number + (line :: before).length = number + 1 + before.length := by
        rw [List.length_cons]
        omega
      rw [List.cons_append, hnumber]
      cases hblank : isBlankLine line with
      | true =>
          rw [runLines_cons_of_blank hblank, runLines_cons_of_blank hblank,
            ih hbefore]
      | false =>
          rw [runLines_cons_of_pass hsink hblank (hline hblank),
            runLines_cons_of_pass hsink hblank (hline hblank), ih hbefore,
            Outcome.behind_andThen]

/-- A run that fails at a line has got past the lines before it. -/
theorem exists_stop_of_lineError {place : Nat} {fault : LineFault} (hsink : sink.Reliable)
    (failure : Option String)
    (h : (runLines config kinds (failure.map .io) sink number lines).result =
      .error (.line place fault)) :
    ∃ before line rest, lines = before ++ line :: rest ∧ place = number + before.length ∧
      isBlankLine line = false ∧ config.stopsAt line = true ∧ Line.message line = .error fault ∧
      ∀ earlier ∈ before, isBlankLine earlier = false → config.stopsAt earlier = false := by
  have hcount : ∀ (number : Nat) (line : Line) (before : List Line),
      number + 1 + before.length = number + (line :: before).length := by
    intro number line before
    rw [List.length_cons]
    omega
  induction lines using config.stop_induction generalizing number with
  | nil =>
      rw [runLines_nil hsink, Outcome.result_finished_eq_error_iff] at h
      cases failure <;> cases h
  | blank line rest hblank ih =>
      rw [runLines_cons_of_blank hblank] at h
      obtain ⟨before, faulty, after, rfl, rfl, hfaulty, hstop, hfault, hbefore⟩ := ih h
      exact ⟨line :: before, faulty, after, rfl, hcount number line before, hfaulty, hstop, hfault,
        List.forall_mem_cons.mpr ⟨fun hnot => by simp [hblank] at hnot, hbefore⟩⟩
  | stop line rest hblank hstop =>
      rw [runLines_cons_of_stop hsink hblank hstop, Outcome.result_behind_eq_error_iff,
        Outcome.result_finished_eq_error_iff] at h
      obtain ⟨rfl, hfault⟩ := Step.fault_of_failure h
      exact ⟨[], line, rest, rfl, rfl, hblank, hstop, hfault, by simp⟩
  | pass line rest hblank hpass ih =>
      rw [runLines_cons_of_pass hsink hblank hpass, Outcome.result_behind_eq_error_iff] at h
      obtain ⟨before, faulty, after, rfl, rfl, hfaulty, hstop, hfault, hbefore⟩ := ih h
      exact ⟨line :: before, faulty, after, rfl, hcount number line before, hfaulty, hstop, hfault,
        List.forall_mem_cons.mpr ⟨fun _ => hpass, hbefore⟩⟩

/-- A run ends without an error when it skips faulty lines or considers none. -/
theorem exists_runLines_eq_ok (hsink : sink.Reliable) (number : Nat)
    (h : config.keepGoing = false → ∀ line ∈ considered lines, line.isFaulty = false) :
    ∃ summary, (runLines config kinds none sink number lines).result = .ok summary := by
  induction lines generalizing number with
  | nil => exact ⟨{}, by rw [runLines_nil hsink]; rfl⟩
  | cons line rest ih =>
      cases hblank : isBlankLine line with
      | true =>
          rw [considered_cons_of_blank hblank] at h
          rw [runLines_cons_of_blank hblank]
          exact ih (number + 1) h
      | false =>
          cases hshutdown : line.isShutdown with
          | true =>
              have hstop : config.stopsAt line = true := by simp [StreamConfig.stopsAt, hshutdown]
              rw [runLines_cons_of_stop hsink hblank hstop, Step.failure_ofLine hblank,
                Line.message_of_isShutdown hshutdown]
              exact ⟨_, rfl⟩
          | false =>
              rw [considered_cons_of_other hblank hshutdown] at h
              have hpass : config.stopsAt line = false :=
                StreamConfig.stopsAt_eq_false_iff.mpr
                  ⟨hshutdown, fun hkeep => h hkeep line List.mem_cons_self⟩
              obtain ⟨later, hlater⟩ := ih (number + 1) fun hkeep other hmem =>
                h hkeep other (List.mem_cons_of_mem line hmem)
              rw [runLines_cons_of_pass hsink hblank hpass]
              exact ⟨_, by rw [Outcome.behind, hlater]; rfl⟩

end Runs

end ControlStream

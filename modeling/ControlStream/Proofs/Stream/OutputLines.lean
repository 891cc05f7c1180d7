import ControlStream.Proofs.Stream.Completed
import ControlStream.Proofs.Stream.RawText
import ControlStream.Proofs.Wire.Carries

/-!
# How many lines a run writes

A run ends each event with a line feed. The JSON format adds no other; in the text format each
line feed in a raw text of a printed message breaks the line about it.
-/

namespace ControlStream

open Text (breaks)

/-! ## Raw texts of messages -/

/-- The texts that the text line about a message holds as they came. -/
def Message.rawTexts : Message → List String
  | .update event => event.rawTexts
  | .response reply => reply.rawTexts

namespace OutputFormat

def rawTexts (message : Message) : OutputFormat → List String
  | .text => message.rawTexts
  | .json => []

theorem breaks_ofMessage (format : OutputFormat) (message : Message) :
    breaks (format.ofMessage message) = Text.totalBreaks (format.rawTexts message) := by
  cases format with
  | text =>
      cases message with
      | update update => exact update.breaks_describe
      | response response => exact response.breaks_describe
  | json =>
      cases message with
      | update update => exact Json.breaks_write _
      | response response => exact Json.breaks_write _

end OutputFormat

/-! ## Lines of events -/

namespace Step

theorem count_lineFeed_lineOf (event : String) :
    (lineOf event).count lineFeed = breaks event + 1 := by
  rw [lineOf, List.count_append, Utf8.count_lineFeed_encode]
  rfl

theorem count_lineFeed_flatMap_lineOf (events : List String) :
    (events.flatMap lineOf).count lineFeed = events.length + Text.totalBreaks events := by
  induction events with
  | nil => rfl
  | cons event events ih =>
      rw [List.flatMap_cons, List.count_append, count_lineFeed_lineOf, ih, List.length_cons,
        Text.totalBreaks_cons]
      omega

theorem getLast?_flatMap_lineOf {events : List String} (h : events.flatMap lineOf ≠ []) :
    (events.flatMap lineOf).getLast? = some lineFeed := by
  rcases List.eq_nil_or_concat events with rfl | ⟨before, last, rfl⟩
  · exact absurd rfl h
  · simp [lineOf, List.flatMap_append, ← List.append_assoc]

end Step

/-! ## Runs -/

namespace StreamConfig

theorem length_printed_singleton (config : StreamConfig) (line : Line) :
    (config.printed [line]).length + (Summary.tally config [line]).filtered =
      (Summary.tally config [line]).responses + (Summary.tally config [line]).updates := by
  rcases line.decoded_cases with ⟨_, _, hmessage, hupdate, hresponse, _⟩ |
    ⟨_, _, hmessage, hupdate, hresponse, _⟩ | ⟨update, _, hmessage, hupdate, hresponse, _⟩
  · simp [printed, Summary.tally, hmessage, hupdate, hresponse]
  · simp [printed, Summary.tally, hmessage, hupdate, hresponse, List.filter_cons, prints]
  · cases hshown : config.shows update <;>
      simp [printed, Summary.tally, hmessage, hupdate, hresponse, prints, hshown]

theorem length_printed (config : StreamConfig) (lines : List Line) :
    (config.printed lines).length + (Summary.tally config lines).filtered =
      (Summary.tally config lines).responses + (Summary.tally config lines).updates := by
  induction lines with
  | nil => rfl
  | cons line lines ih =>
      have hone := config.length_printed_singleton line
      rw [printed_cons, Summary.tally_cons, List.length_append]
      simp only [Summary.add_def]
      omega

end StreamConfig

variable {config : StreamConfig} {source : Source} {sink : Sink} {summary : Summary}

namespace Outcome

theorem Covers.count_lineFeed_output {lines : List Line} {outcome : Outcome}
    (h : outcome.Covers config lines) :
    outcome.output.count lineFeed = (config.printed lines).length +
      Text.totalBreaks ((config.printed lines).flatMap fun message =>
        config.format.rawTexts message) := by
  rw [h.output_eq, Step.count_lineFeed_flatMap_lineOf, List.length_map]
  congr 1
  induction config.printed lines with
  | nil => rfl
  | cons message rest ih =>
      rw [List.map_cons, Text.totalBreaks_cons, OutputFormat.breaks_ofMessage, ih,
        List.flatMap_cons, Text.totalBreaks_append]

end Outcome

theorem OutputFormat.totalBreaks_rawTexts_eq_zero {format : OutputFormat}
    {messages : List Message} :
    Text.totalBreaks (messages.flatMap fun message => format.rawTexts message) = 0 ↔
      (format = .text →
        ∀ message ∈ messages, ∀ text ∈ message.rawTexts, '\n' ∉ text.toList) := by
  rw [Text.totalBreaks_eq_zero, List.forall_mem_flatMap]
  cases format with
  | text => simp [rawTexts]
  | json => simp [rawTexts]

/-- A run that ends without an error writes a line feed for each printed message, and one for each
that a raw text of a printed message holds. So it writes one line for each message exactly when
the format is JSON or no raw text holds a line feed, and what it writes ends with a line feed. -/
theorem run_lineFeeds [Json.Wording] (h : (run config source sink).result = .ok summary) :
    let printed := config.printed (considered source.lines)
    let output := (run config source sink).output
    printed.length = summary.responses + summary.updates - summary.filtered ∧
      output.count lineFeed = printed.length +
        Text.totalBreaks (printed.flatMap fun message => config.format.rawTexts message) ∧
      (output.count lineFeed = summary.responses + summary.updates - summary.filtered ↔
        (config.format = .text →
          ∀ message ∈ printed, ∀ text ∈ message.rawTexts, '\n' ∉ text.toList)) ∧
      (output ≠ [] → output.getLast? = some lineFeed) := by
  intro printed output
  have hcovers := run_covers h
  have hlength := config.length_printed (considered source.lines)
  have hcount : output.count lineFeed = printed.length +
      Text.totalBreaks (printed.flatMap fun message => config.format.rawTexts message) :=
    hcovers.count_lineFeed_output
  have hprinted : printed.length = summary.responses + summary.updates - summary.filtered := by
    rw [eq_tally_of_run h]
    exact Nat.eq_sub_of_add_eq hlength
  refine ⟨hprinted, hcount, ?_, ?_⟩
  · rw [← OutputFormat.totalBreaks_rawTexts_eq_zero, hcount, ← hprinted]
    exact Nat.add_eq_left
  · intro hne
    have houtput := hcovers.output_eq
    change output = _ at houtput
    rw [houtput] at hne ⊢
    exact Step.getLast?_flatMap_lineOf hne

def logCapture (text : String) : Source :=
  let update := Update.write (.log ⟨.info, text, none⟩)
  { bytes := Step.lineOf (update.withMember "type" (.string Message.updateTag)).write }

theorem run_lineFeeds_of_logCapture :
    (run {} (logCapture "ab") {}).result = .ok ⟨1, 1, 0, 0, 0, false⟩ ∧
      (run {} (logCapture "ab") {}).output.count lineFeed = 1 := by
  have h : (run {} (logCapture "ab") {}).result = .ok ⟨1, 1, 0, 0, 0, false⟩ := by rfl
  obtain ⟨hprinted, hcount, _, _⟩ := run_lineFeeds h
  have hraw : Text.totalBreaks
      ((StreamConfig.printed {} (considered (logCapture "ab").lines)).flatMap
        fun message => OutputFormat.rawTexts message .text) = 0 := by rfl
  refine ⟨h, ?_⟩
  rw [hcount, hprinted, hraw]
  rfl

/-- A log line with a line feed in it is one message, and takes two lines. -/
theorem exists_run_lineFeeds_ne :
    ∃ (config : StreamConfig) (source : Source) (sink : Sink) (summary : Summary),
      sink.failure = none ∧ (run config source sink).result = .ok summary ∧
        (run config source sink).output.count lineFeed ≠
          summary.responses + summary.updates - summary.filtered := by
  have h : (run {} (logCapture "a\nb") {}).result = .ok ⟨1, 1, 0, 0, 0, false⟩ := by rfl
  have hcount : (run {} (logCapture "a\nb") {}).output.count lineFeed = 2 := by rfl
  refine ⟨{}, logCapture "a\nb", {}, _, rfl, h, ?_⟩
  rw [hcount]
  decide

end ControlStream

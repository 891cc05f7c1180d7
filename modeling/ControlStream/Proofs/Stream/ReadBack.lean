import ControlStream.Proofs.Bytes.Utf8
import ControlStream.Proofs.Json.OneLine
import ControlStream.Proofs.Json.RoundTrip
import ControlStream.Proofs.Stream.Lines
import ControlStream.Proofs.Stream.Presentation
import ControlStream.Proofs.Update.Canonical

/-!
# What the JSON format shows is read back

In the JSON format a message is shown as the text of one value: the body of a response, or what an
update is written as. The text has no line break and is read as the value, so the output has a line
for each line that decodes, and what is read from the one is what was read from the other.
-/

namespace ControlStream

open Json (ReadsBack)
open Json.Place (maxDepth)

/-! ## Values that are shown -/

/-- The value whose text shows a message in the JSON format. -/
def Message.shown : Message → Json
  | .response reply => reply.body
  | .update event => event.write

theorem OutputFormat.ofMessage_json (message : Message) :
    OutputFormat.json.ofMessage message = message.shown.write := by
  cases message <;> rfl

section Fits

variable {ok : Double → Prop} {value : Json}

/-- No table of an update is deeper than the reader goes. -/
theorem UpdateKind.depth_form_le (kind : UpdateKind) : kind.form.depth ≤ maxDepth := by
  cases kind <;> decide

theorem Update.fits_write {update : Update} (h : read value = .ok update)
    (hvalue : value.Fits ok maxDepth) : update.write.Fits ok maxDepth := by
  rw [write_eq_of_spelledBy (read_eq_ok_iff.mp h)]
  exact Form.fits_canonical update.kind.form update.kind.depth_form_le hvalue

namespace Message

variable {message : Message}

theorem read_cases (h : read value = .ok message) :
    (∃ response : Response, message = .response response ∧ response.body = value) ∨
      ∃ update, message = .update update ∧ Update.read value = .ok update := by
  simp only [read, Except.bind_eq_ok_iff] at h
  obtain ⟨_, -, tag, -, hpayload⟩ := h
  split at hpayload
  · obtain ⟨response, hresponse, hmessage⟩ := Except.bind_eq_ok_iff.mp hpayload
    simp only [Response.read, Except.bind_eq_ok_iff] at hresponse
    obtain ⟨_, -, id, -, op, -, hfound⟩ := hresponse
    cases hfound
    cases hmessage
    exact .inl ⟨_, rfl, rfl⟩
  split at hpayload
  · obtain ⟨update, hupdate, hmessage⟩ := Except.bind_eq_ok_iff.mp hpayload
    cases hmessage
    exact .inr ⟨update, rfl, hupdate⟩
  · cases hpayload

/-- A response is shown as the value that it came as, an update by the table of its kind. -/
theorem fits_shown (h : read value = .ok message) (hvalue : value.Fits ok maxDepth) :
    message.shown.Fits ok maxDepth := by
  rcases read_cases h with ⟨response, rfl, hbody⟩ | ⟨update, rfl, hupdate⟩
  · rw [shown, hbody]
    exact hvalue
  · exact Update.fits_write hupdate hvalue

end Message

end Fits

/-! ## Lines that are shown -/

namespace Line

variable {line : Line} {value : Json} {message : Message}

theorem fits_of_value (h : line.value = .ok value) :
    value.Fits Json.anyDouble maxDepth := by
  unfold Line.value at h
  split at h
  · cases h
  · split at h
    · cases h
    · next hvalue =>
        cases h
        exact Json.fits_of_ofChars? hvalue

theorem exists_value_of_message (h : line.message = .ok message) :
    ∃ value, line.value = .ok value ∧ Message.read value = .ok message := by
  obtain ⟨value, hvalue, hmessage⟩ := Except.bind_eq_ok_iff.mp h
  refine ⟨value, hvalue, ?_⟩
  cases hread : Message.read value with
  | error cause =>
      rw [hread] at hmessage
      cases hmessage
  | ok found =>
      rw [hread] at hmessage
      cases hmessage
      rfl

theorem value_encode (h : value.ReadsBack) : Line.value (Utf8.encode value.write) = .ok value := by
  have hread : Json.ofChars? value.write.toList = some value := h
  simp only [Line.value, Utf8.decode_encode, hread]

theorem lineFeed_notMem_encode (value : Json) : lineFeed ∉ Utf8.encode value.write := by
  have hcount := Utf8.count_lineFeed_encode value.write
  rw [Json.breaks_write] at hcount
  exact List.count_eq_zero.mp hcount

/-- What a line is shown as is read as the same JSON value if it is a response, and as an object of
the same update if it is one. -/
def ShownAs (line piece : Line) : Prop :=
  match line.message with
  | .ok (.response _) => ∃ value, line.value = .ok value ∧ piece.value = .ok value
  | .ok (.update update) =>
      ∃ fields, piece.value = .ok (.object fields) ∧ Update.read (.object fields) = .ok update
  | .error _ => False

/-- The doubles in the value of a line have texts of which they are read again. -/
def ReadableDoubles (line : Line) : Prop :=
  ∀ value, line.value = .ok value → ∀ x ∈ value.doubles, (Json.number (.double x)).ReadsBack

theorem readableDoubles_encode {value : Json} (h : value.ReadsBack)
    (hdoubles : ∀ x ∈ value.doubles, (Json.number (.double x)).ReadsBack) :
    ReadableDoubles (Utf8.encode value.write) := by
  intro found hfound
  rw [value_encode h] at hfound
  cases hfound
  exact hdoubles

theorem shownAs_encode (h : line.message = .ok message) (hdoubles : line.ReadableDoubles) :
    line.ShownAs (Utf8.encode message.shown.write) := by
  obtain ⟨value, hvalue, hread⟩ := exists_value_of_message h
  have hfits := (fits_of_value hvalue).of_doubles (hdoubles value hvalue)
  have hshown := (Message.fits_shown hread hfits).readsBack fun _ hx => hx
  have hpiece := value_encode hshown
  unfold ShownAs
  rw [h]
  rcases Message.read_cases hread with ⟨response, rfl, hbody⟩ | ⟨update, rfl, -⟩
  · exact ⟨response.body, hbody ▸ hvalue, hpiece⟩
  · exact ⟨_, hpiece, Update.read_of_carries update.carries_write⟩

/-- The lines that decode, each beside what it is shown as. -/
theorem forall₂_shownAs {lines : List Line}
    (hdoubles : ∀ line ∈ lines, line.isFaulty = false → line.ReadableDoubles) :
    List.Forall₂ ShownAs (lines.filter fun line => !line.isFaulty)
      ((lines.filterMap message?).map fun message => Utf8.encode message.shown.write) := by
  induction lines with
  | nil => exact .nil
  | cons line lines ih =>
      obtain ⟨hline, hlines⟩ := List.forall_mem_cons.mp hdoubles
      have hrest := ih hlines
      cases h : line.message with
      | error fault =>
          have hfaulty : line.isFaulty = true := by simp [isFaulty, h]
          have hnone : line.message? = none := by simp [message?, h]
          rw [List.filter_cons_of_neg (by simp [hfaulty]), List.filterMap_cons_none hnone]
          exact hrest
      | ok message =>
          have hfaulty : line.isFaulty = false := by simp [isFaulty, h]
          have hsome : line.message? = some message := by simp [message?, h]
          have hshown := shownAs_encode h (hline hfaulty)
          rw [List.filter_cons_of_pos (by simp [hfaulty]), List.filterMap_cons_some hsome,
            List.map_cons]
          exact .cons hshown hrest

end Line

/-! ## Runs -/

section Runs

variable [Json.Wording]
variable {config : StreamConfig} {source : Source} {sink : Sink}

theorem output_run_json (hformat : config.format = .json) (hkinds : config.kinds = [])
    (hsink : sink.Reliable) :
    (run config source sink).output =
      (((config.reached source.lines).filterMap Line.message?).map fun message =>
        Utf8.encode message.shown.write).flatMap Line.ended := by
  have hfilter : config.kindFilter = .ok [] := by
    rw [StreamConfig.kindFilter, hkinds]
    rfl
  rw [run_of_kindFilter hfilter, output_runLines hfilter hsink,
    config.printed_of_kinds_eq_nil hkinds, hformat, List.flatMap_map, List.flatMap_map]
  simp only [OutputFormat.ofMessage_json]
  rfl

/-- In the JSON format, with no kinds named and a sink that takes everything, the output is made of
whole lines, one for each line that the run reaches and that decodes, in their order. What is shown
of a response is read as the very value that the response came as; what is shown of an update is
read as an object that spells the same update. No more is asked of the input than that the texts of
the doubles in it are read as those doubles, however the run ends. -/
theorem run_json_reads_back (hformat : config.format = .json) (hkinds : config.kinds = [])
    (hsink : sink.Reliable)
    (hdoubles : ∀ line ∈ config.reached source.lines, line.isFaulty = false →
      line.ReadableDoubles) :
    ∃ pieces, splitLines (run config source sink).output = (pieces, []) ∧
      List.Forall₂ Line.ShownAs
        ((config.reached source.lines).filter fun line => !line.isFaulty) pieces := by
  refine ⟨_, ?_, Line.forall₂_shownAs hdoubles⟩
  rw [output_run_json hformat hkinds hsink, ← List.append_nil (List.flatMap _ _)]
  refine splitLines_flatMap_ended (fun piece hpiece => ?_) List.not_mem_nil
  obtain ⟨message, -, rfl⟩ := List.mem_map.mp hpiece
  exact Line.lineFeed_notMem_encode message.shown

end Runs

def oneHalf : Double := ⟨false, ⟨4602678819172646912, by decide⟩⟩

def halfResponse : Json :=
  .object [("id", .natural 7), ("type", .string "Response"), ("value", .number (.double oneHalf))]

/-- An update with a member that is not written again. -/
def markedUpdate : Json :=
  .object
    [("dead_remote_routes", .array []), ("dead_routes", .array [.string "gone"]),
      ("kind", .string "RouteChange"), ("mark", .bool true), ("type", .string "Update")]

def halfCapture : Source :=
  .ofLines [Utf8.encode halfResponse.write, Utf8.encode "x", Utf8.encode markedUpdate.write]

theorem readsBack_oneHalf : (Json.number (.double oneHalf)).ReadsBack := by
  decide +kernel

theorem readsBack_halfResponse : halfResponse.ReadsBack := by
  have hsorted : Json.Fields.Sorted [("id", .natural 7), ("type", .string "Response"),
      ("value", .number (.double oneHalf))] := by
    unfold Json.Fields.Sorted
    decide
  have hfits : halfResponse.Fits (· = oneHalf) maxDepth := by
    refine .object hsorted fun field hmem => ?_
    simp only [List.mem_cons, List.not_mem_nil, or_false] at hmem
    rcases hmem with rfl | rfl | rfl
    · exact .number nofun
    · exact .string
    · exact .number fun x h => (JsonNumber.double.inj h).symm
  exact hfits.readsBack fun x hx => hx ▸ readsBack_oneHalf

/-- A line in between that is no JSON has no piece. -/
theorem run_json_reads_back_of_halfCapture :
    let config : StreamConfig := { format := .json, keepGoing := true }
    ∃ pieces, splitLines (run config halfCapture {}).output = (pieces, []) ∧
      List.Forall₂ Line.ShownAs
        [Utf8.encode halfResponse.write, Utf8.encode markedUpdate.write] pieces := by
  intro config
  have hdecoded : ((config.reached halfCapture.lines).filter fun line => !line.isFaulty) =
      [Utf8.encode halfResponse.write, Utf8.encode markedUpdate.write] := by
    decide +kernel
  have hdoubles : ∀ line ∈ config.reached halfCapture.lines, line.isFaulty = false →
      line.ReadableDoubles := by
    intro line hmem hfaulty
    have hline : line ∈ (config.reached halfCapture.lines).filter fun line => !line.isFaulty :=
      List.mem_filter.mpr ⟨hmem, by rw [hfaulty]; rfl⟩
    rw [hdecoded, List.mem_cons, List.mem_singleton] at hline
    rcases hline with hline | hline
    · rw [hline]
      have hall : ∀ x ∈ halfResponse.doubles, (Json.number (.double x)).ReadsBack :=
        List.forall_mem_singleton.mpr readsBack_oneHalf
      exact Line.readableDoubles_encode readsBack_halfResponse hall
    · rw [hline]
      have hupdate : markedUpdate.ReadsBack := by rfl
      exact Line.readableDoubles_encode hupdate fun x hx => by cases hx
  have hsink : Sink.Reliable {} := ⟨rfl, rfl⟩
  have hformat : config.format = .json := rfl
  have hkinds : config.kinds = [] := rfl
  have h := run_json_reads_back hformat hkinds hsink hdoubles
  rwa [hdecoded] at h

end ControlStream

import ControlStream.Proofs.Stream.Stops

/-!
# The node's log records

Of everything that a run logs, the records under the target of the node are those that pass on log
updates: the ones of the lines that the run reaches, whether they are shown or not.
-/

namespace ControlStream

namespace LogRecord

def ofNode (records : List LogRecord) : List LogRecord :=
  records.filter fun record => record.target == nodeTarget

@[simp] theorem ofNode_nil : ofNode [] = [] := rfl

@[simp] theorem ofNode_append (records records' : List LogRecord) :
    ofNode (records ++ records') = ofNode records ++ ofNode records' :=
  List.filter_append _ _

theorem ofNode_singleton_of_ne {severity : Severity} {target text : String}
    (h : target ≠ nodeTarget) :
    ofNode [⟨severity, target, text⟩] = [] := by
  simp [ofNode, h]

end LogRecord

open LogRecord (ofNode)

/-! ## Notes

What decoding leaves in the log has targets of its own.
-/

namespace LogRecord

def decodingTargets : List String := [updateTarget, messageTarget, apiErrorTarget]

theorem ofNode_eq_nil {records : List LogRecord}
    (h : ∀ record ∈ records, record.target ∈ decodingTargets) : ofNode records = [] := by
  have hother : nodeTarget ∉ decodingTargets := by decide
  apply List.filter_eq_nil_iff.mpr
  intro record hmem htarget
  exact hother (beq_iff_eq.mp htarget ▸ h record hmem)

end LogRecord

theorem ApiError.target_of_mem_notes {value : Json} {record : LogRecord}
    (h : record ∈ notes value) : record.target ∈ LogRecord.decodingTargets := by
  unfold notes at h
  split at h
  · rw [List.mem_singleton.mp h]
    change LogRecord.apiErrorTarget ∈ LogRecord.decodingTargets
    decide
  · cases h

theorem Response.target_of_mem_notes {response : Response} {record : LogRecord}
    (h : record ∈ response.notes) : record.target ∈ LogRecord.decodingTargets := by
  unfold notes at h
  split at h
  · exact ApiError.target_of_mem_notes h
  · cases h

theorem Update.target_of_mem_notes {value : Json} {record : LogRecord}
    (h : record ∈ notes value) : record.target ∈ LogRecord.decodingTargets := by
  unfold notes at h
  split at h
  · cases h
  · split at h
    · rw [List.mem_singleton.mp h]
      change LogRecord.updateTarget ∈ LogRecord.decodingTargets
      decide
    · rw [List.mem_singleton.mp h]
      change LogRecord.updateTarget ∈ LogRecord.decodingTargets
      decide

theorem Message.target_of_mem_notes {value : Json} {record : LogRecord}
    (h : record ∈ notes value) : record.target ∈ LogRecord.decodingTargets := by
  unfold notes at h
  split at h
  · cases h
  · split at h
    · cases h
    · split at h
      · exact Update.target_of_mem_notes h
      · rw [List.mem_singleton.mp h]
        change LogRecord.messageTarget ∈ LogRecord.decodingTargets
        decide

theorem Line.target_of_mem_notes {line : Line} {record : LogRecord}
    (h : record ∈ notes line) : record.target ∈ LogRecord.decodingTargets := by
  unfold notes at h
  split at h
  · exact Message.target_of_mem_notes h
  · cases h

theorem Response.ofNode_notes (response : Response) : ofNode response.notes = [] :=
  LogRecord.ofNode_eq_nil fun _ => target_of_mem_notes

theorem Line.ofNode_notes (line : Line) : ofNode (notes line) = [] :=
  LogRecord.ofNode_eq_nil fun _ => target_of_mem_notes

/-! ## Steps and runs -/

theorem Update.target_of_mem_forwarded {update : Update} {record : LogRecord}
    (h : record ∈ update.forwarded) : record.target = LogRecord.nodeTarget := by
  cases update with
  | log entry =>
      rcases List.mem_cons.mp h with rfl | h
      · rfl
      · obtain ⟨backtrace, _, rfl⟩ := Option.map_eq_some_iff.mp (Option.mem_toList.mp h)
        rfl
  | _ => cases h

theorem Update.ofNode_forwarded (update : Update) : ofNode update.forwarded = update.forwarded :=
  List.filter_eq_self.mpr fun _ hmem => beq_iff_eq.mpr (target_of_mem_forwarded hmem)

def StreamConfig.forwardedBy (config : StreamConfig) (line : Line) : List LogRecord :=
  if config.forwardNodeLogs then line.update?.toList.flatMap Update.forwarded else []

theorem Step.ofNode_ofLine [Json.Wording] {config : StreamConfig} {kinds : List UpdateKind}
    {number : Nat} {line : Line} (hblank : isBlankLine line = false) :
    ofNode ((ofLine config kinds number line).before ++ (ofLine config kinds number line).after) =
      config.forwardedBy line := by
  have hstream : LogRecord.streamTarget ≠ LogRecord.nodeTarget := by decide
  rcases line.decoded_cases with ⟨fault, h, _, hupdate, _⟩ | ⟨response, h, _, hupdate, _⟩ |
    ⟨update, h, _, hupdate, _⟩
  · cases hkeep : config.keepGoing <;>
      simp [ofLine, hblank, h, ofFault, hkeep, StreamConfig.forwardedBy, hupdate,
        Line.ofNode_notes, LogRecord.ofNode_singleton_of_ne hstream]
  · cases hformat : config.format <;>
      simp [ofLine, hblank, h, ofResponse, hformat, StreamConfig.forwardedBy, hupdate,
        Line.ofNode_notes, Response.ofNode_notes]
  · cases hends : update.kind == .shutdown <;> cases hforward : config.forwardNodeLogs <;>
      simp [ofLine, hblank, h, ofUpdate, hends, hforward, StreamConfig.forwardedBy, hupdate,
        Line.ofNode_notes, Update.ofNode_forwarded, LogRecord.ofNode_singleton_of_ne hstream]

namespace Outcome

def nodeRecords (outcome : Outcome) : List LogRecord := ofNode outcome.logs

theorem nodeRecords_behind (outcome : Outcome) (step : Step) :
    (outcome.behind step).nodeRecords =
      ofNode (step.before ++ step.after) ++ outcome.nodeRecords := by
  simp [nodeRecords, behind]

end Outcome

/-- A run on a reliable sink passes on what the lines that it reaches do. -/
theorem nodeRecords_runLines [Json.Wording] {config : StreamConfig} {kinds : List UpdateKind}
    {ending : Option StreamError} {sink : Sink} (hsink : sink.Reliable) (number : Nat)
    (lines : List Line) :
    (runLines config kinds ending sink number lines).nodeRecords =
      (config.reached lines).flatMap config.forwardedBy := by
  induction lines using config.stop_induction generalizing number with
  | nil =>
      rw [runLines_nil hsink]
      rfl
  | blank line rest hblank ih =>
      rw [runLines_cons_of_blank hblank, StreamConfig.reached_cons_of_blank hblank, ih]
  | stop line rest hblank hstop =>
      rw [runLines_cons_of_stop hsink hblank hstop,
        StreamConfig.reached_cons_of_stop hblank hstop, Outcome.nodeRecords_behind,
        Step.ofNode_ofLine hblank]
      simp [Outcome.nodeRecords, Outcome.finished]
  | pass line rest hblank hstop ih =>
      rw [runLines_cons_of_pass hsink hblank hstop,
        StreamConfig.reached_cons_of_pass hblank hstop, Outcome.nodeRecords_behind,
        Step.ofNode_ofLine hblank, ih, List.flatMap_cons]

end ControlStream

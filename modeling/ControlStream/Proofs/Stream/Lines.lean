import ControlStream.Stream.Run

/-!
# Sources made of lines

Splitting at line feeds and ending lines with line feeds are inverse to each other. So a source can
be cut down to some of its lines, and has exactly those.
-/

namespace ControlStream

def Line.ended (line : Line) : List UInt8 := line ++ [lineFeed]

/-! ## Splitting -/

theorem splitPieces_of_notMem {bytes : List UInt8} (h : lineFeed ∉ bytes) :
    splitPieces bytes = (bytes, []) := by
  induction bytes with
  | nil => rfl
  | cons byte rest ih =>
      have hbyte : byte ≠ lineFeed := fun heq => h (heq ▸ List.mem_cons_self)
      have hrest := ih fun hmem => h (List.mem_cons_of_mem byte hmem)
      rw [splitPieces_cons, if_neg hbyte, hrest]

theorem splitPieces_ended_append {line : Line} (h : lineFeed ∉ line) (bytes : List UInt8) :
    splitPieces (line.ended ++ bytes) =
      (line, (splitPieces bytes).1 :: (splitPieces bytes).2) := by
  induction line with
  | nil => rfl
  | cons byte rest ih =>
      have hbyte : byte ≠ lineFeed := fun heq => h (heq ▸ List.mem_cons_self)
      have hrest := ih fun hmem => h (List.mem_cons_of_mem byte hmem)
      rw [Line.ended, List.cons_append, List.cons_append, splitPieces_cons, if_neg hbyte]
      change (byte :: (splitPieces (Line.ended rest ++ bytes)).1,
        (splitPieces (Line.ended rest ++ bytes)).2) = _
      rw [hrest]

theorem splitLines_of_notMem {bytes : List UInt8} (h : lineFeed ∉ bytes) :
    splitLines bytes = ([], bytes) := by
  rw [splitLines, splitPieces_of_notMem h]
  rfl

theorem splitLines_ended_append {line : Line} (h : lineFeed ∉ line) (bytes : List UInt8) :
    splitLines (line.ended ++ bytes) = (line :: (splitLines bytes).1, (splitLines bytes).2) := by
  unfold splitLines
  rw [splitPieces_ended_append h]
  simp

/-- Lines that are ended by line feeds, and what follows them, are found again. -/
theorem splitLines_flatMap_ended {whole : List Line} {rest : Line}
    (hwhole : ∀ line ∈ whole, lineFeed ∉ line) (hrest : lineFeed ∉ rest) :
    splitLines (whole.flatMap Line.ended ++ rest) = (whole, rest) := by
  induction whole with
  | nil => exact splitLines_of_notMem hrest
  | cons line whole ih =>
      have hline := hwhole line List.mem_cons_self
      have hlines := ih fun other hmem => hwhole other (List.mem_cons_of_mem line hmem)
      rw [List.flatMap_cons, List.append_assoc, splitLines_ended_append hline, hlines]

/-- Every byte sequence is made of lines that are ended by line feeds and of a rest. -/
theorem exists_eq_flatMap_ended (bytes : List UInt8) :
    ∃ (whole : List Line) (rest : Line), bytes = whole.flatMap Line.ended ++ rest ∧
      (∀ line ∈ whole, lineFeed ∉ line) ∧ lineFeed ∉ rest := by
  induction bytes with
  | nil => exact ⟨[], [], rfl, by simp, by simp⟩
  | cons byte bytes ih =>
      obtain ⟨whole, rest, rfl, hwhole, hrest⟩ := ih
      by_cases hbyte : byte = lineFeed
      · subst hbyte
        exact ⟨[] :: whole, rest, rfl, List.forall_mem_cons.mpr ⟨by simp, hwhole⟩, hrest⟩
      · have hcons : ∀ line : Line, lineFeed ∉ line → lineFeed ∉ byte :: line := by
          intro line hline hmem
          rcases List.mem_cons.mp hmem with heq | hmem
          · exact hbyte heq.symm
          · exact hline hmem
        cases whole with
        | nil => exact ⟨[], byte :: rest, rfl, by simp, hcons rest hrest⟩
        | cons line whole =>
            obtain ⟨hline, hlines⟩ := List.forall_mem_cons.mp hwhole
            exact ⟨(byte :: line) :: whole, rest, rfl,
              List.forall_mem_cons.mpr ⟨hcons line hline, hlines⟩, hrest⟩

theorem splitLines_spec (bytes : List UInt8) :
    bytes = (splitLines bytes).1.flatMap Line.ended ++ (splitLines bytes).2 ∧
      (∀ line ∈ (splitLines bytes).1, lineFeed ∉ line) ∧ lineFeed ∉ (splitLines bytes).2 := by
  obtain ⟨whole, rest, rfl, hwhole, hrest⟩ := exists_eq_flatMap_ended bytes
  rw [splitLines_flatMap_ended hwhole hrest]
  exact ⟨rfl, hwhole, hrest⟩

/-! ## Captures that are cut between lines -/

/-- Bytes of which no line is unfinished. -/
def IsWholeLines (bytes : List UInt8) : Prop := bytes = [] ∨ bytes.getLast? = some lineFeed

theorem IsWholeLines.splitLines_snd {bytes : List UInt8} (h : IsWholeLines bytes) :
    (splitLines bytes).2 = [] := by
  obtain ⟨hbytes, -, hrest⟩ := splitLines_spec bytes
  refine Classical.byContradiction fun hne => ?_
  have hlast := congrArg List.getLast? hbytes
  rw [List.getLast?_append, List.getLast?_eq_some_getLast hne, Option.some_or] at hlast
  rcases h with rfl | h
  · exact hne rfl
  · have hend : lineFeed = (splitLines bytes).2.getLast hne := Option.some.inj (h.symm.trans hlast)
    exact hrest (hend ▸ List.getLast_mem hne)

theorem IsWholeLines.eq_flatMap_ended {bytes : List UInt8} (h : IsWholeLines bytes) :
    bytes = (splitLines bytes).1.flatMap Line.ended := by
  have hbytes := (splitLines_spec bytes).1
  rwa [h.splitLines_snd, List.append_nil] at hbytes

theorem splitLines_flatMap_ended_append {whole : List Line}
    (hwhole : ∀ line ∈ whole, lineFeed ∉ line) (bytes : List UInt8) :
    splitLines (whole.flatMap Line.ended ++ bytes) =
      (whole ++ (splitLines bytes).1, (splitLines bytes).2) := by
  induction whole with
  | nil => rfl
  | cons line whole ih =>
      have hline := hwhole line List.mem_cons_self
      have hlines := ih fun other hmem => hwhole other (List.mem_cons_of_mem line hmem)
      rw [List.flatMap_cons, List.append_assoc, splitLines_ended_append hline, hlines]
      rfl

theorem IsWholeLines.splitLines_append {start : List UInt8} (h : IsWholeLines start)
    (bytes : List UInt8) :
    splitLines (start ++ bytes) =
      ((splitLines start).1 ++ (splitLines bytes).1, (splitLines bytes).2) := by
  have hwhole := (splitLines_spec start).2.1
  have hsplit := splitLines_flatMap_ended_append hwhole bytes
  rwa [← h.eq_flatMap_ended] at hsplit

theorem count_lineFeed_flatMap_ended {whole : List Line}
    (hwhole : ∀ line ∈ whole, lineFeed ∉ line) :
    (whole.flatMap Line.ended).count lineFeed = whole.length := by
  induction whole with
  | nil => rfl
  | cons line whole ih =>
      have hline : line.ended.count lineFeed = 1 := by
        have hnone : line.count lineFeed = 0 :=
          List.count_eq_zero.mpr (hwhole line List.mem_cons_self)
        rw [Line.ended, List.count_append, hnone]
        rfl
      have hlines := ih fun other hmem => hwhole other (List.mem_cons_of_mem line hmem)
      rw [List.flatMap_cons, List.count_append, hline, hlines, List.length_cons, Nat.add_comm]

theorem IsWholeLines.length_splitLines_fst {bytes : List UInt8} (h : IsWholeLines bytes) :
    (splitLines bytes).1.length = bytes.count lineFeed := by
  have hcount := count_lineFeed_flatMap_ended (splitLines_spec bytes).2.1
  rw [← h.eq_flatMap_ended] at hcount
  exact hcount.symm

/-! ## Sources -/

namespace Source

def ofLines (lines : List Line) : Source := { bytes := lines.flatMap Line.ended }

theorem isWholeLines_ofLines (whole : List Line) : IsWholeLines (ofLines whole).bytes := by
  rcases List.eq_nil_or_concat whole with rfl | ⟨before, last, rfl⟩
  · exact .inl rfl
  · refine .inr ?_
    simp [ofLines, Line.ended, List.flatMap_append]

/-- A source without the lines that fail a test. A line is taken out together with the line feed
that ends it. -/
def filterLines (keep : Line → Bool) (source : Source) : Source :=
  let split := splitLines source.bytes
  { source with
    bytes := (split.1.filter keep).flatMap Line.ended ++ if keep split.2 then split.2 else [] }

variable {source : Source}

theorem lines_of_not_failing (h : source.failure = none) :
    source.lines =
      (splitLines source.bytes).1 ++ [(splitLines source.bytes).2].filter (· ≠ []) := by
  by_cases hrest : (splitLines source.bytes).2 = []
  · simp [lines, h, hrest]
  · simp [lines, h, hrest]

/-- A source that is cut between lines has its lines even when the reader fails behind them. -/
theorem lines_of_isWholeLines (h : IsWholeLines source.bytes) :
    source.lines = (splitLines source.bytes).1 := by
  simp [lines, h.splitLines_snd]

theorem lines_append {start : List UInt8} (h : IsWholeLines start) (source : Source) :
    ({ source with bytes := start ++ source.bytes } : Source).lines =
      (splitLines start).1 ++ source.lines := by
  simp only [lines, h.splitLines_append]
  split
  · rfl
  · exact List.append_assoc _ _ _

theorem lines_ofLines {whole : List Line} (h : ∀ line ∈ whole, lineFeed ∉ line) :
    (ofLines whole).lines = whole := by
  have hempty : lineFeed ∉ ([] : Line) := by simp
  have hsplit : splitLines (ofLines whole).bytes = (whole, []) := by
    simpa [ofLines] using splitLines_flatMap_ended h hempty
  rw [lines_of_not_failing rfl, hsplit]
  simp

/-- Taking lines out of the bytes takes them out of the lines. -/
theorem lines_filterLines (keep : Line → Bool) (h : source.failure = none) :
    (source.filterLines keep).lines = source.lines.filter keep := by
  obtain ⟨-, hwhole, hrest⟩ := splitLines_spec source.bytes
  have hkept : ∀ line ∈ (splitLines source.bytes).1.filter keep, lineFeed ∉ line :=
    fun line hmem => hwhole line (List.mem_filter.mp hmem).1
  have hlast : lineFeed ∉ if keep (splitLines source.bytes).2 then (splitLines source.bytes).2
      else [] := by
    split
    · exact hrest
    · simp
  have hfailure : (source.filterLines keep).failure = none := h
  have hsplit : splitLines (source.filterLines keep).bytes = _ :=
    splitLines_flatMap_ended hkept hlast
  rw [lines_of_not_failing hfailure, lines_of_not_failing h, List.filter_append, hsplit]
  congr 1
  by_cases hkeep : keep (splitLines source.bytes).2 = true
  · by_cases hempty : (splitLines source.bytes).2 = [] <;> simp [hkeep, hempty]
  · by_cases hempty : (splitLines source.bytes).2 = [] <;> simp [hkeep, hempty]

theorem lineFeed_notMem_of_mem_lines (h : source.failure = none) {line : Line}
    (hmem : line ∈ source.lines) : lineFeed ∉ line := by
  obtain ⟨-, hwhole, hrest⟩ := splitLines_spec source.bytes
  rw [lines_of_not_failing h, List.mem_append] at hmem
  rcases hmem with hmem | hmem
  · exact hwhole line hmem
  · have heq := List.mem_singleton.mp (List.mem_filter.mp hmem).1
    exact heq ▸ hrest

/-- The first lines of a source are the beginning of its bytes, as long as another line follows. -/
theorem bytes_ofLines_take_prefix (h : source.failure = none) {count : Nat}
    (hcount : count < source.lines.length) :
    (ofLines (source.lines.take count)).bytes <+: source.bytes := by
  obtain ⟨hbytes, -, -⟩ := splitLines_spec source.bytes
  have hwhole : count ≤ (splitLines source.bytes).1.length := by
    rw [lines_of_not_failing h, List.length_append] at hcount
    have hlast := List.length_filter_le (· ≠ []) [(splitLines source.bytes).2]
    simp only [List.length_singleton] at hlast
    omega
  have htake : source.lines.take count = (splitLines source.bytes).1.take count := by
    rw [lines_of_not_failing h, List.take_append_of_le_length hwhole]
  have hsplit : (splitLines source.bytes).1.flatMap Line.ended =
      ((splitLines source.bytes).1.take count).flatMap Line.ended ++
        ((splitLines source.bytes).1.drop count).flatMap Line.ended := by
    rw [← List.flatMap_append, List.take_append_drop]
  refine ⟨((splitLines source.bytes).1.drop count).flatMap Line.ended ++
    (splitLines source.bytes).2, ?_⟩
  rw [htake, ofLines, ← List.append_assoc, ← hsplit]
  exact hbytes.symm

end Source

end ControlStream

import ControlStream.Proofs.Json.Fits
import ControlStream.Proofs.Json.Numerals

/-!
# Compact text is read back

From wherever a value may come next, the reader goes over the text of a value to the place where the
value has been delivered. So the text of a value is read as the value, if its objects are in key
order, its containers are not too deep and each of its doubles is read back. Only the doubles may
fail to be: reading one from text rounds more than once.
-/

namespace ControlStream

namespace Json

def ReadsBack (value : Json) : Prop := read? value.write = some value

/-- Where a value may come next, inside of the containers `outer`. -/
inductive Place.Awaits : Place → List Frame → Prop where
  | next (outer : List Frame) : Awaits (.nextValue outer) outer
  | first (outer : List Frame) : Awaits (.firstItem outer) (.array [] :: outer)

namespace Place.Awaits

variable {place : Place} {outer : List Frame}

theorem scalar (h : place.Awaits outer) (value : Json) :
    place.scalar value = some (deliver value outer) := by
  cases h <;> rfl

theorem text (h : place.Awaits outer) (s : String) :
    place.text s = some (deliver (.string s) outer) := by
  cases h <;> rfl

theorem arrayOpen (h : place.Awaits outer) (hroom : outer.length < maxDepth) :
    place.mark .arrayOpen = some (.firstItem outer) := by
  have hopen : openMark .arrayOpen outer = some (.firstItem outer) :=
    if_neg (Nat.not_le_of_lt hroom)
  cases h <;> exact hopen

theorem objectOpen (h : place.Awaits outer) (hroom : outer.length < maxDepth) :
    place.mark .objectOpen = some (.firstKey outer) := by
  have hopen : openMark .objectOpen outer = some (.firstKey outer) :=
    if_neg (Nat.not_le_of_lt hroom)
  cases h <;> exact hopen

end Place.Awaits

/-! ## The rest of a text -/

/-- What ends a word: nothing more, or a character that does not go on with it. -/
def EndsWord (rest : List Char) : Prop := ∀ c, rest.head? = some c → continuesWord c = false

theorem endsWord_nil : EndsWord [] := nofun

theorem endsWord_cons {c : Char} (h : continuesWord c = false) (rest : List Char) :
    EndsWord (c :: rest) := by
  rintro d ⟨⟩
  exact h

namespace Reader

def readFrom (reader : Reader) (text : List Char) : Option Json :=
  (text.foldlM step reader).bind finish

theorem readFrom_nil (reader : Reader) : reader.readFrom [] = reader.finish := rfl

theorem readFrom_cons (reader : Reader) (c : Char) (text : List Char) :
    reader.readFrom (c :: text) = (reader.step c).bind fun next => next.readFrom text := by
  rw [readFrom, List.foldlM_cons]
  cases reader.step c <;> rfl

theorem readFrom_of_step {reader next : Reader} {c : Char} (h : reader.step c = some next)
    (text : List Char) : reader.readFrom (c :: text) = next.readFrom text := by
  rw [readFrom_cons, h]
  rfl

variable {place next : Place} {outer : List Frame} {rest : List Char}

/-! ## Words -/

theorem readFrom_word_continue {chars more : List Char}
    (h : ∀ c ∈ more, continuesWord c = true) :
    readFrom ⟨.word chars, place⟩ (more ++ rest) =
      readFrom ⟨.word (more.reverse ++ chars), place⟩ rest := by
  induction more generalizing chars with
  | nil => rfl
  | cons c more ih =>
      obtain ⟨hc, hmore⟩ := List.forall_mem_cons.mp h
      have hstep : step ⟨.word chars, place⟩ c = some ⟨.word (c :: chars), place⟩ := if_pos hc
      rw [List.cons_append, readFrom_of_step hstep, ih hmore, List.reverse_cons,
        List.append_assoc, List.singleton_append]

theorem readFrom_word_end {chars : List Char} (h : closeWord chars place = some next)
    (hrest : EndsWord rest) :
    readFrom ⟨.word chars, place⟩ rest = readFrom ⟨.between, next⟩ rest := by
  cases rest with
  | nil =>
      simp only [readFrom_nil, finish, h]
      cases next <;> rfl
  | cons c rest =>
      have hstep : step ⟨.word chars, place⟩ c = begin next c := by
        simp only [step, hrest c rfl, h]
        rfl
      rw [readFrom_cons, readFrom_cons, hstep]
      rfl

theorem step_word {c : Char} (h : continuesWord c = true) :
    step ⟨.between, place⟩ c = some ⟨.word [c], place⟩ := by
  simp only [continuesWord, Bool.and_eq_true, Bool.not_eq_true', bne_iff_ne, ne_eq,
    Option.isNone_iff_eq_none] at h
  obtain ⟨⟨hspace, hquote⟩, hmark⟩ := h
  simp [step, begin, hspace, hquote, hmark]

theorem readFrom_chars {word : List Char} (hne : word ≠ [])
    (hchars : ∀ c ∈ word, continuesWord c = true) :
    readFrom ⟨.between, place⟩ (word ++ rest) = readFrom ⟨.word word.reverse, place⟩ rest := by
  obtain ⟨first, more, rfl⟩ := List.exists_cons_of_ne_nil hne
  obtain ⟨hfirst, hmore⟩ := List.forall_mem_cons.mp hchars
  rw [List.cons_append, readFrom_of_step (step_word hfirst), readFrom_word_continue hmore,
    List.reverse_cons]

theorem readFrom_word {word : List Char} {value : Json} (hne : word ≠ [])
    (hchars : ∀ c ∈ word, continuesWord c = true) (hvalue : ofWord? word = some value)
    (hplace : place.scalar value = some next) (hrest : EndsWord rest) :
    readFrom ⟨.between, place⟩ (word ++ rest) = readFrom ⟨.between, next⟩ rest := by
  have hclose : closeWord word.reverse place = some next := by
    rw [closeWord, List.reverse_reverse, hvalue]
    exact hplace
  rw [readFrom_chars hne hchars, readFrom_word_end hclose hrest]

theorem ofChars?_word {word : List Char} (hne : word ≠ [])
    (hchars : ∀ c ∈ word, continuesWord c = true) : ofChars? word = ofWord? word := by
  have hread := @readFrom_chars (.nextValue []) [] word hne hchars
  rw [List.append_nil, readFrom_nil] at hread
  refine Eq.trans hread ?_
  simp only [finish, closeWord, List.reverse_reverse]
  cases ofWord? word <;> rfl

/-! ## Strings -/

theorem hexValue?_digitChar : ∀ d < 16, hexValue? (Nat.digitChar d) = some d := by
  decide

theorem readFrom_control {chars : List Char} {c : Char} (h : c.toNat < 0x20) :
    readFrom ⟨.text chars, place⟩ ('\\' :: 'u' :: '0' :: '0' :: hexPair c.toNat ++ rest) =
      readFrom ⟨.text (c :: chars), place⟩ rest := by
  have hhigh := hexValue?_digitChar (c.toNat / 16) (by omega)
  have hlow := hexValue?_digitChar (c.toNat % 16) (by omega)
  have hunit : c.toNat / 16 * 16 + c.toNat % 16 = c.toNat := by omega
  have hclose : Scan.closeUnit chars none c.toNat = some (.text (c :: chars)) := by
    have hhigh : isHighSurrogate c.toNat = false := by
      simp only [isHighSurrogate, Bool.and_eq_false_iff, decide_eq_false_iff_not]
      omega
    have hlow : isLowSurrogate c.toNat = false := by
      simp only [isLowSurrogate, Bool.and_eq_false_iff, decide_eq_false_iff_not]
      omega
    simp [Scan.closeUnit, hhigh, hlow, Char.ofNat_toNat]
  have hthird : step ⟨.unit chars none 2 0, place⟩ (Nat.digitChar (c.toNat / 16)) =
      some ⟨.unit chars none 3 (c.toNat / 16), place⟩ := by
    simp [step, hhigh]
  have hfourth : step ⟨.unit chars none 3 (c.toNat / 16), place⟩ (Nat.digitChar (c.toNat % 16)) =
      some ⟨.text (c :: chars), place⟩ := by
    simp [step, hlow, hunit, hclose]
  show readFrom ⟨.unit chars none 2 0, place⟩ (_ :: _ :: rest) = _
  rw [readFrom_of_step hthird, readFrom_of_step hfourth]

theorem readFrom_escapeChar (chars : List Char) (c : Char) :
    readFrom ⟨.text chars, place⟩ (escapeChar c ++ rest) =
      readFrom ⟨.text (c :: chars), place⟩ rest := by
  unfold escapeChar
  split
  · rfl
  · rfl
  · rfl
  · rfl
  · rfl
  · rfl
  · rfl
  · next hquote hslash _ _ _ _ _ =>
      split
      · next hcontrol => exact readFrom_control hcontrol
      · next hplain =>
          have hstep : step ⟨.text chars, place⟩ c = some ⟨.text (c :: chars), place⟩ := by
            simp only [step]
            rw [if_neg hquote, if_neg hslash, if_neg hplain]
          exact readFrom_of_step hstep rest

theorem readFrom_flatMap_escapeChar (text chars : List Char) :
    readFrom ⟨.text chars, place⟩ (text.flatMap escapeChar ++ rest) =
      readFrom ⟨.text (text.reverse ++ chars), place⟩ rest := by
  induction text generalizing chars with
  | nil => rfl
  | cons c text ih =>
      rw [List.flatMap_cons, List.append_assoc, readFrom_escapeChar, ih, List.reverse_cons,
        List.append_assoc, List.singleton_append]

theorem readFrom_writeString {s : String} (hplace : place.text s = some next) :
    readFrom ⟨.between, place⟩ (writeString s ++ rest) = readFrom ⟨.between, next⟩ rest := by
  have hend : step ⟨.text (s.toList.reverse ++ []), place⟩ '"' = some ⟨.between, next⟩ := by
    simp [step, hplace]
  show readFrom ⟨.text [], place⟩ ((s.toList.flatMap escapeChar ++ ['"']) ++ rest) = _
  rw [List.append_assoc, readFrom_flatMap_escapeChar, List.singleton_append,
    readFrom_of_step hend]

/-! ## Marks -/

theorem readFrom_mark {c : Char} {mark : Mark} (hc : Mark.ofChar? c = some mark)
    (hplace : place.mark mark = some next) :
    readFrom ⟨.between, place⟩ (c :: rest) = readFrom ⟨.between, next⟩ rest := by
  have hstep : step ⟨.between, place⟩ c = some ⟨.between, next⟩ := by
    have hspace : isSpace c = false := by
      cases hspace : isSpace c with
      | false => rfl
      | true =>
          simp only [isSpace, Bool.or_eq_true, beq_iff_eq] at hspace
          rcases hspace with ((rfl | rfl) | rfl) | rfl <;> cases hc
    have hquote : c ≠ '"' := by
      rintro rfl
      cases hc
    simp [step, begin, hspace, hquote, hc, hplace]
  exact readFrom_of_step hstep rest

end Reader

/-! ## Numbers -/

theorem continuesWord_of_mem_writeNumber (n : JsonNumber) :
    ∀ c ∈ writeNumber n, continuesWord c = true :=
  fun _ hc => continuesWord_of_isNumeralChar (isNumeralChar_of_mem_writeNumber hc)

theorem readsBack_number_iff {n : JsonNumber} :
    (number n).ReadsBack ↔
      writeNumber n ≠ [] ∧ ofWord? (writeNumber n) = some (.number n) := by
  have hread : (number n).ReadsBack ↔ ofChars? (writeNumber n) = some (.number n) := by
    simp [ReadsBack, read?, write, writeBefore]
  have hword : writeNumber n ≠ [] → ofChars? (writeNumber n) = ofWord? (writeNumber n) :=
    fun hne => Reader.ofChars?_word hne (continuesWord_of_mem_writeNumber n)
  rw [hread]
  constructor
  · intro h
    have hne : writeNumber n ≠ [] := by
      intro hempty
      rw [hempty] at h
      cases h
    exact ⟨hne, (hword hne).symm.trans h⟩
  · intro h
    exact (hword h.1).trans h.2

/-- A number is read back exactly when its text is a numeral of it. -/
theorem readsBack_number_iff_numeral {n : JsonNumber} :
    (number n).ReadsBack ↔ (Numeral.ofChars? (writeNumber n)).bind Numeral.toNumber? = some n := by
  rw [readsBack_number_iff]
  cases htext : writeNumber n with
  | nil => simp [Numeral.ofChars?]
  | cons first rest =>
      have hfirst : isNumeralChar first = true :=
        isNumeralChar_of_mem_writeNumber (htext ▸ List.mem_cons_self)
      have hword : ofWord? (first :: rest) =
          ((Numeral.ofChars? (first :: rest)).bind Numeral.toNumber?).map number := by
        rw [ofWord?_of_isNumeralChar hfirst, Option.map_bind]
        rfl
      rw [hword, Option.map_eq_some_iff]
      constructor
      · intro h
        obtain ⟨found, hfound, hnumber⟩ := h.2
        cases hnumber
        exact hfound
      · intro h
        exact ⟨List.cons_ne_nil first rest, n, h, rfl⟩

instance (n : JsonNumber) : Decidable (number n).ReadsBack :=
  decidable_of_iff _ readsBack_number_iff_numeral.symm

/-- The text of this double, `1.0999999999999999e+24`, is read as the double after it. -/
example : ¬ (number (.double ⟨false, ⟨4966658828391532306, by decide⟩⟩)).ReadsBack := by
  decide +kernel

/-- The text of an integer is a word of it, and so is that of a double that is read back. -/
theorem ofWord?_writeNumber {n : JsonNumber}
    (h : ∀ x, n = .double x → (number (.double x)).ReadsBack) :
    writeNumber n ≠ [] ∧ ofWord? (writeNumber n) = some (.number n) := by
  cases n with
  | natural n => exact ⟨Nat.toDigits_ne_nil, ofWord?_natural n⟩
  | negSucc n => exact ⟨List.cons_ne_nil _ _, ofWord?_negSucc n⟩
  | double x => exact readsBack_number_iff.mp (h x rfl)

/-! ## Values -/

open Reader Place

theorem ofMembers_of_sorted {fields : Fields} (h : fields.Sorted) :
    ofMembers fields = .object fields := by
  refine ofMembers_eq_of_carries h ?_ fun key hkey => hkey
  exact carries_iff.mpr ⟨⟨fields, rfl⟩, fun member hmem => h.get?_of_mem hmem⟩

theorem endsWord_writeItems (items : List Json) (rest : List Char) :
    EndsWord (writeItems items (']' :: rest)) := by
  cases items <;> exact endsWord_cons rfl _

theorem endsWord_writeFields (fields : Fields) (rest : List Char) :
    EndsWord (writeFields fields ('\x7d' :: rest)) := by
  cases fields <;> exact endsWord_cons rfl _

/-- With `room` for containers left, the text of a value takes the reader to where the value is
delivered. -/
def Delivers (room : Nat) (value : Json) : Prop :=
  ∀ {place : Place} {outer : List Frame} {rest : List Char}, place.Awaits outer →
    room + outer.length = maxDepth → EndsWord rest →
    readFrom ⟨.between, place⟩ (writeBefore value rest) =
      readFrom ⟨.between, deliver value outer⟩ rest

section Containers

variable {room : Nat} {outer : List Frame} {rest : List Char}

/-- The items after those that are done take the reader to the end of the array. -/
theorem readFrom_writeItems {items done : List Json} (h : ∀ item ∈ items, Delivers room item)
    (hroom : room + (outer.length + 1) = maxDepth) :
    readFrom ⟨.between, .afterItem done outer⟩ (writeItems items (']' :: rest)) =
      readFrom ⟨.between, deliver (.array (done.reverse ++ items)) outer⟩ rest := by
  induction items generalizing done with
  | nil =>
      have hclose : (afterItem done outer).mark .arrayClose =
          some (deliver (.array done.reverse) outer) := rfl
      rw [writeItems, readFrom_mark rfl hclose, List.append_nil]
  | cons item items ih =>
      obtain ⟨hitem, hitems⟩ := List.forall_mem_cons.mp h
      have hcomma : (afterItem done outer).mark .comma = some (nextValue (.array done :: outer)) :=
        rfl
      have hlater := @ih (item :: done) hitems
      rw [List.reverse_cons, List.append_assoc, List.singleton_append] at hlater
      rw [writeItems, readFrom_mark rfl hcomma,
        hitem (.next (.array done :: outer)) hroom (endsWord_writeItems items rest)]
      exact hlater

theorem readFrom_field {place : Place} {key : String} {value : Json} {done : Fields}
    (h : Delivers room value) (hkey : place.text key = some (.colon done key outer))
    (hroom : room + (outer.length + 1) = maxDepth) (hrest : EndsWord rest) :
    readFrom ⟨.between, place⟩ (writeString key ++ ':' :: writeBefore value rest) =
      readFrom ⟨.between, .afterField ((key, value) :: done) outer⟩ rest := by
  have hcolon : (Place.colon done key outer).mark .colon =
      some (nextValue (.object done key :: outer)) := rfl
  rw [readFrom_writeString hkey, readFrom_mark rfl hcolon,
    h (.next (.object done key :: outer)) hroom hrest]
  rfl

/-- The fields after those that are done take the reader to the end of the object. -/
theorem readFrom_writeFields {fields done : Fields} (h : ∀ field ∈ fields, Delivers room field.2)
    (hroom : room + (outer.length + 1) = maxDepth) :
    readFrom ⟨.between, .afterField done outer⟩ (writeFields fields ('\x7d' :: rest)) =
      readFrom ⟨.between, deliver (ofMembers (done.reverse ++ fields)) outer⟩ rest := by
  induction fields generalizing done with
  | nil =>
      have hclose : (afterField done outer).mark .objectClose =
          some (deliver (ofMembers done.reverse) outer) := rfl
      rw [writeFields, readFrom_mark rfl hclose, List.append_nil]
  | cons field fields ih =>
      obtain ⟨key, value⟩ := field
      obtain ⟨hvalue, hfields⟩ := List.forall_mem_cons.mp h
      have hcomma : (afterField done outer).mark .comma = some (nextKey done outer) := rfl
      have hlater := @ih ((key, value) :: done) hfields
      rw [List.reverse_cons, List.append_assoc, List.singleton_append] at hlater
      rw [writeFields, readFrom_mark rfl hcomma,
        readFrom_field hvalue rfl hroom (endsWord_writeFields fields rest)]
      exact hlater

end Containers

theorem Fits.delivers {ok : Double → Prop} {room : Nat} {value : Json}
    (hok : ∀ x, ok x → (Json.number (.double x)).ReadsBack) (h : value.Fits ok room) :
    Delivers room value := by
  -- On what fits: the items and fields of a container are delivered into it with one less room, and
  -- the lemmas above string them together.
  induction h with
  | null =>
      intro place outer rest hplace _ hrest
      have hchars : ['n', 'u', 'l', 'l'].all continuesWord = true := rfl
      exact readFrom_word (List.cons_ne_nil _ _) (List.all_eq_true.mp hchars) rfl
        (hplace.scalar .null) hrest
  | @bool _ b =>
      intro place outer rest hplace _ hrest
      cases b with
      | true =>
          have hchars : ['t', 'r', 'u', 'e'].all continuesWord = true := rfl
          exact readFrom_word (List.cons_ne_nil _ _) (List.all_eq_true.mp hchars) rfl
            (hplace.scalar (.bool true)) hrest
      | false =>
          have hchars : ['f', 'a', 'l', 's', 'e'].all continuesWord = true := rfl
          exact readFrom_word (List.cons_ne_nil _ _) (List.all_eq_true.mp hchars) rfl
            (hplace.scalar (.bool false)) hrest
  | @number _ n hdouble =>
      intro place outer rest hplace _ hrest
      obtain ⟨hne, hword⟩ := ofWord?_writeNumber fun x hx => hok x (hdouble x hx)
      rw [writeBefore]
      exact readFrom_word hne (continuesWord_of_mem_writeNumber n) hword (hplace.scalar _) hrest
  | string =>
      intro place outer rest hplace _ _
      rw [writeBefore]
      exact readFrom_writeString (hplace.text _)
  | @array room items _ ih =>
      intro place outer rest hplace hroom _
      have hopen := hplace.arrayOpen (by omega)
      cases items with
      | nil =>
          have hclose : (firstItem outer).mark .arrayClose =
              some (deliver (.array []) outer) := rfl
          rw [writeBefore, readFrom_mark rfl hopen, readFrom_mark rfl hclose]
      | cons item items =>
          obtain ⟨hitem, hitems⟩ := List.forall_mem_cons.mp ih
          have hinside : room + (outer.length + 1) = maxDepth := by omega
          rw [writeBefore, readFrom_mark rfl hopen,
            hitem (.first outer) hinside (endsWord_writeItems items rest)]
          exact readFrom_writeItems hitems hinside
  | @object room fields hsorted _ ih =>
      intro place outer rest hplace hroom _
      have hopen := hplace.objectOpen (by omega)
      cases fields with
      | nil =>
          have hclose : (firstKey outer).mark .objectClose =
              some (deliver (.object []) outer) := rfl
          rw [writeBefore, readFrom_mark rfl hopen, readFrom_mark rfl hclose]
      | cons field fields =>
          obtain ⟨key, value⟩ := field
          obtain ⟨hvalue, hfields⟩ := List.forall_mem_cons.mp ih
          have hinside : room + (outer.length + 1) = maxDepth := by omega
          rw [writeBefore, readFrom_mark rfl hopen,
            readFrom_field hvalue rfl hinside (endsWord_writeFields fields rest),
            readFrom_writeFields hfields hinside]
          exact congrArg (readFrom ⟨.between, deliver · outer⟩ rest) (ofMembers_of_sorted hsorted)

/-- What fits into the reader's depth is read back from its text, if its doubles are. -/
theorem Fits.readsBack {ok : Double → Prop} {value : Json} (h : value.Fits ok maxDepth)
    (hok : ∀ x, ok x → (Json.number (.double x)).ReadsBack) : value.ReadsBack := by
  have hdelivered := h.delivers hok (.next []) rfl endsWord_nil
  rw [ReadsBack, read?, write, String.toList_ofList]
  exact hdelivered

end Json

end ControlStream

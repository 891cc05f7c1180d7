import ControlStream.Proofs.Base64.Canonical
import ControlStream.Proofs.Bytes.Utf8
import ControlStream.Proofs.Text.Decimal

/-!
# Why a text is no base64url

A text is refused for the first of four faults that it has: padding, a length that no bytes have, a
byte outside the alphabet, and unused bits of the last digit that are not zero. What each fault is
is said here over the bytes of the text, with no word about reading digits; a text that has none of
them is the form of some bytes. The reason that is given names the length, or the byte and where it
stands, in decimal.
-/

namespace ControlStream

namespace Base64

def valueOf? (byte : UInt8) : Option Nat :=
  let n := byte.toNat
  if 65 ≤ n ∧ n ≤ 90 then some (n - 65)
  else if 97 ≤ n ∧ n ≤ 122 then some (n - 71)
  else if 48 ≤ n ∧ n ≤ 57 then some (n + 4)
  else if n = 45 then some 62
  else if n = 95 then some 63
  else none

/-- The first byte outside the alphabet, and its offset. -/
inductive FirstForeign : List UInt8 → UInt8 → Nat → Prop where
  | here {byte : UInt8} {rest : List UInt8} (hbyte : valueOf? byte = none) :
      FirstForeign (byte :: rest) byte 0
  | later {first byte : UInt8} {rest : List UInt8} {offset : Nat}
      (hfirst : valueOf? first ≠ none) (hrest : FirstForeign rest byte offset) :
      FirstForeign (first :: rest) byte (offset + 1)

/-- The bits of a last digit that belong to no byte: four after one byte, two after two. -/
def HasUnusedBits (size value : Nat) : Prop :=
  size % 4 = 2 ∧ value % 16 ≠ 0 ∨ size % 4 = 3 ∧ value % 4 ≠ 0

/-- What is wrong with the bytes of a text that is not padded and has a possible length. -/
inductive DigitFault : List UInt8 → Malformed → Prop where
  | symbol {bytes : List UInt8} {byte : UInt8} {offset : Nat}
      (hforeign : FirstForeign bytes byte offset) : DigitFault bytes (.symbol byte.toNat offset)
  | lastSymbol {before : List UInt8} {last : UInt8} {value : Nat}
      (hbefore : ∀ byte ∈ before, valueOf? byte ≠ none) (hlast : valueOf? last = some value)
      (hunused : HasUnusedBits (before.length + 1) value) :
      DigitFault (before ++ [last]) (.lastSymbol last.toNat before.length)

/-- What is wrong with a text, in the order in which it counts. -/
inductive Fault (text : String) : Malformed → Prop where
  | padding (hpad : '=' ∈ text.toList) : Fault text .padding
  | length (hpad : '=' ∉ text.toList) (hsize : text.utf8ByteSize % 4 = 1) :
      Fault text (.length text.utf8ByteSize)
  | digits {cause : Malformed} (hpad : '=' ∉ text.toList) (hsize : text.utf8ByteSize % 4 ≠ 1)
      (hdigits : DigitFault (Utf8.encode text) cause) : Fault text cause

/-- The words of a reason: they name the length of the text, or a byte of it and its offset. -/
inductive Reason (text : String) : String → Prop where
  | padding (hpad : '=' ∈ text.toList) : Reason text "padding character in unpadded input"
  | length (hpad : '=' ∉ text.toList) (hsize : text.utf8ByteSize % 4 = 1) :
      Reason text ("length " ++ toString text.utf8ByteSize ++ " is not a valid unpadded length")
  | symbol {byte : UInt8} {offset : Nat} (hpad : '=' ∉ text.toList)
      (hsize : text.utf8ByteSize % 4 ≠ 1) (hforeign : FirstForeign (Utf8.encode text) byte offset) :
      Reason text
        ("Invalid symbol " ++ toString byte.toNat ++ ", offset " ++ toString offset ++ ".")
  | lastSymbol {before : List UInt8} {last : UInt8} {value : Nat} (hpad : '=' ∉ text.toList)
      (hbytes : Utf8.encode text = before ++ [last])
      (hbefore : ∀ byte ∈ before, valueOf? byte ≠ none) (hlast : valueOf? last = some value)
      (hunused : HasUnusedBits text.utf8ByteSize value) :
      Reason text
        ("Invalid last symbol " ++ toString last.toNat ++ ", offset " ++
          toString (text.utf8ByteSize - 1) ++ ".")

/-! ## Bytes of characters -/

theorem valueOf?_eq_none_of_le {byte : UInt8} (h : 0x80 ≤ byte.toNat) : valueOf? byte = none := by
  unfold valueOf?
  rw [if_neg (by omega), if_neg (by omega), if_neg (by omega), if_neg (by omega),
    if_neg (by omega)]

def symbolByte (digit : Fin 64) : UInt8 := (symbol digit).val.toUInt8

theorem encodeChar_symbol (digit : Fin 64) :
    String.utf8EncodeChar (symbol digit) = [symbolByte digit] :=
  String.utf8EncodeChar_eq_singleton (utf8Size_symbol digit)

theorem valueOf?_symbolByte (digit : Fin 64) : valueOf? (symbolByte digit) = some digit.val := by
  revert digit
  decide

theorem valueOf?_symbolByte_ne_none (digit : Fin 64) : valueOf? (symbolByte digit) ≠ none := by
  rw [valueOf?_symbolByte]
  exact Option.some_ne_none _

theorem leadByte_symbol (digit : Fin 64) : leadByte (symbol digit) = (symbolByte digit).toNat := by
  rw [leadByte, encodeChar_symbol]
  rfl

theorem flatMap_encodeChar_symbol (read : List (Fin 64)) :
    (read.map symbol).flatMap String.utf8EncodeChar = read.map symbolByte := by
  induction read with
  | nil => rfl
  | cons digit rest ih =>
      rw [List.map_cons, List.flatMap_cons, encodeChar_symbol, ih]
      rfl

/-- Among the characters of one byte those of the digits are the only ones of the alphabet. -/
theorem digit?_ofNat_of_valueOf? :
    ∀ n < 0x80, valueOf? (UInt8.ofNat n) = none ∨ (digit? (Char.ofNat n)).isSome := by
  decide

theorem lead_of_encodeChar {c : Char} (h : 0x80 ≤ c.toNat) :
    ∃ lead others, String.utf8EncodeChar c = lead :: others ∧ 0x80 ≤ lead.toNat := by
  have hsize : 0x80 ≤ c.val.toNat := h
  unfold String.utf8EncodeChar
  dsimp only
  split
  · omega
  · split
    · refine ⟨_, _, rfl, ?_⟩
      rw [UInt8.toNat_ofNat']
      omega
    · split
      · refine ⟨_, _, rfl, ?_⟩
        rw [UInt8.toNat_ofNat']
        omega
      · refine ⟨_, _, rfl, ?_⟩
        rw [UInt8.toNat_ofNat']
        omega

theorem foreign_of_digit?_eq_none {c : Char} (h : digit? c = none) :
    ∃ lead others, String.utf8EncodeChar c = lead :: others ∧ valueOf? lead = none := by
  by_cases hsize : 0x80 ≤ c.toNat
  · obtain ⟨lead, others, hbytes, hlead⟩ := lead_of_encodeChar hsize
    exact ⟨lead, others, hbytes, valueOf?_eq_none_of_le hlead⟩
  · have hvalue := digit?_ofNat_of_valueOf? c.toNat (by omega)
    have hone : String.utf8EncodeChar c = [UInt8.ofNat c.toNat] := by
      unfold String.utf8EncodeChar
      dsimp only
      exact if_pos (by change c.toNat ≤ 0x7F; omega)
    rw [Char.ofNat_toNat, h] at hvalue
    exact ⟨_, [], hone, hvalue.resolve_right nofun⟩

theorem digit_of_digit? {c : Char} {digit : Fin 64} (h : digit? c = some digit) :
    String.utf8EncodeChar c = [symbolByte digit] := by
  rw [← symbol_of_digit? h, encodeChar_symbol]

/-! ## The first foreign byte -/

theorem firstForeign_cons_of_eq_none {first byte : UInt8} {rest : List UInt8} {offset : Nat}
    (h : valueOf? first = none) :
    FirstForeign (first :: rest) byte offset ↔ byte = first ∧ offset = 0 := by
  constructor
  · intro hforeign
    cases hforeign with
    | here => exact ⟨rfl, rfl⟩
    | later hfirst => exact absurd h hfirst
  · rintro ⟨rfl, rfl⟩
    exact .here h

theorem firstForeign_cons_of_ne_none {first byte : UInt8} {rest : List UInt8} {offset : Nat}
    (h : valueOf? first ≠ none) :
    FirstForeign (first :: rest) byte offset ↔
      ∃ after, offset = after + 1 ∧ FirstForeign rest byte after := by
  constructor
  · intro hforeign
    cases hforeign with
    | here hbyte => exact absurd hbyte h
    | later _ hrest => exact ⟨_, rfl, hrest⟩
  · rintro ⟨after, rfl, hrest⟩
    exact .later h hrest

theorem FirstForeign.exists_mem {bytes : List UInt8} {byte : UInt8} {offset : Nat}
    (h : FirstForeign bytes byte offset) : byte ∈ bytes ∧ valueOf? byte = none := by
  induction h with
  | here hbyte => exact ⟨List.mem_cons_self, hbyte⟩
  | later _ _ ih => exact ⟨List.mem_cons_of_mem _ ih.1, ih.2⟩

/-- Reading stops at the first foreign byte. All bytes before it are characters of their own, so
that counting characters is counting bytes. -/
theorem readDigits_eq_error_iff {chars : List Char} {start : Nat} {cause : Malformed} :
    readDigits start chars = .error cause ↔
      ∃ byte offset, FirstForeign (chars.flatMap String.utf8EncodeChar) byte offset ∧
        cause = .symbol byte.toNat (start + offset) := by
  induction chars generalizing start with
  | nil =>
      constructor
      · intro h
        cases h
      · rintro ⟨byte, offset, hforeign, -⟩
        cases hforeign
  | cons c rest ih =>
      rw [readDigits, List.flatMap_cons]
      cases hdigit : digit? c with
      | none =>
          obtain ⟨lead, others, hbytes, hlead⟩ := foreign_of_digit?_eq_none hdigit
          have hbyte : leadByte c = lead.toNat := by
            rw [leadByte, hbytes]
            rfl
          simp only [hbytes, hbyte, List.cons_append, firstForeign_cons_of_eq_none hlead,
            Except.error.injEq]
          constructor
          · rintro rfl
            exact ⟨lead, 0, ⟨rfl, rfl⟩, rfl⟩
          · rintro ⟨_, _, ⟨rfl, rfl⟩, rfl⟩
            rfl
      | some digit =>
          have hvalue := valueOf?_symbolByte_ne_none digit
          have hrest : ∀ read : Except Malformed (List (Fin 64)),
              read.map (digit :: ·) = .error cause ↔ read = .error cause := by
            intro read
            cases read <;> simp [Except.map]
          simp only [digit_of_digit? hdigit, List.singleton_append,
            firstForeign_cons_of_ne_none hvalue, hrest, ih]
          constructor
          · rintro ⟨byte, offset, hforeign, rfl⟩
            exact ⟨byte, offset + 1, ⟨offset, rfl, hforeign⟩, by rw [Nat.add_assoc, Nat.add_comm 1]⟩
          · rintro ⟨byte, _, ⟨offset, rfl, hforeign⟩, rfl⟩
            exact ⟨byte, offset, hforeign, by rw [Nat.add_assoc, Nat.add_comm 1]⟩

/-! ## The last digit -/

/-- Digits make no bytes if one is left over, or if the last has unused bits. -/
theorem bytes?_eq_none_iff (read : List (Fin 64)) :
    bytes? read = none ↔
      read.length % 4 = 1 ∨ ∃ last ∈ read.getLast?, HasUnusedBits read.length last.val := by
  unfold HasUnusedBits
  fun_induction bytes? read with
  | case1 => simp
  | case2 => simp
  | case3 p q hq => simp [hq]
  | case4 p q hq => simp [hq]
  | case5 p q r hr => simp [hr]
  | case6 p q r hr => simp [hr]
  | case7 p q r s rest ih =>
      have hlength : (p :: q :: r :: s :: rest).length % 4 = rest.length % 4 := by
        simp only [List.length_cons]
        omega
      rw [Option.map_eq_none_iff, ih, hlength]
      cases rest with
      | nil => simp
      | cons first others => simp only [List.getLast?_cons_cons]

theorem valueOf?_ne_none_of_mem {read : List (Fin 64)} {byte : UInt8}
    (h : byte ∈ read.map symbolByte) : valueOf? byte ≠ none := by
  obtain ⟨digit, -, rfl⟩ := List.mem_map.mp h
  exact valueOf?_symbolByte_ne_none digit

theorem report_concat (front : List (Fin 64)) (last : Fin 64) :
    Malformed.lastSymbol (leadByte (((front ++ [last]).map symbol).getLastD 'A'))
        (((front ++ [last]).map symbol).length - 1) =
      .lastSymbol (symbolByte last).toNat (front.map symbolByte).length := by
  have hlast : ((front ++ [last]).map symbol).getLastD 'A' = symbol last := by simp
  rw [hlast, leadByte_symbol]
  simp

theorem digitFault_map_iff {read : List (Fin 64)} (hlength : read.length % 4 ≠ 1)
    {cause : Malformed} :
    DigitFault (read.map symbolByte) cause ↔
      bytes? read = none ∧
        cause = .lastSymbol (leadByte ((read.map symbol).getLastD 'A'))
          ((read.map symbol).length - 1) := by
  rw [bytes?_eq_none_iff, or_iff_right hlength]
  constructor
  · intro h
    generalize hbytes : read.map symbolByte = bytes at h
    cases h with
    | symbol hforeign =>
        subst hbytes
        obtain ⟨hmem, hnone⟩ := hforeign.exists_mem
        exact absurd hnone (valueOf?_ne_none_of_mem hmem)
    | lastSymbol hbefore hlast hunused =>
        obtain ⟨front, tail, rfl, rfl, htail⟩ := List.map_eq_append_iff.mp hbytes
        obtain ⟨digit, rfl, rfl⟩ := List.map_eq_singleton_iff.mp htail
        rw [valueOf?_symbolByte, Option.some.injEq] at hlast
        subst hlast
        refine ⟨⟨digit, by simp, ?_⟩, (report_concat front digit).symm⟩
        simpa using hunused
  · rintro ⟨⟨last, hlast, hunused⟩, rfl⟩
    obtain ⟨front, rfl⟩ := List.getLast?_eq_some_iff.mp hlast
    rw [report_concat, List.map_append]
    refine .lastSymbol (fun _ => valueOf?_ne_none_of_mem) (valueOf?_symbolByte last) ?_
    simpa using hunused

theorem readBytes_eq_error_iff {chars : List Char}
    (hsize : (chars.flatMap String.utf8EncodeChar).length % 4 ≠ 1) {cause : Malformed} :
    readBytes chars = .error cause ↔
      DigitFault (chars.flatMap String.utf8EncodeChar) cause := by
  unfold readBytes
  cases hread : readDigits 0 chars with
  | error found =>
      obtain ⟨byte, offset, hforeign, -⟩ := readDigits_eq_error_iff.mp hread
      have hsame : (Except.error found : Except Malformed (List UInt8)) = .error cause ↔
          readDigits 0 chars = .error cause := by
        rw [hread, Except.error.injEq, Except.error.injEq]
      change Except.error found = .error cause ↔ _
      rw [hsame, readDigits_eq_error_iff]
      constructor
      · rintro ⟨byte, offset, hfirst, rfl⟩
        rw [Nat.zero_add]
        exact .symbol hfirst
      · intro h
        generalize chars.flatMap String.utf8EncodeChar = bytes at h hforeign
        cases h with
        | symbol hfirst => exact ⟨_, _, hfirst, by rw [Nat.zero_add]⟩
        | lastSymbol hbefore hlast hunused =>
            -- With a foreign byte the bytes before the last are not all in the alphabet.
            obtain ⟨hmem, hnone⟩ := hforeign.exists_mem
            rcases List.mem_append.mp hmem with hmem | hmem
            · exact absurd hnone (hbefore byte hmem)
            · rw [List.mem_singleton.mp hmem, hlast] at hnone
              cases hnone
  | ok read =>
      have hchars := map_symbol_of_readDigits hread
      subst hchars
      rw [flatMap_encodeChar_symbol] at hsize ⊢
      rw [List.length_map] at hsize
      rw [digitFault_map_iff hsize]
      cases hbytes : bytes? read <;> simp [bind, Except.bind, hbytes, eq_comm]

/-! ## Texts -/

theorem decode_eq_error_iff (text : String) (cause : Malformed) :
    decode text = .error cause ↔ Fault text cause := by
  have hlength := Utf8.length_encode text
  rw [decode_eq]
  by_cases hpad : '=' ∈ text.toList
  · rw [if_pos hpad]
    constructor
    · intro h
      cases h
      exact .padding hpad
    · intro h
      cases h with
      | padding => rfl
      | length hnone => exact absurd hpad hnone
      | digits hnone => exact absurd hpad hnone
  · rw [if_neg hpad]
    by_cases hsize : text.utf8ByteSize % 4 = 1
    · rw [if_pos hsize]
      constructor
      · intro h
        cases h
        exact .length hpad hsize
      · intro h
        cases h with
        | padding hmem => exact absurd hmem hpad
        | length => rfl
        | digits _ hother => exact absurd hsize hother
    · rw [if_neg hsize, readBytes_eq_error_iff (hlength ▸ hsize)]
      constructor
      · exact .digits hpad hsize
      · intro h
        cases h with
        | padding hmem => exact absurd hmem hpad
        | length _ hother => exact absurd hother hsize
        | digits _ _ hdigits => exact hdigits

/-! ## Reasons -/

def Malformed.label : Malformed → String
  | .padding => "padding"
  | .length _ => "length "
  | .symbol .. => "Invalid symbol "
  | .lastSymbol .. => "Invalid last symbol "
  | .partialBlock => "Invalid padding"

theorem Malformed.label_prefix (cause : Malformed) :
    cause.label.toList <+: cause.message.toList := by
  have happend : ∀ label rest : String, label.toList <+: (label ++ rest).toList := by
    intro label rest
    rw [String.toList_append]
    exact List.prefix_append _ _
  cases cause with
  | padding => exact happend "padding" " character in unpadded input"
  | length size =>
      show _ <+: ("length " ++ toString size ++ " is not a valid unpadded length").toList
      rw [String.append_assoc]
      exact happend _ _
  | symbol byte offset =>
      show _ <+: ("Invalid symbol " ++ toString byte ++ ", offset " ++ toString offset ++
        ".").toList
      simp only [String.append_assoc]
      exact happend _ _
  | lastSymbol byte offset =>
      show _ <+: ("Invalid last symbol " ++ toString byte ++ ", offset " ++ toString offset ++
        ".").toList
      simp only [String.append_assoc]
      exact happend _ _
  | partialBlock => exact List.prefix_rfl

theorem byte_offset_inj (label : String) {byte byte' offset offset' : Nat}
    (h : label ++ toString byte ++ ", offset " ++ toString offset ++ "." =
      label ++ toString byte' ++ ", offset " ++ toString offset' ++ ".") :
    byte = byte' ∧ offset = offset' := by
  have hcomma : ∀ rest : String, (", offset " ++ rest).toList.head?.any Char.isDigit = false := by
    intro rest
    rw [String.toList_append]
    rfl
  simp only [String.append_assoc, String.append_right_inj] at h
  obtain ⟨hbyte, hrest⟩ := Text.toString_append_inj (hcomma _) (hcomma _) h
  have hoffset := (String.append_right_inj _).mp hrest
  exact ⟨hbyte, Text.toString_inj ((String.append_left_inj _).mp hoffset)⟩

/-- The numbers that a reason names can be read off it, and no two causes have the same words. -/
theorem Malformed.message_inj {cause cause' : Malformed} (h : cause.message = cause'.message) :
    cause = cause' := by
  have hlabel := List.prefix_or_prefix_of_prefix cause.label_prefix (h ▸ cause'.label_prefix)
  cases cause <;> cases cause'
  case padding.padding => rfl
  case length.length size size' =>
    change "length " ++ toString size ++ " is not a valid unpadded length" =
      "length " ++ toString size' ++ " is not a valid unpadded length" at h
    rw [String.append_left_inj, String.append_right_inj] at h
    rw [Text.toString_inj h]
  case symbol.symbol byte offset byte' offset' =>
    obtain ⟨hbyte, hoffset⟩ := byte_offset_inj "Invalid symbol " h
    rw [hbyte, hoffset]
  case lastSymbol.lastSymbol byte offset byte' offset' =>
    obtain ⟨hbyte, hoffset⟩ := byte_offset_inj "Invalid last symbol " h
    rw [hbyte, hoffset]
  case partialBlock.partialBlock => rfl
  all_goals
    simp only [label] at hlabel
    exact absurd hlabel (by decide)

theorem utf8ByteSize_eq_of_encode {text : String} {before : List UInt8} {last : UInt8}
    (h : Utf8.encode text = before ++ [last]) : text.utf8ByteSize = before.length + 1 := by
  rw [← Utf8.length_encode, h, List.length_append, List.length_singleton]

theorem HasUnusedBits.size_ne_one {size value : Nat} (h : HasUnusedBits size value) :
    size % 4 ≠ 1 := by
  unfold HasUnusedBits at h
  omega

theorem reason_iff {text reason : String} :
    Reason text reason ↔ ∃ cause, Fault text cause ∧ cause.message = reason := by
  constructor
  · intro h
    cases h with
    | padding hpad => exact ⟨_, .padding hpad, rfl⟩
    | length hpad hsize => exact ⟨_, .length hpad hsize, rfl⟩
    | symbol hpad hsize hforeign => exact ⟨_, .digits hpad hsize (.symbol hforeign), rfl⟩
    | @lastSymbol before last value hpad hbytes hbefore hlast hunused =>
        have hlength := utf8ByteSize_eq_of_encode hbytes
        have hsize := hunused.size_ne_one
        rw [hlength] at hunused
        refine ⟨.lastSymbol last.toNat before.length, .digits hpad hsize ?_, ?_⟩
        · rw [hbytes]
          exact .lastSymbol hbefore hlast hunused
        · rw [hlength, Nat.add_sub_cancel]
          rfl
  · intro ⟨cause, hfault, hreason⟩
    subst hreason
    cases hfault with
    | padding hpad => exact .padding hpad
    | length hpad hsize => exact .length hpad hsize
    | digits hpad hsize hdigits =>
        generalize hbytes : Utf8.encode text = bytes at hdigits
        cases hdigits with
        | symbol hforeign => exact .symbol hpad hsize (hbytes ▸ hforeign)
        | lastSymbol hbefore hlast hunused =>
            have hlength := utf8ByteSize_eq_of_encode hbytes
            rw [← hlength] at hunused
            have hreason := Reason.lastSymbol hpad hbytes hbefore hlast hunused
            rw [hlength, Nat.add_sub_cancel] at hreason
            exact hreason

end Base64

namespace Json

theorem bytesOfText_eq_error_iff {text : String} {error : DecodeError} :
    bytesOfText text = .error error ↔
      ∃ cause, error = .malformedEncoding cause ∧ Base64.Fault text cause := by
  simp only [← Base64.decode_eq_error_iff]
  unfold bytesOfText
  cases Base64.decode text with
  | error found => simp [eq_comm]
  | ok bytes => simp

theorem message_of_bytesOfText_iff {text reason : String} :
    (∃ error, bytesOfText text = .error error ∧
        error.message = "malformed encoding: " ++ reason) ↔ Base64.Reason text reason := by
  rw [Base64.reason_iff]
  constructor
  · intro ⟨error, herror, hmessage⟩
    obtain ⟨cause, rfl, hfault⟩ := bytesOfText_eq_error_iff.mp herror
    exact ⟨cause, hfault, (String.append_right_inj _).mp hmessage⟩
  · intro ⟨cause, hfault, hreason⟩
    refine ⟨.malformedEncoding cause, bytesOfText_eq_error_iff.mpr ⟨cause, rfl, hfault⟩, ?_⟩
    rw [← hreason]
    rfl

/-- A text is refused exactly when it is the form of no bytes, and the reason is the first fault
that it has. It is reported in words that name the length of the text, or the byte that is at fault
and its offset. Every text is the form of some bytes or has one of the faults. -/
theorem bytesOfText_refuses_faults (text : String) :
    ((∃ error, bytesOfText text = .error error) ↔ ∀ bytes, text ≠ Base64.encode bytes) ∧
      (∀ error, bytesOfText text = .error error ↔
        ∃ cause, error = .malformedEncoding cause ∧ Base64.Fault text cause) ∧
      (∀ reason, (∃ error, bytesOfText text = .error error ∧
          error.message = "malformed encoding: " ++ reason) ↔ Base64.Reason text reason) ∧
      ((∃ bytes, bytesOfText text = .ok bytes ∧ text = Base64.encode bytes) ∨
        ∃ cause, Base64.Fault text cause) := by
  refine ⟨?refused, fun _ => bytesOfText_eq_error_iff, fun _ => message_of_bytesOfText_iff,
    ?exhaustive⟩
  case refused =>
    constructor
    · rintro ⟨error, herror⟩ bytes rfl
      rw [bytesOfText_encode] at herror
      cases herror
    · intro hnone
      cases hread : bytesOfText text with
      | error error => exact ⟨error, rfl⟩
      | ok bytes => exact absurd (eq_encode_of_bytesOfText hread) (hnone bytes)
  case exhaustive =>
    cases hread : bytesOfText text with
    | error error =>
        obtain ⟨cause, -, hfault⟩ := bytesOfText_eq_error_iff.mp hread
        exact .inr ⟨cause, hfault⟩
    | ok bytes => exact .inl ⟨bytes, rfl, eq_encode_of_bytesOfText hread⟩

end Json

end ControlStream

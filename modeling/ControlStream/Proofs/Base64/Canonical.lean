import ControlStream.Leaf.Opaque

/-!
# Each byte sequence has one text

Reading accepts exactly the texts that writing produces. The padding that reading adds is
determined by the length and is taken off again before the digits are read, so that a text is read
as it stands; a text of digits is the form of the bytes that it is read as.
-/

namespace ControlStream

namespace Base64

/-! ## The padding that is added is taken off again -/

theorem missing_eq_iff (size : Nat) : missing size = blockSize - 1 ↔ size % 4 = 1 := by
  simp only [missing, blockSize]
  omega

theorem missing_le_two {size : Nat} (h : size % 4 ≠ 1) : missing size ≤ 2 := by
  simp only [missing, blockSize]
  omega

theorem add_missing_mod (size : Nat) : (size + missing size) % blockSize = 0 := by
  simp only [missing, blockSize]
  omega

theorem dropPadding_append_replicate {text : List Char} {count : Nat} (hpad : '=' ∉ text)
    (hcount : count ≤ 2) : dropPadding (text ++ List.replicate count '=') = text := by
  -- The first character from the end is no padding, or the text would hold some.
  have hrev : ∀ rest, text.reverse ≠ '=' :: rest := by
    intro rest h
    exact hpad (List.mem_reverse.mp (h ▸ List.mem_cons_self))
  match count, hcount with
  | 0, _ =>
      simp only [dropPadding, List.replicate_zero, List.append_nil]
      split
      · next h => exact absurd h (hrev _)
      · next h => exact absurd h (hrev _)
      · rfl
  | 1, _ =>
      have hone : (text ++ List.replicate 1 '=').reverse = '=' :: text.reverse := by simp
      simp only [dropPadding, hone]
      exact List.reverse_reverse text
  | 2, _ => simp [dropPadding, List.replicate]

theorem utf8ByteSize_replicate_padding (count : Nat) :
    (String.ofList (List.replicate count '=')).utf8ByteSize = count := by
  induction count with
  | zero => rfl
  | succ count ih =>
      rw [List.replicate_succ', String.ofList_append, String.utf8ByteSize_append, ih]
      rfl

theorem decodePadded_append_padding {text : String} (hpad : '=' ∉ text.toList)
    (hlen : text.utf8ByteSize % 4 ≠ 1) :
    decodePadded (text ++ String.ofList (List.replicate (missing text.utf8ByteSize) '=')) =
      readBytes text.toList := by
  unfold decodePadded
  rw [String.utf8ByteSize_append, utf8ByteSize_replicate_padding, if_pos (add_missing_mod _),
    String.toList_append, String.toList_ofList,
    dropPadding_append_replicate hpad (missing_le_two hlen)]

theorem decode_eq (text : String) :
    decode text =
      if '=' ∈ text.toList then .error .padding
      else if text.utf8ByteSize % 4 = 1 then .error (.length text.utf8ByteSize)
      else readBytes text.toList := by
  unfold decode
  by_cases hpad : '=' ∈ text.toList
  · simp [hpad]
  · by_cases hlen : text.utf8ByteSize % 4 = 1
    · simp [hpad, hlen, (missing_eq_iff _).mpr hlen]
    · have hshort := mt (missing_eq_iff _).mp hlen
      simp only [hpad, hlen, hshort, if_false]
      exact decodePadded_append_padding hpad hlen

/-! ## Written texts -/

/-- The characters of the alphabet `A-Z a-z 0-9 - _`. -/
def IsSymbol (c : Char) : Prop := c.isAlphanum = true ∨ c = '-' ∨ c = '_'

instance : DecidablePred IsSymbol :=
  fun c => inferInstanceAs (Decidable (c.isAlphanum = true ∨ c = '-' ∨ c = '_'))

theorem isSymbol_symbol (digit : Fin 64) : IsSymbol (symbol digit) := by
  revert digit
  decide

theorem utf8Size_symbol (digit : Fin 64) : (symbol digit).utf8Size = 1 := by
  revert digit
  decide

theorem isSymbol_of_mem_encode {bytes : List UInt8} {c : Char} (h : c ∈ (encode bytes).toList) :
    IsSymbol c := by
  rw [encode, String.toList_ofList] at h
  obtain ⟨digit, -, rfl⟩ := List.mem_map.mp h
  exact isSymbol_symbol digit

theorem padding_notMem_encode (bytes : List UInt8) : '=' ∉ (encode bytes).toList := by
  intro h
  exact absurd (isSymbol_of_mem_encode h) (by decide)

/-- A colon after an encoded text is the first colon of all. -/
theorem colon_notMem_encode (bytes : List UInt8) : ':' ∉ (encode bytes).toList := by
  intro h
  exact absurd (isSymbol_of_mem_encode h) (by decide)

theorem utf8ByteSize_map_symbol (read : List (Fin 64)) :
    (String.ofList (read.map symbol)).utf8ByteSize = read.length := by
  induction read with
  | nil => rfl
  | cons digit rest ih =>
      rw [List.map_cons, ← List.singleton_append, String.ofList_append,
        String.utf8ByteSize_append, ih, ← String.singleton_eq_ofList,
        String.utf8ByteSize_singleton, utf8Size_symbol, List.length_cons, Nat.add_comm]

/-- Four digits for three bytes, and one digit more than the bytes of a last block. -/
theorem length_digits (bytes : List UInt8) :
    (digits bytes).length = (4 * bytes.length + 2) / 3 := by
  fun_induction digits bytes with
  | case1 => rfl
  | case2 a => simp
  | case3 a b => simp
  | case4 a b c rest ih =>
      simp only [List.length_cons, ih]
      omega

theorem utf8ByteSize_encode_mod (bytes : List UInt8) : (encode bytes).utf8ByteSize % 4 ≠ 1 := by
  rw [encode, utf8ByteSize_map_symbol, length_digits]
  omega

/-! ## Reading and writing -/

theorem readBytes_eq_ok_iff (text : List Char) (bytes : List UInt8) :
    readBytes text = .ok bytes ↔ text = (digits bytes).map symbol := by
  constructor
  · intro h
    unfold readBytes at h
    cases hread : readDigits 0 text with
    | error cause => simp [hread, bind, Except.bind] at h
    | ok read =>
        cases hbytes : bytes? read with
        | none => simp [hread, hbytes, bind, Except.bind] at h
        | some found =>
            simp only [hread, hbytes, bind, Except.bind, Except.ok.injEq] at h
            subst h
            rw [digits_of_bytes? hbytes, map_symbol_of_readDigits hread]
  · intro h
    simp [readBytes, h, readDigits_map_symbol, bytes?_digits, bind, Except.bind]

theorem decode_encode (bytes : List UInt8) : decode (encode bytes) = .ok bytes := by
  rw [decode_eq, if_neg (padding_notMem_encode bytes), if_neg (utf8ByteSize_encode_mod bytes),
    readBytes_eq_ok_iff]
  exact String.toList_ofList

theorem eq_encode_of_decode {text : String} {bytes : List UInt8} (h : decode text = .ok bytes) :
    text = encode bytes := by
  rw [decode_eq] at h
  split at h
  · cases h
  · split at h
    · cases h
    · rw [encode, ← (readBytes_eq_ok_iff _ _).mp h, String.ofList_toList]

end Base64

namespace Json

theorem bytesOfText_encode (bytes : List UInt8) :
    bytesOfText (Base64.encode bytes) = .ok bytes := by
  simp [bytesOfText, Base64.decode_encode]

theorem eq_encode_of_bytesOfText {text : String} {bytes : List UInt8}
    (h : bytesOfText text = .ok bytes) : text = Base64.encode bytes := by
  unfold bytesOfText at h
  split at h
  · next found hfound =>
      cases h
      exact Base64.eq_encode_of_decode hfound
  · cases h

end Json

namespace Opaque

variable {role : OpaqueRole}

theorem bytes_ofBytes (bytes : List UInt8) : (ofBytes bytes : Opaque role).bytes = .ok bytes :=
  Json.bytesOfText_encode bytes

theorem eq_ofBytes_of_bytes {value : Opaque role} {bytes : List UInt8}
    (h : value.bytes = .ok bytes) : value = ofBytes bytes := by
  cases value
  simp only [ofBytes, Opaque.mk.injEq]
  exact Json.eq_encode_of_bytesOfText h

/-- A text is read as some bytes exactly when writing the bytes gives the text. So writing undoes
reading wherever reading succeeds, reading undoes writing everywhere, and neither two texts nor two
opaque values of a role stand for the same bytes. -/
theorem bytes_eq_ok_iff (bytes : List UInt8) :
    (∀ text, Json.bytesOfText text = .ok bytes ↔ text = Base64.encode bytes) ∧
      (∀ value : Opaque role, value.bytes = .ok bytes ↔ value = ofBytes bytes) ∧
      (∀ text other, Json.bytesOfText text = .ok bytes →
        Json.bytesOfText other = .ok bytes → text = other) ∧
      ∀ value other : Opaque role, value.bytes = .ok bytes → other.bytes = .ok bytes →
        value = other := by
  refine ⟨fun text => ⟨Json.eq_encode_of_bytesOfText, ?_⟩, fun value => ⟨eq_ofBytes_of_bytes, ?_⟩,
    ?_, ?_⟩
  · rintro rfl
    exact Json.bytesOfText_encode bytes
  · rintro rfl
    exact bytes_ofBytes bytes
  · intro text other htext hother
    rw [Json.eq_encode_of_bytesOfText htext, Json.eq_encode_of_bytesOfText hother]
  · intro value other hvalue hother
    rw [eq_ofBytes_of_bytes hvalue, eq_ofBytes_of_bytes hother]

end Opaque

end ControlStream

import ControlStream.Proofs.Bytes.Utf8

/-!
# Which bytes are text

The machine reads exactly the encodings of texts. Where it meets a fault, it tells the length of
the longest beginning that is one. Both are said of encodings, without the machine.
-/

namespace ControlStream

namespace Utf8

def IsText (bytes : List UInt8) : Prop := ∃ text : String, bytes = encode text

/-- The longest beginning of bytes that encodes a text is so long. -/
structure IsLongestText (length : Nat) (bytes : List UInt8) : Prop where
  within : length ≤ bytes.length
  isText : IsText (bytes.take length)
  longest : ∀ start, start <+: bytes → IsText start → start.length ≤ length

theorem isText_flatMap_encodeChar (chars : List Char) :
    IsText (chars.flatMap String.utf8EncodeChar) :=
  ⟨String.ofList chars, by rw [encode, String.toList_ofList]⟩

theorem isText_nil : IsText [] := isText_flatMap_encodeChar []

theorem isText_encodeChar (c : Char) : IsText (String.utf8EncodeChar c) := by
  simpa using isText_flatMap_encodeChar [c]

theorem IsText.append {front rest : List UInt8} (hfront : IsText front) (hrest : IsText rest) :
    IsText (front ++ rest) := by
  obtain ⟨text, rfl⟩ := hfront
  obtain ⟨text', rfl⟩ := hrest
  exact ⟨text ++ text', by simp [encode]⟩

/-! ## Characters in the bytes -/

/-- The machine stops, with the place where the character under way, or the next one, starts. -/
def Stuck (pending : Option Pending) (bytes : List UInt8) : Prop :=
  ∀ index done, ∃ cause, decodeFrom index done pending bytes = .error cause ∧ cause.index = index

section Stuck

variable {pending owing : Pending} {byte : UInt8} {rest : List UInt8}

theorem Stuck.lead (hbyte : ¬byte.toNat < 0x80) (hlead : lead? byte.toNat = some pending)
    (h : Stuck (some pending) rest) : Stuck none (byte :: rest) := by
  intro index done
  rw [decodeFrom, if_neg hbyte, hlead]
  exact h index done

theorem Stuck.more (hbyte : pending.low ≤ byte.toNat ∧ byte.toNat ≤ pending.high)
    (htake : pending.take byte.toNat = .inr owing) (h : Stuck (some owing) rest) :
    Stuck (some pending) (byte :: rest) := by
  intro index done
  rw [decodeFrom, if_pos hbyte, htake]
  exact h index done

theorem stuck_of_lead?_eq_none (hbyte : ¬byte.toNat < 0x80) (hlead : lead? byte.toNat = none) :
    Stuck none (byte :: rest) := by
  intro index done
  rw [decodeFrom, if_neg hbyte, hlead]
  exact ⟨_, rfl, rfl⟩

theorem stuck_or_next (code seen owed low high : Nat) (bytes : List UInt8) :
    Stuck (some ⟨code, seen, owed, low, high⟩) bytes ∨
      ∃ byte rest, bytes = byte :: rest ∧ low ≤ byte.toNat ∧ byte.toNat ≤ high := by
  cases bytes with
  | nil => exact .inl fun index done => ⟨.incomplete index, by rw [decodeFrom], rfl⟩
  | cons byte rest =>
      by_cases hbyte : low ≤ byte.toNat ∧ byte.toNat ≤ high
      · exact .inr ⟨byte, rest, rfl, hbyte⟩
      · refine .inl fun index done => ⟨.sequence seen index, ?_, rfl⟩
        rw [decodeFrom, if_neg hbyte]

end Stuck

/-- What a first byte promises: the bits that it holds, and bounds on the second byte that leave
the code points of this length. -/
theorem lead?_cases {byte : Nat} {pending : Pending} (h : lead? byte = some pending) :
    (∃ code, pending = ⟨code, 1, 1, 0x80, 0xBF⟩ ∧ byte = code + 0xC0 ∧ 2 ≤ code ∧ code < 32) ∨
      (∃ code low high, pending = ⟨code, 1, 2, low, high⟩ ∧ byte = code + 0xE0 ∧ code < 16 ∧
        0x80 ≤ low ∧ high ≤ 0xBF ∧ (code = 0 → 0xA0 ≤ low) ∧ (code = 0xD → high ≤ 0x9F)) ∨
      ∃ code low high, pending = ⟨code, 1, 3, low, high⟩ ∧ byte = code + 0xF0 ∧ code ≤ 4 ∧
        0x80 ≤ low ∧ high ≤ 0xBF ∧ (code = 0 → 0x90 ≤ low) ∧ (code = 4 → high ≤ 0x8F) := by
  unfold lead? at h
  split at h
  · cases h
  split at h
  · obtain rfl := Option.some.inj h
    exact .inl ⟨_, rfl, by omega, by omega, by omega⟩
  split at h
  · obtain rfl := Option.some.inj h
    exact .inr (.inl ⟨_, _, _, rfl, by omega, by omega, by omega, by omega, by omega, by omega⟩)
  split at h
  · obtain rfl := Option.some.inj h
    exact .inr (.inl ⟨_, _, _, rfl, by omega, by omega, by omega, by omega, by omega, by omega⟩)
  split at h
  · obtain rfl := Option.some.inj h
    exact .inr (.inl ⟨_, _, _, rfl, by omega, by omega, by omega, by omega, by omega, by omega⟩)
  split at h
  · obtain rfl := Option.some.inj h
    exact .inr (.inr ⟨_, _, _, rfl, by omega, by omega, by omega, by omega, by omega, by omega⟩)
  split at h
  · obtain rfl := Option.some.inj h
    exact .inr (.inr ⟨_, _, _, rfl, by omega, by omega, by omega, by omega, by omega, by omega⟩)
  split at h
  · obtain rfl := Option.some.inj h
    exact .inr (.inr ⟨_, _, _, rfl, by omega, by omega, by omega, by omega, by omega, by omega⟩)
  · cases h

theorem toNat_val_ofNat (v : Nat) (h : v < 0xD800 ∨ 0xDFFF < v ∧ v < 0x110000) :
    (Char.ofNat v).val.toNat = v := by
  rw [Char.ofNat, dif_pos h]
  rfl

theorem ofNat_eq_of_toNat (byte : UInt8) {n : Nat} (h : n = byte.toNat) : UInt8.ofNat n = byte := by
  rw [h, UInt8.ofNat_toNat]

section EncodeChar

variable {b₀ b₁ b₂ b₃ : UInt8} {code : Nat}

theorem exists_encodeChar_one (h : b₀.toNat < 0x80) : ∃ c, String.utf8EncodeChar c = [b₀] := by
  refine ⟨Char.ofNat b₀.toNat, ?_⟩
  unfold String.utf8EncodeChar
  simp only [toNat_val_ofNat b₀.toNat (by omega)]
  rw [if_pos (by omega), ofNat_eq_of_toNat b₀ rfl]

theorem exists_encodeChar_two (h₀ : b₀.toNat = code + 0xC0) (hlow : 2 ≤ code) (hhigh : code < 32)
    (h₁ : 0x80 ≤ b₁.toNat ∧ b₁.toNat ≤ 0xBF) : ∃ c, String.utf8EncodeChar c = [b₀, b₁] := by
  let v := code * 64 + (b₁.toNat - 0x80)
  refine ⟨Char.ofNat v, ?_⟩
  have hv : v = code * 64 + (b₁.toNat - 0x80) := rfl
  unfold String.utf8EncodeChar
  simp only [toNat_val_ofNat v (by omega)]
  rw [if_neg (by omega), if_pos (by omega), ofNat_eq_of_toNat b₀ (by omega),
    ofNat_eq_of_toNat b₁ (by omega)]

theorem exists_encodeChar_three (h₀ : b₀.toNat = code + 0xE0) (hcode : code < 16)
    (h₁ : 0x80 ≤ b₁.toNat ∧ b₁.toNat ≤ 0xBF) (hzero : code = 0 → 0xA0 ≤ b₁.toNat)
    (hlast : code = 0xD → b₁.toNat ≤ 0x9F) (h₂ : 0x80 ≤ b₂.toNat ∧ b₂.toNat ≤ 0xBF) :
    ∃ c, String.utf8EncodeChar c = [b₀, b₁, b₂] := by
  let v := (code * 64 + (b₁.toNat - 0x80)) * 64 + (b₂.toNat - 0x80)
  refine ⟨Char.ofNat v, ?_⟩
  have hv : v = (code * 64 + (b₁.toNat - 0x80)) * 64 + (b₂.toNat - 0x80) := rfl
  have hsmall : 0x7FF < v := by
    by_cases h : code = 0
    · have := hzero h
      omega
    · omega
  have hscalar : v < 0xD800 ∨ 0xDFFF < v := by
    by_cases h : code = 0xD
    · have := hlast h
      omega
    · omega
  unfold String.utf8EncodeChar
  simp only [toNat_val_ofNat v (by omega)]
  rw [if_neg (by omega), if_neg (by omega), if_pos (by omega),
    ofNat_eq_of_toNat b₀ (by omega), ofNat_eq_of_toNat b₁ (by omega),
    ofNat_eq_of_toNat b₂ (by omega)]

theorem exists_encodeChar_four (h₀ : b₀.toNat = code + 0xF0) (hcode : code ≤ 4)
    (h₁ : 0x80 ≤ b₁.toNat ∧ b₁.toNat ≤ 0xBF) (hzero : code = 0 → 0x90 ≤ b₁.toNat)
    (hlast : code = 4 → b₁.toNat ≤ 0x8F) (h₂ : 0x80 ≤ b₂.toNat ∧ b₂.toNat ≤ 0xBF)
    (h₃ : 0x80 ≤ b₃.toNat ∧ b₃.toNat ≤ 0xBF) :
    ∃ c, String.utf8EncodeChar c = [b₀, b₁, b₂, b₃] := by
  let v := ((code * 64 + (b₁.toNat - 0x80)) * 64 + (b₂.toNat - 0x80)) * 64 + (b₃.toNat - 0x80)
  refine ⟨Char.ofNat v, ?_⟩
  have hv : v = ((code * 64 + (b₁.toNat - 0x80)) * 64 + (b₂.toNat - 0x80)) * 64 +
      (b₃.toNat - 0x80) := rfl
  have hsmall : 0xFFFF < v := by
    by_cases h : code = 0
    · have := hzero h
      omega
    · omega
  have hscalar : v < 0x110000 := by
    by_cases h : code = 4
    · have := hlast h
      omega
    · omega
  unfold String.utf8EncodeChar
  simp only [toNat_val_ofNat v (by omega)]
  rw [if_neg (by omega), if_neg (by omega), if_neg (by omega),
    ofNat_eq_of_toNat b₀ (by omega), ofNat_eq_of_toNat b₁ (by omega),
    ofNat_eq_of_toNat b₂ (by omega), ofNat_eq_of_toNat b₃ (by omega)]

end EncodeChar

theorem exists_char_or_stuck {bytes : List UInt8} (hne : bytes ≠ []) :
    (∃ c rest, bytes = String.utf8EncodeChar c ++ rest) ∨ Stuck none bytes := by
  obtain ⟨b₀, rest, rfl⟩ := List.exists_cons_of_ne_nil hne
  by_cases hsingle : b₀.toNat < 0x80
  · obtain ⟨c, hc⟩ := exists_encodeChar_one hsingle
    exact .inl ⟨c, rest, by rw [hc, List.singleton_append]⟩
  cases hlead : lead? b₀.toNat with
  | none => exact .inr (stuck_of_lead?_eq_none hsingle hlead)
  | some pending =>
      rcases lead?_cases hlead with ⟨code, rfl, h₀, hlow, hhigh⟩ |
        ⟨code, low, high, rfl, h₀, hcode, hlow, hhigh, hzero, hlast⟩ |
        ⟨code, low, high, rfl, h₀, hcode, hlow, hhigh, hzero, hlast⟩
      · rcases stuck_or_next code 1 1 0x80 0xBF rest with hstuck | ⟨b₁, rest, rfl, h₁⟩
        · exact .inr (.lead hsingle hlead hstuck)
        · obtain ⟨c, hc⟩ := exists_encodeChar_two h₀ hlow hhigh h₁
          exact .inl ⟨c, rest, by rw [hc]; rfl⟩
      · rcases stuck_or_next code 1 2 low high rest with hstuck | ⟨b₁, rest, rfl, h₁⟩
        · exact .inr (.lead hsingle hlead hstuck)
        have hmore : 0x80 ≤ b₁.toNat ∧ b₁.toNat ≤ 0xBF := by omega
        rcases stuck_or_next (code * 64 + (b₁.toNat - 0x80)) 2 1 0x80 0xBF rest with
          hstuck | ⟨b₂, rest, rfl, h₂⟩
        · exact .inr (.lead hsingle hlead (.more h₁ rfl hstuck))
        · obtain ⟨c, hc⟩ := exists_encodeChar_three h₀ hcode hmore (by omega) (by omega) h₂
          exact .inl ⟨c, rest, by rw [hc]; rfl⟩
      · rcases stuck_or_next code 1 3 low high rest with hstuck | ⟨b₁, rest, rfl, h₁⟩
        · exact .inr (.lead hsingle hlead hstuck)
        have hmore : 0x80 ≤ b₁.toNat ∧ b₁.toNat ≤ 0xBF := by omega
        rcases stuck_or_next (code * 64 + (b₁.toNat - 0x80)) 2 2 0x80 0xBF rest with
          hstuck | ⟨b₂, rest, rfl, h₂⟩
        · exact .inr (.lead hsingle hlead (.more h₁ rfl hstuck))
        rcases stuck_or_next ((code * 64 + (b₁.toNat - 0x80)) * 64 + (b₂.toNat - 0x80)) 3 1 0x80
          0xBF rest with hstuck | ⟨b₃, rest, rfl, h₃⟩
        · exact .inr (.lead hsingle hlead (.more h₁ rfl (.more h₂ rfl hstuck)))
        · obtain ⟨c, hc⟩ := exists_encodeChar_four h₀ hcode hmore (by omega) (by omega) h₂ h₃
          exact .inl ⟨c, rest, by rw [hc]; rfl⟩

/-- Induction along the characters that bytes begin with, up to the end or a place where the
machine is stuck. -/
@[elab_as_elim]
theorem char_induction {motive : List UInt8 → Prop} (nil : motive [])
    (char : ∀ c rest, motive rest → motive (String.utf8EncodeChar c ++ rest))
    (stuck : ∀ bytes, Stuck none bytes → motive bytes) (bytes : List UInt8) : motive bytes := by
  induction hlength : bytes.length using Nat.strongRecOn generalizing bytes with
  | ind length ih =>
      by_cases hne : bytes = []
      · exact hne ▸ nil
      · rcases exists_char_or_stuck hne with ⟨c, rest, rfl⟩ | hstuck
        · have hpos : 0 < (String.utf8EncodeChar c).length := by
            rw [String.length_utf8EncodeChar]
            exact Char.utf8Size_pos c
          rw [List.length_append] at hlength
          exact char c rest (ih rest.length (by omega) rest rfl)
        · exact stuck bytes hstuck

/-! ## What is read, and the place of a fault -/

variable {index : Nat} {done chars : List Char} {bytes front rest : List UInt8}
  {cause : Malformed}

theorem exists_eq_of_decodeFrom_eq_ok (h : decodeFrom index done none bytes = .ok chars) :
    ∃ read, chars = done.reverse ++ read ∧ bytes = read.flatMap String.utf8EncodeChar := by
  induction bytes using char_induction generalizing index done with
  | nil =>
      rw [decodeFrom] at h
      exact ⟨[], by rw [List.append_nil]; exact (Except.ok.inj h).symm, rfl⟩
  | char c rest ih =>
      rw [decodeFrom_encodeChar] at h
      obtain ⟨read, rfl, rfl⟩ := ih h
      exact ⟨c :: read, by simp, rfl⟩
  | stuck bytes hstuck =>
      obtain ⟨cause, herror, -⟩ := hstuck index done
      rw [herror] at h
      cases h

theorem decode_eq_ok_iff : decode bytes = .ok chars ↔ bytes = encode (String.ofList chars) := by
  constructor
  · intro h
    obtain ⟨read, rfl, rfl⟩ := exists_eq_of_decodeFrom_eq_ok h
    simp [encode]
  · rintro rfl
    rw [decode_encode, String.toList_ofList]

theorem isText_iff : IsText bytes ↔ ∃ chars, decode bytes = .ok chars := by
  constructor
  · rintro ⟨text, rfl⟩
    exact ⟨_, decode_encode text⟩
  · rintro ⟨chars, h⟩
    exact ⟨_, decode_eq_ok_iff.mp h⟩

theorem not_isText_iff : ¬IsText bytes ↔ ∃ cause, decode bytes = .error cause := by
  rw [isText_iff]
  cases decode bytes <;> simp

theorem decode_append {chars' : List Char} (hfront : decode front = .ok chars)
    (hrest : decode rest = .ok chars') : decode (front ++ rest) = .ok (chars ++ chars') := by
  rw [decode_eq_ok_iff] at hfront hrest ⊢
  simp [hfront, hrest, encode]

theorem IsText.of_append (hfront : IsText front) (h : IsText (front ++ rest)) : IsText rest := by
  obtain ⟨text, rfl⟩ := hfront
  obtain ⟨chars, h⟩ := isText_iff.mp h
  rw [decode, encode, decodeFrom_flatMap_encodeChar_append] at h
  obtain ⟨read, -, rfl⟩ := exists_eq_of_decodeFrom_eq_ok h
  exact isText_flatMap_encodeChar read

theorem prefix_append_cases {start : List UInt8} (h : start <+: front ++ rest) :
    start <+: front ∨ ∃ later, start = front ++ later ∧ later <+: rest := by
  rcases List.prefix_or_prefix_of_prefix h (List.prefix_append front rest) with
    hshort | ⟨later, rfl⟩
  · exact .inl hshort
  · exact .inr ⟨later, rfl, (List.prefix_append_right_inj front).mp h⟩

theorem IsLongestText.append {length : Nat} (hfront : IsText front)
    (h : IsLongestText length rest) : IsLongestText (front.length + length) (front ++ rest) where
  within := by
    rw [List.length_append]
    exact Nat.add_le_add_left h.within _
  isText := by
    rw [List.take_length_add_append]
    exact hfront.append h.isText
  longest := by
    intro start hstart htext
    rcases prefix_append_cases hstart with hshort | ⟨later, rfl, hlater⟩
    · exact Nat.le_trans hshort.length_le (Nat.le_add_right _ _)
    · rw [List.length_append]
      exact Nat.add_le_add_left (h.longest later hlater (hfront.of_append htext)) _

theorem le_index_of_decodeFrom_eq_error (h : decodeFrom index done none bytes = .error cause) :
    index ≤ cause.index := by
  induction bytes using char_induction generalizing index done with
  | nil =>
      rw [decodeFrom] at h
      cases h
  | char c rest ih =>
      rw [decodeFrom_encodeChar] at h
      exact Nat.le_trans (Nat.le_add_right _ _) (ih h)
  | stuck bytes hstuck =>
      obtain ⟨found, herror, hindex⟩ := hstuck index done
      rw [herror] at h
      cases h
      exact Nat.le_of_eq hindex.symm

theorem Stuck.isLongestText (h : Stuck none bytes) : IsLongestText 0 bytes where
  within := Nat.zero_le _
  isText := isText_nil
  longest := by
    rintro start ⟨rest, rfl⟩ ⟨text, rfl⟩
    obtain ⟨cause, herror, hindex⟩ := h 0 []
    rw [encode, decodeFrom_flatMap_encodeChar_append] at herror
    have hle := le_index_of_decodeFrom_eq_error herror
    rw [hindex, Nat.zero_add] at hle
    exact hle

theorem exists_isLongestText_of_decodeFrom (h : decodeFrom index done none bytes = .error cause) :
    ∃ length, cause.index = index + length ∧ IsLongestText length bytes := by
  induction bytes using char_induction generalizing index done with
  | nil =>
      rw [decodeFrom] at h
      cases h
  | char c rest ih =>
      rw [decodeFrom_encodeChar] at h
      obtain ⟨length, hindex, hlongest⟩ := ih h
      exact ⟨_, by rw [hindex, Nat.add_assoc], hlongest.append (isText_encodeChar c)⟩
  | stuck bytes hstuck =>
      obtain ⟨found, herror, hindex⟩ := hstuck index done
      rw [herror] at h
      cases h
      exact ⟨0, hindex, hstuck.isLongestText⟩

/-- A fault is told with the length of the longest beginning that is text. -/
theorem isLongestText_of_decode_eq_error (h : decode bytes = .error cause) :
    IsLongestText cause.index bytes := by
  obtain ⟨length, hindex, hlongest⟩ := exists_isLongestText_of_decodeFrom h
  rwa [hindex, Nat.zero_add]

/-! ## Cuts in front of bytes below 0x80 -/

/-- A byte below 0x80 is a character of its own. -/
theorem encodeChar_eq_of_mem {c : Char} {byte : UInt8} (hmem : byte ∈ String.utf8EncodeChar c)
    (hbyte : byte.toNat < 0x80) : String.utf8EncodeChar c = [byte] := by
  have hlarge : ∀ n, 0x80 ≤ n → n < 0x100 → byte ≠ UInt8.ofNat n := by
    rintro n hlow hhigh rfl
    rw [toNat_ofNat_of_lt hhigh] at hbyte
    omega
  unfold String.utf8EncodeChar at hmem ⊢
  dsimp only at hmem ⊢
  split at hmem
  · next hone => rw [if_pos hone, List.mem_singleton.mp hmem]
  split at hmem
  · rw [List.mem_cons, List.mem_singleton] at hmem
    rcases hmem with h | h <;> exact absurd h (hlarge _ (by omega) (by omega))
  split at hmem
  · rw [List.mem_cons, List.mem_cons, List.mem_singleton] at hmem
    rcases hmem with h | h | h <;> exact absurd h (hlarge _ (by omega) (by omega))
  · rw [List.mem_cons, List.mem_cons, List.mem_cons, List.mem_singleton] at hmem
    rcases hmem with h | h | h | h <;> exact absurd h (hlarge _ (by omega) (by omega))

theorem IsText.of_append_cons {byte : UInt8} (hbyte : byte.toNat < 0x80)
    (h : IsText (front ++ byte :: rest)) : IsText front := by
  obtain ⟨text, h⟩ := h
  rw [encode] at h
  generalize text.toList = chars at h
  induction chars generalizing front with
  | nil => simp at h
  | cons c chars ih =>
      rw [List.flatMap_cons] at h
      rcases List.append_eq_append_iff.mp h.symm with ⟨later, rfl, hlater⟩ | ⟨later, hc, hlater⟩
      · exact (isText_encodeChar c).append (ih hlater.symm)
      · rcases List.cons_eq_append_iff.mp hlater with ⟨rfl, -⟩ | ⟨tail, rfl, -⟩
        · rw [List.append_nil] at hc
          exact hc ▸ isText_encodeChar c
        · -- The byte is in the middle of a character, which therefore has no other byte.
          have hmem : byte ∈ String.utf8EncodeChar c := by simp [hc]
          have hlength := congrArg List.length (hc.symm.trans (encodeChar_eq_of_mem hmem hbyte))
          have hempty : front = [] := by
            rw [List.length_append, List.length_cons, List.length_singleton] at hlength
            exact List.eq_nil_of_length_eq_zero (by omega)
          exact hempty ▸ isText_nil

theorem IsText.of_append_ascii (hascii : ∀ byte ∈ rest, byte.toNat < 0x80)
    (h : IsText (front ++ rest)) : IsText front := by
  cases rest with
  | nil => rwa [List.append_nil] at h
  | cons byte rest => exact h.of_append_cons (hascii byte List.mem_cons_self)

end Utf8

end ControlStream

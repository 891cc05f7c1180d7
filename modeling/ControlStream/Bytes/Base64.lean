/-!
# Unpadded base64url

Bytes are regrouped, most significant bit first, into six-bit digits, and a digit is written as
one character of `A-Z a-z 0-9 - _`. No padding is written or accepted; to be read, a text gets the
padding that its length implies and is decoded as padded base64url, which refuses a last digit
whose unused bits are not zero.
-/

namespace ControlStream

namespace Base64

/-- Why a text is no unpadded base64url. Offsets and lengths count UTF-8 bytes. -/
inductive Malformed where
  | padding
  | length (size : Nat)
  | symbol (byte offset : Nat)
  | lastSymbol (byte offset : Nat)
  | partialBlock
  deriving DecidableEq, Repr

def Malformed.message : Malformed → String
  | .padding => "padding character in unpadded input"
  | .length size => s!"length {size} is not a valid unpadded length"
  | .symbol byte offset => s!"Invalid symbol {byte}, offset {offset}."
  | .lastSymbol byte offset => s!"Invalid last symbol {byte}, offset {offset}."
  | .partialBlock => "Invalid padding"

def symbol (digit : Fin 64) : Char :=
  if digit.val < 26 then Char.ofNat (65 + digit.val)
  else if digit.val < 52 then Char.ofNat (71 + digit.val)
  else if digit.val < 62 then Char.ofNat (digit.val - 4)
  else if digit.val = 62 then '-'
  else '_'

def digit? (c : Char) : Option (Fin 64) :=
  (List.finRange 64).find? fun digit => symbol digit == c

theorem symbol_of_digit? {c : Char} {digit : Fin 64} (h : digit? c = some digit) :
    symbol digit = c := by
  simpa using List.find?_some h

theorem digit?_symbol (digit : Fin 64) : digit? (symbol digit) = some digit := by
  revert digit
  decide

/-- Three bytes make four digits; a last one or two bytes make two or three. -/
def digits : List UInt8 → List (Fin 64)
  | [] => []
  | [a] => [Fin.ofNat 64 (a.toNat / 4), Fin.ofNat 64 (a.toNat % 4 * 16)]
  | [a, b] =>
      [Fin.ofNat 64 (a.toNat / 4), Fin.ofNat 64 (a.toNat % 4 * 16 + b.toNat / 16),
        Fin.ofNat 64 (b.toNat % 16 * 4)]
  | a :: b :: c :: rest =>
      Fin.ofNat 64 (a.toNat / 4) :: Fin.ofNat 64 (a.toNat % 4 * 16 + b.toNat / 16) ::
        Fin.ofNat 64 (b.toNat % 16 * 4 + c.toNat / 64) :: Fin.ofNat 64 (c.toNat % 64) ::
        digits rest

/-- The bytes of a digit sequence, unless it has one digit too many or a non-zero unused bit. -/
def bytes? : List (Fin 64) → Option (List UInt8)
  | [] => some []
  | [_] => none
  | [p, q] => if q.val % 16 = 0 then some [UInt8.ofNat (p.val * 4 + q.val / 16)] else none
  | [p, q, r] =>
      if r.val % 4 = 0 then
        some [UInt8.ofNat (p.val * 4 + q.val / 16),
          UInt8.ofNat (q.val % 16 * 16 + r.val / 4)]
      else none
  | p :: q :: r :: s :: rest =>
      (bytes? rest).map fun tail =>
        UInt8.ofNat (p.val * 4 + q.val / 16) ::
          UInt8.ofNat (q.val % 16 * 16 + r.val / 4) ::
          UInt8.ofNat (r.val % 4 * 64 + s.val) :: tail

theorem bytes?_digits (bytes : List UInt8) : bytes? (digits bytes) = some bytes := by
  fun_induction digits bytes with
  | case1 => rfl
  | case2 a =>
      have ha := a.toNat_lt
      simp only [bytes?, Fin.ofNat]
      rw [if_pos (by omega)]
      congr 2
      apply UInt8.toNat_inj.mp
      simp
      omega
  | case3 a b =>
      have ha := a.toNat_lt
      have hb := b.toNat_lt
      simp only [bytes?, Fin.ofNat]
      rw [if_pos (by omega)]
      congr 2
      · apply UInt8.toNat_inj.mp
        simp
        omega
      · congr 1
        apply UInt8.toNat_inj.mp
        simp
        omega
  | case4 a b c rest ih =>
      have ha := a.toNat_lt
      have hb := b.toNat_lt
      have hc := c.toNat_lt
      simp only [bytes?, Fin.ofNat, ih, Option.map_some]
      congr 2
      · apply UInt8.toNat_inj.mp
        simp
        omega
      · congr 1
        · apply UInt8.toNat_inj.mp
          simp
          omega
        · congr 1
          apply UInt8.toNat_inj.mp
          simp
          omega

theorem digits_of_bytes? {read : List (Fin 64)} {bytes : List UInt8}
    (h : bytes? read = some bytes) : digits bytes = read := by
  fun_induction bytes? read generalizing bytes with
  | case1 => simp_all [digits]
  | case2 => simp at h
  | case3 p q hq =>
      cases h
      simp only [digits, UInt8.toNat_ofNat', List.cons.injEq, Fin.ext_iff, Fin.ofNat, and_true]
      omega
  | case4 => simp at h
  | case5 p q r hr =>
      cases h
      simp only [digits, UInt8.toNat_ofNat', List.cons.injEq, Fin.ext_iff, Fin.ofNat, and_true]
      omega
  | case6 => simp at h
  | case7 p q r s rest ih =>
      obtain ⟨tail, ht, rfl⟩ := Option.map_eq_some_iff.mp h
      simp only [digits, ih ht, UInt8.toNat_ofNat', List.cons.injEq, Fin.ext_iff, Fin.ofNat,
        and_true]
      omega

/-- The first byte of a character's UTF-8 form. -/
def leadByte (c : Char) : Nat :=
  ((String.utf8EncodeChar c).headD 0).toNat

/-- Reads each character as a digit. Every character before a fault is one byte long, so the
number of digits read so far is also the byte offset. -/
def readDigits (offset : Nat) : List Char → Except Malformed (List (Fin 64))
  | [] => .ok []
  | c :: rest =>
      match digit? c with
      | none => .error (.symbol (leadByte c) offset)
      | some digit => (readDigits (offset + 1) rest).map (digit :: ·)

theorem readDigits_map_symbol (offset : Nat) (read : List (Fin 64)) :
    readDigits offset (read.map symbol) = .ok read := by
  induction read generalizing offset with
  | nil => rfl
  | cons digit rest ih => simp [readDigits, digit?_symbol, ih, Except.map]

theorem map_symbol_of_readDigits {offset : Nat} {text : List Char} {read : List (Fin 64)}
    (h : readDigits offset text = .ok read) : read.map symbol = text := by
  induction text generalizing offset read with
  | nil => cases h; rfl
  | cons c rest ih =>
      simp only [readDigits] at h
      split at h
      · cases h
      · next digit hd =>
          cases hr : readDigits (offset + 1) rest with
          | error cause => simp [hr, Except.map] at h
          | ok tail =>
              simp only [hr, Except.map, Except.ok.injEq] at h
              subst h
              simp [ih hr, symbol_of_digit? hd]

def encode (bytes : List UInt8) : String :=
  String.ofList ((digits bytes).map symbol)

/-- The bytes of a text without padding. The characters are looked at before the unused bits. -/
def readBytes (text : List Char) : Except Malformed (List UInt8) := do
  let read ← readDigits 0 text
  match bytes? read with
  | some bytes => .ok bytes
  | none => .error (.lastSymbol (leadByte (text.getLastD 'A')) (text.length - 1))

def blockSize : Nat := 4

/-- How many characters the last block of a text of the given size is short of. -/
def missing (size : Nat) : Nat := (blockSize - size % blockSize) % blockSize

/-- A text without the padding at its end, which is two characters at most. -/
def dropPadding (text : List Char) : List Char :=
  match text.reverse with
  | '=' :: '=' :: rest => rest.reverse
  | '=' :: rest => rest.reverse
  | _ => text

def decodePadded (text : String) : Except Malformed (List UInt8) :=
  if text.utf8ByteSize % blockSize = 0 then readBytes (dropPadding text.toList)
  else .error .partialBlock

/-- The bytes of an unpadded text. Padding is refused before the length is looked at, and a length
that leaves a block with a single character before the characters are. -/
def decode (text : String) : Except Malformed (List UInt8) :=
  let short := missing text.utf8ByteSize
  if '=' ∈ text.toList then .error .padding
  else if short = blockSize - 1 then .error (.length text.utf8ByteSize)
  else decodePadded (text ++ String.ofList (List.replicate short '='))

end Base64

end ControlStream

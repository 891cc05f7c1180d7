/-!
# UTF-8 with the place of the fault

A byte sequence is read by a machine that stands either between characters or inside one, where
it knows how many bytes are owed and which values the next may take. The bounds on the second
byte rule out overlong forms, surrogates and values past U+10FFFF, so the machine stops at the
first byte that no valid text can hold.
-/

namespace ControlStream

namespace Utf8

/-- Why bytes are no UTF-8. `index` is the length of the longest valid beginning; `length` counts
the bytes after it that still began a character. -/
inductive Malformed where
  | sequence (length index : Nat)
  | incomplete (index : Nat)
  deriving DecidableEq, Repr

def Malformed.message : Malformed → String
  | .sequence length index => s!"invalid utf-8 sequence of {length} bytes from index {index}"
  | .incomplete index => s!"incomplete utf-8 byte sequence from index {index}"

def Malformed.index : Malformed → Nat
  | .sequence _ index => index
  | .incomplete index => index

/-- A character under way: the bits read, the bytes read, the bytes owed, and the least and
greatest value of the next byte. -/
structure Pending where
  code : Nat
  seen : Nat
  owed : Nat
  low : Nat
  high : Nat
  deriving DecidableEq, Repr

/-- What the first byte of a character of more than one byte promises. -/
def lead? (byte : Nat) : Option Pending :=
  if byte < 0xC2 then none
  else if byte < 0xE0 then some ⟨byte - 0xC0, 1, 1, 0x80, 0xBF⟩
  else if byte = 0xE0 then some ⟨0, 1, 2, 0xA0, 0xBF⟩
  else if byte = 0xED then some ⟨0xD, 1, 2, 0x80, 0x9F⟩
  else if byte < 0xF0 then some ⟨byte - 0xE0, 1, 2, 0x80, 0xBF⟩
  else if byte = 0xF0 then some ⟨0, 1, 3, 0x90, 0xBF⟩
  else if byte < 0xF4 then some ⟨byte - 0xF0, 1, 3, 0x80, 0xBF⟩
  else if byte = 0xF4 then some ⟨4, 1, 3, 0x80, 0x8F⟩
  else none

/-- One byte inside a character: its code point when the byte completes it, else what is owed
after the byte. -/
def Pending.take (pending : Pending) (byte : Nat) : Char ⊕ Pending :=
  let code := pending.code * 64 + (byte - 0x80)
  if pending.owed ≤ 1 then .inl (Char.ofNat code)
  else .inr ⟨code, pending.seen + 1, pending.owed - 1, 0x80, 0xBF⟩

/-- Runs the machine. `index` is where the character under way, or the next one, starts, and
`done` holds the characters read, last first. -/
def decodeFrom (index : Nat) (done : List Char) :
    Option Pending → List UInt8 → Except Malformed (List Char)
  | none, [] => .ok done.reverse
  | some _, [] => .error (.incomplete index)
  | none, byte :: rest =>
      if byte.toNat < 0x80 then
        decodeFrom (index + 1) (Char.ofNat byte.toNat :: done) none rest
      else
        match lead? byte.toNat with
        | none => .error (.sequence 1 index)
        | some pending => decodeFrom index done (some pending) rest
  | some pending, byte :: rest =>
      if pending.low ≤ byte.toNat ∧ byte.toNat ≤ pending.high then
        match pending.take byte.toNat with
        | .inl c => decodeFrom (index + pending.seen + 1) (c :: done) none rest
        | .inr owing => decodeFrom index done (some owing) rest
      else .error (.sequence pending.seen index)

def encode (text : String) : List UInt8 := text.toList.flatMap String.utf8EncodeChar

def decode (bytes : List UInt8) : Except Malformed (List Char) :=
  decodeFrom 0 [] none bytes

end Utf8

end ControlStream

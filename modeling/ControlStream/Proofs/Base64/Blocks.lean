import ControlStream.Proofs.Base64.Canonical

/-!
# Blocks of three bytes

Bytes are written in blocks: three of them make four characters, and a rest of one or two makes two
or three. So the text of whole blocks stands as it is in front of the text of what follows, and the
numbers of bytes and of characters determine each other.
-/

namespace ControlStream

namespace Base64

theorem length_encode (bytes : List UInt8) :
    (encode bytes).length = (4 * bytes.length + 2) / 3 := by
  rw [encode, String.length_ofList, List.length_map, length_digits]

theorem utf8ByteSize_encode (bytes : List UInt8) :
    (encode bytes).utf8ByteSize = (encode bytes).length := by
  rw [length_encode, encode, utf8ByteSize_map_symbol, length_digits]

/-- No digit takes bits from two blocks. -/
theorem digits_append {front : List UInt8} (h : front.length % 3 = 0) (bytes : List UInt8) :
    digits (front ++ bytes) = digits front ++ digits bytes := by
  fun_induction digits front with
  | case1 => rfl
  | case2 a => cases h
  | case3 a b => cases h
  | case4 a b c rest ih =>
      have hrest : rest.length % 3 = 0 := by
        simp only [List.length_cons] at h
        omega
      simp only [List.cons_append, digits, ih hrest]

theorem encode_append {front : List UInt8} (h : front.length % 3 = 0) (bytes : List UInt8) :
    encode (front ++ bytes) = encode front ++ encode bytes := by
  rw [encode, digits_append h, List.map_append, String.ofList_append]
  rfl

theorem length_of_bytesOfText {text : String} {bytes : List UInt8}
    (h : Json.bytesOfText text = .ok bytes) : bytes.length = 3 * text.length / 4 := by
  have htext := congrArg String.length (Json.eq_encode_of_bytesOfText h)
  rw [length_encode] at htext
  omega

/-- What a written text looks like: four thirds as many characters as there are bytes, rounded up,
and never one over a whole block; each a character of the alphabet, so that neither padding nor a
colon is among them; the blocks of a front one after another before what follows it. A text that is
read has three quarters as many bytes as it has characters, rounded down. -/
theorem encode_shape (bytes : List UInt8) :
    (encode bytes).length = (4 * bytes.length + 2) / 3 ∧
      (encode bytes).utf8ByteSize = (encode bytes).length ∧
      (encode bytes).length % 4 ≠ 1 ∧
      (∀ c ∈ (encode bytes).toList, IsSymbol c) ∧
      '=' ∉ (encode bytes).toList ∧
      ':' ∉ (encode bytes).toList ∧
      (∀ front : List UInt8, front.length % 3 = 0 →
        encode (front ++ bytes) = encode front ++ encode bytes) ∧
      ∀ text, Json.bytesOfText text = .ok bytes → bytes.length = 3 * text.length / 4 := by
  have hsize := utf8ByteSize_encode bytes
  refine ⟨length_encode bytes, hsize, hsize ▸ utf8ByteSize_encode_mod bytes,
    fun _ => isSymbol_of_mem_encode, padding_notMem_encode bytes, colon_notMem_encode bytes, ?_, ?_⟩
  · intro front hfront
    exact encode_append hfront bytes
  · intro text hread
    exact length_of_bytesOfText hread

/-- The five bytes of `hello` are a block and a rest of two. -/
theorem encode_shape_of_hello :
    encode ([104, 101, 108] ++ [108, 111]) = encode [104, 101, 108] ++ encode [108, 111] ∧
      [104, 101, 108, 108, 111].length = 3 * "aGVsbG8".length / 4 := by
  have hread : Json.bytesOfText "aGVsbG8" = .ok [104, 101, 108, 108, 111] := rfl
  obtain ⟨-, -, -, -, -, -, hblocks, -⟩ := encode_shape [108, 111]
  obtain ⟨-, -, -, -, -, -, -, hsize⟩ := encode_shape [104, 101, 108, 108, 111]
  exact ⟨hblocks [104, 101, 108] rfl, hsize "aGVsbG8" hread⟩

end Base64

end ControlStream

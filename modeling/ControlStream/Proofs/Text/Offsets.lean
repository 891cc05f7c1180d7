import ControlStream.Text.Offsets
import Mathlib.Data.String.Basic

/-!
# Cuts between characters

The character behind some others begins at the byte offset where these end. That offset is a valid
position of the text, and the text is cut there into the characters before it and those from it on.
-/

namespace ControlStream

namespace Text

theorem map_snd_charIndices (start : String.Pos.Raw) (chars : List Char) :
    (charIndices start chars).map (·.2) = chars := by
  induction chars generalizing start with
  | nil => rfl
  | cons c rest ih => rw [charIndices, List.map_cons, ih]

theorem getElem?_charIndices_append (before : List Char) (c : Char) (after : List Char)
    (start : String.Pos.Raw) :
    (charIndices start (before ++ c :: after))[before.length]? =
      some (start + String.ofList before, c) := by
  induction before generalizing start with
  | nil => simp [charIndices, String.Pos.Raw.ext_iff]
  | cons first before ih =>
      have hoffset : start + first + String.ofList before =
          start + String.ofList (first :: before) := by
        apply String.Pos.Raw.ext
        simp only [String.Pos.Raw.byteIdx_add_string, String.Pos.Raw.byteIdx_add_char,
          String.utf8ByteSize_ofList, String.utf8Len_cons]
        omega
      rw [List.cons_append, charIndices, List.length_cons, List.getElem?_cons_succ, ih, hoffset]

theorem extract_append_left (s t : String) :
    String.Pos.Raw.extract (s ++ t) 0 s.rawEndPos = s := by
  have h := String.extract_of_valid [] s.toList t.toList
  simp only [List.nil_append, String.ofList_append, String.ofList_toList, String.utf8Len_nil,
    String.utf8Len_toList, Nat.zero_add] at h
  exact h

theorem extract_append_right (s t : String) :
    String.Pos.Raw.extract (s ++ t) s.rawEndPos (s ++ t).rawEndPos = t := by
  have h := String.extract_of_valid s.toList t.toList []
  have hend : (s ++ t).rawEndPos = ⟨s.utf8ByteSize + t.utf8ByteSize⟩ :=
    String.Pos.Raw.ext String.utf8ByteSize_append
  simp only [List.append_nil, String.ofList_append, String.ofList_toList,
    String.utf8Len_toList] at h
  rw [hend]
  exact h

end Text

end ControlStream

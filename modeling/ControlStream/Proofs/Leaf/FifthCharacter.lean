import ControlStream.Proofs.Leaf.Typed

/-!
# Typed values by their fifth character

A text whose fifth character is a colon falls into a tag of four characters and a payload, whatever
these hold; any other text is malformed, for every way of reading it. The payload is read under any
tag, the kind and the checked value only under a known one. Checked texts are exactly those that are
made of a kind and a payload.
-/

namespace ControlStream

namespace CryptoKind

theorem ofTag_eq_error {text : String} (h : ∀ kind : CryptoKind, kind.tag ≠ text) :
    ofTag text = .error (.unknownCryptoKind text) := by
  have hnone : all.find? (fun kind => kind.tag == text) = Option.none := by
    rw [List.find?_eq_none]
    intro kind _
    simpa using h kind
  rw [ofTag, hnone]

theorem tag_eq_of_ofTag {text : String} {kind : CryptoKind} (h : ofTag text = .ok kind) :
    kind.tag = text := by
  unfold ofTag at h
  split at h
  · next found hfound =>
      cases h
      simpa using List.find?_some hfound
  · cases h

end CryptoKind

namespace Typed

/-- A text that is a tag of four characters, a colon and a payload. -/
def FallsInto (text tag content : String) : Prop :=
  tag.length = 4 ∧ text = tag ++ ":" ++ content

theorem exists_fallsInto {text : String} (h : text.toList[4]? = some ':') :
    ∃ tag content, FallsInto text tag content := by
  obtain ⟨hlength, hcolon⟩ := List.getElem?_eq_some_iff.mp h
  have htext : text.toList = text.toList.take 4 ++ ':' :: text.toList.drop 5 := by
    rw [← hcolon, ← List.drop_eq_getElem_cons hlength, List.take_append_drop]
  refine ⟨String.ofList (text.toList.take 4), String.ofList (text.toList.drop 5), ?_, ?_⟩
  · rw [String.length_ofList, List.length_take]
    omega
  · apply String.toList_inj.mp
    rw [toList_append_colon, String.toList_ofList, String.toList_ofList]
    exact htext

/-- The character that is looked at is the fifth, however many bytes come before it. -/
theorem getElem?_of_cuts? {text : String} {cuts : String.Pos.Raw × String.Pos.Raw}
    (h : cuts? text = some cuts) : text.toList[4]? = some ':' := by
  unfold cuts? at h
  split at h
  · next offset hindex =>
      rw [← Text.map_snd_charIndices 0 text.toList, List.getElem?_map]
      exact congrArg (Option.map (·.2)) hindex
  · cases h

/-- No cut goes through a character. -/
theorem isValid_of_cuts? {text : String} {before behind : String.Pos.Raw}
    (h : cuts? text = some (before, behind)) : before.IsValid text ∧ behind.IsValid text := by
  obtain ⟨tag, content, hlength, rfl⟩ := exists_fallsInto (getElem?_of_cuts? h)
  rw [cuts?_append hlength] at h
  cases h
  have hbefore : tag ++ ":" ++ content = tag ++ (":" ++ content) := String.append_assoc
  exact ⟨String.Pos.Raw.isValid_iff_exists_append.mpr ⟨tag, _, hbefore, rfl⟩,
    String.Pos.Raw.isValid_iff_exists_append.mpr ⟨_, content, rfl, rfl⟩⟩

theorem split_of_getElem?_ne {text : String} (h : text.toList[4]? ≠ some ':') :
    split text = .error (.malformedTyped text) := by
  rw [split]
  cases hcuts : cuts? text with
  | none => rfl
  | some cuts => exact absurd (getElem?_of_cuts? hcuts) h

/-! ## Three readings -/

section Readings

variable {α : Type} {text tag content : String}

theorem kind_of_fallsInto (h : FallsInto text tag content) :
    (mk text : Typed α).kind = CryptoKind.ofTag tag := by
  obtain ⟨hlength, rfl⟩ := h
  rw [Typed.kind, split_append hlength]
  rfl

theorem parse_of_fallsInto (h : FallsInto text tag content) :
    (parse text : Except DecodeError (Typed α)) =
      (CryptoKind.ofTag tag).map fun _ => mk text := by
  obtain ⟨hlength, rfl⟩ := h
  rw [parse, split_append hlength]
  change (do let _ ← CryptoKind.ofTag tag; return mk (tag ++ ":" ++ content)) = _
  cases CryptoKind.ofTag tag with
  | error cause => rfl
  | ok kind => rfl

variable [Payload α]

theorem payload_of_fallsInto (h : FallsInto text tag content) :
    (mk text : Typed α).payload = .ok (Payload.ofText content) := by
  obtain ⟨hlength, rfl⟩ := h
  rw [Typed.payload, split_append hlength]
  rfl

/-- A checked value is made of the kind and the payload that are found in it. -/
theorem exists_ofParts_of_parse {value : Typed α} (h : parse text = .ok value) :
    value.text = text ∧ ∃ kind content, value.kind = .ok kind ∧ value.payload = .ok content ∧
      ofParts kind content = value := by
  by_cases hcolon : text.toList[4]? = some ':'
  · obtain ⟨tag, content, hfalls⟩ := exists_fallsInto hcolon
    rw [parse_of_fallsInto hfalls] at h
    cases hkind : CryptoKind.ofTag tag with
    | error cause =>
        rw [hkind] at h
        cases h
    | ok kind =>
        rw [hkind] at h
        cases h
        have hparts : ofParts kind (Payload.ofText content : α) = mk text := by
          rw [ofParts, CryptoKind.tag_eq_of_ofTag hkind, Payload.text_ofText, hfalls.2]
        exact ⟨rfl, kind, Payload.ofText content, (kind_of_fallsInto hfalls).trans hkind,
          payload_of_fallsInto hfalls, hparts⟩
  · rw [parse, split_of_getElem?_ne hcolon] at h
    cases h

end Readings

/-- A text whose fifth character is no colon is malformed for every reading. Any other falls into a
tag of four characters and a payload: the payload is read whatever the tag is, and the kind and the
checked value if the tag is known, or else both refuse it. The byte offsets at which a text is cut
stand between its characters. Checked texts and pairs of a kind and a payload make each other. -/
theorem readings_of_text {α : Type} [Payload α] (text : String) :
    (text.toList[4]? ≠ some ':' →
      (mk text : Typed α).kind = .error (.malformedTyped text) ∧
        (mk text : Typed α).payload = .error (.malformedTyped text) ∧
        (parse text : Except DecodeError (Typed α)) = .error (.malformedTyped text)) ∧
    (text.toList[4]? = some ':' → ∃ tag content, FallsInto text tag content) ∧
    (∀ tag content, FallsInto text tag content →
      (mk text : Typed α).payload = .ok (Payload.ofText content) ∧
        (∀ kind : CryptoKind, kind.tag = tag →
          (mk text : Typed α).kind = .ok kind ∧ parse text = .ok (mk text : Typed α)) ∧
        ((∀ kind : CryptoKind, kind.tag ≠ tag) →
          (mk text : Typed α).kind = .error (.unknownCryptoKind tag) ∧
            (parse text : Except DecodeError (Typed α)) = .error (.unknownCryptoKind tag))) ∧
    (∀ before behind, cuts? text = some (before, behind) →
      before.IsValid text ∧ behind.IsValid text) ∧
    (∀ value : Typed α, parse text = .ok value →
      value.text = text ∧ ∃ kind content, value.kind = .ok kind ∧ value.payload = .ok content ∧
        ofParts kind content = value) ∧
    ∀ (kind : CryptoKind) (content : α),
      parse (ofParts kind content).text = .ok (ofParts kind content) ∧
        (ofParts kind content).kind = .ok kind ∧ (ofParts kind content).payload = .ok content := by
  refine ⟨?malformed, exists_fallsInto, ?parts, fun _ _ => isValid_of_cuts?,
    fun _ => exists_ofParts_of_parse, ?made⟩
  case malformed =>
    intro hcolon
    have hsplit := split_of_getElem?_ne hcolon
    simp only [Typed.kind, Typed.payload, parse, hsplit]
    exact ⟨rfl, rfl, rfl⟩
  case parts =>
    intro tag content hfalls
    have hkind : (mk text : Typed α).kind = CryptoKind.ofTag tag := kind_of_fallsInto hfalls
    have hparse : (parse text : Except DecodeError (Typed α)) = _ := parse_of_fallsInto hfalls
    refine ⟨payload_of_fallsInto hfalls, ?_, ?_⟩
    · intro kind htag
      have hknown : CryptoKind.ofTag tag = .ok kind := htag ▸ kind.ofTag_tag
      rw [hkind, hparse, hknown]
      exact ⟨rfl, rfl⟩
    · intro hunknown
      rw [hkind, hparse, CryptoKind.ofTag_eq_error hunknown]
      exact ⟨rfl, rfl⟩
  case made =>
    intro kind content
    exact ⟨parse_ofParts kind content, kind_ofParts kind content, payload_ofParts kind content⟩

/-- A tag that is unknown, and that has one byte more than it has characters. -/
theorem readings_of_text_accented :
    (mk "aaaé:x:y" : TypedKey).payload = .ok ⟨"x:y"⟩ ∧
      (mk "aaaé:x:y" : TypedKey).kind = .error (.unknownCryptoKind "aaaé") ∧
      cuts? "aaaé:x:y" = some (⟨5⟩, ⟨6⟩) ∧
      (String.Pos.Raw.mk 5).IsValid "aaaé:x:y" ∧ (String.Pos.Raw.mk 6).IsValid "aaaé:x:y" := by
  have h := @readings_of_text PublicKey _ "aaaé:x:y"
  have hfalls : FallsInto "aaaé:x:y" "aaaé" "x:y" := ⟨rfl, rfl⟩
  have hunknown : ∀ kind : CryptoKind, kind.tag ≠ "aaaé" := by
    intro kind
    cases kind <;> decide
  have hcuts : cuts? "aaaé:x:y" = some (⟨5⟩, ⟨6⟩) := rfl
  have hparts := h.2.2.1 "aaaé" "x:y" hfalls
  exact ⟨hparts.1, (hparts.2.2 hunknown).1, hcuts, h.2.2.2.1 _ _ hcuts⟩

end Typed

end ControlStream

import ControlStream.Leaf.Typed
import ControlStream.Proofs.Leaf.KeyPair
import ControlStream.Proofs.Text.Offsets

/-!
# Parts of typed values

A tag has four characters, so the colon that is put behind it is the fifth, whatever the payload.
A typed value gives its kind and its payload back, and a payload that stands for bytes gives these
back.
-/

namespace ControlStream

namespace CryptoKind

theorem length_tag (kind : CryptoKind) : kind.tag.length = tagLength := by
  cases kind with
  | vld0 => rfl
  | none => rfl

theorem count_colon_tag (kind : CryptoKind) : kind.tag.toList.count ':' = 0 := by
  cases kind with
  | vld0 => rfl
  | none => rfl

end CryptoKind

namespace Typed

/-! ## The fifth character -/

theorem toList_append_colon (tag content : String) :
    (tag ++ ":" ++ content).toList = tag.toList ++ ':' :: content.toList := by
  rw [String.toList_append, String.toList_append, List.append_assoc]
  rfl

section Split

variable {tag : String} (h : tag.length = CryptoKind.tagLength) (content : String)
include h

theorem cuts?_append :
    cuts? (tag ++ ":" ++ content) = some (tag.rawEndPos, (tag ++ ":").rawEndPos) := by
  have hindex := Text.getElem?_charIndices_append tag.toList ':' content.toList 0
  have hbefore : (0 : String.Pos.Raw) + String.ofList tag.toList = tag.rawEndPos := by
    rw [String.ofList_toList]
    apply String.Pos.Raw.ext
    rw [String.Pos.Raw.byteIdx_add_string]
    exact Nat.zero_add _
  have hbehind : tag.rawEndPos + ':' = (tag ++ ":").rawEndPos := by
    apply String.Pos.Raw.ext
    rw [String.Pos.Raw.byteIdx_add_char]
    exact (@String.utf8ByteSize_append tag ":").symm
  rw [String.length_toList, h, hbefore] at hindex
  rw [cuts?, toList_append_colon, hindex, ← hbehind]
  rfl

theorem split_append : split (tag ++ ":" ++ content) = .ok (tag, content) := by
  have htag : String.Pos.Raw.extract (tag ++ ":" ++ content) 0 tag.rawEndPos = tag := by
    rw [String.append_assoc]
    exact Text.extract_append_left tag (":" ++ content)
  rw [split, cuts?_append h content]
  simp only [htag, Text.extract_append_right]

end Split

/-! ## Values made of parts -/

section Parts

variable {α : Type} [Payload α] (kind : CryptoKind) (payload : α)

theorem toList_text_ofParts :
    (ofParts kind payload).text.toList =
      kind.tag.toList ++ ':' :: (Payload.text payload).toList :=
  toList_append_colon kind.tag (Payload.text payload)

theorem split_ofParts :
    split (ofParts kind payload).text = .ok (kind.tag, Payload.text payload) :=
  split_append kind.length_tag (Payload.text payload)

theorem parse_ofParts : parse (ofParts kind payload).text = .ok (ofParts kind payload) := by
  rw [parse, split_ofParts]
  change (do let _ ← CryptoKind.ofTag kind.tag; return _) = Except.ok (ofParts kind payload)
  rw [CryptoKind.ofTag_tag]
  rfl

theorem kind_ofParts : (ofParts kind payload).kind = .ok kind := by
  rw [Typed.kind, split_ofParts]
  exact kind.ofTag_tag

theorem payload_ofParts : (ofParts kind payload).payload = .ok payload := by
  rw [Typed.payload, split_ofParts]
  exact congrArg Except.ok (Payload.ofText_text payload)

theorem count_colon_ofParts :
    (ofParts kind payload).text.toList.count ':' =
      (Payload.text payload).toList.count ':' + 1 := by
  rw [toList_text_ofParts, List.count_append, kind.count_colon_tag, List.count_cons_self,
    Nat.zero_add]

end Parts

/-! ## Payloads that stand for something -/

section Recovery

variable {α β : Type} [Payload α] {colons : Nat} {wrap : β → α}
  {unwrap : α → Except DecodeError β}

/-- Typed values of wrapped things hold so many colons and are read as themselves; kind and thing
are found in them again, and so no two of them have the same text. -/
def Recovers (colons : Nat) (wrap : β → α) (unwrap : α → Except DecodeError β) : Prop :=
  ∀ (kind : CryptoKind) (thing : β),
    let value := ofParts kind (wrap thing)
    value.text.toList.count ':' = colons ∧
      parse value.text = .ok value ∧
      value.kind = .ok kind ∧
      (do unwrap (← value.payload)) = .ok thing ∧
      ∀ kind' thing', (ofParts kind' (wrap thing')).text = value.text →
        kind' = kind ∧ thing' = thing

theorem recovers_of_unwrap_wrap
    (hcolons : ∀ thing, (Payload.text (wrap thing)).toList.count ':' + 1 = colons)
    (hunwrap : ∀ thing, unwrap (wrap thing) = .ok thing) : Recovers colons wrap unwrap := by
  have hpayload : ∀ kind thing,
      (do unwrap (← (ofParts kind (wrap thing)).payload)) = Except.ok thing := by
    intro kind thing
    rw [payload_ofParts]
    exact hunwrap thing
  intro kind thing value
  refine ⟨?_, parse_ofParts _ _, kind_ofParts _ _, hpayload kind thing, ?_⟩
  · rw [count_colon_ofParts]
    exact hcolons thing
  · intro kind' thing' htext
    have hsame : ofParts kind' (wrap thing') = value := congrArg Typed.mk htext
    have hkind := kind_ofParts kind' (wrap thing')
    have hthing := hpayload kind' thing'
    rw [hsame, kind_ofParts] at hkind
    rw [hsame, hpayload kind thing] at hthing
    exact ⟨(Except.ok.inj hkind).symm, (Except.ok.inj hthing).symm⟩

theorem recovers_opaque {role : OpaqueRole} [Payload (Opaque role)]
    (htext : ∀ value : Opaque role, Payload.text value = value.text) :
    Recovers 1 (Opaque.ofBytes : List UInt8 → Opaque role) Opaque.bytes := by
  apply recovers_of_unwrap_wrap _ Opaque.bytes_ofBytes
  intro bytes
  rw [htext, Opaque.count_colon_ofBytes]

end Recovery

/-- A typed key pair that is made of bytes for its two halves holds two colons and gives the kind
and both halves back. With one colon the same holds of a typed key, secret and signature. -/
theorem ofParts_recovers_bytes :
    Recovers 2 KeyPair.ofBytes KeyPair.bytes ∧
      Recovers 1 (Opaque.ofBytes : List UInt8 → PublicKey) Opaque.bytes ∧
      Recovers 1 (Opaque.ofBytes : List UInt8 → SecretKey) Opaque.bytes ∧
      Recovers 1 (Opaque.ofBytes : List UInt8 → Signature) Opaque.bytes := by
  have hpair : Recovers 2 KeyPair.ofBytes KeyPair.bytes := by
    apply recovers_of_unwrap_wrap _ KeyPair.bytes_ofBytes
    intro halves
    exact congrArg Nat.succ (KeyPair.count_colon_ofBytes halves)
  exact ⟨hpair, recovers_opaque fun _ => rfl, recovers_opaque fun _ => rfl,
    recovers_opaque fun _ => rfl⟩

end Typed

end ControlStream

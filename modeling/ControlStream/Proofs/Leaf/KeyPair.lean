import ControlStream.Leaf.KeyPair
import ControlStream.Proofs.Base64.Canonical

/-!
# Halves of key pairs

A key pair is split at its first colon, and a text without one is no key pair. So a pair falls apart
into the halves it is made of exactly when the public one holds no colon, as no encoded key does.
-/

namespace ControlStream

theorem Opaque.count_colon_ofBytes {role : OpaqueRole} (bytes : List UInt8) :
    (ofBytes bytes : Opaque role).text.toList.count ':' = 0 :=
  List.count_eq_zero.mpr (Base64.colon_notMem_encode bytes)

namespace KeyPair

theorem split?_append {key : List Char} (h : ':' ∉ key) (secret : List Char) :
    split? (key ++ ':' :: secret) = some (key, secret) := by
  induction key with
  | nil => rfl
  | cons c key ih =>
      have hc : c ≠ ':' := fun heq => h (heq ▸ List.mem_cons_self)
      have hkey : ':' ∉ key := fun hmem => h (List.mem_cons_of_mem c hmem)
      rw [List.cons_append, split?, if_neg hc, ih hkey]
      rfl

theorem toList_text_ofParts (key : PublicKey) (secret : SecretKey) :
    (ofParts key secret).text.toList = key.text.toList ++ ':' :: secret.text.toList := by
  rw [ofParts, String.toList_append, String.toList_append, List.append_assoc]
  rfl

theorem parts_ofParts {key : PublicKey} (h : ':' ∉ key.text.toList) (secret : SecretKey) :
    (ofParts key secret).parts = .ok (key, secret) := by
  rw [parts, toList_text_ofParts, split?_append h]
  simp only [String.ofList_toList]

/-! ## The first colon -/

/-- The half before the cut holds no colon, and the two halves make up the text. -/
theorem split?_eq_some_iff {chars key secret : List Char} :
    split? chars = some (key, secret) ↔ ':' ∉ key ∧ chars = key ++ ':' :: secret := by
  constructor
  · intro h
    induction chars generalizing key with
    | nil => cases h
    | cons c rest ih =>
        rw [split?] at h
        split at h
        · next hc =>
            cases h
            exact ⟨List.not_mem_nil, congrArg (· :: secret) hc⟩
        · next hc =>
            obtain ⟨⟨before, behind⟩, hrest, hhalves⟩ := Option.map_eq_some_iff.mp h
            cases hhalves
            obtain ⟨hbefore, rfl⟩ := ih hrest
            refine ⟨?_, rfl⟩
            rintro (_ | ⟨_, hmem⟩)
            · exact hc rfl
            · exact hbefore hmem
  · rintro ⟨hkey, rfl⟩
    exact split?_append hkey secret

theorem split?_of_notMem {chars : List Char} (h : ':' ∉ chars) : split? chars = none := by
  cases hsplit : split? chars with
  | none => rfl
  | some halves =>
      obtain ⟨-, rfl⟩ := split?_eq_some_iff.mp hsplit
      exact absurd (List.mem_append_right _ List.mem_cons_self) h

theorem parts_eq_ok_iff {pair : KeyPair} {key : PublicKey} {secret : SecretKey} :
    pair.parts = .ok (key, secret) ↔ ':' ∉ key.text.toList ∧ ofParts key secret = pair := by
  constructor
  · intro h
    unfold parts at h
    split at h
    · next before behind hsplit =>
        obtain ⟨hkey, htext⟩ := split?_eq_some_iff.mp hsplit
        cases h
        have hmade := toList_text_ofParts ⟨String.ofList before⟩ ⟨String.ofList behind⟩
        simp only [String.toList_ofList] at hmade
        refine ⟨by rwa [String.toList_ofList], congrArg KeyPair.mk (String.toList_inj.mp ?_)⟩
        exact hmade.trans htext.symm
    · cases h
  · rintro ⟨hkey, rfl⟩
    exact parts_ofParts hkey secret

theorem parts_of_notMem {pair : KeyPair} (h : ':' ∉ pair.text.toList) :
    pair.parts = .error (.malformedKeyPair pair.text) := by
  rw [parts, split?_of_notMem h]

theorem exists_parts_of_mem {pair : KeyPair} (h : ':' ∈ pair.text.toList) :
    ∃ key secret, pair.parts = .ok (key, secret) := by
  obtain ⟨before, behind, htext, hbefore⟩ := List.eq_append_cons_of_mem h
  rw [parts, htext, split?_append hbefore]
  exact ⟨_, _, rfl⟩

/-! ## Encoded halves -/

def ofBytes (halves : List UInt8 × List UInt8) : KeyPair :=
  ofParts (.ofBytes halves.1) (.ofBytes halves.2)

def bytes (pair : KeyPair) : Except DecodeError (List UInt8 × List UInt8) := do
  let (key, secret) ← pair.parts
  return (← key.bytes, ← secret.bytes)

theorem bytes_ofBytes (halves : List UInt8 × List UInt8) : (ofBytes halves).bytes = .ok halves := by
  have hkey : ':' ∉ (Opaque.ofBytes halves.1 : PublicKey).text.toList :=
    Base64.colon_notMem_encode halves.1
  have hparts : (ofBytes halves).parts = .ok (.ofBytes halves.1, .ofBytes halves.2) :=
    parts_ofParts hkey _
  rw [bytes, hparts]
  change (do return (← (Opaque.ofBytes halves.1 : PublicKey).bytes,
    ← (Opaque.ofBytes halves.2 : SecretKey).bytes)) = Except.ok halves
  rw [Opaque.bytes_ofBytes, Opaque.bytes_ofBytes]
  rfl

theorem count_colon_ofBytes (halves : List UInt8 × List UInt8) :
    (ofBytes halves).text.toList.count ':' = 1 := by
  rw [ofBytes, toList_text_ofParts, List.count_append, List.count_cons_self,
    Opaque.count_colon_ofBytes, Opaque.count_colon_ofBytes]

/-! ## Every text -/

/-- A text with a colon has a public half, in which there is none, and a secret half, which every
reading agrees on and which make up the text again. A text without one is malformed for every
reading. Halves that are put together are found again exactly when the public one holds no colon,
whatever the secret one holds, so an encoded public key always is. -/
theorem halves_of_text :
    (∀ text : String, ':' ∈ text.toList → ∃ key secret,
      (mk text).key = .ok key ∧ (mk text).secret = .ok secret ∧
        (mk text).parts = .ok (key, secret) ∧ ':' ∉ key.text.toList ∧
        ofParts key secret = mk text) ∧
      (∀ text : String, ':' ∉ text.toList →
        (mk text).key = .error (.malformedKeyPair text) ∧
          (mk text).secret = .error (.malformedKeyPair text) ∧
          (mk text).parts = .error (.malformedKeyPair text)) ∧
      (∀ (key : PublicKey) (secret : SecretKey),
        (ofParts key secret).parts = .ok (key, secret) ↔ ':' ∉ key.text.toList) ∧
      ∀ (bytes : List UInt8) (secret : SecretKey),
        (ofParts (.ofBytes bytes) secret).parts = .ok (.ofBytes bytes, secret) := by
  refine ⟨?split, ?malformed, ?made, ?encoded⟩
  case split =>
    intro text hcolon
    obtain ⟨key, secret, hparts⟩ := @exists_parts_of_mem (mk text) hcolon
    obtain ⟨hkey, hmade⟩ := parts_eq_ok_iff.mp hparts
    refine ⟨key, secret, ?_, ?_, hparts, hkey, hmade⟩
    · rw [KeyPair.key, hparts]
      rfl
    · rw [KeyPair.secret, hparts]
      rfl
  case malformed =>
    intro text hcolon
    have hparts : (mk text).parts = .error (.malformedKeyPair text) := parts_of_notMem hcolon
    rw [KeyPair.key, KeyPair.secret, hparts]
    exact ⟨rfl, rfl, rfl⟩
  case made =>
    intro key secret
    rw [parts_eq_ok_iff]
    exact and_iff_left rfl
  case encoded =>
    intro bytes secret
    exact parts_ofParts (Base64.colon_notMem_encode bytes) secret

/-- The first of three colons cuts, also when nothing stands before it. -/
theorem halves_of_text_colons :
    (mk "::s:").parts = .ok (⟨""⟩, ⟨":s:"⟩) ∧
      (∃ key secret, (mk "::s:").key = .ok key ∧ (mk "::s:").secret = .ok secret ∧
        ofParts key secret = mk "::s:") ∧
      (mk "ks").key = .error (.malformedKeyPair "ks") ∧
      (ofParts ⟨":"⟩ ⟨"s"⟩).parts ≠ .ok (⟨":"⟩, ⟨"s"⟩) := by
  obtain ⟨hsplit, hmalformed, hmade, -⟩ := halves_of_text
  have hcolon : ':' ∈ "::s:".toList := by decide
  have hnone : ':' ∉ "ks".toList := by decide
  have hempty : ':' ∉ (⟨""⟩ : PublicKey).text.toList := by decide
  have hlone : ':' ∈ (⟨":"⟩ : PublicKey).text.toList := by decide
  obtain ⟨key, secret, hkey, hsecret, -, -, htext⟩ := hsplit "::s:" hcolon
  exact ⟨(hmade ⟨""⟩ ⟨":s:"⟩).mpr hempty, ⟨key, secret, hkey, hsecret, htext⟩,
    (hmalformed "ks" hnone).1, fun h => (hmade _ _).mp h hlone⟩

end KeyPair

end ControlStream

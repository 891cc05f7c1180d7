import ControlStream.Proofs.Wire.Grammar

/-!
# Values that agree on a table

Two values agree in a form if they cannot be told apart by the fields of its tables: a record is
compared field by field, null being as good as absent, a list item by item, and any other value as
it stands. Members that no table names play no part. Values that agree are written alike and pass
the same checks, with the same failure if they fail.
-/

namespace ControlStream

open Json

namespace Form

mutual

/-- Values that a form cannot tell apart. -/
def Agree : Form → Json → Json → Prop
  | list item, v, w =>
      v = w ∨ ∃ vs ws, v = .array vs ∧ w = .array ws ∧
        List.Forall₂ (fun a b => Agree item a b) vs ws
  | record fields, v, w => v = w ∨ v.IsObject ∧ w.IsObject ∧ AllAgree fields v w
  | _, v, w => v = w

/-- Objects that agree in every field of a table, present or not. -/
def AllAgree : List (String × Form) → Json → Json → Prop
  | [], _, _ => True
  | (key, form) :: rest, v, w =>
      Option.Rel (fun a b => Agree form a b) (v.present? key) (w.present? key) ∧
        AllAgree rest v w

end

/-- A field is written as its value is, and as null if it has none. -/
theorem canonicalField_eq_present? (form : Form) (value : Json) (key : String) :
    form.canonicalField value key = ((value.present? key).map form.canonical).getD .null := by
  rw [canonicalField, present?]
  cases value.get? key with
  | none => rfl
  | some held => cases held <;> rfl

mutual

theorem canonical_congr (form : Form) {v w : Json} (h : form.Agree v w) :
    form.canonical v = form.canonical w := by
  cases form with
  | list item =>
      rcases h with rfl | ⟨vs, ws, rfl, rfl, hitems⟩
      · rfl
      · have hmap : vs.map (canonical item) = ws.map (canonical item) := by
          induction hitems with
          | nil => rfl
          | cons hitem _ ih => rw [List.map_cons, List.map_cons, ih, canonical_congr item hitem]
        exact congrArg Json.array hmap
  | record fields =>
      rcases h with rfl | ⟨-, -, hfields⟩
      · rfl
      · rw [canonical_record, canonical_record, canonicalMembers_congr fields hfields]
  | _ => exact congrArg _ h

theorem canonicalMembers_congr (fields : List (String × Form)) {v w : Json}
    (h : AllAgree fields v w) : canonicalMembers fields v = canonicalMembers fields w := by
  cases fields with
  | nil => rfl
  | cons field rest =>
      obtain ⟨key, form⟩ := field
      obtain ⟨hheld, hrest⟩ := h
      have hfield : form.canonicalField v key = form.canonicalField w key := by
        rw [canonicalField_eq_present?, canonicalField_eq_present?]
        generalize v.present? key = x, w.present? key = y at hheld
        cases hheld with
        | none => rfl
        | some hagree => exact canonical_congr form hagree
      rw [canonicalMembers_cons, canonicalMembers_cons, hfield, canonicalMembers_congr rest hrest]

end

end Form

namespace Arity

open Form

/-- What a field holds is checked alike when each of its values is. -/
theorem check_congr (arity : Arity) {form : Form} {key : String} {v w : Json}
    {check : Json → Except DecodeError Unit}
    (hcheck : ∀ a b, form.Agree a b → check a = check b)
    (h : Option.Rel (arity.form form).Agree (v.present? key) (w.present? key)) :
    arity.check v key check = arity.check w key check := by
  simp only [Arity.check, requireArray, require]
  generalize v.present? key = x, w.present? key = y at h
  cases arity with
  | one =>
      cases h with
      | none => rfl
      | some hheld => exact hcheck _ _ hheld
  | optional =>
      cases h with
      | none => rfl
      | some hheld => exact hcheck _ _ hheld
  | many =>
      cases h with
      | none => rfl
      | some hheld =>
          rcases hheld with rfl | ⟨vs, ws, rfl, rfl, hitems⟩
          · rfl
          · show forM vs check = forM ws check
            induction hitems with
            | nil => rfl
            | cons hitem _ ih => rw [List.forM_cons, List.forM_cons, ih, hcheck _ _ hitem]

end Arity

namespace Grammar

open Form

mutual

theorem check_congr (grammar : Grammar) (key : String) {v w : Json}
    (h : grammar.form.Agree v w) : grammar.check key v = grammar.check key w := by
  cases grammar with
  | record label table =>
      rcases h with rfl | ⟨⟨fields, rfl⟩, ⟨others, rfl⟩, hfields⟩
      · rfl
      · exact checkFields_congr table hfields
  | _ => exact congrArg _ h

theorem checkFields_congr (table : List (String × Arity × Grammar)) {v w : Json}
    (h : AllAgree (forms table) v w) : checkFields table v = checkFields table w := by
  cases table with
  | nil => rfl
  | cons field rest =>
      obtain ⟨key, arity, grammar⟩ := field
      obtain ⟨hheld, hrest⟩ := h
      have hfield := arity.check_congr (fun _ _ => check_congr grammar key) hheld
      rw [checkFields_cons, checkFields_cons, hfield, checkFields_congr rest hrest]

end

end Grammar

end ControlStream

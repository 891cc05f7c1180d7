import ControlStream.Message
import ControlStream.Proofs.Update.Grammar
import ControlStream.Proofs.Wire.Agreement

/-!
# Updates depend on the fields of their kind alone

Two objects of one kind that agree in every field of the kind are read as the same update, or fail
in the same way. The framing of the line, fields of other kinds and unknown members, at whatever
depth, have no influence.
-/

namespace ControlStream

open Json Form

/-- A line that has the type of an update is read as its update is. -/
theorem Message.read_of_isUpdate {value : Json} (h : value.HasField "type" IsText updateTag) :
    read value = (Update.read value).map .update := by
  have htag : updateTag ≠ responseTag := by decide
  obtain ⟨fields, rfl⟩ := h.isObject
  rw [read, requireString_eq_ok_iff.mpr h]
  simp only [asRecord, Except.ok_bind, if_neg htag, if_pos]
  cases Update.read (.object fields) <;> rfl

namespace Update

/-- Objects that agree in their kind and, if it is one of the nine, in every field of it. -/
structure Agree (v w : Json) : Prop where
  left_isObject : v.IsObject
  right_isObject : w.IsObject
  kind : v.present? "kind" = w.present? "kind"
  fields : ∀ kind : UpdateKind, v.HasField "kind" IsText kind.name → AllAgree kind.fields v w

variable {v w : Json}

theorem Agree.requireString_kind (h : Agree v w) :
    v.requireString "kind" = w.requireString "kind" := by
  simp only [requireString, require, h.kind]

/-- What is reported of the one is reported of the other. -/
theorem Agree.verdict_read (h : Agree v w) : verdict (read v) = verdict (read w) := by
  rw [read_of_isObject h.left_isObject, read_of_isObject h.right_isObject, ← h.requireString_kind]
  cases hname : v.requireString "kind" with
  | error cause => rfl
  | ok name =>
      cases hkind : UpdateKind.ofName name with
      | error cause =>
          simp only [Except.ok_bind, hkind]
          rfl
      | ok kind =>
          simp only [Except.ok_bind, hkind]
          have hfield := requireString_eq_ok_iff.mp hname
          rw [UpdateKind.ofName_eq_ok_iff.mp hkind] at hfield
          have hagree : kind.grammar.form.Agree v w := by
            rw [kind.form_grammar]
            exact .inr ⟨h.left_isObject, h.right_isObject, h.fields kind hfield⟩
          calc verdict (readPayload v kind)
              = kind.grammar.check "update" v := readPayload_failsAs _ v h.left_isObject kind
            _ = kind.grammar.check "update" w := kind.grammar.check_congr "update" hagree
            _ = verdict (readPayload w kind) :=
              (readPayload_failsAs _ w h.right_isObject kind).symm

/-- An update is known by its members. -/
theorem eq_of_members_eq {update other : Update} (h : update.members = other.members) :
    update = other := by
  have hupdate := read_of_carries update.carries_write
  have hother := read_of_carries other.carries_write
  rw [write, h] at hupdate
  exact Except.ok.inj (hupdate.symm.trans hother)

/-- Both updates have the members that the table of their kind makes of the fields. -/
theorem Agree.eq_of_read (h : Agree v w) {update other : Update} (hv : read v = .ok update)
    (hw : read w = .ok other) : update = other := by
  have hspelled := read_eq_ok_iff.mp hv
  have hspelled' := read_eq_ok_iff.mp hw
  have hname := requireString_eq_ok_iff.mpr hspelled.kind
  rw [h.requireString_kind, requireString_eq_ok_iff.mpr hspelled'.kind] at hname
  have hkind : other.kind = update.kind := UpdateKind.name_injective (Except.ok.inj hname)
  have hfields : AllAgree (("kind", Form.same) :: update.kind.fields) v w := by
    refine ⟨?_, h.fields _ hspelled.kind⟩
    rw [h.kind]
    cases w.present? "kind" with
    | none => exact .none
    | some held => exact .some rfl
  apply eq_of_members_eq
  rw [← canonicalMembers_eq hspelled, ← canonicalMembers_eq hspelled', hkind]
  exact canonicalMembers_congr _ hfields

/-- Reading an update depends on nothing but the fields of its kind, null being as good as absent:
objects that agree in them are read as the same update or fail in the same way. A line that has the
type of an update is read as its update is. -/
theorem read_eq_of_agree (h : Agree v w) :
    read v = read w ∧
      ∀ value : Json, value.HasField "type" IsText Message.updateTag →
        Message.read value = (read value).map .update := by
  constructor
  · have hverdict := h.verdict_read
    cases hv : read v with
    | error cause =>
        rw [hv] at hverdict
        exact ((FailsAs.error_iff hverdict.symm).mpr rfl).symm
    | ok update =>
        cases hw : read w with
        | error cause =>
            rw [hv, hw] at hverdict
            cases hverdict
        | ok other => rw [h.eq_of_read hv hw]
  · exact fun value => Message.read_of_isUpdate

/-- The change of `looseChange` without its framing and with nothing more in its content; what it
holds under names of other kinds is of no importance. -/
def bareChange : Json :=
  .object
    [("count", .string "+03"), ("key", .string "VLD0:record"), ("kind", .string "ValueChange"),
      ("log_level", .natural 4), ("sender", .null),
      ("subkeys", .array [.string "01", .natural 2]),
      ("value", .object
        [("data", .string "aGk"), ("key", .null), ("seq", .string "7"),
          ("writer", .string "owner")])]

theorem agree_looseChange_bareChange : Agree looseChange bareChange where
  left_isObject := ⟨_, rfl⟩
  right_isObject := ⟨_, rfl⟩
  kind := rfl
  fields kind hkind := by
    have hname : kind = .valueChange := by
      obtain ⟨_, hheld, htext⟩ := hkind
      cases hheld
      exact UpdateKind.name_injective (Json.string.inj htext).symm
    subst hname
    exact ⟨.some rfl, .some (.inl rfl), .some rfl,
      .some (.inr ⟨⟨_, rfl⟩, ⟨_, rfl⟩, .some rfl, .some rfl, .some rfl, trivial⟩), trivial⟩

theorem read_eq_of_agree_of_looseChange :
    Update.read looseChange = .ok changeOfLoose ∧ Update.read bareChange = .ok changeOfLoose := by
  have hread : Update.read looseChange = .ok changeOfLoose := by rfl
  have heq := (read_eq_of_agree agree_looseChange_bareChange).1
  exact ⟨hread, heq.symm.trans hread⟩

end Update

end ControlStream

import ControlStream.Proofs.Wire.Grammar
import ControlStream.Proofs.Wire.Unsigned

/-!
# What a failed check reports is so

A check that fails reports one fault: a field that is missing from an object that was read, or a
value found there that is not what its grammar asks for. The relations here say which objects are
read and what each fault is, with no word about checking; a failed check reports a fault that is
really there.
-/

namespace ControlStream

open Json

namespace Shape

/-- The values of a shape. -/
def Holds : Shape → Json → Prop
  | .string, value => ∃ text, value.IsText text
  | .boolean, value => ∃ flag, value.IsFlag flag
  | .array, value => ∃ items, value = .array items
  | .object, value => value.IsObject
  | .bits16, value => ∃ n : BitVec 16, value.IsUnsigned 16 n
  | .bits32, value | .fitting32, value => ∃ n : BitVec 32, value.IsUnsigned 32 n
  | .unsigned, value | .fitting64, value => ∃ n : BitVec 64, value.IsUnsigned 64 n

end Shape

theorem WordSize.holds_shape_iff {size : WordSize} {value : Json} :
    size.shape.Holds value ↔ ∃ n : BitVec size.bits, value.IsUnsigned size.bits n := by
  cases size <;> rfl

theorem verdict_eq_error_iff {α : Type} {read : Except DecodeError α} {cause : DecodeError} :
    verdict read = .error cause ↔ read = .error cause :=
  (FailsAs.refl read).error_iff.symm

/-! ## Leaves -/

namespace Json

variable {value : Json} {key : String} {cause : DecodeError}

theorem asString_eq_error (h : value.asString key = .error cause) :
    ¬ Shape.string.Holds value ∧ cause = .invalidField key .string := by
  cases value with
  | string text => cases h
  | _ =>
      cases h
      exact ⟨nofun, rfl⟩

theorem asString_of_not_holds (h : ¬ Shape.string.Holds value) :
    value.asString key = .error (.invalidField key .string) := by
  cases value with
  | string text => exact absurd ⟨text, rfl⟩ h
  | _ => rfl

theorem asBool_eq_error (h : value.asBool key = .error cause) :
    ¬ Shape.boolean.Holds value ∧ cause = .invalidField key .boolean := by
  cases value with
  | bool flag => cases h
  | _ =>
      cases h
      exact ⟨nofun, rfl⟩

theorem asArray_eq_error (h : value.asArray key = .error cause) :
    ¬ Shape.array.Holds value ∧ cause = .invalidField key .array := by
  cases value with
  | array items => cases h
  | _ =>
      cases h
      exact ⟨nofun, rfl⟩

theorem asObject_eq_error (h : value.asObject key = .error cause) :
    ¬ Shape.object.Holds value ∧ cause = .invalidField key .object := by
  cases value with
  | object fields => cases h
  | _ =>
      cases h
      exact ⟨nofun, rfl⟩

theorem asRecord_eq_error {label : String} (h : value.asRecord label = .error cause) :
    ¬ value.IsObject ∧ cause = .expectedObject label := by
  cases value with
  | object fields => cases h
  | _ =>
      cases h
      exact ⟨nofun, rfl⟩

/-- Either the value is no unsigned integer at all, or it is too large. -/
theorem asNarrow_eq_error {size : WordSize}
    (h : value.asNarrow size.bits size.shape key = .error cause) :
    ∃ expected ∈ [Shape.unsigned, size.shape], ¬ expected.Holds value ∧
      cause = .invalidField key expected := by
  have hwide : ¬ size.shape.Holds value := by
    rw [WordSize.holds_shape_iff]
    rintro ⟨n, hspells⟩
    rw [(exact_asNarrow size.bits_le size.shape key).ok_iff.mpr hspells] at h
    cases h
  have hlarge : ∀ n, value.IsNumber n → Nat.pow 2 size.bits ≤ n := by
    intro n hspells
    refine Nat.le_of_not_lt fun hlt => hwide (WordSize.holds_shape_iff.mpr ⟨.ofNat _ n, ?_⟩)
    have hword : (BitVec.ofNat size.bits n).toNat = n := Nat.mod_eq_of_lt hlt
    rwa [IsUnsigned, hword]
  obtain ⟨expected, hrefused, herror⟩ := exists_refusedAs hlarge
  cases h.symm.trans herror
  cases hrefused with
  | wide => exact ⟨_, List.mem_cons_of_mem _ List.mem_cons_self, hwide, rfl⟩
  | noWord hnone =>
      refine ⟨_, List.mem_cons_self, ?_, rfl⟩
      rintro ⟨word, hspells⟩
      exact Nat.not_le.mpr word.isLt (hnone _ hspells)

theorem bytesOfText_eq_error {text : String} (h : bytesOfText text = .error cause) :
    (∀ bytes, text ≠ Base64.encode bytes) ∧ ∃ reason, cause = .malformedEncoding reason := by
  constructor
  · rintro bytes rfl
    rw [bytesOfText_encode] at h
    cases h
  · unfold bytesOfText at h
    split at h
    · cases h
    · cases h
      exact ⟨_, rfl⟩

end Json

/-! ## Faults -/

namespace Grammar

/-- What a value is reported to be expected to be. -/
def shapes : Grammar → List Shape
  | text | bytes | name _ => [.string]
  | flag => [.boolean]
  | integer size => [.unsigned, size.shape]
  | decimal => [.unsigned, .fitting64]
  | fields => [.object]
  | record .. => []

/-- What is wrong with a value that was found under a key. -/
inductive Fault : Grammar → String → Json → DecodeError → Prop where
  | shape {grammar : Grammar} {key : String} {value : Json} {expected : Shape}
      (hmem : expected ∈ grammar.shapes) (hnot : ¬ expected.Holds value) :
      Fault grammar key value (.invalidField key expected)
  | name {names : List String} {key text : String} (hnot : text ∉ names) :
      Fault (.name names) key (.string text) (.unknownVariant key text)
  | encoding {key text : String} {reason : Base64.Malformed}
      (hnot : ∀ bytes, text ≠ Base64.encode bytes) :
      Fault .bytes key (.string text) (.malformedEncoding reason)
  | object {label key : String} {table : Table} {value : Json} (hnot : ¬ value.IsObject) :
      Fault (.record label table) key value (.expectedObject label)

end Grammar

/-- The values that a field holds: one, or the items of an array. -/
def Arity.Holds (arity : Arity) (held part : Json) : Prop :=
  match arity with
  | .many => ∃ items, held = .array items ∧ part ∈ items
  | _ => part = held

open Grammar (Table)

/-- What is wrong with a field of an object: it is missing, holds no array, or holds a value that
is at fault. -/
inductive FieldFault (holder : Json) : String × Arity × Grammar → DecodeError → Prop where
  | missing {key : String} {arity : Arity} {grammar : Grammar} (harity : arity ≠ .optional)
      (habsent : holder.present? key = none) :
      FieldFault holder (key, arity, grammar) (.missingField key)
  | array {key : String} {grammar : Grammar} {held : Json}
      (hheld : holder.present? key = some held) (hnot : ¬ Shape.array.Holds held) :
      FieldFault holder (key, .many, grammar) (.invalidField key .array)
  | held {key : String} {arity : Arity} {grammar : Grammar} {held part : Json}
      {cause : DecodeError} (hheld : holder.present? key = some held)
      (hpart : arity.Holds held part) (hfault : grammar.Fault key part cause) :
      FieldFault holder (key, arity, grammar) cause

/-- An object that is read for a grammar, and the table by which it is: the value itself, or an
object that is read for a field of it. -/
inductive Grammar.Reads : Grammar → Json → Table → Json → Prop where
  | self {label : String} {table : Table} {value : Json} (hobject : value.IsObject) :
      Reads (.record label table) value table value
  | field {label key : String} {table inner : Table} {arity : Arity} {grammar : Grammar}
      {value held part holder : Json} (hmem : (key, arity, grammar) ∈ table)
      (hheld : value.present? key = some held) (hpart : arity.Holds held part)
      (hreads : Reads grammar part inner holder) :
      Reads (.record label table) value inner holder

/-! ## Failed checks -/

theorem exists_of_forM_eq_error {items : List Json} {check : Json → Except DecodeError Unit}
    {cause : DecodeError} (h : forM items check = .error cause) :
    ∃ item ∈ items, check item = .error cause := by
  induction items with
  | nil => cases h
  | cons item items ih =>
      rw [List.forM_cons] at h
      cases hitem : check item with
      | error found =>
          rw [hitem] at h
          cases h
          exact ⟨item, List.mem_cons_self, hitem⟩
      | ok done =>
          rw [hitem, Except.ok_bind] at h
          obtain ⟨later, hmem, hlater⟩ := ih h
          exact ⟨later, List.mem_cons_of_mem _ hmem, hlater⟩

theorem Arity.check_eq_error {arity : Arity} {value : Json} {key : String}
    {check : Json → Except DecodeError Unit} {cause : DecodeError}
    (h : arity.check value key check = .error cause) :
    (arity ≠ .optional ∧ value.present? key = none ∧ cause = .missingField key) ∨
      ∃ held, value.present? key = some held ∧
        ((arity = .many ∧ ¬ Shape.array.Holds held ∧ cause = .invalidField key .array) ∨
          ∃ part, arity.Holds held part ∧ check part = .error cause) := by
  cases hheld : value.present? key with
  | none =>
      simp only [Arity.check, requireArray, require, hheld] at h
      have hrequired : arity ≠ .optional := by
        intro hoptional
        rw [hoptional] at h
        cases h
      have hcause : .error (.missingField key) = (.error cause : Except DecodeError Unit) := by
        cases arity with
        | optional => cases h
        | _ => exact h
      exact .inl ⟨hrequired, rfl, (Except.error.inj hcause).symm⟩
  | some held =>
      simp only [Arity.check, requireArray, require, hheld, Except.ok_bind] at h
      refine .inr ⟨held, rfl, ?_⟩
      cases arity with
      | many =>
          cases harray : held.asArray key with
          | error found =>
              simp only [harray] at h
              cases h
              exact .inl ⟨rfl, asArray_eq_error harray⟩
          | ok items =>
              have hitems : held = .array items := (exact_asArray key).ok_iff.mp harray
              simp only [harray, Except.ok_bind] at h
              obtain ⟨item, hmem, hitem⟩ := exists_of_forM_eq_error h
              exact .inr ⟨item, ⟨items, hitems, hmem⟩, hitem⟩
      | _ => exact .inr ⟨held, rfl, h⟩

namespace Grammar

theorem exists_of_checkFields_eq_error {table : Table} {value : Json} {cause : DecodeError}
    (h : checkFields table value = .error cause) :
    ∃ key arity grammar, (key, arity, grammar) ∈ table ∧
      arity.check value key (grammar.check key) = .error cause := by
  induction table with
  | nil => cases h
  | cons field rest ih =>
      obtain ⟨key, arity, grammar⟩ := field
      rw [checkFields_cons] at h
      cases hfield : arity.check value key (grammar.check key) with
      | error found =>
          rw [hfield] at h
          cases h
          exact ⟨key, arity, grammar, List.mem_cons_self, hfield⟩
      | ok done =>
          rw [hfield, Except.ok_bind] at h
          obtain ⟨key', arity', grammar', hmem, hlater⟩ := ih h
          exact ⟨key', arity', grammar', List.mem_cons_of_mem _ hmem, hlater⟩

theorem fault_of_shape {grammar : Grammar} {key : String} {value : Json} {cause : DecodeError}
    {expected : Shape} (hmem : expected ∈ grammar.shapes)
    (h : ¬ expected.Holds value ∧ cause = .invalidField key expected) :
    grammar.Fault key value cause := by
  obtain ⟨hnot, rfl⟩ := h
  exact .shape hmem hnot

theorem fault_of_text {grammar : Grammar} {key : String} {value : Json} {cause : DecodeError}
    {rest : String → Except DecodeError Unit} (hmem : Shape.string ∈ grammar.shapes)
    (hrest : ∀ text, value = .string text → rest text = .error cause →
      grammar.Fault key value cause)
    (h : value.asString key >>= rest = .error cause) : grammar.Fault key value cause := by
  cases hread : value.asString key with
  | error found =>
      rw [hread] at h
      cases h
      exact fault_of_shape hmem (asString_eq_error hread)
  | ok text =>
      rw [hread] at h
      exact hrest text ((exact_asString key).ok_iff.mp hread) h

/-- A failed check reports what is wrong with the value itself, or with a field of an object that
was read for it. -/
theorem fault_of_check (grammar : Grammar) {key : String} {value : Json} {cause : DecodeError}
    (h : grammar.check key value = .error cause) :
    grammar.Fault key value cause ∨
      ∃ table holder, grammar.Reads value table holder ∧
        ∃ field ∈ table, FieldFault holder field cause := by
  match grammar with
  | .text =>
      exact .inl (fault_of_shape List.mem_cons_self (asString_eq_error (verdict_eq_error_iff.mp h)))
  | .flag =>
      exact .inl (fault_of_shape List.mem_cons_self (asBool_eq_error (verdict_eq_error_iff.mp h)))
  | .fields =>
      exact .inl (fault_of_shape List.mem_cons_self (asObject_eq_error (verdict_eq_error_iff.mp h)))
  | .integer size =>
      obtain ⟨expected, hmem, hfault⟩ := asNarrow_eq_error (verdict_eq_error_iff.mp h)
      exact .inl (fault_of_shape hmem hfault)
  | .decimal =>
      have hread : value.asNarrow WordSize.fitting64.bits WordSize.fitting64.shape key =
          .error cause := verdict_eq_error_iff.mp h
      obtain ⟨expected, hmem, hfault⟩ := asNarrow_eq_error hread
      exact .inl (fault_of_shape hmem hfault)
  | .bytes =>
      refine .inl (fault_of_text List.mem_cons_self ?_ h)
      rintro text rfl hbytes
      obtain ⟨hnot, reason, rfl⟩ := bytesOfText_eq_error (verdict_eq_error_iff.mp hbytes)
      exact .encoding hnot
  | .name names =>
      refine .inl (fault_of_text List.mem_cons_self ?_ h)
      rintro text rfl hname
      split at hname
      · cases hname
      · next hnot =>
          cases hname
          exact .name hnot
  | .record label table =>
      rw [check_record] at h
      cases hobject : value.asRecord label with
      | error found =>
          rw [hobject] at h
          cases h
          obtain ⟨hnot, rfl⟩ := asRecord_eq_error hobject
          exact .inl (.object hnot)
      | ok fields =>
          rw [hobject, Except.ok_bind] at h
          have hvalue : value.IsObject := ⟨fields, asRecord_eq_ok_iff.mp hobject⟩
          obtain ⟨key', arity, inner, hmem, hfield⟩ := exists_of_checkFields_eq_error h
          refine .inr ?_
          rcases Arity.check_eq_error hfield with ⟨harity, habsent, rfl⟩ | ⟨held, hheld, hfault⟩
          · exact ⟨table, value, .self hvalue, _, hmem, .missing harity habsent⟩
          rcases hfault with ⟨rfl, hnot, rfl⟩ | ⟨part, hpart, hcheck⟩
          · exact ⟨table, value, .self hvalue, _, hmem, .array hheld hnot⟩
          · have hsmaller : sizeOf inner < sizeOf table := by
              have hfield := List.sizeOf_lt_of_mem hmem
              simp only [Prod.mk.sizeOf_spec] at hfield
              omega
            -- The fault is in the value of the field, or deeper down.
            rcases fault_of_check inner hcheck with hinner | ⟨table', holder, hreads, hfault⟩
            · exact ⟨table, value, .self hvalue, _, hmem, .held hheld hpart hinner⟩
            · exact ⟨table', holder, .field hmem hheld hpart hreads, hfault⟩
termination_by grammar

/-! ## All fields of a grammar -/

mutual

def allFields : Grammar → List (String × Arity × Grammar)
  | record _ table => tableFields table
  | _ => []

def tableFields : List (String × Arity × Grammar) → List (String × Arity × Grammar)
  | [] => []
  | (key, arity, grammar) :: rest =>
      (key, arity, grammar) :: (allFields grammar ++ tableFields rest)

end

theorem mem_tableFields {table : Table} {key : String} {arity : Arity} {grammar : Grammar}
    (hmem : (key, arity, grammar) ∈ table) :
    (key, arity, grammar) ∈ tableFields table ∧
      ∀ field ∈ allFields grammar, field ∈ tableFields table := by
  induction table with
  | nil => cases hmem
  | cons first rest ih =>
      obtain ⟨key', arity', grammar'⟩ := first
      simp only [tableFields, List.mem_cons, List.mem_append]
      rcases List.mem_cons.mp hmem with heq | hrest
      · cases heq
        exact ⟨.inl rfl, fun field hfield => .inr (.inl hfield)⟩
      · obtain ⟨hself, hinner⟩ := ih hrest
        exact ⟨.inr (.inr hself), fun field hfield => .inr (.inr (hinner field hfield))⟩

/-- What is read for a grammar is read by a table of it. -/
theorem Reads.mem_allFields {grammar : Grammar} {value holder : Json} {table : Table}
    (h : grammar.Reads value table holder) {field : String × Arity × Grammar}
    (hmem : field ∈ table) : field ∈ grammar.allFields := by
  induction h with
  | self hobject => exact (mem_tableFields hmem).1
  | field hfield _ _ _ ih => exact (mem_tableFields hfield).2 field (ih hmem)

def isRecord : Grammar → Bool
  | record .. => true
  | _ => false

def isBytes : Grammar → Bool
  | bytes => true
  | _ => false

def isName : Grammar → Bool
  | name _ => true
  | _ => false

/-- What is read by a table is the object itself, or is read for a field that holds records. -/
theorem Reads.cases_record {label : String} {table inner : Table} {value holder : Json}
    (h : (record label table).Reads value inner holder) :
    inner = table ∧ holder = value ∨
      ∃ key arity label' table' held part, (key, arity, record label' table') ∈ table ∧
        value.present? key = some held ∧ arity.Holds held part ∧
        (record label' table').Reads part inner holder := by
  cases h with
  | self hobject => exact .inl ⟨rfl, rfl⟩
  | field hmem hheld hpart hreads =>
      refine .inr ?_
      cases hreads with
      | self hobject => exact ⟨_, _, _, _, _, _, hmem, hheld, hpart, .self hobject⟩
      | field hmem' hheld' hpart' hreads' =>
          exact ⟨_, _, _, _, _, _, hmem, hheld, hpart, .field hmem' hheld' hpart' hreads'⟩

/-- By a table without records nothing is read but the object itself. -/
theorem Reads.eq_of_flat {label : String} {table inner : Table} {value holder : Json}
    (hflat : ∀ field ∈ table, field.2.2.isRecord = false)
    (h : (record label table).Reads value inner holder) : inner = table ∧ holder = value := by
  rcases h.cases_record with hself | ⟨key, arity, label', table', held, part, hmem, -⟩
  · exact hself
  · cases hflat _ hmem

end Grammar

/-- What a field holds is not of the expected shape: it is no array where a list is expected, or has
a part, an item of the list there and else all of it, that is not of a shape its grammar asks
for. -/
def IsMisshapen (field : String × Arity × Grammar) (held : Json) (expected : Shape) : Prop :=
  (field.2.1 = .many ∧ expected = .array ∧ ¬ Shape.array.Holds held) ∨
    ∃ part, field.2.1.Holds held part ∧ expected ∈ field.2.2.shapes ∧ ¬ expected.Holds part

def DecodeError.field? : DecodeError → Option String
  | .missingField field | .invalidField field _ | .unknownVariant field _ => some field
  | _ => none

section FieldFault

variable {holder : Json} {field : String × Arity × Grammar}

theorem FieldFault.key_eq {cause : DecodeError} (h : FieldFault holder field cause) {key : String}
    (hkey : cause.field? = some key) : key = field.1 := by
  cases h with
  | missing harity habsent => exact (Option.some.inj hkey).symm
  | array hheld hnot => exact (Option.some.inj hkey).symm
  | held hheld hpart hfault =>
      cases hfault with
      | shape hmem hnot => exact (Option.some.inj hkey).symm
      | name hnot => exact (Option.some.inj hkey).symm
      | encoding hnot => cases hkey
      | object hnot => cases hkey

/-- No text is looked into but to find out what bytes it stands for. -/
theorem FieldFault.isStructural_or {cause : DecodeError} (h : FieldFault holder field cause) :
    cause.isStructural = true ∨ ∃ reason, cause = .malformedEncoding reason := by
  cases h with
  | missing harity habsent => exact .inl rfl
  | array hheld hnot => exact .inl rfl
  | held hheld hpart hfault =>
      cases hfault with
      | encoding hnot => exact .inr ⟨_, rfl⟩
      | _ => exact .inl rfl

theorem FieldFault.of_missingField {key : String}
    (h : FieldFault holder field (.missingField key)) :
    field.1 = key ∧ field.2.1 ≠ .optional ∧ holder.present? key = none := by
  cases h with
  | missing harity habsent => exact ⟨rfl, harity, habsent⟩
  | held hheld hpart hfault => cases hfault

theorem FieldFault.of_invalidField {key : String} {expected : Shape}
    (h : FieldFault holder field (.invalidField key expected)) :
    field.1 = key ∧ ∃ held, holder.present? key = some held ∧ IsMisshapen field held expected := by
  cases h with
  | array hheld hnot => exact ⟨rfl, _, hheld, .inl ⟨rfl, rfl, hnot⟩⟩
  | held hheld hpart hfault =>
      cases hfault with
      | shape hmem hnot => exact ⟨rfl, _, hheld, .inr ⟨_, hpart, hmem, hnot⟩⟩

end FieldFault

/-- No encoding is found but where bytes are expected. -/
theorem FieldFault.of_malformedEncoding {holder : Json} {key : String} {arity : Arity}
    {grammar : Grammar} {reason : Base64.Malformed}
    (h : FieldFault holder (key, arity, grammar) (.malformedEncoding reason)) :
    grammar = .bytes ∧ ∃ held text, holder.present? key = some held ∧
      arity.Holds held (.string text) ∧ ∀ bytes, text ≠ Base64.encode bytes := by
  cases h with
  | held hheld hpart hfault =>
      cases hfault with
      | encoding hnot => exact ⟨rfl, _, _, hheld, hpart, hnot⟩

/-- No strange name is found but where a name is expected. -/
theorem FieldFault.of_unknownVariant {holder : Json} {key key' text : String} {arity : Arity}
    {grammar : Grammar} (h : FieldFault holder (key, arity, grammar) (.unknownVariant key' text)) :
    key' = key ∧ ∃ names held, grammar = .name names ∧ holder.present? key = some held ∧
      arity.Holds held (.string text) ∧ text ∉ names := by
  cases h with
  | held hheld hpart hfault =>
      cases hfault with
      | name hnot => exact ⟨rfl, _, _, rfl, hheld, hpart, hnot⟩

namespace Json

theorem requireString_eq_error_iff {value : Json} {key : String} {cause : DecodeError} :
    value.requireString key = .error cause ↔ FieldFault value (key, .one, .text) cause := by
  constructor
  · intro h
    have hcheck := (requireString_failsAs value key).error_iff.mp h
    rcases Arity.check_eq_error hcheck with ⟨hone, habsent, rfl⟩ | ⟨held, hheld, hfault⟩
    · exact .missing hone habsent
    · rcases hfault with ⟨hmany, -⟩ | ⟨part, hpart, hpartCheck⟩
      · cases hmany
      · have hshape := asString_eq_error (verdict_eq_error_iff.mp hpartCheck)
        exact .held hheld hpart (Grammar.fault_of_shape List.mem_cons_self hshape)
  · intro h
    cases h with
    | missing _ habsent =>
        rw [requireString, require, habsent]
        rfl
    | held hheld hpart hfault =>
        cases hpart
        cases hfault with
        | shape hmem hnot =>
            rw [List.mem_singleton.mp hmem] at hnot ⊢
            rw [requireString, require, hheld]
            exact asString_of_not_holds hnot

end Json

end ControlStream

import ControlStream.Proofs.Wire.Canonical

/-!
# Tables of what is read

The reads of a record follow a table: its fields in the order in which they are read, how often
each may occur and what it has to hold. Whether a record can be read, and what is reported if it
cannot, is then a matter of the table alone.
-/

namespace ControlStream

open Json

/-- How large an unsigned integer may be, and what a larger one is reported as. -/
inductive WordSize where
  | bits16
  | bits32
  | fitting32
  | fitting64
  deriving DecidableEq, Repr

namespace WordSize

def bits : WordSize → Nat
  | bits16 => 16
  | bits32 | fitting32 => 32
  | fitting64 => 64

def shape : WordSize → Shape
  | bits16 => .bits16
  | bits32 => .bits32
  | fitting32 => .fitting32
  | fitting64 => .fitting64

theorem bits_le (size : WordSize) : size.bits ≤ 64 := by
  cases size <;> decide

end WordSize

def ScalarRole.size : ScalarRole → WordSize
  | .valueSubkey | .valueSeqNum => .fitting32
  | _ => .fitting64

/-- What is left of a read when its value is dropped. -/
def verdict {α : Type} (read : Except DecodeError α) : Except DecodeError Unit :=
  read.map fun _ => ()

/-- A read that fails when a check does, and as it does. -/
def FailsAs {α : Type} (read : Except DecodeError α) (check : Except DecodeError Unit) : Prop :=
  verdict read = check

/-- How often a field occurs: once, at most once, or any number of times in an array. -/
inductive Arity where
  | one
  | optional
  | many
  deriving DecidableEq, Repr

namespace Arity

def check (arity : Arity) (value : Json) (key : String)
    (checkHeld : Json → Except DecodeError Unit) : Except DecodeError Unit :=
  match arity with
  | one => do checkHeld (← value.require key)
  | optional =>
      match value.present? key with
      | none => .ok ()
      | some held => checkHeld held
  | many => do forM (← value.requireArray key) checkHeld

def form : Arity → Form → Form
  | many, item => .list item
  | _, item => item

end Arity

/-- What a value has to be: a leaf of some kind, or an object with the fields of a table. -/
inductive Grammar where
  | text
  | flag
  | integer (size : WordSize)
  | decimal
  | bytes
  | name (names : List String)
  | fields
  | record (label : String) (table : List (String × Arity × Grammar))

namespace Grammar

abbrev Table := List (String × Arity × Grammar)

mutual

def check : Grammar → String → Json → Except DecodeError Unit
  | text, key, value => verdict (value.asString key)
  | flag, key, value => verdict (value.asBool key)
  | integer size, key, value => verdict (value.asNarrow size.bits size.shape key)
  | decimal, key, value => verdict (value.asNarrow 64 .fitting64 key)
  | bytes, key, value => do verdict (bytesOfText (← value.asString key))
  | name names, key, value => do
      let text ← value.asString key
      if text ∈ names then .ok () else .error (.unknownVariant key text)
  | fields, key, value => verdict (value.asObject key)
  | record label table, _, value => do
      let _ ← value.asRecord label
      checkFields table value

def checkFields : List (String × Arity × Grammar) → Json → Except DecodeError Unit
  | [], _ => .ok ()
  | (key, arity, grammar) :: rest, value => do
      arity.check value key fun held => check grammar key held
      checkFields rest value

end

mutual

/-- The form in which a value of a grammar is written. -/
def form : Grammar → Form
  | integer _ => .integer
  | decimal => .decimal
  | record _ table => .record (forms table)
  | _ => .same

def forms : List (String × Arity × Grammar) → List (String × Form)
  | [] => []
  | (key, arity, grammar) :: rest => (key, arity.form (form grammar)) :: forms rest

end

theorem check_record (label : String) (table : Table) (key : String) (value : Json) :
    check (.record label table) key value =
      value.asRecord label >>= fun _ => checkFields table value := rfl

theorem checkFields_cons (key : String) (arity : Arity) (grammar : Grammar) (rest : Table)
    (value : Json) :
    checkFields ((key, arity, grammar) :: rest) value =
      arity.check value key (grammar.check key) >>= fun _ => checkFields rest value := rfl

end Grammar

/-! ## Reads that fail as a check does -/

section FailsAs

variable {α β : Type} {read : Except DecodeError α} {check : Except DecodeError Unit}

theorem FailsAs.refl (read : Except DecodeError α) : FailsAs read (verdict read) := rfl

theorem FailsAs.error_iff (h : FailsAs read check) {cause : DecodeError} :
    read = .error cause ↔ check = .error cause := by
  subst h
  cases read <;> simp [verdict, Except.map]

theorem FailsAs.map (h : FailsAs read check) (f : α → β) : FailsAs (read.map f) check := by
  subst h
  cases read <;> rfl

theorem FailsAs.bind_pure (h : FailsAs read check) (f : α → β) :
    FailsAs (read >>= fun x => pure (f x)) check := by
  subst h
  cases read <;> rfl

theorem FailsAs.bind (h : FailsAs read check) {rest : α → Except DecodeError β}
    {others : Except DecodeError Unit} (hrest : ∀ x, FailsAs (rest x) others) :
    FailsAs (read >>= rest) (check >>= fun _ => others) := by
  subst h
  cases read with
  | error cause => rfl
  | ok x => exact hrest x

end FailsAs

theorem find?_eq_none_of_notMem_names {α : Type} {all : List α} {name : α → String}
    {text : String} (h : text ∉ all.map name) : all.find? (fun x => name x == text) = none := by
  rw [List.find?_eq_none]
  intro x hmem heq
  exact h (List.mem_map.mpr ⟨x, hmem, by simpa using heq⟩)

namespace Json

open Grammar

variable {value : Json} {key : String}

/-- Every integer of 64 bits fits in 64 bits. -/
theorem asUnsigned_failsAs :
    FailsAs (value.asUnsigned key) ((Grammar.integer .fitting64).check key value) := by
  show verdict _ = verdict (value.asNarrow 64 .fitting64 key)
  rw [asNarrow]
  cases value.asUnsigned key with
  | error cause => rfl
  | ok n =>
      have hfits : narrow? 64 n = some n := by
        have h := narrow?_setWidth (Nat.le_refl 64) n
        rwa [BitVec.setWidth_eq] at h
      simp [verdict, hfits]

/-! ### One field -/

section Field

variable (value : Json) (key : String) {α : Type} {read : Json → Except DecodeError α}
  {grammar : Grammar}

theorem require_failsAs (h : ∀ held, FailsAs (read held) (grammar.check key held)) :
    FailsAs (value.require key >>= read) (Arity.one.check value key (grammar.check key)) := by
  cases hheld : value.require key with
  | error cause =>
      simp only [Arity.check, hheld]
      rfl
  | ok held =>
      simp only [Arity.check, hheld]
      exact h held

theorem optional_failsAs (h : ∀ held, FailsAs (read held) (grammar.check key held)) :
    FailsAs (match value.present? key with
        | none => .ok none
        | some held => (read held).map some)
      (Arity.optional.check value key (grammar.check key)) := by
  rw [Arity.check]
  cases value.present? key with
  | none => rfl
  | some held => exact (h held).map some

theorem requireString_failsAs :
    FailsAs (value.requireString key) (Arity.one.check value key (Grammar.text.check key)) :=
  require_failsAs value key fun _ => rfl

theorem optionalString_failsAs :
    FailsAs (value.optionalString key)
      (Arity.optional.check value key (Grammar.text.check key)) :=
  optional_failsAs value key fun _ => rfl

theorem requireBool_failsAs :
    FailsAs (value.requireBool key) (Arity.one.check value key (Grammar.flag.check key)) :=
  require_failsAs value key fun _ => rfl

theorem requireObject_failsAs :
    FailsAs (value.requireObject key) (Arity.one.check value key (Grammar.fields.check key)) :=
  require_failsAs value key fun _ => rfl

theorem requireUnsigned32_failsAs :
    FailsAs (value.requireUnsigned32 key)
      (Arity.one.check value key ((Grammar.integer .bits32).check key)) :=
  require_failsAs value key fun _ => rfl

theorem requireUnsigned64_failsAs :
    FailsAs (value.requireUnsigned64 key)
      (Arity.one.check value key ((Grammar.integer .fitting64).check key)) :=
  require_failsAs value key fun _ => asUnsigned_failsAs

theorem requireBytes_failsAs :
    FailsAs (value.requireBytes key) (Arity.one.check value key (Grammar.bytes.check key)) := by
  have hread : ∀ held : Json, FailsAs (held.asString key >>= bytesOfText)
      (Grammar.bytes.check key held) := by
    intro held
    show verdict _ = held.asString key >>= fun text => verdict (bytesOfText text)
    cases held.asString key <;> rfl
  have hassoc : value.requireBytes key =
      value.require key >>= fun held => held.asString key >>= bytesOfText :=
    bind_assoc _ _ _
  rw [hassoc]
  exact require_failsAs value key hread

/-- A text that has to be one of the names, and what is read after it. -/
theorem requireName_failsAs {β : Type} {ofName : String → Except DecodeError α}
    {names : List String} (hok : ∀ text ∈ names, ∃ x, ofName text = .ok x)
    (herror : ∀ text ∉ names, ofName text = .error (.unknownVariant key text))
    {rest : α → Except DecodeError β} {others : Except DecodeError Unit}
    (hrest : ∀ x, FailsAs (rest x) others) :
    FailsAs (value.requireString key >>= fun text => ofName text >>= rest)
      (Arity.one.check value key ((Grammar.name names).check key) >>= fun _ => others) := by
  have hread : ∀ held : Json, FailsAs (held.asString key >>= ofName)
      ((Grammar.name names).check key held) := by
    intro held
    show verdict _ = held.asString key >>= fun text =>
      if text ∈ names then .ok () else .error (.unknownVariant key text)
    cases held.asString key with
    | error cause => rfl
    | ok text =>
        by_cases hmem : text ∈ names
        · obtain ⟨x, hx⟩ := hok text hmem
          simp [verdict, hx, hmem, Except.map]
        · simp [verdict, herror text hmem, hmem, Except.map]
  have hassoc : (value.requireString key >>= fun text => ofName text >>= rest) =
      (value.require key >>= fun held => held.asString key >>= ofName) >>= rest := by
    simp only [requireString, bind_assoc]
  rw [hassoc]
  exact (require_failsAs value key hread).bind hrest

variable [Wire α]

theorem requireField_failsAs
    (h : ∀ held, FailsAs (Wire.read key held : Except DecodeError α) (grammar.check key held)) :
    FailsAs (value.requireField key : Except DecodeError α)
      (Arity.one.check value key (grammar.check key)) :=
  require_failsAs value key h

theorem optionalField_failsAs
    (h : ∀ held, FailsAs (Wire.read key held : Except DecodeError α) (grammar.check key held)) :
    FailsAs (value.optionalField key : Except DecodeError (Option α))
      (Arity.optional.check value key (grammar.check key)) :=
  optional_failsAs value key h

theorem readItems_failsAs
    (h : ∀ held, FailsAs (Wire.read key held : Except DecodeError α) (grammar.check key held))
    (items : List Json) :
    FailsAs (readItems key items : Except DecodeError (List α))
      (forM items (grammar.check key)) := by
  induction items with
  | nil => rfl
  | cons item items ih =>
      rw [List.forM_cons]
      exact (h item).bind fun _ => ih.bind_pure _

theorem requireList_failsAs
    (h : ∀ held, FailsAs (Wire.read key held : Except DecodeError α) (grammar.check key held)) :
    FailsAs (value.requireList key : Except DecodeError (List α))
      (Arity.many.check value key (grammar.check key)) := by
  rw [requireList, Arity.check]
  cases value.requireArray key with
  | error cause => rfl
  | ok items => exact readItems_failsAs key h items

end Field

/-! ### Records -/

theorem record_failsAs {α : Type} {label : String} {table : Table}
    {rest : Fields → Except DecodeError α}
    (hrest : ∀ fields, FailsAs (rest fields) (checkFields table value)) :
    FailsAs (value.asRecord label >>= rest) ((Grammar.record label table).check key value) := by
  rw [check_record]
  cases value.asRecord label with
  | error cause => rfl
  | ok fields => exact hrest fields

end Json

/-! ## Leaves -/

theorem Opaque.failsAs {role : OpaqueRole} (key : String) (value : Json) :
    FailsAs (Wire.read key value : Except DecodeError (Opaque role))
      (Grammar.text.check key value) :=
  (FailsAs.refl (value.asString key)).map Opaque.mk

theorem Typed.failsAs {α : Type} [Payload α] (key : String) (value : Json) :
    FailsAs (Wire.read key value : Except DecodeError (Typed α)) (Grammar.text.check key value) :=
  (FailsAs.refl (value.asString key)).map Typed.mk

theorem Scalar.failsAs {role : ScalarRole} (key : String) (value : Json) :
    FailsAs (Wire.read key value : Except DecodeError (Scalar role))
      ((Grammar.integer role.size).check key value) := by
  have hread : FailsAs (value.asNarrow role.width role.tooWide key)
      ((Grammar.integer role.size).check key value) := by
    cases role <;> rfl
  exact hread.map Scalar.mk

/-- An operation id is written in digits and read as any number of 64 bits. -/
theorem Scalar.decimal_failsAs (key : String) (value : Json) :
    FailsAs (Wire.read key value : Except DecodeError OperationId)
      (Grammar.decimal.check key value) :=
  Scalar.failsAs key value

end ControlStream

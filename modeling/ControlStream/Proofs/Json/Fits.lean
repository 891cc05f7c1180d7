import ControlStream.Json.Reader
import ControlStream.Proofs.Wire.Canonical

/-!
# Values that a reader can make

Whatever is read from a text has its objects in key order and opens no more containers at once than
the reader allows. Every step of the reader keeps this of the containers that are open. Writing a
record of such a value by its table makes such a value again.
-/

namespace ControlStream

namespace Json

/-- A value with at most `room` containers around each other, with every object in key order and
with no double that is not `ok`. -/
inductive Fits (ok : Double → Prop) : Nat → Json → Prop where
  | null {room : Nat} : Fits ok room .null
  | bool {room : Nat} {b : Bool} : Fits ok room (.bool b)
  | number {room : Nat} {n : JsonNumber} (hdouble : ∀ x, n = .double x → ok x) :
      Fits ok room (.number n)
  | string {room : Nat} {s : String} : Fits ok room (.string s)
  | array {room : Nat} {items : List Json} (hitems : ∀ item ∈ items, Fits ok room item) :
      Fits ok (room + 1) (.array items)
  | object {room : Nat} {fields : Fields} (hsorted : fields.Sorted)
      (hfields : ∀ field ∈ fields, Fits ok room field.2) : Fits ok (room + 1) (.object fields)

/-! ## Doubles of a value -/

mutual

def doubles : Json → List Double
  | .number (.double x) => [x]
  | .array items => itemDoubles items
  | .object fields => fieldDoubles fields
  | _ => []

def itemDoubles : List Json → List Double
  | [] => []
  | item :: items => doubles item ++ itemDoubles items

def fieldDoubles : List (String × Json) → List Double
  | [] => []
  | (_, value) :: fields => doubles value ++ fieldDoubles fields

end

theorem mem_itemDoubles {items : List Json} {item : Json} (hmem : item ∈ items) {x : Double}
    (hx : x ∈ item.doubles) : x ∈ itemDoubles items := by
  induction items with
  | nil => cases hmem
  | cons first rest ih =>
      rw [itemDoubles, List.mem_append]
      rcases List.mem_cons.mp hmem with rfl | hrest
      · exact .inl hx
      · exact .inr (ih hrest)

theorem mem_fieldDoubles {fields : Fields} {field : String × Json} (hmem : field ∈ fields)
    {x : Double} (hx : x ∈ field.2.doubles) : x ∈ fieldDoubles fields := by
  induction fields with
  | nil => cases hmem
  | cons first rest ih =>
      rw [fieldDoubles, List.mem_append]
      rcases List.mem_cons.mp hmem with rfl | hrest
      · exact .inl hx
      · exact .inr (ih hrest)

/-- Doubles are found nowhere but in the list of them. -/
theorem Fits.of_doubles {ok ok' : Double → Prop} {room : Nat} {value : Json}
    (h : value.Fits ok room) (hok : ∀ x ∈ value.doubles, ok' x) : value.Fits ok' room := by
  induction h with
  | null => exact .null
  | bool => exact .bool
  | number => exact .number fun x hx => hok x (by rw [hx, doubles]; exact List.mem_cons_self)
  | string => exact .string
  | array _ ih =>
      exact .array fun item hmem => ih item hmem fun x hx => hok x (mem_itemDoubles hmem hx)
  | object hsorted _ ih =>
      exact .object hsorted fun field hmem =>
        ih field hmem fun x hx => hok x (mem_fieldDoubles hmem hx)

theorem Fits.of_mem_items {ok : Double → Prop} {room : Nat} {value item : Json}
    (h : value.Fits ok (room + 1)) (hmem : item ∈ value.items) : item.Fits ok room := by
  cases h with
  | array hitems => exact hitems item hmem
  | _ => cases hmem

theorem Fits.of_get? {ok : Double → Prop} {room : Nat} {value held : Json} {key : String}
    (h : value.Fits ok (room + 1)) (hheld : value.get? key = some held) : held.Fits ok room := by
  cases h with
  | object _ hfields => exact hfields _ (Fields.mem_of_get? hheld)
  | _ => cases hheld

/-! ## Values that are read -/

abbrev anyDouble (_ : Double) : Prop := True

theorem fits_number {room : Nat} (n : JsonNumber) : (number n).Fits anyDouble room :=
  .number fun _ _ => trivial

/-- What a container holds so far fits in the room that is left inside of it. -/
def Frame.Fits (room : Nat) : Frame → Prop
  | .array done => ∀ item ∈ done, item.Fits anyDouble room
  | .object done _ => ∀ field ∈ done, field.2.Fits anyDouble room

/-- The open containers hold what fits, when `room` is left inside of the innermost. -/
def FramesFit : (room : Nat) → List Frame → Prop
  | room, [] => room = Place.maxDepth
  | room, frame :: outer => frame.Fits room ∧ FramesFit (room + 1) outer

theorem FramesFit.room_add_length {room : Nat} {frames : List Frame} (h : FramesFit room frames) :
    room + frames.length = Place.maxDepth := by
  induction frames generalizing room with
  | nil => exact h
  | cons frame outer ih =>
      have houter := ih h.2
      rw [List.length_cons]
      omega

namespace Place

def frames : Place → List Frame
  | nextValue outer => outer
  | firstItem outer => .array [] :: outer
  | afterItem done outer => .array done :: outer
  | firstKey outer => .object [] "" :: outer
  | nextKey done outer => .object done "" :: outer
  | colon done key outer => .object done key :: outer
  | afterField done outer => .object done "" :: outer
  | finished _ => []

def Fits : Place → Prop
  | finished value => value.Fits anyDouble maxDepth
  | place => ∃ room, FramesFit room place.frames

variable {place next : Place} {outer : List Frame} {room : Nat}

theorem fits_deliver {value : Json} (hvalue : value.Fits anyDouble room)
    (houter : FramesFit room outer) : (deliver value outer).Fits := by
  cases outer with
  | nil =>
      cases houter
      exact hvalue
  | cons frame outer =>
      obtain ⟨hframe, hrest⟩ := houter
      cases frame with
      | array done => exact ⟨room, List.forall_mem_cons.mpr ⟨hvalue, hframe⟩, hrest⟩
      | object done key => exact ⟨room, List.forall_mem_cons.mpr ⟨hvalue, hframe⟩, hrest⟩

theorem fits_openMark {mark : Mark} (houter : FramesFit room outer)
    (h : openMark mark outer = some next) : next.Fits := by
  have hroom := houter.room_add_length
  unfold openMark at h
  split at h
  · cases h
  · next hfree =>
      -- There is room for one more container.
      obtain ⟨less, rfl⟩ : ∃ less, room = less + 1 := ⟨room - 1, by omega⟩
      cases mark <;> cases h
      · exact ⟨less, List.forall_mem_nil _, houter⟩
      · exact ⟨less, List.forall_mem_nil _, houter⟩

theorem fits_scalar {value : Json} (hvalue : ∀ room, value.Fits anyDouble room)
    (hplace : place.Fits) (h : place.scalar value = some next) : next.Fits := by
  cases place with
  | nextValue outer =>
      cases h
      obtain ⟨room, houter⟩ := hplace
      exact fits_deliver (hvalue room) houter
  | firstItem outer =>
      cases h
      obtain ⟨room, houter⟩ := hplace
      exact fits_deliver (hvalue room) houter
  | _ => cases h

theorem fits_text {s : String} (hplace : place.Fits) (h : place.text s = some next) :
    next.Fits := by
  cases place with
  | firstKey outer =>
      cases h
      exact hplace
  | nextKey done outer =>
      cases h
      exact hplace
  | _ => exact @fits_scalar _ _ (.string s) (fun _ => .string) hplace h

theorem fits_ofMembers {members : List (String × Json)}
    (h : ∀ member ∈ members, member.2.Fits anyDouble room) :
    (ofMembers members).Fits anyDouble (room + 1) :=
  .object (Fields.sorted_ofList _) fun _ hmem => h _ (Fields.mem_of_mem_ofList hmem)

theorem fits_mark {mark : Mark} (hplace : place.Fits) (h : place.mark mark = some next) :
    next.Fits := by
  cases place with
  | nextValue outer =>
      obtain ⟨room, houter⟩ := hplace
      exact fits_openMark houter h
  | firstItem outer =>
      obtain ⟨room, hframe, houter⟩ := hplace
      simp only [Place.mark] at h
      split at h
      · cases h
        exact fits_deliver (.array (List.forall_mem_nil _)) houter
      · have hinside : FramesFit room (.array [] :: outer) := ⟨hframe, houter⟩
        exact fits_openMark hinside h
  | afterItem done outer =>
      obtain ⟨room, hdone, houter⟩ := hplace
      cases mark <;> cases h
      · exact fits_deliver (.array fun item hmem => hdone item (List.mem_reverse.mp hmem)) houter
      · exact ⟨room, hdone, houter⟩
  | firstKey outer =>
      obtain ⟨room, hdone, houter⟩ := hplace
      cases mark <;> cases h
      exact fits_deliver (.object Fields.sorted_nil (List.forall_mem_nil _)) houter
  | nextKey done outer => cases h
  | colon done key outer =>
      cases mark <;> cases h
      exact hplace
  | afterField done outer =>
      obtain ⟨room, hdone, houter⟩ := hplace
      cases mark <;> cases h
      · exact fits_deliver
          (fits_ofMembers fun field hmem => hdone field (List.mem_reverse.mp hmem)) houter
      · exact ⟨room, hdone, houter⟩
  | finished value => cases h

end Place

theorem fits_of_ofWord? {word : List Char} {value : Json} (h : ofWord? word = some value)
    (room : Nat) : value.Fits anyDouble room := by
  unfold ofWord? at h
  split at h
  · cases h
    exact .null
  split at h
  · cases h
    exact .bool
  split at h
  · cases h
    exact .bool
  · obtain ⟨numeral, -, hnumeral⟩ := Option.bind_eq_some_iff.mp h
    obtain ⟨number, -, rfl⟩ := Option.map_eq_some_iff.mp hnumeral
    exact fits_number number

namespace Reader

variable {place : Place} {reader next : Reader}

theorem fits_begin {c : Char} (hplace : place.Fits) (h : begin place c = some next) :
    next.place.Fits := by
  unfold begin at h
  split at h
  · cases h
    exact hplace
  split at h
  · cases h
    exact hplace
  split at h
  · obtain ⟨after, hafter, rfl⟩ := Option.map_eq_some_iff.mp h
    exact Place.fits_mark hplace hafter
  · cases h
    exact hplace

theorem fits_closeWord {chars : List Char} {after : Place} (hplace : place.Fits)
    (h : closeWord chars place = some after) : after.Fits := by
  obtain ⟨value, hvalue, hscalar⟩ := Option.bind_eq_some_iff.mp h
  exact Place.fits_scalar (fits_of_ofWord? hvalue) hplace hscalar

/-- A step makes nothing that does not fit. -/
theorem fits_step {c : Char} (hplace : reader.place.Fits) (h : reader.step c = some next) :
    next.place.Fits := by
  obtain ⟨scan, place⟩ := reader
  -- The place changes only at the end of a token, where a string, a word or a mark is taken.
  cases scan with
  | between => exact fits_begin hplace h
  | word chars =>
      simp only [step] at h
      split at h
      · cases h
        exact hplace
      · obtain ⟨after, hafter, hbegin⟩ := Option.bind_eq_some_iff.mp h
        exact fits_begin (fits_closeWord hplace hafter) hbegin
  | text chars =>
      simp only [step] at h
      split at h
      · obtain ⟨after, hafter, rfl⟩ := Option.map_eq_some_iff.mp h
        exact Place.fits_text hplace hafter
      split at h
      · cases h
        exact hplace
      split at h
      · cases h
      · cases h
        exact hplace
  | escape chars =>
      simp only [step] at h
      split at h
      · cases h
        exact hplace
      · obtain ⟨d, -, rfl⟩ := Option.map_eq_some_iff.mp h
        exact hplace
  | unit chars high count unit =>
      obtain ⟨digit, -, hdigit⟩ := Option.bind_eq_some_iff.mp h
      split at hdigit
      · cases hdigit
        exact hplace
      · obtain ⟨scan, -, rfl⟩ := Option.map_eq_some_iff.mp hdigit
        exact hplace
  | lowEscape chars high =>
      simp only [step] at h
      split at h
      · cases h
        exact hplace
      · cases h
  | lowLetter chars high =>
      simp only [step] at h
      split at h
      · cases h
        exact hplace
      · cases h

theorem fits_foldlM {text : List Char} (hplace : reader.place.Fits)
    (h : text.foldlM step reader = some next) : next.place.Fits := by
  induction text generalizing reader with
  | nil =>
      cases h
      exact hplace
  | cons c text ih =>
      rw [List.foldlM_cons] at h
      obtain ⟨after, hafter, hrest⟩ := Option.bind_eq_some_iff.mp h
      exact ih (fits_step hplace hafter) hrest

theorem fits_finish {value : Json} (hplace : reader.place.Fits)
    (h : reader.finish = some value) : value.Fits anyDouble Place.maxDepth := by
  obtain ⟨scan, place⟩ := reader
  unfold finish at h
  split at h
  · next hscan hfinished =>
      cases h
      change place = _ at hfinished
      rw [hfinished] at hplace
      exact hplace
  · split at h
    · next hclose =>
        cases h
        exact fits_closeWord hplace hclose
    · cases h
  · cases h

end Reader

theorem fits_of_ofChars? {text : List Char} {value : Json} (h : ofChars? text = some value) :
    value.Fits anyDouble Place.maxDepth := by
  obtain ⟨reader, hreader, hfinish⟩ := Option.bind_eq_some_iff.mp h
  have hstart : Reader.start.place.Fits := ⟨Place.maxDepth, rfl⟩
  exact Reader.fits_finish (Reader.fits_foldlM hstart hreader) hfinish

end Json

/-! ## Values that are written by a table -/

namespace Form

open Json

mutual

/-- How many containers a form puts around each other. -/
def depth : Form → Nat
  | list item => depth item + 1
  | record fields => fieldsDepth fields + 1
  | _ => 0

def fieldsDepth : List (String × Form) → Nat
  | [] => 0
  | (_, form) :: rest => max (depth form) (fieldsDepth rest)

end

variable {ok : Double → Prop}

mutual

/-- Writing by a table needs no more room than there was, if there was enough for the table. -/
theorem fits_canonical (form : Form) {room : Nat} {value : Json} (hdepth : form.depth ≤ room)
    (h : value.Fits ok room) : (form.canonical value).Fits ok room := by
  cases form with
  | same => exact h
  | integer => exact .number nofun
  | decimal => exact .string
  | list item =>
      obtain ⟨less, rfl⟩ := Nat.exists_eq_add_of_le' (Nat.le_trans (Nat.le_add_left 1 _) hdepth)
      refine .array fun written hwritten => ?_
      obtain ⟨held, hheld, rfl⟩ := List.mem_map.mp hwritten
      exact fits_canonical item (Nat.le_of_succ_le_succ hdepth) (h.of_mem_items hheld)
  | record fields =>
      obtain ⟨less, rfl⟩ := Nat.exists_eq_add_of_le' (Nat.le_trans (Nat.le_add_left 1 _) hdepth)
      refine .object (Fields.sorted_ofList _) fun member hmember => ?_
      exact fits_canonicalMembers fields (Nat.le_of_succ_le_succ hdepth) h member
        (Fields.mem_of_mem_ofList hmember)

theorem fits_canonicalMembers (fields : List (String × Form)) {room : Nat} {value : Json}
    (hdepth : fieldsDepth fields ≤ room) (h : value.Fits ok (room + 1)) :
    ∀ member ∈ canonicalMembers fields value, member.2.Fits ok room := by
  cases fields with
  | nil => exact List.forall_mem_nil _
  | cons field rest =>
      obtain ⟨key, form⟩ := field
      obtain ⟨hform, hrest⟩ := Nat.max_le.mp hdepth
      rw [canonicalMembers_cons]
      refine List.forall_mem_cons.mpr ⟨?_, fits_canonicalMembers rest hrest h⟩
      rw [canonicalField]
      cases hheld : value.get? key with
      | none => exact .null
      | some held =>
          have hwritten := fits_canonical form hform (h.of_get? hheld)
          cases held with
          | null => exact .null
          | _ => exact hwritten

end

end Form

end ControlStream

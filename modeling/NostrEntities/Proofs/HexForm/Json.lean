import Mathlib
import NostrEntities.HexForm.Json
import NostrEntities.Proofs.Outcome

/-!
# Forms and their objects

The object of a form has no member twice, and of the members of an object only the first
of each name that a form knows is read. So a form is read back from its object, and members
of other names change nothing.
-/

namespace NostrEntities.Json

variable {α : Type} {name other : String} {value : Option Json}
variable {members : List (String × Json)} {cells : List (String × Option Json)}

/-! ## Members that may be left out -/

/-- The members of an object any of which may be left out. -/
def present (cells : List (String × Option Json)) : List (String × Json) :=
  cells.flatMap fun cell => optionalMember cell.1 cell.2

theorem present_cons (cell : String × Option Json) (cells : List (String × Option Json)) :
    present (cell :: cells) = optionalMember cell.1 cell.2 ++ present cells :=
  List.flatMap_cons

theorem lookup_optionalMember_self (name : String) (value : Option Json) :
    (optionalMember name value).lookup name = value := by
  cases value <;> simp [optionalMember]

theorem lookup_optionalMember_of_ne (different : name ≠ other) :
    (optionalMember other value).lookup name = none := by
  have distinguished : (name == other) = false := beq_eq_false_iff_ne.mpr different
  cases value <;> simp [optionalMember, List.lookup_cons, distinguished]

/-- What is written keeps the order of the names. -/
theorem keys_present_sublist (cells : List (String × Option Json)) :
    ((present cells).map Prod.fst).Sublist (cells.map Prod.fst) := by
  induction cells with
  | nil => exact List.Sublist.refl _
  | cons cell rest ih =>
      obtain ⟨name, value⟩ := cell
      rw [present_cons, List.map_append, List.map_cons]
      cases value with
      | none => exact ih.cons name
      | some value => exact ih.cons_cons name

/-- Under names that differ, every value is found, and those that are left out are not. -/
theorem member?_present (distinct : (cells.map Prod.fst).Nodup)
    (listed : (name, value) ∈ cells) : member? (present cells) name = value := by
  rw [member?]
  induction cells with
  | nil => exact absurd listed List.not_mem_nil
  | cons cell rest ih =>
      rw [List.map_cons, List.nodup_cons] at distinct
      rw [present_cons, List.lookup_append]
      rcases List.mem_cons.mp listed with rfl | listed
      · have unlisted : (present rest).lookup name = none := by
          rw [List.lookup_eq_none_iff]
          intro member written
          rw [bne_iff_ne]
          rintro rfl
          exact distinct.1 ((keys_present_sublist rest).subset
            (List.mem_map_of_mem written))
        rw [lookup_optionalMember_self, unlisted, Option.or_none]
      · have different : name ≠ cell.1 := by
          rintro rfl
          exact distinct.1 (List.mem_map.mpr ⟨_, listed, rfl⟩)
        rw [lookup_optionalMember_of_ne different, Option.none_or, ih distinct.2 listed]

/-! ## Values that are read back -/

/-- A member that is left out when there is no value is read as the value, if the value
itself is read back and is not written as null. -/
theorem readOptional_eq_ok {read : Reader α} {write : α → Json} {value : Option α}
    (readBack : ∀ value, read (write value) = .ok value)
    (present : ∀ value, write value ≠ .null)
    (found : member? members name = value.map write) :
    readOptional members name read = .ok value := by
  rw [readOptional, found]
  cases value with
  | none => rfl
  | some value =>
      show readNullable read (write value) = _
      rw [readNullable.eq_def]
      split
      · rename_i null
        exact absurd null (present value)
      · rw [readBack]
        rfl

theorem readEventKind_toJson (kind : UInt32) :
    readEventKind (EventKind.toJson kind) = .ok kind := by
  have small : (kind.toNat : Int) < UInt32.size := by
    exact_mod_cast kind.toNat_lt
  rw [EventKind.toJson, readEventKind, if_pos ⟨Int.natCast_nonneg _, small⟩,
    Int.toNat_natCast, UInt32.ofNat_toNat]

theorem readList_ofTexts (texts : List String) :
    readList readText (.ofTexts texts) = .ok texts := by
  rw [ofTexts, readList]
  induction texts with
  | nil => rfl
  | cons text rest ih =>
      rw [List.map_cons, readEach, ih]
      rfl

end NostrEntities.Json

namespace NostrEntities.HexForm

variable {members others : List (String × Json)}

/-- The members that a form can have, with their values. The relays are left out when
there are none. -/
def cells (form : HexForm) : List (String × Option Json) := [
  ("hex", form.hex.map .text),
  ("author", form.author.map .text),
  ("kind", form.kind.map EventKind.toJson),
  ("identifier", form.identifier.map .text),
  ("relays", if form.relays = [] then none else some (.ofTexts form.relays))]

/-- The names of the members that a form can have. -/
def memberNames : List String := ["hex", "author", "kind", "identifier", "relays"]

theorem nodup_memberNames : memberNames.Nodup := by decide

theorem keys_cells (form : HexForm) : form.cells.map Prod.fst = memberNames := rfl

theorem members_eq (form : HexForm) : form.members = Json.present form.cells := by
  have relays : (if form.relays.isEmpty then [] else [("relays", .ofTexts form.relays)]) =
      Json.optionalMember "relays"
        (if form.relays = [] then none else some (.ofTexts form.relays)) := by
    cases form.relays <;> rfl
  simp only [members, relays, cells, Json.present, List.flatMap_cons, List.flatMap_nil,
    List.append_nil, List.append_assoc]

/-- The members of a form are some of those that it can have, in a fixed order. -/
theorem keys_members_sublist (form : HexForm) :
    (form.members.map Prod.fst).Sublist memberNames := by
  rw [members_eq, ← keys_cells form]
  exact Json.keys_present_sublist form.cells

/-! ## Reading back -/

/-- Reading looks at the first member of each name that a form can have, and at nothing
else. -/
theorem ofJson_congr
    (same : ∀ name ∈ memberNames, Json.member? members name = Json.member? others name) :
    ofJson (.object members) = ofJson (.object others) := by
  have optional : ∀ {α : Type} (read : Json.Reader α), ∀ name ∈ memberNames,
      Json.readOptional members name read = Json.readOptional others name read := by
    intro α read name known
    rw [Json.readOptional, Json.readOptional, same name known]
  have relays : Json.readOrElse members "relays" (Json.readList Json.readText) [] =
      Json.readOrElse others "relays" (Json.readList Json.readText) [] := by
    rw [Json.readOrElse, Json.readOrElse, same "relays" (by decide)]
  simp only [ofJson, Json.readObject, relays, optional _ "hex" (by decide),
    optional _ "author" (by decide), optional _ "kind" (by decide),
    optional _ "identifier" (by decide)]

/-- In the object of a form every member is found that has a value, and no other. -/
theorem member?_members (form : HexForm) {name : String} {value : Option Json}
    (listed : (name, value) ∈ form.cells) : Json.member? form.members name = value := by
  rw [members_eq]
  exact Json.member?_present (keys_cells form ▸ nodup_memberNames) listed

/-- A form is read back from its object: what is left out is what is the default. -/
theorem ofJson_toJson (form : HexForm) : ofJson form.toJson = .ok form := by
  have text : ∀ value : String, Json.readText (.text value) = .ok value := fun _ => rfl
  have hex : Json.readOptional form.members "hex" Json.readText = .ok form.hex :=
    Json.readOptional_eq_ok text nofun (form.member?_members (by simp [cells]))
  have author : Json.readOptional form.members "author" Json.readText = .ok form.author :=
    Json.readOptional_eq_ok text nofun (form.member?_members (by simp [cells]))
  have kind : Json.readOptional form.members "kind" Json.readEventKind = .ok form.kind :=
    Json.readOptional_eq_ok Json.readEventKind_toJson nofun
      (form.member?_members (by simp [cells]))
  have identifier :
      Json.readOptional form.members "identifier" Json.readText = .ok form.identifier :=
    Json.readOptional_eq_ok text nofun (form.member?_members (by simp [cells]))
  -- The relays have a default of their own: they are never null.
  have relays : Json.readOrElse form.members "relays" (Json.readList Json.readText) [] =
      .ok form.relays := by
    have found : Json.member? form.members "relays" =
        if form.relays = [] then none else some (.ofTexts form.relays) :=
      form.member?_members (by simp [cells])
    rw [Json.readOrElse, found]
    by_cases unset : form.relays = []
    · rw [if_pos unset, unset]
    · rw [if_neg unset]
      exact Json.readList_ofTexts form.relays
  simp only [toJson, ofJson, Json.readObject, hex, author, kind, identifier, relays,
    Except.ok_bind]
  rfl

/-! ## With the kind in front -/

/-- The name of the member with the kind of the entity is not one that a form can have. -/
theorem ne_of_mem_memberNames {name : String} (known : name ∈ memberNames) :
    name ≠ "type" := by
  rintro rfl
  exact absurd known (by decide)

theorem ne_type_of_mem_members {form : HexForm} {member : String × Json}
    (written : member ∈ form.members) : member.1 ≠ "type" :=
  ne_of_mem_memberNames
    ((keys_members_sublist form).subset (List.mem_map_of_mem written))

/-- No name stands twice in the object with the kind. -/
theorem nodup_keys_withKind (kind : Json) (form : HexForm) :
    ((("type", kind) :: form.members).map Prod.fst).Nodup := by
  rw [List.map_cons, List.nodup_cons]
  refine ⟨?_, (keys_members_sublist form).nodup nodup_memberNames⟩
  intro repeated
  obtain ⟨member, written, named⟩ := List.mem_map.mp repeated
  exact ne_type_of_mem_members written named

/-- Apart from the kind, the object with the kind is the object of the form. -/
theorem filter_withKind (kind : Json) (form : HexForm) :
    (("type", kind) :: form.members).filter (fun member => member.1 ≠ "type") =
      form.members := by
  rw [List.filter_cons_of_neg (by simp), List.filter_eq_self]
  intro member written
  exact decide_eq_true (ne_type_of_mem_members written)

/-- The kind is passed over where only the form is read. -/
theorem ofJson_toJsonWithKind (kind : Kind) (form : HexForm) :
    ofJson (form.toJsonWithKind kind) = .ok form := by
  rw [← ofJson_toJson form]
  refine ofJson_congr fun name known => ?_
  have other : (name == "type") = false :=
    beq_eq_false_iff_ne.mpr (ne_of_mem_memberNames known)
  rw [Json.member?, List.lookup_cons, other, Json.member?]

end NostrEntities.HexForm

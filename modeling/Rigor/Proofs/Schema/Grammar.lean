import Mathlib.Data.List.Forall2
import Rigor.Proofs.Check.Accepted
import Rigor.Proofs.Check.Truth
import Rigor.Schema.Reader

/-!
# The grammar of written schemas

`Describes` says which values describe which schema, one clause for each kind. A value that
describes a schema is an object that names its kind; what else it has to hold depends on the kind,
and members that the kind does not know are left out of account.

* `describes_iff`: an object describes a schema if it names the kind of the schema and holds what
  the kind asks for besides (`Holds`).
* `orMissing_eq_required`: the reader takes the parts of an object from its members like any record.
* `read_eq_ok_iff`: reading gives the schema that a value describes, by induction on the size of the
  value, for its parts are smaller.
-/

namespace Rigor.Schema

open Check

/-- The schemas that are described by their kind alone. -/
def plainSchemas : List Schema :=
  [.null, .undefined, .unknown, .boolean, .object]

/-- The value describes the schema. -/
inductive Describes : Json → Schema → Prop where
  | plain {members : List (String × Json)} {schema : Schema} : schema ∈ plainSchemas →
      Table.get? members "kind" = some (.str schema.kind) → Describes (.obj members) schema
  /-- A text without a format is plain. -/
  | text {members : List (String × Json)} : Table.get? members "kind" = some (.str "string") →
      Table.get? members "format" = none → Describes (.obj members) (.string .plain)
  | formatted {members : List (String × Json)} {format : Format} :
      Table.get? members "kind" = some (.str "string") →
      Table.get? members "format" = some (.str format.name) →
      Describes (.obj members) (.string format)
  | number {members : List (String × Json)} {value : Json} {integral : Bool} :
      Table.get? members "kind" = some (.str "number") →
      Table.get? members "is_integer" = some value → StandsFor value integral →
      Describes (.obj members) (.number integral)
  | array {members : List (String × Json)} {value : Json} {element : Schema} :
      Table.get? members "kind" = some (.str "array") →
      Table.get? members "element" = some value → Describes value element →
      Describes (.obj members) (.array element)
  /-- The variants are described one by one, whether or not some of them are the same. -/
  | union {members : List (String × Json)} {items : List Json} {variants : List Schema} :
      Table.get? members "kind" = some (.str "union") →
      Table.get? members "variants" = some (.arr items) → 2 ≤ items.length →
      List.Forall₂ Describes items variants → Describes (.obj members) (.union variants)

/-- A value that describes a schema names its kind. -/
theorem Describes.names {members : List (String × Json)} {schema : Schema}
    (h : Describes (.obj members) schema) :
    Table.get? members "kind" = some (.str schema.kind) := by
  cases h <;> assumption

/-! ### Parts of the reader -/

/-- What holds of all plain schemas holds of each of the five. -/
theorem forall_mem_plainSchemas {P : Schema → Prop} :
    (∀ schema ∈ plainSchemas, P schema) ↔
      P .null ∧ P .undefined ∧ P .unknown ∧ P .boolean ∧ P .object := by
  simp [plainSchemas]

/-- A kind names a plain schema just if it is the kind of one. -/
theorem ofPlainKind?_eq_some_iff {kind : String} {schema : Schema} :
    ofPlainKind? kind = some schema ↔ schema ∈ plainSchemas ∧ schema.kind = kind := by
  constructor
  · intro h
    unfold ofPlainKind? at h
    split at h <;> cases h <;> exact ⟨by simp [plainSchemas], rfl⟩
  · rintro ⟨hplain, rfl⟩
    have hkinds : ∀ schema ∈ plainSchemas, ofPlainKind? schema.kind = some schema :=
      forall_mem_plainSchemas.mpr ⟨rfl, rfl, rfl, rfl, rfl⟩
    exact hkinds schema hplain

/-- A name is that of a format just if it is spelled as the format's name is. -/
theorem Format.ofName?_eq_some_iff {s : String} {format : Format} :
    Format.ofName? s = some format ↔ s = format.name := by
  constructor
  · intro h
    have hname := List.find?_some h
    exact (beq_iff_eq.mp hname).symm
  · rintro rfl
    cases format <;> rfl

/-- A format is given by its name. -/
theorem named_format_eq_ok_iff {value : Json} {format : Format} :
    named Format.ofName? value = .ok format ↔ value = .str format.name := by
  cases value with
  | str s =>
      rw [Json.str.injEq, ← Format.ofName?_eq_some_iff, named]
      cases Format.ofName? s <;> simp [Checked.fail]
  | _ => simp [named, Checked.fail]

/-- The format is read from its name, and is the plain one if there is none. -/
theorem optional_format_eq_ok_iff {members : List (String × Json)} {format : Format} :
    Check.optional "format" (named Format.ofName?) .plain members = .ok format ↔
      Table.get? members "format" = some (.str format.name) ∨
        Table.get? members "format" = none ∧ format = .plain := by
  unfold Check.optional
  cases Table.get? members "format" with
  | none => simp [eq_comm]
  | some value => simp [under_eq_ok, named_format_eq_ok_iff]

/-! ### Kind by kind -/

/-- What an object that describes the schema has to hold besides the name of the kind. -/
def Holds (members : List (String × Json)) : Schema → Prop
  | .string format => Table.get? members "format" = some (.str format.name) ∨
      Table.get? members "format" = none ∧ format = .plain
  | .number integral => ∃ value, Table.get? members "is_integer" = some value ∧
      StandsFor value integral
  | .array element => ∃ value, Table.get? members "element" = some value ∧ Describes value element
  | .union variants => ∃ items, Table.get? members "variants" = some (.arr items) ∧
      2 ≤ items.length ∧ List.Forall₂ Describes items variants
  | _ => True

section

variable {members : List (String × Json)} {schema : Schema}

/-- A plain schema asks nothing of an object besides its kind. -/
theorem holds_plain (h : schema ∈ plainSchemas) : Holds members schema :=
  forall_mem_plainSchemas.mpr ⟨trivial, trivial, trivial, trivial, trivial⟩ schema h

/-- An object describes a schema just if it names its kind and holds what this asks for. -/
theorem describes_iff :
    Describes (.obj members) schema ↔
      Table.get? members "kind" = some (.str schema.kind) ∧ Holds members schema := by
  constructor
  · intro h
    refine ⟨h.names, ?_⟩
    cases h with
    | plain hplain _ => exact holds_plain hplain
    | text _ hnone => exact Or.inr ⟨hnone, rfl⟩
    | formatted _ hsome => exact Or.inl hsome
    | number _ hvalue hstands => exact ⟨_, hvalue, hstands⟩
    | array _ hvalue helement => exact ⟨_, hvalue, helement⟩
    | union _ hitems htwo hall => exact ⟨_, hitems, htwo, hall⟩
  · rintro ⟨hkind, hholds⟩
    cases schema with
    | string format =>
        rcases hholds with hsome | ⟨hnone, rfl⟩
        · exact .formatted hkind hsome
        · exact .text hkind hnone
    | number integral =>
        obtain ⟨value, hvalue, hstands⟩ := hholds
        exact .number hkind hvalue hstands
    | array element =>
        obtain ⟨value, hvalue, helement⟩ := hholds
        exact .array hkind hvalue helement
    | union variants =>
        obtain ⟨items, hitems, htwo, hall⟩ := hholds
        exact .union hkind hitems htwo hall
    | _ => exact .plain (by simp [plainSchemas]) hkind

/-- Of an object that names its kind only schemas of that kind come into question. -/
theorem describes_iff_of_kind {kind : String}
    (hkind : Table.get? members "kind" = some (.str kind)) :
    Describes (.obj members) schema ↔ schema.kind = kind ∧ Holds members schema := by
  rw [describes_iff, hkind, Option.some.injEq, Json.str.injEq, eq_comm (a := kind)]

/-- Any other kind is that of a schema that is described by its kind alone. -/
theorem describes_plain_iff {kind : String}
    (hkind : Table.get? members "kind" = some (.str kind))
    (hother : kind ∉ ["string", "number", "array", "union"]) :
    Describes (.obj members) schema ↔ ofPlainKind? kind = some schema := by
  rw [describes_iff_of_kind hkind, ofPlainKind?_eq_some_iff]
  constructor
  · rintro ⟨rfl, -⟩
    refine ⟨?_, rfl⟩
    cases schema <;> simp_all [plainSchemas, Schema.kind]
  · rintro ⟨hplain, rfl⟩
    exact ⟨rfl, holds_plain hplain⟩

end

/-! ### The reader -/

/-- A member is smaller than its object. -/
theorem sizeOf_lt_of_get? {members : List (String × Json)} {name : String} {value : Json}
    (h : Table.get? members name = some value) : sizeOf value < sizeOf (Json.obj members) := by
  have hmember : sizeOf (name, value) < sizeOf members :=
    List.sizeOf_lt_of_mem (Table.mem_of_get? h)
  rw [Json.obj.sizeOf_spec]
  rw [Prod.mk.sizeOf_spec] at hmember
  omega

/-- An item is smaller than its array. -/
theorem sizeOf_lt_of_mem {items : List Json} {item : Json} (h : item ∈ items) :
    sizeOf item < sizeOf (Json.arr items) := by
  have hitem : sizeOf item < sizeOf items := List.sizeOf_lt_of_mem h
  rw [Json.arr.sizeOf_spec]
  omega

/-- A rule that goes through the members until it meets a name is the rule for the member of that
name. -/
theorem orMissing_eq_required {α : Type} {part : List (String × Json) → Option (Checked α)}
    {name : String} {rule : Json → Checked α} (hnil : part [] = none)
    (hcons : ∀ key value rest, part ((key, value) :: rest) =
      if key = name then some (rule value) else part rest) (members : List (String × Json)) :
    Check.orMissing name members (part members) = Check.required name rule members := by
  suffices h : part members = (Table.get? members name).map rule by rw [h, Check.required]
  induction members with
  | nil => exact hnil
  | cons member rest ih =>
      rw [hcons, Table.get?]
      split
      · rfl
      · exact ih

/-- The element of an array is read as a required member is. -/
theorem orMissing_element (members : List (String × Json)) :
    Check.orMissing "element" members (readElement? members) =
      Check.required "element" read members :=
  orMissing_eq_required rfl (fun _ _ _ => rfl) members

/-- So are the variants of a union. -/
theorem orMissing_variants (members : List (String × Json)) :
    Check.orMissing "variants" members (readVariants? members) =
      Check.required "variants" readTuple members :=
  orMissing_eq_required rfl (fun _ _ _ => rfl) members

/-- Variants are read one by one. -/
theorem readAll_eq_map (items : List Json) : readAll items = items.map read := by
  induction items with
  | nil => rfl
  | cons item rest ih => rw [readAll, ih, List.map_cons]

/-- The reader accepts a value as the grammar does. -/
def Agrees (value : Json) : Prop :=
  ∀ schema, read value = .ok schema ↔ Describes value schema

/-- Variants are read just if the items describe them one by one. -/
theorem readAll_eq_map_ok_iff {items : List Json} (h : ∀ item ∈ items, Agrees item)
    (variants : List Schema) :
    readAll items = variants.map .ok ↔ List.Forall₂ Describes items variants := by
  rw [readAll_eq_map]
  induction items generalizing variants with
  | nil => cases variants <;> simp
  | cons item rest ih =>
      obtain ⟨hitem, hrest⟩ := List.forall_mem_cons.mp h
      cases variants with
      | nil => simp
      | cons variant variants =>
          rw [List.map_cons, List.map_cons, List.cons.injEq, List.forall₂_cons, hitem variant,
            ih hrest variants]

/-- A value is read as variants just if it is an array of at least two items that describe them. -/
theorem readTuple_eq_ok_iff {value : Json}
    (h : ∀ items, value = .arr items → ∀ item ∈ items, Agrees item) {variants : List Schema} :
    readTuple value = .ok variants ↔
      ∃ items, value = .arr items ∧ 2 ≤ items.length ∧ List.Forall₂ Describes items variants := by
  cases value with
  | arr items =>
      rw [readTuple, collectAtLeast_eq_ok, readAll_eq_map_ok_iff (h items rfl)]
      constructor
      · rintro ⟨hall, htwo⟩
        exact ⟨items, rfl, hall.length_eq ▸ htwo, hall⟩
      · rintro ⟨others, hitems, htwo, hall⟩
        obtain rfl := Json.arr.inj hitems
        exact ⟨hall, hall.length_eq ▸ htwo⟩
  | _ => exact ⟨nofun, nofun⟩

section

variable {members : List (String × Json)}

/-- The element of an array is read just if the object holds what the array asks for. -/
theorem required_element_iff
    (h : ∀ part, sizeOf part < sizeOf (Json.obj members) → Agrees part) (element : Schema) :
    Check.required "element" read members = .ok element ↔ Holds members (.array element) := by
  rw [required_eq_ok]
  refine exists_congr fun value => and_congr_right fun hvalue => ?_
  exact h value (sizeOf_lt_of_get? hvalue) element

/-- The variants of a union are read just if the object holds what the union asks for. -/
theorem required_variants_iff
    (h : ∀ part, sizeOf part < sizeOf (Json.obj members) → Agrees part) (variants : List Schema) :
    Check.required "variants" readTuple members = .ok variants ↔
      Holds members (.union variants) := by
  have hitems : ∀ value, Table.get? members "variants" = some value →
      ∀ items, value = .arr items → ∀ item ∈ items, Agrees item := by
    rintro value hvalue items rfl item hitem
    exact h item ((sizeOf_lt_of_mem hitem).trans (sizeOf_lt_of_get? hvalue))
  rw [required_eq_ok]
  constructor
  · rintro ⟨value, hvalue, htuple⟩
    obtain ⟨items, rfl, hall⟩ := (readTuple_eq_ok_iff (hitems value hvalue)).mp htuple
    exact ⟨items, hvalue, hall⟩
  · rintro ⟨items, hvalue, hall⟩
    exact ⟨_, hvalue, (readTuple_eq_ok_iff (hitems _ hvalue)).mpr ⟨items, rfl, hall⟩⟩

/-- An object is read as the grammar says if its parts are. -/
theorem agrees_obj (h : ∀ part, sizeOf part < sizeOf (Json.obj members) → Agrees part) :
    Agrees (.obj members) := by
  intro schema
  rw [read]
  split
  · next hkind =>
    refine iff_of_false (by simp [Checked.fail]) fun h => ?_
    rw [h.names] at hkind
    cases hkind
  · next hkind =>
    rw [under_eq_ok, Checked.map_eq, map_eq_ok, describes_iff_of_kind hkind]
    simp only [optional_format_eq_ok_iff]
    cases schema <;> simp [Schema.kind, Holds]
  · next hkind =>
    rw [under_eq_ok, Checked.map_eq, map_eq_ok, describes_iff_of_kind hkind]
    simp only [required_eq_ok, boolean_eq_ok_iff]
    cases schema <;> simp [Schema.kind, Holds]
  · next hkind =>
    rw [orMissing_element, under_eq_ok, Checked.map_eq, map_eq_ok, describes_iff_of_kind hkind]
    simp only [required_element_iff h]
    cases schema <;> simp [Schema.kind]
  · next hkind =>
    rw [orMissing_variants, under_eq_ok, Checked.map_eq, map_eq_ok, describes_iff_of_kind hkind]
    simp only [required_variants_iff h]
    cases schema <;> simp [Schema.kind]
  · next kind hstring hnumber harray hunion hkind =>
    rw [describes_plain_iff hkind (by simp_all)]
    cases ofPlainKind? kind <;> simp [Checked.fail]
  · next value hother hkind =>
    refine iff_of_false (by simp [Checked.fail]) fun h => ?_
    rw [h.names, Option.some.injEq] at hkind
    exact absurd hkind.symm (hother _)

end

/-- Reading gives the schema that a value describes. -/
theorem read_eq_ok_iff (value : Json) : Agrees value := by
  cases value with
  | obj members => exact agrees_obj fun part hpart => read_eq_ok_iff part
  | _ => exact fun _ => ⟨nofun, nofun⟩
termination_by sizeOf value
decreasing_by simpa using hpart

end Rigor.Schema

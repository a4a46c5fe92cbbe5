import Rigor.Proofs.Schema.Grammar

/-!
# Schemas that are read

Reading gives exactly the schemas in which every union has at least two variants (`Accepted`,
`exists_read_iff`). Such a schema is read back from the object that it is written as.

* `Describes.accepted`: what a value describes is accepted, and so is what is read.
* `Accepted.read_toJson`: what is accepted is read back, by induction on the schema.
* `read_toJson_of_read`: so reading once more changes nothing.
-/

namespace Rigor.Schema

open Check

/-- Every union in the schema has at least two variants. -/
inductive Accepted : Schema → Prop where
  | null : Accepted .null
  | undefined : Accepted .undefined
  | unknown : Accepted .unknown
  | string (format : Format) : Accepted (.string format)
  | number (integral : Bool) : Accepted (.number integral)
  | boolean : Accepted .boolean
  | object : Accepted .object
  | array {element : Schema} : Accepted element → Accepted (.array element)
  | union {variants : List Schema} : 2 ≤ variants.length →
      (∀ variant ∈ variants, Accepted variant) → Accepted (.union variants)

/-- Every variant is described by one of the items. -/
theorem exists_item_of_mem_variants {items : List Json} {variants : List Schema}
    (h : List.Forall₂ Describes items variants) {variant : Schema} (hvariant : variant ∈ variants) :
    ∃ item ∈ items, Describes item variant := by
  obtain ⟨i, hi, rfl⟩ := List.getElem_of_mem hvariant
  have hi' : i < items.length := h.length_eq ▸ hi
  exact ⟨items[i], List.getElem_mem hi', h.get hi' hi⟩

/-- A value describes accepted schemas only. -/
theorem Describes.accepted {value : Json} {schema : Schema} (h : Describes value schema) :
    Accepted schema := by
  cases h with
  | plain hplain _ =>
      exact forall_mem_plainSchemas.mpr ⟨.null, .undefined, .unknown, .boolean, .object⟩ _ hplain
  | text => exact .string _
  | formatted => exact .string _
  | number => exact .number _
  | array _ hvalue helement =>
      have hpart := sizeOf_lt_of_get? hvalue
      exact .array helement.accepted
  | union _ hitems htwo hall =>
      refine .union (hall.length_eq ▸ htwo) fun variant hvariant => ?_
      obtain ⟨item, hitem, hdescribes⟩ := exists_item_of_mem_variants hall hvariant
      have hpart := (sizeOf_lt_of_mem hitem).trans (sizeOf_lt_of_get? hitems)
      exact hdescribes.accepted
termination_by sizeOf value
decreasing_by all_goals simpa using hpart

/-- What is read as a schema is an accepted one. -/
theorem accepted_of_read {value : Json} {schema : Schema} (h : read value = .ok schema) :
    Accepted schema :=
  ((read_eq_ok_iff value schema).mp h).accepted

/-- Variants are read back one by one as they were written. -/
theorem readAll_toJsons {variants : List Schema}
    (h : ∀ variant ∈ variants, read variant.toJson = .ok variant) :
    readAll (toJsons variants) = variants.map .ok := by
  induction variants with
  | nil => rfl
  | cons variant rest ih =>
      rw [toJsons, readAll, List.map_cons, h variant List.mem_cons_self,
        ih fun other hother => h other (List.mem_cons_of_mem variant hother)]

/-- An accepted schema is read back from what it is written as. -/
theorem Accepted.read_toJson {schema : Schema} (h : Accepted schema) :
    read schema.toJson = .ok schema := by
  induction h with
  | string format => cases format <;> rfl
  | array helement ih =>
      rename_i element
      show ((Schema.array <$> orMissing "element" _ (some (read element.toJson))).under _ :
        Checked Schema) = _
      rw [ih]
      rfl
  | union htwo hall ih =>
      rename_i variants
      have hvariants : readTuple (.arr (toJsons variants)) = .ok variants :=
        collectAtLeast_eq_ok.mpr ⟨readAll_toJsons ih, htwo⟩
      show ((Schema.union <$> orMissing "variants" _
        (some (readTuple (.arr (toJsons variants))))).under _ : Checked Schema) = _
      rw [hvariants]
      rfl
  | _ => rfl

/-- The accepted schemas are those that some value is read as. -/
theorem exists_read_iff {schema : Schema} :
    (∃ value, read value = .ok schema) ↔ Accepted schema := by
  constructor
  · rintro ⟨value, hread⟩
    exact accepted_of_read hread
  · intro h
    exact ⟨schema.toJson, h.read_toJson⟩

/-- What is read is read back from what it is written as. -/
theorem read_toJson_of_read {value : Json} {schema : Schema} (h : read value = .ok schema) :
    read schema.toJson = .ok schema :=
  (accepted_of_read h).read_toJson

end Rigor.Schema

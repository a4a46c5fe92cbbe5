import Rigor.Proofs.Schema.Distinct
import Rigor.Schema.Infer

/-!
# Canonical schemas

Which schemas are inferred from samples that have no foreign value in them. A canonical schema
unites at least two schemas, no two of them equal, and only for the items of an array; an unknown
element is that of an empty array.

* `canonical_infer`: a schema that is inferred is canonical. The induction is on the sample and its
  items together, and `canonical_array_unite` is the step at an array.
* `infer_exemplar`: each canonical schema is inferred from a sample, its `exemplar`, which has one
  item for each variant of a union. Nothing is dropped from these items and their order stays,
  because the variants are distinct.
* `Canonical.union_part`: what canonicity says of a union at any depth.
* `inferred_iff_canonical`: the main statement.
-/

namespace Rigor

namespace Schema

/-- What is inferred for some sample without foreign values. -/
inductive Canonical : Schema → Prop where
  | null : Canonical .null
  | undefined : Canonical .undefined
  | boolean : Canonical .boolean
  | object : Canonical .object
  | string (format : Format) : Canonical (.string format)
  | number (integral : Bool) : Canonical (.number integral)
  /-- An array without items. -/
  | empty : Canonical (.array .unknown)
  /-- An array with items of one schema. -/
  | uniform {element : Schema} : Canonical element → Canonical (.array element)
  /-- An array with items of several schemas. -/
  | mixed {variants : List Schema} : 2 ≤ variants.length → variants.Nodup →
      (∀ variant ∈ variants, Canonical variant) → Canonical (.array (.union variants))

/-- The first schema occurs in the second one, at any depth. -/
inductive Part : Schema → Schema → Prop where
  | whole (schema : Schema) : Part schema schema
  | element {part element : Schema} : Part part element → Part part (.array element)
  | variant {part variant : Schema} {variants : List Schema} : variant ∈ variants →
      Part part variant → Part part (.union variants)

namespace Canonical

/-- A canonical schema is not the unknown one. -/
theorem ne_unknown {schema : Schema} (h : Canonical schema) : schema ≠ .unknown := by
  rintro rfl
  cases h

/-- It is no union either: unions only come inside arrays. -/
theorem ne_union {schema : Schema} (h : Canonical schema) (variants : List Schema) :
    schema ≠ .union variants := by
  rintro rfl
  cases h

/-- At any depth of a canonical schema a union has at least two variants, all of them distinct and
canonical again. -/
theorem union_part {schema : Schema} (h : Canonical schema) {variants : List Schema}
    (hpart : Part (.union variants) schema) :
    2 ≤ variants.length ∧ variants.Nodup ∧ ∀ variant ∈ variants, Canonical variant := by
  induction h with
  | empty =>
      cases hpart with
      | element hunknown => cases hunknown
  | uniform _ ih =>
      cases hpart with
      | element helement => exact ih helement
  | mixed htwo hnodup hvariants ih =>
      cases hpart with
      | element hunion =>
          cases hunion with
          | whole => exact ⟨htwo, hnodup, hvariants⟩
          | variant hmem hpart => exact ih _ hmem hpart
  | _ => cases hpart

end Canonical

/-- The array of what several canonical schemas are united to. -/
theorem canonical_array_unite {schemas : List Schema}
    (h : ∀ schema ∈ schemas, Canonical schema) : Canonical (.array (unite schemas)) := by
  have hcanonical : ∀ schema ∈ distinct schemas, Canonical schema :=
    fun schema hschema => h schema (mem_distinct.mp hschema)
  have hnodup := nodup_distinct schemas
  unfold unite
  rcases hdistinct : distinct schemas with _ | ⟨first, _ | ⟨second, rest⟩⟩
  · exact .empty
  · rw [hdistinct] at hcanonical
    exact .uniform (hcanonical first List.mem_cons_self)
  · rw [hdistinct] at hcanonical hnodup
    refine .mixed ?_ hnodup hcanonical
    simp only [List.length_cons]
    omega

/-- Two or more different variants are united as they are. -/
theorem unite_eq_union {variants : List Schema} (htwo : 2 ≤ variants.length)
    (hnodup : variants.Nodup) : unite variants = .union variants := by
  unfold unite
  rw [distinct_eq_self hnodup]
  rcases variants with _ | ⟨first, _ | ⟨second, rest⟩⟩
  · simp at htwo
  · simp at htwo
  · rfl

/-- A single variant needs no union. -/
theorem unite_singleton (schema : Schema) : unite [schema] = schema := rfl

/-- A text of the format. -/
def Format.specimen : Format → String
  | .email => "a@b.c"
  | .uuid => "00000000-0000-0000-0000-000000000000"
  | .url => "a://b"
  | .datetime => "2000-01-01T00:00:00Z"
  | .plain => ""

/-- Each format is detected in its specimen. -/
theorem Format.detect_specimen (format : Format) : Format.detect format.specimen = format := by
  cases format <;> decide +kernel

end Schema

namespace Sample

open Schema (Canonical Part Format)

mutual

/-- No foreign value occurs in the sample, at any depth. -/
def Grammatical : Sample → Prop
  | .foreign => False
  | .arr items => GrammaticalItems items
  | .obj members => GrammaticalMembers members
  | _ => True

/-- No foreign value occurs in the items. -/
def GrammaticalItems : List Sample → Prop
  | [] => True
  | item :: rest => Grammatical item ∧ GrammaticalItems rest

/-- No foreign value occurs in the members. -/
def GrammaticalMembers : List (String × Sample) → Prop
  | [] => True
  | (_, value) :: rest => Grammatical value ∧ GrammaticalMembers rest

end

/-! ### What is inferred is canonical -/

mutual

/-- The schema inferred from a grammatical sample is canonical. -/
theorem canonical_infer : ∀ sample : Sample, sample.Grammatical → Canonical sample.infer
  | .null, _ => .null
  | .undefined, _ => .undefined
  | .bool _, _ => .boolean
  | .int _, _ => .number true
  | .float value, _ => .number value.isIntegral
  | .str text, _ => .string (Format.detect text)
  | .arr items, h => Schema.canonical_array_unite (canonical_inferItems items h)
  | .obj _, _ => .object
  | .foreign, h => absurd h id

/-- So are the schemas inferred from the items of an array. -/
theorem canonical_inferItems : ∀ items : List Sample, GrammaticalItems items →
    ∀ schema ∈ inferItems items, Canonical schema
  | [], _, _, hschema => absurd hschema List.not_mem_nil
  | item :: rest, h, schema, hschema => by
      obtain ⟨hitem, hrest⟩ := h
      rcases List.mem_cons.mp hschema with rfl | hschema
      · exact canonical_infer item hitem
      · exact canonical_inferItems rest hrest schema hschema

end

/-! ### What is canonical is inferred -/

mutual

/-- A sample of which a canonical schema is inferred. The least positive number stands for those
with a fraction. -/
def exemplar : Schema → Sample
  | .null => .null
  | .undefined => .undefined
  | .unknown => .foreign
  | .string format => .str format.specimen
  | .number true => .int 0
  | .number false => .float (.finite false 1)
  | .boolean => .bool true
  | .object => .obj []
  | .array .unknown => .arr []
  | .array (.union variants) => .arr (exemplars variants)
  | .array element => .arr [exemplar element]
  | .union _ => .foreign

/-- A sample for each of the schemas. -/
def exemplars : List Schema → List Sample
  | [] => []
  | schema :: rest => exemplar schema :: exemplars rest

end

/-- The exemplar of an array without variants has one item. -/
theorem exemplar_array {element : Schema} (hunknown : element ≠ .unknown)
    (hunion : ∀ variants, element ≠ .union variants) :
    exemplar (.array element) = .arr [exemplar element] := by
  cases element with
  | unknown => exact absurd rfl hunknown
  | union variants => exact absurd rfl (hunion variants)
  | _ => rfl

/-- If each schema is inferred from its exemplar, so are all of them from theirs. -/
theorem inferItems_exemplars {schemas : List Schema}
    (h : ∀ schema ∈ schemas, (exemplar schema).infer = schema) :
    inferItems (exemplars schemas) = schemas := by
  induction schemas with
  | nil => rfl
  | cons schema rest ih =>
      have hrest := ih fun other hother => h other (List.mem_cons_of_mem _ hother)
      rw [exemplars, inferItems, h schema List.mem_cons_self, hrest]

/-- If each exemplar is grammatical, so are all of them. -/
theorem grammaticalItems_exemplars {schemas : List Schema}
    (h : ∀ schema ∈ schemas, (exemplar schema).Grammatical) :
    GrammaticalItems (exemplars schemas) := by
  induction schemas with
  | nil => exact trivial
  | cons schema rest ih =>
      exact ⟨h schema List.mem_cons_self,
        ih fun other hother => h other (List.mem_cons_of_mem _ hother)⟩

/-- A canonical schema is inferred from its exemplar. -/
theorem infer_exemplar {schema : Schema} (h : Canonical schema) :
    (exemplar schema).infer = schema := by
  induction h with
  | null => rfl
  | undefined => rfl
  | boolean => rfl
  | object => rfl
  | string format => rw [exemplar, infer, Format.detect_specimen]
  | number integral =>
      cases integral with
      | true => rfl
      | false =>
          have hfraction : (Binary64.finite false 1).isIntegral = false := by decide +kernel
          rw [exemplar, infer, hfraction]
  | empty => rfl
  | uniform helement ih =>
      rw [exemplar_array helement.ne_unknown helement.ne_union, infer, inferItems, inferItems, ih,
        Schema.unite_singleton]
  | mixed htwo hnodup _ ih =>
      rw [exemplar, infer, inferItems_exemplars ih, Schema.unite_eq_union htwo hnodup]

/-- The exemplar of a canonical schema is grammatical. -/
theorem grammatical_exemplar {schema : Schema} (h : Canonical schema) :
    (exemplar schema).Grammatical := by
  induction h with
  | number integral => cases integral <;> exact trivial
  | uniform helement ih =>
      rw [exemplar_array helement.ne_unknown helement.ne_union]
      exact ⟨ih, trivial⟩
  | mixed _ _ _ ih => exact grammaticalItems_exemplars ih
  | _ => exact trivial

/-- **Inference yields the canonical schemas**, all of them and no others, from the samples without
foreign values. So a union occurs only as the element of an array, never among the variants of
another one, and has at least two variants, no two of them equal; and an unknown schema occurs only
as the element of an array. -/
theorem inferred_iff_canonical :
    (∀ schema, (∃ sample : Sample, sample.Grammatical ∧ sample.infer = schema) ↔
      Canonical schema) ∧
    ∀ sample : Sample, sample.Grammatical →
      (sample.infer ≠ .unknown ∧ ∀ variants, sample.infer ≠ .union variants) ∧
      ∀ variants, Part (.union variants) sample.infer →
        2 ≤ variants.length ∧ variants.Nodup ∧
          ∀ variant ∈ variants, variant ≠ .unknown ∧ ∀ inner, variant ≠ .union inner := by
  refine ⟨fun schema => ⟨?_, fun h => ?_⟩, fun sample hsample => ⟨?_, ?_⟩⟩
  · rintro ⟨sample, hsample, rfl⟩
    exact canonical_infer sample hsample
  · exact ⟨exemplar schema, grammatical_exemplar h, infer_exemplar h⟩
  · have h := canonical_infer sample hsample
    exact ⟨h.ne_unknown, h.ne_union⟩
  · intro variants hpart
    obtain ⟨htwo, hnodup, hvariants⟩ := (canonical_infer sample hsample).union_part hpart
    refine ⟨htwo, hnodup, fun variant hvariant => ?_⟩
    exact ⟨(hvariants variant hvariant).ne_unknown, (hvariants variant hvariant).ne_union⟩

end Sample

end Rigor

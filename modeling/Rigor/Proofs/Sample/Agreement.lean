import Rigor.Proofs.Schema.Decoder
import Rigor.Proofs.Schema.Distinct

/-!
# Where emission and inference agree

`Sample.emit` and `Schema.render` after `Sample.infer` are two ways from a sample to a text. They
aggregate the items of an array by different keys: the one drops equal texts, the other equal
schemas.

* `elementTexts_of_not_spelledOut`: as long as no item is an object that is spelled out, the texts
  are those of the inferred schemas. Expressions tell schemas apart (`Schema.render_inj`), so it
  does not matter which of the two repetitions are counted by.
* `exists_mem_emitField`: the text of an object that is spelled out has a line feed or a full stop
  in it, which no expression of a schema has (`Schema.not_mem_chars`), and `mem_arrayText` carries
  the character to the text of an array around it.
* `emit_eq_render_infer_iff`: the two texts are equal for exactly the other samples.
-/

namespace Rigor.Sample

open Schema (distinct distinct_map render_inj isExpressionChar)

/-- An object that has more to its text than `object({})`. -/
def IsSpelledOut (strict : Bool) : Sample → Prop
  | .obj members => members ≠ [] ∨ strict = true
  | _ => False

/-- The schemas of items are inferred one by one. -/
theorem inferItems_eq_map (items : List Sample) : inferItems items = items.map infer := by
  induction items with
  | nil => rfl
  | cons item rest ih => rw [inferItems, ih, List.map_cons]

/-! ### Agreement -/

/-- A sample that is not spelled out is emitted as the schema inferred from it. -/
theorem emitField_of_not_spelledOut {strict : Bool} {sample : Sample}
    (h : ¬ sample.IsSpelledOut strict) : sample.emitField strict = sample.infer.render := by
  cases sample with
  | obj members =>
      obtain ⟨hmembers, hstrict⟩ := not_or.mp h
      have hnil : members = [] := not_not.mp hmembers
      subst hnil
      rw [emitField, emitMembers, objectText, if_neg hstrict]
      rfl
  | _ => rfl

/-- If no item is spelled out, the texts of the items are those of their schemas, each once. -/
theorem elementTexts_of_not_spelledOut {strict : Bool} {items : List Sample}
    (h : ∀ item ∈ items, ¬ item.IsSpelledOut strict) :
    elementTexts strict items = (distinct (inferItems items)).map Schema.render := by
  have hmap : items.map (emitField strict) = (inferItems items).map Schema.render := by
    rw [inferItems_eq_map, List.map_map]
    exact List.map_congr_left fun item hitem => emitField_of_not_spelledOut (h item hitem)
  unfold elementTexts
  rw [hmap]
  exact distinct_map fun a _ b _ hab => render_inj.mp hab

/-- The texts of distinct schemas are united as the schemas are. -/
theorem arrayText_render (schemas : List Schema) :
    arrayText ((distinct schemas).map Schema.render) =
      (Schema.array (Schema.unite schemas)).render := by
  unfold Schema.unite
  rcases distinct schemas with _ | ⟨first, _ | ⟨second, rest⟩⟩
  · rfl
  · rfl
  · simp only [List.map_cons, arrayText, Schema.render, Schema.renderAll,
      Schema.renderAll_eq_map]

/-- So an array of such items is emitted as the schema inferred from it. -/
theorem emit_arr_of_not_spelledOut {strict : Bool} {items : List Sample}
    (h : ∀ item ∈ items, ¬ item.IsSpelledOut strict) :
    (Sample.arr items).emit strict = (Sample.arr items).infer.render := by
  rw [emit, elementTexts_of_not_spelledOut h, arrayText_render, infer]

/-! ### Difference -/

/-- An object that is spelled out has a line for each field, or else a mark of strictness. -/
theorem exists_mem_emitField {strict : Bool} {sample : Sample} (h : sample.IsSpelledOut strict) :
    ∃ c ∈ (sample.emitField strict).toList, isExpressionChar c = false := by
  cases sample with
  | obj members =>
      rw [emitField, objectText]
      rcases h with hmembers | hstrict
      · obtain ⟨⟨key, value⟩, rest, rfl⟩ := List.exists_cons_of_ne_nil hmembers
        exact ⟨'\n', by simp [emitMembers], rfl⟩
      · subst hstrict
        exact ⟨'.', by simp, rfl⟩
  | _ => exact absurd h id

/-- Each character of an element is in the text of the array. -/
theorem mem_arrayText {text : String} {texts : List String} (h : text ∈ texts) {c : Char}
    (hc : c ∈ text.toList) : c ∈ (arrayText texts).toList := by
  rcases texts with _ | ⟨first, _ | ⟨second, rest⟩⟩
  · cases h
  · rw [List.mem_singleton] at h
    subst h
    simp [arrayText, hc]
  · have hunion : c ∈ (unionText (first :: second :: rest)).toList := by
      rw [Text.toList_unionText]
      exact List.mem_append_right _ (Text.mem_listing h hc)
    simp only [arrayText, String.toList_append, List.mem_append]
    exact Or.inl (Or.inr hunion)

/-- An array with an item that is spelled out has a character in its text that no schema has. -/
theorem exists_mem_emit_arr {strict : Bool} {items : List Sample} {item : Sample}
    (hitem : item ∈ items) (h : item.IsSpelledOut strict) :
    ∃ c ∈ ((Sample.arr items).emit strict).toList, isExpressionChar c = false := by
  obtain ⟨c, hc, hforeign⟩ := exists_mem_emitField h
  have htext : item.emitField strict ∈ elementTexts strict items :=
    Schema.mem_distinct.mpr (List.mem_map_of_mem hitem)
  exact ⟨c, mem_arrayText htext hc, hforeign⟩

/-- A text with such a character is the text of no schema. -/
theorem ne_render_of_mem {text : String} (h : ∃ c ∈ text.toList, isExpressionChar c = false)
    (schema : Schema) : text ≠ schema.render := by
  obtain ⟨c, hc, hforeign⟩ := h
  rintro rfl
  exact schema.not_mem_chars hforeign hc

/-- **Emission agrees with inference** on a sample exactly if neither the sample nor, in an array,
one of its items is an object that has fields or is marked as strict. -/
theorem emit_eq_render_infer_iff (strict : Bool) (sample : Sample) :
    sample.emit strict = sample.infer.render ↔
      ¬ sample.IsSpelledOut strict ∧
        ∀ items, sample = .arr items → ∀ item ∈ items, ¬ item.IsSpelledOut strict := by
  constructor
  · intro h
    refine ⟨fun hsample => ?_, ?_⟩
    · cases sample with
      | obj members => exact ne_render_of_mem (exists_mem_emitField hsample) _ h
      | _ => exact hsample
    · rintro items rfl item hitem hspelled
      exact ne_render_of_mem (exists_mem_emit_arr hitem hspelled) _ h
  · rintro ⟨hsample, hitems⟩
    cases sample with
    | arr items => exact emit_arr_of_not_spelledOut (hitems items rfl)
    | _ => exact emitField_of_not_spelledOut hsample

end Rigor.Sample

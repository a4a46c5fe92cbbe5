import Rigor.Proofs.Sample.Agreement

/-!
# Arrays in parts

What is inferred of an array follows from what is inferred of its parts, and so does what is emitted
for it. Either way the items are read one by one, each gives a kind (a schema, or a text), and the
kinds are collected without repetitions in the order in which they first come; only what is made of
the kinds differs.

* `Composes`: the laws for kinds that are collected in this way.
* `composes_of_distinct`: they hold where the kinds are the distinct kinds of the items.
* `variants_infer`: the kinds of an array can be read off its schema, though a single one is no
  union. This is where it matters that no item has a union for its schema.
* `arrays_compose`: the main statement.
-/

namespace Rigor

/-- The schemas that the element of an array unites: its variants, or the element alone. -/
def Schema.variants : Schema → List Schema
  | .array (.union variants) => variants
  | .array element => [element]
  | _ => []

namespace Sample

open Schema (distinct unite)

/-- The kinds collected from items, and what is made of them, follow from parts of the items. -/
structure Composes {κ τ : Type} [DecidableEq κ] (kinds : List Sample → List κ)
    (whole : List Sample → τ) : Prop where
  /-- Two parts have the kinds of the first one, and then those of the second one that are new. -/
  append : ∀ xs ys, xs ≠ [] → ys ≠ [] →
    kinds (xs ++ ys) = kinds xs ++ (kinds ys).filter (· ∉ kinds xs)
  /-- The kinds of the parts, however many these are, decide what is made of the whole. -/
  determined : ∀ parts others : List (List Sample), (∀ part ∈ parts ++ others, part ≠ []) →
    parts.map kinds = others.map kinds → whole parts.flatten = whole others.flatten
  /-- Items of kinds that have been seen change nothing. -/
  seen : ∀ xs again ys, xs ≠ [] → (∀ item ∈ again, kinds [item] ⊆ kinds xs) →
    whole (xs ++ again ++ ys) = whole (xs ++ ys)
  /-- Items that come again change nothing. -/
  repeated : ∀ xs again ys, again ⊆ xs → whole (xs ++ again ++ ys) = whole (xs ++ ys)
  /-- Permuted items have the same kinds, in another order. -/
  perm : ∀ xs ys, xs.Perm ys → (kinds xs).Perm (kinds ys)

/-! ### Distinct kinds -/

section

variable {κ τ : Type} [DecidableEq κ] {f : Sample → κ} {kinds : List Sample → List κ}
  {whole : List Sample → τ}

/-- The kinds of parts in a row are the distinct ones among the kinds of the parts. -/
theorem kinds_flatten (hkinds : ∀ items, items ≠ [] → kinds items = distinct (items.map f))
    {parts : List (List Sample)} (hparts : parts ≠ []) (hfull : ∀ part ∈ parts, part ≠ []) :
    kinds parts.flatten = distinct (parts.map kinds).flatten := by
  have hflatten : parts.flatten ≠ [] := by
    obtain ⟨part, rest, rfl⟩ := List.exists_cons_of_ne_nil hparts
    rw [List.flatten_cons]
    exact List.append_ne_nil_of_left_ne_nil (hfull part List.mem_cons_self) _
  have hmap : parts.map kinds = (parts.map (List.map f)).map distinct := by
    rw [List.map_map]
    exact List.map_congr_left fun part hpart => hkinds part (hfull part hpart)
  rw [hkinds _ hflatten, hmap, Schema.distinct_flatten, List.map_flatten]

/-- Nothing is added by items whose kinds have been there. -/
theorem distinct_map_again {xs again : List Sample} (ys : List Sample)
    (h : ∀ item ∈ again, f item ∈ xs.map f) :
    distinct ((xs ++ again ++ ys).map f) = distinct ((xs ++ ys).map f) := by
  have hagain : again.map f ⊆ xs.map f := by
    intro kind hkind
    obtain ⟨item, hitem, rfl⟩ := List.mem_map.mp hkind
    exact h item hitem
  rw [List.map_append, List.map_append, Schema.distinct_append,
    Schema.distinct_append_of_subset hagain, ← Schema.distinct_append, List.map_append]

/-- The laws hold for the distinct kinds of items. What is collected from no items is left open, for
an array without items is read as one of a single unknown item. -/
theorem composes_of_distinct (make : List κ → τ)
    (hkinds : ∀ items, items ≠ [] → kinds items = distinct (items.map f))
    (hwhole : ∀ items, whole items = make (kinds items)) : Composes kinds whole where
  append xs ys hxs hys := by
    rw [hkinds _ (List.append_ne_nil_of_left_ne_nil hxs ys), hkinds xs hxs, hkinds ys hys,
      List.map_append, Schema.distinct_append]
  determined parts others hfull h := by
    cases parts with
    | nil =>
        obtain rfl : others = [] := List.map_eq_nil_iff.mp h.symm
        rfl
    | cons part rest =>
        have hothers : others ≠ [] := by
          rintro rfl
          cases h
        have hleft := kinds_flatten hkinds (List.cons_ne_nil part rest) fun part hpart =>
          hfull part (List.mem_append_left _ hpart)
        have hright := kinds_flatten hkinds hothers fun part hpart =>
          hfull part (List.mem_append_right _ hpart)
        rw [hwhole, hwhole, hleft, hright, h]
  seen xs again ys hxs h := by
    have hagain : ∀ item ∈ again, f item ∈ xs.map f := by
      intro item hitem
      have hsubset := h item hitem
      rw [hkinds _ (List.cons_ne_nil item []), hkinds xs hxs] at hsubset
      exact Schema.mem_distinct.mp (hsubset (Schema.mem_distinct.mpr List.mem_cons_self))
    rw [hwhole, hwhole, hkinds _ (by simp [hxs]), hkinds _ (by simp [hxs]),
      distinct_map_again ys hagain]
  repeated xs again ys h := by
    by_cases hxs : xs = []
    · obtain rfl : again = [] := List.subset_nil.mp (hxs ▸ h)
      rw [List.append_nil]
    · rw [hwhole, hwhole, hkinds _ (by simp [hxs]), hkinds _ (by simp [hxs]),
        distinct_map_again ys fun item hitem => List.mem_map_of_mem (h hitem)]
  perm xs ys h := by
    by_cases hxs : xs = []
    · subst hxs
      rw [List.nil_perm.mp h]
    · have hys : ys ≠ [] := fun hys => hxs (List.perm_nil.mp (hys ▸ h))
      rw [hkinds xs hxs, hkinds ys hys]
      exact Schema.perm_distinct (h.map f)

end

/-! ### Schemas -/

/-- No sample is inferred to be a union. -/
theorem infer_ne_union (sample : Sample) (variants : List Schema) :
    sample.infer ≠ .union variants := by
  cases sample <;> simp [infer]

/-- The array that unites some schemas has them as variants, each once, if none of them is a union
itself. -/
theorem variants_unite {schemas : List Schema} (hfull : schemas ≠ [])
    (hunion : ∀ schema ∈ schemas, ∀ variants, schema ≠ .union variants) :
    (Schema.array (unite schemas)).variants = distinct schemas := by
  unfold unite
  rcases hdistinct : distinct schemas with _ | ⟨first, _ | ⟨second, rest⟩⟩
  · exact absurd (Schema.distinct_eq_nil.mp hdistinct) hfull
  · have hfirst : first ∈ schemas := Schema.mem_distinct.mp (by simp [hdistinct])
    cases first with
    | union variants => exact absurd rfl (hunion _ hfirst variants)
    | _ => rfl
  · rfl

/-- The distinct schemas of the items can be read off the schema of the array. -/
theorem variants_infer {items : List Sample} (h : items ≠ []) :
    (Sample.arr items).infer.variants = distinct (items.map infer) := by
  rw [infer, inferItems_eq_map]
  refine variants_unite (by simpa using h) fun schema hschema => ?_
  obtain ⟨item, -, rfl⟩ := List.mem_map.mp hschema
  exact item.infer_ne_union

/-- The variants are all there is to the schema of an array. -/
theorem infer_eq_array_unite (items : List Sample) :
    (Sample.arr items).infer = .array (unite (Sample.arr items).infer.variants) := by
  by_cases h : items = []
  · subst h
    rfl
  · rw [variants_infer h, infer, inferItems_eq_map, unite, unite,
      Schema.distinct_eq_self (Schema.nodup_distinct _)]

/-- **Arrays are inferred and emitted by parts**, strictly or not: the variants of an array are
those of its first part and then those of the second part that are new, so that the parts decide
about the whole, repetitions do not count, and the order of the items is no more than the order of
the variants, which are all there is to the schema. The same holds of the texts of the items and of
the text of the array. -/
theorem arrays_compose :
    (∀ items, (Sample.arr items).infer = .array (unite (Sample.arr items).infer.variants)) ∧
    Composes (fun items => (Sample.arr items).infer.variants)
      (fun items => (Sample.arr items).infer) ∧
    ∀ strict, Composes (elementTexts strict) fun items => (Sample.arr items).emit strict := by
  refine ⟨infer_eq_array_unite, ?_, fun strict => ?_⟩
  · exact composes_of_distinct (fun variants => .array (unite variants))
      (fun _ hitems => variants_infer hitems) infer_eq_array_unite
  · exact composes_of_distinct arrayText (fun _ _ => rfl) fun _ => rfl

/-- A flag and a number, and then a null, the number again and an empty array. -/
theorem arrays_compose_mixed :
    [Sample.bool true, .int 1] ≠ [] ∧ [Sample.null, .int 2, .arr []] ≠ [] ∧
    (Sample.arr [.bool true, .int 1]).infer.variants = [.boolean, .number true] ∧
    (Sample.arr [.null, .int 2, .arr []]).infer.variants
      = [.null, .number true, .array .unknown] ∧
    (Sample.arr ([.bool true, .int 1] ++ [.null, .int 2, .arr []])).infer.variants
      = [.boolean, .number true] ++ [.null, .array .unknown] :=
  ⟨List.cons_ne_nil _ _, List.cons_ne_nil _ _, rfl, rfl,
    arrays_compose.2.1.append _ _ (List.cons_ne_nil _ _) (List.cons_ne_nil _ _)⟩

end Sample

end Rigor

import Mathlib.Data.List.Induction
import Mathlib.Data.List.Nodup
import Rigor.Schema.Basic

/-!
# First occurrences

What `distinct` keeps of a list.

* `mem_distinct`, `nodup_distinct`: every member of the list, and each of them once.
* `distinct_eq_self`: a list without repetitions stays as it is.
* `distinct_map`: a function that tells the members of the list apart can be applied before or after
  repetitions are dropped. Texts and what they are the texts of are compared by this law.
* `distinct_append`: of two lists in a row, what the first one keeps and then what is new in the
  second. From it follow the laws for what adds nothing (`distinct_append_of_subset`) and for any
  number of lists (`distinct_flatten`).
* `perm_distinct`: the order of the list decides about the order of its members and nothing else.

Most of them go by induction from the end of the list, where `distinct_concat` is the step.
-/

namespace Rigor.Schema

variable {α β : Type} [DecidableEq α] [DecidableEq β]

@[simp] theorem distinct_nil : distinct ([] : List α) = [] := rfl

/-- A last item is kept if it is new. -/
theorem distinct_concat (items : List α) (item : α) :
    distinct (items ++ [item]) =
      if item ∈ distinct items then distinct items else distinct items ++ [item] := by
  unfold distinct
  rw [List.foldl_append]
  rfl

@[simp] theorem mem_distinct {items : List α} {item : α} :
    item ∈ distinct items ↔ item ∈ items := by
  induction items using List.reverseRecOn with
  | nil => simp
  | append_singleton items last ih =>
      rw [distinct_concat]
      by_cases hlast : last ∈ distinct items
      · rw [if_pos hlast, ih, List.mem_append, List.mem_singleton]
        refine ⟨Or.inl, ?_⟩
        rintro (h | rfl)
        · exact h
        · exact ih.mp hlast
      · rw [if_neg hlast, List.mem_append, List.mem_append, ih]

/-- Nothing comes twice among distinct items. -/
theorem nodup_distinct (items : List α) : (distinct items).Nodup := by
  induction items using List.reverseRecOn with
  | nil => exact List.nodup_nil
  | append_singleton items last ih =>
      rw [distinct_concat]
      by_cases hlast : last ∈ distinct items
      · rwa [if_pos hlast]
      · rw [if_neg hlast, ← List.concat_eq_append, List.nodup_concat]
        exact ⟨hlast, ih⟩

/-- Items that come once each are distinct as they stand. -/
theorem distinct_eq_self {items : List α} (h : items.Nodup) : distinct items = items := by
  induction items using List.reverseRecOn with
  | nil => rfl
  | append_singleton items last ih =>
      rw [← List.concat_eq_append, List.nodup_concat] at h
      obtain ⟨hlast, hitems⟩ := h
      rw [distinct_concat, ih hitems, if_neg hlast]

/-- Only from no items nothing is left. -/
theorem distinct_eq_nil {items : List α} : distinct items = [] ↔ items = [] := by
  simp only [List.eq_nil_iff_forall_not_mem, mem_distinct]

/-- A function that tells the items apart commutes with dropping repetitions. -/
theorem distinct_map {f : α → β} {items : List α}
    (hf : ∀ a ∈ items, ∀ b ∈ items, f a = f b → a = b) :
    distinct (items.map f) = (distinct items).map f := by
  induction items using List.reverseRecOn with
  | nil => rfl
  | append_singleton items last ih =>
      have hrest : distinct (items.map f) = (distinct items).map f := by
        apply ih
        intro a ha b hb
        exact hf a (List.mem_append_left _ ha) b (List.mem_append_left _ hb)
      have hseen : f last ∈ (distinct items).map f ↔ last ∈ distinct items := by
        constructor
        · intro h
          obtain ⟨a, ha, hfa⟩ := List.mem_map.mp h
          have : a = last :=
            hf a (List.mem_append_left _ (mem_distinct.mp ha)) last (by simp) hfa
          exact this ▸ ha
        · exact List.mem_map_of_mem
      rw [List.map_append, List.map_singleton, distinct_concat, hrest, distinct_concat]
      by_cases hlast : last ∈ distinct items
      · rw [if_pos hlast, if_pos (hseen.mpr hlast)]
      · rw [if_neg hlast, if_neg (fun h => hlast (hseen.mp h)), List.map_append,
          List.map_singleton]

/-! ### Lists in a row -/

/-- Of two lists in a row, the distinct items are those of the first and then the new ones of the
second. -/
theorem distinct_append (xs ys : List α) :
    distinct (xs ++ ys) = distinct xs ++ (distinct ys).filter (· ∉ distinct xs) := by
  induction ys using List.reverseRecOn with
  | nil => simp
  | append_singleton ys last ih =>
      have hseen : last ∈ distinct (xs ++ ys) ↔ last ∈ xs ∨ last ∈ ys := by
        rw [mem_distinct, List.mem_append]
      rw [← List.append_assoc, distinct_concat, distinct_concat]
      by_cases hys : last ∈ ys
      · rw [if_pos (hseen.mpr (Or.inr hys)), if_pos (mem_distinct.mpr hys), ih]
      · rw [if_neg (fun h => hys (mem_distinct.mp h)), List.filter_append, ← List.append_assoc,
          ← ih]
        by_cases hxs : last ∈ xs
        · rw [if_pos (hseen.mpr (Or.inl hxs))]
          simp [hxs]
        · rw [if_neg fun h => (hseen.mp h).elim hxs hys]
          simp [hxs]

/-- Items that have been seen add nothing. -/
theorem distinct_append_of_subset {xs ys : List α} (h : ys ⊆ xs) :
    distinct (xs ++ ys) = distinct xs := by
  have hnone : (distinct ys).filter (· ∉ distinct xs) = [] := by
    rw [List.filter_eq_nil_iff]
    intro item hitem
    simpa using h (mem_distinct.mp hitem)
  rw [distinct_append, hnone, List.append_nil]

/-- It does not matter whether repetitions have been dropped from the parts before. -/
theorem distinct_flatten (parts : List (List α)) :
    distinct (parts.map distinct).flatten = distinct parts.flatten := by
  induction parts with
  | nil => rfl
  | cons part rest ih =>
      rw [List.map_cons, List.flatten_cons, List.flatten_cons, distinct_append, ih,
        distinct_eq_self (nodup_distinct part), distinct_append]

/-- Permuted items have the same members, in another order. -/
theorem perm_distinct {xs ys : List α} (h : xs.Perm ys) : (distinct xs).Perm (distinct ys) := by
  rw [List.perm_ext_iff_of_nodup (nodup_distinct xs) (nodup_distinct ys)]
  intro item
  rw [mem_distinct, mem_distinct, h.mem_iff]

end Rigor.Schema

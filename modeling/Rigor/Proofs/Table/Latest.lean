import Mathlib.Data.List.Dedup
import Mathlib.Data.List.Induction
import Rigor.Table

/-!
# The latest row of each key

Rows that are put into a table one after the other, each under a key of its own, leave the last row
of every key, in the order in which the keys first came.

* `get?_ofRows`: a key has its last row.
* `pairwise_findIdx_concat`, `pairwise_findIdx_concat_of_new`: what a further row does to the order
  of first places. So the keys are in the order of their first rows (`pairwise_place_keys`).
* `IsLatest`: what such a table holds, said of its values alone. The values of `ofRows` are so
  (`isLatest_values`), and a list that is so has as many members as there are keys among the rows
  (`IsLatest.length_eq`), whatever its order.

The inductions go from the end of the rows, since it is the last row that is put last.
-/

namespace Rigor.Table

variable {κ α : Type} [DecidableEq κ] {key : α → κ} {rows : List α} {k : κ} {a : α}

/-- The last of the rows that has a key. -/
def latest? (key : α → κ) (rows : List α) (k : κ) : Option α :=
  (rows.filter (key · = k)).getLast?

/-- Where the first row of a key is among the rows; it is their number if there is none. -/
def place (key : α → κ) (rows : List α) (k : κ) : Nat :=
  rows.findIdx (key · = k)

/-- The table of rows that are put in one after the other. -/
def ofRows (key : α → κ) (rows : List α) : Table κ α :=
  rows.foldl (fun t a => put t (key a) a) []

/-- One more row is put into the table of those before it. -/
theorem ofRows_concat (key : α → κ) (rows : List α) (a : α) :
    ofRows key (rows ++ [a]) = put (ofRows key rows) (key a) a :=
  List.foldl_concat _ _ _ _

/-! ### The order of first places -/

section Order

variable {ι : Type} {seen : List ι} {has : ι → α → Bool} {i : ι}

/-- What one of the rows has keeps its place when another row follows. -/
theorem findIdx_concat_of_lt (h : rows.findIdx (has i) < rows.length) (a : α) :
    (rows ++ [a]).findIdx (has i) = rows.findIdx (has i) :=
  (List.prefix_append rows [a]).findIdx_eq_of_findIdx_lt_length h

/-- What is in the order in which the rows first have it stays so, whatever row follows. -/
theorem pairwise_findIdx_concat (hseen : ∀ i ∈ seen, rows.findIdx (has i) < rows.length)
    (h : seen.Pairwise fun i j => rows.findIdx (has i) < rows.findIdx (has j)) (a : α) :
    seen.Pairwise fun i j =>
      (rows ++ [a]).findIdx (has i) < (rows ++ [a]).findIdx (has j) := by
  refine h.imp_of_mem fun {i j} hi hj hlt => ?_
  rwa [findIdx_concat_of_lt (hseen i hi), findIdx_concat_of_lt (hseen j hj)]

/-- What none of the rows has comes behind what they have. -/
theorem pairwise_findIdx_concat_of_new (hseen : ∀ i ∈ seen, rows.findIdx (has i) < rows.length)
    (h : seen.Pairwise fun i j => rows.findIdx (has i) < rows.findIdx (has j)) (a : α)
    (hnew : ¬ rows.findIdx (has i) < rows.length) :
    (seen ++ [i]).Pairwise fun i j =>
      (rows ++ [a]).findIdx (has i) < (rows ++ [a]).findIdx (has j) := by
  refine List.pairwise_append.mpr ⟨pairwise_findIdx_concat hseen h a, List.pairwise_singleton _ _,
    fun j hj k hk => ?_⟩
  obtain rfl : k = i := List.mem_singleton.mp hk
  rw [findIdx_concat_of_lt (hseen j hj), List.findIdx_append, if_neg hnew]
  exact Nat.lt_of_lt_of_le (hseen j hj) (Nat.le_add_left _ _)

end Order

/-! ### The last row of a key -/

/-- One more row is the last one of its key, and leaves those of other keys. -/
theorem latest?_concat (key : α → κ) (rows : List α) (a : α) (k : κ) :
    latest? key (rows ++ [a]) k = if key a = k then some a else latest? key rows k := by
  unfold latest?
  rw [List.filter_append]
  by_cases h : key a = k
  · simp [h]
  · simp [h]

/-- The last row of a key has this key. -/
theorem key_of_latest? (h : latest? key rows k = some a) : key a = k := by
  have hmem : a ∈ rows.filter (key · = k) := List.mem_of_getLast? h
  simpa using (List.mem_filter.mp hmem).2

/-- A key has no last row just if no row has it. -/
theorem latest?_eq_none_iff : latest? key rows k = none ↔ k ∉ rows.map key := by
  rw [latest?, List.getLast?_eq_none_iff, List.filter_eq_nil_iff]
  simp

/-- A key is looked up as the last row that has it. -/
theorem get?_ofRows (key : α → κ) (rows : List α) (k : κ) :
    get? (ofRows key rows) k = latest? key rows k := by
  induction rows using List.reverseRecOn with
  | nil => rfl
  | append_singleton rows a ih => rw [ofRows_concat, get?_put, latest?_concat, ih]

/-! ### Keys -/

/-- The keys of the table are those of the rows. -/
theorem mem_keys_ofRows : k ∈ keys (ofRows key rows) ↔ k ∈ rows.map key := by
  rw [← not_iff_not, ← get?_eq_none_iff, get?_ofRows, latest?_eq_none_iff]

/-- Putting a row does not make a key come twice. -/
theorem nodup_keys_put {t : Table κ α} (h : (keys t).Nodup) (k : κ) (a : α) :
    (keys (put t k a)).Nodup := by
  have hkeys : keys (put t k a) = keys (putNew t k a) := by rw [keys_put, keys_putNew]
  rw [hkeys]
  exact nodup_keys_putNew h k a

/-- No key comes twice in a table of rows. -/
theorem nodup_keys_ofRows (key : α → κ) (rows : List α) : (keys (ofRows key rows)).Nodup := by
  induction rows using List.reverseRecOn with
  | nil => exact List.nodup_nil
  | append_singleton rows a ih =>
      rw [ofRows_concat]
      exact nodup_keys_put ih _ _

/-! ### Places -/

/-- A key has a place among the rows just if one of them has it. -/
theorem place_lt_iff : place key rows k < rows.length ↔ k ∈ rows.map key := by
  rw [place, List.findIdx_lt_length, List.mem_map]
  simp

/-- The keys are in the order of their places. -/
theorem pairwise_place_keys (key : α → κ) (rows : List α) :
    (keys (ofRows key rows)).Pairwise fun k l => place key rows k < place key rows l := by
  induction rows using List.reverseRecOn with
  | nil => exact List.Pairwise.nil
  | append_singleton rows a ih =>
      have hseen : ∀ k ∈ keys (ofRows key rows), place key rows k < rows.length :=
        fun k hk => place_lt_iff.mpr (mem_keys_ofRows.mp hk)
      rw [ofRows_concat, keys_put]
      split
      · exact pairwise_findIdx_concat hseen ih a
      · next hnew =>
        refine pairwise_findIdx_concat_of_new hseen ih a ?_
        rwa [← place, place_lt_iff, ← mem_keys_ofRows]

/-! ### Values -/

/-- The values of the table are the rows that are the last of their keys. -/
theorem mem_values_ofRows : a ∈ values (ofRows key rows) ↔ latest? key rows (key a) = some a := by
  rw [← get?_ofRows]
  constructor
  · intro h
    obtain ⟨⟨k, b⟩, hrow, rfl⟩ := List.mem_map.mp h
    have hget : get? (ofRows key rows) k = some b :=
      get?_of_mem (nodup_keys_ofRows key rows) hrow
    have hkey : key b = k := key_of_latest? (get?_ofRows key rows k ▸ hget)
    rwa [hkey]
  · intro h
    exact List.mem_map.mpr ⟨_, mem_of_get? h, rfl⟩

/-- Every row stands under its own key. -/
theorem map_key_values (key : α → κ) (rows : List α) :
    (values (ofRows key rows)).map key = keys (ofRows key rows) := by
  rw [values, keys, List.map_map]
  refine List.map_congr_left fun row hrow => ?_
  have hget : get? (ofRows key rows) row.1 = some row.2 :=
    get?_of_mem (nodup_keys_ofRows key rows) hrow
  rw [get?_ofRows] at hget
  show key row.2 = row.1
  exact key_of_latest? hget

/-- The values are in the order of the first rows of their keys. -/
theorem pairwise_place_values (key : α → κ) (rows : List α) :
    (values (ofRows key rows)).Pairwise fun a b =>
      place key rows (key a) < place key rows (key b) := by
  have hkeys := pairwise_place_keys key rows
  rwa [← map_key_values, List.pairwise_map] at hkeys

/-- The table has the last row of each key, and nothing else. -/
structure IsLatest (key : α → κ) (rows table : List α) : Prop where
  /-- A row of the table is the last one of its key. -/
  mem_iff : ∀ a, a ∈ table ↔ latest? key rows (key a) = some a
  /-- Every key of the rows is there. -/
  mem_keys_iff : ∀ k, k ∈ table.map key ↔ k ∈ rows.map key
  /-- No key comes twice. -/
  nodup : (table.map key).Nodup

/-- Rows that are the last ones of their keys leave no key out. -/
theorem isLatest_of_mem_iff {table : List α}
    (hmem : ∀ a, a ∈ table ↔ latest? key rows (key a) = some a) (hnodup : (table.map key).Nodup) :
    IsLatest key rows table where
  mem_iff := hmem
  mem_keys_iff k := by
    constructor
    · intro hk
      obtain ⟨a, ha, rfl⟩ := List.mem_map.mp hk
      by_contra hnone
      rw [← latest?_eq_none_iff, (hmem a).mp ha] at hnone
      cases hnone
    · intro hk
      cases hlatest : latest? key rows k with
      | none => exact absurd hk (latest?_eq_none_iff.mp hlatest)
      | some a =>
          obtain rfl := key_of_latest? hlatest
          exact List.mem_map_of_mem ((hmem a).mpr hlatest)
  nodup := hnodup

/-- The values of the table are the last rows of the keys, one of each. -/
theorem isLatest_values (key : α → κ) (rows : List α) :
    IsLatest key rows (values (ofRows key rows)) := by
  refine isLatest_of_mem_iff (fun _ => mem_values_ofRows) ?_
  rw [map_key_values]
  exact nodup_keys_ofRows key rows

/-- There are as many rows in the table as there are different keys. -/
theorem IsLatest.length_eq {table : List α} (h : IsLatest key rows table) :
    table.length = (rows.map key).dedup.length := by
  have hperm : (table.map key).Perm (rows.map key).dedup := by
    rw [List.perm_ext_iff_of_nodup h.nodup (List.nodup_dedup _)]
    intro k
    rw [h.mem_keys_iff, List.mem_dedup]
  rw [← hperm.length_eq, List.length_map]

end Rigor.Table

import Rigor.Level.Basic

/-!
# The highest level

Levels are compared by their ranks. The highest of some levels is known by what lies above it
(`rank_highest_le_iff`): a rank bounds it if it bounds all of them, and is at least the rank of
static types, which stand in where there are no levels. Two levels with the same bounds are equal
(`eq_of_rank_le_iff`), which is how statements about highest levels are proved. Where there are
levels, the highest is one of them (`highest_mem`).
-/

namespace Rigor.Level

/-- Different levels have different ranks. -/
theorem rank_inj {a b : Level} : a.rank = b.rank ↔ a = b := by
  cases a <;> cases b <;> decide

/-- Ranks begin with one. -/
theorem one_le_rank (a : Level) : 1 ≤ a.rank := by
  cases a <;> decide

/-- A rank bounds the higher of two levels if it bounds both. -/
theorem rank_max_le_iff {a b : Level} {n : Nat} :
    (max a b).rank ≤ n ↔ a.rank ≤ n ∧ b.rank ≤ n := by
  unfold max
  split <;> omega

/-- The highest of a level and some more is at most a rank just if each of them is. -/
theorem rank_foldl_max_le_iff {levels : List Level} {a : Level} {n : Nat} :
    (levels.foldl max a).rank ≤ n ↔ a.rank ≤ n ∧ ∀ level ∈ levels, level.rank ≤ n := by
  induction levels generalizing a with
  | nil => simp
  | cons level rest ih =>
      rw [List.foldl_cons, ih, rank_max_le_iff, List.forall_mem_cons, and_assoc]

/-- The highest level is at most a rank just if every level is, one being the least rank there
is. -/
theorem rank_highest_le_iff {levels : List Level} {n : Nat} :
    (highest levels).rank ≤ n ↔ 1 ≤ n ∧ ∀ level ∈ levels, level.rank ≤ n :=
  rank_foldl_max_le_iff

/-- A level is determined by the ranks that bound it. -/
theorem eq_of_rank_le_iff {a b : Level} (h : ∀ n, a.rank ≤ n ↔ b.rank ≤ n) : a = b := by
  have hab : b.rank ≤ a.rank := (h a.rank).mp (Nat.le_refl _)
  have hba : a.rank ≤ b.rank := (h b.rank).mpr (Nat.le_refl _)
  exact rank_inj.mp (Nat.le_antisymm hba hab)

/-- A single level is the highest one. -/
theorem highest_singleton (a : Level) : highest [a] = a := by
  refine eq_of_rank_le_iff fun n => ?_
  rw [rank_highest_le_iff, List.forall_mem_singleton]
  have := one_le_rank a
  omega

/-- One more level is compared with the highest of the others. -/
theorem highest_cons (a : Level) (levels : List Level) :
    highest (a :: levels) = max a (highest levels) := by
  refine eq_of_rank_le_iff fun n => ?_
  rw [rank_highest_le_iff, rank_max_le_iff, rank_highest_le_iff, List.forall_mem_cons]
  exact and_left_comm

/-- The highest level of two lists in a row is the higher of their highest levels. -/
theorem highest_append (levels others : List Level) :
    highest (levels ++ others) = max (highest levels) (highest others) := by
  refine eq_of_rank_le_iff fun n => ?_
  rw [rank_max_le_iff, rank_highest_le_iff, rank_highest_le_iff, rank_highest_le_iff,
    List.forall_mem_append, and_and_and_comm, and_self]

/-- The order of the levels does not matter, nor how often each of them comes. -/
theorem highest_congr {levels others : List Level} (h : ∀ a, a ∈ levels ↔ a ∈ others) :
    highest levels = highest others := by
  refine eq_of_rank_le_iff fun n => ?_
  simp only [rank_highest_le_iff, h]

/-- The higher of two levels is one of them. -/
theorem max_eq_or (a b : Level) : max a b = a ∨ max a b = b := by
  unfold max
  split
  · exact Or.inr rfl
  · exact Or.inl rfl

/-- The highest of some levels is one of them. -/
theorem highest_mem {levels : List Level} (h : levels ≠ []) : highest levels ∈ levels := by
  induction levels with
  | nil => exact absurd rfl h
  | cons a rest ih =>
      by_cases hrest : rest = []
      · subst hrest
        rw [highest_singleton]
        exact List.mem_cons_self
      · rw [highest_cons]
        rcases max_eq_or a (highest rest) with hmax | hmax
        · rw [hmax]
          exact List.mem_cons_self
        · rw [hmax]
          exact List.mem_cons_of_mem a (ih hrest)

end Rigor.Level

import Mathlib.Algebra.Order.Field.Basic
import Mathlib.Algebra.Order.Ring.Rat
import Mathlib.Tactic.Linarith
import Mathlib.Tactic.Positivity
import Mathlib.Tactic.Ring
import Rigor.Number.Binary64

/-!
# The nearest number with 53 significant bits

Finite numbers are whole counts of units with at most 53 significant bits (`Sparse`). `Nearest` says
which of them an exact count, a fraction in general, is rounded to, and `Nearest` alone says what
rounding does:

* `Nearest.unique`: there is one count to round to.
* `Nearest.eq_of_sparse`: a sparse count is rounded to itself.
* `Nearest.le_of_le`: rounding does not get below a sparse count.
* `Nearest.dvd_of_le`, `Nearest.dvd_of_multiple`: sparse counts that are large are multiples of a
  power of two, and so is what large counts and multiples of that power are rounded to.
* `Nearest.lt_iff`: halfway between a power of two and the sparse count below it is where counts
  begin to be rounded to that power.
-/

namespace Rigor.Binary64

/-- A count with at most 53 significant bits. -/
def Sparse (units : ℕ) : Prop :=
  ∃ significand exponent, significand < 2 ^ 53 ∧ units = significand * 2 ^ exponent

/-- The 53 bits that are kept of a count. -/
def keptBits (units : ℕ) : ℕ :=
  units / 2 ^ spacing units

/-- The exact count is rounded to `units`: no sparse count is nearer, and of two that are as near as
each other `units` is the one with an even last bit. -/
structure Nearest (exact : ℚ) (units : ℕ) : Prop where
  sparse : Sparse units
  le : ∀ other, Sparse other → |(units : ℚ) - exact| ≤ |(other : ℚ) - exact|
  even : ∀ other, Sparse other → other ≠ units → |(other : ℚ) - exact| = |(units : ℚ) - exact| →
    Even (keptBits units)

variable {exact : ℚ} {units k n s : ℕ}

/-! ### Sparse counts -/

/-- Up to 53 bits followed by zeros make a sparse count. -/
theorem sparse_mul_two_pow (h : n ≤ 2 ^ 53) (k : ℕ) : Sparse (n * 2 ^ k) := by
  rcases h.lt_or_eq with hlt | rfl
  · exact ⟨n, k, hlt, rfl⟩
  · exact ⟨1, 53 + k, by norm_num, by rw [one_mul, pow_add]⟩

/-- Powers of two are sparse. -/
theorem sparse_two_pow (k : ℕ) : Sparse (2 ^ k) := by
  have h := sparse_mul_two_pow (Nat.one_le_two_pow) k
  rwa [one_mul] at h

/-- A sparse count with more bits than 53 ends with zeros. -/
theorem Sparse.dvd (h : Sparse units) (hle : 2 ^ (52 + k) ≤ units) : 2 ^ k ∣ units := by
  obtain ⟨significand, exponent, hbits, rfl⟩ := h
  by_cases hk : k ≤ exponent
  · exact (pow_dvd_pow 2 hk).mul_left significand
  · have hshort : significand * 2 ^ exponent < 2 ^ (52 + k) :=
      calc significand * 2 ^ exponent < 2 ^ 53 * 2 ^ exponent :=
            Nat.mul_lt_mul_of_pos_right hbits (Nat.two_pow_pos exponent)
        _ = 2 ^ (53 + exponent) := (pow_add 2 53 exponent).symm
        _ ≤ 2 ^ (52 + k) := Nat.pow_le_pow_right (by norm_num) (by omega)
    omega

/-- A sparse count is what it is rounded to. -/
theorem Sparse.nearest (h : Sparse units) : Nearest units units where
  sparse := h
  le other _ := by
    rw [sub_self, abs_zero]
    exact abs_nonneg _
  even other _ hne htie := by
    rw [sub_self, abs_zero, abs_eq_zero, sub_eq_zero] at htie
    exact absurd (Nat.cast_injective htie) hne

/-- Zeros after 53 bits raise the logarithm by their number. -/
theorem log2_mul_two_pow (hlow : 2 ^ 52 ≤ n) (hhigh : n < 2 ^ 53) (k : ℕ) :
    (n * 2 ^ k).log2 = 52 + k := by
  have hpos : 0 < 2 ^ k := Nat.two_pow_pos k
  rw [Nat.log2_eq_iff (Nat.mul_pos (by omega) hpos).ne']
  constructor
  · rw [pow_add]
    exact Nat.mul_le_mul_right _ hlow
  · rw [show 52 + k + 1 = 53 + k by omega, pow_add]
    exact Nat.mul_lt_mul_of_pos_right hhigh hpos

/-- Of 53 bits and zeros, the 53 bits are kept. -/
theorem keptBits_mul_two_pow (hlow : 2 ^ 52 ≤ n) (hhigh : n < 2 ^ 53) (k : ℕ) :
    keptBits (n * 2 ^ k) = n := by
  rw [keptBits, spacing, log2_mul_two_pow hlow hhigh, Nat.add_sub_cancel_left,
    Nat.mul_div_cancel n (Nat.two_pow_pos k)]

/-- A count of at most 53 bits is kept as a whole. -/
theorem keptBits_of_lt (h : n < 2 ^ 53) : keptBits n = n := by
  have hlog : n.log2 ≤ 52 := by
    by_cases hzero : n = 0
    · simp [hzero]
    · exact Nat.le_of_lt_succ ((Nat.log2_lt hzero).mpr h)
  rw [keptBits, spacing, Nat.sub_eq_zero_of_le hlog, pow_zero, Nat.div_one]

/-! ### Neighbours

The multiples of `2 ^ s` that have 53 bits, and if `s` is zero those that have fewer, are all the
sparse counts of their size. -/

/-- The factor of a multiple that is a sparse count are the bits kept of it. -/
theorem keptBits_multiple (hn : n < 2 ^ 53) (hs : s = 0 ∨ 2 ^ 52 ≤ n) :
    keptBits (n * 2 ^ s) = n := by
  rcases hs with rfl | hlow
  · rw [pow_zero, mul_one, keptBits_of_lt hn]
  · exact keptBits_mul_two_pow hlow hn s

/-- No sparse count lies between a multiple and the next. -/
theorem Sparse.le_multiple (h : Sparse units) (hs : s = 0 ∨ 2 ^ 52 ≤ n)
    (hlt : units < (n + 1) * 2 ^ s) : units ≤ n * 2 ^ s := by
  rcases hs with rfl | hlow
  · rw [pow_zero, mul_one] at hlt ⊢
    exact Nat.le_of_lt_succ hlt
  · by_contra hgt
    rw [not_le] at hgt
    have hlarge : 2 ^ (52 + s) ≤ units := by
      rw [pow_add]
      exact (Nat.mul_le_mul_right _ hlow).trans hgt.le
    obtain ⟨k, rfl⟩ := h.dvd hlarge
    rw [mul_comm (2 ^ s) k] at hlt hgt
    have hmost := Nat.lt_of_mul_lt_mul_right hlt
    have hleast := Nat.lt_of_mul_lt_mul_right hgt
    omega

/-- A sparse count with 54 bits or more is a multiple with 53 bits. -/
theorem Sparse.exists_long (h : Sparse units) (hlarge : 2 ^ 53 ≤ units) :
    ∃ n s, units = n * 2 ^ (s + 1) ∧ 2 ^ 52 ≤ n ∧ n < 2 ^ 53 := by
  have hne : units ≠ 0 := by omega
  obtain ⟨s, hs⟩ := Nat.exists_eq_add_of_le ((Nat.le_log2 hne).mpr hlarge)
  have hlow : 2 ^ (52 + (s + 1)) ≤ units := by
    rw [show 52 + (s + 1) = units.log2 by omega]
    exact Nat.log2_self_le hne
  have hhigh : units < 2 ^ (53 + (s + 1)) := by
    rw [show 53 + (s + 1) = units.log2 + 1 by omega]
    exact Nat.lt_log2_self
  obtain ⟨n, rfl⟩ := h.dvd hlow
  rw [mul_comm, pow_add 2 52] at hlow
  rw [mul_comm, pow_add 2 53] at hhigh
  exact ⟨n, s, mul_comm _ _, Nat.le_of_mul_le_mul_right hlow (Nat.two_pow_pos _),
    Nat.lt_of_mul_lt_mul_right hhigh⟩

/-- A sparse count whose last bit is even is a multiple that follows on another. -/
theorem Sparse.exists_multiple (h : Sparse units) (hpos : 0 < units)
    (heven : Even (keptBits units)) :
    ∃ n s, units = (n + 1) * 2 ^ s ∧ n < 2 ^ 53 ∧ Even (n + 1) ∧ (s = 0 ∨ 2 ^ 52 ≤ n) := by
  by_cases hsmall : units < 2 ^ 53
  · rw [keptBits_of_lt hsmall] at heven
    obtain ⟨n, rfl⟩ := Nat.exists_eq_add_one.mpr hpos
    exact ⟨n, 0, by rw [pow_zero, mul_one], by omega, heven, Or.inl rfl⟩
  · obtain ⟨n, s, rfl, hlow, hhigh⟩ := h.exists_long (not_lt.mp hsmall)
    rw [keptBits_mul_two_pow hlow hhigh] at heven
    rcases hlow.eq_or_lt with rfl | hlow
    -- Below a power of two the multiples are half as far apart.
    · exact ⟨2 ^ 53 - 1, s, by ring, by norm_num, by decide, Or.inr (by norm_num)⟩
    · obtain ⟨n, rfl⟩ := Nat.exists_eq_add_one.mpr (Nat.zero_lt_of_lt hlow)
      exact ⟨n, s + 1, rfl, by omega, heven, Or.inr (by omega)⟩

/-- The sparse count below a power of two, whose bits are all ones. -/
def below (k : ℕ) : ℕ :=
  (2 ^ 53 - 1) * 2 ^ (k + 1)

/-- The count below a power of two is sparse. -/
theorem sparse_below (k : ℕ) : Sparse (below k) :=
  sparse_mul_two_pow (by norm_num) (k + 1)

/-- It lies two steps of `2 ^ k` below the power, which is one step of the counts there. -/
theorem cast_below (k : ℕ) : (below k : ℚ) = 2 ^ (54 + k) - 2 * 2 ^ k := by
  rw [below, pow_add, pow_succ]
  push_cast
  ring

/-- Its last bit is odd. -/
theorem not_even_keptBits_below (k : ℕ) : ¬ Even (keptBits (below k)) := by
  rw [below, keptBits_mul_two_pow (by norm_num) (by norm_num)]
  decide

/-- No sparse count lies between a power of two and the one below it. -/
theorem Sparse.le_below (h : Sparse units) (hlt : units < 2 ^ (54 + k)) : units ≤ below k := by
  have hpower : 2 ^ (54 + k) = (2 ^ 53 - 1 + 1) * 2 ^ (k + 1) := by
    rw [Nat.sub_add_cancel (by norm_num), ← pow_add]
    congr 1
    omega
  rw [hpower] at hlt
  exact h.le_multiple (Or.inr (by norm_num)) hlt

namespace Nearest

/-! ### Order -/

/-- A sparse count is rounded to itself. -/
theorem eq_of_sparse (h : Nearest exact units) (hn : Sparse n) (hexact : exact = n) :
    units = n := by
  have hle := h.le n hn
  rw [hexact, sub_self, abs_zero, abs_nonpos_iff, sub_eq_zero] at hle
  exact_mod_cast hle

/-- What is no less than a sparse count is rounded to no less. -/
theorem le_of_le (h : Nearest exact units) (hn : Sparse n) (hle : (n : ℚ) ≤ exact) :
    n ≤ units := by
  by_contra hlt
  have hlt' : (units : ℚ) < n := by exact_mod_cast not_le.mp hlt
  have hnear := h.le n hn
  rw [abs_of_nonpos (by linarith), abs_of_nonpos (by linarith)] at hnear
  linarith

/-! ### Uniqueness -/

/-- No count to round to is greater than another: they would be neighbours, and of two neighbours
one has an odd last bit. -/
theorem le_units (h : Nearest exact units) {units' : ℕ} (h' : Nearest exact units') :
    units' ≤ units := by
  by_contra hlt
  rw [not_le] at hlt
  have hlt' : (units : ℚ) < units' := by exact_mod_cast hlt
  have hdist := le_antisymm (h.le units' h'.sparse) (h'.le units h.sparse)
  have hmid : exact - units = units' - exact := by
    rcases abs_eq_abs.mp hdist with heq | heq
    · linarith
    · linarith
  have heven := h'.even units h.sparse hlt.ne hdist
  have hpos : 0 < units' := Nat.zero_lt_of_lt hlt
  obtain ⟨n, s, rfl, hn, hnext, hs⟩ := h'.sparse.exists_multiple hpos heven
  rcases (h.sparse.le_multiple hs hlt).lt_or_eq with hless | rfl
  -- The multiple in between is nearer.
  · have hless' : (units : ℚ) < (n * 2 ^ s : ℕ) := by exact_mod_cast hless
    have hgap : ((n * 2 ^ s : ℕ) : ℚ) < ((n + 1) * 2 ^ s : ℕ) := by
      exact_mod_cast Nat.mul_lt_mul_of_pos_right n.lt_succ_self (Nat.two_pow_pos s)
    have hnear := h.le _ (sparse_mul_two_pow hn.le s)
    rw [abs_of_neg (by linarith)] at hnear
    rcases abs_cases (((n * 2 ^ s : ℕ) : ℚ) - exact) with ⟨habs, -⟩ | ⟨habs, -⟩
    · linarith
    · linarith
  · have hodd := h.even _ h'.sparse hlt.ne' hdist.symm
    rw [keptBits_multiple hn hs] at hodd
    exact Nat.even_add_one.mp hnext hodd

/-- A count is rounded to one sparse count only. -/
theorem unique (h : Nearest exact units) {units' : ℕ} (h' : Nearest exact units') :
    units = units' :=
  le_antisymm (h'.le_units h) (h.le_units h')

/-! ### Multiples -/

/-- A large count is rounded to a multiple. -/
theorem dvd_of_le (h : Nearest exact units) (hle : (2 : ℚ) ^ (52 + k) ≤ exact) : 2 ^ k ∣ units := by
  apply h.sparse.dvd
  apply h.le_of_le (sparse_two_pow (52 + k))
  exact_mod_cast hle

/-- A multiple is rounded to a multiple. -/
theorem dvd_of_multiple (h : Nearest exact units) (hexact : exact = n * 2 ^ k) : 2 ^ k ∣ units := by
  rcases le_total n (2 ^ 53) with hsmall | hlarge
  · have hunits : units = n * 2 ^ k :=
      h.eq_of_sparse (sparse_mul_two_pow hsmall k) (by rw [hexact]; push_cast; rfl)
    exact ⟨n, by rw [hunits, mul_comm]⟩
  · apply h.dvd_of_le
    have hlarge' : (2 : ℚ) ^ 52 ≤ n := by
      have : (2 : ℕ) ^ 52 ≤ n := le_trans (by norm_num) hlarge
      exact_mod_cast this
    rw [hexact, pow_add]
    exact mul_le_mul_of_nonneg_right hlarge' (by positivity)

/-! ### Powers of two -/

/-- Halfway between a power of two and the sparse count below it is where counts begin to be rounded
to the power, for the last bit of the count below is odd. -/
theorem lt_iff (h : Nearest exact units) :
    units < 2 ^ (54 + k) ↔ exact < (2 : ℚ) ^ (54 + k) - 2 ^ k := by
  have hspace : (0 : ℚ) < 2 ^ k := by positivity
  have hpower : ((2 ^ (54 + k) : ℕ) : ℚ) = 2 ^ (54 + k) := by push_cast; rfl
  have hbelow : (below k : ℚ) = 2 ^ (54 + k) - 2 * 2 ^ k := cast_below k
  constructor
  · intro hlt
    by_contra hge
    rw [not_lt] at hge
    have hexact : exact < 2 ^ (54 + k) := by
      by_contra hbeyond
      rw [not_lt, ← hpower] at hbeyond
      exact absurd (h.le_of_le (sparse_two_pow _) hbeyond) (not_le.mpr hlt)
    have hle : below k ≤ units := h.le_of_le (sparse_below k) (by linarith)
    obtain rfl : units = below k := le_antisymm (h.sparse.le_below hlt) hle
    -- The power is not farther than the count below it, so it is as near, and the tie is broken.
    have hnear := h.le _ (sparse_two_pow (54 + k))
    have hdown : |(below k : ℚ) - exact| = exact - below k := by
      rw [abs_of_nonpos (by linarith), neg_sub]
    have hup : |((2 ^ (54 + k) : ℕ) : ℚ) - exact| = 2 ^ (54 + k) - exact := by
      rw [hpower, abs_of_nonneg (by linarith)]
    have htie : |((2 ^ (54 + k) : ℕ) : ℚ) - exact| = |(below k : ℚ) - exact| := by
      rw [hdown, hup] at hnear ⊢
      linarith
    exact not_even_keptBits_below k (h.even _ (sparse_two_pow _) hlt.ne' htie)
  · intro hlt
    by_contra hge
    rw [not_lt] at hge
    have hunits : (2 : ℚ) ^ (54 + k) ≤ units := by exact_mod_cast hge
    have hnear := h.le _ (sparse_below k)
    rw [abs_of_nonneg (by linarith)] at hnear
    rcases le_total (below k : ℚ) exact with hle | hle
    · rw [abs_of_nonpos (by linarith)] at hnear
      linarith
    · rw [abs_of_nonneg (by linarith)] at hnear
      linarith

end Nearest

end Rigor.Binary64

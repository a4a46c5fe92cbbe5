import Mathlib.Tactic.FieldSimp
import Rigor.Proofs.Number.Nearest

/-!
# Rounding is to the nearest number

That `ofRatio` and `ofDecimal` give the number nearest to the one that is written, ties going to the
even neighbour, and infinity from 2^1024 - 2^970 on.

* `roundHalfEven_spec`: a quotient is rounded to a whole number as it should.
* `Fine`: a grid that is fine enough to miss no sparse count which could be nearer, and coarse
  enough to have sparse counts only (`Fine.nearest`). The grid that `roundUnits` takes is such a one
  (`fine_spacing`).
* `Rounds`: what a number is rounded to, which is one number only (`Rounds.unique`).
* `rounds_ofDecimal`: the main statement; the shortcuts for huge and tiny exponents are sound.
-/

namespace Rigor.Binary64

variable {exact : ℚ} {num den n s : ℕ}

/-! ### Whole numbers -/

/-- A fraction is at most a half just if twice its numerator is at most its denominator. -/
theorem div_le_half_iff (num : ℕ) (hden : 0 < den) : (num : ℚ) / den ≤ 1 / 2 ↔ 2 * num ≤ den := by
  have hden' : (0 : ℚ) < den := by exact_mod_cast hden
  rw [div_le_div_iff₀ hden' two_pos, one_mul, mul_comm]
  exact_mod_cast Iff.rfl

/-- It is a half or more just if the denominator is at most twice the numerator. -/
theorem half_le_div_iff (num : ℕ) (hden : 0 < den) : 1 / 2 ≤ (num : ℚ) / den ↔ den ≤ 2 * num := by
  have hden' : (0 : ℚ) < den := by exact_mod_cast hden
  rw [div_le_div_iff₀ two_pos hden', one_mul, mul_comm]
  exact_mod_cast Iff.rfl

/-- A quotient is its whole part and a part of one. -/
theorem div_eq_add (num : ℕ) (hden : 0 < den) :
    (num : ℚ) / den = (num / den : ℕ) + ((num % den : ℕ) : ℚ) / den := by
  have hden' : (den : ℚ) ≠ 0 := by exact_mod_cast hden.ne'
  have hsplit : (num : ℚ) = den * (num / den : ℕ) + (num % den : ℕ) := by
    exact_mod_cast (Nat.div_add_mod num den).symm
  rw [eq_comm, eq_div_iff hden', add_mul, div_mul_cancel₀ _ hden']
  linarith

/-- The part that a quotient has beyond its whole part is less than one. -/
theorem part_bounds (num : ℕ) (hden : 0 < den) :
    0 ≤ ((num % den : ℕ) : ℚ) / den ∧ ((num % den : ℕ) : ℚ) / den < 1 := by
  have hden' : (0 : ℚ) < den := by exact_mod_cast hden
  refine ⟨by positivity, (div_lt_one hden').mpr ?_⟩
  exact_mod_cast Nat.mod_lt num hden

/-- A quotient is at most half away from what it is rounded to, and if it is as much then that is
even. -/
theorem roundHalfEven_spec (num : ℕ) (hden : 0 < den) :
    |(roundHalfEven num den : ℚ) - num / den| ≤ 1 / 2 ∧
      (|(roundHalfEven num den : ℚ) - num / den| = 1 / 2 → Even (roundHalfEven num den)) := by
  obtain ⟨hpart, hpart'⟩ := part_bounds num hden
  have hlow := div_le_half_iff (num % den) hden
  have hhigh := half_le_div_iff (num % den) hden
  rw [div_eq_add num hden]
  unfold roundHalfEven
  dsimp only
  generalize ((num % den : ℕ) : ℚ) / den = part at *
  split
  · next hdown =>
      have habs : |((num / den : ℕ) : ℚ) - ((num / den : ℕ) + part)| = part := by
        rw [sub_add_cancel_left, abs_neg, abs_of_nonneg hpart]
      rw [habs]
      refine ⟨hlow.mpr (by omega), fun htie => ?_⟩
      have := hhigh.mp htie.ge
      exact Nat.even_iff.mpr (by omega)
  · next hup =>
      have habs : |((num / den + 1 : ℕ) : ℚ) - ((num / den : ℕ) + part)| = 1 - part := by
        rw [Nat.cast_add_one, add_sub_add_left_eq_sub, abs_of_nonneg (by linarith)]
      rw [habs]
      have hhalf := hhigh.mpr (by omega)
      refine ⟨by linarith, fun htie => ?_⟩
      have := hlow.mp (by linarith)
      exact Nat.even_iff.mpr (by omega)

/-- A number at most half away has no other whole number nearer than half. -/
theorem half_le_of_ne {k : ℕ} (h : |(n : ℚ) - exact| ≤ 1 / 2) (hk : k ≠ n) :
    1 / 2 ≤ |(k : ℚ) - exact| := by
  have hone : (1 : ℚ) ≤ |(k : ℚ) - n| := by
    have : (1 : ℤ) ≤ |(k : ℤ) - n| := Int.one_le_abs (by omega)
    exact_mod_cast this
  have htriangle := abs_sub_le (k : ℚ) exact n
  rw [abs_sub_comm exact] at htriangle
  linarith

/-! ### Grids -/

/-- The multiples of `2 ^ s` are those to round to: 53 bits give them as far as the exact count, and
take as many at least if these are not all whole numbers. -/
structure Fine (exact : ℚ) (s : ℕ) : Prop where
  lt : exact < 2 ^ (53 + s)
  ge : s = 0 ∨ (2 : ℚ) ^ (52 + s) ≤ exact

/-- An even point of the grid keeps an even last bit, even if it is the power of two after the
others. -/
theorem even_keptBits (hn : n ≤ 2 ^ 53) (hs : s = 0 ∨ 2 ^ 52 ≤ n) (heven : Even n) :
    Even (keptBits (n * 2 ^ s)) := by
  rcases hn.lt_or_eq with hlt | rfl
  · rwa [keptBits_multiple hlt hs]
  · have hnext : 2 ^ 53 * 2 ^ s = 2 ^ 52 * 2 ^ (s + 1) := by ring
    rw [hnext, keptBits_mul_two_pow (by norm_num) (by norm_num)]
    decide

namespace Fine

/-- A sparse count is on the grid, or farther away than a point of it. -/
theorem grid_or_farther (h : Fine exact s) {other : ℕ} (hother : Sparse other) :
    (∃ k, other = k * 2 ^ s) ∨ ∃ k : ℕ, |(k : ℚ) * 2 ^ s - exact| < |(other : ℚ) - exact| := by
  rcases h.ge with rfl | hge
  · exact Or.inl ⟨other, by rw [pow_zero, mul_one]⟩
  · by_cases hlarge : 2 ^ (52 + s) ≤ other
    · obtain ⟨k, rfl⟩ := hother.dvd hlarge
      exact Or.inl ⟨k, mul_comm _ _⟩
    · have hless : (other : ℚ) < 2 ^ (52 + s) := by exact_mod_cast not_le.mp hlarge
      have hpoint : ((2 ^ 52 : ℕ) : ℚ) * 2 ^ s = 2 ^ (52 + s) := by
        rw [pow_add]
        push_cast
        rfl
      refine Or.inr ⟨2 ^ 52, ?_⟩
      rw [hpoint, abs_of_nonpos (by linarith), abs_of_neg (by linarith)]
      linarith

/-- The nearest point of the grid has 53 bits, or is the power of two after these. -/
theorem le_of_nearest (h : Fine exact s)
    (hle : |(n : ℚ) * 2 ^ s - exact| ≤ |((2 ^ 53 : ℕ) : ℚ) * 2 ^ s - exact|) : n ≤ 2 ^ 53 := by
  by_contra hmore
  have hmore' : ((2 ^ 53 : ℕ) : ℚ) < n := by exact_mod_cast not_le.mp hmore
  have hstep := mul_lt_mul_of_pos_right hmore' (by positivity : (0 : ℚ) < 2 ^ s)
  have hlt : exact < ((2 ^ 53 : ℕ) : ℚ) * 2 ^ s := by
    have := h.lt
    rw [pow_add] at this
    exact_mod_cast this
  rw [abs_of_pos (by linarith), abs_of_pos (by linarith)] at hle
  linarith

/-- The nearest point of the grid has all its 53 bits, unless the grid has all whole numbers. -/
theorem ge_of_nearest (h : Fine exact s)
    (hle : |(n : ℚ) * 2 ^ s - exact| ≤ |((2 ^ 52 : ℕ) : ℚ) * 2 ^ s - exact|) :
    s = 0 ∨ 2 ^ 52 ≤ n := by
  refine h.ge.imp_right fun hge => ?_
  by_contra hless
  have hless' : (n : ℚ) < ((2 ^ 52 : ℕ) : ℚ) := by exact_mod_cast not_le.mp hless
  have hstep := mul_lt_mul_of_pos_right hless' (by positivity : (0 : ℚ) < 2 ^ s)
  have hge' : ((2 ^ 52 : ℕ) : ℚ) * 2 ^ s ≤ exact := by
    rw [pow_add] at hge
    exact_mod_cast hge
  rw [abs_of_neg (by linarith), abs_of_nonpos (by linarith)] at hle
  linarith

/-- The point of the grid that a count is rounded to, if no point is nearer and ties go to the even
one, is also what it is rounded to among all sparse counts. -/
theorem nearest (h : Fine exact s)
    (hle : ∀ k : ℕ, |(n : ℚ) * 2 ^ s - exact| ≤ |(k : ℚ) * 2 ^ s - exact|)
    (heven : ∀ k : ℕ, k ≠ n → |(k : ℚ) * 2 ^ s - exact| = |(n : ℚ) * 2 ^ s - exact| → Even n) :
    Nearest exact (n * 2 ^ s) := by
  have hmost : n ≤ 2 ^ 53 := h.le_of_nearest (hle (2 ^ 53))
  have hleast : s = 0 ∨ 2 ^ 52 ≤ n := h.ge_of_nearest (hle (2 ^ 52))
  have hcast : ∀ k : ℕ, ((k * 2 ^ s : ℕ) : ℚ) = k * 2 ^ s := by
    intro k
    push_cast
    rfl
  refine ⟨sparse_mul_two_pow hmost s, fun other hother => ?_, fun other hother hne htie => ?_⟩
  · rw [hcast]
    rcases h.grid_or_farther hother with ⟨k, rfl⟩ | ⟨k, hfarther⟩
    · rw [hcast]
      exact hle k
    · exact (hle k).trans hfarther.le
  · apply even_keptBits hmost hleast
    rw [hcast n] at htie
    rcases h.grid_or_farther hother with ⟨k, rfl⟩ | ⟨k, hfarther⟩
    · rw [hcast] at htie
      exact heven k (fun hk => hne (by rw [hk])) htie
    · exact absurd (hle k) (not_le.mpr (htie ▸ hfarther))

end Fine

/-- The spacing of the numbers about a quotient makes a grid to round it to. -/
theorem fine_spacing (num : ℕ) (hden : 0 < den) : Fine (num / den) (spacing (num / den)) := by
  obtain ⟨hpart, hpart'⟩ := part_bounds num hden
  have hfloor : ((num / den : ℕ) : ℚ) ≤ num / den ∧ (num : ℚ) / den < (num / den : ℕ) + 1 := by
    rw [div_eq_add num hden]
    constructor <;> linarith
  generalize num / den = whole at hfloor
  constructor
  · have hbits : whole + 1 ≤ 2 ^ (53 + spacing whole) :=
      calc whole + 1 ≤ 2 ^ (whole.log2 + 1) := Nat.lt_log2_self
        _ ≤ 2 ^ (53 + spacing whole) :=
          Nat.pow_le_pow_right (by norm_num) (by unfold spacing; omega)
    have hbits' : (whole : ℚ) + 1 ≤ 2 ^ (53 + spacing whole) := by exact_mod_cast hbits
    linarith
  · by_cases hs : spacing whole = 0
    · exact Or.inl hs
    · have hlog : 52 + spacing whole = whole.log2 := by
        unfold spacing at hs ⊢
        omega
      have hzero : whole ≠ 0 := by
        rintro rfl
        exact hs rfl
      have hlow : 2 ^ (52 + spacing whole) ≤ whole := by
        rw [hlog]
        exact Nat.log2_self_le hzero
      have hlow' : (2 : ℚ) ^ (52 + spacing whole) ≤ whole := by exact_mod_cast hlow
      exact Or.inr (hlow'.trans hfloor.1)

/-- A quotient is rounded on a fine grid by rounding the count of its points. -/
theorem Fine.nearest_roundHalfEven (hden : 0 < den) (h : Fine (num / den) s) :
    Nearest (num / den) (roundHalfEven num (den * 2 ^ s) * 2 ^ s) := by
  have hspace : (0 : ℚ) < 2 ^ s := by positivity
  have hden' : (den : ℚ) ≠ 0 := by exact_mod_cast hden.ne'
  have hscale : ∀ k : ℕ, |(k : ℚ) * 2 ^ s - num / den| =
      |(k : ℚ) - num / (den * 2 ^ s : ℕ)| * 2 ^ s := by
    intro k
    rw [← abs_of_pos hspace, ← abs_mul, abs_of_pos hspace]
    congr 1
    push_cast
    field_simp
  obtain ⟨hhalf, heven⟩ := roundHalfEven_spec num (Nat.mul_pos hden (Nat.two_pow_pos s))
  apply h.nearest
  · intro k
    by_cases hk : k = roundHalfEven num (den * 2 ^ s)
    · rw [hk]
    · rw [hscale, hscale]
      exact mul_le_mul_of_nonneg_right (hhalf.trans (half_le_of_ne hhalf hk)) hspace.le
  · intro k hk hsame
    rw [hscale, hscale] at hsame
    have hsame' := mul_right_cancel₀ hspace.ne' hsame
    exact heven (le_antisymm hhalf (hsame' ▸ half_le_of_ne hhalf hk))

/-- Counting a quotient in units rounds it to the nearest sparse count. -/
theorem nearest_roundUnits (num : ℕ) (hden : 0 < den) :
    Nearest ((num : ℚ) / den * one) (roundUnits num den) := by
  have hunits : (num : ℚ) / den * one = (num * one : ℕ) / den := by
    push_cast
    ring
  rw [hunits]
  exact (fine_spacing (num * one) hden).nearest_roundHalfEven hden

/-! ### Numbers -/

/-- What a number of a sign and a magnitude is rounded to: to infinity if it is halfway between the
greatest finite number and 2^1024, or beyond. -/
inductive Rounds (negative : Bool) (magnitude : ℚ) : Binary64 → Prop
  | finite {units : ℕ} : magnitude < 2 ^ 1024 - 2 ^ 970 → Nearest (magnitude * one) units →
      Rounds negative magnitude (.finite negative units)
  | infinite : 2 ^ 1024 - 2 ^ 970 ≤ magnitude → Rounds negative magnitude (.infinite negative)

/-- A number is rounded to one number only. -/
theorem Rounds.unique {negative : Bool} {magnitude : ℚ} {x y : Binary64}
    (hx : Rounds negative magnitude x) (hy : Rounds negative magnitude y) : x = y := by
  cases hx with
  | finite hless hnearest =>
      cases hy with
      | finite _ hnearest' => rw [hnearest.unique hnearest']
      | infinite hbound => exact absurd hless (not_lt.mpr hbound)
  | infinite hbound =>
      cases hy with
      | finite hless _ => exact absurd hless (not_lt.mpr hbound)
      | infinite => rfl

-- The powers are not to be evaluated.

/-- One is 2^1074 units. -/
theorem one_eq : one = 2 ^ 1074 := by
  unfold one
  generalize 1074 = n
  exact Nat.pow_eq

/-- The format ends at 2^2098 units. -/
theorem limit_eq : limit = 2 ^ 2098 := by
  unfold limit
  generalize 2098 = n
  exact Nat.pow_eq

/-- The format does not end at zero. -/
theorem limit_pos : 0 < limit := by
  unfold limit
  generalize 2098 = n
  exact Nat.two_pow_pos n

/-- One is 2^1074 units, as a fraction. -/
theorem cast_one : (one : ℚ) = 2 ^ 1074 := by
  rw [one_eq, Nat.cast_pow]
  rfl

/-- One is a positive number of units, as a fraction. -/
theorem cast_one_pos : (0 : ℚ) < one := by
  rw [cast_one]
  positivity

/-- In units, the bound is half a space below the limit. -/
theorem lt_limit_iff {magnitude : ℚ} {units : ℕ} (h : Nearest (magnitude * one) units) :
    units < limit ↔ magnitude < 2 ^ 1024 - 2 ^ 970 := by
  have hbound : (2 : ℚ) ^ (54 + 2044) - 2 ^ 2044 = (2 ^ 1024 - 2 ^ 970) * one := by
    rw [cast_one, sub_mul, ← pow_add, ← pow_add]
  rw [limit_eq, show 2098 = 54 + 2044 from rfl, h.lt_iff, hbound, mul_lt_mul_iff_left₀ cast_one_pos]

/-- A quotient is rounded as the format says, to infinity from the bound on. -/
theorem rounds_ofRatio (negative : Bool) (num : ℕ) (hden : 0 < den) :
    Rounds negative (num / den) (ofRatio negative num den) := by
  have hnearest := nearest_roundUnits num hden
  have hlimit := lt_limit_iff hnearest
  unfold ofRatio
  dsimp only
  split
  · next hlt => exact .finite (hlimit.mp hlt) hnearest
  · next hge => exact .infinite (not_lt.mp (mt hlimit.mpr hge))

/-! ### Decimals -/

/-- Less than half a unit is rounded to zero. -/
theorem nearest_zero (hpos : 0 ≤ exact) (hhalf : exact < 1 / 2) : Nearest exact 0 where
  sparse := ⟨0, 0, by norm_num, by rw [zero_mul]⟩
  le other _ := by
    rcases Nat.eq_zero_or_pos other with rfl | hother
    · exact le_rfl
    · have hone : (1 : ℚ) ≤ other := by exact_mod_cast hother
      rw [Nat.cast_zero, zero_sub, abs_neg, abs_of_nonneg hpos, abs_of_nonneg (by linarith)]
      linarith
  even _ _ _ _ := by
    rw [keptBits, Nat.zero_div]
    exact Even.zero

/-- The format ends before the numbers with 310 digits. -/
theorem two_pow_le_ten_pow : (2 : ℚ) ^ 1024 ≤ 10 ^ 309 := by
  have h : 2 ^ 1024 ≤ 10 ^ 309 := by decide +kernel
  have hcast := (Nat.cast_le (α := ℚ)).mpr h
  rwa [Nat.cast_pow, Nat.cast_pow] at hcast

/-- Twice the inverse of the least number is less than 10^324. -/
theorem two_pow_lt_ten_pow : (2 : ℚ) ^ 1075 < 10 ^ 324 := by
  have h : 2 ^ 1075 < 10 ^ 324 := by decide +kernel
  have hcast := (Nat.cast_lt (α := ℚ)).mpr h
  rwa [Nat.cast_pow, Nat.cast_pow] at hcast

/-- The bound from which numbers are rounded to infinity is positive. -/
theorem bound_pos : (0 : ℚ) < 2 ^ 1024 - 2 ^ 970 := by
  rw [sub_pos]
  exact pow_lt_pow_right₀ one_lt_two (by norm_num)

/-- From 10^309 on everything is beyond the finite numbers. -/
theorem bound_le_of_le {significand : ℕ} {exponent : ℤ} (hsignificand : significand ≠ 0)
    (h : 309 ≤ exponent) : (2 : ℚ) ^ 1024 - 2 ^ 970 ≤ significand * 10 ^ exponent := by
  have hone : (1 : ℚ) ≤ significand := by exact_mod_cast Nat.one_le_iff_ne_zero.mpr hsignificand
  calc (2 : ℚ) ^ 1024 - 2 ^ 970 ≤ 2 ^ 1024 := sub_le_self _ (by positivity)
    _ ≤ 10 ^ 309 := two_pow_le_ten_pow
    _ = 10 ^ (309 : ℤ) := (zpow_natCast 10 309).symm
    _ ≤ 10 ^ exponent := zpow_le_zpow_right₀ (by norm_num) h
    _ ≤ significand * 10 ^ exponent :=
      le_mul_of_one_le_left (zpow_nonneg (by norm_num) exponent) hone

/-- Up to 10^(-324) everything is less than half a unit. -/
theorem lt_half_of_le {significand width : ℕ} {exponent : ℤ} (hwidth : significand < 10 ^ width)
    (h : exponent + width ≤ -324) : (significand : ℚ) * 10 ^ exponent * one < 1 / 2 := by
  have hten : (0 : ℚ) < 10 ^ exponent := zpow_pos (by norm_num) exponent
  have hsignificand : (significand : ℚ) < 10 ^ width := by exact_mod_cast hwidth
  have hone : (0 : ℚ) < 2 ^ 1074 := by positivity
  have htiny : (significand : ℚ) * 10 ^ exponent < 10 ^ (-324 : ℤ) :=
    calc (significand : ℚ) * 10 ^ exponent < 10 ^ width * 10 ^ exponent :=
          mul_lt_mul_of_pos_right hsignificand hten
      _ = 10 ^ (exponent + width) := by
          rw [zpow_add₀ (by norm_num), zpow_natCast, mul_comm]
      _ ≤ 10 ^ (-324 : ℤ) := zpow_le_zpow_right₀ (by norm_num) h
  have hhalf : (10 : ℚ) ^ (-324 : ℤ) * 2 ^ 1074 < 1 / 2 := by
    have hpos : (0 : ℚ) < 10 ^ 324 := by positivity
    rw [zpow_neg, show (324 : ℤ) = ((324 : ℕ) : ℤ) from rfl, zpow_natCast, inv_mul_lt_iff₀ hpos,
      mul_one_div, lt_div_iff₀ two_pos, ← pow_succ]
    exact two_pow_lt_ten_pow
  rw [cast_one]
  exact (mul_lt_mul_of_pos_right htiny hone).trans hhalf

/-- **A decimal is rounded to the nearest number**, be its exponent huge, tiny or neither. -/
theorem rounds_ofDecimal (negative : Bool) {significand width : ℕ} (exponent : ℤ)
    (hwidth : significand < 10 ^ width) :
    Rounds negative (significand * 10 ^ exponent)
      (ofDecimal negative significand width exponent) := by
  unfold ofDecimal
  split_ifs with hzero hhuge htiny hwhole
  · rw [hzero, Nat.cast_zero, zero_mul]
    refine .finite bound_pos ?_
    rw [zero_mul]
    exact nearest_zero le_rfl (by norm_num)
  · exact .infinite (bound_le_of_le hzero hhuge)
  · have hpos : (0 : ℚ) ≤ significand * 10 ^ exponent :=
      mul_nonneg (Nat.cast_nonneg _) (zpow_nonneg (by norm_num) exponent)
    have hnearest : Nearest (significand * 10 ^ exponent * one) 0 :=
      nearest_zero (mul_nonneg hpos (Nat.cast_nonneg _)) (lt_half_of_le hwidth htiny)
    exact .finite ((lt_limit_iff hnearest).mp limit_pos) hnearest
  · obtain ⟨n, rfl⟩ := Int.eq_ofNat_of_zero_le hwhole
    have h := rounds_ofRatio negative (significand * Nat.pow 10 n) Nat.one_pos
    rw [Nat.cast_one, div_one, Nat.cast_mul, Nat.pow_eq, Nat.cast_pow] at h
    rw [zpow_natCast]
    exact h
  · obtain ⟨n, hn⟩ := Int.eq_ofNat_of_zero_le (by omega : 0 ≤ -exponent)
    obtain rfl : exponent = -(n : ℤ) := by omega
    have h := rounds_ofRatio negative significand (Nat.pow_pos (by norm_num) : 0 < 10 ^ n)
    rw [Nat.cast_pow, div_eq_mul_inv] at h
    rw [zpow_neg, zpow_natCast, neg_neg]
    exact h

end Rigor.Binary64

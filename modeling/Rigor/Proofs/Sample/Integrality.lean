import Rigor.Proofs.Json.NumberText
import Rigor.Proofs.Number.Rounding
import Rigor.Schema.Infer

/-!
# Which numbers are inferred to be integers

Whole digits alone are an integer, and are inferred to be one. Every other number is rounded first,
and what is inferred is whether the result is integral.

* `Rounds.isIntegral_of_nat`, `Rounds.isIntegral_of_le`: rounding keeps integers integral, and makes
  everything integral from 2^52 on, where the finite numbers are all integers.
* `Rounds.not_isIntegral`: beyond the finite numbers nothing is integral.
* `Rounds.isIntegral_iff`: for the numbers that need no rounding, integral means integral.
* `infer_number`: the main statement, for every number that can be written.
-/

namespace Rigor

namespace Binary64

/-- The number is that of a finite number of the format. -/
def Representable (q : ℚ) : Prop :=
  ∃ units, Sparse units ∧ units < limit ∧ |q| * one = units

/-- A finite number is integral just if its units make a multiple of one. -/
theorem isIntegral_finite_iff (negative : Bool) (units : ℕ) :
    (finite negative units).isIntegral = true ↔ one ∣ units := by
  rw [isIntegral, beq_iff_eq, Nat.dvd_iff_mod_eq_zero]

/-- A number is an integer exactly if it is a natural number up to the sign. -/
theorem exists_abs_eq_nat_iff (q : ℚ) : (∃ n : ℕ, |q| = n) ↔ ∃ n : ℤ, q = n := by
  constructor
  · rintro ⟨n, hn⟩
    rcases eq_or_eq_neg_of_abs_eq hn with h | h
    · exact ⟨n, by rw [h, Int.cast_natCast]⟩
    · exact ⟨-n, by rw [h, Int.cast_neg, Int.cast_natCast]⟩
  · rintro ⟨n, rfl⟩
    exact ⟨n.natAbs, by rw [Nat.cast_natAbs, Int.cast_abs]⟩

namespace Rounds

variable {negative : Bool} {magnitude : ℚ} {x : Binary64}

/-- What is rounded from a whole number is integral. -/
theorem isIntegral_of_nat (h : Rounds negative magnitude x) {n : ℕ} (hn : magnitude = n)
    (hbound : magnitude < 2 ^ 1024 - 2 ^ 970) : x.isIntegral = true := by
  cases h with
  | infinite hbeyond => exact absurd hbound (not_lt.mpr hbeyond)
  | finite _ hnearest =>
      rw [isIntegral_finite_iff, one_eq]
      apply hnearest.dvd_of_multiple (n := n)
      rw [hn, cast_one]

/-- From 2^52 on every finite number is integral. -/
theorem isIntegral_of_le (h : Rounds negative magnitude x) (hlarge : 2 ^ 52 ≤ magnitude)
    (hbound : magnitude < 2 ^ 1024 - 2 ^ 970) : x.isIntegral = true := by
  cases h with
  | infinite hbeyond => exact absurd hbound (not_lt.mpr hbeyond)
  | finite _ hnearest =>
      rw [isIntegral_finite_iff, one_eq]
      apply hnearest.dvd_of_le
      rw [cast_one, pow_add]
      exact mul_le_mul_of_nonneg_right hlarge (by positivity)

/-- What is rounded to infinity is not integral. -/
theorem not_isIntegral (h : Rounds negative magnitude x)
    (hbound : 2 ^ 1024 - 2 ^ 970 ≤ magnitude) : x.isIntegral = false := by
  cases h with
  | infinite => rfl
  | finite hless _ => exact absurd hless (not_lt.mpr hbound)

/-- A number that is not rounded is integral just if it is a whole number. -/
theorem isIntegral_iff (h : Rounds negative magnitude x) {units : ℕ} (hsparse : Sparse units)
    (hlimit : units < limit) (hunits : magnitude * one = units) :
    x.isIntegral = true ↔ ∃ n : ℕ, magnitude = n := by
  have hself : Nearest (magnitude * one) units := by
    rw [hunits]
    exact hsparse.nearest
  have hbound : magnitude < 2 ^ 1024 - 2 ^ 970 := (lt_limit_iff hself).mp hlimit
  constructor
  · intro hintegral
    cases h with
    | infinite hbeyond => exact absurd hbound (not_lt.mpr hbeyond)
    | finite _ hnearest =>
        obtain rfl := hnearest.eq_of_sparse hsparse hunits
        have hdvd := (isIntegral_finite_iff _ _).mp hintegral
        rw [← Nat.div_mul_cancel hdvd, Nat.cast_mul, mul_left_inj' cast_one_pos.ne'] at hunits
        exact ⟨_, hunits⟩
  · rintro ⟨n, hn⟩
    exact h.isIntegral_of_nat hn hbound

end Rounds

end Binary64

namespace Sample

open Json (NumberText)
open Binary64 (Representable Rounds)

/-- A number that is not of whole digits alone is read as the one that it is rounded to. -/
theorem exists_decode_rounded {t : NumberText} (h : ¬ t.IsWhole) :
    ∃ x, t.numeral.decode = .float x ∧ ∀ y, Rounds t.negative |t.number| y ↔ y = x := by
  have hrounds := Binary64.rounds_ofDecimal t.negative t.numeral.scale
    (Json.value_lt t.numeral.digits)
  rw [← t.magnitude_eq, ← t.abs_number] at hrounds
  refine ⟨_, t.decode_of_not_isWhole h, fun y => ⟨fun hy => hy.unique hrounds, ?_⟩⟩
  rintro rfl
  exact hrounds

/-- **Integers are inferred before and after rounding.** The texts that are read as numbers are
those of written numbers. Whole digits alone are the integer that they denote, of any size, and the
schema is that of integers. Any other number `q` is read as the floating-point number that it is
rounded to, and the schema is that of integers * if `q` is an integer whose size is less than 2^1024
- 2^970, * if the size of `q` is less than that and at least 2^52, though `q` be no integer, * never
if the size of `q` is 2^1024 - 2^970 or more, * exactly if `q` is an integer, where `q` is a
floating-point number itself. -/
theorem infer_number :
    (∀ cs token, Json.Numeral.read cs = some (token, []) ↔
      ∃ t : NumberText, t.chars = cs ∧ t.numeral = token) ∧
    ∀ t : NumberText, ∃ value, Json.parse? t.text = some value ∧
      (t.IsWhole → (∃ n : ℤ, value = .int n ∧ (n : ℚ) = t.number) ∧
        infer (ofJson value) = .number true) ∧
      (¬ t.IsWhole → ∃ x, value = .float x ∧ (∀ y, Rounds t.negative |t.number| y ↔ y = x) ∧
        ∃ integers, infer (ofJson value) = .number integers ∧
          ((∃ n : ℤ, t.number = n) → |t.number| < 2 ^ 1024 - 2 ^ 970 → integers = true) ∧
          (2 ^ 52 ≤ |t.number| → |t.number| < 2 ^ 1024 - 2 ^ 970 → integers = true) ∧
          (2 ^ 1024 - 2 ^ 970 ≤ |t.number| → integers = false) ∧
          (Representable t.number → (integers = true ↔ ∃ n : ℤ, t.number = n))) := by
  refine ⟨fun cs token => Json.read_eq_some_iff, fun t => ?_⟩
  refine ⟨t.numeral.decode, t.parse?_text, fun hwhole => ?_, fun hother => ?_⟩
  · obtain ⟨n, hn, hnumber⟩ := t.exists_decode_int hwhole
    exact ⟨⟨n, hn, hnumber⟩, by rw [hn, ofJson, infer]⟩
  · obtain ⟨x, hx, hrounded⟩ := exists_decode_rounded hother
    have hrounds := (hrounded x).mpr rfl
    refine ⟨x, hx, hrounded, x.isIntegral, by rw [hx, ofJson, infer], ?_, ?_, ?_, ?_⟩
    · intro hinteger hbound
      obtain ⟨n, hn⟩ := (Binary64.exists_abs_eq_nat_iff t.number).mpr hinteger
      exact hrounds.isIntegral_of_nat hn hbound
    · intro hlarge hbound
      exact hrounds.isIntegral_of_le hlarge hbound
    · intro hbound
      exact hrounds.not_isIntegral hbound
    · rintro ⟨units, hsparse, hlimit, hunits⟩
      rw [hrounds.isIntegral_iff hsparse hlimit hunits, Binary64.exists_abs_eq_nat_iff]

/-- The five cases, each with a text for which it decides what is inferred. -/
theorem infer_number_cases :
    (∃ value, Json.parse? "-12" = some value ∧ infer (ofJson value) = .number true) ∧
    (∃ value, Json.parse? "1e3" = some value ∧ infer (ofJson value) = .number true) ∧
    (∃ value, Json.parse? "4503599627370496.5" = some value ∧
      infer (ofJson value) = .number true) ∧
    (∃ value, Json.parse? "-1E+309" = some value ∧ infer (ofJson value) = .number false) ∧
    (∃ value, Json.parse? "0.5" = some value ∧ infer (ofJson value) = .number false) := by
  refine ⟨?_, ?_, ?_, ?_, ?_⟩
  · obtain ⟨value, hread, hwhole, -⟩ := infer_number.2 (.mk true [1, 2] none none)
    exact ⟨value, hread, (hwhole ⟨rfl, rfl⟩).2⟩
  · obtain ⟨value, hread, -, hother⟩ :=
      infer_number.2 (.mk false [1] none (some (.mk false .unwritten [3])))
    obtain ⟨x, -, -, integers, hinfer, hinteger, -⟩ := hother nofun
    obtain rfl := hinteger ⟨1000, by decide +kernel⟩ (by decide +kernel)
    exact ⟨value, hread, hinfer⟩
  · obtain ⟨value, hread, -, hother⟩ := infer_number.2
      (.mk false [4, 5, 0, 3, 5, 9, 9, 6, 2, 7, 3, 7, 0, 4, 9, 6] (some [5]) none)
    obtain ⟨x, -, -, integers, hinfer, -, hlarge, -⟩ := hother nofun
    obtain rfl := hlarge (by decide +kernel) (by decide +kernel)
    exact ⟨value, hread, hinfer⟩
  · obtain ⟨value, hread, -, hother⟩ :=
      infer_number.2 (.mk true [1] none (some (.mk true .plus [3, 0, 9])))
    obtain ⟨x, -, -, integers, hinfer, -, -, hbeyond, -⟩ := hother nofun
    obtain rfl := hbeyond (by decide +kernel)
    exact ⟨value, hread, hinfer⟩
  · obtain ⟨value, hread, -, hother⟩ := infer_number.2 (.mk false [0] (some [5]) none)
    obtain ⟨x, -, -, integers, hinfer, -, -, -, hexact⟩ := hother nofun
    have hinteger : ¬ ∃ n : ℤ, (NumberText.mk false [0] (some [5]) none).number = n := by
      rintro ⟨n, hn⟩
      have hden := congrArg Rat.den hn
      rw [Rat.den_intCast] at hden
      revert hden
      decide +kernel
    have hhalf : Representable (NumberText.mk false [0] (some [5]) none).number :=
      ⟨1 * 2 ^ 1073, ⟨1, 1073, by norm_num, rfl⟩, by decide +kernel, by decide +kernel⟩
    obtain rfl := Bool.eq_false_iff.mpr (mt (hexact hhalf).mp hinteger)
    exact ⟨value, hread, hinfer⟩

end Sample

end Rigor
